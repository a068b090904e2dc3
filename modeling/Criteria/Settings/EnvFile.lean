import Criteria.Settings.EnvFile.Statement

/-!
# Environment files

An environment file has one assignment a line; lines that are no assignments are left out. A value
may refer to variables, which are names that were assigned before, or else names of the environment.
-/

namespace Criteria
set_option autoImplicit false

namespace EnvFile

/-- The text without the byte order mark that may stand at the start of a file. -/
def dropMark : Text → Text
  | '\ufeff' :: rest => rest
  | t => t

/-- The text with a line feed for every line end. -/
def unifyLineEnds : Text → Text
  | '\r' :: '\n' :: rest => '\n' :: unifyLineEnds rest
  | '\r' :: rest => '\n' :: unifyLineEnds rest
  | c :: rest => c :: unifyLineEnds rest
  | [] => []

/-- The assignments of a text, in order. -/
def assignments (t : Text) : List Assignment :=
  match _h : t.dropWhile isBlank with
  | [] => []
  | c :: rest => (statement (c :: rest)).1.toList ++ assignments (statement (c :: rest)).2
termination_by t.length
decreasing_by
  have := length_dropWhile_le isBlank t
  have := length_statement_lt (List.cons_ne_nil c rest)
  rw [_h] at *
  omega

/-- A reference to a variable, and what stands for it if it is not defined. -/
structure Reference where
  name : Text
  default : Text := []
deriving DecidableEq, Repr

/-- Whether the character may stand in the name of a reference. -/
def isReferenceChar (c : Char) : Bool := c != ':' && c != '\x7d'

/-- The reference at the start of a text, whose opening is taken off already, and the text behind
it. -/
def reference? (t : Text) : Option (Reference × Text) :=
  match t.dropWhile isReferenceChar with
  | '\x7d' :: after => some (⟨t.takeWhile isReferenceChar, []⟩, after)
  | ':' :: '-' :: rest =>
    match rest.dropWhile (· != '\x7d') with
    | _ :: after => some (⟨t.takeWhile isReferenceChar, rest.takeWhile (· != '\x7d')⟩, after)
    | [] => none
  | _ => none

theorem length_le_of_reference? {t after : Text} {r : Reference}
    (h : reference? t = some (r, after)) : after.length ≤ t.length := by
  have ht := length_dropWhile_le isReferenceChar t
  unfold reference? at h
  split at h
  · next he =>
    rw [he] at ht
    grind
  · next rest he =>
    have := length_dropWhile_le (· != '\x7d') rest
    rw [he] at ht
    grind
  · simp at h

/-- The text with every reference replaced by the variable's text. -/
def expand (lookup : Text → Option Text) : Text → Text
  | [] => []
  | '$' :: '\x7b' :: rest =>
    match _h : reference? rest with
    | some (r, after) => (lookup r.name).getD r.default ++ expand lookup after
    | none => '$' :: '\x7b' :: expand lookup rest
  | c :: rest => c :: expand lookup rest
termination_by t => t.length
decreasing_by
  all_goals simp only [List.length_cons]
  · have := length_le_of_reference? _h
    omega
  all_goals omega

/-- The list with a value for the name: in the place of its old value, or else at the end. -/
def assign (a : Assignment) : List Assignment → List Assignment
  | [] => [a]
  | b :: rest => if b.name = a.name then a :: rest else b :: assign a rest

/-- The text of a variable: as it was assigned, or else as the environment has it. A name that was
only mentioned has the empty text. -/
def variableText? (environment : List (Text × Text)) (assigned : List Assignment) (name : Text) :
    Option Text :=
  match assigned.find? (·.name = name) with
  | some a => some (a.value.getD [])
  | none => environment.lookup name

/-- The assignments of a file, each name once, with all references replaced. -/
def read (environment : List (Text × Text)) (content : Text) : List Assignment :=
  (assignments (unifyLineEnds (dropMark content))).foldl (fun assigned a =>
    let value := a.value.map (expand (variableText? environment assigned))
    assign ⟨a.name, value⟩ assigned) []

end EnvFile

end Criteria
