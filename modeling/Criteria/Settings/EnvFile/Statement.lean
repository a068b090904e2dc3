import Criteria.Text.Blank

/-!
# Assignments in environment files

An assignment is written `NAME=value`, with an optional `export` before it. A value stands bare,
ending at a comment, or between quotes, where it may run over several lines. Line ends are line
feeds here.
-/

namespace Criteria
set_option autoImplicit false

/-- A name, and the text it stands for; a name that is only mentioned stands for none. -/
structure Assignment where
  name : Text
  value : Option Text
deriving DecidableEq, Repr

namespace EnvFile

/-- Whether the character is a blank within a line. -/
def isInlineBlank (c : Char) : Bool := isBlank c && c != '\n'

/-- The text without the blanks that stand before the rest of its line. -/
def skipInline (t : Text) : Text := t.dropWhile isInlineBlank

/-- The first line. -/
def firstLine (t : Text) : Text := t.takeWhile (· != '\n')

/-- The text behind the first line. -/
def afterLine (t : Text) : Text := (t.dropWhile (· != '\n')).drop 1

/-- The text without the word `export`, if blanks follow it. -/
def skipExport (t : Text) : Text :=
  match dropStart? "export".toList t with
  | some (c :: rest) => if isInlineBlank c then skipInline rest else t
  | some [] | none => t

/-- Whether the character may stand in a bare name. -/
def isNameChar (c : Char) : Bool := !(isBlank c || c == '=' || c == '#')

/-- The name at the start of a text, and the text behind it. A name between single quotes may have
any characters. -/
def name? (t : Text) : Option (Text × Text) :=
  match t with
  | '\x27' :: rest =>
    let name := rest.takeWhile (· != '\x27')
    if name.isEmpty || name.length = rest.length then none
    else some (name, rest.drop (name.length + 1))
  | t =>
    let name := t.takeWhile isNameChar
    if name.isEmpty then none else some (name, t.drop name.length)

/-- The text up to the closing quote, and the text behind it. A backslash takes the next character
with it, so a quote behind one does not close. -/
def close? (quote : Char) : Text → Option (Text × Text)
  | [] => none
  | '\\' :: c :: rest => (close? quote rest).map fun (inner, after) => ('\\' :: c :: inner, after)
  | c :: rest =>
    if c == quote then some ([], rest)
    else (close? quote rest).map fun (inner, after) => (c :: inner, after)

/-- What stands between single quotes for a backslash and one more character. -/
def singleEscapes : List (Char × Char) := [('\\', '\\'), ('\x27', '\x27')]

/-- What stands between double quotes for a backslash and one more character. -/
def doubleEscapes : List (Char × Char) :=
  [('\\', '\\'), ('\x27', '\x27'), ('\x22', '\x22'), ('a', '\x07'), ('b', '\x08'), ('f', '\x0c'),
    ('n', '\n'), ('r', '\r'), ('t', '\t'), ('v', '\x0b')]

/-- The text with each known escape replaced by what it stands for. -/
def decode (escapes : List (Char × Char)) : Text → Text
  | '\\' :: c :: rest =>
    match escapes.lookup c with
    | some d => d :: decode escapes rest
    | none => '\\' :: decode escapes (c :: rest)
  | c :: rest => c :: decode escapes rest
  | [] => []

/-- The text before the first blanks that a hash sign follows. -/
def beforeComment : Text → Text
  | [] => []
  | c :: rest =>
    if isBlank c && (rest.dropWhile isBlank).head? == some '#' then [] else c :: beforeComment rest

/-- The value at the start of a text, and the text behind it. A value is not padded: blanks may stand
before it and, without quotes, behind it. -/
def value? (t : Text) : Option (Text × Text) :=
  match skipInline t with
  | '\x27' :: rest =>
    (close? '\x27' rest).map fun (inner, after) => (decode singleEscapes inner, after)
  | '\x22' :: rest =>
    (close? '\x22' rest).map fun (inner, after) => (decode doubleEscapes inner, after)
  | _ =>
    let bare := beforeComment (firstLine t)
    some (dropTrailingBlanks (skipInline bare), t.dropWhile (· != '\n'))

/-- The value behind an equals sign, and the text behind it. Without the sign there is no value. -/
def assigned? (t : Text) : Option (Option Text × Text) :=
  match t with
  | '=' :: rest => (value? rest).map fun (v, after) => (some v, after)
  | t => some (none, t)

/-- The text behind the line, if nothing is left on it but a comment. -/
def lineEnd? (t : Text) : Option Text :=
  match skipInline t with
  | [] => some []
  | '\n' :: rest => some rest
  | '#' :: rest => some (afterLine rest)
  | _ => none

/-- The assignment at the start of a text, and the text behind it. Where no assignment can be read,
the rest of that line is skipped. -/
def statement (t : Text) : Option Assignment × Text :=
  match name? (skipExport t) with
  | none => (none, afterLine (skipExport t))
  | some (name, rest) =>
    match assigned? (skipInline rest) with
    | none => (none, afterLine rest)
    | some (value, rest) =>
      match lineEnd? rest with
      | none => (none, afterLine rest)
      | some rest => (some ⟨name, value⟩, rest)

/-! ### Every statement takes some of the text -/

theorem length_dropWhile_le (p : Char → Bool) (t : Text) : (t.dropWhile p).length ≤ t.length :=
  (List.dropWhile_suffix p).length_le

theorem length_afterLine_lt {t : Text} (h : t ≠ []) : (afterLine t).length < t.length := by
  have := length_dropWhile_le (· != '\n') t
  have := List.length_pos_iff.2 h
  simp only [afterLine, List.length_drop]
  omega

theorem length_afterLine_le (t : Text) : (afterLine t).length ≤ t.length := by
  have := length_dropWhile_le (· != '\n') t
  simp only [afterLine, List.length_drop]
  omega

theorem length_skipExport_le (t : Text) : (skipExport t).length ≤ t.length := by
  unfold skipExport
  split
  · next c rest h =>
    split
    · have := length_dropWhile_le isInlineBlank rest
      simp only [dropStart?, Option.ite_none_right_eq_some, Option.some.injEq] at h
      have := congrArg List.length h.2
      simp only [List.length_drop, List.length_cons] at this
      simp only [skipInline]
      omega
    · exact Nat.le_refl _
  all_goals exact Nat.le_refl _

theorem length_lt_of_name? {t name rest : Text} (h : name? t = some (name, rest)) :
    rest.length < t.length := by
  unfold name? at h
  split at h
  · grind
  · have := (List.takeWhile_sublist isNameChar (l := t)).length_le
    grind [List.length_pos_iff]

theorem length_le_of_close? {quote : Char} {t inner after : Text}
    (h : close? quote t = some (inner, after)) : after.length ≤ t.length := by
  fun_induction close? quote t generalizing inner with
  | case1 => simp at h
  | case2 c rest ih =>
    obtain ⟨⟨inner', _⟩, hc, he⟩ := Option.map_eq_some_iff.1 h
    grind
  | case3 => grind
  | case4 c rest _ _ ih =>
    obtain ⟨⟨inner', _⟩, hc, he⟩ := Option.map_eq_some_iff.1 h
    grind

theorem length_le_of_value? {t v after : Text} (h : value? t = some (v, after)) :
    after.length ≤ t.length := by
  have hs := length_dropWhile_le isInlineBlank t
  unfold value? at h
  split at h
  · next rest he =>
    obtain ⟨⟨inner, _⟩, hc, he'⟩ := Option.map_eq_some_iff.1 h
    grind [length_le_of_close? hc, skipInline]
  · next rest he =>
    obtain ⟨⟨inner, _⟩, hc, he'⟩ := Option.map_eq_some_iff.1 h
    grind [length_le_of_close? hc, skipInline]
  · have := length_dropWhile_le (· != '\n') t
    grind

theorem length_le_of_assigned? {t after : Text} {v : Option Text}
    (h : assigned? t = some (v, after)) : after.length ≤ t.length := by
  unfold assigned? at h
  split at h
  · next rest =>
    obtain ⟨⟨_, _⟩, hv, he⟩ := Option.map_eq_some_iff.1 h
    have := length_le_of_value? hv
    grind
  · grind

theorem length_le_of_lineEnd? {t after : Text} (h : lineEnd? t = some after) :
    after.length ≤ t.length := by
  have := length_dropWhile_le isInlineBlank t
  unfold lineEnd? at h
  split at h <;> grind [length_afterLine_le, skipInline]

/-- A statement takes at least one character. -/
theorem length_statement_lt {t : Text} (h : t ≠ []) : (statement t).2.length < t.length := by
  have := length_skipExport_le t
  have := List.length_pos_iff.2 h
  unfold statement
  split
  · by_cases he : skipExport t = []
    · simpa [he, afterLine] using this
    · have := length_afterLine_lt he
      simp only
      omega
  · next name rest hn =>
    have := length_lt_of_name? hn
    have := length_dropWhile_le isInlineBlank rest
    split
    · have := length_afterLine_le rest
      simp only
      omega
    · next value rest' ha =>
      have := length_le_of_assigned? ha
      simp only [skipInline] at *
      split
      · have := length_afterLine_le rest'
        simp only
        omega
      · next rest'' hl =>
        have := length_le_of_lineEnd? hl
        simp only
        omega

end EnvFile

end Criteria
