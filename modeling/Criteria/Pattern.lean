import Criteria.Text.Quoted

/-!
# Pattern literals

A text `/source/options` or `/source` on one line stands for a regular expression. The last slash
ends the source if nothing but option letters follows it; otherwise it belongs to the source.
-/

namespace Criteria
set_option autoImplicit false

/-- What the options of a pattern switch on. -/
structure PatternOptions where
  ignoreCase : Bool := false
  multiline : Bool := false
  dotAll : Bool := false
  unicode : Bool := false
  verbose : Bool := false
deriving DecidableEq, Repr

/-- A regular expression. -/
structure Pattern where
  source : Text
  options : PatternOptions := {}
deriving DecidableEq, Repr

namespace PatternOptions

/-- The letters that may stand behind the last slash. -/
def letters : Text := "gimscxdtu".toList

/-- The options that a word of option letters switches on; four of the letters have no meaning. -/
def ofLetters (word : Text) : PatternOptions where
  ignoreCase := word.contains 'i'
  multiline := word.contains 'm'
  dotAll := word.contains 's'
  unicode := word.contains 'u'
  verbose := word.contains 'x'

/-- Each option that is on, with its bit and its name, in the order in which they are shown. -/
def flags (o : PatternOptions) : List (Nat × String) :=
  (if o.ignoreCase then [(2, "re.IGNORECASE")] else []) ++
  (if o.unicode then [(32, "re.UNICODE")] else []) ++
  (if o.multiline then [(8, "re.MULTILINE")] else []) ++
  (if o.dotAll then [(16, "re.DOTALL")] else []) ++
  (if o.verbose then [(64, "re.VERBOSE")] else [])

/-- The options as a number, one bit each. -/
def code (o : PatternOptions) : Nat := o.flags.foldl (fun code flag => code + flag.1) 0

/-- The options in a message. -/
def display (o : PatternOptions) : String :=
  if o.flags.isEmpty then "0" else "|".intercalate (o.flags.map (·.2))

end PatternOptions

namespace Pattern

/-- The text before the last slash and the text after it, if there is a slash. -/
def splitLastSlash (t : Text) : Option (Text × Text) :=
  let backwards := t.reverse
  match backwards.dropWhile (· != '/') with
  | _ :: before => some (before.reverse, (backwards.takeWhile (· != '/')).reverse)
  | [] => none

/-- The pattern behind the opening slash. -/
def ofBody (body : Text) : Pattern :=
  match splitLastSlash body with
  | some (source, word) =>
    if word.all PatternOptions.letters.contains then ⟨source, .ofLetters word⟩ else ⟨body, {}⟩
  | none => ⟨body, {}⟩

/-- The pattern that a text writes, if it starts with a slash and has no line feed. -/
def ofText? : Text → Option Pattern
  | '/' :: body => if body.contains '\n' then none else some (ofBody body)
  | _ => none

/-- A pattern in a message. -/
def display (p : Pattern) : String :=
  "Regex(" ++ String.ofList (quoted p.source) ++ ", " ++ p.options.display ++ ")"

end Pattern

end Criteria
