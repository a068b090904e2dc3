import Criteria.Proofs.Document.Endings
import Mathlib.Data.List.TakeWhile
import Mathlib.Tactic.Tauto

/-!
# Pattern literals

A text is a pattern literal exactly if it starts with a slash and has no line feed. The last slash
after that one is the closing slash if only option letters follow it, and what stands between the two
is the source, with all its slashes. If there is no closing slash, everything behind the first slash
is the source. A criterion for equality without a type matches exactly the pattern literals.
-/

namespace Criteria
set_option autoImplicit false

/-! ## Options -/

namespace PatternOptions

/-- The bit and the name of the flag that an option letter stands for, if it stands for one. -/
def flag? : Char → Option (Nat × String)
  | 'i' => some (2, "re.IGNORECASE")
  | 'm' => some (8, "re.MULTILINE")
  | 's' => some (16, "re.DOTALL")
  | 'u' => some (32, "re.UNICODE")
  | 'x' => some (64, "re.VERBOSE")
  | _ => none

theorem flag?_eq_some_iff {c : Char} {flag : Nat × String} :
    flag? c = some flag ↔
      c = 'i' ∧ flag = (2, "re.IGNORECASE") ∨ c = 'm' ∧ flag = (8, "re.MULTILINE") ∨
        c = 's' ∧ flag = (16, "re.DOTALL") ∨ c = 'u' ∧ flag = (32, "re.UNICODE") ∨
          c = 'x' ∧ flag = (64, "re.VERBOSE") := by
  constructor
  · intro h
    unfold flag? at h
    split at h <;> simp_all
  · rintro (⟨rfl, rfl⟩ | ⟨rfl, rfl⟩ | ⟨rfl, rfl⟩ | ⟨rfl, rfl⟩ | ⟨rfl, rfl⟩) <;> rfl

/-- A word of option letters switches on the flags of its letters, in whatever order and however
often they stand in it. -/
theorem mem_flags_ofLetters {word : Text} {flag : Nat × String} :
    flag ∈ (ofLetters word).flags ↔ ∃ c ∈ word, flag? c = some flag := by
  have letter (on : Bool) (f : Nat × String) :
      flag ∈ (if on then [f] else []) ↔ on = true ∧ flag = f := by
    cases on <;> simp
  simp only [flags, List.mem_append, letter, flag?_eq_some_iff, and_or_left, exists_or]
  simp only [ofLetters, List.contains_iff_mem, ← and_assoc, exists_and_right, exists_eq_right]
  tauto

/-- No option letter is a slash. -/
theorem slash_not_mem {word : Text} (options : ∀ c ∈ word, c ∈ letters) : '/' ∉ word := by
  intro slash
  exact absurd (options '/' slash) (by decide)

end PatternOptions

namespace Pattern

/-! ## The closing slash -/

theorem ne_slash {t : Text} (bare : '/' ∉ t) : ∀ c ∈ t.reverse, (c != '/') = true := by
  intro c mem
  rw [bne_iff_ne]
  rintro rfl
  exact bare (List.mem_reverse.1 mem)

theorem splitLastSlash_append {source word : Text} (last : '/' ∉ word) :
    splitLastSlash (source ++ '/' :: word) = some (source, word) := by
  have other := ne_slash last
  simp [splitLastSlash, List.takeWhile_append_of_pos other, List.dropWhile_append_of_pos other]

theorem splitLastSlash_eq_none {t : Text} (bare : '/' ∉ t) : splitLastSlash t = none := by
  simp only [splitLastSlash, List.dropWhile_eq_nil_iff.2 (ne_slash bare)]

/-- A text without a slash, or parted at its last slash. -/
theorem last_slash_cases (t : Text) :
    '/' ∉ t ∨ ∃ source word, t = source ++ '/' :: word ∧ '/' ∉ word := by
  induction t with
  | nil => exact Or.inl (by simp)
  | cons c t ih =>
    rcases ih with bare | ⟨source, word, rfl, last⟩
    · by_cases slash : c = '/'
      · exact Or.inr ⟨[], t, by rw [slash]; rfl, bare⟩
      · exact Or.inl (by simp [bare, Ne.symm slash])
    · exact Or.inr ⟨c :: source, word, rfl, last⟩

theorem ofBody_closed {source word : Text} (options : ∀ c ∈ word, c ∈ PatternOptions.letters) :
    ofBody (source ++ '/' :: word) = ⟨source, .ofLetters word⟩ := by
  have all : word.all PatternOptions.letters.contains = true := by
    simpa [List.all_eq_true] using options
  rw [ofBody, splitLastSlash_append (PatternOptions.slash_not_mem options)]
  simp only [all, if_true]

theorem ofBody_open {body : Text} (unclosed : ∀ source word, body = source ++ '/' :: word →
    '/' ∉ word → ∃ c ∈ word, c ∉ PatternOptions.letters) : ofBody body = ⟨body, {}⟩ := by
  rcases last_slash_cases body with bare | ⟨source, word, rfl, last⟩
  · rw [ofBody, splitLastSlash_eq_none bare]
  · obtain ⟨c, mem, other⟩ := unclosed source word rfl last
    have all : word.all PatternOptions.letters.contains = false := by
      simpa [List.all_eq_false] using ⟨c, mem, other⟩
    rw [ofBody, splitLastSlash_append last]
    simp [all]

theorem ofText?_slash {body : Text} (line : '\n' ∉ body) :
    ofText? ('/' :: body) = some (ofBody body) := by
  rw [ofText?, if_neg (by simpa using line)]

theorem ofText?_eq_none_iff {t : Text} : ofText? t = none ↔ t.head? ≠ some '/' ∨ '\n' ∈ t := by
  unfold ofText?
  split
  · next body => simp
  · next other =>
    refine iff_of_true rfl (Or.inl fun slash => ?_)
    obtain ⟨body, rfl⟩ := List.head?_eq_some_iff.1 slash
    exact other body rfl

end Pattern

namespace Document

/-! ## Filters that match patterns -/

/-- The criterion has a filter, and its test has the word exactly if the value is a pattern literal,
which is then what the word goes with. -/
def Emits (s : Separators) (c : RawCriterion) (key : Text) (word : String) : Prop :=
  ∃ f, compile s c = .ok (some f) ∧ ∀ d, f.document = .object [(key, .single word d)] ↔
    ∃ p, c.value.bind Pattern.ofText? = some p ∧ d = .pattern p

theorem single_inj {name other : String} {d e : Document} :
    single name d = single other e ↔ name = other ∧ d = e := by
  simp [single, String.toList_inj]

theorem emits_of_equality {s : Separators} {c : RawCriterion} {key : Text} (negated : Bool)
    (op : c.op = .known (.compare (if negated then .ne else .eq))) (found : c.key = some key)
    (field : isBlankText key = false) (untyped : c.valueType = none) (scalar : c.array = false) :
    Emits s c key (if negated then "$not" else "$regex") := by
  have type : knownType c.valueType = .ok none := by
    rw [untyped]
    rfl
  have compiled : compile s c = .ok (some (.ofLiteral key negated c.value)) := by
    rw [compile_of_knownType s found field op type, scalar]
    cases negated <;> rfl
  refine ⟨_, compiled, fun d => ?_⟩
  rw [Filter.ofLiteral]
  cases literal : c.value.bind Pattern.ofText? with
  | some p =>
    cases negated <;> simp [Filter.document, FieldTest.document, single_inj, eq_comm]
  | none =>
    -- A comparison has a word of its own.
    cases negated <;> simp [Filter.document, FieldTest.document, single_inj, Comparison.filterWord]

/-- **Pattern literals are read exactly.** A text is no literal exactly if it does not start with a
slash or has a line feed. A literal with a closing slash, which has option letters only behind it,
has as its source all that stands between the first slash and the closing one, and the flags of its
letters. Without a closing slash the source is everything behind the first slash, and there are no
flags. A criterion for equality, or for its negation, that declares neither a type nor an array
matches exactly the literals. -/
theorem ofText?_exact :
    (∀ value : Option Text, value.bind Pattern.ofText? = none ↔
      value = none ∨ ∃ t, value = some t ∧ (t.head? ≠ some '/' ∨ '\n' ∈ t)) ∧
    (∀ source word : Text, '\n' ∉ source → (∀ c ∈ word, c ∈ "gimscxdtu".toList) →
      ∃ options, Pattern.ofText? ('/' :: (source ++ '/' :: word)) = some ⟨source, options⟩ ∧
        ∀ flag, flag ∈ options.flags ↔ ∃ c ∈ word, PatternOptions.flag? c = some flag) ∧
    (∀ body : Text, '\n' ∉ body → (∀ source word, body = source ++ '/' :: word → '/' ∉ word →
        ∃ c ∈ word, c ∉ "gimscxdtu".toList) →
      Pattern.ofText? ('/' :: body) = some ⟨body, {}⟩) ∧
    ∀ (s : Separators) (c : RawCriterion) (key : Text), c.key = some key →
      isBlankText key = false → c.valueType = none → c.array = false →
        (c.op = .known (.compare .eq) → Emits s c key "$regex") ∧
        (c.op = .known (.compare .ne) → Emits s c key "$not") := by
  refine ⟨?_, ?_, ?_, ?_⟩
  · intro value
    cases value with
    | none => simp
    | some t => simp [Pattern.ofText?_eq_none_iff]
  · intro source word line options
    refine ⟨.ofLetters word, ?_, fun flag => PatternOptions.mem_flags_ofLetters⟩
    have body : '\n' ∉ source ++ '/' :: word := by
      have feed : '\n' ∉ word := fun mem => absurd (options '\n' mem) (by decide)
      simp [line, feed]
    rw [Pattern.ofText?_slash body, Pattern.ofBody_closed options]
  · intro body line unclosed
    rw [Pattern.ofText?_slash line, Pattern.ofBody_open unclosed]
  · intro s c key found field untyped scalar
    exact ⟨fun op => emits_of_equality false op found field untyped scalar,
      fun op => emits_of_equality true op found field untyped scalar⟩

/-- A source with a slash in it, behind which a letter stands twice and one without a flag. -/
theorem ofText?_exact_path :
    let c : RawCriterion :=
      ⟨some "k".toList, .known (.compare .ne), some "/a/b/igi".toList, false, false, none⟩
    (∃ options, Pattern.ofText? "/a/b/igi".toList = some ⟨"a/b".toList, options⟩ ∧
      (2, "re.IGNORECASE") ∈ options.flags ∧ (8, "re.MULTILINE") ∉ options.flags) ∧
    Pattern.ofText? "/a/B".toList = some ⟨"a/B".toList, {}⟩ ∧ Emits {} c "k".toList "$not" := by
  intro c
  obtain ⟨-, closed, opened, emits⟩ := ofText?_exact
  refine ⟨?_, ?_, (emits {} c "k".toList rfl (by decide) rfl rfl).2 rfl⟩
  · obtain ⟨options, read, flags⟩ := closed "a/b".toList "igi".toList (by decide) (by simp)
    refine ⟨options, read, (flags _).2 ⟨'i', by decide, rfl⟩, ?_⟩
    simp [flags, PatternOptions.flag?]
  · refine opened "a/B".toList (by decide) fun source word parted last => ?_
    have split : some ("a".toList, "B".toList) = some (source, word) := by
      rw [← Pattern.splitLastSlash_append last, ← parted]
      rfl
    cases split
    exact ⟨'B', by decide, by decide⟩

end Document

end Criteria
