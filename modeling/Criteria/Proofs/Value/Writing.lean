import Criteria.Proofs.Time.Timestamp
import Criteria.Proofs.Value.Reading
import Criteria.Value.Writing
import Mathlib.Data.List.Forall2

/-!
# Writing what was read

What a text means has a search text, whatever the separators: moments are read in universal time, so
they cannot leave the years that a moment can have. The search text of a list is joined from those
of its items. The search text of a text has its commas escaped, and a text that means a text is the
search text of what it means.
-/

namespace Criteria
set_option autoImplicit false

theorem Scalar.ReadFrom.exists_write {s : Separators} {t : Text} {a : Scalar}
    (h : a.ReadFrom s t) : ∃ w, a.write = .ok w := by
  cases h with
  | null | bool | number | text => exact ⟨_, rfl⟩
  | @moment d read =>
    refine ⟨Timestamp.write d, ?_⟩
    rw [write, Moment.toUtc?_utc]

/-- The search text of what a text means if it is no list. -/
def canonical (s : Separators) (t : Text) : Text := (readScalar s t).write.toOption.getD []

theorem write_readScalar (s : Separators) (t : Text) :
    (readScalar s t).write = .ok (canonical s t) := by
  obtain ⟨w, written⟩ := (readFrom_readScalar s t).exists_write
  rw [canonical, written]
  rfl

theorem writeAll_of_forall₂ {vs : List Value} {ws : List Text}
    (written : List.Forall₂ (fun v w => v.write = .ok w) vs ws) : Value.writeAll vs = .ok ws := by
  induction written with
  | nil => rfl
  | cons head _ ih =>
    rw [Value.writeAll, head, ih]
    rfl

theorem writeAll_map {α : Type} {f : α → Value} {g : α → Text} {ps : List α}
    (h : ∀ p ∈ ps, (f p).write = .ok (g p)) : Value.writeAll (ps.map f) = .ok (ps.map g) := by
  apply writeAll_of_forall₂
  rw [List.forall₂_map_left_iff, List.forall₂_map_right_iff, List.forall₂_same]
  exact h

theorem write_readValue_of_bare {s : Separators} {t : Text} (bare : Commas.isList t = false) :
    (readValue s (some t)).write = .ok (canonical s t) := by
  rw [readValue_of_bare s bare, Value.write, write_readScalar]

theorem write_readValue_of_isList {s : Separators} {t : Text} (list : Commas.isList t = true) :
    (readValue s (some t)).write = .ok (Commas.join ((Commas.split t).map (canonical s))) := by
  have item (p : Text) (_ : p ∈ Commas.split t) :
      (Value.scalar (readScalar s p)).write = .ok (canonical s p) := by
    rw [Value.write, write_readScalar]
  rw [readValue_of_isList s list, Value.write, writeAll_map item]
  rfl

/-- **What a text means can always be written.** -/
theorem exists_write_readValue (s : Separators) (x : Option Text) :
    ∃ w, (readValue s x).write = .ok w := by
  cases x with
  | none => exact ⟨_, rfl⟩
  | some t =>
    cases list : Commas.isList t with
    | false => exact ⟨_, write_readValue_of_bare list⟩
    | true => exact ⟨_, write_readValue_of_isList list⟩

/-! ## Texts -/

theorem write_ofText (t : Text) : (Value.ofText t).write = .ok (Commas.escape t) := by
  rw [Value.ofText, Value.write, Scalar.write]

/-- Only a text without bare commas means a text, and then the one without its escapes. -/
theorem eq_unescape_of_readValue {s : Separators} {x : Option Text} {u : Text}
    (read : readValue s x = .ofText u) :
    ∃ t, x = some t ∧ Commas.isList t = false ∧ u = Commas.unescape t := by
  cases x with
  | none => cases read
  | some t =>
    cases list : Commas.isList t with
    | true =>
      rw [readValue_of_isList s list] at read
      cases read
    | false =>
      rw [readValue_of_bare s list] at read
      have rule := readFrom_readScalar s t
      rw [Value.scalar.inj read] at rule
      cases rule
      exact ⟨t, rfl, list, rfl⟩

/-- **Texts and the texts without bare commas correspond to each other one to one.** Every text has
a search text; it has no bare comma, and without its escapes it is the text again. Every text
without bare commas is the search text of what it is without its escapes. So what is read as a text
is written as what was read. -/
theorem write_ofText_exact :
    (∀ u, ∃ t, (Value.ofText u).write = .ok t ∧ ¬ Commas.HasBareComma t ∧ Commas.unescape t = u) ∧
    (∀ t, ¬ Commas.HasBareComma t → (Value.ofText (Commas.unescape t)).write = .ok t) ∧
    ∀ (s : Separators) (x : Option Text) (u : Text), readValue s x = .ofText u →
      ∃ t, x = some t ∧ (readValue s x).write = .ok t := by
  refine ⟨?_, ?_, ?_⟩
  · intro u
    refine ⟨Commas.escape u, write_ofText u, ?_, Commas.unescape_escape u⟩
    exact Commas.isList_eq_false_iff.1 (Commas.hasBare_escape false u)
  · intro t bare
    rw [write_ofText, Commas.escape_unescape (Commas.isList_eq_false_iff.2 bare)]
  · intro s x u read
    obtain ⟨t, given, bare, rfl⟩ := eq_unescape_of_readValue read
    refine ⟨t, given, ?_⟩
    rw [read, write_ofText, Commas.escape_unescape bare]

/-- Backslashes before a comma, a comma right behind it, and a backslash at the end. -/
theorem write_ofText_exact_backslashes :
    let u : Text := "a\\\\,,\\".toList
    let t : Text := "a\\\\\\,\\,\\".toList
    ¬ Commas.HasBareComma t ∧ (Value.ofText u).write = .ok t ∧
      readValue {} (some t) = .ofText u ∧ (readValue {} (some t)).write = .ok t := by
  intro u t
  obtain ⟨-, escaped, reread⟩ := write_ofText_exact
  have bare : ¬ Commas.HasBareComma t := Commas.isList_eq_false_iff.1 (by decide)
  have read : readValue {} (some t) = .ofText u := by rfl
  refine ⟨bare, escaped t bare, read, ?_⟩
  obtain ⟨_, given, written⟩ := reread {} (some t) u read
  cases given
  exact written

end Criteria
