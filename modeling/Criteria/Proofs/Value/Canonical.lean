import Criteria.Proofs.Value.Rereading

/-!
# Canonical texts

What a text means is written as a canonical text. The canonical text need not mean the same value:
a list of a single item is written as the item, an empty list as the empty text, and an early moment
is read as a text. But what it does mean is written as the canonical text again.
-/

namespace Criteria
set_option autoImplicit false

theorem canonical_eq {s : Separators} {t w : Text} (h : (readScalar s t).write = .ok w) :
    canonical s t = w := by
  rw [canonical, h]
  rfl

/-- A text that means itself is canonical. -/
theorem canonical_of_text {s : Separators} {t : Text} (bare : Commas.isList t = false)
    (self : readScalar s t = .text (Commas.unescape t)) : canonical s t = t := by
  apply canonical_eq
  rw [self, Scalar.write, Commas.escape_unescape bare]

section Canonical

variable {s : Separators} (grouping : ∀ c ∈ s.grouping, c.isDigit = false)
include grouping

theorem canonical_write_number {n : Number} (h : n.Readable s) : canonical s n.write = n.write := by
  apply canonical_eq
  rw [readScalar_number grouping h, Scalar.write, Number.write_plain h]

omit grouping in
theorem canonical_write_moment {d : DateTime} (milli : d.time.micro % 1000 = 0) :
    canonical s (Timestamp.write d) = Timestamp.write d := by
  have read := readScalar_moment (s := s) (Timestamp.mem_write_mark d) (Timestamp.mem_write_dash d)
  by_cases early : d.date.year < 1000
  · rw [Timestamp.read?_write_of_early early] at read
    exact canonical_of_text (Timestamp.kept_write [] d).bare read
  · rw [Timestamp.read?_write (Nat.not_lt.1 early) milli] at read
    apply canonical_eq
    rw [read]
    show (Scalar.moment (.utc d)).write = _
    rw [Scalar.write, Moment.toUtc?_utc]

variable (short : s.decimal.length ≤ 1)
include short

/-- What a text without bare commas means is written as a text that is canonical. -/
theorem Scalar.ReadFrom.canonical_of_write {t w : Text} {a : Scalar} (h : a.ReadFrom s t)
    (bare : Commas.isList t = false) (written : a.write = .ok w) : canonical s w = w := by
  cases h with
  | null =>
    cases written
    rfl
  | @bool b read =>
    cases written
    cases b <;> rfl
  | @moment d read =>
    rw [write, Moment.toUtc?_utc] at written
    cases written
    exact canonical_write_moment (Timestamp.micro_of_read? read)
  | number numeric read =>
    cases written
    exact canonical_write_number grouping (readable_of_bare short numeric bare read)
  | text self =>
    rw [write, Commas.escape_unescape bare] at written
    cases written
    exact canonical_of_text bare self

theorem canonical_canonical {t : Text} (bare : Commas.isList t = false) :
    canonical s (canonical s t) = canonical s t :=
  (readFrom_readScalar s t).canonical_of_write grouping short bare (write_readScalar s t)

theorem write_reread_of_bare {t : Text} (bare : Commas.isList t = false) :
    (readValue s (some (canonical s t))).write = .ok (canonical s t) := by
  rw [write_readValue_of_bare (canonical_reread grouping short bare).1.bare,
    canonical_canonical grouping short bare]

theorem write_reread_items (t : Text) :
    (readValue s (some (Commas.join ((Commas.split t).map (canonical s))))).write =
      .ok (Commas.join ((Commas.split t).map (canonical s))) := by
  have separated := Commas.separated_split (t := t)
  generalize Commas.split t = ps at separated
  match ps with
  | [] => exact write_readValue_of_bare rfl
  | [p] =>
    -- A single item is written without a bare comma, so it is read as the item alone.
    rw [List.map_singleton, Commas.join_singleton]
    have bare := (separated (List.cons_ne_nil _ _)).1.isList_of_mem p List.mem_cons_self
    exact write_reread_of_bare grouping short bare
  | p :: q :: ps =>
    have plural : 2 ≤ (p :: q :: ps).length := by simp
    obtain ⟨pieces, last⟩ := separated (List.cons_ne_nil _ _)
    have item (r : Text) (mem : r ∈ p :: q :: ps) :
        (Value.scalar (readScalar s (canonical s r))).write = .ok (canonical s r) := by
      rw [Value.write, write_readScalar,
        canonical_canonical grouping short (pieces.isList_of_mem r mem)]
    rw [readValue_join grouping short plural pieces last, Value.write, writeAll_map item]
    rfl

/-- **Canonical texts are stable**: what a text means is written as a text, and what that text means
is written as the same text again, whether the two mean the same value or not. -/
theorem exists_write_reread (x : Option Text) :
    ∃ w, (readValue s x).write = .ok w ∧ (readValue s (some w)).write = .ok w := by
  cases x with
  | none => exact ⟨"null".toList, rfl, rfl⟩
  | some t =>
    cases list : Commas.isList t with
    | true => exact ⟨_, write_readValue_of_isList list, write_reread_items grouping short t⟩
    | false => exact ⟨_, write_readValue_of_bare list, write_reread_of_bare grouping short list⟩

end Canonical

end Criteria
