import Criteria.Proofs.Relational.Ordering
import Criteria.Proofs.Time.Order
import Criteria.Proofs.Value.Moments

/-!
# Orders of moments

A relational store compares moments by their search texts. Those are in the order of the moments'
milliseconds, as long as the years have four digits, whatever the zones of the moments. So two
ordering criteria whose values are timestamps bind texts in the order of the two instants.
-/

namespace Criteria
set_option autoImplicit false

theorem readScalar_of_read? {t : Text} {d : DateTime} (s : Separators)
    (read : Timestamp.read? t = some d) : readScalar s t = .moment (.utc d) := by
  obtain ⟨mark, dash⟩ := mem_of_read? read
  rw [readScalar_moment mark dash, read]
  rfl

/-- The canonical text of a timestamp is the timestamp that is written for its time. -/
theorem write_readValue_of_read? {t : Text} {d : DateTime} (s : Separators)
    (read : Timestamp.read? t = some d) :
    (readValue s (some t)).write = .ok (Timestamp.write d) := by
  have bare : Commas.isList t = false := by
    apply Commas.isList_eq_false
    intro comma
    exact absurd (Timestamp.isDecimalDigit_of_read? read ',' comma) (by decide)
  rw [readValue_of_bare s bare, readScalar_of_read? s read, Value.write_moment,
    Moment.toUtc?_utc]
  rfl

theorem instant_of_read? {t : Text} {d : DateTime} (read : Timestamp.read? t = some d) :
    (Moment.utc d).instant = 1000 * ((Moment.utc d).instant / 1000) := by
  have milli := Timestamp.micro_of_read? read
  rw [Moment.instant_utc]
  simp only [DateTime.micros, TimeOfDay.micros, microsPerDay]
  omega

namespace Relational

/-- The first text as the value of an ordering criterion stands for the second one, which is what the
clause binds, unless the path ends in a constant. -/
def BoundAs (t x : Text) : Prop :=
  ∀ (s : Separators) (op : Comparison), op.isOrdering = true →
    Question.operand s op (some t) = .ok (.ofText x) ∧
    ∀ (E : Type) (schema : Schema E) (root : E) (navigation : Navigation E) (c : RawCriterion)
      (clause : Clause E), c.op = .known (.compare op) → c.value = some t →
        compile schema root s navigation c = .ok (some clause) →
          clause.BindsJust schema (.ofText x) ∨ schema.EndsInConstant root navigation c.key

theorem boundAs_of_read? {t : Text} {d : DateTime} (read : Timestamp.read? t = some d) :
    BoundAs t (Timestamp.write d) := by
  intro s op ordering
  have written := write_readValue_of_read? s read
  refine ⟨Question.operand_of_ordering ordering written, ?_⟩
  intro E schema root navigation c clause compares value compiled
  have bound := bindsJust_of_ordering schema root navigation compares ordering
    (value ▸ written) compiled
  exact bound.imp_right And.left

/-- **Search texts of moments are in the order of time.** Two moments with years of four digits in
universal time have search texts, which are in the order of the moments' milliseconds. The parameters
that ordering criteria bind for two timestamps of such years are in the order of their instants. -/
theorem sameOrder_of_moments :
    (∀ (a b : Moment) (u v : DateTime), (Moment.utc u).instant = a.instant →
      (Moment.utc v).instant = b.instant → 1000 ≤ u.date.year → 1000 ≤ v.date.year →
        ∃ x y, (Value.scalar (.moment a)).write = .ok x ∧
          (Value.scalar (.moment b)).write = .ok y ∧
            SameOrder x y (a.instant / 1000) (b.instant / 1000)) ∧
    ∀ (t₁ t₂ : Text) (d₁ d₂ : DateTime), Timestamp.read? t₁ = some d₁ →
      Timestamp.read? t₂ = some d₂ → 1000 ≤ d₁.date.year → 1000 ≤ d₂.date.year →
        ∃ x y, BoundAs t₁ x ∧ BoundAs t₂ y ∧
          SameOrder x y (Moment.utc d₁).instant (Moment.utc d₂).instant := by
  constructor
  · intro a b u v ua vb late late'
    refine ⟨Timestamp.write u, Timestamp.write v, ?_, ?_, ?_⟩
    · rw [Value.write_moment, Moment.toUtc?_eq_some_iff.2 ua]
      rfl
    · rw [Value.write_moment, Moment.toUtc?_eq_some_iff.2 vb]
      rfl
    · rw [← ua, ← vb]
      exact Timestamp.write_sameOrder late late'
  · intro t₁ t₂ d₁ d₂ read₁ read₂ late₁ late₂
    refine ⟨_, _, boundAs_of_read? read₁, boundAs_of_read? read₂, ?_⟩
    have order := Timestamp.write_sameOrder late₁ late₂
    have whole₁ := instant_of_read? read₁
    have whole₂ := instant_of_read? read₂
    exact ⟨order.lt_iff.trans (by omega), order.eq_iff.trans (by omega),
      order.gt_iff.trans (by omega)⟩

/-- Half past midnight of the new year an hour ahead is still the old year in universal time, before
the first microseconds of the new one there, though its clock is ahead. -/
theorem sameOrder_of_moments_new_year :
    let date : Date := ⟨2024, 1, 1, by decide, by decide, by decide⟩
    let eve : Date := ⟨2023, 12, 31, by decide, by decide, by decide⟩
    let a : Moment := ⟨⟨date, .ofMicros 1800000000⟩, Offset.ofMinutes? 60⟩
    let u : DateTime := ⟨eve, .ofMicros 84600000000⟩
    let b : Moment := ⟨⟨date, .ofMicros 500⟩, none⟩
    let t₁ := "2023-12-31T23:30:00.000Z".toList
    let t₂ := "2024-01-01T00:00:00.000Z".toList
    let c : RawCriterion :=
      ⟨some "created_at".toList, .known (.compare .gt), some t₁, false, false, none⟩
    (Moment.utc u).instant = a.instant ∧ (Moment.utc b.wall).instant = b.instant ∧
      (∃ x y, (Value.scalar (.moment a)).write = .ok x ∧
        (Value.scalar (.moment b)).write = .ok y ∧ x < y) ∧
      Timestamp.read? t₁ = some u ∧ Timestamp.read? t₂ = some ⟨date, .ofMicros 0⟩ ∧
      ∃ x y, BoundAs t₁ x ∧ BoundAs t₂ y ∧ x < y ∧
        ∃ clause, compile OrderBook.schema .order {} .nested c = .ok (some clause) ∧
          ∃ name, clause.parameters OrderBook.layout = [(name, .ofText x)] := by
  intro date eve a u b t₁ t₂ c
  have ua : (Moment.utc u).instant = a.instant := by decide +kernel
  have vb : (Moment.utc b.wall).instant = b.instant := by decide +kernel
  have read₁ : Timestamp.read? t₁ = some u := by decide +kernel
  have read₂ : Timestamp.read? t₂ = some ⟨date, .ofMicros 0⟩ := by decide +kernel
  obtain ⟨moments, texts⟩ := sameOrder_of_moments
  obtain ⟨x, y, wa, wb, order⟩ := moments a b u b.wall ua vb (by decide) (by decide)
  obtain ⟨x', y', bound₁, bound₂, order'⟩ :=
    texts t₁ t₂ u ⟨date, .ofMicros 0⟩ read₁ read₂ (by decide) (by decide)
  obtain ⟨clause, compiled⟩ : ∃ clause,
      compile OrderBook.schema .order {} .nested c = .ok (some clause) := ⟨_, rfl⟩
  have bound := (bound₁ {} .gt rfl).2 _ OrderBook.schema .order .nested c clause rfl rfl compiled
  have mapped : ¬ OrderBook.schema.EndsInConstant .order .nested c.key := by
    rintro ⟨k, constant⟩
    have column : OrderBook.schema.resolve? .order .nested (Path.ofKey c.key) =
        some (.column ⟨.order, "created_at"⟩) := rfl
    cases column.symm.trans constant
  exact ⟨ua, vb, ⟨x, y, wa, wb, order.lt_iff.2 (by decide +kernel)⟩, read₁, read₂, x', y', bound₁,
    bound₂, order'.lt_iff.2 (by decide +kernel), clause, compiled,
    (bound.resolve_right mapped).parameters OrderBook.layout⟩

end Relational

end Criteria
