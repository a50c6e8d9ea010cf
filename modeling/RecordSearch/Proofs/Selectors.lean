import RecordSearch.Proofs.Attempts
import RecordSearch.Search.Selector

/-! Which fields take which filters, which values and which counts. Selecting a field for a filter
and applying a filter to its own field ask the same question and differ only in their errors. -/
namespace RecordSearch

namespace Schema

/-- A field takes a filter if it is declared, of a kind that the filter accepts, and of the
filter's kind of elements if both name one. -/
structure Takes (s : Schema) (field : String) (f : Filter) : Prop where
  accepted : ∃ kind, s.kind? field = some kind ∧ f.accepts kind = true
  elements : ∀ record wanted,
    s.element? field = some record → f.element? = some wanted → record = wanted

lemma mismatch?_eq_none_iff (s : Schema) (field : String) (kind : Kind) (f : Filter) :
    s.mismatch? field kind f = none ↔ f.accepts kind = true ∧ ∀ record wanted,
      s.element? field = some record → f.element? = some wanted → record = wanted := by
  rw [mismatch?]
  cases f.accepts kind with
  | false => simp
  | true => cases s.element? field <;> cases f.element? <;> simp

lemma takes_iff (s : Schema) (field : String) (f : Filter) :
    s.Takes field f ↔ ∃ kind, s.kind? field = some kind ∧ s.mismatch? field kind f = none := by
  simp only [mismatch?_eq_none_iff]
  constructor
  · rintro ⟨⟨kind,declared,accepts⟩,elements⟩; exact ⟨kind,declared,accepts,elements⟩
  · rintro ⟨kind,declared,accepts,elements⟩; exact ⟨⟨kind,declared,accepts⟩,elements⟩

lemma mismatch?_eq_some_iff (s : Schema) (field : String) (kind : Kind) (f : Filter) (a b : Kind) :
    s.mismatch? field kind f = some (a,b) ↔
      (f.accepts kind = false ∧ a = kind ∧ b = f.target) ∨
      (f.accepts kind = true ∧ s.element? field = some a ∧ f.element? = some b ∧ a ≠ b) := by
  rw [mismatch?]
  cases f.accepts kind with
  | false => simp [eq_comm]
  | true =>
    cases s.element? field with
    | none => simp
    | some record =>
      cases f.element? with
      | none => simp
      | some wanted =>
        by_cases h : record = wanted
        · simp only [h,if_true,Option.some.injEq,true_and]
          constructor
          · rintro ⟨⟩
          · rintro (⟨⟨⟩,-⟩ | ⟨rfl,rfl,hab⟩)
            exact absurd rfl hab
        · simp only [h,if_true,if_false,Option.some.injEq,Prod.mk.injEq,true_and]
          constructor
          · rintro ⟨rfl,rfl⟩; exact .inr ⟨rfl,rfl,h⟩
          · rintro (⟨⟨⟩,-⟩ | ⟨ha,hb,-⟩)
            exact ⟨ha,hb⟩

lemma checkSelector_eq_ok_iff (s : Schema) (field : String) (f : Filter) :
    s.checkSelector field f = .ok () ↔ s.Takes field f := by
  simp only [checkSelector,takes_iff]
  cases s.kind? field with
  | none => simp
  | some kind =>
    cases hm : s.mismatch? field kind f with
    | none => simp [hm]
    | some m => cases h : f.accepts kind <;> simp [hm,h]

/-- A filter on its own field asks there what it asks of any field that takes it. -/
lemma filterPredicate_eq_ok_iff (s : Schema) (field : String) (f : Filter) (p : Option Predicate) :
    s.filterPredicate field f = .ok p ↔ s.Takes field f ∧ p = f.predicate? field := by
  simp only [filterPredicate,takes_iff]
  cases s.kind? field with
  | none => simp
  | some kind => cases hm : s.mismatch? field kind f <;> simp [hm,eq_comm]

lemma filterPredicate_eq_error_iff (s : Schema) (field : String) (f : Filter) (e : SearchError) :
    s.filterPredicate field f = .error e ↔
      (s.kind? field = none ∧ e = .unknownField field) ∨
      ∃ kind a b, s.kind? field = some kind ∧ s.mismatch? field kind f = some (a,b) ∧
        e = .typeMismatch field a b := by
  rw [filterPredicate]
  cases s.kind? field with
  | none => simp [eq_comm]
  | some kind => rcases hm : s.mismatch? field kind f with _ | ⟨a,b⟩ <;> simp [hm,eq_comm]

lemma equalityPredicate_eq_error_iff (s : Schema) (field : String) (v : Scalar) (e : SearchError) :
    s.equalityPredicate field v = .error e ↔
      (s.kind? field = none ∧ e = .unknownField field) ∨
      ∃ kind, s.kind? field = some kind ∧ v.kind ≠ kind ∧ e = .typeMismatch field kind v.kind := by
  rw [equalityPredicate]
  cases s.kind? field with
  | none => simp [eq_comm]
  | some kind =>
    by_cases h : v.kind = kind
    · simp [h]
    · simp only [if_neg h]
      constructor
      · rintro ⟨⟩; exact .inr ⟨kind,rfl,h,rfl⟩
      · rintro (⟨⟨⟩,-⟩ | ⟨-,⟨⟩,-,rfl⟩); rfl

lemma equalityPredicate_eq_ok_iff (s : Schema) (field : String) (v : Scalar) (p : Predicate) :
    s.equalityPredicate field v = .ok p ↔
      s.kind? field = some v.kind ∧ p = .compare field .eq v := by
  rw [equalityPredicate]
  cases s.kind? field with
  | none => simp
  | some kind =>
    by_cases h : v.kind = kind
    · simp [h,eq_comm]
    · simp [h,Ne.symm h]

end Schema

namespace Scalar

/-- The number of records that a scalar stands for: an integer stands for itself, in words of
either signedness, unless it is negative. -/
def toNat? : Scalar → Option Nat
  | number (.signed n) => n.toInt.toNat?
  | number (.unsigned n) => some n.toNat
  | _ => none

/-- The scalars that stand for no number of records: negative integers, doubles whatever their
value, and what is not a number at all. -/
inductive Uncountable : Scalar → Prop
  | negative {n : Int64} (below : n.toInt < 0) : Uncountable (number (.signed n))
  | double (x : Binary64) : Uncountable (number (.real x))
  | otherKind {v : Scalar} (other : v.kind ≠ .number) : Uncountable v

lemma toInt_toNat?_eq_none_iff (n : Int64) : n.toInt.toNat? = none ↔ n.toInt < 0 := by
  cases n.toInt <;> simp [Int.toNat?]

lemma toNat?_eq_none_iff (v : Scalar) : v.toNat? = none ↔ v.Uncountable := by
  constructor
  · intro h
    cases v with
    | number n =>
      cases n with
      | signed n => exact .negative ((toInt_toNat?_eq_none_iff n).1 h)
      | unsigned n => cases h
      | real x => exact .double x
    | _ => exact .otherKind nofun
  · intro h
    cases h with
    | negative below => exact (toInt_toNat?_eq_none_iff _).2 below
    | double x => rfl
    | otherKind other =>
      cases v with
      | number n => exact absurd rfl other
      | _ => rfl

end Scalar

/-- The number of records that a search reads from a number is the one it stands for. -/
lemma Number.count?_eq (n : Number) : n.count? = (Scalar.number n).toNat? := by
  cases n with
  | signed n =>
    change (if n < 0 then none else some n.toInt.toNat) = n.toInt.toNat?
    split_ifs with h
    · exact ((Scalar.toInt_toNat?_eq_none_iff n).2 (Int64.lt_iff_toInt_lt.1 h)).symm
    · have nonneg : 0 ≤ n.toInt := Int.not_lt.1 fun below => h (Int64.lt_iff_toInt_lt.2 below)
      exact (Int.mem_toNat?.2 (Int.toNat_of_nonneg nonneg).symm).symm
  | _ => rfl

namespace Setting

/-- The number of records that a scalar field is set to. -/
def toNat? : Setting → Option Nat
  | scalar (some v) => v.toNat?
  | _ => none

lemma activeFilter?_eq_some_iff (s : Setting) (f : Filter) :
    s.activeFilter? = some f ↔ s = .filter f ∧ f.isActive = true := by
  cases s with
  | filter g =>
    simp only [activeFilter?,Setting.filter.injEq]
    split_ifs with h
    · constructor
      · rintro ⟨⟩; exact ⟨rfl,h⟩
      · rintro ⟨rfl,-⟩; rfl
    · constructor
      · rintro ⟨⟩
      · rintro ⟨rfl,hf⟩; exact absurd hf h
  | _ => simp [activeFilter?]

lemma scalar?_eq_some_iff (s : Setting) (v : Scalar) :
    s.scalar? = some v ↔ s = .scalar (some v) := by
  cases s <;> simp [scalar?]

end Setting

lemma pagingCount_eq (field : String) (v : Scalar) :
    pagingCount field v = v.toNat?.elim (.error (.invalidPaging field v)) .ok := by
  cases v with
  | number n => rw [pagingCount,← Number.count?_eq]; cases n.count? <;> rfl
  | _ => rfl

lemma pagingCount_eq_ok_iff (field : String) (v : Scalar) (n : Nat) :
    pagingCount field v = .ok n ↔ v.toNat? = some n := by
  rw [pagingCount_eq]
  cases v.toNat? <;> simp

lemma pagingCount_eq_error_iff (field : String) (v : Scalar) (e : SearchError) :
    pagingCount field v = .error e ↔ v.Uncountable ∧ e = .invalidPaging field v := by
  rw [pagingCount_eq,← Scalar.toNat?_eq_none_iff]
  cases v.toNat? <;> simp [eq_comm]

lemma pagingSetting_eq_ok (field : String) (s : Setting) {n : Option Nat}
    (h : pagingSetting field s = .ok n) : n = s.toNat? := by
  cases s with
  | scalar value =>
    cases value with
    | none => cases h; rfl
    | some v =>
      obtain ⟨k,hk,rfl⟩ := map_eq_ok_iff.1 h
      exact ((pagingCount_eq_ok_iff field v k).1 hk).symm
  | _ => cases h; rfl

lemma pagingSetting_eq_error_iff (field : String) (s : Setting) (e : SearchError) :
    pagingSetting field s = .error e ↔
      ∃ v, s = .scalar (some v) ∧ v.Uncountable ∧ e = .invalidPaging field v := by
  simp only [pagingSetting,← Setting.scalar?_eq_some_iff]
  cases s.scalar? with
  | none => simp
  | some v => simp [pagingCount_eq_error_iff]

end RecordSearch
