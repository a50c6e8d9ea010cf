import RecordSearch.Proofs.Clauses
import RecordSearch.Proofs.Comparison
import RecordSearch.Proofs.NumberOrder

/-! How the six operators fit together. Either an operand and a value have an order, and then each
operator says where in it the value may stand, or they have none, and then only inequality holds,
and only of a value that is missing. Discriminants and yes-or-no values are equal or not, without
one being above the other, so for them "at least" and "at most" both come down to equality. -/
namespace RecordSearch

/-- A value that counts as a number and is not one. -/
def Value.isNaN : Value → Bool
  | number n => n.isNaN
  | _ => false

namespace Scalar

/-- An operand that counts as a number and is not one. -/
def isNaN : Scalar → Bool
  | number n => n.isNaN
  | _ => false

/-- An operand and a value of one kind, both of them numbers if that is the kind. -/
structure Comparable (operand : Scalar) (v : Value) : Prop where
  kind : v.kind? = some operand.kind
  operand_isNaN : operand.isNaN = false
  value_isNaN : v.isNaN = false

section
variable (operand : Scalar) (v : Value)

lemma isOrdered_eq_true_iff :
    operand.isOrdered = true ↔ operand.kind ∈ [Kind.string,Kind.timestamp,Kind.number] := by
  cases operand <;> simp [isOrdered,kind]

lemma isOrdered_eq_false_iff :
    operand.isOrdered = false ↔ operand.kind ∈ [Kind.enum,Kind.bool] := by
  cases operand <;> simp [isOrdered,kind]

lemma comparable_iff : operand.Comparable v ↔
    v.kind? = some operand.kind ∧ operand.isNaN = false ∧ v.isNaN = false := by
  constructor
  · intro h; exact ⟨h.kind,h.operand_isNaN,h.value_isNaN⟩
  · intro h; exact ⟨h.1,h.2.1,h.2.2⟩

lemma order?_isSome_iff : (operand.order? v).isSome = true ↔ operand.Comparable v := by
  rw [comparable_iff]
  cases operand <;> cases v <;>
    simp [order?,Value.kind?,kind,isNaN,Value.isNaN,Option.isSome_iff_ne_none,
      Number.compare_eq_none_iff,and_comm]

end

variable {operand : Scalar} {v : Value}

lemma Comparable.order? (h : operand.Comparable v) : ∃ o, operand.order? v = some o :=
  Option.isSome_iff_exists.1 ((operand.order?_isSome_iff v).2 h)

lemma order?_of_not_comparable (h : ¬ operand.Comparable v) : operand.order? v = none := by
  rw [← order?_isSome_iff,Option.isSome_iff_ne_none,not_not] at h
  exact h

end Scalar

namespace CompareOp

/-- The operator that asks for one place in an order. -/
def ofOrdering : Ordering → CompareOp
  | .lt => lt
  | .eq => eq
  | .gt => gt

variable {operand : Scalar} {v : Value}

lemma order?_of_holds {o : Ordering} (h : (ofOrdering o).holds operand v = true) :
    operand.order? v = some o := by
  rw [holds] at h
  cases ho : operand.order? v with
  | none => cases o <;> simp [ho,ofOrdering] at h
  | some o' =>
    cases o <;> cases o' <;> cases hordered : operand.isOrdered <;>
      simp [ho,hordered,ofOrdering,isOrdering,accepts] at h ⊢

lemma holds_of_order? (ordered : operand.isOrdered = true) {o : Ordering}
    (h : operand.order? v = some o) : (ofOrdering o).holds operand v = true := by
  rw [holds,h]
  cases o <;> simp [ofOrdering,ordered,accepts]

lemma strict_holds_eq_false (unordered : operand.isOrdered = false) :
    lt.holds operand v = false ∧ gt.holds operand v = false := by
  rw [holds,holds]
  cases operand.order? v <;> simp [unordered,isOrdering]

lemma gte_holds_iff : gte.holds operand v = true ↔
    gt.holds operand v = true ∨ eq.holds operand v = true := by
  rw [holds,holds,holds]
  cases operand.order? v with
  | none => simp
  | some o => cases o <;> cases operand.isOrdered <;> simp [isOrdering,accepts]

lemma lte_holds_iff : lte.holds operand v = true ↔
    lt.holds operand v = true ∨ eq.holds operand v = true := by
  rw [holds,holds,holds]
  cases operand.order? v with
  | none => simp
  | some o => cases o <;> cases operand.isOrdered <;> simp [isOrdering,accepts]

lemma holds_of_not_comparable (op : CompareOp) (h : ¬ operand.Comparable v)
    (present : v.isMissing = false) : op.holds operand v = false := by
  rw [holds,Scalar.order?_of_not_comparable h]
  simp [present]

lemma ne_holds_of_comparable (h : operand.Comparable v) :
    ne.holds operand v = !eq.holds operand v := by
  obtain ⟨o,ho⟩ := h.order?
  rw [ne_holds ho,eq_holds]

/-- What the operators say of an operand and a value, taken together. -/
structure Coherent (operand : Scalar) (v : Value) : Prop where
  gte : gte.holds operand v = true ↔ gt.holds operand v = true ∨ eq.holds operand v = true
  lte : lte.holds operand v = true ↔ lt.holds operand v = true ∨ eq.holds operand v = true
  atMostOne : ∀ o o', (ofOrdering o).holds operand v = true →
    (ofOrdering o').holds operand v = true → o = o'
  ne : ne.holds operand v = true → eq.holds operand v = false
  exactlyOne : operand.kind ∈ [Kind.string,Kind.timestamp,Kind.number] →
    v.kind? = some operand.kind → operand.isNaN = false → v.isNaN = false →
      ∃! o, (ofOrdering o).holds operand v = true
  unordered : operand.kind ∈ [Kind.enum,Kind.bool] →
    lt.holds operand v = false ∧ gt.holds operand v = false
  missing : v = .missing → ∀ op : CompareOp, op.holds operand v = true ↔ op = .ne
  otherKind : v.isMissing = false → v.kind? ≠ some operand.kind →
    ∀ op : CompareOp, op.holds operand v = false

lemma atMostOne_holds {o o' : Ordering} (h : (ofOrdering o).holds operand v = true)
    (h' : (ofOrdering o').holds operand v = true) : o = o' := by
  have ho := order?_of_holds h
  have ho' := order?_of_holds h'
  exact Option.some.inj (ho.symm.trans ho')

lemma eq_holds_of_ne_holds (h : ne.holds operand v = true) : eq.holds operand v = false := by
  by_cases hc : operand.Comparable v
  · rw [ne_holds_of_comparable hc,Bool.not_eq_true'] at h
    exact h
  · rw [eq_holds,Scalar.isEqual,Scalar.order?_of_not_comparable hc]
    rfl

lemma coherent (operand : Scalar) (v : Value) : Coherent operand v where
  gte := gte_holds_iff
  lte := lte_holds_iff
  atMostOne _ _ := atMostOne_holds
  ne := eq_holds_of_ne_holds
  exactlyOne := by
    intro hordered hkind hoperand hvalue
    have ordered := operand.isOrdered_eq_true_iff.2 hordered
    have hc : operand.Comparable v := ⟨hkind,hoperand,hvalue⟩
    obtain ⟨o,ho⟩ := hc.order?
    have hholds := holds_of_order? ordered ho
    exact ⟨o,hholds,fun o' h' => atMostOne_holds h' hholds⟩
  unordered h := strict_holds_eq_false (operand.isOrdered_eq_false_iff.2 h)
  missing := by
    rintro rfl op
    rw [holds_missing,beq_iff_eq]
  otherKind := by
    intro present hkind op
    exact holds_of_not_comparable op (fun hc => hkind hc.kind) present

/-- A value is at least and at most an operand exactly if it is equal to it. -/
lemma gte_and_lte_holds (operand : Scalar) (v : Value) :
    (gte.holds operand v && lte.holds operand v) = eq.holds operand v := by
  rw [Bool.eq_iff_iff,Bool.and_eq_true,gte_holds_iff,lte_holds_iff]
  constructor
  · rintro ⟨hgt | heq,hlt | heq'⟩
    · have habsurd : Ordering.gt = .lt := atMostOne_holds hgt hlt
      cases habsurd
    · exact heq'
    · exact heq
    · exact heq
  · intro heq
    exact ⟨.inr heq,.inr heq⟩

end CompareOp

namespace ComparableFilter
variable {t : ScalarType}

lemma slots_eq_map (f : ComparableFilter t) :
    f.slots = f.operands.map fun operand =>
      (operand.1.bind t.scalar?).map (Clause.compare operand.2) := rfl

lemma clauses_equal (m : t.Carrier) (field : String) :
    clauses { equal := some m } field =
      ((t.scalar? m).map (Predicate.compare field .eq)).toList := by
  cases h : t.scalar? m <;> simp [clauses,operands,clause?,List.filterMap_cons,h]

lemma clauses_between (low high : t.Carrier) (field : String) :
    (empty.between low high).clauses field =
      ((t.scalar? low).map (Predicate.compare field .gte)).toList ++
        ((t.scalar? high).map (Predicate.compare field .lte)).toList := by
  cases h : t.scalar? low <;> cases h' : t.scalar? high <;>
    simp [clauses,empty,between,operands,clause?,List.filterMap_cons,h,h']

/-- Whatever the operators are asked, their answers fit together. So the range from an operand to
itself is the operand itself: both filters have a predicate or neither does, and the predicates hold
of the same records. -/
theorem between_self_eq_equal :
    (∀ operand v, CompareOp.Coherent operand v) ∧
    ∀ {t : ScalarType} (m : t.Carrier) (field : String) {ρ : Type} [Record ρ] (r : ρ),
      ((empty.between m m).predicate? field).map (·.holds r) =
        (predicate? { equal := some m } field).map (·.holds r) := by
  refine ⟨CompareOp.coherent,?_⟩
  intro t m field ρ _ r
  rw [predicate?,predicate?,clauses_between,clauses_equal]
  cases t.scalar? m with
  | none => rfl
  | some s =>
    have hholds := CompareOp.gte_and_lte_holds s (Record.value r field)
    simpa [Predicate.all?,Predicate.group?,Predicate.holds] using hholds

/-- An integer that rounds to a double stands in one place to it, and the range from the integer to
itself keeps the double. -/
theorem between_self_eq_equal_rounded :
    let m : Int64 := 9007199254740993
    let x : Binary64 := .ofInt 9007199254740992
    (∃! o, (CompareOp.ofOrdering o).holds (.number (.signed m)) (.number (.real x)) = true) ∧
    let r := Cell.mk (.number (.real x))
    ((empty.between (t := OperandType.int64) m m).predicate? "size").map (·.holds r) = some true := by
  intro m x
  obtain ⟨hcoherent,hself⟩ := between_self_eq_equal
  have hone := (hcoherent (.number (.signed m)) (.number (.real x))).exactlyOne
  have hx : x.isNaN = false := Binary64.isNaN_ofInt 9007199254740992
  refine ⟨hone (by simp [Scalar.kind]) rfl rfl hx,?_⟩
  intro r
  rw [hself]
  decide +kernel

end ComparableFilter
end RecordSearch
