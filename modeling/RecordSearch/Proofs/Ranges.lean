import Mathlib.Data.Option.Defs
import Mathlib.Data.String.Basic
import RecordSearch.Proofs.Operators

/-! Bounds and ranges. A higher bound from below admits less, and a value that moves up from an
integer to another one stays above what it was above. Both come down to one statement about places
in an order, and it holds across the representations of numbers although they are compared in
different ways, because conversion to doubles never turns integers round. So a wider range selects
at least what a narrower one does, and what bounds admit has no gaps among the integers. -/
namespace RecordSearch

/-- A place in an order, seen from some point, and one that is not further down. -/
structure Climbs (o o' : Ordering) : Prop where
  lt : o' = .lt → o = .lt
  gt : o = .gt → o' = .gt

section
variable {α : Type} [Ord α] [Std.TransOrd α] [LE α] [Std.LawfulLEOrd α] {a b : α}

/-- The greater of two things is seen further up. -/
lemma climbs_compare (h : a ≤ b) (c : α) : Climbs (compare a c) (compare b c) := by
  have hle : (compare a b).isLE = true := Std.LawfulLECmp.isLE_iff_le.2 h
  constructor
  · intro hlt
    exact Std.TransCmp.lt_of_isLE_of_lt hle hlt
  · intro hgt
    exact Std.TransCmp.gt_of_isGE_of_gt (Std.OrientedCmp.isGE_iff_isLE.2 hle) hgt

/-- The greater a point is, the further down is a thing seen from it. -/
lemma climbs_compare_right (h : a ≤ b) (c : α) : Climbs (compare c b) (compare c a) := by
  have hle : (compare a b).isLE = true := Std.LawfulLECmp.isLE_iff_le.2 h
  constructor
  · intro hlt
    exact Std.TransCmp.lt_of_lt_of_isLE hlt hle
  · intro hgt
    exact Std.TransCmp.gt_of_gt_of_isGE hgt (Std.OrientedCmp.isGE_iff_isLE.2 hle)

end

namespace Binary64
variable {x y : Binary64}

lemma climbs (hx : x.isNaN = false) (hy : y.isNaN = false) (h : x.key ≤ y.key) (z : Binary64) :
    Option.Rel Climbs (x.compare z) (y.compare z) ∧
      Option.Rel Climbs (z.compare y) (z.compare x) := by
  simp only [compare,hx,hy,Bool.false_or,Bool.or_false]
  by_cases hz : z.isNaN = true
  · simp only [hz,if_true]
    exact ⟨.none,.none⟩
  · simp only [hz]
    exact ⟨.some (climbs_compare h z.key),.some (climbs_compare_right h z.key)⟩

end Binary64

namespace Number
variable {a b : Number}

/-- One number is at most another in one of two ways that the representations do not disturb: as
integers, or as doubles. -/
inductive AtMost : Number → Number → Prop
  | integers {a b : Number} {m n : Int} (ha : a.integer? = some m) (hb : b.integer? = some n)
      (h : m ≤ n) : AtMost a b
  | reals {x y : Binary64} (hx : x.isNaN = false) (hy : y.isNaN = false) (h : x.key ≤ y.key) :
      AtMost (real x) (real y)

/-- Seen from any number, the greater of two is further up, and seen from it any number is further
down. Seen from a double, integers are where they round to. -/
lemma AtMost.climbs (h : a.AtMost b) (c : Number) :
    Option.Rel Climbs (a.compare c) (b.compare c) ∧
      Option.Rel Climbs (c.compare b) (c.compare a) := by
  cases h with
  | @integers _ _ m n ha hb h =>
    cases hc : c.integer? with
    | some k =>
      rw [compare_of_integers ha hc,compare_of_integers hb hc,compare_of_integers hc ha,
        compare_of_integers hc hb]
      exact ⟨.some (climbs_compare h k),.some (climbs_compare_right h k)⟩
    | none =>
      rw [compare_of_real (.inr hc),compare_of_real (.inr hc),compare_of_real (.inl hc),
        compare_of_real (.inl hc),toBinary64_of_integer? ha,toBinary64_of_integer? hb]
      exact Binary64.climbs (Binary64.isNaN_ofInt m) (Binary64.isNaN_ofInt n)
        (Binary64.key_ofInt_mono h) c.toBinary64
  | @reals x y hx hy h =>
    rw [compare_of_real (.inl rfl),compare_of_real (.inl rfl),compare_of_real (.inr rfl),
      compare_of_real (.inr rfl)]
    exact Binary64.climbs hx hy h c.toBinary64

end Number

namespace Scalar

/-- One operand is at most another of the same type. -/
inductive AtMost : Scalar → Scalar → Prop
  | string {s s' : String} (h : s ≤ s') : AtMost (.string s) (.string s')
  | number {n n' : Number} (h : n.AtMost n') : AtMost (.number n) (.number n')
  | timestamp {t t' : Timestamp} (h : t.millis ≤ t'.millis) : AtMost (.timestamp t) (.timestamp t')

variable {s s' : Scalar}

lemma AtMost.isOrdered (h : s.AtMost s') : s.isOrdered = true ∧ s'.isOrdered = true := by
  cases h <;> exact ⟨rfl,rfl⟩

/-- A value is seen further up from the lesser operand. -/
lemma AtMost.climbs (h : s.AtMost s') (v : Value) :
    Option.Rel Climbs (s'.order? v) (s.order? v) := by
  cases h with
  | string h =>
    cases v with
    | string s => exact .some (climbs_compare_right h s)
    | _ => exact .none
  | number h =>
    cases v with
    | number n => exact (h.climbs n).2
    | _ => exact .none
  | @timestamp t t' h =>
    cases v with
    | timestamp u =>
      rw [Int64.le_iff_toInt_le] at h
      simp only [order?,Timestamp.compare,compare_int64]
      exact .some (climbs_compare_right h u.millis.toInt)
    | _ => exact .none

end Scalar

namespace OperandType

/-- One operand is at most another in the order of their type: of integers, points in time, texts,
and doubles, where nothing is at most what is not a number and the other way round. Yes-or-no
operands and operands that can be absent are for no ranges. -/
def AtMost : (t : OperandType) → t.Carrier → t.Carrier → Prop
  | int8, a, b => a ≤ b
  | int16, a, b => a ≤ b
  | int32, a, b => a ≤ b
  | int64, a, b => a ≤ b
  | word8, a, b => a ≤ b
  | word16, a, b => a ≤ b
  | word32, a, b => a ≤ b
  | word64, a, b => a ≤ b
  | single, x, y => ∃ o, x.compare y = some o ∧ o ≠ .gt
  | double, x, y => ∃ o, x.compare y = some o ∧ o ≠ .gt
  | string, s, s' => s ≤ s'
  | timestamp, t, t' => t.millis ≤ t'.millis
  | bool, _, _ => False
  | optional _, _, _ => False

lemma atMost_real {x y : Binary64} (h : ∃ o, x.compare y = some o ∧ o ≠ .gt) :
    (Number.real x).AtMost (.real y) := by
  obtain ⟨o,ho,hne⟩ := h
  have hnan := (Binary64.compare_eq_none_iff x y).not.1 (by rw [ho]; exact Option.some_ne_none o)
  obtain ⟨hx,hy⟩ : x.isNaN = false ∧ y.isNaN = false := by simpa using hnan
  rw [Binary64.compare,hx,hy] at ho
  cases ho
  exact .reals hx hy (Int.compare_ne_gt.1 hne)

/-- Operands of one type become scalars of one kind, in the same order. -/
lemma AtMost.scalar? {t : OperandType} {a b : t.Carrier} (h : t.AtMost a b) :
    ∃ s s', t.scalar? a = some s ∧ t.scalar? b = some s' ∧ s.AtMost s' := by
  cases t with
  | int8 =>
    refine ⟨_,_,rfl,rfl,.number (.integers rfl rfl ?_)⟩
    rw [Int8.toInt_toInt64,Int8.toInt_toInt64]
    exact Int8.le_iff_toInt_le.1 h
  | int16 =>
    refine ⟨_,_,rfl,rfl,.number (.integers rfl rfl ?_)⟩
    rw [Int16.toInt_toInt64,Int16.toInt_toInt64]
    exact Int16.le_iff_toInt_le.1 h
  | int32 =>
    refine ⟨_,_,rfl,rfl,.number (.integers rfl rfl ?_)⟩
    rw [Int32.toInt_toInt64,Int32.toInt_toInt64]
    exact Int32.le_iff_toInt_le.1 h
  | int64 => exact ⟨_,_,rfl,rfl,.number (.integers rfl rfl (Int64.le_iff_toInt_le.1 h))⟩
  | word8 =>
    refine ⟨_,_,rfl,rfl,.number (.integers rfl rfl ?_)⟩
    rw [UInt8.toNat_toUInt64,UInt8.toNat_toUInt64]
    exact Int.ofNat_le.2 (UInt8.le_iff_toNat_le.1 h)
  | word16 =>
    refine ⟨_,_,rfl,rfl,.number (.integers rfl rfl ?_)⟩
    rw [UInt16.toNat_toUInt64,UInt16.toNat_toUInt64]
    exact Int.ofNat_le.2 (UInt16.le_iff_toNat_le.1 h)
  | word32 =>
    refine ⟨_,_,rfl,rfl,.number (.integers rfl rfl ?_)⟩
    rw [UInt32.toNat_toUInt64,UInt32.toNat_toUInt64]
    exact Int.ofNat_le.2 (UInt32.le_iff_toNat_le.1 h)
  | word64 =>
    exact ⟨_,_,rfl,rfl,.number (.integers rfl rfl (Int.ofNat_le.2 (UInt64.le_iff_toNat_le.1 h)))⟩
  | single => exact ⟨_,_,rfl,rfl,.number (atMost_real h)⟩
  | double => exact ⟨_,_,rfl,rfl,.number (atMost_real h)⟩
  | string => exact ⟨_,_,rfl,rfl,.string h⟩
  | timestamp => exact ⟨_,_,rfl,rfl,.timestamp h⟩
  | bool => exact False.elim h
  | optional t => exact False.elim h

end OperandType

namespace CompareOp
variable {s s' : Scalar} {v v' : Value}

/-- An operand that has an order is asked for nothing but the place of the value in it. -/
lemma holds_eq_any (ordered : s.isOrdered = true) {op : CompareOp} (h : op ≠ .ne) :
    op.holds s v = (s.order? v).any op.accepts := by
  rw [holds]
  cases s.order? v with
  | none => simp [h]
  | some o => simp [ordered]

lemma accepts_of_climbs {op : CompareOp} (lower : op ∈ [gt,gte]) {o o' : Ordering}
    (h : Climbs o o') (ho : op.accepts o = true) : op.accepts o' = true := by
  simp only [List.mem_cons,List.not_mem_nil,or_false] at lower
  obtain rfl | rfl := lower
  · simp only [accepts,beq_iff_eq] at ho ⊢
    exact h.gt ho
  · simp only [accepts,bne_iff_ne] at ho ⊢
    exact fun hlt => ho (h.lt hlt)

lemma accepts_of_climbs_down {op : CompareOp} (upper : op ∈ [lt,lte]) {o o' : Ordering}
    (h : Climbs o o') (ho : op.accepts o' = true) : op.accepts o = true := by
  simp only [List.mem_cons,List.not_mem_nil,or_false] at upper
  obtain rfl | rfl := upper
  · simp only [accepts,beq_iff_eq] at ho ⊢
    exact h.lt ho
  · simp only [accepts,bne_iff_ne] at ho ⊢
    exact fun hgt => ho (h.gt hgt)

/-- What a bound from below admits it admits further up. -/
lemma holds_of_climbs {op : CompareOp} (lower : op ∈ [gt,gte]) (ordered : s.isOrdered = true)
    (ordered' : s'.isOrdered = true) (h : Option.Rel Climbs (s.order? v) (s'.order? v'))
    (hv : op.holds s v = true) : op.holds s' v' = true := by
  have hne : op ≠ .ne := by rintro rfl; simp at lower
  rw [holds_eq_any ordered hne] at hv
  rw [holds_eq_any ordered' hne]
  generalize s.order? v = o at h hv
  generalize s'.order? v' = o' at h ⊢
  cases h with
  | none => exact hv
  | some h => exact accepts_of_climbs lower h hv

/-- What a bound from above admits it admits further down. -/
lemma holds_of_climbs_down {op : CompareOp} (upper : op ∈ [lt,lte]) (ordered : s.isOrdered = true)
    (ordered' : s'.isOrdered = true) (h : Option.Rel Climbs (s.order? v) (s'.order? v'))
    (hv : op.holds s' v' = true) : op.holds s v = true := by
  have hne : op ≠ .ne := by rintro rfl; simp at upper
  rw [holds_eq_any ordered' hne] at hv
  rw [holds_eq_any ordered hne]
  generalize s.order? v = o at h ⊢
  generalize s'.order? v' = o' at h hv
  cases h with
  | none => exact hv
  | some h => exact accepts_of_climbs_down upper h hv

end CompareOp

/-- The integer that a value stands for, in one representation or the other. -/
def Value.integer? : Value → Option Int
  | number n => n.integer?
  | _ => none

section
variable {v w : Value} {m n : Int}

/-- Seen from an operand of any kind, the greater of two integers is further up. -/
lemma Scalar.climbs_of_integers (hv : v.integer? = some m) (hw : w.integer? = some n) (h : m ≤ n)
    (s : Scalar) : Option.Rel Climbs (s.order? v) (s.order? w) := by
  cases v with
  | number a =>
    cases w with
    | number b =>
      cases s with
      | number c => exact (Number.AtMost.climbs (.integers hv hw h) c).1
      | _ => exact .none
    | _ => cases hw
  | _ => cases hv

/-- What an operand says of an integer, missing values apart, it says of its place in the order of
numbers. -/
lemma CompareOp.isOrdered_of_holds {op : CompareOp} {s : Scalar} (hv : v.integer? = some m)
    (h : op.holds s v = true) : s.isOrdered = true := by
  cases v with
  | number a =>
    cases s with
    | string _ | number _ | timestamp _ => rfl
    | enum _ | bool _ => simp [holds,Scalar.order?,Value.isMissing] at h
  | _ => cases hv

end

/-- A clause that asks for a place above an operand or below it, the operand perhaps included. -/
inductive Clause.Bound : Clause → Prop
  | lower {op : CompareOp} {s : Scalar} (h : op ∈ [CompareOp.gt,.gte]) : Bound (.compare op s)
  | upper {op : CompareOp} {s : Scalar} (h : op ∈ [CompareOp.lt,.lte]) : Bound (.compare op s)

/-- A bound that admits two integers admits what lies between them. -/
lemma Clause.Bound.admits_between {c : Clause} (h : c.Bound) {x y z : Value} {k l m : Int}
    (hx : x.integer? = some k) (hy : y.integer? = some l) (hz : z.integer? = some m) (hkl : k ≤ l)
    (hlm : l ≤ m) (hcx : c.admits x = true) (hcz : c.admits z = true) : c.admits y = true := by
  -- A bound from below holds further up than the lesser, one from above below the greater.
  cases h with
  | lower h =>
    have ordered := CompareOp.isOrdered_of_holds hx hcx
    exact CompareOp.holds_of_climbs h ordered ordered (Scalar.climbs_of_integers hx hy hkl _) hcx
  | upper h =>
    have ordered := CompareOp.isOrdered_of_holds hz hcz
    exact CompareOp.holds_of_climbs_down h ordered ordered
      (Scalar.climbs_of_integers hy hz hlm _) hcz

/-- Whether a filter keeps a record for what it has in a field. A filter that asks nothing keeps
everything. -/
def Filter.keeps (f : Filter) (field : String) {ρ : Type} [Record ρ] (r : ρ) : Bool :=
  (f.predicate? field).all (·.holds r)

lemma Filter.MadeOf.keeps_eq {f : Filter} {slots : List (Option Clause)} (h : f.MadeOf slots)
    (field : String) {ρ : Type} [Record ρ] (r : ρ) :
    f.keeps field r = slots.all (Option.all (Clause.admits (Record.value r field))) := by
  rw [keeps,h.predicate?_eq,← Clause.all_reduceOption]
  cases slots.reduceOption with
  | nil => rfl
  | cons c cs =>
    have hne : (c::cs).map (Clause.predicate field) ≠ [] := List.cons_ne_nil _ _
    obtain ⟨p,hp,hholds⟩ := Predicate.exists_all? hne
    rw [hp,Option.all_some,hholds,List.all_map]
    exact congrArg (List.all _) (funext fun c => c.holds_predicate field r)

namespace ComparableFilter
variable {t : ScalarType}

lemma bound_of_slots {f : ComparableFilter t} (equal : f.equal = none)
    (notEqual : f.notEqual = none) {c : Clause} (h : some c ∈ f.slots) : c.Bound := by
  rw [slots_eq_map] at h
  obtain ⟨⟨operand,op⟩,hmem,hc⟩ := List.mem_map.1 h
  obtain ⟨s,hs,rfl⟩ := Option.map_eq_some_iff.1 hc
  simp only [operands,equal,notEqual,List.mem_cons,Prod.mk.injEq,List.not_mem_nil,or_false] at hmem
  obtain ⟨rfl,rfl⟩ | ⟨rfl,rfl⟩ | ⟨-,rfl⟩ | ⟨-,rfl⟩ | ⟨-,rfl⟩ | ⟨-,rfl⟩ := hmem
  · cases hs
  · cases hs
  · exact .lower (.head _)
  · exact .lower (.tail _ (.head _))
  · exact .upper (.head _)
  · exact .upper (.tail _ (.head _))

lemma exists_between {lo hi : t.Carrier} {s s' : Scalar} (hlo : t.scalar? lo = some s)
    (hhi : t.scalar? hi = some s') (field : String) :
    ∃ p, (empty.between lo hi).predicate? field = some p ∧ ∀ {ρ : Type} [Record ρ] (r : ρ),
      p.holds r = true ↔ CompareOp.gte.holds s (Record.value r field) = true ∧
        CompareOp.lte.holds s' (Record.value r field) = true := by
  rw [predicate?,clauses_between,hlo,hhi]
  refine ⟨_,rfl,?_⟩
  intro ρ _ r
  simp [Predicate.holds]

/-- Ranges follow the order. Whatever the values are, a range keeps what one inside it keeps. And
of integers, in whatever representation, a filter without equality and inequality keeps what lies
between two that it keeps, also where its bounds are doubles and integers are rounded to them. -/
theorem ranges_follow_order :
    (∀ {t : OperandType} {lo lo' hi' hi : t.Carrier}, t.AtMost lo lo' → t.AtMost hi' hi →
      ∀ field : String, ∃ inner outer,
        (empty.between lo' hi').predicate? field = some inner ∧
        (empty.between lo hi).predicate? field = some outer ∧
        ∀ {ρ : Type} [Record ρ] (r : ρ), inner.holds r = true → outer.holds r = true) ∧
    ∀ {t : ScalarType} {f : ComparableFilter t}, f.equal = none → f.notEqual = none →
      ∀ (field : String) {ρ : Type} [Record ρ] {x y z : ρ} {k l m : Int},
        (Record.value x field).integer? = some k → (Record.value y field).integer? = some l →
        (Record.value z field).integer? = some m → k ≤ l → l ≤ m →
          f.toFilter.keeps field x = true → f.toFilter.keeps field z = true →
            f.toFilter.keeps field y = true := by
  constructor
  · intro t lo lo' hi' hi hlo hhi field
    obtain ⟨s,s',hs,hs',hlow⟩ := hlo.scalar?
    obtain ⟨u',u,hu',hu,hhigh⟩ := hhi.scalar?
    obtain ⟨inner,hinner,inner_iff⟩ := exists_between hs' hu' field
    obtain ⟨outer,houter,outer_iff⟩ := exists_between hs hu field
    refine ⟨inner,outer,hinner,houter,?_⟩
    intro ρ _ r hr
    obtain ⟨hgte,hlte⟩ := (inner_iff r).1 hr
    apply (outer_iff r).2
    constructor
    · exact CompareOp.holds_of_climbs (.tail _ (.head _)) hlow.isOrdered.2 hlow.isOrdered.1
        (hlow.climbs _) hgte
    · exact CompareOp.holds_of_climbs_down (.tail _ (.head _)) hhigh.isOrdered.2
        hhigh.isOrdered.1 (hhigh.climbs _) hlte
  · intro t f equal notEqual field ρ _ x y z k l m hx hy hz hkl hlm hkx hkz
    rw [(Filter.MadeOf.comparable f).keeps_eq,List.all_eq_true] at hkx hkz ⊢
    intro slot hslot
    cases slot with
    | none => rfl
    | some c =>
      have hbound : c.Bound := bound_of_slots equal notEqual hslot
      exact hbound.admits_between hx hy hz hkl hlm (hkx _ hslot) (hkz _ hslot)

/-- The range from 2⁶³ to itself, as a double, keeps the greatest signed word and 2⁶³ + 1, and so
what lies between them. A range around it keeps the signed word too, but does not keep 0. -/
theorem ranges_follow_order_rounded :
    let bound : Binary64 := .ofInt 9223372036854775808
    let inside : ComparableFilter OperandType.double := empty.between bound bound
    let around : ComparableFilter OperandType.double := empty.between (.ofInt 1) (.ofInt 18446744073709551616)
    let x := Cell.mk (.number (.signed 9223372036854775807))
    let y := Cell.mk (.number (.unsigned 9223372036854775808))
    let z := Cell.mk (.number (.unsigned 9223372036854775809))
    inside.toFilter.keeps "size" x = true ∧ inside.toFilter.keeps "size" z = true ∧
    inside.toFilter.keeps "size" y = true ∧
    ∃ inner outer, inside.predicate? "size" = some inner ∧ around.predicate? "size" = some outer ∧
      inner.holds x = true ∧ outer.holds x = true ∧
      outer.holds (Cell.mk (.number (.signed 0))) = false := by
  intro bound inside around x y z
  have hx : inside.toFilter.keeps "size" x = true := by decide +kernel
  have hz : inside.toFilter.keeps "size" z = true := by decide +kernel
  have hlow : OperandType.double.AtMost (.ofInt 1) bound := ⟨.lt,by decide +kernel,by decide⟩
  have hhigh : OperandType.double.AtMost bound (.ofInt 18446744073709551616) :=
    ⟨.lt,by decide +kernel,by decide⟩
  obtain ⟨hinside,hbetween⟩ := ranges_follow_order
  have hy := hbetween (f := inside) rfl rfl "size" (x := x) (y := y) (z := z) rfl rfl rfl
    (by decide) (by decide) hx hz
  obtain ⟨inner,outer,hinner,houter,holds⟩ := hinside hlow hhigh "size"
  have hkept : inner.holds x = true := by
    rw [Filter.keeps] at hx
    change (inside.predicate? "size").all (·.holds x) = true at hx
    rwa [hinner,Option.all_some] at hx
  have hdropped : outer.holds (Cell.mk (.number (.signed 0))) = false := by
    have : (around.predicate? "size").all (·.holds (Cell.mk (.number (.signed 0)))) = false := by
      decide +kernel
    rwa [houter,Option.all_some] at this
  exact ⟨hx,hz,hy,inner,outer,hinner,houter,hkept,holds x hkept,hdropped⟩

end ComparableFilter
end RecordSearch
