import RecordSearch.Proofs.ExactIntegers
import RecordSearch.Proofs.NumberOrder
import RecordSearch.Value

/-! Equality of numbers. There are two: the one of the order, which looks through representations,
and sameness, which does not. The first is not transitive, since different integers may round to one
double and then both are equal to it; this is also the only way in which "not above" fails to be
transitive. -/
namespace RecordSearch

namespace Number

inductive Form
  | signed | unsigned | real
  deriving DecidableEq

def form : Number → Form
  | signed _ => .signed
  | unsigned _ => .unsigned
  | real _ => .real

/-- Different representations that are equal in order: a signed and an unsigned word for one
integer, or an integer and the double that it rounds to. -/
inductive Coincide : Number → Number → Prop
  | words {v : Int64} {w : UInt64} (h : v.toInt = w.toNat) : Coincide (signed v) (unsigned w)
  | rounded {a : Number} {m : Int} {x : Binary64} (integer : a.integer? = some m)
      (h : (Binary64.ofInt m).compare x = some .eq) : Coincide a (real x)
  | symm {a b : Number} (h : Coincide a b) : Coincide b a

section
variable {a b c : Number} {m n : Int} {x : Binary64}

lemma compare_eq_eq_of_integers (ha : a.integer? = some m) (hb : b.integer? = some n) :
    a.compare b = some .eq ↔ m = n := by
  rw [compare_of_integers ha hb,Option.some.injEq,Int.compare_eq_eq]

lemma compare_real (a : Number) (x : Binary64) :
    a.compare (real x) = a.toBinary64.compare x :=
  compare_of_real (.inr rfl)

lemma compare_eq_symm (h : a.compare b = some .eq) : b.compare a = some .eq := by
  rw [← compare_swap,h]
  rfl

/-- Numbers that are equal stand at the same place among the doubles. -/
lemma key_of_eq (h : a.compare b = some .eq) : a.toBinary64.key = b.toBinary64.key := by
  obtain ⟨m,n,ha,hb⟩ | hreal := integers_or_real a b
  · rw [compare_eq_eq_of_integers ha hb] at h
    rw [toBinary64_of_integer? ha,toBinary64_of_integer? hb,h]
  · rw [compare_of_real hreal,Binary64.compare_eq_eq_iff] at h
    exact h.2.2

lemma same_iff (a b : Number) :
    a.same b = true ↔ a.compare b = some .eq ∧ a.form = b.form := by
  cases a with
  | signed v =>
    cases b with
    | signed w =>
      rw [compare_eq_eq_of_integers rfl rfl,Int64.toInt_inj]
      simp [same,form]
    | _ => simp [same,form]
  | unsigned v =>
    cases b with
    | unsigned w =>
      rw [compare_eq_eq_of_integers rfl rfl,Int.ofNat_inj,UInt64.toNat_inj]
      simp [same,form]
    | _ => simp [same,form]
  | real x =>
    cases b with
    | real y => simp [same,form,compare_real,toBinary64]
    | _ => simp [same,form]

lemma Coincide.compare_eq (h : a.Coincide b) : a.compare b = some .eq := by
  induction h with
  | words h => exact (compare_eq_eq_of_integers rfl rfl).2 h
  | rounded integer h => rw [compare_real,toBinary64_of_integer? integer,h]
  | symm _ ih => exact compare_eq_symm ih

lemma Coincide.form_ne (h : a.Coincide b) : a.form ≠ b.form := by
  induction h with
  | words h => simp [form]
  | @rounded a m x integer h => cases a <;> simp [form,integer?] at integer ⊢
  | symm _ ih => exact ih.symm

lemma coincide_real (h : a.compare (real x) = some .eq) (hform : a.form ≠ .real) :
    a.Coincide (real x) := by
  cases hinteger : a.integer? with
  | some m =>
    rw [compare_real,toBinary64_of_integer? hinteger] at h
    exact .rounded hinteger h
  | none => cases a <;> simp [form,integer?] at hform hinteger

lemma coincide_of_compare (h : a.compare b = some .eq) (hform : a.form ≠ b.form) :
    a.Coincide b := by
  cases a with
  | real x => exact (coincide_real (compare_eq_symm h) hform.symm).symm
  | signed v =>
    cases b with
    | signed w => exact absurd rfl hform
    | unsigned w => exact .words ((compare_eq_eq_of_integers rfl rfl).1 h)
    | real x => exact coincide_real h hform
  | unsigned v =>
    cases b with
    | signed w => exact .symm (.words ((compare_eq_eq_of_integers rfl rfl).1 (compare_eq_symm h)))
    | unsigned w => exact absurd rfl hform
    | real x => exact coincide_real h hform

end

/-- Numbers are the same if they are equal in order and have one form. The two equalities part
exactly on numbers that coincide across forms: the order finds these equal, and sameness does not. -/
theorem same_iff_equal_in_form (a b : Number) :
    (a.same b = true ↔ a.compare b = some .eq ∧ a.form = b.form) ∧
    (¬(a.same b = true ↔ a.compare b = some .eq) ↔ a.Coincide b) := by
  refine ⟨same_iff a b,?_⟩
  rw [same_iff]
  constructor
  · intro hpart
    by_cases heq : a.compare b = some .eq
    · exact coincide_of_compare heq fun hform => hpart ⟨And.left,fun h => ⟨h,hform⟩⟩
    · exact absurd ⟨And.left,fun h => absurd h heq⟩ hpart
  · intro hcoincide hagree
    exact hcoincide.form_ne (hagree.2 hcoincide.compare_eq).2

/-- A signed and an unsigned one are equal in order without being the same. -/
theorem not_same_iff_equal : ¬∀ a b : Number, a.same b = true ↔ a.compare b = some .eq := by
  intro h
  have hsame : (signed 1).same (unsigned 1) = true := (h _ _).2 (by decide)
  exact absurd hsame (by decide)

/-- Two different integers with a double between them that is equal to both. -/
structure Bridges (b a c : Number) (m n : Int) : Prop where
  left : a.integer? = some m
  right : c.integer? = some n
  double : b.form = .real
  ne : m ≠ n
  left_eq : a.compare b = some .eq
  right_eq : c.compare b = some .eq

section
variable {a b c : Number} {m n : Int}

/-- No double is equal to two integers that its significand holds. -/
lemma Bridges.beyond (h : b.Bridges a c m n) : 2^53 < m.natAbs ∨ 2^53 < n.natAbs := by
  have hkey : (Binary64.ofInt m).key = (Binary64.ofInt n).key := by
    rw [← toBinary64_of_integer? h.left,← toBinary64_of_integer? h.right,key_of_eq h.left_eq,
      key_of_eq h.right_eq]
  by_contra hsmall
  rw [not_or,Nat.not_lt,Nat.not_lt] at hsmall
  obtain hlt | hlt := lt_or_gt_of_ne h.ne
  · exact (Binary64.key_ofInt_lt hlt hsmall.1 hsmall.2).ne hkey
  · exact (Binary64.key_ofInt_lt hlt hsmall.2 hsmall.1).ne hkey.symm

lemma form_eq_real_iff (a : Number) : a.form = .real ↔ a.integer? = none := by
  cases a <;> simp [form,integer?]

/-- Numbers at one place among the doubles are equal, unless both are integers. -/
lemma compare_eq_of_key (h : a.integer? = none ∨ b.integer? = none) (ha : a.isNaN = false)
    (hb : b.isNaN = false) (hkey : a.toBinary64.key = b.toBinary64.key) :
    a.compare b = some .eq := by
  rw [compare_of_real h,Binary64.compare_eq_eq_iff,isNaN_toBinary64,isNaN_toBinary64]
  exact ⟨ha,hb,hkey⟩

/-- What is not above a number does not stand above it among the doubles either. -/
lemma key_le_of_not_gt (ha : a.isNaN = false) (hb : b.isNaN = false)
    (h : a.compare b ≠ some .gt) : a.toBinary64.key ≤ b.toBinary64.key := by
  cases hab : a.compare b with
  | none =>
    have hnan := (compare_eq_none_iff a b).1 hab
    rw [ha,hb] at hnan
    simp at hnan
  | some o =>
    cases o with
    | lt => exact (key_of_lt hab).1
    | eq => exact (key_of_eq hab).le
    | gt => exact absurd hab h

/-- Two steps that do not go down come out below their start only between integers, and then the
number in the middle is a double equal to both of them. -/
lemma compare_gt_iff (ha : a.isNaN = false) (hb : b.isNaN = false) (hc : c.isNaN = false)
    (hab : a.compare b ≠ some .gt) (hbc : b.compare c ≠ some .gt) :
    a.compare c = some .gt ↔ ∃ m n, n < m ∧ b.Bridges a c m n := by
  have hkab := key_le_of_not_gt ha hb hab
  have hkbc := key_le_of_not_gt hb hc hbc
  constructor
  · intro hac
    have hlt : c.compare a = some .lt := by rw [← compare_swap,hac]; rfl
    obtain ⟨hkca,hstrict⟩ := key_of_lt hlt
    obtain ⟨m,n,ham,hcn⟩ | hreal := integers_or_real a c
    · rw [compare_of_integers ham hcn,Option.some.injEq,Int.compare_eq_gt] at hac
      cases hbk : b.integer? with
      | some k =>
        rw [compare_of_integers ham hbk,Ne,Option.some.injEq,Int.compare_eq_gt] at hab
        rw [compare_of_integers hbk hcn,Ne,Option.some.injEq,Int.compare_eq_gt] at hbc
        omega
      | none =>
        -- Rounding does not turn the two round, so all three stand at one place.
        exact ⟨m,n,hac,ham,hcn,(form_eq_real_iff b).2 hbk,hac.ne',
          compare_eq_of_key (.inr hbk) ha hb (by omega),
          compare_eq_of_key (.inr hbk) hc hb (by omega)⟩
    · have := hstrict hreal.symm
      omega
  · rintro ⟨m,n,hlt,h⟩
    rw [compare_of_integers h.left h.right,Option.some.injEq,Int.compare_eq_gt]
    exact hlt

/-- Two numbers equal to a third are equal unless they are different integers and the third is a
double. -/
lemma compare_ne_eq_iff (ha : a.compare b = some .eq) (hc : c.compare b = some .eq) :
    c.compare a ≠ some .eq ↔ ∃ m n, b.Bridges a c m n := by
  constructor
  · intro hne
    obtain ⟨n,m,hcn,ham⟩ | hreal := integers_or_real c a
    · rw [Ne,compare_eq_eq_of_integers hcn ham] at hne
      cases hbk : b.integer? with
      | some k =>
        rw [compare_eq_eq_of_integers ham hbk] at ha
        rw [compare_eq_eq_of_integers hcn hbk] at hc
        omega
      | none => exact ⟨m,n,ham,hcn,(form_eq_real_iff b).2 hbk,Ne.symm hne,ha,hc⟩
    · have hkey := (key_of_eq hc).trans (key_of_eq ha).symm
      exact absurd (compare_eq_of_key hreal (isNaN_of_compare hc).1 (isNaN_of_compare ha).1 hkey) hne
  · rintro ⟨m,n,h⟩ heq
    exact h.ne ((compare_eq_eq_of_integers h.right h.left).1 heq).symm

end

/-- "Not above" is transitive, and values equal to one operand are equal to each other, except
across a double that bridges two integers: from the greater one to the double and on to the smaller
one is no step up, although the first is above the last, and both are equal to the double without
being equal. One of two bridged integers has more bits than a double holds. -/
theorem le_trans_unless_bridged :
    (∀ a b c : Number, a.isNaN = false → b.isNaN = false → c.isNaN = false →
      a.compare b ≠ some .gt → b.compare c ≠ some .gt →
      (a.compare c = some .gt ↔ ∃ m n, n < m ∧ b.Bridges a c m n)) ∧
    (∀ operand v w : Number, (Scalar.number operand).isEqual (.number v) = true →
      (Scalar.number operand).isEqual (.number w) = true →
      ((Scalar.number v).isEqual (.number w) = false ↔ ∃ m n, operand.Bridges v w m n)) ∧
    ∀ (b a c : Number) (m n : Int), b.Bridges a c m n → 2^53 < m.natAbs ∨ 2^53 < n.natAbs := by
  refine ⟨fun a b c => compare_gt_iff,?_,fun b a c m n => Bridges.beyond⟩
  intro operand v w hv hw
  simp only [Scalar.isEqual,Scalar.order?,beq_iff_eq] at hv hw
  rw [Scalar.isEqual,Scalar.order?,beq_eq_false_iff_ne]
  exact compare_ne_eq_iff hv hw

/-- Through numbers of all three forms that are small, and across the first double that bridges. -/
theorem le_trans_unless_bridged_at_limit :
    let two := real (.ofInt 2)
    let bridge := real (.ofInt 9007199254740992)
    let upper := signed 9007199254740993
    let lower := unsigned 9007199254740992
    (signed (-1)).compare two ≠ some .gt ∧ two.compare (unsigned 3) ≠ some .gt ∧
      (signed (-1)).compare (unsigned 3) ≠ some .gt ∧
    upper.compare bridge ≠ some .gt ∧ bridge.compare lower ≠ some .gt ∧
      upper.compare lower = some .gt ∧
    (Scalar.number bridge).isEqual (.number upper) = true ∧
      (Scalar.number bridge).isEqual (.number lower) = true ∧
      (Scalar.number upper).isEqual (.number lower) = false := by
  intro two bridge upper lower
  obtain ⟨htrans,hequal,hbeyond⟩ := le_trans_unless_bridged
  have hfirst : (signed (-1)).compare two ≠ some .gt := by decide +kernel
  have hsecond : two.compare (unsigned 3) ≠ some .gt := by decide +kernel
  have hsmall : (signed (-1)).compare (unsigned 3) ≠ some .gt := by
    rw [Ne,htrans _ two _ rfl (by decide +kernel) rfl hfirst hsecond]
    rintro ⟨m,n,-,h⟩
    cases h.left
    cases h.right
    exact absurd (hbeyond _ _ _ _ _ h) (by decide)
  have hbridges : bridge.Bridges upper lower 9007199254740993 9007199254740992 :=
    ⟨rfl,rfl,rfl,by decide,by decide +kernel,by decide +kernel⟩
  have hupper : upper.compare bridge ≠ some .gt := by decide +kernel
  have hlower : bridge.compare lower ≠ some .gt := by decide +kernel
  have heqUpper : (Scalar.number bridge).isEqual (.number upper) = true := by decide +kernel
  have heqLower : (Scalar.number bridge).isEqual (.number lower) = true := by decide +kernel
  exact ⟨hfirst,hsecond,hsmall,hupper,hlower,
    (htrans _ _ _ rfl (by decide +kernel) rfl hupper hlower).2 ⟨_,_,by decide,hbridges⟩,
    heqUpper,heqLower,(hequal _ _ _ heqUpper heqLower).2 ⟨_,_,hbridges⟩⟩

/-- The greater integer is equal to the double, and the double to the smaller integer. -/
theorem not_le_trans : ¬∀ a b c : Number, a.isNaN = false → b.isNaN = false → c.isNaN = false →
    a.compare b ≠ some .gt → b.compare c ≠ some .gt → a.compare c ≠ some .gt := by
  intro h
  exact h (signed 9007199254740993) (real (.ofInt 9007199254740992)) (signed 9007199254740992)
    rfl (by decide +kernel) rfl (by decide +kernel) (by decide +kernel) (by decide +kernel)

end Number
end RecordSearch
