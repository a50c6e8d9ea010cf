import Mathlib.Tactic.Common
import RecordSearch.Number
import RecordSearch.Proofs.Rounding

/-! The order of numbers across their representations. Two integers compare as integers whatever
their words, and any other two numbers by their places among the doubles. Going over to doubles
never turns integers round, so the exact and the rounded comparisons fit together: "below" is
transitive through any mixture of them, although equality is not. -/
namespace RecordSearch

lemma compare_int64 (a b : Int64) : Ord.compare a b = Ord.compare a.toInt b.toInt := by
  simp only [Ord.compare,compareOfLessAndEq,Int64.lt_iff_toInt_lt,Int64.toInt_inj]

lemma compare_uint64 (a b : UInt64) :
    Ord.compare a b = Ord.compare (a.toNat : Int) (b.toNat : Int) := by
  simp only [Ord.compare,compareOfLessAndEq,UInt64.lt_iff_toNat_lt,Int.ofNat_lt,Int.ofNat_inj,
    UInt64.toNat_inj]

namespace Binary64

lemma compare_eq_none_iff (x y : Binary64) :
    x.compare y = none ↔ x.isNaN = true ∨ y.isNaN = true := by
  rw [compare]
  split_ifs with h
  · simpa using h
  · simpa using h

lemma compare_eq_some_iff (x y : Binary64) (o : Ordering) : x.compare y = some o ↔
    x.isNaN = false ∧ y.isNaN = false ∧ Ord.compare x.key y.key = o := by
  rw [compare]
  cases x.isNaN <;> cases y.isNaN <;> simp

lemma compare_eq_lt_iff (x y : Binary64) :
    x.compare y = some .lt ↔ x.isNaN = false ∧ y.isNaN = false ∧ x.key < y.key := by
  rw [compare_eq_some_iff,Int.compare_eq_lt]

lemma compare_eq_eq_iff (x y : Binary64) :
    x.compare y = some .eq ↔ x.isNaN = false ∧ y.isNaN = false ∧ x.key = y.key := by
  rw [compare_eq_some_iff,Int.compare_eq_eq]

lemma compare_swap (x y : Binary64) : (x.compare y).map Ordering.swap = y.compare x := by
  rw [compare,compare,Bool.or_comm]
  split_ifs
  · rfl
  · exact congrArg some (Int.compare_swap x.key y.key)

end Binary64

namespace Number

def isNaN : Number → Bool
  | real x => x.isNaN
  | signed _ | unsigned _ => false

/-- The integer that a word stands for. -/
def integer? : Number → Option Int
  | signed n => some n.toInt
  | unsigned n => some n.toNat
  | real _ => none

lemma compareWords_eq (a : Int64) (b : UInt64) :
    compareWords a b = Ord.compare a.toInt (b.toNat : Int) := by
  rw [compareWords]
  split_ifs with h
  · have hneg : a.toInt < 0 := Int64.lt_iff_toInt_lt.1 h
    exact (Int.compare_eq_lt.2 (by omega)).symm
  · have hnonneg : (0 : Int64) ≤ a := Int64.not_lt.1 h
    have hword : (a.toUInt64.toNat : Int) = a.toInt := by
      rw [Int64.toNat_toUInt64_of_le hnonneg,Int64.cast_toNatClampNeg a hnonneg]
    rw [compare_uint64,hword]

section
variable {a b c : Number} {m n k : Int}

lemma toBinary64_of_integer? (h : a.integer? = some m) : a.toBinary64 = .ofInt m := by
  cases a with
  | signed n => cases h; rfl
  | unsigned n => cases h; rfl
  | real x => cases h

lemma isNaN_toBinary64 (a : Number) : a.toBinary64.isNaN = a.isNaN := by
  cases a with
  | signed n => exact Binary64.isNaN_ofInt _
  | unsigned n => exact Binary64.isNaN_ofInt _
  | real x => rfl

lemma isNaN_of_integer? (h : a.integer? = some m) : a.isNaN = false := by
  cases a with
  | signed n => rfl
  | unsigned n => rfl
  | real x => cases h

/-- Integers compare as integers, whatever their words. -/
theorem compare_of_integers (ha : a.integer? = some m) (hb : b.integer? = some n) :
    a.compare b = some (Ord.compare m n) := by
  cases a with
  | signed v =>
    cases ha
    cases b with
    | signed w => cases hb; exact congrArg some (compare_int64 v w)
    | unsigned w => cases hb; exact congrArg some (compareWords_eq v w)
    | real x => cases hb
  | unsigned v =>
    cases ha
    cases b with
    | signed w =>
      cases hb
      have hswap := Int.compare_swap w.toInt v.toNat
      rw [← compareWords_eq] at hswap
      exact congrArg some hswap
    | unsigned w => cases hb; exact congrArg some (compare_uint64 v w)
    | real x => cases hb
  | real x => cases ha

/-- All other numbers compare as doubles. -/
lemma compare_of_real (h : a.integer? = none ∨ b.integer? = none) :
    a.compare b = a.toBinary64.compare b.toBinary64 := by
  cases a with
  | real x => rfl
  | signed v =>
    cases b with
    | real x => rfl
    | _ => simp [integer?] at h
  | unsigned v =>
    cases b with
    | real x => rfl
    | _ => simp [integer?] at h

/-- Two numbers are integers both, or compare as doubles. -/
lemma integers_or_real (a b : Number) : (∃ m n, a.integer? = some m ∧ b.integer? = some n) ∨
    (a.integer? = none ∨ b.integer? = none) := by
  cases a.integer? <;> cases b.integer? <;> simp

theorem compare_swap (a b : Number) : (a.compare b).map Ordering.swap = b.compare a := by
  obtain ⟨m,n,ha,hb⟩ | h := integers_or_real a b
  · rw [compare_of_integers ha hb,compare_of_integers hb ha]
    exact congrArg some (Int.compare_swap m n)
  · rw [compare_of_real h,compare_of_real h.symm,Binary64.compare_swap]

theorem compare_eq_none_iff (a b : Number) :
    a.compare b = none ↔ a.isNaN = true ∨ b.isNaN = true := by
  obtain ⟨m,n,ha,hb⟩ | h := integers_or_real a b
  · simp [compare_of_integers ha hb,isNaN_of_integer? ha,isNaN_of_integer? hb]
  · rw [compare_of_real h,Binary64.compare_eq_none_iff,isNaN_toBinary64,isNaN_toBinary64]

/-- A number that is below another does not stand above it among the doubles, and stands below it
there unless rounding brings two integers together. -/
lemma key_of_lt (h : a.compare b = some .lt) : a.toBinary64.key ≤ b.toBinary64.key ∧
    (a.integer? = none ∨ b.integer? = none → a.toBinary64.key < b.toBinary64.key) := by
  obtain ⟨m,n,ha,hb⟩ | hreal := integers_or_real a b
  · rw [compare_of_integers ha hb,Option.some.injEq,Int.compare_eq_lt] at h
    rw [toBinary64_of_integer? ha,toBinary64_of_integer? hb]
    refine ⟨Binary64.key_ofInt_mono (by omega),?_⟩
    rintro (hnone | hnone)
    · rw [ha] at hnone; cases hnone
    · rw [hb] at hnone; cases hnone
  · rw [compare_of_real hreal,Binary64.compare_eq_lt_iff] at h
    exact ⟨h.2.2.le,fun _ => h.2.2⟩

/-- Only numbers have an order. -/
lemma isNaN_of_compare {o : Ordering} (h : a.compare b = some o) :
    a.isNaN = false ∧ b.isNaN = false := by
  have hne := (compare_eq_none_iff a b).not.1 (by rw [h]; exact Option.some_ne_none _)
  simpa using hne

/-- Of two steps up one may be exact and the other rounded. Between integers the sum of the two is
read off the integers, and otherwise one of the two steps moves among the doubles. -/
theorem compare_lt_trans (hab : a.compare b = some .lt) (hbc : b.compare c = some .lt) :
    a.compare c = some .lt := by
  obtain ⟨hkab,hstrictab⟩ := key_of_lt hab
  obtain ⟨hkbc,hstrictbc⟩ := key_of_lt hbc
  obtain ⟨m,k,ha,hc⟩ | hreal := integers_or_real a c
  · rw [compare_of_integers ha hc,Option.some.injEq,Int.compare_eq_lt]
    cases hb : b.integer? with
    | some n =>
      rw [compare_of_integers ha hb,Option.some.injEq,Int.compare_eq_lt] at hab
      rw [compare_of_integers hb hc,Option.some.injEq,Int.compare_eq_lt] at hbc
      omega
    | none =>
      by_contra hle
      have hmono := Binary64.key_ofInt_mono (Int.not_lt.1 hle)
      rw [← toBinary64_of_integer? ha,← toBinary64_of_integer? hc] at hmono
      have hlt := hstrictab (.inr hb)
      omega
  · have hlt : a.toBinary64.key < c.toBinary64.key := by
      obtain hnone | hnone := hreal
      · have := hstrictab (.inl hnone); omega
      · have := hstrictbc (.inr hnone); omega
    rw [compare_of_real hreal,Binary64.compare_eq_lt_iff,isNaN_toBinary64,isNaN_toBinary64]
    exact ⟨(isNaN_of_compare hab).1,(isNaN_of_compare hbc).2,hlt⟩

end

/-- Equality is not transitive: this double is equal to two integers. -/
example : let x := real (.ofInt 9007199254740992)
    (signed 9007199254740992).compare x = some .eq ∧
      x.compare (signed 9007199254740993) = some .eq := by decide +kernel

/-- Comparison is a strict order across all representations. Turning a comparison round turns its
answer round, there is no answer exactly if one side is not a number, "below" is transitive, and
integers stand as the integers they are. -/
theorem compare_strict_order (a b c : Number) :
    b.compare a = (a.compare b).map Ordering.swap ∧
    (a.compare b = none ↔ a.isNaN = true ∨ b.isNaN = true) ∧
    (a.compare b = some .lt → b.compare c = some .lt → a.compare c = some .lt) ∧
    ∀ m n, a.integer? = some m → b.integer? = some n → a.compare b = some (Ord.compare m n) :=
  ⟨(compare_swap a b).symm,compare_eq_none_iff a b,compare_lt_trans,
    fun _ _ => compare_of_integers⟩

/-- The first step is between integers that round to the same double, and the second is rounded. -/
theorem compare_strict_order_rounded :
    let a := signed 9007199254740992
    let b := unsigned 9007199254740993
    let c := real (.ofInt 9007199254740994)
    a.compare b = some .lt ∧ b.compare c = some .lt ∧ a.compare c = some .lt ∧
      a.integer? = some 9007199254740992 ∧ b.integer? = some 9007199254740993 ∧
      a.compare b = some (Ord.compare (9007199254740992 : Int) 9007199254740993) := by
  intro a b c
  have hab : a.compare b = some .lt := by decide +kernel
  have hbc : b.compare c = some .lt := by decide +kernel
  obtain ⟨-,-,htrans,hintegers⟩ := compare_strict_order a b c
  exact ⟨hab,hbc,htrans hab hbc,rfl,rfl,hintegers _ _ rfl rfl⟩

end Number
end RecordSearch
