import Mathlib.Algebra.GroupWithZero.Nat
import Mathlib.Data.Nat.Log
import Mathlib.Order.MinMax
import Mathlib.Tactic.Common
import RecordSearch.Number.Binary64

/-! Rounding keeps the order. Within one exponent the words of a format follow the rounded
significands, and a significand rounds to at least one binade and at most two, so the words also
follow the exponents. A larger number never gets a smaller word, and integers never round to
something that is not a number. -/
namespace RecordSearch

section
variable (num den : Nat)

lemma div_le_roundHalfEven : num / den ≤ roundHalfEven num den := by
  rw [roundHalfEven]
  split_ifs <;> omega

lemma roundHalfEven_le : roundHalfEven num den ≤ num / den + 1 := by
  rw [roundHalfEven]
  split_ifs <;> omega

end

/-- Only numbers between the same two integers are told apart by what is left over. -/
lemma roundHalfEven_mono {m n : Nat} (h : m ≤ n) (den : Nat) :
    roundHalfEven m den ≤ roundHalfEven n den := by
  obtain hlt | heq := (Nat.div_le_div_right h : m / den ≤ n / den).lt_or_eq
  · exact (roundHalfEven_le m den).trans ((Nat.succ_le_of_lt hlt).trans (div_le_roundHalfEven n den))
  · have hrest : m % den ≤ n % den := by
      have hm := Nat.div_add_mod m den
      have hn := Nat.div_add_mod n den
      rw [heq] at hm
      omega
    simp only [roundHalfEven,heq]
    split_ifs <;> omega

namespace BinaryFormat
variable (f : BinaryFormat)

lemma shift_mono {m n : Nat} (h : m ≤ n) : f.shift m ≤ f.shift n := by
  have hlog : m.log2 ≤ n.log2 := by
    rw [Nat.log2_eq_log_two,Nat.log2_eq_log_two]
    exact Nat.log_mono_right h
  rw [shift,shift]
  omega

lemma div_shiftLeft (num den s : Nat) : num / (den <<< s) = num / den / 2^s := by
  rw [Nat.shiftLeft_eq,Nat.div_div_eq_div_mul]

variable {f}

lemma two_mul_binade (hp : 0 < f.precision) : 2*f.binade = 2^f.precision := by
  rw [binade,Nat.shiftLeft_eq,Nat.one_mul,← pow_succ']
  congr 1
  omega

/-- A significand has at most the bits of the format. -/
lemma div_two_pow_shift_lt (hp : 0 < f.precision) (k : Nat) : k / 2^f.shift k < 2*f.binade := by
  have hbits : k < 2^f.precision*2^f.shift k := by
    rw [← pow_add]
    apply Nat.lt_log2_self.trans_le
    apply Nat.pow_le_pow_right (by decide)
    rw [shift]
    omega
  rw [two_mul_binade hp]
  exact Nat.div_lt_of_lt_mul (Nat.mul_comm _ _ ▸ hbits)

/-- Once bits are dropped, the significand fills the format. -/
lemma binade_le_div_two_pow_shift (hp : 0 < f.precision) {k : Nat} (hs : 0 < f.shift k) :
    f.binade ≤ k / 2^f.shift k := by
  have hne : k ≠ 0 := by
    rintro rfl
    rw [shift,Nat.log2_zero] at hs
    omega
  have hlog : k.log2 = f.precision-1 + f.shift k := by
    rw [shift] at hs ⊢
    omega
  rw [Nat.le_div_iff_mul_le (Nat.two_pow_pos _),binade,Nat.shiftLeft_eq,Nat.one_mul,← pow_add,
    ← hlog]
  exact Nat.log2_self_le hne

/-- So it rounds to two binades at most. -/
lemma roundHalfEven_le_two_binades (hp : 0 < f.precision) (num den : Nat) :
    roundHalfEven num (den <<< f.shift (num/den)) ≤ 2*f.binade := by
  have hround := roundHalfEven_le num (den <<< f.shift (num/den))
  rw [div_shiftLeft] at hround
  have hlt := div_two_pow_shift_lt hp (num/den)
  omega

lemma binade_le_roundHalfEven (hp : 0 < f.precision) {num den : Nat}
    (hs : 0 < f.shift (num/den)) :
    f.binade ≤ roundHalfEven num (den <<< f.shift (num/den)) :=
  calc f.binade ≤ num/den / 2^f.shift (num/den) := binade_le_div_two_pow_shift hp hs
    _ = num / (den <<< f.shift (num/den)) := (div_shiftLeft _ _ _).symm
    _ ≤ _ := div_le_roundHalfEven _ _

theorem nearestUnits_mono (hp : 0 < f.precision) {m n : Nat} (h : m ≤ n) (den : Nat) :
    f.nearestUnits m den ≤ f.nearestUnits n den := by
  have hshift := f.shift_mono (Nat.div_le_div_right h : m/den ≤ n/den)
  apply min_le_min_right
  obtain heq | hlt := hshift.eq_or_lt
  · rw [heq]
    exact Nat.add_le_add_left (roundHalfEven_mono h _) _
  · -- The smaller one has two binades at most, and the larger one begins a binade further on.
    have hm := roundHalfEven_le_two_binades hp m den
    have hn := binade_le_roundHalfEven hp (Nat.zero_lt_of_lt hlt)
    calc f.shift (m/den)*f.binade + roundHalfEven m (den <<< f.shift (m/den))
        ≤ (f.shift (m/den) + 1)*f.binade + f.binade := by rw [Nat.add_mul]; omega
      _ ≤ f.shift (n/den)*f.binade + f.binade :=
          Nat.add_le_add_right (Nat.mul_le_mul_right _ hlt) _
      _ ≤ _ := Nat.add_le_add_left hn _

theorem nearest_mono (hp : 0 < f.precision) {m n : Nat} (h : m ≤ n) (den : Nat) :
    f.nearest m den ≤ f.nearest n den := by
  apply nearestUnits_mono hp
  rw [Nat.shiftLeft_eq,Nat.shiftLeft_eq]
  exact Nat.mul_le_mul_right _ h

end BinaryFormat

namespace Binary64

lemma isNaN_ofWord (negative : Bool) (word : Nat) : (ofWord negative word).isNaN = false :=
  decide_eq_false (Nat.min_le_right _ _).not_gt

@[simp] lemma isNaN_ofInt (n : Int) : (ofInt n).isNaN = false := isNaN_ofWord _ _

/-- The place of an integer is the word nearest to it, on the side of its sign. -/
lemma key_ofInt (n : Int) : (ofInt n).key =
    if n < 0 then -(BinaryFormat.double.nearest n.natAbs 1 : Int)
    else BinaryFormat.double.nearest n.natAbs 1 := by
  have hcut : min (BinaryFormat.double.nearest n.natAbs 1) BinaryFormat.double.infinityWord =
      BinaryFormat.double.nearest n.natAbs 1 := by
    rw [BinaryFormat.nearest,BinaryFormat.nearestUnits,Nat.min_assoc,Nat.min_self]
  rw [key,ofInt,ofWord]
  simp only [hcut,decide_eq_true_eq]

/-- Converting integers to doubles keeps their order, as far as doubles can tell them apart. -/
theorem key_ofInt_mono {m n : Int} (h : m ≤ n) : (ofInt m).key ≤ (ofInt n).key := by
  have hmono : ∀ {k l : Nat}, k ≤ l →
      BinaryFormat.double.nearest k 1 ≤ BinaryFormat.double.nearest l 1 :=
    fun hkl => BinaryFormat.nearest_mono (by decide) hkl 1
  rw [key_ofInt,key_ofInt]
  split_ifs with hm hn hn
  · have := hmono (show n.natAbs ≤ m.natAbs by omega)
    omega
  · omega
  · omega
  · have := hmono (show m.natAbs ≤ n.natAbs by omega)
    omega

end Binary64
end RecordSearch
