import RecordSearch.Proofs.Rounding

/-! Integers that doubles tell apart. A number whose bits fit the significand of a format rounds to
itself, so among such numbers a larger one has a larger word. In doubles these are the integers up
to two to the 53 in either direction; behind them integers begin to share a double. -/
namespace RecordSearch

/-- What leaves no rest is not rounded. -/
lemma roundHalfEven_of_dvd {num den : Nat} (hden : 0 < den) (h : den ∣ num) :
    roundHalfEven num den = num / den := by
  simp [roundHalfEven,Nat.mod_eq_zero_of_dvd h,hden]

namespace BinaryFormat
variable {f : BinaryFormat}

lemma shift_le (hp : 0 < f.precision) {n k : Nat} (h : n < 2^(f.precision + k)) :
    f.shift n ≤ k := by
  rw [shift]
  obtain rfl | hne := eq_or_ne n 0
  · rw [Nat.log2_zero]
    omega
  · have hlog := (Nat.log2_lt hne).2 h
    omega

lemma mul_two_pow_lt {n : Nat} (h : n < 2^f.precision) (k : Nat) :
    n*2^k < 2^(f.precision + k) := by
  rw [pow_add]
  exact Nat.mul_lt_mul_of_pos_right h (Nat.two_pow_pos k)

/-- An integer that fits the significand loses no bits, however far it is moved to the left. -/
lemma two_pow_shift_dvd (hp : 0 < f.precision) {n : Nat} (h : n ≤ 2^f.precision) (k : Nat) :
    2^f.shift (n*2^k) ∣ n*2^k := by
  obtain hlt | rfl := h.lt_or_eq
  · have hshift := shift_le hp (mul_two_pow_lt hlt k)
    exact Nat.dvd_mul_left_of_dvd (Nat.pow_dvd_pow 2 hshift) n
  · rw [← pow_add,shift,Nat.log2_two_pow]
    exact Nat.pow_dvd_pow 2 (by omega)

lemma nearestUnits_of_dvd {n : Nat} (h : 2^f.shift n ∣ n) :
    f.nearestUnits n 1 = min (f.shift n*f.binade + n/2^f.shift n) f.infinityWord := by
  simp only [nearestUnits,Nat.div_one,Nat.shiftLeft_eq,Nat.one_mul]
  rw [roundHalfEven_of_dvd (Nat.two_pow_pos _) h]

/-- Exact words grow with what they stand for, short of infinity. -/
lemma nearestUnits_lt (hp : 0 < f.precision) {m n : Nat} (h : m < n) (hm : 2^f.shift m ∣ m)
    (hn : 2^f.shift n ∣ n) (finite : (f.shift m + 2)*f.binade ≤ f.infinityWord) :
    f.nearestUnits m 1 < f.nearestUnits n 1 := by
  have hsmall := div_two_pow_shift_lt hp m
  have hword : f.shift m*f.binade + m/2^f.shift m < f.shift n*f.binade + n/2^f.shift n := by
    obtain heq | hlt := (f.shift_mono h.le).eq_or_lt
    · rw [heq]
      exact Nat.add_lt_add_left (Nat.div_lt_div_of_lt_of_dvd hn h) _
    · -- The larger one begins a binade further on, and fills the format.
      have hlarge := binade_le_div_two_pow_shift hp (Nat.zero_lt_of_lt hlt)
      calc f.shift m*f.binade + m/2^f.shift m
          < (f.shift m + 1)*f.binade + f.binade := by rw [Nat.add_mul]; omega
        _ ≤ f.shift n*f.binade + f.binade := Nat.add_le_add_right (Nat.mul_le_mul_right _ hlt) _
        _ ≤ _ := Nat.add_le_add_left hlarge _
  rw [Nat.add_mul] at finite
  rw [nearestUnits_of_dvd hm,nearestUnits_of_dvd hn]
  omega

/-- A format that reaches far enough tells integers apart as long as they fit its significand. -/
theorem nearest_lt (hp : 0 < f.precision) (reaches : (f.scale + 2)*f.binade ≤ f.infinityWord)
    {m n : Nat} (h : m < n) (hn : n ≤ 2^f.precision) : f.nearest m 1 < f.nearest n 1 := by
  have hshift := shift_le hp (mul_two_pow_lt (h.trans_le hn) f.scale)
  have finite := Nat.mul_le_mul_right f.binade (Nat.add_le_add_right hshift 2)
  rw [nearest,nearest,Nat.shiftLeft_eq,Nat.shiftLeft_eq]
  exact nearestUnits_lt hp (Nat.mul_lt_mul_of_pos_right h (Nat.two_pow_pos _))
    (two_pow_shift_dvd hp (h.le.trans hn) _) (two_pow_shift_dvd hp hn _) (finite.trans reaches)

end BinaryFormat

namespace Binary64

/-- Doubles tell integers apart up to two to the 53. -/
theorem key_ofInt_lt {m n : Int} (h : m < n) (hm : m.natAbs ≤ 2^53) (hn : n.natAbs ≤ 2^53) :
    (ofInt m).key < (ofInt n).key := by
  have apart : ∀ {k l : Nat}, k < l → l ≤ 2^53 →
      BinaryFormat.double.nearest k 1 < BinaryFormat.double.nearest l 1 :=
    fun hkl hl => BinaryFormat.nearest_lt (by decide) (by decide) hkl hl
  rw [key_ofInt,key_ofInt]
  split_ifs
  · have := apart (show n.natAbs < m.natAbs by omega) hm
    omega
  · have := apart (show 0 < m.natAbs by omega) hm
    omega
  · omega
  · have := apart (show m.natAbs < n.natAbs by omega) hn
    omega

end Binary64
end RecordSearch
