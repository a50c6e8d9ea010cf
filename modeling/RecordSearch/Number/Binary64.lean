/-! Binary floating-point numbers as sign and magnitude words, and rounding of exact ratios.
The magnitude word of a finite number grows with its value, so the order of numbers is the
order of words and rounding is a computation on natural numbers. -/
namespace RecordSearch

/-- A binary interchange format: significand bits and bits of the exponent field. -/
structure BinaryFormat where
  precision : Nat
  exponentBits : Nat
  deriving DecidableEq, Repr

namespace BinaryFormat

def single : BinaryFormat := ⟨24, 8⟩
def double : BinaryFormat := ⟨53, 11⟩

/-- Magnitudes of one binade. -/
def binade (f : BinaryFormat) : Nat := 1 <<< (f.precision - 1)

/-- The magnitude word of infinity; larger words are not numbers. -/
def infinityWord (f : BinaryFormat) : Nat := ((1 <<< f.exponentBits) - 1) * f.binade

/-- The weight of the last bit of the smallest numbers is two to minus this. -/
def scale (f : BinaryFormat) : Nat := (1 <<< (f.exponentBits - 1)) + f.precision - 3

end BinaryFormat

/-- The integer nearest to `num / den`, a half going to the even neighbour. -/
def roundHalfEven (num den : Nat) : Nat :=
  let whole := num / den
  let rest := num % den
  if 2 * rest < den then whole
  else if den < 2 * rest then whole + 1
  else whole + whole % 2

namespace BinaryFormat

/-- The exponent of the last bit kept of `num`, counted from the smallest one. -/
def shift (f : BinaryFormat) (num : Nat) : Nat := num.log2 + 1 - f.precision

/-- The magnitude word nearest to `num / den` units of the smallest number. A carry out of the
significand moves on to the next exponent, and a carry out of the last one is infinity. -/
def nearestUnits (f : BinaryFormat) (num den : Nat) : Nat :=
  let s := f.shift (num / den)
  min (s * f.binade + roundHalfEven num (den <<< s)) f.infinityWord

/-- The magnitude word nearest to `num / den`. -/
def nearest (f : BinaryFormat) (num den : Nat) : Nat :=
  f.nearestUnits (num <<< f.scale) den

/-- The value of a finite magnitude word in units of the smallest number. -/
def units (f : BinaryFormat) (word : Nat) : Nat :=
  let s := word / f.binade - 1
  (word - s * f.binade) <<< s

end BinaryFormat

/-- A double-precision number. -/
structure Binary64 where
  negative : Bool
  magnitude : Fin 0x8000000000000000
  deriving DecidableEq, Repr

namespace Binary64

/-- A magnitude word with a sign; words beyond infinity are cut off there. -/
def ofWord (negative : Bool) (word : Nat) : Binary64 :=
  ⟨negative, ⟨min word BinaryFormat.double.infinityWord,
    Nat.lt_of_le_of_lt (Nat.min_le_right _ _) (by decide)⟩⟩

def zero : Binary64 := ofWord false 0
def nan : Binary64 := ⟨false, ⟨0x7ff8000000000000, by decide⟩⟩
def infinity (negative : Bool) : Binary64 :=
  ofWord negative BinaryFormat.double.infinityWord

def isNaN (x : Binary64) : Bool := decide (BinaryFormat.double.infinityWord < x.magnitude.val)

def isInfinite (x : Binary64) : Bool := x.magnitude.val == BinaryFormat.double.infinityWord

/-- The interchange word: the sign bit, then the magnitude. -/
def bits (x : Binary64) : Nat := (if x.negative then 0x8000000000000000 else 0) + x.magnitude.val

/-- The place of a number among all numbers; both zeros stand at the same place. -/
def key (x : Binary64) : Int :=
  if x.negative then -(x.magnitude.val : Int) else x.magnitude.val

/-- The order of numbers; what is not a number is unordered. -/
def compare (x y : Binary64) : Option Ordering :=
  if x.isNaN || y.isNaN then none else some (Ord.compare x.key y.key)

/-- The number nearest to an integer. -/
def ofInt (n : Int) : Binary64 :=
  ofWord (decide (n < 0)) (BinaryFormat.double.nearest n.natAbs 1)

/-- The number nearest to `num / den`. -/
def ofRatio (negative : Bool) (num den : Nat) : Binary64 :=
  ofWord negative (BinaryFormat.double.nearest num den)

/-- The double nearest to the single nearest to `num / den`; the second step is exact. -/
def ofSingleRatio (negative : Bool) (num den : Nat) : Binary64 :=
  let word := BinaryFormat.single.nearest num den
  if word = BinaryFormat.single.infinityWord then infinity negative
  else ofRatio negative (BinaryFormat.single.units word) (1 <<< BinaryFormat.single.scale)

example : (ofInt 3).bits = 0x4008000000000000 := by decide +kernel
example : ofInt 9007199254740993 = ofInt 9007199254740992 := by decide +kernel
example : (ofRatio true 1 10).bits = 0xbfb999999999999a := by decide +kernel
example : compare (ofRatio true 0 1) zero = some .eq := by decide +kernel
example : compare nan nan = none := by decide +kernel

end Binary64
end RecordSearch
