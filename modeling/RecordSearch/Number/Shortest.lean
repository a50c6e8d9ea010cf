import RecordSearch.Number.Binary64

/-! The shortest decimal that reads back as a given number, and its layouts. Among the decimal
grids of spacing `10 ^ j` the coarsest one with a point in the interval that rounds to the
number gives the fewest digits; of two such points the nearer one is taken. -/
namespace RecordSearch

/-- The decimal `digits * 10 ^ exponent`. -/
structure Decimal where
  digits : Nat
  exponent : Int
  deriving DecidableEq, Repr

/-- A positive number with the ends of the interval that rounds to it, over one denominator. -/
structure RoundingInterval where
  value : Nat
  low : Nat
  high : Nat
  den : Nat
  closed : Bool
  deriving Repr

namespace RoundingInterval

/-- The ends lie halfway to the neighbouring magnitudes and belong to the even ones. -/
def ofWord (f : BinaryFormat) (word : Nat) : RoundingInterval where
  value := 2 * f.units word
  low := f.units word + f.units (word - 1)
  high := f.units word + f.units (word + 1)
  den := 2 <<< f.scale
  closed := word % 2 == 0

/-- The interval measured in steps of `10 ^ j`. -/
def scaled (r : RoundingInterval) (j : Int) : RoundingInterval :=
  let up := Nat.pow 10 (-j).toNat
  ⟨r.value * up, r.low * up, r.high * up, r.den * Nat.pow 10 j.toNat, r.closed⟩

def holds (r : RoundingInterval) (n : Nat) : Bool :=
  if r.closed then decide (r.low ≤ n * r.den ∧ n * r.den ≤ r.high)
  else decide (r.low < n * r.den ∧ n * r.den < r.high)

/-- The integer of the interval nearest to its number, the upper one of two equally near. -/
def gridPoint? (r : RoundingInterval) : Option Nat :=
  let below := r.value / r.den
  match r.holds below, r.holds (below + 1) with
  | true, true => some (if 2 * (r.value % r.den) < r.den then below else below + 1)
  | true, false => some below
  | false, true => some (below + 1)
  | false, false => none

/-- Tries grids from spacing `10 ^ j` downwards. -/
def search (r : RoundingInterval) (j : Int) : Nat → Decimal
  | 0 => ⟨0, 0⟩
  | fuel + 1 =>
    match (r.scaled j).gridPoint? with
    | some n => ⟨n, j⟩
    | none => r.search (j - 1) fuel

end RoundingInterval

namespace Binary64

/-- The shortest decimal of a finite magnitude. No double reaches `10 ^ 309`, and the grid of
spacing `10 ^ -324` meets every interval. -/
def shortest (x : Binary64) : Decimal :=
  if x.magnitude.val = 0 then ⟨0, 0⟩
  else (RoundingInterval.ofWord .double x.magnitude.val).search 309 640

end Binary64

/-- How a decimal is laid out: the fewest fraction digits, and the magnitudes `10 ^ small` and
`10 ^ large` outside of which an exponent is written, if ever. -/
structure DecimalLayout where
  minFraction : Nat
  scientific : Option (Int × Int)
  deriving Repr

namespace DecimalLayout

/-- Always positional, and no fraction that is not needed. -/
def plain : DecimalLayout := ⟨0, none⟩

/-- A fraction always, and an exponent below `10 ^ -4` and from `10 ^ 16` on. -/
def precise : DecimalLayout := ⟨1, some (-4, 16)⟩

def zeros (n : Nat) : List Char := List.replicate n '0'

def positional (l : DecimalLayout) (d : Decimal) : List Char :=
  let digits := Nat.toDigits 10 d.digits
  let padded := digits ++ zeros d.exponent.toNat
  let places := (-d.exponent).toNat
  let filled := zeros (places + 1 - padded.length) ++ padded
  let whole := filled.take (filled.length - places)
  let fraction := filled.drop (filled.length - places)
  let fraction := fraction ++ zeros (l.minFraction - fraction.length)
  if fraction.isEmpty then whole else whole ++ '.' :: fraction

/-- One digit before the point and the power of ten behind `e`. -/
def exponential (d : Decimal) : List Char :=
  let digits := Nat.toDigits 10 d.digits
  let power := d.exponent + (digits.length - 1 : Nat)
  let mantissa := match digits with
    | [] => []
    | [c] => [c]
    | c :: rest => c :: '.' :: rest
  mantissa ++ 'e' :: (toString power).toList

def layOut (l : DecimalLayout) (d : Decimal) : List Char :=
  match l.scientific with
  | none => l.positional d
  | some (small, large) =>
    let power := d.exponent + ((Nat.toDigits 10 d.digits).length - 1 : Nat)
    if d.digits = 0 ∨ (small ≤ power ∧ power < large) then l.positional d else exponential d

end DecimalLayout

namespace Binary64

/-- The text of a number; the sign of a zero is written, that of what is no number is not. -/
def text (l : DecimalLayout) (x : Binary64) : String :=
  if x.isNaN then "NaN"
  else
    let body := if x.isInfinite then "inf".toList else l.layOut x.shortest
    String.ofList (if x.negative then '-' :: body else body)

end Binary64
end RecordSearch
