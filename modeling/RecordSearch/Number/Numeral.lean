import RecordSearch.Number.Binary64

/-! Decimal numerals: an optional sign, digits with an optional point, an optional exponent, or
the name of an infinite or missing number. Reading rounds the exact value once. -/
namespace RecordSearch

/-- The value `digits * 10 ^ exponent` with a sign. -/
structure Numeral where
  negative : Bool
  digits : Nat
  exponent : Int
  deriving DecidableEq, Repr

namespace Numeral

def digitValue (c : Char) : Nat := c.toNat - '0'.toNat

/-- The number a run of digits writes. -/
def natOfDigits (cs : List Char) : Nat := cs.foldl (fun n c => 10 * n + digitValue c) 0

def digitRun (cs : List Char) : List Char × List Char :=
  (cs.takeWhile Char.isDigit, cs.dropWhile Char.isDigit)

def sign : List Char → Bool × List Char
  | '-' :: cs => (true, cs)
  | '+' :: cs => (false, cs)
  | cs => (false, cs)

/-- The exponent part, zero when there is none. -/
def exponentPart? : List Char → Option Int
  | [] => some 0
  | c :: cs =>
    if c = 'e' ∨ c = 'E' then
      let (negative, rest) := sign cs
      let (run, rest) := digitRun rest
      if run.isEmpty || !rest.isEmpty then none
      else some (if negative then -(natOfDigits run : Int) else natOfDigits run)
    else none

/-- Digits around an optional point, at least one of them, then the exponent part. -/
def unsigned? (cs : List Char) : Option (Nat × Int) :=
  let (whole, rest) := digitRun cs
  let (fraction, rest) := match rest with
    | '.' :: tail => digitRun tail
    | _ => ([], rest)
  if whole.isEmpty && fraction.isEmpty then none
  else (exponentPart? rest).map fun e => (natOfDigits (whole ++ fraction), e - fraction.length)

def ofChars? (cs : List Char) : Option Numeral :=
  let (negative, rest) := sign cs
  (unsigned? rest).map fun (digits, exponent) => ⟨negative, digits, exponent⟩

/-- Beyond this power of ten every number is infinite or rounds to zero. -/
def exponentLimit : Nat := 400

/-- The magnitude as a ratio; an exponent far out of range is cut off, which does not change
what the ratio rounds to. -/
def ratio (n : Numeral) : Nat × Nat :=
  if n.digits = 0 then (0, 1)
  else if 0 ≤ n.exponent then (n.digits * Nat.pow 10 (min n.exponent.toNat exponentLimit), 1)
  else
    let length := (Nat.toDigits 10 n.digits).length
    (n.digits, Nat.pow 10 (min (-n.exponent).toNat (length + exponentLimit)))

end Numeral

namespace Binary64

/-- Reads a numeral, or the name of an infinite or missing number in any case. -/
def read? (round : Bool → Nat → Nat → Binary64) (s : String) : Option Binary64 :=
  match Numeral.ofChars? s.toList with
  | some n => let (num, den) := n.ratio; some (round n.negative num den)
  | none =>
    let (negative, rest) := Numeral.sign s.toList
    let name := String.ofList (rest.map Char.toLower)
    if name = "nan" then some nan
    else if name = "inf" ∨ name = "infinity" then some (infinity negative)
    else none

def ofText? (s : String) : Option Binary64 := read? ofRatio s
def ofSingleText? (s : String) : Option Binary64 := read? ofSingleRatio s

end Binary64
end RecordSearch
