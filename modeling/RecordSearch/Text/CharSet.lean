/-! Sets of characters as ascending ranges of code points, for properties that are tables. -/
namespace RecordSearch.Text

/-- Ranges of code points, first and last, in ascending order. -/
structure CharSet where
  ranges : Array (Nat × Nat)
  deriving Inhabited

namespace CharSet

def empty : CharSet := ⟨#[]⟩

/-- Halves the candidates `lo, …, hi - 1` until none is left or one holds the code point. -/
def find (s : CharSet) (n lo hi : Nat) : Bool :=
  if lo < hi then
    let mid := (lo + hi) / 2
    match s.ranges[mid]? with
    | none => false
    | some (first, last) =>
      if n < first then s.find n lo mid
      else if last < n then s.find n (mid + 1) hi
      else true
  else false
termination_by hi - lo
decreasing_by all_goals omega

def has (s : CharSet) (n : Nat) : Bool := s.find n 0 s.ranges.size

def contains (s : CharSet) (c : Char) : Bool := s.has c.toNat

def hexDigit (c : Char) : Nat :=
  if c.isDigit then c.toNat - '0'.toNat else c.toNat - 'A'.toNat + 10

/-- State of reading: ranges so far, the first code point of an open range, the current one. -/
structure Reading where
  ranges : Array (Nat × Nat)
  first : Option Nat
  current : Nat

def Reading.close (r : Reading) : Array (Nat × Nat) :=
  r.ranges.push (r.first.getD r.current, r.current)

def Reading.step (r : Reading) (c : Char) : Reading :=
  if c = ' ' then ⟨r.close, none, 0⟩
  else if c = '-' then ⟨r.ranges, some r.current, 0⟩
  else { r with current := 16 * r.current + hexDigit c }

/-- Reads rows of ranges written in upper-case hexadecimal, `41-5A 61-7A AA`. -/
def ofRows (rows : List String) : CharSet :=
  ⟨((" ".intercalate rows).foldl Reading.step ⟨#[], none, 0⟩).close⟩

end CharSet
end RecordSearch.Text
