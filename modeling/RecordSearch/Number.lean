import RecordSearch.Number.Shortest

/-! Numbers as records and operands hold them: signed and unsigned words, and doubles. Integers
compare as integers whatever their words; a comparison with a double is made between doubles. -/
namespace RecordSearch

inductive Number
  | signed (n : Int64)
  | unsigned (n : UInt64)
  | real (x : Binary64)
  deriving DecidableEq

namespace Number

def toBinary64 : Number → Binary64
  | signed n => .ofInt n.toInt
  | unsigned n => .ofInt n.toNat
  | real x => x

/-- A negative signed word is below every unsigned word. -/
def compareWords (a : Int64) (b : UInt64) : Ordering :=
  if a < 0 then .lt else Ord.compare a.toUInt64 b

/-- The order of two numbers; there is none when either is not a number. -/
def compare : Number → Number → Option Ordering
  | signed a, signed b => some (Ord.compare a b)
  | unsigned a, unsigned b => some (Ord.compare a b)
  | signed a, unsigned b => some (compareWords a b)
  | unsigned a, signed b => some (compareWords b a).swap
  | a, b => a.toBinary64.compare b.toBinary64

/-- Equality of representation: words of different signedness are never the same, and doubles
are the same when they compare equal. -/
def same : Number → Number → Bool
  | signed a, signed b => a == b
  | unsigned a, unsigned b => a == b
  | real x, real y => x.compare y == some .eq
  | _, _ => false

def lt (a b : Number) : Bool := a.compare b == some .lt
def gt (a b : Number) : Bool := a.compare b == some .gt
def le (a b : Number) : Bool := a.lt b || a.compare b == some .eq
def ge (a b : Number) : Bool := a.gt b || a.compare b == some .eq

/-- A count of records is an integer that is not negative. -/
def count? : Number → Option Nat
  | signed n => if n < 0 then none else some n.toInt.toNat
  | unsigned n => some n.toNat
  | real _ => none

def text : Number → String
  | signed n => toString n.toInt
  | unsigned n => toString n.toNat
  | real x => x.text .plain

end Number
end RecordSearch
