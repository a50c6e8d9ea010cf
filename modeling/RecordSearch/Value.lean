import RecordSearch.Number
import RecordSearch.Timestamp

/-! Values of record fields, and the scalars that filters compare them with. -/
namespace RecordSearch

/-- The declared sort of a record field. -/
inductive Kind
  | string | number | timestamp | enum | bool | list
  deriving DecidableEq, Repr

namespace Kind

def name : Kind → String
  | string => "string"
  | number => "number"
  | timestamp => "timestamp"
  | enum => "enum"
  | bool => "bool"
  | list => "list"

def all : List Kind := [string, number, timestamp, enum, bool, list]

end Kind

/-- What a record holds in a field. Lists may hold lists and missing values. -/
inductive Value
  | string (s : String)
  | number (n : Number)
  | timestamp (t : Timestamp)
  | enum (discriminant : UInt32)
  | bool (b : Bool)
  | list (items : List Value)
  | missing

namespace Value

def kind? : Value → Option Kind
  | string _ => some .string
  | number _ => some .number
  | timestamp _ => some .timestamp
  | enum _ => some .enum
  | bool _ => some .bool
  | list _ => some .list
  | missing => none

def isMissing : Value → Bool
  | missing => true
  | _ => false

def string? : Value → Option String
  | string s => some s
  | _ => none

def list? : Value → Option (List Value)
  | list items => some items
  | _ => none

end Value

/-- An operand of a comparison. -/
inductive Scalar
  | string (s : String)
  | number (n : Number)
  | timestamp (t : Timestamp)
  | enum (discriminant : UInt32)
  | bool (b : Bool)
  deriving DecidableEq

namespace Scalar

def kind : Scalar → Kind
  | string _ => .string
  | number _ => .number
  | timestamp _ => .timestamp
  | enum _ => .enum
  | bool _ => .bool

/-- The value that a record holding this scalar has. -/
def toValue : Scalar → Value
  | string s => .string s
  | number n => .number n
  | timestamp t => .timestamp t
  | enum d => .enum d
  | bool b => .bool b

@[simp] theorem kind?_toValue (s : Scalar) : s.toValue.kind? = some s.kind := by
  cases s <;> rfl

/-- Where a value stands relative to a scalar; there is no answer across kinds, for a missing
value, and for what is not a number. -/
def order? : Scalar → Value → Option Ordering
  | string s, .string v => some (Ord.compare v s)
  | number n, .number v => v.compare n
  | timestamp t, .timestamp v => some (v.compare t)
  | enum d, .enum v => some (Ord.compare v d)
  | bool b, .bool v => some (Ord.compare v b)
  | _, _ => none

def isEqual (s : Scalar) (v : Value) : Bool := s.order? v == some .eq

/-- Only strings, numbers and points in time have an order beyond equality. -/
def isOrdered : Scalar → Bool
  | enum _ | bool _ => false
  | _ => true

/-- Equality of representation; see `Number.same`. -/
def same : Scalar → Scalar → Bool
  | number a, number b => a.same b
  | a, b => a == b

end Scalar
end RecordSearch
