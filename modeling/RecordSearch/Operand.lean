import RecordSearch.Value

/-! What filter operands and record fields are made of. Operands are of any type whose members have
scalars. For the usual types there are two conversions: of an operand into a scalar, and of a field
into a value. -/
namespace RecordSearch

/-- A type that operands may be of: the kind of record field that they compare with, and the scalar
of each, unless it is absent. -/
structure ScalarType where
  Carrier : Type
  kind : Kind
  scalar? : Carrier → Option Scalar

/-- Operands that may be left out; an absent one has no scalar. -/
@[reducible] def ScalarType.optional (t : ScalarType) : ScalarType where
  Carrier := Option t.Carrier
  kind := t.kind
  scalar? v := v.bind t.scalar?

/-- The usual operand types, which record fields are of as well. -/
inductive OperandType
  | int8 | int16 | int32 | int64
  | word8 | word16 | word32 | word64
  | single | double
  | string | bool | timestamp
  | optional (t : OperandType)
  deriving DecidableEq, Repr

namespace OperandType

/-- A single-precision number is held as the double it widens to. -/
@[reducible] def toScalarType : OperandType → ScalarType
  | int8 => ⟨Int8, .number, fun n => some (.number (.signed n.toInt64))⟩
  | int16 => ⟨Int16, .number, fun n => some (.number (.signed n.toInt64))⟩
  | int32 => ⟨Int32, .number, fun n => some (.number (.signed n.toInt64))⟩
  | int64 => ⟨Int64, .number, fun n => some (.number (.signed n))⟩
  | word8 => ⟨UInt8, .number, fun n => some (.number (.unsigned n.toUInt64))⟩
  | word16 => ⟨UInt16, .number, fun n => some (.number (.unsigned n.toUInt64))⟩
  | word32 => ⟨UInt32, .number, fun n => some (.number (.unsigned n.toUInt64))⟩
  | word64 => ⟨UInt64, .number, fun n => some (.number (.unsigned n))⟩
  | single => ⟨Binary64, .number, fun x => some (.number (.real x))⟩
  | double => ⟨Binary64, .number, fun x => some (.number (.real x))⟩
  | string => ⟨String, .string, fun s => some (.string s)⟩
  | bool => ⟨Bool, .bool, fun b => some (.bool b)⟩
  | timestamp => ⟨Timestamp, .timestamp, fun t => some (.timestamp t)⟩
  | optional t => t.toScalarType.optional

instance : Coe OperandType ScalarType := ⟨toScalarType⟩

abbrev Carrier (t : OperandType) : Type := t.toScalarType.Carrier

/-- The kind of record field that operands of a type compare with. -/
abbrev kind (t : OperandType) : Kind := t.toScalarType.kind

/-- The scalar of an operand; an absent one has none. -/
abbrev scalar? (t : OperandType) : t.Carrier → Option Scalar := t.toScalarType.scalar?

/-- The value of a field; an absent one is missing. -/
def value : (t : OperandType) → t.Carrier → Value
  | int8, n => .number (.signed n.toInt64)
  | int16, n => .number (.signed n.toInt64)
  | int32, n => .number (.signed n.toInt64)
  | int64, n => .number (.signed n)
  | word8, n => .number (.unsigned n.toUInt64)
  | word16, n => .number (.unsigned n.toUInt64)
  | word32, n => .number (.unsigned n.toUInt64)
  | word64, n => .number (.unsigned n)
  | single, x => .number (.real x)
  | double, x => .number (.real x)
  | string, s => .string s
  | bool, b => .bool b
  | timestamp, t => .timestamp t
  | optional _, none => .missing
  | optional t, some v => t.value v

theorem kind_of_scalar? {t : OperandType} {v : t.Carrier} {s : Scalar} (h : t.scalar? v = some s) :
    s.kind = t.kind := by
  induction t with
  | optional t ih =>
    obtain ⟨w, rfl, hw⟩ := Option.bind_eq_some_iff.1 h
    exact ih hw
  | _ => obtain rfl := Option.some.inj h; rfl

/-- The order of operands of one type: absent ones first, doubles by their place. -/
def compare : (t : OperandType) → t.Carrier → t.Carrier → Ordering
  | int8, a, b => Ord.compare a b
  | int16, a, b => Ord.compare a b
  | int32, a, b => Ord.compare a b
  | int64, a, b => Ord.compare a b
  | word8, a, b => Ord.compare a b
  | word16, a, b => Ord.compare a b
  | word32, a, b => Ord.compare a b
  | word64, a, b => Ord.compare a b
  | single, a, b => Ord.compare a.key b.key
  | double, a, b => Ord.compare a.key b.key
  | string, a, b => Ord.compare a b
  | bool, a, b => Ord.compare a b
  | timestamp, a, b => a.compare b
  | optional _, none, none => .eq
  | optional _, none, some _ => .lt
  | optional _, some _, none => .gt
  | optional t, some a, some b => t.compare a b

/-- Puts an operand into an ascending list, once. -/
def insertDistinct (t : OperandType) (a : t.Carrier) : List t.Carrier → List t.Carrier
  | [] => [a]
  | b :: bs =>
    match t.compare a b with
    | .lt => a :: b :: bs
    | .eq => b :: bs
    | .gt => b :: t.insertDistinct a bs

end OperandType

/-- How a collection field keeps its elements. -/
inductive Container
  /-- All of them, in the order given. -/
  | sequence
  /-- Each once, in ascending order. -/
  | set
  deriving DecidableEq, Repr

namespace Container

def items (c : Container) (t : OperandType) (given : List t.Carrier) : List t.Carrier :=
  match c with
  | sequence => given
  | set => given.foldr t.insertDistinct []

/-- The value of a collection field; an absent collection is missing. -/
def value (c : Container) (t : OperandType) : Option (List t.Carrier) → Value
  | some given => .list ((c.items t given).map t.value)
  | none => .missing

end Container
end RecordSearch
