import RecordSearch.Filter

/-! What is searched, and what for: the declared fields of a record type, and a specification, which
lists the fields of a search with their roles and says what each is set to. -/
namespace RecordSearch

/-- The declared kinds of the fields of a record type, and the kinds of elements of lists where
they are declared. -/
structure Schema where
  kind? : String → Option Kind
  element? : String → Option Kind := fun _ => none

namespace Schema

def has (s : Schema) (field : String) : Bool := (s.kind? field).isSome

end Schema

/-- What a field of a specification is for. -/
inductive Role
  /-- A filter on the record field of the same name. -/
  | filter
  /-- How many records to skip. -/
  | skip
  /-- How many records to keep at most. -/
  | take
  /-- A value that the record field of the same name must equal, if all fields are applied. -/
  | plain
  deriving DecidableEq, Repr

namespace Role

def name : Role → String
  | filter => "filter"
  | skip => "skip"
  | take => "take"
  | plain => "plain"

def all : List Role := [filter, skip, take, plain]

end Role

structure FieldDescriptor where
  name : String
  role : Role
  deriving DecidableEq, Repr

/-- What a field of a specification is set to. A scalar field that is set may still hold an absent
value. -/
inductive Setting
  | unsetFilter
  | filter (f : Filter)
  | unsetScalar
  | scalar (value : Option Scalar)
  | missing

namespace Setting

/-- The filter to apply: one that is set and active. -/
def activeFilter? : Setting → Option Filter
  | filter f => if f.isActive then some f else none
  | _ => none

def scalar? : Setting → Option Scalar
  | scalar value => value
  | _ => none

end Setting

/-- The fields of a search, in the order of declaration, and their settings. -/
structure Specification where
  fields : List FieldDescriptor
  setting : String → Setting

namespace Specification

/-- The first descriptor of a name. -/
def descriptor? (s : Specification) (field : String) : Option FieldDescriptor :=
  s.fields.find? fun d => d.name == field

/-- The names of the fields in a role, in order. -/
def named (s : Specification) (role : Role) : List String :=
  (s.fields.filter fun d => d.role == role).map FieldDescriptor.name

end Specification
end RecordSearch
