import RecordSearch.Operand
import RecordSearch.Specification

/-! Record types and specifications given by tables. A column says under which name a part of a
record is searched, what kind it is and how it is read; an entry says the same of a part of a
specification. Of two with one name the first counts. -/
namespace RecordSearch

structure Column (ρ : Type) where
  name : String
  kind : Kind
  /-- The kind of the elements, for lists. -/
  element? : Option Kind
  read : ρ → Value

namespace Column
variable {ρ : Type}

/-- A column of single values of some operand type. -/
def plain (name : String) (t : OperandType) (read : ρ → t.Carrier) : Column ρ :=
  ⟨name, t.kind, none, fun r => t.value (read r)⟩

/-- A column of discriminants. -/
def enum (name : String) (read : ρ → Option UInt32) : Column ρ :=
  ⟨name, .enum, none, fun r => (read r).elim .missing .enum⟩

/-- A column of collections. -/
def list (name : String) (c : Container) (t : OperandType) (read : ρ → Option (List t.Carrier)) :
    Column ρ :=
  ⟨name, .list, some t.kind, fun r => c.value t (read r)⟩

end Column

structure RecordTable (ρ : Type) where
  columns : List (Column ρ)

namespace RecordTable
variable {ρ : Type}

def column? (t : RecordTable ρ) (field : String) : Option (Column ρ) :=
  t.columns.find? fun c => c.name == field

/-- What a record holds in a field; a field without a column is missing. -/
def value (t : RecordTable ρ) (r : ρ) (field : String) : Value :=
  (t.column? field).elim .missing fun c => c.read r

def schema (t : RecordTable ρ) : Schema where
  kind? field := (t.column? field).map Column.kind
  element? field := (t.column? field).bind Column.element?

end RecordTable

structure Entry (α : Type) where
  name : String
  role : Role
  read : α → Setting

namespace Entry
variable {α : Type}

/-- A filter that may be left out. -/
def filter (name : String) (read : α → Option Filter) : Entry α :=
  ⟨name, .filter, fun a => (read a).elim .unsetFilter .filter⟩

/-- A value of some operand type, in any role but that of a filter. -/
def scalar (name : String) (role : Role) (t : OperandType) (read : α → t.Carrier) : Entry α :=
  ⟨name, role, fun a => .scalar (t.scalar? (read a))⟩

end Entry

structure SpecificationTable (α : Type) where
  entries : List (Entry α)

namespace SpecificationTable
variable {α : Type}

/-- The specification that a value of the described type is. -/
def specification (t : SpecificationTable α) (a : α) : Specification where
  fields := t.entries.map fun e => ⟨e.name, e.role⟩
  setting field := (t.entries.find? fun e => e.name == field).elim .missing fun e => e.read a

end SpecificationTable
end RecordSearch
