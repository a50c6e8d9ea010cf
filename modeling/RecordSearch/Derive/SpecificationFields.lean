import RecordSearch.Derive.Fields
import RecordSearch.Specification

/-! Deriving the table of a specification: for every declared field that takes part, a constant
with its name, its role, and how its setting is read. -/
namespace RecordSearch

/-- A role that an attribute gives to a field. -/
inductive RoleMarker
  | filter | skip | take
  /-- The field takes no part. -/
  | ignore
  deriving DecidableEq, Repr

namespace RoleMarker

def name : RoleMarker → String
  | filter => "filter"
  | skip => "skip"
  | take => "take"
  | ignore => "ignore"

def all : List RoleMarker := [filter, skip, take, ignore]

def named? (name : String) : Option RoleMarker := all.find? fun m => m.name == name

theorem named?_name (m : RoleMarker) : named? m.name = some m := by cases m <;> decide

end RoleMarker

/-- What the items of an attribute say of a field of a specification. -/
structure SpecAttribute where
  role? : Option RoleMarker := none
  rename? : Option String := none
  deriving DecidableEq, Repr

namespace SpecAttribute

/-- Takes up one item; a role may be repeated but not changed. -/
def add (a : SpecAttribute) : AttributeItem → Except SpecItemProblem SpecAttribute
  | .word name? =>
    match name?.bind RoleMarker.named? with
    | none => .error .unknownRole
    | some role =>
      if a.role?.any fun other => other != role then .error .secondRole
      else .ok { a with role? := some role }
  | .assign name? value? =>
    if name? = some "rename" then
      match value? with
      | some value => .ok { a with rename? := some value }
      | none => .error .renameNotText
    else .error .unknownItem
  | .list => .error .unknownItem

def ofItems (items : List AttributeItem) : Except SpecItemProblem SpecAttribute :=
  items.foldlM add {}

/-- The attribute of a field. -/
def ofField (f : FieldDeclaration) : Except DeriveError SpecAttribute := do
  (ofItems (← f.items "spec")).mapError .specItem

end SpecAttribute

namespace DeclaredType

/-- The names of filter types. -/
def filterNames : List String :=
  ["StringFilter", "ComparableFilter", "BooleanFilter", "EnumFilter", "ListFilter",
    "IntegerFilter", "LongFilter", "ShortFilter", "FloatFilter", "DoubleFilter", "DateTimeFilter"]

def isFilter (t : DeclaredType) : Bool := t.name?.any filterNames.contains

end DeclaredType

/-- The role of a field: the one given, or that of its type. A field may be left out. -/
def roleOf? (marker? : Option RoleMarker) (type : DeclaredType) : Option Role :=
  match marker? with
  | some .ignore => none
  | some .skip => some .skip
  | some .take => some .take
  | some .filter => some .filter
  | none => if (type.inner?.getD type).isFilter then some .filter else some .plain

/-- How the setting under a name is read, and from which field. -/
structure SettingArm where
  name : String
  isFilter : Bool
  field : String
  /-- The field may hold no filter. -/
  throughOption : Bool
  deriving DecidableEq, Repr

/-- The table of a specification. -/
structure Descriptors where
  /-- The constants with the names that they hold. -/
  constants : List (String × String)
  fields : List FieldDescriptor
  values : List SettingArm
  deriving DecidableEq, Repr

namespace Descriptors

def empty : Descriptors := ⟨[], [], []⟩

/-- Puts the descriptor of one field before the others. -/
def add (f : FieldDeclaration) (name constant : String) (role : Role) (d : Descriptors) :
    Descriptors where
  constants := (constant, name) :: d.constants
  fields := ⟨name, role⟩ :: d.fields
  values := ⟨name, role == .filter, f.name, role == .filter && f.type.inner?.isSome⟩ :: d.values

def ofFields : List FieldDeclaration → Except DeriveError Descriptors
  | [] => .ok empty
  | f :: fs => do
    let a ← SpecAttribute.ofField f
    match roleOf? a.role? f.type with
    | some role =>
      let name := a.rename?.getD f.name
      let constant ← checkedConstant name
      return (← ofFields fs).add f name constant role
    | none => ofFields fs

def derive (d : Declaration) : Except DeriveError Descriptors := do
  ofFields (← d.fieldsFor "Specification")

end Descriptors
end RecordSearch
