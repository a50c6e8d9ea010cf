import RecordSearch.Derive.Fields
import RecordSearch.Value

/-! Deriving the accessors of a record type: for every declared field that is searched, a constant
with its name, how its value is read, and its kind; for lists also where the kind of the elements
comes from. -/
namespace RecordSearch

/-- What the items of an attribute say of a record field. -/
structure SearchAttribute where
  kind? : Option Kind := none
  skip : Bool := false
  rename? : Option String := none
  deriving DecidableEq, Repr

namespace SearchAttribute

/-- The kinds by the names that attributes call them. -/
def kindNames : List (String × Kind) :=
  [("String", .string), ("string", .string), ("Number", .number), ("number", .number),
    ("Timestamp", .timestamp), ("timestamp", .timestamp), ("Enum", .enum), ("enum", .enum),
    ("enumeration", .enum), ("Bool", .bool), ("bool", .bool), ("boolean", .bool), ("List", .list),
    ("list", .list)]

def kindNamed (name : String) : Except SearchItemProblem Kind :=
  match kindNames.lookup name with
  | some k => .ok k
  | none => .error (.unknownKind name)

/-- Takes up one item; a later kind or name replaces an earlier one. -/
def add (a : SearchAttribute) : AttributeItem → Except SearchItemProblem SearchAttribute
  | .word none => .error .qualifiedKind
  | .word (some name) =>
    if name = "skip" then .ok { a with skip := true }
    else (kindNamed name).map fun k => { a with kind? := some k }
  | .assign none _ => .error .qualifiedOption
  | .assign (some name) none => .error (.notText name)
  | .assign (some name) (some value) =>
    if name = "rename" then .ok { a with rename? := some value }
    else if name = "ty" then (kindNamed value).map fun k => { a with kind? := some k }
    else .error .unknownOption
  | .list => .error .list

def ofItems (items : List AttributeItem) : Except SearchItemProblem SearchAttribute :=
  items.foldlM add {}

/-- The attribute of a field. -/
def ofField (f : FieldDeclaration) : Except DeriveError SearchAttribute := do
  (ofItems (← f.items "search")).mapError .searchItem

end SearchAttribute

/-- How the value of a field is read. -/
inductive Conversion
  | value | enumValue | listValue
  deriving DecidableEq, Repr

def Conversion.ofKind : Kind → Conversion
  | .enum => enumValue
  | .list => listValue
  | _ => value

/-- How the value under a name is read, and from which field. -/
structure ValueArm where
  name : String
  conversion : Conversion
  field : String
  deriving DecidableEq, Repr

/-- The accessors of a record type. -/
structure Accessors where
  /-- The constants with the names that they hold. -/
  constants : List (String × String)
  values : List ValueArm
  kinds : List (String × Kind)
  /-- The types whose elements' kind is that of a list field's elements. -/
  elements : List (String × String)
  deriving DecidableEq, Repr

namespace Accessors

def empty : Accessors := ⟨[], [], [], []⟩

/-- Puts the accessors of one field before the others. -/
def add (f : FieldDeclaration) (name constant : String) (k : Kind) (a : Accessors) : Accessors where
  constants := (constant, name) :: a.constants
  values := ⟨name, .ofKind k, f.name⟩ :: a.values
  kinds := (name, k) :: a.kinds
  elements := if k = .list then (name, f.type.text) :: a.elements else a.elements

/-- A field that is skipped or has no kind is not searched. -/
def ofFields : List FieldDeclaration → Except DeriveError Accessors
  | [] => .ok empty
  | f :: fs => do
    let a ← SearchAttribute.ofField f
    match a.kind? with
    | some k =>
      if a.skip then ofFields fs
      else
        let name := a.rename?.getD f.name
        let constant ← checkedConstant name
        return (← ofFields fs).add f name constant k
    | none => ofFields fs

def derive (d : Declaration) : Except DeriveError Accessors := do
  ofFields (← d.fieldsFor "Searchable")

end Accessors
end RecordSearch
