import RecordSearch.Declaration
import RecordSearch.Derive.ConstantName
import RecordSearch.Derive.Error

/-! What all derivations share: the fields of a declaration, the attribute of a field and the
constant that holds its name. -/
namespace RecordSearch

namespace Declaration

/-- The named fields, for a derivation that is called as given. -/
def fieldsFor (d : Declaration) (derived : String) : Except DeriveError (List FieldDeclaration) :=
  match d with
  | named fields => .ok fields
  | unnamed => .error (.unnamedFields derived)
  | notStructure => .error (.notStructure derived)

end Declaration

namespace FieldDeclaration

/-- The items of the first attribute of a name; a field without one has no items. -/
def items (f : FieldDeclaration) (called : String) : Except DeriveError (List AttributeItem) :=
  match f.attributes.find? fun a => a.name? == some called with
  | none => .ok []
  | some a =>
    match a.items? with
    | some items => .ok items
    | none => .error .unreadable

end FieldDeclaration

/-- The name of the constant for a field; it must be one that can be written. -/
def checkedConstant (field : String) : Except DeriveError String :=
  let name := constantName field
  if Text.isIdentifier name then .ok name else .error (.badConstant name)

end RecordSearch
