import RecordSearch.Declaration.Item
import RecordSearch.Derive.RecordFields
import RecordSearch.Derive.SpecificationFields

/-! Derivations from the text of a declaration. -/
namespace RecordSearch

def Declaration.read (s : String) : Except DeriveError Declaration :=
  match Declaration.read? s with
  | some d => .ok d
  | none => .error .unreadable

def Accessors.ofText (s : String) : Except DeriveError Accessors := do
  derive (← Declaration.read s)

def Descriptors.ofText (s : String) : Except DeriveError Descriptors := do
  derive (← Declaration.read s)

def itemsOfText (s : String) : Except DeriveError (List AttributeItem) :=
  match AttributeItem.readAll? s with
  | some items => .ok items
  | none => .error .unreadable

def SearchAttribute.ofText (s : String) : Except DeriveError SearchAttribute := do
  (ofItems (← itemsOfText s)).mapError .searchItem

def SpecAttribute.ofText (s : String) : Except DeriveError SpecAttribute := do
  (ofItems (← itemsOfText s)).mapError .specItem

end RecordSearch
