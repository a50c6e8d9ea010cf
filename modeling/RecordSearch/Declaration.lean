/-! Declarations of types with attributes on their fields, as far as a derivation looks at them. -/
namespace RecordSearch

/-- A declared type: its text, and for a path the last name with its first argument, if that
argument is a type. -/
inductive DeclaredType
  | path (text : String) (name : String) (argument? : Option DeclaredType)
  | other (text : String)

namespace DeclaredType

def text : DeclaredType → String
  | path text _ _ => text
  | other text => text

/-- The last name of a path. -/
def name? : DeclaredType → Option String
  | path _ name _ => some name
  | other _ => none

/-- The type inside of one layer of `Option`. -/
def inner? : DeclaredType → Option DeclaredType
  | path _ name argument? => if name = "Option" then argument? else none
  | other _ => none

end DeclaredType

/-- What stands between two commas of an attribute. Its name is absent if it is qualified. -/
inductive AttributeItem
  | word (name? : Option String)
  | list
  /-- A value that is not a string literal is absent. -/
  | assign (name? : Option String) (value? : Option String)
  deriving DecidableEq, Repr

/-- An attribute; the items are absent unless they are given in brackets and can be read. -/
structure Attribute where
  name? : Option String
  items? : Option (List AttributeItem)
  deriving DecidableEq, Repr

structure FieldDeclaration where
  name : String
  type : DeclaredType
  attributes : List Attribute

inductive Declaration
  /-- A structure with named fields. -/
  | named (fields : List FieldDeclaration)
  /-- A structure whose fields have no names. -/
  | unnamed
  /-- A declaration of something other than a structure. -/
  | notStructure

end RecordSearch
