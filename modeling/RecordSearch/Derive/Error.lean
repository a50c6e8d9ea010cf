/-! Why nothing can be derived from a declaration, and how that is put to the user. -/
namespace RecordSearch

/-- What is wrong with an item of an attribute that declares a record field. -/
inductive SearchItemProblem
  | unknownKind (name : String)
  | qualifiedKind
  | qualifiedOption
  | notText (name : String)
  | unknownOption
  | list
  deriving DecidableEq, Repr

namespace SearchItemProblem

def kindNames : String := "String, Number, Timestamp, Enum, Bool, List"

def message : SearchItemProblem → String
  | unknownKind name => "unknown search kind: '" ++ name ++ "'. Expected one of: " ++ kindNames
  | qualifiedKind => "expected " ++ kindNames ++ ", or skip"
  | qualifiedOption => "expected rename or ty"
  | notText name => name ++ " must be a string literal"
  | unknownOption => "unknown attribute. Expected: rename or ty"
  | list =>
    "unknown search attribute. Expected: " ++ kindNames ++
      ", skip, rename = \"...\", or ty = \"...\""

end SearchItemProblem

/-- What is wrong with an item of an attribute that declares a field of a specification. -/
inductive SpecItemProblem
  | unknownRole
  | secondRole
  | renameNotText
  | unknownItem
  deriving DecidableEq, Repr

namespace SpecItemProblem

def message : SpecItemProblem → String
  | unknownRole => "expected filter, skip, take, ignore, or rename = \"...\""
  | secondRole => "a field can carry only one role"
  | renameNotText => "rename must be a string literal"
  | unknownItem =>
    "unknown spec attribute. Expected: filter, skip, take, ignore, or rename = \"...\""

end SpecItemProblem

inductive DeriveError
  /-- A text that is no declaration, or an attribute without a list of items. -/
  | unreadable
  | notStructure (derived : String)
  | unnamedFields (derived : String)
  | searchItem (problem : SearchItemProblem)
  | specItem (problem : SpecItemProblem)
  /-- A field whose constant would not have a name. -/
  | badConstant (name : String)
  deriving DecidableEq, Repr

namespace DeriveError

/-- The message, for errors that have one of their own. -/
def message? : DeriveError → Option String
  | unreadable => none
  | notStructure derived => some (derived ++ " can only be derived for structs")
  | unnamedFields derived =>
    some (derived ++ " can only be derived for structs with named fields")
  | searchItem problem => some problem.message
  | specItem problem => some problem.message
  | badConstant _ => none

end DeriveError
end RecordSearch
