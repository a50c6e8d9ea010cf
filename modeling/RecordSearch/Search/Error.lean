import RecordSearch.Specification
import RecordSearch.Text.Quoted

/-! Why a search cannot be made, and how that is put to the user. -/
namespace RecordSearch

namespace Scalar

/-- A scalar as messages show it. -/
def text : Scalar → String
  | string s => Text.quote s
  | number n => n.text
  | timestamp t => "@" ++ toString t.millis.toInt
  | enum d => "#" ++ toString d.toNat
  | bool b => if b then "true" else "false"

end Scalar

/-- Why a field cannot be selected. -/
inductive SelectorProblem
  | noRecordField
  | wrongKind (record wanted : Kind)
  | wrongElement (record wanted : Kind)
  | noSpecificationField
  | notAFilter (role : Role)
  deriving DecidableEq, Repr

namespace SelectorProblem

def message : SelectorProblem → String
  | noRecordField => "not a field of the record type"
  | wrongKind record wanted => record.name ++ " field cannot take a " ++ wanted.name ++ " filter"
  | wrongElement record wanted =>
    "list of " ++ record.name ++ " cannot take a list filter of " ++ wanted.name
  | noSpecificationField => "not a specification field"
  | notAFilter role => role.name ++ " field cannot be configured"

end SelectorProblem

inductive SearchError
  | unknownField (field : String)
  | invalidPaging (field : String) (value : Scalar)
  | invalidSelector (field : String) (problem : SelectorProblem)
  | typeMismatch (field : String) (expected actual : Kind)
  deriving DecidableEq

namespace SearchError

/-- The field that an error is about. -/
def field : SearchError → String
  | unknownField f => f
  | invalidPaging f _ => f
  | invalidSelector f _ => f
  | typeMismatch f _ _ => f

def message : SearchError → String
  | unknownField f => "unknown field '" ++ f ++ "': the record type has no such field"
  | invalidPaging f v =>
    "invalid paging value for '" ++ f ++ "': expected a non-negative integer, got " ++ v.text
  | invalidSelector f p => "invalid field selector '" ++ f ++ "': " ++ p.message
  | typeMismatch f expected actual =>
    "type mismatch on '" ++ f ++ "': record field is " ++ expected.name ++ ", value targets " ++
      actual.name

end SearchError
end RecordSearch
