import RecordSearch.Pattern.Reader

/-! Patterns that filters match strings with. A pattern is used by its matcher only, whatever way of
matching that is; reading a text gives the matcher of the expression that is written there. -/
namespace RecordSearch

/-- A pattern with the text it was read from. -/
structure Pattern where
  text : String
  /-- Whether some part of a string matches. -/
  isMatch : String → Bool

namespace Pattern

def read (text : String) : Except Problem Pattern :=
  (readExpr text).map fun expr => ⟨text, expr.isMatch⟩

end Pattern
end RecordSearch
