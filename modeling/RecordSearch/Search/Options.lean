import RecordSearch.Search

/-! Options of a search. -/
namespace RecordSearch

/-- When invalid fields are reported. -/
inductive Validation
  /-- When the field is applied. -/
  | onUse
  /-- When the search is made. -/
  | atStart
  deriving DecidableEq, Repr

structure SearchOptions where
  applyAllProperties : Bool
  applyPaging : Bool
  validation : Validation
  deriving DecidableEq, Repr

namespace SearchOptions

def standard : SearchOptions := ⟨false, false, .onUse⟩

end SearchOptions

namespace Search
variable {σ : Type} [Source σ]

/-- Makes a search; with validation at the start, the first invalid field is reported here. -/
def startWith (source : σ) (schema : Schema) (spec : Specification) (o : SearchOptions) :
    Except SearchError (Search σ) := do
  let s := start source schema spec o.applyAllProperties o.applyPaging
  match o.validation with
  | .onUse => return s
  | .atStart =>
    s.validate
    return s

end Search
end RecordSearch
