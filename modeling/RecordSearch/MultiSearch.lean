import RecordSearch.Search.Selector

/-! One filter on several record fields. -/
namespace RecordSearch

/-- A source, the filter, and the predicates of the fields it has been put on so far. -/
structure MultiSearch (σ : Type) where
  source : σ
  schema : Schema
  filter : Filter
  mode : ApplyMode
  predicates : List Predicate

namespace MultiSearch
variable {σ : Type}

def start (source : σ) (schema : Schema) (filter : Filter) (mode : ApplyMode) : MultiSearch σ :=
  ⟨source, schema, filter, mode, []⟩

/-- Adds a record field, which must take the filter; an inactive filter takes any. -/
def on (m : MultiSearch σ) (field : String) : Except SearchError (MultiSearch σ) :=
  if m.filter.isActive then do
    m.schema.checkSelector field m.filter
    return { m with predicates := m.predicates ++ (m.filter.predicate? field).toList }
  else return m

def predicate? (m : MultiSearch σ) : Option Predicate := m.mode.combine m.predicates

/-- Narrows the source by the combined predicate, once. -/
def apply [Source σ] (m : MultiSearch σ) : σ := Source.filterBy? m.predicate? m.source

end MultiSearch
end RecordSearch
