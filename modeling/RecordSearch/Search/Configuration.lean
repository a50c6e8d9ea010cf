import RecordSearch.Search.Selector

/-! Spreading the filter of one field of a specification over several record fields. -/
namespace RecordSearch

/-- A field, its filter, and the record fields it is mapped to so far. -/
structure Configuration where
  field : String
  filter : Filter
  targets : List String

/-- What replaces the default application of a field; without a predicate nothing does. -/
structure FieldOverride where
  field : String
  predicate? : Option Predicate

namespace Configuration

def start (field : String) (filter : Filter) : Configuration := ⟨field, filter, []⟩

/-- Adds a record field, which must take the filter. -/
def mapTo (c : Configuration) (schema : Schema) (target : String) :
    Except SearchError Configuration := do
  schema.checkSelector target c.filter
  return { c with targets := c.targets ++ [target] }

def withMode (c : Configuration) (mode : ApplyMode) : FieldOverride :=
  ⟨c.field, mode.combine (c.targets.filterMap c.filter.predicate?)⟩

def finish (c : Configuration) : FieldOverride := c.withMode .and

end Configuration
end RecordSearch
