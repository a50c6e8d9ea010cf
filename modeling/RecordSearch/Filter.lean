import RecordSearch.Predicate

/-! Filters: sets of constraints on one field, kept apart from the field they are put on. A
filter says whether it constrains anything, what it asks of a named field, and which kinds of
fields it can be put on. -/
namespace RecordSearch

structure Filter where
  isActive : Bool
  predicate? : String → Option Predicate
  target : Kind
  /-- The kind of elements, for filters on lists. -/
  element? : Option Kind := none
  accepts : Kind → Bool := fun k => k == target

namespace Filter

/-- The kinds of fields that a filter can be put on. -/
def accepted (f : Filter) : List Kind := Kind.all.filter f.accepts

end Filter
end RecordSearch
