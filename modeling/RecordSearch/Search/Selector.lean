import RecordSearch.Search.Error
import RecordSearch.Source

/-! Putting filters and values on record fields: which fields take which, and the search for one
filter on one field. -/
namespace RecordSearch

namespace Schema

/-- What keeps a filter from a field of some kind: the field's kind and the one the filter is for,
or the kinds of their elements, where the record declares one. -/
def mismatch? (s : Schema) (field : String) (kind : Kind) (f : Filter) : Option (Kind × Kind) :=
  if f.accepts kind then
    match s.element? field, f.element? with
    | some record, some wanted => if record = wanted then none else some (record, wanted)
    | _, _ => none
  else some (kind, f.target)

/-- Checks that a selected field takes a filter. -/
def checkSelector (s : Schema) (field : String) (f : Filter) : Except SearchError Unit :=
  match s.kind? field with
  | none => .error (.invalidSelector field .noRecordField)
  | some kind =>
    match s.mismatch? field kind f with
    | none => .ok ()
    | some (record, wanted) =>
      if f.accepts kind then .error (.invalidSelector field (.wrongElement record wanted))
      else .error (.invalidSelector field (.wrongKind record wanted))

/-- What a filter asks of the field it is declared for. -/
def filterPredicate (s : Schema) (field : String) (f : Filter) :
    Except SearchError (Option Predicate) :=
  match s.kind? field with
  | none => .error (.unknownField field)
  | some kind =>
    match s.mismatch? field kind f with
    | some (expected, actual) => .error (.typeMismatch field expected actual)
    | none => .ok (f.predicate? field)

/-- The predicate that a field equals a value. -/
def equalityPredicate (s : Schema) (field : String) (value : Scalar) :
    Except SearchError Predicate :=
  match s.kind? field with
  | none => .error (.unknownField field)
  | some kind =>
    if value.kind = kind then .ok (.compare field .eq value)
    else .error (.typeMismatch field kind value.kind)

end Schema

namespace Source
variable {σ : Type} [Source σ]

/-- Narrows by a predicate, if there is one. -/
def filterBy? (p : Option Predicate) (source : σ) : σ :=
  match p with
  | some p => filterBy p source
  | none => source

/-- Puts one filter on one record field; an inactive filter changes nothing. -/
def searchField (schema : Schema) (field : String) (f : Filter) (source : σ) :
    Except SearchError σ :=
  if f.isActive then do
    schema.checkSelector field f
    return filterBy? (f.predicate? field) source
  else return source

end Source

/-- How many records a paging value stands for. -/
def pagingCount (field : String) (value : Scalar) : Except SearchError Nat :=
  let count := match value with
    | .number n => n.count?
    | _ => none
  match count with
  | some n => .ok n
  | none => .error (.invalidPaging field value)

/-- The count of a paging field, if it is set. -/
def pagingSetting (field : String) (s : Setting) : Except SearchError (Option Nat) :=
  match s.scalar? with
  | none => .ok none
  | some value => (pagingCount field value).map some

end RecordSearch
