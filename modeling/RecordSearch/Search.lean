import RecordSearch.Search.Configuration

/-! Searches: a specification being applied to a source. The fields of the specification wait in
four queues, one for each role, and four phases empty the queues in a fixed order: filters, plain
values, skips, takes. A phase whose queue is empty changes nothing. -/
namespace RecordSearch

/-- What narrows a source in place of a field's default application. -/
abbrev Transform (σ : Type) := σ → σ

/-- Transforms by the name of their field. -/
structure Overrides (σ : Type) where
  entries : List (String × Transform σ)

namespace Overrides
variable {σ : Type}

def empty : Overrides σ := ⟨[]⟩

def find? (o : Overrides σ) (field : String) : Option (Transform σ) :=
  (o.entries.find? fun e => e.1 == field).map Prod.snd

/-- The last transform of a field counts. -/
def insert (o : Overrides σ) (field : String) (t : Transform σ) : Overrides σ :=
  ⟨(field, t) :: o.entries.filter fun e => e.1 != field⟩

def has (o : Overrides σ) (field : String) : Bool := (o.find? field).isSome

/-- The overridden fields in ascending order. -/
def names (o : Overrides σ) : List String :=
  (o.entries.map Prod.fst).foldr Predicate.insertName []

@[simp] theorem find?_empty (field : String) : (empty : Overrides σ).find? field = none := rfl

theorem find?_insert (o : Overrides σ) (field other : String) (t : Transform σ) :
    (o.insert field t).find? other = if field = other then some t else o.find? other := by
  by_cases h : field = other
  · simp [find?, insert, h]
  · simp only [find?, insert, List.find?_cons_of_neg, beq_iff_eq, h, not_false_iff,
      List.find?_filter, if_false]
    congr 2
    funext e
    by_cases he : e.1 = other <;> simp [he, Ne.symm h]

end Overrides

structure Search (σ : Type) where
  source : σ
  schema : Schema
  spec : Specification
  filters : List String
  plain : List String
  skips : List String
  takes : List String
  overrides : Overrides σ
  applyAll : Bool
  paging : Bool

namespace Search
variable {σ : Type} [Source σ]

/-- All fields wait. -/
def start (source : σ) (schema : Schema) (spec : Specification) (applyAll paging : Bool) :
    Search σ where
  source := source
  schema := schema
  spec := spec
  filters := spec.named .filter
  plain := spec.named .plain
  skips := spec.named .skip
  takes := spec.named .take
  overrides := .empty
  applyAll := applyAll
  paging := paging

def allowAllProperties (s : Search σ) : Search σ := { s with applyAll := true }

def withPaging (s : Search σ) : Search σ := { s with paging := true }

/-- Applies a filter field: its override, or its filter if that is active. -/
def applyFilter (s : Search σ) (source : σ) (field : String) : Except SearchError σ :=
  match s.overrides.find? field with
  | some t => .ok (t source)
  | none =>
    match (s.spec.setting field).activeFilter? with
    | none => .ok source
    | some f => (s.schema.filterPredicate field f).map (Source.filterBy? · source)

/-- Applies a plain field: its override, or equality with its value if that is set. -/
def applyPlain (s : Search σ) (source : σ) (field : String) : Except SearchError σ :=
  match s.overrides.find? field with
  | some t => .ok (t source)
  | none =>
    match (s.spec.setting field).scalar? with
    | none => .ok source
    | some value => (s.schema.equalityPredicate field value).map (Source.filterBy · source)

/-- Applies a paging field, which no override replaces. -/
def applyCount (s : Search σ) (narrow : Nat → σ → σ) (source : σ) (field : String) :
    Except SearchError σ :=
  (pagingSetting field (s.spec.setting field)).map fun
    | some n => narrow n source
    | none => source

/-- Applies all filter fields, in order. -/
def applyFilters (s : Search σ) : Except SearchError (Search σ) := do
  let source ← s.filters.foldlM s.applyFilter s.source
  return { s with source, filters := [] }

/-- Applies all plain fields, in order, or drops them if they are not to be applied. -/
def applyPlainFields (s : Search σ) : Except SearchError (Search σ) :=
  if s.applyAll then do
    let source ← s.plain.foldlM s.applyPlain s.source
    return { s with source, plain := [] }
  else return { s with plain := [] }

/-- Filters and plain fields. -/
def applyPredicates (s : Search σ) : Except SearchError (Search σ) := do
  (← s.applyFilters).applyPlainFields

/-- Applies all skips, after whatever predicates still wait. -/
def applySkip (s : Search σ) : Except SearchError (Search σ) := do
  let s ← s.applyPredicates
  let source ← s.skips.foldlM (s.applyCount Source.skip) s.source
  return { s with source, skips := [] }

/-- Applies all takes, after whatever predicates still wait. -/
def applyTake (s : Search σ) : Except SearchError (Search σ) := do
  let s ← s.applyPredicates
  let source ← s.takes.foldlM (s.applyCount Source.take) s.source
  return { s with source, takes := [] }

/-- Skips, then takes. -/
def applyPaging (s : Search σ) : Except SearchError (Search σ) := do
  (← s.applySkip).applyTake

/-- Runs every phase that still waits; paging only if it is on. -/
def finish (s : Search σ) : Except SearchError σ := do
  let s ← s.applyPredicates
  let s ← if s.paging then s.applyPaging else pure s
  return s.source

/-- The configuration of a field, if its filter is active. -/
def configuration? (s : Search σ) (field : String) : Except SearchError (Option Configuration) :=
  match s.spec.descriptor? field with
  | none => .error (.invalidSelector field .noSpecificationField)
  | some d =>
    if d.role = .filter then
      .ok ((s.spec.setting field).activeFilter?.map fun f => .start d.name f)
    else .error (.invalidSelector field (.notAFilter d.role))

/-- Replaces the default application of a field. -/
def withOverride (s : Search σ) (field : String) (t : Transform σ) : Search σ :=
  { s with overrides := s.overrides.insert field t }

/-- Registers a finished configuration under a field; without a predicate nothing changes. -/
def register (s : Search σ) (field : String) (o : FieldOverride) : Search σ :=
  match o.predicate? with
  | some p => s.withOverride field (Source.filterBy p)
  | none => s

/-- Configures a filter field; one whose filter is not active stays as it is. -/
def configure (s : Search σ) (field : String)
    (choose : Configuration → Except SearchError FieldOverride) :
    Except SearchError (Search σ) := do
  match ← s.configuration? field with
  | none => return s
  | some c => return s.register c.field (← choose c)

/-- Checks a filter field without applying it. -/
def checkFilter (s : Search σ) (field : String) : Except SearchError Unit :=
  if s.overrides.has field then .ok ()
  else
    match (s.spec.setting field).activeFilter? with
    | none => .ok ()
    | some f => (s.schema.filterPredicate field f).map fun _ => ()

/-- Checks a plain field without applying it. -/
def checkPlain (s : Search σ) (field : String) : Except SearchError Unit :=
  if s.overrides.has field then .ok ()
  else
    match (s.spec.setting field).scalar? with
    | none => .ok ()
    | some value => (s.schema.equalityPredicate field value).map fun _ => ()

def checkCount (s : Search σ) (field : String) : Except SearchError Unit :=
  (pagingSetting field (s.spec.setting field)).map fun _ => ()

/-- Checks every waiting field without applying it; paging fields whether or not paging is on. -/
def validate (s : Search σ) : Except SearchError Unit := do
  s.filters.forM s.checkFilter
  if s.applyAll then s.plain.forM s.checkPlain
  (s.skips ++ s.takes).forM s.checkCount

end Search
end RecordSearch
