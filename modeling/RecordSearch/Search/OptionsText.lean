import RecordSearch.JsonValue
import RecordSearch.Search.Options

/-! The written form of search options: a JSON object with a member for each option. Members may
be left out, and unknown ones are passed over; a list gives the options in their order. -/
namespace RecordSearch

namespace Validation

def name : Validation → String
  | onUse => "lazy"
  | atStart => "eager"

def ofName? (s : String) : Option Validation := [onUse, atStart].find? fun v => v.name == s

/-- A name, alone or as the one key of an object that holds null. -/
def ofJson? : JsonValue → Option Validation
  | .string written => (JsonValue.text? written).bind ofName?
  | .object [(written, .null)] => (JsonValue.text? written).bind ofName?
  | _ => none

end Validation

namespace SearchOptions

def bool? : JsonValue → Option Bool
  | .bool b => some b
  | _ => none

/-- The options read so far. -/
structure Draft where
  applyAllProperties : Option Bool
  applyPaging : Option Bool
  validation : Option Validation

def Draft.empty : Draft := ⟨none, none, none⟩

/-- The options that were not read are the standard ones. -/
def Draft.complete (d : Draft) : SearchOptions where
  applyAllProperties := d.applyAllProperties.getD standard.applyAllProperties
  applyPaging := d.applyPaging.getD standard.applyPaging
  validation := d.validation.getD standard.validation

/-- A value for an option that has none yet. -/
def once? {α : Type} (current : Option α) (given : Option α) : Option (Option α) :=
  if current.isSome then none else given.map some

/-- Reads one member; an option may be given once. -/
def Draft.member? (d : Draft) (m : List Char × JsonValue) : Option Draft := do
  match ← JsonValue.text? m.1 with
  | "apply_all_properties" =>
    return { d with applyAllProperties := ← once? d.applyAllProperties (bool? m.2) }
  | "apply_paging" => return { d with applyPaging := ← once? d.applyPaging (bool? m.2) }
  | "validation" => return { d with validation := ← once? d.validation (Validation.ofJson? m.2) }
  | _ => return d

def ofJson? : JsonValue → Option SearchOptions
  | .object members => (members.foldlM Draft.member? Draft.empty).map Draft.complete
  | .list [] => some standard
  | .list [a] => do return { standard with applyAllProperties := ← bool? a }
  | .list [a, b] => do
    return { standard with applyAllProperties := ← bool? a, applyPaging := ← bool? b }
  | .list [a, b, c] => do return ⟨← bool? a, ← bool? b, ← Validation.ofJson? c⟩
  | _ => none

def read? (s : String) : Option SearchOptions := (JsonValue.read? s).bind ofJson?

def boolText (b : Bool) : String := if b then "true" else "false"

def text (o : SearchOptions) : String :=
  "\x7b\"apply_all_properties\":" ++ boolText o.applyAllProperties ++
    ",\"apply_paging\":" ++ boolText o.applyPaging ++
    ",\"validation\":\"" ++ o.validation.name ++ "\"\x7d"

end SearchOptions
end RecordSearch
