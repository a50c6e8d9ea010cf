import RecordSearch.Filter.Boolean
import RecordSearch.Proofs.Narrowing
import RecordSearch.Proofs.Selectors
import RecordSearch.Source.Plan

/-! Runs of calls on a search. A call drains phases, or sets a flag, or overrides a field; what each
of these keeps, every run keeps. -/
namespace RecordSearch
variable {σ : Type}

namespace Configuration
variable {schema : Schema}

/-- Maps a configuration to one target after the other and combines what they ask. -/
def mapAll (schema : Schema) (targets : List String) (mode : ApplyMode) (c : Configuration) :
    Except SearchError FieldOverride :=
  (targets.foldlM (fun c target => mapTo c schema target) c).map (·.withMode mode)

lemma mapTo_eq_ok_iff {c d : Configuration} {target : String} :
    c.mapTo schema target = .ok d ↔
      schema.checkSelector target c.filter = .ok () ∧
        d = { c with targets := c.targets ++ [target] } := by
  rw [mapTo]
  cases schema.checkSelector target c.filter with
  | error e =>
    constructor
    · rintro ⟨⟩
    · rintro ⟨⟨⟩,-⟩
  | ok u =>
    constructor
    · rintro ⟨⟩; exact ⟨rfl,rfl⟩
    · rintro ⟨-,rfl⟩; rfl

end Configuration

/-- A call that takes a search to a search. -/
inductive Call (σ : Type)
  | applyFilters
  | applyPlainFields
  | applySkip
  | applyTake
  | applyPaging
  | allowAllProperties
  | withPaging
  | withOverride (field : String) (t : Transform σ)
  | configure (field : String) (choose : Configuration → Except SearchError FieldOverride)

namespace Call

/-- The phases that a call runs, if it runs any. -/
def phases? : Call σ → Option Phases
  | applyFilters => some { filters := true }
  | applyPlainFields => some { plain := true }
  | applySkip => some ⟨true,true,true,false⟩
  | applyTake => some ⟨true,true,false,true⟩
  | applyPaging => some .all
  | allowAllProperties | withPaging | withOverride _ _ | configure _ _ => none

/-- A call either runs phases or is one of the others. -/
@[elab_as_elim] lemma phaseCases {motive : Call σ → Prop} (call : Call σ)
    (phases : ∀ call p, call.phases? = some p → motive call)
    (allowAllProperties : motive .allowAllProperties) (withPaging : motive .withPaging)
    (withOverride : ∀ field t, motive (.withOverride field t))
    (configure : ∀ field choose, motive (.configure field choose)) : motive call := by
  cases hp : call.phases? with
  | some p => exact phases call p hp
  | none =>
    cases call with
    | allowAllProperties => exact allowAllProperties
    | withPaging => exact withPaging
    | withOverride field t => exact withOverride field t
    | configure field choose => exact configure field choose
    | _ => cases hp

end Call

/-- The predicate that a configuring call registers, if it registers any. -/
def Specification.chosen? (spec : Specification) (field : String)
    (choose : Configuration → Except SearchError FieldOverride) :
    Except SearchError (Option Predicate) :=
  match spec.descriptor? field with
  | none => .error (.invalidSelector field .noSpecificationField)
  | some d =>
    if d.role = .filter then
      match (spec.setting field).activeFilter? with
      | none => .ok none
      | some f => (choose (.start field f)).map FieldOverride.predicate?
    else .error (.invalidSelector field (.notAFilter d.role))

lemma Specification.chosen?_eq_some {spec : Specification} {field : String}
    {choose : Configuration → Except SearchError FieldOverride} {p : Predicate}
    (h : spec.chosen? field choose = .ok (some p)) :
    ∃ f o, spec.setting field = .filter f ∧ f.isActive = true ∧
      choose (.start field f) = .ok o ∧ o.predicate? = some p := by
  rw [chosen?] at h
  cases hd : spec.descriptor? field with
  | none => simp [hd] at h
  | some d =>
    simp only [hd] at h
    split_ifs at h with hr
    cases hf : (spec.setting field).activeFilter? with
    | none => simp [hf] at h
    | some f =>
      obtain ⟨hset,hactive⟩ := (Setting.activeFilter?_eq_some_iff _ f).1 hf
      simp only [hf,map_eq_ok_iff] at h
      obtain ⟨o,ho,hp⟩ := h
      exact ⟨f,o,hset,hactive,ho,hp⟩

variable [Source σ]

namespace Search

/-- The search with a predicate, if there is one, in place of what a field asks by default. -/
def configured (s : Search σ) (field : String) : Option Predicate → Search σ
  | none => s
  | some p => s.withOverride field (Source.filterBy p)

/-- What configuring a field does depends on the specification only. -/
lemma configure_eq (s : Search σ) (field : String)
    (choose : Configuration → Except SearchError FieldOverride) :
    s.configure field choose = (s.spec.chosen? field choose).map (s.configured field) := by
  rw [configure,configuration?,Specification.chosen?]
  cases hd : s.spec.descriptor? field with
  | none => rfl
  | some d =>
    have hname : d.name = field := by simpa using List.find?_some hd
    simp only
    split_ifs with hr
    · cases (s.spec.setting field).activeFilter? with
      | none => rfl
      | some f =>
        rw [hname]
        change (choose (.start field f) >>= fun o => pure (s.register field o)) =
          ((choose (.start field f)).map FieldOverride.predicate?).map (s.configured field)
        cases choose (.start field f) with
        | error e => rfl
        | ok o =>
          change Except.ok (s.register field o) = .ok (s.configured field o.predicate?)
          rw [register]
          cases o.predicate? <;> rfl
    · rfl

end Search

namespace Call

def run : Call σ → Search σ → Except SearchError (Search σ)
  | applyFilters, s => s.applyFilters
  | applyPlainFields, s => s.applyPlainFields
  | applySkip, s => s.applySkip
  | applyTake, s => s.applyTake
  | applyPaging, s => s.applyPaging
  | allowAllProperties, s => .ok s.allowAllProperties
  | withPaging, s => .ok s.withPaging
  | withOverride field t, s => .ok (s.withOverride field t)
  | configure field choose, s => s.configure field choose

/-- Runs calls one after the other, as long as none fails. -/
def runAll (calls : List (Call σ)) (s : Search σ) : Except SearchError (Search σ) :=
  calls.foldlM (fun s call => call.run s) s

lemma runAll_cons_eq_ok_iff {call : Call σ} {calls : List (Call σ)} {s t : Search σ} :
    runAll (call::calls) s = .ok t ↔ ∃ u, call.run s = .ok u ∧ runAll calls u = .ok t := by
  rw [runAll,List.foldlM_cons]
  cases call.run s with
  | error e =>
    constructor
    · rintro ⟨⟩
    · rintro ⟨_,⟨⟩,-⟩
  | ok u =>
    constructor
    · intro h; exact ⟨u,rfl,h⟩
    · rintro ⟨_,⟨⟩,h⟩; exact h

lemma run_of_phases? {call : Call σ} {p : Phases} (h : call.phases? = some p) (s : Search σ) :
    call.run s = s.drain p := by
  cases call with
  | applyFilters => cases h; exact s.applyFilters_eq
  | applyPlainFields => cases h; exact s.applyPlainFields_eq
  | applySkip => cases h; exact s.applySkip_eq
  | applyTake => cases h; exact s.applyTake_eq
  | applyPaging => cases h; exact s.applyPaging_eq
  | allowAllProperties => cases h
  | withPaging => cases h
  | withOverride field t => cases h
  | configure field choose => cases h

end Call

/-! Rooms with two flags, and a specification that asks for rooms with flags set. The first of its
fields is no flag, so it has to be mapped to some. -/
namespace Rooms

def schema : Schema where
  kind? field := if field = "heated" ∨ field = "lit" then some .bool else none

def isSet : Filter := BooleanFilter.toFilter { equal := some true }

def spec : Specification where
  fields := [⟨"on",.filter⟩,⟨"lit",.filter⟩]
  setting field := if field = "on" ∨ field = "lit" then .filter isSet else .missing

/-- Asks for rooms that are heated or lit. -/
def mapOn : Call Plan := .configure "on" (Configuration.mapAll schema ["heated","lit"] .or)

def heatedOrLit : Predicate :=
  .or [.compare "heated" .eq (.bool true),.compare "lit" .eq (.bool true)]

def search : Search Plan := .start .empty schema spec false false

/-- What mapping makes of the search. -/
def mapped : Search Plan := search.withOverride "on" (Source.filterBy heatedOrLit)

structure Room where
  heated : Bool
  lit : Bool
  deriving DecidableEq

instance : Record Room where
  value r field :=
    if field = "heated" then .bool r.heated else if field = "lit" then .bool r.lit else .missing

def rooms : Records Room :=
  .ofList [⟨true,false⟩,⟨false,false⟩,⟨true,true⟩,⟨false,true⟩,⟨true,true⟩]

/-- The rooms of one wing. -/
def wing : List Room :=
  [⟨true,false⟩,⟨true,false⟩,⟨true,true⟩,⟨true,true⟩,⟨false,true⟩,⟨true,true⟩]

/-- Also asks for heated rooms, if all fields are applied, and pages what it finds. -/
def pagedSpec : Specification where
  fields := [⟨"limit",.take⟩,⟨"on",.filter⟩,⟨"heated",.plain⟩,⟨"offset",.skip⟩,⟨"lit",.filter⟩,
    ⟨"more",.skip⟩]
  setting field :=
    if field = "on" ∨ field = "lit" then .filter isSet
    else if field = "heated" then .scalar (some (.bool true))
    else if field = "limit" ∨ field = "offset" then .scalar (some (.number (.unsigned 1)))
    else .missing

def pagedSearch : Search (Records Room) := .start (.ofList wing) schema pagedSpec true true

def pagedPlan : Search Plan := .start .empty schema pagedSpec false false

/-- Asks for rooms that are heated or lit, before they are paged. -/
def mapOnRooms : Call (Records Room) :=
  .configure "on" (Configuration.mapAll schema ["heated","lit"] .or)

end Rooms
end RecordSearch
