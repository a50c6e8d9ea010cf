import RecordSearch.Proofs.Calls
import RecordSearch.Proofs.Comparison
import RecordSearch.Proofs.Selection

/-! The outcome of a search that nothing overrides. It fails at the first field that cannot be
applied, in the order of the phases; otherwise it selects the records that pass all filters and
plain values, and pages them. -/
namespace RecordSearch

/-- Why a field cannot be applied. A field that is unset or set to something of the wrong sort has
no fault, nor has a filter that is not active; an active one may have a fault even if it asks
nothing. -/
inductive Fault (schema : Schema) (spec : Specification) : FieldDescriptor → SearchError → Prop
  | unknownFilter {field f} (set : spec.setting field = .filter f) (active : f.isActive = true)
      (unknown : schema.kind? field = none) :
      Fault schema spec ⟨field,.filter⟩ (.unknownField field)
  | refusedKind {field f kind} (set : spec.setting field = .filter f) (active : f.isActive = true)
      (known : schema.kind? field = some kind) (refused : f.accepts kind = false) :
      Fault schema spec ⟨field,.filter⟩ (.typeMismatch field kind f.target)
  | wrongElement {field f kind record wanted} (set : spec.setting field = .filter f)
      (active : f.isActive = true) (known : schema.kind? field = some kind)
      (accepted : f.accepts kind = true) (declared : schema.element? field = some record)
      (asked : f.element? = some wanted) (differ : record ≠ wanted) :
      Fault schema spec ⟨field,.filter⟩ (.typeMismatch field record wanted)
  | unknownPlain {field v} (set : spec.setting field = .scalar (some v))
      (unknown : schema.kind? field = none) :
      Fault schema spec ⟨field,.plain⟩ (.unknownField field)
  | wrongKind {field v kind} (set : spec.setting field = .scalar (some v))
      (known : schema.kind? field = some kind) (differ : v.kind ≠ kind) :
      Fault schema spec ⟨field,.plain⟩ (.typeMismatch field kind v.kind)
  | noCount {field role v} (paging : role = .skip ∨ role = .take)
      (set : spec.setting field = .scalar (some v)) (uncountable : v.Uncountable) :
      Fault schema spec ⟨field,role⟩ (.invalidPaging field v)

/-- A field without a fault. -/
def Applicable (schema : Schema) (spec : Specification) (d : FieldDescriptor) : Prop :=
  ∀ e, ¬ Fault schema spec d e

/-- The error of the first of some fields that has a fault. -/
inductive FirstFault (schema : Schema) (spec : Specification) :
    List FieldDescriptor → SearchError → Prop
  | here {d ds e} (fault : Fault schema spec d e) : FirstFault schema spec (d::ds) e
  | later {d ds e} (applicable : Applicable schema spec d) (rest : FirstFault schema spec ds e) :
      FirstFault schema spec (d::ds) e

lemma Predicate.holds_compare_eq {ρ : Type} [Record ρ] (r : ρ) (field : String) (v : Scalar) :
    (compare field .eq v).holds r = v.isEqual (Record.value r field) := by
  rw [holds,CompareOp.eq_holds]

namespace Specification

/-- The predicate of a filter field, if it has any. -/
def wanted? (spec : Specification) (field : String) : Option Predicate :=
  (spec.setting field).activeFilter?.bind fun f => f.predicate? field

/-- The fields in a role, in order. -/
def ofRole (spec : Specification) (role : Role) : List FieldDescriptor :=
  spec.fields.filter fun d => d.role == role

/-- The fields that a search applies, in the order of the phases. -/
def applied (spec : Specification) (applyAll paging : Bool) : List FieldDescriptor :=
  spec.ofRole .filter ++ (if applyAll then spec.ofRole .plain else []) ++
    if paging then spec.ofRole .skip ++ spec.ofRole .take else []

/-- The counts that the fields in a role are set to. -/
def counts (spec : Specification) (role : Role) : List Nat :=
  (spec.named role).filterMap fun field => (spec.setting field).toNat?

/-- Whether a record satisfies the filter fields and, if all fields are applied, equals the plain
ones. -/
def selects {ρ : Type} [Record ρ] (spec : Specification) (applyAll : Bool) (r : ρ) : Bool :=
  (spec.named .filter).all (fun field => (spec.wanted? field).all (·.holds r)) &&
    (!applyAll || (spec.named .plain).all fun field =>
      (spec.setting field).scalar?.all fun v => v.isEqual (Record.value r field))

/-- The records that paging leaves: without as many at the front as all skips together say, and no
more than the least take says. -/
def page {ρ : Type} (spec : Specification) (rs : List ρ) : List ρ :=
  let rest := rs.drop (spec.counts .skip).sum
  (spec.counts .take).min?.elim rest rest.take

/-- The step of a field, had it no fault. -/
def asked? (spec : Specification) (d : FieldDescriptor) : Option Step :=
  match d.role with
  | .filter => (spec.wanted? d.name).map .filter
  | .plain => (spec.setting d.name).scalar?.map fun v => .filter (.compare d.name .eq v)
  | .skip => (spec.setting d.name).toNat?.map .skip
  | .take => (spec.setting d.name).toNat?.map .take

/-- A field without a fault asks for its step. -/
lemma step?_eq_ok (spec : Specification) (schema : Schema) (d : FieldDescriptor)
    {step : Option Step} (h : spec.step? schema d = .ok step) : step = spec.asked? d := by
  obtain ⟨field,role⟩ := d
  cases role with
  | filter =>
    simp only [step?,asked?,wanted?] at h ⊢
    cases hf : (spec.setting field).activeFilter? with
    | none => simp_all
    | some f =>
      simp only [hf,map_eq_ok_iff,Schema.filterPredicate_eq_ok_iff] at h
      obtain ⟨p,⟨-,rfl⟩,rfl⟩ := h
      rfl
  | plain =>
    simp only [step?,asked?] at h ⊢
    cases hv : (spec.setting field).scalar? with
    | none => simp_all
    | some v =>
      simp only [hv,map_eq_ok_iff,Schema.equalityPredicate_eq_ok_iff] at h
      obtain ⟨p,⟨-,rfl⟩,rfl⟩ := h
      rfl
  | skip =>
    simp only [step?,map_eq_ok_iff] at h
    obtain ⟨n,hn,rfl⟩ := h
    rw [pagingSetting_eq_ok field _ hn]
    rfl
  | take =>
    simp only [step?,map_eq_ok_iff] at h
    obtain ⟨n,hn,rfl⟩ := h
    rw [pagingSetting_eq_ok field _ hn]
    rfl

/-- A field is refused for the fault it has. -/
lemma step?_eq_error_iff (spec : Specification) (schema : Schema) (d : FieldDescriptor)
    (e : SearchError) : spec.step? schema d = .error e ↔ Fault schema spec d e := by
  constructor
  · intro h
    obtain ⟨field,role⟩ := d
    cases role with
    | filter =>
      simp only [step?] at h
      cases hf : (spec.setting field).activeFilter? with
      | none => simp [hf] at h
      | some f =>
        obtain ⟨set,active⟩ := (Setting.activeFilter?_eq_some_iff _ f).1 hf
        simp only [hf,map_eq_error_iff,Schema.filterPredicate_eq_error_iff] at h
        obtain ⟨unknown,rfl⟩ | ⟨kind,a,b,known,hm,rfl⟩ := h
        · exact .unknownFilter set active unknown
        · obtain ⟨refused,rfl,rfl⟩ | ⟨accepted,declared,asked,differ⟩ :=
            (schema.mismatch?_eq_some_iff field kind f a b).1 hm
          · exact .refusedKind set active known refused
          · exact .wrongElement set active known accepted declared asked differ
    | plain =>
      simp only [step?] at h
      cases hv : (spec.setting field).scalar? with
      | none => simp [hv] at h
      | some v =>
        have set := (Setting.scalar?_eq_some_iff _ v).1 hv
        simp only [hv,map_eq_error_iff,Schema.equalityPredicate_eq_error_iff] at h
        obtain ⟨unknown,rfl⟩ | ⟨kind,known,differ,rfl⟩ := h
        · exact .unknownPlain set unknown
        · exact .wrongKind set known differ
    | skip =>
      simp only [step?,map_eq_error_iff,pagingSetting_eq_error_iff] at h
      obtain ⟨v,set,uncountable,rfl⟩ := h
      exact .noCount (.inl rfl) set uncountable
    | take =>
      simp only [step?,map_eq_error_iff,pagingSetting_eq_error_iff] at h
      obtain ⟨v,set,uncountable,rfl⟩ := h
      exact .noCount (.inr rfl) set uncountable
  · intro h
    cases h with
    | @unknownFilter field f set active unknown =>
      simp [step?,set,Setting.activeFilter?,active,Schema.filterPredicate,unknown,Except.map]
    | @refusedKind field f kind set active known refused =>
      simp [step?,set,Setting.activeFilter?,active,Schema.filterPredicate,known,Schema.mismatch?,
        refused,Except.map]
    | @wrongElement field f kind record wanted set active known accepted declared asked differ =>
      simp [step?,set,Setting.activeFilter?,active,Schema.filterPredicate,known,Schema.mismatch?,
        accepted,declared,asked,differ,Except.map]
    | @unknownPlain field v set unknown =>
      simp [step?,set,Setting.scalar?,Schema.equalityPredicate,unknown,Except.map]
    | @wrongKind field v kind set known differ =>
      simp [step?,set,Setting.scalar?,Schema.equalityPredicate,known,differ,Except.map]
    | @noCount field role v paging set uncountable =>
      have h := (pagingSetting_eq_error_iff field _ _).2 ⟨v,set,uncountable,rfl⟩
      obtain rfl | rfl := paging <;> simp [step?,h,Except.map]

/-- A field has no fault if its step can be made. -/
lemma applicable_iff (spec : Specification) (schema : Schema) (d : FieldDescriptor) :
    Applicable schema spec d ↔ ∃ step, spec.step? schema d = .ok step := by
  simp only [Applicable,← step?_eq_error_iff]
  cases spec.step? schema d <;> simp

lemma map_named (spec : Specification) (role : Role) :
    (spec.named role).map (⟨·,role⟩) = spec.ofRole role := by
  rw [named,ofRole,List.map_map]
  conv_rhs => rw [← List.map_id (List.filter _ _)]
  apply List.map_congr_left
  intro d hd
  have hr : d.role = role := by simpa using (List.mem_filter.1 hd).2
  subst hr
  rfl

lemma filterMap_asked? (spec : Specification) (role : Role) :
    (spec.ofRole role).filterMap spec.asked? =
      (spec.named role).filterMap fun field => spec.asked? ⟨field,role⟩ := by
  rw [← map_named,List.filterMap_map]
  rfl

lemma filterMap_asked?_skip (spec : Specification) :
    (spec.ofRole .skip).filterMap spec.asked? = (spec.counts .skip).map .skip := by
  rw [filterMap_asked?,counts,List.map_filterMap]
  rfl

lemma filterMap_asked?_take (spec : Specification) :
    (spec.ofRole .take).filterMap spec.asked? = (spec.counts .take).map .take := by
  rw [filterMap_asked?,counts,List.map_filterMap]
  rfl

section
variable {ρ : Type} [Record ρ] (spec : Specification)

/-- Fields that ask for predicates keep the records that satisfy all of them. -/
lemma applyAll_predicates (role : Role) (wanted : String → Option Predicate)
    (h : ∀ field, spec.asked? ⟨field,role⟩ = (wanted field).map .filter) (rs : List ρ) :
    Step.applyAll ((spec.ofRole role).filterMap spec.asked?) rs =
      rs.filter fun r => (spec.named role).all fun field => (wanted field).all (·.holds r) := by
  rw [filterMap_asked?,funext h,← List.map_filterMap,Step.applyAll_filters]
  congr 1
  funext r
  rw [List.all_filterMap]
  rfl

lemma applyAll_filters (rs : List ρ) :
    Step.applyAll ((spec.ofRole .filter).filterMap spec.asked?) rs =
      rs.filter fun r =>
        (spec.named .filter).all fun field => (spec.wanted? field).all (·.holds r) :=
  spec.applyAll_predicates .filter spec.wanted? (fun _ => rfl) rs

lemma applyAll_plain (rs : List ρ) :
    Step.applyAll ((spec.ofRole .plain).filterMap spec.asked?) rs =
      rs.filter fun r => (spec.named .plain).all fun field =>
        (spec.setting field).scalar?.all fun v => v.isEqual (Record.value r field) := by
  rw [spec.applyAll_predicates .plain
    (fun field => (spec.setting field).scalar?.map (.compare field .eq))
    (fun field => by simp only [asked?,Option.map_map]; rfl)]
  congr 1
  funext r
  congr 1
  funext field
  rw [Option.all_map]
  exact congrArg (Option.all · _) (funext (Predicate.holds_compare_eq r field))

lemma applyAll_skips (rs : List ρ) :
    Step.applyAll ((spec.ofRole .skip).filterMap spec.asked?) rs =
      rs.drop (spec.counts .skip).sum := by
  rw [filterMap_asked?_skip,Step.applyAll_skips]

lemma applyAll_takes (rs : List ρ) :
    Step.applyAll ((spec.ofRole .take).filterMap spec.asked?) rs =
      (spec.counts .take).min?.elim rs rs.take := by
  rw [filterMap_asked?_take,Step.applyAll_takes]

/-- The steps of all applied fields select by their predicates and page what is left. -/
theorem applyAll_applied (applyAll paging : Bool) (rs : List ρ) :
    Step.applyAll ((spec.applied applyAll paging).filterMap spec.asked?) rs =
      if paging then spec.page (rs.filter (spec.selects applyAll))
      else rs.filter (spec.selects applyAll) := by
  have hselect : Step.applyAll ((if applyAll then spec.ofRole .plain else []).filterMap spec.asked?)
      (Step.applyAll ((spec.ofRole .filter).filterMap spec.asked?) rs) =
      rs.filter (spec.selects applyAll) := by
    rw [applyAll_filters]
    cases applyAll with
    | false =>
      rw [if_neg (by decide),List.filterMap_nil,Step.applyAll_nil]
      congr 1
      funext r
      simp [selects]
    | true =>
      rw [if_pos rfl,applyAll_plain,List.filter_filter]
      congr 1
      funext r
      simp [selects,Bool.and_comm]
  have hpage : Step.applyAll
      ((if paging then spec.ofRole .skip ++ spec.ofRole .take else []).filterMap spec.asked?)
      (rs.filter (spec.selects applyAll)) =
      if paging then spec.page (rs.filter (spec.selects applyAll))
      else rs.filter (spec.selects applyAll) := by
    cases paging with
    | false => rfl
    | true =>
      rw [if_pos rfl,List.filterMap_append,Step.applyAll_append,applyAll_skips,applyAll_takes]
      rfl
  rw [applied,List.filterMap_append,List.filterMap_append,Step.applyAll_append,
    Step.applyAll_append,hselect,hpage]

end
end Specification

namespace Search

lemma pending_start {σ : Type} (source : σ) (schema : Schema) (spec : Specification)
    (applyAll paging : Bool) :
    (start source schema spec applyAll paging).pending = spec.applied applyAll paging := by
  simp only [pending,waiting,start,Specification.map_named,Specification.applied]
  cases paging <;> cases applyAll <;> simp [Phases.all,Phases.predicates]

section
variable {σ : Type} [Source σ] (s : Search σ)

lemma transform_of_no_overrides (h : s.overrides = .empty) (d : FieldDescriptor) :
    s.transform d = (s.spec.step? s.schema d).map fun step => Step.applyAll step.toList := by
  have ho : s.override? d = none := by
    rw [override?,h]
    cases d.role <;> rfl
  rw [transform,ho]

/-- Narrowing fails at the first field with a fault. -/
lemma narrow_eq_error_iff (h : s.overrides = .empty) (ds : List FieldDescriptor) (source : σ)
    (e : SearchError) : s.narrow ds source = .error e ↔ FirstFault s.schema s.spec ds e := by
  induction ds generalizing source with
  | nil =>
    constructor
    · rintro ⟨⟩
    · rintro ⟨⟩
  | cons d ds ih =>
    rw [narrow_cons,transform_of_no_overrides s h]
    have hfault := s.spec.step?_eq_error_iff s.schema d
    cases hd : s.spec.step? s.schema d with
    | error e' =>
      rw [hd] at hfault
      constructor
      · intro he; cases he; exact .here ((hfault e).1 rfl)
      · intro hf
        cases hf with
        | here fault => cases (hfault e).2 fault; rfl
        | later applicable _ => exact absurd ((hfault e').1 rfl) (applicable e')
    | ok step =>
      have applicable := (s.spec.applicable_iff s.schema d).2 ⟨step,hd⟩
      constructor
      · intro hn; exact .later applicable ((ih _).1 hn)
      · intro hf
        cases hf with
        | here fault => exact absurd fault (applicable e)
        | later _ rest => exact (ih _).2 rest

/-- Narrowing by fields without a fault applies the steps they ask for. -/
lemma narrow_eq_ok_iff (h : s.overrides = .empty) (ds : List FieldDescriptor) (source out : σ) :
    s.narrow ds source = .ok out ↔ (∀ d ∈ ds, Applicable s.schema s.spec d) ∧
      out = Step.applyAll (ds.filterMap s.spec.asked?) source := by
  induction ds generalizing source with
  | nil => simp [eq_comm]
  | cons d ds ih =>
    rw [narrow_cons,transform_of_no_overrides s h]
    cases hd : s.spec.step? s.schema d with
    | error e =>
      have fault := (s.spec.step?_eq_error_iff s.schema d e).1 hd
      constructor
      · rintro ⟨⟩
      · rintro ⟨hall,-⟩
        exact absurd fault (hall d (by simp) e)
    | ok step =>
      have applicable := (s.spec.applicable_iff s.schema d).2 ⟨step,hd⟩
      have hstep := s.spec.step?_eq_ok s.schema d hd
      change s.narrow ds (Step.applyAll step.toList source) = _ ↔ _
      rw [ih,hstep,List.forall_mem_cons]
      have hcons : Step.applyAll ((d::ds).filterMap s.spec.asked?) source =
          Step.applyAll (ds.filterMap s.spec.asked?)
            (Step.applyAll (s.spec.asked? d).toList source) := by
        cases ha : s.spec.asked? d <;> simp [ha]
      rw [hcons]
      simp only [applicable,true_and]

end

/-- The whole of a search that nothing overrides: it fails exactly if a field that it applies has a
fault, with the fault of the first such field, and otherwise selects what the specification does. -/
theorem finish_records {ρ : Type} [Record ρ] (schema : Schema) (spec : Specification)
    (rs : List ρ) (applyAll paging : Bool) :
    (∀ e, (start (Records.ofList rs) schema spec applyAll paging).finish = .error e ↔
      FirstFault schema spec (spec.applied applyAll paging) e) ∧
    ∀ selected,
      (start (Records.ofList rs) schema spec applyAll paging).finish.map Records.toList =
          .ok selected ↔
        (∀ d ∈ spec.applied applyAll paging, Applicable schema spec d) ∧
        selected = if paging then spec.page (rs.filter (spec.selects applyAll))
          else rs.filter (spec.selects applyAll) := by
  rw [finish_eq_narrow,pending_start]
  constructor
  · intro e
    exact narrow_eq_error_iff _ rfl _ _ e
  · intro selected
    rw [map_eq_ok_iff,← spec.applyAll_applied applyAll paging rs]
    simp only [narrow_eq_ok_iff (start (Records.ofList rs) schema spec applyAll paging) rfl]
    constructor
    · rintro ⟨out,⟨hall,rfl⟩,rfl⟩
      refine ⟨hall,?_⟩
      rw [Records.toList_applyAll]
      exact congrArg _ (Records.toList_ofList rs)
    · rintro ⟨hall,rfl⟩
      refine ⟨_,⟨hall,rfl⟩,?_⟩
      rw [Records.toList_applyAll]
      exact congrArg _ (Records.toList_ofList rs)

end Search

/-- Asks for lit rooms, which are also heated if all fields are applied, and pages them by two
fields in each role. -/
def Rooms.countedSpec (offset limit : Number) : Specification where
  fields := [⟨"limit",.take⟩,⟨"offset",.skip⟩,⟨"heated",.plain⟩,⟨"most",.take⟩,⟨"more",.skip⟩,
    ⟨"lit",.filter⟩]
  setting field :=
    if field = "lit" then .filter isSet
    else if field = "heated" then .scalar (some (.bool true))
    else if field = "offset" then .scalar (some (.number offset))
    else if field = "limit" then .scalar (some (.number limit))
    else .scalar (some (.number (.unsigned 1)))

def Rooms.countedSearch (offset limit : Number) : Search (Records Room) :=
  .start (.ofList wing) schema (countedSpec offset limit) false true

namespace Search

/-- Skips add up, and the least take counts. A negative number to skip is reported before a double
to take, although the take is declared first; a double is at fault even if it is whole. -/
theorem finish_records_rooms :
    (Rooms.countedSearch (.unsigned 1) (.signed 2)).finish.map Records.toList =
        .ok [⟨false,true⟩] ∧
      (Rooms.countedSearch (.signed (-1)) (.real (.ofInt 2))).finish =
        .error (.invalidPaging "offset" (.number (.signed (-1)))) ∧
      (Rooms.countedSearch (.unsigned 1) (.real (.ofInt 2))).finish =
        .error (.invalidPaging "limit" (.number (.real (.ofInt 2)))) := by
  have outcome (offset limit : Number) :=
    finish_records Rooms.schema (Rooms.countedSpec offset limit) Rooms.wing false true
  have applied (offset limit : Number) : (Rooms.countedSpec offset limit).applied false true =
      [⟨"lit",.filter⟩,⟨"offset",.skip⟩,⟨"more",.skip⟩,⟨"limit",.take⟩,⟨"most",.take⟩] := rfl
  have applicable {offset limit : Number} {d : FieldDescriptor} {step : Option Step}
      (h : (Rooms.countedSpec offset limit).step? Rooms.schema d = .ok step) :=
    (Specification.applicable_iff _ _ _).2 ⟨step,h⟩
  simp only [applied] at outcome
  refine ⟨((outcome _ _).2 _).2 ⟨?_,rfl⟩,((outcome _ _).1 _).2 ?_,((outcome _ _).1 _).2 ?_⟩
  · simp only [List.forall_mem_cons]
    exact ⟨applicable rfl,applicable rfl,applicable rfl,applicable rfl,applicable rfl,nofun⟩
  · exact .later (applicable rfl) (.here (.noCount (.inl rfl) rfl (.negative (by decide))))
  · exact .later (applicable rfl) <| .later (applicable rfl) <| .later (applicable rfl) <|
      .here (.noCount (.inr rfl) rfl (.double _))

end Search
end RecordSearch
