import RecordSearch.Proofs.SingleField
import RecordSearch.Proofs.Sources

/-! One filter on several record fields. The predicates of the fields are collected and applied
together, as one step, or as none where no field was named. What is selected then depends only on
which fields were named: with "and" it is what searching the fields one after the other leaves, with
"or" all that any of them would leave. -/
namespace RecordSearch

namespace ApplyMode

/-- Whether all tests come out true, or any of them. Without tests there is nothing to fail. -/
def decides {α : Type} : ApplyMode → List α → (α → Bool) → Bool
  | and, xs, test => xs.all test
  | or, xs, test => xs.isEmpty || xs.any test

section
variable {α : Type} (mode : ApplyMode) (test : α → Bool)

@[simp] lemma decides_singleton (x : α) : mode.decides [x] test = test x := by
  cases mode <;> simp [decides]

lemma decides_map {β : Type} (ys : List β) (g : β → α) :
    mode.decides (ys.map g) test = mode.decides ys (test ∘ g) := by
  cases mode <;> simp [decides]

/-- Neither order nor repetition matters. -/
lemma decides_congr {xs ys : List α} (h : ∀ x, x ∈ xs ↔ x ∈ ys) :
    mode.decides xs test = mode.decides ys test := by
  have hempty : xs = [] ↔ ys = [] := by simp only [List.eq_nil_iff_forall_not_mem,h]
  rw [Bool.eq_iff_iff]
  cases mode with
  | and => simp [decides,h]
  | or => simp [decides,h,hempty]

end

/-- A combined predicate holds as its parts decide, and where there is none nothing is asked. -/
lemma all_combine {ρ : Type} [Record ρ] (mode : ApplyMode) (ps : List Predicate) (r : ρ) :
    (mode.combine ps).all (·.holds r) = mode.decides ps (·.holds r) := by
  rcases ps with _ | ⟨p,_ | ⟨q,ps⟩⟩
  · cases mode <;> rfl
  · rw [combine_singleton,decides_singleton]
    rfl
  · cases mode with
    | and => exact Predicate.holds_and r (p::q::ps)
    | or => exact Predicate.holds_or r (p::q::ps)

end ApplyMode

namespace Source

/-- A way to read off a source which records it has selected: each step selects from them what it
selects from a list. -/
structure Selecting {σ ρ : Type} [Source σ] [Record ρ] (found : σ → List ρ) : Prop where
  apply : ∀ (step : Step) (source : σ), found (step.apply source) = step.apply (found source)

section
variable {ρ : Type} [Record ρ]

lemma selecting_list : Selecting (id : List ρ → List ρ) := ⟨fun _ _ => rfl⟩

lemma selecting_records : Selecting (Records.toList (ρ := ρ)) :=
  ⟨fun step => Records.toList_applyAll [step]⟩

lemma selecting_plan (rs : List ρ) : Selecting fun plan : Plan => plan.execute rs := by
  constructor
  intro step plan
  simp only [Plan.execute_eq_enact]
  exact Plan.enact_applyAll [step] plan rs

end

section
variable {σ ρ : Type} [Source σ] [Record ρ] {found : σ → List ρ}

lemma Selecting.filterBy (selecting : Selecting found) (p : Predicate) (source : σ) :
    found (filterBy p source) = (found source).filter (p.holds ·) :=
  selecting.apply (.filter p) source

lemma Selecting.filterBy? (selecting : Selecting found) (p : Option Predicate) (source : σ) :
    found (filterBy? p source) = (found source).filter fun r => p.all (·.holds r) := by
  cases p with
  | none => exact (List.filter_eq_self.2 fun _ _ => rfl).symm
  | some p => exact selecting.filterBy p source

end
end Source

/-- An active filter and fields that take it, with what it asks of each. -/
structure Schema.Asks (schema : Schema) (f : Filter) (targets : List String)
    (asks : String → Predicate) : Prop where
  active : f.isActive = true
  accepted : ∀ target ∈ targets, schema.Takes target f
  builds : ∀ target ∈ targets, f.predicate? target = some (asks target)

lemma Schema.Asks.subset {schema : Schema} {f : Filter} {targets : List String}
    {asks : String → Predicate} (h : schema.Asks f targets asks) {others : List String}
    (hothers : others ⊆ targets) : schema.Asks f others asks where
  active := h.active
  accepted target hmem := h.accepted target (hothers hmem)
  builds target hmem := h.builds target (hothers hmem)

namespace MultiSearch

/-- Names one field after the other, and applies what they ask together. -/
def onAll {σ : Type} [Source σ] (schema : Schema) (f : Filter) (mode : ApplyMode)
    (targets : List String) (source : σ) : Except SearchError σ :=
  (targets.foldlM on (start source schema f mode)).map apply

section
variable {schema : Schema} {f : Filter} {targets : List String} {asks : String → Predicate}
  {σ : Type} [Source σ]

/-- Fields that take the filter are all named, and their predicates combined. -/
lemma onAll_eq (h : schema.Asks f targets asks) (mode : ApplyMode) (source : σ) :
    onAll schema f mode targets source =
      .ok (Source.filterBy? (mode.combine (targets.map asks)) source) := by
  have hasks : targets.filterMap f.predicate? = targets.map asks := by
    rw [List.filterMap_congr h.builds,← List.filterMap_eq_map]
    rfl
  have accepted : ∀ target ∈ targets, schema.checkSelector target f = .ok () :=
    fun target hmem => (schema.checkSelector_eq_ok_iff target f).2 (h.accepted target hmem)
  rw [onAll,foldlM_on _ h.active accepted,← hasks]
  rfl

/-- One step is all that is ever added. -/
lemma onAll_steps (h : schema.Asks f targets asks) (mode : ApplyMode) :
    ∃ steps : List Step, steps.length ≤ 1 ∧ ∀ {σ : Type} [Source σ] (source : σ),
      onAll schema f mode targets source = .ok (Step.applyAll steps source) := by
  refine ⟨(mode.combine (targets.map asks)).toList.map .filter,?_,?_⟩
  · cases mode.combine (targets.map asks) <;> simp
  · intro σ _ source
    rw [onAll_eq h,Source.filterBy?_eq_applyAll]

lemma searchField_eq (h : schema.Asks f targets asks) {target : String} (hmem : target ∈ targets)
    (source : σ) :
    Source.searchField schema target f source = .ok (Source.filterBy (asks target) source) := by
  have accepted := (schema.checkSelector_eq_ok_iff target f).2 (h.accepted target hmem)
  rw [Source.searchField,if_pos h.active,accepted,h.builds target hmem]
  rfl

variable {ρ : Type} [Record ρ] {found : σ → List ρ}

lemma found_onAll (h : schema.Asks f targets asks) (selecting : Source.Selecting found)
    (mode : ApplyMode) (source : σ) : (onAll schema f mode targets source).map found =
      .ok ((found source).filter fun r =>
        mode.decides targets fun target => (asks target).holds r) := by
  rw [onAll_eq h]
  change Except.ok _ = _
  rw [selecting.filterBy?]
  simp only [ApplyMode.all_combine,ApplyMode.decides_map]
  rfl

lemma found_searchField (h : schema.Asks f targets asks) (selecting : Source.Selecting found)
    {target : String} (hmem : target ∈ targets) (source : σ) :
    (Source.searchField schema target f source).map found =
      .ok ((found source).filter ((asks target).holds ·)) := by
  rw [searchField_eq h hmem]
  exact congrArg Except.ok (selecting.filterBy _ source)

/-- Each search of a field takes from what the ones before it left. -/
lemma found_foldlM_searchField (h : schema.Asks f targets asks)
    (selecting : Source.Selecting found) (source : σ) :
    (targets.foldlM (fun source target => Source.searchField schema target f source) source).map
      found = .ok ((found source).filter fun r => targets.all fun target => (asks target).holds r) := by
  induction targets generalizing source with
  | nil => exact congrArg Except.ok (List.filter_eq_self.2 fun _ _ => rfl).symm
  | cons target targets ih =>
    have hrest := ih (h.subset (List.subset_cons_self target targets))
      (Source.filterBy (asks target) source)
    rw [selecting.filterBy,List.filter_filter] at hrest
    rw [List.foldlM_cons,searchField_eq h (by simp)]
    refine hrest.trans ?_
    simp only [List.all_cons,Bool.and_comm]

/-- What a filter on several fields means. It adds one step at most, the same to any source, and
none where no field is named. Records are selected in their order, with "and" those of which the
filter holds on every field and with "or" those of which it holds on some field. The order of the
fields and repetitions among them do not matter; searching the fields one after the other selects
what "and" selects; and each field alone selects no less than "and" and no more than "or". -/
theorem onAll_selects (h : schema.Asks f targets asks) :
    (∀ mode, ∃ steps : List Step, steps.length ≤ 1 ∧ ∀ {σ : Type} [Source σ] (source : σ),
      onAll schema f mode targets source = .ok (Step.applyAll steps source)) ∧
    (∀ (mode : ApplyMode) {σ : Type} [Source σ] (source : σ),
      onAll schema f mode [] source = .ok source) ∧
    ∀ {σ ρ : Type} [Source σ] [Record ρ] {found : σ → List ρ}, Source.Selecting found →
      ∀ source : σ,
      let selected mode targets := (onAll schema f mode targets source).map found
      let both := (found source).filter fun r => targets.all fun target => (asks target).holds r
      let either := (found source).filter fun r => targets.any fun target => (asks target).holds r
      selected .and targets = .ok both ∧
      (targets ≠ [] → selected .or targets = .ok either) ∧
      (∀ mode others, (∀ target, target ∈ others ↔ target ∈ targets) →
        selected mode others = selected mode targets) ∧
      (targets.foldlM (fun source target => Source.searchField schema target f source)
        source).map found = selected .and targets ∧
      ∀ target ∈ targets, ∃ single,
        (Source.searchField schema target f source).map found = .ok single ∧
          both.Sublist single ∧ single.Sublist either := by
  refine ⟨onAll_steps h,fun mode σ _ source => ?_,?_⟩
  · cases mode <;> rfl
  intro σ ρ _ _ found selecting source selected both either
  have hand : selected .and targets = .ok both := found_onAll h selecting .and source
  refine ⟨hand,?_,?_,?_,?_⟩
  · intro hne
    have hempty : targets.isEmpty = false := by simpa using hne
    refine (found_onAll h selecting .or source).trans ?_
    simp only [ApplyMode.decides,hempty,Bool.false_or]
    rfl
  · intro mode others hsame
    have hothers := h.subset fun target hmem => (hsame target).1 hmem
    refine (found_onAll hothers selecting mode source).trans ?_
    simp only [ApplyMode.decides_congr mode _ hsame]
    exact (found_onAll h selecting mode source).symm
  · rw [hand]
    exact found_foldlM_searchField h selecting source
  · intro target hmem
    refine ⟨_,found_searchField h selecting hmem source,?_,?_⟩
    · apply List.monotone_filter_right
      intro r hall
      exact List.all_eq_true.1 hall target hmem
    · apply List.monotone_filter_right
      intro r hholds
      exact List.any_eq_true.2 ⟨target,hmem,hholds⟩

end
end MultiSearch

namespace Rooms
open MultiSearch

/-- Both flags of a room take the filter, in any order and number. -/
lemma asks_isSet : schema.Asks isSet ["lit","heated","lit"] fun field =>
    .compare field .eq (.bool true) where
  active := rfl
  accepted target hmem := by
    simp only [List.mem_cons,List.not_mem_nil,or_false] at hmem
    obtain rfl | rfl | rfl := hmem <;> exact ⟨⟨.bool,rfl,rfl⟩,nofun⟩
  builds _ _ := rfl

/-- The same rooms are found in a list, in a list with a plan, and by a plan. -/
theorem onAll_selects_rooms :
    schema.Asks isSet ["lit","heated","lit"] (fun field => .compare field .eq (.bool true)) ∧
    onAll schema isSet .and ["lit","heated","lit"] rooms.items =
      .ok [⟨true,true⟩,⟨true,true⟩] ∧
    (onAll schema isSet .or ["heated","lit"] rooms).map Records.toList =
      .ok [⟨true,false⟩,⟨true,true⟩,⟨false,true⟩,⟨true,true⟩] ∧
    (["lit","heated","lit"].foldlM (fun plan target =>
        Source.searchField schema target isSet plan) Plan.empty).map (·.execute rooms.items) =
      .ok [⟨true,true⟩,⟨true,true⟩] := by
  obtain ⟨-,-,hselects⟩ := onAll_selects asks_isSet
  obtain ⟨hlist,-⟩ := hselects Source.selecting_list rooms.items
  obtain ⟨-,hor,hsame,-⟩ := hselects Source.selecting_records rooms
  obtain ⟨hplan,-,-,hchain,-⟩ := hselects (Source.selecting_plan rooms.items) Plan.empty
  have hothers := hsame .or ["heated","lit"] (by simp [or_comm])
  refine ⟨asks_isSet,?_,?_,?_⟩
  · exact hlist
  · exact hothers.trans (hor (by simp))
  · exact hchain.trans hplan

end Rooms
end RecordSearch
