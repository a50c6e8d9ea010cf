import RecordSearch.Proofs.AbsentOperands
import RecordSearch.Proofs.FieldDependence
import RecordSearch.Proofs.Invariants

/-! The normal form of predicates. Groups have at least two members, and no negation stands directly
inside another. Whatever filters ask for has this form, and grouping and negating keep it, because
groups of fewer members do not become nodes. So all that searches add to a plan has it. -/
namespace RecordSearch

namespace Predicate

mutual

/-- A predicate and all predicates inside it. -/
def nodes : Predicate → List Predicate
  | compare field op operand => [compare field op operand]
  | text field op needle => [text field op needle]
  | pattern field p => [pattern field p]
  | nullOrEmpty field => [nullOrEmpty field]
  | contains field mode set => [contains field mode set]
  | and ps => and ps :: nodesOfAll ps
  | or ps => or ps :: nodesOfAll ps
  | not p => not p :: nodes p

def nodesOfAll : List Predicate → List Predicate
  | [] => []
  | p :: ps => nodes p ++ nodesOfAll ps

end

/-- Neither a group of fewer than two nor a negation of a negation. -/
def isTidy : Predicate → Bool
  | and ps | or ps => decide (2 ≤ ps.length)
  | not (not _) => false
  | _ => true

def IsNormal (p : Predicate) : Prop := ∀ q ∈ p.nodes, q.isTidy = true

instance (p : Predicate) : Decidable p.IsNormal :=
  inferInstanceAs (Decidable (∀ q ∈ p.nodes, q.isTidy = true))

lemma nodesOfAll_eq (ps : List Predicate) : nodesOfAll ps = ps.flatMap nodes := by
  induction ps with
  | nil => rfl
  | cons p ps ih => rw [nodesOfAll,ih,List.flatMap_cons]

lemma isNormal_of_field? {p : Predicate} {field : String} (h : p.field? = some field) :
    p.IsNormal := by
  have hnodes : p.nodes = [p] ∧ p.isTidy = true := by cases p <;> cases h <;> exact ⟨rfl,rfl⟩
  intro q hq
  rw [hnodes.1,List.mem_singleton] at hq
  rw [hq,hnodes.2]

/-- A group is in normal form if it has two members or more and all of them are. -/
lemma isNormal_group {p : Predicate} {ps : List Predicate} (h : p.nodes = p :: nodesOfAll ps)
    (htidy : p.isTidy = decide (2 ≤ ps.length)) :
    p.IsNormal ↔ 2 ≤ ps.length ∧ ∀ q ∈ ps, q.IsNormal := by
  rw [IsNormal,h,List.forall_mem_cons,htidy,decide_eq_true_eq,nodesOfAll_eq,
    List.forall_mem_flatMap]
  rfl

lemma isNormal_and (ps : List Predicate) :
    (and ps).IsNormal ↔ 2 ≤ ps.length ∧ ∀ p ∈ ps, p.IsNormal := isNormal_group rfl rfl

lemma isNormal_or (ps : List Predicate) :
    (or ps).IsNormal ↔ 2 ≤ ps.length ∧ ∀ p ∈ ps, p.IsNormal := isNormal_group rfl rfl

/-- A group of one test, which grouping does not make. -/
example : ¬(and [nullOrEmpty "name"]).IsNormal := by decide

lemma isNormal_not (p : Predicate) :
    (not p).IsNormal ↔ (not p).isTidy = true ∧ p.IsNormal := by
  rw [IsNormal,nodes,List.forall_mem_cons]
  rfl

lemma IsNormal.negate {p : Predicate} (h : p.IsNormal) : p.negate.IsNormal := by
  cases p with
  | not p => exact ((isNormal_not p).1 h).2
  | _ => exact (isNormal_not _).2 ⟨rfl,h⟩

lemma IsNormal.negate_negate {p : Predicate} (h : p.IsNormal) : p.negate.negate = p := by
  cases p with
  | not p =>
    cases p with
    | not p => exact absurd ((isNormal_not _).1 h).1 (by simp [isTidy])
    | _ => rfl
  | _ => rfl

/-- Grouping normal predicates gives a normal one, since a node is made of two or more only. -/
lemma isNormal_of_all? {ps : List Predicate} {p : Predicate} (h : all? ps = some p)
    (hps : ∀ q ∈ ps, q.IsNormal) : p.IsNormal :=
  of_group? (fun hlength hps => (isNormal_and ps).2 ⟨hlength,hps⟩) h hps

lemma isNormal_of_any? {ps : List Predicate} {p : Predicate} (h : any? ps = some p)
    (hps : ∀ q ∈ ps, q.IsNormal) : p.IsNormal :=
  of_group? (fun hlength hps => (isNormal_or ps).2 ⟨hlength,hps⟩) h hps

lemma isNormal_of_combine {mode : ApplyMode} {ps : List Predicate} {p : Predicate}
    (h : mode.combine ps = some p) (hps : ∀ q ∈ ps, q.IsNormal) : p.IsNormal := by
  cases mode with
  | and => exact isNormal_of_all? h hps
  | or => exact isNormal_of_any? h hps

end Predicate

namespace Clause

/-- A clause that lists alternatives lists some. -/
def isFilled : Clause → Bool
  | oneOf ds | noneOf ds => !ds.isEmpty
  | _ => true

lemma isNormal_negateIf {p : Predicate} {field : String} (h : p.field? = some field)
    (negated : Bool) : (TextFilter.negateIf negated p).IsNormal := by
  have hp := Predicate.isNormal_of_field? h
  cases negated with
  | false => exact hp
  | true => exact hp.negate

lemma isNormal_discriminants (field : String) (op : CompareOp) (ds : List UInt32) :
    ∀ p ∈ ds.map (EnumFilter.discriminant field op), p.IsNormal := by
  intro p hp
  obtain ⟨d,-,rfl⟩ := List.mem_map.1 hp
  exact Predicate.isNormal_of_field? rfl

lemma isNormal_predicate {c : Clause} (filled : c.isFilled = true) (field : String) :
    (c.predicate field).IsNormal := by
  cases c with
  | compare op operand => exact Predicate.isNormal_of_field? rfl
  | text op needle negated => exact isNormal_negateIf rfl negated
  | pattern p negated => exact isNormal_negateIf rfl negated
  | nullOrEmpty yes => exact isNormal_negateIf rfl (!yes)
  | contains mode set negated => exact isNormal_negateIf rfl negated
  | oneOf ds =>
    have hne : ds.map (EnumFilter.discriminant field .eq) ≠ [] := by simpa [isFilled] using filled
    obtain ⟨p,hp⟩ : ∃ p, Predicate.any? _ = some p := ApplyMode.or.combine_ne_none hne
    rw [predicate,hp,Option.getD_some]
    exact Predicate.isNormal_of_any? hp (isNormal_discriminants field .eq ds)
  | noneOf ds =>
    have hne : ds.map (EnumFilter.discriminant field .ne) ≠ [] := by simpa [isFilled] using filled
    obtain ⟨p,hp⟩ : ∃ p, Predicate.all? _ = some p := ApplyMode.and.combine_ne_none hne
    rw [predicate,hp,Option.getD_some]
    exact Predicate.isNormal_of_all? hp (isNormal_discriminants field .ne ds)

end Clause

namespace Filter

/-- Filters leave out the clauses that would list nothing. -/
lemma MadeOf.all_isFilled {f : Filter} {slots : List (Option Clause)} (h : f.MadeOf slots) :
    slots.reduceOption.all Clause.isFilled = true := by
  rw [Clause.all_reduceOption]
  cases h with
  | text f => simp [TextFilter.slots,Clause.all_map,Clause.isFilled]
  | comparable f =>
    rw [ComparableFilter.slots_eq_map]
    simp only [List.all_map,List.all_eq_true,Function.comp_apply,Clause.all_map]
    exact fun _ _ _ _ => rfl
  | boolean f => simp [BooleanFilter.slots,Clause.all_map,Clause.isFilled]
  | enum f => simp [EnumFilter.slots,Clause.all_map,Clause.isFilled,or_not]
  | collection f => simp [CollectionFilter.slots,CollectionFilter.slot,Clause.isFilled]

lemma Provided.isNormal {f : Filter} (h : f.Provided) {field : String} {p : Predicate}
    (hp : f.predicate? field = some p) : p.IsNormal := by
  obtain ⟨slots,made⟩ := h.exists_madeOf
  rw [made.predicate?_eq] at hp
  apply Predicate.isNormal_of_all? hp
  intro q hq
  obtain ⟨c,hc,rfl⟩ := List.mem_map.1 hq
  exact Clause.isNormal_predicate (List.all_eq_true.1 made.all_isFilled c hc) field

end Filter

/-- What can be built from the predicates of provided filters by grouping and negating. -/
inductive Predicate.Composed : Predicate → Prop
  | asked {f : Filter} {field : String} {p : Predicate} (provided : f.Provided)
      (h : f.predicate? field = some p) : Composed p
  | all {ps : List Predicate} {p : Predicate} (parts : ∀ q ∈ ps, Composed q)
      (h : all? ps = some p) : Composed p
  | any {ps : List Predicate} {p : Predicate} (parts : ∀ q ∈ ps, Composed q)
      (h : any? ps = some p) : Composed p
  | combine {mode : ApplyMode} {ps : List Predicate} {p : Predicate}
      (parts : ∀ q ∈ ps, Composed q) (h : mode.combine ps = some p) : Composed p
  | negate {p : Predicate} (h : Composed p) : Composed p.negate

/-- By induction on how the predicate was built. -/
lemma Predicate.Composed.isNormal {p : Predicate} (h : p.Composed) : p.IsNormal := by
  induction h with
  | asked provided h => exact provided.isNormal h
  | all _ h ih => exact isNormal_of_all? h ih
  | any _ h ih => exact isNormal_of_any? h ih
  | combine _ h ih => exact isNormal_of_combine h ih
  | negate _ ih => exact ih.negate

lemma Schema.ensures_isNormal (schema : Schema) : schema.Ensures Predicate.IsNormal where
  asked hf _ hp := hf.isNormal hp
  equality _ := Predicate.isNormal_of_field? rfl
  combine h hps := Predicate.isNormal_of_combine h hps

/-- A call whose overrides come from provided filters: a configuration of one, finished in some
mode, where such a configuration was given. A transform may do as it likes if it only adds steps, and
only predicates in normal form. -/
def Call.FromProvided : Call Plan → Prop
  | .withOverride _ t => ∀ plan : Plan, plan.Extends Predicate.IsNormal (t plan)
  | .configure _ choose => ∀ c o, c.filter.Provided → choose c = .ok o →
      ∃ d mode, d.filter.Provided ∧ o = Configuration.withMode d mode
  | _ => True

lemma Call.fromProvided_mapAll (schema : Schema) (field : String) (targets : List String)
    (mode : ApplyMode) :
    (Call.configure field (Configuration.mapAll schema targets mode)).FromProvided := by
  intro c o hc h
  obtain ⟨d,hd,rfl⟩ := map_eq_ok_iff.1 h
  refine ⟨d,mode,?_,rfl⟩
  refine foldlM_induction (I := fun e => e.filter.Provided) ?_ hc hd
  intro target _ c d hc hd
  obtain ⟨-,rfl⟩ := Configuration.mapTo_eq_ok_iff.1 hd
  exact hc

lemma Call.FromProvided.keeps (schema : Schema) {call : Call Plan} (h : call.FromProvided)
    {spec : Specification} (provided : ∀ field f, spec.setting field = .filter f → f.Provided)
    (plan : Plan) :
    call.Keeps (plan.Extends Predicate.IsNormal) spec := by
  cases call with
  | withOverride field t => exact fun plan' hplan' => hplan'.trans (h plan')
  | configure field choose =>
    refine Call.keeps_configure schema.ensures_isNormal ?_ plan
    intro f o hset ho
    obtain ⟨d,mode,hd,rfl⟩ := h _ o (provided field f hset) ho
    exact ⟨d,mode,rfl,fun target _ p hp => hd.isNormal hp⟩
  | _ => trivial

/-- Predicates stay in normal form. Whatever is built from the predicates of provided filters by
grouping and negating is in normal form; there negation turns every answer round and undoes itself.
So all that a run of calls adds to a plan is in normal form, finished or not, and all that the search
of one or of several fields by a provided filter adds. -/
theorem predicates_stay_normal :
    (∀ p : Predicate, p.Composed → p.IsNormal) ∧
    (∀ p : Predicate, p.IsNormal → p.negate.IsNormal ∧ p.negate.negate = p ∧
      ∀ {ρ : Type} [Record ρ] (r : ρ), p.negate.holds r = !p.holds r) ∧
    ∀ (schema : Schema) (plan : Plan),
      (∀ (spec : Specification) (calls : List (Call Plan)) (applyAll paging : Bool)
        (s : Search Plan), (∀ field f, spec.setting field = .filter f → f.Provided) →
        (∀ call ∈ calls, call.FromProvided) →
        Call.runAll calls (Search.start plan schema spec applyAll paging) = .ok s →
        plan.Extends Predicate.IsNormal s.source ∧
          ∀ found, s.finish = .ok found → plan.Extends Predicate.IsNormal found) ∧
      (∀ (f : Filter) (field : String) (found : Plan), f.Provided →
        Source.searchField schema field f plan = .ok found →
        plan.Extends Predicate.IsNormal found) ∧
      ∀ (f : Filter) (mode : ApplyMode) (fields : List String) (m : MultiSearch Plan), f.Provided →
        fields.foldlM MultiSearch.on (MultiSearch.start plan schema f mode) = .ok m →
        plan.Extends Predicate.IsNormal m.apply := by
  refine ⟨fun p h => h.isNormal,?_,?_⟩
  · intro p h
    exact ⟨h.negate,h.negate_negate,fun r => p.holds_negate r⟩
  intro schema plan
  have hnormal := schema.ensures_isNormal
  refine ⟨?_,?_,?_⟩
  · intro spec calls applyAll paging s provided hcalls hrun
    have hkeeps : ∀ call ∈ calls, call.Keeps (plan.Extends Predicate.IsNormal) spec :=
      fun call hmem => (hcalls call hmem).keeps schema provided plan
    exact Search.extends_runAll hnormal provided hkeeps hrun
  · intro f field found hf h
    exact Source.extends_searchField hnormal hf h
  · intro f mode fields m hf h
    exact MultiSearch.extends_apply hnormal hf h

namespace Rooms

/-- A run that maps a field, and searches of one field and of several, over the flags of rooms. -/
theorem predicates_stay_normal_rooms :
    heatedOrLit.negate.IsNormal ∧ heatedOrLit.negate.negate.negate = heatedOrLit.negate ∧
      Plan.empty.Extends Predicate.IsNormal
        ⟨[.filter heatedOrLit,.filter (.compare "lit" .eq (.bool true))]⟩ ∧
      Plan.empty.Extends Predicate.IsNormal ⟨[.filter (.compare "lit" .eq (.bool true))]⟩ ∧
      Plan.empty.Extends Predicate.IsNormal ⟨[.filter heatedOrLit]⟩ := by
  have hcalls : ∀ call ∈ [mapOn], call.FromProvided := by
    intro call hmem
    rw [List.mem_singleton.1 hmem]
    exact Call.fromProvided_mapAll _ _ _ _
  have hset : isSet.Provided := .boolean _
  have hparts : ∀ q ∈ ["heated","lit"].filterMap isSet.predicate?, q.Composed := by
    intro q hq
    obtain ⟨field,-,hq⟩ := List.mem_filterMap.1 hq
    exact .asked hset hq
  have composed : heatedOrLit.negate.Composed := .negate (.any hparts rfl)
  obtain ⟨hcomposed,hnegate,hadded⟩ := predicates_stay_normal
  obtain ⟨hrun,hfield,hfields⟩ := hadded schema .empty
  have hnormal := hcomposed _ composed
  refine ⟨hnormal,(hnegate _ hnormal).2.1,?_,?_,?_⟩
  · exact (hrun spec [mapOn] false false _ provided_spec hcalls rfl).2 _ rfl
  · exact hfield isSet "lit" _ hset rfl
  · exact hfields isSet .or ["heated","lit"] _ hset rfl

end Rooms
end RecordSearch
