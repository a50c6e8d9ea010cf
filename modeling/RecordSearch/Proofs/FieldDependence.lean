import Mathlib.Data.List.Forall2
import RecordSearch.Proofs.Calls
import RecordSearch.Proofs.Kinds
import RecordSearch.Proofs.NameOrder

/-! What a plan looks at. A predicate reads only the fields that its tests name, so records that
agree on these, be they of different types, satisfy it alike and go through the steps of a plan
alike. The main statement is that a plan lets through the same positions of lists that agree on the
fields of its predicates, and that these fields are listed in the order of their bytes. -/
namespace RecordSearch

namespace Predicate

/-- The field that a test of a single field reads. -/
def field? : Predicate → Option String
  | compare field _ _ | text field _ _ | pattern field _ | nullOrEmpty field
  | contains field _ _ => some field
  | and _ | or _ | not _ => none

/-- The fields that the tests in a predicate name, from left to right. -/
def named (p : Predicate) : List String := p.leaves.filterMap field?

/-- Induction on predicates. For a group it holds of all members already. -/
@[elab_as_elim]
theorem tree_induction {motive : Predicate → Prop}
    (test : ∀ p field, p.field? = some field → motive p)
    (and : ∀ ps, (∀ p ∈ ps, motive p) → motive (and ps))
    (or : ∀ ps, (∀ p ∈ ps, motive p) → motive (or ps))
    (not : ∀ p, motive p → motive (not p)) : ∀ p, motive p
  | .compare _ _ _ => test _ _ rfl
  | .text _ _ _ => test _ _ rfl
  | .pattern _ _ => test _ _ rfl
  | .nullOrEmpty _ => test _ _ rfl
  | .contains _ _ _ => test _ _ rfl
  | .and ps => and ps fun p _ => tree_induction test and or not p
  | .or ps => or ps fun p _ => tree_induction test and or not p
  | .not p => not p (tree_induction test and or not p)

section
variable {p : Predicate} {field : String}

lemma named_of_field? (h : p.field? = some field) : p.named = [field] := by
  cases p <;> cases h <;> rfl

@[simp] lemma named_and (ps : List Predicate) : (and ps).named = ps.flatMap named := by
  rw [named,leaves,leavesOfAll_eq,List.filterMap_flatMap]
  rfl

@[simp] lemma named_or (ps : List Predicate) : (or ps).named = ps.flatMap named := by
  rw [named,leaves,leavesOfAll_eq,List.filterMap_flatMap]
  rfl

@[simp] lemma named_not (p : Predicate) : (not p).named = p.named := by
  rw [named,leaves]
  rfl

lemma addFields_of_field? (h : p.field? = some field) (names : List String) :
    addFields names p = insertName field names := by
  cases p <;> cases h <;> rfl

end

/-- Inserts names into an ascending list, one by one. -/
def insertNames (names added : List String) : List String :=
  added.foldl (fun names name => insertName name names) names

lemma mem_insertNames {name : String} {names added : List String} :
    name ∈ insertNames names added ↔ name ∈ added ∨ name ∈ names := by
  induction added generalizing names with
  | nil => simp [insertNames]
  | cons other added ih =>
    change name ∈ insertNames (insertName other names) added ↔ _
    rw [ih,mem_insertName,List.mem_cons]
    tauto

lemma Ascending.insertNames {names : List String} (h : Ascending names) (added : List String) :
    Ascending (insertNames names added) := by
  induction added generalizing names with
  | nil => exact h
  | cons name added ih => exact ih (h.insertName name)

lemma addAllFields_eq_insertNames {ps : List Predicate}
    (h : ∀ p ∈ ps, ∀ names, addFields names p = insertNames names p.named) (names : List String) :
    addAllFields names ps = insertNames names (ps.flatMap named) := by
  induction ps generalizing names with
  | nil => rfl
  | cons p ps ih =>
    rw [addAllFields,ih fun q hq => h q (List.mem_cons_of_mem _ hq),h p List.mem_cons_self]
    exact List.foldl_append.symm

/-- Adding the fields of a predicate inserts the names in it one by one. -/
lemma addFields_eq_insertNames (p : Predicate) (names : List String) :
    addFields names p = insertNames names p.named := by
  induction p using tree_induction generalizing names with
  | test p field h => rw [addFields_of_field? h,named_of_field? h]; rfl
  | and ps ih => rw [addFields,addAllFields_eq_insertNames ih,named_and]
  | or ps ih => rw [addFields,addAllFields_eq_insertNames ih,named_or]
  | not p ih => rw [addFields,ih,named_not]

/-- The fields of a predicate are those that its tests name. -/
lemma mem_fields {p : Predicate} {field : String} : field ∈ p.fields ↔ field ∈ p.named := by
  rw [fields,addFields_eq_insertNames,mem_insertNames]
  simp

lemma ascending_fields (p : Predicate) : Ascending p.fields := by
  rw [fields,addFields_eq_insertNames]
  exact Ascending.insertNames .nil p.named

/-- The fields of a predicate ascend by their bytes. -/
lemma pairwise_octets_fields (p : Predicate) :
    (p.fields.map Text.octets).Pairwise (· < ·) := by
  rw [List.pairwise_map]
  exact p.ascending_fields.imp fun {s t} => (Text.octets_lt_octets_iff s t).2

section
variable {ρ ρ' : Type} [Record ρ] [Record ρ']

/-- Records agree on some fields if each of them has the same value in both. -/
def AgreeOn (fields : List String) (r : ρ) (r' : ρ') : Prop :=
  ∀ field ∈ fields, Record.value r field = Record.value r' field

lemma holds_of_field? {p : Predicate} {field : String} (h : p.field? = some field) {r : ρ}
    {r' : ρ'} (agree : Record.value r field = Record.value r' field) :
    p.holds r = p.holds r' := by
  cases p <;> cases h <;> simp only [holds,agree]

/-- Records that agree on the fields of a predicate satisfy it alike. -/
lemma holds_eq_of_agreeOn {p : Predicate} {r : ρ} {r' : ρ'} (agree : AgreeOn p.fields r r') :
    p.holds r = p.holds r' := by
  have hnamed : AgreeOn p.named r r' := fun field h => agree field (mem_fields.2 h)
  clear agree
  induction p using tree_induction with
  | test p field h => exact holds_of_field? h (hnamed field (by simp [named_of_field? h]))
  | and ps ih =>
    rw [holds_and,holds_and,Bool.eq_iff_iff,List.all_eq_true,List.all_eq_true]
    refine forall₂_congr fun p hp => ?_
    rw [ih p hp fun field h => hnamed field (by simp; exact ⟨p,hp,h⟩)]
  | or ps ih =>
    rw [holds_or,holds_or,Bool.eq_iff_iff,List.any_eq_true,List.any_eq_true]
    refine exists_congr fun p => and_congr_right fun hp => ?_
    rw [ih p hp fun field h => hnamed field (by simp; exact ⟨p,hp,h⟩)]
  | not p ih => rw [holds_not,holds_not,ih (by rwa [named_not] at hnamed)]

end
end Predicate

namespace Plan

lemma mem_predicates {plan : Plan} {p : Predicate} :
    p ∈ plan.predicates ↔ .filter p ∈ plan.steps := by
  rw [predicates,List.mem_filterMap]
  constructor
  · rintro ⟨step,hstep,heq⟩
    cases step with
    | filter q => cases heq; exact hstep
    | skip n => cases heq
    | take n => cases heq
  · intro h
    exact ⟨_,h,rfl⟩

/-- Offering a record adds no predicate to what is still to do. -/
lemma predicates_offer_subset {ρ : Type} [Record ρ] (r : ρ) (steps : List Step) :
    predicates ⟨(offer r steps).2⟩ ⊆ predicates ⟨steps⟩ := by
  intro p
  rw [mem_predicates,mem_predicates]
  induction steps with
  | nil => exact id
  | cons step steps ih =>
    rcases step with q | (_ | n) | (_ | n)
    · cases h : q.holds r with
      | false => simp [offer,h]
      | true =>
        simp only [offer,h,if_true,List.mem_cons]
        exact Or.imp_right ih
    · intro h
      exact List.mem_cons_of_mem _ (ih h)
    · simp [offer]
    · simp [offer]
    · simp only [offer,List.mem_cons,reduceCtorEq,false_or]
      exact ih

section
variable {ρ ρ' : Type} [Record ρ] [Record ρ']

/-- Records that a plan cannot tell apart: they agree on the fields of all its predicates. -/
def Alike (plan : Plan) (r : ρ) (r' : ρ') : Prop :=
  ∀ p ∈ plan.predicates, Predicate.AgreeOn p.fields r r'

/-- Records that are alike to some steps go through them alike, and leave the same to do. -/
lemma offer_eq_of_alike {steps : List Step} {r : ρ} {r' : ρ'} (alike : Alike ⟨steps⟩ r r') :
    offer r steps = offer r' steps := by
  induction steps with
  | nil => rfl
  | cons step steps ih =>
    have hsteps : Alike ⟨steps⟩ r r' := by
      intro p hp
      exact alike p (mem_predicates.2 (List.mem_cons_of_mem _ (mem_predicates.1 hp)))
    rcases step with p | (_ | n) | (_ | n)
    · have hholds : p.holds r = p.holds r' :=
        Predicate.holds_eq_of_agreeOn (alike p (mem_predicates.2 List.mem_cons_self))
      rw [offer,offer,hholds,ih hsteps]
    · exact ih hsteps
    · rfl
    · rfl
    · rw [offer,offer,ih hsteps]

/-- What is true of the records of two lists, position by position, is true of those that come
through, if it makes the records alike. -/
lemma forall₂_run {R : ρ → ρ' → Prop} (steps : List Step) {rs : List ρ} {rs' : List ρ'}
    (related : List.Forall₂ R rs rs') (alike : ∀ r r', R r r' → Alike ⟨steps⟩ r r') :
    List.Forall₂ R (run steps rs) (run steps rs') := by
  induction related generalizing steps with
  | nil => exact .nil
  | @cons r r' rs rs' hr hrs ih =>
    have hoffer := offer_eq_of_alike (alike r r' hr)
    have hlater : List.Forall₂ R (run (offer r steps).2 rs) (run (offer r steps).2 rs') :=
      ih _ fun a b hab p hp => alike a b hab p (predicates_offer_subset r steps hp)
    rw [run,run,← hoffer]
    dsimp only
    cases (offer r steps).1 with
    | false => exact hlater
    | true => exact .cons hr hlater

end

/-- A record with its position in a list is read like the record. -/
instance {ρ : Type} [Record ρ] : Record (ρ × Nat) where
  value r field := Record.value r.1 field

section
variable {ρ ρ' : Type} [Record ρ] [Record ρ']

/-- The positions of the records that come through, in order. -/
def positions (plan : Plan) (rs : List ρ) : List Nat := (plan.execute rs.zipIdx).map Prod.snd

/-- What comes through is what stands at these positions. -/
lemma execute_eq_filterMap_positions (plan : Plan) (rs : List ρ) :
    plan.execute rs = (plan.positions rs).filterMap (rs[·]?) := by
  have hzip : List.Forall₂ (fun (x : ρ × Nat) r => x.1 = r ∧ rs[x.2]? = some r) rs.zipIdx rs := by
    rw [List.forall₂_iff_get]
    refine ⟨List.length_zipIdx,?_⟩
    intro i _ hi
    simp [hi]
  have hrun := forall₂_run plan.steps hzip (by
    rintro x r ⟨rfl,-⟩ p - field -
    rfl)
  change run plan.steps rs = ((run plan.steps rs.zipIdx).map Prod.snd).filterMap (rs[·]?)
  generalize run plan.steps rs.zipIdx = xs at hrun
  generalize run plan.steps rs = ys at hrun
  induction hrun with
  | nil => rfl
  | cons h _ ih => rw [List.map_cons,List.filterMap_cons_some h.2,← ih]

/-- Lists whose records are alike, position by position, have the same positions come through. -/
lemma positions_eq_of_alike {plan : Plan} {rs : List ρ} {rs' : List ρ'}
    (alike : List.Forall₂ plan.Alike rs rs') : plan.positions rs = plan.positions rs' := by
  have hzip : List.Forall₂ (fun (x : ρ × Nat) (x' : ρ' × Nat) =>
      x.2 = x'.2 ∧ plan.Alike x.1 x'.1) rs.zipIdx rs'.zipIdx := by
    rw [List.forall₂_iff_get] at alike ⊢
    obtain ⟨hlength,hget⟩ := alike
    refine ⟨by simpa using hlength,?_⟩
    intro i hi hi'
    simpa using hget i (by simpa using hi) (by simpa using hi')
  have hrun := forall₂_run plan.steps hzip fun _ _ h => h.2
  rw [positions,positions,← List.forall₂_eq_eq_eq,List.forall₂_map_left_iff,
    List.forall₂_map_right_iff]
  exact hrun.imp fun _ _ h => h.1

end

/-- A search depends on the fields that it names and on nothing else of the records. On lists of
records of any two types that agree, position by position, on the fields of all predicates of a
plan, the plan lets through what stands at the same positions. The fields of a predicate are those
that its tests name, and they ascend by their bytes. -/
theorem execute_depends_on_fields :
    (∀ (plan : Plan) {ρ ρ' : Type} [Record ρ] [Record ρ'] (rs : List ρ) (rs' : List ρ'),
      List.Forall₂ plan.Alike rs rs' →
        plan.positions rs = plan.positions rs' ∧
        plan.execute rs = (plan.positions rs).filterMap (rs[·]?) ∧
        plan.execute rs' = (plan.positions rs').filterMap (rs'[·]?)) ∧
    ∀ p : Predicate, (p.fields.map Text.octets).Pairwise (· < ·) ∧
      ∀ field, field ∈ p.fields ↔ ∃ leaf ∈ p.leaves, leaf.field? = some field := by
  constructor
  · intro plan ρ ρ' _ _ rs rs' alike
    exact ⟨positions_eq_of_alike alike,plan.execute_eq_filterMap_positions rs,
      plan.execute_eq_filterMap_positions rs'⟩
  · intro p
    refine ⟨p.pairwise_octets_fields,?_⟩
    intro field
    rw [Predicate.mem_fields,Predicate.named,List.mem_filterMap]

end Plan

namespace Rooms

/-- What is left of a room if only its light is known. -/
structure Lamp where
  lit : Bool

instance : Record Lamp where
  value l field := if field = "lit" then .bool l.lit else .missing

/-- The second lit room. -/
def secondLit : Plan := ⟨[.filter (.compare "lit" .eq (.bool true)),.skip 1,.take 1]⟩

def lamps : List Lamp := rooms.items.map fun r => ⟨r.lit⟩

lemma alike_lamps : List.Forall₂ secondLit.Alike rooms.items lamps := by
  rw [lamps,List.forall₂_map_right_iff,List.forall₂_same]
  intro r _ p hp field hfield
  obtain rfl : p = .compare "lit" .eq (.bool true) := by
    simpa [secondLit] using Plan.mem_predicates.1 hp
  have hnamed : (Predicate.compare "lit" .eq (.bool true)).named = ["lit"] :=
    Predicate.named_of_field? rfl
  rw [Predicate.mem_fields,hnamed,List.mem_singleton] at hfield
  subst hfield
  rfl

/-- The second lit room is found where its lamp is. -/
theorem execute_depends_on_fields_lamps :
    List.Forall₂ secondLit.Alike rooms.items lamps ∧ secondLit.positions rooms.items = [3] ∧
      secondLit.positions lamps = [3] ∧ secondLit.execute rooms.items = [⟨false,true⟩] ∧
      secondLit.execute lamps = [⟨true⟩] ∧ heatedOrLit.fields = ["heated","lit"] := by
  obtain ⟨hpositions,hrooms,hlamps⟩ :=
    Plan.execute_depends_on_fields.1 secondLit rooms.items lamps alike_lamps
  have hthree : secondLit.positions rooms.items = [3] := by rfl
  rw [hthree] at hpositions hrooms
  rw [← hpositions] at hlamps
  exact ⟨alike_lamps,hthree,hpositions.symm,hrooms,hlamps,by rfl⟩

end Rooms
end RecordSearch
