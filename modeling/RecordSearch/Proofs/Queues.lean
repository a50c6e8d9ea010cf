import Mathlib.Data.List.Count
import RecordSearch.Proofs.Narrowing

/-! What waits in a search, role by role. Phases empty the queue of a role or leave it as it is, and
go through the roles in a fixed order, so predicates always come before skips, and skips before
takes. -/
namespace RecordSearch

namespace Role

/-- The place of a role among the phases. Filters and plain fields both ask for predicates. -/
def rank : Role → Nat
  | filter | plain => 0
  | skip => 1
  | take => 2

/-- The roles in the order in which phases go through them. -/
def inOrder : List Role := [filter,plain,skip,take]

lemma mem_inOrder (role : Role) : role ∈ inOrder := by cases role <;> decide

lemma pairwise_inOrder : inOrder.Pairwise (·.rank ≤ ·.rank) := by decide

end Role

/-- Whether the phases empty the queue of a role. -/
def Phases.empties (p : Phases) : Role → Bool
  | .filter => p.filters
  | .plain => p.plain
  | .skip => p.skips
  | .take => p.takes

namespace Search
variable {σ : Type} (s : Search σ) (p : Phases)

/-- The fields in a role that wait. -/
def queue : Role → List String
  | .filter => s.filters
  | .plain => s.plain
  | .skip => s.skips
  | .take => s.takes

/-- Whether the phases go through the fields in a role. Plain fields are dropped otherwise, if all
fields are not to be applied. -/
def visits : Role → Bool
  | .plain => p.plain && s.applyAll
  | role => p.empties role

@[simp] lemma queue_start (source : σ) (schema : Schema) (spec : Specification)
    (applyAll paging : Bool) (role : Role) :
    (start source schema spec applyAll paging).queue role = spec.named role := by
  cases role <;> rfl

@[simp] lemma queue_drained (source : σ) (role : Role) :
    (s.drained p source).queue role = if p.empties role then [] else s.queue role := by
  cases role <;> rfl

variable {s p} in
lemma queue_drained_eq_nil {role : Role} (h : p.empties role ∨ s.queue role = []) (source : σ) :
    (s.drained p source).queue role = [] := by
  rw [queue_drained]
  split_ifs with he
  · rfl
  · exact h.resolve_left he

variable {s p} in
lemma empties_of_visits {role : Role} (h : s.visits p role) : p.empties role := by
  cases role with
  | plain => exact (Bool.and_eq_true_iff.1 h).1
  | _ => exact h

/-- The fields in a role that the phases go through. -/
def visited (role : Role) : List FieldDescriptor :=
  if s.visits p role then (s.queue role).map (⟨·,role⟩) else []

lemma waiting_eq_flatMap : s.waiting p = Role.inOrder.flatMap (s.visited p) := by
  simp only [waiting,Role.inOrder,List.flatMap_cons,List.flatMap_nil,List.append_nil,
    List.append_assoc]
  rfl

variable {s p} in
lemma mem_visited {role : Role} {d : FieldDescriptor} :
    d ∈ s.visited p role ↔ d.role = role ∧ s.visits p role ∧ d.name ∈ s.queue role := by
  obtain ⟨field,role'⟩ := d
  rw [visited]
  split_ifs with h
  · constructor
    · intro hd
      obtain ⟨_,hmem,he⟩ := List.mem_map.1 hd
      cases he
      exact ⟨rfl,h,hmem⟩
    · rintro ⟨rfl,-,hmem⟩
      exact List.mem_map.2 ⟨field,hmem,rfl⟩
  · simp [h]

variable {s p} in
lemma mem_waiting {d : FieldDescriptor} :
    d ∈ s.waiting p ↔ s.visits p d.role ∧ d.name ∈ s.queue d.role := by
  rw [waiting_eq_flatMap,List.mem_flatMap]
  constructor
  · rintro ⟨role,-,hd⟩
    obtain ⟨rfl,h⟩ := mem_visited.1 hd
    exact h
  · intro h
    exact ⟨d.role,d.role.mem_inOrder,mem_visited.2 ⟨rfl,h⟩⟩

/-- Phases go through a field as often as it waits, or not at all. -/
lemma count_waiting (d : FieldDescriptor) :
    (s.waiting p).count d = if s.visits p d.role then (s.queue d.role).count d.name else 0 := by
  have other : ∀ role, role ≠ d.role → (s.visited p role).count d = 0 := by
    intro role hrole
    exact List.count_eq_zero_of_not_mem fun hd => hrole (mem_visited.1 hd).1.symm
  have same : (s.visited p d.role).count d =
      if s.visits p d.role then (s.queue d.role).count d.name else 0 := by
    rw [visited]
    split_ifs
    · exact List.count_map_of_injective _ (FieldDescriptor.mk · d.role)
        (fun a b h => (FieldDescriptor.mk.inj h).1) d.name
    · rfl
  rw [waiting_eq_flatMap,← same]
  simp only [Role.inOrder,List.flatMap_cons,List.flatMap_nil,List.count_append,List.count_nil]
  cases hd : d.role <;> rw [hd] at other <;> simp [other]

/-- A field waits less often by as much as phases go through it. -/
lemma count_waiting_add_drained (source : σ) (d : FieldDescriptor) :
    (s.waiting p).count d + ((s.drained p source).queue d.role).count d.name ≤
      (s.queue d.role).count d.name := by
  rw [count_waiting,queue_drained]
  by_cases he : p.empties d.role
  · rw [if_pos he,List.count_nil]
    split_ifs <;> omega
  · have hv : ¬ s.visits p d.role := fun hv => he (empties_of_visits hv)
    simp only [if_neg hv,if_neg he,Nat.zero_add,Nat.le_refl]

/-- Phases go through the roles in order. -/
lemma pairwise_waiting : (s.waiting p).Pairwise (·.role.rank ≤ ·.role.rank) := by
  rw [waiting_eq_flatMap,List.pairwise_flatMap]
  constructor
  · intro role _
    apply List.pairwise_of_forall_mem_list
    intro a ha b hb
    have hrole : a.role = b.role := (mem_visited.1 ha).1.trans (mem_visited.1 hb).1.symm
    exact Nat.le_of_eq (congrArg Role.rank hrole)
  · apply Role.pairwise_inOrder.imp
    intro a b hab d hd e he
    rw [(mem_visited.1 hd).1,(mem_visited.1 he).1]
    exact hab

end Search
end RecordSearch
