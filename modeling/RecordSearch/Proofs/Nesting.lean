import RecordSearch.Proofs.Calls
import RecordSearch.Proofs.Grouping

/-! Groups inside groups. However predicates are grouped in one mode, the outcome asks on every
record for all of the predicates at the leaves, or for any of them. A group of nothing is left out
of the group around it, which is why it needs no predicate of its own. -/
namespace RecordSearch

namespace ApplyMode
variable {ρ : Type} [Record ρ]

/-- What a mode makes of several predicates on a record: whether all of them hold, or any. -/
def judge : ApplyMode → List Predicate → ρ → Bool
  | and, ps, r => ps.all (·.holds r)
  | or, ps, r => ps.any (·.holds r)

variable (mode : ApplyMode) (r : ρ)

@[simp] lemma judge_singleton (p : Predicate) : mode.judge [p] r = p.holds r := by
  cases mode <;> simp [judge]

/-- Neither order nor repetition matters. -/
lemma judge_congr {ps qs : List Predicate} (h : ∀ p, p ∈ ps ↔ p ∈ qs) :
    mode.judge ps r = mode.judge qs r := by
  rw [Bool.eq_iff_iff]
  cases mode <;> simp [judge,h]

lemma judge_append_congr {ps ps' qs qs' : List Predicate} (hp : mode.judge ps r = mode.judge ps' r)
    (hq : mode.judge qs r = mode.judge qs' r) :
    mode.judge (ps ++ qs) r = mode.judge (ps' ++ qs') r := by
  cases mode with
  | and =>
    rw [judge,judge] at hp hq ⊢
    rw [List.all_append,List.all_append,hp,hq]
  | or =>
    rw [judge,judge] at hp hq ⊢
    rw [List.any_append,List.any_append,hp,hq]

/-- Lists whose parts are judged alike, one by one, are judged alike. -/
lemma judge_flatMap_congr {α : Type} {xs : List α} {f g : α → List Predicate}
    (h : ∀ x ∈ xs, mode.judge (f x) r = mode.judge (g x) r) :
    mode.judge (xs.flatMap f) r = mode.judge (xs.flatMap g) r := by
  induction xs with
  | nil => rfl
  | cons x xs ih =>
    rw [List.flatMap_cons,List.flatMap_cons]
    exact mode.judge_append_congr r (h x List.mem_cons_self)
      (ih fun y hy => h y (List.mem_cons_of_mem x hy))

/-- A combined predicate is judged as its parts together. -/
lemma judge_combine (ps : List Predicate) :
    mode.judge (mode.combine ps).toList r = mode.judge ps r := by
  rcases ps with _ | ⟨p,_ | ⟨q,ps⟩⟩
  · cases mode <;> rfl
  · rw [combine_singleton]
    rfl
  · cases mode with
    | and => exact (judge_singleton and r _).trans (Predicate.holds_and r (p::q::ps))
    | or => exact (judge_singleton or r _).trans (Predicate.holds_or r (p::q::ps))

end ApplyMode

/-- Predicates in groups, at any depth. -/
inductive Grouping
  | leaf (p : Predicate)
  | group (parts : List Grouping)

namespace Grouping

/-- Induction over the tree, with the hypothesis for all parts of a group. -/
theorem tree_induction {motive : Grouping → Prop} (leaf : ∀ p, motive (leaf p))
    (group : ∀ parts, (∀ g ∈ parts, motive g) → motive (group parts)) : ∀ g, motive g
  | .leaf p => leaf p
  | .group parts => group parts fun g _ => tree_induction leaf group g

mutual

/-- Combines the predicates of every group in one mode, from the inside out. A group without a
predicate adds nothing to the one around it. -/
def combine? (mode : ApplyMode) : Grouping → Option Predicate
  | leaf p => some p
  | group parts => mode.combine (combineParts mode parts)

def combineParts (mode : ApplyMode) : List Grouping → List Predicate
  | [] => []
  | g :: gs => (combine? mode g).toList ++ combineParts mode gs

end

mutual

/-- The predicates of a tree from left to right. -/
def leaves : Grouping → List Predicate
  | leaf p => [p]
  | group parts => leavesOfAll parts

def leavesOfAll : List Grouping → List Predicate
  | [] => []
  | g :: gs => leaves g ++ leavesOfAll gs

end

lemma combineParts_eq (mode : ApplyMode) (gs : List Grouping) :
    combineParts mode gs = gs.flatMap fun g => (g.combine? mode).toList := by
  induction gs with
  | nil => rfl
  | cons g gs ih => rw [combineParts,ih,List.flatMap_cons]

lemma leavesOfAll_eq (gs : List Grouping) : leavesOfAll gs = gs.flatMap leaves := by
  induction gs with
  | nil => rfl
  | cons g gs ih => rw [leavesOfAll,ih,List.flatMap_cons]

@[simp] lemma combine?_leaf (mode : ApplyMode) (p : Predicate) :
    (leaf p).combine? mode = some p := by rw [combine?]

@[simp] lemma combine?_group (mode : ApplyMode) (parts : List Grouping) :
    (group parts).combine? mode =
      mode.combine (parts.flatMap fun g => (g.combine? mode).toList) := by
  rw [combine?,combineParts_eq]

@[simp] lemma leaves_leaf (p : Predicate) : (leaf p).leaves = [p] := by rw [leaves]

@[simp] lemma leaves_group (parts : List Grouping) :
    (group parts).leaves = parts.flatMap leaves := by rw [leaves,leavesOfAll_eq]

lemma combine?_eq_none_iff (mode : ApplyMode) (g : Grouping) :
    g.combine? mode = none ↔ g.leaves = [] := by
  induction g using tree_induction with
  | leaf p => simp
  | group parts ih =>
    rw [combine?_group,ApplyMode.combine_eq_none_iff,leaves_group,List.flatMap_eq_nil_iff,
      List.flatMap_eq_nil_iff]
    simp only [Option.toList_eq_nil_iff]
    exact forall₂_congr ih

/-- By induction over the tree: what a group combines is judged as the leaves of its parts. -/
lemma judge_combine? {ρ : Type} [Record ρ] (mode : ApplyMode) (r : ρ) (g : Grouping) :
    mode.judge (g.combine? mode).toList r = mode.judge g.leaves r := by
  induction g using tree_induction with
  | leaf p => rw [combine?_leaf,leaves_leaf]; rfl
  | group parts ih =>
    rw [combine?_group,leaves_group,ApplyMode.judge_combine]
    exact mode.judge_flatMap_congr r ih

lemma holds_of_combine? {mode : ApplyMode} {g : Grouping} {p : Predicate}
    (h : g.combine? mode = some p) {ρ : Type} [Record ρ] (r : ρ) :
    p.holds r = mode.judge g.leaves r := by
  rw [← judge_combine?,h,Option.toList_some,ApplyMode.judge_singleton]

/-- Groupings of the same predicates ask the same, whatever their order, repetition and depth. -/
lemma map_holds_combine?_congr (mode : ApplyMode) {g h : Grouping}
    (same : ∀ p, p ∈ g.leaves ↔ p ∈ h.leaves) {ρ : Type} [Record ρ] (r : ρ) :
    (g.combine? mode).map (·.holds r) = (h.combine? mode).map (·.holds r) := by
  have hnone : g.combine? mode = none ↔ h.combine? mode = none := by
    rw [combine?_eq_none_iff,combine?_eq_none_iff]
    simp only [List.eq_nil_iff_forall_not_mem,same]
  cases hg : g.combine? mode with
  | none => rw [hnone.1 hg]
  | some p =>
    cases hh : h.combine? mode with
    | none => rw [hnone.2 hh] at hg; cases hg
    | some q =>
      rw [Option.map_some,Option.map_some,holds_of_combine? hg,holds_of_combine? hh]
      exact congrArg some (mode.judge_congr r same)

/-- Combining in one mode throughout gives nothing exactly for a tree without leaves, and otherwise
what holds if all leaves do, or if any does. So trees with the same predicates at their leaves,
in whatever order, number and grouping, give the same answers. -/
theorem combine?_of_leaves (mode : ApplyMode) (g : Grouping) :
    (g.combine? mode = none ↔ g.leaves = []) ∧
    (∀ p, g.combine? mode = some p →
      ∀ {ρ : Type} [Record ρ] (r : ρ), p.holds r = mode.judge g.leaves r) ∧
    ∀ h : Grouping, (∀ p, p ∈ g.leaves ↔ p ∈ h.leaves) →
      ∀ {ρ : Type} [Record ρ] (r : ρ),
        (g.combine? mode).map (·.holds r) = (h.combine? mode).map (·.holds r) :=
  ⟨g.combine?_eq_none_iff mode,fun _ h _ _ r => holds_of_combine? h r,
    fun _ same _ _ r => map_holds_combine?_congr mode same r⟩

end Grouping

namespace Rooms

def heated : Predicate := .compare "heated" .eq (.bool true)
def lit : Predicate := .compare "lit" .eq (.bool true)

/-- An empty group, one test twice, and a group inside the group. -/
def nested : Grouping := .group [.group [],.leaf heated,.group [.leaf lit,.group [.leaf heated]]]

def flat : Grouping := .group [.leaf lit,.leaf heated]

/-- Both groupings ask a heated dark room for heat or light. -/
theorem combine?_of_leaves_nested : ∃ p, nested.combine? .or = some p ∧
    p.holds (⟨true,false⟩ : Room) = ApplyMode.or.judge [heated,lit,heated] (⟨true,false⟩ : Room) ∧
    (nested.combine? .or).map (·.holds (⟨true,false⟩ : Room)) =
      (flat.combine? .or).map (·.holds (⟨true,false⟩ : Room)) := by
  have same : ∀ p, p ∈ nested.leaves ↔ p ∈ flat.leaves := by
    intro p
    have hnested : nested.leaves = [heated,lit,heated] := by rfl
    have hflat : flat.leaves = [lit,heated] := by rfl
    rw [hnested,hflat]
    simp only [List.mem_cons,List.not_mem_nil,or_false]
    tauto
  obtain ⟨-,hholds,hsame⟩ := nested.combine?_of_leaves .or
  exact ⟨_,rfl,hholds _ rfl _,hsame flat same _⟩

end Rooms
end RecordSearch
