import RecordSearch.Predicate

/-! Sources of records. All that a search asks of a source is to narrow it: to keep the records
that satisfy a predicate, to drop some at the front, to keep some at the front. -/
namespace RecordSearch

class Source (σ : Type) where
  filterBy : Predicate → σ → σ
  skip : Nat → σ → σ
  take : Nat → σ → σ

/-- One narrowing. -/
inductive Step
  | filter (p : Predicate)
  | skip (n : Nat)
  | take (n : Nat)

namespace Step

def apply {σ : Type} [Source σ] : Step → σ → σ
  | filter p => Source.filterBy p
  | skip n => Source.skip n
  | take n => Source.take n

def applyAll {σ : Type} [Source σ] (steps : List Step) (s : σ) : σ :=
  steps.foldl (fun s step => step.apply s) s

end Step

/-- A list of records narrows at once. -/
instance {ρ : Type} [Record ρ] : Source (List ρ) where
  filterBy p rs := rs.filter (p.holds ·)
  skip n rs := rs.drop n
  take n rs := rs.take n

end RecordSearch
