import RecordSearch.Source

/-! Plans: narrowings that are written down and run later. Records pass through the steps of a
plan one at a time, and what a plan still has to do after some records is again a list of steps. -/
namespace RecordSearch

structure Plan where
  steps : List Step

namespace Plan

def empty : Plan := ⟨[]⟩

def isEmpty (p : Plan) : Bool := p.steps.isEmpty

def push (p : Plan) (s : Step) : Plan := ⟨p.steps ++ [s]⟩

instance : Source Plan where
  filterBy predicate p := p.push (.filter predicate)
  skip n p := p.push (.skip n)
  take n p := p.push (.take n)

def predicates (p : Plan) : List Predicate :=
  p.steps.filterMap fun
    | .filter predicate => some predicate
    | _ => none

section
variable {ρ : Type} [Record ρ]

/-- Offers a record to the steps: whether it comes through, and the steps for the records after
it. A record that a step keeps back is not seen by the steps behind. -/
def offer (r : ρ) : List Step → Bool × List Step
  | [] => (true, [])
  | .filter p :: steps =>
    if p.holds r then
      let (passes, later) := offer r steps
      (passes, .filter p :: later)
    else (false, .filter p :: steps)
  | .skip 0 :: steps => offer r steps
  | .skip (n + 1) :: steps => (false, .skip n :: steps)
  | .take 0 :: steps => (false, .take 0 :: steps)
  | .take (n + 1) :: steps =>
    let (passes, later) := offer r steps
    (passes, .take n :: later)

/-- The records that come through, in order. -/
def run : List Step → List ρ → List ρ
  | _, [] => []
  | steps, r :: rs =>
    let (passes, later) := offer r steps
    if passes then r :: run later rs else run later rs

def execute (p : Plan) (rs : List ρ) : List ρ := run p.steps rs

/-- How many records come through. -/
def countFrom : List Step → List ρ → Nat
  | _, [] => 0
  | steps, r :: rs =>
    let (passes, later) := offer r steps
    countFrom later rs + if passes then 1 else 0

/-- The first record that comes through; those behind it are not looked at. -/
def firstFrom? : List Step → List ρ → Option ρ
  | _, [] => none
  | steps, r :: rs =>
    let (passes, later) := offer r steps
    if passes then some r else firstFrom? later rs

end
end Plan

/-- A list of records with a plan over it. -/
structure Records (ρ : Type) where
  items : List ρ
  plan : Plan

namespace Records
variable {ρ : Type}

def ofList (items : List ρ) : Records ρ := ⟨items, .empty⟩

instance : Source (Records ρ) where
  filterBy p r := { r with plan := Source.filterBy p r.plan }
  skip n r := { r with plan := Source.skip n r.plan }
  take n r := { r with plan := Source.take n r.plan }

variable [Record ρ]

def toList (r : Records ρ) : List ρ := r.plan.execute r.items
def count (r : Records ρ) : Nat := Plan.countFrom r.plan.steps r.items
def first? (r : Records ρ) : Option ρ := Plan.firstFrom? r.plan.steps r.items

end Records
end RecordSearch
