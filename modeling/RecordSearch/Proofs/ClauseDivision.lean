import RecordSearch.Proofs.AbsentOperands
import RecordSearch.Proofs.Ranges
import RecordSearch.Proofs.SeveralFields

/-! Dividing the clauses of a filter. Each clause that is set goes to one of two filters of the same
kind, with its operand, and to the other not at all. A clause that is not set asks nothing, so the
two filters together ask what the whole one does; and a part without clauses is inactive, so it is
not even checked against the field. Searching for the parts one after the other, in either order,
then selects what searching for the whole does. -/
namespace RecordSearch

/-- Something goes to the first or to the second of two, and the other is left with nothing. -/
inductive Dealt {α : Type} (unset : α) : α → α → α → Prop
  | left (a : α) : Dealt unset a a unset
  | right (a : α) : Dealt unset a unset a

/-- Each entry of a list goes to the same place of one of two others. -/
inductive DealtOut {α : Type} (unset : α) : List α → List α → List α → Prop
  | nil : DealtOut unset [] [] []
  | cons {a b c : α} {as bs cs : List α} (head : Dealt unset a b c)
      (tail : DealtOut unset as bs cs) : DealtOut unset (a::as) (b::bs) (c::cs)

section
variable {α β : Type} {unset : α}

lemma Dealt.symm {a b c : α} (h : Dealt unset a b c) : Dealt unset a c b := by
  cases h with
  | left => exact .right a
  | right => exact .left a

lemma Dealt.map {a b c : α} (h : Dealt unset a b c) (f : α → β) :
    Dealt (f unset) (f a) (f b) (f c) := by
  cases h with
  | left => exact .left (f a)
  | right => exact .right (f a)

lemma Dealt.option {a b c : Option α} (h : Dealt none a b c) (f : α → β) :
    Dealt none (a.map f) (b.map f) (c.map f) := h.map (Option.map f)

/-- A blank operand is as good as none. -/
lemma Dealt.nonBlank {a b c : Option String} (h : Dealt none a b c) (f : String → β) :
    Dealt none ((TextFilter.nonBlank? a).map f) ((TextFilter.nonBlank? b).map f)
      ((TextFilter.nonBlank? c).map f) := (h.map TextFilter.nonBlank?).option f

/-- So is an absent one. -/
lemma Dealt.scalar {t : ScalarType} {a b c : Option t.Carrier} (h : Dealt none a b c)
    (f : Scalar → β) : Dealt none ((a.bind t.scalar?).map f) ((b.bind t.scalar?).map f)
      ((c.bind t.scalar?).map f) := (h.map fun m => m.bind t.scalar?).option f

variable {as bs cs : List α} {test : α → Bool}

lemma DealtOut.all (h : DealtOut unset as bs cs) (hunset : test unset = true) :
    as.all test = (bs.all test && cs.all test) := by
  induction h with
  | nil => rfl
  | @cons a b c as bs cs head tail ih =>
    cases head with
    | left => rw [List.all_cons,List.all_cons,List.all_cons,hunset,ih,Bool.true_and,Bool.and_assoc]
    | right =>
      rw [List.all_cons,List.all_cons,List.all_cons,hunset,ih,Bool.true_and,Bool.and_left_comm]

lemma DealtOut.any_of_left (h : DealtOut unset as bs cs) (hunset : test unset = false)
    (hb : bs.any test = true) : as.any test = true := by
  induction h with
  | nil => exact hb
  | @cons a b c as bs cs head tail ih =>
    rw [List.any_cons,Bool.or_eq_true] at hb ⊢
    cases head with
    | left => exact hb.imp_right ih
    | right =>
      rw [hunset] at hb
      exact .inr (ih (hb.resolve_left Bool.false_ne_true))

end

/-- A text filter, and its clauses divided between two others. -/
structure TextFilter.Parts (whole f g : TextFilter) : Prop where
  equal : Dealt none whole.equal f.equal g.equal
  notEqual : Dealt none whole.notEqual f.notEqual g.notEqual
  startsWith : Dealt none whole.startsWith f.startsWith g.startsWith
  notStartsWith : Dealt none whole.notStartsWith f.notStartsWith g.notStartsWith
  endsWith : Dealt none whole.endsWith f.endsWith g.endsWith
  notEndsWith : Dealt none whole.notEndsWith f.notEndsWith g.notEndsWith
  contains : Dealt none whole.contains f.contains g.contains
  notContains : Dealt none whole.notContains f.notContains g.notContains
  isNullOrEmpty : Dealt none whole.isNullOrEmpty f.isNullOrEmpty g.isNullOrEmpty
  matchesPattern : Dealt none whole.matchesPattern f.matchesPattern g.matchesPattern
  notMatchesPattern : Dealt none whole.notMatchesPattern f.notMatchesPattern g.notMatchesPattern

structure ComparableFilter.Parts {t : ScalarType} (whole f g : ComparableFilter t) : Prop where
  equal : Dealt none whole.equal f.equal g.equal
  notEqual : Dealt none whole.notEqual f.notEqual g.notEqual
  greaterThan : Dealt none whole.greaterThan f.greaterThan g.greaterThan
  greaterThanOrEqual : Dealt none whole.greaterThanOrEqual f.greaterThanOrEqual g.greaterThanOrEqual
  lessThan : Dealt none whole.lessThan f.lessThan g.lessThan
  lessThanOrEqual : Dealt none whole.lessThanOrEqual f.lessThanOrEqual g.lessThanOrEqual

structure BooleanFilter.Parts (whole f g : BooleanFilter) : Prop where
  equal : Dealt none whole.equal f.equal g.equal
  notEqual : Dealt none whole.notEqual f.notEqual g.notEqual

structure EnumFilter.Parts (whole f g : EnumFilter) : Prop where
  equal : Dealt none whole.equal f.equal g.equal
  notEqual : Dealt none whole.notEqual f.notEqual g.notEqual
  isIn : Dealt [] whole.isIn f.isIn g.isIn
  notIn : Dealt [] whole.notIn f.notIn g.notIn

structure CollectionFilter.Parts {t : ScalarType} (whole f g : CollectionFilter t) : Prop where
  containsAny : Dealt [] whole.containsAny f.containsAny g.containsAny
  containsAll : Dealt [] whole.containsAll f.containsAll g.containsAll
  containsNotAny : Dealt [] whole.containsNotAny f.containsNotAny g.containsNotAny
  containsNotAll : Dealt [] whole.containsNotAll f.containsNotAll g.containsNotAll

lemma TextFilter.Parts.slots {whole f g : TextFilter} (h : whole.Parts f g) :
    DealtOut none whole.slots f.slots g.slots :=
  .cons (h.equal.nonBlank _) <| .cons (h.notEqual.nonBlank _) <|
    .cons (h.startsWith.nonBlank _) <| .cons (h.notStartsWith.nonBlank _) <|
    .cons (h.endsWith.nonBlank _) <| .cons (h.notEndsWith.nonBlank _) <|
    .cons (h.contains.nonBlank _) <| .cons (h.notContains.nonBlank _) <|
    .cons (h.matchesPattern.option _) <| .cons (h.notMatchesPattern.option _) <|
    .cons (h.isNullOrEmpty.option _) .nil

/-- The operands themselves are divided, the absent ones included. -/
lemma ComparableFilter.Parts.operands {t : ScalarType} {whole f g : ComparableFilter t}
    (h : whole.Parts f g) : DealtOut none (whole.operands.map Prod.fst) (f.operands.map Prod.fst)
      (g.operands.map Prod.fst) :=
  .cons h.equal <| .cons h.notEqual <| .cons h.greaterThan <| .cons h.greaterThanOrEqual <|
    .cons h.lessThan <| .cons h.lessThanOrEqual .nil

lemma ComparableFilter.Parts.slots {t : ScalarType} {whole f g : ComparableFilter t}
    (h : whole.Parts f g) : DealtOut none whole.slots f.slots g.slots :=
  .cons (h.equal.scalar _) <| .cons (h.notEqual.scalar _) <| .cons (h.greaterThan.scalar _) <|
    .cons (h.greaterThanOrEqual.scalar _) <| .cons (h.lessThan.scalar _) <|
    .cons (h.lessThanOrEqual.scalar _) .nil

lemma BooleanFilter.Parts.slots {whole f g : BooleanFilter} (h : whole.Parts f g) :
    DealtOut none whole.slots f.slots g.slots :=
  .cons (h.equal.option _) <| .cons (h.notEqual.option _) .nil

lemma EnumFilter.Parts.slots {whole f g : EnumFilter} (h : whole.Parts f g) :
    DealtOut none whole.slots f.slots g.slots :=
  .cons (h.equal.option _) <| .cons (h.notEqual.option _) <|
    .cons (h.isIn.map fun ds => Clause.unlessEmpty ds (.oneOf ds)) <|
    .cons (h.notIn.map fun ds => Clause.unlessEmpty ds (.noneOf ds)) .nil

lemma CollectionFilter.Parts.slots {t : ScalarType} {whole f g : CollectionFilter t}
    (h : whole.Parts f g) : DealtOut none whole.slots f.slots g.slots :=
  .cons (h.containsAny.map fun ms => slot (ms,.any,false)) <|
    .cons (h.containsAll.map fun ms => slot (ms,.all,false)) <|
    .cons (h.containsNotAny.map fun ms => slot (ms,.any,true)) <|
    .cons (h.containsNotAll.map fun ms => slot (ms,.all,true)) .nil

namespace Filter

/-- A filter of this library, and its clauses divided between two others of the same kind. -/
inductive Parts : Filter → Filter → Filter → Prop
  | text {whole f g : TextFilter} (h : whole.Parts f g) :
      Parts whole.toFilter f.toFilter g.toFilter
  | comparable {t : ScalarType} {whole f g : ComparableFilter t} (h : whole.Parts f g) :
      Parts whole.toFilter f.toFilter g.toFilter
  | boolean {whole f g : BooleanFilter} (h : whole.Parts f g) :
      Parts whole.toFilter f.toFilter g.toFilter
  | enum {whole f g : EnumFilter} (h : whole.Parts f g) :
      Parts whole.toFilter f.toFilter g.toFilter
  | collection {t : ScalarType} {whole f g : CollectionFilter t} (h : whole.Parts f g) :
      Parts whole.toFilter f.toFilter g.toFilter

namespace Parts
variable {whole f g : Filter}

lemma symm (h : Parts whole f g) : Parts whole g f := by
  cases h with
  | text h =>
    exact .text ⟨h.equal.symm,h.notEqual.symm,h.startsWith.symm,h.notStartsWith.symm,
      h.endsWith.symm,h.notEndsWith.symm,h.contains.symm,h.notContains.symm,h.isNullOrEmpty.symm,
      h.matchesPattern.symm,h.notMatchesPattern.symm⟩
  | comparable h =>
    exact .comparable ⟨h.equal.symm,h.notEqual.symm,h.greaterThan.symm,h.greaterThanOrEqual.symm,
      h.lessThan.symm,h.lessThanOrEqual.symm⟩
  | boolean h => exact .boolean ⟨h.equal.symm,h.notEqual.symm⟩
  | enum h => exact .enum ⟨h.equal.symm,h.notEqual.symm,h.isIn.symm,h.notIn.symm⟩
  | collection h =>
    exact .collection ⟨h.containsAny.symm,h.containsAll.symm,h.containsNotAny.symm,
      h.containsNotAll.symm⟩

lemma exists_slots (h : Parts whole f g) : ∃ slots slots' slots'', whole.MadeOf slots ∧
    f.MadeOf slots' ∧ g.MadeOf slots'' ∧ DealtOut none slots slots' slots'' := by
  cases h with
  | text h => exact ⟨_,_,_,.text _,.text _,.text _,h.slots⟩
  | comparable h => exact ⟨_,_,_,.comparable _,.comparable _,.comparable _,h.slots⟩
  | boolean h => exact ⟨_,_,_,.boolean _,.boolean _,.boolean _,h.slots⟩
  | enum h => exact ⟨_,_,_,.enum _,.enum _,.enum _,h.slots⟩
  | collection h => exact ⟨_,_,_,.collection _,.collection _,.collection _,h.slots⟩

/-- The parts keep together what the whole keeps. -/
lemma keeps_eq (h : Parts whole f g) (field : String) {ρ : Type} [Record ρ] (r : ρ) :
    whole.keeps field r = (f.keeps field r && g.keeps field r) := by
  obtain ⟨slots,slots',slots'',hwhole,hf,hg,hdealt⟩ := h.exists_slots
  rw [hwhole.keeps_eq,hf.keeps_eq,hg.keeps_eq]
  exact hdealt.all rfl

/-- A part is active for a clause that the whole has. -/
lemma isActive (h : Parts whole f g) (active : f.isActive = true) : whole.isActive = true := by
  cases h with
  | @comparable t whole f g h =>
    -- Absent operands are no clauses, but they count here.
    have hactive (f : ComparableFilter t) :
        f.isActive = (f.operands.map Prod.fst).any Option.isSome := by
      rw [List.any_map]
      rfl
    exact (hactive whole).trans (h.operands.any_of_left rfl ((hactive f).symm.trans active))
  | @text whole f g h | @boolean whole f g h | @enum whole f g h | @collection _ whole f g h =>
    exact whole.isActive_eq.trans (h.slots.any_of_left rfl (f.isActive_eq.symm.trans active))

/-- The parts are for the fields that the whole is for. -/
lemma takes (h : Parts whole f g) {schema : Schema} {field : String}
    (takes : schema.Takes field whole) : schema.Takes field f := by
  cases h <;> exact ⟨takes.accepted,takes.elements⟩

end Parts

section
variable {schema : Schema} {field : String} {σ : Type} [Source σ]

/-- A search succeeds exactly if the filter is inactive or the field takes it. -/
lemma MadeOf.searchField_eq_ok_iff {f : Filter} {slots : List (Option Clause)}
    (h : f.MadeOf slots) (source kept : σ) :
    Source.searchField schema field f source = .ok kept ↔
      (f.isActive = true → schema.Takes field f) ∧
        Source.filterBy? (f.predicate? field) source = kept := by
  rw [Source.searchField,← Schema.checkSelector_eq_ok_iff]
  cases active : f.isActive with
  | false =>
    rw [h.predicate?_eq_none active field]
    simp [Pure.pure,Except.pure,Source.filterBy?]
  | true =>
    cases schema.checkSelector field f with
    | error e => simp [Bind.bind,Except.bind]
    | ok => simp [Bind.bind,Except.bind,Pure.pure,Except.pure]

/-- The second part selects from what the first one does. -/
lemma Parts.searchField_bind {whole f g : Filter} (h : Parts whole f g) {ρ : Type} [Record ρ]
    {found : σ → List ρ} (selecting : Source.Selecting found) {source kept : σ}
    (accepted : Source.searchField schema field whole source = .ok kept) :
    ((Source.searchField schema field f source).bind
      (Source.searchField schema field g)).map found = .ok (found kept) := by
  obtain ⟨_,_,_,made,hf,hg,-⟩ := h.exists_slots
  obtain ⟨takes,rfl⟩ := (made.searchField_eq_ok_iff source kept).1 accepted
  have first : Source.searchField schema field f source = .ok _ :=
    (hf.searchField_eq_ok_iff source _).2 ⟨fun active => h.takes (takes (h.isActive active)),rfl⟩
  have second : Source.searchField schema field g _ = .ok _ :=
    (hg.searchField_eq_ok_iff (Source.filterBy? (f.predicate? field) source) _).2
      ⟨fun active => h.symm.takes (takes (h.symm.isActive active)),rfl⟩
  rw [first,Except.bind,second,Except.map]
  simp only [selecting.filterBy?,List.filter_filter]
  congr 2
  funext r
  exact (Bool.and_comm _ _).trans (h.keeps_eq field r).symm

/-- Searching for the parts of a filter one after the other, in either order, succeeds where
searching for the whole does, and selects the same. -/
theorem Parts.searchField_twice {whole f g : Filter} (h : Parts whole f g) {ρ : Type} [Record ρ]
    {found : σ → List ρ} (selecting : Source.Selecting found) {source kept : σ}
    (accepted : Source.searchField schema field whole source = .ok kept) :
    ((Source.searchField schema field f source).bind
      (Source.searchField schema field g)).map found = .ok (found kept) ∧
    ((Source.searchField schema field g source).bind
      (Source.searchField schema field f)).map found = .ok (found kept) := by
  exact ⟨h.searchField_bind selecting accepted,h.symm.searchField_bind selecting accepted⟩

end

/-- Of the two parts one has nothing but a blank operand and is not even checked. -/
theorem Parts.searchField_twice_sample :
    let schema : Schema := { kind? := fun field => if field = "name" then some .string else none }
    let names := [Cell.mk (.string "Ann"),⟨.missing⟩,⟨.string "Axel"⟩,⟨.string "Alan"⟩]
    let whole : TextFilter := { startsWith := some "A", notContains := some "x", equal := some " " }
    let f : TextFilter := { startsWith := some "A", notContains := some "x" }
    let g : TextFilter := { equal := some " " }
    Parts whole.toFilter f.toFilter g.toFilter ∧ g.isActive = false ∧
    ((Source.searchField schema "name" g.toFilter (Records.ofList names)).bind
      (Source.searchField schema "name" f.toFilter)).map Records.toList =
        .ok [⟨.string "Ann"⟩,⟨.string "Alan"⟩] := by
  intro schema names whole f g
  have h : Parts whole.toFilter f.toFilter g.toFilter :=
    .text ⟨.right _,.left _,.left _,.left _,.left _,.left _,.left _,.left _,.left _,.left _,.left _⟩
  have accepted : Source.searchField schema "name" whole.toFilter (Records.ofList names) =
      .ok (Source.filterBy? (whole.predicate? "name") (Records.ofList names)) := rfl
  exact ⟨h,rfl,(h.searchField_twice Source.selecting_records accepted).2⟩

end Filter
end RecordSearch
