import RecordSearch.Proofs.Operators
import RecordSearch.Proofs.Selection
import RecordSearch.Proofs.Selectors

/-! Opposite filters. Most clauses come with another one that rules out what they ask for. Two
filters that have nothing but such a clause each, on the same operand, divide any list of records
between them, so that every record is selected by one of the two. Equality and inequality are
opposites too, but only for values that the operand can be compared with, and for missing ones. -/
namespace RecordSearch

/-- A list made of two others, which have nothing in common and keep its order. -/
structure Divides {α : Type} (xs kept rest : List α) : Prop where
  disjoint : kept.Disjoint rest
  together : (kept ++ rest).Perm xs
  kept_sublist : kept.Sublist xs
  rest_sublist : rest.Sublist xs

lemma divides_filter {α : Type} {xs : List α} {test test' : α → Bool}
    (h : ∀ x ∈ xs, test' x = !test x) : Divides xs (xs.filter test) (xs.filter test') := by
  have hnot : xs.filter test' = xs.filter fun x => !test x := List.filter_congr h
  rw [hnot]
  refine ⟨?_,List.filter_append_perm test xs,List.filter_sublist,List.filter_sublist⟩
  intro x hkept hrest
  have htest := (List.mem_filter.1 hkept).2
  have hopposite := (List.mem_filter.1 hrest).2
  simp [htest] at hopposite

/-- A value that is missing, or of some kind and not only counted as a number. -/
def Value.Fits (kind : Kind) (v : Value) : Prop :=
  v = .missing ∨ v.kind? = some kind ∧ v.isNaN = false

namespace Clause
variable (v : Value)

lemma admits_text_negated (op : TextOp) (needle : String) :
    (text op needle true).admits v = !(text op needle false).admits v := by
  simp [admits]

lemma admits_pattern_negated (p : Pattern) :
    (pattern p true).admits v = !(pattern p false).admits v := by
  simp [admits]

lemma admits_nullOrEmpty_false :
    (nullOrEmpty false).admits v = !(nullOrEmpty true).admits v := by
  simp [admits]

lemma admits_contains_negated (mode : SetMode) (set : List Scalar) :
    (contains mode set true).admits v = !(contains mode set false).admits v := by
  simp [admits]

variable {v}

lemma admits_compare_ne {operand : Scalar} (number : operand.isNaN = false)
    (h : v.Fits operand.kind) :
    (compare .ne operand).admits v = !(compare .eq operand).admits v := by
  obtain rfl | ⟨hkind,hv⟩ := h
  · rw [admits,admits,CompareOp.holds_missing,CompareOp.holds_missing]
    rfl
  · exact CompareOp.ne_holds_of_comparable ⟨hkind,number,hv⟩

lemma admits_noneOf (ds : List UInt32) (h : v.Fits .enum) :
    (noneOf ds).admits v = !(oneOf ds).admits v := by
  rw [admits,admits,List.not_any_eq_all_not]
  apply congrArg (List.all ds)
  funext d
  have hd : (Scalar.enum d).isNaN = false := rfl
  exact admits_compare_ne hd h

end Clause

namespace ComparableFilter
variable {t : ScalarType}

/-- A clause that is set comes from an operand. -/
lemma isActive_of_slots {f : ComparableFilter t} (set : f.slots.any Option.isSome = true) :
    f.isActive = true := by
  rw [slots_eq_map,List.any_map] at set
  obtain ⟨operand,hmem,hsome⟩ := List.any_eq_true.1 set
  apply List.any_eq_true.2
  refine ⟨operand,hmem,?_⟩
  cases hoperand : operand.1 with
  | none => simp [hoperand] at hsome
  | some m => rfl

end ComparableFilter

namespace Filter

lemma MadeOf.isActive {f : Filter} {slots : List (Option Clause)} (h : f.MadeOf slots)
    (set : slots.any Option.isSome = true) : f.isActive = true := by
  cases h with
  | comparable f => exact ComparableFilter.isActive_of_slots set
  | text f | boolean f | enum f | collection f => exact f.isActive_eq.trans set

/-- A filter of this library in which one clause is set, and nothing else. -/
def Only (f : Filter) (c : Clause) : Prop :=
  ∃ slots, f.MadeOf slots ∧ slots.reduceOption = [c]

section
variable {f : Filter} {c : Clause}

lemma Only.predicate?_eq (h : f.Only c) (field : String) :
    f.predicate? field = some (c.predicate field) := by
  obtain ⟨slots,made,honly⟩ := h
  rw [made.predicate?_eq,honly]
  rfl

lemma Only.isActive (h : f.Only c) : f.isActive = true := by
  obtain ⟨slots,made,honly⟩ := h
  apply made.isActive
  have hmem : some c ∈ slots := List.reduceOption_mem_iff.1 (honly ▸ List.mem_singleton_self c)
  exact List.any_eq_true.2 ⟨some c,hmem,rfl⟩

end
end Filter

/-- The filter that asks for some part of a text, or rules it out. -/
def TextFilter.part (op : TextOp) (negated : Bool) (s : String) : TextFilter :=
  match op, negated with
  | .startsWith, false => { startsWith := some s }
  | .startsWith, true => { notStartsWith := some s }
  | .endsWith, false => { endsWith := some s }
  | .endsWith, true => { notEndsWith := some s }
  | .contains, false => { contains := some s }
  | .contains, true => { notContains := some s }

lemma TextFilter.only_part (op : TextOp) (negated : Bool) {s : String}
    (set : Text.isBlank s = false) : (part op negated s).toFilter.Only (.text op s negated) := by
  refine ⟨_,.text _,?_⟩
  cases op <;> cases negated <;> simp [part,slots,nonBlank?,set,List.reduceOption]

/-- The filter that asks for some or all of given elements, or rules them out. -/
def CollectionFilter.members {t : ScalarType} (mode : SetMode) (negated : Bool)
    (ms : List t.Carrier) : CollectionFilter t :=
  match mode, negated with
  | .any, false => { containsAny := ms }
  | .any, true => { containsNotAny := ms }
  | .all, false => { containsAll := ms }
  | .all, true => { containsNotAll := ms }

lemma CollectionFilter.only_members {t : ScalarType} (mode : SetMode) (negated : Bool)
    {ms : List t.Carrier} (set : ms ≠ []) : (members mode negated ms).toFilter.Only
      (.contains mode (ms.filterMap t.scalar?) negated) := by
  refine ⟨_,.collection _,?_⟩
  cases mode <;> cases negated <;>
    simp [members,slots,slot,Clause.unlessEmpty,set,List.reduceOption]

namespace Filter

/-- Two filters with one clause each, the second of which rules out what the first asks for, and the
values that they disagree about. The operands of both are the same, and are such that count: texts
that are not blank, lists that are not empty, and no numbers that are none. -/
inductive Opposite : Filter → Filter → (Value → Prop) → Prop
  | part (op : TextOp) {s : String} (set : Text.isBlank s = false) :
      Opposite (TextFilter.part op false s).toFilter (TextFilter.part op true s).toFilter
        fun _ => True
  | pattern (p : Pattern) :
      Opposite (TextFilter.toFilter { matchesPattern := some p })
        (TextFilter.toFilter { notMatchesPattern := some p }) fun _ => True
  | nullOrEmpty :
      Opposite (TextFilter.toFilter { isNullOrEmpty := some true })
        (TextFilter.toFilter { isNullOrEmpty := some false }) fun _ => True
  | members {t : ScalarType} (mode : SetMode) {ms : List t.Carrier} (set : ms ≠ []) :
      Opposite (CollectionFilter.members mode false ms).toFilter
        (CollectionFilter.members mode true ms).toFilter fun _ => True
  | text {s : String} (set : Text.isBlank s = false) :
      Opposite (TextFilter.toFilter { equal := some s })
        (TextFilter.toFilter { notEqual := some s }) (Value.Fits .string)
  | comparable {t : ScalarType} {m : t.Carrier} {s : Scalar} (set : t.scalar? m = some s)
      (number : s.isNaN = false) :
      Opposite (ComparableFilter.toFilter { equal := some m })
        (ComparableFilter.toFilter { notEqual := some m }) (Value.Fits s.kind)
  | boolean (b : Bool) :
      Opposite (BooleanFilter.toFilter { equal := some b })
        (BooleanFilter.toFilter { notEqual := some b }) (Value.Fits .bool)
  | enum (d : UInt32) :
      Opposite (EnumFilter.toFilter { equal := some d })
        (EnumFilter.toFilter { notEqual := some d }) (Value.Fits .enum)
  | isIn {ds : List UInt32} (set : ds ≠ []) :
      Opposite (EnumFilter.toFilter { isIn := ds })
        (EnumFilter.toFilter { notIn := ds }) (Value.Fits .enum)

namespace Opposite
variable {asks refuses : Filter} {fits : Value → Prop}

/-- The one clause that each of the filters has, and how the two clauses answer. -/
lemma clauses (h : Opposite asks refuses fits) : ∃ c c', asks.Only c ∧ refuses.Only c' ∧
    ∀ v, fits v → c'.admits v = !c.admits v := by
  cases h with
  | part op set =>
    refine ⟨_,_,TextFilter.only_part op false set,TextFilter.only_part op true set,?_⟩
    exact fun v _ => Clause.admits_text_negated v op _
  | pattern p =>
    refine ⟨.pattern p false,.pattern p true,⟨_,.text _,rfl⟩,⟨_,.text _,rfl⟩,?_⟩
    exact fun v _ => Clause.admits_pattern_negated v p
  | nullOrEmpty =>
    refine ⟨.nullOrEmpty true,.nullOrEmpty false,⟨_,.text _,rfl⟩,⟨_,.text _,rfl⟩,?_⟩
    exact fun v _ => Clause.admits_nullOrEmpty_false v
  | members mode set =>
    refine ⟨_,_,CollectionFilter.only_members mode false set,
      CollectionFilter.only_members mode true set,?_⟩
    exact fun v _ => Clause.admits_contains_negated v mode _
  | @text s set =>
    refine ⟨.compare .eq (.string s),.compare .ne (.string s),⟨_,.text _,?_⟩,⟨_,.text _,?_⟩,?_⟩
    · simp [TextFilter.slots,TextFilter.nonBlank?,set,List.reduceOption]
    · simp [TextFilter.slots,TextFilter.nonBlank?,set,List.reduceOption]
    · exact fun v hv => Clause.admits_compare_ne rfl hv
  | @comparable t m s set number =>
    refine ⟨.compare .eq s,.compare .ne s,⟨_,.comparable _,?_⟩,⟨_,.comparable _,?_⟩,?_⟩
    · simp [ComparableFilter.slots,set,List.reduceOption]
    · simp [ComparableFilter.slots,set,List.reduceOption]
    · exact fun v hv => Clause.admits_compare_ne number hv
  | boolean b =>
    refine ⟨.compare .eq (.bool b),.compare .ne (.bool b),⟨_,.boolean _,rfl⟩,⟨_,.boolean _,rfl⟩,?_⟩
    exact fun v hv => Clause.admits_compare_ne rfl hv
  | enum d =>
    refine ⟨.compare .eq (.enum d),.compare .ne (.enum d),⟨_,.enum _,rfl⟩,⟨_,.enum _,rfl⟩,?_⟩
    exact fun v hv => Clause.admits_compare_ne rfl hv
  | @isIn ds set =>
    refine ⟨.oneOf ds,.noneOf ds,⟨_,.enum _,?_⟩,⟨_,.enum _,?_⟩,?_⟩
    · simp [EnumFilter.slots,Clause.unlessEmpty,set,List.reduceOption]
    · simp [EnumFilter.slots,Clause.unlessEmpty,set,List.reduceOption]
    · exact fun v hv => Clause.admits_noneOf ds hv

/-- Fields that take one of the filters take the other. -/
lemma takes (h : Opposite asks refuses fits) {schema : Schema} {field : String}
    (takes : schema.Takes field asks) : schema.Takes field refuses := by
  cases h <;> exact ⟨takes.accepted,takes.elements⟩

end Opposite

/-- What searching a field for a filter finds in a list of records. -/
lemma Only.searchField {f : Filter} {c : Clause} (h : f.Only c) {schema : Schema} {field : String}
    (takes : schema.Takes field f) {ρ : Type} [Record ρ] (rs : List ρ) :
    (Source.searchField schema field f (Records.ofList rs)).map Records.toList =
      .ok (Source.filterBy? (f.predicate? field) rs) := by
  rw [Source.searchField,if_pos h.isActive,(schema.checkSelector_eq_ok_iff field f).2 takes,
    h.predicate?_eq]
  have hfound := Records.toList_applyAll [.filter (c.predicate field)] (Records.ofList rs)
  rw [Records.toList_ofList] at hfound
  exact congrArg Except.ok hfound

/-- Opposite filters divide every list of records whose values they disagree about, which with
parts of texts, patterns, empty texts and members of lists are values of any kind. The same two
parts are what searching the field finds, if the field takes the filters. -/
theorem Opposite.divide {asks refuses : Filter} {fits : Value → Prop}
    (h : Opposite asks refuses fits) (field : String) {ρ : Type} [Record ρ] {rs : List ρ}
    (hfits : ∀ r ∈ rs, fits (Record.value r field)) :
    let kept := Source.filterBy? (asks.predicate? field) rs
    let rest := Source.filterBy? (refuses.predicate? field) rs
    Divides rs kept rest ∧ ∀ schema : Schema, schema.Takes field asks →
      (Source.searchField schema field asks (Records.ofList rs)).map Records.toList = .ok kept ∧
      (Source.searchField schema field refuses (Records.ofList rs)).map Records.toList =
        .ok rest := by
  intro kept rest
  obtain ⟨c,c',hasks,hrefuses,hopposite⟩ := h.clauses
  constructor
  · have hkept : kept = rs.filter ((c.predicate field).holds ·) := by
      simp only [kept,hasks.predicate?_eq]
      rfl
    have hrest : rest = rs.filter ((c'.predicate field).holds ·) := by
      simp only [rest,hrefuses.predicate?_eq]
      rfl
    rw [hkept,hrest]
    apply divides_filter
    intro r hr
    rw [Clause.holds_predicate,Clause.holds_predicate]
    exact hopposite _ (hfits r hr)
  · intro schema htakes
    exact ⟨hasks.searchField htakes rs,hrefuses.searchField (h.takes htakes) rs⟩

/-- Of four values only one begins with "Jo", whatever kinds the others are of. Of numbers and a
missing value those are equal to 3 that are, in whatever representation, and all others are not. -/
theorem Opposite.divide_sample :
    let names := [Cell.mk (.string "John"),⟨.missing⟩,⟨.number (.signed 3)⟩,⟨.string "jo"⟩]
    let ranks := [Cell.mk (.number (.unsigned 3)),⟨.number (.signed 2)⟩,⟨.missing⟩,
      ⟨.number (.signed 3)⟩]
    let schema : Schema := { kind? := fun field => if field = "name" then some .string else none }
    let starts := TextFilter.part .startsWith false "Jo"
    Divides names [⟨.string "John"⟩] [⟨.missing⟩,⟨.number (.signed 3)⟩,⟨.string "jo"⟩] ∧
    (Source.searchField schema "name" starts.toFilter (Records.ofList names)).map Records.toList =
      .ok [⟨.string "John"⟩] ∧
    (∀ r ∈ ranks, (Record.value r "rank").Fits .number) ∧
    Divides ranks [⟨.number (.unsigned 3)⟩,⟨.number (.signed 3)⟩]
      [⟨.number (.signed 2)⟩,⟨.missing⟩] := by
  intro names ranks schema starts
  have hstarts : Opposite starts.toFilter _ fun _ => True := .part .startsWith (s := "Jo") rfl
  have hnames := hstarts.divide "name" fun r (_ : r ∈ names) => trivial
  have hranks : ∀ r ∈ ranks, (Record.value r "rank").Fits .number := by
    simp [ranks,Value.Fits,Record.value,Value.kind?,Value.isNaN,Number.isNaN]
  have hdivide := (Opposite.comparable (t := OperandType.int32) (m := 3) rfl rfl).divide "rank" hranks
  have takes : schema.Takes "name" starts.toFilter :=
    ⟨⟨.string,rfl,rfl⟩,fun _ _ declared => by cases declared⟩
  exact ⟨hnames.1,(hnames.2 schema takes).1,hranks,hdivide.1⟩

end Filter

namespace ComparableFilter

/-- Equality and inequality with a double are opposites for missing values and for numbers of any
representation, unless the double or the number is not a number. Then neither of them holds. -/
theorem equal_or_notEqual_of_real (x : Binary64) (field : String) :
    ∃ p q, predicate? (t := OperandType.double) { equal := some x } field = some p ∧
      predicate? (t := OperandType.double) { notEqual := some x } field = some q ∧
      ∀ {ρ : Type} [Record ρ] (r : ρ),
        (Record.value r field = .missing → p.holds r = false ∧ q.holds r = true) ∧
        ∀ n, Record.value r field = .number n →
          (x.isNaN = false → n.isNaN = false → q.holds r = !p.holds r) ∧
          (x.isNaN = true ∨ n.isNaN = true → p.holds r = false ∧ q.holds r = false) := by
  refine ⟨.compare field .eq (.number (.real x)),.compare field .ne (.number (.real x)),rfl,rfl,?_⟩
  intro ρ _ r
  simp only [Predicate.holds]
  constructor
  · intro hr
    rw [hr,CompareOp.holds_missing,CompareOp.holds_missing]
    exact ⟨rfl,rfl⟩
  · intro n hr
    rw [hr]
    constructor
    · intro hx hn
      exact CompareOp.ne_holds_of_comparable ⟨rfl,hx,hn⟩
    · intro hnan
      have hnot : ¬ (Scalar.number (.real x)).Comparable (.number n) := by
        intro hc
        obtain hx | hn := hnan
        · exact absurd hx (Bool.eq_false_iff.1 hc.operand_isNaN)
        · exact absurd hn (Bool.eq_false_iff.1 hc.value_isNaN)
      exact ⟨CompareOp.holds_of_not_comparable .eq hnot rfl,
        CompareOp.holds_of_not_comparable .ne hnot rfl⟩

/-- The integer rounds to the double, so it is equal to it; what is not a number is neither equal
nor unequal. -/
theorem equal_or_notEqual_of_real_rounded :
    ∃ p q, predicate? (t := OperandType.double) { equal := some (.ofInt 9007199254740992) } "price" = some p ∧
      predicate? (t := OperandType.double) { notEqual := some (.ofInt 9007199254740992) } "price" = some q ∧
      p.holds (Cell.mk .missing) = false ∧ q.holds (Cell.mk .missing) = true ∧
      p.holds (Cell.mk (.number (.signed 9007199254740993))) = true ∧
      q.holds (Cell.mk (.number (.signed 9007199254740993))) = false ∧
      p.holds (Cell.mk (.number (.real .nan))) = false ∧
      q.holds (Cell.mk (.number (.real .nan))) = false := by
  obtain ⟨p,q,hp,hq,hholds⟩ := equal_or_notEqual_of_real (.ofInt 9007199254740992) "price"
  obtain ⟨hmissing,-⟩ := hholds (Cell.mk .missing)
  obtain ⟨-,hinteger⟩ := hholds (Cell.mk (.number (.signed 9007199254740993)))
  obtain ⟨-,hnan⟩ := hholds (Cell.mk (.number (.real .nan)))
  have hkept : p.holds (Cell.mk (.number (.signed 9007199254740993))) = true := by
    cases hp; decide +kernel
  have hdropped := (hinteger _ rfl).1 (Binary64.isNaN_ofInt _) rfl
  rw [hkept] at hdropped
  exact ⟨p,q,hp,hq,(hmissing rfl).1,(hmissing rfl).2,hkept,hdropped,(hnan _ rfl).2 (.inr rfl)⟩

/-- Of a 1 it holds neither that it is equal to an operand that is not a number nor that it is
unequal to it. -/
theorem neither_equal_nor_notEqual_of_nan :
    ∃ p q, predicate? (t := OperandType.double) { equal := some .nan } "price" = some p ∧
      predicate? (t := OperandType.double) { notEqual := some .nan } "price" = some q ∧
      p.holds (Cell.mk (.number (.real (.ofInt 1)))) = false ∧
      q.holds (Cell.mk (.number (.real (.ofInt 1)))) = false :=
  ⟨_,_,rfl,rfl,by decide +kernel,by decide +kernel⟩

end ComparableFilter
end RecordSearch
