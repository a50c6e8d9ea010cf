import RecordSearch.Proofs.Clauses
import RecordSearch.Proofs.Comparison

/-! What a text filter says of a string. Each operand that is set, and holds more than white space,
has its say in its own way and whatever the others are; the rest has none. -/
namespace RecordSearch.TextFilter

/-- An operand that is set and not blank, that is, holds some character other than white space. -/
def Asks (operand : Option String) (t : String) : Prop :=
  operand = some t ∧ ∃ c ∈ t.toList, Text.isBlankChar c = false

/-- What a filter says of a string, operand by operand. -/
structure Admits (f : TextFilter) (s : String) : Prop where
  equal : ∀ t, Asks f.equal t → s = t
  notEqual : ∀ t, Asks f.notEqual t → s ≠ t
  startsWith : ∀ t, Asks f.startsWith t → t.toList <+: s.toList
  notStartsWith : ∀ t, Asks f.notStartsWith t → ¬ t.toList <+: s.toList
  endsWith : ∀ t, Asks f.endsWith t → t.toList <:+ s.toList
  notEndsWith : ∀ t, Asks f.notEndsWith t → ¬ t.toList <:+ s.toList
  contains : ∀ t, Asks f.contains t → t.toList <:+: s.toList
  notContains : ∀ t, Asks f.notContains t → ¬ t.toList <:+: s.toList
  matchesPattern : ∀ p, f.matchesPattern = some p → p.isMatch s = true
  notMatchesPattern : ∀ p, f.notMatchesPattern = some p → p.isMatch s = false
  isNullOrEmpty : ∀ yes, f.isNullOrEmpty = some yes → (yes = true ↔ s = "")

/-- The filter without its blank operands. -/
def withoutBlanks (f : TextFilter) : TextFilter :=
  { f with
    equal := nonBlank? f.equal
    notEqual := nonBlank? f.notEqual
    startsWith := nonBlank? f.startsWith
    notStartsWith := nonBlank? f.notStartsWith
    endsWith := nonBlank? f.endsWith
    notEndsWith := nonBlank? f.notEndsWith
    contains := nonBlank? f.contains
    notContains := nonBlank? f.notContains }

lemma nonBlank?_eq_some_iff (operand : Option String) (t : String) :
    nonBlank? operand = some t ↔ Asks operand t := by
  simp [nonBlank?,Asks,Option.filter_eq_some_iff,Text.isBlank]

lemma nonBlank?_nonBlank? (operand : Option String) :
    nonBlank? (nonBlank? operand) = nonBlank? operand := by
  simp [nonBlank?]

/-- The slots of a filter depend on what is not blank only. -/
lemma slots_withoutBlanks (f : TextFilter) : f.withoutBlanks.slots = f.slots := by
  simp only [slots,withoutBlanks,nonBlank?_nonBlank?]

section
variable (s t : String)

lemma admits_equal : (Clause.compare .eq (.string t)).admits (.string s) = true ↔ s = t := by
  rw [Clause.admits,CompareOp.eq_holds,Scalar.isEqual_string]

lemma admits_notEqual : (Clause.compare .ne (.string t)).admits (.string s) = true ↔ s ≠ t := by
  rw [Clause.admits,CompareOp.ne_holds (o := Ord.compare s t) rfl,Bool.not_eq_true',
    ← Bool.not_eq_true,Scalar.isEqual_string]

lemma admits_text (op : TextOp) :
    (Clause.text op t false).admits (.string s) = true ↔ op.holds s t = true := by
  simp [Clause.admits,Value.string?]

lemma admits_notText (op : TextOp) :
    (Clause.text op t true).admits (.string s) = true ↔ ¬ op.holds s t = true := by
  simp [Clause.admits,Value.string?]

lemma admits_pattern (p : Pattern) :
    (Clause.pattern p false).admits (.string s) = true ↔ p.isMatch s = true := by
  simp [Clause.admits,Value.string?]

lemma admits_notPattern (p : Pattern) :
    (Clause.pattern p true).admits (.string s) = true ↔ p.isMatch s = false := by
  simp [Clause.admits,Value.string?]

lemma admits_nullOrEmpty (yes : Bool) :
    (Clause.nullOrEmpty yes).admits (.string s) = true ↔ (yes = true ↔ s = "") := by
  have hadmits : (Clause.nullOrEmpty yes).admits (.string s) = (s.isEmpty == yes) := rfl
  rw [hadmits,beq_iff_eq,Bool.eq_iff_iff,String.isEmpty_iff]
  exact iff_comm

end

/-- All slots admit a string when every operand has its say. -/
lemma all_slots_iff (f : TextFilter) (s : String) :
    f.slots.all (Option.all (Clause.admits (.string s))) = true ↔ f.Admits s := by
  simp only [slots,List.all_cons,List.all_nil,Bool.and_true,Bool.and_eq_true,Clause.all_map,
    nonBlank?_eq_some_iff,admits_equal,admits_notEqual,admits_text,admits_notText,admits_pattern,
    admits_notPattern,admits_nullOrEmpty,TextOp.holds,Text.startsWith_iff,Text.endsWith_iff,
    Text.contains_iff]
  constructor
  · rintro ⟨equal,notEqual,starts,notStarts,ends,notEnds,contains,notContains,pattern,notPattern,
      nullOrEmpty⟩
    exact ⟨equal,notEqual,starts,notStarts,ends,notEnds,contains,notContains,pattern,notPattern,
      nullOrEmpty⟩
  · intro h
    exact ⟨h.equal,h.notEqual,h.startsWith,h.notStartsWith,h.endsWith,h.notEndsWith,h.contains,
      h.notContains,h.matchesPattern,h.notMatchesPattern,h.isNullOrEmpty⟩

/-- An active filter has a predicate for every field. It holds of a record with a string there
exactly if every operand that is set and not blank admits the string; blank operands could as well
be left out, or be exchanged for other blank ones. -/
theorem predicate_of_string {f : TextFilter} (active : f.isActive = true) (field : String) :
    (∃ p, f.predicate? field = some p ∧ ∀ {ρ : Type} [Record ρ] (r : ρ) (s : String),
      Record.value r field = .string s → (p.holds r = true ↔ f.Admits s)) ∧
    ∀ g : TextFilter, g.withoutBlanks = f.withoutBlanks →
      g.isActive = true ∧ g.predicate? field = f.predicate? field := by
  constructor
  · rw [isActive_eq] at active
    obtain ⟨p,hp,hholds⟩ := (Filter.MadeOf.text f).exists_predicate active field
    refine ⟨p,hp,?_⟩
    intro ρ _ r s hs
    rw [hholds,hs,all_slots_iff]
  · intro g same
    have hslots : g.slots = f.slots := by
      rw [← slots_withoutBlanks,same,slots_withoutBlanks]
    constructor
    · rw [isActive_eq,hslots,← isActive_eq,active]
    · rw [predicate?,predicate?,clauses_eq,clauses_eq,hslots]

/-- Asks for strings that begin with "Jo", contain a space and do not contain "Doe". The other
operands are blank. -/
def sample : TextFilter where
  equal := some ""
  startsWith := some "Jo"
  notEndsWith := some " \u00a0"
  notContains := some "Doe"
  isNullOrEmpty := some false
  matchesPattern := some ⟨" ",fun s => s.toList.contains ' '⟩

theorem predicate_of_string_sample :
    sample.isActive = true ∧ (∃ p, sample.predicate? "name" = some p ∧
      p.holds (Cell.mk (.string "Johnny ")) = true ∧ sample.Admits "Johnny " ∧
      p.holds (Cell.mk (.string "Jo Doe")) = false ∧ ¬ sample.Admits "Jo Doe") ∧
    { sample with equal := none, notEqual := some "\t" }.predicate? "name" =
      sample.predicate? "name" := by
  have active : sample.isActive = true := by decide
  obtain ⟨⟨p,hp,hholds⟩,hblank⟩ := predicate_of_string active "name"
  have hkept : p.holds (Cell.mk (.string "Johnny ")) = true := by cases hp; decide
  have hdropped : p.holds (Cell.mk (.string "Jo Doe")) = false := by cases hp; decide
  have hadmits := hholds (Cell.mk (.string "Johnny ")) "Johnny " rfl
  have hrefuses := hholds (Cell.mk (.string "Jo Doe")) "Jo Doe" rfl
  rw [hkept] at hadmits
  rw [hdropped] at hrefuses
  have hsame := hblank { sample with equal := none, notEqual := some "\t" } rfl
  exact ⟨active,⟨p,hp,hkept,hadmits.1 rfl,hdropped,fun h => Bool.noConfusion (hrefuses.2 h)⟩,
    hsame.2⟩

end RecordSearch.TextFilter
