import Mathlib
import RecordSearch.Declaration.Lexer
import RecordSearch.Derive.ConstantName

/-! Names of constants. A name becomes that of a constant one character at a time: hyphens become
underscores, plain small letters are raised, and an underscore comes between a small letter and a
capital. Apart from the hyphens none of this makes an identifier of what is none, or the other way
round, so of the words that a declaration may hold exactly the raw ones have no constant. -/
namespace RecordSearch

namespace Text
variable {c : Char}

lemma toNat_lt_of_isAlpha (h : c.isAlpha = true) : c.toNat < 128 := by
  simp only [Char.isAlpha,Char.isUpper,Char.isLower,UInt32.le_iff_toNat_le,Bool.or_eq_true,
    Bool.and_eq_true,decide_eq_true_eq] at h
  rcases h with ⟨-,h⟩ | ⟨-,h⟩
  · exact h.trans_lt (by decide)
  · exact h.trans_lt (by decide)

lemma isIdentifierStart_of_isAlpha (h : c.isAlpha = true) : isIdentifierStart c = true := by
  rw [isIdentifierStart,if_pos (toNat_lt_of_isAlpha h)]
  exact h

lemma isIdentifierContinue_of_isAlpha (h : c.isAlpha = true) : isIdentifierContinue c = true := by
  rw [isIdentifierContinue,if_pos (toNat_lt_of_isAlpha h),Char.isAlphanum,h]
  rfl

lemma isAlpha_of_isLower (h : c.isLower = true) : c.isAlpha = true := by
  rw [Char.isAlpha,h,Bool.or_true]

/-- A property of all plain letters does not change when a letter is raised. -/
lemma toUpper_congr {p : Char → Bool} (hp : ∀ c, c.isAlpha = true → p c = true) (c : Char) :
    p c.toUpper = p c := by
  by_cases h : c.isAlpha = true
  · rw [hp c h,hp c.toUpper (c.isAlpha_toUpper_eq_isAlpha.trans h)]
  · rw [Char.toUpper_eq_of_not_isLower (h ∘ isAlpha_of_isLower)]

lemma toUpper_of_isUppercase (h : isUppercase c = true) : c.toUpper = c := by
  apply Char.toUpper_eq_of_not_isLower
  intro hlower
  rw [isUppercase,if_pos (toNat_lt_of_isAlpha (isAlpha_of_isLower hlower))] at h
  exact Char.not_isLower_of_isUpper h hlower

/-- A letter that is not a capital. -/
def isSmall (c : Char) : Bool := isAlphabetic c && !isUppercase c

lemma isIdentifier_ofList_cons (c : Char) (cs : List Char) :
    isIdentifier (String.ofList (c :: cs)) =
      ((c == '_' || isIdentifierStart c) && cs.all isIdentifierContinue) := by
  rw [isIdentifier,String.toList_ofList]

/-- Characters that no identifier holds. -/
lemma not_mem_of_isIdentifier {s : String} (h : isIdentifier s = true)
    (hc : (c == '_' || isIdentifierStart c || isIdentifierContinue c) = false) :
    c ∉ s.toList := by
  simp only [Bool.or_eq_false_iff] at hc
  obtain ⟨⟨hline,hstart⟩,hcontinue⟩ := hc
  rw [isIdentifier] at h
  cases hs : s.toList with
  | nil => exact List.not_mem_nil
  | cons d ds =>
    simp only [hs,Bool.and_eq_true,List.all_eq_true] at h
    intro hmem
    rcases List.mem_cons.1 hmem with rfl | hmem
    · rw [hline,hstart] at h
      exact Bool.false_ne_true h.1
    · rw [h.2 c hmem] at hcontinue
      cases hcontinue

end Text

/-- What a character of a name becomes. -/
def constantChar (c : Char) : Char := if c = '-' then '_' else c.toUpper

lemma constantChars_cons (afterSmall : Bool) (c : Char) (cs : List Char) :
    constantChars afterSmall (c :: cs) =
      (if afterSmall && Text.isUppercase c then ['_'] else []) ++
        constantChar c :: constantChars (Text.isSmall c) cs := by
  rw [constantChars]
  by_cases hup : Text.isUppercase c = true
  · have hhyphen : c ≠ '-' := by
      rintro rfl
      exact absurd hup (by decide)
    rw [constantChar,if_neg hhyphen,Text.toUpper_of_isUppercase hup,Text.isSmall,hup,if_pos rfl]
    cases afterSmall <;> simp
  · rw [Bool.not_eq_true] at hup
    rw [Text.isSmall,hup,if_neg Bool.false_ne_true,Bool.and_false,if_neg Bool.false_ne_true,
      List.nil_append,Bool.not_false,Bool.and_true]
    by_cases hline : c = '_' ∨ c = '-'
    · rw [if_pos hline]
      rcases hline with rfl | rfl <;> rfl
    · rw [if_neg hline,constantChar,if_neg (fun h => hline (.inr h))]

lemma constantChars_all {p : Char → Bool} (hp : p '_' = true) (afterSmall : Bool)
    (cs : List Char) : (constantChars afterSmall cs).all p = cs.all fun c => p (constantChar c) := by
  induction cs generalizing afterSmall with
  | nil => rfl
  | cons c cs ih =>
    rw [constantChars_cons,List.all_append,List.all_cons,List.all_cons,ih]
    split_ifs
    · rw [List.all_cons,List.all_nil,hp,Bool.true_and,Bool.true_and]
    · rw [List.all_nil,Bool.true_and]

/-- A name with underscores for hyphens. -/
def underscored (name : String) : String :=
  String.ofList (name.toList.map fun c => if c = '-' then '_' else c)

/-- Which constants can be written, for any name. -/
theorem isIdentifier_constantName (name : String) :
    Text.isIdentifier (constantName name) = Text.isIdentifier (underscored name) := by
  have hstart : ∀ c, (constantChar c == '_' || Text.isIdentifierStart (constantChar c)) =
      ((if c = '-' then '_' else c) == '_' ||
        Text.isIdentifierStart (if c = '-' then '_' else c)) := by
    intro c
    rw [constantChar]
    split_ifs with h
    · rfl
    · apply Text.toUpper_congr (p := fun d => d == '_' || Text.isIdentifierStart d)
      intro d hd
      rw [Text.isIdentifierStart_of_isAlpha hd,Bool.or_true]
  have hcontinue : ∀ c, Text.isIdentifierContinue (constantChar c) =
      Text.isIdentifierContinue (if c = '-' then '_' else c) := by
    intro c
    rw [constantChar]
    split_ifs with h
    · rfl
    · exact Text.toUpper_congr (fun d => Text.isIdentifierContinue_of_isAlpha) c
  rw [constantName,underscored]
  cases name.toList with
  | nil => rfl
  | cons c cs =>
    rw [constantChars_cons,Bool.false_and,if_neg Bool.false_ne_true,List.nil_append,List.map_cons,
      Text.isIdentifier_ofList_cons,Text.isIdentifier_ofList_cons,constantChars_all rfl,List.all_map,
      hstart]
    simp only [hcontinue,Function.comp_def]

lemma map_eq_self {f : Char → Char} {cs : List Char} (h : ∀ c ∈ cs, f c = c) : cs.map f = cs := by
  rw [List.map_congr_left (g := id) h,List.map_id]

lemma underscored_eq_self {name : String} (h : '-' ∉ name.toList) : underscored name = name := by
  have hmap : name.toList.map (fun c => if c = '-' then '_' else c) = name.toList := by
    apply map_eq_self
    intro c hc
    exact if_neg (fun heq : c = '-' => h (heq ▸ hc))
  rw [underscored,hmap,String.ofList_toList]

namespace Lexer

/-- All of a text is one word, as a declaration may hold it. -/
def IsWord (s : String) : Prop := word? s.toList = some (s.toList,[])

/-- Written as a raw word, which may be one of those that mean something else. -/
def isRaw (s : String) : Bool := startsWith "r#" s.toList

lemma IsWord.isIdentifier {s : String} (h : IsWord s) (plain : isRaw s = false) :
    Text.isIdentifier s = true := by
  rw [IsWord,word?] at h
  split_ifs at h
  rw [anyWord?,if_neg (by rw [isRaw] at plain; rw [plain]; exact Bool.false_ne_true)] at h
  rw [Text.isIdentifier]
  cases hs : s.toList with
  | nil => rw [hs] at h; cases h
  | cons c cs =>
    rw [hs,Literal.plainWord?] at h
    split_ifs at h with hc
    simp only [Option.some.injEq,Prod.mk.injEq,List.cons.injEq,true_and] at h
    have hall : cs.all Text.isIdentifierContinue = true := by
      rw [← h.1]
      exact List.all_takeWhile
    rw [Bool.and_eq_true]
    exact ⟨hc,hall⟩

/-- A word has a constant exactly if it is plain. -/
theorem IsWord.isIdentifier_constantName {s : String} (h : IsWord s) :
    Text.isIdentifier (constantName s) = !isRaw s := by
  rw [RecordSearch.isIdentifier_constantName]
  cases hraw : isRaw s with
  | false =>
    have hs := h.isIdentifier hraw
    rw [underscored_eq_self (Text.not_mem_of_isIdentifier hs (by decide)),hs]
    rfl
  | true =>
    have hmem : '#' ∈ (underscored s).toList := by
      have hstart : ['r','#'] <+: s.toList := List.isPrefixOf_iff_prefix.1 hraw
      rw [underscored,String.toList_ofList,List.mem_map]
      exact ⟨'#',hstart.subset (by simp),rfl⟩
    rw [Bool.not_true,← Bool.not_eq_true]
    intro hident
    exact Text.not_mem_of_isIdentifier hident (by decide) hmem

end Lexer
end RecordSearch
