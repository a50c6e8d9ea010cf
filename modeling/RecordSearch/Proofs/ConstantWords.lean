import RecordSearch.Proofs.ConstantNames
import RecordSearch.Proofs.DerivedAccessors
import RecordSearch.Proofs.DerivedDescriptors

/-! Words in the names of constants. What a name becomes is its words with underscores between them,
where a word starts with a capital that follows a small letter. A name in plain characters becomes
one without small letters, so it has no more words then and stays as it is. Names without capitals
are one word each, and can be told apart by their constants. -/
namespace RecordSearch

namespace Text
variable {c : Char}

lemma isUppercase_of_isUpper (h : c.isUpper = true) : isUppercase c = true := by
  have halpha : c.isAlpha = true := by rw [Char.isAlpha,h,Bool.true_or]
  rw [isUppercase,if_pos (toNat_lt_of_isAlpha halpha),h]

lemma isSmall_eq_isLower (h : c.toNat < 128) : isSmall c = c.isLower := by
  rw [isSmall,isAlphabetic,isUppercase,if_pos h,if_pos h,Char.isAlpha]
  cases hlower : c.isLower with
  | false => cases c.isUpper <;> rfl
  | true =>
    rw [Bool.eq_false_iff.2 (Char.not_isUpper_of_isLower hlower)]
    rfl

end Text

/-- The words that a text consists of. A new one starts exactly where one character behind another
starts it. -/
structure DividedAt (starts : Char → Char → Prop) (cs : List Char) (ws : List (List Char)) :
    Prop where
  flatten : ws.flatten = cs
  ne_nil : ∀ w ∈ ws, w ≠ []
  inside : ∀ w ∈ ws, w.IsChain fun a b => ¬ starts a b
  between : ws.IsChain fun v w => ∃ hv hw, starts (v.getLast hv) (w.head hw)

/-- A capital after a small letter starts a word. -/
def StartsWord (a b : Char) : Prop := Text.isSmall a = true ∧ Text.isUppercase b = true

instance (a b : Char) : Decidable (StartsWord a b) := inferInstanceAs (Decidable (_ ∧ _))

lemma dividedAt_splitBy (starts : Char → Char → Prop) [∀ a b, Decidable (starts a b)]
    (cs : List Char) : DividedAt starts cs (cs.splitBy fun a b => !decide (starts a b)) where
  flatten := List.flatten_splitBy _ cs
  ne_nil w hw := List.ne_nil_of_mem_splitBy hw
  inside w hw := by simpa using List.isChain_of_mem_splitBy hw
  between := by simpa using List.isChain_getLast_head_splitBy (fun a b => !decide (starts a b)) cs

lemma DividedAt.congr {starts starts' : Char → Char → Prop} {cs : List Char}
    {ws : List (List Char)} (h : DividedAt starts cs ws)
    (hstarts : ∀ a ∈ cs, ∀ b ∈ cs, (starts a b ↔ starts' a b)) : DividedAt starts' cs ws where
  flatten := h.flatten
  ne_nil := h.ne_nil
  inside w hw := by
    have hmem (c : Char) (hc : c ∈ w) : c ∈ cs := h.flatten ▸ List.mem_flatten_of_mem hw hc
    refine (h.inside w hw).imp_of_mem_imp fun a b ha hb hab => ?_
    rwa [← hstarts a (hmem a ha) b (hmem b hb)]
  between := by
    refine h.between.imp_of_mem_imp fun v w hv hw => ?_
    rintro ⟨hv',hw',hstart⟩
    refine ⟨hv',hw',(hstarts _ ?_ _ ?_).1 hstart⟩
    · exact h.flatten ▸ List.mem_flatten_of_mem hv (List.getLast_mem hv')
    · exact h.flatten ▸ List.mem_flatten_of_mem hw (List.head_mem hw')

lemma constantChars_of_startsWord {a c : Char} (h : StartsWord a c) (cs : List Char) :
    constantChars (Text.isSmall a) (c :: cs) = '_' :: constantChars false (c :: cs) := by
  rw [constantChars_cons,constantChars_cons,h.1,h.2]
  rfl

lemma constantChars_of_not_startsWord {a c : Char} (h : ¬ StartsWord a c) (cs : List Char) :
    constantChars (Text.isSmall a) (c :: cs) = constantChars false (c :: cs) := by
  have hstart : (Text.isSmall a && Text.isUppercase c) = false := by
    rw [Bool.eq_false_iff,ne_eq,Bool.and_eq_true]
    exact h
  rw [constantChars_cons,constantChars_cons,hstart]
  rfl

/-- In a word characters are converted one by one. -/
lemma constantChars_word_append {w : List Char} (hne : w ≠ [])
    (hw : w.IsChain fun a b => ¬ StartsWord a b) (rest : List Char) :
    constantChars false (w ++ rest) =
      w.map constantChar ++ constantChars (Text.isSmall (w.getLast hne)) rest := by
  induction w with
  | nil => exact absurd rfl hne
  | cons c w ih =>
    rw [List.cons_append,constantChars_cons,Bool.false_and,if_neg Bool.false_ne_true,
      List.nil_append,List.map_cons,List.cons_append]
    cases w with
    | nil => rfl
    | cons d w =>
      obtain ⟨hcd,hw⟩ := List.isChain_cons_cons.1 hw
      rw [List.cons_append,constantChars_of_not_startsWord hcd,← List.cons_append,
        ih (List.cons_ne_nil d w) hw,List.getLast_cons (List.cons_ne_nil d w)]

/-- A text that is a single word. -/
lemma constantChars_eq_map {cs : List Char} (h : cs.IsChain fun a b => ¬ StartsWord a b) :
    constantChars false cs = cs.map constantChar := by
  by_cases hne : cs = []
  · rw [hne]
    rfl
  · have hword := constantChars_word_append hne h []
    rwa [List.append_nil,constantChars,List.append_nil] at hword

/-- Words are converted each on its own, with underscores between them. -/
lemma constantChars_of_dividedAt {cs : List Char} {ws : List (List Char)}
    (h : DividedAt StartsWord cs ws) :
    constantChars false cs = ['_'].intercalate (ws.map (List.map constantChar)) := by
  obtain ⟨rfl,hne,hinside,hbetween⟩ := h
  induction ws with
  | nil => rfl
  | cons v ws ih =>
    have hv := hne v List.mem_cons_self
    have hfirst := constantChars_word_append hv (hinside v List.mem_cons_self) ws.flatten
    cases ws with
    | nil =>
      rw [List.flatten_cons,hfirst,List.map_cons,List.map_nil,List.intercalate_singleton]
      exact List.append_nil _
    | cons w ws =>
      obtain ⟨⟨_,hw,hstart⟩,hrest⟩ := List.isChain_cons_cons.1 hbetween
      have hrest := ih (fun u hu => hne u (List.mem_cons_of_mem v hu))
        (fun u hu => hinside u (List.mem_cons_of_mem v hu)) hrest
      rw [List.flatten_cons,hfirst,List.map_cons,List.map_cons,List.intercalate_cons_cons,
        ← List.map_cons,← hrest,List.append_assoc]
      -- what follows a word starts the next one, and so with an underscore
      obtain ⟨d,w,rfl⟩ := List.exists_cons_of_ne_nil hw
      congr 1
      exact constantChars_of_startsWord hstart _

namespace Text

/-- Written in plain characters, those with numbers below 128. -/
def IsPlain (s : String) : Prop := ∀ c ∈ s.toList, c.toNat < 128

/-- Without capitals and hyphens. -/
def IsSnake (s : String) : Prop := ∀ c ∈ s.toList, isUppercase c = false ∧ c ≠ '-'

instance (s : String) : Decidable (IsPlain s) :=
  decidable_of_iff (s.toList.all fun c => decide (c.toNat < 128)) (by simp [IsPlain])

instance (s : String) : Decidable (IsSnake s) :=
  decidable_of_iff (s.toList.all fun c => !isUppercase c && c != '-') (by simp [IsSnake])

end Text

section
variable {c : Char}

/-- A property of underscores and plain letters that is kept when a hyphen is replaced. -/
lemma of_constantChar {p : Char → Bool} (hp : ∀ c, c.isAlpha = true → p c = true)
    (hline : p '_' = true) (hc : c ≠ '-' → p c = true) : p (constantChar c) = true := by
  rw [constantChar]
  split_ifs with h
  · exact hline
  · rw [Text.toUpper_congr hp,hc h]

lemma constantChar_ne_hyphen (c : Char) : constantChar c ≠ '-' := by
  rw [← bne_iff_ne]
  apply of_constantChar (p := fun d => d != '-')
  · intro d hd
    rw [bne_iff_ne]
    rintro rfl
    exact absurd hd (by decide)
  · rfl
  · exact bne_iff_ne.2

lemma toNat_constantChar_lt (h : c.toNat < 128) : (constantChar c).toNat < 128 := by
  rw [← decide_eq_true_iff (p := _ < _)]
  apply of_constantChar (p := fun d => decide (d.toNat < 128))
  · exact fun d hd => decide_eq_true (Text.toNat_lt_of_isAlpha hd)
  · rfl
  · exact fun _ => decide_eq_true h

lemma isLower_constantChar (c : Char) : (constantChar c).isLower = false := by
  rw [constantChar]
  split_ifs
  · rfl
  · exact c.isLower_toUpper_eq_false

lemma constantChar_eq_self (hlower : c.isLower = false) (hhyphen : c ≠ '-') :
    constantChar c = c := by
  rw [constantChar,if_neg hhyphen,Char.toUpper_eq_of_not_isLower (Bool.eq_false_iff.1 hlower)]

/-- What has become of a character without a capital can be told. -/
lemma toLower_constantChar (hcapital : Text.isUppercase c = false) (hhyphen : c ≠ '-') :
    (constantChar c).toLower = c := by
  have hupper : ¬ c.isUpper = true := by
    intro h
    rw [Text.isUppercase_of_isUpper h] at hcapital
    cases hcapital
  rw [constantChar,if_neg hhyphen,Char.toLower_toUpper_eq_toLower,
    Char.toLower_eq_of_not_isUpper hupper]

end

/-- What the constant of a name in plain characters is made of. -/
lemma of_mem_constantName {s : String} (plain : Text.IsPlain s) {c : Char}
    (hc : c ∈ (constantName s).toList) : c.toNat < 128 ∧ c.isLower = false ∧ c ≠ '-' := by
  rw [constantName,String.toList_ofList] at hc
  have hall : (constantChars false s.toList).all
      (fun d => decide (d.toNat < 128 ∧ d.isLower = false ∧ d ≠ '-')) = true := by
    rw [constantChars_all (by decide),List.all_eq_true]
    intro d hd
    exact decide_eq_true ⟨toNat_constantChar_lt (plain d hd),isLower_constantChar d,
      constantChar_ne_hyphen d⟩
  exact of_decide_eq_true (List.all_eq_true.1 hall c hc)

/-- A name that is a single word. -/
lemma toList_constantName {s : String} (h : ∀ a ∈ s.toList, ∀ b ∈ s.toList, ¬ StartsWord a b) :
    (constantName s).toList = s.toList.map constantChar := by
  rw [constantName,String.toList_ofList,
    constantChars_eq_map (List.pairwise_of_forall_mem_list h).isChain]

/-- A constant has no small letters left, so it is a single word and its own constant. -/
lemma constantName_constantName {s : String} (plain : Text.IsPlain s) :
    constantName (constantName s) = constantName s := by
  apply String.toList_injective
  rw [toList_constantName]
  · apply map_eq_self
    intro c hc
    obtain ⟨-,hlower,hhyphen⟩ := of_mem_constantName plain hc
    exact constantChar_eq_self hlower hhyphen
  · rintro a ha b - ⟨hsmall,-⟩
    obtain ⟨hplain,hlower,-⟩ := of_mem_constantName plain ha
    rw [Text.isSmall_eq_isLower hplain,hlower] at hsmall
    cases hsmall

/-- The letters of a name without capitals are those of its constant, put in small letters. -/
lemma map_toLower_constantName {s : String} (snake : Text.IsSnake s) :
    (constantName s).toList.map Char.toLower = s.toList := by
  have hword : ∀ a ∈ s.toList, ∀ b ∈ s.toList, ¬ StartsWord a b := by
    rintro a - b hb ⟨-,hcapital⟩
    rw [(snake b hb).1] at hcapital
    cases hcapital
  rw [toList_constantName hword,List.map_map]
  apply map_eq_self
  intro c hc
  exact toLower_constantChar (snake c hc).1 (snake c hc).2

lemma constantName_injOn : Set.InjOn constantName {s | Text.IsSnake s} := by
  intro s hs t ht h
  apply String.toList_injective
  rw [← map_toLower_constantName hs,← map_toLower_constantName ht,h]

/-- Names that differ, without capitals and hyphens. -/
structure DistinctSnakes (names : List String) : Prop where
  distinct : names.Nodup
  snake : ∀ s ∈ names, Text.IsSnake s

lemma DistinctSnakes.nodup_constantName {names : List String} (h : DistinctSnakes names) :
    (names.map constantName).Nodup :=
  h.distinct.map_on fun s hs t ht => constantName_injOn (h.snake s hs) (h.snake t ht)

lemma DistinctSnakes.sublist {names names' : List String} (h : DistinctSnakes names)
    (hsub : names'.Sublist names) : DistinctSnakes names' where
  distinct := h.distinct.sublist hsub
  snake s hs := h.snake s (hsub.subset hs)

namespace FieldDeclaration

/-- The name that a record field is searched under, if it is. -/
def searchName (f : FieldDeclaration) : String := f.searchAttribute.rename?.getD f.name

/-- The name that a field has in a specification, if it takes part. -/
def specName (f : FieldDeclaration) : String := f.specAttribute.rename?.getD f.name

end FieldDeclaration

/-- The constants of some fields, one for each under the name that it goes by. -/
lemma DistinctSnakes.nodup_constants {α : Type} {rows : List α} {field : α → FieldDeclaration}
    {name : α → String} {called : FieldDeclaration → String} {fields : List FieldDeclaration}
    (snakes : DistinctSnakes (fields.map called)) (hfields : (rows.map field).Sublist fields)
    (hname : ∀ r ∈ rows, name r = called (field r)) :
    ((rows.map fun r => (constantName (name r),name r)).map Prod.fst).Nodup := by
  have hnames : rows.map name = (rows.map field).map called := by
    rw [List.map_map]
    exact List.map_congr_left hname
  have hconstants : (rows.map fun r => (constantName (name r),name r)).map Prod.fst =
      (rows.map name).map constantName := by
    rw [List.map_map,List.map_map]
    rfl
  rw [hconstants,hnames]
  exact (snakes.sublist (hfields.map called)).nodup_constantName

lemma Accessors.nodup_constants {fields : List FieldDeclaration} {a : Accessors}
    (h : derive (.named fields) = .ok a)
    (snakes : DistinctSnakes (fields.map FieldDeclaration.searchName)) :
    (a.constants.map Prod.fst).Nodup := by
  have hfields : ofFields fields = .ok a := h
  rw [ofFields_eq,map_eq_ok_iff] at hfields
  obtain ⟨rows,hlisted,rfl⟩ := hfields
  obtain ⟨accepted,-,rfl⟩ := (listed_eq_ok_iff FieldDeclaration.eq_searched?).1 hlisted
  have hrows := searches_filterMap accepted
  exact snakes.nodup_constants (hrows.fields ▸ List.filter_sublist) hrows.name

lemma Descriptors.nodup_constants {fields : List FieldDeclaration} {t : Descriptors}
    (h : derive (.named fields) = .ok t)
    (snakes : DistinctSnakes (fields.map FieldDeclaration.specName)) :
    (t.constants.map Prod.fst).Nodup := by
  have hfields : ofFields fields = .ok t := h
  rw [ofFields_eq,map_eq_ok_iff] at hfields
  obtain ⟨rows,hlisted,rfl⟩ := hfields
  obtain ⟨accepted,-,rfl⟩ := (listed_eq_ok_iff FieldDeclaration.eq_specified?).1 hlisted
  have hrows := specifies_filterMap accepted
  exact snakes.nodup_constants (hrows.fields ▸ List.filter_sublist) hrows.name

/-- The constant of a name in plain characters has no small letter and no hyphen, and is its own
constant. Its words are those of the name, which start with the capitals that directly follow a
small letter; underscores stand between them, and without these it is the name in capitals with
underscores for hyphens. Names without capitals and hyphens are told apart by their constants, so no
constant is derived twice if the fields go by different names of that sort, their own unless their
attributes give them others. -/
theorem constantName_outcome :
    (∀ s, Text.IsPlain s →
      (∀ c ∈ (constantName s).toList, c.isLower = false ∧ c ≠ '-') ∧
      constantName (constantName s) = constantName s ∧
      ∃ ws, DividedAt (fun a b => a.isLower = true ∧ b.isUpper = true) s.toList ws ∧
        (constantName s).toList = ['_'].intercalate (ws.map (List.map constantChar)) ∧
        (ws.map (List.map constantChar)).flatten = s.toList.map constantChar) ∧
    Set.InjOn constantName {s | Text.IsSnake s} ∧
    (∀ fields a, Accessors.derive (.named fields) = .ok a →
      DistinctSnakes (fields.map FieldDeclaration.searchName) →
      (a.constants.map Prod.fst).Nodup) ∧
    ∀ fields t, Descriptors.derive (.named fields) = .ok t →
      DistinctSnakes (fields.map FieldDeclaration.specName) → (t.constants.map Prod.fst).Nodup := by
  refine ⟨fun s plain => ⟨?_,constantName_constantName plain,?_⟩,constantName_injOn,
    fun _ _ => Accessors.nodup_constants,fun _ _ => Descriptors.nodup_constants⟩
  · intro c hc
    exact (of_mem_constantName plain hc).2
  · have hwords := dividedAt_splitBy StartsWord s.toList
    refine ⟨_,hwords.congr ?_,?_,?_⟩
    · intro a ha b hb
      rw [StartsWord,Text.isSmall_eq_isLower (plain a ha),Text.isUppercase,if_pos (plain b hb)]
    · rw [constantName,String.toList_ofList,constantChars_of_dividedAt hwords]
    · rw [← List.map_flatten,hwords.flatten]

/-- A capital behind a digit starts no word, and a field that is given another name has the constant
of that. -/
theorem constantName_outcome_sample :
    let kind : AttributeItem := .word (some "String")
    let rename : AttributeItem := .assign (some "rename") (some "job_title")
    let fields : List FieldDeclaration :=
      [⟨"title",.other "&str",[⟨some "search",some [kind,rename]⟩,⟨some "spec",some [rename]⟩]⟩,
        ⟨"jobtitle",.other "&str",[⟨some "search",some [kind]⟩]⟩]
    let a : Accessors :=
      { constants := [("JOB_TITLE","job_title"),("JOBTITLE","jobtitle")]
        values := [⟨"job_title",.value,"title"⟩,⟨"jobtitle",.value,"jobtitle"⟩]
        kinds := [("job_title",.string),("jobtitle",.string)]
        elements := [] }
    let t : Descriptors :=
      { constants := [("JOB_TITLE","job_title"),("JOBTITLE","jobtitle")]
        fields := [⟨"job_title",.plain⟩,⟨"jobtitle",.plain⟩]
        values := [⟨"job_title",false,"title",false⟩,⟨"jobtitle",false,"jobtitle",false⟩] }
    Text.IsPlain "closedAt-2B" ∧ constantName "closedAt-2B" = "CLOSED_AT_2B" ∧
      constantName "CLOSED_AT_2B" = "CLOSED_AT_2B" ∧
      Text.IsSnake "job_title" ∧ Text.IsSnake "jobtitle" ∧
      constantName "job_title" ≠ constantName "jobtitle" ∧
      Accessors.derive (.named fields) = .ok a ∧
      DistinctSnakes (fields.map FieldDeclaration.searchName) ∧ (a.constants.map Prod.fst).Nodup ∧
      Descriptors.derive (.named fields) = .ok t ∧
      DistinctSnakes (fields.map FieldDeclaration.specName) ∧ (t.constants.map Prod.fst).Nodup := by
  intro kind rename fields a t
  obtain ⟨hplain,hinjective,hsearch,hspec⟩ := constantName_outcome
  have plain : Text.IsPlain "closedAt-2B" := by decide +kernel
  have hname : constantName "closedAt-2B" = "CLOSED_AT_2B" := by decide +kernel
  have snake : Text.IsSnake "job_title" ∧ Text.IsSnake "jobtitle" := by decide +kernel
  have hsearched : Accessors.derive (.named fields) = .ok a := by decide +kernel
  have hspecified : Descriptors.derive (.named fields) = .ok t := by decide +kernel
  have searched : DistinctSnakes (fields.map FieldDeclaration.searchName) :=
    ⟨by decide +kernel,by decide +kernel⟩
  have specified : DistinctSnakes (fields.map FieldDeclaration.specName) :=
    ⟨by decide +kernel,by decide +kernel⟩
  refine ⟨plain,hname,?_,snake.1,snake.2,?_,hsearched,searched,hsearch fields a hsearched searched,
    hspecified,specified,hspec fields t hspecified specified⟩
  · have hsame := (hplain _ plain).2.1
    rwa [hname] at hsame
  · intro h
    exact absurd (hinjective snake.1 snake.2 h) (by decide)

end RecordSearch
