import RecordSearch.Declaration.Item
import RecordSearch.Proofs.AttributeItems

/-! Items of an attribute of a specification, and for which of them the attribute is refused. Items
with commas between them are read one by one. An item may give a role or a name, and what it is
refused for depends on those before it only in that a role has to be the one that they give. So an
attribute is taken up exactly if all of its items are allowed and give one role, and otherwise it is
refused for the first item that has a problem with those before it. -/
namespace RecordSearch

namespace TokenReader
variable {α : Type} {p : TokenReader α} {ts : List Token} {as : List α}

/-- A reader takes some tokens for something, be they the last ones or followed by a comma. -/
structure Reads (p : TokenReader α) (ts : List Token) (a : α) : Prop where
  ne_nil : ts ≠ []
  last : p.run ts = some (a,[])
  beforeComma : ∀ joint rest,
    p.run (ts ++ .mark ',' joint :: rest) = some (a,.mark ',' joint :: rest)

/-- Tokens with commas between them, and maybe one at the end. -/
inductive Separated (p : TokenReader α) : List Token → List α → Prop
  | nil : Separated p [] []
  | last {ts : List Token} {a : α} (h : p.Reads ts a) : Separated p ts [a]
  | cons {ts rest : List Token} {a : α} {as : List α} (h : p.Reads ts a) (joint : Bool)
      (hrest : Separated p rest as) : Separated p (ts ++ .mark ',' joint :: rest) (a :: as)

lemma marks_comma (joint : Bool) (rest : List Token) :
    (marks ",").run (.mark ',' joint :: rest) = some ((),rest) := rfl

lemma untilEnd_of_separated (h : Separated p ts as) {fuel : Nat} (hfuel : ts.length < fuel) :
    (untilEnd p fuel).run ts = some (as,[]) := by
  induction h generalizing fuel with
  | nil =>
    obtain ⟨fuel,rfl⟩ := Nat.exists_eq_succ_of_ne_zero (Nat.ne_zero_of_lt hfuel)
    rfl
  | last h =>
    obtain ⟨fuel,rfl⟩ := Nat.exists_eq_succ_of_ne_zero (Nat.ne_zero_of_lt hfuel)
    simp [untilEnd,h.ne_nil,h.last]
  | @cons ts rest a as h joint hrest ih =>
    obtain ⟨fuel,rfl⟩ := Nat.exists_eq_succ_of_ne_zero (Nat.ne_zero_of_lt hfuel)
    have hlt : rest.length < fuel := by
      rw [List.length_append,List.length_cons] at hfuel
      omega
    simp [untilEnd,h.ne_nil,h.beforeComma,marks_comma,ih hlt]

lemma all_list_of_separated (h : Separated p ts as) : (all (list p)).run ts = some (as,[]) := by
  have hlist : (list p).run ts = some (as,[]) := untilEnd_of_separated h (Nat.lt_succ_self _)
  simp [all,hlist,need]

end TokenReader

lemma Grammar.items?_of_separated {n : Nat} {ts : List Token} {items : List AttributeItem}
    (h : TokenReader.Separated (item n) ts items) : items? n ts = some items := by
  rw [items?,TokenReader.all_list_of_separated h]
  rfl

/-- The last of what there is, with all of what it is the last of. -/
lemma getLast?_filterMap_eq_some_iff {α β : Type} {f : α → Option β} {as : List α} {b : β} :
    (as.filterMap f).getLast? = some b ↔
      ∃ before a after, as = before ++ a :: after ∧ f a = some b ∧ ∀ x ∈ after, f x = none := by
  constructor
  · intro h
    obtain ⟨bs,hbs⟩ := List.getLast?_eq_some_iff.1 h
    obtain ⟨before,behind,rfl,-,hbehind⟩ := List.filterMap_eq_append_iff.1 hbs
    obtain ⟨skipped,a,after,rfl,-,ha,hafter⟩ := List.filterMap_eq_cons_iff.1 hbehind
    exact ⟨before ++ skipped,a,after,(List.append_assoc ..).symm,ha,
      List.filterMap_eq_nil_iff.1 hafter⟩
  · rintro ⟨before,a,after,rfl,ha,hafter⟩
    rw [List.filterMap_append,List.filterMap_cons_some ha,List.filterMap_eq_nil_iff.2 hafter,
      List.getLast?_concat]

lemma RoleMarker.named?_eq_some_iff {name : String} {m : RoleMarker} :
    named? name = some m ↔ name = m.name := by
  constructor
  · intro h
    have hname := List.find?_some h
    exact (beq_iff_eq.1 hname).symm
  · rintro rfl; exact named?_name m

namespace AttributeItem
variable {i : AttributeItem}

/-- The item that gives a role. -/
def role (m : RoleMarker) : AttributeItem := .word (some m.name)

/-- The item that gives a name. -/
def named (name : String) : AttributeItem := .assign (some "rename") (some name)

/-- What an attribute of a specification may hold. -/
inductive Allowed : AttributeItem → Prop
  | role (m : RoleMarker) : Allowed (.role m)
  | named (name : String) : Allowed (.named name)

lemma marker?_eq_some_iff {m : RoleMarker} : i.marker? = some m ↔ i = .role m := by
  constructor
  · intro h
    cases i with
    | word name? =>
      obtain ⟨name,rfl,hname⟩ := Option.bind_eq_some_iff.1 h
      rw [RoleMarker.named?_eq_some_iff.1 hname]
      rfl
    | assign name? value? => cases h
    | list => cases h
  · rintro rfl; exact RoleMarker.named?_name m

/-- A word gives no role if it is the name of none. -/
lemma marker?_word_eq_none_iff {name? : Option String} :
    (AttributeItem.word name?).marker? = none ↔ ∀ m : RoleMarker, name? ≠ some m.name := by
  simp only [Option.eq_none_iff_forall_ne_some,ne_eq,marker?_eq_some_iff,role,word.injEq]

lemma rename?_eq_some_iff {name : String} : i.rename? = some name ↔ i = .named name := by
  constructor
  · intro h
    cases i with
    | word name? => cases h
    | assign name? value? =>
      rw [rename?] at h
      split_ifs at h with hname
      rw [hname,h]
      rfl
    | list => cases h
  · rintro rfl; rfl

lemma specifies_iff : i.specifies = true ↔ i.Allowed := by
  rw [specifies,Bool.or_eq_true,Option.isSome_iff_exists,Option.isSome_iff_exists]
  simp only [marker?_eq_some_iff,rename?_eq_some_iff]
  constructor
  · rintro (⟨m,rfl⟩ | ⟨name,rfl⟩)
    · exact .role m
    · exact .named name
  · rintro (m | name)
    · exact .inl ⟨m,rfl⟩
    · exact .inr ⟨name,rfl⟩

lemma reads_role (n : Nat) (m : RoleMarker) :
    (Grammar.item n).Reads [.word m.name] (.role m) := by
  cases m <;> exact ⟨List.cons_ne_nil _ _,rfl,fun _ _ => rfl⟩

lemma reads_named (n : Nat) (name written : String) : (Grammar.item (n+3)).Reads
    [.word "rename",.mark '=' false,.literal (.text name) written] (.named name) :=
  ⟨List.cons_ne_nil _ _,rfl,fun _ _ => rfl⟩

end AttributeItem

namespace SpecAttribute
variable {a : SpecAttribute} {i : AttributeItem} {items before : List AttributeItem}
variable {p : SpecItemProblem}

/-- There is at most one role among the items, given once or more often. -/
def OneRole (items : List AttributeItem) : Prop := ∀ m n, .role m ∈ items → .role n ∈ items → m = n

/-- The last name that the items give. -/
def LastName (items : List AttributeItem) (name : String) : Prop :=
  ∃ before after, items = before ++ .named name :: after ∧ ∀ other, .named other ∉ after

/-- What is wrong with an item behind others. Only a second role is a matter of these. -/
inductive Problem (before : List AttributeItem) : AttributeItem → SpecItemProblem → Prop
  | unknownRole {name? : Option String} (h : ∀ m : RoleMarker, name? ≠ some m.name) :
    Problem before (.word name?) .unknownRole
  | secondRole {m n : RoleMarker} (h : .role n ∈ before) (hne : n ≠ m) :
    Problem before (.role m) .secondRole
  | renameNotText : Problem before (.assign (some "rename") none) .renameNotText
  | unknownName {name? value? : Option String} (h : name? ≠ some "rename") :
    Problem before (.assign name? value?) .unknownItem
  | list : Problem before .list .unknownItem

/-- What is wrong with the first item that has a problem with those before it. -/
def FirstProblem (items : List AttributeItem) (p : SpecItemProblem) : Prop :=
  ∃ before i after, items = before ++ i :: after ∧ Problem before i p ∧
    ∀ earlier j later q, before = earlier ++ j :: later → ¬ Problem earlier j q

lemma agree_iff : RoleMarker.Agree (items.filterMap AttributeItem.marker?) ↔ OneRole items := by
  simp only [RoleMarker.Agree,OneRole,List.mem_filterMap,AttributeItem.marker?_eq_some_iff,
    exists_eq_right]
  constructor
  · intro h m n hm hn; exact h m hm n hn
  · intro h m hm n hn; exact h m n hm hn

lemma exists_ofItems_eq_ok_iff :
    (∃ a, ofItems items = .ok a) ↔ (∀ i ∈ items, i.Allowed) ∧ OneRole items := by
  simp only [ofItems_eq_ok_iff,AttributeItem.specifies_iff,agree_iff]
  constructor
  · rintro ⟨a,hallowed,hone,-⟩; exact ⟨hallowed,hone⟩
  · rintro ⟨hallowed,hone⟩; exact ⟨_,hallowed,hone,rfl⟩

/-- The role that has been taken up is the one that is given. -/
lemma role?_eq_some_iff (h : ofItems items = .ok a) (m : RoleMarker) :
    a.role? = some m ↔ .role m ∈ items := by
  obtain ⟨-,hone,rfl⟩ := ofItems_eq_ok_iff.1 h
  rw [agree_iff] at hone
  rw [saidBy,getLast?_filterMap_eq_some_iff]
  simp only [AttributeItem.marker?_eq_some_iff]
  constructor
  · rintro ⟨before,_,after,rfl,rfl,-⟩
    exact List.mem_append_right _ List.mem_cons_self
  · intro hm
    -- the last role is this one, as there is no other
    cases hlast : (items.filterMap AttributeItem.marker?).getLast? with
    | none =>
      have hmem : m ∈ items.filterMap AttributeItem.marker? :=
        List.mem_filterMap.2 ⟨_,hm,AttributeItem.marker?_eq_some_iff.2 rfl⟩
      rw [List.getLast?_eq_none_iff.1 hlast] at hmem
      cases hmem
    | some n =>
      obtain ⟨before,i,after,rfl,hi,hafter⟩ := getLast?_filterMap_eq_some_iff.1 hlast
      rw [AttributeItem.marker?_eq_some_iff] at hi
      subst hi
      rw [hone m n hm (List.mem_append_right _ List.mem_cons_self)]
      exact ⟨before,_,after,rfl,rfl,hafter⟩

lemma rename?_eq_some_iff (h : ofItems items = .ok a) (name : String) :
    a.rename? = some name ↔ LastName items name := by
  obtain ⟨-,-,rfl⟩ := ofItems_eq_ok_iff.1 h
  rw [saidBy,getLast?_filterMap_eq_some_iff,LastName]
  simp only [AttributeItem.rename?_eq_some_iff,Option.eq_none_iff_forall_ne_some]
  constructor
  · rintro ⟨before,_,after,rfl,rfl,hafter⟩
    refine ⟨before,after,rfl,fun other hother => ?_⟩
    exact hafter _ hother other (AttributeItem.rename?_eq_some_iff.2 rfl)
  · rintro ⟨before,after,rfl,hafter⟩
    refine ⟨before,_,after,rfl,rfl,fun i hi other hother => ?_⟩
    rw [AttributeItem.rename?_eq_some_iff.1 hother] at hi
    exact hafter other hi

lemma add_role (a : SpecAttribute) (m : RoleMarker) : a.add (.role m) =
    if a.role?.any (· != m) then .error .secondRole else .ok { a with role? := some m } := by
  rw [AttributeItem.role,add,Option.bind_some,RoleMarker.named?_name]

lemma add_of_no_marker {name? : Option String} (h : (AttributeItem.word name?).marker? = none) :
    a.add (.word name?) = .error .unknownRole := by
  rw [AttributeItem.marker?] at h
  simp only [add,h]

/-- An item is refused for its problem with those that have been taken up. -/
lemma add_eq_error_iff (h : ofItems before = .ok a) : a.add i = .error p ↔ Problem before i p := by
  have hother (m : RoleMarker) : a.role?.any (· != m) = true ↔ ∃ n, .role n ∈ before ∧ n ≠ m := by
    simp only [← role?_eq_some_iff h]
    cases a.role? <;> simp
  constructor
  · intro hadd
    cases i with
    | word name? =>
      cases hm : (AttributeItem.word name?).marker? with
      | none =>
        rw [add_of_no_marker hm] at hadd
        cases hadd
        exact .unknownRole (AttributeItem.marker?_word_eq_none_iff.1 hm)
      | some m =>
        rw [AttributeItem.marker?_eq_some_iff.1 hm] at hadd ⊢
        rw [add_role] at hadd
        split_ifs at hadd with hany
        cases hadd
        obtain ⟨n,hn,hne⟩ := (hother m).1 hany
        exact .secondRole hn hne
    | assign name? value? =>
      by_cases hname : name? = some "rename"
      · subst hname
        cases value? with
        | none => cases hadd; exact .renameNotText
        | some value => cases hadd
      · have hunknown : a.add (.assign name? value?) = .error .unknownItem := if_neg hname
        rw [hunknown] at hadd
        cases hadd
        exact .unknownName hname
    | list => cases hadd; exact .list
  · intro hproblem
    cases hproblem with
    | unknownRole hname => exact add_of_no_marker (AttributeItem.marker?_word_eq_none_iff.2 hname)
    | @secondRole m n hn hne => rw [add_role,if_pos ((hother m).2 ⟨n,hn,hne⟩)]
    | renameNotText => rfl
    | unknownName hname => exact if_neg hname
    | list => rfl

/-- Items are refused for the first of them that has a problem. -/
lemma ofItems_eq_error_iff : ofItems items = .error p ↔ FirstProblem items p := by
  rw [ofItems,foldlM_eq_error_iff]
  constructor
  · rintro ⟨before,i,after,a,rfl,hbefore,hadd⟩
    refine ⟨before,i,after,rfl,(add_eq_error_iff hbefore).1 hadd,?_⟩
    -- an earlier item with a problem would have been refused already
    rintro earlier j later q rfl hproblem
    rw [List.foldlM_append,bind_eq_ok_iff] at hbefore
    obtain ⟨b,hb,hlater⟩ := hbefore
    rw [List.foldlM_cons,(add_eq_error_iff hb).2 hproblem] at hlater
    cases hlater
  · rintro ⟨before,i,after,rfl,hproblem,hfirst⟩
    cases hbefore : ofItems before with
    | ok a => exact ⟨before,i,after,a,rfl,hbefore,(add_eq_error_iff hbefore).2 hproblem⟩
    | error q =>
      obtain ⟨earlier,j,later,b,rfl,hb,hq⟩ := foldlM_eq_error_iff.1 hbefore
      exact absurd ((add_eq_error_iff hb).1 hq) (hfirst earlier j later q rfl)

/-- Items are read from tokens with commas between them, and taken up exactly if all of them are
allowed and there is at most one role. The role that is taken up is then that one, and the name is
the last one given. Items that are not taken up are refused for what is wrong with the first of them
that has a problem. -/
theorem ofItems_outcome (items : List AttributeItem) :
    (∀ n ts, TokenReader.Separated (Grammar.item n) ts items → Grammar.items? n ts = some items) ∧
    ((∃ a, ofItems items = .ok a) ↔ (∀ i ∈ items, i.Allowed) ∧ OneRole items) ∧
    (∀ a, ofItems items = .ok a →
      (∀ m, a.role? = some m ↔ .role m ∈ items) ∧
      ∀ name, a.rename? = some name ↔ LastName items name) ∧
    ∀ p, ofItems items = .error p ↔ FirstProblem items p :=
  ⟨fun _ _ => Grammar.items?_of_separated,exists_ofItems_eq_ok_iff,
    fun _ h => ⟨role?_eq_some_iff h,rename?_eq_some_iff h⟩,fun _ => ofItems_eq_error_iff⟩

/-- A role may be repeated with names in between, and of two problems the first counts. -/
theorem ofItems_outcome_sample :
    let tokens : List Token :=
      [.word "rename",.mark '=' false,.literal (.text "a") "\"a\"",.mark ',' false,.word "skip",
        .mark ',' false,.word "rename",.mark '=' false,.literal (.text "b") "\"b\"",
        .mark ',' false,.word "skip",.mark ',' false]
    let items : List AttributeItem := [.named "a",.role .skip,.named "b",.role .skip]
    let refused : List AttributeItem :=
      [.role .skip,.named "a",.role .take,.word (some "paging"),.role .skip]
    TokenReader.Separated (Grammar.item 3) tokens items ∧ Grammar.items? 3 tokens = some items ∧
      ofItems items = .ok ⟨some .skip,some "b"⟩ ∧ LastName items "b" ∧
      ofItems refused = .error .secondRole ∧ FirstProblem refused .secondRole := by
  intro tokens items refused
  have hseparated : TokenReader.Separated (Grammar.item 3) tokens items := by
    have hskip := AttributeItem.reads_role 3 .skip
    have hlast := TokenReader.Separated.cons hskip false .nil
    have hnamed := TokenReader.Separated.cons (AttributeItem.reads_named 0 "b" "\"b\"") false hlast
    have hfirst := TokenReader.Separated.cons hskip false hnamed
    exact .cons (AttributeItem.reads_named 0 "a" "\"a\"") false hfirst
  have hok : ofItems items = .ok ⟨some .skip,some "b"⟩ := rfl
  have herror : ofItems refused = .error .secondRole := rfl
  obtain ⟨hread,-,htaken,-⟩ := ofItems_outcome items
  exact ⟨hseparated,hread 3 tokens hseparated,hok,((htaken _ hok).2 "b").1 rfl,herror,
    ((ofItems_outcome refused).2.2.2 _).1 herror⟩

end SpecAttribute
end RecordSearch
