import Mathlib.Data.List.Forall2
import Mathlib.Data.List.Nodup

/-! Looking up names. The first entry of a name is the one that counts; where names are distinct it
is the only one, and then nothing depends on the order of the entries. -/
namespace RecordSearch

section
variable {α β : Type} {name : α → String} {as : List α} {n : String} {a : α}

lemma of_find?_eq_some (h : (as.find? fun a => name a == n) = some a) : a ∈ as ∧ name a = n :=
  ⟨List.mem_of_find?_eq_some h,by simpa using List.find?_some h⟩

lemma isSome_find?_iff : (as.find? fun a => name a == n).isSome = true ↔ n ∈ as.map name := by
  simp

lemma find?_eq_none_iff : (as.find? fun a => name a == n) = none ↔ n ∉ as.map name := by
  simp

/-- Where names are distinct, what is found under a name is all that has it. -/
lemma find?_eq_some_iff (distinct : (as.map name).Nodup) :
    (as.find? fun a => name a == n) = some a ↔ a ∈ as ∧ name a = n := by
  constructor
  · exact of_find?_eq_some
  · rintro ⟨ha,rfl⟩
    obtain ⟨b,hb⟩ := Option.isSome_iff_exists.1 (isSome_find?_iff.2 (List.mem_map_of_mem ha))
    obtain ⟨hmem,hname⟩ := of_find?_eq_some hb
    rw [hb,List.inj_on_of_nodup_map distinct hmem ha hname]

lemma lookup_map (f : α → β) : (as.map fun a => (name a,f a)).lookup n =
    (as.find? fun a => name a == n).map f := by
  induction as with
  | nil => rfl
  | cons a as ih =>
    rw [List.map_cons,List.lookup_cons,List.find?_cons,ih,BEq.comm]
    cases name a == n <;> rfl

variable {R : α → β → Prop} {name' : β → String} (hname : ∀ a b, R a b → name' b = name a)
  {bs : List β} (h : List.Forall₂ R as bs)
include hname h

lemma map_eq_map_of_forall₂ : bs.map name' = as.map name := by
  rw [← List.forall₂_eq_eq_eq,List.forall₂_map_left_iff,List.forall₂_map_right_iff]
  exact (h.imp hname).flip

/-- In lists that go along with each other, what is found under a name goes along. -/
lemma find?_eq_some_of_forall₂ (ha : (as.find? fun a => name a == n) = some a) :
    ∃ b, (bs.find? fun b => name' b == n) = some b ∧ R a b := by
  induction h with
  | nil => cases ha
  | cons hR _ ih =>
    rw [List.find?_cons] at ha ⊢
    rw [hname _ _ hR]
    split at ha
    · cases ha; exact ⟨_,rfl,hR⟩
    · exact ih ha

end
end RecordSearch
