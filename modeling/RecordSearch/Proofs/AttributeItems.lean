import RecordSearch.Derive.RecordFields
import RecordSearch.Derive.SpecificationFields
import RecordSearch.Proofs.Attempts

/-! What the items of an attribute say together. Read apart, an item is fit for an attribute or not,
and says at most one thing. A list of fit items says what the last of them does about each matter,
so what two lists say one after the other is what the second says, and where it says nothing, the
first. For a specification the roles have to be the same besides. -/
namespace RecordSearch

/-- The last of what there is, if the first is added. -/
lemma getLast?_filterMap_cons {α β : Type} (f : α → Option β) (a : α) (as : List α) :
    ((a :: as).filterMap f).getLast? = (as.filterMap f).getLast?.or (f a) := by
  cases ha : f a with
  | none => rw [List.filterMap_cons_none ha,Option.or_none]
  | some b => rw [List.filterMap_cons_some ha,List.getLast?_cons,Option.or_some]

/-- A choice put before another makes no difference if it is none or the same. -/
lemma or_eq_right_iff {α : Type} {o o' : Option α} :
    o.or o' = o' ↔ ∀ a, o = some a → o' = some a := by
  cases o with
  | none => simp
  | some a =>
    rw [Option.some_or]
    constructor
    · rintro rfl a ha; exact ha
    · intro h; exact (h a rfl).symm

/-- The kind that attributes call so. -/
def SearchAttribute.kindNamed? (name : String) : Option Kind := kindNames.lookup name

namespace AttributeItem

/-- Leaves a record field out. -/
def skips : AttributeItem → Bool
  | .word (some name) => name == "skip"
  | _ => false

/-- The kind that an item gives to a record field. -/
def kind? : AttributeItem → Option Kind
  | .word name? => name?.bind SearchAttribute.kindNamed?
  | .assign name? value? =>
    if name? = some "ty" then value?.bind SearchAttribute.kindNamed? else none
  | .list => none

/-- The name that an item gives to a field. -/
def rename? : AttributeItem → Option String
  | .assign name? value? => if name? = some "rename" then value? else none
  | _ => none

/-- The role that an item gives to a field of a specification. -/
def marker? : AttributeItem → Option RoleMarker
  | .word name? => name?.bind RoleMarker.named?
  | _ => none

/-- Fit for the attribute of a record field. -/
def declares (i : AttributeItem) : Bool := i.skips || i.kind?.isSome || i.rename?.isSome

/-- Fit for the attribute of a field of a specification. -/
def specifies (i : AttributeItem) : Bool := i.marker?.isSome || i.rename?.isSome

end AttributeItem

namespace SearchAttribute
variable {a b : SearchAttribute} {i : AttributeItem} {items : List AttributeItem}

/-- What is said first, and then second. -/
def followedBy (a b : SearchAttribute) : SearchAttribute where
  kind? := b.kind?.or a.kind?
  skip := a.skip || b.skip
  rename? := b.rename?.or a.rename?

/-- What one item says. -/
def single (i : AttributeItem) : SearchAttribute := ⟨i.kind?,i.skips,i.rename?⟩

/-- What a list of items says, the last one counting. -/
def saidBy (items : List AttributeItem) : SearchAttribute where
  kind? := (items.filterMap AttributeItem.kind?).getLast?
  skip := items.any AttributeItem.skips
  rename? := (items.filterMap AttributeItem.rename?).getLast?

lemma followedBy_assoc (a b c : SearchAttribute) :
    (a.followedBy b).followedBy c = a.followedBy (b.followedBy c) := by
  simp only [followedBy,Option.or_assoc,Bool.or_assoc]

lemma empty_followedBy (b : SearchAttribute) : followedBy {} b = b := by
  simp only [followedBy,Option.or_none,Bool.false_or]

lemma followedBy_empty (a : SearchAttribute) : a.followedBy {} = a := by
  simp only [followedBy,Option.none_or,Bool.or_false]

lemma saidBy_cons (i : AttributeItem) (items : List AttributeItem) :
    saidBy (i :: items) = (single i).followedBy (saidBy items) := by
  rw [saidBy,followedBy,single,saidBy,List.any_cons,getLast?_filterMap_cons,
    getLast?_filterMap_cons]

lemma kindNamed_eq_ok_iff {name : String} {k : Kind} :
    kindNamed name = .ok k ↔ kindNamed? name = some k := by
  rw [kindNamed,kindNamed?]
  cases kindNames.lookup name <;> simp

/-- One item is taken up if it is fit, whatever has been said so far. -/
lemma add_eq_ok_iff : a.add i = .ok b ↔ i.declares = true ∧ b = a.followedBy (single i) := by
  rw [AttributeItem.declares,followedBy,single]
  rcases i with (_ | name) | _ | ⟨_ | name,_ | value⟩
  case word.some =>
    by_cases hskip : name = "skip"
    · subst hskip
      have hkind : kindNamed? "skip" = none := by decide
      simp [add,AttributeItem.skips,AttributeItem.kind?,AttributeItem.rename?,hkind,eq_comm]
    · have hbeq : (name == "skip") = false := beq_eq_false_iff_ne.2 hskip
      simp only [add,AttributeItem.skips,AttributeItem.kind?,AttributeItem.rename?,hskip,hbeq,
        if_false,map_eq_ok_iff,kindNamed_eq_ok_iff,Option.bind_some]
      cases kindNamed? name <;> simp [eq_comm]
  case assign.some.some =>
    by_cases hrename : name = "rename"
    · subst hrename
      simp [add,AttributeItem.skips,AttributeItem.kind?,AttributeItem.rename?,eq_comm]
    · by_cases hty : name = "ty"
      · subst hty
        simp only [add,AttributeItem.skips,AttributeItem.kind?,AttributeItem.rename?,hrename,
          if_false,if_true,map_eq_ok_iff,kindNamed_eq_ok_iff,Option.bind_some,Option.some.injEq]
        cases kindNamed? value <;> simp [eq_comm]
      · simp [add,AttributeItem.skips,AttributeItem.kind?,AttributeItem.rename?,hrename,hty]
  all_goals simp [add,AttributeItem.skips,AttributeItem.kind?,AttributeItem.rename?]

/-- Items are taken up after others if all of them are fit. -/
lemma foldlM_add_eq_ok_iff : items.foldlM add a = .ok b ↔
    (∀ i ∈ items, i.declares = true) ∧ b = a.followedBy (saidBy items) := by
  induction items generalizing a with
  | nil =>
    have hnil : a.followedBy (saidBy []) = a := followedBy_empty a
    rw [hnil]
    constructor
    · intro h; cases h; exact ⟨List.forall_mem_nil _,rfl⟩
    · rintro ⟨-,rfl⟩; rfl
  | cons i items ih =>
    rw [List.foldlM_cons,saidBy_cons,← followedBy_assoc,List.forall_mem_cons]
    simp only [bind_eq_ok_iff,add_eq_ok_iff,ih]
    constructor
    · rintro ⟨c,⟨hi,rfl⟩,hitems,hb⟩; exact ⟨⟨hi,hitems⟩,hb⟩
    · rintro ⟨⟨hi,hitems⟩,hb⟩; exact ⟨_,⟨hi,rfl⟩,hitems,hb⟩

lemma ofItems_eq_ok_iff :
    ofItems items = .ok a ↔ (∀ i ∈ items, i.declares = true) ∧ a = saidBy items := by
  rw [ofItems,foldlM_add_eq_ok_iff,empty_followedBy]

/-- What has been said already says all of something else. -/
structure Covers (a b : SearchAttribute) : Prop where
  kind : ∀ k, b.kind? = some k → a.kind? = some k
  skip : b.skip = true → a.skip = true
  rename : ∀ name, b.rename? = some name → a.rename? = some name

lemma followedBy_eq_left_iff : a.followedBy b = a ↔ a.Covers b := by
  have hskip : (a.skip || b.skip) = a.skip ↔ (b.skip = true → a.skip = true) := by
    cases a.skip <;> simp
  obtain ⟨kind?,skip,rename?⟩ := a
  rw [followedBy,mk.injEq,or_eq_right_iff,or_eq_right_iff,hskip]
  constructor
  · rintro ⟨hkind,hskip,hrename⟩; exact ⟨hkind,hskip,hrename⟩
  · rintro ⟨hkind,hskip,hrename⟩; exact ⟨hkind,hskip,hrename⟩

/-- Further items make no difference if they are fit and say nothing new. -/
lemma foldlM_add_eq_self_iff :
    items.foldlM add a = .ok a ↔ ∃ b, ofItems items = .ok b ∧ a.Covers b := by
  rw [foldlM_add_eq_ok_iff,eq_comm,followedBy_eq_left_iff]
  simp only [ofItems_eq_ok_iff]
  constructor
  · rintro ⟨hitems,hcovers⟩; exact ⟨_,⟨hitems,rfl⟩,hcovers⟩
  · rintro ⟨_,⟨hitems,rfl⟩,hcovers⟩; exact ⟨hitems,hcovers⟩

end SearchAttribute

/-- All the same. -/
def RoleMarker.Agree (ms : List RoleMarker) : Prop := ∀ m ∈ ms, ∀ n ∈ ms, m = n

lemma RoleMarker.agree_iff {ms : List RoleMarker} {l : RoleMarker} (hl : l ∈ ms) :
    Agree ms ↔ ∀ m ∈ ms, m = l := by
  constructor
  · intro h m hm; exact h m hm l hl
  · intro h m hm n hn; rw [h m hm,h n hn]

namespace SpecAttribute
variable {a b : SpecAttribute} {i : AttributeItem} {items : List AttributeItem}

/-- What is said first, and then second. -/
def followedBy (a b : SpecAttribute) : SpecAttribute where
  role? := b.role?.or a.role?
  rename? := b.rename?.or a.rename?

/-- What one item says. -/
def single (i : AttributeItem) : SpecAttribute := ⟨i.marker?,i.rename?⟩

/-- What a list of items says, the last one counting. -/
def saidBy (items : List AttributeItem) : SpecAttribute where
  role? := (items.filterMap AttributeItem.marker?).getLast?
  rename? := (items.filterMap AttributeItem.rename?).getLast?

lemma followedBy_assoc (a b c : SpecAttribute) :
    (a.followedBy b).followedBy c = a.followedBy (b.followedBy c) := by
  simp only [followedBy,Option.or_assoc]

lemma empty_followedBy (b : SpecAttribute) : followedBy {} b = b := by
  simp only [followedBy,Option.or_none]

lemma followedBy_empty (a : SpecAttribute) : a.followedBy {} = a := by
  simp only [followedBy,Option.none_or]

lemma saidBy_cons (i : AttributeItem) (items : List AttributeItem) :
    saidBy (i :: items) = (single i).followedBy (saidBy items) := by
  rw [saidBy,followedBy,single,saidBy,getLast?_filterMap_cons,getLast?_filterMap_cons]

/-- The roles that have been given, and those that further items give. -/
def roles (a : SpecAttribute) (items : List AttributeItem) : List RoleMarker :=
  a.role?.toList ++ items.filterMap AttributeItem.marker?

/-- A role agrees with one that has been given if it is the same. -/
lemma agree_single {m : RoleMarker} (hm : i.marker? = some m) :
    RoleMarker.Agree (a.roles [i]) ↔ a.role?.any (· != m) = false := by
  rw [roles,List.filterMap_cons_some hm,List.filterMap_nil,RoleMarker.agree_iff (l := m) (by simp)]
  cases a.role? <;> simp

lemma agree_nil : RoleMarker.Agree (a.roles []) := by
  rw [roles]
  cases a.role? <;> simp [RoleMarker.Agree]

/-- The roles agree with one more item if it agrees with those before and after. -/
lemma agree_cons : RoleMarker.Agree (a.roles (i :: items)) ↔
    RoleMarker.Agree (a.roles [i]) ∧ RoleMarker.Agree ((a.followedBy (single i)).roles items) := by
  cases hm : i.marker? with
  | none =>
    have hrole : (a.followedBy (single i)).role? = a.role? := by
      rw [followedBy,single,hm,Option.none_or]
    rw [roles,roles,roles,hrole,List.filterMap_cons_none hm,List.filterMap_cons_none hm]
    exact ⟨fun h => ⟨agree_nil,h⟩,And.right⟩
  | some m =>
    have hrole : (a.followedBy (single i)).role? = some m := by
      rw [followedBy,single,hm,Option.some_or]
    rw [roles,roles,roles,hrole,List.filterMap_cons_some hm,List.filterMap_cons_some hm,
      List.filterMap_nil,RoleMarker.agree_iff (l := m) (by simp),
      RoleMarker.agree_iff (l := m) (by simp),RoleMarker.agree_iff (l := m) (by simp)]
    simp [or_imp,forall_and]

/-- One item is taken up if it is fit and gives no second role. -/
lemma add_eq_ok_iff : a.add i = .ok b ↔
    i.specifies = true ∧ RoleMarker.Agree (a.roles [i]) ∧ b = a.followedBy (single i) := by
  rw [AttributeItem.specifies,followedBy,single]
  cases i with
  | word name? =>
    cases hm : (AttributeItem.word name?).marker? with
    | none =>
      rw [AttributeItem.marker?] at hm
      simp [add,AttributeItem.rename?,hm]
    | some m =>
      rw [agree_single hm]
      rw [AttributeItem.marker?] at hm
      simp only [add,AttributeItem.rename?,hm,Option.isSome_some,Option.isSome_none,Bool.or_false,
        Option.some_or,Option.none_or,true_and]
      cases a.role?.any (· != m) <;> simp [eq_comm]
  | assign name? value? =>
    have hagree : RoleMarker.Agree (a.roles [.assign name? value?]) := agree_nil
    by_cases hname : name? = some "rename"
    · subst hname
      cases value? <;> simp [add,hagree,AttributeItem.marker?,AttributeItem.rename?,eq_comm]
    · simp [add,hname,AttributeItem.marker?,AttributeItem.rename?]
  | list => simp [add,AttributeItem.marker?,AttributeItem.rename?]

/-- Items are taken up after others if all of them are fit and no role is given but one. -/
lemma foldlM_add_eq_ok_iff : items.foldlM add a = .ok b ↔
    (∀ i ∈ items, i.specifies = true) ∧ RoleMarker.Agree (a.roles items) ∧
      b = a.followedBy (saidBy items) := by
  induction items generalizing a with
  | nil =>
    have hnil : a.followedBy (saidBy []) = a := followedBy_empty a
    rw [hnil]
    constructor
    · intro h; cases h; exact ⟨List.forall_mem_nil _,agree_nil,rfl⟩
    · rintro ⟨-,-,rfl⟩; rfl
  | cons i items ih =>
    rw [List.foldlM_cons,saidBy_cons,← followedBy_assoc,List.forall_mem_cons]
    rw [agree_cons]
    simp only [bind_eq_ok_iff,add_eq_ok_iff,ih]
    constructor
    · rintro ⟨c,⟨hi,hagree,rfl⟩,hitems,hrest,hb⟩; exact ⟨⟨hi,hitems⟩,⟨hagree,hrest⟩,hb⟩
    · rintro ⟨⟨hi,hitems⟩,⟨hagree,hrest⟩,hb⟩; exact ⟨_,⟨hi,hagree,rfl⟩,hitems,hrest,hb⟩

lemma ofItems_eq_ok_iff : ofItems items = .ok a ↔ (∀ i ∈ items, i.specifies = true) ∧
    RoleMarker.Agree (items.filterMap AttributeItem.marker?) ∧ a = saidBy items := by
  rw [ofItems,foldlM_add_eq_ok_iff,empty_followedBy]
  rfl

/-- What has been said already says all of something else. -/
structure Covers (a b : SpecAttribute) : Prop where
  role : ∀ m, b.role? = some m → a.role? = some m
  rename : ∀ name, b.rename? = some name → a.rename? = some name

lemma followedBy_eq_left_iff : a.followedBy b = a ↔ a.Covers b := by
  obtain ⟨role?,rename?⟩ := a
  rw [followedBy,mk.injEq,or_eq_right_iff,or_eq_right_iff]
  constructor
  · rintro ⟨hrole,hrename⟩; exact ⟨hrole,hrename⟩
  · rintro ⟨hrole,hrename⟩; exact ⟨hrole,hrename⟩

/-- Roles that agree among themselves, the last of which has been given, agree with that. -/
lemma Covers.agree_iff (h : a.Covers (saidBy items)) : RoleMarker.Agree (a.roles items) ↔
    RoleMarker.Agree (items.filterMap AttributeItem.marker?) := by
  have hrole := h.role
  rw [saidBy] at hrole
  rw [roles]
  generalize items.filterMap AttributeItem.marker? = ms at hrole ⊢
  cases hlast : ms.getLast? with
  | none =>
    rw [List.getLast?_eq_none_iff.1 hlast]
    exact ⟨fun _ => agree_nil (a := {}),fun _ => agree_nil (a := a)⟩
  | some l =>
    have hl : l ∈ ms := List.mem_of_getLast? hlast
    rw [RoleMarker.agree_iff hl,RoleMarker.agree_iff (List.mem_append_right _ hl),hrole l hlast]
    simp

/-- Further items make no difference if they are fit and say nothing new. -/
lemma foldlM_add_eq_self_iff :
    items.foldlM add a = .ok a ↔ ∃ b, ofItems items = .ok b ∧ a.Covers b := by
  rw [foldlM_add_eq_ok_iff,eq_comm,followedBy_eq_left_iff]
  simp only [ofItems_eq_ok_iff]
  constructor
  · rintro ⟨hitems,hagree,hcovers⟩
    exact ⟨_,⟨hitems,hcovers.agree_iff.1 hagree,rfl⟩,hcovers⟩
  · rintro ⟨_,⟨hitems,hagree,rfl⟩,hcovers⟩
    exact ⟨hitems,hcovers.agree_iff.2 hagree,hcovers⟩

end SpecAttribute
end RecordSearch
