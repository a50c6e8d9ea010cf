import Mathlib.Data.String.Basic
import Mathlib.Tactic.Common
import RecordSearch.Predicate

/-! The order of names. Names are compared character by character, and the main statement is that
this is the order of their bytes in UTF-8. A list that names are inserted into stays ascending in
it. -/
namespace RecordSearch

namespace Text

/-- The bytes of a text in UTF-8. -/
def octets (s : String) : List UInt8 := s.toUTF8.data.toList

lemma octets_eq_flatMap (s : String) : octets s = s.toList.flatMap String.utf8EncodeChar := by
  have h := String.toByteArray_ofList (l := s.toList)
  rw [String.ofList_toList] at h
  rw [octets,String.toUTF8,h]
  exact List.toList_data_toByteArray

lemma byte_lt_byte_iff {m n : Nat} (hm : m < 256) (hn : n < 256) :
    UInt8.ofNat m < UInt8.ofNat n ↔ m < n := by
  rw [UInt8.lt_iff_toNat_lt,UInt8.toNat_ofNat_of_lt' hm,UInt8.toNat_ofNat_of_lt' hn]

lemma byte_eq_byte_iff {m n : Nat} (hm : m < 256) (hn : n < 256) :
    UInt8.ofNat m = UInt8.ofNat n ↔ m = n := by
  rw [← UInt8.toNat_inj,UInt8.toNat_ofNat_of_lt' hm,UInt8.toNat_ofNat_of_lt' hn]

/-- The lesser of two numbers has the lesser digits in front of the last one, or the same digits
there and the lesser one at the end. -/
lemma digits_lt {m n : Nat} (h : m < n) : m/64 < n/64 ∨ m/64 = n/64 ∧ m%64 < n%64 := by omega

/-- The bytes of the lesser character come first, whatever follows. -/
lemma utf8EncodeChar_append_lt {c d : Char} (h : c < d) (u v : List UInt8) :
    String.utf8EncodeChar c ++ u < String.utf8EncodeChar d ++ v := by
  have hlt : c.val.toNat < d.val.toNat := h
  have hbound : d.val.toNat < 1114112 := by
    obtain low | ⟨-,high⟩ := d.valid
    · exact Nat.lt_trans low (by decide)
    · exact high
  simp only [String.utf8EncodeChar]
  generalize c.val.toNat = m at hlt
  generalize d.val.toNat = n at hlt hbound
  -- Encodings of the same length are compared digit by digit. A longer one has the greater lead.
  have h₀ := digits_lt hlt
  have h₁ := @digits_lt (m/64) (n/64)
  have h₂ := @digits_lt (m/4096) (n/4096)
  simp only [Nat.div_div_eq_div_mul,Nat.reduceMul] at h₁ h₂
  split_ifs <;> simp (disch := omega) only [List.cons_append,List.nil_append,List.cons_lt_cons_iff,
    byte_lt_byte_iff,byte_eq_byte_iff,Nat.mod_eq_of_lt] <;> omega

lemma flatMap_utf8EncodeChar_lt {cs ds : List Char} (h : cs < ds) :
    cs.flatMap String.utf8EncodeChar < ds.flatMap String.utf8EncodeChar := by
  induction cs generalizing ds with
  | nil =>
    cases ds with
    | nil => cases h
    | cons d ds =>
      rw [List.flatMap_nil,List.flatMap_cons]
      cases hd : String.utf8EncodeChar d with
      | nil => simp [String.utf8EncodeChar_ne_nil] at hd
      | cons b bs => exact .nil
  | cons c cs ih =>
    cases ds with
    | nil => cases h
    | cons d ds =>
      rw [List.flatMap_cons,List.flatMap_cons]
      obtain hlt | ⟨rfl,hrest⟩ := List.cons_lt_cons_iff.1 h
      · exact utf8EncodeChar_append_lt hlt _ _
      · exact List.append_left_lt (ih hrest)

/-- Texts are ordered as their bytes are. -/
theorem octets_lt_octets_iff (s t : String) : octets s < octets t ↔ s < t := by
  have hmono : ∀ s t : String, s < t → octets s < octets t := by
    intro s t h
    rw [octets_eq_flatMap,octets_eq_flatMap]
    exact flatMap_utf8EncodeChar_lt (String.lt_iff_toList_lt.1 h)
  refine ⟨?_,hmono s t⟩
  intro h
  obtain hst | rfl | hts := lt_trichotomy s t
  · exact hst
  · exact absurd h (List.lt_irrefl _)
  · exact absurd (hmono t s hts) (List.lt_asymm h)

end Text

namespace Predicate

/-- Names in ascending order, each once. -/
def Ascending (names : List String) : Prop := names.Pairwise (· < ·)

lemma mem_insertName {name other : String} {names : List String} :
    name ∈ insertName other names ↔ name = other ∨ name ∈ names := by
  induction names with
  | nil => simp [insertName]
  | cons head names ih =>
    rw [insertName]
    cases h : Ord.compare other head with
    | lt => simp
    | eq =>
      obtain rfl := Std.LawfulEqCmp.eq_of_compare h
      simp
    | gt =>
      simp only [List.mem_cons,ih]
      tauto

lemma Ascending.insertName {names : List String} (h : Ascending names) (name : String) :
    Ascending (insertName name names) := by
  induction names with
  | nil => exact List.pairwise_singleton _ _
  | cons head names ih =>
    obtain ⟨hhead,hnames⟩ := List.pairwise_cons.1 h
    rw [Predicate.insertName]
    cases hc : Ord.compare name head with
    | lt =>
      have hlt : name < head := Std.LawfulLTCmp.eq_lt_iff_lt.1 hc
      refine List.pairwise_cons.2 ⟨?_,h⟩
      intro other hother
      obtain rfl | hmem := List.mem_cons.1 hother
      · exact hlt
      · exact lt_trans hlt (hhead other hmem)
    | eq => exact h
    | gt =>
      have hlt : head < name := Std.LawfulLTCmp.eq_lt_iff_lt.1 (Std.OrientedCmp.gt_iff_lt.1 hc)
      refine List.pairwise_cons.2 ⟨?_,ih hnames⟩
      intro other hother
      obtain rfl | hmem := mem_insertName.1 hother
      · exact hlt
      · exact hhead other hmem

end Predicate
end RecordSearch
