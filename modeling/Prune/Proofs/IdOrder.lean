import Mathlib.Tactic.SplitIfs

/-!
# The order of ids

Modules are sorted by their ids. The sort keeps modules of one id in the order
they had, and puts all others in the order of their ids.

Ids are texts, which are compared character by character. Compared by the bytes
that stand for the characters in UTF-8 they come in the same order: of two
characters the greater one has the greater bytes, at the first byte in which the
two differ (`encode_lt`), and nothing that comes after them makes a difference.
-/

namespace Prune

/-! ## Sorting by a text -/

section

variable {α : Type} (key : α → String)

theorem key_trans (a b c : α) (hab : decide (key a ≤ key b) = true)
    (hbc : decide (key b ≤ key c) = true) : decide (key a ≤ key c) = true :=
  decide_eq_true
    (String.le_trans (of_decide_eq_true hab) (of_decide_eq_true hbc))

theorem key_total (a b : α) :
    (decide (key a ≤ key b) || decide (key b ≤ key a)) = true := by
  rw [Bool.or_eq_true, decide_eq_true_iff, decide_eq_true_iff]
  exact String.le_total (key a) (key b)

theorem pairwise_mergeSort_key (items : List α) :
    (items.mergeSort fun a b => key a ≤ key b).Pairwise fun a b =>
      key a ≤ key b :=
  (List.pairwise_mergeSort (key_trans key) (key_total key) items).imp
    of_decide_eq_true

/-- Sorting keeps the items of one key in the order they had. -/
theorem filter_mergeSort_key (items : List α) (id : String) :
    ((items.mergeSort fun a b => key a ≤ key b).filter fun item =>
      key item = id) =
        items.filter fun item => key item = id := by
  have hsame : (items.filter fun item => key item = id).Pairwise
      fun a b => decide (key a ≤ key b) = true := by
    refine List.pairwise_filter.mpr
      (List.pairwise_of_forall fun a b ha hb => ?_)
    rw [of_decide_eq_true ha, of_decide_eq_true hb]
    exact decide_eq_true (String.le_refl id)
  have hsub := (List.sublist_mergeSort (key_trans key) (key_total key) hsame
    List.filter_sublist).filter fun item => key item = id
  rw [List.filter_filter] at hsub
  simp only [Bool.and_self] at hsub
  exact (hsub.eq_of_length
    ((List.mergeSort_perm _ _).filter _).length_eq.symm).symm

end

/-! ## Comparing by bytes -/

namespace Text

/-- The bytes of a text. -/
def bytes (text : String) : List UInt8 := text.toUTF8.data.toList

theorem bytes_eq (text : String) :
    bytes text = text.toList.flatMap String.utf8EncodeChar := by
  rw [bytes, String.toUTF8_eq_toByteArray, ← String.utf8Encode_toList,
    List.utf8Encode, List.toList_data_toByteArray]

theorem encode_lt {c d : Char} (h : c < d) (rest other : List UInt8) :
    String.utf8EncodeChar c ++ rest < String.utf8EncodeChar d ++ other := by
  have hlt : c.val.toNat < d.val.toNat := h
  have hmax : d.val.toNat < 0x110000 := by
    rcases d.valid with hlow | hhigh
    · exact Nat.lt_trans hlow (by decide)
    · exact hhigh.2
  rw [String.utf8EncodeChar, String.utf8EncodeChar]
  generalize c.val.toNat = v at hlt ⊢
  generalize d.val.toNat = w at hlt hmax ⊢
  -- One case for each pair of lengths; with one length the bytes are digits,
  -- the highest first.
  split_ifs <;>
    simp only [List.cons_append, List.nil_append, List.cons_lt_cons_iff,
      UInt8.lt_iff_toNat_lt, ← UInt8.toNat_inj, UInt8.toNat_ofNat'] <;>
    simp (disch := omega) only [Nat.mod_eq_of_lt] <;>
    omega

theorem flatMap_encode_lt {cs ds : List Char} (h : cs < ds) :
    cs.flatMap String.utf8EncodeChar < ds.flatMap String.utf8EncodeChar := by
  induction h with
  | nil =>
      rename_i d ds
      rw [List.flatMap_nil, List.flatMap_cons]
      cases hbytes : String.utf8EncodeChar d with
      | nil => exact absurd hbytes String.utf8EncodeChar_ne_nil
      | cons byte bytes => exact List.nil_lt_cons _ _
  | rel hlt => exact encode_lt hlt _ _
  | cons _ ih => exact List.append_left_lt ih

theorem bytes_lt_of_lt {one other : String} (h : one < other) :
    bytes one < bytes other := by
  rw [bytes_eq, bytes_eq]
  exact flatMap_encode_lt h

end Text

end Prune
