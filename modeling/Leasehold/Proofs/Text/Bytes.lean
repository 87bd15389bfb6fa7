/-
**The bytes of texts.**

Texts are compared character by character. Their bytes are in the same order, since of two
characters the one with the larger code has the larger byte at the first place where they differ.

* `bytes`, `bytes_eq_flatMap`: the bytes of a text, character by character;
* `longEncoding_lt`, `encoding_lt`: the larger character has the larger bytes, whatever follows;
* `bytes_lt_iff`: the order of texts is the order of their bytes.
-/

import Mathlib.Data.String.Basic

namespace Leasehold.Text

/-- The UTF-8 bytes of a text. -/
def bytes (text : String) : List UInt8 := text.toUTF8.data.toList

theorem bytes_eq_flatMap (text : String) :
    bytes text = text.toList.flatMap String.utf8EncodeChar := by
  have encoded : text.toUTF8 = text.toList.utf8Encode := by
    rw [← String.toByteArray_ofList, String.ofList_toList]
    rfl
  unfold bytes
  rw [encoded]
  exact List.toList_data_toByteArray

/-! ### Characters -/

theorem ofNat_lt {lower upper : Nat} (order : lower < upper) (fits : upper < 256) :
    UInt8.ofNat lower < UInt8.ofNat upper :=
  (UInt8.ofNat_lt_iff_lt (Nat.lt_trans order fits) fits).mpr order

/-- The four bytes of the larger character are larger: they are its digits of six bits, and two
numbers are in the order of their first digits that differ. -/
theorem longEncoding_lt {lower upper : Nat} (order : lower < upper) (most : upper < 0x200000)
    (rest others : List UInt8) :
    UInt8.ofNat (lower / 262144 % 0x08 + 0xf0) :: UInt8.ofNat (lower / 4096 % 0x40 + 0x80) ::
        UInt8.ofNat (lower / 64 % 0x40 + 0x80) :: UInt8.ofNat (lower % 0x40 + 0x80) :: rest <
      UInt8.ofNat (upper / 262144 % 0x08 + 0xf0) :: UInt8.ofNat (upper / 4096 % 0x40 + 0x80) ::
        UInt8.ofNat (upper / 64 % 0x40 + 0x80) :: UInt8.ofNat (upper % 0x40 + 0x80) :: others := by
  simp only [List.cons_lt_cons_iff]
  rcases Nat.lt_or_ge (lower / 262144) (upper / 262144) with larger | first
  · exact .inl (ofNat_lt (by omega) (by omega))
  have same : lower / 262144 = upper / 262144 := by omega
  refine .inr ⟨by rw [same], ?_⟩
  rcases Nat.lt_or_ge (lower / 4096 % 64) (upper / 4096 % 64) with larger | second
  · exact .inl (ofNat_lt (by omega) (by omega))
  have same : lower / 4096 = upper / 4096 := by omega
  refine .inr ⟨by rw [same], ?_⟩
  rcases Nat.lt_or_ge (lower / 64 % 64) (upper / 64 % 64) with larger | third
  · exact .inl (ofNat_lt (by omega) (by omega))
  have same : lower / 64 = upper / 64 := by omega
  exact .inr ⟨by rw [same], .inl (ofNat_lt (by omega) (by omega))⟩

/-- **The larger character has the larger bytes**, whatever follows them. -/
theorem encoding_lt {first second : Char} (order : first < second) (rest others : List UInt8) :
    String.utf8EncodeChar first ++ rest < String.utf8EncodeChar second ++ others := by
  have below : first.val.toNat < second.val.toNat := order
  have most : second.val.toNat < 0x110000 := by
    have valid := second.valid
    unfold UInt32.isValidChar Nat.isValidChar at valid
    omega
  unfold String.utf8EncodeChar
  dsimp only
  generalize first.val.toNat = lower at *
  generalize second.val.toNat = upper at *
  by_cases short : lower ≤ 0xffff
  · -- A longer encoding begins with a larger byte, and up to three bytes are a matter of arithmetic.
    split_ifs <;>
      simp only [List.cons_append, List.nil_append, List.cons_lt_cons_iff, UInt8.lt_iff_toNat_lt,
        UInt8.toNat_ofNat', ← UInt8.toNat_inj] <;>
      omega
  · rw [if_neg (by omega), if_neg (by omega), if_neg short, if_neg (by omega), if_neg (by omega),
      if_neg (by omega)]
    exact longEncoding_lt below (by omega) rest others

/-! ### Texts -/

theorem encodings_lt {first second : List Char} (order : first < second) :
    first.flatMap String.utf8EncodeChar < second.flatMap String.utf8EncodeChar := by
  induction first generalizing second with
  | nil =>
    cases second with
    | nil => exact absurd order (List.lt_irrefl [])
    | cons head tail =>
      obtain ⟨byte, bytes, encoded⟩ :=
        List.exists_cons_of_ne_nil (String.utf8EncodeChar_ne_nil (c := head))
      rw [List.flatMap_nil, List.flatMap_cons, encoded]
      exact List.nil_lt_cons _ _
  | cons head tail ih =>
    cases second with
    | nil => exact absurd order (List.not_lt_nil _)
    | cons other others =>
      rw [List.flatMap_cons, List.flatMap_cons]
      rcases List.cons_lt_cons_iff.mp order with smaller | ⟨rfl, rest⟩
      · exact encoding_lt smaller _ _
      · exact List.append_left_lt (ih rest)

/-- **The order of texts is the order of their bytes.** -/
theorem bytes_lt_iff {first second : String} : bytes first < bytes second ↔ first < second := by
  have keeps {first second : String} (order : first < second) : bytes first < bytes second := by
    rw [bytes_eq_flatMap, bytes_eq_flatMap]
    exact encodings_lt (String.lt_iff_toList_lt.mp order)
  refine ⟨fun order => ?_, keeps⟩
  rcases lt_trichotomy first second with smaller | rfl | larger
  · exact smaller
  · exact absurd order (List.lt_irrefl _)
  · exact absurd order (List.lt_asymm (keeps larger))

end Leasehold.Text
