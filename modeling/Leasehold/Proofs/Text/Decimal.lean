/-
**Numbers are read back from their digits.**

* `IsOffDigits`: a text goes on without a digit;
* `spanDigits_append`: the digits at the front of a text are taken, and no more;
* `digitsValue_padded`: the digits of a padded number have its value;
* `takeNumber_padded`: a padded number is taken from the front of a text.
-/

import Mathlib.Algebra.Order.Ring.Nat
import Leasehold.Text.Digits

namespace Leasehold.Text

/-- A text that does not begin with a digit. -/
def IsOffDigits (text : List Char) : Prop := ∀ first ∈ text.head?, first.isDigit = false

theorem isOffDigits_nil : IsOffDigits [] := nofun

theorem isOffDigits_cons {first : Char} (rest : List Char) (other : first.isDigit = false) :
    IsOffDigits (first :: rest) := by
  rintro _ ⟨⟩
  exact other

/-- Digits are taken up to the end of them. -/
theorem takeWhile_digits {digits rest : List Char} (all : ∀ digit ∈ digits, digit.isDigit = true)
    (ends : IsOffDigits rest) : (digits ++ rest).takeWhile Char.isDigit = digits := by
  rw [List.takeWhile_append_of_pos all]
  cases rest with
  | nil => simp
  | cons first rest => simp [ends first rfl]

/-- Digits are skipped up to the end of them. -/
theorem dropWhile_digits {digits rest : List Char} (all : ∀ digit ∈ digits, digit.isDigit = true)
    (ends : IsOffDigits rest) : (digits ++ rest).dropWhile Char.isDigit = rest := by
  rw [List.dropWhile_append_of_pos all]
  cases rest with
  | nil => rfl
  | cons first rest => simp [ends first rfl]

/-- Digits at the front of a text are taken, if they are as many as may be or no digit follows. -/
theorem spanDigits_append {limit : Nat} {digits rest : List Char}
    (all : ∀ digit ∈ digits, digit.isDigit = true)
    (ends : digits.length = limit ∨ digits.length ≤ limit ∧ IsOffDigits rest) :
    spanDigits limit (digits ++ rest) = (digits, rest) := by
  have taken : ((digits ++ rest).take limit).takeWhile Char.isDigit = digits := by
    rcases ends with rfl | ⟨fits, off⟩
    · rw [List.take_left]
      simpa using takeWhile_digits all isOffDigits_nil
    · rw [List.take_append, List.take_of_length_le fits]
      refine takeWhile_digits all fun first begins => ?_
      cases rest with
      | nil => simp at begins
      | cons other rest =>
        cases size : limit - digits.length with
        | zero => simp [size] at begins
        | succ _ =>
          rw [size] at begins
          exact off first begins
  unfold spanDigits
  simp [taken]

/-! ### Values -/

theorem digitsValue_eq (digits : List Char) :
    digitsValue digits = Nat.ofDigitChars 10 digits 0 := by
  unfold digitsValue Nat.ofDigitChars
  simp only [Nat.mul_comm]

/-- The digits of a number have its value. -/
theorem toList_padded (width number : Nat) : (padded width number).toList =
    List.replicate (width - (Nat.toDigits 10 number).length) '0' ++ Nat.toDigits 10 number := by
  unfold padded
  simp [← String.length_toList]

/-- Zeros in front of a number change nothing. -/
theorem digitsValue_padded (width number : Nat) :
    digitsValue (padded width number).toList = number := by
  rw [toList_padded, digitsValue_eq, Nat.ofDigitChars_append, Nat.ofDigitChars_replicate_zero,
    Nat.mul_zero, Nat.ofDigitChars_ten_toDigits]

theorem isDigit_padded {width number : Nat} :
    ∀ digit ∈ (padded width number).toList, digit.isDigit = true := by
  intro digit listed
  rw [toList_padded] at listed
  rcases List.mem_append.mp listed with zero | digits
  · rw [List.eq_of_mem_replicate zero]
    rfl
  · exact Nat.isDigit_of_mem_toDigits (by decide) (by decide) digits

theorem padded_ne_nil (width number : Nat) : (padded width number).toList ≠ [] := by
  rw [toList_padded]
  simp

/-- A number that fits has just so many digits. -/
theorem length_padded {width number : Nat} (some : 0 < width) (fits : number < 10 ^ width) :
    (padded width number).toList.length = width := by
  have short := (Nat.length_toDigits_le_iff (by decide) some).mpr fits
  rw [toList_padded, List.length_append, List.length_replicate]
  omega

theorem takeNumber_of_span {limit : Nat} {digits rest : List Char} (some : digits ≠ [])
    {text : List Char} (span : spanDigits limit text = (digits, rest)) :
    takeNumber limit text = .some (digitsValue digits, rest) := by
  unfold takeNumber
  rw [span]
  cases digits with
  | nil => exact absurd rfl some
  | cons first others => rfl

/-- **A padded number is read back**, if its digits are as many as may be or no digit follows. -/
theorem takeNumber_padded {limit width number : Nat} {rest : List Char}
    (ends : (padded width number).toList.length = limit ∨
      (padded width number).toList.length ≤ limit ∧ IsOffDigits rest) :
    takeNumber limit ((padded width number).toList ++ rest) = some (number, rest) := by
  rw [takeNumber_of_span (padded_ne_nil width number) (spanDigits_append isDigit_padded ends),
    digitsValue_padded]

/-- Digits have a value of no more digits. -/
theorem digitsValue_lt {digits : List Char} (all : ∀ digit ∈ digits, digit.isDigit = true) :
    digitsValue digits < 10 ^ digits.length := by
  rw [digitsValue_eq]
  induction digits with
  | nil => simp
  | cons first rest ih =>
    have below := ih fun digit listed => all digit (List.mem_cons_of_mem _ listed)
    obtain ⟨lower, upper⟩ := Char.isDigit_iff_toNat.mp (all first List.mem_cons_self)
    rw [Nat.ofDigitChars_cons, Nat.ofDigitChars_eq_ofDigitChars_zero, List.length_cons,
      Nat.pow_succ]
    have upper : first.toNat ≤ 57 := upper
    have digit : first.toNat - '0'.toNat ≤ 9 := by
      show first.toNat - 48 ≤ 9
      omega
    have := Nat.mul_le_mul_left (10 ^ rest.length) digit
    rw [Nat.mul_zero, Nat.zero_add]
    omega

/-- At most so many digits are taken. -/
theorem spanDigits_taken {limit : Nat} {text digits rest : List Char}
    (span : spanDigits limit text = (digits, rest)) :
    (∀ digit ∈ digits, digit.isDigit = true) ∧ digits.length ≤ limit := by
  unfold spanDigits at span
  cases span
  exact ⟨List.all_eq_true.mp List.all_takeWhile,
    Nat.le_trans (List.takeWhile_prefix _).length_le (List.length_take_le _ _)⟩

end Leasehold.Text
