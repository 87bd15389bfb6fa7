/-
**Scalars are read back from their texts.**

A string is escaped character by character, and each escape is read as its character. A whole number
of 64 bits has the digits that are read.

* `stringFrom?_escape`, `string?_escapes`: escapes are read back;
* `EndsNumber`: what may follow a number;
* `number?_whole`: whole numbers are read back.
-/

import Leasehold.Json.Reader
import Leasehold.Json.Writer
import Leasehold.Proofs.Text.Decimal

namespace Leasehold

namespace Json

open Text Reader

/-! ### Strings -/

/-- The escapes of a text. -/
def escapes (text : List Char) : List Char :=
  text.flatMap fun character => (escape character).toList

theorem toList_quoted (value : String) :
    (quoted value).toList = '"' :: (escapes value.toList ++ ['"']) := by
  have written : ∀ (text : List Char) (before : String),
      (text.foldl (fun written character => written ++ escape character) before).toList =
        before.toList ++ escapes text := by
    intro text
    induction text with
    | nil => exact fun before => (List.append_nil _).symm
    | cons character rest ih =>
      intro before
      rw [List.foldl_cons, ih, String.toList_append, escapes, escapes, List.flatMap_cons,
        List.append_assoc]
  have quote : "\"".toList = ['"'] := rfl
  rw [quoted, String.toList_append, String.foldl_eq_foldl_toList, written, quote]
  rfl

/-- The hexadecimal digits of a control character are its code. -/
theorem codeUnit?_hexDigit : ∀ code < 0x20,
    codeUnit? '0' '0' (hexDigit (code / 16)) (hexDigit (code % 16)) = some code := by
  decide

/-- **An escape is read as its character.** -/
theorem stringFrom?_escape (read : List Char) (character : Char) (rest : List Char) :
    stringFrom? read ((escape character).toList ++ rest) =
      stringFrom? (character :: read) rest := by
  unfold escape
  split
  · simp [stringFrom?, escaped?]
  · simp [stringFrom?, escaped?]
  · simp [stringFrom?, escaped?]
  · simp [stringFrom?, escaped?]
  · simp [stringFrom?, escaped?]
  · simp [stringFrom?, escaped?]
  · simp [stringFrom?, escaped?]
  next noQuote noBackslash _ _ _ _ _ =>
    split
    · next control =>
      have code := codeUnit?_hexDigit character.toNat control
      have noHigh : ¬(0xDC00 ≤ character.toNat ∧ character.toNat ≤ 0xDFFF) := by omega
      have noLow : ¬(0xD800 ≤ character.toNat ∧ character.toNat ≤ 0xDBFF) := by omega
      have start : "\\u00".toList = ['\\', 'u', '0', '0'] := rfl
      rw [String.toList_append, start]
      simp only [String.toList_ofList, List.cons_append, List.nil_append]
      rw [stringFrom?, code]
      simp only [if_neg noHigh, if_neg noLow, Char.ofNat_toNat]
    · next plain =>
      have printable : ¬(character.toNat < 0x20 ∨ character = '\\') := by
        rintro (control | backslash)
        · exact plain control
        · exact noBackslash backslash
      simp only [String.toList_singleton, List.singleton_append]
      rw [stringFrom?, if_neg printable]
      · exact noQuote
      · exact fun _ _ _ _ _ backslash _ => noBackslash backslash
      · exact fun _ _ backslash _ => noBackslash backslash

/-- **A string is read back.** -/
theorem string?_escapes (value : String) (rest : List Char) :
    string? (escapes value.toList ++ '"' :: rest) = some (value, rest) := by
  have reads : ∀ (text read : List Char), stringFrom? read (escapes text ++ '"' :: rest) =
      some (String.ofList (read.reverse ++ text), rest) := by
    intro text
    induction text with
    | nil =>
      intro read
      simp [escapes, stringFrom?]
    | cons character later ih =>
      intro read
      rw [escapes, List.flatMap_cons, List.append_assoc, stringFrom?_escape, ← escapes, ih]
      simp
  rw [string?, reads]
  simp

/-! ### Whole numbers -/

/-- A text that does not go on with a number. -/
def EndsNumber (text : List Char) : Prop :=
  ∀ first ∈ text.head?, first.isDigit = false ∧ first ∉ ['.', 'e', 'E', '+', '-']

theorem endsNumber_nil : EndsNumber [] := nofun

theorem EndsNumber.ne_cons {text : List Char} (ends : EndsNumber text) {character : Char}
    (belongs : character ∈ ['.', 'e', 'E', '+', '-']) (rest : List Char) :
    text ≠ character :: rest := by
  rintro rfl
  exact (ends character rfl).2 belongs

theorem EndsNumber.isOffDigits {text : List Char} (ends : EndsNumber text) : IsOffDigits text :=
  fun first begins => (ends first begins).1

theorem startsWithDigit_of_isOffDigits {text : List Char} (off : IsOffDigits text) :
    startsWithDigit text = false := by
  cases text with
  | nil => rfl
  | cons first rest => exact off first rfl

/-- A significand grows by all digits, if they fit. -/
theorem growSignificand_digits {digits rest : List Char} {significand : Nat}
    (all : ∀ digit ∈ digits, digit.isDigit = true) (off : IsOffDigits rest)
    (fits : Nat.ofDigitChars 10 digits significand < UInt64.size) :
    growSignificand significand (digits ++ rest) =
      (Nat.ofDigitChars 10 digits significand, digits.length, rest) := by
  induction digits generalizing significand with
  | nil =>
    cases rest with
    | nil => rfl
    | cons first rest =>
      have other : digitValue? first = none := if_neg (by simp [off first rfl])
      rw [List.nil_append, growSignificand, other]
      rfl
  | cons digit digits ih =>
    have value : digitValue? digit = some (digit.toNat - '0'.toNat) :=
      if_pos (all digit List.mem_cons_self)
    rw [Nat.ofDigitChars_cons, Nat.mul_comm] at fits
    have small : significand * 10 + (digit.toNat - '0'.toNat) < UInt64.size := by
      rw [Nat.ofDigitChars_eq_ofDigitChars_zero] at fits
      have grows := Nat.le_mul_of_pos_left (significand * 10 + (digit.toNat - '0'.toNat))
        (show 0 < 10 ^ digits.length from Nat.pow_pos (by decide))
      omega
    rw [List.cons_append, growSignificand, value]
    dsimp only
    rw [if_pos small, ih (fun other listed => all other (List.mem_cons_of_mem _ listed)) fits,
      Nat.ofDigitChars_cons, Nat.mul_comm 10]
    rfl

/-- A number but zero does not begin with a zero. -/
theorem head_toDigits {number : Nat} (positive : 0 < number) :
    ∃ first rest, Nat.toDigits 10 number = first :: rest ∧ first ≠ '0' := by
  induction number using Nat.strongRecOn with
  | ind number ih =>
    by_cases short : number < 10
    · refine ⟨number.digitChar, [], Nat.toDigits_of_lt_base short, ?_⟩
      simp
      omega
    · obtain ⟨first, rest, begins, other⟩ := ih (number / 10) (by omega) (by omega)
      rw [Nat.toDigits_of_base_le (by decide) (by omega), begins]
      exact ⟨first, _, List.cons_append, other⟩

/-- After the digits of a whole number nothing else belongs to it. -/
theorem afterWhole?_of_endsNumber {negative : Bool} {number : Nat} {rest : List Char}
    (ends : EndsNumber rest)
    (fits : if negative then 1 ≤ number ∧ number ≤ 0x8000000000000000 else True) :
    afterWhole? negative number rest =
      some (.whole (if negative then -number else number), rest) := by
  unfold afterWhole?
  split
  · exact absurd rfl (ends.ne_cons (by decide) _)
  · exact absurd rfl (ends.ne_cons (by decide) _)
  · exact absurd rfl (ends.ne_cons (by decide) _)
  · cases negative with
    | false => rfl
    | true => simp [show 1 ≤ number ∧ number ≤ 0x8000000000000000 from fits]

/-- The digits of a whole number are read back. -/
theorem magnitude?_digits {negative : Bool} {number : Nat} {rest : List Char}
    (ends : EndsNumber rest) (small : number < UInt64.size)
    (fits : if negative then 1 ≤ number ∧ number ≤ 0x8000000000000000 else True) :
    magnitude? negative (Nat.toDigits 10 number ++ rest) =
      some (.whole (if negative then -number else number), rest) := by
  have off := startsWithDigit_of_isOffDigits ends.isOffDigits
  have whole := afterWhole?_of_endsNumber ends fits
  rcases Nat.eq_zero_or_pos number with rfl | positive
  · rw [Nat.toDigits_zero, List.singleton_append, magnitude?, off, if_neg Bool.false_ne_true]
    exact whole
  · obtain ⟨first, others, begins, other⟩ := head_toDigits positive
    have grows : growSignificand 0 (Nat.toDigits 10 number ++ rest) =
        (number, (Nat.toDigits 10 number).length, rest) := by
      rw [growSignificand_digits (fun digit => Nat.isDigit_of_mem_toDigits (by decide) (by decide))
        ends.isOffDigits (by rwa [Nat.ofDigitChars_ten_toDigits]), Nat.ofDigitChars_ten_toDigits]
    rw [begins, List.cons_append] at grows ⊢
    unfold magnitude?
    split
    · next same => exact absurd (List.cons.inj same).1 other
    · rw [grows]
      dsimp only
      have some : ¬(first :: others).length = 0 := Nat.succ_ne_zero _
      rw [if_neg some, off, if_neg Bool.false_ne_true]
      exact whole

/-- **A whole number of 64 bits is read back.** -/
theorem number?_whole {number : Int} {rest : List Char} (ends : EndsNumber rest)
    (lower : -0x8000000000000000 ≤ number) (upper : number < 0x10000000000000000) :
    number? ((toString number).toList ++ rest) = some (.whole number, rest) := by
  cases number with
  | ofNat number =>
    have digits : (toString (Int.ofNat number)).toList = Nat.toDigits 10 number := Nat.toList_repr
    have small : number < UInt64.size := Int.ofNat_lt.mp upper
    have read : magnitude? false (Nat.toDigits 10 number ++ rest) = some (.whole number, rest) :=
      magnitude?_digits ends small trivial
    rw [digits]
    unfold number?
    split
    · next begins =>
      cases shown : Nat.toDigits 10 number with
      | nil => exact absurd shown Nat.toDigits_ne_nil
      | cons first others =>
        have digit : first.isDigit = true := Nat.isDigit_of_mem_toDigits (by decide) (by decide)
          (shown ▸ List.mem_cons_self : first ∈ Nat.toDigits 10 number)
        rw [shown] at begins
        cases begins
        cases digit
    · exact read
  | negSucc number =>
    have digits : (toString (Int.negSucc number)).toList =
        '-' :: Nat.toDigits 10 (number + 1) := by
      show ("-" ++ Nat.repr (number + 1)).toList = _
      rw [String.toList_append, Nat.toList_repr]
      rfl
    have few : number + 1 ≤ 0x8000000000000000 := by omega
    have small : number + 1 < UInt64.size := Nat.lt_of_le_of_lt few (by decide)
    have read : magnitude? true (Nat.toDigits 10 (number + 1) ++ rest) =
        some (.whole (-((number + 1 : Nat) : Int)), rest) :=
      magnitude?_digits ends small ⟨Nat.le_add_left _ _, few⟩
    rw [digits]
    exact read

end Json

end Leasehold
