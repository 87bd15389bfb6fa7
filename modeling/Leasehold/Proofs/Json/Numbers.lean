/-
**Numbers as their texts are read.**

The text of a number is read to its end or not at all, and what follows it changes nothing. The
number that is read need not be the one that was written.

* `number?_append`: what follows a number does not change it;
* `IsNumeral`, `number?_of_isNumeral`: numerals are read to their ends, or not at all;
* `isNumeral_numberText`: numbers are written as numerals;
* `Number.reread?`: what the text of a number is read as, if it is read;
* `number?_numberText`: the same within another text.
-/

import Leasehold.Proofs.Json.Scalar

namespace Leasehold

namespace Json

open Text Reader

/-! ### What follows a number -/

/-- Neither a text nor what follows it begins with a character. -/
theorem ne_cons_append {character : Char} {text following : List Char}
    (noText : ∀ rest, text ≠ character :: rest)
    (noFollowing : ∀ rest, following ≠ character :: rest) (rest : List Char) :
    text ++ following ≠ character :: rest := by
  cases text with
  | nil => exact noFollowing rest
  | cons first others =>
    intro same
    cases same
    exact noText others rfl

theorem drop_takeWhile_append (text following : List Char) :
    (text ++ following).drop (text.takeWhile Char.isDigit).length =
      text.drop (text.takeWhile Char.isDigit).length ++ following :=
  List.drop_append_of_le_length (List.takeWhile_prefix _).length_le

/-- What was read, with more of the text left. -/
def leaving (following : List Char) (found : Number × List Char) : Number × List Char :=
  (found.1, found.2 ++ following)

section Following

variable {negative : Bool} {following : List Char} (ends : EndsNumber following)

include ends

theorem startsWithDigit_append (text : List Char) :
    startsWithDigit (text ++ following) = startsWithDigit text := by
  cases text with
  | nil => exact startsWithDigit_of_isOffDigits ends.isOffDigits
  | cons first rest => rfl

theorem takeWhile_append_following (text : List Char) :
    (text ++ following).takeWhile Char.isDigit = text.takeWhile Char.isDigit := by
  induction text with
  | nil => simpa using takeWhile_digits (List.forall_mem_nil _) ends.isOffDigits
  | cons first rest ih => simp only [List.cons_append, List.takeWhile_cons, ih]

theorem dropWhile_append_following (text : List Char) :
    (text ++ following).dropWhile Char.isDigit = text.dropWhile Char.isDigit ++ following := by
  induction text with
  | nil =>
    cases following with
    | nil => rfl
    | cons first rest => simp [(ends first rfl).1]
  | cons first rest ih =>
    simp only [List.cons_append, List.dropWhile_cons, ih]
    split <;> rfl

theorem growSignificand_append (significand : Nat) (text : List Char) :
    growSignificand significand (text ++ following) =
      ((growSignificand significand text).1, (growSignificand significand text).2.1,
        (growSignificand significand text).2.2 ++ following) := by
  induction text generalizing significand with
  | nil =>
    cases following with
    | nil => rfl
    | cons first rest =>
      have other : digitValue? first = none := if_neg (by simp [(ends first rfl).1])
      show growSignificand significand (first :: rest) = (significand, 0, first :: rest)
      rw [growSignificand, other]
  | cons first rest ih =>
    rw [List.cons_append, growSignificand, growSignificand]
    cases digitValue? first with
    | none => rfl
    | some digit =>
      dsimp only
      split
      · rw [ih]
      · rfl

theorem exponentSize?_append (significand : Nat) (start : Int) (down : Bool) (text : List Char) :
    exponentSize? negative significand start down (text ++ following) =
      (exponentSize? negative significand start down text).map (leaving following) := by
  unfold exponentSize?
  simp only [takeWhile_append_following ends, drop_takeWhile_append]
  by_cases none : text.takeWhile Char.isDigit = []
  · rw [if_pos none, if_pos none]
    rfl
  rw [if_neg none, if_neg none]
  by_cases small : digitsValue (text.takeWhile Char.isDigit) < 0x80000000
  · rw [if_pos small, if_pos small, Option.map_map]
    rfl
  rw [if_neg small, if_neg small]
  by_cases large : significand ≠ 0 ∧ ¬down = true
  · rw [if_pos large, if_pos large]
    rfl
  · rw [if_neg large, if_neg large]
    rfl

theorem exponent?_append (significand : Nat) (start : Int) (text : List Char) :
    exponent? negative significand start (text ++ following) =
      (exponent? negative significand start text).map (leaving following) := by
  rw [exponent?.eq_def negative significand start text]
  split
  · exact exponentSize?_append ends significand start false _
  · exact exponentSize?_append ends significand start true _
  · next noPlus noMinus =>
    rw [exponent?]
    · exact exponentSize?_append ends significand start false text
    · exact ne_cons_append noPlus (ends.ne_cons (by decide))
    · exact ne_cons_append noMinus (ends.ne_cons (by decide))

theorem afterDigits?_append (significand : Nat) (exponent : Int) (text : List Char) :
    afterDigits? negative significand exponent (text ++ following) =
      (afterDigits? negative significand exponent text).map (leaving following) := by
  rw [afterDigits?.eq_def negative significand exponent text]
  split
  · exact exponent?_append ends significand exponent _
  · exact exponent?_append ends significand exponent _
  · next noLower noUpper =>
    rw [afterDigits?, Option.map_map]
    · rfl
    · exact ne_cons_append noLower (ends.ne_cons (by decide))
    · exact ne_cons_append noUpper (ends.ne_cons (by decide))

theorem decimals?_append (significand dropped : Nat) (text : List Char) :
    decimals? negative significand dropped (text ++ following) =
      (decimals? negative significand dropped text).map (leaving following) := by
  unfold decimals?
  rw [growSignificand_append ends]
  dsimp only
  rw [startsWithDigit_append ends, dropWhile_append_following ends]
  split
  · exact afterDigits?_append ends _ _ _
  · split
    · rfl
    · exact afterDigits?_append ends _ _ _

theorem afterWhole?_append (significand : Nat) (text : List Char) :
    afterWhole? negative significand (text ++ following) =
      (afterWhole? negative significand text).map (leaving following) := by
  rw [afterWhole?.eq_def negative significand text]
  split
  · exact decimals?_append ends significand 0 _
  · exact exponent?_append ends significand 0 _
  · exact exponent?_append ends significand 0 _
  · next noPoint noLower noUpper =>
    rw [afterWhole?]
    · by_cases positive : ¬negative = true
      · rw [if_pos positive, if_pos positive]
        rfl
      rw [if_neg positive, if_neg positive]
      by_cases fits : 1 ≤ significand ∧ significand ≤ 0x8000000000000000
      · rw [if_pos fits, if_pos fits]
        rfl
      · rw [if_neg fits, if_neg fits, Option.map_map]
        rfl
    · exact ne_cons_append noPoint (ends.ne_cons (by decide))
    · exact ne_cons_append noLower (ends.ne_cons (by decide))
    · exact ne_cons_append noUpper (ends.ne_cons (by decide))

theorem magnitude?_append (text : List Char) :
    magnitude? negative (text ++ following) =
      (magnitude? negative text).map (leaving following) := by
  rw [magnitude?.eq_def negative text]
  split
  · next rest =>
    rw [List.cons_append, magnitude?, startsWithDigit_append ends]
    split
    · rfl
    · exact afterWhole?_append ends 0 rest
  · next noZero =>
    have noZero : ∀ rest, text ++ following ≠ '0' :: rest := by
      refine ne_cons_append noZero ?_
      rintro rest rfl
      cases (ends '0' rfl).1
    rw [magnitude?, growSignificand_append ends]
    · dsimp only
      rw [startsWithDigit_append ends, takeWhile_append_following ends, drop_takeWhile_append]
      split
      · rfl
      split
      · generalize (growSignificand 0 text).2.2.drop _ = left
        split
        · next same =>
          cases left with
          | nil => exact absurd same (ends.ne_cons (by decide) _)
          | cons first others =>
            cases same
            exact decimals?_append ends _ _ others
        · next noPoint =>
          split
          · next others => exact absurd rfl (noPoint (others ++ following))
          · exact afterDigits?_append ends _ _ left
      · exact afterWhole?_append ends _ _
    · exact noZero

/-- **What follows a number does not change it.** -/
theorem number?_append (text : List Char) :
    number? (text ++ following) = (number? text).map (leaving following) := by
  rw [number?.eq_def text]
  split
  · exact magnitude?_append ends _
  · next noSign =>
    rw [number?]
    · exact magnitude?_append ends text
    · exact ne_cons_append noSign (ends.ne_cons (by decide))

end Following

/-! ### Numerals -/

/-- Nothing but digits. -/
def IsDigits (text : List Char) : Prop := ∀ digit ∈ text, digit.isDigit = true

theorem IsDigits.of_cons {first : Char} {rest : List Char} (all : IsDigits (first :: rest)) :
    IsDigits rest :=
  fun digit listed => all digit (List.mem_cons_of_mem _ listed)

/-- Nothing, or an exponent. -/
inductive IsPower : List Char → Prop
  | none : IsPower []
  | up {digits : List Char} (all : IsDigits digits) : IsPower ('e' :: digits)
  | down {digits : List Char} (all : IsDigits digits) : IsPower ('e' :: '-' :: digits)

/-- What may follow the digits of a whole number. -/
inductive IsTail : List Char → Prop
  | power {text : List Char} (power : IsPower text) : IsTail text
  | point {digits text : List Char} (all : IsDigits digits) (power : IsPower text) :
    IsTail ('.' :: (digits ++ text))

/-- The text of a number. -/
inductive IsNumeral : List Char → Prop
  | plain {whole text : List Char} (all : IsDigits whole) (some : whole ≠ []) (tail : IsTail text) :
    IsNumeral (whole ++ text)
  | minus {whole text : List Char} (all : IsDigits whole) (some : whole ≠ []) (tail : IsTail text) :
    IsNumeral ('-' :: (whole ++ text))

theorem IsPower.isOffDigits {text : List Char} (power : IsPower text) : IsOffDigits text := by
  cases power with
  | none => exact isOffDigits_nil
  | up _ | down _ => exact isOffDigits_cons _ rfl

theorem IsTail.isOffDigits {text : List Char} (tail : IsTail text) : IsOffDigits text := by
  cases tail with
  | power power => exact power.isOffDigits
  | point _ _ => exact isOffDigits_cons _ rfl

/-- Only digits start with a digit. -/
theorem eq_nil_of_startsWithDigit {digits rest : List Char} (all : IsDigits digits)
    (noMore : ¬startsWithDigit (digits ++ rest) = true) : digits = [] := by
  cases digits with
  | nil => rfl
  | cons first others => exact absurd (all first List.mem_cons_self) noMore

/-- Who reads a significand leaves some of its digits and all that follows them. -/
theorem exists_growSignificand {digits rest : List Char} (all : IsDigits digits)
    (off : IsOffDigits rest) (significand : Nat) :
    ∃ left, IsDigits left ∧
      (growSignificand significand (digits ++ rest)).2.2 = left ++ rest := by
  induction digits generalizing significand with
  | nil =>
    refine ⟨[], all, ?_⟩
    cases rest with
    | nil => rfl
    | cons first rest =>
      have other : digitValue? first = none := if_neg (by simp [off first rfl])
      rw [List.nil_append, growSignificand, other]
  | cons digit digits ih =>
    have value : digitValue? digit = some (digit.toNat - '0'.toNat) :=
      if_pos (all digit List.mem_cons_self)
    rw [List.cons_append, growSignificand, value]
    dsimp only
    split
    · exact ih all.of_cons _
    · exact ⟨digit :: digits, all, rfl⟩

section Ends

variable {negative : Bool} {text : List Char}

theorem exponentSize?_of_isDigits (all : IsDigits text) (significand : Nat) (start : Int)
    (down : Bool) :
    ∀ found ∈ exponentSize? negative significand start down text, found.2 = [] := by
  have taken : text.takeWhile Char.isDigit = text := by
    simpa using takeWhile_digits all isOffDigits_nil
  unfold exponentSize?
  simp only [taken, List.drop_length]
  intro found reads
  split at reads
  · cases reads
  split at reads
  · obtain ⟨_, _, rfl⟩ := Option.map_eq_some_iff.mp reads
    rfl
  split at reads
  · cases reads
  · cases reads
    rfl

theorem exponent?_of_isDigits (all : IsDigits text) (significand : Nat) (start : Int) :
    ∀ found ∈ exponent? negative significand start text, found.2 = [] := by
  unfold exponent?
  split
  · exact exponentSize?_of_isDigits all.of_cons significand start false
  · exact exponentSize?_of_isDigits all.of_cons significand start true
  · exact exponentSize?_of_isDigits all significand start false

theorem afterDigits?_of_isPower (power : IsPower text) (significand : Nat) (exponent : Int) :
    ∀ found ∈ afterDigits? negative significand exponent text, found.2 = [] := by
  cases power with
  | none =>
    intro found reads
    obtain ⟨_, _, rfl⟩ := Option.map_eq_some_iff.mp reads
    rfl
  | up all => exact exponent?_of_isDigits all significand exponent
  | down all => exact exponentSize?_of_isDigits all significand exponent true

theorem decimals?_of_isPower {digits : List Char} (all : IsDigits digits) (power : IsPower text)
    (significand dropped : Nat) :
    ∀ found ∈ decimals? negative significand dropped (digits ++ text), found.2 = [] := by
  obtain ⟨left, all, rest⟩ := exists_growSignificand all power.isOffDigits significand
  have skipped := dropWhile_digits all power.isOffDigits
  unfold decimals?
  dsimp only
  rw [rest]
  split
  · rw [skipped]
    exact afterDigits?_of_isPower power _ _
  · next noMore =>
    rw [eq_nil_of_startsWithDigit all noMore]
    split
    · exact nofun
    · exact afterDigits?_of_isPower power _ _

theorem afterWhole?_of_isTail (tail : IsTail text) (significand : Nat) :
    ∀ found ∈ afterWhole? negative significand text, found.2 = [] := by
  cases tail with
  | point all power => exact decimals?_of_isPower all power significand 0
  | power power =>
    cases power with
    | none =>
      intro found reads
      rw [afterWhole?] at reads
      · split at reads
        · cases reads
          rfl
        split at reads
        · cases reads
          rfl
        · obtain ⟨_, _, rfl⟩ := Option.map_eq_some_iff.mp reads
          rfl
      all_goals nofun
    | up all => exact exponent?_of_isDigits all significand 0
    | down all => exact exponentSize?_of_isDigits all significand 0 true

theorem magnitude?_of_isTail {whole : List Char} (all : IsDigits whole) (some : whole ≠ [])
    (tail : IsTail text) : ∀ found ∈ magnitude? negative (whole ++ text), found.2 = [] := by
  rw [magnitude?.eq_def]
  split
  · next rest begins =>
    cases whole with
    | nil => exact absurd rfl some
    | cons first others =>
      cases begins
      split
      · exact nofun
      · next noMore =>
        rw [eq_nil_of_startsWithDigit all.of_cons noMore]
        exact afterWhole?_of_isTail tail 0
  · obtain ⟨left, all, rest⟩ := exists_growSignificand all tail.isOffDigits 0
    have taken := takeWhile_digits all tail.isOffDigits
    dsimp only
    rw [rest, taken, List.drop_left]
    split
    · exact nofun
    split
    · cases tail with
      | point all power => exact decimals?_of_isPower all power _ _
      | power power =>
        have reads : ∀ significand exponent,
            ∀ found ∈ afterDigits? negative significand exponent text, found.2 = [] :=
          afterDigits?_of_isPower power
        cases power with
        | none | up _ | down _ => exact reads _ _
    · next noMore =>
      rw [eq_nil_of_startsWithDigit all noMore]
      exact afterWhole?_of_isTail tail _

/-- **A numeral is read to its end or not at all.** -/
theorem number?_of_isNumeral (numeral : IsNumeral text) :
    ∀ found ∈ number? text, found.2 = [] := by
  cases numeral with
  | minus all some tail => exact magnitude?_of_isTail all some tail
  | @plain whole text all some tail =>
    rw [number?]
    · exact magnitude?_of_isTail all some tail
    · intro rest begins
      cases whole with
      | nil => exact some rfl
      | cons first others =>
        cases begins
        cases all '-' List.mem_cons_self

end Ends

/-! ### Numbers as they are written -/

theorem isDigits_toString (number : Nat) : IsDigits (toString number).toList := by
  intro digit listed
  rw [show (toString number).toList = Nat.toDigits 10 number from Nat.toList_repr] at listed
  exact Nat.isDigit_of_mem_toDigits (by decide) (by decide) listed

theorem toString_ne_nil (number : Nat) : (toString number).toList ≠ [] := by
  rw [show (toString number).toList = Nat.toDigits 10 number from Nat.toList_repr]
  exact Nat.toDigits_ne_nil

/-- A whole number has its digits, and perhaps a sign before them. -/
theorem toString_int (number : Int) : ∃ digits, IsDigits digits ∧ digits ≠ [] ∧
    ((toString number).toList = digits ∨ (toString number).toList = '-' :: digits) := by
  cases number with
  | ofNat number => exact ⟨_, isDigits_toString number, toString_ne_nil number, .inl rfl⟩
  | negSucc number =>
    refine ⟨_, isDigits_toString (number + 1), toString_ne_nil (number + 1), .inr ?_⟩
    show ("-" ++ toString (number + 1)).toList = _
    rw [String.toList_append]
    rfl

theorem isDigits_zeros (count : Nat) : IsDigits (List.replicate count '0') := by
  intro digit listed
  rw [List.eq_of_mem_replicate listed]
  rfl

theorem IsDigits.append {first second : List Char} (all : IsDigits first)
    (others : IsDigits second) : IsDigits (first ++ second) :=
  List.forall_mem_append.mpr ⟨all, others⟩

/-- A whole number is an exponent after an `e`. -/
theorem isPower_int (number : Int) : IsPower ('e' :: (toString number).toList) := by
  obtain ⟨digits, all, _, same | same⟩ := toString_int number
  · rw [same]
    exact .up all
  · rw [same]
    exact .down all

/-- Digits after a point. -/
theorem IsTail.decimals {digits : List Char} (all : IsDigits digits) : IsTail ('.' :: digits) := by
  simpa using IsTail.point all .none

/-- **A decimal is written with digits in front**, whatever its form. -/
theorem exists_decimalText (digits : Nat) (place : Int) :
    ∃ whole text, IsDigits whole ∧ whole ≠ [] ∧ IsTail text ∧
      (Binary64.decimalText digits place).toList = whole ++ text := by
  have all := isDigits_toString digits
  have some := toString_ne_nil digits
  unfold Binary64.decimalText
  dsimp only
  generalize (toString digits).toList = shown at all some
  rw [String.toList_ofList]
  split
  · exact ⟨_, ['.', '0'], all.append (isDigits_zeros _),
      List.append_ne_nil_of_left_ne_nil some _, .decimals (isDigits_zeros 1), rfl⟩
  split
  · next within =>
    refine ⟨_, _, fun digit listed => all digit (List.mem_of_mem_take listed), ?_,
      .decimals fun digit listed => all digit (List.mem_of_mem_drop listed), rfl⟩
    rw [Ne, List.take_eq_nil_iff, not_or]
    exact ⟨by omega, some⟩
  split
  · exact ⟨['0'], _, isDigits_zeros 1, List.cons_ne_nil _ _,
      .decimals ((isDigits_zeros _).append all), rfl⟩
  · cases shown with
    | nil => exact absurd rfl some
    | cons digit rest =>
      have first : IsDigits [digit] := List.forall_mem_singleton.mpr (all digit List.mem_cons_self)
      cases rest with
      | nil => exact ⟨[digit], _, first, some, .power (isPower_int _), rfl⟩
      | cons next rest =>
        exact ⟨[digit], _, first, List.cons_ne_nil _ _, .point all.of_cons (isPower_int _), rfl⟩

/-- A text that is a numeral but for its sign. -/
theorem IsNumeral.ofSign {whole text : List Char} (all : IsDigits whole) (some : whole ≠ [])
    (tail : IsTail text) (negative : Bool) :
    IsNumeral ((if negative = true then "-" else "").toList ++ (whole ++ text)) := by
  cases negative with
  | false => exact (IsNumeral.plain all some tail : IsNumeral (whole ++ text))
  | true => exact (IsNumeral.minus all some tail : IsNumeral ('-' :: (whole ++ text)))

/-- **Numbers are written as numerals.** -/
theorem isNumeral_numberText (number : Number) : IsNumeral (numberText number).toList := by
  cases number with
  | whole value =>
    obtain ⟨digits, all, some, same | same⟩ := toString_int value
    · have numeral : IsNumeral (digits ++ []) := .plain all some (.power .none)
      rwa [numberText, same, ← List.append_nil digits]
    · have numeral : IsNumeral ('-' :: (digits ++ [])) := .minus all some (.power .none)
      rwa [numberText, same, ← List.append_nil digits]
  | fraction value =>
    rw [numberText, Binary64.text]
    dsimp only
    split
    · rw [String.toList_append]
      exact .ofSign (isDigits_zeros 1) (List.cons_ne_nil _ _) (.decimals (isDigits_zeros 1)) _
    · obtain ⟨whole, text, all, some, tail, same⟩ :=
        exists_decimalText value.shortest.1 value.shortest.2
      rw [String.toList_append, same]
      exact .ofSign all some tail _

end Json

/-! ### Numbers as they are read -/

/-- The number that the text of a number is read as, if it is read. -/
def Number.reread? (number : Number) : Option Number :=
  (Json.Reader.number? (Json.numberText number).toList).map Prod.fst

/-- A whole number of 64 bits is read back. -/
theorem Number.reread?_whole {value : Int} (lower : -0x8000000000000000 ≤ value)
    (upper : value < 0x10000000000000000) :
    (Number.whole value).reread? = some (.whole value) := by
  have reads := Json.number?_whole Json.endsNumber_nil lower upper
  rw [List.append_nil] at reads
  rw [reread?, Json.numberText, reads]
  rfl

namespace Json

open Reader

/-- **A number is read from its text wherever it stands**, or nowhere. -/
theorem number?_numberText (number : Number) {following : List Char}
    (ends : EndsNumber following) :
    number? ((numberText number).toList ++ following) = number.reread?.map (·, following) := by
  have whole := number?_of_isNumeral (isNumeral_numberText number)
  rw [number?_append ends, Number.reread?]
  cases reads : number? (numberText number).toList with
  | none => rfl
  | some found =>
    rw [Option.map_some, leaving, whole found reads]
    rfl

/-- A number begins with a sign or a digit. -/
theorem exists_cons_numberText (number : Number) : ∃ first rest,
    (numberText number).toList = first :: rest ∧ (first = '-' ∨ first.isDigit = true) := by
  have numeral := isNumeral_numberText number
  generalize (numberText number).toList = text at numeral
  cases numeral with
  | minus _ _ _ => exact ⟨_, _, rfl, .inl rfl⟩
  | @plain whole _ all some _ =>
    cases whole with
    | nil => exact absurd rfl some
    | cons first rest => exact ⟨first, _, rfl, .inr (all first List.mem_cons_self)⟩

end Json

end Leasehold
