/-
**Times are read back from their texts.**

A time is written part by part: the year, which may need a sign and more than four digits, then
month, day, hour, minute and second in two digits each, and the fraction in as many digits as it
needs. Each part is read back, whatever follows it.

* `UtcTime.IsProper`: an inserted second comes at the end of a minute;
* `readYear_yearText`, `readFraction_fractionText`: the parts whose length varies;
* `fractionText_exact`, `text_exact`: the fraction has the fewest digits that lose nothing;
* `read?_text`: the text of a proper time is read back as the time;
* `isProper_of_read?`: every time that is read is proper.
-/

import Leasehold.Proofs.Text.Decimal
import Leasehold.Proofs.Time.Calendar
import Leasehold.Time.Rfc3339

namespace Leasehold.UtcTime

open Leasehold.Text

/-- An inserted second comes at the end of a minute. -/
def IsProper (time : UtcTime) : Prop := time.leap = true → time.seconds % 60 = 59

/-! ### Blanks and parts -/

theorem isBlank_eq_false_of_isDigit {character : Char} (digit : character.isDigit = true) :
    isBlank character = false := by
  obtain ⟨lower, upper⟩ := Char.isDigit_iff_toNat.mp digit
  have lower : 48 ≤ character.toNat := lower
  have upper : character.toNat ≤ 57 := upper
  simp [isBlank, blankRanges]
  omega

theorem dropBlanks_cons {first : Char} (rest : List Char) (shows : isBlank first = false) :
    dropBlanks (first :: rest) = first :: rest := by
  simp [dropBlanks, shows]

/-- No blank stands before a padded number. -/
theorem dropBlanks_padded (width number : Nat) (rest : List Char) :
    dropBlanks ((padded width number).toList ++ rest) = (padded width number).toList ++ rest := by
  cases shown : (padded width number).toList with
  | nil => exact absurd shown (padded_ne_nil width number)
  | cons first others =>
    have digit : first.isDigit = true := isDigit_padded first (shown ▸ List.mem_cons_self)
    exact dropBlanks_cons _ (isBlank_eq_false_of_isDigit digit)

/-- A part of two digits is read back. -/
theorem readPart_padded {number : Nat} (fits : number < 100) (rest : List Char) :
    readPart ((padded 2 number).toList ++ rest) = some (number, rest) := by
  unfold readPart
  rw [dropBlanks_padded]
  exact takeNumber_padded (.inl (length_padded (by decide) fits))

/-- No sign stands before a digit. -/
theorem ne_sign_of_isDigit {first : Char} (digit : first.isDigit = true) :
    first ≠ '-' ∧ first ≠ '+' := by
  constructor <;> rintro rfl <;> cases digit

/-- The year is read back before a dash. -/
theorem readYear_yearText (year : Int) (rest : List Char) :
    readYear ((yearText year).toList ++ '-' :: rest) = some (year, '-' :: rest) := by
  unfold yearText
  split
  · next short =>
    have fits : year.toNat < 10 ^ 4 := by omega
    have taken : takeNumber 4 ((padded 4 year.toNat).toList ++ '-' :: rest) =
        some (year.toNat, '-' :: rest) :=
      takeNumber_padded (.inl (length_padded (by decide) fits))
    unfold readYear
    rw [dropBlanks_padded]
    cases shown : (padded 4 year.toNat).toList with
    | nil => exact absurd shown (padded_ne_nil _ _)
    | cons first others =>
      have digit : first.isDigit = true := isDigit_padded first (shown ▸ List.mem_cons_self)
      obtain ⟨noDash, noPlus⟩ := ne_sign_of_isDigit digit
      rw [shown] at taken
      rw [List.cons_append] at taken ⊢
      split
      · next begins => exact absurd (List.cons.inj begins).1 noDash
      · next begins => exact absurd (List.cons.inj begins).1 noPlus
      · rw [taken]
        show some ((year.toNat : Int), _) = _
        rw [Int.toNat_of_nonneg short.1]
  · next long =>
    have taken : ∀ limit, limit = ((padded 4 year.natAbs).toList ++ '-' :: rest).length →
        takeNumber limit ((padded 4 year.natAbs).toList ++ '-' :: rest) =
          some (year.natAbs, '-' :: rest) := fun limit all =>
      takeNumber_padded (.inr ⟨by simp [all], isOffDigits_cons _ rfl⟩)
    have dash : "-".toList = ['-'] := rfl
    have plus : "+".toList = ['+'] := rfl
    rw [String.toList_append]
    split
    · rw [dash, List.append_assoc, List.singleton_append]
      unfold readYear
      rw [dropBlanks_cons _ rfl]
      simp only [taken _ rfl, Option.map_some]
      rw [show -(year.natAbs : Int) = year by omega]
    · rw [plus, List.append_assoc, List.singleton_append]
      unfold readYear
      rw [dropBlanks_cons _ rfl]
      simp only [taken _ rfl, Option.map_some]
      rw [show (year.natAbs : Int) = year by omega]

/-! ### Fractions -/

theorem subsecNanos_lt (time : UtcTime) : time.subsecNanos < 1000000000 := by
  unfold subsecNanos
  omega

/-- **The fraction has the fewest digits that lose nothing.** -/
theorem fractionText_exact {nanos : Nat} (below : nanos < 1000000000) :
    ∃ digits ∈ [0, 3, 6, 9],
      fractionText nanos =
        (if digits = 0 then "" else "." ++ padded digits (nanos / 10 ^ (9 - digits))) ∧
      nanos % 10 ^ (9 - digits) = 0 ∧
      ∀ fewer ∈ [0, 3, 6, 9], nanos % 10 ^ (9 - fewer) = 0 → digits ≤ fewer := by
  unfold fractionText
  by_cases zero : nanos = 0
  · exact ⟨0, by simp, by simp [zero], by simp [zero], by simp⟩
  by_cases thousands : nanos % 1000000 = 0
  · refine ⟨3, by simp, by simp [zero, thousands], by simpa using thousands, ?_⟩
    simp
    omega
  by_cases millions : nanos % 1000 = 0
  · refine ⟨6, by simp, by simp [zero, thousands, millions], by simpa using millions, ?_⟩
    simp
    omega
  · refine ⟨9, by simp, by simp [zero, thousands, millions], Nat.mod_one _, ?_⟩
    simp
    omega

/-- Date and time of day to the second, as they are written. -/
def wholeText (time : UtcTime) : String :=
  let date := Date.ofDays (time.seconds / 86400)
  let second := (time.seconds % 86400).toNat
  yearText date.year ++ "-" ++ padded 2 date.month ++ "-" ++ padded 2 date.day ++ "T"
    ++ padded 2 (second / 3600) ++ ":" ++ padded 2 (second / 60 % 60) ++ ":"
    ++ padded 2 (second % 60 + if time.leap then 1 else 0)

/-- **A time is written with the fewest digits that lose nothing**, and with a `Z`. -/
theorem text_exact (time : UtcTime) :
    ∃ digits ∈ [0, 3, 6, 9],
      time.text = time.wholeText ++
        (if digits = 0 then "" else "." ++ padded digits (time.subsecNanos / 10 ^ (9 - digits))) ++
          "Z" ∧
      time.subsecNanos % 10 ^ (9 - digits) = 0 ∧
      ∀ fewer ∈ [0, 3, 6, 9], time.subsecNanos % 10 ^ (9 - fewer) = 0 → digits ≤ fewer := by
  obtain ⟨digits, listed, written, lossless, fewest⟩ := fractionText_exact time.subsecNanos_lt
  exact ⟨digits, listed, by rw [← written]; rfl, lossless, fewest⟩

/-- Digits after a point are read back. -/
theorem readFraction_padded {digits number : Nat} (some : 0 < digits) (few : digits ≤ 9)
    (fits : number < 10 ^ digits) :
    readFraction ('.' :: ((padded digits number).toList ++ ['Z'])) =
      .some (number * 10 ^ (9 - digits), ['Z']) := by
  have size := length_padded some fits
  have value := digitsValue_padded digits number
  have span : spanDigits 9 ((padded digits number).toList ++ ['Z']) =
      ((padded digits number).toList, ['Z']) :=
    spanDigits_append isDigit_padded (.inr ⟨by omega, isOffDigits_cons _ rfl⟩)
  unfold readFraction
  simp only [span]
  cases shown : (padded digits number).toList with
  | nil => exact absurd shown (padded_ne_nil _ _)
  | cons first others =>
    rw [shown] at size value
    dsimp only
    rw [size, value]
    rfl

/-- The fraction is read back before what is no digit. -/
theorem readFraction_fractionText {nanos : Nat} (below : nanos < 1000000000) :
    readFraction ((fractionText nanos).toList ++ ['Z']) = some (nanos, ['Z']) := by
  obtain ⟨digits, listed, written, lossless, _⟩ := fractionText_exact below
  have point : ".".toList = ['.'] := rfl
  rw [written]
  split
  · next none =>
    subst none
    have zero : nanos = 0 := by omega
    rw [zero]
    rfl
  · next some =>
    have few : digits ≤ 9 := by
      simp only [List.mem_cons, List.not_mem_nil, or_false] at listed
      omega
    have fits : nanos / 10 ^ (9 - digits) < 10 ^ digits := by
      refine Nat.div_lt_of_lt_mul ?_
      rw [← Nat.pow_add, Nat.sub_add_cancel few]
      exact below
    rw [String.toList_append, point, List.append_assoc, List.singleton_append,
      readFraction_padded (Nat.pos_of_ne_zero some) few fits,
      Nat.div_mul_cancel (Nat.dvd_of_mod_eq_zero lossless)]

/-! ### Whole texts -/

theorem toList_text (time : UtcTime) :
    let date := Date.ofDays (time.seconds / 86400)
    let second := (time.seconds % 86400).toNat
    time.text.toList =
      (yearText date.year).toList ++ '-' :: ((padded 2 date.month).toList ++
        '-' :: ((padded 2 date.day).toList ++ 'T' :: ((padded 2 (second / 3600)).toList ++
        ':' :: ((padded 2 (second / 60 % 60)).toList ++
        ':' :: ((padded 2 (second % 60 + if time.leap then 1 else 0)).toList ++
        ((fractionText time.subsecNanos).toList ++ ['Z'])))))) := by
  have dash : "-".toList = ['-'] := rfl
  have colon : ":".toList = [':'] := rfl
  have tee : "T".toList = ['T'] := rfl
  have zulu : "Z".toList = ['Z'] := rfl
  intro date second
  simp only [text, String.toList_append, dash, colon, tee, zulu, List.append_assoc,
    List.cons_append, List.nil_append, date, second]

/-- The parts of a time. -/
def fields (time : UtcTime) : Fields where
  date := Date.ofDays (time.seconds / 86400)
  hour := (time.seconds % 86400).toNat / 3600
  minute := (time.seconds % 86400).toNat / 60 % 60
  second := (time.seconds % 86400).toNat % 60 + if time.leap then 1 else 0
  fraction := time.subsecNanos
  offset := 0

/-- The text of a time names the parts of the time. -/
theorem readFields?_text (time : UtcTime) :
    readFields? time.text.toList = some (time.fields, []) := by
  have dash : ∀ rest, dropBlanks ('-' :: rest) = '-' :: rest :=
    fun rest => dropBlanks_cons rest rfl
  have colon : ∀ rest, dropBlanks (':' :: rest) = ':' :: rest :=
    fun rest => dropBlanks_cons rest rfl
  obtain ⟨month, day⟩ := Date.lt_of_isValid (Date.isValid_ofDays (time.seconds / 86400))
  have hour : (time.seconds % 86400).toNat / 3600 < 100 := by omega
  have minute : (time.seconds % 86400).toNat / 60 % 60 < 100 := by omega
  have second : (time.seconds % 86400).toNat % 60 + (if time.leap then 1 else 0) < 100 := by
    split <;> omega
  have fraction := readFraction_fractionText time.subsecNanos_lt
  have offset : readOffset (dropBlanks ['Z']) = some (0, []) := rfl
  unfold readFields?
  rw [toList_text, readYear_yearText]
  simp only [Option.bind_eq_bind, Option.bind_some, dash, colon, skip, skipSeparator, if_true,
    true_or, readPart_padded month, readPart_padded day, readPart_padded hour,
    readPart_padded minute, readPart_padded second, fraction, offset]
  rfl

/-- The second of a proper time is 60 if it is an inserted one. -/
theorem IsProper.second_fields {time : UtcTime} (proper : time.IsProper) :
    (time.fields.second = 60 ↔ time.leap = true) ∧
      (if time.fields.second = 60 then 59 else time.fields.second) =
        (time.seconds % 86400).toNat % 60 := by
  have second : time.fields.second =
      (time.seconds % 86400).toNat % 60 + if time.leap then 1 else 0 := rfl
  rw [second]
  cases leap : time.leap with
  | true =>
    have ends := proper leap
    have full : (time.seconds % 86400).toNat % 60 = 59 := by omega
    simp [full]
  | false =>
    have early : (time.seconds % 86400).toNat % 60 ≠ 60 := by omega
    simp [early]

/-- The parts of a proper time make it up. -/
theorem time?_fields {time : UtcTime} (proper : time.IsProper) : time.fields.time? = some time := by
  have lower := time.instant.lower
  have upper := time.instant.upper
  have seconds : time.seconds = time.instant.nanos / 1000000000 := rfl
  have dated := Date.toDays_ofDays (time.seconds / 86400)
  obtain ⟨first, last⟩ : -262143 ≤ (Date.ofDays (time.seconds / 86400)).year ∧
      (Date.ofDays (time.seconds / 86400)).year ≤ 262142 :=
    Date.year_ofDays (by omega) (by omega)
  obtain ⟨sixty, shown⟩ := proper.second_fields
  have bounds : time.fields.hour ≤ 23 ∧ time.fields.minute ≤ 59 ∧ time.fields.second ≤ 60 ∧
      time.fields.offset.natAbs < 86400 := by
    have hour : time.fields.hour = (time.seconds % 86400).toNat / 3600 := rfl
    have minute : time.fields.minute = (time.seconds % 86400).toNat / 60 % 60 := rfl
    have offset : time.fields.offset = 0 := rfl
    split at shown <;> omega
  have nanos : (time.fields.date.toDays * 86400 + (time.fields.hour * 3600 +
      time.fields.minute * 60 + (if time.fields.second = 60 then 59 else time.fields.second : Nat) -
      time.fields.offset)) * 1000000000 + time.fields.fraction = time.instant.nanos := by
    show ((Date.ofDays (time.seconds / 86400)).toDays * 86400 +
      (((time.seconds % 86400).toNat / 3600 : Nat) * 3600 +
        ((time.seconds % 86400).toNat / 60 % 60 : Nat) * 60 + _ - 0)) * 1000000000 +
        ((time.instant.nanos % 1000000000).toNat : Nat) = time.instant.nanos
    rw [Date.toDays_ofDays, shown]
    omega
  unfold Fields.time?
  rw [if_pos ⟨Date.isValid_ofDays _, first, last, bounds⟩]
  dsimp only
  rw [nanos, Instant.ofNanos?_nanos]
  simp [sixty]

/-- **The text of a proper time is read back as the time.** -/
theorem read?_text {time : UtcTime} (proper : time.IsProper) : read? time.text = some time := by
  unfold read?
  rw [readFields?_text]
  exact time?_fields proper

/-! ### Times that are read -/

theorem lt_of_readFraction {characters rest : List Char} {nanos : Nat}
    (reads : readFraction characters = some (nanos, rest)) : nanos < 1000000000 := by
  unfold readFraction at reads
  split at reads
  · next text =>
    rcases span : spanDigits 9 text with ⟨digits, rest⟩
    obtain ⟨all, few⟩ := spanDigits_taken span
    have below := digitsValue_lt all
    rw [span] at reads
    cases digits with
    | nil => cases reads
    | cons first others =>
      cases reads
      have tens : 0 < 10 ^ (9 - (first :: others).length) := Nat.pow_pos (by decide)
      have scaled := Nat.mul_lt_mul_of_pos_right below tens
      rwa [← Nat.pow_add, Nat.add_sub_cancel' few] at scaled
  · cases reads
    decide

theorem emod_of_readOffset {characters rest : List Char} {offset : Int}
    (reads : readOffset characters = some (offset, rest)) : offset % 60 = 0 := by
  have size : ∀ {characters rest : List Char} {seconds : Nat},
      readOffsetSize characters = some (seconds, rest) → seconds % 60 = 0 := by
    intro characters rest seconds reads
    unfold readOffsetSize at reads
    split at reads
    · simp only [Option.bind_eq_bind, Option.bind_eq_some_iff] at reads
      obtain ⟨tens, _, ones, _, reads⟩ := reads
      split at reads
      · simp only [Option.bind_eq_some_iff] at reads
        obtain ⟨minuteTens, _, minuteOnes, _, reads⟩ := reads
        split at reads
        · cases reads
          omega
        · cases reads
      · cases reads
    · cases reads
  unfold readOffset at reads
  split at reads
  · split at reads
    · cases reads
      rfl
    · split at reads
      · cases reads
        rfl
      · split at reads
        · obtain ⟨⟨seconds, _⟩, reads, same⟩ := Option.map_eq_some_iff.mp reads
          cases same
          have := size reads
          omega
        · split at reads
          · obtain ⟨⟨seconds, _⟩, reads, same⟩ := Option.map_eq_some_iff.mp reads
            cases same
            have := size reads
            omega
          · cases reads
  · cases reads

/-- The fraction is below a second, and the offset a number of minutes. -/
theorem bounds_of_readFields? {characters rest : List Char} {fields : Fields}
    (parts : readFields? characters = some (fields, rest)) :
    fields.fraction < 1000000000 ∧ fields.offset % 60 = 0 := by
  simp only [readFields?, Option.bind_eq_bind, Option.bind_eq_some_iff] at parts
  obtain ⟨_, _, _, _, _, _, _, _, _, _, _, _, _, _, _, _, _, _, _, _, _, _, fraction, readsFraction,
    offset, readsOffset, same⟩ := parts
  cases same
  exact ⟨lt_of_readFraction readsFraction, emod_of_readOffset readsOffset⟩

/-- **Every time that is read is proper.** -/
theorem isProper_of_read? {text : String} {time : UtcTime} (names : read? text = some time) :
    time.IsProper := by
  obtain ⟨⟨fields, rest⟩, parts, names⟩ := Option.bind_eq_some_iff.mp names
  obtain ⟨below, minutes⟩ := bounds_of_readFields? parts
  dsimp only at names
  split at names
  · unfold Fields.time? at names
    split at names
    · obtain ⟨instant, reached, same⟩ := Option.map_eq_some_iff.mp names
      cases same
      intro inserted
      have sixty : fields.second = 60 := of_decide_eq_true inserted
      have nanos := Instant.nanos_of_ofNanos? reached
      show instant.nanos / 1000000000 % 60 = 59
      rw [nanos, sixty, if_pos rfl]
      omega
    · cases names
  · cases names

end Leasehold.UtcTime
