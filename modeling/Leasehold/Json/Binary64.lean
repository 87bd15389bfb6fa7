/-
**Finite 64-bit binary fractions.**

A number `± significand * 2 ^ exponent` with at most 53 bits of significand and an exponent of at
least -1074: the finite values of the 64-bit binary interchange format, kept exactly.

* `Binary64.ofQuotient?`: the nearest of these to a fraction, a tie going to the even significand;
* `Binary64.mul?`, `Binary64.divide?`: one rounding each;
* `Binary64.ofDecimal?`: `digits * 10 ^ exponent` in the rounding steps of a fast decimal reader;
* `Binary64.text`: the fewest digits that name the number, positional from `1e-5` to `1e16`.
-/

import Leasehold.Text.Digits

namespace Leasehold

/-- A finite 64-bit binary fraction. Zero has its own sign. -/
structure Binary64 where
  negative : Bool
  significand : Nat
  exponent : Int
deriving DecidableEq, Repr

namespace Binary64

/-- Zero with a sign. -/
def zero (negative : Bool) : Binary64 := ⟨negative, 0, -1074⟩

/-- The number with the other sign. -/
def neg (number : Binary64) : Binary64 := { number with negative := !number.negative }

/-! ### Rounding -/

/-- The whole number nearest to a fraction; a tie goes to the even one. -/
def roundHalfEven (numerator denominator : Nat) : Nat :=
  let quotient := numerator / denominator
  let twice := 2 * (numerator % denominator)
  if twice < denominator ∨ (twice = denominator ∧ quotient % 2 = 0) then quotient else quotient + 1

/-- A fraction over `2 ^ exponent`, as numerator and denominator. -/
def scaled (numerator denominator : Nat) (exponent : Int) : Nat × Nat :=
  if 0 ≤ exponent then (numerator, denominator <<< exponent.toNat)
  else (numerator <<< (-exponent).toNat, denominator)

/-- The number nearest to a fraction, unless that is too large to be finite. -/
def ofQuotient? (negative : Bool) (numerator denominator : Nat) : Option Binary64 :=
  if numerator = 0 then some (zero negative)
  else
    let estimate : Int := (numerator.log2 : Int) - denominator.log2 - 53
    let (top, bottom) := scaled numerator denominator estimate
    let normal := if top / bottom < 1 <<< 53 then estimate else estimate + 1
    let exponent := max normal (-1074)
    let (top, bottom) := scaled numerator denominator exponent
    let significand := roundHalfEven top bottom
    let (significand, exponent) :=
      if significand = 1 <<< 53 then (1 <<< 52, exponent + 1) else (significand, exponent)
    if exponent ≤ 971 then some ⟨negative, significand, exponent⟩ else none

/-- The number nearest to a natural number. -/
def ofNat? (number : Nat) : Option Binary64 := ofQuotient? false number 1

/-- The magnitude as a fraction. -/
def fraction (number : Binary64) : Nat × Nat :=
  if 0 ≤ number.exponent then (number.significand <<< number.exponent.toNat, 1)
  else (number.significand, 1 <<< (-number.exponent).toNat)

/-- The product, rounded once. -/
def mul? (first second : Binary64) : Option Binary64 :=
  let (top, bottom) := first.fraction
  let (top', bottom') := second.fraction
  ofQuotient? (first.negative != second.negative) (top * top') (bottom * bottom')

/-- The quotient, rounded once; none for a divisor of zero. -/
def divide? (first second : Binary64) : Option Binary64 :=
  let (top, bottom) := first.fraction
  let (top', bottom') := second.fraction
  if top' = 0 then none
  else ofQuotient? (first.negative != second.negative) (top * bottom') (bottom * top')

/-! ### Decimals -/

/-- A number over `10 ^ (308 * steps + rest)`, one step of `10 ^ 308` at a time. -/
def divideTens (number : Binary64) (rest : Nat) : Nat → Option Binary64
  | 0 => do number.divide? (← ofNat? (Nat.pow 10 rest))
  | steps + 1 =>
    if number.significand = 0 then some number
    else do divideTens (← number.divide? (← ofNat? (Nat.pow 10 308))) rest steps

/--
The number that a decimal names: the digits are rounded first and then multiplied or divided by
the rounded power of ten. None if the result is too large.
-/
def ofDecimal? (digits : Nat) (exponent : Int) : Option Binary64 := do
  let number ← ofNat? digits
  if exponent < 0 then
    let places := exponent.natAbs
    if places ≤ 308 then number.divide? (← ofNat? (Nat.pow 10 places))
    else divideTens number ((places - 1) % 308 + 1) ((places - 1) / 308)
  else if exponent ≤ 308 then number.mul? (← ofNat? (Nat.pow 10 exponent.toNat))
  else if number.significand = 0 then some number
  else none

/-! ### Text -/

/--
Twice the ends of the interval of fractions that round to the number, over `2 ^ exponent`, each
doubled once more because the lower end of a power of two lies nearer.
-/
def intervalEnds (number : Binary64) : Nat × Nat :=
  let low :=
    if number.significand = 1 <<< 52 ∧ -1074 < number.exponent then 4 * number.significand - 1
    else 4 * number.significand - 2
  (low, 4 * number.significand + 2)

/-- Whether `digits * 10 ^ place` rounds to the number. -/
def isNamedBy (number : Binary64) (digits : Nat) (place : Int) : Bool :=
  let (low, high) := number.intervalEnds
  let (top, bottom) := if 0 ≤ place then (digits * Nat.pow 10 place.toNat, 1) else
    (digits, Nat.pow 10 (-place).toNat)
  let (top, bottom) := scaled (4 * top) bottom number.exponent
  if number.significand % 2 = 0 then low * bottom ≤ top && top ≤ high * bottom
  else low * bottom < top && top < high * bottom

/-- The power of ten of the leading digit. -/
def leadingPlace (number : Binary64) : Int :=
  let (top, bottom) := number.fraction
  if bottom ≤ top then ((Nat.toDigits 10 (top / bottom)).length : Int) - 1
  else -((Nat.toDigits 10 (bottom / top)).length : Int)

/-- The decimals next to the number on the grid of `10 ^ place`, the nearer one first. -/
def gridNeighbours (number : Binary64) (place : Int) : List Nat :=
  let (top, bottom) := number.fraction
  let (top, bottom) := if 0 ≤ place then (top, bottom * Nat.pow 10 place.toNat) else
    (top * Nat.pow 10 (-place).toNat, bottom)
  let below := top / bottom
  let twice := 2 * (top % bottom)
  if twice < bottom ∨ (twice = bottom ∧ below % 2 = 0) then [below, below + 1]
  else [below + 1, below]

/-- The first grid, from coarse to fine, with a decimal that names the number. -/
def searchDigits (number : Binary64) (place : Int) : Nat → Option (Nat × Int)
  | 0 => none
  | grids + 1 =>
    match (number.gridNeighbours place).find? (number.isNamedBy · place) with
    | some digits => some (digits, place)
    | none => searchDigits number (place - 1) grids

/-- A decimal without the zeros at its end. -/
def trimZeros (digits : Nat) (place : Int) : Nat → Nat × Int
  | 0 => (digits, place)
  | fuel + 1 =>
    if digits ≠ 0 ∧ digits % 10 = 0 then trimZeros (digits / 10) (place + 1) fuel
    else (digits, place)

/-- The digits and place of the shortest decimal that names the number. -/
def shortest (number : Binary64) : Nat × Int :=
  match searchDigits number number.leadingPlace 17 with
  | some (digits, place) => trimZeros digits place 20
  | none => (number.significand, 0)

/-- The text of a decimal: positional with a point, or with one digit before the point and `e`. -/
def decimalText (digits : Nat) (place : Int) : String :=
  let shown := (toString digits).toList
  let length : Int := shown.length
  let pointAt := length + place
  let zeros (count : Int) := List.replicate count.toNat '0'
  String.ofList <|
    if 0 ≤ place ∧ pointAt ≤ 16 then shown ++ zeros place ++ ['.', '0']
    else if 0 < pointAt ∧ pointAt ≤ 16 then
      shown.take pointAt.toNat ++ '.' :: shown.drop pointAt.toNat
    else if -5 < pointAt ∧ pointAt ≤ 0 then '0' :: '.' :: zeros (-pointAt) ++ shown
    else
      let exponent := (toString (pointAt - 1)).toList
      match shown with
      | [digit] => digit :: 'e' :: exponent
      | digit :: rest => digit :: '.' :: rest ++ 'e' :: exponent
      | [] => []

/-- The shortest text that names the number. -/
def text (number : Binary64) : String :=
  let sign := if number.negative then "-" else ""
  if number.significand = 0 then sign ++ "0.0"
  else
    let (digits, place) := number.shortest
    sign ++ decimalText digits place

end Binary64

end Leasehold
