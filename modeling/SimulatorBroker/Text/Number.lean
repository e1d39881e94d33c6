import Mathlib.Algebra.GroupWithZero.Nat
import Mathlib.Data.Nat.Log
import Mathlib.Tactic.Common
import SimulatorBroker.Text.Json

/-!
# Numbers

A double is read from a decimal numeral by rounding to the nearest, ties to even, and is
written with the fewest digits that read back as the same double.
-/

namespace SimulatorBroker.Text

/-- A double without NaN: `mantissa * 2 ^ exponent`, or an infinity. -/
inductive Double where
  | finite (negative : Bool) (mantissa : Nat) (exponent : Int)
  | infinite (negative : Bool)
  deriving DecidableEq, Repr

/-! ## Reading -/

/-- The numerator and denominator of `factor * base ^ exponent`. -/
def scaled (factor base : Nat) (exponent : Int) : Nat × Nat :=
  if 0 ≤ exponent then (factor * base ^ exponent.toNat, 1)
  else (factor, base ^ (-exponent).toNat)

/-- The exponent of the double next to a positive ratio; a mantissa has at most 53 bits, and
no exponent is below the one of the least double. -/
def binaryExponent (numerator denominator : Nat) : Int :=
  let guess : Int := (numerator.log2 : Int) - denominator.log2 - 53
  let (above, below) := scaled denominator 2 guess
  let bits := if numerator * below / above < 2 ^ 53 then guess else guess + 1
  max bits (-1074)

/-- The double next to a ratio, ties to even. -/
def roundRatio (negative : Bool) (numerator denominator : Nat) : Double :=
  if numerator = 0 then .finite negative 0 (-1074)
  else
    let exponent := binaryExponent numerator denominator
    let (above, below) := scaled denominator 2 exponent
    let quotient := numerator * below / above
    let rest := numerator * below % above
    let rounded :=
      if above < 2 * rest ∨ above = 2 * rest ∧ quotient % 2 = 1 then quotient + 1 else quotient
    let (mantissa, exponent) :=
      if rounded = 2 ^ 53 then (2 ^ 52, exponent + 1) else (rounded, exponent)
    if 971 < exponent then .infinite negative else .finite negative mantissa exponent

/-- The value of decimal digits; other characters are skipped. -/
def decimalValue (text : List Char) : Nat :=
  text.foldl (fun value c => if isDigit c then 10 * value + (c.toNat - 0x30) else value) 0

/-- The double that a JSON number denotes. -/
def numberOf (text : List Char) : Double :=
  let negative := text.head? = some '-'
  let mantissa := text.takeWhile fun c => c ≠ 'e' ∧ c ≠ 'E'
  let exponentText := text.drop (mantissa.length + 1)
  let exponentValue : Int := decimalValue exponentText
  let written : Int := if exponentText.head? = some '-' then -exponentValue else exponentValue
  let fraction := (mantissa.dropWhile (· ≠ '.')).drop 1
  let (numerator, denominator) := scaled (decimalValue mantissa) 10 (written - fraction.length)
  roundRatio negative numerator denominator

/-! ## Writing -/

/-- The decimal digits of a number. -/
def decimalDigits (value : Nat) : List Char :=
  Nat.toDigits 10 value

/-- The ratio of the places of a positive ratio: `10 ^ (places - 1) ≤ ratio < 10 ^ places`. -/
def decimalPlaces (numerator denominator : Nat) : Int :=
  if denominator ≤ numerator then (Nat.log 10 (numerator / denominator) : Int) + 1
  else 1 - (Nat.clog 10 ((denominator + numerator - 1) / numerator) : Int)

/-- The digits nearest to a positive ratio that read back as the same double, if any `count` of
them do. -/
def digitsOf (numerator denominator : Nat) (count : Nat) : Option Nat :=
  let (above, below) :=
    scaled denominator 10 (decimalPlaces numerator denominator - count)
  let lower := numerator * below / above
  let rest := numerator * below % above
  let readsBack := fun digits : Nat =>
    roundRatio false (digits * above) (below * denominator) =
      roundRatio false numerator denominator
  let nearest :=
    if above < 2 * rest ∨ above = 2 * rest ∧ lower % 2 = 1 then [lower + 1, lower]
    else [lower, lower + 1]
  nearest.find? fun digits => decide (0 < digits) && decide (readsBack digits)

/-- The fewest digits that read back as the same double. -/
def shortestDigits (numerator denominator : Nat) : Nat × Nat :=
  let counts := (List.range 17).map (· + 1)
  (counts.findSome? fun count => (digitsOf numerator denominator count).map (·, count)).getD (0, 1)

/-- `Number::toString` of a positive double: its digits, and the place of the point. -/
def layOut (digits : List Char) (places : Int) : List Char :=
  let count : Int := digits.length
  if count ≤ places ∧ places ≤ 21 then
    digits ++ List.replicate (places - count).toNat '0'
  else if 0 < places ∧ places ≤ 21 then
    digits.take places.toNat ++ '.' :: digits.drop places.toNat
  else if -6 < places ∧ places ≤ 0 then
    '0' :: '.' :: List.replicate (-places).toNat '0' ++ digits
  else
    let exponent := places - 1
    let sign := if exponent < 0 then '-' else '+'
    let point := if digits.length = 1 then [] else '.' :: digits.drop 1
    digits.take 1 ++ point ++ 'e' :: sign :: decimalDigits exponent.natAbs

/-- The digits without the zeros at their end. -/
def trimZeros (digits : List Char) : List Char :=
  (digits.reverse.dropWhile (· = '0')).reverse

/-- How `JSON.stringify` writes a number. -/
def Double.text : Double → List Char
  | .infinite _ => ['n', 'u', 'l', 'l']
  | .finite negative mantissa exponent =>
      if mantissa = 0 then ['0']
      else
        let (numerator, denominator) := scaled mantissa 2 exponent
        let (digits, count) := shortestDigits numerator denominator
        let written := decimalDigits digits
        let places := decimalPlaces numerator denominator + (written.length - count : Int)
        (if negative then ['-'] else []) ++ layOut (trimZeros written) places

end SimulatorBroker.Text
