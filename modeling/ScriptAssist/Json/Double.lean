/-!
# Doubles

The finite numbers of the format binary64, in exact integer arithmetic: rounding a quotient to
the nearest double, scaling by a power of ten, and the shortest decimal that rounds to a double.
No operation leaves the natural numbers, so every result can be computed in a proof.
-/

namespace ScriptAssist

/-- The magnitude `significand * 2 ^ exponent`. -/
structure Magnitude where
  significand : Nat
  exponent : Int
  deriving DecidableEq, Repr

/-- A finite double: a magnitude with a sign, so zero comes twice. -/
structure Double where
  negative : Bool
  magnitude : Magnitude
  deriving DecidableEq, Repr

/-- The quotient rounded to the nearest whole number, a tie to the even one. -/
def roundQuotient (num den : Nat) : Nat :=
  let q := num / den
  let twice := 2 * (num % den)
  if twice < den ∨ (twice = den ∧ q % 2 = 0) then q else q + 1

namespace Magnitude

/-- The smallest exponent; no double lies between zero and two to it. -/
def minExponent : Int := -1074

/-- The largest exponent; a magnitude that needs a larger one is out of range. -/
def maxExponent : Int := 971

/-- Zero. -/
def zero : Magnitude := ⟨0, minExponent⟩

/-- Numerator and denominator of the value. -/
def ratio (x : Magnitude) : Nat × Nat :=
  (x.significand * Nat.pow 2 x.exponent.toNat, Nat.pow 2 (-x.exponent).toNat)

/-- The magnitude nearest to a quotient, a tie to the even significand. The significand gets 53
bits, or fewer where the exponent is smallest. -/
def ofRatio (num den : Nat) : Magnitude :=
  if num = 0 then zero
  else
    let least := max ((num.log2 : Int) - den.log2 - 53) minExponent
    let scaled (e : Int) := (num * Nat.pow 2 (-e).toNat, den * Nat.pow 2 e.toNat)
    let fits := (scaled least).1 / (scaled least).2 < Nat.pow 2 53
    let exponent := if fits then least else least + 1
    let significand := roundQuotient (scaled exponent).1 (scaled exponent).2
    if significand = Nat.pow 2 53 then ⟨Nat.pow 2 52, exponent + 1⟩ else ⟨significand, exponent⟩

/-- Whether the magnitude is that of a finite double. -/
def isFinite (x : Magnitude) : Bool :=
  x.exponent ≤ maxExponent

/-- The nearest magnitude to the product. -/
def mul (x y : Magnitude) : Magnitude :=
  ofRatio (x.ratio.1 * y.ratio.1) (x.ratio.2 * y.ratio.2)

/-- The nearest magnitude to the quotient. -/
def div (x y : Magnitude) : Magnitude :=
  ofRatio (x.ratio.1 * y.ratio.2) (x.ratio.2 * y.ratio.1)

/-- The nearest magnitude to a power of ten. -/
def tenTo (n : Nat) : Magnitude :=
  ofRatio (Nat.pow 10 n) 1

/-- The largest power of ten in one scaling step; the next one is out of range. -/
def maxTen : Nat := 308

/-- Divides by the largest power of ten, the given number of times or until nothing is left. -/
def divTens : Nat → Magnitude → Magnitude
  | 0, x => x
  | n + 1, x => if x.significand = 0 then x else divTens n (x.div (tenTo maxTen))

/-- The magnitude of `digits * 10 ^ exponent`, as reading a number computes it: the digits are
rounded first, and the result is rounded again after each scaling step. None if the number is
out of range. -/
def ofDecimal? (digits : Nat) (exponent : Int) : Option Magnitude :=
  let x := ofRatio digits 1
  if 0 ≤ exponent then
    if exponent ≤ maxTen then
      let y := x.mul (tenTo exponent.toNat)
      if y.isFinite then some y else none
    else if x.significand = 0 then some zero else none
  else
    let steps := ((-exponent).toNat - 1) / maxTen
    some ((divTens steps x).div (tenTo ((-exponent).toNat - steps * maxTen)))

/-- Compares the value with `10 ^ n`. -/
def atLeastTen (x : Magnitude) (n : Int) : Bool :=
  Nat.pow 10 n.toNat * x.ratio.2 ≤ x.ratio.1 * Nat.pow 10 (-n).toNat

/-- The place of the first decimal digit: the greatest `n` such that `10 ^ n` is not above the
value. The estimate from the binary length is off by one at most. -/
def tens (x : Magnitude) : Int :=
  let guess := ((x.significand.log2 : Int) + x.exponent) * 30103 / 100000
  if x.atLeastTen (guess + 1) then guess + 1
  else if x.atLeastTen guess then guess
  else guess - 1

/-- The whole multiple of `10 ^ place` that rounds to the value, if there is one; of two, the
nearer, and of two equally near ones the even one. Quarters of the last binary place separate the
value from the numbers halfway to its neighbours; those round to it if its significand is even. -/
def onGrid? (x : Magnitude) (place : Int) : Option Nat :=
  let e := x.exponent - 2
  let scale (quarters : Nat) := quarters * Nat.pow 2 e.toNat * Nat.pow 10 (-place).toNat
  let unit := Nat.pow 2 (-e).toNat * Nat.pow 10 place.toNat
  let value := 4 * x.significand
  let narrow := x.significand = Nat.pow 2 52 ∧ x.exponent ≠ minExponent
  let low := scale (value - if narrow then 1 else 2)
  let high := scale (value + 2)
  let even := x.significand % 2 = 0
  let below := scale value / unit
  let above := below + 1
  let belowFits := if even then low ≤ below * unit else low < below * unit
  let aboveFits := if even then above * unit ≤ high else above * unit < high
  if belowFits ∧ aboveFits then some (roundQuotient (scale value) unit)
  else if belowFits then some below
  else if aboveFits then some above
  else none

/-- The fewest decimal digits that round to the value, and the place of the last of them.
Seventeen digits are always enough. -/
def shortest (x : Magnitude) : Nat × Int :=
  let first := x.tens
  ((List.range 17).findSome? fun (n : Nat) =>
    (x.onGrid? (first - n)).map fun digits => (digits, first - n)).getD (0, 0)

/-- The digits without trailing zeros, and the number of places before the decimal point. -/
def decimal (x : Magnitude) : List Char × Int :=
  let (digits, place) := x.shortest
  let text := Nat.toDigits 10 digits
  ((text.reverse.dropWhile (· = '0')).reverse, text.length + place)

/-- The value in decimal: positional from `1e-5` up to `1e16` and with an exponent elsewhere. A
positional number has a digit on either side of the point. -/
def text (x : Magnitude) : String :=
  if x.significand = 0 then "0.0"
  else
    let (digits, point) := x.decimal
    if -4 ≤ point ∧ point ≤ 0 then
      "0." ++ String.ofList (List.replicate (-point).toNat '0' ++ digits)
    else if 0 < point ∧ point ≤ 16 then
      let whole := digits.take point.toNat ++ List.replicate (point.toNat - digits.length) '0'
      let fraction := digits.drop point.toNat
      String.ofList (whole ++ '.' :: if fraction.isEmpty then ['0'] else fraction)
    else
      let mantissa := digits.take 1 ++ if digits.length ≤ 1 then [] else '.' :: digits.drop 1
      let sign := if point ≤ 0 then "-" else "+"
      String.ofList mantissa ++ "e" ++ sign ++ toString (point - 1).natAbs

end Magnitude

namespace Double

/-- A whole number, rounded. -/
def ofNat (negative : Bool) (n : Nat) : Double :=
  ⟨negative, .ofRatio n 1⟩

/-- The number in decimal. -/
def text (x : Double) : String :=
  (if x.negative then "-" else "") ++ x.magnitude.text

end Double

end ScriptAssist
