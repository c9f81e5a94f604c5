import ScriptAssist.Json.Cursor

/-!
# Numbers

A number without fraction and exponent that fits in 64 bits is an integer. Every other one is a
double, minus zero included. Of a double's digits, those are kept that fit in 64 bits; further
digits before the point only raise the exponent, and further ones behind it are dropped.
-/

namespace ScriptAssist.Json

/-- Kept digits are below this bound. -/
def maxSignificand : Nat := UInt64.size

/-- Exponents as written are below this bound. -/
def maxWrittenExponent : Nat := 0x80000000

/-- The digits of the least integer. -/
def maxNegative : Nat := 0x8000000000000000

/-- The value of an ASCII digit. -/
def digitValue (c : Char) : Nat :=
  c.toNat - '0'.toNat

/-- Gathers digits as long as the value stays below a bound: the value, the number of digits
taken, and the rest of the text, which starts with a digit if the bound was met. -/
def gather (bound : Nat) : (value taken : Nat) → List Char → Nat × Nat × List Char
  | value, taken, [] => (value, taken, [])
  | value, taken, ch :: rest =>
    if ch.isDigit ∧ value * 10 + digitValue ch < bound then
      gather bound (value * 10 + digitValue ch) (taken + 1) rest
    else (value, taken, ch :: rest)

/-- The double with the given digits and exponent. -/
def readDouble (negative : Bool) (digits : Nat) (exponent : Int) (c : Cursor) : Result Number :=
  match Magnitude.ofDecimal? digits exponent with
  | some magnitude => .ok (.real ⟨negative, magnitude⟩, c)
  | none => c.failHere .outOfRange

/-- Reads an exponent that starts at the cursor with its letter. -/
def readExponent (negative : Bool) (digits : Nat) (exponent : Int) (c : Cursor) : Result Number :=
  let letter := c.next
  let signed := letter.atChar '+' || letter.atChar '-'
  let down := letter.atChar '-'
  let c := if signed then letter.next else letter
  match c.rest with
  | [] => c.failHere .endInValue
  | ch :: _ =>
    if ch.isDigit then
      let (written, taken, rest) := gather maxWrittenExponent 0 0 c.rest
      let after : Cursor := ⟨rest, c.index + taken⟩
      if after.atDigit then
        if digits ≠ 0 ∧ !down then breachAt .outOfRange (after.index + 1)
        else .ok (.real ⟨negative, .zero⟩, after.skipDigits)
      else
        let exponent := if down then exponent - written else exponent + written
        readDouble negative digits exponent after
    else breachAt .badNumber (c.index + 1)

/-- Reads an exponent if one starts at the cursor. -/
def readExponentOrNone (negative : Bool) (digits : Nat) (exponent : Int) (c : Cursor) :
    Result Number :=
  if c.atChar 'e' || c.atChar 'E' then readExponent negative digits exponent c
  else readDouble negative digits exponent c

/-- Reads a fraction that starts at the cursor with its point, and what may follow it. -/
def readFraction (negative : Bool) (digits : Nat) (exponent : Int) (c : Cursor) : Result Number :=
  let point := c.next
  let (digits, taken, rest) := gather maxSignificand digits 0 point.rest
  let after : Cursor := ⟨rest, point.index + taken⟩
  if after.atDigit then readExponentOrNone negative digits (exponent - taken) after.skipDigits
  else if taken = 0 then
    if after.rest.isEmpty then after.failHere .endInValue else after.failPast .badNumber
  else readExponentOrNone negative digits (exponent - taken) after

/-- The number that ends at the cursor as an integer, or as a double if the sign forbids it. -/
def wholeNumber (negative : Bool) (digits : Nat) : Number :=
  if !negative then .int digits
  else if digits = 0 ∨ maxNegative < digits then .real (.ofNat true digits)
  else .int (-digits)

/-- Reads a number whose sign, if any, has been read. -/
def readNumber (negative : Bool) (c : Cursor) : Result Number :=
  match c.rest with
  | [] => c.failHere .endInValue
  | ch :: _ =>
    if !ch.isDigit then breachAt .badNumber (c.index + 1)
    else if ch = '0' ∧ c.next.atDigit then c.next.failPast .badNumber
    else
      let (digits, taken, rest) := gather maxSignificand 0 0 c.rest
      let after : Cursor := ⟨rest, c.index + taken⟩
      let behind := after.skipDigits
      if behind.atChar '.' then readFraction negative digits (behind.index - after.index) behind
      else if after.atDigit || behind.atChar 'e' || behind.atChar 'E' then
        readExponentOrNone negative digits (behind.index - after.index) behind
      else .ok (wholeNumber negative digits, behind)

end ScriptAssist.Json
