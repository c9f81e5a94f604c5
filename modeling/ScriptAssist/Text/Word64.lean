/-!
# Numbers below 2^64

A number is written as decimal digits, with a plus sign before them if one likes. The first
character that rules the text out decides what is reported.
-/

namespace ScriptAssist.Word64

/-- Why a text is no number below 2^64. -/
inductive Fault where
  | empty
  | notADigit
  | tooLarge
  deriving DecidableEq, Repr

/-- The fault in words. -/
def Fault.message : Fault → String
  | empty => "cannot parse integer from empty string"
  | notADigit => "invalid digit found in string"
  | tooLarge => "number too large to fit in target type"

/-- Reads digits behind those that make up `value`. -/
def ofDigits : (value : Nat) → List Char → Except Fault Nat
  | value, [] => .ok value
  | value, c :: rest =>
    let next := value * 10 + (c.toNat - '0'.toNat)
    if !c.isDigit then .error .notADigit
    else if UInt64.size ≤ next then .error .tooLarge
    else ofDigits next rest

/-- Reads a number. A plus sign needs a digit behind it. -/
def ofText : List Char → Except Fault Nat
  | [] => .error .empty
  | ['+'] => .error .notADigit
  | c :: rest => ofDigits 0 (if c = '+' then rest else c :: rest)

end ScriptAssist.Word64
