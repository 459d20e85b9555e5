/-!
# Digits

Digit values in bases ten and sixteen, and the numbers that runs of digits write.
-/

namespace LiteralAudit.Digits

def decimalValue? (digit : Char) : Option Nat :=
  if '0' ≤ digit ∧ digit ≤ '9' then some (digit.toNat - '0'.toNat) else none

def hexValue? (digit : Char) : Option Nat :=
  if '0' ≤ digit ∧ digit ≤ '9' then some (digit.toNat - '0'.toNat)
  else if 'a' ≤ digit ∧ digit ≤ 'f' then some (digit.toNat - 'a'.toNat + 10)
  else if 'A' ≤ digit ∧ digit ≤ 'F' then some (digit.toNat - 'A'.toNat + 10)
  else none

def isDecimal (digit : Char) : Bool :=
  (decimalValue? digit).isSome

def isHex (digit : Char) : Bool :=
  (hexValue? digit).isSome

/-- The number written by decimal digits, most significant first; characters that are no digits
count as zero. -/
def decimalNumber (digits : List Char) : Nat :=
  digits.foldl (fun number digit => number * 10 + (decimalValue? digit).getD 0) 0

/-- The number written by hexadecimal digits, most significant first. -/
def hexNumber (digits : List Char) : Nat :=
  digits.foldl (fun number digit => number * 16 + (hexValue? digit).getD 0) 0

def hexDigit (value : Nat) : Char :=
  if value < 10 then Char.ofNat ('0'.toNat + value) else Char.ofNat ('a'.toNat + value - 10)

/-- Hexadecimal text of a number in lower case, without leading zeros. -/
def hexText (number : Nat) : List Char :=
  Nat.toDigits 16 number

end LiteralAudit.Digits
