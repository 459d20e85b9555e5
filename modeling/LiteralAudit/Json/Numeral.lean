import LiteralAudit.Number.Binary64
import LiteralAudit.Text.Digits

/-!
# Numbers in JSON texts

What the text of a number stands for. Integers of 64 bits are exact; all else is a binary
floating-point number. It is found from the leading digits that fit in 64 bits and a power of ten,
with one rounding for the digits and one for each multiplication or division by a power of ten.
-/

namespace LiteralAudit.Json

inductive Numeral where
  | natural (value : Nat)
  /-- A negative integer, by its absolute value. -/
  | negative (magnitude : Nat)
  | floating (isNegative : Bool) (value : Binary64)
  deriving DecidableEq, Repr

namespace Numeral

/-- The greatest integer of 64 bits without sign. -/
def greatestNatural : Nat := 0xFFFFFFFFFFFFFFFF

/-- The greatest absolute value of a negative integer of 64 bits. -/
def greatestMagnitude : Nat := 0x8000000000000000

/-- The greatest power of ten used in one step. -/
def greatestPower : Nat := 308

/-- Leading digits that fit in 64 bits, and how many digits did not fit. -/
def takeDigits (start : Nat) : List Char → Nat × Nat
  | [] => (start, 0)
  | digit :: rest =>
      let next := start * 10 + (Digits.decimalValue? digit).getD 0
      if next ≤ greatestNatural then takeDigits next rest else (start, rest.length + 1)

def scale? (value : Binary64) (power : Int) : Option Binary64 :=
  if power ≥ 0 then
    if power ≤ greatestPower then
      (Binary64.ofNat? (Nat.pow 10 power.toNat)).bind value.mul?
    else if value.isZero then some value
    else none
  else lower power.natAbs value
where
  /-- Divides by a power of ten, in steps of the greatest one. -/
  lower (power : Nat) (value : Binary64) : Option Binary64 :=
    if power ≤ greatestPower then (Binary64.ofNat? (Nat.pow 10 power)).bind value.div?
    else if value.isZero then some value
    else
      ((Binary64.ofNat? (Nat.pow 10 greatestPower)).bind value.div?).bind fun quotient =>
        lower (power - greatestPower) quotient
  termination_by power
  decreasing_by simp [greatestPower] at *; omega

/-- The parts of a number text: sign, digits before the point, digits after it, and the power of
ten that it names. -/
structure Parts where
  isNegative : Bool
  whole : List Char
  fraction : Option (List Char)
  power : Option Int
  deriving DecidableEq, Repr

def Parts.ofText (text : List Char) : Parts :=
  let isNegative := text.head? == some '-'
  let unsigned := if isNegative then text.drop 1 else text
  let whole := unsigned.takeWhile Digits.isDecimal
  let afterWhole := unsigned.dropWhile Digits.isDecimal
  let hasPoint := afterWhole.head? == some '.'
  let fraction := if hasPoint then some ((afterWhole.drop 1).takeWhile Digits.isDecimal) else none
  let afterFraction :=
    if hasPoint then (afterWhole.drop 1).dropWhile Digits.isDecimal else afterWhole
  let power :=
    match afterFraction with
    | [] => none
    | _ :: '-' :: digits => some (-(Digits.decimalNumber digits : Int))
    | _ :: '+' :: digits => some (Digits.decimalNumber digits : Int)
    | _ :: digits => some (Digits.decimalNumber digits : Int)
  { isNegative, whole, fraction, power }

def floating? (isNegative : Bool) (digits : Nat) (power : Int) : Option Numeral :=
  ((Binary64.ofNat? digits).bind fun value => scale? value power).map (.floating isNegative)

/-- The value of a well-formed number text, or nothing when it is too great. -/
def ofText? (text : List Char) : Option Numeral :=
  let parts := Parts.ofText text
  let (wholeDigits, wholeDropped) := takeDigits 0 parts.whole
  if parts.fraction.isNone && parts.power.isNone && wholeDropped == 0 then
    if !parts.isNegative then some (.natural wholeDigits)
    else if wholeDigits ≠ 0 ∧ wholeDigits ≤ greatestMagnitude then some (.negative wholeDigits)
    else floating? true wholeDigits 0
  else
    let fraction := parts.fraction.getD []
    let (digits, fractionDropped) := takeDigits wholeDigits fraction
    let power : Int :=
      (wholeDropped : Int) - ((fraction.length : Int) - (fractionDropped : Int)) +
        parts.power.getD 0
    floating? parts.isNegative digits power

def text : Numeral → String
  | natural value => toString value
  | negative magnitude => "-" ++ toString magnitude
  | floating isNegative value => (if isNegative then "-" else "") ++ value.text

end Numeral

end LiteralAudit.Json
