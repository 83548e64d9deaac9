import TrigramGrep.Json.Input

/-!
# Numbers of JSON

A number without fraction and exponent that fits 64 bits is exact.  Every other one is a decimal: its
first digits make up a whole number of 64 bits, which is then scaled by a power of ten in floating point.
Digits that do not fit any more only move the power.
-/

namespace TrigramGrep.Json

/-- A number. -/
inductive Number where
  | integer (value : Int)
  | decimal (value : Float)
  deriving Repr

/-- A number that stands where something else is expected. -/
def Number.found : Number → Found
  | .integer value => .integer value
  | .decimal value => .decimal (Decimal.text value)

namespace Number

/-- A whole number in floating point. -/
def floatOf (n : Nat) : Float := Float.ofScientific n false 0

/-- A power of ten in floating point. -/
def powerOfTen (n : Nat) : Float := Float.ofScientific 1 false n

/-- The largest power of ten that scaling goes by in one step. -/
def largestPower : Nat := 308

/-- A number divided by a power of ten, in steps if the power is large. -/
def scaleDown (x : Float) (power : Nat) : Float :=
  if power ≤ largestPower then x / powerOfTen power
  else if x == 0 then x
  else scaleDown (x / powerOfTen largestPower) (power - largestPower)
termination_by power
decreasing_by
  simp only [largestPower] at *
  omega

/-- A whole number times a power of ten, if that is not too large. -/
def scale? (significand : Nat) (exponent : Int) : Option Float :=
  let x := floatOf significand
  if exponent < 0 then some (scaleDown x exponent.natAbs)
  else if exponent.toNat ≤ largestPower then
    let y := x * powerOfTen exponent.toNat
    if y.isInf then none else some y
  else if x == 0 then some x
  else none

/-- A number of 64 bits with more digits behind it, as long as it still fits; and the digits that are
left. -/
def extend (significand : Nat) : Bytes → Nat × Bytes
  | [] => (significand, [])
  | byte :: rest =>
    let longer := significand * 10 + digitValue byte
    if longer < UInt64.size then extend longer rest else (significand, byte :: rest)

/-- The largest exponent that is read. -/
def maxExponent : Nat := 0x7FFFFFFF

/-- The value of the digits of an exponent.  When it grows too large, the input behind the digit at which
it does is given instead. -/
def exponentFrom (value : Nat) (i : Input) : Bytes → Except Input Nat
  | [] => .ok value
  | byte :: rest =>
    let longer := value * 10 + digitValue byte
    if maxExponent < longer then .error i.next else exponentFrom longer i.next rest

/-- An exponent, whose letter comes next, of the decimal `significand * 10 ^ exponent`. -/
def readExponent (significand : Nat) (exponent : Int) (i : Input) : Reading Float :=
  let i := i.next
  let isNegative := i.peek? = some minus
  let i := if isNegative || i.peek? = some 43 then i.next else i
  match i.peek? with
  | none => i.fault .endInValue
  | some byte =>
    if !isDigit byte then i.next.fault .badNumber
    else
      let (digits, after) := i.takeWhile isDigit
      match exponentFrom 0 i digits with
      | .error place =>
        if significand ≠ 0 && !isNegative then place.fault .numberTooLarge
        else .ok (0, after)
      | .ok value =>
        match scale? significand (if isNegative then exponent - value else exponent + value) with
        | none => after.fault .numberTooLarge
        | some x => .ok (x, after)

/-- What is left of the decimal `significand * 10 ^ exponent`: an exponent or nothing. -/
def readScale (significand : Nat) (exponent : Int) (i : Input) : Reading Float :=
  if i.peek? = some 101 || i.peek? = some 69 then readExponent significand exponent i
  else
    match scale? significand exponent with
    | none => i.fault .numberTooLarge
    | some x => .ok (x, i)

/-- A fraction, whose point comes next, of the decimal `significand * 10 ^ exponent`. -/
def readFraction (significand : Nat) (exponent : Int) (i : Input) : Reading Float :=
  let i := i.next
  let (digits, after) := i.takeWhile isDigit
  if digits.isEmpty then i.faultAhead (if i.rest.isEmpty then .endInValue else .badNumber)
  else
    let (longer, left) := extend significand digits
    readScale longer (exponent - (digits.length - left.length : Nat)) after

/-- A number whose sign has been read. -/
def readUnsigned (isNegative : Bool) (i : Input) : Reading Number :=
  match i.peek? with
  | none => i.fault .endInValue
  | some byte =>
    if !isDigit byte then i.next.fault .badNumber
    else
      let (digits, after) := i.takeWhile isDigit
      if byte = 48 && 1 < digits.length then i.next.faultAhead .badNumber
      else
        let (significand, left) := extend 0 digits
        let sign (x : Float) : Float := if isNegative then -x else x
        let decimal (reading : Reading Float) : Reading Number :=
          match reading with
          | .error fault => .error fault
          | .ok (x, after) => .ok (.decimal (sign x), after)
        if after.peek? = some 46 then decimal (readFraction significand left.length after)
        else if after.peek? = some 101 || after.peek? = some 69 || !left.isEmpty then
          decimal (readScale significand left.length after)
        else if !isNegative then .ok (.integer significand, after)
        else if significand = 0 || 0x8000000000000000 < significand then
          .ok (.decimal (-floatOf significand), after)
        else .ok (.integer (-significand), after)

/-- A number, which comes next. -/
def read (i : Input) : Reading Number :=
  if i.peek? = some minus then readUnsigned true i.next else readUnsigned false i

/-! ## Numbers that are not looked at -/

/-- The input behind an exponent, whose letter comes next. -/
def skipExponent (i : Input) : Except Fault Input :=
  let i := i.next
  let i := if i.peek? = some minus || i.peek? = some 43 then i.next else i
  if i.peek?.any isDigit then .ok (i.takeWhile isDigit).2 else i.next.fault .badNumber

/-- The input behind an exponent, if one comes next. -/
def skipScale (i : Input) : Except Fault Input :=
  if i.peek? = some 101 || i.peek? = some 69 then skipExponent i else .ok i

/-- The input behind a number, which comes next. -/
def skip (i : Input) : Except Fault Input :=
  let i := if i.peek? = some minus then i.next else i
  let (digits, after) := i.takeWhile isDigit
  if digits.isEmpty then i.next.fault .badNumber
  else if digits.head? = some 48 && 1 < digits.length then i.next.faultAhead .badNumber
  else if after.peek? = some 46 then
    let (fraction, behind) := after.next.takeWhile isDigit
    if fraction.isEmpty then after.next.faultAhead .badNumber else skipScale behind
  else skipScale after

end Number

end TrigramGrep.Json
