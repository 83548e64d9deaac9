/-!
# Decimals of binary fractions

A number of 64 bits in floating point is written with the fewest decimal digits that single it out: the
decimal is nearer to it than to any other such number.  Of several decimals with as few digits it is the
nearest one, and of two that are equally near the one with the even last digit.

## Shape of the search

A finite positive number is a fraction `m * 2 ^ q`.  All that is closer to it than to its neighbours lies
between two halfway points; the points themselves belong to it when `m` is even.  For one digit, two
digits and so on the search looks at the two decimals around the number on the grid of that many digits,
and takes the first that lies between the points.  Everything is compared as whole numbers.

## Layout

The digits are laid out with a point unless the number is very large or very small; a whole number ends
in `.0`.  Others have one digit before the point, and an exponent with a sign.
-/

namespace TrigramGrep.Decimal

/-- A positive binary fraction `m * 2 ^ q`. -/
structure Fraction where
  m : Nat
  q : Int
  /-- Whether the number below is only half as far away as the one above. -/
  isNarrowBelow : Bool
  deriving DecidableEq, Repr

/-- A decimal `digits * 10 ^ exponent`. -/
structure Digits where
  digits : Nat
  exponent : Int
  deriving DecidableEq, Repr

/-- The bit of the sign, in front of all others. -/
def signBit : Nat := 0x8000000000000000

/-- The bit that stands in front of the fraction but is not written. -/
def implicitBit : Nat := 0x10000000000000

/-- The size of a finite number, its sign put aside. -/
def Fraction.ofFloat (x : Float) : Fraction :=
  let bits : Nat := x.toBits.toNat % signBit
  let field : Nat := bits / implicitBit
  let fraction : Nat := bits % implicitBit
  if field = 0 then { m := fraction, q := -1074, isNarrowBelow := false }
  else
    { m := implicitBit + fraction
      q := Int.ofNat field - 1075
      isNarrowBelow := fraction = 0 ∧ 1 < field }

/-- Compares `a * 10 ^ i` with `b * 2 ^ j`. -/
def compareScaled (a : Nat) (i : Int) (b : Nat) (j : Int) : Ordering :=
  compare (a * Nat.pow 10 i.toNat * Nat.pow 2 (-j).toNat)
    (b * Nat.pow 2 j.toNat * Nat.pow 10 (-i).toNat)

namespace Fraction

/-- Whether a decimal is nearer to a fraction than to any other. -/
def owns (x : Fraction) (d : Digits) : Bool :=
  let low := if x.isNarrowBelow then 4 * x.m - 1 else 4 * x.m - 2
  let high := 4 * x.m + 2
  let isEven := x.m % 2 = 0
  let above := compareScaled d.digits d.exponent low (x.q - 2)
  let below := compareScaled d.digits d.exponent high (x.q - 2)
  (above = .gt || above = .eq && isEven) && (below = .lt || below = .eq && isEven)

/-- The largest whole number `n` with `n * 10 ^ exponent` not above a fraction. -/
def floorAt (x : Fraction) (exponent : Int) : Nat :=
  x.m * Nat.pow 2 x.q.toNat * Nat.pow 10 (-exponent).toNat /
    (Nat.pow 2 (-x.q).toNat * Nat.pow 10 exponent.toNat)

/-- The least number of digits before the point of a fraction: it is below ten to that power.  The
search starts at a guess that is not too high. -/
def magnitudeFrom (x : Fraction) : (fuel : Nat) → (guess : Int) → Int
  | 0, guess => guess
  | fuel + 1, guess =>
    if compareScaled 1 guess x.m x.q = .gt then guess else magnitudeFrom x fuel (guess + 1)

/-- The place of the first digit of a fraction before the point, places behind it counting down. -/
def magnitude (x : Fraction) : Int :=
  x.magnitudeFrom 100 ((Int.ofNat x.m.log2 + x.q) * 3 / 10 - 40)

/-- The nearest of the decimals of `count` digits around a fraction that it owns. -/
def candidate? (x : Fraction) (count : Nat) : Option Digits :=
  let exponent := x.magnitude - count
  let n := x.floorAt exponent
  let low : Digits := ⟨n, exponent⟩
  let high : Digits := ⟨n + 1, exponent⟩
  match x.owns low, x.owns high with
  | true, false => some low
  | false, true => some high
  | false, false => none
  | true, true =>
    match compareScaled (2 * n + 1) exponent (2 * x.m) x.q with
    | .gt => some low
    | .lt => some high
    | .eq => some (if n % 2 = 0 then low else high)

/-- The decimal with the fewest digits that a fraction owns. -/
def shortest (x : Fraction) : Digits :=
  ((List.range 17).findSome? fun n => x.candidate? (n + 1)).getD ⟨x.floorAt 0, 0⟩

end Fraction

/-- A decimal without zeros at the end of its digits; `fuel` bounds their number. -/
def Digits.trim : (fuel : Nat) → Digits → Digits
  | 0, d => d
  | fuel + 1, d =>
    if d.digits ≠ 0 ∧ d.digits % 10 = 0 then trim fuel ⟨d.digits / 10, d.exponent + 1⟩ else d

/-- An exponent with its sign. -/
def exponentText (exponent : Int) : String :=
  (if exponent < 0 then "e" else "e+") ++ toString exponent

/-- A decimal laid out. -/
def Digits.layOut (d : Digits) : String :=
  let digits := toString d.digits
  let count := digits.length
  let first : Int := count + d.exponent
  if 0 ≤ d.exponent ∧ first ≤ 16 then
    digits ++ "".pushn '0' d.exponent.toNat ++ ".0"
  else if 0 < first ∧ first ≤ 16 then
    (digits.take first.toNat).toString ++ "." ++ (digits.drop first.toNat).toString
  else if -5 < first ∧ first ≤ 0 then
    "0." ++ "".pushn '0' (-first).toNat ++ digits
  else if count = 1 then digits ++ exponentText (first - 1)
  else
    (digits.take 1).toString ++ "." ++ (digits.drop 1).toString ++ exponentText (first - 1)

/-- A finite number in decimal. -/
def text (x : Float) : String :=
  let sign := if signBit ≤ x.toBits.toNat then "-" else ""
  let fraction := Fraction.ofFloat x
  if fraction.m = 0 then sign ++ "0.0" else sign ++ (fraction.shortest.trim 20).layOut

end TrigramGrep.Decimal
