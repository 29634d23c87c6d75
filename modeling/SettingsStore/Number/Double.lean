/-!
# Doubles

A double is a sign, a significand below `2 ^ 53` and a power of two, or one of
the values that are not finite.  Reading a decimal rounds the exact quotient to
the nearest double, a half going to the even neighbour, in arithmetic on natural
numbers throughout.
-/

namespace SettingsStore

/-- A binary floating-point number with a significand of 53 bits. -/
inductive Double where
  | notANumber
  | infinite (negative : Bool)
  | finite (negative : Bool) (significand : Nat) (exponent : Int)
  deriving DecidableEq

namespace Double

/-- The power of two of the smallest positive double. -/
def leastExponent : Int := -1074

/-- The power of two of the largest finite double. -/
def greatestExponent : Int := 971

/-- Zero with a sign. -/
def zero (negative : Bool) : Double :=
  .finite negative 0 leastExponent

/-- The quotient nearest to a fraction, a half going to the even neighbour. -/
def roundQuotient (numerator denominator : Nat) : Nat :=
  let quotient := numerator / denominator
  let twice := 2 * (numerator % denominator)
  if twice < denominator then quotient
  else if denominator < twice then quotient + 1
  else quotient + quotient % 2

/-- The fraction divided by a power of two, as numerator and denominator. -/
def scaleDown (numerator denominator : Nat) (exponent : Int) : Nat × Nat :=
  if 0 ≤ exponent then (numerator, denominator * Nat.pow 2 exponent.toNat)
  else (numerator * Nat.pow 2 (-exponent).toNat, denominator)

/--
The power of two at which the whole part of a positive fraction has 53 bits, or
the least there is.
-/
def scaleOf (numerator denominator : Nat) : Int :=
  let guess :=
    max leastExponent ((numerator.log2 : Int) - denominator.log2 - 53)
  let (scaled, unit) := scaleDown numerator denominator guess
  if Nat.pow 2 53 ≤ scaled / unit then guess + 1 else guess

/-- The double nearest to a fraction. -/
def ofRatio (negative : Bool) (numerator denominator : Nat) : Double :=
  if numerator = 0 then zero negative
  else
    let exponent := scaleOf numerator denominator
    let (scaled, unit) := scaleDown numerator denominator exponent
    let significand := roundQuotient scaled unit
    let (significand, exponent) :=
      if significand = Nat.pow 2 53 then
        (Nat.pow 2 52, exponent + 1)
      else (significand, exponent)
    if greatestExponent < exponent then .infinite negative
    else .finite negative significand exponent

/--
The double nearest to `digits · 10 ^ exponent`; far beyond the range the power
is not computed.
-/
def ofDecimal (negative : Bool) (digits : Nat) (exponent : Int) : Double :=
  if digits = 0 ∨ exponent < -400 - (digits.log2 : Int) - 1 then zero negative
  else if 400 < exponent then .infinite negative
  else if 0 ≤ exponent then
    ofRatio negative (digits * Nat.pow 10 exponent.toNat) 1
  else ofRatio negative digits (Nat.pow 10 (-exponent).toNat)

/-- The whole part of a finite double, with its sign. -/
def truncate (negative : Bool) (significand : Nat) (exponent : Int) : Int :=
  let magnitude : Nat :=
    if 0 ≤ exponent then significand * Nat.pow 2 exponent.toNat
    else significand / Nat.pow 2 (-exponent).toNat
  if negative then -(magnitude : Int) else magnitude

/-- The greatest whole number that a finite double reaches. -/
def floor (negative : Bool) (significand : Nat) (exponent : Int) : Int :=
  let whole := truncate negative significand exponent
  let exact := 0 ≤ exponent || significand % Nat.pow 2 (-exponent).toNat = 0
  if negative && !exact then whole - 1 else whole

end Double

end SettingsStore
