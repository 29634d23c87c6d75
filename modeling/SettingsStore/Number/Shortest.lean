import SettingsStore.Number.Double

/-!
# Shortest decimals

The shortest decimal that a reader takes back to the same double, and among
those of that length the one nearest to it.  A double is read back from every
decimal in the interval up to half the way to its neighbours, the ends included
when the significand is even.  For each number of digits in turn the two
neighbours of the double on that decimal grid are tried; the first grid with a
hit decides.
-/

namespace SettingsStore

/-- A decimal `digits · 10 ^ exponent`. -/
structure Decimal where
  digits : Nat
  exponent : Int
  deriving DecidableEq

namespace Decimal

/-- The same decimal without zeros at the end of its digits. -/
def trimmed (fuel : Nat) (decimal : Decimal) : Decimal :=
  match fuel with
  | 0 => decimal
  | fuel + 1 =>
    if decimal.digits % 10 = 0 ∧ decimal.digits ≠ 0 then
      trimmed fuel ⟨decimal.digits / 10, decimal.exponent + 1⟩
    else decimal

end Decimal

namespace Double

/--
The position of the first digit of a positive fraction: `10 ^ position` is at
most its value and ten times that is more.
-/
def decimalPosition (numerator denominator : Nat) : Int :=
  let guess : Int :=
    ((Nat.toDigits 10 numerator).length :
        Int) - (Nat.toDigits 10 denominator).length
  let reached :=
    if 0 ≤ guess then decide (denominator * Nat.pow 10 guess.toNat ≤ numerator)
    else decide (denominator ≤ numerator * Nat.pow 10 (-guess).toNat)
  if reached then guess else guess - 1

/--
The decimal with a number of digits that lies in the interval of a double, if
one of the two grid points beside the double does.  Everything is multiplied up
to whole numbers: `point c` stands for `c · 10 ^ exponent` and `quarter x` for
`x` quarters of the last place of the double.
-/
def decimalAt?
    (significand : Nat)
    (exponent : Int)
    (position : Int)
    (count : Nat) :
    Option Decimal :=
  let grid := position - (count : Int) + 1
  let place := exponent - 2
  let point (candidate : Nat) : Nat :=
    candidate * Nat.pow 10 grid.toNat * Nat.pow 2 (-place).toNat
  let quarter (quarters : Nat) : Nat :=
    quarters * Nat.pow 2 place.toNat * Nat.pow 10 (-grid).toNat
  let gap :=
    if significand = Nat.pow 2 52 ∧ leastExponent < exponent then 1 else 2
  let lower := quarter (4 * significand - gap)
  let upper := quarter (4 * significand + 2)
  let inside (candidate : Nat) : Bool :=
    if significand % 2 = 0 then
      lower ≤ point candidate && point candidate ≤ upper
    else lower < point candidate && point candidate < upper
  let below := quarter (4 * significand) / point 1
  let above := below + 1
  if inside below then
    if inside above then
      let both := point below + point above
      let exact := 2 * quarter (4 * significand)
      if exact < both ∨ (exact = both ∧ below % 2 = 0) then some ⟨below, grid⟩
      else some ⟨above, grid⟩
    else some ⟨below, grid⟩
  else if inside above then some ⟨above, grid⟩
  else none

/-- The shortest decimal that reads back as a positive finite double. -/
def shortest (significand : Nat) (exponent : Int) : Decimal :=
  let (numerator, denominator) := scaleDown significand 1 (-exponent)
  let position := decimalPosition numerator denominator
  let found := (List.range 17).findSome? fun count =>
    decimalAt? significand exponent position (count + 1)
  (found.getD ⟨0, 0⟩).trimmed 17

end Double

/--
How the decimal of a double is laid out, and the words for what is not finite.
-/
structure DoubleStyle where
  /--
  The least position of a first digit that is written without an exponent.
  -/
  leastPosition : Int
  /--
  The greatest position of a first digit that is written without an exponent.
  -/
  greatestPosition : Int
  /-- The least number of digits of an exponent. -/
  exponentWidth : Nat
  notANumber : String
  infinity : String

namespace DoubleStyle

/-- An exponent with its sign, padded with zeros. -/
def exponentText (style : DoubleStyle) (exponent : Int) : List Char :=
  let digits := Nat.toDigits 10 exponent.natAbs
  'e' :: (if exponent < 0 then '-' else '+') ::
    (List.replicate (style.exponentWidth - digits.length) '0' ++ digits)

/--
A decimal with a point, always with a digit on each side of it unless an
exponent follows.
-/
def decimalText (style : DoubleStyle) (decimal : Decimal) : List Char :=
  let digits := Nat.toDigits 10 decimal.digits
  let position := decimal.exponent + (digits.length : Int) - 1
  if style.leastPosition ≤ position ∧ position ≤ style.greatestPosition then
    if position < 0 then
      '0' :: '.' :: (List.replicate (-position - 1).toNat '0' ++ digits)
    else
      let whole := position.toNat + 1
      if digits.length ≤ whole then
        digits ++ List.replicate (whole - digits.length) '0' ++ ['.', '0']
      else digits.take whole ++ '.' :: digits.drop whole
  else
    let fraction := digits.drop 1
    digits.take 1 ++ (if fraction.isEmpty then [] else '.' :: fraction) ++
      style.exponentText position

/-- The text of a double. -/
def text (style : DoubleStyle) : Double → List Char
  | .notANumber => style.notANumber.toList
  | .infinite negative =>
      (if negative then ['-'] else []) ++ style.infinity.toList
  | .finite negative significand exponent =>
    (if negative then ['-'] else []) ++
      (if significand = 0 then ['0', '.', '0']
        else style.decimalText (Double.shortest significand exponent))

end DoubleStyle

end SettingsStore
