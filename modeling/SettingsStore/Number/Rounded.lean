import SettingsStore.Number.Shortest

/-!
# Rounded decimals

The decimal with a wanted number of digits that is nearest to a double, a half
going to the even neighbour.  Either the digits after the point are counted or
all digits from the first that is not zero.  The value is taken as an exact
fraction.  Three layouts show it: positional, with an exponent, and the general
one, which chooses between these two by the position of the first digit.
-/

namespace SettingsStore.Double

/-- The whole number nearest to a fraction times a power of ten. -/
def scaledDigits (numerator denominator : Nat) (power : Int) : Nat :=
  if 0 ≤ power then
    roundQuotient (numerator * Nat.pow 10 power.toNat) denominator
  else roundQuotient numerator (denominator * Nat.pow 10 (-power).toNat)

/-- A number of digits, at least one, and the position of the first of them. -/
structure Significant where
  digits : List Char
  position : Int

/--
The digits nearest to a fraction, and so many of them; those of zero are zeros.
-/
def significant (numerator denominator count : Nat) : Significant :=
  if numerator = 0 then ⟨List.replicate count '0', 0⟩
  else
    let position := decimalPosition numerator denominator
    let digits :=
      scaledDigits numerator denominator ((count : Int) - 1 - position)
    if digits = Nat.pow 10 count then
      ⟨(Nat.toDigits 10 digits).take count, position + 1⟩
    else ⟨Nat.toDigits 10 digits, position⟩

/-- Digits without the zeros at their end. -/
def withoutZeros (digits : List Char) : List Char :=
  (digits.reverse.dropWhile (· = '0')).reverse

/-- How a rounded decimal is shown. -/
inductive DecimalLayout where
  /-- With a number of digits after the point. -/
  | positional
  /--
  With one digit before the point, a number of digits after it, and an exponent.
  -/
  | scientific
  /--
  With a number of digits in all, and an exponent if the first is far from the
  point.
  -/
  | general
  deriving DecidableEq

/--
The point with the digits after it; where there are none it stands only if it is
asked for.
-/
def afterPoint (alternate : Bool) (digits : List Char) : List Char :=
  if digits.isEmpty && !alternate then [] else '.' :: digits

/-- Digits with the point after the first, and the exponent of a position. -/
def scientificText
    (style : DoubleStyle)
    (alternate : Bool)
    (digits : List Char)
    (position : Int) :
    List Char :=
  digits.take 1 ++ afterPoint alternate (digits.drop 1) ++
    style.exponentText position

/--
The text of a fraction in a layout.  In the general one, zeros at the end are
left out, unless the alternate form is asked for.
-/
def roundedText
    (style : DoubleStyle)
    (layout : DecimalLayout)
    (alternate : Bool)
    (precision numerator denominator : Nat) :
    List Char :=
  match layout with
  | .positional =>
    let digits := Nat.toDigits 10 (scaledDigits numerator denominator precision)
    let digits := List.replicate (precision + 1 - digits.length) '0' ++ digits
    let whole := digits.length - precision
    digits.take whole ++ afterPoint alternate (digits.drop whole)
  | .scientific =>
    let found := significant numerator denominator (precision + 1)
    scientificText style alternate found.digits found.position
  | .general =>
    let count := max precision 1
    let found := significant numerator denominator count
    let kept (fraction : List Char) : List Char :=
      if alternate then fraction else withoutZeros fraction
    if found.position < -4 ∨ count ≤ found.position then
      scientificText style alternate
        (found.digits.take 1 ++ kept (found.digits.drop 1))
        found.position
    else if found.position < 0 then
      let fraction :=
        List.replicate (-found.position - 1).toNat '0' ++ found.digits
      '0' :: afterPoint alternate (kept fraction)
    else
      let whole := found.position.toNat + 1
      found.digits.take whole ++
        afterPoint alternate (kept (found.digits.drop whole))

/-- The text of a double in a layout. -/
def rounded
    (style : DoubleStyle)
    (layout : DecimalLayout)
    (alternate : Bool)
    (precision : Nat) :
    Double → List Char
  | .notANumber => style.notANumber.toList
  | .infinite negative =>
      (if negative then ['-'] else []) ++ style.infinity.toList
  | .finite negative significand exponent =>
    let (numerator, denominator) := scaleDown significand 1 (-exponent)
    (if negative then ['-'] else []) ++
      roundedText style layout alternate precision numerator denominator

end SettingsStore.Double
