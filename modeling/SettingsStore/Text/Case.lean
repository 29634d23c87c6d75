import SettingsStore.Text.Basic

/-!
# Letter case

The words that are compared without regard to case are ASCII words, so only the
code points whose other case is an ASCII letter matter.  `toLowerWord` leaves
every other code point alone, and none of the words compared in lower case
contains a `k`, the one letter that a character outside ASCII (the Kelvin sign)
has for its lower case.
-/

namespace SettingsStore

namespace CodePoint

/-- The small letter of an ASCII capital; any other code point is its own. -/
def toSmall (point : CodePoint) : CodePoint :=
  if 0x41 ≤ point.val ∧ point.val ≤ 0x5A then
    ofNat (point.val + 0x20)
  else point

/--
The capital of a code point, where that is an ASCII letter: ASCII letters,
dotless i and long s.
-/
def toCapital (point : CodePoint) : CodePoint :=
  if point = 'ı' then 'I'
  else if point = 'ſ' then 'S'
  else if 0x61 ≤ point.val ∧ point.val ≤ 0x7A then ofNat (point.val - 0x20)
  else point

end CodePoint

namespace Text

/-- The text with its ASCII letters in lower case. -/
def toLowerWord (text : Text) : Text :=
  text.map CodePoint.toSmall

/-- The text with every letter capitalised that has an ASCII capital. -/
def toUpperWord (text : Text) : Text :=
  text.map CodePoint.toCapital

end Text

end SettingsStore
