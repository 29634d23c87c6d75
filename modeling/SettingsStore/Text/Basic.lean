/-!
# Text

A text is a sequence of code points, and a surrogate may stand alone in it: a
document can spell one with an escape, a file name stands with one for an octet
that is no part of a character, and both have to survive being read and written
again.  Ordinary strings and characters are embedded, so that literals can be
used for texts.
-/

namespace SettingsStore

/-- A code point: a scalar value or a surrogate. -/
abbrev CodePoint := Fin 0x110000

namespace CodePoint

/-- The code point of a character. -/
def ofChar (character : Char) : CodePoint :=
  ⟨character.toNat, by
    have valid := character.valid
    simp only [UInt32.isValidChar, Nat.isValidChar] at valid
    simp only [Char.toNat]
    omega⟩

/-- A character stands for its code point. -/
instance : Coe Char CodePoint := ⟨ofChar⟩

/-- The character of a code point, which a surrogate does not have. -/
def toChar? (point : CodePoint) : Option Char :=
  if valid : point.val.isValidChar then
    some (Char.ofNatAux point.val valid)
  else none

/-- The characters of ASCII. -/
def isAscii (point : CodePoint) : Bool :=
  point.val < 0x80

/-- The ASCII digits. -/
def isDigit (point : CodePoint) : Bool :=
  0x30 ≤ point.val && point.val ≤ 0x39

/-- Surrogates are no characters; in UTF-16 a pair of them stands for one. -/
def isSurrogate (point : CodePoint) : Bool :=
  0xD800 ≤ point.val && point.val ≤ 0xDFFF

/-- High surrogates open a pair. -/
def isHighSurrogate (point : CodePoint) : Bool :=
  0xD800 ≤ point.val && point.val ≤ 0xDBFF

/-- Low surrogates close a pair. -/
def isLowSurrogate (point : CodePoint) : Bool :=
  0xDC00 ≤ point.val && point.val ≤ 0xDFFF

/--
The code point of a number, which is taken modulo the number of code points.
-/
def ofNat (number : Nat) : CodePoint :=
  Fin.ofNat 0x110000 number

/-- The code point that a pair of surrogates stands for. -/
def ofPair (high low : CodePoint) : CodePoint :=
  ofNat (0x10000 + (high.val - 0xD800) * 0x400 + (low.val - 0xDC00))

end CodePoint

/-- A sequence of code points. -/
abbrev Text := List CodePoint

namespace Text

/-- The text of an ordinary string. -/
def ofString (string : String) : Text :=
  string.toList.map CodePoint.ofChar

/-- A string stands for its text. -/
instance : Coe String Text := ⟨ofString⟩

/-- The text of a sequence of characters. -/
def ofChars (characters : List Char) : Text :=
  characters.map CodePoint.ofChar

/-- The characters of a text, if no surrogate stands in it. -/
def toChars? (text : Text) : Option (List Char) :=
  text.mapM CodePoint.toChar?

/-- Whether a text begins with another one. -/
def startsWith (text beginning : Text) : Bool :=
  beginning.isPrefixOf text

/-- Whether a text ends with another one. -/
def endsWith (text ending : Text) : Bool :=
  ending.isSuffixOf text

/-- The text after a mark, if it begins with that. -/
def after? (mark : CodePoint) : Text → Option Text
  | [] => none
  | point :: rest => if point = mark then some rest else none

/-- Texts one after the other, with a separator between them. -/
def intercalate (separator : Text) (texts : List Text) : Text :=
  List.intercalate separator texts

/-- The number that ASCII digits stand for. -/
def digitsValue (digits : Text) : Nat :=
  digits.foldl (fun value digit => value * 10 + (digit.val - 0x30)) 0

/--
No high surrogate is directly followed by a low one, so that writing and reading
keep every code point.
-/
def Unpaired : Text → Prop
  | [] => True
  | [_] => True
  | first :: second :: rest =>
    ¬ (first.isHighSurrogate ∧ second.isLowSurrogate) ∧
      Unpaired (second :: rest)

end Text

end SettingsStore
