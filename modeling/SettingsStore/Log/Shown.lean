import SettingsStore.Json.Basic
import SettingsStore.Number.Shortest
import SettingsStore.Text.Quoted

/-!
# Values in messages

How a message shows a value.  A string by itself stands as it is; inside another
value, and where the quoted form is asked for, it stands in quotes.
-/

namespace SettingsStore.Log

/-- The words for the type of a value. -/
def kindOf : Json → Text
  | .null => "NoneType"
  | .bool _ => "bool"
  | .integer _ => "int"
  | .double _ => "float"
  | .string _ => "str"
  | .array _ => "list"
  | .object _ => "dict"

/--
Doubles in messages; only the words for what is not finite differ from those in
documents.
-/
def doubleStyle : DoubleStyle where
  leastPosition := -4
  greatestPosition := 15
  exponentWidth := 2
  notANumber := "nan"
  infinity := "inf"

mutual

/-- The form in which a message shows a value inside another. -/
def shown : Json → Text
  | .null => "None"
  | .bool true => "True"
  | .bool false => "False"
  | .integer value => toString value
  | .double value => Text.ofChars (doubleStyle.text value)
  | .string text => text.quoted
  | .array [] => "[]"
  | .array (item :: items) => "[" ++ shown item ++ shownItems items
  | .object [] => "\x7b\x7d"
  | .object ((key, value) :: members) =>
    "\x7b" ++ key.quoted ++ ": " ++ shown value ++ shownMembers members

/-- The items after the first, with the closing bracket. -/
def shownItems : List Json → Text
  | [] => "]"
  | item :: items => ", " ++ shown item ++ shownItems items

/-- The members after the first, with the closing bracket. -/
def shownMembers : List (Text × Json) → Text
  | [] => "\x7d"
  | (key, value) :: members =>
      ", " ++ key.quoted ++ ": " ++ shown value ++ shownMembers members

end

/-- What stands for a value by itself: a string is shown as it is. -/
def plain : Json → Text
  | .string text => text
  | value => shown value

/-- A code point, in escaped form unless it is ASCII. -/
def asciiPoint (point : CodePoint) : Text :=
  if point.val ≤ 0x7F then [point]
  else if point.val ≤ 0xFF then
    Text.ofChars ('\\' :: 'x' :: hexDigits 2 point.val)
  else if point.val ≤ 0xFFFF then
    Text.ofChars ('\\' :: 'u' :: hexDigits 4 point.val)
  else Text.ofChars ('\\' :: 'U' :: hexDigits 8 point.val)

/-- The form in which a message shows a value in ASCII alone. -/
def shownInAscii (value : Json) : Text :=
  (shown value).flatMap asciiPoint

end SettingsStore.Log
