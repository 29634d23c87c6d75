import SettingsStore.Text.Hexadecimal
import SettingsStore.Text.Printable

/-!
# Quoted text

The quoted form in which messages show a piece of text: between single quotes,
or between double quotes when the text holds a single quote and no double one.
The quote, the backslash and everything that is not printable is escaped.
-/

namespace SettingsStore.Text

/-- One code point between quotes. -/
def quotedPoint (quote point : CodePoint) : Text :=
  if point = quote ∨ point = '\\' then ['\\', point]
  else if point.val = 0x09 then "\\t"
  else if point.val = 0x0A then "\\n"
  else if point.val = 0x0D then "\\r"
  else if point.isPrintable then [point]
  else if point.val ≤ 0xFF then
    Text.ofChars ('\\' :: 'x' :: hexDigits 2 point.val)
  else if point.val ≤ 0xFFFF then
    Text.ofChars ('\\' :: 'u' :: hexDigits 4 point.val)
  else Text.ofChars ('\\' :: 'U' :: hexDigits 8 point.val)

/-- Single quotes, unless the text holds one and no double quote. -/
def quoteMark (text : Text) : CodePoint :=
  if text.contains '\'' && !text.contains '"' then '"'
  else '\''

/-- The quoted form of a text. -/
def quoted (text : Text) : Text :=
  let mark := quoteMark text
  mark :: text.flatMap (quotedPoint mark) ++ [mark]

/-- The quoted forms of texts, separated by commas and enclosed in brackets. -/
def quotedList (texts : List Text) : Text :=
  "[" ++ Text.intercalate ", " (texts.map quoted) ++ "]"

end SettingsStore.Text
