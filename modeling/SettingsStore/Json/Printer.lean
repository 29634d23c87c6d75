import SettingsStore.Json.Basic
import SettingsStore.Number.Shortest

/-!
# Writing JSON

Values are written in visible ASCII: any other code point becomes an escape, or
a pair of escapes above the basic plane, and a lone surrogate is written as
itself.  The writer takes the text to its right, so that what follows a value is
there when the value is written.  There are two layouts: all on one line, and
one item a line with two spaces of indentation for each level.
-/

namespace SettingsStore.Json

/-- Where items are placed. -/
inductive Layout where
  | line
  | indented
  deriving DecidableEq

namespace Layout

/-- What stands after an opening and before a closing bracket at a level. -/
def edge (layout : Layout) (level : Nat) : List Char :=
  match layout with
  | .line => []
  | .indented => '\n' :: List.replicate (2 * level) ' '

/-- What stands between two items at a level. -/
def separator (layout : Layout) (level : Nat) : List Char :=
  match layout with
  | .line => [',', ' ']
  | .indented => ',' :: layout.edge level

end Layout

/--
Doubles are positional when the first digit stands from the fourth place after
the point to the sixteenth before it.
-/
def doubleStyle : DoubleStyle where
  leastPosition := -4
  greatestPosition := 15
  exponentWidth := 2
  notANumber := "NaN"
  infinity := "Infinity"

/-- The four lower-case hexadecimal digits of a code unit. -/
def unitDigits (unit : Nat) : List Char :=
  [unit / 0x1000 % 16, unit / 0x100 % 16, unit / 0x10 % 16, unit % 16].map
    Nat.digitChar

/-- The escape of a code unit. -/
def unitEscape (unit : Nat) : List Char :=
  '\\' :: 'u' :: unitDigits unit

/-- A code point inside a string. -/
def pointText (point : CodePoint) : List Char :=
  let code := point.val
  if code = 0x22 then ['\\', '"']
  else if code = 0x5C then ['\\', '\\']
  else if code = 0x0A then ['\\', 'n']
  else if code = 0x0D then ['\\', 'r']
  else if code = 0x09 then ['\\', 't']
  else if code = 0x0C then ['\\', 'f']
  else if code = 0x08 then ['\\', 'b']
  else if 0x20 ≤ code ∧ code ≤ 0x7E then [Char.ofNat code]
  else if code < 0x10000 then unitEscape code
  else
    unitEscape (0xD800 + (code - 0x10000) / 0x400) ++
      unitEscape (0xDC00 + (code - 0x10000) % 0x400)

/-- Writes a string before the rest. -/
def writeString (text : Text) (rest : List Char) : List Char :=
  '"' :: (text.flatMap pointText ++ '"' :: rest)

/-- Writes a whole number before the rest. -/
def writeInteger (value : Int) (rest : List Char) : List Char :=
  (if value < 0 then ['-'] else []) ++ (Nat.toDigits 10 value.natAbs ++ rest)

mutual

/-- Writes a value at a level before the rest. -/
def write (layout : Layout) (level : Nat) : Json → List Char → List Char
  | .null, rest => "null".toList ++ rest
  | .bool true, rest => "true".toList ++ rest
  | .bool false, rest => "false".toList ++ rest
  | .integer value, rest => writeInteger value rest
  | .double value, rest => doubleStyle.text value ++ rest
  | .string text, rest => writeString text rest
  | .array [], rest => '[' :: ']' :: rest
  | .array (item :: items), rest =>
    '[' :: (layout.edge (level + 1) ++
      write layout (level + 1) item (writeItems layout level items rest))
  | .object [], rest => '\x7b' :: '\x7d' :: rest
  | .object ((key, value) :: members), rest =>
    '\x7b' :: (layout.edge (level + 1) ++
      writeString key (':' :: ' ' ::
        write layout (level + 1) value
          (writeMembers layout level members rest)))

/-- Writes the items after the first and the closing bracket. -/
def writeItems
    (layout : Layout)
    (level : Nat) :
    List Json → List Char → List Char
  | [], rest => layout.edge level ++ ']' :: rest
  | item :: items, rest =>
    layout.separator (level + 1) ++
      write layout (level + 1) item (writeItems layout level items rest)

/-- Writes the members after the first and the closing bracket. -/
def writeMembers
    (layout : Layout)
    (level : Nat) :
    List (Text × Json) → List Char → List Char
  | [], rest => layout.edge level ++ '\x7d' :: rest
  | (key, value) :: members, rest =>
    layout.separator (level + 1) ++
      writeString key (':' :: ' ' ::
        write layout (level + 1) value (writeMembers layout level members rest))

end

/-- The characters of a value in a layout. -/
def render (layout : Layout) (value : Json) : List Char :=
  write layout 0 value []

/-- The text of a value on one line. -/
def toLine (value : Json) : String :=
  String.ofList (render .line value)

/-- The text of a value with one item a line. -/
def toIndented (value : Json) : String :=
  String.ofList (render .indented value)

end SettingsStore.Json
