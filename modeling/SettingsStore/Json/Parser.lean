import SettingsStore.Json.Basic

/-!
# Reading JSON

The reader works on what is left of the text and gives back the value with the
rest.  A failure keeps the rest at which it arose; only `parse`, which knows the
whole text, turns that into an offset, a line and a column.  Arrays and objects
share one loop, `series`, which differs in the reader of an element and in the
closing bracket alone.  Nesting is bounded by a number of levels that goes down
at each bracket.

Accepted beyond the standard are `NaN`, `Infinity` and `-Infinity`, and a lone
surrogate, spelled with an escape or not.  A point or an exponent mark that no
digit follows is not part of the number before it.
-/

namespace SettingsStore.Json

/-- What a text that is not JSON does wrong. -/
inductive Complaint where
  | value
  | key
  | colon
  | comma
  | extra
  | unterminated
  | control
  | escape
  | codeUnit
  | byteOrderMark
  deriving DecidableEq

/-- The words for a complaint. -/
def Complaint.message : Complaint → String
  | .value => "Expecting value"
  | .key => "Expecting property name enclosed in double quotes"
  | .colon => "Expecting ':' delimiter"
  | .comma => "Expecting ',' delimiter"
  | .extra => "Extra data"
  | .unterminated => "Unterminated string starting at"
  | .control => "Invalid control character at"
  | .escape => "Invalid \\escape"
  | .codeUnit => "Invalid \\uXXXX escape"
  | .byteOrderMark => "Unexpected UTF-8 BOM (decode using utf-8-sig)"

/-- The two kinds of brackets. -/
inductive Container where
  | array
  | object
  deriving DecidableEq

/--
Why reading stopped; a complaint comes with the rest of the text at which it
arose.
-/
inductive Failure where
  | malformed (complaint : Complaint) (rest : Text)
  | hugeInteger (digits : Nat)
  | tooDeep (container : Container)
  deriving DecidableEq

/--
Why a text was not read; a complaint comes with its place, offsets counting from
0 and lines and columns from 1.
-/
inductive ParseError where
  | malformed (complaint : Complaint) (line column offset : Nat)
  | hugeInteger (digits : Nat)
  | tooDeep (container : Container)
  deriving DecidableEq

/-- The report of an error. -/
def ParseError.message : ParseError → String
  | .malformed complaint line column offset =>
    complaint.message ++ ": line " ++ toString line ++ " column " ++
      toString column ++
      " (char " ++ toString offset ++ ")"
  | .hugeInteger digits =>
    "Exceeds the limit (" ++ toString digitLimit ++
      " digits) for integer string conversion: value has " ++ toString digits ++
      " digits; use sys.set_int_max_str_digits() to increase the limit"
  | .tooDeep container =>
    "maximum recursion depth exceeded while decoding a JSON " ++
      (match container with
        | .array => "array"
        | .object => "object") ++ " from a unicode string"

/-- The white space of the format. -/
def isSpace (point : CodePoint) : Bool :=
  point = ' ' || point = '\t' || point = '\n' || point = '\r'

/-- The text after its leading white space. -/
def skipSpace (text : Text) : Text :=
  text.dropWhile isSpace

/-- The text after a word, if it begins with it. -/
def afterWord? : Text → Text → Option Text
  | [], text => some text
  | _ :: _, [] => none
  | expected :: word, point :: text =>
    if expected = point then afterWord? word text else none

/-! ## Strings -/

/-- The value of a hexadecimal digit. -/
def hexValue? (digit : CodePoint) : Option Nat :=
  if digit.isDigit then some (digit.val - 0x30)
  else if 0x61 ≤ digit.val ∧ digit.val ≤ 0x66 then some (digit.val - 0x61 + 10)
  else if 0x41 ≤ digit.val ∧ digit.val ≤ 0x46 then some (digit.val - 0x41 + 10)
  else none

/-- The code point of four hexadecimal digits. -/
def codeUnit? (first second third fourth : CodePoint) : Option CodePoint :=
  match hexValue? first, hexValue? second, hexValue? third,
    hexValue? fourth with
  | some first, some second, some third, some fourth =>
    some (CodePoint.ofNat (((first * 16 + second) * 16 + third) * 16 + fourth))
  | _, _, _, _ => none

/-- The code point that a one-letter escape stands for. -/
def escaped? (letter : CodePoint) : Option CodePoint :=
  if letter = '"' ∨ letter = '\\' ∨ letter = '/' then some letter
  else if letter = 'b' then some '\x08'
  else if letter = 'f' then some '\x0c'
  else if letter = 'n' then some '\n'
  else if letter = 'r' then some '\r'
  else if letter = 't' then some '\t'
  else none

/--
Adds a code unit to what was read, last first; a low surrogate closes the pair
that a high one opened.
-/
def pushUnit (unit : CodePoint) : Text → Text
  | [] => [unit]
  | last :: read =>
    if last.isHighSurrogate && unit.isLowSurrogate then
      CodePoint.ofPair last unit :: read
    else unit :: last :: read

/--
Reads the rest of a string that was opened at the given place; what was read
comes last first.
-/
def stringBody (opening : Text) : Text → Text → Except Failure (Text × Text)
  | [], _ => .error (.malformed .unterminated opening)
  | point :: rest, read =>
    if point = '"' then .ok (read.reverse, rest)
    else if point = '\\' then
      match rest with
      | [] => .error (.malformed .unterminated opening)
      | letter :: after =>
        if letter = 'u' then
          match after with
          | first :: second :: third :: fourth :: next :: after =>
            match codeUnit? first second third fourth with
            | some unit =>
                stringBody opening (next :: after) (pushUnit unit read)
            | none => .error (.malformed .codeUnit rest)
          | _ => .error (.malformed .codeUnit rest)
        else
          match escaped? letter with
          | some plain => stringBody opening after (plain :: read)
          | none => .error (.malformed .escape (point :: rest))
    else if point.val < 0x20 then .error (.malformed .control (point :: rest))
    else stringBody opening rest (point :: read)

/-! ## Numbers -/

/--
The digits of the whole part of a number and the rest: a leading zero stands
alone.
-/
def wholeDigits (text : Text) : Text × Text :=
  match text.after? '0' with
  | some rest => ("0", rest)
  | none => (text.takeWhile CodePoint.isDigit, text.dropWhile CodePoint.isDigit)

/--
The digits after a point and the rest; without a digit there the point is left
alone.
-/
def fractionDigits (text : Text) : Text × Text :=
  match text.after? '.' with
  | some rest =>
    let digits := rest.takeWhile CodePoint.isDigit
    if digits.isEmpty then
      ([], text)
    else (digits, rest.dropWhile CodePoint.isDigit)
  | none => ([], text)

/-- Whether a minus stands in front, and the text after that or after a plus. -/
def afterSign (text : Text) : Bool × Text :=
  match text.after? '-' with
  | some rest => (true, rest)
  | none => (false, (text.after? '+').getD text)

/--
The exponent and the rest, if a mark is followed by digits, with or without a
sign.
-/
def exponentPart? (text : Text) : Option (Int × Text) :=
  match text with
  | [] => none
  | mark :: rest =>
    if mark = 'e' ∨ mark = 'E' then
      let (negative, rest) := afterSign rest
      let digits := rest.takeWhile CodePoint.isDigit
      if digits.isEmpty then none
      else
        let magnitude : Int := Text.digitsValue digits
        some (if negative then -magnitude else magnitude,
          rest.dropWhile CodePoint.isDigit)
    else none

/--
Reads a number after its sign; the whole text at its start is what a complaint
names.
-/
def unsignedNumber (start : Text) (negative : Bool) (text : Text) :
    Except Failure (Json × Text) :=
  let (whole, rest) := wholeDigits text
  if whole.isEmpty then .error (.malformed .value start)
  else
    let (fraction, rest) := fractionDigits rest
    match fraction.isEmpty, exponentPart? rest with
    | true, none =>
      if digitLimit < whole.length then .error (.hugeInteger whole.length)
      else
        let magnitude : Int := Text.digitsValue whole
        .ok (.integer (if negative then -magnitude else magnitude), rest)
    | _, found =>
      let (exponent, rest) := found.getD (0, rest)
      let digits := Text.digitsValue (whole ++ fraction)
      .ok
        (.double (Double.ofDecimal negative digits
          (exponent - (fraction.length : Int))), rest)

/-- Reads a number. -/
def number (text : Text) : Except Failure (Json × Text) :=
  match text.after? '-' with
  | some rest => unsignedNumber text true rest
  | none => unsignedNumber text false text

/-- Reads a literal word or a number. -/
def scalar (text : Text) : Except Failure (Json × Text) :=
  let words : List (Text × Json) :=
    [("null", .null), ("true", .bool true), ("false", .bool false),
      ("NaN", .double .notANumber), ("Infinity", .double (.infinite false)),
      ("-Infinity", .double (.infinite true))]
  let found :=
    words.findSome? fun word => (afterWord? word.1 text).map (word.2, ·)
  match found with
  | some result => .ok result
  | none => number text

/-! ## Containers -/

/--
Reads elements that commas separate up to a closing bracket.  The elements read
so far come last first.  Each round takes at least one character, so the length
of the text is fuel enough.
-/
def series {Element : Type}
    (element : Text → Except Failure (Element × Text))
    (close : CodePoint) :
    Nat → Text → List Element → Except Failure (List Element × Text)
  | 0, text, _ => .error (.malformed .comma text)
  | fuel + 1, text, read =>
    match element text with
    | .error failure => .error failure
    | .ok (found, rest) =>
      match skipSpace rest with
      | [] => .error (.malformed .comma [])
      | mark :: rest =>
        if mark = ',' then
          series element close fuel (skipSpace rest) (found :: read)
        else if mark = close then .ok ((found :: read).reverse, rest)
        else .error (.malformed .comma (mark :: rest))

/-- Reads what stands between two brackets, after the opening one. -/
def bracketed {Element : Type}
    (element : Text → Except Failure (Element × Text))
    (close : CodePoint)
    (text : Text) :
    Except Failure (List Element × Text) :=
  match skipSpace text with
  | [] => series element close 1 [] []
  | mark :: rest =>
    if mark = close then .ok ([], rest)
    else series element close (rest.length + 1) (mark :: rest) []

/-- Reads a key, a colon and a value. -/
def entry
    (value : Text → Except Failure (Json × Text))
    (text : Text) :
    Except Failure ((Text × Json) × Text) :=
  match text.after? '"' with
  | none => .error (.malformed .key text)
  | some rest =>
    match stringBody text rest [] with
    | .error failure => .error failure
    | .ok (key, rest) =>
      match Text.after? ':' (skipSpace rest) with
      | none => .error (.malformed .colon (skipSpace rest))
      | some rest =>
        match value (skipSpace rest) with
        | .error failure => .error failure
        | .ok (found, rest) => .ok ((key, found), rest)

/-- Reads a value that may hold as many levels of brackets as given. -/
def value : Nat → Text → Except Failure (Json × Text)
  | levels, text =>
    match text with
    | [] => .error (.malformed .value [])
    | mark :: rest =>
      if mark = '"' then
        match stringBody text rest [] with
        | .error failure => .error failure
        | .ok (found, rest) => .ok (.string found, rest)
      else if mark = '[' then
        match levels with
        | 0 => .error (.tooDeep .array)
        | levels + 1 =>
          match bracketed (value levels) ']' rest with
          | .error failure => .error failure
          | .ok (items, rest) => .ok (.array items, rest)
      else if mark = '\x7b' then
        match levels with
        | 0 => .error (.tooDeep .object)
        | levels + 1 =>
          match bracketed (entry (value levels)) '\x7d' rest with
          | .error failure => .error failure
          | .ok (pairs, rest) => .ok (.object (Members.ofPairs pairs), rest)
      else scalar text

/-! ## Texts -/

/-- The levels of brackets that a text may hold. -/
def levelLimit : Nat := 1000

/-- The error for a failure in a text: the place is where the rest begins. -/
def Failure.locate (text : Text) : Failure → ParseError
  | .malformed complaint rest =>
    let offset := text.length - rest.length
    let before := text.take offset
    let lineEnd : CodePoint := '\n'
    let column := (before.reverse.takeWhile (· ≠ lineEnd)).length + 1
    .malformed complaint (before.count lineEnd + 1) column offset
  | .hugeInteger digits => .hugeInteger digits
  | .tooDeep container => .tooDeep container

/-- Reads a whole text: one value with white space around it. -/
def readText (text : Text) : Except Failure Json :=
  match value levelLimit (skipSpace text) with
  | .error failure => .error failure
  | .ok (found, rest) =>
    match skipSpace rest with
    | [] => .ok found
    | rest => .error (.malformed .extra rest)

/-- The value of a text, or what is wrong with it and where. -/
def parse (text : Text) : Except ParseError Json :=
  if text.startsWith "\uFEFF" then .error (.malformed .byteOrderMark 1 1 0)
  else
    match readText text with
    | .ok found => .ok found
    | .error failure => .error (failure.locate text)

end SettingsStore.Json
