import SettingsStore.Log.Placeholder
import SettingsStore.Log.Shown
import SettingsStore.Number.Rounded

/-!
# Message templates

A message is a template whose placeholders are filled with arguments.  Every
argument has to find its place and every place its argument; only an object that
has members and is the sole argument may go without a place, and its members can
be called for by their keys.  A template that is given no arguments at all is
left as it is.
-/

namespace SettingsStore.Log

/-- Why a template could not be filled. -/
inductive TemplateError where
  | notEnough
  | notAllUsed
  | notANumber (mark : CodePoint) (kind : Text)
  | notWhole (mark : CodePoint) (kind : Text)
  | notReal (kind : Text)
  | notFinite (value : Double)
  | notACharacter
  | outsideCharacters
  | hugeReal
  | amountNotWhole
  | amountTooLarge (type : Text)
  | widthTooBig
  | precisionTooBig
  | precisionTooLarge
  | keyless
  | missingKey (key : Text)
  | unclosedKey
  | incomplete
  | unknownPlace (mark : CodePoint) (index : Nat)
  /-- The text would be wider than memory can hold. -/
  | outOfMemory
  deriving DecidableEq

/-- The words for a template error. -/
def TemplateError.message : TemplateError → Text
  | .notEnough => "not enough arguments for format string"
  | .notAllUsed => "not all arguments converted during string formatting"
  | .notANumber mark kind =>
      "%" ++ [mark] ++ " format: a real number is required, not " ++ kind
  | .notWhole mark kind =>
      "%" ++ [mark] ++ " format: an integer is required, not " ++ kind
  | .notReal kind => "must be real number, not " ++ kind
  | .notFinite .notANumber => "cannot convert float NaN to integer"
  | .notFinite _ => "cannot convert float infinity to integer"
  | .notACharacter => "%c requires int or char"
  | .outsideCharacters => "%c arg not in range(0x110000)"
  | .hugeReal => "int too large to convert to float"
  | .amountNotWhole => "* wants int"
  | .amountTooLarge type => "Python int too large to convert to C " ++ type
  | .widthTooBig => "width too big"
  | .precisionTooBig => "precision too big"
  | .precisionTooLarge => "precision too large"
  | .keyless => "format requires a mapping"
  | .missingKey key => key.quoted
  | .unclosedKey => "incomplete format key"
  | .incomplete => "incomplete format"
  | .unknownPlace mark index =>
    let shown : Text :=
      if 0x1F ≤ mark.val && mark.val ≤ 0x7E then [mark] else "?"
    "unsupported format character '" ++ shown ++ "' (0x" ++
      Text.ofChars (hexDigits 1 mark.val) ++
      ") at index " ++ toString index
  | .outOfMemory => ""

/-! ## Arguments -/

/-- The arguments that are still to be taken. -/
inductive Supply where
  /-- One after the other. -/
  | queue (arguments : List Json)
  /-- One value, which may be taken once but need not be. -/
  | single (value : Json) (taken : Bool)

/-- Takes the next argument. -/
def Supply.next : Supply → Except TemplateError (Json × Supply)
  | .queue [] => .error .notEnough
  | .queue (argument :: arguments) => .ok (argument, .queue arguments)
  | .single value false => .ok (value, .single value true)
  | .single _ true => .error .notEnough

/--
The supply for a placeholder with a key, and what is left of the one before for
one without.
-/
def Supply.forKey
    (mapping : Option Members)
    (supply : Supply) :
    Key → Except TemplateError Supply
  | .absent => .ok supply
  | .unclosed => if mapping.isSome then .error .unclosedKey else .error .keyless
  | .given key =>
    match mapping with
    | none => .error .keyless
    | some members =>
      match members.find? key with
      | none => .error (.missingKey key)
      | some value => .ok (.single value false)

/-- The whole number that a value is; the truth values are 1 and 0. -/
def wholeNumber? : Json → Option Int
  | .integer value => some value
  | .bool value => some (if value then 1 else 0)
  | _ => none

/-- A width or a precision, of a type with a greatest value. -/
def Supply.amount (type : Text) (limit : Nat) (supply : Supply) :
    Amount → Except TemplateError (Option Int × Supply)
  | .absent => .ok (none, supply)
  | .fixed value => .ok (some value, supply)
  | .fromArgument =>
    match supply.next with
    | .error error => .error error
    | .ok (argument, supply) =>
      match wholeNumber? argument with
      | none => .error .amountNotWhole
      | some value =>
        if value < -(limit : Int) - 1 ∨ (limit : Int) < value then
          .error (.amountTooLarge type)
        else .ok (some value, supply)

/-! ## Conversions -/

/--
What a conversion makes of an argument: a sign, a mark of the base and the rest.
-/
structure Converted where
  numeric : Bool
  sign : Text
  base : Text
  body : Text

/-- A text that is no number, cut off at a precision. -/
def Converted.ofText (text : Text) (precision : Option Nat) : Converted where
  numeric := false
  sign := ""
  base := ""
  body :=
    match precision with
    | none => text
    | some precision => text.take precision

/-- The sign of a number that is negative or not, as flags ask for. -/
def Flags.sign (flags : Flags) (negative : Bool) : Text :=
  if negative then
    "-"
  else if flags.plus then "+" else if flags.blank then " " else ""

/-- The digits of a number in a base, and no fewer than a precision. -/
def digitsText (radix precision value : Nat) : Text :=
  let digits := Nat.toDigits radix value
  Text.ofChars (List.replicate (precision - digits.length) '0' ++ digits)

/-- A whole number in a base, whose mark the alternate form shows. -/
def Converted.ofWhole
    (flags : Flags)
    (radix : Nat)
    (mark : Text)
    (precision : Option Nat)
    (value : Int) :
    Converted where
  numeric := true
  sign := flags.sign (value < 0)
  base := if flags.alternate then mark else ""
  body := digitsText radix (precision.getD 0) value.natAbs

/-- A real number in a layout. -/
def Converted.ofReal
    (flags : Flags)
    (layout : Double.DecimalLayout)
    (precision : Option Nat)
    (value : Double) :
    Converted :=
  let text :=
    Double.rounded doubleStyle layout flags.alternate (precision.getD 6) value
  let negative := text.head? = some '-'
  { numeric := true
    sign := flags.sign negative
    base := ""
    body := Text.ofChars (if negative then text.drop 1 else text) }

/-- The whole part of a value, for a conversion with a mark. -/
def wholePart (mark : CodePoint) : Json → Except TemplateError Int
  | .integer value => .ok value
  | .bool value => .ok (if value then 1 else 0)
  | .double (.finite negative significand exponent) =>
    .ok (Double.truncate negative significand exponent)
  | .double value => .error (.notFinite value)
  | value => .error (.notANumber mark (kindOf value))

/-- The double that is nearest to a value. -/
def realPart : Json → Except TemplateError Double
  | .double value => .ok value
  | .integer value =>
    match Double.ofRatio (value < 0) value.natAbs 1 with
    | .infinite _ => .error .hugeReal
    | found => .ok found
  | .bool value => .ok (Double.ofRatio false (if value then 1 else 0) 1)
  | value => .error (.notReal (kindOf value))

/-- The character that a value stands for. -/
def characterOf (value : Json) : Except TemplateError CodePoint :=
  match value with
  | .string [point] => .ok point
  | _ =>
    match wholeNumber? value with
    | none => .error .notACharacter
    | some number =>
      if 0 ≤ number ∧ number < 0x110000 then .ok (CodePoint.ofNat number.toNat)
      else .error .outsideCharacters

/-- How an argument is converted. -/
inductive Conversion where
  | plain
  | quoted
  | ascii
  | decimal
  /-- In a base other than ten, in capitals or not. -/
  | based (radix : Nat) (mark : Text) (capitals : Bool)
  | real (layout : Double.DecimalLayout) (capitals : Bool)
  | character

/-- The conversion that a mark stands for. -/
def Conversion.ofMark? (mark : CodePoint) : Option Conversion :=
  let marks : List (CodePoint × Conversion) :=
    [('s', .plain), ('r', .quoted), ('a', .ascii), ('d', .decimal),
      ('i', .decimal),
      ('u', .decimal), ('o', .based 8 "0o" false), ('x', .based 16 "0x" false),
      ('X', .based 16 "0X" true), ('e', .real .scientific false),
      ('E', .real .scientific true),
      ('f', .real .positional false), ('F', .real .positional true),
      ('g', .real .general false),
      ('G', .real .general true), ('c', .character)]
  marks.lookup mark

/-- The text with its letters in capitals, if that is asked for. -/
def capitalised (capitals : Bool) (text : Text) : Text :=
  if capitals then text.map fun point =>
    if 0x61 ≤ point.val ∧ point.val ≤ 0x7A then
      CodePoint.ofNat (point.val - 0x20)
    else point
  else text

/-- A whole number with more digits than this has no text in a conversion. -/
def digitsAtMost : Nat := precisionLimit - 3

/-- What a conversion makes of an argument. -/
def Conversion.convert
    (flags : Flags)
    (precision : Option Nat)
    (mark : CodePoint)
    (value : Json) :
    Conversion → Except TemplateError Converted
  | .plain => .ok (.ofText (Log.plain value) precision)
  | .quoted => .ok (.ofText (shown value) precision)
  | .ascii => .ok (.ofText (shownInAscii value) precision)
  | .character =>
    match characterOf value with
    | .error error => .error error
    | .ok point => .ok (.ofText [point] none)
  | .decimal =>
    match wholePart mark value with
    | .error error => .error error
    | .ok whole =>
      if digitsAtMost < precision.getD 0 then .error .precisionTooLarge
      else .ok (.ofWhole flags 10 "" precision whole)
  | .based radix base capitals =>
    match wholeNumber? value with
    | none => .error (.notWhole mark (kindOf value))
    | some whole =>
      if digitsAtMost < precision.getD 0 then .error .precisionTooLarge
      else
        let converted := Converted.ofWhole flags radix base precision whole
        .ok { converted with body := capitalised capitals converted.body }
  | .real layout capitals =>
    match realPart value with
    | .error error => .error error
    | .ok number =>
      let converted := Converted.ofReal flags layout precision number
      .ok { converted with body := capitalised capitals converted.body }

/-! ## Filling -/

/-- The greatest number of code points for which memory is taken to suffice. -/
def widestText : Nat := Nat.pow 2 36

/-- Whether a placeholder breaks off. -/
def Breach.error : Breach → TemplateError
  | .unclosedKey => .unclosedKey
  | .hugeWidth => .widthTooBig
  | .hugePrecision => .precisionTooBig
  | .incomplete => .incomplete

/--
What a placeholder with its last code point at an index becomes, and what is
left of the supply.
-/
def Placeholder.fill
    (placeholder : Placeholder)
    (index : Nat)
    (mapping : Option Members)
    (supply : Supply) :
    Except TemplateError (Text × Supply) := do
  let supply ← supply.forKey mapping placeholder.key
  let (width, supply) ← supply.amount "ssize_t" widthLimit placeholder.width
  let (precision, supply) ← supply.amount "int" precisionLimit
    placeholder.precision
  let mark ← placeholder.conversion.mapError Breach.error
  let (argument, supply) ← supply.next
  match Conversion.ofMark? mark with
  | none => throw (.unknownPlace mark index)
  | some conversion =>
    let flags := placeholder.flags
    let converted ← conversion.convert flags
      (precision.map Int.toNat) mark argument
    let width := width.getD 0
    if widestText < width.natAbs then throw .outOfMemory
    let padding : Padding :=
      ⟨{ flags with left := flags.left || width < 0 }, width.natAbs⟩
    return (padding.apply converted.numeric converted.sign converted.base
        converted.body, supply)

/-- Fills the pieces of a template; what was written comes before. -/
def fillPieces (mapping : Option Members) :
    List Piece → Supply → Text → Except TemplateError (Text × Supply)
  | [], supply, written => .ok (written, supply)
  | .literal text :: pieces, supply, written =>
      fillPieces mapping pieces supply (written ++ text)
  | .placeholder placeholder index :: pieces, supply, written =>
    match placeholder.fill index mapping supply with
    | .error error => .error error
    | .ok (text, supply) => fillPieces mapping pieces supply (written ++ text)

/-- The members that placeholders may call for, and the supply of the others. -/
def supplyOf : List Json → Option Members × Supply
  | [.object (first :: members)] =>
    (some (first :: members), .single (.object (first :: members)) false)
  | arguments => (none, .queue arguments)

/-- The message of a template with its arguments. -/
def fill
    (template : Text)
    (arguments : List Json) :
    Except TemplateError Text :=
  if arguments.isEmpty then .ok template
  else
    let (mapping, supply) := supplyOf arguments
    match fillPieces mapping (piecesOf template) supply "" with
    | .error error => .error error
    | .ok (_, .queue (_ :: _)) => .error .notAllUsed
    | .ok (message, _) => .ok message

end SettingsStore.Log
