import SettingsStore.Text.Basic

/-!
# Placeholders

A placeholder is what follows a percent sign in a template: a key in brackets,
flags, a least width, a precision, a mark of length that says nothing, and the
mark of the conversion.  All but the last may be missing.  A width or a
precision is a number or a star, for which an argument is taken.  Reading stops
at the first part that cannot be read; the parts before it keep their effects,
so a placeholder that breaks off is a placeholder too, with a fault in place of
its conversion.  Two percent signs side by side are no placeholder: they stand
for one.
-/

namespace SettingsStore.Log

/-- The key of a placeholder, in brackets that may hold further brackets. -/
inductive Key where
  | absent
  | given (key : Text)
  /-- The bracket is never closed. -/
  | unclosed
  deriving DecidableEq

/-- A width or a precision. -/
inductive Amount where
  | absent
  | fixed (value : Nat)
  | fromArgument
  deriving DecidableEq

/-- What makes a placeholder break off. -/
inductive Breach where
  | unclosedKey
  | hugeWidth
  | hugePrecision
  | incomplete
  deriving DecidableEq

/-- What flags ask for. -/
structure Flags where
  left : Bool
  plus : Bool
  blank : Bool
  alternate : Bool
  zeros : Bool
  deriving DecidableEq

/-- A placeholder. -/
structure Placeholder where
  key : Key
  flags : Flags
  width : Amount
  precision : Amount
  /-- The mark of the conversion. -/
  conversion : Except Breach CodePoint

/-- A piece of a template. -/
inductive Piece where
  | literal (text : Text)
  /-- A placeholder, with the place of its last code point in the template. -/
  | placeholder (placeholder : Placeholder) (index : Nat)

/-- The mark that introduces a placeholder. -/
def placeMark : CodePoint := '%'

/-- The flags among marks. -/
def Flags.ofText (marks : Text) : Flags where
  left := marks.contains '-'
  plus := marks.contains '+'
  blank := marks.contains ' '
  alternate := marks.contains '#'
  zeros := marks.contains '0'

/-- Whether a code point is the mark of a flag. -/
def isFlag (point : CodePoint) : Bool :=
  ("-+ #0" : Text).contains point

/-- Whether a code point is a mark of length. -/
def isLengthMark (point : CodePoint) : Bool :=
  ("hlL" : Text).contains point

/-- The greatest width. -/
def widthLimit : Nat := Nat.pow 2 63 - 1

/-- The greatest precision. -/
def precisionLimit : Nat := Nat.pow 2 31 - 1

/--
Reads a key up to the bracket that closes it, with a number of brackets open;
what was read comes last first.
-/
def readKey : Nat → Text → Text → Option (Text × Text)
  | _, [], _ => none
  | depth, point :: rest, read =>
    if point = ')' then
      match depth with
      | 0 => some (read.reverse, rest)
      | depth + 1 => readKey depth rest (point :: read)
    else if point = '(' then readKey (depth + 1) rest (point :: read)
    else readKey depth rest (point :: read)

/-- Reads the key that a placeholder begins with, if it does. -/
def keyOf (text : Text) : Key × Text :=
  match text.after? '(' with
  | none => (.absent, text)
  | some rest =>
    match readKey 0 rest [] with
    | none => (.unclosed, [])
    | some (key, rest) => (.given key, rest)

/--
Reads a star or a number up to a limit, or nothing; none if the number goes
beyond the limit.
-/
def amountOf (limit : Nat) (text : Text) : Option Amount × Text :=
  match text.after? '*' with
  | some rest => (some .fromArgument, rest)
  | none =>
    let digits : Text := text.takeWhile CodePoint.isDigit
    let rest := text.dropWhile CodePoint.isDigit
    if digits.isEmpty then (some .absent, rest)
    else if digits.digitsValue ≤ limit then
      (some (.fixed digits.digitsValue), rest)
    else (none, rest)

/--
Reads a precision after a point; a point with nothing after it stands for zero.
-/
def precisionOf (text : Text) : Option Amount × Text :=
  match text.after? '.' with
  | none => (some .absent, text)
  | some rest =>
    match amountOf precisionLimit rest with
    | (some .absent, rest) => (some (.fixed 0), rest)
    | found => found

/-- Reads the mark of a conversion after a mark of length, if there is one. -/
def conversionOf (text : Text) : Except Breach CodePoint × Text :=
  let text := if (text.take 1).any isLengthMark then text.drop 1 else text
  match text with
  | [] => (.error .incomplete, [])
  | mark :: rest => (.ok mark, rest)

/-- Reads a placeholder after the mark that introduces it. -/
def placeholderOf (text : Text) : Placeholder × Text :=
  let (key, rest) := keyOf text
  let flags := Flags.ofText (rest.takeWhile isFlag)
  let rest := rest.dropWhile isFlag
  match key, amountOf widthLimit rest with
  | .unclosed, _ => (⟨key, flags, .absent, .absent, .error .unclosedKey⟩, [])
  | _, (none, rest) => (⟨key, flags, .absent, .absent, .error .hugeWidth⟩, rest)
  | _, (some width, rest) =>
    match precisionOf rest with
    | (none, rest) =>
        (⟨key, flags, width, .absent, .error .hugePrecision⟩, rest)
    | (some precision, rest) =>
      let (conversion, rest) := conversionOf rest
      (⟨key, flags, width, precision, conversion⟩, rest)

/--
Splits what is left of a template of a length into pieces.  Each round takes at
least one code point, so the length is fuel enough.
-/
def piecesFrom (length : Nat) : Nat → Text → List Piece
  | _, [] => []
  | 0, _ :: _ => []
  | fuel + 1, point :: rest =>
    if point = placeMark then
      match Text.after? placeMark rest with
      | some rest => .literal [placeMark] :: piecesFrom length fuel rest
      | none =>
        let (placeholder, rest) := placeholderOf rest
        .placeholder placeholder (length - rest.length - 1) ::
          piecesFrom length fuel rest
    else
      let before : Text := (point :: rest).takeWhile (· ≠ placeMark)
      .literal before :: piecesFrom length fuel
        ((point :: rest).dropWhile (· ≠ placeMark))

/-- The pieces of a template. -/
def piecesOf (template : Text) : List Piece :=
  piecesFrom template.length template.length template

/-- A text with spaces or zeros around it, as a width and flags ask for. -/
structure Padding where
  flags : Flags
  width : Nat

/--
A text of a sign, a mark of its base and the rest, padded to a width: zeros go
after the sign and the mark, blanks go in front or, on the left side, behind.
-/
def Padding.apply
    (padding : Padding)
    (zeros : Bool)
    (sign base body : Text) :
    Text :=
  let missing := padding.width - (sign.length + base.length + body.length)
  let fill (point : CodePoint) : Text := List.replicate missing point
  if padding.flags.left then sign ++ base ++ body ++ fill ' '
  else if zeros && padding.flags.zeros then sign ++ base ++ fill '0' ++ body
  else fill ' ' ++ sign ++ base ++ body

end SettingsStore.Log
