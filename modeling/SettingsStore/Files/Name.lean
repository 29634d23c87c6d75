import SettingsStore.Text.Basic
import SettingsStore.Text.Hexadecimal
import SettingsStore.Text.Utf8

/-!
# Names as octets

The system knows names as octets, a program knows them as text.  A character of
a text stands for the octets of its UTF-8 form, and an octet that is no part of
a well-formed character is stood for by a low surrogate, the one that lies
`0xDC00` above it.  So every sequence of octets has a text, but other surrogates
stand for nothing, and a text that holds one cannot be handed to the system.  A
text whose surrogates spell a well-formed character names the same octets as
that character: the stored form of a text is the one that its octets are shown
as.
-/

namespace SettingsStore

/-- Surrogates in a text that stand for no octet, side by side. -/
structure Unencodable where
  /-- The first of them. -/
  point : CodePoint
  offset : Nat
  length : Nat
  deriving DecidableEq

/-- The report of surrogates that stand for no octet. -/
def Unencodable.message (found : Unencodable) : Text :=
  let place : Text :=
    if found.length = 1 then
      "character '\\u" ++ Text.ofChars (hexDigits 4 found.point.val) ++
        "' in position " ++
        toString found.offset
    else
      "characters in position " ++ toString found.offset ++ "-" ++
        toString (found.offset + found.length - 1)
  "'utf-8' codec can't encode " ++ place ++ ": surrogates not allowed"

/-- Why a text cannot be handed to the system as a name or a path. -/
inductive NameError where
  /--
  The text holds a null character, at which the system would take it to end.
  -/
  | nullByte
  | unencodable (found : Unencodable)
  deriving DecidableEq

/-- The words for a name error. -/
def NameError.message : NameError → Text
  | .nullByte => "embedded null byte"
  | .unencodable found => found.message

/-- The octet that a surrogate stands for. -/
def CodePoint.escapedOctet? (point : CodePoint) : Option UInt8 :=
  if 0xDC80 ≤ point.val ∧ point.val ≤ 0xDCFF then
    some (point.val - 0xDC00).toUInt8
  else none

/-- The surrogate that stands for an octet. -/
def CodePoint.ofOctet (octet : UInt8) : CodePoint :=
  CodePoint.ofNat (0xDC00 + octet.toNat)

namespace Text

/--
The octets of a text from an offset on; those already had come last first.  What
a surrogate stands for, if anything, is given.
-/
def octetsFrom
    (standsFor : CodePoint → Option UInt8) :
    Nat → Text → List UInt8 → Except Unencodable (List UInt8)
  | _, [], octets => .ok octets.reverse
  | offset, point :: rest, octets =>
    match point.toChar? with
    | some character =>
      octetsFrom standsFor (offset + 1) rest
        ((Utf8.encodeChar character).reverse ++ octets)
    | none =>
      match standsFor point with
      | some octet => octetsFrom standsFor (offset + 1) rest (octet :: octets)
      | none =>
        .error ⟨point, offset,
          (rest.takeWhile CodePoint.isSurrogate).length + 1⟩

/--
The octets of a text in which surrogates stand for nothing, as those of a
document.
-/
def octets? (text : Text) : Except Unencodable (List UInt8) :=
  text.octetsFrom (fun _ => none) 0 []

/-- The octets that a text names. -/
def nameOctets? (text : Text) : Except Unencodable (List UInt8) :=
  text.octetsFrom CodePoint.escapedOctet? 0 []

/-- The octets as which a text is handed to the system. -/
def systemOctets? (text : Text) : Except NameError (List UInt8) :=
  match text.nameOctets? with
  | .error found => .error (.unencodable found)
  | .ok octets => if octets.contains 0 then .error .nullByte else .ok octets

/--
The text that octets are shown as; what was shown so far comes last first.
-/
def ofOctetsFrom : Nat → List UInt8 → Text → Text
  | _, [], shown => shown.reverse
  | 0, _ :: _, shown => shown.reverse
  | fuel + 1, first :: octets, shown =>
    match Utf8.decodeChar first 0 octets with
    | .ok (character, _, octets) =>
        ofOctetsFrom fuel octets (character :: shown)
    | .error malformed =>
      let refused := (first :: octets).take malformed.length
      ofOctetsFrom fuel (octets.drop (malformed.length - 1))
        ((refused.map CodePoint.ofOctet).reverse ++ shown)

/-- The text that octets are shown as. -/
def ofOctets (octets : List UInt8) : Text :=
  ofOctetsFrom octets.length octets []

/--
The text by which the system shows what a text names; without surrogates it is
that text.
-/
def stored (text : Text) : Text :=
  if text.any CodePoint.isSurrogate then
    match text.nameOctets? with
    | .ok octets => ofOctets octets
    | .error _ => text
  else text

end Text

end SettingsStore
