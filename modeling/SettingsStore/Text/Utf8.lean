import SettingsStore.Text.Hexadecimal

/-!
# UTF-8

Files hold octets; documents are characters.  `encode` writes characters as
octets and `decode` reads them back strictly: the first ill-formed sequence is
reported with its offset, its length and what is wrong with it.  A sequence is
cut off at the first octet that cannot continue it, so that a report names the
longest well-formed beginning and nothing of what follows.
-/

namespace SettingsStore.Utf8

/-- The octets of a character. -/
def encodeChar (character : Char) : List UInt8 :=
  let value := character.toNat
  if value < 0x80 then [value.toUInt8]
  else if value < 0x800 then
    [(0xC0 + value / 0x40).toUInt8, (0x80 + value % 0x40).toUInt8]
  else if value < 0x10000 then
    [(0xE0 + value / 0x1000).toUInt8, (0x80 + value / 0x40 % 0x40).toUInt8,
      (0x80 + value % 0x40).toUInt8]
  else
    [(0xF0 + value / 0x40000).toUInt8, (0x80 + value / 0x1000 % 0x40).toUInt8,
      (0x80 + value / 0x40 % 0x40).toUInt8, (0x80 + value % 0x40).toUInt8]

/-- The octets of a sequence of characters. -/
def encode (characters : List Char) : List UInt8 :=
  characters.flatMap encodeChar

/-- What is wrong with an ill-formed sequence. -/
inductive Fault where
  | start
  | continuation
  | truncated
  deriving DecidableEq

/-- The words for a fault. -/
def Fault.message : Fault → String
  | .start => "invalid start byte"
  | .continuation => "invalid continuation byte"
  | .truncated => "unexpected end of data"

/--
An ill-formed sequence: its first octet, where it stands, how long it is and
what is wrong.
-/
structure Malformed where
  octet : UInt8
  offset : Nat
  length : Nat
  fault : Fault
  deriving DecidableEq

/-- The report of an ill-formed sequence. -/
def Malformed.message (malformed : Malformed) : String :=
  let place :=
    if malformed.length = 1 then
      "byte 0x" ++ String.ofList (hexDigits 2 malformed.octet.toNat) ++
        " in position " ++
        toString malformed.offset
    else
      "bytes in position " ++ toString malformed.offset ++ "-" ++
        toString (malformed.offset + malformed.length - 1)
  "'utf-8' codec can't decode " ++ place ++ ": " ++ malformed.fault.message

/--
The number of octets that follow a first octet, if it can begin a sequence.
-/
def followers? (first : Nat) : Option Nat :=
  if first < 0x80 then some 0
  else if 0xC2 ≤ first ∧ first ≤ 0xDF then some 1
  else if 0xE0 ≤ first ∧ first ≤ 0xEF then some 2
  else if 0xF0 ≤ first ∧ first ≤ 0xF4 then some 3
  else none

/--
Whether an octet may come second after a first octet: overlong forms, surrogates
and values past the last code point are ruled out here.
-/
def admitsSecond (first second : Nat) : Bool :=
  (if first = 0xE0 then 0xA0 else if first = 0xF0 then 0x90 else 0x80) ≤
    second &&
    second ≤ (if first = 0xED then 0x9F else if first =
        0xF4 then 0x8F else 0xBF)

/-- Whether an octet may come third or fourth. -/
def isContinuation (octet : Nat) : Bool :=
  0x80 ≤ octet && octet ≤ 0xBF

/-- The value bits of a first octet with a number of followers. -/
def leadBits (first followers : Nat) : Nat :=
  match followers with
  | 0 => first
  | 1 => first - 0xC0
  | 2 => first - 0xE0
  | _ => first - 0xF0

/--
Reads the octets after the first two: the value so far, the octets read, those
still wanted.
-/
def decodeRest (first : UInt8) (offset : Nat) :
    Nat → Nat → Nat → List UInt8 → Except Malformed (Nat × Nat × List UInt8)
  | value, count, 0, octets => .ok (value, count, octets)
  | _, count, _ + 1, [] => .error ⟨first, offset, count, .truncated⟩
  | value, count, wanted + 1, octet :: octets =>
    if isContinuation octet.toNat then
      decodeRest first offset (value * 0x40 + (octet.toNat - 0x80))
        (count + 1) wanted octets
    else .error ⟨first, offset, count, .continuation⟩

/--
Reads one character after its first octet: the character, the octets read in all
and the rest.
-/
def decodeChar (first : UInt8) (offset : Nat) (octets : List UInt8) :
    Except Malformed (Char × Nat × List UInt8) :=
  match followers? first.toNat with
  | none => .error ⟨first, offset, 1, .start⟩
  | some 0 => .ok (Char.ofNat first.toNat, 1, octets)
  | some (wanted + 1) =>
    match octets with
    | [] => .error ⟨first, offset, 1, .truncated⟩
    | second :: octets =>
      if admitsSecond first.toNat second.toNat then
        match decodeRest first offset
            (leadBits first.toNat (wanted + 1) * 0x40 + (second.toNat - 0x80)) 2
              wanted octets with
        | .ok (value, count, octets) => .ok (Char.ofNat value, count, octets)
        | .error malformed => .error malformed
      else .error ⟨first, offset, 1, .continuation⟩

/--
Reads characters until the octets end; the characters read so far come last
first.
-/
def decodeFrom :
    Nat → Nat → List UInt8 → List Char → Except Malformed (List Char)
  | _, _, [], read => .ok read.reverse
  | 0, _, _ :: _, read => .ok read.reverse
  | fuel + 1, offset, first :: octets, read =>
    match decodeChar first offset octets with
    | .ok (character, count, octets) =>
        decodeFrom fuel (offset + count) octets (character :: read)
    | .error malformed => .error malformed

/-- The characters of a sequence of octets, or its first ill-formed sequence. -/
def decode (octets : List UInt8) : Except Malformed (List Char) :=
  decodeFrom octets.length 0 octets []

end SettingsStore.Utf8
