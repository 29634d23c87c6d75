import SettingsStore.Text.Basic
import SettingsStore.Number.Double

/-!
# JSON values

A value of the data format in which documents are kept.  Whole numbers are
unbounded and apart from doubles, and an object is the list of its members in
the order in which it shows them.  Its keys are distinct when it was read from a
text or built by the operations here; `DistinctKeys` says so at every level.
-/

namespace SettingsStore

/-- A JSON value. -/
inductive Json where
  | null
  | bool (value : Bool)
  | integer (value : Int)
  | double (value : Double)
  | string (value : Text)
  | array (items : List Json)
  | object (members : List (Text × Json))

/-- The members of an object, in order. -/
abbrev Members := List (Text × Json)

namespace Members

/-- The keys, in order. -/
def keys (members : Members) : List Text :=
  members.map Prod.fst

/-- The value of a key. -/
def find? (members : Members) (key : Text) : Option Json :=
  members.lookup key

/-- Sets a key, at its place if it is there and at the end otherwise. -/
def put (key : Text) (value : Json) : Members → Members
  | [] => [(key, value)]
  | (first, held) :: rest =>
    if first = key then
      (first, value) :: rest
    else (first, held) :: put key value rest

/-- Takes a key away. -/
def erase (key : Text) (members : Members) : Members :=
  members.filter fun member => member.1 ≠ key

/-- Sets a key to a value, or takes it away. -/
def update (key : Text) (value : Option Json) (members : Members) : Members :=
  match value with
  | none => members.erase key
  | some value => members.put key value

/--
The members in the order in which their keys first occur, each with the value
that occurs last.
-/
def ofPairs (pairs : List (Text × Json)) : Members :=
  pairs.foldl (fun members pair => members.put pair.1 pair.2) []

end Members

namespace Json

/-- The members of an object; any other value has none. -/
def members? : Json → Option Members
  | .object members => some members
  | _ => none

/-- The items of an array. -/
def items? : Json → Option (List Json)
  | .array items => some items
  | _ => none

/-- The text of a string. -/
def string? : Json → Option Text
  | .string value => some value
  | _ => none

/-- The value of a key of an object. -/
def field? (value : Json) (key : Text) : Option Json :=
  value.members?.bind fun members => members.find? key

mutual

/--
How many arrays and objects lie around the innermost value, those included that
are empty.
-/
def depth : Json → Nat
  | .array items => depthOfItems items + 1
  | .object members => depthOfMembers members + 1
  | _ => 0

/-- The greatest depth among items. -/
def depthOfItems : List Json → Nat
  | [] => 0
  | item :: rest => max item.depth (depthOfItems rest)

/-- The greatest depth among the values of members. -/
def depthOfMembers : List (Text × Json) → Nat
  | [] => 0
  | (_, value) :: rest => max value.depth (depthOfMembers rest)

end

mutual

/-- No object in the value holds a key twice. -/
def DistinctKeys : Json → Prop
  | .array items => DistinctKeysInItems items
  | .object members =>
      members.Pairwise (fun first second => first.1 ≠ second.1) ∧
      DistinctKeysInMembers members
  | _ => True

/-- No object in the items holds a key twice. -/
def DistinctKeysInItems : List Json → Prop
  | [] => True
  | item :: rest => item.DistinctKeys ∧ DistinctKeysInItems rest

/-- No object in the values of the members holds a key twice. -/
def DistinctKeysInMembers : List (Text × Json) → Prop
  | [] => True
  | (_, value) :: rest => value.DistinctKeys ∧ DistinctKeysInMembers rest

end

/-- The greatest number of digits of a whole number that is read or written. -/
def digitLimit : Nat := 4300

mutual

/-- Whether a whole number in the value has more digits than can be written. -/
def hasHugeInteger : Json → Bool
  | .integer value => Nat.pow 10 digitLimit ≤ value.natAbs
  | .array items => hasHugeIntegerInItems items
  | .object members => hasHugeIntegerInMembers members
  | _ => false

/-- Whether a whole number in the items has more digits than can be written. -/
def hasHugeIntegerInItems : List Json → Bool
  | [] => false
  | item :: rest => item.hasHugeInteger || hasHugeIntegerInItems rest

/--
Whether a whole number in the values of the members has more digits than can be
written.
-/
def hasHugeIntegerInMembers : List (Text × Json) → Bool
  | [] => false
  | (_, value) :: rest => value.hasHugeInteger || hasHugeIntegerInMembers rest

end

/-- The frames that are free for recursion over a value. -/
def copyFrames : Nat := 960

/-- The frames that copying a value takes: two for each level. -/
def copyCost (value : Json) : Nat :=
  2 * value.depth

/-- A value that is not nested too deeply to be copied. -/
def Copyable (value : Json) : Prop :=
  value.copyCost ≤ copyFrames

instance (value : Json) : Decidable value.Copyable :=
  inferInstanceAs (Decidable (_ ≤ _))

end Json

end SettingsStore
