import SettingsStore.Session.Basic

/-!
# Edits

Changes of the list of records in a session.  An edit of a record that is not
there changes nothing, and neither does setting a member of a record that is not
an object.
-/

namespace SettingsStore

/-- A change of the records. -/
inductive Edit where
  | append (record : Json)
  /-- Puts a record before the one with a number, or at the end. -/
  | insert (number : Nat) (record : Json)
  | set (number : Nat) (record : Json)
  | remove (number : Nat)
  /-- Sets a member of a record. -/
  | put (number : Nat) (key : Text) (value : Json)
  | clear

namespace Edit

/-- A record with a member set. -/
def putMember (key : Text) (value : Json) : Json → Json
  | .object members => .object (Members.put key value members)
  | record => record

/-- The records after an edit. -/
def applyTo (records : List Json) : Edit → List Json
  | append record => records ++ [record]
  | insert number record => records.take number ++ record :: records.drop number
  | set number record => records.set number record
  | remove number => records.eraseIdx number
  | put number key value => records.modify number (putMember key value)
  | clear => []

end Edit

/-- The session after an edit. -/
def Session.edit (session : Session) (edit : Edit) : Session :=
  ⟨edit.applyTo session.notebooks⟩

end SettingsStore
