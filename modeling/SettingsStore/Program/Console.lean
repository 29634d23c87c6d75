import SettingsStore.Files.Name

/-!
# The output

What a program shows goes to an output, which has an encoding and refuses a
text that the encoding cannot spell.  Every encoding has the characters of
ASCII.  A text is taken or refused as a whole: of one that is refused nothing
is written.
-/

namespace SettingsStore

/-- The report of an output that refused a text. -/
structure OutputError where
  message : Text
  deriving DecidableEq

/-- An output, by what it has against a text. -/
structure Console where
  refusal? : Text → Option OutputError
  refusal?_ascii :
    ∀ text : Text, (∀ point ∈ text, point.isAscii) → refusal? text = none

namespace Console

/-- An output that takes every text. -/
def lenient : Console where
  refusal? _ := none
  refusal?_ascii _ _ := rfl

/-- A character of ASCII is no surrogate. -/
theorem toChar?_of_isAscii
    {point : CodePoint}
    (ascii : point.isAscii = true) :
    ∃ character, point.toChar? = some character := by
  have small : point.val < 0x80 := of_decide_eq_true ascii
  have valid : point.val.isValidChar := Or.inl (by omega)
  exact ⟨_, dif_pos valid⟩

/-- A text of ASCII has octets. -/
theorem octetsFrom_of_ascii
    {text : Text}
    (ascii : ∀ point ∈ text, point.isAscii)
    (standsFor : CodePoint → Option UInt8)
    (offset : Nat)
    (octets : List UInt8) :
    ∃ found, text.octetsFrom standsFor offset octets = .ok found := by
  induction text generalizing offset octets with
  | nil => exact ⟨_, rfl⟩
  | cons point rest induction =>
      obtain ⟨here, others⟩ := List.forall_mem_cons.mp ascii
      obtain ⟨character, known⟩ := toChar?_of_isAscii here
      rw [Text.octetsFrom, known]
      exact induction others _ _

/-- An output in UTF-8, which has no surrogates. -/
def utf8 : Console where
  refusal? text :=
    match text.octets? with
    | .ok _ => none
    | .error found => some ⟨found.message⟩
  refusal?_ascii text ascii := by
    obtain ⟨octets, spelled⟩ := octetsFrom_of_ascii ascii (fun _ => none) 0 []
    rw [Text.octets?, spelled]

end Console

end SettingsStore
