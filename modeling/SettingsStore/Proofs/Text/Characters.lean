import Mathlib.Data.List.Basic
import SettingsStore.Text.Utf8
import SettingsStore.Text.Basic

/-!
# Characters, code points and octets

A character is a code point of its own and no surrogate, so that no two
characters of a text would be read as a pair.  A character of ASCII is one
octet, and what is written in such characters is read back from the octets.
-/

namespace SettingsStore

namespace CodePoint

theorem ofChar_injective
    {first second : Char}
    (same : ofChar first = ofChar second) :
    first = second :=
  Char.toNat_inj.mp (Fin.mk.inj same)

theorem toChar?_ofChar (character : Char) :
    (ofChar character).toChar? = some character := by
  have valid : (ofChar character).val.isValidChar := character.valid
  rw [toChar?, dif_pos valid]
  exact congrArg some (Char.toNat_inj.mp rfl)

theorem isSurrogate_ofChar (character : Char) :
    (ofChar character).isSurrogate = false := by
  have valid := character.valid
  simp only [UInt32.isValidChar, Nat.isValidChar] at valid
  rw [Bool.eq_false_iff]
  intro surrogate
  rw [isSurrogate, Bool.and_eq_true] at surrogate
  have least := of_decide_eq_true surrogate.1
  have greatest := of_decide_eq_true surrogate.2
  simp only [ofChar, Char.toNat] at least greatest
  omega

end CodePoint

/-- Characters are never read as a pair. -/
theorem Text.unpaired_ofChars
    (characters : List Char) :
    (ofChars characters).Unpaired := by
  induction characters with
  | nil => trivial
  | cons first characters induction =>
      cases characters with
      | nil => trivial
      | cons second characters =>
          refine ⟨fun pair => ?_, induction⟩
          have high := pair.1
          have none := CodePoint.isSurrogate_ofChar first
          simp only [CodePoint.isHighSurrogate, CodePoint.isSurrogate,
            Bool.and_eq_true,
            decide_eq_true_eq, Bool.and_eq_false_iff, decide_eq_false_iff_not]
              at high none
          omega

theorem Text.unpaired_ofString (string : String) : (ofString string).Unpaired :=
  unpaired_ofChars string.toList

namespace Utf8

variable {characters : List Char}

theorem encode_of_ascii
    (ascii : ∀ character ∈ characters, character.toNat < 0x80) :
    encode characters = characters.map fun character =>
      character.toNat.toUInt8 := by
  rw [encode, List.map_eq_flatMap]
  refine List.flatMap_congr fun character member => ?_
  rw [encodeChar]
  exact if_pos (ascii character member)

theorem decodeFrom_of_ascii
    (ascii : ∀ character ∈ characters, character.toNat < 0x80)
    (offset : Nat)
    (read : List Char) :
    decodeFrom characters.length offset
      (characters.map fun character => character.toNat.toUInt8) read =
      .ok (read.reverse ++ characters) := by
  induction characters generalizing offset read with
  | nil => simp [decodeFrom]
  | cons character characters induction =>
      have small := ascii character (List.mem_cons_self ..)
      have octet : character.toNat.toUInt8.toNat = character.toNat := by
        simp
        omega
      have first :
          ∀ octets, decodeChar character.toNat.toUInt8 offset octets =
            .ok (character, 1, octets) := by
        intro octets
        rw [decodeChar, octet, followers?, if_pos small, Char.ofNat_toNat]
      rw [List.map_cons, List.length_cons, decodeFrom, first]
      dsimp only
      rw [induction (fun other member =>
          ascii other (List.mem_cons_of_mem _ member)), List.reverse_cons,
        List.append_assoc]
      rfl

/-- Characters of ASCII are read from the octets that are written for them. -/
theorem decode_encode
    (ascii : ∀ character ∈ characters, character.toNat < 0x80) :
    decode (encode characters) = .ok characters := by
  rw [encode_of_ascii ascii, decode, List.length_map]
  exact decodeFrom_of_ascii ascii 0 []

end Utf8

end SettingsStore
