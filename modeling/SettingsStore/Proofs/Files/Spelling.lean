import SettingsStore.Proofs.Files.Refusal

/-!
# Which texts the system takes

A text can be handed to the system if each of its code points can: none of them
is the null character, and its surrogates all stand for octets.  So a path is
taken exactly if its names are, wherever it starts, and paths that are made of
names of others are taken with those.
-/

namespace SettingsStore

/-- A code point that may stand in a text for the system. -/
def CodePoint.Nameable (point : CodePoint) : Prop :=
  point.val ≠ 0 ∧ (point.isSurrogate = true →
    0xDC80 ≤ point.val ∧ point.val ≤ 0xDCFF)

/-- A text of which every code point may stand in a text for the system. -/
def Text.Nameable (text : Text) : Prop :=
  ∀ point ∈ text, point.Nameable

instance (point : CodePoint) : Decidable point.Nameable :=
  inferInstanceAs (Decidable (_ ∧ _))

-- the code points of the text are gone through, not all code points
instance (text : Text) : Decidable text.Nameable :=
  List.decidableBAll _ text

namespace CodePoint

theorem isSurrogate_of_toChar?
    {point : CodePoint}
    (none : point.toChar? = none) :
    point.isSurrogate = true := by
  rw [toChar?] at none
  by_cases valid : point.val.isValidChar
  · rw [dif_pos valid] at none
    cases none
  · rw [Nat.isValidChar] at valid
    rw [isSurrogate, Bool.and_eq_true, decide_eq_true_eq, decide_eq_true_eq]
    have bound := point.isLt
    omega

theorem nameable_of_toChar?
    {point : CodePoint}
    {character : Char}
    (same : point.toChar? = some character) :
    point.Nameable ↔ 0 ∉ Utf8.encodeChar character := by
  have number : character.toNat = point.val := by
    rw [toChar?] at same
    by_cases valid : point.val.isValidChar
    · rw [dif_pos valid] at same
      cases same
      rfl
    · rw [dif_neg valid] at same
      cases same
  have noSurrogate : point.isSurrogate ≠ true := by
    intro surrogate
    rw [Text.toChar?_of_isSurrogate surrogate] at same
    cases same
  have ordinary : point.Nameable ↔ point.val ≠ 0 :=
    ⟨And.left, fun nonzero =>
        ⟨nonzero, fun surrogate => absurd surrogate noSurrogate⟩⟩
  have bound := point.isLt
  rw [ordinary, Utf8.encodeChar, number]
  -- each octet of a longer form is at least `0x80`
  split
  · simp only [List.mem_singleton, ← UInt8.toNat_inj, Nat.toUInt8_eq,
      UInt8.toNat_ofNat', UInt8.toNat_zero]
    omega
  · split
    · simp only [List.mem_cons, List.not_mem_nil, or_false, ← UInt8.toNat_inj,
        Nat.toUInt8_eq, UInt8.toNat_ofNat', UInt8.toNat_zero]
      omega
    · split
      · simp only [List.mem_cons, List.not_mem_nil, or_false, ← UInt8.toNat_inj,
          Nat.toUInt8_eq, UInt8.toNat_ofNat', UInt8.toNat_zero]
        omega
      · simp only [List.mem_cons, List.not_mem_nil, or_false, ← UInt8.toNat_inj,
          Nat.toUInt8_eq, UInt8.toNat_ofNat', UInt8.toNat_zero]
        omega

theorem nameable_of_escapedOctet?
    {point : CodePoint}
    (surrogate : point.isSurrogate = true) :
    point.Nameable ↔ ∃ octet, point.escapedOctet? = some octet := by
  rw [Nameable, escapedOctet?]
  rw [isSurrogate, Bool.and_eq_true, decide_eq_true_eq, decide_eq_true_eq]
    at surrogate
  constructor
  · rintro ⟨-, range⟩
    exact ⟨_, if_pos (range (by simp [isSurrogate, surrogate]))⟩
  · rintro ⟨octet, stands⟩
    split at stands
    · rename_i range
      exact ⟨by omega, fun _ => range⟩
    · cases stands

end CodePoint

namespace Text

theorem octetsFrom_nameable_iff
    (text : Text)
    (offset : Nat)
    (octets : List UInt8) :
    (∃ all, text.octetsFrom CodePoint.escapedOctet? offset octets =
        .ok all ∧ 0 ∉ all) ↔
      0 ∉ octets ∧ text.Nameable := by
  induction text generalizing offset octets with
  | nil =>
      simp [octetsFrom, Nameable]
  | cons point rest induction =>
      rw [octetsFrom, Nameable, List.forall_mem_cons]
      cases same : point.toChar? with
      | some character =>
          dsimp only
          rw [induction, CodePoint.nameable_of_toChar? same, List.mem_append,
            List.mem_reverse, Nameable]
          tauto
      | none =>
          have surrogate := CodePoint.isSurrogate_of_toChar? same
          dsimp only
          rw [CodePoint.nameable_of_escapedOctet? surrogate]
          cases stands : point.escapedOctet? with
          | some octet =>
              have high := high_of_escapedOctet? stands
              have nonzero : ¬ (0 : UInt8) = octet := by
                rintro rfl
                simp at high
              dsimp only
              rw [induction, List.mem_cons, Nameable]
              simp [nonzero]
          | none => simp

/-- The system takes a text exactly if it takes each of its code points. -/
theorem systemOctets?_ok_iff (text : Text) :
    (∃ octets, text.systemOctets? = .ok octets) ↔ text.Nameable := by
  have all := text.octetsFrom_nameable_iff 0 []
  rw [systemOctets?, nameOctets?]
  cases taken : text.octetsFrom CodePoint.escapedOctet? 0 [] with
  | error found => simpa [taken] using all
  | ok octets =>
      rw [taken] at all
      by_cases null : 0 ∈ octets
      · simpa [null] using all
      · simpa [null] using all

@[simp]
theorem nameable_nil : Nameable [] :=
  List.forall_mem_nil _

@[simp]
theorem nameable_append
    {first second : Text} :
    (first ++ second).Nameable ↔ first.Nameable ∧ second.Nameable :=
  List.forall_mem_append

/-- Ordinary characters are taken unless the null character is among them. -/
theorem nameable_ofChars
    {characters : List Char}
    (ordinary : '\x00' ∉ characters) :
    (ofChars characters).Nameable := by
  intro point among
  obtain ⟨character, member, rfl⟩ := List.mem_map.mp among
  refine ⟨fun null => ordinary ?_, ?_⟩
  · have same : character = '\x00' := Char.toNat_inj.mp null
    exact same ▸ member
  · rw [CodePoint.isSurrogate_ofChar]
    exact nofun

/-- Texts with slashes between them are taken exactly if each of them is. -/
theorem nameable_intercalate
    {texts : List Text} :
    (intercalate "/" texts).Nameable ↔ ∀ text ∈ texts, text.Nameable := by
  have slash : (ofString "/").Nameable := by decide
  induction texts with
  | nil => simp [intercalate]
  | cons first rest later =>
      cases rest with
      | nil => simp [intercalate]
      | cons second rest =>
          have joined : intercalate "/" (first :: second :: rest) =
              first ++ (ofString "/" ++ intercalate "/" (second :: rest)) := by
            simp [intercalate, List.intercalate_cons_cons]
          rw [joined, nameable_append, nameable_append, List.forall_mem_cons]
          simp only [slash, true_and, later]

end Text

namespace FileSystem

/-- A path is taken exactly if its names are. -/
theorem speakable_iff
    {path : Path} :
    Speakable path ↔ ∀ name ∈ path.names, name.Nameable := by
  obtain ⟨start, names⟩ := path
  rw [Speakable, Text.systemOctets?_ok_iff, Path.toText]
  split
  · rename_i nowhere
    obtain ⟨-, none⟩ := nowhere
    dsimp only at none
    have here : (Text.ofString ".").Nameable := by decide
    simp [here, none]
  · have mark : start.mark.Nameable := by cases start <;> decide
    rw [Text.nameable_append, Text.nameable_intercalate]
    simp [mark]

end FileSystem

end SettingsStore
