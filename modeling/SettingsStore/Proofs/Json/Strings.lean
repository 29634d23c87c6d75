import SettingsStore.Json.Printer
import SettingsStore.Json.Parser

/-!
# Strings that are read back

Each code point of a string is written as itself, as an escape or as the escapes
of a pair of surrogates, and reading takes it back to the code point.  Only
where a high surrogate is followed by a low one would the two be read as a pair;
in a text without such neighbours every code point is read back.
-/

namespace SettingsStore.Json

/-! ## Escapes -/

theorem hexValue?_digitChar
    {digit : Nat}
    (small : digit < 16) :
    hexValue? (Nat.digitChar digit : Char) = some digit := by
  revert digit
  decide

/-- The four digits of a code unit stand for it. -/
theorem codeUnit?_unitDigits
    {unit : Nat}
    (small : unit < 0x10000) :
    ∃ first second third fourth : Char,
      unitDigits unit = [first, second, third, fourth] ∧
        codeUnit? first second third fourth = some (CodePoint.ofNat unit) := by
  refine ⟨_, _, _, _, rfl, ?_⟩
  rw [codeUnit?, hexValue?_digitChar (by omega), hexValue?_digitChar (by omega),
    hexValue?_digitChar (by omega), hexValue?_digitChar (by omega)]
  dsimp only
  rw [show ((unit / 0x1000 % 16 * 16 + unit / 0x100 % 16) * 16 +
      unit / 0x10 % 16) * 16 + unit % 16 =
    unit by omega]

theorem ofNat_val (point : CodePoint) : CodePoint.ofNat point.val = point :=
  Fin.ofNat_val_eq_self point

/-- A code point that follows what was read and is no other half of a pair. -/
def Follows (read : Text) (point : CodePoint) : Prop :=
  ∀ last, read.head? = some last →
    ¬ (last.isHighSurrogate ∧ point.isLowSurrogate)

theorem pushUnit_of_follows
    {read : Text}
    {point : CodePoint}
    (follows : Follows read point) :
    pushUnit point read = point :: read := by
  cases read with
  | nil => rfl
  | cons last read =>
      have apart := follows last rfl
      rw [pushUnit, if_neg (by simpa using apart)]

/-- Reading the escape of a code unit. -/
theorem stringBody_unitEscape
    {unit : Nat}
    (small : unit < 0x10000)
    {opening read more : Text}
    (goesOn : more ≠ []) :
    stringBody opening (Text.ofChars (unitEscape unit) ++ more) read =
      stringBody opening more (pushUnit (CodePoint.ofNat unit) read) := by
  obtain ⟨first, second, third, fourth, digits, value⟩ :=
    codeUnit?_unitDigits small
  obtain ⟨next, after, rfl⟩ := List.exists_cons_of_ne_nil goesOn
  have text : Text.ofChars (unitEscape unit) ++ next :: after =
      CodePoint.ofChar '\\' :: CodePoint.ofChar 'u' :: CodePoint.ofChar first ::
        CodePoint.ofChar second :: CodePoint.ofChar third ::
          CodePoint.ofChar fourth :: next :: after := by
    simp [unitEscape, digits, Text.ofChars]
  rw [text, stringBody, if_neg (by decide), if_pos rfl, if_pos rfl, value]

/-- Reading an escape of one letter. -/
theorem stringBody_letter
    {letter character : Char}
    {point : CodePoint}
    (same : point.val = character.toNat)
    (other : (letter : CodePoint) ≠ 'u')
    (escapes : escaped? letter = some (character : CodePoint))
    (opening more read : Text) :
    stringBody opening (Text.ofChars ['\\', letter] ++ more) read =
      stringBody opening more (point :: read) := by
  have itself : point = CodePoint.ofChar character := Fin.ext same
  have text : Text.ofChars ['\\', letter] ++ more =
      CodePoint.ofChar '\\' :: CodePoint.ofChar letter :: more := rfl
  rw [text, stringBody.eq_def]
  dsimp only
  rw [if_neg (by decide), if_pos rfl, if_neg other, escapes, itself]

/-- Reading a code point that is written as itself. -/
theorem stringBody_plain
    {point : CodePoint}
    (visible : 0x20 ≤ point.val)
    (noQuote : point ≠ '"')
    (noEscape : point ≠ '\\')
    (opening more read : Text) :
    stringBody opening (point :: more) read =
      stringBody opening more (point :: read) := by
  rw [stringBody.eq_def]
  dsimp only
  rw [if_neg noQuote, if_neg noEscape, if_neg (Nat.not_lt_of_le visible)]

/-! ## Code points -/

theorem val_ofChar_ofNat
    {number : Nat}
    (valid : number.isValidChar) :
    (CodePoint.ofChar (Char.ofNat number)).val = number := by
  rw [Char.ofNat, dif_pos valid]
  rfl

/-- The two halves of a code point above the basic plane are read back as it. -/
theorem stringBody_pair
    {point : CodePoint}
    {opening read more : Text}
    (above : 0x10000 ≤ point.val)
    (goesOn : more ≠ []) :
    stringBody opening
        (Text.ofChars (unitEscape (0xD800 + (point.val - 0x10000) / 0x400) ++
          unitEscape (0xDC00 + (point.val - 0x10000) % 0x400)) ++ more) read =
      stringBody opening more (point :: read) := by
  have bound := point.isLt
  generalize highUnit : 0xD800 + (point.val - 0x10000) / 0x400 = high
  generalize lowUnit : 0xDC00 + (point.val - 0x10000) % 0x400 = low
  have highValue : (CodePoint.ofNat high).val = high :=
    Nat.mod_eq_of_lt (by omega)
  have lowValue : (CodePoint.ofNat low).val = low := Nat.mod_eq_of_lt (by omega)
  have noLow : Follows read (CodePoint.ofNat high) := by
    rintro last _ ⟨_, isLow⟩
    simp only [CodePoint.isLowSurrogate, highValue, Bool.and_eq_true,
      decide_eq_true_eq] at isLow
    omega
  have opens : (CodePoint.ofNat high).isHighSurrogate = true := by
    simp only [CodePoint.isHighSurrogate, highValue, Bool.and_eq_true,
      decide_eq_true_eq]
    omega
  have closes : (CodePoint.ofNat low).isLowSurrogate = true := by
    simp only [CodePoint.isLowSurrogate, lowValue, Bool.and_eq_true,
      decide_eq_true_eq]
    omega
  have together :
      CodePoint.ofPair (CodePoint.ofNat high) (CodePoint.ofNat low) =
        point := by
    rw [CodePoint.ofPair, highValue, lowValue]
    refine Fin.ext ((Nat.mod_eq_of_lt (by omega)).trans (by omega))
  have parts : Text.ofChars (unitEscape high ++ unitEscape low) ++ more =
      Text.ofChars (unitEscape high) ++
        (Text.ofChars (unitEscape low) ++ more) := by
    simp [Text.ofChars]
  rw [parts, stringBody_unitEscape (by omega) (by simp [goesOn]),
    pushUnit_of_follows noLow,
    stringBody_unitEscape (by omega) goesOn, pushUnit, opens, closes,
    Bool.and_self, if_pos rfl,
    together]

/--
A code point that is no other half of a pair is read back as it was written.
-/
theorem stringBody_pointText
    {point : CodePoint}
    {opening read more : Text}
    (follows : Follows read point)
    (goesOn : more ≠ []) :
    stringBody opening (Text.ofChars (pointText point) ++ more) read =
      stringBody opening more (point :: read) := by
  rw [pointText]
  split
  · exact @stringBody_letter '"' '"' point ‹_› (by decide)
      (by decide) opening more read
  split
  · exact @stringBody_letter '\\' '\\' point ‹_› (by decide)
      (by decide) opening more read
  split
  · exact @stringBody_letter 'n' '\n' point ‹_› (by decide)
      (by decide) opening more read
  split
  · exact @stringBody_letter 'r' '\r' point ‹_› (by decide)
      (by decide) opening more read
  split
  · exact @stringBody_letter 't' '\t' point ‹_› (by decide)
      (by decide) opening more read
  split
  · exact @stringBody_letter 'f' '\x0c' point ‹_› (by decide)
      (by decide) opening more read
  split
  · exact @stringBody_letter 'b' '\x08' point ‹_› (by decide)
      (by decide) opening more read
  split
  · rename_i noQuote noEscape _ _ _ _ _ visible
    have itself : Text.ofChars [Char.ofNat point.val] = [point] := by
      refine congrArg (fun point => [point]) (Fin.ext (val_ofChar_ofNat ?_))
      rw [Nat.isValidChar]
      omega
    rw [itself]
    refine stringBody_plain visible.1 ?_ ?_ opening more read
    · rintro rfl
      exact noQuote rfl
    · rintro rfl
      exact noEscape rfl
  split
  · rename_i small
    rw [stringBody_unitEscape small goesOn, ofNat_val,
      pushUnit_of_follows follows]
  · rename_i high
    exact stringBody_pair (Nat.le_of_not_lt high) goesOn

/-! ## Whole strings -/

theorem stringBody_flatMap
    {text opening read more : Text}
    (unpaired : text.Unpaired)
    (follows : ∀ point, text.head? = some point → Follows read point) :
    stringBody opening (Text.ofChars (text.flatMap pointText) ++
        CodePoint.ofChar '"' :: more) read =
      .ok (read.reverse ++ text, more) := by
  induction text generalizing read with
  | nil =>
      change stringBody opening (CodePoint.ofChar '"' :: more) read = _
      rw [stringBody.eq_def]
      dsimp only
      rw [if_pos rfl, List.append_nil]
  | cons point text induction =>
      have parts :
          Text.ofChars ((point :: text).flatMap pointText) ++
            CodePoint.ofChar '"' :: more =
          Text.ofChars (pointText point) ++
            (Text.ofChars (text.flatMap pointText) ++
                CodePoint.ofChar '"' :: more) := by
        simp [Text.ofChars]
      rw [parts, stringBody_pointText (follows point rfl) (by simp)]
      cases text with
      | nil =>
          rw [induction trivial (by simp)]
          simp
      | cons second text =>
          obtain ⟨apart, others⟩ := unpaired
          rw [induction others ?_]
          · simp
          · rintro _ ⟨⟩ _ ⟨⟩
            exact apart

/-- A string without neighbours that would be read as a pair is read back. -/
theorem stringBody_writeString
    {text : Text}
    (unpaired : text.Unpaired)
    (opening : Text)
    (rest : List Char) :
    ∃ body, Text.ofChars (writeString text rest) =
      CodePoint.ofChar '"' :: body ∧
      stringBody opening body [] = .ok (text, Text.ofChars rest) := by
  refine ⟨Text.ofChars (text.flatMap pointText) ++ CodePoint.ofChar '"' ::
      Text.ofChars rest, ?_, ?_⟩
  · simp [writeString, Text.ofChars]
  · exact stringBody_flatMap unpaired (by simp [Follows])

end SettingsStore.Json
