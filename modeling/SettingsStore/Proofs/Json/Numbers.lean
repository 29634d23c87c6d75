import Mathlib.Data.List.TakeWhile
import SettingsStore.Json.Printer
import SettingsStore.Proofs.Json.Reading

/-!
# Numbers that are read back

A number ends where no digit, point, sign or exponent mark follows.  What a
reader of numbers finds in a text it finds also when such a rest comes after it.
The digits of a whole number are read back as that number; of doubles it is only
taken for granted that what is written for one by itself is read back.
-/

namespace SettingsStore.Json

/-! ## Digits -/

theorem isDigit_ofChar
    {character : Char}
    (digit : character.isDigit = true) :
    (CodePoint.ofChar character).isDigit = true := by
  simp only [Char.isDigit, Bool.and_eq_true, decide_eq_true_eq, ge_iff_le]
    at digit
  simp only [CodePoint.isDigit, Bool.and_eq_true, decide_eq_true_eq]
  exact digit

theorem ne_of_isDigit
    {point other : CodePoint}
    (digit : point.isDigit = true)
    (noDigit : other.isDigit = false) :
    point ≠ other := by
  rintro rfl
  rw [digit] at noDigit
  cases noDigit

theorem isDigit_of_mem_toDigits
    {number : Nat}
    {point : CodePoint}
    (member : point ∈ Text.ofChars (Nat.toDigits 10 number)) :
    point.isDigit = true := by
  obtain ⟨character, digit, rfl⟩ := List.mem_map.mp member
  exact isDigit_ofChar (Nat.isDigit_of_mem_toDigits (by decide)
      (by decide) digit)

theorem val_digitChar
    {number : Nat}
    (small : number < 10) :
    (CodePoint.ofChar number.digitChar).val - 0x30 = number := by
  have value := Nat.toNat_digitChar_of_lt_ten small
  change number.digitChar.toNat - 0x30 = number
  omega

/-- The digits of a whole number stand for it. -/
theorem digitsValue_toDigits (number : Nat) :
    Text.digitsValue (Text.ofChars (Nat.toDigits 10 number)) = number := by
  induction number using Nat.strongRecOn with
  | _ number induction =>
      by_cases small : number < 10
      · rw [Nat.toDigits_of_lt_base small]
        simp [Text.digitsValue, Text.ofChars, val_digitChar small]
      · rw [Nat.toDigits_of_base_le (by decide) (Nat.le_of_not_lt small)]
        have before := induction (number / 10) (by omega)
        have last := @val_digitChar (number % 10) (by omega)
        rw [Text.digitsValue] at before ⊢
        rw [Text.ofChars, List.map_append, List.foldl_append,
          ← Text.ofChars, before]
        simp only [List.map_cons, List.map_nil, List.foldl_cons,
          List.foldl_nil, last]
        omega

/-- The digits of a positive number do not begin with zero. -/
theorem head?_toDigits
    {number : Nat}
    (positive : 0 < number) :
    (Nat.toDigits 10 number).head? ≠ some '0' := by
  induction number using Nat.strongRecOn with
  | _ number induction =>
      by_cases small : number < 10
      · rw [Nat.toDigits_of_lt_base small]
        simp
        omega
      · have before := induction (number / 10) (by omega) (by omega)
        obtain ⟨first, others, same⟩ :=
          List.exists_cons_of_ne_nil (@Nat.toDigits_ne_nil (number / 10) 10)
        rw [same] at before
        rw [Nat.toDigits_of_base_le (by decide) (Nat.le_of_not_lt small), same]
        exact before

/-! ## What may follow a number -/

/-- A text that does not go on a number. -/
def Stops (rest : Text) : Prop :=
  ∀ point, rest.head? = some point →
    point.isDigit = false ∧ point ≠ '.' ∧ point ≠ 'e' ∧ point ≠ 'E' ∧
      point ≠ '+' ∧ point ≠ '-'

variable {rest : Text}

theorem Stops.takeWhile
    (stops : Stops rest) :
    rest.takeWhile CodePoint.isDigit = [] ∧
      rest.dropWhile CodePoint.isDigit = rest := by
  cases rest with
  | nil => exact ⟨rfl, rfl⟩
  | cons point rest =>
      obtain ⟨noDigit, _⟩ := stops point rfl
      exact ⟨List.takeWhile_cons_of_neg (by simp [noDigit]),
        List.dropWhile_cons_of_neg (by simp [noDigit])⟩

theorem Stops.digits
    (stops : Stops rest)
    (text : Text) :
    (text ++ rest).takeWhile CodePoint.isDigit =
      text.takeWhile CodePoint.isDigit ∧
      (text ++ rest).dropWhile CodePoint.isDigit =
        text.dropWhile CodePoint.isDigit ++ rest := by
  obtain ⟨taken, left⟩ := stops.takeWhile
  induction text with
  | nil => exact ⟨taken, left⟩
  | cons point text induction =>
      by_cases digit : point.isDigit = true
      · simp [digit, induction]
      · simp [digit]

theorem Stops.after?
    (stops : Stops rest)
    {mark : CodePoint}
    (ends :
      mark.isDigit = true ∨ mark = '.' ∨ mark = 'e' ∨ mark = 'E' ∨
        mark = '+' ∨ mark = '-')
    (text : Text) :
    (text ++ rest).after? mark = (text.after? mark).map (· ++ rest) := by
  cases text with
  | nil =>
      cases rest with
      | nil => rfl
      | cons point rest =>
          obtain ⟨noDigit, others⟩ := stops point rfl
          have differs : point ≠ mark := by
            rintro rfl
            simp [noDigit, others] at ends
          simp [Text.after?, differs]
  | cons point text =>
      simp only [List.cons_append, Text.after?]
      split <;> rfl

/-! ## Reading on -/

theorem wholeDigits_append
    (stops : Stops rest)
    (text : Text) :
    wholeDigits (text ++ rest) =
      ((wholeDigits text).1, (wholeDigits text).2 ++ rest) := by
  rw [wholeDigits, wholeDigits, stops.after? (Or.inl (by decide))]
  cases text.after? '0' with
  | none =>
      obtain ⟨taken, left⟩ := stops.digits text
      simp [taken, left]
  | some behind => rfl

theorem fractionDigits_append
    (stops : Stops rest)
    (text : Text) :
    fractionDigits (text ++ rest) =
      ((fractionDigits text).1, (fractionDigits text).2 ++ rest) := by
  rw [fractionDigits, fractionDigits, stops.after? (Or.inr (Or.inl rfl))]
  cases text.after? '.' with
  | none => rfl
  | some behind =>
      obtain ⟨taken, left⟩ := stops.digits behind
      simp only [Option.map_some, taken, left]
      split <;> rfl

theorem afterSign_append
    (stops : Stops rest)
    (text : Text) :
    afterSign (text ++ rest) =
      ((afterSign text).1, (afterSign text).2 ++ rest) := by
  rw [afterSign, afterSign, stops.after? (by simp), stops.after? (by simp)]
  cases text.after? '-' with
  | some behind => rfl
  | none => cases text.after? '+' <;> rfl

theorem exponentPart?_append
    (stops : Stops rest)
    (text : Text) :
    exponentPart? (text ++ rest) =
      (exponentPart? text).map fun found => (found.1, found.2 ++ rest) := by
  cases text with
  | nil =>
      cases rest with
      | nil => rfl
      | cons point rest =>
          obtain ⟨_, _, noMark, noMark_, _⟩ := stops point rfl
          simp [exponentPart?, noMark, noMark_]
  | cons mark text =>
      rw [List.cons_append, exponentPart?, exponentPart?]
      split
      · obtain ⟨taken, left⟩ := stops.digits (afterSign text).2
        simp only [afterSign_append stops, taken, left]
        split <;> rfl
      · rfl

/--
An unsigned number that is read by itself is read before any rest that stops it.
-/
theorem unsignedNumber_append
    (stops : Stops rest)
    {start text left : Text}
    {negative : Bool}
    {found : Json}
    (read : unsignedNumber start negative text = .ok (found, left))
    (other : Text) :
    unsignedNumber other negative (text ++ rest) =
      .ok (found, left ++ rest) := by
  unfold unsignedNumber at read ⊢
  simp only [wholeDigits_append stops, fractionDigits_append stops,
    exponentPart?_append stops] at read ⊢
  split at read
  · cases read
  · rename_i some_
    rw [if_neg some_]
    cases fraction : (fractionDigits (wholeDigits text).2).1.isEmpty with
    | true =>
        cases power : exponentPart? (fractionDigits (wholeDigits text).2).2 with
        | none =>
            simp only [fraction, power, Option.map_none] at read ⊢
            split at read
            · cases read
            · rename_i short
              cases read
              rw [if_neg short]
        | some exponent =>
            simp only [fraction, power, Option.map_some] at read ⊢
            cases read
            rfl
    | false =>
        simp only [fraction] at read ⊢
        cases read
        cases exponentPart? (fractionDigits (wholeDigits text).2).2 <;> rfl

theorem number_append
    (stops : Stops rest)
    {text left : Text}
    {found : Json}
    (read : number text = .ok (found, left)) :
    number (text ++ rest) = .ok (found, left ++ rest) := by
  rw [number] at read ⊢
  rw [stops.after? (by simp)]
  cases minus : text.after? '-' with
  | none =>
      rw [minus] at read
      exact unsignedNumber_append stops read _
  | some behind =>
      rw [minus] at read
      exact unsignedNumber_append stops read _

/-! ## Numerals -/

/--
A text that begins like a number: with a digit, or with a minus and a digit.
-/
def Numeral (text : Text) : Prop :=
  ∃ sign digit others,
    text = sign ++ digit :: others ∧
      (sign = [] ∨ sign = [CodePoint.ofChar '-']) ∧ digit.isDigit = true

theorem Numeral.append
    {text : Text}
    (numeral : Numeral text)
    (rest : Text) :
    Numeral (text ++ rest) := by
  obtain ⟨sign, digit, others, rfl, signs, isDigit⟩ := numeral
  exact ⟨sign, digit, others ++ rest, by simp, signs, isDigit⟩

theorem afterWord?_of_ne
    {expected point : CodePoint}
    (word text : Text)
    (differs : expected ≠ point) :
    afterWord? (expected :: word) (point :: text) = none := by
  rw [afterWord?, if_neg differs]

/-- What begins like a number is read as one. -/
theorem Numeral.scalar_eq
    {text : Text}
    (numeral : Numeral text) :
    scalar text = number text := by
  obtain ⟨sign, digit, others, rfl, signs, isDigit⟩ := numeral
  have letter :
      ∀ {letter : CodePoint}, letter.isDigit = false → letter ≠ digit :=
    fun noDigit same => ne_of_isDigit isDigit noDigit same.symm
  have none_ :
      ∀ word ∈
          [Text.ofString "null", "true", "false", "NaN", "Infinity",
            "-Infinity"],
      afterWord? word (sign ++ digit :: others) = none := by
    intro word member
    simp only [List.mem_cons, List.not_mem_nil, or_false] at member
    rcases signs with rfl | rfl
    · rcases member with rfl | rfl | rfl | rfl | rfl | rfl <;>
        exact afterWord?_of_ne _ _ (letter (by decide))
    · rcases member with rfl | rfl | rfl | rfl | rfl | rfl
      iterate 5 exact afterWord?_of_ne _ _ (by decide)
      have same :
          afterWord? (Text.ofString "-Infinity")
            (CodePoint.ofChar '-' :: digit :: others) =
          afterWord? (Text.ofString "Infinity") (digit :: others) := rfl
      rw [List.cons_append, List.nil_append, same]
      exact afterWord?_of_ne _ _ (letter (by decide))
  simp only [List.forall_mem_cons] at none_
  obtain ⟨first, second, third, fourth, fifth, sixth, _⟩ := none_
  simp [scalar, List.findSome?, first, second, third, fourth, fifth, sixth]

/-! ## Whole numbers -/

theorem wholeDigits_toDigits (number : Nat) :
    wholeDigits (Text.ofChars (Nat.toDigits 10 number)) =
      (Text.ofChars (Nat.toDigits 10 number), []) := by
  by_cases zero : number = 0
  · subst zero
    rfl
  · have noZero :
        (Text.ofChars (Nat.toDigits 10 number)).after? '0' = none := by
      have head := head?_toDigits (Nat.pos_of_ne_zero zero)
      cases digits : Nat.toDigits 10 number with
      | nil => rfl
      | cons first others =>
          rw [digits] at head
          have differs : CodePoint.ofChar first ≠ CodePoint.ofChar '0' := by
            intro same
            have numbers := congrArg (fun point : CodePoint => point.val) same
            exact head (congrArg some (Char.toNat_inj.mp numbers))
          simp [Text.ofChars, Text.after?, differs]
    have all :
        ∀ point ∈ Text.ofChars (Nat.toDigits 10 number), point.isDigit = true :=
      fun point member => isDigit_of_mem_toDigits member
    rw [wholeDigits, noZero]
    dsimp only
    rw [List.takeWhile_eq_self_iff.mpr all, List.dropWhile_eq_nil_iff.mpr all]

-- for any limit, so that the power is never computed
theorem length_toDigits_le
    {number limit : Nat}
    (positive : 0 < limit)
    (small : number < Nat.pow 10 limit) :
    (Nat.toDigits 10 number).length ≤ limit :=
  (@Nat.length_toDigits_le_iff 10 number limit (by decide) positive).mpr small

/-- The digits of a whole number are read back unless they are too many. -/
theorem unsignedNumber_toDigits
    {number : Nat}
    (small : number < Nat.pow 10 digitLimit)
    (start : Text)
    (negative : Bool) :
    unsignedNumber start negative (Text.ofChars (Nat.toDigits 10 number)) =
      .ok (.integer (if negative then -(number : Int) else number), []) := by
  have length :
      (Text.ofChars (Nat.toDigits 10 number)).length ≤ digitLimit := by
    rw [Text.ofChars, List.length_map]
    exact length_toDigits_le (by decide) small
  have some_ : (Text.ofChars (Nat.toDigits 10 number)).isEmpty = false := by
    simp [Text.ofChars, Nat.toDigits_ne_nil]
  unfold unsignedNumber
  rw [wholeDigits_toDigits]
  dsimp only
  rw [if_neg (by simp [some_])]
  have noFraction : fractionDigits [] = ([], []) := rfl
  have noPower : exponentPart? [] = none := rfl
  rw [noFraction]
  simp only [List.isEmpty_nil, noPower, Nat.not_lt_of_le length, if_false,
    digitsValue_toDigits]

theorem numeral_writeInteger
    (value : Int)
    (rest : List Char) :
    Numeral (Text.ofChars (writeInteger value rest)) := by
  obtain ⟨first, others, digits⟩ :=
    List.exists_cons_of_ne_nil (@Nat.toDigits_ne_nil value.natAbs 10)
  have digit : (CodePoint.ofChar first).isDigit = true := by
    refine isDigit_ofChar
      (@Nat.isDigit_of_mem_toDigits 10 value.natAbs first (by decide)
          (by decide) ?_)
    rw [digits]
    exact List.mem_cons_self ..
  refine ⟨Text.ofChars (if value < 0 then ['-'] else []),
    CodePoint.ofChar first, Text.ofChars (others ++ rest), ?_, ?_, digit⟩
  · rw [writeInteger, digits]
    simp [Text.ofChars]
  · split
    · exact Or.inr rfl
    · exact Or.inl rfl

/-- A whole number is read back. -/
theorem scalar_writeInteger
    {value : Int}
    (small : value.natAbs < Nat.pow 10 digitLimit)
    {rest : List Char}
    (stops : Stops (Text.ofChars rest)) :
    scalar (Text.ofChars (writeInteger value rest)) =
      .ok (.integer value, Text.ofChars rest) := by
  rw [(numeral_writeInteger value rest).scalar_eq]
  have read :
      number (Text.ofChars (writeInteger value [])) =
        .ok (.integer value, []) := by
    rw [number, writeInteger, List.append_nil]
    by_cases negative : value < 0
    · rw [if_pos negative]
      have minus :
          (Text.ofChars (['-'] ++ Nat.toDigits 10 value.natAbs)).after? '-' =
          some (Text.ofChars (Nat.toDigits 10 value.natAbs)) := rfl
      rw [minus]
      dsimp only
      rw [unsignedNumber_toDigits small, if_pos rfl]
      have same : -(value.natAbs : Int) = value := by omega
      rw [same]
    · rw [if_neg negative, List.nil_append]
      have noMinus :
          (Text.ofChars (Nat.toDigits 10 value.natAbs)).after? '-' = none := by
        cases digits : Nat.toDigits 10 value.natAbs with
        | nil => rfl
        | cons first others =>
            have digit : (CodePoint.ofChar first).isDigit = true := by
              refine @isDigit_of_mem_toDigits value.natAbs _ ?_
              rw [digits]
              exact List.mem_cons_self ..
            have differs := @ne_of_isDigit _ (CodePoint.ofChar '-') digit rfl
            simp [Text.ofChars, Text.after?, differs]
      rw [noMinus]
      dsimp only
      rw [unsignedNumber_toDigits small, if_neg (by simp)]
      have same : (value.natAbs : Int) = value := by omega
      rw [same]
  have parts : Text.ofChars (writeInteger value rest) =
      Text.ofChars (writeInteger value []) ++ Text.ofChars rest := by
    simp [writeInteger, Text.ofChars]
  rw [parts]
  exact number_append stops read

/-! ## Doubles -/

/-- What is written for a double by itself is read back. -/
def ReadsBack (value : Double) : Prop :=
  scalar (Text.ofChars (doubleStyle.text value)) = .ok (.double value, [])

theorem decimalText_eq_cons (decimal : Decimal) :
    ∃ first others, doubleStyle.decimalText decimal = first :: others ∧
      first.isDigit = true := by
  obtain ⟨first, others, digits⟩ :=
    List.exists_cons_of_ne_nil (@Nat.toDigits_ne_nil decimal.digits 10)
  have digit : first.isDigit = true := by
    refine @Nat.isDigit_of_mem_toDigits 10 decimal.digits first (by decide)
      (by decide) ?_
    rw [digits]
    exact List.mem_cons_self ..
  rw [DoubleStyle.decimalText]
  dsimp only
  rw [digits]
  split
  · split
    · exact ⟨_, _, rfl, by decide⟩
    · split
      · exact ⟨_, _, rfl, digit⟩
      · exact ⟨_, _, rfl, digit⟩
  · exact ⟨_, _, rfl, digit⟩

theorem numeral_text
    (negative : Bool)
    (significand : Nat)
    (exponent : Int) :
    Numeral
      (Text.ofChars
        (doubleStyle.text (.finite negative significand exponent))) := by
  have body : ∃ first others,
      (if significand = 0 then ['0', '.', '0']
        else doubleStyle.decimalText (Double.shortest significand exponent)) =
          first :: others ∧
        first.isDigit = true := by
    split
    · exact ⟨_, _, rfl, by decide⟩
    · exact decimalText_eq_cons _
  obtain ⟨first, others, same, digit⟩ := body
  refine ⟨Text.ofChars (if negative then ['-'] else []), CodePoint.ofChar first,
    Text.ofChars others, ?_, ?_, isDigit_ofChar digit⟩
  · rw [DoubleStyle.text, same]
    simp [Text.ofChars]
  · split
    · exact Or.inr rfl
    · exact Or.inl rfl

/--
A double is read back before any rest that stops it if it is read back by
itself.
-/
theorem ReadsBack.scalar_text
    {value : Double}
    (readsBack : ReadsBack value)
    {rest : List Char}
    (stops : Stops (Text.ofChars rest)) :
    scalar (Text.ofChars (doubleStyle.text value ++ rest)) =
      .ok (.double value, Text.ofChars rest) := by
  have parts : Text.ofChars (doubleStyle.text value ++ rest) =
      Text.ofChars (doubleStyle.text value) ++ Text.ofChars rest :=
        List.map_append
  rw [parts]
  cases value with
  | notANumber => rfl
  | infinite negative => cases negative <;> rfl
  | finite negative significand exponent =>
      have numeral := numeral_text negative significand exponent
      rw [ReadsBack, numeral.scalar_eq] at readsBack
      rw [(numeral.append _).scalar_eq]
      exact number_append stops readsBack

end SettingsStore.Json
