import SettingsStore.Proofs.Json.Numbers
import SettingsStore.Proofs.Number.Shortest

/-!
# Doubles are read back

What is written for a double is digits with a point among them or an exponent
after them, in one of four shapes.  Each of the shapes is read as a decimal that
is worth the one that was written.  As that lies in the interval of the double
it comes from, the double is read back, whichever it is among those that a
reader comes to.
-/

namespace SettingsStore.Json

/-! ## Runs of digits -/

/-- Nothing but digits. -/
def AllDigits (characters : List Char) : Prop :=
  ∀ character ∈ characters, character.isDigit = true

theorem allDigits_toDigits
    (number : Nat) :
    AllDigits (Nat.toDigits 10 number) :=
  fun _ member => Nat.isDigit_of_mem_toDigits (by decide) (by decide) member

theorem allDigits_zeros
    (count : Nat) :
    AllDigits (List.replicate count '0') := by
  intro character member
  rw [List.eq_of_mem_replicate member]
  decide

theorem AllDigits.append
    {first second : List Char}
    (digits : AllDigits first)
    (others : AllDigits second) :
    AllDigits (first ++ second) :=
  fun character member => (List.mem_append.mp member).elim (digits character)
    (others character)

/-- A text that does not begin with a digit. -/
def NoDigit (rest : Text) : Prop :=
  ∀ point, rest.head? = some point → point.isDigit = false

/-- A run of digits is what is taken of a text that goes on otherwise. -/
theorem AllDigits.run
    {characters : List Char}
    (digits : AllDigits characters)
    {rest : Text}
    (ends : NoDigit rest) :
    (Text.ofChars characters ++ rest).takeWhile CodePoint.isDigit =
      Text.ofChars characters ∧
      (Text.ofChars characters ++ rest).dropWhile CodePoint.isDigit = rest := by
  have all : ∀ point ∈ Text.ofChars characters, point.isDigit = true := by
    intro point member
    obtain ⟨character, digit, rfl⟩ := List.mem_map.mp member
    exact isDigit_ofChar (digits character digit)
  have stopped :
      rest.takeWhile CodePoint.isDigit = [] ∧
        rest.dropWhile CodePoint.isDigit = rest := by
    cases rest with
    | nil => exact ⟨rfl, rfl⟩
    | cons point rest =>
        have noDigit := ends point rfl
        exact ⟨List.takeWhile_cons_of_neg (by simp [noDigit]),
          List.dropWhile_cons_of_neg (by simp [noDigit])⟩
  rw [List.takeWhile_append_of_pos all, List.dropWhile_append_of_pos all,
    stopped.1, stopped.2, List.append_nil]
  exact ⟨rfl, rfl⟩

theorem digitsValue_append (first second : Text) :
    Text.digitsValue (first ++ second) =
      Text.digitsValue first * 10 ^ second.length +
      Text.digitsValue second := by
  have shifted : ∀ (text : Text) (start : Nat),
      text.foldl (fun value digit => value * 10 + (digit.val - 0x30)) start =
        start * 10 ^ text.length + Text.digitsValue text := by
    intro text
    induction text with
    | nil => intro start; simp [Text.digitsValue]
    | cons point rest induction =>
        intro start
        rw [Text.digitsValue, List.foldl_cons, List.foldl_cons, induction,
          induction (0 * 10 + _), List.length_cons, pow_succ]
        ring
  rw [Text.digitsValue, List.foldl_append, shifted]
  rfl

theorem digitsValue_zeros (count : Nat) :
    Text.digitsValue (Text.ofChars (List.replicate count '0')) = 0 := by
  induction count with
  | zero => rfl
  | succ count induction => exact induction

/-! ## The parts of a number -/

/--
The digits before the point: one zero, or some that do not begin with zero.
-/
structure Whole (characters : List Char) : Prop where
  digits : AllDigits characters
  some : characters ≠ []
  start : characters = ['0'] ∨ characters.head? ≠ Option.some '0'

theorem Whole.wholeDigits_eq
    {characters : List Char}
    (whole : Whole characters)
    {rest : Text}
    (ends : NoDigit rest) :
    wholeDigits (Text.ofChars characters ++ rest) =
      (Text.ofChars characters, rest) := by
  rcases whole.start with zero | noZero
  · rw [zero]
    rfl
  · obtain ⟨first, others, rfl⟩ := List.exists_cons_of_ne_nil whole.some
    have differs : CodePoint.ofChar first ≠ CodePoint.ofChar '0' := by
      intro same
      have numbers := congrArg (fun point : CodePoint => point.val) same
      exact noZero (congrArg Option.some (Char.toNat_inj.mp numbers))
    have none_ : (Text.ofChars (first :: others) ++ rest).after? '0' = none :=
      if_neg differs
    obtain ⟨taken, left⟩ := whole.digits.run ends
    rw [wholeDigits, none_]
    dsimp only
    rw [taken, left]

/-- The point and the digits after it, if there are any. -/
def pointed (fraction : List Char) : List Char :=
  if fraction.isEmpty then [] else '.' :: fraction

theorem pointed_of_ne_nil
    {fraction : List Char}
    (more : fraction ≠ []) :
    pointed fraction = '.' :: fraction := by
  rw [pointed, if_neg (by simp [more])]

theorem noDigit_pointed
    (fraction : List Char)
    {rest : Text}
    (ends : NoDigit rest) :
    NoDigit (Text.ofChars (pointed fraction) ++ rest) := by
  cases fraction with
  | nil => exact ends
  | cons first others =>
      intro point head
      cases head
      decide

theorem fractionDigits_pointed
    {fraction : List Char}
    (digits : AllDigits fraction)
    {rest : Text}
    (ends : NoDigit rest)
    (noPoint : rest.after? '.' = none) :
    fractionDigits (Text.ofChars (pointed fraction) ++ rest) =
      (Text.ofChars fraction, rest) := by
  cases fraction with
  | nil =>
      have nothing : Text.ofChars (pointed []) ++ rest = rest := rfl
      rw [nothing, fractionDigits, noPoint]
      rfl
  | cons first others =>
      have point :
          (Text.ofChars (pointed (first :: others)) ++ rest).after? '.' =
          some (Text.ofChars (first :: others) ++ rest) := by
        simp [pointed, Text.ofChars, Text.after?]
      obtain ⟨taken, left⟩ := digits.run ends
      rw [fractionDigits, point]
      dsimp only
      rw [taken, left]
      rfl

/-- The digits of an exponent, with zeros in front. -/
def exponentDigits (exponent : Int) : List Char :=
  List.replicate
    (doubleStyle.exponentWidth - (Nat.toDigits 10 exponent.natAbs).length)
    '0' ++
    Nat.toDigits 10 exponent.natAbs

theorem exponentDigits_run (exponent : Int) :
    (Text.ofChars (exponentDigits exponent)).takeWhile CodePoint.isDigit =
      Text.ofChars (exponentDigits exponent) ∧
      (Text.ofChars (exponentDigits exponent)).dropWhile CodePoint.isDigit =
        [] ∧
        (Text.ofChars (exponentDigits exponent)).isEmpty = false ∧
          Text.digitsValue (Text.ofChars (exponentDigits exponent)) =
            exponent.natAbs := by
  have digits : AllDigits (exponentDigits exponent) :=
    (allDigits_zeros _).append (allDigits_toDigits _)
  obtain ⟨taken, left⟩ := @AllDigits.run _ digits [] nofun
  rw [List.append_nil] at taken left
  refine ⟨taken, left, ?_, ?_⟩
  · simp [exponentDigits, Text.ofChars, Nat.toDigits_ne_nil]
  · rw [exponentDigits, Text.ofChars, List.map_append, digitsValue_append,
      ← Text.ofChars, ← Text.ofChars, digitsValue_zeros, digitsValue_toDigits]
    omega

/--
The mark of an exponent is followed by its sign and its digits, which are read
back.
-/
theorem exponentPart?_exponentText (exponent : Int) :
    exponentPart? (Text.ofChars (doubleStyle.exponentText exponent)) =
      some (exponent, []) := by
  obtain ⟨taken, left, some_, value⟩ := exponentDigits_run exponent
  have parts : doubleStyle.exponentText exponent =
      'e' :: (if exponent < 0 then '-' else '+') :: exponentDigits exponent :=
        rfl
  have read : ∀ sign negative,
      afterSign (Text.ofChars (sign :: exponentDigits exponent)) =
          (negative, Text.ofChars (exponentDigits exponent)) →
        exponentPart? (Text.ofChars ('e' :: sign :: exponentDigits exponent)) =
          some (if negative then -(exponent.natAbs : Int) else exponent.natAbs,
            []) := by
    intro sign negative signed
    have signedPoints :
        afterSign
          (List.map CodePoint.ofChar (sign :: exponentDigits exponent)) = _ :=
      signed
    rw [Text.ofChars, List.map_cons, exponentPart?, if_pos (by decide),
      signedPoints]
    dsimp only
    rw [taken, left, some_, value, if_neg (by decide)]
  rw [parts]
  by_cases negative : exponent < 0
  · rw [if_pos negative, read '-' true rfl]
    congr 2
    rw [if_pos rfl]
    omega
  · rw [if_neg negative, read '+' false rfl]
    congr 2
    rw [if_neg (by decide)]
    omega

/-! ## The shapes -/

/-- Digits with a point or an exponent are read as a decimal. -/
theorem unsignedNumber_decimal
    {whole fraction ending : List Char}
    {exponent : Int}
    (before : Whole whole)
    (digits : AllDigits fraction)
    (shape :
      (fraction ≠ [] ∧ ending = [] ∧ exponent = 0) ∨
        ending = doubleStyle.exponentText exponent)
    (start : Text)
    (negative : Bool) :
    unsignedNumber start negative
      (Text.ofChars (whole ++ pointed fraction ++ ending)) =
      .ok
        (.double
          (Double.ofDecimal negative
            (Text.digitsValue (Text.ofChars (whole ++ fraction)))
            (exponent - fraction.length)), []) := by
  have ends : NoDigit (Text.ofChars ending) := by
    rcases shape with ⟨-, rfl, -⟩ | rfl
    · exact nofun
    · intro point head
      cases head
      decide
  have noPoint : (Text.ofChars ending).after? '.' = none := by
    rcases shape with ⟨-, rfl, -⟩ | rfl
    · rfl
    · have letter : CodePoint.ofChar 'e' ≠ CodePoint.ofChar '.' := by decide
      simp [DoubleStyle.exponentText, Text.ofChars, Text.after?, letter]
  have parts : Text.ofChars (whole ++ pointed fraction ++ ending) =
      Text.ofChars whole ++ (Text.ofChars (pointed fraction) ++
          Text.ofChars ending) := by
    simp [Text.ofChars]
  have together :
      Text.ofChars whole ++ Text.ofChars fraction =
        Text.ofChars (whole ++ fraction) := by
    simp [Text.ofChars]
  have length : (Text.ofChars fraction).length = fraction.length :=
    List.length_map ..
  have some_ : (Text.ofChars whole).isEmpty = false := by
    simp [Text.ofChars, before.some]
  rw [unsignedNumber, parts,
    before.wholeDigits_eq (noDigit_pointed fraction ends)]
  dsimp only
  rw [some_, fractionDigits_pointed digits ends noPoint, together, length]
  rcases shape with ⟨more, rfl, rfl⟩ | rfl
  · have fractional : (Text.ofChars fraction).isEmpty = false := by
      simp [Text.ofChars, more]
    dsimp only
    rw [fractional]
    rfl
  · dsimp only
    rw [exponentPart?_exponentText]
    cases (Text.ofChars fraction).isEmpty <;> rfl

/--
The digits of a positive number are a whole part, with or without some at the
end.
-/
theorem whole_toDigits
    {number count : Nat}
    (positive : 0 < number)
    (some_ : 0 < count)
    (zeros : Nat) :
    Whole ((Nat.toDigits 10 number).take count ++
        List.replicate zeros '0') := by
  have head := head?_toDigits positive
  obtain ⟨first, others, same⟩ :=
    List.exists_cons_of_ne_nil (@Nat.toDigits_ne_nil number 10)
  obtain ⟨before, rfl⟩ := Nat.exists_eq_succ_of_ne_zero (Nat.ne_of_gt some_)
  refine ⟨?_, ?_, Or.inr ?_⟩
  · have taken : AllDigits ((Nat.toDigits 10 number).take (before + 1)) :=
      fun character member =>
        allDigits_toDigits number character (List.mem_of_mem_take member)
    exact taken.append (allDigits_zeros zeros)
  · rw [same]
    exact nofun
  · rw [same] at head ⊢
    exact head

/-- A text is read as a decimal that is worth the given one. -/
def ReadAs (decimal : Decimal) (written : List Char) : Prop :=
  ∀ start negative, ∃ digits exponent,
    unsignedNumber start negative (Text.ofChars written) =
        .ok (.double (Double.ofDecimal negative digits exponent), []) ∧
      (digits : ℚ) * 10 ^ exponent = decimal.worth

section

variable {decimal : Decimal} {position : Int}
variable (positive : 0 < decimal.digits)
variable (positioned : decimal.exponent +
    ((Nat.toDigits 10 decimal.digits).length : Int) - 1 = position)
include positioned

/-- Zeros between the point and the first digit. -/
theorem readAs_zerosBefore
    (negativePosition : position < 0) :
    ReadAs decimal
      ('0' :: '.' :: (List.replicate (-position - 1).toNat '0' ++
          Nat.toDigits 10 decimal.digits)) := by
  intro start negative
  have value := digitsValue_toDigits decimal.digits
  have fraction :=
    (allDigits_zeros (-position - 1).toNat).append
      (allDigits_toDigits decimal.digits)
  have more :
      List.replicate (-position - 1).toNat '0' ++
        Nat.toDigits 10 decimal.digits ≠ [] := by
    simp [Nat.toDigits_ne_nil]
  have zero : Whole ['0'] := ⟨allDigits_zeros 1, by decide, Or.inl rfl⟩
  have read :=
    unsignedNumber_decimal zero fraction
      (Or.inl ⟨more, rfl, rfl⟩) start negative
  generalize Nat.toDigits 10 decimal.digits = written
    at value more read positioned
  have digits : Text.digitsValue
      (Text.ofChars (['0'] ++
          (List.replicate (-position - 1).toNat '0' ++ written))) =
        decimal.digits := by
    have parts :
        Text.ofChars (['0'] ++
            (List.replicate (-position - 1).toNat '0' ++ written)) =
        Text.ofChars (List.replicate ((-position - 1).toNat + 1) '0') ++
          Text.ofChars written := by
      simp [Text.ofChars, List.replicate_succ]
    rw [parts, digitsValue_append, digitsValue_zeros, value, Nat.zero_mul,
      Nat.zero_add]
  rw [digits, pointed_of_ne_nil more, List.append_nil] at read
  refine ⟨_, _, read, ?_⟩
  have exponent :
      (0 : Int) - (List.replicate (-position - 1).toNat '0' ++ written).length =
        decimal.exponent := by
    rw [List.length_append, List.length_replicate]
    omega
  rw [exponent, Decimal.worth]

include positive

/-- Zeros between the last digit and the point. -/
theorem readAs_zerosAfter
    (notNegative : ¬ position < 0)
    (long : (Nat.toDigits 10 decimal.digits).length ≤ position.toNat + 1) :
    ReadAs decimal
      (Nat.toDigits 10 decimal.digits ++
        List.replicate (position.toNat +
          1 - (Nat.toDigits 10 decimal.digits).length) '0' ++ ['.', '0']) := by
  intro start negative
  have value := digitsValue_toDigits decimal.digits
  have some_ : 0 < (Nat.toDigits 10 decimal.digits).length :=
    Nat.length_toDigits_pos
  have whole :=
    whole_toDigits positive some_
      (position.toNat + 1 - (Nat.toDigits 10 decimal.digits).length)
  rw [List.take_length] at whole
  have read :=
    unsignedNumber_decimal whole (allDigits_zeros 1)
      (Or.inl ⟨by decide, rfl, rfl⟩) start negative
  generalize Nat.toDigits 10 decimal.digits = written
    at value long read positioned
  have digits : Text.digitsValue (Text.ofChars
      (written ++ List.replicate (position.toNat + 1 - written.length) '0' ++
        List.replicate 1 '0')) =
        decimal.digits * 10 ^ (position.toNat + 1 - written.length + 1) := by
    have parts : Text.ofChars
        (written ++ List.replicate (position.toNat + 1 - written.length) '0' ++
            List.replicate 1 '0') =
          Text.ofChars written ++
            Text.ofChars
            (List.replicate (position.toNat + 1 - written.length + 1) '0') := by
      simp [Text.ofChars, List.replicate_succ']
    rw [parts, digitsValue_append, digitsValue_zeros, value, Nat.add_zero,
      Text.ofChars, List.length_map, List.length_replicate]
  rw [digits, List.append_nil] at read
  refine ⟨_, _, read, ?_⟩
  have exponent :
      decimal.exponent = (position.toNat + 1 - written.length : Nat) := by omega
  rw [Decimal.worth, exponent, zpow_natCast, List.length_replicate,
    Nat.cast_one, zero_sub, zpow_neg, zpow_one]
  push_cast
  rw [pow_succ]
  field_simp

/-- The point among the digits. -/
theorem readAs_among
    (notNegative : ¬ position < 0)
    (short : ¬ (Nat.toDigits 10 decimal.digits).length ≤ position.toNat + 1) :
    ReadAs decimal
      ((Nat.toDigits 10 decimal.digits).take (position.toNat + 1) ++
        '.' :: (Nat.toDigits 10 decimal.digits).drop (position.toNat + 1)) := by
  intro start negative
  have whole := whole_toDigits positive (Nat.succ_pos position.toNat) 0
  rw [List.replicate_zero, List.append_nil] at whole
  have more :
      (Nat.toDigits 10 decimal.digits).drop (position.toNat + 1) ≠ [] := by
    rw [ne_eq, List.drop_eq_nil_iff]
    exact short
  have fraction :
      AllDigits ((Nat.toDigits 10 decimal.digits).drop (position.toNat + 1)) :=
    fun character member =>
      allDigits_toDigits _ character (List.mem_of_mem_drop member)
  have read :=
    unsignedNumber_decimal whole fraction
      (Or.inl ⟨more, rfl, rfl⟩) start negative
  rw [List.take_append_drop, digitsValue_toDigits, pointed_of_ne_nil more,
    List.append_nil] at read
  refine ⟨_, _, read, ?_⟩
  have exponent :
      (0 : Int) - ((Nat.toDigits 10 decimal.digits).drop
          (position.toNat + 1)).length =
      decimal.exponent := by
    rw [List.length_drop]
    omega
  rw [exponent, Decimal.worth]

/-- An exponent after the digits. -/
theorem readAs_exponent :
    ReadAs decimal
      ((Nat.toDigits 10 decimal.digits).take 1 ++
          pointed ((Nat.toDigits 10 decimal.digits).drop 1) ++
        doubleStyle.exponentText position) := by
  intro start negative
  have some_ : 0 < (Nat.toDigits 10 decimal.digits).length :=
    Nat.length_toDigits_pos
  have whole := whole_toDigits positive Nat.one_pos 0
  rw [List.replicate_zero, List.append_nil] at whole
  have fraction : AllDigits ((Nat.toDigits 10 decimal.digits).drop 1) :=
    fun character member =>
      allDigits_toDigits _ character (List.mem_of_mem_drop member)
  have read :=
    unsignedNumber_decimal whole fraction
      (Or.inr (Eq.refl (doubleStyle.exponentText position)))
      start negative
  rw [List.take_append_drop, digitsValue_toDigits] at read
  refine ⟨_, _, read, ?_⟩
  have exponent :
      position - ((Nat.toDigits 10 decimal.digits).drop 1).length =
        decimal.exponent := by
    rw [List.length_drop]
    omega
  rw [exponent, Decimal.worth]

end

/-- What is written for a decimal is read as one that is worth the same. -/
theorem readAs_decimalText
    {decimal : Decimal}
    (positive : 0 < decimal.digits) :
    ReadAs decimal (doubleStyle.decimalText decimal) := by
  rw [DoubleStyle.decimalText]
  dsimp only
  split
  · split
    · rename_i negativePosition
      exact readAs_zerosBefore rfl negativePosition
    · rename_i notNegative
      split
      · rename_i long
        exact readAs_zerosAfter positive rfl notNegative long
      · rename_i short
        exact readAs_among positive rfl notNegative short
  · exact readAs_exponent positive rfl

/-- Every double that a reader comes to is read back. -/
theorem readsBack_of_wellFormed
    {value : Double}
    (wellFormed : value.WellFormed) :
    ReadsBack value := by
  cases value with
  | notANumber => rfl
  | infinite negative => cases negative <;> rfl
  | finite negative significand exponent =>
      have numeral := numeral_text negative significand exponent
      have body : ∀ start, unsignedNumber start negative (Text.ofChars
          (if significand = 0 then ['0', '.', '0']
            else doubleStyle.decimalText
              (Double.shortest significand exponent))) =
              .ok (.double (.finite negative significand exponent), []) := by
        intro start
        split
        · rename_i zero
          obtain ⟨bits, least, greatest, full⟩ := wellFormed
          have same : exponent = Double.leastExponent := by
            by_contra other
            have many := full (by omega)
            omega
          rw [zero, same]
          rfl
        · rename_i nonzero
          have positive := Nat.pos_of_ne_zero nonzero
          have near := Double.near_shortest wellFormed positive
          have digits : 0 < (Double.shortest significand exponent).digits := by
            have worth := near.pos positive
            rw [Decimal.worth] at worth
            by_contra none
            rw [Nat.eq_zero_of_not_pos none] at worth
            simp at worth
          obtain ⟨found, power, read, worth⟩ :=
            readAs_decimalText digits start negative
          rw [read, Double.ofDecimal_of_near wellFormed positive
              (worth ▸ near) negative]
      rw [ReadsBack, numeral.scalar_eq, number]
      cases negative with
      | true => exact body _
      | false =>
          have noSign :
              (Text.ofChars
                  (doubleStyle.text
                    (.finite false significand exponent))).after? '-' =
                none := by
            have unsigned :
                doubleStyle.text (.finite false significand exponent) =
                if significand = 0 then ['0', '.', '0']
                else doubleStyle.decimalText
                  (Double.shortest significand exponent) := rfl
            rw [unsigned]
            split
            · decide
            · obtain ⟨first, others, same, digit⟩ :=
                decimalText_eq_cons (Double.shortest significand exponent)
              have noMinus : CodePoint.ofChar first ≠ CodePoint.ofChar '-' :=
                ne_of_isDigit (isDigit_ofChar digit) (by decide)
              rw [same]
              exact if_neg noMinus
          rw [noSign]
          exact body _

end SettingsStore.Json
