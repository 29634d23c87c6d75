import Mathlib.Algebra.Order.Field.Power
import Mathlib.Algebra.Order.Ring.Rat
import Mathlib.Tactic.FieldSimp
import Mathlib.Tactic.Linarith
import Mathlib.Tactic.NormNum
import Mathlib.Tactic.Positivity
import Mathlib.Tactic.Ring
import SettingsStore.Number.Double

/-!
# Rounding to the nearest double

A finite double is canonical if its significand has 53 bits or its exponent is
the least one.  Each canonical double has an interval of rational numbers around
it, from half the way to the double below it to half the way to the one above
it, and the ends belong to it if the significand is even.  Rounding takes every
number of the interval to that double, and whatever it comes to is canonical.
-/

namespace SettingsStore.Double

/-- A double that has one form only: 53 bits unless it is among the smallest. -/
structure Canonical (significand : Nat) (exponent : Int) : Prop where
  bits : significand < 2 ^ 53
  least : leastExponent ≤ exponent
  greatest : exponent ≤ greatestExponent
  full : leastExponent < exponent → 2 ^ 52 ≤ significand

/--
Half the way to the double below, in quarters of the last place: below a power
of two the places are halved.
-/
def quartersBelow (significand : Nat) (exponent : Int) : ℚ :=
  if significand = 2 ^ 52 ∧ leastExponent < exponent then 1 else 2

/--
A number in the interval of a double, of which `4 · significand` is in the
middle if it is told in quarters.
-/
structure Near (significand : Nat) (exponent : Int) (value : ℚ) : Prop where
  above :
    (4 * significand - quartersBelow significand exponent) / 4 *
    2 ^ exponent ≤ value
  below : value ≤ (4 * significand + 2) / 4 * 2 ^ exponent
  inside :
    significand % 2 = 1 →
      (4 * significand - quartersBelow significand exponent) / 4 *
        2 ^ exponent < value ∧
        value < (4 * significand + 2) / 4 * 2 ^ exponent

theorem power_pos (exponent : Int) : (0 : ℚ) < 2 ^ exponent :=
  zpow_pos (by norm_num) exponent

theorem power_add
    (exponent : Int)
    (more : Nat) :
    (2 : ℚ) ^ (exponent + more) = 2 ^ exponent * 2 ^ more := by
  rw [zpow_add₀ (by norm_num), zpow_natCast]

theorem power_sub_one
    (exponent : Int) :
    (2 : ℚ) ^ (exponent - 1) * 2 = 2 ^ exponent := by
  rw [← zpow_add_one₀ (by norm_num), sub_add_cancel]

theorem quartersBelow_le (significand : Nat) (exponent : Int) :
    1 ≤ quartersBelow significand exponent ∧
      quartersBelow significand exponent ≤ 2 := by
  rw [quartersBelow]
  split <;> norm_num

theorem Near.pos
    {significand : Nat}
    {exponent : Int}
    {value : ℚ}
    (near : Near significand exponent value)
    (positive : 0 < significand) :
    0 < value := by
  have bound := (quartersBelow_le significand exponent).2
  have one : (1 : ℚ) ≤ significand := by exact_mod_cast positive
  have scaled :
      0 < (4 * significand - quartersBelow significand exponent) / 4 := by
    linarith
  exact lt_of_lt_of_le (mul_pos scaled (power_pos exponent)) near.above

/-! ## Rounding a fraction to a whole number -/

/--
A fraction is rounded to the whole number that is at most a half away, to the
even one of two.
-/
theorem roundQuotient_of_le
    {numerator denominator whole : Nat}
    (positive : 0 < denominator)
    (above : 2 * (denominator * whole) ≤ 2 * numerator + denominator)
    (below : 2 * numerator ≤ 2 * (denominator * whole) + denominator)
    (inside : whole % 2 = 1 →
      2 * (denominator * whole) ≠ 2 * numerator + denominator ∧
        2 * numerator ≠ 2 * (denominator * whole) + denominator) :
    roundQuotient numerator denominator = whole := by
  have parts := Nat.div_add_mod numerator denominator
  have small := Nat.mod_lt numerator positive
  have atLeast : numerator / denominator ≤ whole := by
    by_contra more
    have wider :
        denominator * (whole + 1) ≤ denominator * (numerator / denominator) :=
      Nat.mul_le_mul_left _ (by omega)
    rw [Nat.mul_succ] at wider
    omega
  have atMost : whole ≤ numerator / denominator + 1 := by
    by_contra more
    have wider :
        denominator * (numerator / denominator + 1 + 1) ≤ denominator * whole :=
      Nat.mul_le_mul_left _ (by omega)
    rw [Nat.mul_succ, Nat.mul_succ] at wider
    omega
  rw [roundQuotient]
  rcases Nat.eq_or_lt_of_le atLeast with same | less
  · rw [← same] at above below inside
    split
    · exact same
    · split
      · omega
      · omega
  · have next : whole = numerator / denominator + 1 := by omega
    rw [next, Nat.mul_succ] at above below inside
    split
    · omega
    · split
      · omega
      · omega

theorem roundQuotient_eq
    {numerator denominator whole : Nat}
    (positive : 0 < denominator)
    (above : (whole : ℚ) - 1 / 2 ≤ numerator / denominator)
    (below : (numerator : ℚ) / denominator ≤ whole + 1 / 2)
    (inside : whole % 2 = 1 →
      (whole : ℚ) - 1 / 2 < numerator / denominator ∧
        (numerator : ℚ) / denominator < whole + 1 / 2) :
    roundQuotient numerator denominator = whole := by
  have unit : (0 : ℚ) < denominator := by exact_mod_cast positive
  rw [le_div_iff₀ unit] at above
  rw [div_le_iff₀ unit] at below
  rw [lt_div_iff₀ unit, div_lt_iff₀ unit] at inside
  refine roundQuotient_of_le positive ?_ ?_ fun odd =>
    ⟨fun tie => ?_, fun tie => ?_⟩
  · have scaled :
        (2 * (denominator * whole) : ℚ) ≤ 2 * numerator + denominator := by
      linarith
    exact_mod_cast scaled
  · have scaled :
        (2 * numerator : ℚ) ≤ 2 * (denominator * whole) + denominator := by
      linarith
    exact_mod_cast scaled
  · have scaled :
        (2 * (denominator * whole) : ℚ) = 2 * numerator + denominator := by
      exact_mod_cast tie
    linarith [(inside odd).1]
  · have scaled :
        (2 * numerator : ℚ) = 2 * (denominator * whole) + denominator := by
      exact_mod_cast tie
    linarith [(inside odd).2]

/-- A fraction is rounded to its whole part or to the next number. -/
theorem roundQuotient_bounds (numerator denominator : Nat) :
    numerator / denominator ≤ roundQuotient numerator denominator ∧
      roundQuotient numerator denominator ≤ numerator / denominator + 1 := by
  rw [roundQuotient]
  split
  · omega
  · split <;> omega

/-! ## The last place -/

theorem scaleDown_pos
    (numerator : Nat)
    {denominator : Nat}
    (positive : 0 < denominator)
    (exponent : Int) :
    0 < (scaleDown numerator denominator exponent).2 := by
  rw [scaleDown]
  split
  · exact Nat.mul_pos positive (Nat.pow_pos (by decide))
  · exact positive

/-- A fraction is divided by the power of two. -/
theorem scaleDown_eq
    (numerator denominator : Nat)
    (exponent : Int) :
    ((scaleDown numerator denominator exponent).1 : ℚ) /
      (scaleDown numerator denominator exponent).2 =
      numerator / denominator / 2 ^ exponent := by
  rw [scaleDown]
  split
  · rename_i whole
    obtain ⟨power, rfl⟩ := Int.eq_ofNat_of_zero_le whole
    simp [div_div]
  · rename_i negative
    obtain ⟨power, opposite⟩ :=
      Int.eq_ofNat_of_zero_le (a := -exponent) (by omega)
    obtain rfl : exponent = -power := by omega
    simp [div_eq_mul_inv]
    ring

/--
The exponent of the last place of a number: its whole part has 53 bits there, or
it is the least one.
-/
structure LastPlace (value : ℚ) (exponent : Int) : Prop where
  least : leastExponent ≤ exponent
  below : value < 2 ^ exponent * 2 ^ 53
  full : leastExponent < exponent → 2 ^ exponent * 2 ^ 52 ≤ value

/-- A number has one last place. -/
theorem LastPlace.unique
    {value : ℚ}
    {first second : Int}
    (place : LastPlace value first)
    (other : LastPlace value second) :
    first = second := by
  have ordered :
      ∀ {first second : Int}, LastPlace value first → LastPlace value second →
        ¬ first < second := by
    intro first second place other less
    have start := place.least
    have full := other.full (by omega)
    have wide : (2 : ℚ) ^ (first + (53 : Nat)) ≤ 2 ^ (second + (52 : Nat)) :=
      zpow_le_zpow_right₀ (by norm_num) (by omega)
    rw [power_add, power_add] at wide
    linarith [place.below]
  have notLess := ordered place other
  have notMore := ordered other place
  omega

theorem log2_bounds
    {number : Nat}
    (positive : 0 < number) :
    (2 : ℚ) ^ (number.log2 : Int) ≤ number ∧
      (number : ℚ) < 2 ^ ((number.log2 : Int) + 1) := by
  have atLeast := Nat.log2_self_le (Nat.ne_of_gt positive)
  have below := @Nat.lt_log2_self number
  constructor
  · rw [zpow_natCast]
    exact_mod_cast atLeast
  · have together :
        (2 : ℚ) ^ ((number.log2 : Int) + 1) = 2 ^ (number.log2 + 1) := by
      rw [← zpow_natCast]
      norm_num
    rw [together]
    exact_mod_cast below

/--
The bits of numerator and denominator tell those of the fraction, but for one.
-/
theorem ratio_bounds
    {numerator denominator : Nat}
    (positive : 0 < numerator)
    (unit : 0 < denominator) :
    (2 : ℚ) ^ ((numerator.log2 : Int) - denominator.log2 - 1) <
      numerator / denominator ∧
      (numerator / denominator : ℚ) <
        2 ^ ((numerator.log2 : Int) - denominator.log2 + 1) := by
  have divisor : (0 : ℚ) < denominator := by exact_mod_cast unit
  obtain ⟨above, below⟩ := log2_bounds positive
  obtain ⟨unitAbove, unitBelow⟩ := log2_bounds unit
  constructor
  · rw [lt_div_iff₀ divisor]
    calc (2 : ℚ) ^ ((numerator.log2 : Int) - denominator.log2 - 1) * denominator
        < 2 ^ ((numerator.log2 : Int) - denominator.log2 - 1) *
          2 ^ ((denominator.log2 : Int) + 1) :=
          mul_lt_mul_of_pos_left unitBelow (power_pos _)
      _ = 2 ^ (numerator.log2 : Int) := by
          rw [← zpow_add₀ (by norm_num)]
          congr 1
          omega
      _ ≤ numerator := above
  · rw [div_lt_iff₀ divisor]
    calc (numerator : ℚ) < 2 ^ ((numerator.log2 : Int) + 1) := below
      _ = 2 ^ ((numerator.log2 : Int) - denominator.log2 + 1) *
        2 ^ (denominator.log2 : Int) := by
          rw [← zpow_add₀ (by norm_num)]
          congr 1
          omega
      _ ≤ 2 ^ ((numerator.log2 : Int) - denominator.log2 + 1) * denominator :=
          mul_le_mul_of_nonneg_left unitAbove (le_of_lt (power_pos _))

theorem le_div_iff_scaled
    {numerator denominator whole : Nat}
    (unit : 0 < denominator)
    (exponent : Int) :
    whole ≤ (scaleDown numerator denominator exponent).1 /
      (scaleDown numerator denominator exponent).2 ↔
      2 ^ exponent * whole ≤ (numerator / denominator : ℚ) := by
  have scaled := scaleDown_pos numerator unit exponent
  have divisor : (0 : ℚ) < (scaleDown numerator denominator exponent).2 := by
    exact_mod_cast scaled
  rw [Nat.le_div_iff_mul_le scaled, mul_comm ((2 : ℚ) ^ exponent),
    ← le_div_iff₀ (power_pos exponent), ← scaleDown_eq, le_div_iff₀ divisor]
  exact_mod_cast Iff.rfl

/-- The last place of a fraction is found. -/
theorem lastPlace_scaleOf
    {numerator denominator : Nat}
    (positive : 0 < numerator)
    (unit : 0 < denominator) :
    LastPlace (numerator / denominator) (scaleOf numerator denominator) := by
  obtain ⟨above, below⟩ := ratio_bounds positive unit
  rw [scaleOf]
  generalize guessed :
    max leastExponent ((numerator.log2 : Int) - denominator.log2 - 53) = guess
  dsimp only
  have wide :
      (2 : ℚ) ^ ((numerator.log2 : Int) - denominator.log2 + 1) ≤
        2 ^ (guess + (54 : Nat)) :=
    zpow_le_zpow_right₀ (by norm_num) (by omega)
  rw [power_add] at wide
  have many := @le_div_iff_scaled numerator denominator (2 ^ 53) unit guess
  split
  · rename_i reached
    have full := many.mp reached
    push_cast at full
    have next : (2 : ℚ) ^ (guess + 1) = 2 ^ guess * 2 := by
      rw [zpow_add₀ (by norm_num), zpow_one]
    refine ⟨by omega, ?_, fun _ => ?_⟩
    · rw [next]
      linarith
    · rw [next]
      linarith
  · rename_i notReached
    have few := not_le.mp fun full => notReached (many.mpr full)
    push_cast at few
    refine ⟨by omega, few, fun more => ?_⟩
    have tight :
        (2 : ℚ) ^ (guess + (52 : Nat)) ≤
          2 ^ ((numerator.log2 : Int) - denominator.log2 - 1) :=
      zpow_le_zpow_right₀ (by norm_num) (by omega)
    rw [power_add] at tight
    linarith

/-! ## Rounding to a double -/

/-- A double in the form that it alone has. -/
def WellFormed : Double → Prop
  | .finite _ significand exponent => Canonical significand exponent
  | _ => True

theorem wellFormed_zero (negative : Bool) : WellFormed (zero negative) :=
  ⟨by decide, le_refl _, by decide, fun more => absurd more (lt_irrefl _)⟩

/-- What a fraction is rounded to is canonical. -/
theorem wellFormed_ofRatio
    (negative : Bool)
    (numerator : Nat)
    {denominator : Nat}
    (unit : 0 < denominator) :
    WellFormed (ofRatio negative numerator denominator) := by
  rw [ofRatio]
  split
  · exact wellFormed_zero negative
  · rename_i nonzero
    have place := lastPlace_scaleOf (Nat.pos_of_ne_zero nonzero) unit
    generalize scaleOf numerator denominator = exponent at place
    dsimp only
    have rounded :=
      roundQuotient_bounds (scaleDown numerator denominator exponent).1
        (scaleDown numerator denominator exponent).2
    have few : ¬ 2 ^ 53 ≤ (scaleDown numerator denominator exponent).1 /
        (scaleDown numerator denominator exponent).2 := by
      rw [le_div_iff_scaled unit]
      push_cast
      exact not_le.mpr place.below
    have many :
        leastExponent < exponent →
          2 ^ 52 ≤ (scaleDown numerator denominator exponent).1 /
        (scaleDown numerator denominator exponent).2 := by
      intro more
      rw [le_div_iff_scaled unit]
      push_cast
      exact place.full more
    have least := place.least
    generalize roundQuotient (scaleDown numerator denominator exponent).1
      (scaleDown numerator denominator exponent).2 = significand at rounded
    generalize (scaleDown numerator denominator exponent).1 /
      (scaleDown numerator denominator exponent).2 = whole at rounded few many
    by_cases carried : significand = Nat.pow 2 53
    · rw [if_pos carried]
      dsimp only
      split
      · trivial
      · exact ⟨by decide, by omega, by omega, fun _ => le_refl _⟩
    · rw [if_neg carried]
      have bits : Nat.pow 2 53 = 2 ^ 53 := rfl
      dsimp only
      split
      · trivial
      · exact ⟨by omega, least, by omega,
          fun more => le_trans (many more) rounded.1⟩

/--
A number in the interval of a canonical double has its last place, or is below a
power of two and has the next.
-/
theorem Near.lastPlace
    {significand : Nat}
    {exponent : Int}
    {value : ℚ}
    (near : Near significand exponent value)
    (canonical : Canonical significand exponent) :
    LastPlace value exponent ∨
      (significand = 2 ^ 52 ∧ leastExponent < exponent ∧
        value < 2 ^ exponent * 2 ^ 52 ∧
        LastPlace value (exponent - 1)) := by
  have power := power_pos exponent
  have bits : (significand : ℚ) ≤ 2 ^ 53 - 1 := by
    have bits := canonical.bits
    have whole : significand + 1 ≤ 2 ^ 53 := bits
    have cast : (significand : ℚ) + 1 ≤ 2 ^ 53 := by exact_mod_cast whole
    linarith
  have below : value < 2 ^ exponent * 2 ^ 53 := by
    have scaled := mul_le_mul_of_nonneg_right bits (le_of_lt power)
    linarith [near.below]
  by_cases full : leastExponent < exponent → 2 ^ exponent * 2 ^ 52 ≤ value
  · exact Or.inl ⟨canonical.least, below, full⟩
  · rw [Classical.not_imp, not_le] at full
    obtain ⟨more, less⟩ := full
    have atLeast := canonical.full more
    have exact_ : significand = 2 ^ 52 := by
      by_contra other
      have next : 2 ^ 52 + 1 ≤ significand := by omega
      have cast : (2 ^ 52 + 1 : ℚ) ≤ significand := by exact_mod_cast next
      have quarters := (quartersBelow_le significand exponent).2
      have scaled : (2 ^ 52 : ℚ) * 2 ^ exponent ≤
          (4 * significand - quartersBelow significand exponent) / 4 *
            2 ^ exponent :=
        mul_le_mul_of_nonneg_right (by linarith) (le_of_lt power)
      linarith [near.above]
    have half := power_sub_one exponent
    refine Or.inr ⟨exact_, more, less, ⟨by omega, by linarith, fun _ => ?_⟩⟩
    have cast : (significand : ℚ) = 2 ^ 52 := by exact_mod_cast exact_
    have above := near.above
    have quarters := (quartersBelow_le significand exponent).2
    have scaled : (2 ^ 51 : ℚ) * 2 ^ exponent ≤
        (4 * significand - quartersBelow significand exponent) / 4 *
          2 ^ exponent :=
      mul_le_mul_of_nonneg_right (by rw [cast]; linarith) (le_of_lt power)
    linarith

/-- A fraction in the interval of a canonical double is rounded to it. -/
theorem ofRatio_of_near
    {significand : Nat}
    {exponent : Int}
    {numerator denominator : Nat}
    (canonical : Canonical significand exponent)
    (positive : 0 < significand)
    (unit : 0 < denominator)
    (near : Near significand exponent (numerator / denominator))
    (negative : Bool) :
    ofRatio negative numerator denominator =
      .finite negative significand exponent := by
  have nonzero : numerator ≠ 0 := by
    rintro rfl
    have none := near.pos positive
    simp at none
  have place := lastPlace_scaleOf (Nat.pos_of_ne_zero nonzero) unit
  rw [ofRatio, if_neg nonzero]
  have power := power_pos exponent
  rcases near.lastPlace canonical with same | ⟨exact_, more, less, next⟩
  · rw [place.unique same]
    have rounded : roundQuotient (scaleDown numerator denominator exponent).1
        (scaleDown numerator denominator exponent).2 = significand := by
      have quarters := (quartersBelow_le significand exponent).2
      apply roundQuotient_eq (scaleDown_pos numerator unit exponent)
      · rw [scaleDown_eq, le_div_iff₀ power]
        have wider : ((significand : ℚ) - 1 / 2) * 2 ^ exponent ≤
            (4 * significand - quartersBelow significand exponent) / 4 *
              2 ^ exponent :=
          mul_le_mul_of_nonneg_right (by linarith) (le_of_lt power)
        linarith [near.above]
      · rw [scaleDown_eq, div_le_iff₀ power]
        linarith [near.below]
      · intro odd
        obtain ⟨strictAbove, strictBelow⟩ := near.inside odd
        rw [scaleDown_eq, lt_div_iff₀ power, div_lt_iff₀ power]
        have wider : ((significand : ℚ) - 1 / 2) * 2 ^ exponent ≤
            (4 * significand - quartersBelow significand exponent) / 4 *
              2 ^ exponent :=
          mul_le_mul_of_nonneg_right (by linarith) (le_of_lt power)
        exact ⟨by linarith, by linarith⟩
    have uncarried : significand ≠ Nat.pow 2 53 := Nat.ne_of_lt canonical.bits
    dsimp only
    rw [rounded, if_neg uncarried]
    exact if_neg (not_lt.mpr canonical.greatest)
  · rw [place.unique next]
    have rounded :
        roundQuotient (scaleDown numerator denominator (exponent - 1)).1
          (scaleDown numerator denominator (exponent - 1)).2 = 2 ^ 53 := by
      have cast : (significand : ℚ) = 2 ^ 52 := by exact_mod_cast exact_
      have quarter : quartersBelow significand exponent = 1 := by
        rw [quartersBelow, if_pos ⟨exact_, more⟩]
      have above := near.above
      rw [cast, quarter, ← power_sub_one exponent] at above
      apply roundQuotient_eq (scaleDown_pos numerator unit (exponent - 1))
      · rw [scaleDown_eq, le_div_iff₀ (power_pos _)]
        push_cast
        linarith
      · rw [scaleDown_eq, div_le_iff₀ (power_pos _)]
        push_cast
        linarith [power_pos (exponent - 1), next.below]
      · exact fun odd => absurd odd (by decide)
    have carried : (2 : Nat) ^ 53 = Nat.pow 2 53 := rfl
    dsimp only
    rw [rounded, if_pos carried, exact_]
    dsimp only
    rw [sub_add_cancel]
    exact if_neg (not_lt.mpr canonical.greatest)

/-! ## Reading a decimal -/

/-- What a decimal is rounded to is canonical. -/
theorem wellFormed_ofDecimal
    (negative : Bool)
    (digits : Nat)
    (exponent : Int) :
    WellFormed (ofDecimal negative digits exponent) := by
  rw [ofDecimal]
  split
  · exact wellFormed_zero negative
  · split
    · trivial
    · split
      · exact wellFormed_ofRatio negative _ Nat.one_pos
      · exact wellFormed_ofRatio negative _ (Nat.pow_pos (by decide))

/-- Beyond `10 ^ 400` and `10 ^ -400` there are no doubles. -/
theorem power_le : (2 : ℚ) ^ 1075 ≤ 10 ^ 400 := by
  calc (2 : ℚ) ^ 1075 = (2 ^ 43) ^ 25 := by rw [← pow_mul]
    _ ≤ (10 ^ 16) ^ 25 := pow_le_pow_left₀ (by norm_num) (by norm_num) 25
    _ = 10 ^ 400 := by rw [← pow_mul]

/--
A decimal in the interval of a canonical double is neither so small nor so large
that it is not looked at.
-/
theorem Near.decimal_bounds
    {significand : Nat}
    {exponent : Int}
    {digits : Nat}
    {power : Int}
    (canonical : Canonical significand exponent)
    (positive : 0 < significand)
    (near : Near significand exponent (digits * 10 ^ power)) :
    digits ≠ 0 ∧ -400 - (digits.log2 : Int) - 1 ≤ power ∧ power ≤ 400 := by
  have nonzero : digits ≠ 0 := by
    rintro rfl
    have none := near.pos positive
    simp at none
  have one : (1 : ℚ) ≤ digits := by exact_mod_cast Nat.pos_of_ne_zero nonzero
  refine ⟨nonzero, ?_, ?_⟩
  · by_contra small
    have less := (log2_bounds (Nat.pos_of_ne_zero nonzero)).2
    have tens : (0 : ℚ) < 10 ^ power := zpow_pos (by norm_num) power
    have wider :
        (2 : ℚ) ^ ((digits.log2 : Int) + 1) ≤ 10 ^ ((digits.log2 : Int) + 1) :=
      zpow_le_zpow_left₀ (by omega) (by norm_num) (by norm_num)
    have tiny :
        (10 : ℚ) ^ ((digits.log2 : Int) + 1) * 10 ^ power ≤
          10 ^ (-400 : Int) := by
      rw [← zpow_add₀ (by norm_num)]
      exact zpow_le_zpow_right₀ (by norm_num) (by omega)
    have least : (2 : ℚ) ^ leastExponent ≤ 2 ^ exponent :=
      zpow_le_zpow_right₀ (by norm_num) canonical.least
    have much : (10 : ℚ) ^ (-400 : Int) ≤ 1 / 2 * 2 ^ leastExponent := by
      have half := power_sub_one leastExponent
      have inverse : (10 : ℚ) ^ (-400 : Int) ≤ 2 ^ (leastExponent - 1) :=
        inv_anti₀ (by positivity) power_le
      linarith
    have quarters := (quartersBelow_le significand exponent).2
    have whole : (1 : ℚ) ≤ significand := by exact_mod_cast positive
    have scaled : (1 / 2 : ℚ) * 2 ^ exponent ≤
        (4 * significand - quartersBelow significand exponent) / 4 *
          2 ^ exponent :=
      mul_le_mul_of_nonneg_right (by linarith) (le_of_lt (power_pos exponent))
    have bounded :
        (digits : ℚ) * 10 ^ power <
          10 ^ ((digits.log2 : Int) + 1) * 10 ^ power :=
      mul_lt_mul_of_pos_right (by linarith) tens
    linarith [near.above]
  · by_contra large
    have huge : (10 : ℚ) ^ (401 : Int) ≤ 10 ^ power :=
      zpow_le_zpow_right₀ (by norm_num) (by omega)
    have greatest : (2 : ℚ) ^ exponent ≤ 2 ^ greatestExponent :=
      zpow_le_zpow_right₀ (by norm_num) canonical.greatest
    have much : (2 : ℚ) ^ 54 * 2 ^ greatestExponent < 10 ^ (401 : Int) := by
      calc
        (2 : ℚ) ^ 54 * 2 ^ greatestExponent = 2 ^ 1025 := by
          rw [mul_comm, ← power_add]
          rfl
        _ ≤ 2 ^ 1075 := pow_le_pow_right₀ (by norm_num) (by norm_num)
        _ ≤ 10 ^ 400 := power_le
        _ < 10 ^ (401 : Int) := by
          rw [← zpow_natCast]
          exact zpow_lt_zpow_right₀ (by norm_num) (by norm_num)
    have bits : (significand : ℚ) ≤ 2 ^ 53 := by
      exact_mod_cast canonical.bits.le
    have scaled :
        (4 * significand + 2 : ℚ) / 4 * 2 ^ exponent ≤
          2 ^ 54 * 2 ^ greatestExponent :=
      mul_le_mul (by linarith) greatest (le_of_lt (power_pos exponent))
        (by norm_num)
    have bounded : (1 : ℚ) * 10 ^ power ≤ digits * 10 ^ power :=
      mul_le_mul_of_nonneg_right one (le_of_lt (zpow_pos (by norm_num) power))
    linarith [near.below]

/-- A decimal in the interval of a canonical double is read as that double. -/
theorem ofDecimal_of_near
    {significand : Nat}
    {exponent : Int}
    {digits : Nat}
    {power : Int}
    (canonical : Canonical significand exponent)
    (positive : 0 < significand)
    (near : Near significand exponent (digits * 10 ^ power))
    (negative : Bool) :
    ofDecimal negative digits power =
      .finite negative significand exponent := by
  obtain ⟨nonzero, notSmall, notLarge⟩ := near.decimal_bounds canonical positive
  rw [ofDecimal, if_neg (by omega), if_neg (by omega)]
  split
  · rename_i whole
    obtain ⟨tens, rfl⟩ := Int.eq_ofNat_of_zero_le whole
    refine ofRatio_of_near canonical positive Nat.one_pos ?_ negative
    simpa using near
  · rename_i part
    obtain ⟨tens, opposite⟩ := Int.eq_ofNat_of_zero_le (a := -power) (by omega)
    obtain rfl : power = -tens := by omega
    refine ofRatio_of_near canonical positive
      (Nat.pow_pos (by decide)) ?_ negative
    simpa [div_eq_mul_inv] using near

end SettingsStore.Double
