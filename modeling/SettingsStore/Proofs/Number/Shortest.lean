import SettingsStore.Number.Shortest
import SettingsStore.Proofs.Number.Rounding

/-!
# The shortest decimal is read back

A grid of decimals with a number of digits is tried by comparing whole numbers,
to which a point of the grid and the quarters of a double are both multiplied
up.  So a hit lies in the interval of the double.  On the grid with seventeen
digits two neighbours are closer than the two halves of a last place together,
and therefore one of the two beside the double is a hit: some decimal is always
found, and it is read back as the double.
-/

namespace SettingsStore

/-- What a decimal stands for. -/
def Decimal.worth (decimal : Decimal) : ℚ :=
  decimal.digits * 10 ^ decimal.exponent

/-- Zeros at the end of the digits say nothing. -/
theorem Decimal.worth_trimmed
    (fuel : Nat)
    (decimal : Decimal) :
    (decimal.trimmed fuel).worth = decimal.worth := by
  induction fuel generalizing decimal with
  | zero => rfl
  | succ fuel induction =>
      rw [trimmed]
      split
      · rename_i ends
        obtain ⟨tens, whole⟩ := Nat.dvd_of_mod_eq_zero ends.1
        rw [induction, worth, worth]
        dsimp only
        rw [whole, Nat.mul_div_cancel_left _ (by decide),
          zpow_add_one₀ (by norm_num)]
        push_cast
        ring
      · rfl

namespace Double

/-! ## The position of the first digit -/

/-- A number of digits bounds a number from both sides. -/
theorem toDigits_bounds
    {number : Nat}
    (positive : 0 < number) :
    (10 : ℚ) ^ (((Nat.toDigits 10 number).length : Int) - 1) ≤ number ∧
      (number : ℚ) < 10 ^ ((Nat.toDigits 10 number).length : Int) := by
  have some_ : 0 < (Nat.toDigits 10 number).length := Nat.length_toDigits_pos
  generalize found : (Nat.toDigits 10 number).length = count at some_
  obtain ⟨before, rfl⟩ := Nat.exists_eq_succ_of_ne_zero (Nat.ne_of_gt some_)
  constructor
  · have exponent : ((before.succ : Nat) : Int) - 1 = before := by omega
    rw [exponent, zpow_natCast]
    by_cases none : before = 0
    · rw [none, pow_zero]
      exact_mod_cast positive
    · have reached : ¬ number < 10 ^ before := by
        intro less
        have short :=
          (Nat.length_toDigits_le_iff (by decide) (Nat.pos_of_ne_zero none)).mpr
            less
        omega
      exact_mod_cast not_lt.mp reached
  · rw [zpow_natCast]
    have below :=
      (Nat.length_toDigits_le_iff (b := 10) (by decide) some_).mp
        (le_of_eq found)
    exact_mod_cast below

/-- A power with its negative part on the other side. -/
theorem power_split
    {base : ℚ}
    (nonzero : base ≠ 0)
    (exponent : Int) :
    base ^ exponent.toNat = base ^ (-exponent).toNat * base ^ exponent := by
  rw [← zpow_natCast, ← zpow_natCast, ← zpow_add₀ nonzero]
  congr 1
  omega

/--
The power of ten at the position of the first digit is at most the number.
-/
theorem decimalPosition_le
    {numerator denominator : Nat}
    (positive : 0 < numerator)
    (unit : 0 < denominator) :
    (10 : ℚ) ^ decimalPosition numerator denominator ≤
      numerator / denominator := by
  have divisor : (0 : ℚ) < denominator := by exact_mod_cast unit
  rw [decimalPosition]
  generalize guessed :
    ((Nat.toDigits 10 numerator).length :
      Int) - (Nat.toDigits 10 denominator).length = guess
  have split_ := power_split (by norm_num : (10 : ℚ) ≠ 0) guess
  have part : (0 : ℚ) < 10 ^ (-guess).toNat := by positivity
  by_cases reached :
      (if 0 ≤
          guess then decide (denominator * Nat.pow 10 guess.toNat ≤ numerator)
        else decide (denominator ≤ numerator * Nat.pow 10 (-guess).toNat)) =
          true
  · rw [if_pos reached, le_div_iff₀ divisor]
    split at reached
    · rename_i whole
      have none : (-guess).toNat = 0 := by omega
      rw [none, pow_zero, one_mul] at split_
      rw [← split_, mul_comm]
      exact_mod_cast of_decide_eq_true reached
    · rename_i negative
      have none : guess.toNat = 0 := by omega
      rw [none, pow_zero] at split_
      have atLeast : (denominator : ℚ) ≤ numerator * 10 ^ (-guess).toNat := by
        exact_mod_cast of_decide_eq_true reached
      calc (10 : ℚ) ^ guess * denominator ≤
        10 ^ guess * (numerator * 10 ^ (-guess).toNat) :=
            mul_le_mul_of_nonneg_left atLeast
              (le_of_lt (zpow_pos (by norm_num) guess))
        _ = numerator * (10 ^ (-guess).toNat * 10 ^ guess) := by ring
        _ = numerator := by rw [← split_, mul_one]
  · rw [if_neg reached, le_div_iff₀ divisor]
    calc (10 : ℚ) ^ (guess - 1) * denominator
        ≤
          10 ^ (guess - 1) *
          10 ^ ((Nat.toDigits 10 denominator).length : Int) :=
          mul_le_mul_of_nonneg_left (le_of_lt (toDigits_bounds unit).2)
            (le_of_lt (zpow_pos (by norm_num) _))
      _ = 10 ^ (((Nat.toDigits 10 numerator).length : Int) - 1) := by
          rw [← zpow_add₀ (by norm_num)]
          congr 1
          omega
      _ ≤ numerator := (toDigits_bounds positive).1

/-! ## Hits -/

/-- A point of a grid as a whole number. -/
def gridPoint (exponent grid : Int) (candidate : Nat) : Nat :=
  candidate * Nat.pow 10 grid.toNat * Nat.pow 2 (-(exponent - 2)).toNat

/-- Quarters of a last place as a whole number. -/
def gridQuarters (exponent grid : Int) (quarters : Nat) : Nat :=
  quarters * Nat.pow 2 (exponent - 2).toNat * Nat.pow 10 (-grid).toNat

/-- Whether a point of a grid is found to be in the interval of a double. -/
def hits (significand : Nat) (exponent grid : Int) (candidate : Nat) : Bool :=
  let gap :=
    if significand = Nat.pow 2 52 ∧ leastExponent < exponent then 1 else 2
  let lower := gridQuarters exponent grid (4 * significand - gap)
  let upper := gridQuarters exponent grid (4 * significand + 2)
  let point := gridPoint exponent grid candidate
  if significand % 2 = 0 then lower ≤ point && point ≤ upper
  else lower < point && point < upper

/-- The point of a grid that is not above a double. -/
def gridBelow (significand : Nat) (exponent grid : Int) : Nat :=
  gridQuarters exponent grid (4 * significand) / gridPoint exponent grid 1

theorem decimalAt?_eq
    (significand : Nat)
    (exponent position : Int)
    (count : Nat) :
    decimalAt? significand exponent position count =
      let grid := position - (count : Int) + 1
      let below := gridBelow significand exponent grid
      if hits significand exponent grid below then
        if hits significand exponent grid (below + 1) then
          if 2 * gridQuarters exponent grid (4 * significand) <
                gridPoint exponent grid below +
                  gridPoint exponent grid (below + 1) ∨
              2 * gridQuarters exponent grid (4 * significand) =
                gridPoint exponent grid below +
                  gridPoint exponent grid (below + 1) ∧ below % 2 = 0 then
            some ⟨below, grid⟩
          else some ⟨below + 1, grid⟩
        else some ⟨below, grid⟩
      else if hits significand exponent grid (below + 1) then
        some ⟨below + 1, grid⟩
      else none :=
  rfl

/-- What points and quarters were multiplied by. -/
def gridScale (exponent grid : Int) : ℚ :=
  10 ^ (-grid).toNat * 2 ^ (-(exponent - 2)).toNat

theorem gridScale_pos (exponent grid : Int) : 0 < gridScale exponent grid := by
  rw [gridScale]
  positivity

theorem gridPoint_eq
    (exponent grid : Int)
    (candidate : Nat) :
    (gridPoint exponent grid candidate : ℚ) =
      gridScale exponent grid * (candidate * 10 ^ grid) := by
  have tens := power_split (by norm_num : (10 : ℚ) ≠ 0) grid
  rw [gridPoint, gridScale]
  push_cast [Nat.pow_eq]
  rw [tens]
  ring

theorem gridQuarters_eq
    (exponent grid : Int)
    (quarters : Nat) :
    (gridQuarters exponent grid quarters : ℚ) =
      gridScale exponent grid * (quarters / 4 * 2 ^ exponent) := by
  have twos := power_split (by norm_num : (2 : ℚ) ≠ 0) (exponent - 2)
  have quarter : (2 : ℚ) ^ (exponent - 2) = 2 ^ exponent / 4 := by
    rw [zpow_sub₀ (by norm_num)]
    norm_num
  rw [gridQuarters, gridScale]
  push_cast [Nat.pow_eq]
  rw [twos, quarter]
  ring

section

variable {significand : Nat} {exponent grid : Int}

/-- Hits are the points in the interval of the double. -/
theorem hits_iff
    (positive : 0 < significand)
    (candidate : Nat) :
    hits significand exponent grid candidate = true ↔
      Near significand exponent (candidate * 10 ^ grid) := by
  have scale := gridScale_pos exponent grid
  have lower : ((4 * significand -
      (if significand = Nat.pow 2 52 ∧ leastExponent < exponent then 1 else 2) :
      Nat) : ℚ) =
        4 * significand - quartersBelow significand exponent := by
    have bits : Nat.pow 2 52 = 2 ^ 52 := rfl
    rw [quartersBelow, bits]
    split
    · rw [Nat.cast_sub (by omega)]
      push_cast
      rfl
    · rw [Nat.cast_sub (by omega)]
      push_cast
      rfl
  have atLeast :
      ∀ quarters : Nat,
        (gridQuarters exponent grid quarters ≤
          gridPoint exponent grid candidate ↔
      (quarters : ℚ) / 4 * 2 ^ exponent ≤ candidate * 10 ^ grid) := by
    intro quarters
    rw [← mul_le_mul_iff_right₀ scale, ← gridQuarters_eq, ← gridPoint_eq]
    exact_mod_cast Iff.rfl
  have atMost :
      ∀ quarters : Nat,
        (gridPoint exponent grid candidate ≤
          gridQuarters exponent grid quarters ↔
      (candidate : ℚ) * 10 ^ grid ≤ quarters / 4 * 2 ^ exponent) := by
    intro quarters
    rw [← mul_le_mul_iff_right₀ scale, ← gridQuarters_eq, ← gridPoint_eq]
    exact_mod_cast Iff.rfl
  have upper : ((4 * significand + 2 : Nat) : ℚ) = 4 * significand + 2 := by
    push_cast; rfl
  rw [hits]
  split
  · rename_i even
    rw [Bool.and_eq_true, decide_eq_true_eq, decide_eq_true_eq, atLeast, atMost,
      lower, upper]
    exact ⟨fun inside => ⟨inside.1, inside.2, fun odd => absurd odd (by omega)⟩,
      fun near => ⟨near.above, near.below⟩⟩
  · rename_i odd
    have more :
        ∀ quarters : Nat,
          (gridQuarters exponent grid quarters <
            gridPoint exponent grid candidate ↔
        (quarters : ℚ) / 4 * 2 ^ exponent < candidate * 10 ^ grid) :=
      fun quarters => not_le.symm.trans
        ((not_congr (atMost quarters)).trans not_le)
    have less :
        ∀ quarters : Nat,
          (gridPoint exponent grid candidate <
            gridQuarters exponent grid quarters ↔
        (candidate : ℚ) * 10 ^ grid < quarters / 4 * 2 ^ exponent) :=
      fun quarters => not_le.symm.trans
        ((not_congr (atLeast quarters)).trans not_le)
    rw [Bool.and_eq_true, decide_eq_true_eq, decide_eq_true_eq, more, less,
      lower, upper]
    exact ⟨fun inside => ⟨inside.1.le, inside.2.le, fun _ => inside⟩,
      fun near => near.inside (by omega)⟩

/-- A decimal that is found is in the interval of the double. -/
theorem near_of_decimalAt?
    {position : Int}
    {count : Nat}
    {decimal : Decimal}
    (positive : 0 < significand)
    (found : decimalAt? significand exponent position count = some decimal) :
    Near significand exponent decimal.worth := by
  rw [decimalAt?_eq] at found
  dsimp only at found
  split at found
  · rename_i hit
    split at found
    · rename_i hitAbove
      split at found
      · cases found
        exact (hits_iff positive _).mp hit
      · cases found
        exact (hits_iff positive _).mp hitAbove
    · cases found
      exact (hits_iff positive _).mp hit
  · split at found
    · rename_i hitAbove
      cases found
      exact (hits_iff positive _).mp hitAbove
    · cases found

/-- The double is between two points of the grid. -/
theorem gridBelow_bounds :
    (gridBelow significand exponent grid : ℚ) * 10 ^ grid ≤
      significand * 2 ^ exponent ∧
      (significand : ℚ) * 2 ^ exponent <
        (gridBelow significand exponent grid + 1 : Nat) * 10 ^ grid := by
  have scale := gridScale_pos exponent grid
  have tens : (0 : ℚ) < 10 ^ grid := zpow_pos (by norm_num) grid
  have unit : 0 < gridPoint exponent grid 1 := by
    have cast : (0 : ℚ) < gridPoint exponent grid 1 := by
      rw [gridPoint_eq]
      exact mul_pos scale (by simpa using tens)
    exact_mod_cast cast
  have below :=
    Nat.div_mul_le_self (gridQuarters exponent grid (4 * significand))
      (gridPoint exponent grid 1)
  have above := Nat.lt_mul_of_div_lt (Nat.lt_succ_self
    (gridQuarters exponent grid (4 * significand) / gridPoint exponent grid 1))
      unit
  constructor
  · rw [gridBelow, ← mul_le_mul_iff_right₀ scale]
    have cast :
        ((gridQuarters exponent grid (4 * significand) /
            gridPoint exponent grid 1 : Nat) : ℚ) *
        gridPoint exponent grid 1 ≤
          gridQuarters exponent grid (4 * significand) := by
          exact_mod_cast below
    rw [gridPoint_eq, gridQuarters_eq] at cast
    push_cast at cast ⊢
    linarith
  · rw [gridBelow, ← mul_lt_mul_iff_right₀ scale]
    have cast : (gridQuarters exponent grid (4 * significand) : ℚ) <
        ((gridQuarters exponent grid (4 * significand) /
            gridPoint exponent grid 1).succ : Nat) *
          gridPoint exponent grid 1 := by exact_mod_cast above
    rw [gridPoint_eq, gridQuarters_eq] at cast
    push_cast at cast ⊢
    linarith

/--
On a grid that is finer than the interval of the double a decimal is found.
-/
theorem decimalAt?_of_fine
    {position : Int}
    {count : Nat}
    (positive : 0 < significand)
    (fine :
      (10 : ℚ) ^ (position - (count : Int) + 1) <
        (2 + quartersBelow significand exponent) / 4 * 2 ^ exponent) :
    ∃ decimal, decimalAt? significand exponent position count =
      some decimal := by
  rw [decimalAt?_eq]
  dsimp only
  generalize position - (count : Int) + 1 = grid at fine
  obtain ⟨below, above⟩ := @gridBelow_bounds significand exponent grid
  have power := power_pos exponent
  have quarters := (quartersBelow_le significand exponent).1
  push_cast at above
  split
  · split
    · split <;> exact ⟨_, rfl⟩
    · exact ⟨_, rfl⟩
  · rename_i missed
    split
    · exact ⟨_, rfl⟩
    · rename_i missedAbove
      exfalso
      rw [hits_iff positive] at missed missedAbove
      push_cast at missedAbove
      have low : (gridBelow significand exponent grid : ℚ) * 10 ^ grid ≤
          (4 * significand - quartersBelow significand exponent) / 4 *
            2 ^ exponent := by
        by_contra more
        refine missed
          ⟨by linarith, by linarith, fun _ => ⟨by linarith, by linarith⟩⟩
      have high : (4 * significand + 2 : ℚ) / 4 * 2 ^ exponent ≤
          (gridBelow significand exponent grid + 1) * 10 ^ grid := by
        by_contra less
        have quarter : 0 ≤ quartersBelow significand exponent * 2 ^ exponent :=
          mul_nonneg (by linarith) power.le
        refine missedAbove
          ⟨by linarith, by linarith, fun _ => ⟨by linarith, by linarith⟩⟩
      linarith

/-- Seventeen digits are enough. -/
theorem fine_seventeen
    {position : Int}
    (canonical : Canonical significand exponent)
    (reached : (10 : ℚ) ^ position ≤ significand * 2 ^ exponent) :
    (10 : ℚ) ^ (position - (17 : Nat) + 1) <
      (2 + quartersBelow significand exponent) / 4 * 2 ^ exponent := by
  have power := power_pos exponent
  have sixteen :
      (10 : ℚ) ^ (position - (17 : Nat) + 1) * 10 ^ 16 = 10 ^ position := by
    rw [← zpow_natCast, ← zpow_add₀ (by norm_num)]
    congr 1
    omega
  generalize (10 : ℚ) ^ (position - (17 : Nat) + 1) = step at sixteen ⊢
  rw [← sixteen] at reached
  rw [quartersBelow]
  split
  · rename_i below
    have cast : (significand : ℚ) = 2 ^ 52 := by exact_mod_cast below.1
    rw [cast] at reached
    linarith
  · have cast : (significand : ℚ) < 2 ^ 53 := by exact_mod_cast canonical.bits
    have scaled := mul_lt_mul_of_pos_right cast power
    linarith

/-- The shortest decimal of a double is in its interval. -/
theorem near_shortest
    (canonical : Canonical significand exponent)
    (positive : 0 < significand) :
    Near significand exponent (shortest significand exponent).worth := by
  have ratio := scaleDown_eq significand 1 (-exponent)
  have unit := scaleDown_pos significand Nat.one_pos (-exponent)
  rw [shortest]
  generalize scaleDown significand 1 (-exponent) = scaled at ratio unit
  obtain ⟨numerator, denominator⟩ := scaled
  dsimp only at ratio unit ⊢
  have worth : (numerator : ℚ) / denominator = significand * 2 ^ exponent := by
    rw [ratio, Nat.cast_one, div_one, zpow_neg, div_inv_eq_mul]
  have some_ : 0 < numerator := by
    have cast : (0 : ℚ) < significand := by exact_mod_cast positive
    have divisor : (0 : ℚ) < denominator := by exact_mod_cast unit
    have product := mul_pos cast (power_pos exponent)
    rw [← worth, div_pos_iff_of_pos_right divisor] at product
    exact_mod_cast product
  have reached := decimalPosition_le some_ unit
  rw [worth] at reached
  obtain ⟨last, hit⟩ :=
    decimalAt?_of_fine positive (fine_seventeen canonical reached)
  rw [Decimal.worth_trimmed]
  cases found : (List.range 17).findSome? fun count =>
      decimalAt? significand exponent (decimalPosition numerator denominator)
        (count + 1) with
  | none =>
      have missed := List.findSome?_eq_none_iff.mp found 16 (by decide)
      rw [hit] at missed
      cases missed
  | some decimal =>
      obtain ⟨count, _, hit⟩ := List.exists_of_findSome?_eq_some found
      exact near_of_decimalAt? positive hit

end

end Double

end SettingsStore
