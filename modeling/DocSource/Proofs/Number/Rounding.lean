import DocSource.Number.Double
import Mathlib.Algebra.Order.Field.Power
import Mathlib.Tactic.Linarith
import Mathlib.Tactic.Positivity
import Mathlib.Tactic.Ring
import Mathlib.Tactic.FieldSimp

/-!
How far a double lies from the fraction that it is nearest to, and which fractions are too great
for any finite double.
-/

namespace DocSource.Double

/-- The absolute value of a finite double. -/
def absolute (x : Double) : ℚ := x.significand * (2 : ℚ) ^ x.scale

/-- An absolute value is not negative. -/
theorem absolute_nonneg (x : Double) : 0 ≤ x.absolute := by
  -- It is a product of a number and a power of two.
  unfold absolute
  positivity

/-- Fractions from here on are nearest to infinity: half a place beyond the greatest double. -/
def overflow : ℚ := (2 ^ 53 - 1 / 2) * 2 ^ (971 : Int)

/-- Fractions up to here leave room for three roundings: of digits, of a power and of a product. -/
def roomy : ℚ := overflow * (1 - 1 / 2 ^ 52)

/-- A magnitude below the sign bit is kept. -/
theorem magnitude_ofMagnitude (negative : Bool) {magnitude : Nat} (room : magnitude < 2 ^ 63) :
    (ofMagnitude negative magnitude).magnitude = magnitude := by
  -- The sign is the bit above, which the magnitude does not reach.
  cases negative <;>
    simp [ofMagnitude, Double.magnitude, UInt64.toNat_ofNat'] <;> omega

/-- A double is given by its sign and its magnitude. -/
theorem ofMagnitude_self (x : Double) : ofMagnitude x.negative x.magnitude = x := by
  -- The bits are the magnitude, with the sign bit on top where there is a sign.
  have room := x.bits.toNat_lt
  have same : (if x.negative = true then 2 ^ 63 + x.magnitude else x.magnitude) =
      x.bits.toNat := by
    simp only [negative, magnitude, Nat.pow_eq, decide_eq_true_eq]
    split <;> omega
  rw [ofMagnitude, Nat.pow_eq, same, UInt64.ofNat_toNat]

/-- A double that is not zero has a significand. -/
theorem significand_pos {x : Double} (nonzero : x.isZero = false) : 0 < x.significand := by
  -- A significand of zero has no leading bit and no fraction, which leaves no bits at all.
  have positive : x.magnitude ≠ 0 := by simpa [isZero] using nonzero
  unfold significand
  split <;> simp only [exponentField, fraction, Nat.pow_eq] at * <;> omega

/-- The nearest whole number is at most a half above a fraction. -/
theorem roundToEven_le {num den : Nat} (positive : 0 < den) :
    (roundToEven num den : ℚ) ≤ num / den + 1 / 2 := by
  -- A quotient is raised only where the remainder is half the divisor or more.
  have whole : 2 * (roundToEven num den * den) ≤ 2 * num + den := by
    have split := Nat.div_add_mod num den
    simp only [roundToEven, Bool.or_eq_true, Bool.and_eq_true, decide_eq_true_eq, beq_iff_eq]
    rw [mul_comm] at split
    split
    · rw [Nat.add_mul]
      omega
    · omega
  have scaled : (2 : ℚ) * (roundToEven num den * den) ≤ 2 * num + den := by exact_mod_cast whole
  have room : (0 : ℚ) < den := by exact_mod_cast positive
  rw [div_add_div _ _ room.ne' two_ne_zero, le_div_iff₀ (by positivity)]
  linarith

/-- A whole number below a fraction is below the whole number nearest to it. -/
theorem le_roundToEven {num den n : Nat} (positive : 0 < den) (below : (n : ℚ) ≤ num / den) :
    n ≤ roundToEven num den := by
  have room : (0 : ℚ) < den := by exact_mod_cast positive
  have under : n * den ≤ num := by
    rw [le_div_iff₀ room] at below
    exact_mod_cast below
  -- The quotient is rounded down to begin with, and is never lowered further.
  have quotient : n ≤ num / den := (Nat.le_div_iff_mul_le positive).mpr under
  simp only [roundToEven]
  split <;> omega

/-- A whole number above a fraction is above the whole number nearest to it. -/
theorem roundToEven_le_of_lt {num den n : Nat} (positive : 0 < den)
    (above : (num : ℚ) / den < n) : roundToEven num den ≤ n := by
  have room : (0 : ℚ) < den := by exact_mod_cast positive
  have scaled : num < n * den := by
    rw [div_lt_iff₀ room] at above
    exact_mod_cast above
  -- The quotient is smaller than the bound, and is raised by one at most.
  have quotient : num / den < n := (Nat.div_lt_iff_lt_mul positive).mpr scaled
  simp only [roundToEven]
  split <;> omega

/-- An integer power as a fraction: at most one of the two exponents is not zero. -/
theorem zpow_eq_div (base : ℚ) (exponent : Int) :
    base ^ exponent = base ^ exponent.toNat / base ^ (-exponent).toNat := by
  -- For an exponent of either sign, the fraction has one of its two powers left.
  rcases le_total 0 exponent with up | down
  · obtain ⟨n, rfl⟩ := Int.eq_ofNat_of_zero_le up
    simp
  · obtain ⟨n, same⟩ := Int.eq_ofNat_of_zero_le (Int.neg_nonneg.mpr down)
    obtain rfl : exponent = -(n : Int) := by omega
    simp

/-- The logarithm of a number brackets it by powers of two. -/
theorem two_zpow_log2 {n : Nat} (positive : 0 < n) :
    (2 : ℚ) ^ (n.log2 : Int) ≤ n ∧ (n : ℚ) < 2 ^ ((n.log2 : Int) + 1) := by
  -- The logarithm of a natural number is exact, and its powers carry over to rationals.
  have below : 2 ^ n.log2 ≤ n := Nat.log2_self_le positive.ne'
  have above : n < 2 ^ (n.log2 + 1) := Nat.lt_log2_self
  refine ⟨by rw [zpow_natCast]; exact_mod_cast below, ?_⟩
  have same : ((n.log2 : Int) + 1) = ((n.log2 + 1 : Nat) : Int) := by omega
  rw [same, zpow_natCast]
  exact_mod_cast above

/-- A fraction as a number of places: how many, of which size, and how far above it that is. -/
structure Rounded (q : ℚ) (scale : Int) (rounded : Nat) : Prop where
  least : -1074 ≤ scale
  /-- Only the smallest places may be fewer than a full significand has. -/
  full : scale = -1074 ∨ (2 ^ 52 ≤ rounded ∧ 2 ^ 52 * (2 : ℚ) ^ scale ≤ q)
  fits : rounded ≤ 2 ^ 53
  near : rounded * (2 : ℚ) ^ scale ≤ q + 2 ^ scale / 2

/-- The binary exponent that is guessed from the sizes of two parts, and lowered if need be. -/
theorem exists_exponent {num den : Nat} (above : 0 < num) (positive : 0 < den) :
    ∃ exponent : Int, (2 : ℚ) ^ exponent ≤ num / den ∧ (num : ℚ) / den < 2 ^ (exponent + 1) ∧
      (let guess : Int := (num.log2 : Int) - den.log2
       let reached := if guess ≥ 0 then den * Nat.pow 2 guess.toNat ≤ num
        else den ≤ num * Nat.pow 2 (-guess).toNat
       (if reached then guess else guess - 1) = exponent) := by
  obtain ⟨numLow, numHigh⟩ := two_zpow_log2 above
  obtain ⟨denLow, denHigh⟩ := two_zpow_log2 positive
  have room : (0 : ℚ) < den := by exact_mod_cast positive
  set guess : Int := (num.log2 : Int) - den.log2 with guessed
  -- The fraction lies less than one binary place away from the guess, on either side.
  have high : (num : ℚ) / den < 2 ^ (guess + 1) := by
    rw [div_lt_iff₀ room]
    calc (num : ℚ) < 2 ^ ((num.log2 : Int) + 1) := numHigh
      _ = 2 ^ (guess + 1) * 2 ^ (den.log2 : Int) := by
        rw [← zpow_add₀ two_ne_zero]
        congr 1
        omega
      _ ≤ 2 ^ (guess + 1) * den := by gcongr
  have low : (2 : ℚ) ^ (guess - 1) ≤ num / den := by
    rw [le_div_iff₀ room]
    calc (2 : ℚ) ^ (guess - 1) * den ≤ 2 ^ (guess - 1) * 2 ^ ((den.log2 : Int) + 1) := by
          gcongr
      _ = 2 ^ (num.log2 : Int) := by
        rw [← zpow_add₀ two_ne_zero]
        congr 1
        omega
      _ ≤ num := numLow
  -- The comparison of whole numbers is that of the fraction with the guess.
  have compared : (if guess ≥ 0 then den * Nat.pow 2 guess.toNat ≤ num
      else den ≤ num * Nat.pow 2 (-guess).toNat) ↔ (2 : ℚ) ^ guess ≤ num / den := by
    rw [zpow_eq_div, div_le_div_iff₀ (by positivity) room]
    split
    · next up =>
      have none : (-guess).toNat = 0 := by omega
      simp only [none, pow_zero, mul_one, Nat.pow_eq, mul_comm den]
      exact_mod_cast Iff.rfl
    · next down =>
      have none : guess.toNat = 0 := by omega
      simp only [none, pow_zero, one_mul, Nat.pow_eq]
      exact_mod_cast Iff.rfl
  -- A guess that the fraction does not reach is too high by one.
  by_cases reached : (2 : ℚ) ^ guess ≤ num / den
  · exact ⟨guess, reached, high, if_pos (compared.mpr reached)⟩
  · refine ⟨guess - 1, low, ?_, if_neg (mt compared.mp reached)⟩
    rw [sub_add_cancel]
    exact lt_of_not_ge reached

/--
The places of a fraction are counted over one denominator: that of the fraction with the size of
a place, or the fraction's own when a place is below one.
-/
theorem roundToEven_places (num : Nat) {den : Nat} (positive : 0 < den) (scale : Int) :
    ∃ top bottom : Nat, 0 < bottom ∧ (top : ℚ) / bottom = num / den / 2 ^ scale ∧
      (if scale ≥ 0 then roundToEven num (den * Nat.pow 2 scale.toNat)
        else roundToEven (num * Nat.pow 2 (-scale).toNat) den) = roundToEven top bottom := by
  -- Either the denominator takes the power of two, or the numerator does.
  split
  · next up =>
    refine ⟨num, den * Nat.pow 2 scale.toNat, by simp only [Nat.pow_eq]; positivity, ?_, rfl⟩
    -- No power is left for the numerator.
    have none : (-scale).toNat = 0 := by omega
    rw [zpow_eq_div, none, pow_zero, div_one, div_div, Nat.pow_eq]
    push_cast
    rfl
  · next down =>
    refine ⟨num * Nat.pow 2 (-scale).toNat, den, positive, ?_, rfl⟩
    -- No power is left for the denominator.
    have none : scale.toNat = 0 := by omega
    rw [zpow_eq_div, none, pow_zero, Nat.pow_eq]
    push_cast
    field_simp

/-- The magnitude nearest to a fraction is that of its places, or of infinity. -/
theorem nearestMagnitude_eq {num den : Nat} (above : 0 < num) (positive : 0 < den) :
    ∃ scale rounded, Rounded (num / den) scale rounded ∧ nearestMagnitude num den =
      min ((scale + 1074).toNat * 2 ^ 52 + rounded) infiniteMagnitude := by
  obtain ⟨exponent, low, high, found⟩ := exists_exponent above positive
  have room : (0 : ℚ) < den := by exact_mod_cast positive
  set scale := max (exponent - 52) (-1074) with chosen
  have pow : (0 : ℚ) < 2 ^ scale := by positivity
  obtain ⟨top, bottom, solid, same, rounded⟩ := roundToEven_places num positive scale
  refine ⟨scale, roundToEven top bottom, ⟨le_max_right _ _, ?_, ?_, ?_⟩, ?_⟩
  · -- Above the smallest places, the significand takes all of its bits.
    rcases max_choice (exponent - 52) (-1074) with shifted | smallest
    · right
      have reached : (2 : ℚ) ^ 52 * 2 ^ scale ≤ num / den := by
        rw [chosen, shifted, ← zpow_natCast, ← zpow_add₀ two_ne_zero]
        convert low using 2
        push_cast
        ring
      refine ⟨le_roundToEven solid ?_, reached⟩
      rw [same, le_div_iff₀ pow]
      exact_mod_cast reached
    · exact .inl smallest
  · -- The fraction is below the next power of two, and so is the number of its places.
    apply roundToEven_le_of_lt solid
    rw [same, div_lt_iff₀ pow]
    calc (num : ℚ) / den < 2 ^ (exponent + 1) := high
      _ ≤ 2 ^ (53 + scale) := zpow_le_zpow_right₀ one_le_two (by omega)
      _ = ((2 ^ 53 : Nat) : ℚ) * 2 ^ scale := by
        rw [zpow_add₀ two_ne_zero]
        norm_num
  · -- Rounding adds half a place at most.
    have most : (roundToEven top bottom : ℚ) ≤ top / bottom + 1 / 2 := roundToEven_le solid
    rw [same] at most
    calc (roundToEven top bottom : ℚ) * 2 ^ scale
        ≤ (num / den / 2 ^ scale + 1 / 2) * 2 ^ scale := by gcongr
      _ = num / den + 2 ^ scale / 2 := by field_simp
  · -- The steps of the definition are those that were named here.
    dsimp only at found
    unfold nearestMagnitude
    dsimp only
    rw [if_neg above.ne', found, ← chosen, rounded, Nat.pow_eq]

/-- The absolute value of a double by the two fields of its magnitude. -/
theorem absolute_eq {x : Double} {field fraction : Nat}
    (fields : x.magnitude = field * 2 ^ 52 + fraction) (low : fraction < 2 ^ 52) :
    x.absolute = if field = 0 then fraction * (2 : ℚ) ^ (-1074 : Int)
      else ((2 ^ 52 + fraction : Nat) : ℚ) * 2 ^ ((field : Int) - 1075) := by
  -- The two fields of the bits are quotient and remainder by the width of the fraction.
  have high : x.exponentField = field := by
    rw [exponentField, fields, Nat.pow_eq]
    omega
  have rest : x.fraction = fraction := by
    rw [Double.fraction, fields, Nat.pow_eq]
    omega
  rw [absolute, significand, scale, high, rest]
  split <;> simp [Nat.pow_eq]

/-- A magnitude of places stands for as many of them, also where they carry over. -/
theorem absolute_ofMagnitude {q : ℚ} {scale : Int} {rounded : Nat} (negative : Bool)
    (places : Rounded q scale rounded)
    (finite : (scale + 1074).toNat * 2 ^ 52 + rounded < infiniteMagnitude) :
    (ofMagnitude negative ((scale + 1074).toNat * 2 ^ 52 + rounded)).absolute =
      rounded * 2 ^ scale := by
  obtain ⟨steps, rfl⟩ : ∃ steps : Nat, scale = steps - 1074 :=
    ⟨(scale + 1074).toNat, by have := places.least; omega⟩
  have cancel : ((steps : Int) - 1074 + 1074).toNat = steps := by omega
  rw [cancel] at finite ⊢
  have room : steps * 2 ^ 52 + rounded < 2 ^ 63 := by
    simp only [infiniteMagnitude, Nat.pow_eq] at finite
    omega
  have kept := magnitude_ofMagnitude negative room
  -- The fraction may have no leading bit, or one, or be a power of two that is one place more.
  rcases lt_or_ge rounded (2 ^ 52) with few | many
  · -- Only the smallest places may lack the leading bit, and their exponent field is zero.
    obtain rfl : steps = 0 := by
      rcases places.full with smallest | ⟨large, -⟩ <;> omega
    rw [absolute_eq kept few, if_pos rfl]
    norm_num
  · rcases lt_or_eq_of_le places.fits with inside | carried
    · -- The leading bit counts as one in the exponent field, and is put back by its value.
      have fields : steps * 2 ^ 52 + rounded = (steps + 1) * 2 ^ 52 + (rounded - 2 ^ 52) := by
        omega
      rw [absolute_eq (kept.trans fields) (by omega), if_neg (by omega)]
      have whole : 2 ^ 52 + (rounded - 2 ^ 52) = rounded := by omega
      have place : ((steps + 1 : Nat) : Int) - 1075 = steps - 1074 := by omega
      rw [whole, place]
    · -- A carry counts as one more, and leaves no fraction.
      have fields : steps * 2 ^ 52 + rounded = (steps + 2) * 2 ^ 52 + 0 := by omega
      rw [absolute_eq (kept.trans fields) (by omega), if_neg (by omega)]
      have place : ((steps + 2 : Nat) : Int) - 1075 = (steps - 1074) + 1 := by omega
      rw [place, zpow_add_one₀ two_ne_zero, carried]
      push_cast
      ring

/-- A fraction below the greatest one is nearest to a finite double. -/
theorem nearestMagnitude_lt {num den : Nat} (positive : 0 < den)
    (below : (num : ℚ) / den < overflow) : nearestMagnitude num den < infiniteMagnitude := by
  rcases Nat.eq_zero_or_pos num with rfl | above
  · rw [nearestMagnitude, if_pos rfl]
    decide
  · obtain ⟨scale, rounded, places, same⟩ := nearestMagnitude_eq above positive
    rw [same, min_lt_iff]
    left
    have pow : (0 : ℚ) < 2 ^ scale := by positivity
    -- Greater places than those of the greatest double would be beyond the fraction.
    have small : scale ≤ 971 := by
      by_contra large
      rcases places.full with smallest | ⟨-, reached⟩
      · omega
      · have step : (2 : ℚ) ^ (972 : Int) ≤ 2 ^ scale :=
          zpow_le_zpow_right₀ one_le_two (by omega)
        have limit : overflow < 2 ^ 52 * (2 : ℚ) ^ (972 : Int) := by
          have double : (2 : ℚ) ^ (972 : Int) = 2 ^ (971 : Int) * 2 :=
            zpow_add_one₀ two_ne_zero 971
          rw [double, ← mul_assoc, mul_right_comm]
          exact mul_lt_mul_of_pos_right (by norm_num) (by positivity)
        linarith
    have fits := places.fits
    simp only [infiniteMagnitude, Nat.pow_eq]
    rcases lt_or_eq_of_le small with lower | rfl
    · omega
    · -- At the greatest places the significand cannot carry over.
      have strict : (rounded : ℚ) < (2 ^ 53 : Nat) := by
        have near := places.near
        have limit : overflow + (2 : ℚ) ^ (971 : Int) / 2 = 2 ^ 53 * 2 ^ (971 : Int) := by
          rw [overflow]
          ring
        have scaled : (rounded : ℚ) * 2 ^ (971 : Int) < 2 ^ 53 * 2 ^ (971 : Int) := by linarith
        exact_mod_cast lt_of_mul_lt_mul_right scaled pow.le
      have inside : rounded < 2 ^ 53 := by exact_mod_cast strict
      omega

/-- The double nearest to a fraction of one or more exceeds it by half a place of the last bit. -/
theorem absolute_nearest_le {num den : Nat} (negative : Bool) (positive : 0 < den)
    (least : 1 ≤ (num : ℚ) / den) (below : (num : ℚ) / den < overflow) :
    (ofMagnitude negative (nearestMagnitude num den)).absolute ≤ num / den * (1 + 1 / 2 ^ 53) := by
  have above : 0 < num := by
    rcases Nat.eq_zero_or_pos num with rfl | above
    · norm_num at least
    · exact above
  have finite := nearestMagnitude_lt positive below
  obtain ⟨scale, rounded, places, same⟩ := nearestMagnitude_eq above positive
  rw [same, min_lt_iff, or_iff_left (lt_irrefl _)] at finite
  rw [same, min_eq_left finite.le, absolute_ofMagnitude negative places finite]
  have reached : 2 ^ 52 * (2 : ℚ) ^ scale ≤ num / den := by
    rcases places.full with rfl | ⟨-, reached⟩
    · -- The smallest places are far below one.
      calc (2 : ℚ) ^ 52 * 2 ^ (-1074 : Int) = 2 ^ (-1022 : Int) := by
            rw [← zpow_natCast, ← zpow_add₀ two_ne_zero]
            rfl
        _ ≤ 1 := zpow_le_one_of_nonpos₀ one_le_two (by decide)
        _ ≤ num / den := least
    · exact reached
  have near := places.near
  linarith

end DocSource.Double
