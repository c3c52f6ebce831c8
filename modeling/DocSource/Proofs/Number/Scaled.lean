import DocSource.Number.Scaled
import DocSource.Proofs.Number.Rounding

/-!
Literals within the doubles: digits in front of a power of ten are scaled without reaching infinity
when the number they name leaves room for the three roundings on the way.
-/

namespace DocSource

/-- Digits name a number of at most as many places. -/
theorem digitsValue_lt {digits : List Char} (all : ∀ c ∈ digits, c.isDigit = true) :
    digitsValue digits < 10 ^ digits.length := by
  -- The first digit is nine at most, and the others make less than one of what it counts.
  induction digits with
  | nil => decide
  | cons c rest ih =>
    rw [List.forall_mem_cons] at all
    have digit : c.toNat - '0'.toNat ≤ 9 := by
      have bounds := all.1
      simp only [Char.isDigit, Bool.and_eq_true, decide_eq_true_eq] at bounds
      have high : c.toNat ≤ '9'.toNat := UInt32.le_iff_toNat_le.mp bounds.2
      have nine : '9'.toNat = 57 := rfl
      have zero : '0'.toNat = 48 := rfl
      omega
    have others : Nat.ofDigitChars 10 rest 0 < 10 ^ rest.length := ih all.2
    rw [digitsValue, Nat.ofDigitChars_cons, Nat.ofDigitChars_eq_ofDigitChars_zero, List.length_cons,
      pow_succ, mul_zero, zero_add]
    calc 10 ^ rest.length * (c.toNat - '0'.toNat) + Nat.ofDigitChars 10 rest 0
        ≤ 10 ^ rest.length * 9 + Nat.ofDigitChars 10 rest 0 := by gcongr
      _ < 10 ^ rest.length * 10 := by omega

namespace Double

/-- A magnitude below infinity is that of a finite double. -/
theorem isFinite_ofMagnitude (negative : Bool) {magnitude : Nat}
    (finite : magnitude < infiniteMagnitude) :
    (ofMagnitude negative magnitude).isFinite = true := by
  -- Such a magnitude stays below the sign bit, and is below that of infinity.
  have room : magnitude < 2 ^ 63 := by
    simp only [infiniteMagnitude, Nat.pow_eq] at finite
    omega
  rw [isFinite, magnitude_ofMagnitude negative room]
  exact decide_eq_true finite

/-- A fraction of one or more that is not too great is near to a finite double. -/
theorem finite_nearest {n : Nat} (negative : Bool) (positive : 0 < n) (below : (n : ℚ) < overflow) :
    nearestMagnitude n 1 < infiniteMagnitude ∧
      (ofMagnitude negative (nearestMagnitude n 1)).absolute ≤ n * (1 + 1 / 2 ^ 53) := by
  -- A whole number is a fraction over one, and rounds to a double half a place away at most.
  have whole : (n : ℚ) / (1 : Nat) = n := by rw [Nat.cast_one, div_one]
  have least : (1 : ℚ) ≤ n := by exact_mod_cast positive
  rw [← whole] at below least
  refine ⟨nearestMagnitude_lt one_pos below, ?_⟩
  simpa only [whole] using absolute_nearest_le negative one_pos least below

/-- The product of two doubles is finite when that of their absolute values is not too great. -/
theorem isFinite_product {x y : Double} (below : x.absolute * y.absolute < overflow) :
    (x.product y).isFinite = true := by
  apply isFinite_ofMagnitude
  -- The scale of the product goes to the numerator or to the denominator.
  have value : x.absolute * y.absolute =
      (x.significand * y.significand : Nat) * (2 : ℚ) ^ (x.scale + y.scale) := by
    rw [absolute, absolute, zpow_add₀ two_ne_zero]
    push_cast
    ring
  rw [value, zpow_eq_div] at below
  unfold scaledMagnitude
  simp only [Nat.pow_eq, one_mul]
  split
  · next up =>
    apply nearestMagnitude_lt one_pos
    have none : (-(x.scale + y.scale)).toNat = 0 := by omega
    rw [none, pow_zero, div_one] at below
    rw [Nat.cast_one, div_one]
    exact_mod_cast below
  · next down =>
    apply nearestMagnitude_lt (by positivity)
    have none : (x.scale + y.scale).toNat = 0 := by omega
    rw [none, pow_zero, mul_one_div] at below
    exact_mod_cast below

/-- The greatest double is beyond the powers of ten that are used. -/
theorem tenPower_lt_overflow : ((10 ^ greatestTenPower : Nat) : ℚ) < overflow := by
  -- The power of ten is below the greatest significand at the greatest scale.
  have powers : 10 ^ greatestTenPower < (2 ^ 53 - 1) * 2 ^ 971 := by decide +kernel
  calc ((10 ^ greatestTenPower : Nat) : ℚ) < ((2 ^ 53 - 1) * 2 ^ 971 : Nat) := by
        exact_mod_cast powers
    _ = ((2 ^ 53 - 1 : Nat) : ℚ) * 2 ^ (971 : Int) := by
      rw [Nat.cast_mul, Nat.cast_pow]
      rfl
    _ ≤ overflow := mul_le_mul_of_nonneg_right (by norm_num) (by positivity)

/-- No number that a finite double is near to has a greater power of ten. -/
theorem overflow_lt_tenPower : overflow < ((10 ^ (greatestTenPower + 1) : Nat) : ℚ) := by
  -- Half a place beyond the greatest double is still below the next power of ten.
  have powers : 2 ^ 53 * 2 ^ 971 < 10 ^ (greatestTenPower + 1) := by decide +kernel
  calc overflow ≤ 2 ^ 53 * (2 : ℚ) ^ (971 : Int) :=
        mul_le_mul_of_nonneg_right (by norm_num) (by positivity)
    _ = (2 ^ 53 * 2 ^ 971 : Nat) := by
      rw [Nat.cast_mul, Nat.cast_pow, Nat.cast_pow]
      rfl
    _ < (10 ^ (greatestTenPower + 1) : Nat) := by exact_mod_cast powers

/-- Whole numbers of at most so many places are near to finite doubles. -/
theorem isFinite_ofInt {n : Int} (small : n.natAbs < 10 ^ greatestTenPower) :
    (ofInt n).isFinite = true := by
  -- A whole number rounds to a finite magnitude when it is below what overflows.
  apply isFinite_ofMagnitude
  apply nearestMagnitude_lt one_pos
  rw [Nat.cast_one, div_one]
  exact lt_trans (by exact_mod_cast small) tenPower_lt_overflow

/-- A power of ten in range exceeds itself by half a place of the last bit. -/
theorem absolute_tenPower_le {power : Nat} (range : power ≤ greatestTenPower) :
    (tenPower power).absolute ≤ 10 ^ power * (1 + 1 / 2 ^ 53) := by
  -- Neither bound on the exponent is in the way, so the power is rounded as a whole number.
  have below : ((10 ^ power : Nat) : ℚ) < overflow := by
    refine lt_of_le_of_lt ?_ tenPower_lt_overflow
    exact_mod_cast Nat.pow_le_pow_right (by decide) range
  have same : tenPower power = ofMagnitude false (nearestMagnitude (10 ^ power) 1) := by
    have one : (natText 1).length = 1 := rfl
    simp only [greatestTenPower] at range
    have notSmall : ¬((power : Int) + 1 < -330) := by omega
    have notGreat : ¬(310 < (power : Int) + 1) := by omega
    simp [tenPower, ofDecimal, one, notSmall, notGreat]
  rw [same]
  have near := (finite_nearest false (pow_pos (by decide) power) below).2
  exact_mod_cast near

/-- Digits are scaled up as long as there is room for it. -/
theorem isSome_scaleUp? (negative : Bool) {value power : Nat}
    (below : (value : ℚ) * 10 ^ power ≤ roomy) :
    ((ofMagnitude negative (ofInt value).magnitude).scaleUp? power).isSome = true := by
  have positive : 0 < overflow := mul_pos (by norm_num) (by positivity)
  have inside : roomy < overflow := by
    rw [roomy, mul_lt_iff_lt_one_right positive]
    norm_num
  rcases Nat.eq_zero_or_pos value with rfl | some
  · cases negative <;> rfl
  · have least : (1 : ℚ) ≤ value := by exact_mod_cast some
    -- A greater power of ten would leave no room for even a single digit.
    have power_le : power ≤ greatestTenPower := by
      by_contra greater
      have step : ((10 ^ (greatestTenPower + 1) : Nat) : ℚ) ≤ 10 ^ power := by
        exact_mod_cast Nat.pow_le_pow_right (by decide) (by omega)
      have := overflow_lt_tenPower
      nlinarith
    have own : (value : ℚ) < overflow := by
      have : (1 : ℚ) ≤ 10 ^ power := one_le_pow₀ (by norm_num)
      nlinarith
    obtain ⟨finite, near⟩ := finite_nearest negative some own
    -- The digits themselves become a double first, whatever sign it is given.
    have kept : (ofInt value).magnitude = nearestMagnitude value 1 := by
      apply magnitude_ofMagnitude
      simp only [infiniteMagnitude, Nat.pow_eq] at finite
      simp only [Int.natAbs_natCast]
      omega
    rw [kept, scaleUp?, if_neg (Nat.not_lt.mpr power_le)]
    split
    · rfl
    · dsimp only
      rw [if_pos]
      · rfl
      -- The three roundings together take less than the room there is.
      apply isFinite_product
      calc _ ≤ (value : ℚ) * (1 + 1 / 2 ^ 53) * (10 ^ power * (1 + 1 / 2 ^ 53)) :=
            mul_le_mul near (absolute_tenPower_le power_le) (absolute_nonneg _) (by positivity)
        _ = value * 10 ^ power * (1 + 1 / 2 ^ 53) ^ 2 := by ring
        _ ≤ roomy * (1 + 1 / 2 ^ 53) ^ 2 := by gcongr
        _ < overflow := by
          rw [roomy, mul_assoc, mul_lt_iff_lt_one_right positive]
          norm_num

end Double

namespace Literal

/-- A digit more makes a number no smaller. -/
theorem le_ofDigitChars (digits : List Char) (value : Nat) :
    value ≤ Nat.ofDigitChars 10 digits value := by
  -- Each digit takes ten times the number, and a digit is not negative.
  rw [Nat.ofDigitChars_eq_ofDigitChars_zero]
  have := Nat.one_le_pow digits.length 10 (by decide)
  nlinarith

/-- A digit is taken as long as the number fits a word with it. -/
theorem takeLeading_cons (value : Nat) (digit : Char) (rest : List Char) :
    takeLeading value (digit :: rest) =
      if 10 * value + (digit.toNat - '0'.toNat) < 2 ^ 64 then
        takeLeading (10 * value + (digit.toNat - '0'.toNat)) rest
      else (value, digit :: rest) := by
  -- Room is looked for with the digit, and it is left out when there is none.
  simp [takeLeading, digitsValue, Nat.ofDigitChars_cons]

/-- Digits whose number fits a word are all taken. -/
theorem takeLeading_of_fits {digits : List Char} {value : Nat}
    (fits : Nat.ofDigitChars 10 digits value < 2 ^ 64) :
    takeLeading value digits = (Nat.ofDigitChars 10 digits value, []) := by
  induction digits generalizing value with
  | nil => rfl
  | cons digit rest ih =>
    -- The number up to here is at most the whole number, which fits.
    rw [Nat.ofDigitChars_cons] at fits ⊢
    have room := lt_of_le_of_lt (le_ofDigitChars rest _) fits
    rw [takeLeading_cons, if_pos room, ih fits]

/-- The digits left out stand at the end of all digits. -/
theorem length_takeLeading_le (digits : List Char) (value : Nat) :
    (takeLeading value digits).2.length ≤ digits.length := by
  -- Each digit is taken or left.
  induction digits generalizing value with
  | nil => rfl
  | cons digit rest ih =>
    rw [takeLeading]
    split
    · exact (ih _).trans (Nat.le_succ _)
    · rfl

/-- The first digit is taken as long as there is room for any digit. -/
theorem length_takeLeading_lt {digits : List Char} {value : Nat} (some : digits ≠ [])
    (all : ∀ c ∈ digits, c.isDigit = true) (room : 10 * value + 9 < 2 ^ 64) :
    (takeLeading value digits).2.length < digits.length := by
  -- One more digit keeps the number in the word, so the first one is not left.
  cases digits with
  | nil => exact absurd rfl some
  | cons digit rest =>
    -- A digit alone is at most nine.
    have one : digitsValue [digit] < 10 ^ 1 :=
      digitsValue_lt (by simpa using all digit List.mem_cons_self)
    rw [takeLeading, if_pos (by rw [Nat.pow_eq]; omega)]
    exact Nat.lt_succ_of_le (length_takeLeading_le rest _)

/-- The leading digits with zeros for those left out are at most the number of them all. -/
theorem takeLeading_le (digits : List Char) (value : Nat) :
    (takeLeading value digits).1 * 10 ^ (takeLeading value digits).2.length ≤
      Nat.ofDigitChars 10 digits value := by
  induction digits generalizing value with
  | nil => simp [takeLeading]
  | cons digit rest ih =>
    rw [takeLeading_cons]
    split
    · rw [Nat.ofDigitChars_cons]
      exact ih _
    · -- From here on, digits are counted as zeros.
      rw [Nat.ofDigitChars_eq_ofDigitChars_zero, mul_comm value]
      exact Nat.le_add_right _ _

/-- A literal of few whole digits is scaled by what its fraction's digits leave of its power. -/
theorem scaledDouble?_eq {literal : Literal} (few : digitsValue literal.whole < 2 ^ 64) :
    literal.scaledDouble? =
      let fraction := literal.fraction.getD []
      let leading := takeLeading (digitsValue literal.whole) fraction
      let exponent := literal.exponent.getD 0 - ((fraction.length : Int) - leading.2.length)
      let front := Double.ofMagnitude literal.negative (Double.ofInt leading.1).magnitude
      if exponent ≥ 0 then front.scaleUp? exponent.toNat
      else some (front.scaleDown (-exponent).toNat) := by
  -- The whole digits fit a word, so none of them is left out.
  have whole : takeLeading 0 literal.whole = (digitsValue literal.whole, []) :=
    takeLeading_of_fits few
  simp [scaledDouble?, whole]

/-- A literal with a point and no power of ten is scaled down, which always succeeds. -/
theorem isSome_scaledDouble?_of_point {negative : Bool} {whole fraction : List Char}
    (room : 10 * digitsValue whole + 9 < 2 ^ 64) (some : fraction ≠ [])
    (all : ∀ c ∈ fraction, c.isDigit = true) :
    (scaledDouble? ⟨negative, whole, fraction, none⟩).isSome = true := by
  -- At least one digit behind the point is taken, so the power of ten is below zero.
  have taken := length_takeLeading_lt some all room
  rw [scaledDouble?_eq (show digitsValue whole < 2 ^ 64 by omega)]
  simp only [Option.getD_some, Option.getD_none]
  rw [if_neg (by omega)]
  rfl

/-- A literal with a power of ten is within the doubles if its number leaves room. -/
theorem isSome_scaledDouble?_of_power {negative : Bool} {whole fraction : List Char}
    {point : Option (List Char)} {exponent : Int} (pointed : point.getD [] = fraction)
    (few : digitsValue whole < 2 ^ 64)
    (below : (digitsValue (whole ++ fraction) : ℚ) * 10 ^ (exponent - fraction.length) ≤
      Double.roomy) :
    (scaledDouble? ⟨negative, whole, point, some exponent⟩).isSome = true := by
  rw [scaledDouble?_eq few]
  simp only [Option.getD_some, pointed]
  have bound := takeLeading_le fraction (digitsValue whole)
  generalize takeLeading (digitsValue whole) fraction = leading at bound ⊢
  split
  · next up =>
    apply Double.isSome_scaleUp?
    -- What the digits left out add to the number is left out of the bound as well.
    have digits : leading.1 * 10 ^ leading.2.length ≤ digitsValue (whole ++ fraction) := by
      rw [digitsValue, Nat.ofDigitChars_append]
      exact bound
    refine le_trans ?_ below
    calc (leading.1 : ℚ) * 10 ^ (exponent - ((fraction.length : Int) - leading.2.length)).toNat
        = (leading.1 * 10 ^ leading.2.length : Nat) * 10 ^ (exponent - fraction.length) := by
          rw [← zpow_natCast, Int.toNat_of_nonneg up]
          push_cast
          rw [mul_assoc, ← zpow_natCast, ← zpow_add₀ (by norm_num)]
          congr 2
          omega
      _ ≤ _ := by gcongr
  · -- Scaling down reaches no infinity.
    rfl

end Literal

end DocSource
