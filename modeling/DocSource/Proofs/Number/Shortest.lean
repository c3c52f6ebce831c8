import DocSource.Number.Shortest
import DocSource.Proofs.Number.Rounding
import Mathlib.Data.List.TakeWhile

/-!
The shortest digits of a double: they begin with no zero, and the number they name at their place
is at most half a place above the double.
-/

namespace DocSource.Double

/-- The number half a place above the absolute value of a double. -/
def halfAbove (x : Double) : ℚ := (x.significand + 1 / 2) * (2 : ℚ) ^ x.scale

/-- The fraction of a double has the bits below the leading one. -/
theorem fraction_lt (x : Double) : x.fraction < 2 ^ 52 := by
  -- The fraction is a remainder by that power.
  rw [fraction, Nat.pow_eq]
  omega

/-- The significand of a double has one bit more than its fraction. -/
theorem significand_lt (x : Double) : x.significand < 2 ^ 53 := by
  -- The leading bit is added once, where there is one.
  have fraction := x.fraction_lt
  rw [significand, Nat.pow_eq]
  split <;> omega

/-- Half a place above all doubles but the two greatest there is room for the roundings. -/
theorem halfAbove_le_roomy {x : Double} (below : x.magnitude + 2 < infiniteMagnitude) :
    x.halfAbove ≤ roomy := by
  have last : (0 : ℚ) < 2 ^ (971 : Int) := by positivity
  have split : x.magnitude = x.exponentField * 2 ^ 52 + x.fraction := by
    simp only [exponentField, fraction, Nat.pow_eq]
    omega
  simp only [infiniteMagnitude, Nat.pow_eq, split] at below
  -- At the greatest places the significand is three less than a power of two.
  have bound : x.halfAbove ≤ (2 ^ 53 - 5 / 2) * 2 ^ (971 : Int) := by
    unfold halfAbove
    by_cases greatest : x.exponentField = 2046
    · have small : x.significand ≤ 2 ^ 53 - 3 := by
        rw [significand, if_neg (by omega), Nat.pow_eq]
        omega
      have cast : (x.significand : ℚ) ≤ 2 ^ 53 - 3 := by
        have whole : (x.significand : ℚ) ≤ (2 ^ 53 - 3 : Nat) := by exact_mod_cast small
        norm_num at whole ⊢
        exact whole
      have scaled : x.scale = 971 := by
        rw [scale, if_neg (by omega), greatest]
        rfl
      rw [scaled]
      exact mul_le_mul_of_nonneg_right (by linarith) last.le
    · -- Below the greatest places, even a full significand is half of what there is.
      have fraction := x.fraction_lt
      have cast : (x.significand : ℚ) + 1 / 2 ≤ 2 ^ 53 := by
        have whole : (x.significand : ℚ) + 1 ≤ (2 ^ 53 : Nat) := by
          exact_mod_cast Nat.succ_le_of_lt x.significand_lt
        push_cast at whole
        linarith
      have scaled : x.scale ≤ 970 := by
        rw [scale]
        split <;> omega
      calc ((x.significand : ℚ) + 1 / 2) * 2 ^ x.scale ≤ 2 ^ 53 * 2 ^ (970 : Int) := by
            have steps : (2 : ℚ) ^ x.scale ≤ 2 ^ (970 : Int) :=
              zpow_le_zpow_right₀ one_le_two scaled
            exact mul_le_mul cast steps (by positivity) (by positivity)
        _ = 2 ^ 52 * 2 ^ (971 : Int) := by
          rw [show (971 : Int) = 970 + 1 from rfl, zpow_add_one₀ two_ne_zero]
          ring
        _ ≤ (2 ^ 53 - 5 / 2) * 2 ^ (971 : Int) :=
          mul_le_mul_of_nonneg_right (by norm_num) last.le
  refine bound.trans ?_
  rw [roomy, overflow, mul_right_comm]
  exact mul_le_mul_of_nonneg_right (by norm_num) last.le

/-- What is found on a grid lies between the ends of the interval. -/
theorem Interval.onGrid_inside {tie : Tie} {i : Interval} {exponent found : Int} {n : Nat}
    (taken : i.onGrid tie exponent = some (n, found)) :
    found = exponent ∧
      i.low * 10 ^ (-exponent).toNat ≤ n * (i.denominator * 10 ^ exponent.toNat) ∧
      n * (i.denominator * 10 ^ exponent.toNat) ≤ i.high * 10 ^ (-exponent).toNat := by
  unfold onGrid at taken
  extract_lets up step below inside twice halfway nearer at taken
  -- The nearer of the two neighbours is one of them.
  have neighbour : nearer = below ∨ nearer = below + 1 := by
    simp only [nearer]
    split
    · exact .inl rfl
    · split
      · exact .inr rfl
      · cases tie
        · dsimp only
          split
          · exact .inl rfl
          · exact .inr rfl
        · exact .inr rfl
  -- All that is taken was found inside first.
  have chosen : found = exponent ∧ inside n = true := by
    split at taken
    · next both =>
      rw [Bool.and_eq_true] at both
      obtain ⟨rfl, rfl⟩ := Prod.mk.inj (Option.some.inj taken)
      rcases neighbour with same | same <;> rw [same]
      · exact ⟨rfl, both.1⟩
      · exact ⟨rfl, both.2⟩
    · split at taken
      · next first =>
        obtain ⟨rfl, rfl⟩ := Prod.mk.inj (Option.some.inj taken)
        exact ⟨rfl, first⟩
      · split at taken
        · next second =>
          obtain ⟨rfl, rfl⟩ := Prod.mk.inj (Option.some.inj taken)
          exact ⟨rfl, second⟩
        · cases taken
  obtain ⟨rfl, within⟩ := chosen
  refine ⟨rfl, ?_⟩
  -- Whether the ends belong to the interval or not, what is inside lies between them.
  simp only [inside, up, step, Nat.pow_eq] at within
  split at within <;> simp only [Bool.and_eq_true, decide_eq_true_eq] at within
  · exact within
  · exact ⟨within.1.le, within.2.le⟩

/-- The ends of an interval of some doubles over its denominator. -/
theorem interval_high (x : Double) :
    ((x.interval.high : Nat) : ℚ) / x.interval.denominator = x.halfAbove := by
  -- The interval is counted in quarters of a place.
  have quarters : (2 : ℚ) ^ x.scale = 2 ^ (x.scale - 2) * 4 := by
    rw [zpow_sub₀ two_ne_zero]
    norm_num
  simp only [interval, Nat.pow_eq, halfAbove]
  rw [quarters, zpow_eq_div]
  push_cast
  ring

/-- A double that is not zero has an interval above zero. -/
theorem interval_low_pos {x : Double} (positive : 0 < x.significand) : 0 < x.interval.low := by
  -- The significand is counted in quarters, and at most two of them are taken off.
  simp only [interval, Nat.pow_eq]
  have factor : 0 < 2 ^ (x.scale - 2).toNat := by positivity
  apply Nat.mul_pos _ factor
  split <;> omega

/-- What is found on a grid for a double is a number of its places, at most half a place above. -/
theorem grid_le {x : Double} {tie : Tie} {exponent found : Int} {n : Nat}
    (positive : 0 < x.significand)
    (taken : x.interval.onGrid tie exponent = some (n, found)) :
    0 < n ∧ (n : ℚ) * 10 ^ found ≤ x.halfAbove := by
  obtain ⟨rfl, low, high⟩ := Interval.onGrid_inside taken
  have solid : 0 < x.interval.denominator := by
    simp only [interval, Nat.pow_eq]
    positivity
  constructor
  · -- Zero is below the interval.
    rcases Nat.eq_zero_or_pos n with rfl | some
    · have lowest := Nat.mul_pos (interval_low_pos positive)
        (Nat.pow_pos (n := (-found).toNat) (show 0 < 10 by decide))
      omega
    · exact some
  · have room : (0 : ℚ) < x.interval.denominator := by exact_mod_cast solid
    rw [← interval_high, zpow_eq_div, ← mul_div_assoc, div_le_div_iff₀ (by positivity) room]
    calc (n : ℚ) * 10 ^ found.toNat * x.interval.denominator
        = (n * (x.interval.denominator * 10 ^ found.toNat) : Nat) := by
          push_cast
          ring
      _ ≤ (x.interval.high * 10 ^ (-found).toNat : Nat) := by exact_mod_cast high
      _ = x.interval.high * 10 ^ (-found).toNat := by push_cast; rfl

/-- Digits are those before the zeros at their end, and these zeros. -/
theorem digits_eq_take_append (digits : List Char) :
    digits = digits.take (digits.length - (digits.reverse.takeWhile (· == '0')).length) ++
      List.replicate (digits.reverse.takeWhile (· == '0')).length '0' := by
  -- Read backwards, the zeros are a front and the other digits are what is left.
  have zeros : (digits.reverse.takeWhile (· == '0')).reverse =
      List.replicate (digits.reverse.takeWhile (· == '0')).length '0' := by
    rw [List.eq_replicate_iff, List.length_reverse]
    refine ⟨rfl, fun c among => ?_⟩
    simpa using List.mem_takeWhile_imp (List.mem_reverse.mp among)
  have shape : (digits.reverse.dropWhile (· == '0')).reverse ++
      (digits.reverse.takeWhile (· == '0')).reverse = digits := by
    rw [← List.reverse_append, List.takeWhile_append_dropWhile, List.reverse_reverse]
  have count : (digits.reverse.dropWhile (· == '0')).reverse.length =
      digits.length - (digits.reverse.takeWhile (· == '0')).length := by
    have whole := congrArg List.length shape
    simp only [List.length_append, List.length_reverse] at whole ⊢
    omega
  have front : (digits.reverse.dropWhile (· == '0')).reverse <+: digits := ⟨_, shape⟩
  rw [← count, ← List.prefix_iff_eq_take.mp front, ← zeros, shape]

/-- Digits at a place: they begin with no zero, and name a number within a bound. -/
structure Laid (bound : ℚ) (digits : List Char) (place : Int) : Prop where
  all : ∀ c ∈ digits, c.isDigit = true
  leading : digits.head? ≠ some '0'
  /-- Only the place of the ones may have no digits. -/
  blank : digits = [] → place = 0
  within : (digitsValue digits : ℚ) * 10 ^ (place + 1 - digits.length) ≤ bound

/-- The digits of a number, without the zeros at their end, are laid out at its place. -/
theorem laid_of_coefficient {bound : ℚ} {coefficient : Nat} {exponent : Int}
    (some : 0 < coefficient) (within : (coefficient : ℚ) * 10 ^ exponent ≤ bound) :
    let digits := natText coefficient
    let zeros := (digits.reverse.takeWhile (· == '0')).length
    Laid bound (digits.take (digits.length - zeros)) (exponent + digits.length - 1) := by
  dsimp only
  have split := digits_eq_take_append (natText coefficient)
  have value : digitsValue (natText coefficient) = coefficient :=
    Nat.ofDigitChars_toDigits (by decide) (by decide)
  have digit : ∀ c ∈ natText coefficient, c.isDigit = true := fun c => isDigit_of_mem_natText
  have leading := head?_natText_ne_zero some
  generalize natText coefficient = digits at split value digit leading ⊢
  generalize (digits.reverse.takeWhile (· == '0')).length = zeros at split ⊢
  generalize digits.take (digits.length - zeros) = kept at split ⊢
  subst split
  -- Each zero left out is a power of ten more.
  have product : coefficient = digitsValue kept * 10 ^ zeros := by
    rw [← value, digitsValue, Nat.ofDigitChars_append, Nat.ofDigitChars_replicate_zero, mul_comm]
    rfl
  have solid : kept ≠ [] := by
    rintro rfl
    simp [digitsValue] at product
    omega
  refine ⟨fun c among => digit c (List.mem_append_left _ among), ?_,
    fun empty => absurd empty solid, ?_⟩
  · rwa [List.head?_append_of_ne_nil _ solid] at leading
  · -- The place of the first digit is the same with the zeros and without them.
    refine le_trans (le_of_eq ?_) within
    rw [product]
    push_cast
    rw [mul_assoc, ← zpow_natCast, ← zpow_add₀ (by norm_num)]
    congr 2
    simp only [List.length_append, List.length_replicate]
    omega

/-- Without digits, only the place of the ones is laid out. -/
theorem laid_nil {bound : ℚ} (nonneg : 0 ≤ bound) : Laid bound [] 0 :=
  -- There is no digit to be too great, and no place to be wrong.
  ⟨by simp, by simp, fun _ => rfl, by simpa [digitsValue] using nonneg⟩

/-- The shortest digits of a double are at most half a place above it. -/
theorem laid_shortest {x : Double} (positive : 0 < x.significand) (tie : Tie) :
    Laid x.halfAbove (x.shortest tie).1 (x.shortest tie).2 := by
  unfold shortest
  dsimp only
  -- The coefficient was found on a grid, or else it is a zero without digits.
  cases taken : (List.range 18).findSome? fun (n : Nat) =>
    x.interval.onGrid tie (x.interval.leading - n) with
  | none =>
    have nonneg : 0 ≤ x.halfAbove := by
      unfold halfAbove
      positivity
    exact laid_nil nonneg
  | some pair =>
    obtain ⟨n, -, here⟩ := List.exists_of_findSome?_eq_some taken
    obtain ⟨some, within⟩ := grid_le positive here
    exact laid_of_coefficient some within

end DocSource.Double
