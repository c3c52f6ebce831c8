/-! Decimal digits: whole numbers as text, and texts read as whole numbers within limits. -/

namespace DocSource

/-- The decimal digits of a natural number, without leading zeros. -/
def natText (n : Nat) : List Char := Nat.toDigits 10 n

/-- The decimal digits of an integer, behind a minus sign when it is negative. -/
def intText (n : Int) : List Char :=
  if n < 0 then '-' :: natText n.natAbs else natText n.natAbs

/-- The number that a run of decimal digits writes, read from the left. -/
def digitsValue (digits : List Char) : Nat := Nat.ofDigitChars 10 digits 0

/-- The number written by a text of one or more decimal digits. -/
def readNat? (text : List Char) : Option Nat :=
  if text ≠ [] && text.all Char.isDigit then some (digitsValue text) else none

/-- The number written by digits behind at most one sign. -/
def readInt? : List Char → Option Int
  | '-' :: digits => (readNat? digits).map fun (n : Nat) => -(n : Int)
  | '+' :: digits => (readNat? digits).map fun (n : Nat) => (n : Int)
  | digits => (readNat? digits).map fun (n : Nat) => (n : Int)

/-- The integers of 32-bit words. -/
def fitsInt32 (n : Int) : Bool := -2147483648 ≤ n && n ≤ 2147483647

/-- The integers of 64-bit words. -/
def fitsInt64 (n : Int) : Bool := -9223372036854775808 ≤ n && n ≤ 9223372036854775807

/-- The 32-bit word of an integer that fits one. -/
def int32? (n : Int) : Option Int32 := if fitsInt32 n then some (Int32.ofInt n) else none

/-- The 64-bit word of an integer that fits one. -/
def int64? (n : Int) : Option Int64 := if fitsInt64 n then some (Int64.ofInt n) else none

/-- The 32-bit word that a text writes. -/
def readInt32? (text : List Char) : Option Int32 := (readInt? text).bind int32?

/-- The 64-bit word that a text writes. -/
def readInt64? (text : List Char) : Option Int64 := (readInt? text).bind int64?

/-- Every character of a number's text is a digit. -/
theorem isDigit_of_mem_natText {n : Nat} {c : Char} (member : c ∈ natText n) :
    c.isDigit = true :=
  -- Base ten has no digits but these.
  Nat.isDigit_of_mem_toDigits (by decide) (by decide) member

/-- The text of a number reads back as the number. -/
theorem readNat?_natText (n : Nat) : readNat? (natText n) = some n := by
  -- The text is a non-empty run of digits whose value is the number.
  have digits : (natText n).all Char.isDigit = true := by
    simp only [List.all_eq_true]
    exact fun c member => isDigit_of_mem_natText member
  have solid : natText n ≠ [] := Nat.toDigits_ne_nil
  have value : digitsValue (natText n) = n := Nat.ofDigitChars_toDigits (by decide) (by decide)
  simp [readNat?, digits, solid, value]

/-- The text of a number that is not zero starts with no zero. -/
theorem head?_natText_ne_zero {n : Nat} (positive : 0 < n) :
    (natText n).head? ≠ some '0' := by
  -- The first digit of a longer text is that of the number without its last digit.
  unfold natText
  induction n using Nat.strongRecOn with
  | ind n ih =>
    by_cases short : n < 10
    · rw [Nat.toDigits_of_lt_base short]
      have each : ∀ m : Fin 10, 0 < m.val → [m.val.digitChar].head? ≠ some '0' := by decide
      exact each ⟨n, short⟩ positive
    · have solid : Nat.toDigits 10 (n / 10) ≠ [] := Nat.toDigits_ne_nil
      rw [Nat.toDigits_of_base_le (by decide) (by omega), List.head?_append]
      rw [List.head?_eq_some_head solid, Option.some_or, ← List.head?_eq_some_head solid]
      exact ih (n / 10) (by omega) (by omega)

/-- The text of a number that starts with a zero is that zero alone. -/
theorem natText_eq_of_head?_zero {n : Nat} (zero : (natText n).head? = some '0') :
    natText n = ['0'] := by
  -- Only zero itself is written with a zero in front.
  rcases Nat.eq_zero_or_pos n with rfl | positive
  · rfl
  · exact absurd zero (head?_natText_ne_zero positive)

/-- The text of an integer reads back as the integer. -/
theorem readInt?_intText (n : Int) : readInt? (intText n) = some n := by
  -- A text of digits starts with no sign, so the sign alone tells the two cases apart.
  unfold intText
  split
  · rename_i negative
    have value : -((n.natAbs : Nat) : Int) = n := by omega
    simp only [readInt?, readNat?_natText, Option.map_some, value]
  · have solid : natText n.natAbs ≠ [] := Nat.toDigits_ne_nil
    cases shape : natText n.natAbs with
    | nil => exact absurd shape solid
    | cons c rest =>
      have digit : c.isDigit = true := isDigit_of_mem_natText (n := n.natAbs) (by simp [shape])
      have minus : c ≠ '-' := by rintro rfl; exact absurd digit (by decide)
      have plus : c ≠ '+' := by rintro rfl; exact absurd digit (by decide)
      have unsigned :
          readInt? (c :: rest) = (readNat? (c :: rest)).map fun (n : Nat) => (n : Int) := by
        unfold readInt?
        split <;> simp_all
      have value : ((n.natAbs : Nat) : Int) = n := by omega
      rw [unsigned, ← shape, readNat?_natText, Option.map_some, value]

/-- The text of a 32-bit word reads back as the word. -/
theorem readInt32?_intText (n : Int32) : readInt32? (intText n.toInt) = some n := by
  -- The word's integer lies within the limits.
  have low := n.minValue_le_toInt
  have high := n.toInt_lt
  simp only [Int32.toInt_minValue] at low
  simp only [readInt32?, readInt?_intText, Option.bind_some, int32?, fitsInt32, Int32.ofInt_toInt]
  simp
  omega

/-- The integer of a 64-bit word fits one. -/
theorem fitsInt64_toInt (n : Int64) : fitsInt64 n.toInt = true := by
  -- Both bounds of the type are those of the word, the upper one exclusive.
  have low := n.minValue_le_toInt
  have high := n.toInt_lt
  simp only [Int64.toInt_minValue] at low
  simp only [fitsInt64, Bool.and_eq_true, decide_eq_true_eq]
  omega

/-- The text of a 64-bit word reads back as the word. -/
theorem readInt64?_intText (n : Int64) : readInt64? (intText n.toInt) = some n := by
  -- The integer reads back, and a word that became an integer fits its width again.
  simp [readInt64?, readInt?_intText, int64?, fitsInt64_toInt]

end DocSource
