/-! Blank characters, and texts without the blanks at their ends. -/

namespace DocSource.Text

/-- A character of the Unicode property White_Space. -/
def isBlank (c : Char) : Bool :=
  -- Ten ranges; the zero-width space and the byte order mark are outside.
  (0x9 ≤ c.toNat && c.toNat ≤ 0xD) || c.toNat == 0x20 || c.toNat == 0x85 || c.toNat == 0xA0 ||
    c.toNat == 0x1680 || (0x2000 ≤ c.toNat && c.toNat ≤ 0x200A) || c.toNat == 0x2028 ||
    c.toNat == 0x2029 || c.toNat == 0x202F || c.toNat == 0x205F || c.toNat == 0x3000

/-- A text without the blanks at its two ends. -/
def trim (text : List Char) : List Char :=
  ((text.dropWhile isBlank).reverse.dropWhile isBlank).reverse

/-- A string without the blanks at its two ends. -/
def trimmed (text : String) : String := String.ofList (trim text.toList)

/-- A string that holds nothing but blanks. -/
def blank (text : String) : Bool := text.toList.all isBlank

/-- Dropping the blanks in front leaves nothing exactly when every character is blank. -/
theorem dropWhile_isBlank_eq_nil_iff {text : List Char} :
    text.dropWhile isBlank = [] ↔ ∀ c ∈ text, isBlank c = true := by
  -- The first character that is not blank stays.
  induction text with
  | nil => simp
  | cons c rest ih => by_cases solid : isBlank c <;> simp [solid, ih]

/-- Trimming leaves nothing exactly when every character is blank. -/
theorem trim_eq_nil_iff {text : List Char} : trim text = [] ↔ ∀ c ∈ text, isBlank c = true := by
  -- What the first pass leaves starts with a character that is not blank.
  rw [← dropWhile_isBlank_eq_nil_iff, trim, List.reverse_eq_nil_iff, dropWhile_isBlank_eq_nil_iff]
  constructor
  · intro all
    cases left : text.dropWhile isBlank with
    | nil => rfl
    | cons c rest =>
      have solid : isBlank c = false := by
        have := List.head?_dropWhile_not isBlank text
        simpa [left] using this
      have blank := all c (by simp [left])
      simp [solid] at blank
  · intro empty
    simp [empty]

end DocSource.Text
