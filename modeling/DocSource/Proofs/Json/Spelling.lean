import DocSource.Json.Reader
import DocSource.Proofs.Json.Parts
import Mathlib.Data.List.DropRight

/-! Texts that spell JSON values: what the reader takes for them, whatever follows. -/

namespace DocSource.Json

/-- A character that may stand right behind a value. -/
def closes (c : Char) : Bool := isSpace c || c == ',' || c == ']' || c == '}'

/-- Nothing that could belong to a value stands in front of a text. -/
def Ends (rest : List Char) : Prop := ∀ c ∈ rest.head?, closes c = true

/-- A character that is no blank stays in front. -/
theorem skipSpace_solid {c : Char} {text : List Char} (solid : isSpace c = false) :
    skipSpace (c :: text) = c :: text := by
  -- Passing over blanks stops at once.
  simp [skipSpace, solid]

/-- A text spells a value: the reader takes just this text for it, whatever ends it. -/
def Spells (text : List Char) (value : Written) : Prop :=
  -- Every character of a value costs at most two steps of the reader.
  ∀ fuel rest, 2 * text.length ≤ fuel → Ends rest →
    takeValue fuel (text ++ rest) = some (value, rest)

/-- The end of the text ends a value. -/
@[simp] theorem ends_nil : Ends [] := by simp [Ends]

/-- A text ends a value by its first character. -/
@[simp] theorem ends_cons {c : Char} {rest : List Char} :
    Ends (c :: rest) ↔ closes c = true := by
  simp [Ends]

/-- A unit below the surrogates joins as its character. -/
theorem joinPieces_unit {unit : Nat} (low : unit < 0xD800) (pieces : List Piece) :
    joinPieces (.unit unit :: pieces) = (joinPieces pieces).map (Char.ofNat unit :: ·) := by
  -- Only a high surrogate looks at the unit behind it.
  have notHigh : ¬(0xD800 ≤ unit ∧ unit ≤ 0xDBFF) := by omega
  have notLow : ¬(0xDC00 ≤ unit ∧ unit ≤ 0xDFFF) := by omega
  have notEither : ¬(0xD800 ≤ unit ∧ unit ≤ 0xDFFF) := by omega
  cases pieces with
  | nil => simp [joinPieces, notEither]
  | cons piece rest =>
    cases piece with
    | char c => simp [joinPieces, notEither]
    | unit next => simp [joinPieces, notHigh, notLow]

/-- The escape of a control character names it by its number. -/
theorem hexUnit?_control {n : Nat} (control : n < 0x20) :
    hexUnit? '0' '0' (Hex.digit (n / 16)) (Hex.digit (n % 16)) = some n := by
  -- The two leading zeros add nothing to the last two digits.
  have zero : Hex.digit? '0' = some 0 := by decide
  have whole : n / 16 * 16 + n % 16 = n := by omega
  simp [hexUnit?, zero, Hex.digit?_digit (show n / 16 < 16 by omega),
    Hex.digit?_digit (show n % 16 < 16 by omega), whole]

/-- A character in a string is read back from its escape, in front of the string's other parts. -/
theorem takePieces_escape (c : Char) {rest tail : List Char} {pieces : List Piece}
    {text : List Char} (taken : takePieces rest = some (pieces, tail))
    (joined : joinPieces pieces = some text) :
    ∃ piece, takePieces (escape c ++ rest) = some (piece :: pieces, tail) ∧
      joinPieces (piece :: pieces) = some (c :: text) := by
  -- The escape is a letter of its own, or a unit, or the character itself.
  have letter : ∀ mark, mark ≠ 'u' → escaped? mark = some c →
      ∃ piece, takePieces ('\\' :: mark :: rest) = some (piece :: pieces, tail) ∧
        joinPieces (piece :: pieces) = some (c :: text) := by
    intro mark notUnit names
    exact ⟨.char c, by rw [takePieces] <;> simp_all, by simp [joinPieces, joined]⟩
  unfold escape
  split
  case isTrue same => exact letter '"' (by decide) (by rw [same]; rfl)
  split
  case isTrue same => exact letter '\\' (by decide) (by rw [same]; rfl)
  split
  case isTrue same => exact letter 'b' (by decide) (by rw [same]; rfl)
  split
  case isTrue same => exact letter 'f' (by decide) (by rw [same]; rfl)
  split
  case isTrue same => exact letter 'n' (by decide) (by rw [same]; rfl)
  split
  case isTrue same => exact letter 'r' (by decide) (by rw [same]; rfl)
  split
  case isTrue same => exact letter 't' (by decide) (by rw [same]; rfl)
  split
  case isTrue control =>
    refine ⟨.unit c.toNat, ?_, ?_⟩
    · simp [takePieces, hexUnit?_control control, taken]
    · rw [joinPieces_unit (by omega), joined, Char.ofNat_toNat, Option.map_some]
  case isFalse notQuote notSlash _ _ _ _ _ notControl =>
    exact ⟨.char c, by simp [takePieces, notSlash, notControl, taken], by simp [joinPieces, joined]⟩

/-- A string is read back from its escapes, up to the quote that closes it. -/
theorem takeString_escaped (text : String) (rest : List Char) :
    takeString (text.toList.flatMap escape ++ '"' :: rest) = some (some text, rest) := by
  -- The escapes are taken one by one, from the last character to the first.
  have general : ∀ chars : List Char, ∃ pieces,
      takePieces (chars.flatMap escape ++ '"' :: rest) = some (pieces, rest) ∧
        joinPieces pieces = some chars := by
    intro chars
    induction chars with
    | nil => exact ⟨[], by simp [takePieces], by simp [joinPieces]⟩
    | cons c chars ih =>
      obtain ⟨pieces, taken, joined⟩ := ih
      obtain ⟨piece, takenAll, joinedAll⟩ := takePieces_escape c taken joined
      exact ⟨piece :: pieces, by simpa using takenAll, joinedAll⟩
  obtain ⟨pieces, taken, joined⟩ := general text.toList
  simp [takeString, taken, joined]

/-- A text that starts like a number is read as one. -/
theorem takeValue_number {fuel : Nat} {c : Char} {text : List Char}
    (starts : c.isDigit = true ∨ c = '-') :
    takeValue (fuel + 1) (c :: text) =
      (takeLiteral (c :: text)).map fun (literal, rest) =>
        (.number (number? literal), rest) := by
  -- A digit or a sign is no blank, and opens no other kind of value.
  have solid : isSpace c = false := by
    rcases starts with digit | rfl
    · simp only [isSpace, Bool.or_eq_false_iff, beq_eq_false_iff_ne]
      refine ⟨⟨⟨?_, ?_⟩, ?_⟩, ?_⟩ <;> rintro rfl <;> exact absurd digit (by decide)
    · decide
  have kept : skipSpace (c :: text) = c :: text := by simp [skipSpace, solid]
  have distinct : ∀ mark ∈ ['n', 't', 'f', '"', '[', '\x7b'], c ≠ mark := by
    rintro mark among rfl
    rcases starts with digit | same
    · simp only [List.mem_cons, List.not_mem_nil, or_false] at among
      rcases among with rfl | rfl | rfl | rfl | rfl | rfl <;> exact absurd digit (by decide)
    · subst same
      exact absurd among (by decide)
  simp only [List.forall_mem_cons] at distinct
  rw [takeValue, kept]
  split
  all_goals simp_all
  cases takeLiteral (c :: text) <;> rfl

/-- A character that closes a value goes on with no number. -/
theorem closes_apart {c : Char} (closing : closes c = true) :
    c.isDigit = false ∧ c ≠ '.' ∧ c ≠ 'e' ∧ c ≠ 'E' := by
  -- There are seven such characters.
  simp only [closes, isSpace, Bool.or_eq_true, beq_iff_eq] at closing
  rcases closing with (((((rfl | rfl) | rfl) | rfl) | rfl) | rfl) | rfl <;> decide

/-- Digits are taken up to a character that is none. -/
theorem takeDigits_stop {digits rest : List Char} (all : ∀ c ∈ digits, c.isDigit = true)
    (stops : ∀ c ∈ rest.head?, c.isDigit = false) :
    Literal.takeDigits (digits ++ rest) = (digits, rest) := by
  -- What is taken goes through the digits, and the character behind them is none.
  simp only [Literal.takeDigits, List.takeWhile_append_of_pos all,
    List.dropWhile_append_of_pos all]
  cases rest with
  | nil => simp
  | cons c rest => simp [stops c rfl]

/-- The digits of a number are taken up to a character that closes it. -/
theorem takeDigits_append {digits rest : List Char} (all : ∀ c ∈ digits, c.isDigit = true)
    (ends : Ends rest) : Literal.takeDigits (digits ++ rest) = (digits, rest) :=
  -- A number is closed by a comma, a bracket, a brace or a blank, and no digit is among them.
  takeDigits_stop all fun c first => (closes_apart (ends c first)).1

/-- No power of ten stands behind a number that is closed. -/
theorem takeExponent_ends {rest : List Char} (ends : Ends rest) :
    Literal.takeExponent rest = some (none, rest) := by
  -- A power of ten would start with a letter.
  cases rest with
  | nil => rfl
  | cons c rest =>
    obtain ⟨_, _, lower, upper⟩ := closes_apart (ends_cons.mp ends)
    simp [Literal.takeExponent, lower, upper]

/-- No fraction stands behind a number that is closed. -/
theorem takeFraction_ends {rest : List Char} (ends : Ends rest) :
    takeFraction rest = some (none, rest) := by
  -- A fraction would start with a point.
  cases rest with
  | nil => rfl
  | cons c rest =>
    obtain ⟨_, point, _⟩ := closes_apart (ends_cons.mp ends)
    simp [takeFraction, point]

/-- The sign of an integer comes off its text. -/
theorem takeMinus_intText (n : Int) (rest : List Char) :
    takeMinus (intText n ++ rest) = (decide (n < 0), natText n.natAbs ++ rest) := by
  -- A number without a sign starts with a digit, which is no sign.
  by_cases below : n < 0
  · simp [intText, takeMinus, below]
  · cases shape : natText n.natAbs with
    | nil => exact absurd shape Nat.toDigits_ne_nil
    | cons c more =>
      have digit : c.isDigit = true := isDigit_of_mem_natText (n := n.natAbs) (by simp [shape])
      have notMinus : c ≠ '-' := by rintro rfl; exact absurd digit (by decide)
      simp [intText, takeMinus, below, shape, notMinus]

/-- The text of an integer is taken as a literal of a sign and a whole part. -/
theorem takeLiteral_intText (n : Int) {rest : List Char} (ends : Ends rest) :
    takeLiteral (intText n ++ rest) =
      some (⟨decide (n < 0), natText n.natAbs, none, none⟩, rest) := by
  -- The digits have no zero in front of others, and no point or power of ten follows them.
  have digits := takeDigits_append (fun c => isDigit_of_mem_natText (n := n.natAbs)) ends
  have solid : natText n.natAbs ≠ [] := Nat.toDigits_ne_nil
  have leading := natText_eq_of_head?_zero (n := n.natAbs)
  simp only [takeLiteral, takeMinus_intText, digits]
  simpa [solid, takeFraction_ends ends, takeExponent_ends ends] using leading

/-- A literal of a whole number that fits a word names that number. -/
theorem number?_int {n : Int} (fits : fitsInt64 n = true) :
    number? ⟨decide (n < 0), natText n.natAbs, none, none⟩ = some (.int n) := by
  -- The value is the number again, and no negative number is zero.
  have digits : digitsValue (natText n.natAbs) = n.natAbs :=
    Nat.ofDigitChars_toDigits (by decide) (by decide)
  have value : (if n < 0 then -((n.natAbs : Nat) : Int) else (n.natAbs : Int)) = n := by
    split <;> omega
  simp only [fitsInt64, Bool.and_eq_true, decide_eq_true_eq] at fits
  simp only [number?, digits, decide_eq_true_eq, value]
  have signless : ¬(n < 0 ∧ n.natAbs = 0) := by omega
  have bounds : -9223372036854775808 ≤ n ∧ n ≤ 18446744073709551615 := by omega
  simpa [bounds] using signless

/-- The text of an integer starts with a digit or a minus sign. -/
theorem intText_starts (n : Int) :
    ∃ c more, intText n = c :: more ∧ (c.isDigit = true ∨ c = '-') := by
  -- Behind the sign, or without one, stands at least one digit.
  by_cases below : n < 0
  · exact ⟨'-', natText n.natAbs, by simp [intText, below], .inr rfl⟩
  · cases shape : natText n.natAbs with
    | nil => exact absurd shape Nat.toDigits_ne_nil
    | cons c more =>
      have digit : c.isDigit = true := isDigit_of_mem_natText (n := n.natAbs) (by simp [shape])
      exact ⟨c, more, by simp [intText, below, shape], .inl digit⟩

/-- A whole number that fits a word is spelled by its text. -/
theorem spells_int {n : Int} (fits : fitsInt64 n = true) :
    Spells (intText n) (.number (some (.int n))) := by
  intro fuel rest enough ends
  -- The text starts with a sign or a digit, so the reader takes a literal.
  have literal := takeLiteral_intText n ends
  obtain ⟨c, more, shape, starts⟩ := intText_starts n
  cases fuel with
  | zero => simp [shape] at enough
  | succ fuel =>
    rw [shape, List.cons_append] at literal ⊢
    simp only [takeValue_number starts, literal, Option.map_some, number?_int fits]

/-- A string is spelled between quotes. -/
theorem spells_quoted (text : String) : Spells (quoted text) (.string (some text)) := by
  intro fuel rest enough ends
  -- Behind the opening quote stand the escapes and the closing quote.
  cases fuel with
  | zero => simp [quoted] at enough
  | succ fuel =>
    have front : skipSpace (quoted text ++ rest) = quoted text ++ rest := by
      simp [skipSpace, quoted, isSpace]
    have shape : quoted text ++ rest = '"' :: (text.toList.flatMap escape ++ '"' :: rest) := by
      simp [quoted]
    rw [takeValue, front, shape]
    simp [takeString_escaped]

/-- The word for nothing spells it. -/
theorem spells_null : Spells null.compact .null := by
  -- The word is taken letter by letter.
  intro fuel rest enough ends
  cases fuel with
  | zero => simp [compact] at enough
  | succ fuel => simp [compact, takeValue, skipSpace, isSpace]

/-- The words for truth values spell them. -/
theorem spells_bool (value : Bool) : Spells (bool value).compact (.bool value) := by
  -- The word is taken letter by letter.
  intro fuel rest enough ends
  cases fuel with
  | zero => cases value <;> simp [compact] at enough
  | succ fuel => cases value <;> simp [compact, takeValue, skipSpace, isSpace]

/-- Blanks in front of a value change nothing. -/
theorem Spells.blank {text : List Char} {value : Written} {c : Char} (blank : isSpace c = true)
    (spelled : Spells text value) : Spells (c :: text) value := by
  intro fuel rest enough ends
  -- The reader passes over the blank, and has the fuel that the rest needs.
  have inner := spelled fuel rest (by simp only [List.length_cons] at enough; omega) ends
  cases fuel with
  | zero => simp at enough
  | succ fuel =>
    have skipped : skipSpace (c :: text ++ rest) = skipSpace (text ++ rest) := by
      simp [skipSpace, blank]
    rw [takeValue] at inner ⊢
    rw [skipped]
    exact inner

/-- Blanks are passed over once and for all. -/
theorem skipSpace_skipSpace (text : List Char) : skipSpace (skipSpace text) = skipSpace text :=
  List.dropWhile_idempotent _ _

/-- Blanks in front of a value make no difference. -/
theorem takeValue_skipSpace (fuel : Nat) (text : List Char) :
    takeValue fuel (skipSpace text) = takeValue fuel text := by
  -- Each value begins by passing over blanks, which is done when it was done before.
  cases fuel with
  | zero => rfl
  | succ fuel => rw [takeValue, takeValue, skipSpace_skipSpace]

/-- A spelling is the whole text of its value. -/
theorem Spells.written?_eq {text : List Char} {value : Written} (spelled : Spells text value) :
    written? text = some value := by
  -- Nothing follows the text, and the reader has more fuel than it needs.
  have taken := spelled (2 * text.length + 2) [] (by omega) ends_nil
  rw [List.append_nil] at taken
  simp [written?, taken, skipSpace]

/-- A text reads as a value wherever one may stand: only blanks are left of it. -/
def Reads (text : List Char) (value : Written) : Prop :=
  -- What the reader leaves is what follows, but for blanks at the end of the text.
  ∀ fuel rest, 2 * text.length + 2 ≤ fuel → Ends rest →
    ∃ left, takeValue fuel (text ++ rest) = some (value, left) ∧ skipSpace left = skipSpace rest

/-- A spelling reads as its value, and nothing at all is left of it. -/
theorem Spells.reads {text : List Char} {value : Written} (spelled : Spells text value) :
    Reads text value := by
  -- What is left is what follows, to the last character.
  intro fuel rest enough ends
  exact ⟨rest, spelled fuel rest (by omega) ends, rfl⟩

/-- A text names a key wherever one may stand: a string, with blanks around it at most. -/
def Names (text : List Char) (key : String) : Prop :=
  ∀ rest, ∃ behind left, skipSpace (text ++ rest) = '"' :: behind ∧
    takeString behind = some (some key, left) ∧ skipSpace left = skipSpace rest

/-- A string between quotes names itself. -/
theorem names_quoted (key : String) : Names (quoted key) key := by
  -- The quote is no blank, and the escaped characters lead to the closing one.
  intro rest
  refine ⟨key.toList.flatMap escape ++ '"' :: rest, rest, ?_, takeString_escaped key rest, rfl⟩
  have shape : quoted key ++ rest = '"' :: (key.toList.flatMap escape ++ '"' :: rest) := by
    simp [quoted]
  rw [shape]
  exact skipSpace_solid rfl

end DocSource.Json
