import DocSource.Proofs.Json.Doubles

/-!
Compact JSON stays on one line: whatever strings a value holds, no character of its text is a
control character. Main statement: `jsonLine_compactText`.
-/

namespace DocSource

namespace Text

/-- A text has no control characters below the blank, and so no end of a line. -/
def Unbroken (text : List Char) : Prop := ∀ c ∈ text, 0x20 ≤ c.toNat

/-- Nothing is unbroken. -/
@[simp] theorem unbroken_nil : Unbroken [] := by simp [Unbroken]

/-- A character and a text behind it are judged apart. -/
@[simp] theorem unbroken_cons {c : Char} {text : List Char} :
    Unbroken (c :: text) ↔ 0x20 ≤ c.toNat ∧ Unbroken text :=
  List.forall_mem_cons

/-- Two texts, one behind the other, are judged apart. -/
@[simp] theorem unbroken_append {first second : List Char} :
    Unbroken (first ++ second) ↔ Unbroken first ∧ Unbroken second :=
  List.forall_mem_append

/-- Digits are unbroken. -/
theorem unbroken_of_digits {digits : List Char} (all : ∀ c ∈ digits, c.isDigit = true) :
    Unbroken digits := by
  -- The digits stand above all control characters.
  intro c among
  have bounds : 48 ≤ c.toNat ∧ c.toNat ≤ 57 := Char.isDigit_iff_toNat.mp (all c among)
  omega

/-- Unbroken texts are joined without a break when nothing breaks between them. -/
theorem unbroken_joined {separator : List Char} (between : Unbroken separator)
    {texts : List (List Char)} (each : ∀ text ∈ texts, Unbroken text) :
    Unbroken (joined separator texts) := by
  -- The induction follows the joining, which treats the last text apart.
  induction texts with
  | nil => exact unbroken_nil
  | cons text rest ih =>
    rw [List.forall_mem_cons] at each
    cases rest with
    | nil => exact each.1
    | cons next more =>
      simp only [joined, unbroken_append]
      exact ⟨⟨each.1, between⟩, ih each.2⟩

end Text

open Text (Unbroken unbroken_of_digits)

/-- The digits of a natural number are unbroken. -/
theorem unbroken_natText (n : Nat) : Unbroken (natText n) :=
  -- A digit is no control character.
  unbroken_of_digits fun _ => isDigit_of_mem_natText

/-- The text of a whole number is unbroken. -/
theorem unbroken_intText (n : Int) : Unbroken (intText n) := by
  -- There are digits, behind a minus sign or by themselves.
  unfold intText
  split <;> simp [unbroken_natText]

namespace Double

/-- Digits written out by place are unbroken. -/
theorem unbroken_positional {digits : List Char} (unbroken : Unbroken digits) (place : Int) :
    Unbroken (positional digits place) := by
  -- What is added are zeros and the point, and a cut takes nothing in.
  have zeros (count : Nat) : Unbroken (List.replicate count '0') :=
    unbroken_of_digits fun _ => Json.isDigit_of_mem_zeros
  have cut (count : Nat) : Unbroken (digits.take count) ∧ Unbroken (digits.drop count) :=
    ⟨fun c among => unbroken c (List.mem_of_mem_take among),
      fun c among => unbroken c (List.mem_of_mem_drop among)⟩
  unfold positional
  split
  · simp [zeros, unbroken]
  · dsimp only
    split <;> simp [zeros, unbroken, cut]

/-- Digits with a power of ten are unbroken. -/
theorem unbroken_scientific {digits : List Char} (unbroken : Unbroken digits) (place : Int) :
    Unbroken (scientific digits place) := by
  -- The mantissa is the digits, with a point behind the first; the power is a sign and digits.
  have power : Unbroken ('e' :: (if place < 0 then '-' else '+') :: natText place.natAbs) := by
    split <;> simp [unbroken_natText]
  unfold scientific
  split
  · next first second more =>
    rw [Text.unbroken_cons] at unbroken
    exact Text.unbroken_append.mpr ⟨by simp [unbroken.1, unbroken.2], power⟩
  · exact Text.unbroken_append.mpr ⟨unbroken, power⟩

/-- The text of a double is unbroken in every layout. -/
theorem unbroken_text (layout : Layout) (x : Double) : Unbroken (x.text layout) := by
  -- Behind the sign stand a zero, or the shortest digits in one of two layouts.
  have sign : Unbroken (if x.negative then ['-'] else []) := by split <;> simp
  by_cases zero : x.isZero = true
  · simp [text, zero, sign]
  · have positive := significand_pos (eq_false_of_ne_true zero)
    have digits := unbroken_of_digits (laid_shortest positive layout.tie).all
    simp only [text, zero, Bool.false_eq_true, if_false, Text.unbroken_append]
    refine ⟨sign, ?_⟩
    split
    · exact unbroken_positional digits _
    · exact unbroken_scientific digits _

end Double

/-- The text of a number is unbroken. -/
theorem Number.unbroken_text (number : Number) : Unbroken number.text := by
  cases number with
  | int n => exact unbroken_intText n
  | double x =>
    -- A double that stands for no number is written as a word.
    rw [text]
    split
    · exact x.unbroken_text .data
    · simp

namespace Json

/-- Every character is escaped into characters that break no line. -/
theorem unbroken_escape (c : Char) : Unbroken (escape c) := by
  -- Control characters are written by letters and digits, and all others are none.
  have digit : ∀ n < 16, 0x20 ≤ (Hex.digit n).toNat := by decide
  unfold escape
  repeat' split
  all_goals simp
  · -- What is left of an escape by number are its two digits.
    exact ⟨digit _ (by omega), digit _ (by omega)⟩
  · omega

/-- A string between quotes is unbroken, whatever stands in it. -/
theorem unbroken_quoted (text : String) : Unbroken (quoted text) := by
  -- Every character between the quotes comes from an escape.
  have escapes : Unbroken (text.toList.flatMap escape) := by
    intro c among
    obtain ⟨source, _, written⟩ := List.mem_flatMap.mp among
    exact unbroken_escape source c written
  simp [quoted, escapes]

/-- The compact text of a value is unbroken. -/
theorem unbroken_compact (json : Json) : Unbroken json.compact := by
  -- Brackets, commas and colons break no line, nor does what stands between them.
  induction json with
  | null => simp [compact]
  | bool value => cases value <;> simp [compact]
  | number value => exact value.unbroken_text
  | string text => exact unbroken_quoted text
  | array items ih =>
    have inner : Unbroken (Text.joined [','] (items.map compact)) :=
      Text.unbroken_joined (by simp) (List.forall_mem_map.mpr ih)
    simp [compact, compactItems_eq_map, inner]
  | object members ih =>
    have inner : Unbroken (Text.joined [','] (members.map fun member =>
        quoted member.1 ++ ':' :: member.2.compact)) := by
      refine Text.unbroken_joined (by simp) (List.forall_mem_map.mpr fun member among => ?_)
      simp [unbroken_quoted, ih member.1 member.2 among]
    simp [compact, compactMembers_eq_map, inner]

/-- A text that spells a value is not empty. -/
theorem Spells.ne_nil {text : List Char} {value : Written} (spelled : Spells text value) :
    text ≠ [] := by
  -- Without fuel the reader takes nothing, and an empty text would need none.
  rintro rfl
  have taken := spelled 0 [] (by simp) ends_nil
  simp [takeValue] at taken

end Json

/-- A text is one line of JSON: what spells a value, without control characters, and a line end. -/
def JsonLine (output : String) : Prop :=
  ∃ (body : List Char) (value : Written), output = String.ofList (body ++ ['\n']) ∧ body ≠ [] ∧
    Unbroken body ∧ Json.Spells body value

/-- The compact text of a value with sound numbers, ended as a line, is one line of JSON. -/
theorem jsonLine_compactText {json : Json} (sound : json.NumbersSound) :
    JsonLine (json.compactText ++ "\n") := by
  -- The text that is written is the one that reads as the value.
  have spelled := Json.spells_compactWritten sound
  refine ⟨json.compact, json.compactWritten, ?_, spelled.ne_nil, json.unbroken_compact, spelled⟩
  rw [Json.compactText, String.ofList_append]

end DocSource
