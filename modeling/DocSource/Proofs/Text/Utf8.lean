import DocSource.Text.Occurrence
import Mathlib.Data.List.Basic

/-!
Texts as their UTF-8 bytes: bytes are in the order of the characters, and the lines of the bytes are
those of the text.
-/

namespace DocSource.Text

/-- The bytes of a text. -/
def utf8 (text : List Char) : List UInt8 := text.flatMap String.utf8EncodeChar

/-- The bytes of a string are those of its characters. -/
theorem data_toUTF8 (text : String) : text.toUTF8.data.toList = utf8 text.toList := by
  -- A string is stored as the encoding of its characters.
  show text.toByteArray.data.toList = utf8 text.toList
  rw [← String.utf8Encode_toList, List.utf8Encode, List.toList_data_toByteArray, utf8]

/-- The bytes of a text are read back as the text. -/
theorem fromUTF8?_utf8 (text : List Char) :
    String.fromUTF8? ⟨(utf8 text).toArray⟩ = some (String.ofList text) := by
  -- The bytes are those of a string, and such bytes are valid.
  have bytes : (⟨(utf8 text).toArray⟩ : ByteArray) = (String.ofList text).toByteArray := by
    refine ByteArray.ext (Array.toList_inj.mp ?_)
    have whole := data_toUTF8 (String.ofList text)
    rw [String.toList_ofList] at whole
    exact whole.symm
  rw [bytes, String.fromUTF8?, dif_pos (String.ofList text).isValidUTF8]
  rfl

/-- A smaller number has the smaller places in front of its last one, or else the smaller last. -/
theorem places_lt {m n : Nat} (lt : m < n) :
    m / 64 < n / 64 ∨ m / 64 = n / 64 ∧ m % 64 < n % 64 := by
  -- Sixty-four values share their places in front of the last one.
  omega

/-- The bytes of a smaller character are smaller, whatever stands behind them. -/
theorem utf8EncodeChar_lt {c d : Char} (lt : c < d) (behind after : List UInt8) :
    String.utf8EncodeChar c ++ behind < String.utf8EncodeChar d ++ after := by
  have below : c.val.toNat < d.val.toNat := lt
  have bound : d.val.toNat < 0x110000 := by
    rcases d.valid with low | ⟨_, high⟩ <;> omega
  simp only [String.utf8EncodeChar]
  generalize c.val.toNat = m at *
  generalize d.val.toNat = n at *
  -- The places of both numbers, from the last one to the first.
  have last := places_lt below
  have third : m / 64 < n / 64 →
      m / 4096 < n / 4096 ∨ m / 4096 = n / 4096 ∧ m / 64 % 64 < n / 64 % 64 := by
    intro smaller
    have places := places_lt smaller
    rwa [Nat.div_div_eq_div_mul, Nat.div_div_eq_div_mul] at places
  have second : m / 4096 < n / 4096 →
      m / 262144 < n / 262144 ∨ m / 262144 = n / 262144 ∧ m / 4096 % 64 < n / 4096 % 64 := by
    intro smaller
    have places := places_lt smaller
    rwa [Nat.div_div_eq_div_mul, Nat.div_div_eq_div_mul] at places
  -- One to four bytes each: more bytes start with a greater one, and as many compare as places.
  repeat' split
  all_goals
    simp only [List.cons_append, List.nil_append, List.cons_lt_cons_iff, UInt8.lt_iff_toNat_lt,
      ← UInt8.toNat_inj, UInt8.toNat_ofNat']
    simp (disch := omega) only [Nat.mod_eq_of_lt]
    omega

/-- Texts are in the order of their bytes. -/
theorem utf8_lt {text other : List Char} (lt : text < other) : utf8 text < utf8 other := by
  -- The first characters that differ decide, and those before them have the same bytes.
  induction text generalizing other with
  | nil =>
    cases other with
    | nil => exact absurd lt (List.lt_irrefl [])
    | cons d after =>
      have some : String.utf8EncodeChar d ≠ [] := String.utf8EncodeChar_ne_nil
      obtain ⟨first, more, shape⟩ := List.exists_cons_of_ne_nil some
      rw [utf8, utf8, List.flatMap_cons, shape]
      exact List.nil_lt_cons _ _
  | cons c behind ih =>
    cases other with
    | nil => exact absurd lt (List.not_lt_nil _)
    | cons d after =>
      rw [utf8, utf8, List.flatMap_cons, List.flatMap_cons]
      rcases List.cons_lt_cons_iff.mp lt with smaller | ⟨rfl, rest⟩
      · exact utf8EncodeChar_lt smaller _ _
      · exact List.append_left_lt (ih rest)

end DocSource.Text
