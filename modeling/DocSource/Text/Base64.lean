/-! Bytes in base64: the standard alphabet, padded, with one text for each list of bytes. -/

namespace DocSource.Base64

/-- The character of a number below sixty-four. -/
def symbol (n : Nat) : Char :=
  if n < 26 then Char.ofNat (65 + n)
  else if n < 52 then Char.ofNat (97 + (n - 26))
  else if n < 62 then Char.ofNat (48 + (n - 52))
  else if n = 62 then '+' else '/'

/-- The number of a character of the alphabet. -/
def number? (c : Char) : Option Nat :=
  if 'A' ≤ c && c ≤ 'Z' then some (c.toNat - 65)
  else if 'a' ≤ c && c ≤ 'z' then some (c.toNat - 97 + 26)
  else if '0' ≤ c && c ≤ '9' then some (c.toNat - 48 + 52)
  else if c = '+' then some 62
  else if c = '/' then some 63
  else none

/-- The text of bytes, four characters for each three and for what is left over. -/
def encode : List UInt8 → List Char
  | [] => []
  -- What is left over of three bytes is filled up with zero bits, and signs mark what is missing.
  | [a] => [symbol (a.toNat / 4), symbol (a.toNat % 4 * 16), '=', '=']
  | [a, b] =>
    [symbol (a.toNat / 4), symbol (a.toNat % 4 * 16 + b.toNat / 16),
      symbol (b.toNat % 16 * 4), '=']
  | a :: b :: c :: rest =>
    symbol (a.toNat / 4) :: symbol (a.toNat % 4 * 16 + b.toNat / 16) ::
      symbol (b.toNat % 16 * 4 + c.toNat / 64) :: symbol (c.toNat % 64) :: encode rest

/-- The bytes of a text; the bits that padding leaves over must be zero. -/
def decode : List Char → Option (List UInt8)
  | [] => some []
  | [a, b, '=', '='] => do
    let a ← number? a
    let b ← number? b
    if b % 16 = 0 then some [UInt8.ofNat (a * 4 + b / 16)] else none
  | [a, b, c, '='] => do
    let a ← number? a
    let b ← number? b
    let c ← number? c
    if c % 4 = 0 then
      some [UInt8.ofNat (a * 4 + b / 16), UInt8.ofNat (b % 16 * 16 + c / 4)]
    else none
  | a :: b :: c :: d :: rest => do
    let a ← number? a
    let b ← number? b
    let c ← number? c
    let d ← number? d
    let bytes ← decode rest
    some (UInt8.ofNat (a * 4 + b / 16) :: UInt8.ofNat (b % 16 * 16 + c / 4) ::
      UInt8.ofNat (c % 4 * 64 + d) :: bytes)
  | _ => none

/-- A character of the alphabet reads back as its number. -/
theorem number?_symbol {n : Nat} (small : n < 64) : number? (symbol n) = some n := by
  -- The alphabet has sixty-four characters.
  have each : ∀ m : Fin 64, number? (symbol m) = some m.val := by decide
  exact each ⟨n, small⟩

/-- The padding is no character of the alphabet. -/
theorem symbol_ne_padding {n : Nat} (small : n < 64) : symbol n ≠ '=' := by
  -- The padding reads as no number.
  intro padded
  have read := number?_symbol small
  rw [padded] at read
  cases (show number? '=' = none by decide).symm.trans read

/-- Bytes read back from their text. -/
theorem decode_encode (bytes : List UInt8) : decode (encode bytes) = some bytes := by
  -- The six-bit parts of each byte put its number together again.
  fun_induction encode bytes with
  | case1 => rfl
  | case2 a =>
    have boundA := a.toNat_lt
    have first : a.toNat / 4 * 4 + a.toNat % 4 * 16 / 16 = a.toNat := by omega
    simp only [decode, number?_symbol (show a.toNat / 4 < 64 by omega),
      number?_symbol (show a.toNat % 4 * 16 < 64 by omega), Option.bind_eq_bind, Option.bind_some]
    rw [if_pos (by omega), first, UInt8.ofNat_toNat]
  | case3 a b =>
    have boundA := a.toNat_lt
    have boundB := b.toNat_lt
    have first : a.toNat / 4 * 4 + (a.toNat % 4 * 16 + b.toNat / 16) / 16 = a.toNat := by omega
    have second :
        (a.toNat % 4 * 16 + b.toNat / 16) % 16 * 16 + b.toNat % 16 * 4 / 4 = b.toNat := by omega
    have solid := symbol_ne_padding (show b.toNat % 16 * 4 < 64 by omega)
    rw [decode.eq_3 _ _ _ (fun padded => solid padded)]
    simp only [number?_symbol (show a.toNat / 4 < 64 by omega),
      number?_symbol (show a.toNat % 4 * 16 + b.toNat / 16 < 64 by omega),
      number?_symbol (show b.toNat % 16 * 4 < 64 by omega), Option.bind_eq_bind, Option.bind_some]
    rw [if_pos (by omega), first, second, UInt8.ofNat_toNat, UInt8.ofNat_toNat]
  | case4 a b c rest ih =>
    have boundA := a.toNat_lt
    have boundB := b.toNat_lt
    have boundC := c.toNat_lt
    have first : a.toNat / 4 * 4 + (a.toNat % 4 * 16 + b.toNat / 16) / 16 = a.toNat := by omega
    have second : (a.toNat % 4 * 16 + b.toNat / 16) % 16 * 16 +
        (b.toNat % 16 * 4 + c.toNat / 64) / 4 = b.toNat := by omega
    have third : (b.toNat % 16 * 4 + c.toNat / 64) % 4 * 64 + c.toNat % 64 = c.toNat := by omega
    have solid := symbol_ne_padding (show c.toNat % 64 < 64 by omega)
    rw [decode.eq_4 _ _ _ _ _ (fun _ padded _ => solid padded) (fun padded _ => solid padded)]
    simp only [number?_symbol (show a.toNat / 4 < 64 by omega),
      number?_symbol (show a.toNat % 4 * 16 + b.toNat / 16 < 64 by omega),
      number?_symbol (show b.toNat % 16 * 4 + c.toNat / 64 < 64 by omega),
      number?_symbol (show c.toNat % 64 < 64 by omega), ih, Option.bind_eq_bind, Option.bind_some,
      first, second, third, UInt8.ofNat_toNat]
end DocSource.Base64
