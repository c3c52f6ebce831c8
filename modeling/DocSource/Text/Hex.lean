/-! Bytes as pairs of hexadecimal digits. -/

namespace DocSource.Hex

/-- The value of a hexadecimal digit of either case. -/
def digit? (c : Char) : Option Nat :=
  if c.isDigit then some (c.toNat - 48)
  else if 'a' ≤ c && c ≤ 'f' then some (c.toNat - 87)
  else if 'A' ≤ c && c ≤ 'F' then some (c.toNat - 55)
  else none

/-- The digit of a number below sixteen, in lower case. -/
def digit (n : Nat) : Char := if n < 10 then Char.ofNat (48 + n) else Char.ofNat (87 + n)

/-- The digits of bytes, two for each. -/
def encode (bytes : List UInt8) : List Char :=
  bytes.flatMap fun byte => [digit (byte.toNat / 16), digit (byte.toNat % 16)]

/-- The bytes that a text of digit pairs writes. -/
def decode : List Char → Option (List UInt8)
  | [] => some []
  | [_] => none
  | high :: low :: rest => do
    let high ← digit? high
    let low ← digit? low
    let bytes ← decode rest
    some (UInt8.ofNat (high * 16 + low) :: bytes)

/-- A digit reads back as its number. -/
theorem digit?_digit {n : Nat} (small : n < 16) : digit? (digit n) = some n := by
  -- There are sixteen digits.
  have each : ∀ m : Fin 16, digit? (digit m) = some m.val := by decide
  exact each ⟨n, small⟩

/-- Bytes read back from their digits. -/
theorem decode_encode (bytes : List UInt8) : decode (encode bytes) = some bytes := by
  induction bytes with
  | nil => rfl
  | cons byte rest ih =>
    -- The two digits of a byte put its number together again.
    have bound := byte.toNat_lt
    have whole : byte.toNat / 16 * 16 + byte.toNat % 16 = byte.toNat := by omega
    change decode (digit (byte.toNat / 16) :: digit (byte.toNat % 16) :: encode rest) = _
    rw [decode, digit?_digit (by omega), digit?_digit (by omega), ih]
    simp only [Option.bind_eq_bind, Option.bind_some, whole, UInt8.ofNat_toNat]

end DocSource.Hex
