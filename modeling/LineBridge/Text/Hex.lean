import LineBridge.Bytes

/-! Hexadecimal text in lower case. -/

namespace LineBridge.Hex

/-- The digits of a number, most significant first, without leading zeros. -/
def digits (n : Nat) : String := String.ofList (Nat.toDigits 16 n)

/-- At least `width` digits, filled with zeros on the left. -/
def padded (width n : Nat) : String :=
  let text := Nat.toDigits 16 n
  String.ofList (List.replicate (width - text.length) '0' ++ text)

/-- A number behind `0x`, without leading zeros. -/
def short (n : Nat) : String := "0x" ++ digits n

/-- A byte as `0x` and two digits. -/
def byte (b : UInt8) : String := "0x" ++ padded 2 b.toNat

/-- A 32-bit word as `0x` and eight digits. -/
def word (w : UInt32) : String := "0x" ++ padded 8 w.toNat

/-- Two digits a byte, in order. -/
def ofBytes (bytes : Bytes) : String := String.join (bytes.map fun b => padded 2 b.toNat)

/-- The value of one digit of either case. -/
def value? (c : Char) : Option Nat :=
  if '0' ≤ c ∧ c ≤ '9' then some (c.toNat - '0'.toNat)
  else if 'a' ≤ c ∧ c ≤ 'f' then some (c.toNat - 'a'.toNat + 10)
  else if 'A' ≤ c ∧ c ≤ 'F' then some (c.toNat - 'A'.toNat + 10)
  else none

theorem value?_lt {c : Char} {v : Nat} (digit : value? c = some v) : v < 16 := by
  have bounds (a b : Char) : a ≤ c ∧ c ≤ b ↔ a.toNat ≤ c.toNat ∧ c.toNat ≤ b.toNat := Iff.rfl
  simp only [value?, bounds] at digit
  split at digit
  · next arabic =>
    cases digit
    exact Nat.lt_of_le_of_lt (Nat.sub_le_sub_right arabic.2 _) (by decide)
  split at digit
  · next lower =>
    cases digit
    have := Nat.sub_le_sub_right lower.2 'a'.toNat
    exact Nat.lt_of_le_of_lt (Nat.add_le_add_right this 10) (by decide)
  split at digit
  · next upper =>
    cases digit
    have := Nat.sub_le_sub_right upper.2 'A'.toNat
    exact Nat.lt_of_le_of_lt (Nat.add_le_add_right this 10) (by decide)
  · cases digit

theorem value?_digitChar : ∀ d < 16, value? (Nat.digitChar d) = some d := by decide

end LineBridge.Hex
