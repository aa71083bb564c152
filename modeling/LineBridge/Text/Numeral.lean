import LineBridge.Text.Hex

/-! Reading whole numbers that have a limit. A plus sign may stand before the digits. Digits
are taken one by one, and the first trouble decides what is wrong with the text. -/

namespace LineBridge.Numeral

/-- Why a text is not a number within the limit. -/
inductive Trouble where
  | empty
  | notDigit
  | tooLarge
deriving DecidableEq, Repr

def Trouble.message : Trouble → String
  | empty => "cannot parse integer from empty string"
  | notDigit => "invalid digit found in string"
  | tooLarge => "number too large to fit in target type"

/-- The value of a digit of a base up to sixteen. -/
def digit? (base : Nat) (c : Char) : Option Nat := (Hex.value? c).filter (· < base)

/-- Reads on from a number, which stays below the limit. -/
def readDigits (base limit : Nat) : Nat → List Char → Except Trouble Nat
  | n, [] => .ok n
  | n, c :: rest =>
    match digit? base c with
    | none => .error .notDigit
    | some d =>
      if n * base + d < limit then readDigits base limit (n * base + d) rest
      else .error .tooLarge

/-- A number below the limit. -/
def read (base limit : Nat) : List Char → Except Trouble Nat
  | [] => .error .empty
  | ['+'] => .error .notDigit
  | '+' :: digits => readDigits base limit 0 digits
  | digits => readDigits base limit 0 digits

theorem readDigits_lt {base limit n m : Nat} {text : List Char} (start : n < limit)
    (h : readDigits base limit n text = .ok m) : m < limit := by
  induction text generalizing n with
  | nil =>
    cases h
    exact start
  | cons c rest ih =>
    simp only [readDigits] at h
    split at h
    · exact absurd h (by simp)
    · split at h
      next fits => exact ih fits h
      next => exact absurd h (by simp)

theorem read_lt {base limit m : Nat} {text : List Char} (positive : 0 < limit)
    (h : read base limit text = .ok m) : m < limit := by
  unfold read at h
  split at h
  · exact absurd h (by simp)
  · exact absurd h (by simp)
  · exact readDigits_lt positive h
  · exact readDigits_lt positive h

end LineBridge.Numeral
