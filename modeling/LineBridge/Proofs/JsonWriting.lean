import Mathlib
import LineBridge.Proofs.JsonReading

/-! A plain text for every document: no blanks, digits as they are, and of the characters of a
string only quotes, backslashes and control characters escaped. It is one of the texts of the
document. -/

namespace LineBridge.Json

def writeLetter (c : Char) : List Char :=
  if c = '"' ∨ c = '\\' then ['\\', c]
  else if c.toNat < 32 then
    ['\\', 'u', '0', '0', Nat.digitChar (c.toNat / 16), Nat.digitChar (c.toNat % 16)]
  else [c]

/-- For a string that stands for none, half of a surrogate pair. -/
def writeString : Option String → List Char
  | some s => '"' :: (s.toList.flatMap writeLetter ++ ['"'])
  | none => ['"', '\\', 'u', 'd', '8', '0', '0', '"']

mutual

def write : Json → List Char
  | .null => ['n', 'u', 'l', 'l']
  | .bool true => ['t', 'r', 'u', 'e']
  | .bool false => ['f', 'a', 'l', 's', 'e']
  | .natural n => Nat.toDigits 10 n
  | .otherNumber => ['-', '1']
  | .string s => writeString s
  | .array vs => '[' :: writeItems vs
  | .object ms => '\x7b' :: writeMembers ms

/-- Items and the bracket behind them. -/
def writeItems : List Json → List Char
  | [] => [']']
  | [v] => write v ++ [']']
  | v :: w :: vs => write v ++ ',' :: writeItems (w :: vs)

/-- Members and the brace behind them. -/
def writeMembers : List (Option String × Json) → List Char
  | [] => ['\x7d']
  | [(key, v)] => writeString key ++ ':' :: (write v ++ ['\x7d'])
  | (key, v) :: m :: ms => writeString key ++ ':' :: (write v ++ ',' :: writeMembers (m :: ms))

end

theorem head?_toDigits {n : Nat} (positive : n ≠ 0) : (Nat.toDigits 10 n).head? ≠ some '0' := by
  induction n using Nat.strongRecOn with
  | ind n ih =>
    by_cases small : n < 10
    · rw [Nat.toDigits_of_lt_base small]
      interval_cases n <;> simp_all
    · rw [Nat.toDigits_of_base_le (by omega) (by omega),
        List.head?_append_of_ne_nil _ Nat.toDigits_ne_nil]
      exact ih (n / 10) (by omega) (by omega)

theorem whole_toDigits (n : Nat) : Whole (Nat.toDigits 10 n) where
  digits := ⟨Nat.toDigits_ne_nil, fun _ => Nat.isDigit_of_mem_toDigits (by omega) (by omega)⟩
  leading zero := by
    by_cases none : n = 0
    · simp [none]
    · exact absurd zero (head?_toDigits none)

theorem codeUnit_of_control {n : Nat} (control : n < 32) :
    CodeUnit n ['0', '0', Nat.digitChar (n / 16), Nat.digitChar (n % 16)] := by
  have zero : Hex.value? '0' = some 0 := rfl
  have unit := CodeUnit.digits zero zero (Hex.value?_digitChar (n / 16) (by omega))
    (Hex.value?_digitChar (n % 16) (by omega))
  rwa [show ((0 * 16 + 0) * 16 + n / 16) * 16 + n % 16 = n by omega] at unit

theorem letter_writeLetter (c : Char) : Letter c (writeLetter c) := by
  unfold writeLetter
  split_ifs with escaped control
  · refine .single (.short ?_)
    rcases escaped with rfl | rfl <;> decide
  · exact .single (.unit (codeUnit_of_control control))
  · rw [not_or] at escaped
    exact .single (.plain (by omega) escaped.1 escaped.2)

theorem letters_flatMap (cs : List Char) : Letters cs (cs.flatMap writeLetter) := by
  induction cs with
  | nil => exact .nil
  | cons c cs ih => exact .cons (letter_writeLetter c) ih

theorem quoted_writeString (s : Option String) : Quoted s (writeString s) := by
  cases s with
  | none =>
    have unit : CodeUnit (((13 * 16 + 8) * 16 + 0) * 16 + 0) ['d', '8', '0', '0'] :=
      .digits rfl rfl rfl rfl
    exact .lone (.cons (.unit unit) .nil) rfl
  | some s => exact .whole (letters_flatMap s.toList)

theorem gap_nil : Gap [] := by simp [Gap]

theorem Spells.bare {v : Json} {text : List Char} (spelled : Spells (.value v) text) :
    Spells (.element v) text := by
  simpa using Spells.element gap_nil spelled gap_nil

mutual

theorem spells_write : ∀ v, Spells (.value v) (write v)
  | .null => .null
  | .bool true => .yes
  | .bool false => .no
  | .natural n => by
    have spelled := Spells.natural (whole_toDigits n)
    rwa [Nat.ofDigitChars_toDigits (by omega) (by omega)] at spelled
  | .otherNumber => by
    have minus : ['-'] ∈ [[], ['-']] := by simp
    exact .number minus (whole_toDigits 1) .none .none (by simp)
  | .string s => .string (quoted_writeString s)
  | .array [] => .emptyArray gap_nil
  | .array (v :: vs) => .array (spells_writeItems (v :: vs) (by simp))
  | .object [] => .emptyObject gap_nil
  | .object (m :: ms) => .object (spells_writeMembers (m :: ms) (by simp))

theorem spells_writeItems : ∀ vs, vs ≠ [] → Spells (.items vs) (writeItems vs)
  | [], empty => absurd rfl empty
  | [v], _ => .lastItem (spells_write v).bare
  | v :: w :: vs, _ => .item (spells_write v).bare (spells_writeItems (w :: vs) (by simp))

theorem spells_writeMembers : ∀ ms, ms ≠ [] → Spells (.members ms) (writeMembers ms)
  | [], empty => absurd rfl empty
  | [(key, v)], _ =>
    .lastMember gap_nil (quoted_writeString key) gap_nil (spells_write v).bare
  | (key, v) :: m :: ms, _ =>
    .member gap_nil (quoted_writeString key) gap_nil (spells_write v).bare
      (spells_writeMembers (m :: ms) (by simp))

end

end LineBridge.Json
