import LineBridge.Json.Value
import LineBridge.Text.Hex

/-! Reading JSON text. Every reader takes what it reads off the front and answers it with the
characters that are left; it fails on anything that the grammar does not have. -/

namespace LineBridge.Json

/-- What was read, and what is left. -/
abbrev Read (α : Type) := List Char → Option (α × List Char)

def isBlank (c : Char) : Bool := c == ' ' || c == '\t' || c == '\n' || c == '\r'

def skipBlanks (text : List Char) : List Char := text.dropWhile isBlank

/-- Takes a fixed sequence of characters. -/
def expect : List Char → List Char → Option (List Char)
  | [], text => some text
  | c :: word, d :: text => if c = d then expect word text else none
  | _ :: _, [] => none

/-- One digit or more. -/
def readDigits : Read (List Char) := fun text =>
  let (digits, rest) := text.span Char.isDigit
  if digits.isEmpty then none else some (digits, rest)

def value (digits : List Char) : Nat :=
  digits.foldl (fun n c => 10 * n + (c.toNat - '0'.toNat)) 0

/-- Zero, or digits that begin with another one. -/
def readWhole : Read Nat := fun text => do
  let (digits, rest) ← readDigits text
  if digits.head? = some '0' ∧ 1 < digits.length then none
  else some (value digits, rest)

/-- A fraction, if there is one. -/
def readFraction : Read Bool
  | '.' :: text => do
    let (_, rest) ← readDigits text
    some (true, rest)
  | text => some (false, text)

/-- An exponent, if there is one. -/
def readExponent : Read Bool
  | c :: text =>
    if c = 'e' ∨ c = 'E' then do
      let unsigned := match text with
        | '+' :: rest | '-' :: rest => rest
        | _ => text
      let (_, rest) ← readDigits unsigned
      some (true, rest)
    else some (false, c :: text)
  | [] => some (false, [])

def readNumber : Read Json := fun text => do
  let (negative, unsigned) := match text with
    | '-' :: rest => (true, rest)
    | _ => (false, text)
  let (whole, afterWhole) ← readWhole unsigned
  let (fraction, afterFraction) ← readFraction afterWhole
  let (exponent, rest) ← readExponent afterFraction
  some (if negative || fraction || exponent then .otherNumber else .natural whole, rest)

/-- Four hexadecimal digits. -/
def readCodeUnit : Read Nat
  | a :: b :: c :: d :: rest => do
    let a ← Hex.value? a
    let b ← Hex.value? b
    let c ← Hex.value? c
    let d ← Hex.value? d
    some (((a * 16 + b) * 16 + c) * 16 + d, rest)
  | _ => none

/-- What follows a backslash, as a code point or one half of a surrogate pair. -/
def readEscape : Read Nat
  | '"' :: rest => some ('"'.toNat, rest)
  | '\\' :: rest => some ('\\'.toNat, rest)
  | '/' :: rest => some ('/'.toNat, rest)
  | 'b' :: rest => some (8, rest)
  | 'f' :: rest => some (12, rest)
  | 'n' :: rest => some (10, rest)
  | 'r' :: rest => some (13, rest)
  | 't' :: rest => some (9, rest)
  | 'u' :: rest => readCodeUnit rest
  | _ => none

theorem length_readEscape {text rest : List Char} {code : Nat}
    (h : readEscape text = some (code, rest)) : rest.length < text.length := by
  unfold readEscape at h
  split at h
  case h_9 tail =>
    unfold readCodeUnit at h
    split at h
    · simp only [Option.bind_eq_bind, Option.bind_eq_some_iff, Option.some.injEq,
        Prod.mk.injEq] at h
      obtain ⟨_, _, _, _, _, _, _, _, _, rfl⟩ := h
      simp only [List.length_cons]
      omega
    · exact absurd h (by simp)
  case h_10 => exact absurd h (by simp)
  all_goals
    simp only [Option.some.injEq, Prod.mk.injEq] at h
    obtain ⟨_, rfl⟩ := h
    simp

/-- The rest of a text up to its closing quote. Control characters must be escaped. -/
def readCodes (text : List Char) (codes : List Nat) : Option (List Nat × List Char) :=
  match text with
  | [] => none
  | '"' :: rest => some (codes.reverse, rest)
  | '\\' :: rest =>
    match _taken : readEscape rest with
    | none => none
    | some (code, rest') => readCodes rest' (code :: codes)
  | c :: rest => if c.toNat < 32 then none else readCodes rest (c.toNat :: codes)
termination_by text.length
decreasing_by
  · have := length_readEscape _taken
    simp only [List.length_cons]
    omega
  · simp

def isHighSurrogate (code : Nat) : Bool := 0xD800 ≤ code && code < 0xDC00

def isLowSurrogate (code : Nat) : Bool := 0xDC00 ≤ code && code < 0xE000

/-- Joins surrogate pairs; fails on a half that stands alone. -/
def joinPairs : List Nat → Option (List Char)
  | [] => some []
  | code :: rest =>
    if isLowSurrogate code then none
    else if isHighSurrogate code then
      match rest with
      | low :: rest' =>
        if isLowSurrogate low then
          (joinPairs rest').map
            (Char.ofNat (0x10000 + (code - 0xD800) * 0x400 + (low - 0xDC00)) :: ·)
        else none
      | [] => none
    else (joinPairs rest).map (Char.ofNat code :: ·)

/-- A text whose opening quote has been taken. -/
def readText : Read (Option String) := fun text => do
  let (codes, rest) ← readCodes text []
  some ((joinPairs codes).map String.ofList, rest)

mutual

/-- A value. The first argument bounds the depth of calls. -/
def readValue : Nat → Read Json
  | 0, _ => none
  | fuel + 1, text =>
    match skipBlanks text with
    | '"' :: rest => do
      let (content, rest) ← readText rest
      some (.string content, rest)
    | '[' :: rest =>
      match skipBlanks rest with
      | ']' :: rest => some (.array [], rest)
      | rest => do
        let (items, rest) ← readItems fuel rest
        some (.array items, rest)
    | '\x7b' :: rest =>
      match skipBlanks rest with
      | '\x7d' :: rest => some (.object [], rest)
      | rest => do
        let (members, rest) ← readMembers fuel rest
        some (.object members, rest)
    | 't' :: rest => do
      let rest ← expect ['r', 'u', 'e'] rest
      some (.bool true, rest)
    | 'f' :: rest => do
      let rest ← expect ['a', 'l', 's', 'e'] rest
      some (.bool false, rest)
    | 'n' :: rest => do
      let rest ← expect ['u', 'l', 'l'] rest
      some (.null, rest)
    | rest => readNumber rest

/-- Items up to the closing bracket; there is at least one. -/
def readItems : Nat → Read (List Json)
  | 0, _ => none
  | fuel + 1, text => do
    let (item, rest) ← readValue fuel text
    match skipBlanks rest with
    | ',' :: rest =>
      let (items, rest) ← readItems fuel rest
      some (item :: items, rest)
    | ']' :: rest => some ([item], rest)
    | _ => none

/-- Members up to the closing brace; there is at least one. -/
def readMembers : Nat → Read (List (Option String × Json))
  | 0, _ => none
  | fuel + 1, text => do
    let rest ← expect ['"'] (skipBlanks text)
    let (key, rest) ← readText rest
    let rest ← expect [':'] (skipBlanks rest)
    let (item, rest) ← readValue fuel rest
    match skipBlanks rest with
    | ',' :: rest =>
      let (members, rest) ← readMembers fuel rest
      some ((key, item) :: members, rest)
    | '\x7d' :: rest => some ([(key, item)], rest)
    | _ => none

end

/-- A document: one value with nothing but blanks around it. Of two calls in a row at least one
takes a character, so the bound is never met. -/
def read? (text : String) : Option Json := do
  let chars := text.toList
  let (document, rest) ← readValue (2 * chars.length + 2) chars
  if (skipBlanks rest).isEmpty then some document else none

end LineBridge.Json
