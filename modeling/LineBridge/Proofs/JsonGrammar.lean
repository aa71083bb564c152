import LineBridge.Json.Value
import LineBridge.Text.Hex

/-! The texts of JSON, as RFC 8259 has them. A text is put together from its parts, and nothing in
it looks ahead. -/

namespace LineBridge.Json

/-! ## Numbers -/

/-- One digit or more. -/
structure Digits (text : List Char) : Prop where
  ne_nil : text ≠ []
  all : ∀ c ∈ text, c.isDigit = true

/-- Zero, or digits that begin with another one. -/
structure Whole (text : List Char) : Prop where
  digits : Digits text
  leading : text.head? = some '0' → text = ['0']

inductive Fraction : List Char → Prop
  | none : Fraction []
  | point {digits : List Char} : Digits digits → Fraction ('.' :: digits)

inductive Exponent : List Char → Prop
  | none : Exponent []
  | power {e : Char} {sign digits : List Char} : e ∈ ['e', 'E'] → sign ∈ [[], ['+'], ['-']] →
      Digits digits → Exponent (e :: (sign ++ digits))

/-! ## Strings -/

/-- Four hexadecimal digits of either case, and their number. -/
inductive CodeUnit : Nat → List Char → Prop
  | digits {a b c d : Char} {w x y z : Nat} : Hex.value? a = some w → Hex.value? b = some x →
      Hex.value? c = some y → Hex.value? d = some z →
      CodeUnit (((w * 16 + x) * 16 + y) * 16 + z) [a, b, c, d]

/-- What a backslash and one character stand for. -/
def shortEscapes : List (Char × Nat) := [
  ('"', '"'.toNat), ('\\', '\\'.toNat), ('/', '/'.toNat),
  ('b', 8), ('f', 12), ('n', 10), ('r', 13), ('t', 9)]

/-- A character of a string as it is written, and its code. A surrogate pair has two codes. -/
inductive Code : Nat → List Char → Prop
  | plain {c : Char} : 32 ≤ c.toNat → c ≠ '"' → c ≠ '\\' → Code c.toNat [c]
  | short {e : Char} {code : Nat} : (e, code) ∈ shortEscapes → Code code ['\\', e]
  | unit {code : Nat} {digits : List Char} : CodeUnit code digits →
      Code code ('\\' :: 'u' :: digits)

inductive Codes : List Nat → List Char → Prop
  | nil : Codes [] []
  | cons {code : Nat} {codes : List Nat} {text more : List Char} : Code code text →
      Codes codes more → Codes (code :: codes) (text ++ more)

/-- A character of a string as it is written, a surrogate pair being one. -/
inductive Letter : Char → List Char → Prop
  | single {c : Char} {text : List Char} : Code c.toNat text → Letter c text
  | pair {c : Char} {high low : Nat} {first second : List Char} : Code high first →
      Code low second → 0xD800 ≤ high ∧ high < 0xDC00 → 0xDC00 ≤ low ∧ low < 0xE000 →
      c.toNat = 0x10000 + (high - 0xD800) * 0x400 + (low - 0xDC00) → Letter c (first ++ second)

inductive Letters : List Char → List Char → Prop
  | nil : Letters [] []
  | cons {c : Char} {cs text more : List Char} : Letter c text → Letters cs more →
      Letters (c :: cs) (text ++ more)

/-- A string in quotes. It stands for none if some half of a surrogate pair is alone in it. -/
inductive Quoted : Option String → List Char → Prop
  | whole {s : String} {text : List Char} : Letters s.toList text →
      Quoted (some s) ('"' :: (text ++ ['"']))
  | broken {codes : List Nat} {text : List Char} : Codes codes text →
      (∀ cs, ¬Letters cs text) → Quoted none ('"' :: (text ++ ['"']))

/-! ## Values -/

/-- Blanks that may stand between the parts of a text. -/
def Gap (text : List Char) : Prop := ∀ c ∈ text, c = ' ' ∨ c = '\t' ∨ c = '\n' ∨ c = '\r'

/-- What a piece of text can stand for: a value, an element, which is a value with blanks around
it, or what an array or an object holds, at least one thing and up to the bracket that closes it. -/
inductive Phrase
  | value (v : Json)
  | element (v : Json)
  | items (vs : List Json)
  | members (ms : List (Option String × Json))

/-- The texts of a phrase. -/
inductive Spells : Phrase → List Char → Prop
  | null : Spells (.value .null) ['n', 'u', 'l', 'l']
  | yes : Spells (.value (.bool true)) ['t', 'r', 'u', 'e']
  | no : Spells (.value (.bool false)) ['f', 'a', 'l', 's', 'e']
  | natural {digits : List Char} : Whole digits →
      Spells (.value (.natural (Nat.ofDigitChars 10 digits 0))) digits
  | number {sign whole fraction exponent : List Char} : sign ∈ [[], ['-']] → Whole whole →
      Fraction fraction → Exponent exponent → sign ++ fraction ++ exponent ≠ [] →
      Spells (.value .otherNumber) (sign ++ (whole ++ (fraction ++ exponent)))
  | string {s : Option String} {text : List Char} : Quoted s text →
      Spells (.value (.string s)) text
  | emptyArray {gap : List Char} : Gap gap → Spells (.value (.array [])) ('[' :: (gap ++ [']']))
  | array {vs : List Json} {text : List Char} : Spells (.items vs) text →
      Spells (.value (.array vs)) ('[' :: text)
  | emptyObject {gap : List Char} : Gap gap →
      Spells (.value (.object [])) ('\x7b' :: (gap ++ ['\x7d']))
  | object {ms : List (Option String × Json)} {text : List Char} : Spells (.members ms) text →
      Spells (.value (.object ms)) ('\x7b' :: text)
  | element {v : Json} {before text after : List Char} : Gap before → Spells (.value v) text →
      Gap after → Spells (.element v) (before ++ (text ++ after))
  | lastItem {v : Json} {text : List Char} : Spells (.element v) text →
      Spells (.items [v]) (text ++ [']'])
  | item {v : Json} {vs : List Json} {text more : List Char} : Spells (.element v) text →
      Spells (.items vs) more → Spells (.items (v :: vs)) (text ++ ',' :: more)
  | lastMember {key : Option String} {v : Json} {before name after text : List Char} :
      Gap before → Quoted key name → Gap after → Spells (.element v) text →
      Spells (.members [(key, v)])
        (before ++ (name ++ (after ++ ':' :: (text ++ ['\x7d']))))
  | member {key : Option String} {v : Json} {ms : List (Option String × Json)}
      {before name after text more : List Char} :
      Gap before → Quoted key name → Gap after → Spells (.element v) text →
      Spells (.members ms) more →
      Spells (.members ((key, v) :: ms))
        (before ++ (name ++ (after ++ ':' :: (text ++ ',' :: more))))

end LineBridge.Json
