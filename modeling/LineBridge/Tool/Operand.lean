import LineBridge.Fault
import LineBridge.Text.Numeral

/-! Numbers and data as they are given by hand. Underscores may stand anywhere in them, and
blanks anywhere in data. -/

namespace LineBridge.Operand

/-- A 32-bit number: in base sixteen behind `0x` or `0X`, otherwise in base ten. -/
def word (text : String) : Except Numeral.Trouble UInt32 :=
  UInt32.ofNat <$> match text.toList.filter (· != '_') with
    | '0' :: 'x' :: digits => Numeral.read 16 UInt32.size digits
    | '0' :: 'X' :: digits => Numeral.read 16 UInt32.size digits
    | digits => Numeral.read 10 UInt32.size digits

/-- A 32-bit count in base ten, which may have a sign; the only negative one is zero. -/
def count? (text : String) : Option UInt32 :=
  let magnitude? (limit : Nat) (digits : List Char) : Option UInt32 :=
    if digits.isEmpty then none
    else (Numeral.readDigits 10 limit 0 digits).toOption.map UInt32.ofNat
  match text.toList with
  | '-' :: digits => magnitude? 1 digits
  | '+' :: digits => magnitude? UInt32.size digits
  | digits => magnitude? UInt32.size digits

/-- A byte that is dropped from data: blank, tab, line feed, form feed, carriage return or
underscore. -/
def isSeparator (b : UInt8) : Bool := [0x20, 0x09, 0x0a, 0x0c, 0x0d, 0x5f].contains b

/-- What is left of data without separators, and without one `0x` in front. -/
def digits (text : String) : Bytes :=
  match (Utf8.encode text).filter (!isSeparator ·) with
  | 0x30 :: 0x78 :: rest => rest
  | all => all

def byteOfPair (pair : Bytes) : Except Fault UInt8 :=
  match (Utf8.text? pair).map (Numeral.read 16 UInt8.size ·.toList) with
  | some (.ok n) => .ok (UInt8.ofNat n)
  | _ => .error (.settings (.hexByte pair))

/-- Data, two digits a byte. -/
def data (text : String) : Except Fault Bytes :=
  let all := digits text
  if all.isEmpty ∨ all.length % 2 ≠ 0 then .error (.settings .hexLength)
  else (Bytes.chunks 2 all).mapM byteOfPair

end LineBridge.Operand
