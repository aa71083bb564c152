import LineBridge.Text.Combining
import LineBridge.Text.Hex
import LineBridge.Text.Printable

/-! Text between double quotes, so that a reader can tell every character apart: quotes and
backslashes are escaped, and what does not show, or would attach to its neighbour, is written
as a number. -/

namespace LineBridge.Quoted

/-- A code point in hexadecimal between braces. -/
def numbered (c : Char) : String := "\\u\x7b" ++ Hex.digits c.toNat ++ "\x7d"

def escape (c : Char) : String :=
  match c with
  | '\x00' => "\\0"
  | '\t' => "\\t"
  | '\r' => "\\r"
  | '\n' => "\\n"
  | '\\' => "\\\\"
  | '"' => "\\\""
  | c =>
    if Combining.isCombining c || !Printable.isPrintable c then numbered c
    else String.singleton c

def text (s : String) : String := "\"" ++ String.join (s.toList.map escape) ++ "\""

end LineBridge.Quoted
