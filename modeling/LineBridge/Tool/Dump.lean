import LineBridge.Address
import LineBridge.Text.Column

/-! Memory as a page of text: a row for every line's worth of bytes, with its address, the
bytes in hexadecimal, and the characters that they stand for. -/

namespace LineBridge.Dump

structure Row where
  addr : Addr
  bytes : Bytes
deriving DecidableEq, Repr

/-- Rows from an address on; the last one may be short. -/
def rows (base : Addr) (data : Bytes) : List Row :=
  (Bytes.chunks lineBytes data).zipIdx.map fun (bytes, k) =>
    ⟨base.offset (k * lineBytes), bytes⟩

/-- Rows hold the data line by line and lose none of it. -/
theorem bytes_rows (base : Addr) (data : Bytes) :
    (rows base data).map Row.bytes = Bytes.chunks lineBytes data := by
  simp only [rows, List.map_map]
  exact List.zipIdx_map_fst 0 _

/-- A byte as a character, if it is one that ASCII can show. -/
def shown (b : UInt8) : Char := if 0x20 ≤ b ∧ b < 0x7f then Char.ofNat b.toNat else '.'

namespace Row

def hexColumn (r : Row) : String :=
  String.intercalate " " (r.bytes.map fun b => Hex.padded 2 b.toNat)

def asciiColumn (r : Row) : String := String.ofList (r.bytes.map shown)

/-- The room that the hexadecimal column of a full row takes. -/
def hexWidth : Nat := 3 * lineBytes - 1

def text (r : Row) : String :=
  Hex.padded 8 r.addr.val.toNat ++ ": " ++ Column.fill hexWidth r.hexColumn ++
    "  |" ++ r.asciiColumn ++ "|\n"

theorem length_asciiColumn (r : Row) : r.asciiColumn.length = r.bytes.length := by
  simp [asciiColumn]

end Row

def text (base : Addr) (data : Bytes) : String := String.join ((rows base data).map Row.text)

end LineBridge.Dump
