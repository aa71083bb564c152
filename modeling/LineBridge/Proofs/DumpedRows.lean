import Mathlib
import LineBridge.Proofs.Operands
import LineBridge.Tool.Dump

/-! A page of memory loses nothing. It is cut into lines, and a line into columns, by position
alone: the address and the hexadecimal column have a fixed width, so what bytes look like as
characters moves nothing. The address of a line is a number that reads back, and the hexadecimal
columns are data that is read as the bytes they show. -/

namespace LineBridge

namespace Bytes

theorem length_chunks {size : Nat} (positive : 0 < size) (bytes : Bytes) :
    (chunks size bytes).length = (bytes.length + (size - 1)) / size := by
  fun_induction chunks size bytes with
  | case1 bytes none =>
    obtain rfl := none.resolve_right (by omega)
    exact (Nat.div_eq_of_lt (by simpa using positive)).symm
  | case2 bytes some ih =>
    have filled := List.length_pos_iff.mpr (not_or.mp some).1
    have whole : bytes.length + (size - 1) = bytes.length - 1 + size := by omega
    rw [List.length_cons, ih, List.length_drop, whole, Nat.add_div_right _ positive]
    rcases Nat.lt_or_ge bytes.length size with last | more
    · rw [Nat.div_eq_of_lt (show bytes.length - size + (size - 1) < size by omega),
        Nat.div_eq_of_lt (show bytes.length - 1 < size by omega)]
    · rw [show bytes.length - size + (size - 1) = bytes.length - 1 by omega]

/-- A piece holds the bytes from a multiple of the size on. -/
theorem eq_of_getElem?_chunks {size k : Nat} {bytes piece : Bytes}
    (place : (chunks size bytes)[k]? = some piece) :
    size * k < bytes.length ∧ piece = (bytes.drop (size * k)).take size := by
  fun_induction chunks size bytes generalizing k with
  | case1 => cases place
  | case2 bytes some ih =>
    have filled := List.length_pos_iff.mpr (not_or.mp some).1
    cases k with
    | zero =>
      obtain rfl : bytes.take size = piece := by simpa using place
      exact ⟨filled, rfl⟩
    | succ k =>
      obtain ⟨inside, rfl⟩ := ih place
      rw [List.length_drop] at inside
      rw [List.drop_drop, Nat.mul_succ, Nat.add_comm size]
      exact ⟨by omega, rfl⟩

end Bytes

/-- What a joint does not have is found in the parts alone. -/
theorem filter_intercalate {p : α → Bool} {joint : List α} (dropped : joint.filter p = []) :
    ∀ parts : List (List α), (joint.intercalate parts).filter p = parts.flatten.filter p
  | [] => rfl
  | [part] => by simp [List.intercalate]
  | part :: next :: rest => by
    rw [List.intercalate_cons_cons, List.filter_append, List.filter_append, dropped,
      filter_intercalate dropped (next :: rest), List.append_nil, ← List.filter_append]
    rfl

namespace Dump

open Operand (Spells separators bare)
open Numeral (Writes unsigned)

/-! ### Digits -/

/-- Two digits for each byte. -/
def pairs (bytes : Bytes) : List Char := bytes.flatMap fun b => (Hex.padded 2 b.toNat).toList

theorem spells_pairs (bytes : Bytes) : Spells unsigned (pairs bytes) bytes := by
  induction bytes with
  | nil => exact .nil
  | cons b rest ih =>
    have whole : UInt8.ofNat (b.toNat / 16 * 16 + b.toNat % 16) = b := by
      rw [Nat.div_add_mod', UInt8.ofNat_toNat]
    have high := Hex.value?_digitChar (b.toNat / 16) (Nat.div_lt_of_lt_mul b.toNat_lt)
    have low := Hex.value?_digitChar (b.toNat % 16) (Nat.mod_lt _ (by decide))
    have spelled := ih.pair high low
    rw [whole] at spelled
    rwa [pairs, List.flatMap_cons, Numeral.padded_byte]

/-- A character that is no digit is in no pair of digits. -/
theorem not_mem_pairs {c : Char} (other : Numeral.digit? 16 c = none) (bytes : Bytes) :
    c ∉ pairs bytes := by
  rw [pairs, List.mem_flatMap]
  rintro ⟨b, -, member⟩
  exact (Numeral.writes_padded 2 b.toNat).not_mem other member

/-- Text that is digits of bytes but for separators is data, and says these bytes. -/
theorem data_of_filter {cs : List Char} {bytes : Bytes} (some : bytes ≠ [])
    (same : cs.filter (· ∉ separators) = (pairs bytes).filter (· ∉ separators)) :
    Operand.data (String.ofList cs) = .ok bytes := by
  have none : ∀ s ∈ separators, Numeral.digit? 16 s = none := by
    simp only [separators, List.forall_mem_cons, List.not_mem_nil, false_implies, implies_true]
    decide
  have kept : (pairs bytes).filter (· ∉ separators) = pairs bytes :=
    List.filter_eq_self.mpr fun c member => decide_eq_true fun among =>
      not_mem_pairs (none c among) bytes member
  refine Operand.data_of_spells some ?_
  rw [bare, String.toList_ofList, same, kept]
  exact spells_pairs bytes

/-! ### Lines -/

/-- The columns of a line. -/
structure Columns where
  address : List Char
  digits : List Char
  characters : List Char

/-- The columns are found by position. -/
def columns (line : List Char) : Columns where
  address := line.take 8
  digits := (line.drop 10).take Row.hexWidth
  characters := (line.drop (10 + Row.hexWidth + 3)).dropLast

namespace Columns

/-- A line has a colon and a blank behind the address, and bars around the characters. -/
def line (c : Columns) : List Char :=
  c.address ++ [':', ' '] ++ c.digits ++ [' ', ' ', '|'] ++ c.characters ++ ['|']

theorem columns_line {c : Columns} (eight : c.address.length = 8)
    (wide : c.digits.length = Row.hexWidth) : columns c.line = c := by
  have front : (c.address ++ [':', ' ']).length = 10 := by simp [eight]
  have middle : (c.address ++ [':', ' '] ++ c.digits ++ [' ', ' ', '|']).length =
      10 + Row.hexWidth + 3 := by
    rw [List.length_append, List.length_append, front, wide]
    rfl
  have address : c.line.take 8 = c.address := by
    simp only [line, List.append_assoc]
    exact List.take_left' eight
  have digits : (c.line.drop 10).take Row.hexWidth = c.digits := by
    rw [line, List.append_assoc, List.append_assoc, List.append_assoc, List.drop_left' front]
    exact List.take_left' wide
  have characters : (c.line.drop (10 + Row.hexWidth + 3)).dropLast = c.characters := by
    rw [line, List.append_assoc, List.drop_left' middle]
    exact List.dropLast_concat
  rw [columns, address, digits, characters]

end Columns

namespace Row

def columns (r : Row) : Columns where
  address := (Hex.padded 8 r.addr.val.toNat).toList
  digits := (Column.fill hexWidth r.hexColumn).toList
  characters := r.bytes.map shown

theorem address_columns (r : Row) :
    r.columns.address = (Hex.padded 8 r.addr.val.toNat).toList := by rw [columns]

theorem toList_text (r : Row) : r.text.toList = r.columns.line ++ ['\n'] := by
  simp [text, columns, Columns.line, asciiColumn]

theorem toList_hexColumn (r : Row) : r.hexColumn.toList =
    [' '].intercalate (r.bytes.map fun b => (Hex.padded 2 b.toNat).toList) := by
  simp [hexColumn, String.toList_intercalate, Function.comp_def]

/-- But for the blanks, the hexadecimal column is the digits of the bytes. -/
theorem filter_digits (r : Row) {p : Char → Bool} (blank : p ' ' = false) :
    r.columns.digits.filter p = (pairs r.bytes).filter p := by
  have joint : [' '].filter p = [] := by simp [blank]
  have filled (n : Nat) : (List.replicate n ' ').filter p = [] := by simp [blank]
  simp only [columns, Column.fill, String.toList_append, String.toList_ofList, List.filter_append,
    filled, List.append_nil, toList_hexColumn]
  exact filter_intercalate joint _

/-- Each byte takes two digits, and all but the last a blank. -/
theorem length_intercalate : ∀ bytes : Bytes,
    ([' '].intercalate (bytes.map fun b => (Hex.padded 2 b.toNat).toList)).length =
      3 * bytes.length - 1
  | [] => rfl
  | [b] => by simp [List.intercalate, Numeral.padded_byte]
  | b :: c :: rest => by
    have later := length_intercalate (c :: rest)
    rw [List.map_cons] at later
    rw [List.map_cons, List.map_cons, List.intercalate_cons_cons, List.length_append,
      List.length_append, later, Numeral.padded_byte]
    simp only [List.length_cons, List.length_nil]
    omega

/-- The bytes of a line fit the hexadecimal column. -/
theorem length_digits {r : Row} (short : r.bytes.length ≤ lineBytes) :
    r.columns.digits.length = hexWidth := by
  have size : r.hexColumn.length = 3 * r.bytes.length - 1 := by
    rw [← String.length_toList, toList_hexColumn, length_intercalate]
  have width : hexWidth = 3 * lineBytes - 1 := rfl
  rw [columns, String.length_toList, Column.length_fill, size]
  omega

theorem length_address (r : Row) : r.columns.address.length = 8 := by
  rw [address_columns]
  exact Numeral.length_padded (by decide) r.addr.val.toNat_lt

theorem shown_ne_newline (b : UInt8) : shown b ≠ '\n' := by
  unfold shown
  split
  next visible =>
    intro same
    have code : b.toNat = 10 := by
      have valid : b.toNat.isValidChar := .inl (b.toNat_lt.trans (by decide))
      have number := congrArg Char.toNat same
      rwa [Char.toNat_ofNat, if_pos valid] at number
    have low := UInt8.le_iff_toNat_le.mp visible.1
    rw [code] at low
    exact absurd low (by decide)
  next => decide

/-- A line ends only where its row ends. -/
theorem newline_not_mem (r : Row) : '\n' ∉ r.columns.line := by
  have other : Numeral.digit? 16 '\n' = none := rfl
  have address : '\n' ∉ r.columns.address := by
    rw [address_columns]
    exact (Numeral.writes_padded 8 _).not_mem other
  have digits : '\n' ∉ r.columns.digits := fun member => by
    have found := List.mem_filter.mpr ⟨member, show ('\n' == '\n') = true from rfl⟩
    rw [r.filter_digits rfl] at found
    exact not_mem_pairs other _ (List.mem_of_mem_filter found)
  have characters : '\n' ∉ r.columns.characters := fun member => by
    obtain ⟨b, -, same⟩ := List.mem_map.mp member
    exact shown_ne_newline b same
  simp [Columns.line, address, digits, characters]

end Row

theorem eq_of_getElem?_rows {base : Addr} {data : Bytes} {k : Nat} {r : Row}
    (place : (rows base data)[k]? = some r) : lineBytes * k < data.length ∧
      r = ⟨base.offset (lineBytes * k), (data.drop (lineBytes * k)).take lineBytes⟩ := by
  rw [rows, List.getElem?_map, List.getElem?_zipIdx, Option.map_map] at place
  obtain ⟨piece, here, rfl⟩ := Option.map_eq_some_iff.mp place
  obtain ⟨inside, rfl⟩ := Bytes.eq_of_getElem?_chunks here
  refine ⟨inside, ?_⟩
  simp only [Function.comp_apply, Nat.zero_add, Nat.mul_comm]

theorem toList_text (base : Addr) (data : Bytes) : (text base data).toList =
    ((rows base data).map fun r => r.columns.line).flatMap (· ++ ['\n']) := by
  rw [text, String.toList_join, List.flatMap_map, List.flatMap_map]
  simp only [Row.toList_text]

/-- A line shows bytes of memory: their address in eight digits, the bytes as data, and a
character for each. -/
structure Shows (line : List Char) (addr : Nat) (bytes : Bytes) : Prop where
  placed : addr < spaceBytes
  laid : line = (columns line).line
  padded : (columns line).address = (Hex.padded 8 addr).toList
  eight : (columns line).address.length = 8
  number : Writes 16 (columns line).address addr
  wide : (columns line).digits.length = Row.hexWidth
  data : Operand.data (String.ofList (columns line).digits) = .ok bytes
  characters : (columns line).characters = bytes.map shown

theorem Row.shows {r : Row} (some : r.bytes ≠ []) (short : r.bytes.length ≤ lineBytes) :
    Shows r.columns.line r.addr.val.toNat r.bytes := by
  have apart := Columns.columns_line r.length_address (Row.length_digits short)
  refine ⟨r.addr.val.toNat_lt, ?_, ?_, ?_, ?_, ?_, ?_, ?_⟩
  all_goals rw [apart]
  · exact r.address_columns
  · exact r.length_address
  · rw [r.address_columns]
    exact Numeral.writes_padded 8 _
  · exact Row.length_digits short
  · exact data_of_filter some (r.filter_digits (by simp [separators]))
  · rfl

theorem length_rows (base : Addr) (data : Bytes) :
    (rows base data).length = (data.length + (lineBytes - 1)) / lineBytes := by
  rw [← Bytes.length_chunks (by decide), ← bytes_rows base, List.length_map]

/-- The hexadecimal columns of the lines are those of the rows. -/
theorem digits_lines (base : Addr) (data : Bytes) :
    ((rows base data).map fun r => r.columns.line).map (fun line => (columns line).digits) =
      (rows base data).map fun r => r.columns.digits := by
  rw [List.map_map]
  refine List.map_congr_left fun r member => ?_
  have piece : r.bytes ∈ Bytes.chunks lineBytes data :=
    bytes_rows base data ▸ List.mem_map_of_mem member
  have short := (Bytes.length_of_mem_chunks piece).2
  exact congrArg Columns.digits (Columns.columns_line r.length_address (Row.length_digits short))

/-- The digits of all lines are those of the data, in order. -/
theorem filter_lines (base : Addr) (data : Bytes) {p : Char → Bool} (blank : p ' ' = false) :
    ((rows base data).flatMap fun r => r.columns.digits).filter p = (pairs data).filter p := by
  have whole : (rows base data).flatMap Row.bytes = data := by
    rw [List.flatMap_def, bytes_rows, Bytes.flatten_chunks _ (by decide)]
  have cut : pairs ((rows base data).flatMap Row.bytes) =
      (rows base data).flatMap fun r => pairs r.bytes := List.flatMap_assoc
  rw [whole] at cut
  rw [cut, List.filter_flatMap, List.filter_flatMap]
  simp only [fun r : Row => r.filter_digits blank]

/-- A page has a line for every line's worth of bytes, and a short one for what is left over. Each
of them shows its bytes behind their address, with all columns in the same places, and the
hexadecimal columns in order, whatever separators they are joined by, are data that is read as all
the bytes. -/
theorem text_lossless {base : Addr} {data : Bytes}
    (fits : base.val.toNat + data.length ≤ spaceBytes) :
    ∃ lines : List (List Char),
      (text base data).toList = lines.flatMap (· ++ ['\n']) ∧
      (∀ line ∈ lines, '\n' ∉ line) ∧
      lines.length = (data.length + (lineBytes - 1)) / lineBytes ∧
      (∀ k line, lines[k]? = some line → Shows line (base.val.toNat + lineBytes * k)
        ((data.drop (lineBytes * k)).take lineBytes)) ∧
      (data ≠ [] → ∀ joint : List Char, (∀ c ∈ joint, c ∈ separators) →
        Operand.data (String.ofList (joint.intercalate (lines.map fun line =>
          (columns line).digits))) = .ok data) := by
  refine ⟨(rows base data).map fun r => r.columns.line, toList_text base data, ?_, ?_, ?_, ?_⟩
  · intro line member
    obtain ⟨r, -, rfl⟩ := List.mem_map.mp member
    exact r.newline_not_mem
  · rw [List.length_map, length_rows]
  · intro k line place
    rw [List.getElem?_map] at place
    obtain ⟨r, here, rfl⟩ := Option.map_eq_some_iff.mp place
    obtain ⟨inside, rfl⟩ := eq_of_getElem?_rows here
    have some : (data.drop (lineBytes * k)).take lineBytes ≠ [] := by
      rw [← List.length_pos_iff, List.length_take, List.length_drop]
      have : 0 < lineBytes := by decide
      omega
    have shows := Row.shows (r := ⟨base.offset (lineBytes * k), _⟩) some (List.length_take_le _ _)
    rwa [Addr.toNat_offset, Nat.mod_eq_of_lt (by omega)] at shows
  · intro some joint separate
    have joined : joint.filter (· ∉ separators) = [] :=
      List.filter_eq_nil_iff.mpr fun c member => by simpa using separate c member
    refine data_of_filter some ?_
    rw [filter_intercalate joined, digits_lines, ← List.flatMap_def]
    exact filter_lines base data (by simp [separators])

theorem text_lossless_barred :
    let page : Bytes := List.replicate 16 0x7c ++ [0x0a]
    text ⟨0x100⟩ page =
      "00000100: 7c 7c 7c 7c 7c 7c 7c 7c 7c 7c 7c 7c 7c 7c 7c 7c  ||||||||||||||||||\n" ++
      "00000110: 0a                                               |.|\n" ∧
    ∃ lines : List (List Char),
      (text ⟨0x100⟩ page).toList = lines.flatMap (· ++ ['\n']) ∧ lines.length = 2 ∧
      (∀ line, lines[1]? = some line → Shows line 0x110 [0x0a]) ∧
      Operand.data (String.ofList (['\n'].intercalate (lines.map fun line =>
        (columns line).digits))) = .ok page := by
  intro page
  obtain ⟨lines, whole, -, number, shows, read⟩ := @text_lossless ⟨0x100⟩ page (by decide)
  have separate : ∀ c ∈ ['\n'], c ∈ separators := by simp [separators]
  exact ⟨by decide +kernel, lines, whole, number.trans (by decide), shows 1,
    read (by decide) ['\n'] separate⟩

end Dump

end LineBridge
