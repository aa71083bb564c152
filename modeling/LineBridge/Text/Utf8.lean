import LineBridge.Bytes

/-! Text in bytes. A character takes one to four bytes, and the first one says how many; bytes
that form no character are taken together as long as they begin one. -/

namespace LineBridge.Utf8

/-- What a first byte says: the bits that it holds, how many bytes follow, and the bounds of
the next one, which rule out long forms, surrogates and numbers that are too large. -/
structure Lead where
  bits : Nat
  more : Nat
  low : UInt8 := 0x80
  high : UInt8 := 0xbf

def lead? (b : UInt8) : Option Lead :=
  if b < 0x80 then some ⟨b.toNat, 0, 0x80, 0xbf⟩
  else if b < 0xc2 then none
  else if b < 0xe0 then some ⟨b.toNat - 0xc0, 1, 0x80, 0xbf⟩
  else if b < 0xf0 then
    some ⟨b.toNat - 0xe0, 2, if b = 0xe0 then 0xa0 else 0x80, if b = 0xed then 0x9f else 0xbf⟩
  else if b < 0xf5 then
    some ⟨b.toNat - 0xf0, 3, if b = 0xf0 then 0x90 else 0x80, if b = 0xf4 then 0x8f else 0xbf⟩
  else none

/-- Takes the bytes that follow a first one. -/
def finish (bits : Nat) : Nat → UInt8 → UInt8 → Bytes → Option Char × Bytes
  | 0, _, _, rest => (some (Char.ofNat bits), rest)
  | _ + 1, _, _, [] => (none, [])
  | more + 1, low, high, b :: rest =>
    if low ≤ b ∧ b ≤ high then finish (bits * 64 + (b.toNat - 0x80)) more 0x80 0xbf rest
    else (none, b :: rest)

theorem length_finish_le (bits more : Nat) (low high : UInt8) (rest : Bytes) :
    (finish bits more low high rest).2.length ≤ rest.length := by
  fun_induction finish bits more low high rest with
  | case1 => simp
  | case2 => simp
  | case3 bits more low high b rest h ih =>
    simp only [List.length_cons]
    omega
  | case4 => simp

/-- A character, or none where there is a malformed one, and the bytes behind it. -/
def next (b : UInt8) (rest : Bytes) : Option Char × Bytes :=
  match lead? b with
  | none => (none, rest)
  | some l => finish l.bits l.more l.low l.high rest

theorem length_next_le (b : UInt8) (rest : Bytes) : (next b rest).2.length ≤ rest.length := by
  unfold next
  split
  · simp
  · exact length_finish_le ..

/-- The characters in order, with `none` for each malformed one. -/
def decode : Bytes → List (Option Char)
  | [] => []
  | b :: rest => (next b rest).1 :: decode (next b rest).2
termination_by bytes => bytes.length
decreasing_by
  have := length_next_le b rest
  simp only [List.length_cons]
  omega

theorem next_of_ascii {b : UInt8} (ascii : b < 0x80) (rest : Bytes) :
    next b rest = (some (Char.ofNat b.toNat), rest) := by
  simp [next, lead?, ascii, finish]

theorem decode_of_ascii {bytes : Bytes} (ascii : ∀ b ∈ bytes, b < 0x80) :
    decode bytes = bytes.map fun b => some (Char.ofNat b.toNat) := by
  induction bytes with
  | nil => simp [decode]
  | cons b rest ih =>
    have first := ascii b (List.mem_cons_self)
    have later := ih fun c inside => ascii c (List.mem_cons_of_mem b inside)
    rw [decode, next_of_ascii first, later, List.map_cons]

/-- The text of bytes that are well-formed throughout. -/
def text? (bytes : Bytes) : Option String := ((decode bytes).mapM id).map String.ofList

/-- The text of any bytes; a replacement character stands for each malformed one. -/
def shown (bytes : Bytes) : String :=
  String.ofList ((decode bytes).map fun c => c.getD '\ufffd')

def encode (text : String) : Bytes := text.toList.flatMap String.utf8EncodeChar

end LineBridge.Utf8
