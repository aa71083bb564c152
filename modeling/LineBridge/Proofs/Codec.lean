import Mathlib
import LineBridge.Remote.Server

/-! Headers on the wire read back as they were written, whatever follows them. -/

namespace LineBridge

namespace Bytes

theorem ofLittleEndian_littleEndian_of_lt {width value : Nat} (small : value < capacity width) :
    ofLittleEndian (littleEndian width value) = value := by
  rw [ofLittleEndian_littleEndian, Nat.mod_eq_of_lt small]

/-- A word of four bytes, somewhere in a string. -/
theorem take_littleEndian (width value : Nat) (rest : Bytes) :
    (littleEndian width value ++ rest).take width = littleEndian width value :=
  List.take_left' (length_littleEndian width value)

theorem drop_littleEndian (width value : Nat) (rest : Bytes) :
    (littleEndian width value ++ rest).drop width = rest :=
  List.drop_left' (length_littleEndian width value)

theorem read_word (word : UInt32) :
    UInt32.ofNat (ofLittleEndian (littleEndian 4 word.toNat)) = word := by
  rw [ofLittleEndian_littleEndian_of_lt word.toNat_lt, UInt32.ofNat_toNat]

theorem read_long (word : UInt64) :
    UInt64.ofNat (ofLittleEndian (littleEndian 8 word.toNat)) = word := by
  rw [ofLittleEndian_littleEndian_of_lt word.toNat_lt, UInt64.ofNat_toNat]

/-- What was read as a number is written back as it was. -/
theorem littleEndian_ofLittleEndian (bytes : Bytes) :
    littleEndian bytes.length (ofLittleEndian bytes) = bytes := by
  induction bytes with
  | nil => rfl
  | cons byte rest ih =>
    have low : UInt8.ofNat (byte.toNat + 256 * ofLittleEndian rest) = byte := by
      apply UInt8.toNat_inj.mp
      rw [UInt8.toNat_ofNat', Nat.add_mul_mod_self_left, Nat.mod_eq_of_lt byte.toNat_lt]
    have high : (byte.toNat + 256 * ofLittleEndian rest) / 256 = ofLittleEndian rest := by
      have bound := byte.toNat_lt
      omega
    rw [List.length_cons, ofLittleEndian, littleEndian, low, high, ih]

theorem write_word {bytes : Bytes} (whole : bytes.length = 4) :
    littleEndian 4 (UInt32.ofNat (ofLittleEndian bytes)).toNat = bytes := by
  have small : ofLittleEndian bytes < capacity 4 := by
    have bound := ofLittleEndian_lt bytes
    rwa [whole] at bound
  rw [UInt32.toNat_ofNat_of_lt' small, ← whole, littleEndian_ofLittleEndian]

theorem write_long {bytes : Bytes} (whole : bytes.length = 8) :
    littleEndian 8 (UInt64.ofNat (ofLittleEndian bytes)).toNat = bytes := by
  have small : ofLittleEndian bytes < capacity 8 := by
    have bound := ofLittleEndian_lt bytes
    rwa [whole] at bound
  rw [UInt64.toNat_ofNat_of_lt' small, ← whole, littleEndian_ofLittleEndian]

end Bytes

namespace Remote

open Bytes

theorem CommandHeader.decode_encode (h : CommandHeader) (rest : Bytes) :
    CommandHeader.decode (h.encode ++ rest) = .ok h := by
  have addr : (((h.encode ++ rest).drop 1).take 4) = littleEndian 4 h.addr.toNat := by
    simp only [encode, List.cons_append, List.drop_succ_cons, List.drop_zero, List.append_assoc]
    exact take_littleEndian ..
  have data : (((h.encode ++ rest).drop 5).take 8) = littleEndian 8 h.data.toNat := by
    simp only [encode, List.cons_append, List.drop_succ_cons, List.append_assoc]
    rw [drop_littleEndian, take_littleEndian]
  have count : (((h.encode ++ rest).drop 13).take 4) = littleEndian 4 h.count.toNat := by
    simp only [encode, List.cons_append, List.drop_succ_cons, List.append_assoc]
    rw [show 12 = 4 + 8 from rfl, ← List.drop_drop, drop_littleEndian, drop_littleEndian,
      take_littleEndian]
  have op : (h.encode ++ rest).headD 0 = h.op.code := rfl
  rw [decode, op, Operation.ofCode?_code, addr, data, count]
  simp only [read_word, read_long]

/-- Only the first byte can be wrong. -/
theorem CommandHeader.unknown_of_decode {bytes : Bytes} {cause : LinkFault}
    (undecoded : CommandHeader.decode bytes = .error cause) :
    Operation.ofCode? (bytes.headD 0) = none ∧ cause = .unknownOperation (bytes.headD 0) := by
  unfold decode at undecoded
  dsimp only at undecoded
  split at undecoded
  · next unknown =>
    cases undecoded
    exact ⟨unknown, rfl⟩
  · cases undecoded

/-- A header is written back as it was read. -/
theorem CommandHeader.encode_of_decode {bytes : Bytes} (whole : bytes.length = commandBytes)
    {h : CommandHeader} (decoded : CommandHeader.decode bytes = .ok h) : h.encode = bytes := by
  obtain ⟨code, fields, rfl⟩ : ∃ code fields, bytes = code :: fields :=
    List.exists_cons_of_length_eq_add_one whole
  have size : fields.length = 16 := Nat.succ.inj whole
  unfold decode at decoded
  dsimp only at decoded
  split at decoded
  · cases decoded
  · next op known =>
    cases decoded
    have first : (fields.take 4).length = 4 := by rw [List.length_take, size]; rfl
    have second : ((fields.drop 4).take 8).length = 8 := by
      rw [List.length_take, List.length_drop, size]
      rfl
    have third : ((fields.drop 12).take 4).length = 4 := by
      rw [List.length_take, List.length_drop, size]
      rfl
    have all : (fields.drop 12).take 4 = (fields.drop 4).drop 8 := by
      rw [List.drop_drop, List.take_of_length_le]
      rw [List.length_drop, size]
    have code : op.code = code := Operation.code_of_ofCode? known
    simp only [encode, List.drop_succ_cons, List.drop_zero]
    rw [write_word first, write_long second, write_word third, all, List.append_assoc,
      List.take_append_drop, List.take_append_drop, code]

theorem ReplyHeader.decode_encode (h : ReplyHeader) (rest : Bytes) :
    ReplyHeader.decode (h.encode ++ rest) = h := by
  have data : (h.encode ++ rest).take 8 = littleEndian 8 h.data.toNat := by
    rw [encode, List.append_assoc, take_littleEndian]
  have success : (h.encode ++ rest).drop 8 = (if h.success then 1 else 0) :: rest := by
    rw [encode, List.append_assoc, drop_littleEndian]
    rfl
  rw [decode, data, success, read_long]
  cases h with
  | mk word flag => cases flag <;> simp

theorem CommandHeader.decode_encode_self (h : CommandHeader) : decode h.encode = .ok h := by
  have decoded := decode_encode h []
  rwa [List.append_nil] at decoded

theorem ReplyHeader.decode_encode_self (h : ReplyHeader) : decode h.encode = h := by
  have decoded := decode_encode h []
  rwa [List.append_nil] at decoded

variable {τ : Type} (channel : Channel τ)

/-- A service that is sent nothing more ends well. -/
theorem serveFrom_nil (t : τ) (answered : Nat) (replies : List Bytes) :
    serveFrom channel [] t answered replies = ⟨.ok answered, replies.reverse.flatten, t⟩ := by
  rw [serveFrom, if_pos (by decide)]

end Remote

end LineBridge
