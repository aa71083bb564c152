import Mathlib
import LineBridge.Proofs.Codec
import LineBridge.Proofs.Outcome

/-! What a stream delivers. It may cut what there is to read into pieces of any size, as long as no
piece is empty and none is out of order; so what was sent whole is read whole. -/

namespace LineBridge

open LineBridge.Action (Ends)

variable {σ : Type}

/-- What is left to read stands in `leaves`; a read takes some of it. -/
structure ByteStream.Delivers (stream : ByteStream σ) (leaves : σ → Bytes → Prop) : Prop where
  read : ∀ count incoming, 0 < count → incoming ≠ [] →
    Ends (leaves · incoming) (stream.read count)
      (fun got s => got ≠ [] ∧ got.length ≤ count ∧
        ∃ rest, incoming = got ++ rest ∧ leaves s rest)
      (fun _ _ => False)

namespace ByteStream.Delivers

variable {stream : ByteStream σ} {leaves : σ → Bytes → Prop} (delivers : stream.Delivers leaves)
include delivers

/-- However a stream cuts what it delivers, the bytes asked for are put together again. -/
theorem collectFrom_ends (rest : Bytes) {count : Nat} {left : Bytes} {got : Array UInt8}
    (all : got.size + left.length = count) :
    Ends (leaves · (left ++ rest)) (stream.collectFrom count got)
      (fun bytes s => bytes = got.toList ++ left ∧ leaves s rest) (fun _ _ => False) := by
  -- on what is still missing: every read takes a part of it that is not empty
  induction size : left.length using Nat.strongRecOn generalizing left got with
  | ind size ih =>
    subst size
    rw [collectFrom]
    split
    · next short =>
      have some : left ++ rest ≠ [] := by
        intro none
        rw [(List.append_eq_nil_iff.mp none).1, List.length_nil] at all
        omega
      apply Ends.bind (delivers.read (count - got.size) (left ++ rest) (by omega) some)
      intro piece s taken
      obtain ⟨nonempty, fits, later, split, leaves⟩ := taken
      have within : piece.length ≤ left.length := by omega
      obtain ⟨ahead, rfl⟩ : piece <+: left :=
        List.prefix_of_prefix_length_le ⟨later, split.symm⟩ ⟨rest, rfl⟩ within
      rw [List.append_assoc] at split
      have behind : later = ahead ++ rest := (List.append_cancel_left split).symm
      subst behind
      have positive : piece.length ≠ 0 := fun none =>
        nonempty (List.length_eq_zero_iff.mp none)
      rw [List.length_append] at all
      have grown : (got ++ piece).toList = got.toList ++ piece := Array.toList_appendList
      have size : (got ++ piece).size = got.size + piece.length := by
        rw [← Array.length_toList, grown, List.length_append, Array.length_toList]
      rw [if_neg positive]
      have later := @ih ahead.length (by rw [List.length_append]; omega) ahead (got ++ piece)
        (by omega) rfl
      rw [grown, List.append_assoc] at later
      exact later s leaves
    · have none : left = [] := List.length_eq_zero_iff.mp (by omega)
      subst none
      exact Ends.pure fun s leaves => ⟨(List.append_nil _).symm, leaves⟩

theorem collect_ends (bytes rest : Bytes) :
    Ends (leaves · (bytes ++ rest)) (stream.collect bytes.length)
      (fun got s => got = bytes ∧ leaves s rest) (fun _ _ => False) :=
  delivers.collectFrom_ends rest (Nat.zero_add _)

theorem receive_ends (bytes rest : Bytes) :
    Ends (leaves · (bytes ++ rest)) (stream.receive bytes.length)
      (fun got s => got = bytes ∧ leaves s rest) (fun _ _ => False) := by
  apply Ends.bind (delivers.collect_ends bytes rest)
  rintro got s ⟨rfl, leaves⟩
  rw [if_neg (Nat.lt_irrefl _)]
  exact ⟨rfl, leaves⟩

theorem nextCommand_ends (h : Remote.CommandHeader) (rest : Bytes) :
    Ends (leaves · (h.encode ++ rest)) (Remote.nextCommand stream)
      (fun got s => got = some h ∧ leaves s rest) (fun _ _ => False) := by
  have collected := delivers.collect_ends h.encode rest
  rw [h.length_encode] at collected
  apply Ends.bind collected
  rintro got s ⟨rfl, left⟩
  rw [h.length_encode, if_neg (Nat.lt_irrefl _), h.decode_encode_self]
  exact ⟨rfl, left⟩

theorem nextReply_ends (h : Remote.ReplyHeader) (rest : Bytes) :
    Ends (leaves · (h.encode ++ rest)) (Remote.nextReply stream)
      (fun got s => got = h ∧ leaves s rest) (fun _ _ => False) := by
  have received := delivers.receive_ends h.encode rest
  rw [h.length_encode] at received
  apply Ends.bind received
  rintro got s ⟨rfl, left⟩
  exact ⟨h.decode_encode_self, left⟩

end ByteStream.Delivers

end LineBridge
