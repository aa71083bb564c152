import Mathlib
import LineBridge.Ledger
import LineBridge.Proofs.Pieces

/-! The batches of a request as ranges of the bus. They are cut at line boundaries, which makes
them ascend without a gap, keeps two of them out of any one line, and leaves room for a fragment
at either end only. A request that stops early has made a first part of the same batches. -/

namespace LineBridge

namespace Batch

/-- The batch that is reported for a piece. -/
def ofPiece (direction : Direction) (moved : Addr × Piece) : Batch :=
  ⟨direction, moved.2.kind, moved.1, moved.2.bytes, moved.2.lines⟩

def start (b : Batch) : Nat := b.addr.val.toNat

/-- The first place behind the batch, which for the last line of the space is its size. -/
def stop (b : Batch) : Nat := b.start + b.bytes

/-- A byte of the line with this number is in the batch. -/
def Touches (b : Batch) (line : Nat) : Prop :=
  line * lineBytes < b.stop ∧ b.start < (line + 1) * lineBytes

/-- A fragment of a line, or whole lines of at most `most` bytes. -/
def Proper (most : Nat) (b : Batch) : Prop :=
  match b.kind with
  | .partialLine =>
    1 ≤ b.bytes ∧ b.bytes ≤ 15 ∧ b.addr.lineOffset + b.bytes ≤ lineBytes ∧ b.lines = 1
  | .lines =>
    b.addr.IsLineAligned ∧ 1 ≤ b.lines ∧ b.bytes = b.lines * lineBytes ∧ b.bytes ≤ most

/-- How many of the batches are fragments. -/
def fragments (batches : List Batch) : Nat := batches.countP (·.kind = .partialLine)

/-- Each batch starts where the one before it stops. -/
inductive Tiles : Nat → List Batch → Nat → Prop
  | nil (start : Nat) : Tiles start [] start
  | cons {b : Batch} {rest : List Batch} {stop : Nat} (later : Tiles b.stop rest stop) :
    Tiles b.start (b :: rest) stop

/-- What is promised of the batches of a request. -/
structure Tiling (direction : Direction) (most start stop : Nat) (batches : List Batch) : Prop where
  directed : ∀ b ∈ batches, b.direction = direction
  proper : ∀ b ∈ batches, b.Proper most
  tiles : Tiles start batches stop
  ascending : batches.Pairwise fun a b => a.stop ≤ b.start
  apart : batches.Pairwise fun a b => ∀ line, ¬(a.Touches line ∧ b.Touches line)
  ends : fragments batches ≤ 2

/-- Proper batches one behind another, of which all but the last stop between two lines. -/
inductive Cut (direction : Direction) (most : Nat) : Nat → List Batch → Nat → Prop
  | nil (start : Nat) : Cut direction most start [] start
  | cons {b : Batch} {rest : List Batch} {stop : Nat} (directed : b.direction = direction)
    (proper : b.Proper most) (between : rest = [] ∨ lineBytes ∣ b.stop)
    (later : Cut direction most b.stop rest stop) : Cut direction most b.start (b :: rest) stop

theorem Proper.bytes_pos {most : Nat} {b : Batch} (proper : b.Proper most) : 0 < b.bytes := by
  unfold Proper at proper
  split at proper
  · exact proper.1
  · obtain ⟨-, some, size, -⟩ := proper
    rw [size]
    exact Nat.mul_pos some (by decide)

/-- A fragment that starts a line does not fill it. -/
theorem Proper.not_fragment {most : Nat} {b : Batch} (proper : b.Proper most)
    (starts : lineBytes ∣ b.start) (stops : lineBytes ∣ b.stop) : b.kind ≠ .partialLine := by
  intro fragment
  rw [Proper, fragment] at proper
  have part : lineBytes ∣ b.bytes := (Nat.dvd_add_right starts).mp stops
  exact absurd (Nat.le_of_dvd proper.1 part) (Nat.not_le.mpr (Nat.lt_succ_of_le proper.2.1))

namespace Cut

variable {direction : Direction} {most start stop : Nat} {batches : List Batch}

theorem tiles (cut : Cut direction most start batches stop) : Tiles start batches stop := by
  induction cut with
  | nil start => exact .nil start
  | cons _ _ _ _ ih => exact .cons ih

theorem directed (cut : Cut direction most start batches stop) :
    ∀ b ∈ batches, b.direction = direction := by
  induction cut with
  | nil => exact List.forall_mem_nil _
  | cons directed _ _ _ ih => exact List.forall_mem_cons.mpr ⟨directed, ih⟩

theorem proper (cut : Cut direction most start batches stop) : ∀ b ∈ batches, b.Proper most := by
  induction cut with
  | nil => exact List.forall_mem_nil _
  | cons _ proper _ _ ih => exact List.forall_mem_cons.mpr ⟨proper, ih⟩

/-- No batch starts in front of the first. -/
theorem le_start (cut : Cut direction most start batches stop) :
    ∀ b ∈ batches, start ≤ b.start := by
  induction cut with
  | nil => exact List.forall_mem_nil _
  | cons _ _ _ _ ih =>
    refine List.forall_mem_cons.mpr ⟨Nat.le_refl _, fun b later => ?_⟩
    exact (Nat.le_add_right _ _).trans (ih b later)

theorem ascending (cut : Cut direction most start batches stop) :
    batches.Pairwise fun a b => a.stop ≤ b.start := by
  induction cut with
  | nil => exact .nil
  | cons _ _ _ later ih => exact .cons later.le_start ih

/-- What stops between two lines shares no line with what comes behind it. -/
theorem apart (cut : Cut direction most start batches stop) :
    batches.Pairwise fun a b => ∀ line, ¬(a.Touches line ∧ b.Touches line) := by
  induction cut with
  | nil => exact .nil
  | cons _ _ between later ih =>
    refine .cons ?_ ih
    rcases between with rfl | between
    · exact List.forall_mem_nil _
    intro b behind line both
    obtain ⟨⟨first, -⟩, -, second⟩ := both
    obtain ⟨lines, whole⟩ := between
    have order := later.le_start b behind
    rw [whole] at order first
    have inside : line < lines := by
      rw [Nat.mul_comm] at first
      exact Nat.lt_of_mul_lt_mul_left first
    have beyond : (line + 1) * lineBytes ≤ lines * lineBytes := Nat.mul_le_mul_right _ inside
    rw [Nat.mul_comm lineBytes lines] at order
    omega

/-- From the start of a line on, only the last batch is a fragment. -/
theorem fragments_le_one (cut : Cut direction most start batches stop)
    (aligned : lineBytes ∣ start) : fragments batches ≤ 1 := by
  induction cut with
  | nil => exact Nat.zero_le _
  | cons _ proper between _ ih =>
    rcases between with rfl | between
    · exact List.countP_le_length
    · have whole := proper.not_fragment aligned between
      rw [fragments, List.countP_cons_of_neg (by simpa using whole)]
      exact ih between

theorem fragments_le_two (cut : Cut direction most start batches stop) :
    fragments batches ≤ 2 := by
  cases cut with
  | nil => exact Nat.zero_le _
  | @cons b rest _ _ _ between later =>
    have behind : fragments rest ≤ 1 := by
      rcases between with rfl | between
      · exact Nat.zero_le _
      · exact later.fragments_le_one between
    rw [fragments, List.countP_cons]
    rw [fragments] at behind
    split <;> omega

theorem tiling (cut : Cut direction most start batches stop) :
    Tiling direction most start stop batches where
  directed := cut.directed
  proper := cut.proper
  tiles := cut.tiles
  ascending := cut.ascending
  apart := cut.apart
  ends := cut.fragments_le_two

theorem start_le_stop (cut : Cut direction most start batches stop) : start ≤ stop := by
  induction cut with
  | nil => exact Nat.le_refl _
  | cons _ _ _ _ ih => exact (Nat.le_add_right _ _).trans ih

/-- A request that fails on the way has made a proper first part of its batches. -/
theorem take (cut : Cut direction most start batches stop) {k : Nat} (part : k < batches.length) :
    ∃ reached, reached < stop ∧ Cut direction most start (batches.take k) reached := by
  induction cut generalizing k with
  | nil => exact absurd part (Nat.not_lt_zero k)
  | @cons b rest stop directed proper between later ih =>
    cases k with
    | zero =>
      refine ⟨b.start, ?_, .nil _⟩
      have some := proper.bytes_pos
      exact Nat.lt_of_lt_of_le (Nat.lt_add_of_pos_right some) later.start_le_stop
    | succ k =>
      obtain ⟨reached, short, first⟩ := ih (Nat.lt_of_succ_lt_succ part)
      refine ⟨reached, short, .cons directed proper ?_ first⟩
      rcases between with rfl | between
      · exact .inl List.take_nil
      · exact .inr between

end Cut

end Batch

namespace Piece

/-- A piece takes all that is left, or it stops between two lines. -/
theorem first_ends (batch : Nat) (addr : Addr) (len : Nat) :
    (first batch addr len).bytes = len ∨
      lineBytes ∣ addr.val.toNat + (first batch addr len).bytes := by
  have whole := addr.lineBase_add_lineOffset
  have line := addr.lineBytes_dvd_lineBase
  have offset := addr.lineOffset_lt
  unfold first
  split
  · rcases Nat.le_total len (lineBytes - addr.lineOffset) with short | long
    · exact .inl (Nat.min_eq_right short)
    · right
      have full : addr.val.toNat + (lineBytes - addr.lineOffset) =
          addr.lineBase.val.toNat + lineBytes := by omega
      rw [Nat.min_eq_left long, full]
      exact Nat.dvd_add_self_right.mpr line
  · next aligned =>
    split
    · right
      rw [← whole, not_not.mp aligned]
      exact (Nat.dvd_add_right line).mpr (Nat.dvd_mul_left _ _)
    · exact .inl rfl

theorem proper_first {most : Nat} (room : lineBytes ≤ most) (direction : Direction) (addr : Addr)
    {len : Nat} (nonempty : len ≠ 0) :
    (Batch.ofPiece direction (addr, first (most / lineBytes) addr len)).Proper most := by
  have offset := addr.lineOffset_lt
  have batch : 1 ≤ most / lineBytes := Nat.div_pos room (by decide)
  unfold first
  split
  · next inside =>
    have short := Nat.min_le_left (lineBytes - addr.lineOffset) len
    refine ⟨?_, ?_, ?_, rfl⟩
    · change 1 ≤ min (lineBytes - addr.lineOffset) len
      omega
    · change min (lineBytes - addr.lineOffset) len ≤ 15
      simp only [lineBytes] at short ⊢
      omega
    · change addr.lineOffset + min (lineBytes - addr.lineOffset) len ≤ lineBytes
      omega
  · next aligned =>
    have aligned : addr.lineOffset = 0 := not_not.mp aligned
    split
    · next long =>
      refine ⟨aligned, ?_, rfl, ?_⟩
      · have some : 1 ≤ len / lineBytes := Nat.div_pos long (by decide)
        exact le_min some (Nat.le_max_left _ _)
      · change min (len / lineBytes) (max 1 (most / lineBytes)) * lineBytes ≤ most
        rw [Nat.max_eq_right batch]
        exact (Nat.mul_le_mul_right _ (Nat.min_le_right _ _)).trans (Nat.div_mul_le_self _ _)
    · next short =>
      have short : len ≤ 15 := Nat.le_of_lt_succ (Nat.not_le.mp short)
      refine ⟨Nat.pos_of_ne_zero nonempty, short, ?_, rfl⟩
      change addr.lineOffset + len ≤ lineBytes
      rw [aligned, Nat.zero_add]
      exact Nat.le_of_lt (Nat.lt_succ_of_le short)

end Piece

/-- The pieces of a request that stays in the space, as batches. Only a request that is complete
can wrap around the end of the space. -/
theorem cut_pieces {most : Nat} (room : lineBytes ≤ most) (direction : Direction) {addr : Addr}
    {len : Nat} (spans : addr.Spans len) :
    Batch.Cut direction most addr.val.toNat
      ((pieces (most / lineBytes) addr len).map (Batch.ofPiece direction))
      (addr.val.toNat + len) := by
  induction addr, len using pieces_induction (most / lineBytes) with
  | done addr =>
    rw [pieces_zero]
    exact .nil _
  | step addr len nonempty ih =>
    have proper := Piece.proper_first room direction addr nonempty
    have part := Piece.bytes_first_le (most / lineBytes) addr len
    have ends := Piece.first_ends (most / lineBytes) addr len
    rw [pieces_of_ne_zero _ _ nonempty, List.map_cons]
    generalize Piece.first (most / lineBytes) addr len = piece at *
    rcases Nat.eq_or_lt_of_le part with last | inner
    · rw [last, Nat.sub_self, pieces_zero, List.map_nil]
      refine .cons rfl proper (.inl rfl) ?_
      rw [← last]
      exact .nil _
    · have place : (addr.offset piece.bytes).val.toNat = addr.val.toNat + piece.bytes := by
        rw [Addr.toNat_offset, Nat.mod_eq_of_lt]
        unfold Addr.Spans at spans
        omega
      have later := ih (spans.rest part)
      have total : addr.val.toNat + piece.bytes + (len - piece.bytes) = addr.val.toNat + len := by
        omega
      rw [place, total] at later
      exact .cons rfl proper (.inr (ends.resolve_left (Nat.ne_of_lt inner))) later

end LineBridge
