import Mathlib
import LineBridge.Proofs.Requests
import LineBridge.Proofs.Validation

/-! A write that fails is torn only between its pieces. Whatever access is lost and whenever a
wait runs out, memory holds a prefix of the data that ends where a piece ends, and the host has
reported all of these pieces, or all but the last. -/

namespace LineBridge

variable {σ : Type} {view : σ → Device} {lossy : Prop}

/-- Where the first `i` pieces of a request end, counted in bytes from its start. -/
def boundary (batch : Nat) (addr : Addr) (len i : Nat) : Nat :=
  movedBytes ((pieces batch addr len).take i)

theorem boundary_zero (batch : Nat) (addr : Addr) (len : Nat) : boundary batch addr len 0 = 0 := rfl

theorem boundary_succ (batch : Nat) (addr : Addr) {len : Nat} (nonempty : len ≠ 0) (i : Nat) :
    boundary batch addr len (i + 1) = (Piece.first batch addr len).bytes +
      boundary batch (addr.offset (Piece.first batch addr len).bytes)
        (len - (Piece.first batch addr len).bytes) i := by
  unfold boundary
  rw [pieces_of_ne_zero batch addr nonempty, List.take_succ_cons, movedBytes_cons]

/-- Every piece has bytes in it. -/
theorem boundary_lt_succ (batch : Nat) (addr : Addr) (len : Nat) {i : Nat}
    (inside : i < (pieces batch addr len).length) :
    boundary batch addr len i < boundary batch addr len (i + 1) := by
  induction addr, len using pieces_induction batch generalizing i with
  | done addr =>
    rw [pieces_zero] at inside
    exact absurd inside (Nat.not_lt_zero i)
  | step addr len nonempty ih =>
    have some := Piece.bytes_first_pos batch addr nonempty
    rw [boundary_succ batch addr nonempty]
    cases i with
    | zero =>
      rw [boundary_zero]
      omega
    | succ i =>
      rw [pieces_of_ne_zero batch addr nonempty, List.length_cons] at inside
      have later := ih (i := i) (by omega)
      rw [boundary_succ batch addr nonempty]
      omega

theorem boundary_length (batch : Nat) (addr : Addr) (len : Nat) :
    boundary batch addr len (pieces batch addr len).length = len := by
  induction addr, len using pieces_induction batch with
  | done addr =>
    rw [pieces_zero, List.length_nil, boundary_zero]
  | step addr len nonempty ih =>
    have part := Piece.bytes_first_le batch addr len
    rw [pieces_of_ne_zero batch addr nonempty, List.length_cons,
      boundary_succ batch addr nonempty, ih]
    omega

/-- Reported batches that wrote. -/
def Host.Outline.written (o : Host.Outline) : Nat :=
  o.batches.countP (·.direction = .write)

theorem Host.Outline.written_moved {o : Host.Outline} (observed : o.observed = true)
    (done : List (Addr × Piece)) : (o.moved .write done).written = o.written + done.length := by
  induction done generalizing o with
  | nil => rfl
  | cons head rest ih =>
    obtain ⟨addr, piece⟩ := head
    have still :
        (o.reported ⟨.write, piece.kind, addr, piece.bytes, piece.lines⟩).observed = true := by
      rw [reported, if_pos observed]
      exact observed
    rw [moved, ih still, reported, if_pos observed]
    simp only [written, List.countP_cons, decide_true, if_true, List.length_cons]
    omega

namespace Memory

/-- Batches that the host has reported as written. -/
def written (m : Memory σ) : Nat := (batchesOf m.host.events).countP (·.direction = .write)

theorem written_of_outline {m m' : Memory σ} (observed : m.host.observed = true)
    {done : List (Addr × Piece)}
    (outlined : m'.host.outline = m.host.outline.moved .write done) :
    m'.written = m.written + done.length := by
  change m'.host.outline.written = m.host.outline.written + done.length
  rw [outlined, Host.Outline.written_moved observed]

/-- How a write of `data` to `addr` that began in `m` may end: memory holds the data up to the
end of its first `i` pieces and is as before behind it, and `k` pieces were reported. -/
def EndsAtBoundary (view : σ → Device) (addr : Addr) (data : Bytes) (m : Memory σ)
    (ending : Except Fault TransferReport × Memory σ) : Prop :=
  let batch := m.transfer.writeBatchLines
  let count := (pieces batch addr data.length).length
  let before := (view m.host.state).memory.byteAt
  let after := (view ending.2.host.state).memory.byteAt
  ∃ k i, ending.2.written = m.written + k ∧ (i = k ∨ i = k + 1) ∧ i ≤ count ∧
    after = Flat.write before addr (data.take (boundary batch addr data.length i)) ∧
    (∀ b, data.length ≤ addr.distance b → after b = before b) ∧
    ((∃ report, ending.1 = .ok report) → i = count)

theorem write_ends_at_boundary {channel : Channel σ} (fronts : channel.Fronts view lossy)
    {s : Settings} (valid : s.validate = .ok ()) (m : Memory σ) (transfer : m.transfer = s.transfer)
    (observed : m.host.observed = true) (idle : (view m.host.state).Idle) {addr : Addr}
    {data : Bytes} (spans : addr.Spans data.length) :
    EndsAtBoundary view addr data m ((write channel.link addr data).run m) := by
  have fits : m.transfer.writeBatchLines ≤ maxBatchLines := by
    rw [transfer]
    exact (Settings.fitsBatch_of_validate valid).2.lines_le
  have ending := write_ends fronts (o := m.host.outline) fits spans _ idle m ⟨rfl, rfl, rfl⟩
  cases run : (write channel.link addr data).run m with
  | mk outcome m' =>
    rw [run] at ending
    cases outcome with
    | ok report =>
      obtain ⟨-, outlined, -, becomes, -⟩ := ending
      refine ⟨_, _, written_of_outline observed outlined, .inl rfl, Nat.le_refl _, ?_, ?_, ?_⟩
      · rw [boundary_length, List.take_length]
        exact becomes.memory
      · intro b outside
        rw [becomes.memory]
        exact Flat.write_of_le outside
      · exact fun _ => rfl
    | error e =>
      obtain ⟨-, k, i, inside, either, outlined, becomes, -⟩ := ending
      have reported := written_of_outline observed outlined
      rw [List.length_take_of_le (Nat.le_of_lt inside)] at reported
      refine ⟨k, i, reported, either, by omega, becomes.memory, ?_, ?_⟩
      · intro b outside
        rw [becomes.memory]
        refine Flat.write_of_le ((List.length_take_le' _ _).trans outside)
      · intro after
        obtain ⟨_, ⟨⟩⟩ := after

/-- A write of a fragment, two lines and a fragment, with one access cut off on the way. -/
theorem write_ends_at_boundary_cut :
    let m : Memory (Bench.Probed Device) :=
      { host := { state := { inner := {}, cutAt := some 40 }, observed := true } }
    ({} : Settings).validate = .ok () ∧ m.host.state.inner.Idle ∧ Addr.Spans ⟨8⟩ 48 ∧
      EndsAtBoundary Bench.Probed.inner ⟨8⟩ (List.replicate 48 7) m
        ((write (Bench.Probed.channel Device.channel).link ⟨8⟩ (List.replicate 48 7)).run m) := by
  intro m
  have valid : ({} : Settings).validate = .ok () := by decide
  have idle : m.host.state.inner.Idle := ⟨rfl, rfl, rfl, rfl, rfl⟩
  have spans : Addr.Spans ⟨8⟩ 48 := by decide
  refine ⟨valid, idle, spans, ?_⟩
  exact write_ends_at_boundary Channel.fronts_probed valid m rfl rfl idle spans

end Memory

end LineBridge
