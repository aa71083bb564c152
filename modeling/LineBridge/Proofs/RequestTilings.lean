import Mathlib
import LineBridge.Bench.Script
import LineBridge.Proofs.AnyLink
import LineBridge.Proofs.Requests
import LineBridge.Proofs.Tilings
import LineBridge.Proofs.Validation

/-! Requests on a link of which nothing is known. Whatever it answers and wherever it fails, the
batches that a request reports tile the range from its start up to where it got, its account
agrees with them, and no request in range is refused on the way. -/

namespace LineBridge

open LineBridge.Action (Ends)

variable {σ : Type}

theorem Host.Outline.batches_moved {o : Host.Outline} (observed : o.observed = true)
    (direction : Direction) (done : List (Addr × Piece)) :
    (o.moved direction done).batches =
      (done.map (Batch.ofPiece direction)).reverse ++ o.batches := by
  induction done generalizing o with
  | nil => rfl
  | cons head rest ih =>
    obtain ⟨addr, piece⟩ := head
    have first : o.reported ⟨direction, piece.kind, addr, piece.bytes, piece.lines⟩ =
        { o with batches := Batch.ofPiece direction (addr, piece) :: o.batches } := by
      rw [reported, if_pos observed]
      rfl
    have still : { o with batches := Batch.ofPiece direction (addr, piece) :: o.batches }.observed =
        true := observed
    rw [moved, first, ih still, List.map_cons, List.reverse_cons, List.append_assoc]
    rfl

namespace TransferReport

/-- The account of a request counts its batches and what is in them. -/
structure Counts (r : TransferReport) (batches : List Batch) : Prop where
  bytes : r.bytes = (batches.map (·.bytes)).sum
  count : r.batches = batches.length
  fragments : r.partialLines = Batch.fragments batches

theorem Counts.add {r : TransferReport} {batches : List Batch} (counts : r.Counts batches)
    (direction : Direction) (addr : Addr) (piece : Piece) :
    (r.add piece).Counts (batches ++ [Batch.ofPiece direction (addr, piece)]) where
  bytes := by
    rw [List.map_append, List.sum_append, ← counts.bytes]
    rfl
  count := by
    rw [List.length_append, ← counts.count]
    rfl
  fragments := by
    rw [Batch.fragments, List.countP_append, ← Batch.fragments, ← counts.fragments]
    obtain ⟨kind, bytes, lines⟩ := piece
    cases kind <;> rfl

theorem Counts.foldl {r : TransferReport} {batches : List Batch} (counts : r.Counts batches)
    (direction : Direction) (moved : List (Addr × Piece)) :
    (moved.foldl (fun r p => r.add p.2) r).Counts
      (batches ++ moved.map (Batch.ofPiece direction)) := by
  induction moved generalizing r batches with
  | nil => simpa using counts
  | cons head rest ih =>
    have later := ih (counts.add direction head.1 head.2)
    rwa [List.append_assoc] at later

end TransferReport

theorem Batch.Tiles.stop_eq {start stop : Nat} {batches : List Batch}
    (tiles : Batch.Tiles start batches stop) :
    stop = start + (batches.map (·.bytes)).sum := by
  induction tiles with
  | nil => rfl
  | @cons b rest stop later ih =>
    rw [ih, List.map_cons, List.sum_cons, ← Nat.add_assoc]
    rfl

namespace Memory

section Pieces

variable {link : Link σ} (wild : link.Wild) {t : TransferSettings} {o : Host.Outline}
include wild

/-- Any answer to the read of a piece that goes through has the size of the piece. -/
theorem readPiece_proceeds {batch : Nat} {addr : Addr} {len : Nat} (fits : batch ≤ maxBatchLines)
    (spans : addr.Spans len) :
    Ends (Holds t (Host.At o fun _ => True))
      (readPiece link addr (Piece.first batch addr len))
      (fun data => Holds t (Host.At o fun _ =>
        data.length = (Piece.first batch addr len).bytes))
      (fun e => Holds t (Host.At o fun _ => ¬e.IsRefusal)) := by
  have part := Piece.bytes_first_le batch addr len
  have shape := Piece.shape_first batch addr len
  generalize Piece.first batch addr len = piece at part shape
  cases shape with
  | fragment inside =>
    apply Ends.bind (onHost_ends (Host.readLines_proceeds wild addr.addressable_lineBase))
    intro line
    apply Ends.pure
    rintro m ⟨same, outlined, whole⟩
    refine ⟨same, outlined, ?_⟩
    have rest : (line.drop addr.lineOffset).length = lineBytes - addr.lineOffset := by
      rw [List.length_drop, whole, Nat.one_mul]
    exact List.length_take_of_le (by rw [rest]; exact Nat.le_sub_of_add_le' inside)
  | whole aligned positive bounded =>
    have valid := Piece.addressable_of_whole aligned positive bounded fits spans part
    exact onHost_ends (Host.readLines_proceeds wild valid)

theorem writePiece_proceeds {batch : Nat} {addr : Addr} {len : Nat} (fits : batch ≤ maxBatchLines)
    (spans : addr.Spans len) {data : Bytes}
    (size : data.length = (Piece.first batch addr len).bytes) :
    Ends (Holds t (Host.At o fun _ => True))
      (writePiece link addr (Piece.first batch addr len) data)
      (fun _ => Holds t (Host.At o fun _ => True))
      (fun e => Holds t (Host.At o fun _ => ¬e.IsRefusal)) := by
  have part := Piece.bytes_first_le batch addr len
  have shape := Piece.shape_first batch addr len
  generalize Piece.first batch addr len = piece at part shape size
  cases shape with
  | fragment inside => exact onHost_ends (Host.patchLine_proceeds wild (size ▸ inside))
  | whole aligned positive bounded =>
    have valid := Piece.addressable_of_whole aligned positive bounded fits spans part
    apply settings_ends
    split
    · exact onHost_ends (Host.writeLinesPacked_proceeds wild ⟨valid, size⟩)
    · exact onHost_ends (Host.writeLines_proceeds wild ⟨valid, size⟩)

/-- All pieces are reported, or those in front of one that failed. -/
theorem readFrom_proceeds {batch : Nat} (fits : batch ≤ maxBatchLines) (addr : Addr) (len : Nat)
    (spans : addr.Spans len) (report : TransferReport) (done : List Bytes) :
    Ends (Holds t (Host.At o fun _ => True)) (readFrom link batch addr len report done)
      (fun result => Holds t (Host.At (o.moved .read (pieces batch addr len)) fun _ =>
        result.2 = (pieces batch addr len).foldl (fun r p => r.add p.2) report ∧
        result.1.length = done.reverse.flatten.length + len))
      (fun e => Holds t fun h => ∃ k, k < (pieces batch addr len).length ∧
        Host.At (o.moved .read ((pieces batch addr len).take k)) (fun _ => ¬e.IsRefusal) h) := by
  induction addr, len using pieces_induction batch generalizing report done o with
  | done addr =>
    rw [readFrom, if_pos rfl, pieces_zero]
    apply Ends.pure
    rintro m ⟨same, outlined, -⟩
    exact ⟨same, outlined, rfl, rfl⟩
  | step addr len nonempty ih =>
    have part := Piece.bytes_first_le batch addr len
    have moved := readPiece_proceeds wild (t := t) (o := o) fits spans
    rw [readFrom, if_neg nonempty, pieces_of_ne_zero batch addr nonempty]
    generalize Piece.first batch addr len = piece at *
    apply Ends.bind (moved.onFault fun _ m after => ⟨after.1, 0, Nat.succ_pos _, after.2⟩)
    intro data
    apply Ends.bind (reportPiece_ends .read addr piece)
    rintro _ m ⟨same, outlined, size⟩
    have later := ih (o := o.moved .read [(addr, piece)]) (spans.rest part) (report.add piece)
      (data :: done)
    refine later.weaken (fun _ before => before) ?_ ?_ m ⟨same, outlined, trivial⟩
    · rintro _ m ⟨same, outlined, added, total⟩
      refine ⟨same, outlined, added, ?_⟩
      rw [total, List.reverse_cons, List.flatten_append, List.flatten_singleton,
        List.length_append, size]
      omega
    · rintro _ m ⟨same, k, inside, outlined⟩
      exact ⟨same, k + 1, Nat.succ_lt_succ inside, outlined⟩

theorem writeFrom_proceeds {batch : Nat} (fits : batch ≤ maxBatchLines) (addr : Addr) (len : Nat)
    (spans : addr.Spans len) {data : Bytes} (size : data.length = len) (report : TransferReport) :
    Ends (Holds t (Host.At o fun _ => True)) (writeFrom link batch addr len data report)
      (fun result => Holds t (Host.At (o.moved .write (pieces batch addr len)) fun _ =>
        result = (pieces batch addr len).foldl (fun r p => r.add p.2) report))
      (fun e => Holds t fun h => ∃ k, k < (pieces batch addr len).length ∧
        Host.At (o.moved .write ((pieces batch addr len).take k)) (fun _ => ¬e.IsRefusal) h) := by
  induction addr, len using pieces_induction batch generalizing data report o with
  | done addr =>
    rw [writeFrom, if_pos rfl, pieces_zero]
    apply Ends.pure
    rintro m ⟨same, outlined, -⟩
    exact ⟨same, outlined, rfl⟩
  | step addr len nonempty ih =>
    have part := Piece.bytes_first_le batch addr len
    have chunk : (data.take (Piece.first batch addr len).bytes).length =
        (Piece.first batch addr len).bytes := List.length_take_of_le (size ▸ part)
    have moved := writePiece_proceeds wild (t := t) (o := o) fits spans chunk
    rw [writeFrom, if_neg nonempty, pieces_of_ne_zero batch addr nonempty]
    generalize Piece.first batch addr len = piece at *
    have left : (data.drop piece.bytes).length = len - piece.bytes := by rw [List.length_drop, size]
    apply Ends.bind (moved.onFault fun _ m after => ⟨after.1, 0, Nat.succ_pos _, after.2⟩)
    intro _
    apply Ends.bind (reportPiece_ends .write addr piece)
    intro _
    have later := ih (o := o.moved .write [(addr, piece)]) (spans.rest part) left (report.add piece)
    refine later.onFault ?_
    rintro _ m ⟨same, k, inside, outlined⟩
    exact ⟨same, k + 1, Nat.succ_lt_succ inside, outlined⟩

end Pieces

/-- What a request for `len` bytes at `addr` leaves behind that began in `m`: batches that tile
the range, up to its end if the request went through and to a place before it if not. -/
def Tiled (direction : Direction) (most : Nat) (addr : Addr) (len : Nat) (m : Memory σ)
    (outcome : Except Fault TransferReport) (m' : Memory σ) : Prop :=
  ∃ batches stop, Batch.Tiling direction most addr.val.toNat stop batches ∧
    (m.host.observed = true →
      batchesOf m'.host.events = batches.reverse ++ batchesOf m.host.events) ∧
    match outcome with
    | .ok report => stop = addr.val.toNat + len ∧ report.bytes = len ∧ report.Counts batches
    | .error e => stop < addr.val.toNat + len ∧ ¬e.IsRefusal

section Endings

variable {direction : Direction} {bytes : UInt64} {addr : Addr} {len : Nat} {m m' : Memory σ}

/-- The pieces of a request in range, as the batches of one that went through. -/
theorem tiled_ok (fits : FitsBatch bytes) (spans : addr.Spans len) {report : TransferReport}
    (outlined : m'.host.outline =
      m.host.outline.moved direction (pieces (bytes.toNat / lineBytes) addr len))
    (elapsed : Nat) (account : report =
      { reportOf (pieces (bytes.toNat / lineBytes) addr len) with elapsed := elapsed }) :
    Tiled direction bytes.toNat addr len m (.ok report) m' := by
  have room : lineBytes ≤ bytes.toNat := Nat.le_of_dvd fits.positive fits.whole
  have tiling := (cut_pieces room direction spans).tiling
  have empty : ({} : TransferReport).Counts [] := ⟨rfl, rfl, rfl⟩
  have counts := empty.foldl direction (pieces (bytes.toNat / lineBytes) addr len)
  rw [List.nil_append] at counts
  have counted : report.Counts
      ((pieces (bytes.toNat / lineBytes) addr len).map (Batch.ofPiece direction)) := by
    rw [account]
    exact ⟨counts.bytes, counts.count, counts.fragments⟩
  refine ⟨_, _, tiling, fun observed => ?_, rfl, ?_, counted⟩
  · change m'.host.outline.batches = _
    rw [outlined, Host.Outline.batches_moved observed]
    rfl
  · rw [counted.bytes]
    exact (Nat.add_left_cancel tiling.tiles.stop_eq).symm

theorem tiled_error (fits : FitsBatch bytes) (spans : addr.Spans len) {e : Fault} {k : Nat}
    (inside : k < (pieces (bytes.toNat / lineBytes) addr len).length)
    (outlined : m'.host.outline =
      m.host.outline.moved direction ((pieces (bytes.toNat / lineBytes) addr len).take k))
    (accepted : ¬e.IsRefusal) : Tiled direction bytes.toNat addr len m (.error e) m' := by
  have room : lineBytes ≤ bytes.toNat := Nat.le_of_dvd fits.positive fits.whole
  obtain ⟨reached, short, cut⟩ := (cut_pieces room direction spans).take (k := k)
    (by rwa [List.length_map])
  refine ⟨_, reached, cut.tiling, fun observed => ?_, short, accepted⟩
  change m'.host.outline.batches = _
  rw [outlined, Host.Outline.batches_moved observed, List.map_take]
  rfl

end Endings

section Requests

variable {link : Link σ} (wild : link.Wild) {addr : Addr} (m : Memory σ)
include wild

/-- A read that goes through delivers as many bytes as were asked for. -/
theorem readReported_tiled (fits : FitsBatch m.transfer.readBatchBytes) {len : Nat}
    (nonempty : len ≠ 0) (spans : addr.Spans len) :
    Ends (· = m) (readReported link addr len)
      (fun result m' => Tiled .read m.transfer.readBatchBytes.toNat addr len m (.ok result.2) m' ∧
        result.1.length = len)
      (fun e => Tiled .read m.transfer.readBatchBytes.toNat addr len m (.error e)) := by
  have run : Ends (Holds m.transfer (Host.At m.host.outline fun _ => True))
      (readReported link addr len)
      (fun result m' => Tiled .read m.transfer.readBatchBytes.toNat addr len m (.ok result.2) m' ∧
        result.1.length = len)
      (fun e => Tiled .read m.transfer.readBatchBytes.toNat addr len m (.error e)) := by
    apply Ends.bind now_ends
    intro started
    rw [if_neg nonempty, requestEnd_of_spans spans]
    apply Ends.ofExcept_ok
    apply settings_ends
    apply Ends.bind ((readFrom_proceeds wild fits.lines_le addr len spans {} []).onFault ?_)
    swap
    · rintro _ m' ⟨-, k, inside, outlined, accepted⟩
      exact tiled_error fits spans inside outlined accepted
    intro result
    apply Ends.bind now_ends
    intro ended
    apply Ends.pure
    rintro m' ⟨-, outlined, account, size⟩
    refine ⟨?_, ?_⟩
    · exact tiled_ok fits spans outlined (ended - started) (by rw [account]; rfl)
    · rw [size, List.reverse_nil, List.flatten_nil, List.length_nil, Nat.zero_add]
  exact fun m' same => run m' (same ▸ ⟨rfl, rfl, trivial⟩)

theorem write_tiled (fits : FitsBatch m.transfer.writeBatchBytes) {data : Bytes}
    (nonempty : data ≠ []) (spans : addr.Spans data.length) :
    Ends (· = m) (write link addr data)
      (fun report =>
        Tiled .write m.transfer.writeBatchBytes.toNat addr data.length m (.ok report))
      (fun e => Tiled .write m.transfer.writeBatchBytes.toNat addr data.length m (.error e)) := by
  have run : Ends (Holds m.transfer (Host.At m.host.outline fun _ => True))
      (write link addr data)
      (fun report =>
        Tiled .write m.transfer.writeBatchBytes.toNat addr data.length m (.ok report))
      (fun e => Tiled .write m.transfer.writeBatchBytes.toNat addr data.length m (.error e)) := by
    apply Ends.bind now_ends
    intro started
    rw [if_neg (List.isEmpty_iff.not.mpr nonempty), requestEnd_of_spans spans]
    apply Ends.ofExcept_ok
    apply settings_ends
    apply Ends.bind ((writeFrom_proceeds wild fits.lines_le addr _ spans rfl {}).onFault ?_)
    swap
    · rintro _ m' ⟨-, k, inside, outlined, accepted⟩
      exact tiled_error fits spans inside outlined accepted
    intro report
    apply Ends.bind now_ends
    intro ended
    apply Ends.pure
    rintro m' ⟨-, outlined, account⟩
    exact tiled_ok fits spans outlined (ended - started) (by rw [account]; rfl)
  exact fun m' same => run m' (same ▸ ⟨rfl, rfl, trivial⟩)

theorem requests_tile {s : Settings} (valid : s.validate = .ok ())
    (transfer : m.transfer = s.transfer) :
    (∀ addr len, len ≠ 0 → Addr.Spans addr len →
      let ending := (readReported link addr len).run m
      Tiled .read s.transfer.readBatchBytes.toNat addr len m (ending.1.map Prod.snd) ending.2 ∧
        ∀ data report, ending.1 = .ok (data, report) → data.length = len) ∧
    (∀ addr data, data ≠ [] → Addr.Spans addr data.length →
      let ending := (write link addr data).run m
      Tiled .write s.transfer.writeBatchBytes.toNat addr data.length m ending.1 ending.2) := by
  have fits := Settings.fitsBatch_of_validate valid
  rw [← transfer] at fits ⊢
  constructor
  · intro addr len nonempty spans ending
    have ended := readReported_tiled wild m fits.1 nonempty spans m rfl
    cases run : (readReported link addr len).run m with
    | mk outcome m' =>
      have same : ending = (outcome, m') := run
      rw [run] at ended
      rw [same]
      cases outcome with
      | ok result =>
        refine ⟨ended.1, ?_⟩
        rintro _ _ ⟨⟩
        exact ended.2
      | error e =>
        refine ⟨ended, ?_⟩
        rintro _ _ ⟨⟩
  · intro addr data nonempty spans ending
    have ended := write_tiled wild m fits.2 nonempty spans m rfl
    cases run : (write link addr data).run m with
    | mk outcome m' =>
      have same : ending = (outcome, m') := run
      rw [run] at ended
      rw [same]
      cases outcome with
      | ok report => exact ended
      | error e => exact ended

end Requests

/-- A script says nothing but what it was given, and breaks off at its end. -/
theorem wild_script : Bench.Script.channel.link.Wild := by
  refine Channel.wild_link (fun _ _ => .pure ()) ?_ (fun _ => .pure ()) ?_ (fun _ => .pure ())
  · rintro _ ⟨_ | ⟨value, rest⟩, bulk⟩ _
    · exact ⟨_, rfl⟩
    · trivial
  · rintro _ ⟨reads, _ | ⟨data, rest⟩⟩ _
    · exact ⟨_, rfl⟩
    · trivial

/-- A read whose first fragment is answered and whose lines are not, and a write whose first
fragment cannot be read. -/
theorem requests_tile_scripted :
    let s : Settings := {}
    let m : Memory Bench.Script :=
      { host := {
          state := { reads := [2, 16, 0], bulk := [List.replicate 16 7] }
          observed := true } }
    Bench.Script.channel.link.Wild ∧ s.validate = .ok () ∧ m.transfer = s.transfer ∧
      Addr.Spans ⟨8⟩ 40 ∧
      (let ending := (readReported Bench.Script.channel.link ⟨8⟩ 40).run m
      Tiled .read 4096 ⟨8⟩ 40 m (ending.1.map Prod.snd) ending.2 ∧
        ∀ data report, ending.1 = .ok (data, report) → data.length = 40) ∧
      (let ending := (write Bench.Script.channel.link ⟨8⟩ (List.replicate 40 1)).run m
      Tiled .write 4096 ⟨8⟩ 40 m ending.1 ending.2) := by
  intro s m
  have valid : s.validate = .ok () := by decide
  have spans : Addr.Spans ⟨8⟩ 40 := by decide
  have tiled := requests_tile wild_script m valid rfl
  refine ⟨wild_script, valid, rfl, spans, ?_, ?_⟩
  · exact tiled.1 ⟨8⟩ 40 (by decide) spans
  · exact tiled.2 ⟨8⟩ (List.replicate 40 1) (by decide) spans

end Memory

end LineBridge
