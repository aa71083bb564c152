import Mathlib
import LineBridge.Bench.Script
import LineBridge.Proofs.GuardedDriver
import LineBridge.Proofs.Requests

/-! A driver is never caught out. The one check of a transaction's size carries through every
path: the bytes that a transaction hands over are as many as it was asked for, whatever the link
delivers, and a transfer that goes through fits all the words that describe it. -/

namespace LineBridge

open LineBridge.Guarded (Does)

variable {σ α β : Type}

/-- The end of the request can be formed in a word of 64 bits. -/
def Addr.Formed (a : Addr) (len : Nat) : Prop := a.val.toNat + len < UInt64.size

theorem Addr.Spans.formed {a : Addr} {len : Nat} (spans : a.Spans len) : a.Formed len :=
  Nat.lt_of_le_of_lt spans (by decide)

theorem Addr.spans_of_requestEnd {a : Addr} {len : Nat} {last : UInt64}
    (granted : a.requestEnd len = .ok last) : a.Spans len :=
  requestEnd_eq_ok_iff.mp ⟨last, granted⟩

/-- The bytes that differ are found at the place where they differ. -/
theorem Memory.getElem?_firstDifference {expected actual : Bytes} {start i : Nat}
    {wrote got : UInt8} (found : firstDifference expected actual start = some (i, wrote, got)) :
    start ≤ i ∧ expected[i - start]? = some wrote ∧ actual[i - start]? = some got := by
  induction expected generalizing actual start with
  | nil => cases found
  | cons e expected ih =>
    cases actual with
    | nil => cases found
    | cons a actual =>
      rw [firstDifference] at found
      split at found
      · obtain ⟨behind, own, other⟩ := ih found
        have shift : i - start = i - (start + 1) + 1 := by omega
        rw [shift, List.getElem?_cons_succ, List.getElem?_cons_succ]
        exact ⟨by omega, own, other⟩
      · cases found
        rw [Nat.sub_self]
        exact ⟨Nat.le_refl _, rfl, rfl⟩

namespace Host

variable (link : Link σ)

theorem bulkRead_gives (len : Nat) : (bulkRead link len).Gives (·.length = len) := by
  apply Action.Gives.after
  intro field
  refine .ite (fun none => .pure none.symm) fun _ => ?_
  apply Action.Gives.after
  intro _
  apply Action.Gives.after
  intro data
  exact .ite (fun whole => .pure whole) fun _ => .after _ fun _ => .fail _

/-- A read that goes through was one that the registers can describe, and is whole. -/
theorem readLines_gives (addr : Addr) (lines : Nat) : (readLines link addr lines).Gives fun data =>
    Addressable addr lines ∧ data.length = lines * lineBytes := by
  apply Action.Gives.bind (.ofExcept fun _ checked => (checkLines_eq_ok_iff.mp checked).1)
  intro field valid
  apply Action.Gives.after
  intro started
  apply Action.Gives.after
  intro _
  apply Action.Gives.after
  intro _
  apply Action.Gives.after
  intro _
  apply Action.Gives.after
  intro _
  apply (bulkRead_gives link _).bind
  intro data whole
  apply Action.Gives.after
  intro _
  apply Action.Gives.after
  intro drained
  apply Action.Gives.after
  intro _
  exact .after _ fun _ => .pure ⟨valid, whole⟩

theorem readLine_gives (addr : Addr) : (readLine link addr).Gives (·.length = lineBytes) :=
  (readLines_gives link addr 1).weaken fun _ read => read.2.trans (Nat.one_mul _)

theorem writeLines_gives (addr : Addr) (lines : Nat) (payload : Bytes) :
    (writeLines link addr lines payload).Gives fun _ => Addressable addr lines :=
  .bind (.ofExcept fun _ checked => (checkLines_eq_ok_iff.mp checked).1)
    fun _ valid => .const _ valid

theorem writeLinesPacked_gives (addr : Addr) (lines : Nat) (payload : Bytes) :
    (writeLinesPacked link addr lines payload).Gives fun _ => Addressable addr lines :=
  .bind (.ofExcept fun _ checked => (checkLines_eq_ok_iff.mp checked).1)
    fun _ valid => .const _ valid

end Host

namespace Memory

variable (link : Link σ)

section Pieces

variable {batch : Nat} {addr : Addr} {len : Nat} {piece : Piece}
  (shape : Piece.Shape batch addr len piece)
include shape

theorem readPiece_gives : (readPiece link addr piece).Gives fun data =>
    data.length = piece.bytes ∧ piece.bytes < UInt32.size := by
  cases shape with
  | @fragment bytes inside =>
    apply (Action.Gives.on (Host.readLine_gives link addr.lineBase)).bind
    intro line whole
    refine .pure ⟨?_, ?_⟩
    · rw [List.length_take, List.length_drop, whole]
      exact Nat.min_eq_left (Nat.le_sub_of_add_le' inside)
    · simp only [UInt32.size, lineBytes] at inside ⊢
      omega
  | @whole lines aligned positive bounded =>
    have whole : (onHost (Host.readLines link addr lines)).Gives fun data =>
        data.length = lines * lineBytes ∧ lines * lineBytes < UInt32.size :=
      (Action.Gives.on (Host.readLines_gives link addr lines)).weaken
        fun data read => ⟨read.2, read.1.lt_bulk.trans (by decide)⟩
    exact whole

theorem writePiece_gives (data : Bytes) : (writePiece link addr piece data).Gives
    fun _ => piece.bytes < UInt32.size := by
  cases shape with
  | @fragment bytes inside =>
    refine .const _ ?_
    simp only [UInt32.size, lineBytes] at inside ⊢
    omega
  | @whole lines aligned positive bounded =>
    have fits (valid : Host.Addressable addr lines) : lines * lineBytes < UInt32.size :=
      valid.lt_bulk.trans (by decide)
    apply Action.Gives.after
    intro transfer
    refine .ite (fun _ => ?_) fun _ => ?_
    · exact (Action.Gives.on (Host.writeLinesPacked_gives link addr lines data)).weaken
        fun _ valid => fits valid
    · exact (Action.Gives.on (Host.writeLines_gives link addr lines data)).weaken
        fun _ valid => fits valid

end Pieces

theorem readFrom_gives (batch : Nat) (addr : Addr) (len : Nat) (report : TransferReport)
    (done : List Bytes) : (readFrom link batch addr len report done).Gives fun result =>
      result.1.length = done.flatten.length + len := by
  induction addr, len using pieces_induction batch generalizing report done with
  | done addr =>
    rw [readFrom, if_pos rfl]
    refine .pure ?_
    rw [List.length_flatten, List.length_flatten, List.map_reverse, List.sum_reverse]
    rfl
  | step addr len some ih =>
    rw [readFrom, if_neg some]
    apply (readPiece_gives link (Piece.shape_first batch addr len)).bind
    intro data piece
    apply Action.Gives.after
    intro _
    refine (ih _ _).weaken fun result size => ?_
    have part := Piece.bytes_first_le batch addr len
    rw [size, List.flatten_cons, List.length_append, piece.1]
    omega

theorem readReported_gives (addr : Addr) (len : Nat) :
    (readReported link addr len).Gives fun result =>
      result.1.length = len ∧ addr.Spans len := by
  apply Action.Gives.after
  intro started
  refine .ite (fun none => .pure ⟨none.symm, ?_⟩) fun _ => ?_
  · rw [none]
    exact addr.val.toNat_lt.le
  apply Action.Gives.bind (.ofExcept fun last => Addr.spans_of_requestEnd)
  intro last inside
  apply Action.Gives.after
  intro transfer
  apply (readFrom_gives link transfer.readBatchLines addr len {} []).bind
  intro result size
  refine .after _ fun ended => .pure ⟨?_, inside⟩
  exact size.trans (Nat.zero_add len)

theorem read_gives (addr : Addr) (len : Nat) : (read link addr len).Gives fun data =>
    data.length = len ∧ addr.Spans len :=
  (readReported_gives link addr len).bind fun _ known => .pure known

end Memory

namespace Guarded

theorem Does.onHost {g : Guarded (Host σ) α} {x : Action (Host σ) α} (own : Does g x) :
    Does (Guarded.onHost g) (Memory.onHost x) := own.on

theorem Does.onMemory {g : Guarded (Memory σ) α} {x : Action (Memory σ) α} (own : Does g x) :
    Does (Guarded.onMemory g) (Loader.onMemory x) := own.on

section Hosts

variable {link : Link σ}

theorem does_checkLines (addr : Addr) (lines : Nat) :
    Does (checkLines addr lines : Guarded (Host σ) UInt16)
      (Action.ofExcept (Host.checkLines addr lines)) := by
  rw [Host.checkLines_eq]
  unfold checkLines
  by_cases large : maxBatchLines < lines
  · rw [if_pos large, if_pos large]
    exact .lift _
  rw [if_neg large, if_neg large]
  -- 4095 lines have fewer than 2 ^ 16 bytes, and no address is far enough for their end to wrap
  have place := addr.val.toNat_lt
  have small : lines ≤ 4095 := Nat.le_of_not_lt large
  have room : lines * lineBytes ≤ 4095 * 16 := Nat.mul_le_mul_right 16 small
  have formed : addr.val.toNat + lines * lineBytes < UInt64.size := by
    simp only [UInt64.size]
    omega
  apply (does_times (by omega)).step
  by_cases aligned : addr.IsLineAligned
  swap
  · rw [if_pos aligned, Addr.requireLineAligned, if_neg aligned]
    exact (Does.lift _).stop
  rw [if_neg (not_not.mpr aligned), Addr.requireLineAligned, if_pos aligned]
  apply (Does.lift _).step
  by_cases none : lines = 0
  · rw [if_pos none, if_pos none]
    exact .lift _
  rw [if_neg none, if_neg none]
  have ended := does_requestEnd (σ := Host σ) formed
  rw [Addr.requestEnd_eq formed] at ended
  by_cases outside : spaceBytes < addr.val.toNat + lines * lineBytes
  · rw [if_pos outside] at ended ⊢
    exact ended.stop
  rw [if_neg outside] at ended ⊢
  apply ended.step
  have field : ¬maxLineField < lines := by
    simp only [maxLineField]
    omega
  rw [if_neg field]
  apply (does_minus (Nat.pos_of_ne_zero none)).step
  refine does_word16 ?_
  simp only [UInt16.size]
  omega

theorem does_checkBulk (len : Nat) : Does (checkBulk len : Guarded (Host σ) UInt16)
    (Action.ofExcept (Host.checkBulk len)) := by
  unfold checkBulk Host.checkBulk
  split
  · exact .lift _
  · next small => exact does_word16 (Nat.lt_succ_of_le (Nat.le_of_not_lt small))

theorem does_bulkRead (len : Nat) : Does (bulkRead link len) (Host.bulkRead link len) := by
  apply (does_checkBulk len).bind
  intro field
  split
  · exact .pure []
  apply (Does.lift _).bind
  intro _
  apply (Does.lift _).bind
  intro data
  split
  · exact .pure data
  · exact (Does.lift _).bind fun h => .lift _

theorem does_bulkWrite (data : Bytes) : Does (bulkWrite link data) (Host.bulkWrite link data) := by
  apply (does_checkBulk data.length).bind
  intro field
  split
  · exact .pure ()
  · exact (Does.lift _).bind fun _ => .lift _

/-- The byte count that is waited for was checked with the number of lines. -/
theorem does_waitCount (addr : Addr) {expected : Nat} (fits : expected ≤ maxBulkBytes) :
    Does (waitCount link addr expected) (Host.waitCount link addr expected) :=
  (does_word16 (Nat.lt_succ_of_le fits)).step (.lift _)

theorem does_readLines (addr : Addr) (lines : Nat) :
    Does (readLines link addr lines) (Host.readLines link addr lines) := by
  apply (does_checkLines addr lines).bind_of
    (.ofExcept fun _ checked => (Host.checkLines_eq_ok_iff.mp checked).1)
  intro field valid
  apply (does_times (valid.lt_bulk.trans (by decide))).step
  apply (Does.lift _).bind
  intro started
  apply (Does.lift _).bind
  intro _
  apply (Does.lift _).bind
  intro _
  apply (Does.lift _).bind
  intro _
  apply (does_waitCount addr valid.fits_bulk).bind
  intro _
  apply (does_bulkRead _).bind
  intro data
  apply (Does.lift _).bind
  intro _
  apply (Does.lift _).bind
  intro drained
  apply (Does.lift _).bind
  intro _
  exact (Does.lift _).bind fun _ => .pure data

theorem does_readLine (addr : Addr) : Does (readLine link addr) (Host.readLine link addr) := by
  rw [← bind_pure (Host.readLine link addr)]
  apply (does_readLines addr 1).bind_of (Host.readLine_gives link addr)
  intro data whole
  exact (does_require whole).step (.pure data)

theorem does_writeLines (addr : Addr) (lines : Nat) (payload : Bytes) :
    Does (writeLines link addr lines payload) (Host.writeLines link addr lines payload) := by
  apply (does_checkLines addr lines).bind
  intro field
  apply (Does.lift _).bind
  intro _
  apply (Does.lift _).bind
  intro started
  apply (Does.lift _).bind
  intro _
  apply (does_bulkWrite payload).bind
  intro _
  apply (Does.lift _).bind
  intro _
  exact (Does.lift _).bind fun _ => .lift _

theorem does_writeLinesPacked (addr : Addr) (lines : Nat) (payload : Bytes) :
    Does (writeLinesPacked link addr lines payload)
      (Host.writeLinesPacked link addr lines payload) := by
  apply (does_checkLines addr lines).bind_of
    (.ofExcept fun _ checked => (Host.checkLines_eq_ok_iff.mp checked).1)
  intro field valid
  apply (Does.lift _).bind_of
    (.ofExcept fun _ declared => Host.checkPayload_eq_ok_iff.mp declared)
  intro _ declared
  apply (Does.lift _).bind
  intro started
  apply (Does.lift _).bind
  intro _
  apply (does_word16 (Nat.lt_succ_of_le (declared ▸ valid.fits_bulk))).step
  apply (Does.lift _).bind
  intro _
  exact (Does.lift _).bind fun _ => .lift _

/-- A fragment stays in its line, which was read whole. -/
theorem does_patchLine {addr : Addr} {data : Bytes}
    (inside : addr.lineOffset + data.length ≤ lineBytes) :
    Does (patchLine link addr data) (Memory.patchLine link addr data) := by
  apply (does_readLine addr.lineBase).bind_of (Host.readLine_gives link _)
  intro line whole
  apply (Does.lift _).bind
  intro started
  apply (does_copyInto (inside.trans_eq whole.symm)).step
  exact (Does.lift _).bind fun _ => does_writeLines _ _ _

end Hosts

section Memories

variable {link : Link σ}

/-- A piece is cut within the request. -/
theorem does_first (batch : Nat) (addr : Addr) {len : Nat} (fits : len < UInt64.size) :
    Does (first batch addr len : Guarded (Memory σ) Piece) (pure (Piece.first batch addr len)) := by
  have part := Piece.bytes_first_le batch addr len
  unfold first
  unfold Piece.first at part ⊢
  by_cases offset : addr.lineOffset ≠ 0
  · rw [if_pos offset, if_pos offset]
    exact (does_minus addr.lineOffset_lt.le).step (.pure _)
  rw [if_neg offset] at part
  rw [if_neg offset, if_neg offset]
  by_cases whole : lineBytes ≤ len
  · rw [if_pos whole] at part
    rw [if_pos whole, if_pos whole]
    exact (does_times (part.trans_lt fits)).step (.pure _)
  · rw [if_neg whole, if_neg whole]
    exact .pure _

section Pieces

variable {batch : Nat} {addr : Addr} {len : Nat} {piece : Piece}
  (shape : Piece.Shape batch addr len piece)
include shape

theorem does_readPiece :
    Does (readPiece link addr piece) (Memory.readPiece link addr piece) := by
  cases shape with
  | @fragment bytes inside =>
    apply (does_readLine addr.lineBase).onHost.bind_of
      (Action.Gives.on (Host.readLine_gives link addr.lineBase))
    intro line whole
    have cut := does_slice (σ := Memory σ) (Nat.le_add_right addr.lineOffset bytes)
      (inside.trans_eq whole.symm)
    rwa [Nat.add_sub_cancel_left] at cut
  | @whole lines aligned positive bounded =>
    exact (does_readLines addr lines).onHost

theorem does_writePiece {data : Bytes} (size : data.length = piece.bytes) :
    Does (writePiece link addr piece data) (Memory.writePiece link addr piece data) := by
  cases shape with
  | @fragment bytes inside =>
    have size : data.length = bytes := size
    subst size
    exact (does_patchLine inside).onHost
  | @whole lines aligned positive bounded =>
    apply (Does.lift _).bind
    intro transfer
    split
    · exact (does_writeLinesPacked addr lines data).onHost
    · exact (does_writeLines addr lines data).onHost

end Pieces

theorem does_readFrom (batch : Nat) (addr : Addr) {len : Nat} (fits : len < UInt64.size)
    (report : TransferReport) (done : List Bytes) :
    Does (readFrom link batch addr len report done)
      (Memory.readFrom link batch addr len report done) := by
  induction addr, len using pieces_induction batch generalizing report done with
  | done addr =>
    rw [readFrom, if_pos rfl, Memory.readFrom, if_pos rfl]
    exact .pure _
  | step addr len some ih =>
    have shape := Piece.shape_first batch addr len
    rw [readFrom, if_neg some, Memory.readFrom, if_neg some]
    apply (does_first batch addr fits).step
    apply (does_readPiece shape).bind_of (Memory.readPiece_gives link shape)
    intro data piece
    apply (Does.lift _).bind
    intro _
    apply (does_advance piece.2).step
    apply (does_minus (Piece.bytes_first_le batch addr len)).step
    exact ih ((Nat.sub_le _ _).trans_lt fits) _ _

section Formed

variable {addr : Addr}

theorem does_readReported {len : Nat} (formed : addr.Formed len) :
    Does (readReported link addr len) (Memory.readReported link addr len) := by
  apply (Does.lift _).bind
  intro started
  split
  · exact .pure _
  apply (does_requestEnd formed).bind
  intro last
  apply (Does.lift _).bind
  intro transfer
  have fits : len < UInt64.size := (Nat.le_add_left _ _).trans_lt formed
  apply (does_readFrom transfer.readBatchLines addr fits {} []).bind_of
    (Memory.readFrom_gives link transfer.readBatchLines addr len {} [])
  intro result size
  apply (does_require (size.trans (Nat.zero_add len))).step
  exact (Does.lift _).bind fun ended => .pure _

theorem does_read {len : Nat} (formed : addr.Formed len) :
    Does (read link addr len) (Memory.read link addr len) :=
  (does_readReported formed).bind fun _ => .pure _

theorem does_writeFrom (batch : Nat) (addr : Addr) {len : Nat} (fits : len < UInt64.size)
    {data : Bytes} (size : data.length = len) (report : TransferReport) :
    Does (writeFrom link batch addr len data report)
      (Memory.writeFrom link batch addr len data report) := by
  induction addr, len using pieces_induction batch generalizing data report with
  | done addr =>
    rw [writeFrom, if_pos rfl, Memory.writeFrom, if_pos rfl]
    exact .pure _
  | step addr len some ih =>
    have shape := Piece.shape_first batch addr len
    have part : (Piece.first batch addr len).bytes ≤ data.length :=
      size ▸ Piece.bytes_first_le batch addr len
    rw [writeFrom, if_neg some, Memory.writeFrom, if_neg some]
    apply (does_first batch addr fits).step
    apply (does_slice (Nat.zero_le _) part).step
    rw [List.drop_zero, Nat.sub_zero]
    have cut : (data.take (Piece.first batch addr len).bytes).length =
        (Piece.first batch addr len).bytes := List.length_take_of_le part
    apply (does_writePiece shape cut).bind_of (Memory.writePiece_gives link shape _)
    intro _ moved
    apply (Does.lift _).bind
    intro _
    apply (does_advance moved).step
    apply (does_minus (Piece.bytes_first_le batch addr len)).step
    apply (does_slice part (Nat.le_refl _)).step
    rw [← List.length_drop, List.take_length]
    refine ih ((Nat.sub_le _ _).trans_lt fits) ?_ _
    rw [List.length_drop, size]

theorem does_write {data : Bytes} (formed : addr.Formed data.length) :
    Does (write link addr data) (Memory.write link addr data) := by
  apply (Does.lift _).bind
  intro started
  split
  · exact .pure _
  apply (does_requestEnd formed).bind
  intro last
  apply (Does.lift _).bind
  intro transfer
  have fits : data.length < UInt64.size := (Nat.le_add_left _ _).trans_lt formed
  apply (does_writeFrom transfer.writeBatchLines addr fits rfl {}).bind
  intro report
  exact (Does.lift _).bind fun ended => .pure _

end Formed

theorem does_readWord (addr : Addr) :
    Does (readWord link addr) (Memory.readWord link addr) := by
  have formed : addr.Formed wordBytes :=
    (Nat.add_lt_add_right addr.val.toNat_lt wordBytes).trans (by decide)
  apply (Does.lift _).bind
  intro _
  apply (does_read formed).bind_of (Memory.read_gives link addr wordBytes)
  intro data read
  obtain ⟨b0, b1, b2, b3, rfl⟩ : ∃ b0 b1 b2 b3, data = [b0, b1, b2, b3] := by
    have four := read.1
    match data, four with
    | [b0, b1, b2, b3], _ => exact ⟨b0, b1, b2, b3, rfl⟩
  apply (does_element rfl).step
  apply (does_element rfl).step
  apply (does_element rfl).step
  exact (does_element rfl).step (.pure _)

theorem does_writeWord (addr : Addr) (value : UInt32) :
    Does (writeWord link addr value) (Memory.writeWord link addr value) := by
  have formed : addr.Formed (Bytes.littleEndian wordBytes value.toNat).length := by
    rw [Bytes.length_littleEndian]
    exact (Nat.add_lt_add_right addr.val.toNat_lt wordBytes).trans (by decide)
  apply (Does.lift _).bind
  intro _
  exact (does_write formed).bind fun _ => .pure ()

theorem does_verify {addr : Addr} {expected : Bytes} (formed : addr.Formed expected.length) :
    Does (verify link addr expected) (Memory.verify link addr expected) := by
  apply (does_read formed).bind_of (Memory.read_gives link addr expected.length)
  intro actual read
  cases found : Memory.firstDifference expected actual 0 with
  | none => exact .pure ()
  | some difference =>
    obtain ⟨i, wrote, got⟩ := difference
    obtain ⟨-, own, other⟩ := Memory.getElem?_firstDifference found
    have inside : i < expected.length := (List.getElem?_eq_some_iff.mp own).1
    apply (does_advance (inside.trans_le read.2.le_spaceBytes)).step
    apply (does_element own).step
    apply (does_element other).step
    exact .lift _

end Memories

section Loaders

variable {link : Link σ}

/-- Pages that are not empty, and end within the space, start at distances that fit. -/
theorem does_writePages {base : Addr} {done : Nat} {pages : List Bytes}
    (some : ∀ page ∈ pages, 1 ≤ page.length) (spans : base.Spans (done + pages.flatten.length)) :
    Does (writePages link base done pages) (Loader.writePages link (base.offset done) pages) := by
  -- on the pages that are left: they start where those behind them end
  induction pages generalizing done with
  | nil => exact .pure ()
  | cons page rest ih =>
    rw [List.forall_mem_cons] at some
    rw [List.flatten_cons, List.length_append] at spans
    have place : done < UInt32.size := by
      have inside := spans.le_spaceBytes
      simp only [spaceBytes] at inside
      omega
    have formed : (base.offset done).Formed page.length := by
      have inside := spans.le_spaceBytes
      have start := (base.offset done).val.toNat_lt
      simp only [Addr.Formed, spaceBytes, UInt32.size, UInt64.size] at inside ⊢
      omega
    apply (does_advance place).step
    apply (does_write formed).bind
    intro _
    rw [Addr.offset_offset]
    exact ih some.2 (by rwa [Nat.add_assoc])

theorem does_loadSegment (verified : Bool) {segment : Segment}
    (formed : segment.addr.Formed segment.padded.length) :
    Does (loadSegment link verified segment) (Loader.loadSegment link verified segment) := by
  apply (does_require ((Nat.le_add_left _ _).trans_lt formed)).step
  unfold Loader.loadSegment
  dsimp only
  split
  · exact .pure 0
  apply (does_requestEnd formed).bind_of (.ofExcept fun last => Addr.spans_of_requestEnd)
  intro last spans
  apply (Does.lift _).bind
  intro transfer
  have positive : 0 < max transfer.loadPageBytes.toNat lineBytes :=
    Nat.lt_of_lt_of_le (by decide) (Nat.le_max_right _ _)
  have whole := Bytes.flatten_chunks _ positive segment.padded
  apply (does_require positive.ne').step
  have written (pages : List Bytes) (some : ∀ page ∈ pages, 1 ≤ page.length)
      (same : pages.flatten = segment.padded) :
      Does (writePages link segment.addr 0 pages) (Loader.writePages link segment.addr pages) := by
    rw [← same, ← Nat.zero_add pages.flatten.length] at spans
    have cut : Does (writePages link segment.addr 0 pages)
        (Loader.writePages link (segment.addr.offset 0) pages) := does_writePages some spans
    rwa [Addr.offset_zero] at cut
  apply (written _ (fun page member => (Bytes.length_of_mem_chunks member).1) whole).bind
  intro _
  split
  · exact (does_verify formed).bind fun _ => .pure _
  · exact .pure _

theorem does_loadSegments (verified : Bool) {segments : List Segment}
    (formed : ∀ segment ∈ segments, segment.addr.Formed segment.padded.length) (written : Nat) :
    Does (loadSegments link verified segments written)
      (Loader.loadSegments link verified segments written) := by
  induction segments generalizing written with
  | nil => exact .pure written
  | cons segment rest ih =>
    rw [List.forall_mem_cons] at formed
    exact (does_loadSegment verified formed.1).bind fun bytes => ih formed.2 _

theorem does_load {image : Image} (verified : Bool)
    (formed : ∀ segment ∈ image.segments, segment.addr.Formed segment.padded.length) :
    Does (load link image verified) (Loader.load link image verified) := by
  apply (Does.lift _).bind
  intro started
  apply (does_loadSegments verified formed 0).onMemory.bind
  intro bytes
  apply (Does.lift _).bind
  intro _
  exact (Does.lift _).bind fun ended => .pure _

theorem does_writeControl (addr value : UInt32) :
    Does (writeControl link addr value) (Loader.writeControl link addr value) :=
  (does_writeWord ⟨addr⟩ value).onMemory

theorem does_halt : Does (halt link) (Loader.halt link) :=
  (Does.lift _).bind fun l => does_writeControl l.control.reset l.control.hold

theorem does_start : Does (start link) (Loader.start link) := by
  apply (Does.lift _).bind
  intro l
  cases l.entry with
  | none => exact .lift _
  | some entry =>
    apply (does_writeControl l.control.programCounter entry).bind
    intro _
    exact (does_writeControl l.control.reset l.control.hold).bind fun _ => does_writeControl _ _

end Loaders

end Guarded

/-- The ends of all that the call is about can be formed. -/
def MemoryCall.Formed : MemoryCall → Prop
  | read addr len => addr.Formed len
  | write addr data => addr.Formed data.length
  | verify addr expected => addr.Formed expected.length
  | readWord _ => True
  | writeWord .. => True

def LoaderCall.Formed : LoaderCall → Prop
  | load image _ => ∀ segment ∈ image.segments, segment.addr.Formed segment.padded.length
  | loadAndStart image _ => ∀ segment ∈ image.segments, segment.addr.Formed segment.padded.length
  | start => True
  | halt => True

/-- Transactions and the accesses of a host are checked before anything is formed. -/
def DriverUse.Formed : DriverUse → Prop
  | call (.memory made) => made.Formed
  | call (.loader made) => made.Formed
  | readReported addr len => addr.Formed len
  | _ => True

section Uses

variable {link : Link σ}

theorem HostCall.does_guarded (call : HostCall) :
    Does (call.guarded link) (DriverCall.onHost link call) := by
  cases call with
  | readLines addr lines => exact (Guarded.does_readLines addr lines).map _
  | writeLines addr lines payload => exact (Guarded.does_writeLines addr lines payload).map _
  | writeLinesPacked addr lines payload =>
    exact (Guarded.does_writeLinesPacked addr lines payload).map _
  | abort => exact (Does.lift _).map _

theorem MemoryCall.does_guarded {call : MemoryCall} (formed : call.Formed) :
    Does (call.guarded link) (call.perform link) := by
  cases call with
  | read addr len => exact (Guarded.does_read formed).map _
  | write addr data => exact (Guarded.does_write formed).map _
  | readWord addr => exact (Guarded.does_readWord addr).map _
  | writeWord addr value => exact (Guarded.does_writeWord addr value).map _
  | verify addr expected => exact (Guarded.does_verify formed).map _

theorem LoaderCall.does_guarded {call : LoaderCall} (formed : call.Formed) :
    Does (call.guarded link) (DriverCall.onLoader link call) := by
  cases call with
  | load image verify => exact (Guarded.does_load verify formed).map _
  | start => exact Guarded.does_start.map _
  | halt => exact Guarded.does_halt.map _
  | loadAndStart image verify =>
    apply Does.map
    apply (Guarded.does_load verify formed).bind
    intro report
    exact Guarded.does_start.bind fun _ => .pure report

/-- No use of a driver is ever caught out. -/
theorem DriverUse.does_guarded {use : DriverUse} (formed : use.Formed) :
    Does (use.guarded link) (use.perform link) := by
  cases use with
  | call made =>
    apply Does.map
    cases made with
    | host call => exact call.does_guarded.onHost.onMemory
    | memory call => exact (MemoryCall.does_guarded formed).onMemory
    | loader call => exact LoaderCall.does_guarded formed
  | readReported addr len => exact (Guarded.does_readReported formed).onMemory.map _
  | readLine addr => exact (Guarded.does_readLine addr).onHost.onMemory.map _
  | bulkRead len => exact (Guarded.does_bulkRead len).onHost.onMemory.map _
  | bulkWrite data => exact (Guarded.does_bulkWrite data).onHost.onMemory.map _
  | pollRegister reg expected => exact (Does.lift _).map _
  | pollWithin reg expected limits => exact (Does.lift _).map _

end Uses

/-- Whatever the link answers, and wherever it fails: every guarded operation of a driver stays
within its bounds, and what is read has the size that was asked for. -/
theorem uses_stay_in_bounds (link : Link σ) :
    (∀ use : DriverUse, use.Formed → ∀ l : Loader σ,
      (use.guarded link).run l = some ((use.perform link).run l)) ∧
    (∀ addr len (m m' : Memory σ) data,
      (Memory.read link addr len).run m = (.ok data, m') → data.length = len) ∧
    ∀ addr lines (h h' : Host σ) data,
      (Host.readLines link addr lines).run h = (.ok data, h') →
        data.length = lines * lineBytes := by
  refine ⟨fun use formed => DriverUse.does_guarded formed, ?_, ?_⟩
  · intro addr len m m' data run
    exact ((Memory.read_gives link addr len).ok run).1
  · intro addr lines h h' data run
    exact ((Host.readLines_gives link addr lines).ok run).2

/-- The last line of the space is delivered whole to a first read and one byte short to a second,
which is not taken for a line. -/
theorem uses_stay_in_bounds_scripted :
    let link := Bench.Script.channel.link
    let script : Bench.Script :=
      { reads := [2, 16, 0, 2, 16, 0], bulk := [List.replicate 16 7, List.replicate 15 7] }
    let l : Loader Bench.Script := { memory := { host := { state := script } } }
    let read := DriverUse.call (.memory (.read ⟨0xFFFFFFF8⟩ 8))
    let later := ((read.perform link).run l).2
    read.Formed ∧ (read.guarded link).run l = some ((read.perform link).run l) ∧
      (read.guarded link).run later = some ((read.perform link).run later) ∧
      ((read.perform link).run l).1.isOk = true ∧
      ((read.perform link).run later).1.isOk = false ∧
      (∃ data m', (Memory.read link ⟨0xFFFFFFF8⟩ 8).run l.memory = (.ok data, m') ∧
        data.length = 8) ∧
      ∃ data h', (Host.readLines link ⟨0xFFFFFFF0⟩ 1).run l.memory.host = (.ok data, h') ∧
        data.length = 1 * lineBytes := by
  intro link script l read later
  have spans : Addr.Spans ⟨0xFFFFFFF8⟩ 8 := by decide
  obtain ⟨guarded, reads, lines⟩ := uses_stay_in_bounds link
  refine ⟨spans.formed, guarded read spans.formed l, guarded read spans.formed later,
    by decide +kernel, by decide +kernel, ?_, ?_⟩
  · obtain ⟨data, m', run⟩ := Action.exists_of_isOk (x := Memory.read link ⟨0xFFFFFFF8⟩ 8)
      (s := l.memory) (by decide +kernel)
    exact ⟨data, m', run, reads _ _ _ _ _ run⟩
  · obtain ⟨data, h', run⟩ := Action.exists_of_isOk (x := Host.readLines link ⟨0xFFFFFFF0⟩ 1)
      (s := l.memory.host) (by decide +kernel)
    exact ⟨data, h', run, lines _ _ _ _ _ run⟩

end LineBridge
