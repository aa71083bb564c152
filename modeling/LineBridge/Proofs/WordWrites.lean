import Mathlib
import LineBridge.Proofs.MirroredCalls
import LineBridge.Proofs.RequestChecks
import LineBridge.Proofs.Requests

/-! Words of memory that are set one after another. An aligned word lies in one line, so that
setting it is one merge, whatever else is in that line. A row of words that is cut short has set
the first of them, in order, and each by one write of its line. -/

namespace LineBridge

open LineBridge.Action (Ends)

variable {σ : Type} {view : σ → Device} {lossy : Prop}

/-- A word of memory and the value that it is to take. -/
structure WordWrite where
  addr : Addr
  value : UInt32
deriving DecidableEq, Repr

def WordWrite.bytes (w : WordWrite) : Bytes := Bytes.littleEndian wordBytes w.value.toNat

theorem WordWrite.length_bytes (w : WordWrite) : w.bytes.length = wordBytes :=
  Bytes.length_littleEndian ..

namespace Addr.IsWordAligned

variable {a : Addr} (aligned : a.IsWordAligned)
include aligned

/-- An aligned word does not cross a line. -/
theorem inside_line : a.lineOffset + wordBytes ≤ lineBytes := by
  unfold IsWordAligned at aligned
  simp only [lineOffset, wordBytes, lineBytes] at aligned ⊢
  omega

theorem spans : a.Spans wordBytes := by
  have place := a.val.toNat_lt
  simp only [IsWordAligned, Spans, wordBytes, spaceBytes, UInt32.size] at aligned ⊢
  omega

theorem first_piece (batch : Nat) :
    Piece.first batch a wordBytes = ⟨.partialLine, wordBytes, 1⟩ := by
  have inside := aligned.inside_line
  unfold Piece.first
  split
  · rw [Nat.min_eq_right (Nat.le_sub_of_add_le' inside)]
  · exact if_neg (by decide)

end Addr.IsWordAligned

namespace Flat

/-- Memory with a word set. -/
def put (f : Flat) (w : WordWrite) : Flat := f.write w.addr w.bytes

/-- Memory with words set one after another. -/
def putEach (f : Flat) (words : List WordWrite) : Flat := words.foldl put f

/-- The write of a line that holds what memory holds. -/
def lineOf (f : Flat) (a : Addr) : LineWrite := ⟨a.lineBase, f.read a.lineBase lineBytes⟩

/-- The writes that set words one after another, oldest first. Each writes the line of its word
back with no other change. -/
def lineWrites (f : Flat) : List WordWrite → List LineWrite
  | [] => []
  | w :: rest => (f.put w).lineOf w.addr :: (f.put w).lineWrites rest

end Flat

/-- Words have been set one after another, each by one write of its line. -/
structure Device.HasSet (d : Device) (words : List WordWrite) (d' : Device) : Prop
    extends Becomes d (Flat.putEach d.memory.byteAt words) d' where
  writes : d'.writes = (Flat.lineWrites d.memory.byteAt words).reverse ++ d.writes

theorem Device.Keeps.hasSet {d d' : Device} (kept : d.Keeps d') : d.HasSet [] d' :=
  ⟨kept.becomes, kept.writes⟩

theorem Device.Patched.hasSet {d d₁ d' : Device} {w : WordWrite} {rest : List WordWrite}
    (first : d.Patched w.addr w.bytes d₁) (later : d₁.HasSet rest d') :
    d.HasSet (w :: rest) d' := by
  have memory : d₁.memory.byteAt = Flat.put d.memory.byteAt w := first.memory
  have onward := later.toBecomes
  have writes := later.writes
  rw [memory] at onward writes
  refine ⟨first.toBecomes.trans onward, ?_⟩
  rw [writes, first.writes, LineStore.peek_eq_read, memory, Flat.lineWrites, List.reverse_cons,
    List.append_assoc]
  rfl

namespace Memory

variable {t : TransferSettings} {o : Host.Outline}

/-- Setting an aligned word is one merge, and its report. -/
theorem writeWord_eq (link : Link σ) {w : WordWrite} (aligned : w.addr.IsWordAligned) :
    writeWord link w.addr w.value = (do
      onHost (patchLine link w.addr w.bytes)
      reportPiece .write w.addr ⟨.partialLine, wordBytes, 1⟩) := by
  have some : ¬w.bytes.isEmpty = true := by
    rw [List.isEmpty_iff_length_eq_zero, w.length_bytes]
    decide
  have moved (batch : Nat) : writeFrom link batch w.addr wordBytes w.bytes {} = (do
      onHost (patchLine link w.addr w.bytes)
      reportPiece .write w.addr ⟨.partialLine, wordBytes, 1⟩
      pure (({} : TransferReport).add ⟨.partialLine, wordBytes, 1⟩)) := by
    have whole : w.bytes.take wordBytes = w.bytes := List.take_of_length_le w.length_bytes.le
    rw [writeFrom, if_neg (by decide), aligned.first_piece]
    simp only [writePiece, whole, Nat.sub_self]
    rw [writeFrom, if_pos rfl]
  have unclocked {β : Type} (x : Action (Memory σ) β) :
      (onHost (Host.now link) >>= fun _ => x) = x := rfl
  have unset {β : Type} (x : Action (Memory σ) β) : (settings >>= fun _ => x) = x := rfl
  have bytes : Bytes.littleEndian wordBytes w.value.toNat = w.bytes := rfl
  rw [writeWord, Addr.requireWordAligned, if_pos aligned, bytes, write]
  simp only [if_neg some, w.length_bytes, requestEnd_of_spans aligned.spans, Action.ofExcept,
    pure_bind, moved, bind_assoc, unclocked, unset, bind_pure_unit]

/-- A memory whose host waits within given limits, on a device in `P`. -/
def Drives (view : σ → Device) (limits : PollLimits) (P : Device → Prop) (m : Memory σ) : Prop :=
  m.host.limits = limits ∧ P (view m.host.state)

/-- A word is set by one write of its line, or not at all. -/
theorem writeWord_ends {channel : Channel σ} (fronts : channel.Fronts view lossy) {w : WordWrite}
    (aligned : w.addr.IsWordAligned) (limits : PollLimits) (d : Device) :
    Ends (Drives view limits (· = d)) (writeWord channel.link w.addr w.value)
      (fun _ => Drives view limits fun d' => d.Patched w.addr w.bytes d' ∧ d'.Idle)
      (fun _ => Drives view limits fun d' => (d.Keeps d' ∨ d.Patched w.addr w.bytes d') ∧
        Troubled lossy channel limits d) := by
  have inside : w.addr.lineOffset + w.bytes.length ≤ lineBytes := by
    rw [w.length_bytes]
    exact aligned.inside_line
  rw [writeWord_eq _ aligned]
  apply Ends.of_eq
  intro m before
  obtain ⟨rfl, there⟩ := before
  have patched := onHost_ends (t := m.transfer)
    (Host.patchLine_patches fronts (o := m.host.outline) inside d)
  have limited {o : Host.Outline} {P : σ → Prop} {h : Host σ} (same : o.limits = m.host.limits)
      (at_ : Host.At o P h) : h.limits = m.host.limits :=
    (congrArg Host.Outline.limits at_.1).trans same
  apply Ends.bind (Q := fun _ => Holds m.transfer (Host.At m.host.outline fun s =>
    d.Patched w.addr w.bytes (view s) ∧ (view s).Idle))
  · refine patched.weaken (fun m' same => ?_) (fun _ _ after => after) (fun _ m' after => ?_)
    · subst same
      exact ⟨rfl, rfl, there⟩
    · exact ⟨limited rfl after.2, after.2.2⟩
  · intro _
    refine (reportPiece_ends .write w.addr _).onValue fun _ m' after => ?_
    exact ⟨limited (m.host.outline.limits_moved _ _) after.2, after.2.2⟩

/-- A word cannot be set without a call to the link. -/
theorem writeWord_calls (link : Link σ) {w : WordWrite} (aligned : w.addr.IsWordAligned) (c : Nat) :
    Ends (fun m => c ≤ m.host.state.calls) (writeWord link.counted w.addr w.value)
      (fun _ m => c < m.host.state.calls) (fun _ m => c < m.host.state.calls) := by
  let calls := (link.counted_steady c).calls
  have clocked : Host.Grown c (Host.now link.counted) := fun _ grown => grown
  have patching : Host.Calling c (patchLine link.counted w.addr w.bytes) := by
    apply (Host.calling_readLines link w.addr.addressable_lineBase).then
    intro line
    apply clocked.then
    intro started
    exact (Host.grown_endPhase link .prep started).then fun _ => calls.writeLines _ 1 _
  rw [writeWord_eq _ aligned]
  apply Ends.bind (Ends.part patching fun _ _ => rfl)
  intro _
  exact calls.reportPiece .write w.addr _

end Memory

namespace Loader

theorem onMemory_ends {α : Type} {x : Action (Memory σ) α} {P : Memory σ → Prop}
    {Q : α → Memory σ → Prop} {E : Fault → Memory σ → Prop} (h : Ends P x Q E) :
    Ends (fun l => P l.memory) (onMemory x) (fun a l => Q a l.memory) (fun e l => E e l.memory) :=
  Ends.part h fun _ _ => rfl

/-- Sets words one after another. -/
def setWords (link : Link σ) : List WordWrite → Action (Loader σ) Unit
  | [] => pure ()
  | w :: rest => do
    writeControl link w.addr.val w.value
    setWords link rest

/-- The words are set in order, or as many of them as come before a fault. -/
theorem setWords_ends {channel : Channel σ} (fronts : channel.Fronts view lossy)
    {words : List WordWrite} (aligned : ∀ w ∈ words, w.addr.IsWordAligned) (limits : PollLimits)
    (d : Device) :
    Ends (fun l => l.memory.Drives view limits (· = d)) (setWords channel.link words)
      (fun _ l => l.memory.Drives view limits fun d' =>
        d.HasSet words d' ∧ (d.Idle ∨ words ≠ [] → d'.Idle))
      (fun _ l => l.memory.Drives view limits fun d' =>
        (∃ k ≤ words.length, d.HasSet (words.take k) d') ∧
        Troubled lossy channel limits d) := by
  induction words generalizing d with
  | nil =>
    refine Ends.pure fun l before => ⟨before.1, ?_⟩
    rw [before.2]
    exact ⟨(Device.Keeps.refl d).hasSet, fun idle => idle.resolve_right (absurd rfl)⟩
  | cons w rest ih =>
    have first := Memory.writeWord_ends fronts (aligned w (List.mem_cons_self ..)) limits d
    have later := ih fun w member => aligned w (List.mem_cons_of_mem _ member)
    apply Ends.bind (Q := fun _ l => l.memory.Drives view limits fun d' =>
      d.Patched w.addr w.bytes d' ∧ d'.Idle)
    · refine (onMemory_ends first).onFault fun _ l after => ?_
      obtain ⟨limited, either, trouble⟩ := after
      refine ⟨limited, ?_, trouble⟩
      rcases either with kept | patched
      · exact ⟨0, Nat.zero_le _, kept.hasSet⟩
      · exact ⟨1, Nat.succ_pos _, patched.hasSet (Device.Keeps.refl _).hasSet⟩
    · intro _ l before
      obtain ⟨limited, patched, idle⟩ := before
      refine (later (view l.memory.host.state)).weaken (fun _ before => before) ?_ ?_ l
        ⟨limited, rfl⟩
      · intro _ l' after
        exact ⟨after.1, patched.hasSet after.2.1, fun _ => after.2.2 (.inl idle)⟩
      · intro _ l' after
        obtain ⟨limited, ⟨k, inside, set⟩, trouble⟩ := after
        exact ⟨limited, ⟨k + 1, Nat.succ_le_succ inside, patched.hasSet set⟩,
          patched.toBecomes.troubled trouble⟩

/-- A row of words is not set without a call to the link. -/
theorem setWords_calls (link : Link σ) {w : WordWrite} (aligned : w.addr.IsWordAligned)
    (rest : List WordWrite) (c : Nat) :
    Ends (fun l => c ≤ l.memory.host.state.calls) (setWords link.counted (w :: rest))
      (fun _ l => c < l.memory.host.state.calls) (fun _ l => c < l.memory.host.state.calls) := by
  let calls := (link.counted_steady c).calls
  apply Ends.bind (onMemory_ends (Memory.writeWord_calls link aligned c))
  intro _
  induction rest with
  | nil => exact Ends.pure fun _ grown => grown
  | cons w rest ih => exact Ends.bind (calls.writeControl w.addr.val w.value) fun _ => ih

end Loader

end LineBridge
