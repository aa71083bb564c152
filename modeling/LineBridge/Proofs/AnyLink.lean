import Mathlib
import LineBridge.Proofs.Moves
import LineBridge.Proofs.Sequences

/-! Transactions on a link of which nothing is known. It may answer anything, deliver any number
of bytes and fail at any access, as long as its faults are those of a link. A transaction that
the registers can describe is then never refused, and what it reads has the size asked for. -/

namespace LineBridge

open LineBridge.Action (Ends Preserves)

variable {σ α β : Type}

/-- The request was turned down for its size, its alignment or its range. -/
def Fault.IsRefusal : Fault → Prop
  | misaligned .. | tooLarge .. | outOfRange .. => True
  | _ => False

/-- Its faults are faults of a link; nothing is said about what it does and answers. -/
abbrev Action.FailsAsLink (x : Action σ α) : Prop :=
  Preserves (fun _ => True) (fun e _ => ∃ cause, e = .link cause) x

/-- A link that may do as it likes, with faults of its own kind. What it makes of a pair that has
no second register is left open. -/
structure Link.Wild (link : Link σ) : Prop where
  writeRegister : ∀ reg value, (link.writeRegister reg value).FailsAsLink
  readRegister : ∀ reg, (link.readRegister reg).FailsAsLink
  writeBulk : ∀ data, (link.writeBulk data).FailsAsLink
  readBulk : ∀ count, (link.readBulk count).FailsAsLink
  idleClock : ∀ cycles, (link.idleClock cycles).FailsAsLink
  writePair : ∀ {lo}, lo ≠ 0xFF → ∀ value, (link.writePair lo value).FailsAsLink
  readPair : ∀ {lo}, lo ≠ 0xFF → (link.readPair lo).FailsAsLink
  pollRegister : ∀ reg expected limits, (link.pollRegister reg expected limits).FailsAsLink
  packedWrite : ∀ addr field payload, (link.packedWrite addr field payload).FailsAsLink

/-- The sequences of a channel fail as its accesses do. -/
theorem Channel.wild_link {channel : Channel σ}
    (write : ∀ reg value, (channel.writeRegister reg value).FailsAsLink)
    (read : ∀ reg, (channel.readRegister reg).FailsAsLink)
    (writeBulk : ∀ data, (channel.writeBulk data).FailsAsLink)
    (readBulk : ∀ count, (channel.readBulk count).FailsAsLink)
    (idleClock : ∀ cycles, (channel.idleClock cycles).FailsAsLink) : channel.link.Wild where
  writeRegister := write
  readRegister := read
  writeBulk := writeBulk
  readBulk := readBulk
  idleClock := idleClock
  writePair inside := writePair_preserves write fun last => absurd last inside
  readPair inside := readPair_preserves read fun last => absurd last inside
  pollRegister := pollRegister_preserves read fun _ _ _ => trivial
  packedWrite := packedWrite_preserves write writeBulk

namespace Host

variable {o : Outline}

/-- A stage that goes through with a value in `Q`, or ends in a fault that is no refusal. What
no transaction changes in the host stays. -/
def Proceeds (o : Outline) (x : Action (Host σ) α) (Q : α → Prop) : Prop :=
  Ends (At o fun _ => True) x (fun a => At o fun _ => Q a) (fun e => At o fun _ => ¬e.IsRefusal)

namespace Proceeds

variable {x : Action (Host σ) α} {f : α → Action (Host σ) β} {Q : α → Prop} {R : β → Prop}

theorem pure {a : α} (holds : Q a) : Proceeds o (Pure.pure a : Action (Host σ) α) Q :=
  Ends.pure fun _ before => ⟨before.1, holds⟩

theorem fail {e : Fault} (accepted : ¬e.IsRefusal) :
    Proceeds o (Action.fail e : Action (Host σ) α) Q :=
  Ends.fail fun _ before => ⟨before.1, accepted⟩

theorem bind (first : Proceeds o x Q) (next : ∀ a, Q a → Proceeds o (f a) R) :
    Proceeds o (x >>= f) R :=
  Ends.bind first fun a h after => next a after.2 h ⟨after.1, trivial⟩

theorem get_then {g : Host σ → Action (Host σ) β} (next : ∀ h, Proceeds o (g h) R) :
    Proceeds o (Action.get >>= g) R := Ends.get_then fun h _ => next h

theorem onLink {x : Action σ α} (own : x.FailsAsLink) :
    Proceeds o (Host.onLink x) fun _ => True := by
  refine (onLink_ends own).onFault fun e h after => ⟨after.1, ?_⟩
  obtain ⟨cause, rfl⟩ := after.2
  exact id

end Proceeds

section Stages

variable {link : Link σ} (wild : link.Wild)
include wild

theorem command_proceeds (c : Command) : Proceeds o (command link c) fun _ => True :=
  .onLink (wild.writeRegister _ _)

theorem program_proceeds (addr : Addr) (field : UInt16) :
    Proceeds o (program link addr field) fun _ => True := by
  apply Proceeds.bind (setInFlight_ends (some addr))
  intro _ _
  apply Proceeds.bind (.onLink (Channel.writeEach_preserves wild.writeRegister _))
  intro _ _
  exact .onLink (wild.writePair (by decide) field)

theorem waitDone_proceeds (reg : UInt8) (addr : Addr) :
    Proceeds o (waitDone link reg addr) fun _ => True := by
  apply Proceeds.get_then
  intro h
  apply Proceeds.bind (.onLink (wild.pollRegister reg _ h.limits))
  intro outcome _
  cases outcome with
  | ready value attempts => exact .pure trivial
  | exhausted last attempts =>
    dsimp only
    split
    · exact .fail id
    · exact .fail id

theorem waitCount_proceeds (addr : Addr) (expected : Nat) :
    Proceeds o (waitCount link addr expected) fun _ => True := by
  apply Proceeds.get_then
  intro h
  apply Proceeds.bind (.onLink ((wild.readPair (by decide)).poll (fun _ _ _ => trivial) h.limits _))
  intro outcome _
  dsimp only
  split
  · exact .pure trivial
  · split
    · exact .fail id
    · exact .fail id

/-- A delivery of another size does not go through. -/
theorem bulkRead_proceeds {len : Nat} (fits : len ≤ maxBulkBytes) :
    Proceeds o (bulkRead link len) fun data => data.length = len := by
  rw [bulkRead, checkBulk_eq_ok_iff.mpr ⟨fits, rfl⟩]
  apply Ends.ofExcept_ok
  split
  · next none => exact Proceeds.pure none.symm
  · apply Proceeds.bind (.onLink (wild.writePair (by decide) _))
    intro _ _
    apply Proceeds.bind (.onLink (wild.readBulk len))
    intro data _
    split
    · next whole => exact .pure whole
    · exact .get_then fun _ => .fail id

theorem bulkWrite_proceeds {data : Bytes} (fits : data.length ≤ maxBulkBytes) :
    Proceeds o (bulkWrite link data) fun _ => True := by
  rw [bulkWrite, checkBulk_eq_ok_iff.mpr ⟨fits, rfl⟩]
  apply Ends.ofExcept_ok
  split
  · exact Proceeds.pure trivial
  · exact Proceeds.bind (.onLink (wild.writePair (by decide) _)) fun _ _ => .onLink (wild.writeBulk data)

theorem finish_proceeds : Proceeds o (finish link) fun _ => True := by
  apply Proceeds.bind (command_proceeds wild .null)
  intro _ _
  apply Proceeds.get_then
  intro h
  split
  · exact Proceeds.bind (.onLink (wild.idleClock _)) fun _ _ => setInFlight_ends none
  · exact setInFlight_ends none

theorem readLines_proceeds {addr : Addr} {lines : Nat} (valid : Addressable addr lines) :
    Proceeds o (readLines link addr lines) fun data => data.length = lines * lineBytes := by
  rw [readLines, valid.checked]
  apply Ends.ofExcept_ok
  apply Proceeds.bind (now_ends link)
  intro started _
  apply Proceeds.bind (program_proceeds wild addr _)
  intro _ _
  apply Proceeds.bind (command_proceeds wild .readStart)
  intro _ _
  apply Proceeds.bind (waitDone_proceeds wild _ addr)
  intro _ _
  apply Proceeds.bind (waitCount_proceeds wild addr _)
  intro _ _
  apply Proceeds.bind (bulkRead_proceeds wild valid.fits_bulk)
  intro data whole
  apply Proceeds.bind (endPhase_ends link .read started)
  intro _ _
  apply Proceeds.bind (now_ends link)
  intro drained _
  apply Proceeds.bind (finish_proceeds wild)
  intro _ _
  exact Proceeds.bind (endPhase_ends link .ack drained) fun _ _ => .pure whole

theorem completeWrite_proceeds (addr : Addr) :
    Proceeds o (completeWrite link addr) fun _ => True := by
  apply Proceeds.bind (now_ends link)
  intro issued _
  apply Proceeds.bind (waitDone_proceeds wild _ addr)
  intro _ _
  exact Proceeds.bind (finish_proceeds wild) fun _ _ => endPhase_ends link .ack issued

section Writes

variable {addr : Addr} {lines : Nat} {payload : Bytes} (valid : Writable addr lines payload)
include valid

theorem writeLines_proceeds : Proceeds o (writeLines link addr lines payload) fun _ => True := by
  have declared : checkPayload addr lines payload = .ok () :=
    checkPayload_eq_ok_iff.mpr valid.size.symm
  rw [writeLines, valid.checked, declared]
  apply Ends.ofExcept_ok
  apply Ends.ofExcept_ok
  apply Proceeds.bind (now_ends link)
  intro started _
  apply Proceeds.bind (program_proceeds wild addr _)
  intro _ _
  apply Proceeds.bind (bulkWrite_proceeds wild (valid.size ▸ valid.fits_bulk))
  intro _ _
  apply Proceeds.bind (command_proceeds wild .writeStart)
  intro _ _
  exact Proceeds.bind (endPhase_ends link .write started) fun _ _ =>
    completeWrite_proceeds wild addr

theorem writeLinesPacked_proceeds :
    Proceeds o (writeLinesPacked link addr lines payload) fun _ => True := by
  have declared : checkPayload addr lines payload = .ok () :=
    checkPayload_eq_ok_iff.mpr valid.size.symm
  rw [writeLinesPacked, valid.checked, declared]
  apply Ends.ofExcept_ok
  apply Ends.ofExcept_ok
  apply Proceeds.bind (now_ends link)
  intro started _
  apply Proceeds.bind (setInFlight_ends (some addr))
  intro _ _
  apply Proceeds.bind (.onLink (wild.packedWrite addr _ payload))
  intro _ _
  exact Proceeds.bind (endPhase_ends link .write started) fun _ _ =>
    completeWrite_proceeds wild addr

end Writes

/-- A line that was read is a line again when a fragment of it has been replaced. -/
theorem patchLine_proceeds {addr : Addr} {data : Bytes}
    (inside : addr.lineOffset + data.length ≤ lineBytes) :
    Proceeds o (Memory.patchLine link addr data) fun _ => True := by
  have line := addr.addressable_lineBase
  apply Proceeds.bind (readLines_proceeds wild line)
  intro bytes whole
  apply Proceeds.bind (now_ends link)
  intro started _
  apply Proceeds.bind (endPhase_ends link .prep started)
  intro _ _
  rw [Nat.one_mul] at whole
  have merged : Writable addr.lineBase 1 (Memory.splice bytes addr.lineOffset data) :=
    ⟨line, (Memory.length_splice (by rwa [whole])).trans (by rw [whole, Nat.one_mul])⟩
  exact writeLines_proceeds wild merged

end Stages

end Host

end LineBridge
