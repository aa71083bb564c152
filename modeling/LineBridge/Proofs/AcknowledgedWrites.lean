import Mathlib
import LineBridge.Proofs.Moves

/-! What the acknowledgement of a write is worth. A write that found the write buffer empty and
was acknowledged has happened. One that found bytes in the buffer is refused by the device; but
the refusal leaves a pending wait as it is, so that the status turns from error to done when an
earlier write that was given up comes to its end, and the refused write is acknowledged. -/

namespace LineBridge

open LineBridge.Action (Ends)

variable {σ : Type} {view : σ → Device} {lossy : Prop}

namespace Host

/-- Writes lines as a packed write, or step by step. -/
def submit (link : Link σ) (packed : Bool) (addr : Addr) (lines : Nat) (payload : Bytes) :
    Action (Host σ) Unit :=
  if packed then writeLinesPacked link addr lines payload else writeLines link addr lines payload

theorem submit_link (channel : Channel σ) (packed : Bool) (addr : Addr) (lines : Nat)
    (payload : Bytes) :
    submit channel.link packed addr lines payload = writeLines channel.link addr lines payload := by
  unfold submit
  split
  · exact writeLinesPacked_eq_writeLines channel addr lines payload
  · rfl

/-- Whatever was done before, an acknowledged write is applied if and only if it found the write
buffer empty. If it did not, it is acknowledged when a wait is pending that ends in time. -/
theorem acknowledged_write_applied_iff {channel : Channel σ} (fronts : channel.Fronts view lossy)
    (packed : Bool) (addr : Addr) (lines : Nat) (payload : Bytes) (h : Host σ) :
    let d := view h.state
    let (outcome, h') := (submit channel.link packed addr lines payload).run h
    let d' := view h'.state
    (outcome = .ok () →
      (d.writeFifo = #[] → d'.writes = ⟨addr, payload⟩ :: d.writes ∧
        d'.memory.peek addr (lines * lineBytes) = payload) ∧
      (d.writeFifo ≠ #[] → d'.writes = d.writes ∧ d'.memory = d.memory ∧
        0 < d.writeStatusWait)) ∧
    (¬lossy → channel.InTime h.limits → d.stuck = false → Writable addr lines payload →
      d.writeFifo ≠ #[] → 0 < d.writeStatusWait → d.writeStatusWait < h.limits.reads →
      outcome = .ok ()) := by
  rw [submit_link]
  have ending := writeLines_ends fronts (o := h.outline) addr lines payload _ h ⟨rfl, rfl⟩
  cases run : (writeLines channel.link addr lines payload).run h with
  | mk outcome h' =>
    rw [run] at ending
    cases outcome with
    | ok u =>
      obtain ⟨-, valid, acknowledged⟩ := ending
      refine ⟨fun _ => ⟨fun empty => ?_, fun some => ?_⟩, fun _ _ _ _ _ _ _ => rfl⟩
      · have applied := acknowledged.applied empty
        have fits : payload.length ≤ spaceBytes := by
          have inside := valid.inside
          rw [valid.size]
          omega
        exact ⟨applied.writes, valid.size ▸ applied.peek fits⟩
      · obtain ⟨pending, kept⟩ := acknowledged.hidden some
        exact ⟨kept.writes, kept.memory, pending⟩
    | error e =>
      obtain ⟨-, -, cause⟩ := ending
      refine ⟨fun no => ?_, fun lossless inTime free valid some pending prompt => ?_⟩
      · cases no
      · rcases cause valid with lost | late
        · exact absurd lost lossless
        · have overdue := late inTime free
          rw [Device.Overdue, if_neg some] at overdue
          have short : h.outline.limits.reads = h.limits.reads := rfl
          omega

/-- From a fresh device: a write times out, bytes are streamed, and the next write is
acknowledged although the device has refused it. -/
theorem refused_write_acknowledged :
    let fresh : Host Device := { state := { latency := 10 }, limits := .immediate 8 }
    let late := ((writeLines Device.link ⟨0⟩ 1 (List.replicate 16 0x11)).run fresh).2
    let filled := ((bulkWrite Device.link (List.replicate 16 0x22)).run late).2
    let (outcome, h') := (submit Device.link false ⟨0x40⟩ 1 (List.replicate 16 0x33)).run filled
    outcome = .ok () ∧ h'.state.writes = filled.state.writes ∧
      h'.state.memory = filled.state.memory := by
  intro fresh late filled
  have some : filled.state.writeFifo ≠ #[] := by decide +kernel
  have pending : filled.state.writeStatusWait = 2 := by decide +kernel
  have free : filled.state.stuck = false := by decide +kernel
  have limits : filled.limits = .immediate 8 := by decide +kernel
  clear_value filled
  have valid : Writable ⟨0x40⟩ 1 (List.replicate 16 0x33) :=
    ⟨⟨by decide, by decide, by decide, by decide⟩, by decide⟩
  have inTime : Device.channel.InTime filled.limits :=
    Device.inTime (limits ▸ by decide)
  have prompt : filled.state.writeStatusWait < filled.limits.reads := by
    rw [pending, limits]
    decide
  obtain ⟨applied, accepted⟩ := acknowledged_write_applied_iff Channel.fronts_device false ⟨0x40⟩ 1
    (List.replicate 16 0x33) filled
  have ok := accepted id inTime free valid some (pending ▸ Nat.two_pos) prompt
  exact ⟨ok, ((applied ok).2 some).1, ((applied ok).2 some).2.1⟩

end Host

end LineBridge
