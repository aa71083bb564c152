import Mathlib
import LineBridge.Bench.Tape
import LineBridge.Proofs.Agreement
import LineBridge.Proofs.AnsweredCommands
import LineBridge.Proofs.ClockedCommands

/-! Where a driver leaves the stream of answers. Whatever bytes come back, and wherever they end,
a use of a driver either fails for good, or has taken the answers to what it has sent and nothing
else, so that the next answer on the stream belongs to the next command. -/

namespace LineBridge

open LineBridge.Action (Preserves)
open LineBridge.Metered (FatalOr Pairing Passed Since)

variable {σ α : Type}

/-- The call has failed, and the link must be reset before it is used again. -/
def Action.fatal : Except Fault α → Bool
  | .ok _ => false
  | .error e => e.isFatal

/-- What a single call preserves unless it fails for good, a run of calls preserves. -/
theorem Action.runEach_preserves {κ : Type} {perform : κ → Action σ α} {I : σ → Prop}
    (step : ∀ call, Preserves I (fun e s => e.isFatal = true ∨ I s) (perform call))
    (calls : List κ) {s : σ} (start : I s) :
    (∃ outcome ∈ (runEach perform calls s).1, Action.fatal outcome = true) ∨
      I (runEach perform calls s).2 := by
  induction calls generalizing s with
  | nil => exact .inr start
  | cons call rest ih =>
    have ending := step call s start
    rw [runEach]
    cases run : (perform call).run s with
    | mk outcome s' =>
      rw [run] at ending
      have later (inside : I s') :
          (∃ made ∈ outcome :: (runEach perform rest s').1, Action.fatal made = true) ∨
            I (runEach perform rest s').2 := by
        rcases ih inside with ⟨made, member, fatal⟩ | inside
        · exact .inl ⟨made, List.mem_cons_of_mem _ member, fatal⟩
        · exact .inr inside
      cases outcome with
      | ok a => exact later ending
      | error e =>
        rcases ending with fatal | inside
        · exact .inl ⟨_, List.mem_cons_self .., fatal⟩
        · exact later inside

section Uses

variable {stream : ByteStream σ} (regular : stream.Regular) (clock : Clock σ)
  (uses : List DriverUse) (l : Loader (Metered σ))
include regular

/-- Either there was a fault after which the link must be reset, or the bytes taken are those that
answer what was sent: over a stream, one reply for each command and what a read that succeeded
asked for; through an adapter, what its commands clock in. -/
theorem uses_end_at_boundaries :
    (∀ frame : Nat,
      let run := Action.runEach
        (DriverUse.perform (Remote.link stream.metered clock.metered frame)) uses l
      (∃ outcome ∈ run.1, Action.fatal outcome = true) ∨ ∃ sent taken exchanges,
        Passed l.memory.host.state run.2.memory.host.state sent taken ∧
        Remote.Balanced sent taken exchanges) ∧
    ∀ s : Spi.Settings,
      let run := Action.runEach
        (DriverUse.perform (Spi.link stream.metered clock.metered s)) uses l
      (∃ outcome ∈ run.1, Action.fatal outcome = true) ∨ ∃ sent taken commands,
        Passed l.memory.host.state run.2.memory.host.state sent taken ∧
        Spi.Clocked sent taken commands := by
  have run {P : Bytes → Bytes → Prop} (pairing : Pairing P) {link : Link (Metered σ)}
      (steady : link.Steady (Since P l.memory.host.state) (FatalOr P l.memory.host.state)) :=
    Action.runEach_preserves steady.driverUse uses (pairing.since_refl l.memory.host.state)
  refine ⟨fun frame => ?_, fun s => ?_⟩
  · refine (run Remote.pairing_answered (Remote.steady_link regular clock frame _)).imp_right ?_
    rintro ⟨sent, taken, passed, exchanges, balanced⟩
    exact ⟨sent, taken, exchanges, passed, balanced⟩
  · refine (run Spi.pairing_collected (Spi.steady_link regular s clock _)).imp_right ?_
    rintro ⟨sent, taken, passed, commands, clocked⟩
    exact ⟨sent, taken, commands, passed, clocked⟩

end Uses

theorem Bench.Tape.regular : Bench.Tape.stream.Regular where
  write bytes t _ := by
    by_cases cut : t.failWrite = some t.writes
    · have run : (stream.write bytes).run t =
          (.error (.link .down), { t with writes := t.writes + 1 }) := if_pos cut
      rw [run]
      exact ⟨_, rfl⟩
    · have run : (stream.write bytes).run t =
          (.ok (), { t with writes := t.writes + 1, meter := t.meter.addSent bytes }) := if_neg cut
      rw [run]
      trivial
  flush _ _ := trivial
  read count t _ := by
    by_cases cut : t.failRead = some t.reads
    · have run : (stream.read count).run t =
          (.error (.link .down), { t with reads := t.reads + 1 }) := if_pos cut
      rw [run]
      exact ⟨_, rfl⟩
    · obtain ⟨size, fits, taken⟩ : ∃ size ≤ count, ∃ t',
          (stream.read count).run t = (.ok (t.incoming.take size), t') := by
        cases limit : t.readLimit with
        | none => exact ⟨count, Nat.le_refl _, _, (if_neg cut).trans (by rw [limit])⟩
        | some most => exact ⟨min count most, Nat.min_le_left _ _, _,
            (if_neg cut).trans (by rw [limit])⟩
      obtain ⟨t', run⟩ := taken
      rw [run]
      exact (List.length_take_le _ _).trans fits

/-- Six commands are answered, a wait runs out on a status that reports an error, and three more
bytes have come: they stay on the stream. -/
theorem uses_end_at_boundaries_refused :
    let granted : Bytes := [0, 0, 0, 0, 0, 0, 0, 0, 0x37]
    let refused : Bytes := [3, 0, 0, 0, 1, 0, 0, 0, 0]
    let tape : Bench.Tape :=
      { incoming := (List.replicate 6 granted).flatten ++ refused ++ [7, 7, 7]
        readLimit := some 4 }
    let l : Loader (Metered Bench.Tape) := { memory := { host := { state := { inner := tape } } } }
    let run := Action.runEach (DriverUse.perform
      (Remote.link Bench.Tape.stream.metered Clock.still.metered 512))
      [.call (.host (.readLines ⟨0x40⟩ 1))] l
    Bench.Tape.stream.Regular ∧ run.1.map Except.isOk = [false] ∧
      run.2.memory.host.state.inner.incoming = [7, 7, 7] ∧ ∃ sent taken exchanges,
        Passed l.memory.host.state run.2.memory.host.state sent taken ∧
        Remote.Balanced sent taken exchanges := by
  intro granted refused tape l run
  have settled : ∀ outcome ∈ run.1, Action.fatal outcome = false := by
    have all : run.1.all (fun outcome => !Action.fatal outcome) = true := by decide +kernel
    simpa using all
  refine ⟨Bench.Tape.regular, by decide +kernel, by decide +kernel, ?_⟩
  have either := (uses_end_at_boundaries Bench.Tape.regular .still
    [.call (.host (.readLines ⟨0x40⟩ 1))] l).1 512
  rcases either with ⟨outcome, member, fatal⟩ | balanced
  · rw [settled outcome member] at fatal
    cases fatal
  · exact balanced

end LineBridge
