import Mathlib
import LineBridge.Proofs.Waiting

/-! Waits on sequences of replies. A channel whose registers answer from fixed sequences decides by
itself how a wait ends: with the first answer that is accepted, if there is one among as many as
the wait may read, and with the last of these if there is none. All that is asked of the clock is
that the reads of a wait are made before its time is up. -/

namespace LineBridge

open LineBridge.Action (Ends)

variable {σ α : Type}

/-- The first index below `limit` that is accepted. -/
def firstWithin (accept : Nat → Bool) (limit : Nat) : Option Nat :=
  (List.range limit).find? accept

theorem firstWithin_eq_some_iff {accept : Nat → Bool} {limit j : Nat} :
    firstWithin accept limit = some j ↔
      j < limit ∧ accept j = true ∧ ∀ i < j, accept i = false := by
  simp only [firstWithin, List.find?_range_eq_some, List.mem_range, Bool.not_eq_true']
  tauto

theorem firstWithin_eq_none_iff {accept : Nat → Bool} {limit : Nat} :
    firstWithin accept limit = none ↔ ∀ j < limit, accept j = false := by
  simp [firstWithin]

/-- The reads of a wait that may make `limit` of them. -/
def readsWithin (accept : Nat → Bool) (limit : Nat) : Nat :=
  match firstWithin accept limit with
  | some j => j + 1
  | none => limit

/-- How a wait ends on a sequence of answers. -/
def waitOn (accept : α → Bool) (answers : Nat → α) (limit : Nat) : PollOutcome α :=
  match firstWithin (fun j => accept (answers j)) limit with
  | some j => .ready (answers j) (j + 1)
  | none => .exhausted (answers (limit - 1)) limit

theorem attempts_waitOn (accept : α → Bool) (answers : Nat → α) (limit : Nat) :
    (waitOn accept answers limit).attempts = readsWithin (fun j => accept (answers j)) limit := by
  unfold waitOn readsWithin
  cases firstWithin (fun j => accept (answers j)) limit <;> rfl

section Waits

variable {clock : Clock σ} {limits : PollLimits} {read : Action σ α}

variable {accept : α → Bool} {answers : Nat → α} {P : Nat → σ → Prop}

theorem waitOn_ready {limit j : Nat} (inside : j < limit) (accepted : accept (answers j) = true)
    (refused : ∀ i < j, accept (answers i) = false) :
    waitOn accept answers limit = .ready (answers j) (j + 1) := by
  have first : firstWithin (fun j => accept (answers j)) limit = some j :=
    firstWithin_eq_some_iff.mpr ⟨inside, accepted, refused⟩
  simp only [waitOn, first]

theorem waitOn_exhausted {limit : Nat} (refused : ∀ j < limit, accept (answers j) = false) :
    waitOn accept answers limit = .exhausted (answers (limit - 1)) limit := by
  have none : firstWithin (fun j => accept (answers j)) limit = none :=
    firstWithin_eq_none_iff.mpr refused
  simp only [waitOn, none]

theorem exists_of_waitOn_ready {limit attempts : Nat} {value : α}
    (ready : waitOn accept answers limit = .ready value attempts) :
    ∃ j < limit, accept (answers j) = true := by
  cases first : firstWithin (fun j => accept (answers j)) limit with
  | none => simp [waitOn, first] at ready
  | some j =>
    obtain ⟨inside, accepted, -⟩ := firstWithin_eq_some_iff.mp first
    exact ⟨j, inside, accepted⟩

theorem of_waitOn_exhausted {limit attempts : Nat} {last : α}
    (exhausted : waitOn accept answers limit = .exhausted last attempts) :
    (∀ j < limit, accept (answers j) = false) ∧ last = answers (limit - 1) ∧ attempts = limit := by
  cases first : firstWithin (fun j => accept (answers j)) limit with
  | none =>
    simp only [waitOn, first, PollOutcome.exhausted.injEq] at exhausted
    exact ⟨firstWithin_eq_none_iff.mp first, exhausted.1.symm, exhausted.2.symm⟩
  | some j => simp [waitOn, first] at exhausted

theorem pollFrom_waitOn (punctual : Punctual clock limits read)
    (step : ∀ made, Ends (P made) read (fun value s => value = answers made ∧ P (made + 1) s)
      fun _ _ => False)
    (pause : ∀ made length s, P made s → P made (clock.pause length s))
    (s₀ : σ) (more made : Nat) (all : made + more + 1 = limits.reads)
    (refused : ∀ j < made, accept (answers j) = false) :
    Ends (fun s => P made s ∧ Waits clock limits read s₀ made s)
      (pollFrom clock limits read accept (clock.now s₀) more made)
      (fun outcome s => outcome = waitOn accept answers limits.reads ∧ P outcome.attempts s)
      fun _ _ => False := by
  -- on the reads that are left; all answers behind them have been refused
  induction more generalizing made with
  | zero =>
    intro s ⟨holds, waits⟩
    obtain ⟨value, s', ran, rfl, after⟩ := (step made).exists_ok holds
    cases shown : accept (answers made) with
    | true =>
      rw [run_pollFrom_accepted ran _ _ shown]
      exact ⟨(waitOn_ready (by omega) shown refused).symm, after⟩
    | false =>
      have refused' : ∀ j < limits.reads, accept (answers j) = false := by
        rw [← all]
        exact Nat.forall_lt_succ_right.mpr ⟨refused, shown⟩
      rw [run_pollFrom_last ran _ shown]
      refine ⟨?_, after⟩
      rw [waitOn_exhausted refused', ← all, Nat.add_zero, Nat.add_sub_cancel]
  | succ more ih =>
    intro s ⟨holds, waits⟩
    obtain ⟨value, s', ran, rfl, after⟩ := (step made).exists_ok holds
    cases shown : accept (answers made) with
    | true =>
      rw [run_pollFrom_accepted ran _ _ shown]
      exact ⟨(waitOn_ready (by omega) shown refused).symm, after⟩
    | false =>
      have refused' : ∀ j < made + 1, accept (answers j) = false :=
        Nat.forall_lt_succ_right.mpr ⟨refused, shown⟩
      have ready : P (made + 1) (clock.paused limits s') :=
        Clock.paused_keeps (pause (made + 1)) after
      rw [run_pollFrom_refused ran _ _ shown (punctual s₀ made s _ s' waits (by omega) ran)]
      exact ih (made + 1) (by omega) refused' _ ⟨ready, waits.next ran⟩

/-- A wait ends as its answers say, when all of its reads go through. -/
theorem poll_waitOn (punctual : Punctual clock limits read)
    (step : ∀ made, Ends (P made) read (fun value s => value = answers made ∧ P (made + 1) s)
      fun _ _ => False)
    (pause : ∀ made length s, P made s → P made (clock.pause length s)) :
    Ends (P 0) (poll clock limits read accept)
      (fun outcome s => outcome = waitOn accept answers limits.reads ∧ P outcome.attempts s)
      fun _ _ => False := by
  apply Ends.get_bind
  intro s₀ holds
  have some := limits.reads_pos
  refine (pollFrom_waitOn punctual step pause s₀ (limits.reads - 1) 0 (by omega) (by simp)).weaken
    (fun s same => ?_) (fun _ _ after => after) fun _ _ after => after
  subst same
  exact ⟨holds, .start⟩

end Waits

end LineBridge
