import Mathlib
import LineBridge.Polling
import LineBridge.Proofs.Agreement

/-! Polls. One read ends a poll or lets it go on, and a poll is a loop with an invariant indexed by
the reads behind it. It can only run out when all its reads are made or its time is up. Time is not
under a poll's control; what is asked of the clock is asked of the reads of one wait, from the
state in which it began. -/

namespace LineBridge

open LineBridge.Action (Agree Ends Follows)

variable {σ τ α : Type} {clock : Clock σ} {limits : PollLimits} {read : Action σ α}
  {accept : α → Bool}

section Loop

variable {started : Nat} {s s' : σ}

theorem run_pollFrom_failed {e : Fault} (failed : read.run s = (.error e, s')) (more made : Nat) :
    (pollFrom clock limits read accept started more made).run s = (.error e, s') := by
  cases more with
  | zero => rw [pollFrom, Action.run_bind_error failed]
  | succ more => rw [pollFrom, Action.run_bind_error failed]

variable {value : α} (ran : read.run s = (.ok value, s'))

/-- The state in which a wait goes on after a read that was not accepted. -/
def Clock.paused (clock : Clock σ) (limits : PollLimits) (s : σ) : σ :=
  if limits.delay ≠ 0 then clock.pause limits.delay s else s

theorem Clock.paused_keeps {P : σ → Prop} (pause : ∀ length s, P s → P (clock.pause length s))
    (holds : P s) : P (clock.paused limits s) := by
  unfold Clock.paused
  split
  · exact pause _ _ holds
  · exact holds

/-- Nothing changes where the clock stands still. -/
@[simp] theorem Clock.paused_still (limits : PollLimits) (s : σ) :
    (Clock.still : Clock σ).paused limits s = s := by
  unfold Clock.paused
  split <;> rfl

include ran

theorem run_pollFrom_accepted (more made : Nat) (accepted : accept value = true) :
    (pollFrom clock limits read accept started more made).run s =
      (.ok (.ready value (made + 1)), s') := by
  cases more with
  | zero =>
    rw [pollFrom, Action.run_bind_ok ran, if_pos accepted]
    rfl
  | succ more =>
    rw [pollFrom, Action.run_bind_ok ran, if_pos accepted]
    rfl

theorem run_pollFrom_last (made : Nat) (refused : accept value = false) :
    (pollFrom clock limits read accept started 0 made).run s =
      (.ok (.exhausted value (made + 1)), s') := by
  rw [pollFrom, Action.run_bind_ok ran, refused]
  rfl

theorem run_pollFrom_late (more made : Nat) (refused : accept value = false)
    (late : limits.timeout ≤ clock.now s' - started) :
    (pollFrom clock limits read accept started (more + 1) made).run s =
      (.ok (.exhausted value (made + 1)), s') := by
  rw [pollFrom, Action.run_bind_ok ran, refused, if_neg Bool.false_ne_true, Action.run_bind,
    Action.run_get]
  dsimp only
  rw [if_pos late]
  rfl

theorem run_pollFrom_refused (more made : Nat) (refused : accept value = false)
    (early : clock.now s' - started < limits.timeout) :
    (pollFrom clock limits read accept started (more + 1) made).run s =
      (pollFrom clock limits read accept started more (made + 1)).run (clock.paused limits s') := by
  have inTime : ¬limits.timeout ≤ clock.now s' - started := not_le.mpr early
  rw [pollFrom, Action.run_bind_ok ran, refused, if_neg Bool.false_ne_true, Action.run_bind,
    Action.run_get]
  dsimp only
  rw [if_neg inTime]
  by_cases delayed : limits.delay ≠ 0
  · rw [if_pos delayed, Clock.paused, if_pos delayed]
    rfl
  · rw [if_neg delayed, Clock.paused, if_neg delayed]

end Loop

theorem run_poll (s : σ) : (poll clock limits read accept).run s =
    (pollFrom clock limits read accept (clock.now s) (limits.reads - 1) 0).run s := rfl

theorem PollLimits.reads_pos (limits : PollLimits) : 0 < limits.reads :=
  Nat.lt_of_lt_of_le Nat.one_pos (Nat.le_max_left _ _)

section Waits

variable (clock : Clock σ) (limits : PollLimits) (read : Action σ α)

/-- The state before the next read of a wait that began in `s₀` and has `made` reads behind it. -/
inductive Waits (s₀ : σ) : Nat → σ → Prop
  | start : Waits s₀ 0 s₀
  | next {made : Nat} {s s' : σ} {value : α} (before : Waits s₀ made s)
    (ran : read.run s = (.ok value, s')) : Waits s₀ (made + 1) (clock.paused limits s')

/-- No wait runs out of time before its last read. -/
def Punctual : Prop :=
  ∀ s₀ made s value s', Waits clock limits read s₀ made s → made + 1 < limits.reads →
    read.run s = (.ok value, s') → clock.now s' - clock.now s₀ < limits.timeout

/-- After `made` reads a wait may give up. -/
def Spent (made : Nat) : Prop := made = limits.reads ∨ ¬Punctual clock limits read

end Waits

/-- Where the clock stands still a wait never gives up before its reads are made. -/
theorem punctual_still (positive : 0 < limits.timeout) : Punctual .still limits read :=
  fun _ _ _ _ _ _ _ _ => positive

/-- A wait is in time if its reads take so long at most, and its pauses no longer than they
should. -/
theorem punctual_of_cost {cost : Nat}
    (reads : ∀ s value s', read.run s = (.ok value, s') → clock.now s' ≤ clock.now s + cost)
    (pauses : ∀ s, clock.now (clock.pause limits.delay s) ≤ clock.now s + limits.delay)
    (room : limits.reads * (cost + limits.delay) ≤ limits.timeout) (some : 0 < cost) :
    Punctual clock limits read := by
  have behind : ∀ s₀ made s, Waits clock limits read s₀ made s →
      clock.now s ≤ clock.now s₀ + made * (cost + limits.delay) := by
    intro s₀ made s waits
    induction waits with
    | start => exact Nat.le_add_right _ _
    | @next made s s' value before ran ih =>
      have later := reads s value s' ran
      have waited : clock.now (clock.paused limits s') ≤ clock.now s' + limits.delay := by
        unfold Clock.paused
        split
        · exact pauses s'
        · exact Nat.le_add_right _ _
      rw [Nat.add_one_mul]
      omega
  intro s₀ made s value s' waits more ran
  have passed := behind s₀ made s waits
  have later := reads s value s' ran
  have allowed : (made + 1) * (cost + limits.delay) < limits.reads * (cost + limits.delay) :=
    Nat.mul_lt_mul_of_pos_right more (by omega)
  rw [Nat.add_one_mul] at allowed
  omega

section Rules

variable {I : Nat → σ → Prop} {Q : PollOutcome α → σ → Prop} {E : Fault → σ → Prop}
  (step : ∀ made, made < limits.reads → Ends (I made) read (fun value s =>
    if accept value then Q (.ready value (made + 1)) s
    else I (made + 1) s ∧
      (Spent clock limits read (made + 1) → Q (.exhausted value (made + 1)) s)) E)
  (pause : ∀ made length s, I made s → I made (clock.pause length s))
include step pause

theorem pollFrom_ends (s₀ : σ) (more made : Nat) (all : made + more + 1 = limits.reads) :
    Ends (fun s => I made s ∧ Waits clock limits read s₀ made s)
      (pollFrom clock limits read accept (clock.now s₀) more made) Q E := by
  -- on the reads that are left
  induction more generalizing made with
  | zero =>
    rintro s ⟨holds, -⟩
    have ending := step made (by omega) s holds
    cases ran : read.run s with
    | mk outcome s' =>
      rw [ran] at ending
      cases outcome with
      | error e => rwa [run_pollFrom_failed ran]
      | ok value =>
        dsimp only at ending
        cases shown : accept value with
        | true =>
          rw [if_pos shown] at ending
          rwa [run_pollFrom_accepted ran _ _ shown]
        | false =>
          rw [if_neg (Bool.eq_false_iff.mp shown)] at ending
          rw [run_pollFrom_last ran _ shown]
          exact ending.2 (.inl (by omega))
  | succ more ih =>
    rintro s ⟨holds, waits⟩
    have ending := step made (by omega) s holds
    cases ran : read.run s with
    | mk outcome s' =>
      rw [ran] at ending
      cases outcome with
      | error e => rwa [run_pollFrom_failed ran]
      | ok value =>
        dsimp only at ending
        cases shown : accept value with
        | true =>
          rw [if_pos shown] at ending
          rwa [run_pollFrom_accepted ran _ _ shown]
        | false =>
          rw [if_neg (Bool.eq_false_iff.mp shown)] at ending
          by_cases early : clock.now s' - clock.now s₀ < limits.timeout
          · rw [run_pollFrom_refused ran _ _ shown early]
            exact ih (made + 1) (by omega) _
              ⟨Clock.paused_keeps (pause (made + 1)) ending.1, waits.next ran⟩
          · rw [run_pollFrom_late ran _ _ shown (Nat.not_lt.mp early)]
            exact ending.2 (.inr fun punctual =>
              early (punctual s₀ made s value s' waits (by omega) ran))

/-- The rule for polls. -/
theorem poll_ends : Ends (I 0) (poll clock limits read accept) Q E := by
  apply Ends.get_bind
  intro s holds
  have some := limits.reads_pos
  refine (pollFrom_ends step pause s (limits.reads - 1) 0 (by omega)).weaken ?_
    (fun _ _ after => after) (fun _ _ after => after)
  rintro _ rfl
  exact ⟨holds, .start⟩

end Rules

/-- No poll makes more reads than it may. -/
theorem poll_attempts_le (clock : Clock σ) (limits : PollLimits) (read : Action σ α)
    (accept : α → Bool) :
    Ends (fun _ => True) (poll clock limits read accept)
      (fun outcome _ => outcome.attempts ≤ limits.reads) (fun _ _ => True) := by
  refine poll_ends (I := fun _ _ => True) ?_ (fun _ _ _ _ => trivial)
  intro made room
  refine (Ends.trivial read).onValue fun value _ _ => ?_
  split
  · exact room
  · exact ⟨trivial, fun _ => room⟩

/-- A wait that may make one read only, or has no time for another, makes one. -/
theorem poll_once (once : limits.reads = 1 ∨ limits.timeout = 0) :
    poll clock limits read accept = read >>= fun value =>
      pure (if accept value then .ready value 1 else .exhausted value 1) := by
  funext s
  show (poll clock limits read accept).run s = Action.run _ s
  rw [run_poll]
  cases ran : read.run s with
  | mk outcome s' =>
    cases outcome with
    | error e => rw [run_pollFrom_failed ran, Action.run_bind_error ran]
    | ok value =>
      rw [Action.run_bind_ok ran]
      cases shown : accept value with
      | true => exact run_pollFrom_accepted ran _ _ shown
      | false =>
        cases more : limits.reads - 1 with
        | zero => exact run_pollFrom_last ran _ shown
        | succ more =>
          have late : limits.timeout ≤ clock.now s' - clock.now s := by omega
          exact run_pollFrom_late ran _ _ shown late

section Agreement

variable {clock' : Clock τ} {limits' : PollLimits} {read' : Action τ α} {R : σ → τ → Prop}

/-- Two polls in step, as long as both go on or stop after a read that is refused. -/
theorem pollFrom_agree (reads : Follows R read read')
    (paused : ∀ s t, R s t → R (clock.paused limits s) (clock'.paused limits' t))
    {s₀ : σ} {t₀ : τ} (more made : Nat) (last : made + more + 1 = limits.reads)
    (timed : ∀ made s t value s' t', Waits clock limits read s₀ made s →
      Waits clock' limits' read' t₀ made t → made + 1 < limits.reads → R s' t' →
      read.run s = (.ok value, s') → read'.run t = (.ok value, t') →
      (clock.now s' - clock.now s₀ < limits.timeout ↔
        clock'.now t' - clock'.now t₀ < limits'.timeout)) :
    Agree (fun s t => R s t ∧ Waits clock limits read s₀ made s ∧
        Waits clock' limits' read' t₀ made t)
      (pollFrom clock limits read accept (clock.now s₀) more made)
      (pollFrom clock' limits' read' accept (clock'.now t₀) more made) (fun _ => R) R := by
  -- on the reads that are left
  induction more generalizing made with
  | zero =>
    rintro s t ⟨related, -, -⟩
    obtain ⟨outcome, s', t', ran, ran', after⟩ := reads s t related
    cases outcome with
    | error e =>
      exact ⟨_, s', t', run_pollFrom_failed ran _ _, run_pollFrom_failed ran' _ _, after⟩
    | ok value =>
      cases shown : accept value with
      | true =>
        exact ⟨_, s', t', run_pollFrom_accepted ran _ _ shown,
          run_pollFrom_accepted ran' _ _ shown, after⟩
      | false =>
        exact ⟨_, s', t', run_pollFrom_last ran _ shown, run_pollFrom_last ran' _ shown, after⟩
  | succ more ih =>
    rintro s t ⟨related, waits, waits'⟩
    obtain ⟨outcome, s', t', ran, ran', after⟩ := reads s t related
    cases outcome with
    | error e =>
      exact ⟨_, s', t', run_pollFrom_failed ran _ _, run_pollFrom_failed ran' _ _, after⟩
    | ok value =>
      cases shown : accept value with
      | true =>
        exact ⟨_, s', t', run_pollFrom_accepted ran _ _ shown,
          run_pollFrom_accepted ran' _ _ shown, after⟩
      | false =>
        have both := timed made s t value s' t' waits waits' (by omega) after ran ran'
        by_cases early : clock.now s' - clock.now s₀ < limits.timeout
        · rw [run_pollFrom_refused ran _ _ shown early,
            run_pollFrom_refused ran' _ _ shown (both.mp early)]
          exact ih (made + 1) (by omega) _ _ ⟨paused s' t' after, waits.next ran, waits'.next ran'⟩
        · exact ⟨_, s', t', run_pollFrom_late ran _ _ shown (Nat.not_lt.mp early),
            run_pollFrom_late ran' _ _ shown (Nat.not_lt.mp fun early' => early (both.mpr early')),
            after⟩

/-- Waits that are in time and make as many reads end alike, whatever their clocks show. -/
theorem poll_punctual_follows (punctual : Punctual clock limits read)
    (punctual' : Punctual clock' limits' read') (same : limits.reads = limits'.reads)
    (reads : Follows R read read')
    (paused : ∀ s t, R s t → R (clock.paused limits s) (clock'.paused limits' t)) :
    Follows R (poll clock limits read accept) (poll clock' limits' read' accept) := by
  intro s t related
  have some := limits.reads_pos
  rw [run_poll, run_poll, ← same]
  refine pollFrom_agree reads paused (limits.reads - 1) 0 (by omega) ?_ s t
    ⟨related, .start, .start⟩
  intro made s' t' value _ _ waits waits' more _ ran ran'
  exact iff_of_true (punctual s made s' value _ waits more ran)
    (punctual' t made t' value _ waits' (same ▸ more) ran')

/-- Waits with the same limits end alike where the clocks show the same. -/
theorem poll_follows {clock' : Clock τ} (now : ∀ s t, R s t → clock.now s = clock'.now t)
    (pause : ∀ length s t, R s t → R (clock.pause length s) (clock'.pause length t))
    (limits : PollLimits) (reads : Follows R read read') (accept : α → Bool) :
    Follows R (poll clock limits read accept) (poll clock' limits read' accept) := by
  intro s t related
  have some := limits.reads_pos
  rw [run_poll, run_poll]
  refine pollFrom_agree reads ?_ (limits.reads - 1) 0 (by omega) ?_ s t ⟨related, .start, .start⟩
  · intro s t related
    unfold Clock.paused
    split
    · exact pause _ _ _ related
    · exact related
  · intro _ _ _ _ s' t' _ _ _ after _ _
    rw [now s t related, now s' t' after]

end Agreement

/-- Where the clock stands still only the number of reads matters. -/
theorem poll_still {limits limits' : PollLimits} (positive : 0 < limits.timeout)
    (positive' : 0 < limits'.timeout) (reads : limits.reads = limits'.reads)
    (read : Action σ α) (accept : α → Bool) :
    poll .still limits read accept = poll .still limits' read accept := by
  refine (poll_punctual_follows (punctual_still positive) (punctual_still positive') reads
    (.refl read) ?_).eq
  rintro s _ rfl
  rw [Clock.paused_still, Clock.paused_still]

end LineBridge
