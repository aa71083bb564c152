import Mathlib
import LineBridge.Proofs.Guarded
import LineBridge.Proofs.RemotePolls

/-! The course of a wait. From where it begins there is a first read, a second one and so on, each
with a reply and a time; a wait makes as many of them as its limits and the replies allow, and its
last read decides how it ends. That holds for all reads, clocks and limits. -/

namespace LineBridge

open LineBridge.Guarded (Does)

variable {σ α : Type}

/-- A wait that is about to begin. -/
structure Wait (σ α : Type) where
  clock : Clock σ
  limits : PollLimits
  read : Action σ α
  accept : α → Bool
  start : σ

namespace Wait

variable (w : Wait σ α)

def run : Except Fault (PollOutcome α) × σ :=
  (poll w.clock w.limits w.read w.accept).run w.start

/-- The state before a read, counted from zero, if the reads before it did not end the wait. -/
def before : Nat → σ
  | 0 => w.start
  | k + 1 => w.clock.paused w.limits (w.read.run (before k)).2

def reply (k : Nat) : Except Fault α := (w.read.run (w.before k)).1

def after (k : Nat) : σ := (w.read.run (w.before k)).2

/-- The time that has passed after a read. -/
def elapsed (k : Nat) : Nat := w.clock.now (w.after k) - w.clock.now w.start

/-- The read goes through, and its value is not accepted. -/
def Refuses (k : Nat) : Prop := ∃ value, w.reply k = .ok value ∧ w.accept value = false

/-- The read neither ends the wait nor finds its time spent. -/
def GoesOn (k : Nat) : Prop := w.Refuses k ∧ w.elapsed k < w.limits.timeout

/-- The read is made: it is allowed, and none before it ended the wait. -/
def Makes (k : Nat) : Prop := k < w.limits.reads ∧ ∀ j < k, w.GoesOn j

/-- How the wait ends if this read is its last. -/
def outcome (last : Nat) : Except Fault (PollOutcome α) :=
  (w.reply last).map fun value =>
    if w.accept value then .ready value (last + 1) else .exhausted value (last + 1)

variable {w}

theorem outcome_failed {last : Nat} {e : Fault} (failed : w.reply last = .error e) :
    w.outcome last = .error e := by
  rw [outcome, failed]
  rfl

section Outcomes

variable {last : Nat} {value : α} (shown : w.reply last = .ok value)
include shown

theorem outcome_accepted (accepted : w.accept value = true) :
    w.outcome last = .ok (.ready value (last + 1)) := by
  rw [outcome, shown]
  exact congrArg Except.ok (if_pos accepted)

theorem outcome_refused (refused : w.accept value = false) :
    w.outcome last = .ok (.exhausted value (last + 1)) := by
  rw [outcome, shown]
  exact congrArg Except.ok (if_neg (Bool.eq_false_iff.mp refused))

end Outcomes

theorem outcome_error_iff {last : Nat} {e : Fault} :
    w.outcome last = .error e ↔ w.reply last = .error e := by
  unfold outcome
  cases w.reply last with
  | error other => simp [Except.map]
  | ok value => simp [Except.map]

theorem outcome_ready_iff {last attempts : Nat} {value : α} :
    w.outcome last = .ok (.ready value attempts) ↔
      attempts = last + 1 ∧ w.reply last = .ok value ∧ w.accept value = true := by
  refine ⟨fun ends => ?_, fun ⟨count, shown, accepted⟩ => ?_⟩
  · cases shown : w.reply last with
    | error e => simp [outcome_failed shown] at ends
    | ok other =>
      cases decided : w.accept other with
      | true =>
        simp only [outcome_accepted shown decided, Except.ok.injEq, PollOutcome.ready.injEq] at ends
        obtain ⟨rfl, rfl⟩ := ends
        exact ⟨rfl, rfl, decided⟩
      | false => simp [outcome_refused shown decided] at ends
  · rw [count, outcome_accepted shown accepted]

theorem outcome_exhausted_iff {last attempts : Nat} {value : α} :
    w.outcome last = .ok (.exhausted value attempts) ↔
      attempts = last + 1 ∧ w.reply last = .ok value ∧ w.accept value = false := by
  refine ⟨fun ends => ?_, fun ⟨count, shown, refused⟩ => ?_⟩
  · cases shown : w.reply last with
    | error e => simp [outcome_failed shown] at ends
    | ok other =>
      cases decided : w.accept other with
      | true => simp [outcome_accepted shown decided] at ends
      | false =>
        simp only [outcome_refused shown decided, Except.ok.injEq, PollOutcome.exhausted.injEq]
          at ends
        obtain ⟨rfl, rfl⟩ := ends
        exact ⟨rfl, rfl, decided⟩
  · rw [count, outcome_refused shown refused]

section Loop

variable {made : Nat}

/-- A read that fails or finds what is waited for is the last, whatever else is allowed. -/
theorem run_pollFrom_decided (decided : ¬w.Refuses made) (more : Nat) :
    (pollFrom w.clock w.limits w.read w.accept (w.clock.now w.start) more made).run
      (w.before made) = (w.outcome made, w.after made) := by
  cases shown : w.reply made with
  | error e =>
    have ran : w.read.run (w.before made) = (.error e, w.after made) := Prod.ext shown rfl
    rw [run_pollFrom_failed ran, outcome_failed shown]
  | ok value =>
    have ran : w.read.run (w.before made) = (.ok value, w.after made) := Prod.ext shown rfl
    have accepted : w.accept value = true := by
      by_contra other
      exact decided ⟨value, shown, Bool.eq_false_iff.mpr other⟩
    rw [run_pollFrom_accepted ran _ _ accepted, outcome_accepted shown accepted]

section Refused

variable (refuses : w.Refuses made)
include refuses

theorem run_pollFrom_spent :
    (pollFrom w.clock w.limits w.read w.accept (w.clock.now w.start) 0 made).run
      (w.before made) = (w.outcome made, w.after made) := by
  obtain ⟨value, shown, refused⟩ := refuses
  have ran : w.read.run (w.before made) = (.ok value, w.after made) := Prod.ext shown rfl
  rw [run_pollFrom_last ran _ refused, outcome_refused shown refused]

theorem run_pollFrom_late (late : ¬w.elapsed made < w.limits.timeout) (more : Nat) :
    (pollFrom w.clock w.limits w.read w.accept (w.clock.now w.start) (more + 1) made).run
      (w.before made) = (w.outcome made, w.after made) := by
  obtain ⟨value, shown, refused⟩ := refuses
  have ran : w.read.run (w.before made) = (.ok value, w.after made) := Prod.ext shown rfl
  have spent : w.limits.timeout ≤ w.clock.now (w.after made) - w.clock.now w.start :=
    Nat.le_of_not_lt late
  rw [outcome_refused shown refused, pollFrom, Action.run_bind_ok ran,
    if_neg (Bool.eq_false_iff.mp refused), Action.run_bind, Action.run_get]
  dsimp only
  rw [if_pos spent]
  rfl

theorem run_pollFrom_inTime (inTime : w.elapsed made < w.limits.timeout) (more : Nat) :
    (pollFrom w.clock w.limits w.read w.accept (w.clock.now w.start) (more + 1) made).run
      (w.before made) =
    (pollFrom w.clock w.limits w.read w.accept (w.clock.now w.start) more (made + 1)).run
      (w.before (made + 1)) := by
  obtain ⟨value, shown, refused⟩ := refuses
  have ran : w.read.run (w.before made) = (.ok value, w.after made) := Prod.ext shown rfl
  rw [run_pollFrom_refused ran _ _ refused inTime]
  rfl

end Refused

/-- A read that does not go on is the last. -/
theorem not_makes_succ (ends : ¬w.GoesOn made) : ¬w.Makes (made + 1) :=
  fun more => ends (more.2 made (Nat.lt_succ_self made))

/-- A wait that has come to a read goes on from it to its last one. -/
theorem pollFrom_ends {more : Nat} (all : made + more + 1 = w.limits.reads)
    (passed : ∀ j < made, w.GoesOn j) :
    ∃ last, w.Makes last ∧ ¬w.Makes (last + 1) ∧
      (pollFrom w.clock w.limits w.read w.accept (w.clock.now w.start) more made).run
        (w.before made) = (w.outcome last, w.after last) := by
  -- on the reads that are left
  induction more generalizing made with
  | zero =>
    have only : ¬w.Makes (made + 1) := fun more => absurd more.1 (by omega)
    refine ⟨made, ⟨by omega, passed⟩, only, ?_⟩
    by_cases refuses : w.Refuses made
    · exact run_pollFrom_spent refuses
    · exact run_pollFrom_decided refuses 0
  | succ more ih =>
    by_cases goesOn : w.GoesOn made
    · rw [run_pollFrom_inTime goesOn.1 goesOn.2]
      exact ih (by omega) (Nat.forall_lt_succ_right.mpr ⟨passed, goesOn⟩)
    · refine ⟨made, ⟨by omega, passed⟩, not_makes_succ goesOn, ?_⟩
      by_cases refuses : w.Refuses made
      · exact run_pollFrom_late refuses (fun inTime => goesOn ⟨refuses, inTime⟩) more
      · exact run_pollFrom_decided refuses _

end Loop

variable (w)

/-- A wait has a last read, and that decides. -/
theorem run_ends : ∃ last, w.Makes last ∧ ¬w.Makes (last + 1) ∧
    w.run = (w.outcome last, w.after last) := by
  have some : 1 ≤ w.limits.reads := Nat.le_max_left _ _
  have all : 0 + (w.limits.reads - 1) + 1 = w.limits.reads := by omega
  exact pollFrom_ends all nofun

variable {w}

theorem Makes.of_le {j k : Nat} (makes : w.Makes k) (le : j ≤ k) : w.Makes j :=
  ⟨le.trans_lt makes.1, fun i before => makes.2 i (before.trans_le le)⟩

/-- The reads that are made are those up to the last. -/
theorem makes_iff_le {last k : Nat} (makes : w.Makes last) (only : ¬w.Makes (last + 1)) :
    w.Makes k ↔ k ≤ last := by
  refine ⟨fun made => ?_, makes.of_le⟩
  by_contra beyond
  exact only (made.of_le (by omega))

section Tally

/-- Counts how often it is run. -/
def tally (read : Action σ α) : Action (σ × Nat) α := fun s =>
  (((read.run s.1).1), (read.run s.1).2, s.2 + 1)

variable (w)

/-- The same wait, with a count of its reads. -/
def tallied : Wait (σ × Nat) α where
  clock := ⟨fun s => w.clock.now s.1, fun length s => (w.clock.pause length s.1, s.2)⟩
  limits := w.limits
  read := tally w.read
  accept := w.accept
  start := (w.start, 0)

theorem paused_tallied (s : σ) (n : Nat) :
    w.tallied.clock.paused w.limits (s, n) = (w.clock.paused w.limits s, n) := by
  unfold Clock.paused
  split
  · rfl
  · rfl

theorem before_tallied (k : Nat) : w.tallied.before k = (w.before k, k) := by
  induction k with
  | zero => rfl
  | succ k ih =>
    have ran : (w.tallied.read.run (w.tallied.before k)).2 = (w.after k, k + 1) := by
      rw [ih]
      rfl
    rw [before, ran]
    exact w.paused_tallied (w.after k) (k + 1)

theorem reply_tallied (k : Nat) : w.tallied.reply k = w.reply k := by
  rw [reply, before_tallied]
  rfl

theorem after_tallied (k : Nat) : w.tallied.after k = (w.after k, k + 1) := by
  rw [after, before_tallied]
  rfl

theorem goesOn_tallied (k : Nat) : w.tallied.GoesOn k ↔ w.GoesOn k := by
  rw [GoesOn, GoesOn, Refuses, Refuses, elapsed, elapsed, reply_tallied, after_tallied]
  rfl

theorem makes_tallied (k : Nat) : w.tallied.Makes k ↔ w.Makes k := by
  simp only [Makes, goesOn_tallied]
  rfl

theorem outcome_tallied (k : Nat) : w.tallied.outcome k = w.outcome k := by
  rw [outcome, reply_tallied]
  rfl

/-- A wait with a count of its reads ends as it would without. -/
theorem run_tallied {last : Nat} (makes : w.Makes last) (only : ¬w.Makes (last + 1)) :
    w.tallied.run = (w.outcome last, w.after last, last + 1) := by
  obtain ⟨last', makes', only', ran⟩ := w.tallied.run_ends
  rw [makes_tallied] at makes' only'
  have same : last' = last :=
    Nat.le_antisymm ((makes_iff_le makes only).mp makes') ((makes_iff_le makes' only').mp makes)
  rw [ran, same, outcome_tallied, after_tallied]

end Tally

end Wait

section Counter

theorem toNat_add_one {made : UInt32} (counted : made.toNat + 1 < UInt32.size) :
    (made + 1).toNat = made.toNat + 1 := by
  rw [UInt32.toNat_add]
  exact Nat.mod_eq_of_lt counted

/-- The reads of a wait, in 32 bits. -/
theorem PollLimits.toNat_max (limits : PollLimits) :
    (max 1 limits.attempts).toNat = limits.reads := by
  show (if 1 ≤ limits.attempts then limits.attempts else 1).toNat =
    max (1 : UInt32).toNat limits.attempts.toNat
  by_cases several : 1 ≤ limits.attempts
  · rw [if_pos several, max_eq_right (UInt32.le_iff_toNat_le.mp several)]
  · have few : ¬(1 : UInt32).toNat ≤ limits.attempts.toNat := mt UInt32.le_iff_toNat_le.mpr several
    rw [if_neg several, max_eq_left (Nat.le_of_not_le few)]

/-- A computation that has no result. -/
def Guarded.stuck : Guarded σ α := fun _ => none

variable (clock : Clock σ) (limits : PollLimits) (read : Action σ α) (accept : α → Bool)

/-- The loop of a wait with `made` reads behind it, which keeps their number in 32 bits and has no
result where that would not hold one more. -/
def pollCountedFrom (started : Nat) (made : UInt32) : Guarded σ (PollOutcome α) := do
  let value ← Guarded.lift read
  if counted : made.toNat + 1 < UInt32.size then
    if accept value then pure (.ready value (made + 1).toNat)
    else
      let s ← Guarded.lift Action.get
      if spent : max 1 limits.attempts ≤ made + 1 ∨ limits.timeout ≤ clock.now s - started then
        pure (.exhausted value (made + 1).toNat)
      else do
        if limits.delay ≠ 0 then Guarded.lift (Action.modify (clock.pause limits.delay))
        pollCountedFrom started (made + 1)
  else .stuck
termination_by (max 1 limits.attempts).toNat - made.toNat
decreasing_by
  have fewer := UInt32.lt_iff_toNat_lt.mp (UInt32.not_le.mp (not_or.mp spent).1)
  have next := toNat_add_one counted
  omega

def pollCounted : Guarded σ (PollOutcome α) := do
  let s ← Guarded.lift Action.get
  pollCountedFrom clock limits read accept (clock.now s) 0

variable {clock limits read accept}

theorem pollCountedFrom_does {started more : Nat} {made : UInt32}
    (all : made.toNat + more + 1 = limits.reads) :
    Does (pollCountedFrom clock limits read accept started made)
      (pollFrom clock limits read accept started more made.toNat) := by
  have within : limits.reads < UInt32.size := limits.toNat_max ▸ UInt32.toNat_lt _
  -- on the reads that are left; none of them takes the count beyond the number allowed
  induction more generalizing made with
  | zero =>
    have counted : made.toNat + 1 < UInt32.size := by omega
    have next := toNat_add_one counted
    have spent (s : σ) :
        max 1 limits.attempts ≤ made + 1 ∨ limits.timeout ≤ clock.now s - started := by
      refine .inl (UInt32.le_iff_toNat_le.mpr ?_)
      rw [limits.toNat_max]
      omega
    rw [pollCountedFrom, pollFrom]
    apply (Does.lift read).bind
    intro value
    rw [dif_pos counted, next]
    by_cases accepted : accept value
    · rw [if_pos accepted, if_pos accepted]
      exact .pure _
    · rw [if_neg accepted, if_neg accepted]
      intro s
      show (if _ : _ then _ else _ : Guarded σ (PollOutcome α)) s = _
      rw [dif_pos (spent s)]
      rfl
  | succ more ih =>
    have counted : made.toNat + 1 < UInt32.size := by omega
    have next := toNat_add_one counted
    have allowed : ¬max 1 limits.attempts ≤ made + 1 := by
      rw [UInt32.le_iff_toNat_le, limits.toNat_max]
      omega
    rw [pollCountedFrom, pollFrom]
    apply (Does.lift read).bind
    intro value
    rw [dif_pos counted, next]
    by_cases accepted : accept value
    · rw [if_pos accepted, if_pos accepted]
      exact .pure _
    · rw [if_neg accepted, if_neg accepted]
      apply (Does.lift Action.get).bind
      intro s
      by_cases late : limits.timeout ≤ clock.now s - started
      · rw [dif_pos (.inr late), if_pos late]
        exact .pure _
      · rw [dif_neg (not_or.mpr ⟨allowed, late⟩), if_neg late]
        have left : (made + 1).toNat + more + 1 = limits.reads := by omega
        have later := ih left
        rw [next] at later
        by_cases delayed : limits.delay ≠ 0
        · rw [if_pos delayed, if_pos delayed]
          exact (Does.lift _).bind fun _ => later
        · rw [if_neg delayed, if_neg delayed]
          exact later

theorem pollCounted_does :
    Does (pollCounted clock limits read accept) (poll clock limits read accept) := by
  have some : 1 ≤ limits.reads := Nat.le_max_left _ _
  have all : (0 : UInt32).toNat + (limits.reads - 1) + 1 = limits.reads := by
    rw [UInt32.toNat_zero]
    omega
  exact (Does.lift Action.get).bind fun s => pollCountedFrom_does all

end Counter

/-- A wait makes a number of reads, at least one and no more than its limit; they are those up to
the first that fails, is accepted or finds the time spent. The last of them decides: its fault is
the wait's fault, its value is reported as ready if it is accepted, whatever the time and however
many reads there were, and as the last one otherwise. Nothing is read after it, and a count of the
reads in 32 bits holds them all. -/
theorem Wait.course (w : Wait σ α) :
    ∃ made, 1 ≤ made ∧ made ≤ w.limits.reads ∧
      w.tallied.run = (w.run.1, w.run.2, made) ∧ w.run.2 = w.after (made - 1) ∧
      (∀ k, k < made ↔ k < w.limits.reads ∧
        ∀ j < k, w.Refuses j ∧ w.elapsed j < w.limits.timeout) ∧
      (∀ e, w.run.1 = .error e ↔ w.reply (made - 1) = .error e) ∧
      (∀ value attempts, w.run.1 = .ok (.ready value attempts) ↔
        attempts = made ∧ w.reply (made - 1) = .ok value ∧ w.accept value = true) ∧
      (∀ value attempts, w.run.1 = .ok (.exhausted value attempts) ↔
        attempts = made ∧ w.reply (made - 1) = .ok value ∧ w.accept value = false) ∧
      (∀ value attempts, w.run.1 = .ok (.exhausted value attempts) →
        attempts < w.limits.reads → w.limits.timeout ≤ w.elapsed (attempts - 1)) ∧
      (pollCounted w.clock w.limits w.read w.accept).run w.start = some w.run := by
  obtain ⟨last, makes, only, ran⟩ := w.run_ends
  have allowed : last + 1 ≤ w.limits.reads := makes.1
  have late {value : α} (shown : w.reply last = .ok value) (refused : w.accept value = false)
      (more : last + 1 < w.limits.reads) : w.limits.timeout ≤ w.elapsed last := by
    by_contra early
    have goesOn : w.GoesOn last := ⟨⟨value, shown, refused⟩, Nat.lt_of_not_le early⟩
    exact only ⟨more, Nat.forall_lt_succ_right.mpr ⟨makes.2, goesOn⟩⟩
  refine ⟨last + 1, Nat.succ_pos last, allowed, ?_, ?_, ?_, ?_, ?_, ?_, ?_, pollCounted_does _⟩
  · rw [ran, w.run_tallied makes only]
  · rw [ran]
    rfl
  · intro k
    rw [Nat.lt_succ_iff, ← makes_iff_le makes only]
    rfl
  · intro e
    rw [ran]
    exact outcome_error_iff
  · intro value attempts
    rw [ran]
    exact outcome_ready_iff
  · intro value attempts
    rw [ran]
    exact outcome_exhausted_iff
  · intro value attempts ended more
    rw [ran] at ended
    obtain ⟨rfl, shown, refused⟩ := outcome_exhausted_iff.mp ended
    exact late shown refused more

end LineBridge
