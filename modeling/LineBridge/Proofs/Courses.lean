import Mathlib
import LineBridge.Proofs.ReplySequences

/-! The courses of transactions, read off sequences of replies alone. A course is the end of a
transaction together with what it has asked for, in order. A status is waited for, then a byte
count, then a delivery of bytes is taken; each has its own ways to go wrong, and what goes wrong
is the end. -/

namespace LineBridge

variable {α β : Type}

/-- Something that a channel is asked for. -/
inductive Ask where
  | register (reg : UInt8)
  | bulk
deriving DecidableEq, Repr

/-- Replies for as long as anyone may ask. -/
structure Replies where
  value : UInt8 → Nat → UInt8
  delivery : Nat → Bytes

namespace Replies

/-- The replies that are left when some have been given. -/
def after (r : Replies) (asked : List Ask) : Replies where
  value reg j := r.value reg (asked.count (.register reg) + j)
  delivery j := r.delivery (asked.count .bulk + j)

/-- The byte counts, each from its low and its high half. -/
def counts (r : Replies) (j : Nat) : UInt16 :=
  joinBytes (r.value Register.countLo j) (r.value (Register.countLo + 1) j)

theorem value_after_append (r : Replies) (l : List Ask) {asks : List Ask} {reg : UInt8}
    (others : asks.count (.register reg) = 0) :
    (r.after (l ++ asks)).value reg = (r.after l).value reg := by
  funext j
  simp only [after, List.count_append, others, Nat.add_zero]

theorem counts_after_append (r : Replies) (l : List Ask) {asks : List Ask}
    (low : asks.count (.register Register.countLo) = 0)
    (high : asks.count (.register (Register.countLo + 1)) = 0) :
    (r.after (l ++ asks)).counts = (r.after l).counts := by
  funext j
  simp only [counts, value_after_append r l low, value_after_append r l high]

theorem delivery_after_append (r : Replies) (l : List Ask) {asks : List Ask}
    (others : asks.count .bulk = 0) : (r.after (l ++ asks)).delivery = (r.after l).delivery := by
  funext j
  simp only [after, List.count_append, others, Nat.add_zero]

end Replies

/-- How a computation ends, and what it has asked for. -/
structure Course (α : Type) where
  outcome : Except Fault α
  asks : List Ask

namespace Course

/-- One course and, if it does not end in a fault, the next. -/
def andThen (c : Course α) (next : α → Course β) : Course β :=
  match c.outcome with
  | .ok a => ⟨(next a).outcome, c.asks ++ (next a).asks⟩
  | .error e => ⟨.error e, c.asks⟩

theorem andThen_of_ok {c : Course α} {next : α → Course β} {a : α} (ok : c.outcome = .ok a) :
    c.andThen next = ⟨(next a).outcome, c.asks ++ (next a).asks⟩ := by
  simp only [andThen, ok]

theorem andThen_of_error {c : Course α} {next : α → Course β} {e : Fault}
    (fault : c.outcome = .error e) : c.andThen next = ⟨.error e, c.asks⟩ := by
  simp only [andThen, fault]

/-- The course of what is over, and has asked for nothing. -/
def done (a : α) : Course α := ⟨.ok a, []⟩

theorem andThen_done (c : Course α) : c.andThen done = c := by
  obtain ⟨_ | a, asks⟩ := c
  · rfl
  · simp [andThen, done]

/-- A status is read until it is done. If it is not done within the limit, the last value tells a
fault of the device from a wait that was in vain. -/
def status (reg : UInt8) (addr : Addr) (answers : Nat → UInt8) (limit : Nat) : Course Unit where
  outcome :=
    if ∃ j < limit, answers j = Status.done.code then .ok ()
    else if answers (limit - 1) = Status.error.code then .error (.device addr Status.error.code)
    else .error (.timeout reg addr Status.done.code.toUInt16 (answers (limit - 1)).toUInt16 limit)
  asks := .replicate (readsWithin (answers · == Status.done.code) limit) (.register reg)

/-- The two halves of the byte count, over and over. -/
def countAsks (reads : Nat) : List Ask :=
  (List.replicate reads [Ask.register Register.countLo, .register (Register.countLo + 1)]).flatten

theorem countAsks_succ (reads : Nat) :
    countAsks (reads + 1) =
      countAsks reads ++ [.register Register.countLo, .register (Register.countLo + 1)] := by
  simp only [countAsks, List.replicate_succ', List.flatten_append, List.flatten_singleton]

theorem count_countAsks (ask : Ask) (reads : Nat) :
    (countAsks reads).count ask =
      if ask = .register Register.countLo ∨ ask = .register (Register.countLo + 1) then reads
      else 0 := by
  induction reads with
  | zero => simp [countAsks]
  | succ reads ih =>
    rw [countAsks_succ, List.count_append, ih]
    by_cases low : ask = .register Register.countLo
    · subst low
      simp +decide
    by_cases high : ask = .register (Register.countLo + 1)
    · subst high
      simp +decide
    simp [low, high, Ne.symm low, Ne.symm high]

/-- The byte count is read until it is large enough. What is too large is a fault, and so is what
stands at the limit, which is no size at all if it is zero. -/
def count (addr : Addr) (bytes : Nat) (counts : Nat → UInt16) (limit : Nat) : Course Unit where
  outcome :=
    match firstWithin (fun j => bytes ≤ (counts j).toNat) limit with
    | some j =>
      if (counts j).toNat = bytes then .ok () else .error (.size addr bytes (counts j).toNat)
    | none =>
      if counts (limit - 1) = 0 then
        .error (.timeout Register.countLo addr (UInt16.ofNat bytes) 0 limit)
      else .error (.size addr bytes (counts (limit - 1)).toNat)
  asks := countAsks (readsWithin (fun j => bytes ≤ (counts j).toNat) limit)

/-- What is delivered has the size that was asked for, or is a fault. -/
def delivery (addr : Addr) (bytes : Nat) (data : Bytes) : Course Bytes where
  outcome := if data.length = bytes then .ok data else .error (.size addr bytes data.length)
  asks := [.bulk]

theorem count_status_asks {reg : UInt8} {addr : Addr} {answers : Nat → UInt8} {limit : Nat}
    (ask : Ask) (other : Ask.register reg ≠ ask) :
    (status reg addr answers limit).asks.count ask = 0 := by
  simp only [status, List.count_replicate, beq_eq_false_iff_ne.mpr other, Bool.false_eq_true,
    if_false]

theorem count_count_asks {addr : Addr} {bytes : Nat} {counts : Nat → UInt16} {limit : Nat}
    (ask : Ask) (other : ask ≠ .register Register.countLo ∧
      ask ≠ .register (Register.countLo + 1)) :
    (count addr bytes counts limit).asks.count ask = 0 := by
  simp only [count, count_countAsks, other.1, other.2, or_self, if_false]

theorem status_of_ready {reg : UInt8} {addr : Addr} {answers : Nat → UInt8} {limit attempts : Nat}
    {value : UInt8}
    (shown : waitOn (· == Status.done.code) answers limit = .ready value attempts) :
    status reg addr answers limit = ⟨.ok (), .replicate attempts (.register reg)⟩ := by
  have reads := attempts_waitOn (· == Status.done.code) answers limit
  rw [shown] at reads
  obtain ⟨j, inside, is⟩ := exists_of_waitOn_ready shown
  have done : ∃ j < limit, answers j = Status.done.code := ⟨j, inside, eq_of_beq is⟩
  simp only [status, if_pos done, ← reads, PollOutcome.attempts]

theorem status_of_exhausted {reg : UInt8} {addr : Addr} {answers : Nat → UInt8}
    {limit attempts : Nat} {last : UInt8}
    (shown : waitOn (· == Status.done.code) answers limit = .exhausted last attempts) :
    status reg addr answers limit =
      ⟨if last = Status.error.code then .error (.device addr last)
        else .error (.timeout reg addr Status.done.code.toUInt16 last.toUInt16 attempts),
        .replicate attempts (.register reg)⟩ := by
  have reads := attempts_waitOn (· == Status.done.code) answers limit
  rw [shown] at reads
  obtain ⟨refused, rfl, rfl⟩ := of_waitOn_exhausted shown
  have waiting : ¬∃ j < attempts, answers j = Status.done.code := by simpa using refused
  simp only [status, if_neg waiting, ← reads, PollOutcome.attempts]
  by_cases broken : answers (attempts - 1) = Status.error.code
  · simp only [broken]
  · simp only [if_neg broken]

theorem count_of_value {addr : Addr} {bytes : Nat} {counts : Nat → UInt16} {limit : Nat}
    {accept : UInt16 → Bool} (accepts : ∀ n, accept n = decide (bytes ≤ n.toNat))
    (some : 0 < bytes) (reads : 0 < limit) {outcome : PollOutcome UInt16}
    (shown : outcome = waitOn accept counts limit) :
    count addr bytes counts limit =
      ⟨if outcome.value.toNat = bytes then .ok ()
        else if outcome.value.toNat ≠ 0 then .error (.size addr bytes outcome.value.toNat)
        else .error (.timeout Register.countLo addr (UInt16.ofNat bytes) 0 outcome.attempts),
        countAsks outcome.attempts⟩ := by
  have attempts := attempts_waitOn accept counts limit
  simp only [accepts] at attempts
  simp only [count, ← attempts, ← shown]
  subst shown
  congr 1
  cases first : firstWithin (fun j => bytes ≤ (counts j).toNat) limit with
  | some j =>
    have large : bytes ≤ (counts j).toNat := by
      simpa using (firstWithin_eq_some_iff.mp first).2.1
    have value : (waitOn accept counts limit).value = counts j := by
      simp only [waitOn, accepts, first, PollOutcome.value]
    rw [value, if_pos (show (counts j).toNat ≠ 0 by omega)]
  | none =>
    have value : (waitOn accept counts limit).value = counts (limit - 1) := by
      simp only [waitOn, accepts, first, PollOutcome.value]
    have made : (waitOn accept counts limit).attempts = limit := by
      simp only [waitOn, accepts, first, PollOutcome.attempts]
    have small : (counts (limit - 1)).toNat < bytes := by
      simpa using firstWithin_eq_none_iff.mp first (limit - 1) (by omega)
    rw [value, made, if_neg small.ne]
    by_cases nothing : counts (limit - 1) = 0
    · simp [nothing]
    · have something : (counts (limit - 1)).toNat ≠ 0 := fun zero =>
        nothing (UInt16.toNat_inj.mp zero)
      simp only [if_neg nothing, if_pos something]

/-- The course of a read of lines. -/
def read (r : Replies) (addr : Addr) (bytes limit : Nat) : Course Bytes :=
  (status Register.status addr (r.value Register.status) limit).andThen fun _ =>
    (count addr bytes r.counts limit).andThen fun _ => delivery addr bytes (r.delivery 0)

/-- The course of a write of lines. -/
def write (r : Replies) (addr : Addr) (limit : Nat) : Course Unit :=
  status Register.writeStatus addr (r.value Register.writeStatus) limit

end Course

end LineBridge
