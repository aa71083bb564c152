import Mathlib
import LineBridge.Proofs.Frames
import LineBridge.Proofs.IdleClocks

/-! What a command does to the bridge. Each of the nine operations asks for one access, with what
the header and the payload say; the answer carries what the access delivers, or says no more than
that it failed, and the bridge is left as the access leaves it. A number that is too large for a
register asks for nothing. -/

namespace LineBridge.Remote

open LineBridge.Action (Ends Preserves)

variable {τ β : Type}

/-- The operations whose address is the number of a register. -/
def Operation.NamesRegister : Operation → Prop
  | writeRegister | readRegister | pollRegister | readPair | writePair => True
  | idleClock | packedWrite | bulkWrite | bulkRead => False

/-- The access that a command asks for, and the answer that its value makes. -/
inductive Asks (channel : Channel τ) (h : CommandHeader) (payload : Bytes) : Action τ Reply → Prop
  | writeRegister (op : h.op = .writeRegister) (byte : h.addr < 256) :
    Asks channel h payload (do
      channel.writeRegister h.addr.toUInt8 h.data.toUInt8
      pure ⟨.ok 0, []⟩)
  | readRegister (op : h.op = .readRegister) (byte : h.addr < 256) :
    Asks channel h payload (do
      let value ← channel.readRegister h.addr.toUInt8
      pure ⟨.ok value.toUInt64, []⟩)
  | pollRegister (op : h.op = .pollRegister) (byte : h.addr < 256) :
    Asks channel h payload (do
      let outcome ← channel.pollRegister h.addr.toUInt8 h.data.toUInt8 (.immediate (max h.count 1))
      pure ⟨⟨outcomeWord outcome, outcome.isReady⟩, []⟩)
  | readPair (op : h.op = .readPair) (byte : h.addr < 256) :
    Asks channel h payload (do
      let value ← channel.readPair h.addr.toUInt8
      pure ⟨.ok value.toUInt64, []⟩)
  | writePair (op : h.op = .writePair) (byte : h.addr < 256) :
    Asks channel h payload (do
      channel.writePair h.addr.toUInt8 h.data.toUInt16
      pure ⟨.ok 0, []⟩)
  | idleClock (op : h.op = .idleClock) :
    Asks channel h payload (do
      channel.idleClock h.data.toUInt32
      pure ⟨.ok 0, []⟩)
  | packedWrite (op : h.op = .packedWrite) :
    Asks channel h payload (do
      channel.packedWrite ⟨h.addr⟩ h.data.toUInt16 payload
      pure ⟨.ok 0, []⟩)
  | bulkWrite (op : h.op = .bulkWrite) :
    Asks channel h payload (do
      channel.writeBulk payload
      pure ⟨.ok 0, []⟩)
  | bulkRead (op : h.op = .bulkRead) :
    Asks channel h payload (do
      let data ← channel.readBulk h.count.toNat
      pure ⟨.ok (UInt64.ofNat data.length), data⟩)

/-- How a command can be answered, and what it leaves behind. -/
inductive Performs (channel : Channel τ) (f : Frame) (t : τ) : Reply × τ → Prop
  | granted {access : Action τ Reply} (asked : Asks channel f.header f.payload access)
    {reply : Reply} {t' : τ} (ran : access.run t = (.ok reply, t')) :
    Performs channel f t (reply, t')
  | refused {access : Action τ Reply} (asked : Asks channel f.header f.payload access)
    {cause : LinkFault} {t' : τ} (ran : access.run t = (.error (.link cause), t')) :
    Performs channel f t (⟨.failed 0, []⟩, t')
  | unnamed (names : f.header.op.NamesRegister) (large : ¬f.header.addr < 256) :
    Performs channel f t (⟨.failed 0, []⟩, t)

/-- Commands one after another, with their answers. -/
inductive Runs (channel : Channel τ) : τ → List Frame → List Reply → τ → Prop
  | done {t : τ} : Runs channel t [] [] t
  | next {t t' last : τ} {f : Frame} {reply : Reply} {frames : List Frame} {replies : List Reply}
    (performs : Performs channel f t (reply, t')) (rest : Runs channel t' frames replies last) :
    Runs channel t (f :: frames) (reply :: replies) last

/-- How a command is answered: nine bytes, and behind them what a read that succeeds delivers. -/
structure Frame.AnsweredBy (f : Frame) (r : Reply) : Prop where
  header : r.header.encode.length = 9
  payload : r.payload.length =
    if f.header.op = .bulkRead ∧ r.header.success = true then f.header.count.toNat else 0

theorem Frame.answeredBy_plain {f : Frame} {r : Reply} (plain : f.header.op ≠ .bulkRead)
    (none : r.payload = []) : f.AnsweredBy r := by
  refine ⟨ReplyHeader.length_encode _, ?_⟩
  rw [if_neg fun both => plain both.1, none, List.length_nil]

variable {channel : Channel τ} {view : τ → Device} (fronts : channel.Fronts view False)
include fronts

namespace Asks

variable {h : CommandHeader} {payload : Bytes} {access : Action τ Reply}

/-- Every access fails as a link does, and idles for at most as long as a word can say. -/
theorem ends (asked : Asks channel h payload access) (n : Nat) :
    Ends (fun t => (view t).idleCycles = n) access
      (fun _ t => (view t).idleCycles ≤ n + (UInt32.size - 1))
      (fun e t => (∃ cause, e = .link cause) ∧
        (view t).idleCycles ≤ n + (UInt32.size - 1)) := by
  have plain {β : Type} {x : Action τ β} (own : Clockless view x) (g : β → Reply) :
      Ends (fun t => (view t).idleCycles = n) (x >>= fun b => pure (g b))
        (fun _ t => (view t).idleCycles ≤ n + (UInt32.size - 1))
        (fun e t => (∃ cause, e = .link cause) ∧
          (view t).idleCycles ≤ n + (UInt32.size - 1)) := by
    refine ((own n).bind fun b => Preserves.pure (g b)).weaken (fun _ before => before) ?_ ?_
    · exact fun _ t same => same ▸ Nat.le_add_right _ _
    · exact fun e t after => ⟨after.1, after.2 ▸ Nat.le_add_right _ _⟩
  cases asked with
  | writeRegister _ _ => exact plain (fronts.writeRegister_clockless _ _) _
  | readRegister _ _ => exact plain (fronts.readRegister_clockless _) _
  | pollRegister _ _ => exact plain (fronts.pollRegister_clockless _ _ _) _
  | readPair _ _ => exact plain (fronts.readPair_clockless _) _
  | writePair _ _ => exact plain (fronts.writePair_clockless _ _) _
  | packedWrite _ => exact plain (fronts.packedWrite_clockless _ _ _) _
  | bulkWrite _ => exact plain (fronts.writeBulk_clockless _) _
  | bulkRead _ => exact plain (fronts.readBulk_clockless _) _
  | idleClock _ =>
    have short : h.data.toUInt32.toNat ≤ UInt32.size - 1 :=
      Nat.le_pred_of_lt h.data.toUInt32.toNat_lt
    refine Ends.of_eq fun t before => ?_
    refine Ends.bind (Q := fun _ t' => (view t').idleCycles ≤ n + (UInt32.size - 1)) ?_
      fun _ => Ends.pure fun _ after => after
    refine (fronts.idleClock_ends _ (view t)).weaken (fun _ same => congrArg view same) ?_
      (fun _ _ lost => lost.1.elim)
    rintro _ t' seen
    rw [seen, ← before]
    exact Nat.add_le_add_left short _

/-- An access to a register behind the register file is refused before anything is done, so the
second register of a pair is always the next one. -/
theorem refused (asked : Asks channel h payload access) (names : h.op.NamesRegister)
    (outside : Register.count ≤ h.addr.toNat) : Refused view access := by
  have silent (byte : h.addr < 256) : ¬Device.Answers h.addr.toUInt8 := by
    have small : h.addr.toNat < 2 ^ 8 := UInt32.lt_iff_toNat_lt.mp byte
    show ¬h.addr.toUInt8.toNat < Register.count
    rw [UInt32.toNat_toUInt8, Nat.mod_eq_of_lt small]
    exact Nat.not_lt.mpr outside
  cases asked with
  | writeRegister _ byte =>
    exact ((fronts.writeRegister _ _).refused
      (Device.writeRegister_refused (silent byte) _)).bind _
  | readRegister _ byte =>
    exact ((fronts.readRegister _).refused (Device.readRegister_refused (silent byte))).bind _
  | pollRegister _ byte => exact (fronts.pollRegister_refused (silent byte) _ _).bind _
  | readPair _ byte =>
    exact (((fronts.readRegister _).refused
      (Device.readRegister_refused (silent byte))).bind _).bind _
  | writePair _ byte =>
    exact (((fronts.writeRegister _ _).refused
      (Device.writeRegister_refused (silent byte) _)).bind _).bind _
  | idleClock op => rw [op] at names; exact names.elim
  | packedWrite op => rw [op] at names; exact names.elim
  | bulkWrite op => rw [op] at names; exact names.elim
  | bulkRead op => rw [op] at names; exact names.elim

/-- Only a bulk read that succeeds is answered with more than a header. -/
theorem answered {f : Frame} (asked : Asks channel f.header f.payload access) :
    Ends (fun _ => True) access (fun reply _ => f.AnsweredBy reply) (fun _ _ => True) := by
  have plain {β : Type} (x : Action τ β) (answer : β → ReplyHeader)
      (other : f.header.op ≠ .bulkRead) :
      Ends (fun _ => True) (x >>= fun b => pure (⟨answer b, []⟩ : Reply))
        (fun reply _ => f.AnsweredBy reply) (fun _ _ => True) :=
    (Ends.trivial x).bind fun b => Ends.pure fun _ _ => Frame.answeredBy_plain other rfl
  cases asked with
  | writeRegister op _ => exact plain _ (fun _ => .ok 0) (by rw [op]; decide)
  | readRegister op _ => exact plain _ _ (by rw [op]; decide)
  | pollRegister op _ => exact plain _ _ (by rw [op]; decide)
  | readPair op _ => exact plain _ _ (by rw [op]; decide)
  | writePair op _ => exact plain _ (fun _ => .ok 0) (by rw [op]; decide)
  | idleClock op => exact plain _ (fun _ => .ok 0) (by rw [op]; decide)
  | packedWrite op => exact plain _ (fun _ => .ok 0) (by rw [op]; decide)
  | bulkWrite op => exact plain _ (fun _ => .ok 0) (by rw [op]; decide)
  | bulkRead op =>
    have delivered : Ends (fun _ => True) (channel.readBulk f.header.count.toNat)
        (fun data _ => data.length = f.header.count.toNat) (fun _ _ => True) := by
      refine (fronts.readBulk _).ends_alike (P := fun _ => True)
        (Q := fun data _ => data.length = f.header.count.toNat) (E := fun _ _ => True) ?_
      exact Ends.of_eq fun d _ => (d.bulkRead_ends _).weaken (fun _ same => same)
        (fun _ _ after => after.1) (fun _ _ _ => trivial)
    refine delivered.bind fun data => Ends.pure fun _ size => ⟨ReplyHeader.length_encode _, ?_⟩
    rw [if_pos ⟨op, rfl⟩]
    exact size

end Asks

section Answers

variable {f : Frame} {t : τ}

/-- An access is answered by its value, or by a failure. -/
theorem performs_asked {access : Action τ Reply} (asked : Asks channel f.header f.payload access) :
    Performs channel f t (match access.run t with
      | (.ok reply, t') => (reply, t')
      | (.error _, t') => (⟨.failed 0, []⟩, t')) := by
  have ended := asked.ends fronts (view t).idleCycles t rfl
  cases ran : access.run t with
  | mk outcome t' =>
    rw [ran] at ended
    cases outcome with
    | ok reply => exact .granted asked ran
    | error e =>
      obtain ⟨⟨cause, rfl⟩, -⟩ := ended
      exact .refused asked ran

theorem answer_performs {x : Action τ β} {g : β → UInt64}
    (asked : Asks channel f.header f.payload (x >>= fun b => pure ⟨.ok (g b), []⟩)) :
    Performs channel f t (answer (x >>= fun b => pure (g b)) t) := by
  have performs := performs_asked fronts asked (t := t)
  cases ran : x.run t with
  | mk outcome t' =>
    cases outcome with
    | ok b =>
      rw [Action.run_bind_ok ran] at performs
      rw [answer, Action.run_bind_ok ran]
      exact performs
    | error e =>
      rw [Action.run_bind_error ran] at performs
      rw [answer, Action.run_bind_error ran]
      exact performs

theorem answerAt_performs {x : UInt8 → Action τ β} {g : β → UInt64}
    (names : f.header.op.NamesRegister)
    (asked : f.header.addr < 256 → Asks channel f.header f.payload
      (x f.header.addr.toUInt8 >>= fun b => pure ⟨.ok (g b), []⟩)) :
    Performs channel f t (answerAt f.header.addr (fun reg => x reg >>= fun b => pure (g b)) t) := by
  unfold answerAt
  split
  · next byte => exact answer_performs fronts (asked byte)
  · next large => exact .unnamed names large

end Answers

/-- The bridge performs what it is sent. -/
theorem perform_performs (f : Frame) (t : τ) :
    Performs channel f t (perform channel f.header f.payload t) := by
  unfold perform
  cases op : f.header.op with
  | writeRegister =>
    exact answerAt_performs fronts (by rw [op]; trivial) (.writeRegister op) (g := fun _ => 0)
  | readRegister => exact answerAt_performs fronts (by rw [op]; trivial) (.readRegister op)
  | readPair => exact answerAt_performs fronts (by rw [op]; trivial) (.readPair op)
  | writePair =>
    exact answerAt_performs fronts (by rw [op]; trivial) (.writePair op) (g := fun _ => 0)
  | idleClock => exact answer_performs fronts (.idleClock op) (g := fun _ => 0)
  | bulkWrite => exact answer_performs fronts (.bulkWrite op) (g := fun _ => 0)
  | packedWrite => exact answer_performs fronts (.packedWrite op) (g := fun _ => 0)
  | bulkRead =>
    have performs := performs_asked fronts (t := t) (.bulkRead op)
    cases ran : (channel.readBulk f.header.count.toNat).run t with
    | mk outcome t' =>
      have linked : (channel.link.readBulk f.header.count.toNat).run t = (outcome, t') := ran
      dsimp only
      rw [linked]
      cases outcome with
      | ok data => rwa [Action.run_bind_ok ran] at performs
      | error e => rwa [Action.run_bind_error ran] at performs
  | pollRegister =>
    dsimp only
    split
    · next byte =>
      have performs := performs_asked fronts (t := t) (.pollRegister op byte)
      cases ran : (channel.pollRegister f.header.addr.toUInt8 f.header.data.toUInt8
          (.immediate (max f.header.count 1))).run t with
      | mk outcome t' =>
        have linked : (channel.link.pollRegister f.header.addr.toUInt8 f.header.data.toUInt8
            f.header.limits).run t = (outcome, t') := ran
        rw [answerPoll, linked]
        cases outcome with
        | ok outcome => rwa [Action.run_bind_ok ran] at performs
        | error e => rwa [Action.run_bind_error ran] at performs
    · next large => exact .unnamed (by rw [op]; trivial) large

namespace Performs

variable {f : Frame} {t : τ} {answered : Reply × τ}

theorem answeredBy (performs : Performs channel f t answered) : f.AnsweredBy answered.1 := by
  have failed : f.AnsweredBy ⟨.failed 0, []⟩ := by
    refine ⟨rfl, ?_⟩
    rw [if_neg fun both => Bool.false_ne_true both.2]
    rfl
  cases performs with
  | granted asked ran => exact (asked.answered fronts).ok trivial ran
  | refused _ _ => exact failed
  | unnamed _ _ => exact failed

/-- It does not matter whether a number is too large for a byte or only for the register file. -/
theorem outside (performs : Performs channel f t answered) (names : f.header.op.NamesRegister)
    (outside : Register.count ≤ f.header.addr.toNat) :
    answered.1 = ⟨.failed 0, []⟩ ∧ view answered.2 = view t := by
  cases performs with
  | granted asked ran =>
    exact ((asked.refused fronts names outside (view t)).ok rfl ran).elim
  | refused asked ran =>
    have ended := asked.refused fronts names outside (view t) t rfl
    rw [ran] at ended
    exact ⟨rfl, ended.2⟩
  | unnamed _ _ => exact ⟨rfl, rfl⟩

/-- One command idles for at most as long as a word of 32 bits can say. -/
theorem idleCycles_le (performs : Performs channel f t answered) :
    (view answered.2).idleCycles ≤ (view t).idleCycles + (UInt32.size - 1) := by
  cases performs with
  | granted asked ran => exact (asked.ends fronts (view t).idleCycles).ok rfl ran
  | refused asked ran =>
    have ended := asked.ends fronts (view t).idleCycles t rfl
    rw [ran] at ended
    exact ended.2
  | unnamed _ _ => exact Nat.le_add_right _ _

end Performs

namespace Runs

variable {t last : τ} {frames : List Frame} {replies : List Reply}

theorem answeredBy (runs : Runs channel t frames replies last) :
    List.Forall₂ Frame.AnsweredBy frames replies := by
  induction runs with
  | done => exact .nil
  | next performs _ ih => exact .cons (performs.answeredBy fronts) ih

theorem idleCycles_le (runs : Runs channel t frames replies last) :
    (view last).idleCycles ≤ (view t).idleCycles + frames.length * (UInt32.size - 1) := by
  induction runs with
  | done => exact Nat.le_add_right _ _
  | next performs _ ih =>
    have first := performs.idleCycles_le fronts
    rw [List.length_cons, Nat.add_one_mul]
    dsimp only at first
    omega

end Runs

end LineBridge.Remote
