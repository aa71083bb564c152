import Mathlib
import LineBridge.Proofs.AdapterTraffic
import LineBridge.Proofs.InBounds
import LineBridge.Proofs.SteadyLinks

/-! Which requests reach a link. A link can be made to count the calls that it receives without
doing anything else differently; a request of a host reaches its link if the count grows, however
the request ends. Lines, payloads and bulk transfers are checked before the first call, and what
the checks turn away leaves everything as it was. -/

namespace LineBridge

open LineBridge.Action (Ends Preserves)

variable {σ α : Type}

/-- The state of a link, and the calls that the link has received. -/
structure Counted (σ : Type) where
  inner : σ
  calls : Nat

/-- Makes one call; a call that fails was received too. -/
def Counted.call (x : Action σ α) : Action (Counted σ) α := fun s =>
  ((x.run s.inner).1, ⟨(x.run s.inner).2, s.calls + 1⟩)

/-- The link with a count of the calls that it receives. -/
def Link.counted (link : Link σ) : Link (Counted σ) where
  name := link.name
  clock :=
    { now := fun s => link.clock.now s.inner
      pause := fun length s => { s with inner := link.clock.pause length s.inner } }
  writeRegister reg value := Counted.call (link.writeRegister reg value)
  readRegister reg := Counted.call (link.readRegister reg)
  writeBulk data := Counted.call (link.writeBulk data)
  readBulk count := Counted.call (link.readBulk count)
  idleClock cycles := Counted.call (link.idleClock cycles)
  writePair lo value := Counted.call (link.writePair lo value)
  readPair lo := Counted.call (link.readPair lo)
  pollRegister reg expected limits := Counted.call (link.pollRegister reg expected limits)
  packedWrite addr field payload := Counted.call (link.packedWrite addr field payload)

namespace Counted

theorem run_call (x : Action σ α) (s : Counted σ) :
    (call x).run s = ((x.run s.inner).1, ⟨(x.run s.inner).2, s.calls + 1⟩) := rfl

theorem call_ends (c : Nat) (x : Action σ α) :
    Ends (fun s => c ≤ s.calls) (call x) (fun _ s => c < s.calls) (fun _ s => c < s.calls) := by
  intro s before
  have grown : c < s.calls + 1 := by omega
  rw [run_call]
  cases (x.run s.inner).1 <;> exact grown

theorem call_preserves (c : Nat) (x : Action σ α) :
    Preserves (fun s => c < s.calls) (fun _ s => c < s.calls) (call x) :=
  (call_ends c x).weaken (fun _ before => before.le) (fun _ _ after => after) fun _ _ after => after

end Counted

/-- A count that has grown stays grown. -/
theorem Link.counted_steady (link : Link σ) (c : Nat) :
    link.counted.Steady (fun s => c < s.calls) (fun _ s => c < s.calls) where
  writeRegister _ _ := Counted.call_preserves c _
  writeBulk _ _ := Counted.call_preserves c _
  readBulk _ _ := Counted.call_preserves c _
  idleClock _ := Counted.call_preserves c _
  writePair _ _ := Counted.call_preserves c _
  readPair _ := Counted.call_preserves c _
  pollRegister _ _ _ := Counted.call_preserves c _
  packedWrite _ _ _ _ := Counted.call_preserves c _
  pause _ _ grown := grown
  own _ _ grown := grown

namespace Host

/-- The link receives a call, however the computation ends. -/
def Reaches (x : Action (Host (Counted σ)) α) (h : Host (Counted σ)) : Prop :=
  h.state.calls < (x.run h).2.state.calls

/-- From `c` calls at least, a computation ends after more than `c`. -/
def Calling (c : Nat) (x : Action (Host (Counted σ)) α) : Prop :=
  Ends (fun h => c ≤ h.state.calls) x (fun _ h => c < h.state.calls) (fun _ h => c < h.state.calls)

/-- What goes on from `c` calls goes on from more than `c` to more than `c`. -/
abbrev Grown (c : Nat) (x : Action (Host (Counted σ)) α) : Prop :=
  Preserves (fun h => c < h.state.calls) (fun _ h => c < h.state.calls) x

theorem reaches_of_calling {x : Action (Host (Counted σ)) α} (calling : ∀ c, Calling c x)
    (h : Host (Counted σ)) : Reaches x h := (calling h.state.calls).state le_rfl

theorem not_reaches {x : Action (Host (Counted σ)) α} {outcome : Except Fault α}
    {h : Host (Counted σ)} (run : x.run h = (outcome, h)) : ¬Reaches x h := by
  simp only [Reaches, run, lt_irrefl, not_false_eq_true]

section Calling

variable {c : Nat}

/-- The first call is enough. -/
theorem Calling.then {x : Action (Host (Counted σ)) α} {f : α → Action (Host (Counted σ)) β}
    (first : Calling c x) (rest : ∀ a, Grown c (f a)) : Calling c (x >>= f) :=
  Ends.bind first rest

theorem calling_onLink (x : Action σ α) : Calling c (onLink (Counted.call x)) :=
  Ends.part (Counted.call_ends c x) fun _ _ => rfl

theorem Grown.then {x : Action (Host (Counted σ)) α} {f : α → Action (Host (Counted σ)) β}
    (first : Grown c x) (rest : ∀ a, Grown c (f a)) : Grown c (x >>= f) := first.bind rest

theorem Grown.onLink {x : Action (Counted σ) α}
    (grown : Preserves (fun s => c < s.calls) (fun _ s => c < s.calls) x) :
    Grown c (Host.onLink x) := Ends.part grown fun _ _ => rfl

theorem Calling.after_now {link : Link (Counted σ)} {f : Nat → Action (Host (Counted σ)) β}
    (rest : ∀ started, Calling c (f started)) : Calling c (now link >>= f) :=
  fun h before => rest (link.clock.now h.state) h before

theorem Calling.after_setInFlight {addr : Option Addr} {f : Unit → Action (Host (Counted σ)) β}
    (rest : Calling c (f ())) : Calling c (setInFlight addr >>= f) :=
  fun h before => rest { h with inFlight := addr } before

variable (link : Link σ)

/-- Whatever else a link is to do, it first writes the address registers. -/
theorem calling_address_then {f : Unit → Action (Counted σ) α} (addr : Addr)
    (rest : ∀ a, Preserves (fun s => c < s.calls) (fun _ s => c < s.calls) (f a)) :
    Calling c (onLink (link.counted.writeEach (Channel.addressWrites addr) >>= f)) := by
  have writes := Channel.writeEach_preserves (link.counted_steady c).writeRegister
  have first : Ends (fun s => c ≤ s.calls)
      (link.counted.writeEach (Channel.addressWrites addr)) (fun _ s => c < s.calls)
      (fun _ s => c < s.calls) := Ends.bind (Counted.call_ends c _) fun _ => writes _
  exact Ends.part (first.bind rest) fun _ _ => rfl

theorem calling_issue (packed : Bool) (addr : Addr) (field : UInt16) {payload : Bytes} :
    Calling c (onLink (link.counted.issue packed addr field payload)) := by
  cases packed with
  | true => exact calling_onLink _
  | false =>
    apply calling_address_then
    intro _
    apply (Counted.call_preserves c _).bind
    intro _
    apply (Counted.call_preserves c _).bind
    intro _
    exact (Counted.call_preserves c _).bind fun _ => Counted.call_preserves c _

theorem calling_program (addr : Addr) (field : UInt16) :
    Calling c (program link.counted addr field) := by
  apply Calling.after_setInFlight
  rw [← onLink_bind]
  exact calling_address_then link addr fun _ => Counted.call_preserves c _

theorem grown_endPhase (phase : Phase) (started : Nat) :
    Grown c (endPhase link.counted phase started) :=
  (link.counted_steady c).accesses.endPhase phase started

theorem calling_readLines {addr : Addr} {lines : Nat} (valid : Addressable addr lines) :
    Calling c (readLines link.counted addr lines) := by
  let accesses := (link.counted_steady c).accesses
  have clocked : Grown c (now link.counted) := accesses.now
  unfold readLines
  rw [valid.checked]
  apply Ends.ofExcept_ok
  apply Calling.after_now
  intro started
  apply (calling_program link addr _).then
  -- the count has grown, and how the rest ends makes no difference
  intro _
  apply Grown.then (accesses.command .readStart)
  intro _
  apply Grown.then (accesses.waitDone Register.status addr)
  intro _
  apply Grown.then (accesses.waitCount addr _)
  intro _
  apply Grown.then (accesses.bulkRead _)
  intro data
  apply (grown_endPhase link .read started).then
  intro _
  apply clocked.then
  intro drained
  apply Grown.then accesses.finish
  intro _
  exact (grown_endPhase link .ack drained).then fun _ => .pure data

theorem calling_writeWhole (packed : Bool) {addr : Addr} {lines : Nat} {payload : Bytes}
    (valid : Writable addr lines payload) :
    Calling c (writeWhole link.counted packed addr lines payload) := by
  let accesses := (link.counted_steady c).accesses
  have declared : checkPayload addr lines payload = .ok () :=
    checkPayload_eq_ok_iff.mpr valid.size.symm
  rw [writeWhole_eq, writeLinesPacked, valid.checked, declared]
  apply Ends.ofExcept_ok
  apply Ends.ofExcept_ok
  apply Calling.after_now
  intro started
  apply Calling.after_setInFlight
  apply (calling_issue link packed addr _).then
  intro _
  exact (grown_endPhase link .write started).then fun _ => accesses.completeWrite addr

theorem calling_bulkRead {len : Nat} (some : 0 < len) (fits : len ≤ maxBulkBytes) :
    Calling c (bulkRead link.counted len) := by
  unfold bulkRead
  rw [checkBulk_eq_ok_iff.mpr ⟨fits, rfl⟩]
  apply Ends.ofExcept_ok
  rw [if_neg some.ne']
  apply (calling_onLink _).then
  intro _
  apply (Grown.onLink (Counted.call_preserves c _)).bind
  intro data
  split
  · exact .pure data
  · exact Ends.get_then fun _ _ => Ends.fail fun _ grown => grown

theorem calling_bulkWrite {data : Bytes} (some : 0 < data.length)
    (fits : data.length ≤ maxBulkBytes) : Calling c (bulkWrite link.counted data) := by
  unfold bulkWrite
  rw [checkBulk_eq_ok_iff.mpr ⟨fits, rfl⟩]
  apply Ends.ofExcept_ok
  rw [if_neg (by simpa [List.isEmpty_iff_length_eq_zero] using some.ne')]
  exact (calling_onLink _).then fun _ => Grown.onLink (Counted.call_preserves c _)

end Calling

/-- How a transfer of lines ends that is not let through; the first reason counts. -/
inductive LineRefusal (addr : Addr) (lines : Nat) : Except Fault α → Prop
  | large (excess : maxBatchLines < lines) :
    LineRefusal addr lines (.error (.tooLarge (saturate (lines * lineBytes)) maxBatchBytes))
  | crooked (bounded : lines ≤ maxBatchLines) (off : ¬addr.IsLineAligned) :
    LineRefusal addr lines (.error (.misaligned addr.val.toNat (lines * lineBytes) .line))
  | empty (aligned : addr.IsLineAligned) (none : lines = 0) :
    LineRefusal addr lines (.error (.misaligned addr.val.toNat 0 .noLines))
  | outside (bounded : lines ≤ maxBatchLines) (aligned : addr.IsLineAligned) (some : 0 < lines)
    (past : spaceBytes < addr.val.toNat + lines * lineBytes) :
    LineRefusal addr lines (.error (.outOfRange addr.val.toNat (lines * lineBytes)))

/-- A write is refused for its payload only when its lines are in order. -/
inductive WriteRefusal (addr : Addr) (lines : Nat) (payload : Bytes) : Except Fault Unit → Prop
  | lines {outcome : Except Fault Unit} (refused : LineRefusal addr lines outcome) :
    WriteRefusal addr lines payload outcome
  | payload (valid : Addressable addr lines) (size : payload.length ≠ lines * lineBytes) :
    WriteRefusal addr lines payload
      (.error (.misaligned addr.val.toNat payload.length .payload))

/-- How a bulk transfer ends that is not made; one of nothing is no fault. -/
inductive BulkRefusal (len : Nat) (nothing : α) : Except Fault α → Prop
  | large (excess : maxBulkBytes < len) :
    BulkRefusal len nothing (.error (.tooLarge len maxBulkBytes))
  | empty (none : len = 0) : BulkRefusal len nothing (.ok nothing)

theorem checkLines_refusal {addr : Addr} {lines : Nat} (invalid : ¬Addressable addr lines) :
    ∃ e, checkLines addr lines = .error e ∧
      ∀ {α : Type}, LineRefusal addr lines (.error e : Except Fault α) := by
  rw [checkLines_eq]
  by_cases large : maxBatchLines < lines
  · exact ⟨_, if_pos large, .large large⟩
  rw [if_neg large]
  by_cases aligned : addr.IsLineAligned
  swap
  · exact ⟨_, if_pos aligned, .crooked (not_lt.mp large) aligned⟩
  rw [if_neg (not_not.mpr aligned)]
  by_cases zero : lines = 0
  · exact ⟨_, if_pos zero, .empty aligned zero⟩
  rw [if_neg zero]
  have some := Nat.pos_of_ne_zero zero
  by_cases past : spaceBytes < addr.val.toNat + lines * lineBytes
  · exact ⟨_, if_pos past, .outside (not_lt.mp large) aligned some past⟩
  · exact absurd ⟨aligned, some, not_lt.mp large, not_lt.mp past⟩ invalid

example : checkLines ⟨0x18⟩ (2 ^ 60) = .error (.tooLarge (2 ^ 64 - 1) 65520) := rfl

/-- A call of a host reaches its link exactly if it is valid. If not, it ends in one way from all
states, with nothing changed; and no number on the way to the one or the other leaves its word. -/
structure Vetted (link : Link σ) (call : ∀ {τ : Type}, Link τ → Action (Host τ) α)
    (guarded : Guarded (Host σ) α) (valid : Prop) (refusal : Except Fault α → Prop) : Prop where
  reaches_iff : ∀ h, Reaches (call link.counted) h ↔ valid
  refused : ¬valid → ∃ outcome, refusal outcome ∧ ∀ h, (call link).run h = (outcome, h)
  formed : guarded.Does (call link)

theorem Vetted.intro {link : Link σ} {call : ∀ {τ : Type}, Link τ → Action (Host τ) α}
    {guarded : Guarded (Host σ) α} {valid : Prop} {refusal : Except Fault α → Prop}
    (calling : valid → ∀ c, Calling c (call link.counted))
    (refused : ¬valid → ∃ outcome, refusal outcome ∧
      ∀ {τ : Type} (link : Link τ) (h : Host τ), (call link).run h = (outcome, h))
    (formed : guarded.Does (call link)) : Vetted link call guarded valid refusal where
  reaches_iff h := by
    refine ⟨fun reached => ?_, fun holds => reaches_of_calling (calling holds) h⟩
    by_contra invalid
    obtain ⟨outcome, -, run⟩ := refused invalid
    exact not_reaches (run link.counted h) reached
  refused invalid := by
    obtain ⟨outcome, why, run⟩ := refused invalid
    exact ⟨outcome, why, run link⟩
  formed := formed

variable (link : Link σ)

theorem readLines_vetted (addr : Addr) (lines : Nat) :
    Vetted link (fun link => readLines link addr lines) (Guarded.readLines link addr lines)
      (Addressable addr lines) (LineRefusal addr lines) := by
  refine .intro (fun valid _ => calling_readLines link valid) (fun invalid => ?_)
    (Guarded.does_readLines addr lines)
  obtain ⟨e, checked, why⟩ := checkLines_refusal invalid
  refine ⟨.error e, why, fun link h => ?_⟩
  rw [readLines, checked]
  rfl

theorem writeWhole_refused {addr : Addr} {lines : Nat} {payload : Bytes}
    (invalid : ¬Writable addr lines payload) :
    ∃ outcome, WriteRefusal addr lines payload outcome ∧
      ∀ {τ : Type} (link : Link τ) (packed : Bool) (h : Host τ),
        (writeWhole link packed addr lines payload).run h = (outcome, h) := by
  by_cases valid : Addressable addr lines
  · have size : payload.length ≠ lines * lineBytes := fun size => invalid ⟨valid, size⟩
    refine ⟨_, .payload valid size, fun link packed h => ?_⟩
    rw [writeWhole_eq, writeLinesPacked, valid.checked, checkPayload, if_neg size.symm]
    rfl
  · obtain ⟨e, checked, why⟩ := checkLines_refusal valid
    refine ⟨.error e, .lines why, fun link packed h => ?_⟩
    rw [writeWhole_eq, writeLinesPacked, checked]
    rfl

theorem writeLines_vetted (addr : Addr) (lines : Nat) (payload : Bytes) :
    Vetted link (fun link => writeLines link addr lines payload)
      (Guarded.writeLines link addr lines payload) (Writable addr lines payload)
      (WriteRefusal addr lines payload) := by
  refine .intro (fun valid _ => calling_writeWhole link false valid) (fun invalid => ?_)
    (Guarded.does_writeLines addr lines payload)
  obtain ⟨outcome, why, run⟩ := writeWhole_refused invalid
  exact ⟨outcome, why, fun link h => run link false h⟩

theorem writeLinesPacked_vetted (addr : Addr) (lines : Nat) (payload : Bytes) :
    Vetted link (fun link => writeLinesPacked link addr lines payload)
      (Guarded.writeLinesPacked link addr lines payload) (Writable addr lines payload)
      (WriteRefusal addr lines payload) := by
  refine .intro (fun valid _ => calling_writeWhole link true valid) (fun invalid => ?_)
    (Guarded.does_writeLinesPacked addr lines payload)
  obtain ⟨outcome, why, run⟩ := writeWhole_refused invalid
  exact ⟨outcome, why, fun link h => run link true h⟩

/-- What is not transferred is nothing or too much. -/
theorem bulk_refusal {len : Nat} (invalid : ¬(0 < len ∧ len ≤ maxBulkBytes)) :
    len = 0 ∨ maxBulkBytes < len := by omega

theorem bulkRead_vetted (len : Nat) :
    Vetted link (fun link => bulkRead link len) (Guarded.bulkRead link len)
      (0 < len ∧ len ≤ maxBulkBytes) (BulkRefusal len []) := by
  refine .intro (fun valid _ => calling_bulkRead link valid.1 valid.2) (fun invalid => ?_)
    (Guarded.does_bulkRead len)
  rcases bulk_refusal invalid with none | excess
  · subst none
    exact ⟨_, .empty rfl, fun _ _ => rfl⟩
  · refine ⟨_, .large excess, fun link h => ?_⟩
    rw [bulkRead, checkBulk, if_pos excess]
    rfl

theorem bulkWrite_vetted (data : Bytes) :
    Vetted link (fun link => bulkWrite link data) (Guarded.bulkWrite link data)
      (0 < data.length ∧ data.length ≤ maxBulkBytes) (BulkRefusal data.length ()) := by
  refine .intro (fun valid _ => calling_bulkWrite link valid.1 valid.2) (fun invalid => ?_)
    (Guarded.does_bulkWrite data)
  rcases bulk_refusal invalid with none | excess
  · obtain rfl := List.eq_nil_of_length_eq_zero none
    exact ⟨_, .empty rfl, fun _ _ => rfl⟩
  · refine ⟨_, .large excess, fun link h => ?_⟩
    rw [bulkWrite, checkBulk, if_pos excess]
    rfl

end Host

namespace Memory

variable (link : Link σ) {addr : Addr} (crooked : ¬addr.IsWordAligned) (m : Memory σ)
include crooked

theorem run_readWord_crooked :
    (readWord link addr).run m = (.error (.misaligned addr.val.toNat wordBytes .word), m) := by
  rw [readWord, Addr.requireWordAligned, if_neg crooked]
  rfl

theorem run_writeWord_crooked (value : UInt32) :
    (writeWord link addr value).run m =
      (.error (.misaligned addr.val.toNat wordBytes .word), m) := by
  rw [writeWord, Addr.requireWordAligned, if_neg crooked]
  rfl

end Memory

/-- Exactly the requests that the registers can describe reach a link, and all others end before
the first call with everything as it was. Lines are refused for their number, then for their
place, then for their payload; a bulk transfer is refused for its size, and a word for its
alignment. -/
theorem requests_vetted (link : Link σ) (addr : Addr) :
    (∀ lines, Host.Vetted link (fun link => Host.readLines link addr lines)
      (Guarded.readLines link addr lines) (Host.Addressable addr lines)
      (Host.LineRefusal addr lines)) ∧
    (∀ lines payload, Host.Vetted link (fun link => Host.writeLines link addr lines payload)
      (Guarded.writeLines link addr lines payload) (Host.Writable addr lines payload)
      (Host.WriteRefusal addr lines payload)) ∧
    (∀ lines payload, Host.Vetted link (fun link => Host.writeLinesPacked link addr lines payload)
      (Guarded.writeLinesPacked link addr lines payload) (Host.Writable addr lines payload)
      (Host.WriteRefusal addr lines payload)) ∧
    (∀ len, Host.Vetted link (fun link => Host.bulkRead link len) (Guarded.bulkRead link len)
      (0 < len ∧ len ≤ maxBulkBytes) (Host.BulkRefusal len [])) ∧
    (∀ data : Bytes, Host.Vetted link (fun link => Host.bulkWrite link data)
      (Guarded.bulkWrite link data) (0 < data.length ∧ data.length ≤ maxBulkBytes)
      (Host.BulkRefusal data.length ())) ∧
    (¬addr.IsWordAligned → ∀ m : Memory σ,
      (Memory.readWord link addr).run m =
        (.error (.misaligned addr.val.toNat wordBytes .word), m) ∧
      ∀ value, (Memory.writeWord link addr value).run m =
        (.error (.misaligned addr.val.toNat wordBytes .word), m)) := by
  refine ⟨Host.readLines_vetted link addr, Host.writeLines_vetted link addr,
    Host.writeLinesPacked_vetted link addr, Host.bulkRead_vetted link, Host.bulkWrite_vetted link,
    fun crooked m => ?_⟩
  exact ⟨Memory.run_readWord_crooked link crooked m, Memory.run_writeWord_crooked link crooked m⟩

/-- The last line of the space is read, and not one line more. -/
theorem requests_vetted_last_line :
    (∀ h, Host.Reaches (Host.readLines Device.link.counted ⟨0xFFFFFFF0⟩ 1) h) ∧
    ∃ outcome, Host.LineRefusal ⟨0xFFFFFFF0⟩ 2 outcome ∧
      ∀ h, (Host.readLines Device.link ⟨0xFFFFFFF0⟩ 2).run h = (outcome, h) := by
  have vetted := (requests_vetted Device.link ⟨0xFFFFFFF0⟩).1
  have inside : Host.Addressable ⟨0xFFFFFFF0⟩ 1 := ⟨by decide, by decide, by decide, by decide⟩
  have outside : ¬Host.Addressable ⟨0xFFFFFFF0⟩ 2 := fun valid =>
    absurd valid.inside (by decide)
  exact ⟨fun h => ((vetted 1).reaches_iff h).mpr inside, (vetted 2).refused outside⟩

end LineBridge
