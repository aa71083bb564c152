import Mathlib
import LineBridge.Proofs.Agreement
import LineBridge.Proofs.Calls
import LineBridge.Proofs.Requests
import LineBridge.Proofs.Validation

/-! Over a healthy device, access by the byte is access to a flat memory. The calls are given a
meaning on an array of one byte for every address, and a driver in front of an idle device
answers every sequence of calls as that array does. -/

namespace LineBridge

open LineBridge.Action (Agree Ends Follows)

namespace Flat

/-- The first byte of a range that is not the expected one. -/
def firstMismatch (f : Flat) (a : Addr) (expected : Bytes) : Option Nat :=
  (List.range expected.length).find? fun i => expected.getD i 0 ≠ f (a.offset i)

theorem firstMismatch_cons (f : Flat) (a : Addr) (byte : UInt8) (rest : Bytes) :
    f.firstMismatch a (byte :: rest) =
      if byte = f a then (f.firstMismatch (a.offset 1) rest).map Nat.succ else some 0 := by
  have shift : ((fun i => decide ((byte :: rest).getD i 0 ≠ f (a.offset i))) ∘ Nat.succ) =
      fun i => decide (rest.getD i 0 ≠ f ((a.offset 1).offset i)) := by
    funext i
    rw [Function.comp_apply, List.getD_cons_succ, Addr.offset_offset, Nat.succ_eq_add_one,
      Nat.add_comm i]
  rw [firstMismatch, List.length_cons, List.range_succ_eq_map, List.find?_cons, List.find?_map,
    shift, List.getD_cons_zero, a.offset_zero]
  by_cases same : byte = f a
  · simp [same, firstMismatch]
  · simp [same]

theorem firstDifference_read (f : Flat) (a : Addr) (expected : Bytes) (at_ : Nat) :
    Memory.firstDifference expected (f.read a expected.length) at_ =
      (f.firstMismatch a expected).map fun i =>
        (at_ + i, expected.getD i 0, f (a.offset i)) := by
  induction expected generalizing a at_ with
  | nil => rfl
  | cons byte rest ih =>
    have ahead : f.read a (rest.length + 1) = f a :: f.read (a.offset 1) rest.length := by
      rw [Nat.add_comm, read_append]
      simp [read]
    rw [List.length_cons, ahead, Memory.firstDifference, firstMismatch_cons]
    by_cases same : byte = f a
    · rw [if_pos same, if_pos same, ih, Option.map_map]
      congr 1
      funext i
      rw [Function.comp_apply, Addr.offset_offset, List.getD_cons_succ, Nat.succ_eq_add_one,
        Nat.add_comm i, Nat.add_assoc]
    · rw [if_neg same, if_neg same]
      simp

/-- The bytes of a range that stays in the space. -/
def load (addr : Addr) (len : Nat) : Action Flat Bytes := fun f =>
  if addr.Spans len then (.ok (f.read addr len), f)
  else (.error (.outOfRange addr.val.toNat len), f)

/-- Sets the bytes of a range that stays in the space. -/
def store (addr : Addr) (data : Bytes) : Action Flat Unit := fun f =>
  if addr.Spans data.length then (.ok (), f.write addr data)
  else (.error (.outOfRange addr.val.toNat data.length), f)

/-- Compares a range that stays in the space. -/
def compare (addr : Addr) (expected : Bytes) : Action Flat Unit := fun f =>
  if addr.Spans expected.length then
    match f.firstMismatch addr expected with
    | none => (.ok (), f)
    | some i => (.error (.mismatch (addr.offset i) (expected.getD i 0) (f (addr.offset i))), f)
  else (.error (.outOfRange addr.val.toNat expected.length), f)

theorem compare_eq (addr : Addr) (expected : Bytes) :
    compare addr expected = load addr expected.length >>= fun actual =>
      match Memory.firstDifference expected actual 0 with
      | none => pure ()
      | some (i, wrote, got) => Action.fail (.mismatch (addr.offset i) wrote got) := by
  funext f
  change (compare addr expected).run f = _
  by_cases spans : addr.Spans expected.length
  · have loaded : (load addr expected.length).run f = (.ok (f.read addr expected.length), f) :=
      if_pos spans
    have compared : (compare addr expected).run f = _ := if_pos spans
    refine compared.trans (Eq.trans ?_ (Action.run_bind_ok loaded).symm)
    rw [firstDifference_read]
    cases f.firstMismatch addr expected with
    | none => rfl
    | some i =>
      simp only [Option.map_some, Nat.zero_add]
      rfl
  · have refused : (load addr expected.length).run f =
        (.error (.outOfRange addr.val.toNat expected.length), f) := if_neg spans
    have compared : (compare addr expected).run f = _ := if_neg spans
    exact compared.trans (Action.run_bind_error refused).symm

def onWord {α : Type} (addr : Addr) (x : Action Flat α) : Action Flat α :=
  if addr.IsWordAligned then x else Action.fail (.misaligned addr.val.toNat wordBytes .word)

/-- What a call means on a flat memory. -/
def perform : MemoryCall → Action Flat CallReply
  | .read addr len => CallReply.bytes <$> load addr len
  | .write addr data => (fun _ => CallReply.done) <$> store addr data
  | .readWord addr => onWord addr do
    let data ← load addr wordBytes
    pure (.word (UInt32.ofNat (Bytes.ofLittleEndian data)))
  | .writeWord addr value => onWord addr do
    store addr (Bytes.littleEndian wordBytes value.toNat)
    pure .done
  | .verify addr expected => (fun _ => CallReply.done) <$> compare addr expected

end Flat

/-- A call, with the account of how its bytes were moved left out. -/
def MemoryCall.performPlain {σ : Type} (link : Link σ) (call : MemoryCall) :
    Action (Memory σ) CallReply :=
  CallReply.plain <$> call.perform link

section Refinement

variable {σ : Type} {view : σ → Device} {s : Settings}

/-- The driver stands in front of a healthy and idle device that holds `f`. -/
structure Serves (view : σ → Device) (s : Settings) (m : Memory σ) (f : Flat) : Prop where
  transfer : m.transfer = s.transfer
  limits : m.host.limits = s.poll.limits
  healthy : (view m.host.state).Healthy s.poll.limits
  idle : (view m.host.state).Idle
  memory : (view m.host.state).memory.byteAt = f

theorem Serves.becomes {m m' : Memory σ} {f g : Flat} (serves : Serves view s m f)
    {direction : Direction} {done : List (Addr × Piece)}
    (after : Memory.Holds m.transfer (Host.At (m.host.outline.moved direction done) fun link =>
      (view m.host.state).Becomes g (view link) ∧ (view link).Idle) m') : Serves view s m' g := by
  obtain ⟨same, outlined, becomes, idle⟩ := after
  refine ⟨same.trans serves.transfer, ?_, (becomes.healthy_iff _).mpr serves.healthy, idle,
    becomes.memory⟩
  have limits := congrArg Host.Outline.limits outlined
  rw [Host.Outline.limits_moved] at limits
  exact limits.trans serves.limits

theorem Serves.not_troubled {channel : Channel σ} {m : Memory σ} {f : Flat}
    (serves : Serves view s m f) (inTime : channel.InTime s.poll.limits) :
    ¬Troubled False channel m.host.outline.limits (view m.host.state) := by
  have limits : m.host.outline.limits = s.poll.limits := serves.limits
  rw [limits]
  exact LineBridge.not_troubled inTime serves.healthy

variable {channel : Channel σ} (fronts : channel.Fronts view False)
  (valid : s.validate = .ok ()) (inTime : channel.InTime s.poll.limits)
include fronts valid inTime

theorem read_follows (addr : Addr) {len : Nat} (formed : len + spaceBytes ≤ UInt64.size) :
    Follows (Serves view s) (Memory.read channel.link addr len) (Flat.load addr len) := by
  apply Agree.of_ends
  intro m f serves
  by_cases spans : addr.Spans len
  · have fits : m.transfer.readBatchLines ≤ maxBatchLines := by
      rw [serves.transfer]
      exact (Settings.fitsBatch_of_validate valid).1.lines_le
    refine (Memory.read_ends fronts (t := m.transfer) (o := m.host.outline) addr len
      (view m.host.state)).weaken ?_ ?_ ?_
    · intro _ same
      subst same
      exact ⟨rfl, rfl, rfl⟩
    · intro data m' after
      obtain ⟨same, outlined, rfl, left⟩ := after
      refine ⟨f, ?_, serves.becomes ⟨same, outlined, serves.memory ▸ left.keeps.becomes,
        left.idle serves.idle⟩⟩
      rw [serves.memory]
      exact if_pos spans
    · intro _ m' after
      obtain ⟨-, k, -, -, -, trouble⟩ := after
      exact absurd (trouble fits spans) (serves.not_troubled inTime)
  · refine (Memory.read_ends_of_not_spans formed spans).weaken (fun _ same => same)
      (fun _ _ no => no.elim) ?_
    intro _ _ after
    obtain ⟨rfl, rfl⟩ := after
    exact ⟨f, if_neg spans, serves⟩

theorem write_follows (addr : Addr) {data : Bytes}
    (formed : data.length + spaceBytes ≤ UInt64.size) :
    Follows (Serves view s) ((fun _ => ()) <$> Memory.write channel.link addr data)
      (Flat.store addr data) := by
  apply Agree.of_ends
  intro m f serves
  rw [map_eq_pure_bind]
  by_cases spans : addr.Spans data.length
  · have fits : m.transfer.writeBatchLines ≤ maxBatchLines := by
      rw [serves.transfer]
      exact (Settings.fitsBatch_of_validate valid).2.lines_le
    apply Ends.bind
    · refine (Memory.write_ends fronts (o := m.host.outline) fits spans _ serves.idle).weaken ?_
        (fun _ _ after => after) ?_
      · intro _ same
        subst same
        exact ⟨rfl, rfl, rfl⟩
      · intro _ m' after
        obtain ⟨-, k, i, -, -, -, -, trouble⟩ := after
        exact absurd trouble (serves.not_troubled inTime)
    · intro report
      refine Ends.pure ?_
      intro m' after
      obtain ⟨same, outlined, -, becomes, idle⟩ := after
      rw [serves.memory] at becomes
      exact ⟨_, if_pos spans, serves.becomes ⟨same, outlined, becomes, idle⟩⟩
  · apply Ends.bind
    · refine (Memory.write_ends_of_not_spans formed spans).weaken (fun _ same => same)
        (fun _ _ after => after) ?_
      intro _ _ after
      obtain ⟨rfl, rfl⟩ := after
      exact ⟨f, if_neg spans, serves⟩
    · exact fun _ _ no => no.elim

theorem verify_follows (addr : Addr) {expected : Bytes}
    (formed : expected.length + spaceBytes ≤ UInt64.size) :
    Follows (Serves view s) (Memory.verify channel.link addr expected)
      (Flat.compare addr expected) := by
  rw [Flat.compare_eq]
  apply Follows.bind (read_follows fronts valid inTime addr formed)
  intro actual
  cases Memory.firstDifference expected actual 0 with
  | none => exact Follows.pure ()
  | some place => exact Follows.fail _

omit fronts valid inTime in
theorem onWord_follows {addr : Addr} {x : Action (Memory σ) CallReply}
    {y : Action Flat CallReply} (follows : Follows (Serves view s) x y) :
    Follows (Serves view s)
      (Action.ofExcept addr.requireWordAligned >>= fun _ => x) (Flat.onWord addr y) := by
  unfold Addr.requireWordAligned Flat.onWord
  split
  · exact follows
  · exact Follows.fail _

theorem perform_follows {call : MemoryCall} (short : call.len < spaceBytes) :
    Follows (Serves view s) (call.performPlain channel.link) (Flat.perform call) := by
  have formed := Memory.formed_of_short short
  unfold MemoryCall.performPlain
  cases call with
  | read addr len =>
    simp only [MemoryCall.perform, Functor.map_map]
    exact (read_follows fronts valid inTime addr formed).map CallReply.bytes
  | write addr data =>
    have written := (write_follows fronts valid inTime addr formed).map fun _ => CallReply.done
    rw [Functor.map_map] at written
    simp only [MemoryCall.perform, Functor.map_map]
    exact written
  | readWord addr =>
    have delivered := (read_follows fronts valid inTime addr formed).map
      fun data => CallReply.word (UInt32.ofNat (Bytes.ofLittleEndian data))
    simp only [MemoryCall.perform, Memory.readWord, map_bind, map_pure]
    rw [map_eq_pure_bind, map_eq_pure_bind] at delivered
    exact onWord_follows delivered
  | writeWord addr value =>
    have small : (Bytes.littleEndian wordBytes value.toNat).length + spaceBytes ≤ UInt64.size := by
      rw [Bytes.length_littleEndian]
      exact formed
    have written := (write_follows fronts valid inTime addr small).map fun _ => CallReply.done
    rw [Functor.map_map, map_eq_pure_bind, map_eq_pure_bind] at written
    simp only [MemoryCall.perform, Memory.writeWord, map_bind, map_pure]
    exact onWord_follows written
  | verify addr expected =>
    have compared := (verify_follows fronts valid inTime addr formed).map fun _ => CallReply.done
    simp only [MemoryCall.perform, Functor.map_map]
    exact compared

/-- A driver in front of a healthy and idle device answers calls as a flat memory does, and the
device is healthy and idle again after them. -/
theorem calls_refine_flat {m : Memory σ} {f : Flat} (serves : Serves view s m f)
    {calls : List MemoryCall} (short : ∀ call ∈ calls, call.len < spaceBytes) :
    let (outcomes, m') := Action.runEach (MemoryCall.performPlain channel.link) calls m
    let (expected, f') := Action.runEach Flat.perform calls f
    outcomes = expected ∧ Serves view s m' f' :=
  Agree.runEach (fun call member => perform_follows fronts valid inTime (short call member)) serves

end Refinement

theorem calls_refine_flat_fresh :
    let m : Memory Device := ({} : Settings).memory {}
    let f : Flat := fun _ => 0
    let calls : List MemoryCall :=
      [.write ⟨8⟩ [1, 2, 3], .verify ⟨9⟩ [2, 5], .readWord ⟨8⟩, .writeWord ⟨2⟩ 7, .read ⟨0⟩ 40]
    ({} : Settings).validate = .ok () ∧ Serves id {} m f ∧
      (let (outcomes, m') := Action.runEach (MemoryCall.performPlain Device.link) calls m
      let (expected, f') := Action.runEach Flat.perform calls f
      outcomes = expected ∧ Serves id {} m' f') := by
  intro m f calls
  have valid : ({} : Settings).validate = .ok () := by decide
  have inTime : Device.channel.InTime ({} : Settings).poll.limits :=
    Device.inTime (by decide)
  have serves : Serves id {} m f :=
    ⟨rfl, rfl, ⟨rfl, rfl, by decide⟩, ⟨rfl, rfl, rfl, rfl, rfl⟩, funext LineStore.byteAt_empty⟩
  have short : ∀ call ∈ calls, call.len < spaceBytes := by decide
  exact ⟨valid, serves, calls_refine_flat Channel.fronts_device valid inTime serves short⟩

end LineBridge
