import Mathlib
import LineBridge.Bench.Meter
import LineBridge.ByteStream
import LineBridge.Proofs.AnyLink

/-! A meter on a stream of which nothing is known. The stream may deliver any bytes, in pieces of
any size, end anywhere and fail at any use. `Yields` says what a computation that goes through
sends and takes; one that does not ends in a fault of the stream. -/

namespace LineBridge

open LineBridge.Action (Ends)

variable {σ α β : Type}

/-- A state with a meter beside it. -/
structure Metered (σ : Type) where
  inner : σ
  meter : Bench.Meter := {}

namespace Metered

/-- Uses what is behind the meter. -/
def onInner (x : Action σ α) : Action (Metered σ) α :=
  Action.on (·.inner) (fun s m => { m with inner := s }) x

def count (f : Bench.Meter → Bench.Meter) : Action (Metered σ) Unit :=
  Action.modify fun m => { m with meter := f m.meter }

end Metered

/-- The same stream, with a count of the bytes that it has accepted and delivered. -/
def ByteStream.metered (stream : ByteStream σ) : ByteStream (Metered σ) where
  write bytes := do
    Metered.onInner (stream.write bytes)
    Metered.count (·.addSent bytes)
  flush := do
    Metered.onInner stream.flush
    Metered.count (·.addFlush)
  read count := do
    let bytes ← Metered.onInner (stream.read count)
    Metered.count (·.addTaken bytes)
    pure bytes

def Clock.metered (clock : Clock σ) : Clock (Metered σ) where
  now m := clock.now m.inner
  pause length m := { m with inner := clock.pause length m.inner }

/-- What every stream keeps to: its faults are those of a link, and it never delivers more than
was asked for. -/
structure ByteStream.Regular (stream : ByteStream σ) : Prop where
  write : ∀ bytes, (stream.write bytes).FailsAsLink
  flush : stream.flush.FailsAsLink
  read : ∀ count, Ends (fun _ => True) (stream.read count)
    (fun bytes _ => bytes.length ≤ count) (fun e _ => ∃ cause, e = .link cause)

namespace Metered

/-- What has passed since a meter showed what it shows now. -/
structure Passed (m m' : Metered σ) (sent taken : Bytes) : Prop where
  sent : m'.meter.sentBytes = m.meter.sentBytes ++ sent
  taken : m'.meter.takenBytes = m.meter.takenBytes ++ taken

namespace Passed

variable {m m₁ m₂ : Metered σ} {sent sent' taken taken' : Bytes}

theorem refl (m : Metered σ) : Passed m m [] [] :=
  ⟨(List.append_nil _).symm, (List.append_nil _).symm⟩

theorem trans (first : Passed m m₁ sent taken) (second : Passed m₁ m₂ sent' taken') :
    Passed m m₂ (sent ++ sent') (taken ++ taken') :=
  ⟨by rw [second.sent, first.sent, List.append_assoc],
    by rw [second.taken, first.taken, List.append_assoc]⟩

end Passed

/-- A computation that ends with a value and with bytes sent and taken as `Q` has it, or in a
fault of a link. -/
def Yields (x : Action (Metered σ) α) (Q : α → Bytes → Bytes → Prop) : Prop :=
  ∀ m, Ends (· = m) x (fun a m' => ∃ sent taken, Passed m m' sent taken ∧ Q a sent taken)
    (fun e _ => ∃ cause, e = .link cause)

namespace Yields

variable {x : Action (Metered σ) α} {f : α → Action (Metered σ) β} {Q : α → Bytes → Bytes → Prop}
  {R : β → Bytes → Bytes → Prop}

theorem pure {a : α} (holds : Q a [] []) : Yields (Pure.pure a : Action (Metered σ) α) Q :=
  fun m => Ends.pure fun _ same => ⟨[], [], same ▸ Passed.refl m, holds⟩

theorem fail (cause : LinkFault) : Yields (Action.fail (.link cause) : Action (Metered σ) α) Q :=
  fun _ => Ends.fail fun _ _ => ⟨cause, rfl⟩

theorem bind (first : Yields x Q) (next : ∀ a sent taken, Q a sent taken →
      Yields (f a) fun b sent' taken' => R b (sent ++ sent') (taken ++ taken')) :
    Yields (x >>= f) R := by
  intro m
  apply Ends.bind (first m)
  rintro a m₁ ⟨sent, taken, passed, holds⟩
  refine (next a sent taken holds m₁).onValue ?_ m₁ rfl
  rintro b m₂ ⟨sent', taken', passed', holds'⟩
  exact ⟨sent ++ sent', taken ++ taken', passed.trans passed', holds'⟩

theorem weaken {Q' : α → Bytes → Bytes → Prop} (h : Yields x Q')
    (holds : ∀ a sent taken, Q' a sent taken → Q a sent taken) : Yields x Q := by
  intro m
  refine (h m).onValue ?_
  rintro a m' ⟨sent, taken, passed, after⟩
  exact ⟨sent, taken, passed, holds a sent taken after⟩

/-- Nothing is added to what has passed before. -/
theorem bind_pure (h : Yields x Q) (g : α → β)
    (holds : ∀ a sent taken, Q a sent taken → R (g a) sent taken) :
    Yields (x >>= fun a => Pure.pure (g a)) R := by
  refine h.bind fun a sent taken before => pure ?_
  rw [List.append_nil, List.append_nil]
  exact holds a sent taken before

end Yields

theorem count_yields {f : Bench.Meter → Bench.Meter} {sent taken : Bytes}
    (grows : ∀ meter : Bench.Meter, (f meter).sentBytes = meter.sentBytes ++ sent ∧
      (f meter).takenBytes = meter.takenBytes ++ taken) :
    Yields (count f : Action (Metered σ) Unit) fun _ sent' taken' =>
      sent' = sent ∧ taken' = taken := by
  intro m
  refine Ends.modify fun m' same => ⟨sent, taken, ?_, rfl, rfl⟩
  subst same
  exact ⟨(grows m'.meter).1, (grows m'.meter).2⟩

/-- What happens behind a meter does not move it. -/
theorem onInner_yields {x : Action σ α} {Q : α → Prop}
    (ends : Ends (fun _ => True) x (fun a _ => Q a) fun e _ => ∃ cause, e = .link cause) :
    Yields (onInner x) fun a sent taken => sent = [] ∧ taken = [] ∧ Q a := by
  intro m
  let still (m' : Metered σ) : Prop := m'.meter = m.meter
  have ending : Ends (fun m' => still m' ∧ True) (onInner x) (fun a m' => still m' ∧ Q a)
      (fun e m' => still m' ∧ ∃ cause, e = .link cause) :=
    Ends.on (J := still) ends (fun _ _ => rfl) fun _ _ same => same
  refine ending.weaken (by rintro _ rfl; exact ⟨rfl, trivial⟩) ?_ fun _ _ after => after.2
  rintro a m' ⟨same, holds⟩
  have same : m'.meter = m.meter := same
  refine ⟨[], [], ⟨?_, ?_⟩, rfl, rfl, holds⟩
  · rw [same, List.append_nil]
  · rw [same, List.append_nil]

end Metered

namespace ByteStream.Regular

open LineBridge.Metered (Yields)

variable {stream : ByteStream σ} (regular : stream.Regular)
include regular

theorem write_yields (bytes : Bytes) :
    Yields (stream.metered.write bytes) fun _ sent taken => sent = bytes ∧ taken = [] := by
  have silent := Metered.onInner_yields (regular.write bytes)
  apply silent.bind
  rintro _ _ _ ⟨rfl, rfl, -⟩
  refine Metered.count_yields fun meter => ?_
  simp [Bench.Meter.addSent, Bench.Meter.sentBytes, Bench.Meter.takenBytes]

theorem flush_yields :
    Yields stream.metered.flush fun _ sent taken => sent = [] ∧ taken = [] := by
  have silent := Metered.onInner_yields regular.flush
  apply silent.bind
  rintro _ _ _ ⟨rfl, rfl, -⟩
  refine Metered.count_yields fun meter => ?_
  simp [Bench.Meter.addFlush, Bench.Meter.sentBytes, Bench.Meter.takenBytes]

theorem read_yields (count : Nat) :
    Yields (stream.metered.read count) fun bytes sent taken =>
      sent = [] ∧ bytes = taken ∧ bytes.length ≤ count := by
  apply (Metered.onInner_yields (regular.read count)).bind
  rintro bytes _ _ ⟨rfl, rfl, fits⟩
  have counted : Yields (Metered.count (·.addTaken bytes) : Action (Metered σ) Unit)
      fun _ sent taken => sent = [] ∧ taken = bytes := by
    refine Metered.count_yields fun meter => ?_
    simp [Bench.Meter.addTaken, Bench.Meter.sentBytes, Bench.Meter.takenBytes]
  refine counted.bind_pure (fun _ => bytes) ?_
  rintro _ sent taken ⟨rfl, rfl⟩
  exact ⟨rfl, rfl, fits⟩

theorem send_yields (bytes : Bytes) :
    Yields (stream.metered.send bytes) fun _ sent taken => sent = bytes ∧ taken = [] := by
  rw [ByteStream.send]
  split
  · next none =>
    refine regular.flush_yields.weaken ?_
    rintro _ _ _ ⟨rfl, rfl⟩
    exact ⟨(List.isEmpty_iff.mp none).symm, rfl⟩
  · apply (regular.write_yields bytes).bind
    rintro _ _ _ ⟨rfl, rfl⟩
    refine regular.flush_yields.weaken ?_
    rintro _ _ _ ⟨rfl, rfl⟩
    exact ⟨List.append_nil _, rfl⟩

/-- What is collected is what has been taken, and never too much. -/
theorem collectFrom_yields {count : Nat} {got : Array UInt8} (part : got.size ≤ count) :
    Yields (stream.metered.collectFrom count got) fun bytes sent taken =>
      sent = [] ∧ bytes = got.toList ++ taken ∧ bytes.length ≤ count := by
  -- on what is still missing: every piece but the last has some of it
  induction missing : count - got.size using Nat.strongRecOn generalizing got with
  | ind missing ih =>
    subst missing
    rw [ByteStream.collectFrom]
    split
    · next short =>
      apply (regular.read_yields (count - got.size)).bind
      rintro more _ _ ⟨rfl, rfl, fits⟩
      have joined : (got ++ more).toList = got.toList ++ more := Array.toList_appendList
      have grown := Bytes.size_append got more
      split
      · next none =>
        have empty : more = [] := List.length_eq_zero_iff.mp none
        subst empty
        refine Yields.pure ⟨rfl, by simp, ?_⟩
        rw [Array.length_toList]
        exact part
      · next some =>
        refine (ih (count - (got ++ more).size) (by omega) (by omega) rfl).weaken ?_
        rintro bytes _ taken ⟨rfl, same, whole⟩
        rw [joined, List.append_assoc] at same
        exact ⟨rfl, same, whole⟩
    · refine Yields.pure ⟨rfl, (List.append_nil _).symm, ?_⟩
      rw [Array.length_toList]
      exact part

theorem collect_yields (count : Nat) :
    Yields (stream.metered.collect count) fun bytes sent taken =>
      sent = [] ∧ bytes = taken ∧ bytes.length ≤ count := by
  refine (regular.collectFrom_yields (Nat.zero_le count)).weaken ?_
  rintro bytes sent taken ⟨none, same, whole⟩
  exact ⟨none, same, whole⟩

/-- A receipt that goes through is whole. -/
theorem receive_yields (count : Nat) :
    Yields (stream.metered.receive count) fun bytes sent taken =>
      sent = [] ∧ bytes = taken ∧ bytes.length = count := by
  apply (regular.collect_yields count).bind
  rintro bytes _ _ ⟨rfl, rfl, fits⟩
  split
  · exact Yields.fail _
  · next whole => exact Yields.pure ⟨rfl, (List.append_nil _).symm, by omega⟩

end ByteStream.Regular

namespace Metered

/-- A relation between bytes sent and bytes taken that holds of nothing, and that exchanges one
after another keep. -/
structure Pairing (P : Bytes → Bytes → Prop) : Prop where
  nil : P [] []
  append : ∀ {sent taken sent' taken' : Bytes}, P sent taken → P sent' taken' →
    P (sent ++ sent') (taken ++ taken')

/-- What has passed since `m` is as `P` has it. -/
def Since (P : Bytes → Bytes → Prop) (m m' : Metered σ) : Prop :=
  ∃ sent taken, Passed m m' sent taken ∧ P sent taken

/-- A fatal fault, or everything is as it should be. -/
def FatalOr (P : Bytes → Bytes → Prop) (m : Metered σ) (e : Fault) (m' : Metered σ) : Prop :=
  e.isFatal = true ∨ Since P m m'

variable {P : Bytes → Bytes → Prop} (pairing : Pairing P)
include pairing

theorem Pairing.since_refl (m : Metered σ) : Since P m m := ⟨[], [], Passed.refl m, pairing.nil⟩

theorem Pairing.preserves {x : Action (Metered σ) α} (h : Yields x fun _ => P) (m : Metered σ) :
    Action.Preserves (Since P m) (FatalOr P m) x := by
  apply Ends.of_eq
  rintro m₁ ⟨sent, taken, passed, holds⟩
  refine (h m₁).weaken (fun _ same => same) ?_ ?_
  · rintro a m₂ ⟨sent', taken', passed', holds'⟩
    exact ⟨_, _, passed.trans passed', pairing.append holds holds'⟩
  · rintro e m₂ ⟨cause, rfl⟩
    exact .inl rfl

end Metered

end LineBridge
