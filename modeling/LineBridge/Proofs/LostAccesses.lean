import Mathlib
import LineBridge.Proofs.AccessRelation
import LineBridge.Proofs.MirroredCalls

/-! Accesses that fail within one call. A channel can be made to note that an access has failed
without doing anything else differently, and until then it goes as a channel goes in which the
device itself answers every access. So what holds of a call where nothing is lost holds on every
channel, unless an access fails in that very call. -/

namespace LineBridge

open LineBridge.Action (Agree Follows)

variable {σ τ υ ω α β : Type} {R : σ → τ → Prop} {F : σ → Prop} {view : σ → Device}
  {lossy : Prop}

/-- From related states both end alike and in related states, or the first ends in a fault and
in a state that `F` accepts. -/
structure Action.InStep (R : σ → τ → Prop) (F : σ → Prop) (x : Action σ α) (y : Action τ α) :
    Prop where
  either : ∀ s t, R s t → ((x.run s).1 = (y.run t).1 ∧ R (x.run s).2 (y.run t).2) ∨
    ((∃ e, (x.run s).1 = .error e) ∧ F (x.run s).2)

namespace Action.InStep

theorem of_follows {x : Action σ α} {y : Action τ α} (follows : Follows R x y) : InStep R F x y :=
  ⟨fun _ _ related => .inl (Follows.alike follows related)⟩

theorem bind {x : Action σ α} {y : Action τ α} {f : α → Action σ β} {g : α → Action τ β}
    (first : InStep R F x y) (next : ∀ a, InStep R F (f a) (g a)) :
    InStep R F (x >>= f) (y >>= g) := by
  constructor
  intro s t related
  have either := first.either s t related
  cases ran : x.run s with
  | mk outcome s' =>
    cases ran' : y.run t with
    | mk outcome' t' =>
      rw [ran, ran'] at either
      cases outcome with
      | ok a =>
        rcases either with ⟨rfl, after⟩ | ⟨⟨_, fault⟩, -⟩
        · rw [run_bind_ok ran, run_bind_ok ran']
          exact (next a).either s' t' after
        · cases fault
      | error e =>
        rw [run_bind_error ran]
        rcases either with ⟨rfl, after⟩ | ⟨-, after⟩
        · rw [run_bind_error ran']
          exact .inl ⟨rfl, after⟩
        · exact .inr ⟨⟨e, rfl⟩, after⟩

theorem check {r : Except Fault α} {f : α → Action σ β} {g : α → Action τ β}
    (next : ∀ a, r = .ok a → InStep R F (f a) (g a)) :
    InStep R F (Action.ofExcept r >>= f) (Action.ofExcept r >>= g) := by
  cases r with
  | ok a => exact next a rfl
  | error e => exact of_follows (.fail e)

theorem get_then {f : σ → Action σ β} {g : τ → Action τ β}
    (next : ∀ s t, R s t → InStep R F (f s) (g t)) :
    InStep R F (Action.get >>= f) (Action.get >>= g) :=
  ⟨fun s t related => (next s t related).either s t related⟩

theorem on {view : υ → σ} {put : σ → υ → υ} {view' : ω → τ} {put' : τ → ω → ω} {x : Action σ α}
    {y : Action τ α} {W : υ → ω → Prop} {G : υ → Prop} (h : InStep R F x y)
    (inside : ∀ u w, W u w → R (view u) (view' w))
    (after : ∀ u w s t, W u w → R s t → W (put s u) (put' t w))
    (fault : ∀ u s, F s → G (put s u)) :
    InStep W G (Action.on view put x) (Action.on view' put' y) := by
  constructor
  intro u w related
  rcases h.either (view u) (view' w) (inside u w related) with ⟨same, ended⟩ | ⟨failed, ended⟩
  · exact .inl ⟨same, after u w _ _ related ended⟩
  · exact .inr ⟨failed, fault u _ ended⟩

end Action.InStep

open LineBridge.Action (InStep)

/-- Going in step is respected by sequencing. -/
def Action.Congruence.inStep (R : σ → τ → Prop) (F : σ → Prop) : Action.Congruence σ τ where
  Rel x y := InStep R F x y
  pure a := .of_follows (.pure a)
  fail e := .of_follows (.fail e)
  bind := .bind

/-- Channels whose clocks show the same and whose accesses go in step. -/
structure Channel.InStep (channel : Channel σ) (channel' : Channel τ) (R : σ → τ → Prop)
    (F : σ → Prop) : Prop where
  now : ∀ s t, R s t → channel.clock.now s = channel'.clock.now t
  pause : ∀ length s t, R s t → R (channel.clock.pause length s) (channel'.clock.pause length t)
  writeRegister : ∀ reg value,
    Action.InStep R F (channel.writeRegister reg value) (channel'.writeRegister reg value)
  readRegister : ∀ reg, Action.InStep R F (channel.readRegister reg) (channel'.readRegister reg)
  writeBulk : ∀ data, Action.InStep R F (channel.writeBulk data) (channel'.writeBulk data)
  readBulk : ∀ count, Action.InStep R F (channel.readBulk count) (channel'.readBulk count)
  idleClock : ∀ cycles, Action.InStep R F (channel.idleClock cycles) (channel'.idleClock cycles)

namespace Channel.InStep

variable {channel : Channel σ} {channel' : Channel τ} (inStep : channel.InStep channel' R F)
include inStep

theorem writePair (lo : UInt8) (value : UInt16) :
    Action.InStep R F (channel.writePair lo value) (channel'.writePair lo value) :=
  (inStep.writeRegister lo _).bind fun _ => .check fun _ _ => inStep.writeRegister _ _

theorem readPair (lo : UInt8) : Action.InStep R F (channel.readPair lo) (channel'.readPair lo) := by
  apply (inStep.readRegister lo).bind
  intro _
  apply Action.InStep.check
  intro _ _
  exact (inStep.readRegister _).bind fun _ => .of_follows (.pure _)

theorem writeEach (writes : List (UInt8 × UInt8)) :
    Action.InStep R F (channel.writeEach writes) (channel'.writeEach writes) := by
  induction writes with
  | nil => exact .of_follows (.pure ())
  | cons write rest ih => exact (inStep.writeRegister _ _).bind fun _ => ih

theorem packedWrite (addr : Addr) (field : UInt16) (payload : Bytes) :
    Action.InStep R F (channel.packedWrite addr field payload)
      (channel'.packedWrite addr field payload) := by
  apply (inStep.writeEach _).bind
  intro _
  apply (inStep.writePair _ field).bind
  intro _
  apply (inStep.writePair _ _).bind
  intro _
  exact (inStep.writeBulk payload).bind fun _ => inStep.writeRegister _ _

theorem pollFrom {read : Action σ α} {read' : Action τ α} (step : Action.InStep R F read read')
    (limits : PollLimits) (accept : α → Bool) (started more made : Nat) :
    Action.InStep R F (pollFrom channel.clock limits read accept started more made)
      (pollFrom channel'.clock limits read' accept started more made) := by
  induction more generalizing made with
  | zero =>
    apply step.bind
    intro value
    split
    · exact .of_follows (.pure _)
    · exact .of_follows (.pure _)
  | succ more ih =>
    apply step.bind
    intro value
    split
    · exact .of_follows (.pure _)
    · apply Action.InStep.get_then
      intro s t related
      rw [inStep.now s t related]
      split
      · exact .of_follows (.pure _)
      · dsimp only
        split
        · exact Action.InStep.bind (.of_follows (Agree.modify (inStep.pause _))) fun _ => ih _
        · exact ih _

theorem poll {read : Action σ α} {read' : Action τ α} (step : Action.InStep R F read read')
    (limits : PollLimits) (accept : α → Bool) :
    Action.InStep R F (poll channel.clock limits read accept)
      (poll channel'.clock limits read' accept) := by
  apply Action.InStep.get_then
  intro s t related
  rw [inStep.now s t related]
  exact inStep.pollFrom step limits accept _ _ 0

def accesses : AccessRelation channel.link channel'.link where
  access := .inStep R F
  host := .inStep (Host.Alongside .exact (fun _ => True) R) fun h => F h.state
  onLink h := h.on (fun _ _ beside => beside.link) (fun _ _ _ _ beside after => beside.onto after)
    fun _ _ after => after
  now := ⟨fun _ _ beside => .inl ⟨congrArg Except.ok (inStep.now _ _ beside.link), beside⟩⟩
  report _ := .of_follows (Host.report_follows rfl)
  setInFlight addr := .of_follows (Host.setInFlight_follows addr)
  outline next := by
    apply Action.InStep.get_then
    intro h k beside
    rw [beside.limits, beside.idleCycles, beside.inFlight]
    exact next _ _ _
  writeRegister := inStep.writeRegister
  writeBulk data _ := inStep.writeBulk data
  readBulk count _ := inStep.readBulk count
  idleClock := inStep.idleClock
  writePair := inStep.writePair
  pollCount limits accept := inStep.poll (inStep.readPair _) limits accept
  pollRegister reg _ limits := inStep.poll (inStep.readRegister reg) limits _
  issue packed packed' addr field payload _ := by
    have issued := inStep.packedWrite addr field payload
    cases packed <;> cases packed' <;> exact issued

def calls : DriverRelation .exact channel.link channel'.link where
  host := inStep.accesses.host
  memory := .inStep (Memory.Alongside .exact (fun _ => True) id R) fun m => F m.host.state
  loader := .inStep (Loader.Alongside .exact (fun _ => True) id R) fun l => F l.memory.host.state
  onHost h := h.on (fun _ _ beside => beside.host)
    (fun _ _ _ _ beside after => ⟨after, beside.transfer⟩) fun _ _ after => after
  onMemory h := h.on (fun _ _ beside => beside.memory)
    (fun _ _ _ _ beside after => ⟨after, beside.control, beside.entry⟩) fun _ _ after => after
  hostNow := .of_rel inStep.accesses.now
  memoryNow := .of_rel
    ⟨fun _ _ beside => .inl ⟨congrArg Except.ok (inStep.now _ _ beside.host.link), beside⟩⟩
  loaderNow := .of_rel
    ⟨fun _ _ beside => .inl ⟨congrArg Except.ok (inStep.now _ _ beside.memory.host.link), beside⟩⟩
  report same := Timing.eq_of_exact same ▸ inStep.accesses.report _
  readLines := inStep.accesses.readLines
  writeWhole := inStep.accesses.writeWhole
  settings next := by
    apply Action.InStep.get_then
    intro m n beside
    have same : m.transfer = n.transfer := beside.transfer
    rw [same]
    exact next _ _ (.refl _)
  control calls := by
    apply Action.InStep.get_then
    intro l k beside
    rw [beside.control, beside.entry]
    exact calls _ _
  setEntry _ := .of_follows
    (Agree.modify fun _ _ beside => ⟨beside.memory, beside.control, rfl⟩)

end Channel.InStep

/-- A state, with a note of whether an access has failed. -/
structure Noted (σ : Type) where
  inner : σ
  lost : Bool := false

def Noted.through (x : Action σ α) : Action (Noted σ) α := fun n =>
  ((x.run n.inner).1, ⟨(x.run n.inner).2, n.lost || !(x.run n.inner).1.isOk⟩)

/-- A state with a device beside it, and a note of whether an access has failed. -/
structure Doubled (σ : Type) where
  inner : σ
  device : Device
  lost : Bool := false

/-- After an access to the state beside the device, which is let alone once one has failed. -/
def Doubled.followed (m : Doubled σ) (x : Action σ α) : Doubled σ :=
  if m.lost then m
  else { m with inner := (x.run m.inner).2, lost := !(x.run m.inner).1.isOk }

/-- Uses both, and ends as the device does. -/
def Doubled.through (x : Action σ α) (y : Action Device α) : Action (Doubled σ) α := fun m =>
  ((y.run m.device).1, { m.followed x with device := (y.run m.device).2 })

namespace Channel

variable (channel : Channel σ)

/-- The channel with a note of failed accesses. -/
def noting : Channel (Noted σ) where
  name := channel.name
  clock :=
    { now := fun n => channel.clock.now n.inner
      pause := fun length n => { n with inner := channel.clock.pause length n.inner } }
  writeRegister reg value := Noted.through (channel.writeRegister reg value)
  readRegister reg := Noted.through (channel.readRegister reg)
  writeBulk data := Noted.through (channel.writeBulk data)
  readBulk count := Noted.through (channel.readBulk count)
  idleClock cycles := Noted.through (channel.idleClock cycles)

/-- The channel with a device that answers in its place. With the first access that fails the time
stops as well. -/
def doubled : Channel (Doubled σ) where
  name := channel.name
  clock :=
    { now := fun m => if m.lost then 0 else channel.clock.now m.inner
      pause := fun length m =>
        if m.lost then m else { m with inner := channel.clock.pause length m.inner } }
  writeRegister reg value :=
    Doubled.through (channel.writeRegister reg value) (Device.writeRegister reg value)
  readRegister reg := Doubled.through (channel.readRegister reg) (Device.readRegister reg)
  writeBulk data := Doubled.through (channel.writeBulk data) (Device.writeBulk data)
  readBulk count := Doubled.through (channel.readBulk count) (Device.readBulk count)
  idleClock cycles := Doubled.through (channel.idleClock cycles) (Device.idleClock cycles)

theorem fronts_doubled : channel.doubled.Fronts Doubled.device False where
  writeRegister _ _ _ := .inl ⟨rfl, rfl⟩
  readRegister _ _ := .inl ⟨rfl, rfl⟩
  writeBulk _ _ := .inl ⟨rfl, rfl⟩
  readBulk _ _ := .inl ⟨rfl, rfl⟩
  idleClock _ _ := .inl ⟨rfl, rfl⟩
  pause length m := by
    show (if m.lost then m else _).device = m.device
    split
    · rfl
    · rfl

/-- A note changes nothing. -/
theorem inStep_noting :
    channel.InStep channel.noting (fun s n => s = n.inner) (fun _ => False) where
  now _ _ same := congrArg channel.clock.now same
  pause length _ _ same := congrArg (channel.clock.pause length) same
  writeRegister _ _ := ⟨fun _ _ same => .inl (same ▸ ⟨rfl, rfl⟩)⟩
  readRegister _ := ⟨fun _ _ same => .inl (same ▸ ⟨rfl, rfl⟩)⟩
  writeBulk _ := ⟨fun _ _ same => .inl (same ▸ ⟨rfl, rfl⟩)⟩
  readBulk _ := ⟨fun _ _ same => .inl (same ▸ ⟨rfl, rfl⟩)⟩
  idleClock _ := ⟨fun _ _ same => .inl (same ▸ ⟨rfl, rfl⟩)⟩

end Channel

/-- Both are where the channel is, and nothing has been lost. -/
structure Doubled.Beside (view : σ → Device) (n : Noted σ) (m : Doubled σ) : Prop where
  inner : n.inner = m.inner
  device : view n.inner = m.device
  kept : m.lost = false

theorem Passes.inStep {x : Action σ α} {y : Action Device α} (passes : Passes view lossy x y) :
    Action.InStep (Doubled.Beside view) (·.lost = true) (Noted.through x)
      (Doubled.through x y) := by
  constructor
  rintro ⟨s, lost⟩ ⟨_, _, _⟩ ⟨rfl, rfl, rfl⟩
  cases outcome : (x.run s).1 with
  | ok a =>
    rcases passes s with ⟨value, state⟩ | ⟨-, ⟨e, fault⟩, -⟩
    · refine .inl ⟨value, rfl, state, ?_⟩
      show (!(x.run s).1.isOk) = false
      rw [outcome]
      rfl
    · cases outcome.symm.trans fault
  | error e =>
    refine .inr ⟨⟨e, outcome⟩, ?_⟩
    show (lost || !(x.run s).1.isOk) = true
    rw [outcome]
    exact Bool.or_true lost

/-- What succeeds on the device, with nothing lost on the way, has succeeded beside it. -/
def Doubled.Shadows (x : Action σ α) (y : Action (Doubled σ) β) : Prop :=
  ∀ m b m', y.run m = (.ok b, m') → m'.lost = false →
    m.lost = false ∧ ∃ a, x.run m.inner = (.ok a, m'.inner)

namespace Doubled.Shadows

theorem through (x : Action σ α) (y : Action Device α) : Shadows x (Doubled.through x y) := by
  intro m b m' ran kept
  obtain rfl : { m.followed x with device := (y.run m.device).2 } = m' := congrArg Prod.snd ran
  have followed : (m.followed x).lost = false := kept
  show m.lost = false ∧ ∃ a, x.run m.inner = (.ok a, (m.followed x).inner)
  unfold Doubled.followed at followed ⊢
  cases lost : m.lost with
  | true =>
    rw [if_pos lost, lost] at followed
    cases followed
  | false =>
    rw [if_neg (Bool.eq_false_iff.mp lost)] at followed
    have ok : (x.run m.inner).1.isOk = true := by simpa using followed
    obtain ⟨a, s', run⟩ := Action.exists_of_isOk ok
    rw [if_neg Bool.false_ne_true, run]
    exact ⟨rfl, a, rfl⟩

theorem pure (a : α) (b : β) : Shadows (Pure.pure a : Action σ α) (Pure.pure b) := by
  rintro m _ _ ⟨⟩ kept
  exact ⟨kept, a, rfl⟩

theorem bind [Inhabited α] {γ δ : Type} {x : Action σ α} {y : Action (Doubled σ) β}
    {f : α → Action σ γ} {g : β → Action (Doubled σ) δ} (first : Shadows x y)
    (next : ∀ a b, Shadows (f a) (g b)) :
    Shadows (x >>= f) (y >>= g) := by
  intro m b m' ran kept
  cases before : y.run m with
  | mk outcome m₁ =>
    cases outcome with
    | error e =>
      rw [Action.run_bind_error before] at ran
      cases ran
    | ok b₁ =>
      rw [Action.run_bind_ok before] at ran
      -- nothing is lost up to the end, and therefore not before
      obtain ⟨free, a, run⟩ := first m b₁ m₁ before (next default b₁ m₁ b m' ran kept).1
      obtain ⟨-, c, run'⟩ := next a b₁ m₁ b m' ran kept
      exact ⟨free, c, (Action.run_bind_ok run).trans run'⟩

variable {channel : Channel σ} {limits : PollLimits} {read : Action σ α}
  {read' : Action (Doubled σ) β}

/-- As long as nothing is lost, a wait goes on beside the device as well. -/
theorem waits (shadows : Shadows read read') {m₀ m : Doubled σ} {made : Nat}
    (before : Waits channel.doubled.clock limits read' m₀ made m) (kept : m.lost = false) :
    m₀.lost = false ∧ Waits channel.clock limits read m₀.inner made m.inner := by
  induction before with
  | start => exact ⟨kept, .start⟩
  | @next made m m' value before ran ih =>
    have lost : (channel.doubled.clock.paused limits m').lost = m'.lost := by
      unfold Clock.paused
      split
      · show (if m'.lost then m' else _).lost = m'.lost
        split <;> rfl
      · rfl
    rw [lost] at kept
    obtain ⟨free, a, run⟩ := shadows m value m' ran kept
    have paused : (channel.doubled.clock.paused limits m').inner =
        channel.clock.paused limits m'.inner := by
      unfold Clock.paused
      split
      · show (if m'.lost then m' else _).inner = _
        rw [kept]
        rfl
      · rfl
    rw [paused]
    exact ⟨(ih free).1, (ih free).2.next run⟩

/-- Where something has been lost the clock shows nothing any more. -/
theorem punctual (shadows : Shadows read read') (positive : 0 < limits.timeout)
    (punctual : Punctual channel.clock limits read) :
    Punctual channel.doubled.clock limits read' := by
  intro m₀ made m value m' before more ran
  show (if m'.lost then 0 else channel.clock.now m'.inner) -
    (if m₀.lost then 0 else channel.clock.now m₀.inner) < limits.timeout
  cases kept : m'.lost with
  | true =>
    rw [if_pos rfl, Nat.zero_sub]
    exact positive
  | false =>
    obtain ⟨free, a, run⟩ := shadows m value m' ran kept
    obtain ⟨begun, waits⟩ := shadows.waits before free
    rw [begun]
    exact punctual m₀.inner made m.inner a m'.inner waits more run

end Doubled.Shadows

theorem Channel.InTime.doubled {channel : Channel σ} {limits : PollLimits}
    (inTime : channel.InTime limits) : channel.doubled.InTime limits where
  positive := inTime.positive
  status reg status :=
    (Doubled.Shadows.through (channel.readRegister reg) (Device.readRegister reg)).punctual
      inTime.positive (inTime.status reg status)
  count := by
    refine Doubled.Shadows.punctual ?_ inTime.positive inTime.count
    rw [Channel.readPair_eq _ (by decide), Channel.readPair_eq _ (by decide)]
    refine (Doubled.Shadows.through _ _).bind fun _ _ => ?_
    exact (Doubled.Shadows.through _ _).bind fun _ _ => .pure _ _

/-- What troubles a call where nothing is lost troubles it also elsewhere. -/
theorem Troubled.of_doubled {channel : Channel σ} {limits : PollLimits} {d : Device}
    (trouble : Troubled False channel.doubled limits d) (lost : Prop) :
    Troubled lost channel limits d := by
  rcases trouble with none | late | broken
  · exact none.elim
  · exact .inr (.inl fun inTime => late inTime.doubled)
  · exact .inr (.inr broken)

namespace Channel.Fronts

variable {channel : Channel σ} (fronts : channel.Fronts view lossy)
include fronts

/-- As long as no access fails, the device answers as the channel does. -/
theorem inStep_doubled : channel.noting.InStep channel.doubled (Doubled.Beside view)
    (·.lost = true) where
  now n m beside := by
    show channel.clock.now n.inner = if m.lost then 0 else channel.clock.now m.inner
    rw [beside.kept, beside.inner]
    rfl
  pause length n m beside := by
    show Doubled.Beside view _ (if m.lost then m else _)
    rw [beside.kept]
    exact ⟨congrArg (channel.clock.pause length) beside.inner,
      (fronts.pause length n.inner).trans beside.device, rfl⟩
  writeRegister reg value := (fronts.writeRegister reg value).inStep
  readRegister reg := (fronts.readRegister reg).inStep
  writeBulk data := (fronts.writeBulk data).inStep
  readBulk count := (fronts.readBulk count).inStep
  idleClock cycles := (fronts.idleClock cycles).inStep

end Channel.Fronts

namespace Loader

/-- The same driver on the channel with a note of failed accesses, of which there is none yet. -/
def noted (l : Loader σ) : Loader (Noted σ) := l.facing ⟨l.memory.host.state, false⟩

/-- The same driver on the channel with a device that answers in its place. -/
def doubled (view : σ → Device) (l : Loader σ) : Loader (Doubled σ) :=
  l.facing { inner := l.memory.host.state, device := view l.memory.host.state }

/-- An access fails in the course of a call. -/
def Loses (channel : Channel σ) (l : Loader σ) (call : LoaderCall) : Prop :=
  ((DriverCall.onLoader channel.noting.link call).run l.noted).2.memory.host.state.lost = true

/-- A call in which no access fails ends as it ends where no access can fail. -/
theorem loses_or_ends_alike {channel : Channel σ} (fronts : channel.Fronts view lossy)
    (call : LoaderCall) (l : Loader σ) :
    l.Loses channel call ∨ ((DriverCall.onLoader channel.link call).run l).1 =
      ((DriverCall.onLoader channel.doubled.link call).run (l.doubled view)).1 := by
  have noted := (channel.inStep_noting.calls.loaderCall_exact call).either l l.noted
    ⟨⟨⟨rfl, rfl, trivial⟩, rfl⟩, rfl, rfl⟩
  have doubled := (fronts.inStep_doubled.calls.loaderCall_exact call).either l.noted (l.doubled view)
    ⟨⟨⟨⟨rfl, rfl, rfl⟩, rfl, trivial⟩, rfl⟩, rfl, rfl⟩
  rcases doubled with ⟨alike, -⟩ | ⟨-, lost⟩
  · exact .inr ((noted.resolve_right And.right).1.trans alike)
  · exact .inl lost

end Loader

end LineBridge
