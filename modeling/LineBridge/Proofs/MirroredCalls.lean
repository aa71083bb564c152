import Mathlib
import LineBridge.Proofs.DriverRelation
import LineBridge.Proofs.Mirroring

/-! A driver on a link that copies the transactions of a device makes every call as it would make
it on the device itself, in whichever way either of them writes whole lines. -/

namespace LineBridge

open LineBridge.Action (Agree Follows)

variable {σ τ α β κ : Type} {timing : Timing} {waits : PollLimits → PollLimits}
  {fits : PollLimits → Prop} {tune : TransferSettings → TransferSettings}

/-- Agreement that preserves one relation is respected by sequencing. -/
def Action.Congruence.follows (R : σ → τ → Prop) : Action.Congruence σ τ where
  Rel x y := Follows R x y
  pure := Follows.pure
  fail := Follows.fail
  bind := Follows.bind

theorem Action.runEach_map (f : α → β) (perform : κ → Action σ α) (calls : List κ) (s : σ) :
    runEach (fun call => f <$> perform call) calls s =
      ((runEach perform calls s).1.map (Except.map f), (runEach perform calls s).2) := by
  induction calls generalizing s with
  | nil => rfl
  | cons call rest ih =>
    simp only [runEach, run_map, ih]
    rfl

section Levels

variable (timing : Timing) (fits : PollLimits → Prop)
  (tune : TransferSettings → TransferSettings) (R : σ → τ → Prop)

/-- Alike but for their links, for times, and for how the settings are tuned. -/
structure Memory.Alongside (m : Memory σ) (n : Memory τ) : Prop where
  host : Host.Alongside timing fits R m.host n.host
  transfer : tune m.transfer = n.transfer

/-- Alike but for their links, for times, and for how the settings are tuned. -/
structure Loader.Alongside (l : Loader σ) (k : Loader τ) : Prop where
  memory : Memory.Alongside timing fits tune R l.memory k.memory
  control : l.control = k.control
  entry : l.entry = k.entry

end Levels

def Memory.facing (m : Memory σ) (t : τ) : Memory τ := { m with host := m.host.facing t }

/-- The same driver, facing a link in another state. -/
def Loader.facing (l : Loader σ) (t : τ) : Loader τ := { l with memory := l.memory.facing t }

def Memory.tuned (m : Memory σ) (f : TransferSettings → TransferSettings) : Memory σ :=
  { m with transfer := f m.transfer }

/-- The same driver with other settings for its transfers. -/
def Loader.tuned (l : Loader σ) (f : TransferSettings → TransferSettings) : Loader σ :=
  { l with memory := l.memory.tuned f }

section Facing

variable {R : σ → τ → Prop}

theorem Host.Alongside.retimed_eq {h : Host σ} {k : Host τ}
    (beside : Alongside timing fits R h k) :
    h.retimed timing.shown = (k.facing h.state).retimed timing.shown :=
  congrArg (fun k : Host τ => k.facing h.state) beside.alike

/-- Two hosts that are alike a third are alike. -/
theorem Host.Alongside.meet {υ : Type} {fits' : PollLimits → Prop} {S : υ → τ → Prop}
    {h : Host σ} {n : Host υ} {k : Host τ} (left : Alongside timing fits R h k)
    (right : Alongside timing fits' S n k) :
    h.retimed timing.shown = (n.facing h.state).retimed timing.shown :=
  left.retimed_eq.trans (congrArg (fun n : Host υ => n.facing h.state) right.retimed_eq).symm

theorem Loader.Alongside.retimed_eq {l : Loader σ} {k : Loader τ}
    (beside : Alongside timing fits tune R l k) :
    (l.tuned tune).retimed timing.shown =
      (k.facing l.memory.host.state).retimed timing.shown := by
  calc (l.tuned tune).retimed timing.shown
      = ⟨⟨l.memory.host.retimed timing.shown, tune l.memory.transfer⟩, l.control,
        l.entry⟩ := rfl
    _ = ⟨⟨(k.memory.host.facing l.memory.host.state).retimed timing.shown, k.memory.transfer⟩,
        k.control, k.entry⟩ := by
      rw [← beside.memory.host.retimed_eq, beside.memory.transfer, beside.control, beside.entry]

/-- Two drivers that are alike a third are alike. -/
theorem Loader.Alongside.meet {υ : Type} {fits' : PollLimits → Prop}
    {tune' : TransferSettings → TransferSettings} {S : υ → τ → Prop} {l : Loader σ} {n : Loader υ}
    {k : Loader τ} (left : Alongside timing fits tune R l k)
    (right : Alongside timing fits' tune' S n k) :
    (l.tuned tune).retimed timing.shown =
      ((n.tuned tune').facing l.memory.host.state).retimed timing.shown :=
  left.retimed_eq.trans
    (congrArg (fun n : Loader υ => n.facing l.memory.host.state) right.retimed_eq).symm

theorem Loader.Alongside.eq_facing {l : Loader σ} {k : Loader τ}
    (beside : Alongside .exact fits tune R l k) :
    l.tuned tune = k.facing l.memory.host.state := by
  have kept (l : Loader σ) : l.retimed Timing.exact.shown = l :=
    congrArg (fun host : Host σ => { l with memory := { l.memory with host := host } })
      l.memory.host.retimed_id
  have same := beside.retimed_eq
  rwa [kept, kept] at same

theorem Loader.alongside_facing {k : Loader τ} {s : σ} (related : R s k.memory.host.state)
    (waits : fits k.memory.host.limits) : Alongside timing fits id R (k.facing s) k :=
  ⟨⟨⟨related, rfl, waits⟩, rfl⟩, rfl, rfl⟩

end Facing

section Rules

variable {R : σ → τ → Prop}

theorem Memory.onHost_follows {x : Action (Host σ) α} {y : Action (Host τ) α}
    (h : Follows (Host.Alongside timing fits R) x y) :
    Follows (Alongside timing fits tune R) (onHost x) (onHost y) :=
  Agree.on h (fun _ _ beside => beside.host)
    (fun _ _ _ _ _ beside after => ⟨after, beside.transfer⟩)
    (fun _ _ _ _ beside after => ⟨after, beside.transfer⟩)

theorem Loader.onMemory_follows {x : Action (Memory σ) α} {y : Action (Memory τ) α}
    (h : Follows (Memory.Alongside timing fits tune R) x y) :
    Follows (Alongside timing fits tune R) (onMemory x) (onMemory y) :=
  Agree.on h (fun _ _ beside => beside.memory)
    (fun _ _ _ _ _ beside after => ⟨after, beside.control, beside.entry⟩)
    (fun _ _ _ _ beside after => ⟨after, beside.control, beside.entry⟩)

theorem Memory.settings_then (cut : ∀ t : TransferSettings, t.SameCut (tune t))
    {f : TransferSettings → Action (Memory σ) α} {g : TransferSettings → Action (Memory τ) α}
    (next : ∀ s t, s.SameCut t → Follows (Alongside timing fits tune R) (f s) (g t)) :
    Follows (Alongside timing fits tune R) (settings >>= f) (settings >>= g) :=
  fun m n beside => next m.transfer n.transfer (beside.transfer ▸ cut _) m n beside

theorem Loader.control_then {f : ControlWords → Option UInt32 → Action (Loader σ) Unit}
    {g : ControlWords → Option UInt32 → Action (Loader τ) Unit}
    (next : ∀ words entry, Follows (Alongside timing fits tune R) (f words entry)
      (g words entry)) :
    Follows (Alongside timing fits tune R) (Action.get >>= fun l => f l.control l.entry)
      (Action.get >>= fun l => g l.control l.entry) := by
  apply Agree.get_then
  intro l k beside
  rw [beside.control, beside.entry]
  exact next _ _

theorem Loader.setEntry_follows (entry : UInt32) :
    Follows (Alongside timing fits tune R)
      (Action.modify fun l : Loader σ => { l with entry := some entry })
      (Action.modify fun l : Loader τ => { l with entry := some entry }) :=
  Agree.modify fun _ _ beside => ⟨beside.memory, beside.control, rfl⟩

end Rules

/-- Where a packed write is issued access by access, it makes no difference in which way whole lines
are written. -/
theorem Host.writeWhole_unpacked (link : Link σ) (plain : link.unpacked = link)
    (packed packed' : Bool) (addr : Addr) (lines : Nat) (payload : Bytes) :
    writeWhole link packed addr lines payload = writeWhole link packed' addr lines payload := by
  have alike (packed : Bool) :
      writeWhole link packed addr lines payload = writeLinesPacked link addr lines payload := by
    cases packed with
    | true => rfl
    | false =>
      rw [writeWhole, if_neg Bool.false_ne_true, writeLines_eq_unpacked, plain]
  rw [alike packed, alike packed']

theorem Host.writeWhole_follows {link : Link σ} {R₀ R : σ → Device → Prop}
    (copies : link.CopiesWrites timing waits fits R₀ R) (packed packed' : Bool) (addr : Addr)
    (lines : Nat) (payload : Bytes) :
    Follows (Alongside timing fits R₀) (writeWhole link packed addr lines payload)
      (writeWhole (Device.linkWithin waits) packed' addr lines payload) := by
  rw [writeWhole_unpacked (Device.linkWithin waits) rfl packed' packed]
  cases packed with
  | false => exact writeLines_follows copies addr lines payload
  | true => exact writeLinesPacked_follows copies addr lines payload

namespace Link.Copies

variable {link : Link σ} {R₀ R : σ → Device → Prop}
  (copies : link.Copies timing waits fits R₀ R)
include copies

/-- What a driver does between transactions leaves the links alone. -/
def relation (cut : ∀ t : TransferSettings, t.SameCut (tune t)) :
    DriverRelation timing link (Device.linkWithin waits) where
  host := .follows (Host.Alongside timing fits R₀)
  memory := .follows (Memory.Alongside timing fits tune R₀)
  loader := .follows (Loader.Alongside timing fits tune R₀)
  onHost := Memory.onHost_follows
  onMemory := Loader.onMemory_follows
  hostNow := ⟨Host.now_then copies.toCopiesWrites fun _ _ related => related⟩
  memoryNow := ⟨fun next m n beside => next _ _ (copies.now beside.host.link) m n beside⟩
  loaderNow := ⟨fun next l k beside => next _ _ (copies.now beside.memory.host.link) l k beside⟩
  report := Host.report_follows
  readLines := Host.readLines_follows copies
  writeWhole := Host.writeWhole_follows copies.toCopiesWrites
  settings := Memory.settings_then cut
  control := Loader.control_then
  setEntry := Loader.setEntry_follows

end Link.Copies

section Runs

variable {link : Link σ} {R : σ → Device → Prop} (copies : link.Copies timing waits fits R R)
  (cut : ∀ t : TransferSettings, t.SameCut (tune t))
include copies cut

theorem DriverCall.perform_follows (call : DriverCall) :
    Follows (Loader.Alongside timing fits tune R)
      (CallReply.retimed timing.shown <$> call.perform link)
      (CallReply.retimed timing.shown <$> call.perform (Device.linkWithin waits)) :=
  (copies.relation cut).driverCall call fun _ => Host.finish_follows copies.toCopiesWrites

/-- Whole runs on such a link, with the times left out that need not agree. -/
theorem DriverCall.runEach_follows (calls : List DriverCall) {l : Loader σ} {k : Loader Device}
    (beside : Loader.Alongside timing fits tune R l k) :
    let (outcomes, last) := Action.runEach (perform link) calls l
    let (expected, last') := Action.runEach (perform (Device.linkWithin waits)) calls k
    outcomes.map (Except.map (CallReply.retimed timing.shown)) =
        expected.map (Except.map (CallReply.retimed timing.shown)) ∧
      Loader.Alongside timing fits tune R last last' := by
  have step := fun call (_ : call ∈ calls) => perform_follows copies cut call
  have runs := Agree.runEach step beside
  rwa [Action.runEach_map, Action.runEach_map] at runs

end Runs

end LineBridge
