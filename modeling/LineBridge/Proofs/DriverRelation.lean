import Mathlib
import LineBridge.Proofs.Outcome
import LineBridge.Proofs.Pieces
import LineBridge.Proofs.Timing

/-! A driver touches its link only in its transactions, and reads the clock only to say how long
something took. A relation that respects sequencing and that holds between the transactions of two
drivers therefore holds between all of their calls, however these are put together, as far as the
times that they report go together. -/

namespace LineBridge

variable {σ τ α β γ : Type}

/-- A relation between computations that sequencing respects. -/
structure Action.Congruence (σ τ : Type) where
  Rel : {α : Type} → Action σ α → Action τ α → Prop
  pure : ∀ {α : Type} (a : α), Rel (Pure.pure a) (Pure.pure a)
  fail : ∀ {α : Type} (e : Fault), Rel (Action.fail (α := α) e) (Action.fail e)
  bind : ∀ {α β : Type} {x : Action σ α} {y : Action τ α} {f : α → Action σ β}
    {g : α → Action τ β}, Rel x y → (∀ a, Rel (f a) (g a)) → Rel (x >>= f) (y >>= g)

namespace Action.Congruence

variable (c : Action.Congruence σ τ)

theorem map (f : α → β) {x : Action σ α} {y : Action τ α} (h : c.Rel x y) :
    c.Rel (f <$> x) (f <$> y) := by
  rw [map_eq_pure_bind, map_eq_pure_bind]
  exact c.bind h fun _ => c.pure _

/-- Results that go together in one form go together in every form made from it. -/
theorem map_of {δ : Type} {f : α → β} {g : β → δ} {p : α → γ} {q : γ → δ} {x : Action σ α}
    {y : Action τ α} (same : ∀ a, g (f a) = q (p a)) (h : c.Rel (p <$> x) (p <$> y)) :
    c.Rel (g <$> f <$> x) (g <$> f <$> y) := by
  have both : g ∘ f = q ∘ p := funext same
  rw [← comp_map, ← comp_map, both, comp_map, comp_map]
  exact c.map q h

theorem ofExcept (r : Except Fault α) : c.Rel (Action.ofExcept r) (Action.ofExcept r) := by
  cases r with
  | ok a => exact c.pure a
  | error e => exact c.fail e

/-- What follows a computation sees of its result what is left of it. -/
theorem bind_map {x : Action σ α} {y : Action τ α} {f : α → β} {g : β → Action σ γ}
    {k : β → Action τ γ} (h : c.Rel (f <$> x) (f <$> y)) (next : ∀ b, c.Rel (g b) (k b)) :
    c.Rel (x >>= fun a => g (f a)) (y >>= fun a => k (f a)) := by
  rw [← bind_map_left f x g, ← bind_map_left f y k]
  exact c.bind h next

theorem bind_mapped (f : β → γ) {x : Action σ α} {y : Action τ α} {g : α → Action σ β}
    {k : α → Action τ β} (first : c.Rel x y) (next : ∀ a, c.Rel (f <$> g a) (f <$> k a)) :
    c.Rel (f <$> (x >>= g)) (f <$> (y >>= k)) := by
  rw [map_bind, map_bind]
  exact c.bind first next

/-- Readings that go together, whatever is made of them. -/
structure Reads (Same : Nat → Nat → Prop) (x : Action σ Nat) (y : Action τ Nat) : Prop where
  bind : ∀ {α : Type} {f : Nat → Action σ α} {g : Nat → Action τ α},
    (∀ a b, Same a b → c.Rel (f a) (g b)) → c.Rel (x >>= f) (y >>= g)

variable {c}

theorem Reads.map {Same : Nat → Nat → Prop} {x : Action σ Nat} {y : Action τ Nat}
    (reads : c.Reads Same x y) {f : β → γ} {g : Nat → Action σ β} {k : Nat → Action τ β}
    (next : ∀ a b, Same a b → c.Rel (f <$> g a) (f <$> k b)) :
    c.Rel (f <$> (x >>= g)) (f <$> (y >>= k)) := by
  rw [map_bind, map_bind]
  exact reads.bind next

theorem Reads.of_rel {x : Action σ Nat} {y : Action τ Nat} (h : c.Rel x y) : c.Reads Eq x y :=
  ⟨fun next => c.bind h fun a => next a a rfl⟩

end Action.Congruence

/-- Settings that cut every request alike; whole lines may be written in one way or the other. -/
structure TransferSettings.SameCut (s t : TransferSettings) : Prop where
  reads : s.readBatchBytes = t.readBatchBytes
  writes : s.writeBatchBytes = t.writeBatchBytes
  pages : s.loadPageBytes = t.loadPageBytes

theorem TransferSettings.SameCut.refl (s : TransferSettings) : s.SameCut s := ⟨rfl, rfl, rfl⟩

/-- Writes whole lines as the settings say. -/
def Host.writeWhole (link : Link σ) (packed : Bool) (addr : Addr) (lines : Nat)
    (payload : Bytes) : Action (Host σ) Unit :=
  if packed then Host.writeLinesPacked link addr lines payload
  else Host.writeLines link addr lines payload

/-- Relations between two drivers on each of their levels, which hold between all that their
calls are made of. -/
structure DriverRelation (timing : Timing) (link : Link σ) (link' : Link τ) where
  host : Action.Congruence (Host σ) (Host τ)
  memory : Action.Congruence (Memory σ) (Memory τ)
  loader : Action.Congruence (Loader σ) (Loader τ)
  onHost : ∀ {α : Type} {x : Action (Host σ) α} {y : Action (Host τ) α},
    host.Rel x y → memory.Rel (Memory.onHost x) (Memory.onHost y)
  onMemory : ∀ {α : Type} {x : Action (Memory σ) α} {y : Action (Memory τ) α},
    memory.Rel x y → loader.Rel (Loader.onMemory x) (Loader.onMemory y)
  hostNow : host.Reads timing.Same (Host.now link) (Host.now link')
  memoryNow : memory.Reads timing.Same (Memory.onHost (Host.now link))
    (Memory.onHost (Host.now link'))
  loaderNow : loader.Reads timing.Same (Loader.onMemory (Memory.onHost (Host.now link)))
    (Loader.onMemory (Memory.onHost (Host.now link')))
  report : ∀ {event event' : Event},
    event.retimed timing.shown = event'.retimed timing.shown →
    host.Rel (Host.report event) (Host.report event')
  readLines : ∀ addr lines,
    host.Rel (Host.readLines link addr lines) (Host.readLines link' addr lines)
  writeWhole : ∀ packed packed' addr lines payload,
    host.Rel (Host.writeWhole link packed addr lines payload)
      (Host.writeWhole link' packed' addr lines payload)
  settings : ∀ {α : Type} {f : TransferSettings → Action (Memory σ) α}
    {g : TransferSettings → Action (Memory τ) α},
    (∀ s t, s.SameCut t → memory.Rel (f s) (g t)) →
    memory.Rel (Memory.settings >>= f) (Memory.settings >>= g)
  control : ∀ {f : ControlWords → Option UInt32 → Action (Loader σ) Unit}
    {g : ControlWords → Option UInt32 → Action (Loader τ) Unit},
    (∀ words entry, loader.Rel (f words entry) (g words entry)) →
    loader.Rel (Action.get >>= fun l => f l.control l.entry)
      (Action.get >>= fun l => g l.control l.entry)
  setEntry : ∀ entry, loader.Rel (Action.modify fun l => { l with entry := some entry })
    (Action.modify fun l => { l with entry := some entry })

/-- A start with the control words and the entry point at hand. -/
def Loader.startFrom (link : Link σ) (words : ControlWords) :
    Option UInt32 → Action (Loader σ) Unit
  | none => Action.fail .notLoaded
  | some entry => do
    Loader.writeControl link words.programCounter entry
    Loader.writeControl link words.reset words.hold
    Loader.writeControl link words.reset 0

theorem Loader.retimed_loadAndStart (f : Nat → Nat) (link : Link σ) (image : Image)
    (verify : Bool) :
    LoadReport.retimed f <$> Loader.loadAndStart link image verify =
      LoadReport.retimed f <$> Loader.load link image verify >>= fun report =>
        Loader.start link >>= fun _ => pure report := by
  simp only [Loader.loadAndStart, map_bind, map_pure, bind_map_left]

theorem Loader.start_eq (link : Link σ) :
    Loader.start link = Action.get >>= fun l => Loader.startFrom link l.control l.entry := rfl

namespace DriverRelation

variable {timing : Timing} {link : Link σ} {link' : Link τ}
  (r : DriverRelation timing link link')

theorem writeLines (addr : Addr) (lines : Nat) (payload : Bytes) :
    r.host.Rel (Host.writeLines link addr lines payload)
      (Host.writeLines link' addr lines payload) := r.writeWhole false false addr lines payload

theorem writeLinesPacked (addr : Addr) (lines : Nat) (payload : Bytes) :
    r.host.Rel (Host.writeLinesPacked link addr lines payload)
      (Host.writeLinesPacked link' addr lines payload) := r.writeWhole true true addr lines payload

theorem endPhase (phase : Phase) {started started' : Nat} (same : timing.Same started started') :
    r.host.Rel (Host.endPhase link phase started) (Host.endPhase link' phase started') :=
  r.hostNow.bind fun _ _ ended => r.report (timing.phase_eq phase same ended)

theorem reportPiece (direction : Direction) (addr : Addr) (piece : Piece) :
    r.memory.Rel (Memory.reportPiece direction addr piece)
      (Memory.reportPiece direction addr piece) :=
  r.onHost (r.report rfl)

theorem readPiece (addr : Addr) (piece : Piece) :
    r.memory.Rel (Memory.readPiece link addr piece) (Memory.readPiece link' addr piece) := by
  unfold Memory.readPiece
  cases piece.kind with
  | partialLine => exact r.memory.bind (r.onHost (r.readLines _ 1)) fun _ => r.memory.pure _
  | lines => exact r.onHost (r.readLines addr piece.lines)

theorem patchLine (addr : Addr) (data : Bytes) :
    r.host.Rel (Memory.patchLine link addr data) (Memory.patchLine link' addr data) := by
  apply r.host.bind (r.readLines addr.lineBase 1)
  intro line
  apply r.hostNow.bind
  intro started started' same
  apply r.host.bind (r.endPhase .prep same)
  intro _
  exact r.writeLines addr.lineBase 1 _

theorem writePiece (addr : Addr) (piece : Piece) (data : Bytes) :
    r.memory.Rel (Memory.writePiece link addr piece data)
      (Memory.writePiece link' addr piece data) := by
  unfold Memory.writePiece
  cases piece.kind with
  | partialLine => exact r.onHost (r.patchLine addr data)
  | lines =>
    apply r.settings
    intro s t _
    have written := r.onHost (r.writeWhole s.packedWrites t.packedWrites addr piece.lines data)
    cases packed : s.packedWrites <;> cases packed' : t.packedWrites <;>
      rwa [packed, packed'] at written

theorem readFrom (batch : Nat) (addr : Addr) (len : Nat) (report : TransferReport)
    (done : List Bytes) :
    r.memory.Rel (Memory.readFrom link batch addr len report done)
      (Memory.readFrom link' batch addr len report done) := by
  induction addr, len using pieces_induction batch generalizing report done with
  | done addr =>
    rw [Memory.readFrom, if_pos rfl, Memory.readFrom, if_pos rfl]
    exact r.memory.pure _
  | step addr len some ih =>
    rw [Memory.readFrom, if_neg some, Memory.readFrom, if_neg some]
    apply r.memory.bind (r.readPiece addr _)
    intro data
    apply r.memory.bind (r.reportPiece .read addr _)
    intro _
    exact ih _ _

theorem writeFrom (batch : Nat) (addr : Addr) (len : Nat) (data : Bytes)
    (report : TransferReport) :
    r.memory.Rel (Memory.writeFrom link batch addr len data report)
      (Memory.writeFrom link' batch addr len data report) := by
  induction addr, len using pieces_induction batch generalizing data report with
  | done addr =>
    rw [Memory.writeFrom, if_pos rfl, Memory.writeFrom, if_pos rfl]
    exact r.memory.pure _
  | step addr len some ih =>
    rw [Memory.writeFrom, if_neg some, Memory.writeFrom, if_neg some]
    apply r.memory.bind (r.writePiece addr _ _)
    intro _
    apply r.memory.bind (r.reportPiece .write addr _)
    intro _
    exact ih _ _

/-- Accounts agree but for the time that was taken. -/
theorem readReported (addr : Addr) (len : Nat) :
    r.memory.Rel (Prod.map id (TransferReport.retimed timing.shown) <$>
        Memory.readReported link addr len)
      (Prod.map id (TransferReport.retimed timing.shown) <$>
        Memory.readReported link' addr len) := by
  apply r.memoryNow.map
  intro started started' same
  split
  · exact r.memory.pure _
  · apply r.memory.bind_mapped _ (r.memory.ofExcept _)
    intro _
    rw [map_bind, map_bind]
    apply r.settings
    intro s t cut
    rw [TransferSettings.readBatchLines, TransferSettings.readBatchLines, cut.reads]
    apply r.memory.bind_mapped _ (r.readFrom _ addr len _ _)
    rintro ⟨data, report⟩
    apply r.memoryNow.map
    intro ended ended' same'
    simp only [map_pure, Prod.map, TransferReport.retimed, timing.shown_sub same same']
    exact r.memory.pure _

theorem read (addr : Addr) (len : Nat) :
    r.memory.Rel (Memory.read link addr len) (Memory.read link' addr len) :=
  r.memory.bind_map (f := Prod.map id (TransferReport.retimed timing.shown))
    (g := fun moved => Pure.pure moved.1) (k := fun moved => Pure.pure moved.1)
    (r.readReported addr len) fun _ => r.memory.pure _

theorem write (addr : Addr) (data : Bytes) :
    r.memory.Rel (TransferReport.retimed timing.shown <$> Memory.write link addr data)
      (TransferReport.retimed timing.shown <$> Memory.write link' addr data) := by
  apply r.memoryNow.map
  intro started started' same
  split
  · exact r.memory.pure _
  · apply r.memory.bind_mapped _ (r.memory.ofExcept _)
    intro _
    rw [map_bind, map_bind]
    apply r.settings
    intro s t cut
    rw [TransferSettings.writeBatchLines, TransferSettings.writeBatchLines, cut.writes]
    apply r.memory.bind_mapped _ (r.writeFrom _ addr data.length data _)
    intro report
    apply r.memoryNow.map
    intro ended ended' same'
    simp only [map_pure, TransferReport.retimed, timing.shown_sub same same']
    exact r.memory.pure _

/-- A write whose account is not looked at. -/
theorem write_then (addr : Addr) (data : Bytes) {x : Action (Memory σ) α} {y : Action (Memory τ) α}
    (next : r.memory.Rel x y) :
    r.memory.Rel (Memory.write link addr data >>= fun _ => x)
      (Memory.write link' addr data >>= fun _ => y) :=
  r.memory.bind_map (g := fun _ => x) (k := fun _ => y) (r.write addr data) fun _ => next

theorem writeWord (addr : Addr) (value : UInt32) :
    r.memory.Rel (Memory.writeWord link addr value) (Memory.writeWord link' addr value) := by
  apply r.memory.bind (r.memory.ofExcept _)
  intro _
  exact r.write_then addr _ (r.memory.pure ())

theorem verify (addr : Addr) (expected : Bytes) :
    r.memory.Rel (Memory.verify link addr expected) (Memory.verify link' addr expected) := by
  apply r.memory.bind (r.read addr expected.length)
  intro actual
  cases Memory.firstDifference expected actual 0 with
  | none => exact r.memory.pure ()
  | some place => exact r.memory.fail _

theorem memoryCall (call : MemoryCall) :
    r.memory.Rel (CallReply.retimed timing.shown <$> call.perform link)
      (CallReply.retimed timing.shown <$> call.perform link') := by
  cases call with
  | read addr len => exact r.memory.map _ (r.memory.map _ (r.read addr len))
  | write addr data =>
    exact r.memory.map_of (q := CallReply.moved) (fun _ => rfl) (r.write addr data)
  | readWord addr =>
    refine r.memory.map _ (r.memory.map _ ?_)
    apply r.memory.bind (r.memory.ofExcept _)
    intro _
    exact r.memory.bind (r.read addr wordBytes) fun _ => r.memory.pure _
  | writeWord addr value => exact r.memory.map _ (r.memory.map _ (r.writeWord addr value))
  | verify addr expected => exact r.memory.map _ (r.memory.map _ (r.verify addr expected))

theorem writePages (addr : Addr) (pages : List Bytes) :
    r.memory.Rel (Loader.writePages link addr pages) (Loader.writePages link' addr pages) := by
  induction pages generalizing addr with
  | nil => exact r.memory.pure ()
  | cons page rest ih => exact r.write_then addr page (ih _)

theorem loadSegment (verify : Bool) (segment : Segment) :
    r.memory.Rel (Loader.loadSegment link verify segment)
      (Loader.loadSegment link' verify segment) := by
  unfold Loader.loadSegment
  dsimp only
  split
  · exact r.memory.pure 0
  · apply r.memory.bind (r.memory.ofExcept _)
    intro _
    apply r.settings
    intro s t same
    rw [same.pages]
    apply r.memory.bind (r.writePages segment.addr _)
    intro _
    split
    · exact r.memory.bind (r.verify segment.addr _) fun _ => r.memory.pure _
    · exact r.memory.pure _

theorem loadSegments (verify : Bool) (segments : List Segment) (written : Nat) :
    r.memory.Rel (Loader.loadSegments link verify segments written)
      (Loader.loadSegments link' verify segments written) := by
  induction segments generalizing written with
  | nil => exact r.memory.pure written
  | cons segment rest ih => exact r.memory.bind (r.loadSegment verify segment) fun _ => ih _

theorem load (image : Image) (verify : Bool) :
    r.loader.Rel (LoadReport.retimed timing.shown <$> Loader.load link image verify)
      (LoadReport.retimed timing.shown <$> Loader.load link' image verify) := by
  apply r.loaderNow.map
  intro started started' same
  apply r.loader.bind_mapped _ (r.onMemory (r.loadSegments verify image.segments 0))
  intro bytes
  apply r.loader.bind_mapped _ (r.setEntry image.entry)
  intro _
  apply r.loaderNow.map
  intro ended ended' same'
  simp only [map_pure, LoadReport.retimed, timing.shown_sub same same']
  exact r.loader.pure _

theorem writeControl (addr value : UInt32) :
    r.loader.Rel (Loader.writeControl link addr value) (Loader.writeControl link' addr value) :=
  r.onMemory (r.writeWord ⟨addr⟩ value)

theorem halt : r.loader.Rel (Loader.halt link) (Loader.halt link') :=
  r.control fun words _ => r.writeControl words.reset words.hold

theorem startFrom (words : ControlWords) (entry : Option UInt32) :
    r.loader.Rel (Loader.startFrom link words entry) (Loader.startFrom link' words entry) := by
  cases entry with
  | none => exact r.loader.fail .notLoaded
  | some entry =>
    apply r.loader.bind (r.writeControl words.programCounter entry)
    intro _
    apply r.loader.bind (r.writeControl words.reset words.hold)
    intro _
    exact r.writeControl words.reset 0

theorem start : r.loader.Rel (Loader.start link) (Loader.start link') := by
  rw [Loader.start_eq, Loader.start_eq]
  exact r.control r.startFrom

theorem loadAndStart (image : Image) (verify : Bool) :
    r.loader.Rel (LoadReport.retimed timing.shown <$> Loader.loadAndStart link image verify)
      (LoadReport.retimed timing.shown <$> Loader.loadAndStart link' image verify) := by
  rw [Loader.retimed_loadAndStart, Loader.retimed_loadAndStart]
  apply r.loader.bind (r.load image verify)
  intro report
  exact r.loader.bind r.start fun _ => r.loader.pure report

theorem loaderCall (call : LoaderCall) :
    r.loader.Rel (CallReply.retimed timing.shown <$> DriverCall.onLoader link call)
      (CallReply.retimed timing.shown <$> DriverCall.onLoader link' call) := by
  have loaded {x : Action (Loader σ) LoadReport} {y : Action (Loader τ) LoadReport}
      (h : r.loader.Rel (LoadReport.retimed timing.shown <$> x)
        (LoadReport.retimed timing.shown <$> y)) :
      r.loader.Rel (CallReply.retimed timing.shown <$> CallReply.loaded <$> x)
        (CallReply.retimed timing.shown <$> CallReply.loaded <$> y) :=
    r.loader.map_of (q := CallReply.loaded) (fun _ => rfl) h
  cases call with
  | load image verify => exact loaded (r.load image verify)
  | start => exact r.loader.map _ (r.loader.map _ r.start)
  | halt => exact r.loader.map _ (r.loader.map _ r.halt)
  | loadAndStart image verify => exact loaded (r.loadAndStart image verify)

theorem hostCall (call : HostCall)
    (abort : call = .abort → r.host.Rel (Host.abort link) (Host.abort link')) :
    r.host.Rel (DriverCall.onHost link call) (DriverCall.onHost link' call) := by
  cases call with
  | readLines addr lines => exact r.host.map _ (r.readLines addr lines)
  | writeLines addr lines payload => exact r.host.map _ (r.writeLines addr lines payload)
  | writeLinesPacked addr lines payload =>
    exact r.host.map _ (r.writeLinesPacked addr lines payload)
  | abort => exact r.host.map _ (abort rfl)

/-- Giving a transaction up is the one thing that a driver does to its link outside of them. -/
theorem driverCall (call : DriverCall)
    (abort : call = .host .abort → r.host.Rel (Host.abort link) (Host.abort link')) :
    r.loader.Rel (CallReply.retimed timing.shown <$> call.perform link)
      (CallReply.retimed timing.shown <$> call.perform link') := by
  cases call with
  | host call =>
    exact r.loader.map _
      (r.onMemory (r.onHost (r.hostCall call fun same => abort (congrArg _ same))))
  | memory call =>
    have performed := r.onMemory (r.memoryCall call)
    rwa [Loader.onMemory, Loader.onMemory, ← Action.map_on, ← Action.map_on] at performed
  | loader call => exact r.loaderCall call

/-- What a driver offers besides its calls, it passes on to its parts. -/
theorem driverUse (use : DriverUse)
    (abort : r.host.Rel (Host.abort link) (Host.abort link'))
    (bulkRead : ∀ len, r.host.Rel (Host.bulkRead link len) (Host.bulkRead link' len))
    (bulkWrite : ∀ data, r.host.Rel (Host.bulkWrite link data) (Host.bulkWrite link' data))
    (pollRegister : ∀ reg expected, r.host.Rel (Host.pollRegister link reg expected)
      (Host.pollRegister link' reg expected))
    (pollWithin : ∀ reg expected limits, r.host.Rel (Host.pollWithin link reg expected limits)
      (Host.pollWithin link' reg expected limits)) :
    r.loader.Rel (UseReply.retimed timing.shown <$> use.perform link)
      (UseReply.retimed timing.shown <$> use.perform link') := by
  have onHost {α : Type} {x : Action (Host σ) α} {y : Action (Host τ) α} (h : r.host.Rel x y)
      (f : α → UseReply) : r.loader.Rel
        (UseReply.retimed timing.shown <$> f <$> Loader.onMemory (Memory.onHost x))
        (UseReply.retimed timing.shown <$> f <$> Loader.onMemory (Memory.onHost y)) :=
    r.loader.map _ (r.loader.map f (r.onMemory (r.onHost h)))
  cases use with
  | call made =>
    exact r.loader.map_of (q := UseReply.answered) (fun _ => rfl) (r.driverCall made fun _ => abort)
  | readReported addr len =>
    have reported := r.onMemory (r.readReported addr len)
    rw [Loader.onMemory, Loader.onMemory, ← Action.map_on, ← Action.map_on] at reported
    exact r.loader.map_of (q := fun moved => UseReply.account moved.1 moved.2) (fun _ => rfl)
      reported
  | readLine addr => exact onHost (r.readLines addr 1) _
  | bulkRead len => exact onHost (bulkRead len) _
  | bulkWrite data => exact onHost (bulkWrite data) _
  | pollRegister reg expected => exact onHost (pollRegister reg expected) _
  | pollWithin reg expected limits => exact onHost (pollWithin reg expected limits) _

section Exact

variable (r : DriverRelation .exact link link')

/-- Where the clocks show the same, so do the answers. -/
theorem loaderCall_exact (call : LoaderCall) :
    r.loader.Rel (DriverCall.onLoader link call) (DriverCall.onLoader link' call) := by
  have related := r.loaderCall call
  rwa [show Timing.exact.shown = id from rfl, CallReply.retimed_id, id_map, id_map] at related

theorem driverCall_exact (call : DriverCall)
    (abort : call = .host .abort → r.host.Rel (Host.abort link) (Host.abort link')) :
    r.loader.Rel (call.perform link) (call.perform link') := by
  have related := r.driverCall call abort
  rwa [show Timing.exact.shown = id from rfl, CallReply.retimed_id, id_map, id_map] at related

theorem driverUse_exact (use : DriverUse)
    (abort : r.host.Rel (Host.abort link) (Host.abort link'))
    (bulkRead : ∀ len, r.host.Rel (Host.bulkRead link len) (Host.bulkRead link' len))
    (bulkWrite : ∀ data, r.host.Rel (Host.bulkWrite link data) (Host.bulkWrite link' data))
    (pollRegister : ∀ reg expected, r.host.Rel (Host.pollRegister link reg expected)
      (Host.pollRegister link' reg expected))
    (pollWithin : ∀ reg expected limits, r.host.Rel (Host.pollWithin link reg expected limits)
      (Host.pollWithin link' reg expected limits)) :
    r.loader.Rel (use.perform link) (use.perform link') := by
  have related := r.driverUse use abort bulkRead bulkWrite pollRegister pollWithin
  rwa [show Timing.exact.shown = id from rfl, UseReply.retimed_id, id_map, id_map] at related

end Exact

end DriverRelation

end LineBridge
