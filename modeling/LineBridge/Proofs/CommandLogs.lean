import Mathlib
import LineBridge.Proofs.Sequences
import LineBridge.Proofs.Transactions

/-! What a device logs while a host goes through a transaction. Only the command register adds to
the log, and what it adds depends on the address and length registers; every other access leaves
both alone. A transaction that goes through leaves its start there with the command that clears
it right behind; one that breaks off leaves its start alone, or nothing. -/

namespace LineBridge

open LineBridge.Action (Ends Preserves)

variable {σ α β : Type} {view : σ → Device}

/-- What the next command would be about, and the commands that have been logged, the newest
first. -/
structure Docket where
  addr : Addr
  lines : Nat
  commands : List CommandEntry

/-- The docket when a command has been logged. -/
def Docket.log (b : Docket) (c : Command) : Docket :=
  { b with commands := ⟨c, b.addr, b.lines⟩ :: b.commands }

namespace Device

def docket (d : Device) : Docket := ⟨d.address, d.lines, d.commands⟩

/-- The registers that say what a command is about. -/
def subject : List UInt8 := Register.address ++ [Register.lenLo, Register.lenHi]

section States

variable (d : Device) {reg : UInt8}

theorem docket_setRegister (answers : Answers reg) (other : reg ∉ subject) (value : UInt8) :
    (d.setRegister reg value).docket = d.docket := by
  have same : ∀ r ∈ subject, (d.setRegister reg value).register r = d.register r := by
    intro r member
    rw [register_setRegister d answers, if_neg (ne_of_mem_of_not_mem member other).symm]
  have address : (d.setRegister reg value).address = d.address := by
    have held : Register.address.map (d.setRegister reg value).register =
        Register.address.map d.register :=
      List.map_congr_left fun r member => same r (List.mem_append_left _ member)
    rw [Device.address, held, Device.address]
  have lines : (d.setRegister reg value).lines = d.lines := by
    rw [Device.lines, same _ (by decide), same _ (by decide), Device.lines]
  rw [docket, address, lines]
  rfl

theorem docket_setStatus (status : IsStatus reg) (value : Status) :
    (d.setStatus reg value).docket = d.docket := by
  rcases status with rfl | rfl
  · exact d.docket_setRegister (by decide) (by decide) _
  · exact d.docket_setRegister (by decide) (by decide) _

theorem docket_setWait (reads : Nat) : (d.setWait reg reads).docket = d.docket := by
  unfold setWait
  split <;> rfl

theorem docket_complete (status : IsStatus reg) : (d.complete reg).docket = d.docket := by
  rw [complete, docket_setWait, docket_setStatus _ status]

theorem docket_clear : d.clear.docket = d.docket :=
  (docket_setStatus _ (.inr rfl) .idle).trans (d.docket_setStatus (.inl rfl) .idle)

theorem docket_startRead : d.startRead.docket = d.docket := by
  simp only [startRead]
  split
  · exact docket_complete _ (.inl rfl)
  · exact d.docket_setStatus (.inl rfl) .error

theorem docket_startWrite : d.startWrite.docket = d.docket := by
  simp only [startWrite]
  split
  · exact docket_complete _ (.inr rfl)
  · exact docket_setStatus _ (.inr rfl) .error

theorem docket_commanded (c : Command) : (d.commanded c).docket = d.docket.log c := by
  rw [docket, address_commanded, lines_commanded]
  rfl

/-- A command is logged with what it is about. -/
theorem docket_afterWrite_cmd (c : Command) :
    (d.afterWrite Register.cmd c.code).docket = d.docket.log c := by
  rw [afterWrite_cmd, ← docket_commanded]
  cases c with
  | null => exact docket_clear _
  | readStart => exact docket_startRead _
  | writeStart => exact docket_startWrite _

theorem docket_readStatus (status : IsStatus reg) : (d.readStatus reg).2.docket = d.docket := by
  unfold readStatus
  split
  · rfl
  · split
    · rfl
    · exact (docket_setStatus _ status .done).trans (d.docket_setWait 0)
    · exact d.docket_setWait _

theorem docket_afterRead (reg : UInt8) : (d.afterRead reg).2.docket = d.docket := by
  unfold afterRead
  split_ifs with status
  · exact d.docket_readStatus status
  · unfold readCountLo
    split <;> rfl
  · rfl
  · rfl
  · rfl

/-- Programming says what the next command is about. -/
theorem docket_programming (addr : Addr) (field : UInt16) :
    (d.stored (programming addr field)).docket = ⟨addr, field.toNat + 1, d.commands⟩ := by
  obtain ⟨registers, same⟩ := d.rewritten_stored (programming addr field)
  rw [docket, address_programming, lines_programming, same]

end States

end Device

/-- A computation that leaves the docket of the device behind it alone, however it ends. -/
def Unlogged (view : σ → Device) (x : Action σ α) : Prop :=
  ∀ b, Preserves (fun s => (view s).docket = b) (fun _ s => (view s).docket = b) x

theorem Passes.unlogged {x : Action σ α} {y : Action Device α} (passes : Passes view False x y)
    (same : ∀ d, (y.run d).2.docket = d.docket) : Unlogged view x := by
  intro b s before
  have after : (view (x.run s).2).docket = b := by
    rcases passes s with ⟨-, seen⟩ | ⟨lost, -⟩
    · rw [seen, same, before]
    · exact lost.elim
  cases run : x.run s with
  | mk outcome s' =>
    rw [run] at after
    cases outcome with
    | ok a => exact after
    | error e => exact after

namespace Channel.Fronts

variable {channel : Channel σ} (fronts : channel.Fronts view False)
include fronts

theorem readRegister_unlogged (reg : UInt8) : Unlogged view (channel.readRegister reg) := by
  refine (fronts.readRegister reg).unlogged fun d => ?_
  unfold Device.readRegister
  split
  · exact d.docket_afterRead reg
  · rfl

theorem poll_unlogged {read : Action σ α} (reads : Unlogged view read) (limits : PollLimits)
    (accept : α → Bool) : Unlogged view (poll channel.clock limits read accept) := by
  refine fun b => (reads b).poll (fun length s same => ?_) limits accept
  rw [fronts.pause]
  exact same

theorem readPair_unlogged (lo : UInt8) : Unlogged view (channel.readPair lo) :=
  fun b => Channel.readPair_preserves (fun reg => fronts.readRegister_unlogged reg b)
    fun _ _ same => same

theorem announce_unlogged (field : UInt16) :
    Unlogged view (channel.writePair Register.bulkLenLo field) := by
  have announces {reg : UInt8} (plain : Device.Plain reg) (other : reg ∉ Device.subject)
      (value : UInt8) : Unlogged view (channel.writeRegister reg value) := by
    refine (fronts.writeRegister reg value).unlogged fun d => ?_
    rw [Device.writeRegister, if_pos plain.answers]
    show (d.afterWrite reg value).docket = d.docket
    rw [plain.afterWrite]
    exact d.docket_setRegister plain.answers other value
  intro b
  exact (announces (by decide) (by decide) _ b).bind fun _ =>
    announces (by decide) (by decide) _ b

theorem readBulk_unlogged (count : Nat) : Unlogged view (channel.readBulk count) := by
  refine (fronts.readBulk count).unlogged fun d => ?_
  show ((Device.readBulk count) d).2.docket = d.docket
  unfold Device.readBulk
  dsimp only
  split <;> rfl

theorem writeBulk_unlogged (data : Bytes) : Unlogged view (channel.writeBulk data) :=
  (fronts.writeBulk data).unlogged fun _ => rfl

end Channel.Fronts

theorem Action.Ends.of_exists {κ : Type} {P : κ → σ → Prop} {x : Action σ α} {Q : α → σ → Prop}
    {E : Fault → σ → Prop} (h : ∀ k, Ends (P k) x Q E) : Ends (fun s => ∃ k, P k s) x Q E :=
  fun s ⟨k, before⟩ => h k s before

namespace Host

/-- A host that keeps its events, with these so far, in front of a device with that docket. -/
structure Stands (view : σ → Device) (b : Docket) (events : List Event) (h : Host σ) : Prop where
  docket : (view h.state).docket = b
  events : h.events = events
  observed : h.observed = true

section Stages

variable {channel : Channel σ} {b : Docket} {events : List Event}

theorem onLink_stands {x : Action σ α} (unlogged : Unlogged view x) :
    Preserves (Stands view b events) (fun _ => Stands view b events) (onLink x) := by
  intro h before
  have ending := unlogged b h.state before.docket
  rw [run_onLink]
  cases run : x.run h.state with
  | mk outcome s =>
    rw [run] at ending
    cases outcome with
    | ok a => exact ⟨ending, before.events, before.observed⟩
    | error e => exact ⟨ending, before.events, before.observed⟩

/-- What never fails may change the docket. -/
theorem onLink_moves {x : Action σ α} {b' : Docket}
    (moves : Ends (fun s => (view s).docket = b) x (fun _ s => (view s).docket = b')
      fun _ _ => False) :
    Ends (Stands view b events) (onLink x) (fun _ => Stands view b' events) fun _ _ => False := by
  intro h before
  obtain ⟨a, s, ran, after⟩ := moves.exists_ok before.docket
  rw [run_onLink, ran]
  exact ⟨after, before.events, before.observed⟩

theorem now_stands (link : Link σ) {E : Fault → Host σ → Prop} :
    Ends (Stands view b events) (now link) (fun _ => Stands view b events) E :=
  fun _ before => before

theorem setInFlight_stands (addr : Option Addr) {E : Fault → Host σ → Prop} :
    Ends (Stands view b events) (setInFlight addr) (fun _ => Stands view b events) E :=
  Ends.modify fun _ before => ⟨before.docket, before.events, before.observed⟩

theorem endPhase_stands (link : Link σ) (phase : Phase) (started : Nat)
    {E : Fault → Host σ → Prop} :
    Ends (Stands view b events) (endPhase link phase started)
      (fun _ h => ∃ elapsed, Stands view b (.phase phase elapsed :: events) h) E := by
  intro h before
  refine ⟨link.clock.now h.state - started, ?_⟩
  show Stands view b _ (if h.observed then _ else h)
  rw [if_pos before.observed]
  exact ⟨before.docket, congrArg (_ :: ·) before.events, before.observed⟩

variable (fronts : channel.Fronts view False)
include fronts

theorem waitDone_stands (reg : UInt8) (addr : Addr) :
    Preserves (Stands view b events) (fun _ => Stands view b events)
      (waitDone channel.link reg addr) := by
  apply Ends.get_then
  intro h _
  apply (onLink_stands (fronts.poll_unlogged (fronts.readRegister_unlogged reg) _ _)).bind
  intro outcome
  cases outcome with
  | ready value attempts => exact .pure ()
  | exhausted last attempts =>
    dsimp only
    split
    · exact Ends.fail fun _ before => before
    · exact Ends.fail fun _ before => before

theorem waitCount_stands (addr : Addr) (expected : Nat) :
    Preserves (Stands view b events) (fun _ => Stands view b events)
      (waitCount channel.link addr expected) := by
  apply Ends.get_then
  intro h _
  apply (onLink_stands (fronts.poll_unlogged (fronts.readPair_unlogged _) _ _)).bind
  intro outcome
  dsimp only
  split
  · exact .pure ()
  · split
    · exact Ends.fail fun _ before => before
    · exact Ends.fail fun _ before => before

theorem bulkRead_stands (len : Nat) :
    Preserves (Stands view b events) (fun _ => Stands view b events)
      (bulkRead channel.link len) := by
  apply Ends.bind (Ends.ofExcept (fun _ _ _ before => before) fun _ _ _ before => before)
  intro field
  split
  · exact Ends.pure fun _ before => before
  · apply (onLink_stands (fronts.announce_unlogged field)).bind
    intro _
    apply (onLink_stands (fronts.readBulk_unlogged len)).bind
    intro data
    split
    · exact .pure _
    · exact Ends.get_then fun _ _ => Ends.fail fun _ before => before

theorem bulkWrite_stands (data : Bytes) :
    Preserves (Stands view b events) (fun _ => Stands view b events)
      (bulkWrite channel.link data) := by
  apply Ends.bind (Ends.ofExcept (fun _ _ _ before => before) fun _ _ _ before => before)
  intro field
  split
  · exact Ends.pure fun _ before => before
  · apply (onLink_stands (fronts.announce_unlogged field)).bind
    exact fun _ => onLink_stands (fronts.writeBulk_unlogged data)

theorem program_stands (addr : Addr) {field : UInt16} {lines : Nat}
    (means : field.toNat + 1 = lines) :
    Ends (Stands view b events) (program channel.link addr field)
      (fun _ => Stands view ⟨addr, lines, b.commands⟩ events) fun _ _ => False := by
  subst means
  have plain : ∀ write ∈ Channel.addressWrites addr, Device.Plain write.1 :=
    fun _ member => Device.plain_of_mem_addressWrites member
  have places : Ends (fun s => (view s).docket = b)
      (do
        channel.writeEach (Channel.addressWrites addr)
        channel.writePair Register.lenLo field)
      (fun _ s => (view s).docket = ⟨addr, field.toNat + 1, b.commands⟩) fun _ _ => False := by
    intro s before
    have first := (fronts.writeEach_ends plain (view s)).onFault fun _ _ after => after.1
    have last (d : Device) := (fronts.writePair_ends Register.lenLo (by decide) (by decide) field
      d).onFault fun _ _ after => after.1
    refine ((first.bind fun _ => last _).onValue ?_) s rfl
    intro _ s' after
    rw [after, ← before]
    exact (congrArg Device.docket (Device.stored_append _ _ _).symm).trans
      ((view s).docket_programming addr field)
  apply Ends.bind (setInFlight_stands (some addr))
  intro _
  rw [← onLink_bind]
  exact onLink_moves places

theorem command_stands (c : Command) :
    Ends (Stands view b events) (command channel.link c)
      (fun _ => Stands view (b.log c) events) fun _ _ => False := by
  refine onLink_moves fun s before => ?_
  have answers : Device.Answers Register.cmd := by decide
  have told := (fronts.writeRegister_ends answers c.code (view s)).onFault fun _ _ after => after.1
  refine told.onValue ?_ s rfl
  intro _ s' after
  rw [after, Device.docket_afterWrite_cmd, before]

theorem finish_stands :
    Ends (Stands view b events) (finish channel.link)
      (fun _ => Stands view (b.log .null) events) fun _ _ => False := by
  apply Ends.bind (command_stands fronts .null)
  intro _
  apply Ends.get_then
  intro h _
  split
  · have idles : Ends (fun s => (view s).docket = b.log .null) (channel.idleClock h.idleCycles)
        (fun _ s => (view s).docket = b.log .null) fun _ _ => False := by
      intro s before
      have idle := (fronts.idleClock_ends h.idleCycles (view s)).onFault fun _ _ after => after.1
      refine idle.onValue ?_ s rfl
      intro _ s' after
      rw [after, ← before]
      rfl
    exact Ends.bind (onLink_moves idles) fun _ => setInFlight_stands none
  · exact setInFlight_stands none

/-- A read of lines that goes through is started and cleared, and it reports both. -/
theorem readLines_stands (addr : Addr) (lines : Nat) :
    Ends (Stands view b events) (readLines channel.link addr lines)
      (fun _ h => ∃ drained acknowledged, Stands view
        (((⟨addr, lines, b.commands⟩ : Docket).log .readStart).log .null)
        (.phase .ack acknowledged :: .phase .read drained :: events) h)
      (fun _ h => Stands view b events h ∨
        Stands view ((⟨addr, lines, b.commands⟩ : Docket).log .readStart) events h) := by
  unfold readLines
  cases checked : checkLines addr lines with
  | error e => exact fun _ before => .inl before
  | ok field =>
    obtain ⟨valid, rfl⟩ := checkLines_eq_ok_iff.mp checked
    apply Ends.ofExcept_ok
    apply Ends.bind (now_stands channel.link)
    intro started
    apply Ends.bind ((program_stands fronts addr valid.toNat_field).onFault fun _ _ no => no.elim)
    intro _
    apply Ends.bind ((command_stands fronts .readStart).onFault fun _ _ no => no.elim)
    intro _
    apply Ends.bind ((waitDone_stands fronts _ addr).onFault fun _ _ after => .inr after)
    intro _
    apply Ends.bind ((waitCount_stands fronts addr _).onFault fun _ _ after => .inr after)
    intro _
    apply Ends.bind ((bulkRead_stands fronts _).onFault fun _ _ after => .inr after)
    intro data
    apply Ends.bind (endPhase_stands channel.link .read started)
    intro _
    apply Ends.of_exists
    intro drained
    apply Ends.bind (now_stands channel.link)
    intro ended
    apply Ends.bind ((finish_stands fronts).onFault fun _ _ no => no.elim)
    intro _
    apply Ends.bind (endPhase_stands channel.link .ack ended)
    intro _
    exact Ends.pure fun h ⟨acknowledged, after⟩ => ⟨drained, acknowledged, after⟩

/-- A write of lines that breaks off may have been started all the same. -/
theorem writeLines_stands (addr : Addr) (lines : Nat) (payload : Bytes) :
    Ends (Stands view b events) (writeLines channel.link addr lines payload)
      (fun _ h => ∃ written acknowledged, Stands view
        (((⟨addr, lines, b.commands⟩ : Docket).log .writeStart).log .null)
        (.phase .ack acknowledged :: .phase .write written :: events) h)
      (fun _ h => (∃ b' : Docket, b'.commands = b.commands ∧ Stands view b' events h) ∨
        ∃ written, Stands view ((⟨addr, lines, b.commands⟩ : Docket).log .writeStart)
          (.phase .write written :: events) h) := by
  unfold writeLines
  cases checked : checkLines addr lines with
  | error e => exact fun _ before => .inl ⟨b, rfl, before⟩
  | ok field =>
    obtain ⟨valid, rfl⟩ := checkLines_eq_ok_iff.mp checked
    apply Ends.ofExcept_ok
    apply Ends.bind (Ends.ofExcept (fun _ _ _ before => before)
      fun _ _ _ before => .inl ⟨b, rfl, before⟩)
    intro _
    apply Ends.bind (now_stands channel.link)
    intro started
    apply Ends.bind ((program_stands fronts addr valid.toNat_field).onFault fun _ _ no => no.elim)
    intro _
    apply Ends.bind ((bulkWrite_stands fronts payload).onFault
      fun _ _ after => .inl ⟨⟨addr, lines, b.commands⟩, rfl, after⟩)
    intro _
    apply Ends.bind ((command_stands fronts .writeStart).onFault fun _ _ no => no.elim)
    intro _
    apply Ends.bind (endPhase_stands channel.link .write started)
    intro _
    apply Ends.of_exists
    intro written
    apply Ends.bind (now_stands channel.link)
    intro issued
    apply Ends.bind ((waitDone_stands fronts _ addr).onFault
      fun _ _ after => .inr ⟨written, after⟩)
    intro _
    apply Ends.bind ((finish_stands fronts).onFault fun _ _ no => no.elim)
    intro _
    refine (endPhase_stands channel.link .ack issued).onValue ?_
    exact fun _ _ ⟨acknowledged, after⟩ => ⟨written, acknowledged, after⟩

end Stages

end Host

end LineBridge
