import Mathlib
import LineBridge.Bench.Probe
import LineBridge.Bench.Script
import LineBridge.Proofs.DriverRelation
import LineBridge.Proofs.Emission
import LineBridge.Proofs.MirroredCalls
import LineBridge.Proofs.Transactions
import LineBridge.Settings.Basic

/-! The discipline of a driver on a channel. Whatever the channel answers and whichever of its
accesses fail, the accesses that a driver makes are transactions of two shapes, one behind the
other; a call that fails leaves off within one of them. -/

namespace LineBridge

open Computability
open LineBridge.Action (Emits)
open LineBridge.Bench (Access Probed Script)

variable {σ α : Type}

namespace Bench

/-- An access without what it answered. -/
def Access.asked : Access → Access
  | .read reg _ => .read reg none
  | .readBulk count _ => .readBulk count none
  | access => access

/-- The accesses made so far, oldest first. -/
def Probed.asked (p : Probed σ) : List Access := (p.trace.map Access.asked).reverse

end Bench

/-- A transfer that the registers can describe, with the number of reads of each wait. -/
inductive Transaction where
  | read (addr : Addr) (lines statusReads countReads : Nat) (valid : Host.Addressable addr lines)
    (waited : 0 < statusReads) (filled : 0 < countReads)
  | write (addr : Addr) (lines : Nat) (payload : Bytes) (statusReads : Nat)
    (valid : Host.Writable addr lines payload) (waited : 0 < statusReads)

namespace Transaction

def stores (writes : List (UInt8 × UInt8)) : List Access :=
  writes.map fun write => .write write.1 write.2

def command (c : Command) : List Access := [.write Register.cmd c.code]

def status (reg : UInt8) : List Access := [.read reg none]

def count : List Access := [.read Register.countLo none, .read (Register.countLo + 1) none]

/-- The same reads again and again. -/
def polls (reads : List Access) (n : Nat) : List Access := (List.replicate n reads).flatten

/-- The accesses of a wait. -/
abbrev waiting (reads : List Access) : Language Access := {reads} * ({reads} : Language Access)∗

theorem mem_waiting {reads word : List Access} :
    word ∈ waiting reads ↔ ∃ n, 0 < n ∧ word = polls reads n := mem_singleton_mul_kstar

theorem exists_mem_waiting (reads : List Access) : ∃ word, word ∈ waiting reads :=
  exists_mem_mul_kstar ⟨_, rfl⟩

def finishing (idleCycles : UInt32) : List Access :=
  command .null ++ if 0 < idleCycles then [.idle idleCycles] else []

/-- Address and length field. -/
def programming (addr : Addr) (lines : Nat) : List Access :=
  stores (Device.programming addr (UInt16.ofNat (lines - 1)))

/-- The accesses of a transaction on a host with that many idle clocks. -/
def accesses (idleCycles : UInt32) : Transaction → List Access
  | read addr lines statusReads countReads _ _ _ =>
    programming addr lines ++ command .readStart ++
      polls (status Register.status) statusReads ++ polls count countReads ++
      stores (Device.announcing (lines * lineBytes)) ++ [.readBulk (lines * lineBytes) none] ++
      finishing idleCycles
  | write addr lines payload statusReads _ _ =>
    programming addr lines ++ stores (Device.announcing payload.length) ++ [.writeBulk payload] ++
      command .writeStart ++ polls (status Register.writeStatus) statusReads ++
      finishing idleCycles

example (valid : Host.Addressable ⟨0x40⟩ 1) :
    (read ⟨0x40⟩ 1 2 1 valid Nat.two_pos Nat.one_pos).accesses 3 =
      [.write 0 0x40, .write 1 0, .write 2 0, .write 3 0, .write 4 0, .write 5 0, .write 6 1,
        .read 7 none, .read 7 none, .read 9 none, .read 10 none, .write 11 16, .write 12 0,
        .readBulk 16 none, .write 6 0, .idle 3] := rfl

/-- What a call at the line interface asks for. -/
inductive Answers : Transaction → HostCall → Prop where
  | read {addr lines m n valid waited filled} :
    Answers (read addr lines m n valid waited filled) (.readLines addr lines)
  | write {addr lines payload m valid waited} :
    Answers (write addr lines payload m valid waited) (.writeLines addr lines payload)
  | packed {addr lines payload m valid waited} :
    Answers (write addr lines payload m valid waited) (.writeLinesPacked addr lines payload)

def language (idleCycles : UInt32) : Language Access := Set.range (accesses idleCycles)

end Transaction

/-- The accesses that answer a call. No call that is to be refused has any. -/
def HostCall.language (idleCycles : UInt32) (call : HostCall) : Language Access :=
  {word | ∃ t : Transaction, t.Answers call ∧ t.accesses idleCycles = word}

theorem HostCall.language_le (idleCycles : UInt32) (call : HostCall) :
    call.language idleCycles ≤ Transaction.language idleCycles := by
  rintro word ⟨t, -, rfl⟩
  exact ⟨t, rfl⟩

theorem HostCall.language_writeLines_le (idleCycles : UInt32) (addr : Addr) (lines : Nat)
    (payload : Bytes) : (writeLines addr lines payload).language idleCycles ≤
      (writeLinesPacked addr lines payload).language idleCycles := by
  rintro word ⟨t, answers, rfl⟩
  cases answers
  exact ⟨_, .packed, rfl⟩

namespace Transaction

theorem reads_le {addr : Addr} {lines : Nat} (valid : Host.Addressable addr lines)
    (idleCycles : UInt32) :
    {programming addr lines ++ command .readStart} *
      (waiting (status Register.status) * waiting count *
        {stores (Device.announcing (lines * lineBytes)) ++ [.readBulk (lines * lineBytes) none] ++
          finishing idleCycles}) ≤ (HostCall.readLines addr lines).language idleCycles := by
  intro word member
  obtain ⟨start, rfl, rest, later, rfl⟩ := Language.mem_mul.mp member
  obtain ⟨waits, both, drain, rfl, rfl⟩ := Language.mem_mul.mp later
  obtain ⟨done, first, filled, second, rfl⟩ := Language.mem_mul.mp both
  obtain ⟨m, once, rfl⟩ := mem_waiting.mp first
  obtain ⟨n, some, rfl⟩ := mem_waiting.mp second
  refine ⟨.read addr lines m n valid once some, .read, ?_⟩
  simp only [accesses, List.append_assoc]

theorem writes_le {addr : Addr} {lines : Nat} {payload : Bytes}
    (valid : Host.Writable addr lines payload) (idleCycles : UInt32) :
    {programming addr lines} *
      ({stores (Device.announcing payload.length) ++ [.writeBulk payload]} *
        ({command .writeStart} *
          (waiting (status Register.writeStatus) * {finishing idleCycles}))) ≤
      (HostCall.writeLines addr lines payload).language idleCycles := by
  intro word member
  obtain ⟨place, rfl, rest, issued, rfl⟩ := Language.mem_mul.mp member
  obtain ⟨bytes, rfl, rest, started, rfl⟩ := Language.mem_mul.mp issued
  obtain ⟨start, rfl, rest, waited, rfl⟩ := Language.mem_mul.mp started
  obtain ⟨done, reads, finish, rfl, rfl⟩ := Language.mem_mul.mp waited
  obtain ⟨m, once, rfl⟩ := mem_waiting.mp reads
  refine ⟨.write addr lines payload m valid once, .write, ?_⟩
  simp only [accesses, List.append_assoc]

end Transaction

open Transaction

namespace Bench.Probed

variable {inner : Channel σ}

/-- Nothing is cut off. -/
def Uncut (p : Probed σ) : Prop := p.cutAt = none

theorem through_emits {x : Action σ α} {note : Option α → Access} {access : Access}
    (noted : ∀ answer, (note answer).asked = access) :
    Emits asked Uncut (through x note) {[access]} := by
  intro p uncut
  have passed : ¬p.cutAt = some p.accesses := by
    rw [show p.cutAt = none from uncut]
    exact Option.some_ne_none _ ∘ Eq.symm
  simp only [Action.run, through, if_neg passed]
  refine ⟨uncut, [access], ?_, ?_⟩
  · simp [asked, noted]
  · cases (x p.inner).1 with
    | ok a => rfl
    | error e => exact .inr ⟨[], rfl⟩

theorem writeRegister_emits (reg value : UInt8) :
    Emits asked Uncut ((channel inner).writeRegister reg value) {[.write reg value]} :=
  through_emits fun _ => rfl

theorem readRegister_emits (reg : UInt8) :
    Emits asked Uncut ((channel inner).readRegister reg) {status reg} :=
  through_emits fun _ => rfl

theorem writeBulk_emits (data : Bytes) :
    Emits asked Uncut ((channel inner).writeBulk data) {[.writeBulk data]} :=
  through_emits fun _ => rfl

theorem readBulk_emits (count : Nat) :
    Emits asked Uncut ((channel inner).readBulk count) {[.readBulk count none]} :=
  through_emits fun _ => rfl

theorem idleClock_emits (cycles : UInt32) :
    Emits asked Uncut ((channel inner).idleClock cycles) {[.idle cycles]} :=
  through_emits fun _ => rfl

theorem writeEach_emits (writes : List (UInt8 × UInt8)) :
    Emits asked Uncut ((channel inner).writeEach writes) {stores writes} := by
  induction writes with
  | nil => exact Emits.pure ()
  | cons write rest ih => exact (writeRegister_emits write.1 write.2).word_bind fun _ => ih

theorem writePair_emits {lo : UInt8} (inside : lo ≠ 0xFF) (value : UInt16) :
    Emits asked Uncut ((channel inner).writePair lo value)
      {stores [(lo, lowByte value), (lo + 1, highByte value)]} := by
  rw [Channel.writePair_eq _ inside]
  exact (writeRegister_emits lo _).word_bind fun _ => writeRegister_emits (lo + 1) _

theorem readCount_emits :
    Emits asked Uncut ((channel inner).readPair Register.countLo) {count} := by
  rw [Channel.readPair_eq _ (by decide)]
  exact (readRegister_emits Register.countLo).word_bind fun _ =>
    (readRegister_emits (Register.countLo + 1)).bind_silent fun _ => Emits.pure _

theorem poll_emits {read : Action (Probed σ) α} {reads : List Access}
    (once : Emits asked Uncut read {reads}) (limits : PollLimits) (accept : α → Bool) :
    Emits asked Uncut (poll (channel inner).clock limits read accept)
      (waiting reads) :=
  Action.poll_emits once (fun _ _ uncut => uncut) (fun _ _ => rfl) limits accept

end Bench.Probed

namespace Host

variable {inner : Channel σ} {cycles : UInt32}

def asked (h : Host (Probed σ)) : List Access := h.state.asked

/-- A host with that many idle clocks, on a link where nothing is cut off. -/
structure Steady (cycles : UInt32) (h : Host (Probed σ)) : Prop where
  uncut : h.state.Uncut
  cycles : h.idleCycles = cycles

theorem onLink_emits {x : Action (Probed σ) α} {L : Language Access}
    (h : Emits Probed.asked Probed.Uncut x L) : Emits asked (Steady cycles) (onLink x) L :=
  h.on (fun _ steady => steady.uncut) (fun _ _ => rfl) fun _ _ steady uncut =>
    ⟨uncut, steady.cycles⟩

theorem now_emits : Emits asked (Steady cycles) (now (Probed.channel inner).link) 1 :=
  fun _ steady => ⟨steady, [], (List.append_nil _).symm, Language.nil_mem_one⟩

theorem report_emits (event : Event) :
    Emits asked (Steady (σ := σ) cycles) (report event) 1 := by
  apply Emits.modify
  · intro h steady
    split
    · exact ⟨steady.uncut, steady.cycles⟩
    · exact steady
  · intro h
    split
    · rfl
    · rfl

theorem setInFlight_emits (addr : Option Addr) :
    Emits asked (Steady (σ := σ) cycles) (setInFlight addr) 1 :=
  Emits.modify (fun _ steady => ⟨steady.uncut, steady.cycles⟩) fun _ => rfl

theorem endPhase_emits (phase : Phase) (started : Nat) :
    Emits asked (Steady cycles) (endPhase (Probed.channel inner).link phase started) 1 :=
  now_emits.bind_silent fun _ => report_emits _

theorem command_emits (c : Command) :
    Emits asked (Steady cycles) (command (Probed.channel inner).link c) {Transaction.command c} :=
  onLink_emits (Probed.writeRegister_emits _ _)

theorem program_emits (addr : Addr) (lines : Nat) :
    Emits asked (Steady cycles)
      (program (Probed.channel inner).link addr (UInt16.ofNat (lines - 1)))
      {programming addr lines} := by
  refine (setInFlight_emits _).silent_bind fun _ => ?_
  rw [programming, Device.programming, stores, List.map_append]
  exact (onLink_emits (Probed.writeEach_emits _)).word_bind fun _ =>
    onLink_emits (Probed.writePair_emits (by decide) _)

theorem finish_emits :
    Emits asked (Steady cycles) (finish (Probed.channel inner).link) {finishing cycles} := by
  apply (command_emits .null).word_bind
  intro _
  apply Emits.get_then
  intro h steady
  rw [steady.cycles]
  split
  · exact (onLink_emits (Probed.idleClock_emits cycles)).bind_silent fun _ => setInFlight_emits _
  · exact setInFlight_emits none

theorem waitDone_emits (reg : UInt8) (addr : Addr) :
    Emits asked (Steady cycles) (waitDone (Probed.channel inner).link reg addr)
      (waiting (status reg)) := by
  apply Emits.get_then
  intro h _
  apply (onLink_emits (Probed.poll_emits (Probed.readRegister_emits reg) _ _)).bind_silent
  intro outcome
  cases outcome with
  | ready value attempts => exact Emits.pure ()
  | exhausted last attempts =>
    dsimp only
    split
    · exact Emits.fail _
    · exact Emits.fail _

theorem waitCount_emits (addr : Addr) (expected : Nat) :
    Emits asked (Steady cycles) (waitCount (Probed.channel inner).link addr expected)
      (waiting count) := by
  apply Emits.get_then
  intro h _
  apply (onLink_emits (Probed.poll_emits Probed.readCount_emits _ _)).bind_silent
  intro outcome
  dsimp only
  split
  · exact Emits.pure ()
  · split
    · exact Emits.fail _
    · exact Emits.fail _

theorem bulkRead_emits {len : Nat} (some : len ≠ 0) :
    Emits asked (Steady cycles) (bulkRead (Probed.channel inner).link len)
      {stores (Device.announcing len) ++ [.readBulk len none]} := by
  apply Emits.ofExcept_then
  intro field checked
  obtain ⟨-, rfl⟩ := checkBulk_eq_ok_iff.mp checked
  rw [if_neg some]
  refine (onLink_emits (Probed.writePair_emits (by decide) _)).word_bind fun _ => ?_
  refine (onLink_emits (Probed.readBulk_emits len)).bind_silent fun data => ?_
  split
  · exact Emits.pure data
  · exact Emits.get_then fun _ _ => Emits.fail _

theorem bulkWrite_emits {data : Bytes} (some : data ≠ []) :
    Emits asked (Steady cycles) (bulkWrite (Probed.channel inner).link data)
      {stores (Device.announcing data.length) ++ [.writeBulk data]} := by
  apply Emits.ofExcept_then
  intro field checked
  obtain ⟨-, rfl⟩ := checkBulk_eq_ok_iff.mp checked
  rw [if_neg (List.isEmpty_iff.not.mpr some)]
  exact (onLink_emits (Probed.writePair_emits (by decide) _)).word_bind fun _ =>
    onLink_emits (Probed.writeBulk_emits data)

theorem startRead_emits (addr : Addr) (lines : Nat) :
    Emits asked (Steady cycles)
      (startRead (Probed.channel inner).link addr (UInt16.ofNat (lines - 1)))
      {programming addr lines ++ Transaction.command .readStart} :=
  (program_emits addr lines).word_bind fun _ => command_emits .readStart

theorem awaitRead_emits (addr : Addr) (expected : Nat) :
    Emits asked (Steady cycles) (awaitRead (Probed.channel inner).link addr expected)
      (waiting (status Register.status) * waiting count) :=
  (waitDone_emits _ addr).bind (fun _ => waitCount_emits addr expected) (exists_mem_waiting _)

theorem readLines_emits (addr : Addr) (lines : Nat) :
    Emits asked (Steady cycles) (readLines (Probed.channel inner).link addr lines)
      ((HostCall.readLines addr lines).language cycles) := by
  rw [readLines_eq]
  apply Emits.ofExcept_then
  intro field checked
  obtain ⟨valid, rfl⟩ := checkLines_eq_ok_iff.mp checked
  refine now_emits.silent_bind fun started => ?_
  refine Emits.weaken ?_ (reads_le valid cycles)
  refine (startRead_emits addr lines).bind (fun _ => ?_) (exists_mem_mul
    (exists_mem_mul (exists_mem_waiting _) (exists_mem_waiting _)) ⟨_, rfl⟩)
  refine (awaitRead_emits addr _).bind (fun _ => ?_) ⟨_, rfl⟩
  refine (bulkRead_emits (Nat.ne_of_gt valid.bytes_pos)).word_bind fun data => ?_
  refine (endPhase_emits .read started).silent_bind fun _ => ?_
  refine now_emits.silent_bind fun drained => ?_
  refine finish_emits.bind_silent fun _ => ?_
  exact (endPhase_emits .ack drained).bind_silent fun _ => Emits.pure data

theorem completeWrite_emits (addr : Addr) :
    Emits asked (Steady cycles) (completeWrite (Probed.channel inner).link addr)
      (waiting (status Register.writeStatus) * {finishing cycles}) := by
  refine now_emits.silent_bind fun issued => ?_
  refine (waitDone_emits _ addr).bind (fun _ => ?_) ⟨_, rfl⟩
  exact finish_emits.bind_silent fun _ => endPhase_emits .ack issued

theorem writeLines_emits (addr : Addr) (lines : Nat) (payload : Bytes) :
    Emits asked (Steady cycles) (writeLines (Probed.channel inner).link addr lines payload)
      ((HostCall.writeLines addr lines payload).language cycles) := by
  apply Emits.ofExcept_then
  intro field checked
  obtain ⟨valid, rfl⟩ := checkLines_eq_ok_iff.mp checked
  apply Emits.ofExcept_then
  intro _ declared
  have size := (checkPayload_eq_ok_iff.mp declared).symm
  have some : payload ≠ [] := by
    intro none
    rw [none] at size
    exact Nat.ne_of_gt valid.bytes_pos size.symm
  have waits : ∃ word, word ∈ waiting (status Register.writeStatus) *
      ({finishing cycles} : Language Access) := exists_mem_mul (exists_mem_waiting _) ⟨_, rfl⟩
  have starts : ∃ word, word ∈ ({Transaction.command .writeStart} : Language Access) *
      (waiting (status Register.writeStatus) * {finishing cycles}) :=
    exists_mem_mul ⟨_, rfl⟩ waits
  refine now_emits.silent_bind fun started => ?_
  refine Emits.weaken ?_ (writes_le ⟨valid, size⟩ cycles)
  refine (program_emits addr lines).bind (fun _ => ?_) (exists_mem_mul ⟨_, rfl⟩ starts)
  refine (bulkWrite_emits some).bind (fun _ => ?_) starts
  refine (command_emits .writeStart).bind (fun _ => ?_) waits
  exact (endPhase_emits .write started).silent_bind fun _ => completeWrite_emits addr

theorem writeLinesPacked_emits (addr : Addr) (lines : Nat) (payload : Bytes) :
    Emits asked (Steady cycles) (writeLinesPacked (Probed.channel inner).link addr lines payload)
      ((HostCall.writeLinesPacked addr lines payload).language cycles) := by
  rw [writeLinesPacked_eq_writeLines]
  exact (writeLines_emits addr lines payload).weaken
    (HostCall.language_writeLines_le cycles addr lines payload)

theorem call_emits {call : HostCall} (data : call ≠ .abort) :
    Emits asked (Steady cycles) (DriverCall.onHost (Probed.channel inner).link call)
      (call.language cycles) := by
  cases call with
  | readLines addr lines => exact (readLines_emits addr lines).map _
  | writeLines addr lines payload => exact (writeLines_emits addr lines payload).map _
  | writeLinesPacked addr lines payload => exact (writeLinesPacked_emits addr lines payload).map _
  | abort => exact absurd rfl data

end Host

section Drivers

variable {A : Type}

/-- Computations that emit any number of words. -/
def Action.Congruence.emits (trace : σ → List A) (J : σ → Prop) (L : Language A) :
    Action.Congruence σ σ where
  Rel x _ := Emits trace J x L∗
  pure a := (Emits.pure a).weaken one_le_kstar
  fail := Emits.fail
  bind first next := first.kstar_bind next

variable {cycles : UInt32} {L : Language Access}

def Memory.Steady (cycles : UInt32) (m : Memory (Probed σ)) : Prop := m.host.Steady cycles

def Memory.asked (m : Memory (Probed σ)) : List Access := m.host.asked

def Loader.Steady (cycles : UInt32) (l : Loader (Probed σ)) : Prop := l.memory.Steady cycles

def Loader.asked (l : Loader (Probed σ)) : List Access := l.memory.asked

theorem Memory.onHost_emits {x : Action (Host (Probed σ)) α}
    (h : Emits Host.asked (Host.Steady cycles) x L) : Emits asked (Steady cycles) (onHost x) L :=
  h.on (fun _ steady => steady) (fun _ _ => rfl) fun _ _ _ steady => steady

theorem Loader.onMemory_emits {x : Action (Memory (Probed σ)) α}
    (h : Emits Memory.asked (Memory.Steady cycles) x L) :
    Emits asked (Steady cycles) (onMemory x) L :=
  h.on (fun _ steady => steady) (fun _ _ => rfl) fun _ _ _ steady => steady

theorem Loader.control_emits {f : ControlWords → Option UInt32 → Action (Loader (Probed σ)) Unit}
    (calls : ∀ words entry, Emits asked (Steady cycles) (f words entry) L) :
    Emits asked (Steady cycles) (Action.get >>= fun l => f l.control l.entry) L :=
  Emits.get_then fun l _ => calls l.control l.entry

theorem Loader.setEntry_emits (entry : UInt32) :
    Emits asked (Steady cycles)
      (Action.modify fun l : Loader (Probed σ) => { l with entry := some entry }) 1 :=
  Emits.modify (fun _ steady => steady) fun _ => rfl

/-- Whatever a driver is asked for, its channel sees transactions. -/
def transacts (inner : Channel σ) (cycles : UInt32) :
    DriverRelation .exact (Probed.channel inner).link (Probed.channel inner).link where
  host := .emits Host.asked (Host.Steady cycles) (language cycles)
  memory := .emits Memory.asked (Memory.Steady cycles) (language cycles)
  loader := .emits Loader.asked (Loader.Steady cycles) (language cycles)
  onHost := Memory.onHost_emits
  onMemory := Loader.onMemory_emits
  hostNow := .of_rel (Host.now_emits.weaken one_le_kstar)
  memoryNow := .of_rel (Memory.onHost_emits (Host.now_emits.weaken one_le_kstar))
  loaderNow := .of_rel
    (Loader.onMemory_emits (Memory.onHost_emits (Host.now_emits.weaken one_le_kstar)))
  report same := Timing.eq_of_exact same ▸ (Host.report_emits _).weaken one_le_kstar
  readLines addr lines :=
    (Host.readLines_emits addr lines).weaken ((HostCall.language_le ..).trans le_kstar)
  writeWhole packed _ addr lines payload := by
    cases packed with
    | false =>
      exact (Host.writeLines_emits addr lines payload).weaken
        ((HostCall.language_le ..).trans le_kstar)
    | true =>
      exact (Host.writeLinesPacked_emits addr lines payload).weaken
        ((HostCall.language_le ..).trans le_kstar)
  settings next := fun m steady => next m.transfer m.transfer (.refl _) m steady
  control := Loader.control_emits
  setEntry entry := (Loader.setEntry_emits entry).weaken one_le_kstar

end Drivers

/-- The transactions that a call may come to. At the line interface it is the one asked for. -/
def DriverCall.MadeOf : DriverCall → List Transaction → Prop
  | host call, whole => ∃ t : Transaction, t.Answers call ∧ whole = [t]
  | _, _ => True

namespace DriverCall

variable {idleCycles : UInt32} {call : DriverCall}

/-- The accesses that may make up a call. -/
def language (idleCycles : UInt32) (call : DriverCall) : Language Access :=
  {part | ∃ whole, call.MadeOf whole ∧ (whole.map (accesses idleCycles)).flatten = part}

theorem language_host_le (call : HostCall) :
    call.language idleCycles ≤ (host call).language idleCycles := by
  rintro word ⟨t, answers, rfl⟩
  exact ⟨[t], ⟨t, answers, rfl⟩, List.append_nil _⟩

theorem kstar_le_language (any : ∀ whole, call.MadeOf whole) :
    (Transaction.language idleCycles)∗ ≤ call.language idleCycles := by
  intro part emitted
  obtain ⟨words, rfl, all⟩ := Language.mem_kstar.mp emitted
  have transactions : words ∈ Set.range (List.map (accesses idleCycles)) := by
    rw [Set.range_list_map]
    exact all
  obtain ⟨whole, rfl⟩ := transactions
  exact ⟨whole, any whole, rfl⟩

theorem perform_emits {inner : Channel σ} (data : call ≠ .host .abort) :
    Emits Loader.asked (Loader.Steady idleCycles) (call.perform (Probed.channel inner).link)
      (call.language idleCycles) := by
  have transactions : Emits Loader.asked (Loader.Steady idleCycles)
      (call.perform (Probed.channel inner).link) (Transaction.language idleCycles)∗ :=
    (transacts inner idleCycles).driverCall_exact call fun abort => absurd abort data
  cases call with
  | host call =>
    have data : call ≠ .abort := fun same => data (congrArg host same)
    exact (Loader.onMemory_emits (Memory.onHost_emits (Host.call_emits data))).weaken
      (language_host_le call)
  | memory call => exact transactions.weaken (kstar_le_language fun _ => trivial)
  | loader call => exact transactions.weaken (kstar_le_language fun _ => trivial)

/-- A call that succeeds is made of whole transactions. One that fails leaves off before the
first, or within one of them. -/
def Accounts (idleCycles : UInt32) (call : DriverCall) (outcome : Except Fault α)
    (part : List Access) : Prop :=
  match outcome with
  | .ok _ => ∃ whole, call.MadeOf whole ∧ part = (whole.map (accesses idleCycles)).flatten
  | .error _ => part = [] ∨ ∃ done t later rest, call.MadeOf (done ++ t :: later) ∧
      rest <+: accesses idleCycles t ∧ part = (done.map (accesses idleCycles)).flatten ++ rest

/-- What one call adds to the accesses. -/
theorem perform_accounts {inner : Channel σ} (data : call ≠ .host .abort)
    {l : Loader (Probed σ)} (steady : l.Steady idleCycles) :
    let run := (call.perform (Probed.channel inner).link).run l
    run.2.Steady idleCycles ∧
      ∃ part, run.2.asked = l.asked ++ part ∧ call.Accounts idleCycles run.1 part := by
  obtain ⟨after, part, grown, ending⟩ := perform_emits data l steady
  cases run : (call.perform (Probed.channel inner).link).run l with
  | mk outcome l' =>
    rw [run] at after grown ending
    refine ⟨after, part, grown, ?_⟩
    cases outcome with
    | ok reply =>
      obtain ⟨whole, made, rfl⟩ := ending
      exact ⟨whole, made, rfl⟩
    | error e =>
      rcases ending with none | ⟨missing, whole, made, split⟩
      · exact .inl none
      rcases eq_nil_or_of_prefix_flatten ⟨missing, split.symm⟩ with none | within
      · exact .inl none
      · obtain ⟨done, t, later, rest, rfl, begun, parts⟩ := within
        exact .inr ⟨done, t, later, rest, made, begun, parts⟩

end DriverCall

theorem runEach_accounts {inner : Channel σ} {idleCycles : UInt32} {calls : List DriverCall}
    (data : ∀ call ∈ calls, call ≠ .host .abort) {l : Loader (Probed σ)}
    (steady : l.Steady idleCycles) :
    let run := Action.runEach (DriverCall.perform (Probed.channel inner).link) calls l
    ∃ parts : List (List Access), run.2.asked = l.asked ++ parts.flatten ∧
      List.Forall₂ (fun made part => made.1.Accounts idleCycles made.2 part)
        (calls.zip run.1) parts := by
  induction calls generalizing l with
  | nil => exact ⟨[], (List.append_nil _).symm, .nil⟩
  | cons call rest ih =>
    rw [List.forall_mem_cons] at data
    obtain ⟨kept, part, grown, first⟩ := DriverCall.perform_accounts data.1 steady
    obtain ⟨parts, grown', later⟩ := ih data.2 kept
    refine ⟨part :: parts, ?_, .cons first later⟩
    rw [List.flatten_cons, ← List.append_assoc, ← grown]
    exact grown'

/-- The accesses of any calls, on any channel, are transactions, call by call. -/
theorem calls_transact (inner : Channel σ) (driver : Loader σ) {calls : List DriverCall}
    (data : ∀ call ∈ calls, call ≠ .host .abort) :
    let probed : Loader (Probed σ) := driver.facing { inner := driver.memory.host.state }
    let run := Action.runEach (DriverCall.perform (Probed.channel inner).link) calls probed
    ∃ parts : List (List Access), run.2.asked = parts.flatten ∧
      List.Forall₂ (fun made part => made.1.Accounts driver.memory.host.idleCycles made.2 part)
        (calls.zip run.1) parts :=
  runEach_accounts data ⟨rfl, rfl⟩

/-- A read that waits, one that is refused, a write, and a read that breaks off. -/
theorem calls_transact_scripted :
    let script : Script :=
      { reads := [0, Status.done.code, 0, 0, 16, 0, Status.done.code, Status.error.code]
        bulk := [List.replicate 16 7] }
    let driver : Loader Script :=
      { memory := ({ transfer := { idleCycles := 3 } } : Settings).memory script }
    let calls : List DriverCall :=
      [.host (.readLines ⟨0x40⟩ 1), .host (.readLines ⟨4⟩ 1),
        .host (.writeLines ⟨0⟩ 1 (List.replicate 16 1)), .memory (.read ⟨8⟩ 4)]
    let probed : Loader (Probed Script) := driver.facing { inner := driver.memory.host.state }
    let run := Action.runEach (DriverCall.perform (Probed.channel Script.channel).link) calls probed
    ∃ parts : List (List Access), run.2.asked = parts.flatten ∧
      List.Forall₂ (fun made part => made.1.Accounts driver.memory.host.idleCycles made.2 part)
        (calls.zip run.1) parts := by
  intro script driver calls
  have data : ∀ call ∈ calls, call ≠ .host .abort := by simp [calls]
  exact calls_transact Script.channel driver data

end LineBridge
