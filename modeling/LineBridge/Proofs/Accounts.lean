import Mathlib
import LineBridge.Proofs.Agreement
import LineBridge.Proofs.Calls
import LineBridge.Proofs.CommandLogs
import LineBridge.Proofs.Tilings

/-! Accounts that agree with each other. A host reports the phases and batches of its transfers,
and the device in front of it logs the commands that it is told; both come from the same
transactions. So whatever a host is asked for, and however much of it runs out of time, the
transactions that its reports count are those which the device saw through to the end, and what
the reports sum up is what was moved. -/

namespace LineBridge

open LineBridge.Action (Ends)

variable {σ τ α β : Type} {view : σ → Device}

/-- A transaction that was begun, and whether it was seen through. -/
structure Attempt where
  direction : Direction
  addr : Addr
  lines : Nat
  done : Bool
deriving DecidableEq, Repr

namespace Attempt

/-- The command that begins it. -/
def command (a : Attempt) : Command :=
  match a.direction with
  | .read => .readStart
  | .write => .writeStart

/-- What the device logs of it, oldest first. -/
def entries (a : Attempt) : List CommandEntry :=
  ⟨a.command, a.addr, a.lines⟩ :: if a.done then [⟨.null, a.addr, a.lines⟩] else []

/-- What the host reports of it: a write as soon as it is started, all else at the end. -/
def phases (a : Attempt) : List Phase :=
  match a.direction, a.done with
  | .read, true => [.read, .ack]
  | .read, false => []
  | .write, true => [.write, .ack]
  | .write, false => [.write]

end Attempt

/-- The phases of transactions, without those that prepare for one. -/
def transactionPhases (events : List Event) : List Phase :=
  events.filterMap fun
    | .phase .prep _ => none
    | .phase phase _ => some phase
    | .batch _ => none

/-- What the device has logged and the host has reported, the newest first. -/
structure Books where
  commands : List CommandEntry
  events : List Event
  observed : Bool

namespace Books

/-- From one state to the next, these transactions were begun and these batches were moved, both
in order. -/
structure Grown (b b' : Books) (attempts : List Attempt) (batches : List Batch) : Prop where
  observed : b'.observed = true
  commands : b'.commands = (attempts.flatMap Attempt.entries).reverse ++ b.commands
  events : ∃ fresh : List Event, b'.events = fresh.reverse ++ b.events ∧
    transactionPhases fresh = attempts.flatMap Attempt.phases ∧ batchesOf fresh = batches

theorem Grown.refl {b : Books} (observed : b.observed = true) : b.Grown b [] [] :=
  ⟨observed, rfl, [], rfl, rfl, rfl⟩

theorem Grown.trans {b b₁ b₂ : Books} {attempts attempts' : List Attempt}
    {batches batches' : List Batch} (first : b.Grown b₁ attempts batches)
    (later : b₁.Grown b₂ attempts' batches') :
    b.Grown b₂ (attempts ++ attempts') (batches ++ batches') where
  observed := later.observed
  commands := by
    rw [later.commands, first.commands, List.flatMap_append, List.reverse_append, List.append_assoc]
  events := by
    obtain ⟨fresh, events, phases, moved⟩ := first.events
    obtain ⟨fresh', events', phases', moved'⟩ := later.events
    refine ⟨fresh ++ fresh', ?_, ?_, ?_⟩
    · rw [events', events, List.reverse_append, List.append_assoc]
    · rw [transactionPhases, List.filterMap_append, List.flatMap_append, ← phases, ← phases']
      rfl
    · rw [batchesOf, List.filterMap_append, ← moved, ← moved']
      rfl

end Books

def Host.books (view : σ → Device) (h : Host σ) : Books :=
  ⟨(view h.state).commands, h.events, h.observed⟩

def Memory.books (view : σ → Device) (m : Memory σ) : Books := m.host.books view

/-- A computation that adds transactions and batches to the books, as `Q` says if it goes
through. -/
def Makes (books : τ → Books) (x : Action τ α) (Q : List Attempt → List Batch → Prop) : Prop :=
  ∀ s, (books s).observed = true → ∃ attempts batches,
    (books s).Grown (books (x.run s).2) attempts batches ∧
      ((x.run s).1.isOk = true → Q attempts batches)

namespace Makes

variable {books : τ → Books} {x : Action τ α} {f : α → Action τ β}
  {Q R : List Attempt → List Batch → Prop}

theorem pure {a : α} (holds : Q [] []) : Makes books (Pure.pure a : Action τ α) Q :=
  fun _ observed => ⟨[], [], .refl observed, fun _ => holds⟩

theorem fail (e : Fault) : Makes books (Action.fail e : Action τ α) Q :=
  fun _ observed => ⟨[], [], .refl observed, nofun⟩

theorem bind (first : Makes books x Q) (next : ∀ a attempts batches, Q attempts batches →
      Makes books (f a) fun attempts' batches' => R (attempts ++ attempts') (batches ++ batches')) :
    Makes books (x >>= f) R := by
  intro s observed
  obtain ⟨attempts, batches, grown, ending⟩ := first s observed
  cases run : x.run s with
  | mk outcome s' =>
    rw [run] at grown ending
    cases outcome with
    | ok a =>
      obtain ⟨attempts', batches', grown', ending'⟩ :=
        next a attempts batches (ending rfl) s' grown.observed
      rw [Action.run_bind_ok run]
      exact ⟨attempts ++ attempts', batches ++ batches', grown.trans grown', ending'⟩
    | error e =>
      rw [Action.run_bind_error run]
      exact ⟨attempts, batches, grown, nofun⟩

theorem weaken (h : Makes books x Q) (holds : ∀ attempts batches, Q attempts batches →
    R attempts batches) : Makes books x R := by
  intro s observed
  obtain ⟨attempts, batches, grown, ending⟩ := h s observed
  exact ⟨attempts, batches, grown, fun ok => holds _ _ (ending ok)⟩

/-- Nothing is added by what only looks. -/
theorem silent_bind {R : List Attempt → List Batch → Prop}
    (silent : Makes books x fun attempts batches => attempts = [] ∧ batches = [])
    (next : ∀ a, Makes books (f a) R) : Makes books (x >>= f) R := by
  refine silent.bind ?_
  rintro a _ _ ⟨rfl, rfl⟩
  exact next a

theorem map (g : α → β) (h : Makes books x Q) : Makes books (g <$> x) Q := by
  rw [map_eq_pure_bind]
  refine h.bind fun a attempts batches holds => pure ?_
  rwa [List.append_nil, List.append_nil]

theorem ofExcept (r : Except Fault α) :
    Makes books (Action.ofExcept r) fun attempts batches => attempts = [] ∧ batches = [] := by
  cases r with
  | ok a => exact pure ⟨rfl, rfl⟩
  | error e => exact fail e

end Makes

namespace Host

theorem stands_self {h : Host σ} (observed : h.observed = true) :
    Stands view (view h.state).docket h.events h := ⟨rfl, rfl, observed⟩

theorem Stands.grown {h h' : Host σ} {b' : Docket} {attempts : List Attempt} {fresh : List Event}
    (after : Stands view b' (fresh.reverse ++ h.events) h')
    (logged : b'.commands = (attempts.flatMap Attempt.entries).reverse ++ (view h.state).commands)
    (reported : transactionPhases fresh = attempts.flatMap Attempt.phases) :
    (h.books view).Grown (h'.books view) attempts (batchesOf fresh) where
  observed := after.observed
  commands := (congrArg Docket.commands after.docket).trans logged
  events := ⟨fresh, after.events, reported, rfl⟩

section Transactions

variable {channel : Channel σ} (fronts : channel.Fronts view False)
include fronts

theorem readLines_makes (addr : Addr) (lines : Nat) :
    Makes (books view) (readLines channel.link addr lines) fun attempts batches =>
      attempts = [⟨.read, addr, lines, true⟩] ∧ batches = [] := by
  intro h observed
  have ending := readLines_stands fronts addr lines h (stands_self observed)
  cases run : (readLines channel.link addr lines).run h with
  | mk outcome h' =>
    rw [run] at ending
    cases outcome with
    | ok data =>
      obtain ⟨drained, acknowledged, after⟩ := ending
      let fresh : List Event := [.phase .read drained, .phase .ack acknowledged]
      have stands : Stands view _ (fresh.reverse ++ h.events) h' := after
      exact ⟨[⟨.read, addr, lines, true⟩], [], stands.grown rfl rfl, fun _ => ⟨rfl, rfl⟩⟩
    | error e =>
      rcases ending with after | after
      · have stands : Stands view _ (([] : List Event).reverse ++ h.events) h' := after
        exact ⟨[], [], stands.grown rfl rfl, nofun⟩
      · have stands : Stands view _ (([] : List Event).reverse ++ h.events) h' := after
        exact ⟨[⟨.read, addr, lines, false⟩], [], stands.grown rfl rfl, nofun⟩

theorem writeLines_makes (addr : Addr) (lines : Nat) (payload : Bytes) :
    Makes (books view) (writeLines channel.link addr lines payload) fun attempts batches =>
      attempts = [⟨.write, addr, lines, true⟩] ∧ batches = [] := by
  intro h observed
  have ending := writeLines_stands fronts addr lines payload h (stands_self observed)
  cases run : (writeLines channel.link addr lines payload).run h with
  | mk outcome h' =>
    rw [run] at ending
    cases outcome with
    | ok data =>
      obtain ⟨written, acknowledged, after⟩ := ending
      let fresh : List Event := [.phase .write written, .phase .ack acknowledged]
      have stands : Stands view _ (fresh.reverse ++ h.events) h' := after
      exact ⟨[⟨.write, addr, lines, true⟩], [], stands.grown rfl rfl, fun _ => ⟨rfl, rfl⟩⟩
    | error e =>
      rcases ending with ⟨b', same, after⟩ | ⟨written, after⟩
      · have stands : Stands view b' (([] : List Event).reverse ++ h.events) h' := after
        exact ⟨[], [], stands.grown same rfl, nofun⟩
      · have stands : Stands view _ ([Event.phase .write written].reverse ++ h.events) h' := after
        exact ⟨[⟨.write, addr, lines, false⟩], [], stands.grown rfl rfl, nofun⟩

theorem writeLinesPacked_makes (addr : Addr) (lines : Nat) (payload : Bytes) :
    Makes (books view) (writeLinesPacked channel.link addr lines payload)
      fun attempts batches => attempts = [⟨.write, addr, lines, true⟩] ∧ batches = [] := by
  rw [writeLinesPacked_eq_writeLines]
  exact writeLines_makes fronts addr lines payload

omit fronts in
theorem now_makes (link : Link σ) :
    Makes (books view) (now link) fun attempts batches => attempts = [] ∧ batches = [] :=
  fun _ observed => ⟨[], [], .refl observed, fun _ => ⟨rfl, rfl⟩⟩

omit fronts in
theorem report_makes (event : Event) (silent : transactionPhases [event] = []) :
    Makes (books view) (report (σ := σ) event) fun attempts batches =>
      attempts = [] ∧ batches = batchesOf [event] := by
  intro h observed
  have stands : Stands view (view h.state).docket ([event].reverse ++ h.events)
      ((report event).run h).2 := by
    have kept : h.observed = true := observed
    show Stands view _ _ (if h.observed then _ else h)
    rw [if_pos kept]
    exact ⟨rfl, rfl, kept⟩
  exact ⟨[], _, stands.grown rfl silent, fun _ => ⟨rfl, rfl⟩⟩

/-- A fragment is replaced by a read of its line and a write. -/
theorem patchLine_makes (addr : Addr) (data : Bytes) :
    Makes (books view) (Memory.patchLine channel.link addr data) fun attempts batches =>
      attempts = [⟨.read, addr.lineBase, 1, true⟩, ⟨.write, addr.lineBase, 1, true⟩] ∧
        batches = [] := by
  apply (readLines_makes fronts addr.lineBase 1).bind
  rintro line _ _ ⟨rfl, rfl⟩
  apply (now_makes channel.link).silent_bind
  intro started
  have prepared : Makes (books view) (endPhase channel.link .prep started) fun attempts batches =>
      attempts = [] ∧ batches = [] :=
    (now_makes channel.link).silent_bind fun _ => report_makes _ rfl
  apply prepared.silent_bind
  intro _
  refine (writeLines_makes fronts addr.lineBase 1 _).weaken ?_
  rintro _ _ ⟨rfl, rfl⟩
  exact ⟨rfl, rfl⟩

end Transactions

end Host

namespace Batch

/-- Fragments that were written. -/
def patches (batches : List Batch) : Nat :=
  batches.countP fun b => b.direction = .write ∧ b.kind = .partialLine

/-- The bytes that were moved in one direction. -/
def moved (direction : Direction) (batches : List Batch) : Nat :=
  ((batches.filter (·.direction = direction)).map (·.bytes)).sum

/-- The batches in one direction. -/
def count (direction : Direction) (batches : List Batch) : Nat :=
  batches.countP (·.direction = direction)

end Batch

/-- Transactions that are needed to move a piece: a fragment is read before it is written. -/
def Piece.transactions (direction : Direction) (piece : Piece) : Nat :=
  match direction, piece.kind with
  | .write, .partialLine => 2
  | _, _ => 1

/-- All transactions were seen through, and they moved so many bytes. -/
structure Moves (direction : Direction) (bytes : Nat) (attempts : List Attempt)
    (batches : List Batch) : Prop where
  done : ∀ a ∈ attempts, a.done = true
  count : attempts.length = batches.length + Batch.patches batches
  direction : ∀ b ∈ batches, b.direction = direction
  bytes : (batches.map (·.bytes)).sum = bytes

namespace Moves

variable {direction : Direction}

theorem nil : Moves direction 0 [] [] where
  done _ none := absurd none List.not_mem_nil
  count := rfl
  direction _ none := absurd none List.not_mem_nil
  bytes := rfl

theorem cons {bytes : Nat} {attempts attempts' : List Attempt} {batches : List Batch}
    (later : Moves direction bytes attempts' batches) (addr : Addr) {piece : Piece}
    (done : ∀ a ∈ attempts, a.done = true)
    (whole : attempts.length = piece.transactions direction) :
    Moves direction (piece.bytes + bytes) (attempts ++ attempts')
      (Batch.ofPiece direction (addr, piece) :: batches) where
  done := List.forall_mem_append.mpr ⟨done, later.done⟩
  count := by
    obtain ⟨kind, count, lines⟩ := piece
    rw [List.length_append, whole, later.count, List.length_cons, Batch.patches, Batch.patches,
      List.countP_cons]
    cases direction <;> cases kind <;> simp [Piece.transactions, Batch.ofPiece] <;> omega
  direction := List.forall_mem_cons.mpr ⟨rfl, later.direction⟩
  bytes := congrArg (piece.bytes + ·) later.bytes

end Moves

namespace Memory

theorem onHost_makes {x : Action (Host σ) α} {Q : List Attempt → List Batch → Prop}
    (h : Makes (Host.books view) x Q) : Makes (books view) (onHost x) Q :=
  fun m observed => h m.host observed

theorem settings_bind {f : TransferSettings → Action (Memory σ) α}
    {R : List Attempt → List Batch → Prop} (next : ∀ t, Makes (books view) (f t) R) :
    Makes (books view) (settings >>= f) R := fun m observed => next m.transfer m observed

theorem reportPiece_makes (direction : Direction) (addr : Addr) (piece : Piece) :
    Makes (books view) (reportPiece (σ := σ) direction addr piece) fun attempts batches =>
      attempts = [] ∧ batches = [Batch.ofPiece direction (addr, piece)] :=
  onHost_makes (Host.report_makes _ rfl)

section Requests

variable {channel : Channel σ} (fronts : channel.Fronts view False)
include fronts

theorem readPiece_makes (addr : Addr) (piece : Piece) :
    Makes (books view) (readPiece channel.link addr piece) fun attempts batches =>
      ((∀ a ∈ attempts, a.done = true) ∧ attempts.length = piece.transactions .read) ∧
        batches = [] := by
  have reads (addr : Addr) (lines : Nat) : Makes (books view)
      (onHost (Host.readLines channel.link addr lines)) fun attempts batches =>
        ((∀ a ∈ attempts, a.done = true) ∧ attempts.length = 1) ∧ batches = [] := by
    refine onHost_makes ((Host.readLines_makes fronts addr lines).weaken ?_)
    rintro _ _ ⟨rfl, rfl⟩
    exact ⟨⟨List.forall_mem_singleton.mpr rfl, rfl⟩, rfl⟩
  obtain ⟨kind, bytes, lines⟩ := piece
  cases kind with
  | partialLine => exact (reads addr.lineBase 1).map fun line => (line.drop addr.lineOffset).take bytes
  | lines => exact reads addr lines

theorem writePiece_makes (addr : Addr) (piece : Piece) (data : Bytes) :
    Makes (books view) (writePiece channel.link addr piece data) fun attempts batches =>
      ((∀ a ∈ attempts, a.done = true) ∧ attempts.length = piece.transactions .write) ∧
        batches = [] := by
  obtain ⟨kind, bytes, lines⟩ := piece
  cases kind with
  | partialLine =>
    refine onHost_makes ((Host.patchLine_makes fronts addr data).weaken ?_)
    rintro _ _ ⟨rfl, rfl⟩
    exact ⟨⟨by simp, rfl⟩, rfl⟩
  | lines =>
    apply settings_bind
    intro t
    have whole : ∀ attempts batches, attempts = [(⟨.write, addr, lines, true⟩ : Attempt)] ∧
        batches = ([] : List Batch) →
        ((∀ a ∈ attempts, a.done = true) ∧ attempts.length = 1) ∧ batches = [] := by
      rintro _ _ ⟨rfl, rfl⟩
      exact ⟨⟨List.forall_mem_singleton.mpr rfl, rfl⟩, rfl⟩
    split
    · exact onHost_makes ((Host.writeLinesPacked_makes fronts addr lines data).weaken whole)
    · exact onHost_makes ((Host.writeLines_makes fronts addr lines data).weaken whole)

theorem readFrom_makes (batch : Nat) (addr : Addr) (len : Nat) (report : TransferReport)
    (done : List Bytes) :
    Makes (books view) (readFrom channel.link batch addr len report done) (Moves .read len) := by
  induction addr, len using pieces_induction batch generalizing report done with
  | done addr =>
    rw [readFrom, if_pos rfl]
    exact .pure .nil
  | step addr len nonempty ih =>
    have part := Piece.bytes_first_le batch addr len
    rw [readFrom, if_neg nonempty]
    generalize Piece.first batch addr len = piece at *
    apply (readPiece_makes fronts addr piece).bind
    rintro data attempts _ ⟨⟨seen, whole⟩, rfl⟩
    apply (reportPiece_makes .read addr piece).bind
    rintro _ _ _ ⟨rfl, rfl⟩
    refine (ih (report.add piece) (data :: done)).weaken ?_
    intro attempts' batches moves
    have all := moves.cons addr seen whole
    rwa [Nat.add_sub_cancel' part] at all

theorem writeFrom_makes (batch : Nat) (addr : Addr) (len : Nat) (data : Bytes)
    (report : TransferReport) :
    Makes (books view) (writeFrom channel.link batch addr len data report) (Moves .write len) := by
  induction addr, len using pieces_induction batch generalizing data report with
  | done addr =>
    rw [writeFrom, if_pos rfl]
    exact .pure .nil
  | step addr len nonempty ih =>
    have part := Piece.bytes_first_le batch addr len
    rw [writeFrom, if_neg nonempty]
    generalize Piece.first batch addr len = piece at *
    apply (writePiece_makes fronts addr piece _).bind
    rintro _ attempts _ ⟨⟨seen, whole⟩, rfl⟩
    apply (reportPiece_makes .write addr piece).bind
    rintro _ _ _ ⟨rfl, rfl⟩
    refine (ih (data.drop piece.bytes) (report.add piece)).weaken ?_
    intro attempts' batches moves
    have all := moves.cons addr seen whole
    rwa [Nat.add_sub_cancel' part] at all

theorem readReported_makes (addr : Addr) (len : Nat) :
    Makes (books view) (readReported channel.link addr len) (Moves .read len) := by
  apply (onHost_makes (Host.now_makes channel.link)).silent_bind
  intro started
  by_cases none : len = 0
  · subst none
    exact .pure .nil
  · rw [if_neg none]
    apply (Makes.ofExcept _).silent_bind
    intro _
    apply settings_bind
    intro t
    refine (readFrom_makes fronts t.readBatchLines addr len {} []).bind ?_
    intro result attempts batches moves
    refine (onHost_makes (Host.now_makes channel.link)).silent_bind fun ended => .pure ?_
    rwa [List.append_nil, List.append_nil]

theorem read_makes (addr : Addr) (len : Nat) :
    Makes (books view) (read channel.link addr len) (Moves .read len) := by
  refine (readReported_makes fronts addr len).bind fun result attempts batches moves => .pure ?_
  rwa [List.append_nil, List.append_nil]

theorem write_makes (addr : Addr) (data : Bytes) :
    Makes (books view) (write channel.link addr data) (Moves .write data.length) := by
  apply (onHost_makes (Host.now_makes channel.link)).silent_bind
  intro started
  by_cases none : data = []
  · subst none
    exact .pure .nil
  · rw [if_neg (List.isEmpty_iff.not.mpr none)]
    apply (Makes.ofExcept _).silent_bind
    intro _
    apply settings_bind
    intro t
    refine (writeFrom_makes fronts t.writeBatchLines addr data.length data {}).bind ?_
    intro result attempts batches moves
    refine (onHost_makes (Host.now_makes channel.link)).silent_bind fun ended => .pure ?_
    rwa [List.append_nil, List.append_nil]

end Requests

end Memory

namespace MemoryCall

/-- Which way its bytes go. -/
def direction : MemoryCall → Direction
  | read .. | readWord _ | verify .. => .read
  | write .. | writeWord .. => .write

/-- The bytes that calls ask for in one direction. -/
def requested (direction : Direction) (calls : List MemoryCall) : Nat :=
  ((calls.filter (·.direction = direction)).map len).sum

variable {channel : Channel σ} (fronts : channel.Fronts view False)
include fronts

theorem perform_makes (call : MemoryCall) :
    Makes (Memory.books view) (call.perform channel.link) (Moves call.direction call.len) := by
  cases call with
  | read addr len => exact (Memory.read_makes fronts addr len).map _
  | write addr data => exact (Memory.write_makes fronts addr data).map _
  | readWord addr =>
    refine Makes.map _ ((Makes.ofExcept _).silent_bind fun _ => ?_)
    refine (Memory.read_makes fronts addr wordBytes).bind fun data attempts batches moves => ?_
    refine .pure ?_
    rwa [List.append_nil, List.append_nil]
  | writeWord addr value =>
    refine Makes.map _ ((Makes.ofExcept _).silent_bind fun _ => ?_)
    have written := Memory.write_makes fronts addr (Bytes.littleEndian wordBytes value.toNat)
    rw [Bytes.length_littleEndian] at written
    refine written.bind fun _ attempts batches moves => .pure ?_
    rwa [List.append_nil, List.append_nil]
  | verify addr expected =>
    refine Makes.map _ ?_
    refine (Memory.read_makes fronts addr expected.length).bind fun data attempts batches moves => ?_
    split
    · refine .pure ?_
      rwa [List.append_nil, List.append_nil]
    · exact .fail _

end MemoryCall

/-- All transactions were seen through, and they moved what was asked for. -/
structure Settles (calls : List MemoryCall) (attempts : List Attempt) (batches : List Batch) :
    Prop where
  done : ∀ a ∈ attempts, a.done = true
  count : attempts.length = batches.length + Batch.patches batches
  moved : ∀ direction, Batch.moved direction batches = MemoryCall.requested direction calls

theorem Settles.nil : Settles [] [] [] :=
  ⟨fun _ none => absurd none List.not_mem_nil, rfl, fun _ => rfl⟩

theorem Settles.cons {call : MemoryCall} {calls : List MemoryCall} {attempts attempts' : List Attempt}
    {batches batches' : List Batch} (moves : Moves call.direction call.len attempts batches)
    (later : Settles calls attempts' batches') :
    Settles (call :: calls) (attempts ++ attempts') (batches ++ batches') where
  done := List.forall_mem_append.mpr ⟨moves.done, later.done⟩
  count := by
    rw [List.length_append, List.length_append, moves.count, later.count, Batch.patches,
      Batch.patches, Batch.patches, List.countP_append]
    omega
  moved direction := by
    have first : Batch.moved direction batches =
        if call.direction = direction then call.len else 0 := by
      split
      · next same =>
        subst same
        rw [Batch.moved, List.filter_eq_self.mpr fun b member => decide_eq_true
          (moves.direction b member), moves.bytes]
      · next other =>
        have none : batches.filter (·.direction = direction) = [] :=
          List.filter_eq_nil_iff.mpr fun b member same =>
            other ((moves.direction b member).symm.trans (of_decide_eq_true same))
        rw [Batch.moved, none]
        rfl
    rw [Batch.moved, List.filter_append, List.map_append, List.sum_append, ← Batch.moved,
      ← Batch.moved, later.moved, first, MemoryCall.requested, MemoryCall.requested,
      List.filter_cons]
    by_cases same : call.direction = direction
    · simp [same]
    · simp [same]

theorem runEach_makes {channel : Channel σ} (fronts : channel.Fronts view False)
    (calls : List MemoryCall) {m : Memory σ} (observed : (m.books view).observed = true) :
    let run := Action.runEach (MemoryCall.perform channel.link) calls m
    ∃ attempts batches, (m.books view).Grown (run.2.books view) attempts batches ∧
      ((∀ outcome ∈ run.1, outcome.isOk = true) → Settles calls attempts batches) := by
  induction calls generalizing m with
  | nil => exact ⟨[], [], .refl observed, fun _ => .nil⟩
  | cons call rest ih =>
    obtain ⟨attempts, batches, grown, moves⟩ := call.perform_makes fronts m observed
    obtain ⟨attempts', batches', grown', settles⟩ := ih grown.observed
    refine ⟨attempts ++ attempts', batches ++ batches', grown.trans grown', fun ok => ?_⟩
    obtain ⟨first, later⟩ := List.forall_mem_cons.mp ok
    exact (settles later).cons (moves first)

/-- The counters of a ledger are sums and counts over events. -/
structure Ledger.Sums (l : Ledger) (events : List Event) : Prop where
  bytesRead : l.bytesRead = UInt64.ofNat (Batch.moved .read (batchesOf events))
  bytesWritten : l.bytesWritten = UInt64.ofNat (Batch.moved .write (batchesOf events))
  readBatches : l.readBatches = UInt64.ofNat (Batch.count .read (batchesOf events))
  writeBatches : l.writeBatches = UInt64.ofNat (Batch.count .write (batchesOf events))
  partialLines : l.partialLines = UInt64.ofNat (Batch.fragments (batchesOf events))
  linesMoved : l.linesMoved = UInt64.ofNat ((batchesOf events).map (·.lines)).sum
  transactions : l.transactions = UInt64.ofNat ((transactionPhases events).count .ack)

namespace Ledger

theorem Sums.record {l : Ledger} {events : List Event} (sums : l.Sums events) (event : Event) :
    (l.record event).Sums (events ++ [event]) := by
  cases event with
  | phase phase elapsed =>
    have none : batchesOf (events ++ [.phase phase elapsed]) = batchesOf events := by
      simp [batchesOf]
    have acknowledged : (l.recordPhase phase elapsed).transactions =
        UInt64.ofNat ((transactionPhases (events ++ [.phase phase elapsed])).count .ack) := by
      cases phase <;>
        simp [transactionPhases, recordPhase, UInt64.ofNat_add, sums.transactions]
    cases phase <;>
      exact ⟨none ▸ sums.bytesRead, none ▸ sums.bytesWritten, none ▸ sums.readBatches,
        none ▸ sums.writeBatches, none ▸ sums.partialLines, none ▸ sums.linesMoved, acknowledged⟩
  | batch b =>
    have one : batchesOf (events ++ [.batch b]) = batchesOf events ++ [b] := by simp [batchesOf]
    have still : transactionPhases (events ++ [.batch b]) = transactionPhases events := by
      simp [transactionPhases]
    rw [Ledger.record]
    obtain ⟨direction, kind, addr, bytes, lines⟩ := b
    refine ⟨?_, ?_, ?_, ?_, ?_, ?_, ?_⟩
    · cases direction <;> simp [recordBatch, one, Batch.moved, UInt64.ofNat_add, sums.bytesRead]
    · cases direction <;> simp [recordBatch, one, Batch.moved, UInt64.ofNat_add, sums.bytesWritten]
    · cases direction <;> simp [recordBatch, one, Batch.count, UInt64.ofNat_add, sums.readBatches]
    · cases direction <;> simp [recordBatch, one, Batch.count, UInt64.ofNat_add, sums.writeBatches]
    · cases direction <;> cases kind <;>
        simp [recordBatch, one, Batch.fragments, UInt64.ofNat_add, sums.partialLines]
    · cases direction <;> simp [recordBatch, one, UInt64.ofNat_add, sums.linesMoved]
    · cases direction <;> simp [recordBatch, still, sums.transactions]

/-- Whatever the events, the ledger sums them up. -/
theorem sums_ofEvents (events : List Event) : (ofEvents events).Sums events := by
  induction events using List.reverseRecOn with
  | nil => exact ⟨rfl, rfl, rfl, rfl, rfl, rfl, rfl⟩
  | append_singleton events event ih =>
    rw [ofEvents, List.foldl_append]
    exact ih.record event

theorem batchedBytes_eq (batches : List Batch) :
    batchedBytes batches = UInt64.ofNat (batches.map (·.bytes)).sum := by
  induction batches using List.reverseRecOn with
  | nil => rfl
  | append_singleton batches b ih =>
    rw [batchedBytes, List.foldl_append, ← batchedBytes, ih]
    simp [UInt64.ofNat_add]

/-- Bytes go one way or the other. -/
theorem moved_add_moved (batches : List Batch) :
    Batch.moved .read batches + Batch.moved .write batches = (batches.map (·.bytes)).sum := by
  induction batches with
  | nil => rfl
  | cons b rest ih =>
    obtain ⟨direction, kind, addr, bytes, lines⟩ := b
    simp only [Batch.moved] at ih ⊢
    cases direction <;> simp <;> omega

theorem count_add_count (batches : List Batch) :
    Batch.count .read batches + Batch.count .write batches = batches.length := by
  induction batches with
  | nil => rfl
  | cons b rest ih =>
    obtain ⟨direction, kind, addr, bytes, lines⟩ := b
    simp only [Batch.count] at ih ⊢
    cases direction <;> simp <;> omega

theorem Sums.totalBytes {l : Ledger} {events : List Event} (sums : l.Sums events) :
    l.totalBytes = batchedBytes (batchesOf events) := by
  rw [Ledger.totalBytes, sums.bytesRead, sums.bytesWritten, batchedBytes_eq, ← UInt64.ofNat_add,
    moved_add_moved]

end Ledger

namespace Attempt

theorem count_ack (attempts : List Attempt) :
    (attempts.flatMap phases).count .ack = attempts.countP (·.done) := by
  induction attempts with
  | nil => rfl
  | cons a rest ih =>
    obtain ⟨direction, addr, lines, done⟩ := a
    rw [List.flatMap_cons, List.count_append, ih]
    cases direction <;> cases done <;> simp [phases, Nat.add_comm]

theorem count_null (attempts : List Attempt) :
    (attempts.flatMap entries).countP (·.command = .null) = attempts.countP (·.done) := by
  induction attempts with
  | nil => rfl
  | cons a rest ih =>
    obtain ⟨direction, addr, lines, done⟩ := a
    rw [List.flatMap_cons, List.countP_append, ih]
    cases direction <;> cases done <;> simp [entries, command, Nat.add_comm]

end Attempt

/-- The commands in a device's log that have cleared a transaction. -/
def Device.cleared (d : Device) : Nat := d.commands.countP (·.command = .null)

/-- Whatever is asked of a host in front of a device, and whatever of it runs out of time, what the
device logs is its transactions in order, each one that was seen through with the command that
clears it right behind its start. A ledger kept from the host's reports counts just these, its
other counters are sums and counts over the reported batches, and if nothing fails it has the
bytes that were asked for, with one transaction for each batch and one more for each fragment that
was written. -/
theorem accounts_agree {channel : Channel σ} (fronts : channel.Fronts view False)
    (calls : List MemoryCall) {m : Memory σ} (observed : m.host.observed = true)
    (fresh : m.host.events = []) :
    let run := Action.runEach (MemoryCall.perform channel.link) calls m
    let events := run.2.host.events.reverse
    let ledger := Ledger.ofEvents events
    (∃ attempts : List Attempt,
      (view run.2.host.state).commands.reverse =
        (view m.host.state).commands.reverse ++ attempts.flatMap Attempt.entries ∧
      transactionPhases events = attempts.flatMap Attempt.phases ∧
      ledger.transactions = UInt64.ofNat (attempts.countP (·.done)) ∧
      (view run.2.host.state).cleared =
        (view m.host.state).cleared + attempts.countP (·.done)) ∧
    ledger.Sums events ∧ ledger.totalBytes = batchedBytes (batchesOf events) ∧
    ((∀ outcome ∈ run.1, outcome.isOk = true) →
      ledger.bytesRead = UInt64.ofNat (MemoryCall.requested .read calls) ∧
      ledger.bytesWritten = UInt64.ofNat (MemoryCall.requested .write calls) ∧
      ledger.transactions = ledger.readBatches + ledger.writeBatches +
        UInt64.ofNat (Batch.patches (batchesOf events))) := by
  intro run events ledger
  obtain ⟨attempts, batches, grown, settles⟩ := runEach_makes fronts calls observed
  obtain ⟨reported, same, phases, moved⟩ := grown.events
  have whole : events = reported := by
    have last : run.2.host.events = reported.reverse ++ m.host.events := same
    rw [fresh, List.append_nil] at last
    exact List.reverse_eq_iff.mpr last
  have sums : ledger.Sums events := Ledger.sums_ofEvents events
  have acknowledged : ledger.transactions = UInt64.ofNat (attempts.countP (·.done)) := by
    rw [sums.transactions, whole, phases, Attempt.count_ack]
  have logged : (view run.2.host.state).commands =
    (attempts.flatMap Attempt.entries).reverse ++ (view m.host.state).commands := grown.commands
  refine ⟨⟨attempts, ?_, whole ▸ phases, acknowledged, ?_⟩, sums, sums.totalBytes, fun ok => ?_⟩
  · rw [logged, List.reverse_append, List.reverse_reverse]
  · rw [Device.cleared, logged, List.countP_append, List.countP_reverse, Attempt.count_null,
      Nat.add_comm]
    rfl
  · have settled := settles ok
    have moved : batchesOf events = batches := whole ▸ moved
    have all : attempts.countP (·.done) = Batch.count .read batches + Batch.count .write batches +
        Batch.patches batches := by
      rw [List.countP_eq_length.mpr settled.done, settled.count, Ledger.count_add_count]
    refine ⟨?_, ?_, ?_⟩
    · rw [sums.bytesRead, moved, settled.moved]
    · rw [sums.bytesWritten, moved, settled.moved]
    · rw [acknowledged, sums.readBatches, sums.writeBatches, moved, all, UInt64.ofNat_add,
        UInt64.ofNat_add]

/-- A write that starts and ends within a line, and two reads. -/
theorem accounts_agree_fresh :
    let calls : List MemoryCall :=
      [.write ⟨8⟩ (List.replicate 36 1), .readWord ⟨0x10⟩, .verify ⟨0x40⟩ [0, 0]]
    let m : Memory Device := { host := { state := {}, observed := true } }
    let run := Action.runEach (MemoryCall.perform Device.channel.link) calls m
    let events := run.2.host.events.reverse
    let ledger := Ledger.ofEvents events
    Device.channel.Fronts id False ∧ m.host.observed = true ∧ m.host.events = [] ∧
      run.1.all (·.isOk) = true ∧ ledger.Sums events ∧
      ledger.totalBytes = batchedBytes (batchesOf events) ∧
      ledger.bytesRead = 6 ∧ ledger.bytesWritten = 36 ∧
      ledger.transactions = ledger.readBatches + ledger.writeBatches +
        UInt64.ofNat (Batch.patches (batchesOf events)) := by
  intro calls m run events ledger
  have all : run.1.all (·.isOk) = true := by cbv
  obtain ⟨-, sums, total, settled⟩ :=
    accounts_agree Channel.fronts_device calls (m := m) rfl rfl
  obtain ⟨bytesRead, bytesWritten, transactions⟩ := settled (List.all_eq_true.mp all)
  exact ⟨Channel.fronts_device, rfl, rfl, all, sums, total, bytesRead, bytesWritten, transactions⟩

end LineBridge
