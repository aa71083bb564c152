import LineBridge.Json.Value
import LineBridge.Settings.Basic

/-! Settings as a document. A section is an object whose known keys replace defaults, each at
most once, and whose other keys are skipped; or it is an array with the values of its first
fields. Every field has a default of its own, for a section that is there without it; a section
that is missing altogether has the defaults of its kind. -/

namespace LineBridge.Settings

/-- A field of a section: its key, and how a value is put in if it fits. -/
structure Field (α : Type) where
  key : String
  put : Json → α → Option α

/-- A field whose value is taken from its item alone. -/
def Field.taken {α β : Type} (take : Json → Option β) (key : String) (set : β → α → α) :
    Field α where
  key := key
  put item a := (take item).map (set · a)

/-- A reader of documents. It gets the text apart, takes plain values from their items, and fills
the fields of a section from what an item says. -/
structure Decoder where
  read : String → Option Json
  word32 : Json → Option UInt32
  word64 : Json → Option UInt64
  flag : Json → Option Bool
  text : Json → Option String
  fill : {α : Type} → List (Field α) → Json → α → Option α

/-! ## Fields and their defaults -/

/-- Each field is given, or has its default. -/
structure PollGiven where
  maxAttempts : Option UInt32 := none
  delayMicros : Option UInt64 := none
  timeoutMillis : Option UInt64 := none

structure TransferGiven where
  readBatchBytes : Option UInt64 := none
  writeBatchBytes : Option UInt64 := none
  loadPageBytes : Option UInt64 := none
  packedWrites : Option Bool := none
  idleCycles : Option UInt32 := none

structure ControlGiven where
  programCounter : Option UInt32 := none
  reset : Option UInt32 := none
  hold : Option UInt32 := none

structure LinkGiven where
  endpoint : Option String := none
  timeoutMillis : Option UInt64 := none
  maxFrame : Option UInt64 := none
  clockHz : Option UInt32 := none
  maxChunk : Option UInt64 := none

structure Given where
  poll : Option PollSettings := none
  transfer : Option TransferSettings := none
  control : Option ControlWords := none
  link : Option LinkSettings := none

namespace PollGiven

def defaultMaxAttempts : UInt32 := 1000
def defaultDelayMicros : UInt64 := 50
def defaultTimeoutMillis : UInt64 := 2000

def complete (g : PollGiven) : PollSettings where
  maxAttempts := g.maxAttempts.getD defaultMaxAttempts
  delayMicros := g.delayMicros.getD defaultDelayMicros
  timeoutMillis := g.timeoutMillis.getD defaultTimeoutMillis

end PollGiven

namespace TransferGiven

def defaultReadBatch : UInt64 := 4096
def defaultWriteBatch : UInt64 := 4096
def defaultLoadPage : UInt64 := 4096
def defaultPackedWrites : Bool := true
def defaultIdleCycles : UInt32 := 8

def complete (g : TransferGiven) : TransferSettings where
  readBatchBytes := g.readBatchBytes.getD defaultReadBatch
  writeBatchBytes := g.writeBatchBytes.getD defaultWriteBatch
  loadPageBytes := g.loadPageBytes.getD defaultLoadPage
  packedWrites := g.packedWrites.getD defaultPackedWrites
  idleCycles := g.idleCycles.getD defaultIdleCycles

end TransferGiven

namespace ControlGiven

def defaultProgramCounter : UInt32 := 0x02000000
def defaultReset : UInt32 := 0x02000004
def defaultHold : UInt32 := 3

def complete (g : ControlGiven) : ControlWords where
  programCounter := g.programCounter.getD defaultProgramCounter
  reset := g.reset.getD defaultReset
  hold := g.hold.getD defaultHold

end ControlGiven

namespace LinkGiven

def defaultEndpoint : String := "127.0.0.1:7777"
def defaultTimeoutMillis : UInt64 := 5000
def defaultMaxFrame : UInt64 := 512
def defaultClockHz : UInt32 := 1000000
def defaultMaxChunk : UInt64 := 512

def complete (g : LinkGiven) : LinkSettings where
  endpoint := g.endpoint.getD defaultEndpoint
  timeoutMillis := g.timeoutMillis.getD defaultTimeoutMillis
  maxFrame := g.maxFrame.getD defaultMaxFrame
  clockHz := g.clockHz.getD defaultClockHz
  maxChunk := g.maxChunk.getD defaultMaxChunk

end LinkGiven

/-- The sections that are not given are taken from the default settings. -/
def Given.complete (g : Given) : Settings :=
  let fallback : Settings := {}
  { poll := g.poll.getD fallback.poll
    transfer := g.transfer.getD fallback.transfer
    control := g.control.getD fallback.control
    link := g.link.getD fallback.link }

/-! ## Reading -/

namespace Decoder

variable (d : Decoder)

def pollFields : List (Field PollGiven) := [
  .taken d.word32 "max_attempts" fun n g => { g with maxAttempts := some n },
  .taken d.word64 "delay_us" fun n g => { g with delayMicros := some n },
  .taken d.word64 "timeout_ms" fun n g => { g with timeoutMillis := some n }]

def transferFields : List (Field TransferGiven) := [
  .taken d.word64 "read_batch_bytes" fun n g => { g with readBatchBytes := some n },
  .taken d.word64 "write_batch_bytes" fun n g => { g with writeBatchBytes := some n },
  .taken d.word64 "load_page_bytes" fun n g => { g with loadPageBytes := some n },
  .taken d.flag "packed_writes" fun b g => { g with packedWrites := some b },
  .taken d.word32 "idle_cycles" fun n g => { g with idleCycles := some n }]

def controlFields : List (Field ControlGiven) := [
  .taken d.word32 "pc_address" fun n g => { g with programCounter := some n },
  .taken d.word32 "reset_address" fun n g => { g with reset := some n },
  .taken d.word32 "reset_hold_value" fun n g => { g with hold := some n }]

def linkFields : List (Field LinkGiven) := [
  .taken d.text "socket_addr" fun s g => { g with endpoint := some s },
  .taken d.word64 "socket_timeout_ms" fun n g => { g with timeoutMillis := some n },
  .taken d.word64 "max_frame" fun n g => { g with maxFrame := some n },
  .taken d.word32 "mpsse_clock_hz" fun n g => { g with clockHz := some n },
  .taken d.word64 "mpsse_max_chunk" fun n g => { g with maxChunk := some n }]

/-- A section that an item describes. -/
def section? {α β : Type} (fields : List (Field α)) (blank : α) (complete : α → β) (item : Json) :
    Option β :=
  (d.fill fields item blank).map complete

def sections : List (Field Given) := [
  .taken (d.section? d.pollFields {} PollGiven.complete) "poll"
    fun p g => { g with poll := some p },
  .taken (d.section? d.transferFields {} TransferGiven.complete) "transfer"
    fun t g => { g with transfer := some t },
  .taken (d.section? d.controlFields {} ControlGiven.complete) "control"
    fun c g => { g with control := some c },
  .taken (d.section? d.linkFields {} LinkGiven.complete) "link"
    fun l g => { g with link := some l }]

/-- The settings that a document describes, before any rule is checked. -/
def decode (document : Json) : Option Settings :=
  d.section? d.sections {} Given.complete document

end Decoder

/-- Settings from text. -/
def ofText (d : Decoder) (text : String) : Except Fault Settings :=
  match (d.read text).bind d.decode with
  | none => .error (.settings .undecodable)
  | some s => do
    s.validate
    pure s

end LineBridge.Settings
