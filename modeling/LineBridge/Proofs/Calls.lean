import Mathlib
import LineBridge.Image.Loader

/-! Calls at the interfaces of a driver, as data, so that what holds of one call can be carried
over sequences of calls of any length. -/

namespace LineBridge

/-- What a call answers. -/
inductive CallReply where
  | bytes (data : Bytes)
  | word (value : UInt32)
  | done
  | moved (report : TransferReport)
  | loaded (report : LoadReport)

/-- The answer without its account of how bytes were moved. -/
def CallReply.plain : CallReply → CallReply
  | moved _ => done
  | loaded _ => done
  | reply => reply

inductive MemoryCall where
  | read (addr : Addr) (len : Nat)
  | write (addr : Addr) (data : Bytes)
  | readWord (addr : Addr)
  | writeWord (addr : Addr) (value : UInt32)
  | verify (addr : Addr) (expected : Bytes)

namespace MemoryCall

/-- Bytes that the call is about. -/
def len : MemoryCall → Nat
  | read _ len => len
  | write _ data => data.length
  | readWord _ => wordBytes
  | writeWord .. => wordBytes
  | verify _ expected => expected.length

variable {σ : Type} (link : Link σ)

def perform : MemoryCall → Action (Memory σ) CallReply
  | read addr len => CallReply.bytes <$> Memory.read link addr len
  | write addr data => CallReply.moved <$> Memory.write link addr data
  | readWord addr => CallReply.word <$> Memory.readWord link addr
  | writeWord addr value => (fun _ => CallReply.done) <$> Memory.writeWord link addr value
  | verify addr expected => (fun _ => CallReply.done) <$> Memory.verify link addr expected

end MemoryCall

inductive HostCall where
  | readLines (addr : Addr) (lines : Nat)
  | writeLines (addr : Addr) (lines : Nat) (payload : Bytes)
  | writeLinesPacked (addr : Addr) (lines : Nat) (payload : Bytes)
  | abort

inductive LoaderCall where
  | load (image : Image) (verify : Bool)
  | start
  | halt
  | loadAndStart (image : Image) (verify : Bool)

/-- A call at any of the three interfaces of one driver. -/
inductive DriverCall where
  | host (call : HostCall)
  | memory (call : MemoryCall)
  | loader (call : LoaderCall)

namespace DriverCall

variable {σ : Type} (link : Link σ)

def onHost : HostCall → Action (Host σ) CallReply
  | .readLines addr lines => CallReply.bytes <$> Host.readLines link addr lines
  | .writeLines addr lines payload =>
    (fun _ => CallReply.done) <$> Host.writeLines link addr lines payload
  | .writeLinesPacked addr lines payload =>
    (fun _ => CallReply.done) <$> Host.writeLinesPacked link addr lines payload
  | .abort => (fun _ => CallReply.done) <$> Host.abort link

def onLoader : LoaderCall → Action (Loader σ) CallReply
  | .load image verify => CallReply.loaded <$> Loader.load link image verify
  | .start => (fun _ => CallReply.done) <$> Loader.start link
  | .halt => (fun _ => CallReply.done) <$> Loader.halt link
  | .loadAndStart image verify => CallReply.loaded <$> Loader.loadAndStart link image verify

def perform : DriverCall → Action (Loader σ) CallReply
  | host call => Loader.onMemory (Memory.onHost (onHost link call))
  | memory call => Loader.onMemory (call.perform link)
  | loader call => onLoader link call

end DriverCall

/-- All that a driver offers: its calls, and what its parts have to offer besides. -/
inductive DriverUse where
  | call (call : DriverCall)
  | readReported (addr : Addr) (len : Nat)
  | readLine (addr : Addr)
  | bulkRead (len : Nat)
  | bulkWrite (data : Bytes)
  | pollRegister (reg expected : UInt8)
  | pollWithin (reg expected : UInt8) (limits : PollLimits)

/-- What a use answers. -/
inductive UseReply where
  | answered (reply : CallReply)
  | account (data : Bytes) (report : TransferReport)
  | drained (data : Bytes)
  | streamed
  | waited (outcome : PollOutcome UInt8)

namespace DriverUse

variable {σ : Type} (link : Link σ)

def perform : DriverUse → Action (Loader σ) UseReply
  | call made => UseReply.answered <$> made.perform link
  | readReported addr len =>
    (fun (data, report) => UseReply.account data report) <$>
      Loader.onMemory (Memory.readReported link addr len)
  | readLine addr =>
    UseReply.drained <$> Loader.onMemory (Memory.onHost (Host.readLine link addr))
  | bulkRead len =>
    UseReply.drained <$> Loader.onMemory (Memory.onHost (Host.bulkRead link len))
  | bulkWrite data =>
    (fun _ => UseReply.streamed) <$> Loader.onMemory (Memory.onHost (Host.bulkWrite link data))
  | pollRegister reg expected =>
    UseReply.waited <$> Loader.onMemory (Memory.onHost (Host.pollRegister link reg expected))
  | pollWithin reg expected limits =>
    UseReply.waited <$> Loader.onMemory (Memory.onHost (Host.pollWithin link reg expected limits))

end DriverUse

end LineBridge
