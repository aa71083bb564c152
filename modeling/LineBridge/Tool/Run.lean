import LineBridge.Bench.Loopback
import LineBridge.Image.Elf.Loadable
import LineBridge.Image.Elf.Tables
import LineBridge.Ledger.Report
import LineBridge.Remote.Link
import LineBridge.Settings.Reading
import LineBridge.Tool.Dump
import LineBridge.Tool.Folder
import LineBridge.Tool.Request

/-! Running a command line. Jobs are done over a stream to a bridge in the same process, and a
bridge that is served answers its clients in the same process. What has been printed stays
printed when a job fails later. -/

namespace LineBridge.Tool

/-- A job at work. -/
structure Console (σ : Type) where
  loader : Loader σ
  /-- Newest first. -/
  printed : List String := []

namespace Console

variable {σ α : Type}

def print (text : String) : Action (Console σ) Unit :=
  Action.modify fun c => { c with printed := text :: c.printed }

def onLoader (x : Action (Loader σ) α) : Action (Console σ) α :=
  Action.on (·.loader) (fun l c => { c with loader := l }) x

def onMemory (x : Action (Memory σ) α) : Action (Console σ) α := onLoader (Loader.onMemory x)

def output (c : Console σ) : String := String.join c.printed.reverse

/-- The totals so far. -/
def ledger (c : Console σ) : Ledger := Ledger.ofEvents c.loader.memory.host.events.reverse

end Console

/-- The settings in a file. -/
def settingsAt (files : Files) (path : String) : Except Fault Settings :=
  match files path with
  | .error cause => .error (.settings (.file path cause))
  | .ok bytes =>
    match Utf8.text? bytes with
    | none => .error (.settings (.file path .notText))
    | some text => Settings.ofText Settings.decoder text

/-- The image in a file. -/
def imageAt (files : Files) (path : String) : Except Fault Image :=
  match files path with
  | .error cause => .error (.image (.file path cause))
  | .ok bytes => Elf.parse Elf.reader bytes

def loadedText (r : LoadReport) : String :=
  "Loaded " ++ toString r.segments ++ " segments (" ++ toString r.bytes ++ " bytes) in " ++
    Fixed.ofFloat 3 (Elapsed.seconds r.elapsed) ++ "s, entry " ++ Hex.word r.entry ++
    (if r.verified then ", verified" else "") ++ "\n"

def releasedText (r : LoadReport) : String := "Core released at " ++ Hex.word r.entry ++ "\n"

section

variable {σ : Type} (link : Link σ) (files : Files)

def runLoad (path : String) (verify start : Bool) : Action (Console σ) Unit := do
  let image ← Action.ofExcept (imageAt files path)
  let report ← Console.onLoader (Loader.load link image verify)
  Console.print (loadedText report)
  if start then
    Console.onLoader (Loader.start link)
    Console.print (releasedText report)

def runJob : Job → Action (Console σ) Unit
  | .read addr bytes => do
    let data ← Console.onMemory (Memory.read link ⟨addr⟩ bytes.toNat)
    Console.print (Dump.text ⟨addr⟩ data)
  | .write addr text => do
    let data ← Action.ofExcept (Operand.data text)
    let _ ← Console.onMemory (Memory.write link ⟨addr⟩ data)
    pure ()
  | .load path verify start => runLoad link files path verify start
  | .halt => Console.onLoader (Loader.halt link)

/-- The totals are printed only behind a job that succeeds. -/
def runReported (job : Job) (stats : Bool) : Action (Console σ) Unit := do
  runJob link files job
  if stats then
    let c ← Action.get
    Console.print c.ledger.report

end

/-- How a run ends. -/
inductive Ending where
  | done
  | failed (fault : Fault)
  | stopped (stop : Stop)
deriving DecidableEq, Repr

namespace Ending

/-- The number that the run leaves to its caller. -/
def status : Ending → UInt8
  | done | stopped .help | stopped .version => 0
  | failed _ => 1
  | stopped (.refused _) => 2

def ofExcept : Except Fault Unit → Ending
  | .ok _ => done
  | .error fault => failed fault

/-- What the run complains of. -/
def complaint? : Ending → Option String
  | failed fault => some ("error: " ++ fault.message)
  | stopped (.refused cause) => some ("error: " ++ cause.message)
  | _ => none

end Ending

/-- All that a run leaves behind. -/
structure Outcome where
  ending : Ending
  output : String := ""
  /-- What each client of a served bridge has received. -/
  replies : List Bytes := []
  /-- The bridge at the far end of a job. -/
  bench : Bench.Loopback

def helpText : String :=
  "Host driver for a polled SPI-to-bus bridge\n\n" ++
  "Usage: spibridge [OPTIONS] <COMMAND>\n\n" ++
  "Commands:\n" ++
  "  serve  [-l, --listen ENDPOINT] [--latency READS]\n" ++
  "  read   -a, --address ADDRESS -s, --size BYTES\n" ++
  "  write  -a, --address ADDRESS --hex DIGITS\n" ++
  "  load   ELF [--verify] [--no-start]\n" ++
  "  halt\n\n" ++
  "Options:\n" ++
  "  --connect ENDPOINT  --config PATH  --stats  -v, --verbose  -h, --help  -V, --version\n"

def versionText : String := "spibridge 0.3.0\n"

def stopText : Stop → String
  | .help => helpText
  | .version => versionText
  | .refused _ => ""

namespace Request

/-- The settings of a run. -/
def settings (files : Files) (r : Request) : Except Fault Settings := do
  let s ← match r.settingsPath with
    | none => .ok {}
    | some path => settingsAt files path
  pure { s with link := { s.link with endpoint := r.endpoint.getD s.link.endpoint } }

/-- The files that a run may read. -/
def paths (r : Request) : List String :=
  r.settingsPath.toList ++ match r.task with
    | .job (.load path _ _) => [path]
    | _ => []

/-- Does a job over a link with the given settings. -/
def runJobWith (files : Files) (s : Settings) (job : Job) (stats : Bool)
    (bench : Bench.Loopback) : Outcome :=
  let memory := s.memory bench
  let memory := { memory with host := { memory.host with observed := stats } }
  let link := Remote.link Bench.Loopback.stream .still s.link.maxFrame.toNat
  let (result, c) := (runReported link files job stats).run ⟨⟨memory, s.control, none⟩, []⟩
  ⟨.ofExcept result, c.output, [], c.loader.memory.host.state⟩

/-- Serves clients one after another on a bridge of their own. -/
def runServe (endpoint : String) (latency : UInt32) (clients : List Bytes)
    (bench : Bench.Loopback) : Outcome :=
  match Endpoint.ofText endpoint with
  | .error fault => ⟨.failed fault, "", clients.map fun _ => [], bench⟩
  | .ok _ =>
    let (replies, _) := Remote.serveAll Device.channel clients { latency := latency.toNat }
    ⟨.done, "", replies, bench⟩

def run (files : Files) (clients : List Bytes) (bench : Bench.Loopback) (r : Request) :
    Outcome :=
  match r.settings files with
  | .error fault => ⟨.failed fault, "", clients.map fun _ => [], bench⟩
  | .ok s =>
    match r.task with
    | .serve endpoint latency => runServe endpoint latency clients bench
    | .job job =>
      match s.link.check with
      | .error fault => ⟨.failed fault, "", [], bench⟩
      | .ok _ => runJobWith files s job r.stats bench

end Request

/-- Runs a command line. -/
def run (files : Files) (clients : List Bytes) (device : Device) (words : List String) :
    Outcome :=
  match Request.ofArguments words with
  | .error stop => ⟨.stopped stop, stopText stop, clients.map fun _ => [], { device }⟩
  | .ok r => r.run files clients { device }

end LineBridge.Tool
