import LineBridge.Tool.Arguments

/-! What a command line asks for. Options that every task has may stand before the task's name
or behind it; given in both places, the one behind it counts. -/

namespace LineBridge.Tool

/-- What is done to a bridge. -/
inductive Job where
  | read (addr : UInt32) (bytes : UInt32)
  | write (addr : UInt32) (text : String)
  | load (path : String) (verify start : Bool)
  | halt
deriving DecidableEq, Repr

inductive Task where
  | serve (endpoint : String) (latency : UInt32)
  | job (job : Job)
deriving DecidableEq, Repr

inductive TaskName where
  | serve
  | read
  | write
  | load
  | halt
deriving DecidableEq, Repr

structure Request where
  /-- Takes the place of the one in the settings. -/
  endpoint : Option String := none
  settingsPath : Option String := none
  stats : Bool := false
  task : Task
deriving DecidableEq, Repr

def shared : List Parameter := [.connect, .config, .verbose, .stats, .help]

/-- What stands before a task's name. -/
def topLevel : Level := ⟨shared ++ [.version], none⟩

namespace TaskName

def all : List TaskName := [serve, read, write, load, halt]

def text : TaskName → String
  | serve => "serve"
  | read => "read"
  | write => "write"
  | load => "load"
  | halt => "halt"

def ofText? (text : String) : Option TaskName := all.find? (·.text == text)

def level : TaskName → Level
  | serve => ⟨shared ++ [.listen, .latency], none⟩
  | read => ⟨shared ++ [.address, .size], none⟩
  | write => ⟨shared ++ [.address, .data], none⟩
  | load => ⟨shared ++ [.verify, .noStart], some .image⟩
  | halt => ⟨shared, none⟩

theorem ofText?_text (name : TaskName) : ofText? name.text = some name := by
  cases name <;> rfl

end TaskName

/-- A value that must have been given. -/
def need {α : Type} (p : Parameter) : Option α → Except Stop α
  | some a => .ok a
  | none => .error (.refused (.missing p))

namespace Reading

variable (r : Reading)

def connect? : Option String :=
  r.given.findSome? fun | .connect e => some e | _ => none

def config? : Option String :=
  r.given.findSome? fun | .config p => some p | _ => none

def listen? : Option String :=
  r.given.findSome? fun | .listen e => some e | _ => none

def latency? : Option UInt32 :=
  r.given.findSome? fun | .latency n => some n | _ => none

def address? : Option UInt32 :=
  r.given.findSome? fun | .address a => some a | _ => none

def size? : Option UInt32 :=
  r.given.findSome? fun | .size n => some n | _ => none

def data? : Option String :=
  r.given.findSome? fun | .data t => some t | _ => none

def image? : Option String :=
  r.given.findSome? fun | .image p => some p | _ => none

def task : TaskName → Except Stop Task
  | .serve => .ok (.serve (r.listen?.getD "127.0.0.1:7777") (r.latency?.getD 0))
  | .read => do
    let addr ← need .address r.address?
    let bytes ← need .size r.size?
    pure (.job (.read addr bytes))
  | .write => do
    let addr ← need .address r.address?
    let text ← need .data r.data?
    pure (.job (.write addr text))
  | .load => do
    let path ← need .image r.image?
    pure (.job (.load path (r.given.contains .verify) (!r.given.contains .noStart)))
  | .halt => .ok (.job .halt)

end Reading

/-- What `help` leads to: it may be followed by one name. -/
def helpStop : List String → Stop
  | [] => .help
  | [name] =>
    if name = "help" ∨ (TaskName.ofText? name).isSome then .help else .refused (.unknown name)
  | name :: next :: _ =>
    if name = "help" ∨ (TaskName.ofText? name).isSome then .refused (.unknown next)
    else .refused (.unknown name)

namespace Request

/-- Reads the words behind a task's name, and then what was held back before it. -/
def readTask (top : Reading) (name : TaskName) (words : List String) : Except Stop Request := do
  let own ← Reading.readAll name.level words
  let task ← own.task name
  let top ← top.settle
  pure {
    endpoint := own.connect?.or top.connect?
    settingsPath := own.config?.or top.config?
    stats := own.given.contains .stats || top.given.contains .stats
    task }

/-- Reads words up to a task's name. A word that a parameter waits for is never such a name. -/
def readTop (top : Reading) : List String → Except Stop Request
  | [] => do
    let _ ← top.settle
    .error (.refused .noTask)
  | text :: rest =>
    let mayName := !top.plain && !top.awaitsValue
    match TaskName.ofText? text with
    | some name =>
      if mayName then readTask top name rest
      else do
        let top ← top.readWord topLevel text
        readTop top rest
    | none =>
      if mayName && text == "help" then .error (helpStop rest)
      else do
        let top ← top.readWord topLevel text
        readTop top rest

def ofArguments (words : List String) : Except Stop Request := readTop {} words

end Request

end LineBridge.Tool
