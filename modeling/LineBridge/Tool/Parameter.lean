import LineBridge.Tool.Operand

/-! What can be given on the command line. A parameter is an option or the operand of a task;
a setting is a parameter with the value that it was given. -/

namespace LineBridge.Tool

inductive Parameter where
  | connect
  | config
  | verbose
  | stats
  | help
  | version
  | listen
  | latency
  | address
  | size
  | data
  | verify
  | noStart
  | image
deriving DecidableEq, Repr

/-- A parameter that has been given. -/
inductive Given where
  | connect (endpoint : String)
  | config (path : String)
  | verbose
  | stats
  | listen (endpoint : String)
  | latency (reads : UInt32)
  | address (addr : UInt32)
  | size (bytes : UInt32)
  | data (text : String)
  | verify
  | noStart
  | image (path : String)
deriving DecidableEq, Repr

def Given.parameter : Given → Parameter
  | connect _ => .connect
  | config _ => .config
  | verbose => .verbose
  | stats => .stats
  | listen _ => .listen
  | latency _ => .latency
  | address _ => .address
  | size _ => .size
  | data _ => .data
  | verify => .verify
  | noStart => .noStart
  | image _ => .image

namespace Parameter

/-- The name behind two dashes; the operand shows its own in brackets. -/
def name : Parameter → String
  | connect => "connect"
  | config => "config"
  | verbose => "verbose"
  | stats => "stats"
  | help => "help"
  | version => "version"
  | listen => "listen"
  | latency => "latency"
  | address => "address"
  | size => "size"
  | data => "hex"
  | verify => "verify"
  | noStart => "no-start"
  | image => "<ELF>"

/-- The letter behind one dash. -/
def letter? : Parameter → Option Char
  | verbose => some 'v'
  | help => some 'h'
  | version => some 'V'
  | listen => some 'l'
  | address => some 'a'
  | size => some 's'
  | _ => none

def takesValue : Parameter → Bool
  | verbose | stats | help | version | verify | noStart => false
  | _ => true

/-- Whether it may be given more than once on one level. -/
def mayRepeat (p : Parameter) : Bool := p == verbose

end Parameter

/-- Why a command line is refused. -/
inductive Refusal where
  | unknown (word : String)
  | needlessValue (p : Parameter)
  | missingValue (p : Parameter)
  | repeated (p : Parameter)
  | emptyPath (p : Parameter)
  | badWord (text : String) (trouble : Numeral.Trouble)
  | badCount (text : String)
  | missing (p : Parameter)
  | noTask
deriving DecidableEq, Repr

def Refusal.message : Refusal → String
  | unknown word => "unexpected argument " ++ Quoted.text word
  | needlessValue p => p.name ++ " takes no value"
  | missingValue p => p.name ++ " needs a value"
  | repeated p => p.name ++ " cannot be given more than once"
  | emptyPath p => p.name ++ " needs a path"
  | badWord text trouble => "invalid address " ++ Quoted.text text ++ ": " ++ trouble.message
  | badCount text => "invalid count " ++ Quoted.text text
  | missing p => p.name ++ " is required"
  | noTask => "no task is given"

/-- Why a command line leads to no task. -/
inductive Stop where
  | refused (cause : Refusal)
  | help
  | version
deriving DecidableEq, Repr

def givePath (p : Parameter) (made : String → Given) (text : String) : Except Stop Given :=
  if text.isEmpty then .error (.refused (.emptyPath p)) else .ok (made text)

def giveWord (made : UInt32 → Given) (text : String) : Except Stop Given :=
  match Operand.word text with
  | .ok n => .ok (made n)
  | .error trouble => .error (.refused (.badWord text trouble))

/-- What a parameter means with a value; one that takes none is given the empty text. -/
def Parameter.give (p : Parameter) (value : String) : Except Stop Given :=
  match p with
  | connect => .ok (.connect value)
  | config => givePath .config .config value
  | verbose => .ok .verbose
  | stats => .ok .stats
  | help => .error .help
  | version => .error .version
  | listen => .ok (.listen value)
  | latency =>
    match Operand.count? value with
    | some n => .ok (.latency n)
    | none => .error (.refused (.badCount value))
  | address => giveWord .address value
  | size => giveWord .size value
  | data => .ok (.data value)
  | verify => .ok .verify
  | noStart => .ok .noStart
  | image => givePath .image .image value

theorem Parameter.parameter_of_give {p : Parameter} {value : String} {g : Given}
    (h : p.give value = .ok g) : g.parameter = p := by
  unfold give at h
  split at h
  case h_2 | h_14 =>
    unfold givePath at h
    split at h
    · exact absurd h (by simp)
    · cases h
      rfl
  case h_8 =>
    split at h
    · cases h
      rfl
    · exact absurd h (by simp)
  case h_9 | h_10 =>
    unfold giveWord at h
    split at h
    · cases h
      rfl
    · exact absurd h (by simp)
  all_goals cases h
  all_goals rfl

end LineBridge.Tool
