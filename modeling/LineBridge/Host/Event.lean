import LineBridge.Address

/-! What a host reports about its transfers while it makes them. -/

namespace LineBridge

/-- A stage of a transaction. -/
inductive Phase where
  | prep
  | write
  | read
  | ack
deriving DecidableEq, Repr

inductive Direction where
  | read
  | write
deriving DecidableEq, Repr

/-- A batch is a fragment of one line, or whole lines. -/
inductive BatchKind where
  | partialLine
  | lines
deriving DecidableEq, Repr

/-- A batch that has been moved: where the caller's bytes start, how many there are, and how
many lines went over the link for them. -/
structure Batch where
  direction : Direction
  kind : BatchKind
  addr : Addr
  bytes : Nat
  lines : Nat
deriving DecidableEq, Repr

inductive Event where
  /-- A phase that ended, and its length in nanoseconds. -/
  | phase (phase : Phase) (elapsed : Nat)
  | batch (batch : Batch)
deriving DecidableEq, Repr

def Phase.text : Phase → String
  | prep => "Prep"
  | write => "Write"
  | read => "Read"
  | ack => "Ack"

def Direction.text : Direction → String
  | read => "Read"
  | write => "Write"

def BatchKind.text : BatchKind → String
  | partialLine => "Partial"
  | lines => "Lines"

def Batch.text (b : Batch) : String :=
  String.intercalate " "
    [b.direction.text, b.kind.text, b.addr.text, toString b.bytes, toString b.lines]

end LineBridge
