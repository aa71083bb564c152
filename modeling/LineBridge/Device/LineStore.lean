import Std.Data.HashMap
import LineBridge.Address

/-! Sparse memory in lines. Only lines that were written are held, each under its base
address; every other byte reads zero. `LineStore.byteAt` is the view through which the
store is a flat memory: storing bytes changes it at their addresses and nowhere else. -/

namespace LineBridge

/-- The bytes of one line. -/
abbrev Line := Vector UInt8 16

/-- Lines by base address. -/
structure LineStore where
  lines : Std.HashMap UInt32 Line := {}

namespace LineStore

def empty : LineStore := {}

instance : Inhabited LineStore := ⟨empty⟩

/-- The line that holds an address. -/
def lineAt (m : LineStore) (a : Addr) : Line :=
  (m.lines[a.lineBase.val]?).getD (Vector.replicate 16 0)

def byteAt (m : LineStore) (a : Addr) : UInt8 :=
  (m.lineAt a).get ⟨a.lineOffset, a.lineOffset_lt⟩

def setByte (m : LineStore) (a : Addr) (value : UInt8) : LineStore :=
  ⟨m.lines.insert a.lineBase.val ((m.lineAt a).set a.lineOffset value a.lineOffset_lt)⟩

/-- Bytes from an address on, around the end of the space. -/
def peek (m : LineStore) (a : Addr) (count : Nat) : Bytes :=
  (List.range count).map fun i => m.byteAt (a.offset i)

/-- Stores bytes from an address on, around the end of the space. -/
def poke (m : LineStore) (a : Addr) : Bytes → LineStore
  | [] => m
  | byte :: rest => (m.setByte a byte).poke (a.offset 1) rest

@[simp] theorem length_peek (m : LineStore) (a : Addr) (count : Nat) :
    (m.peek a count).length = count := by simp [peek]

@[simp] theorem byteAt_empty (a : Addr) : empty.byteAt a = 0 := by
  simp [byteAt, lineAt, empty, Vector.get]

end LineStore

end LineBridge
