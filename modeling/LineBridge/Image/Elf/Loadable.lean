import LineBridge.Image
import LineBridge.Image.Elf.Reader

/-! The image in an ELF file: every loadable entry of the program header table that occupies
memory becomes a segment at its physical address, its bytes from the file followed by zeros up
to its size in memory. All other entries are ignored. -/

namespace LineBridge.Elf

/-- The kind of a program header whose segment is loaded. -/
def loadable : Nat := 1

/-- A range that may come from 64-bit fields, as a place in the address space. -/
def place (addr len : Nat) : Except Fault Addr :=
  if spaceBytes ≤ addr ∨ spaceBytes < addr + len then .error (.outOfRange addr len)
  else .ok ⟨UInt32.ofNat addr⟩

/-- An entry is loaded if it is loadable and occupies memory. -/
def isLoaded (p : ProgramHeader) : Bool := p.kind == loadable && p.memoryBytes != 0

variable (data : ProgramHeader → Option Bytes)

def segmentOf (p : ProgramHeader) : Except Fault Segment := do
  let addr ← place p.addr p.memoryBytes
  match data p with
  | none => throw (.image (.segmentOverrunsFile p.addr))
  | some bytes =>
    if p.memoryBytes < bytes.length then throw (.image (.segmentLargerInFile p.addr))
    else pure ⟨addr, bytes ++ List.replicate (p.memoryBytes - bytes.length) 0⟩

/-- The image that an entry point and a program header table describe. -/
def imageOf (entry : Nat) (headers : List ProgramHeader) : Except Fault Image := do
  let entry ← place entry 0
  let segments ← (headers.filter isLoaded).mapM (segmentOf data)
  if segments.isEmpty then throw (.image .noSegments)
  else pure ⟨segments, entry.val⟩

/-- The image in a file. -/
def parse (reader : Reader) (file : Bytes) : Except Fault Image :=
  match reader.kindOf file with
  | .error cause => .error (.image cause)
  | .ok (.other name) => .error (.image (.notElf name))
  | .ok (.elf width) =>
    match reader.tables width file with
    | .error cause => .error (.image cause)
    | .ok (entry, headers) => imageOf (reader.data file) entry headers

end LineBridge.Elf
