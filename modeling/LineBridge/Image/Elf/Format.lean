import LineBridge.Fault

/-! Records of an ELF file. A file has 32- or 64-bit records and numbers of either byte order;
once a record has been read, none of that shows. -/

namespace LineBridge.Elf

/-- The size class of a file's records. -/
inductive Width where
  | bits32
  | bits64
deriving DecidableEq, Repr

inductive Order where
  | little
  | big
deriving DecidableEq, Repr

structure Format where
  width : Width
  order : Order
deriving DecidableEq, Repr

/-- The part of a file at an offset, if it lies inside the file. -/
def slice? (file : Bytes) (offset size : Nat) : Option Bytes :=
  if offset + size ≤ file.length then some ((file.drop offset).take size) else none

namespace Format

variable (f : Format)

/-- The number in `size` bytes at an offset of a record. -/
def number (record : Bytes) (offset size : Nat) : Nat :=
  let field := (record.drop offset).take size
  match f.order with
  | .little => Bytes.ofLittleEndian field
  | .big => Bytes.ofBigEndian field

/-- Chooses by size class. -/
def byWidth {α : Type} (bits32 bits64 : α) : α :=
  match f.width with
  | .bits32 => bits32
  | .bits64 => bits64

def fileHeaderBytes : Nat := f.byWidth 52 64
def segmentEntryBytes : Nat := f.byWidth 32 56
def sectionEntryBytes : Nat := f.byWidth 40 64
def symbolEntryBytes : Nat := f.byWidth 16 24

end Format

/-- What the file header says about the tables. -/
structure FileHeader where
  entry : Nat
  segmentOffset : Nat
  sectionOffset : Nat
  segmentEntryBytes : Nat
  segmentCount : Nat
  sectionEntryBytes : Nat
  sectionCount : Nat
  nameTable : Nat
deriving DecidableEq, Repr

/-- An entry of the program header table. -/
structure ProgramHeader where
  kind : Nat
  offset : Nat
  addr : Nat
  fileBytes : Nat
  memoryBytes : Nat
deriving DecidableEq, Repr

/-- An entry of the section header table. -/
structure SectionHeader where
  kind : Nat
  offset : Nat
  size : Nat
  link : Nat
  info : Nat
deriving DecidableEq, Repr

namespace Format

variable (f : Format) (record : Bytes)

def fileHeader : FileHeader :=
  let n := f.number record
  f.byWidth
    { entry := n 24 4, segmentOffset := n 28 4, sectionOffset := n 32 4,
      segmentEntryBytes := n 42 2, segmentCount := n 44 2, sectionEntryBytes := n 46 2,
      sectionCount := n 48 2, nameTable := n 50 2 }
    { entry := n 24 8, segmentOffset := n 32 8, sectionOffset := n 40 8,
      segmentEntryBytes := n 54 2, segmentCount := n 56 2, sectionEntryBytes := n 58 2,
      sectionCount := n 60 2, nameTable := n 62 2 }

def programHeader : ProgramHeader :=
  let n := f.number record
  f.byWidth
    { kind := n 0 4, offset := n 4 4, addr := n 12 4, fileBytes := n 16 4,
      memoryBytes := n 20 4 }
    { kind := n 0 4, offset := n 8 8, addr := n 24 8, fileBytes := n 32 8,
      memoryBytes := n 40 8 }

def sectionHeader : SectionHeader :=
  let n := f.number record
  f.byWidth
    { kind := n 4 4, offset := n 16 4, size := n 20 4, link := n 24 4, info := n 28 4 }
    { kind := n 4 4, offset := n 24 8, size := n 32 8, link := n 40 4, info := n 44 4 }

end Format

end LineBridge.Elf
