import LineBridge.Image.Elf.Reader

/-! A reader of ELF files. A file counts as well formed if its headers are, if both tables
lie inside it, and if its sections refer to each other as they should; sections are not used
for anything else. -/

namespace LineBridge.Elf

namespace SectionKind

def symbols : Nat := 2
def strings : Nat := 3
def relocationsWithAddends : Nat := 4
def noBits : Nat := 8
def relocations : Nat := 9
def dynamicSymbols : Nat := 11
def symbolIndices : Nat := 18

end SectionKind

namespace SectionHeader

/-- The section's bytes in the file; a section without bits has none. -/
def data? (s : SectionHeader) (file : Bytes) : Option Bytes :=
  if s.kind = SectionKind.noBits then some [] else slice? file s.offset s.size

/-- The end of the section in the file passes a 64-bit offset. -/
def endsTooHigh (s : SectionHeader) : Bool := UInt64.size ≤ s.offset + s.size

def isRelocation (s : SectionHeader) : Bool :=
  s.kind == SectionKind.relocations || s.kind == SectionKind.relocationsWithAddends

end SectionHeader

/-- The size class of an ELF file, from its first bytes; other files are not known. -/
def kindOf (file : Bytes) : Except ImageFault FileKind := do
  if file.length < 16 then throw .tooShort
  match file.take 5 with
  | [0x7f, 0x45, 0x4c, 0x46, 1] => pure (.elf .bits32)
  | [0x7f, 0x45, 0x4c, 0x46, 2] => pure (.elf .bits64)
  | _ => throw .unknownMagic

/-- The format of a file with records of a known size class. -/
def formatOf (width : Width) (file : Bytes) : Except ImageFault Format := do
  if file.length < (Format.mk width .little).fileHeaderBytes then throw .headerCutShort
  match (file.drop 5).take 2 with
  | [1, 1] => pure ⟨width, .little⟩
  | [2, 1] => pure ⟨width, .big⟩
  | _ => throw .unsupportedHeader

variable (f : Format) (file : Bytes) (h : FileHeader)

/-- The first section header, which holds numbers too large for the file header. There is none
in a file without sections. -/
def sectionZero : Except ImageFault (Option SectionHeader) :=
  if h.sectionOffset = 0 then .ok none
  else if h.sectionEntryBytes ≠ f.sectionEntryBytes then .error .sectionZeroEntrySize
  else match slice? file h.sectionOffset f.sectionEntryBytes with
    | none => .error .sectionZeroOutside
    | some record => .ok (some (f.sectionHeader record))

/-- Consecutive records of one size. -/
def records (table : Bytes) (size : Nat) : Nat → List Bytes
  | 0 => []
  | count + 1 => table.take size :: records (table.drop size) size count

def segmentCount : Except ImageFault Nat :=
  if h.segmentCount < 0xFFFF then .ok h.segmentCount
  else do
    match ← sectionZero f file h with
    | some zero => pure zero.info
    | none => throw .segmentCountUnknown

/-- The program header table. -/
def programHeaders : Except ImageFault (List ProgramHeader) :=
  if h.segmentOffset = 0 then .ok []
  else do
    let count ← segmentCount f file h
    if count = 0 then pure []
    else if h.segmentEntryBytes ≠ f.segmentEntryBytes then throw .segmentEntrySize
    else match slice? file h.segmentOffset (count * f.segmentEntryBytes) with
      | none => throw .segmentTableOutside
      | some table => pure ((records table f.segmentEntryBytes count).map f.programHeader)

def sectionCount : Except ImageFault Nat :=
  if 0 < h.sectionCount then .ok h.sectionCount
  else do
    match ← sectionZero f file h with
    | some zero => pure zero.size
    | none => pure 0

/-- The section header table. -/
def sectionHeaders : Except ImageFault (List SectionHeader) :=
  if h.sectionOffset = 0 then .ok []
  else do
    let count ← sectionCount f file h
    if count = 0 then pure []
    else if h.sectionEntryBytes ≠ f.sectionEntryBytes then throw .sectionZeroEntrySize
    else match slice? file h.sectionOffset (count * f.sectionEntryBytes) with
      | none => throw .sectionTableOutside
      | some table => pure ((records table f.sectionEntryBytes count).map f.sectionHeader)

/-- Sections need a table of names. -/
def checkNames (sections : List SectionHeader) : Except ImageFault Unit :=
  if sections.isEmpty then .ok ()
  else do
    let index ← if h.nameTable ≠ 0xFFFF then pure h.nameTable
      else do
        match ← sectionZero f file h with
        | some zero => pure zero.link
        | none => pure 0
    if index = 0 then throw .noNameTable
    match sections[index]? with
    | none => throw .badNameTable
    | some names =>
      if names.kind ≠ SectionKind.noBits ∧ names.endsTooHigh then throw .nameTableSize

/-- The bytes of a section are records of one size. -/
def holdsRecords (s : SectionHeader) (size : Nat) : Bool :=
  match s.data? file with
  | none => false
  | some data => data.length % size == 0

/-- Checks the first symbol table of a kind, its names, and the index tables that belong to it;
answers its number, or zero if there is none. -/
def checkSymbols (sections : List SectionHeader) (kind : Nat) : Except ImageFault Nat :=
  match sections.findIdx? (·.kind == kind), sections.find? (·.kind == kind) with
  | some index, some symbols => do
    if !holdsRecords file symbols f.symbolEntryBytes then throw .symbolTableData
    if symbols.link ≠ 0 then
      match sections[symbols.link]? with
      | none => throw .symbolNamesIndex
      | some names =>
        if names.kind ≠ SectionKind.strings then throw .symbolNamesKind
        if names.endsTooHigh then throw .symbolNamesSize
    if sections.any fun s => s.kind == SectionKind.symbolIndices && s.link == index &&
        !holdsRecords file s 4 then
      throw .symbolIndexData
    pure index
  | _, _ => .ok 0

/-- A relocation section that uses the symbol table must name a section that it changes, and
not another relocation section. -/
def checkRelocation (sections : List SectionHeader) (symbols : Nat) (s : SectionHeader) :
    Except ImageFault Unit :=
  if s.isRelocation ∧ s.link = symbols ∧ s.info ≠ 0 then
    match sections[s.info]? with
    | none => .error .relocationTarget
    | some target => if target.isRelocation then .error .relocationOfRelocation else .ok ()
  else .ok ()

/-- Relocation sections are looked at from the last to the first. -/
def checkRelocations (sections : List SectionHeader) (symbols : Nat) : Except ImageFault Unit :=
  sections.reverse.forM (checkRelocation sections symbols)

/-- Entry point and program headers of a well-formed file. -/
def tables (width : Width) (file : Bytes) : Except ImageFault (Nat × List ProgramHeader) := do
  let f ← formatOf width file
  let h := f.fileHeader file
  let segments ← programHeaders f file h
  let sections ← sectionHeaders f file h
  checkNames f file h sections
  let symbols ← checkSymbols f file sections SectionKind.symbols
  let _ ← checkSymbols f file sections SectionKind.dynamicSymbols
  checkRelocations sections symbols
  pure (h.entry, segments)

def reader : Reader where
  kindOf := kindOf
  tables := tables
  data file p := slice? file p.offset p.fileBytes

end LineBridge.Elf
