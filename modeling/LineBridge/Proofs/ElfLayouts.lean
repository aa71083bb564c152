import Mathlib
import LineBridge.Image.Elf.Tables
import LineBridge.Proofs.Codec
import LineBridge.Proofs.ElfSegments

/-! Files with the same contents in all four formats. A layout puts the file header first, then the
program header table and then the bytes of all parts, with numbers of the format's width and order.
A reader that yields from each layout the entry point and the headers that went into it gives one
and the same image for all of them; one that follows the format does. -/

namespace LineBridge.Elf

/-- What a program header says, and its bytes in the file. -/
structure Part where
  kind : Nat
  addr : Nat
  data : Bytes
  memoryBytes : Nat

/-- The contents of a file. -/
structure Program where
  entry : Nat
  parts : List Part

namespace Format

variable (f : Format)

/-- A number as the format writes it. -/
def field (size value : Nat) : Bytes :=
  match f.order with
  | .little => Bytes.littleEndian size value
  | .big => (Bytes.littleEndian size value).reverse

/-- A record is made of fields, each with its size. -/
def record (fields : List (Nat × Nat)) : Bytes := fields.flatMap fun (size, value) => f.field size value

/-- The size of offsets and addresses. -/
def wordBytes : Nat := f.byWidth 4 8

/-- The first bytes of a file, which tell its format. -/
def identity : Bytes :=
  let order : UInt8 := match f.order with
    | .little => 1
    | .big => 2
  [0x7f, 0x45, 0x4c, 0x46, f.byWidth 1 2, order, 1, 0, 0, 0, 0, 0, 0, 0, 0, 0]

/-- The fields of the file header behind the identity. -/
def headerFields (entry count : Nat) : List (Nat × Nat) :=
  let word := f.wordBytes
  [(2, 2), (2, 0xf3), (4, 1), (word, entry), (word, f.fileHeaderBytes), (word, 0), (4, 0),
    (2, f.fileHeaderBytes), (2, f.segmentEntryBytes), (2, count), (2, f.sectionEntryBytes), (2, 0),
    (2, 0)]

/-- The fields of the program header of a part whose bytes start at an offset. -/
def segmentFields (part : Part) (offset : Nat) : List (Nat × Nat) :=
  f.byWidth
    [(4, part.kind), (4, offset), (4, part.addr), (4, part.addr), (4, part.data.length),
      (4, part.memoryBytes), (4, 5), (4, 1)]
    [(4, part.kind), (4, 5), (8, offset), (8, part.addr), (8, part.addr), (8, part.data.length),
      (8, part.memoryBytes), (8, 1)]

end Format

/-- Parts with the offsets of their bytes, which start at `start` and follow each other. -/
def placed (start : Nat) : List Part → List (Part × Nat)
  | [] => []
  | part :: rest => (part, start) :: placed (start + part.data.length) rest

namespace Program

variable (program : Program) (f : Format)

def bytesStart : Nat := f.fileHeaderBytes + program.parts.length * f.segmentEntryBytes

def table : List (Part × Nat) := placed (program.bytesStart f) program.parts

/-- The program header table as it stands in the file. -/
def entries : List Bytes :=
  (program.table f).map fun entry => f.record (f.segmentFields entry.1 entry.2)

def layout : Bytes :=
  f.identity ++ (f.record (f.headerFields program.entry program.parts.length) ++
    ((program.entries f).flatten ++ program.parts.flatMap Part.data))

def headers : List ProgramHeader :=
  (program.table f).map fun entry =>
    ⟨entry.1.kind, entry.2, entry.1.addr, entry.1.data.length, entry.1.memoryBytes⟩

/-- All numbers fit their fields. -/
structure Fits : Prop where
  count : program.parts.length < 0xFFFF
  entry : program.entry < Bytes.capacity f.wordBytes
  size : (program.layout f).length < Bytes.capacity f.wordBytes
  kind : ∀ part ∈ program.parts, part.kind < Bytes.capacity 4
  addr : ∀ part ∈ program.parts, part.addr < Bytes.capacity f.wordBytes
  memoryBytes : ∀ part ∈ program.parts, part.memoryBytes < Bytes.capacity f.wordBytes

end Program

theorem Bytes.capacity_pos (width : Nat) : 0 < Bytes.capacity width := by
  induction width with
  | zero => exact Nat.one_pos
  | succ width ih => exact Nat.mul_pos (by decide) ih

namespace Format

variable (f : Format)

@[simp] theorem length_field (size value : Nat) : (f.field size value).length = size := by
  unfold field
  split <;> simp

theorem length_record (fields : List (Nat × Nat)) :
    (f.record fields).length = (fields.map Prod.fst).sum := by
  simp [record, List.length_flatMap]

theorem number_field (front rest : Bytes) {size value : Nat} (fits : value < Bytes.capacity size) :
    f.number (front ++ (f.field size value ++ rest)) front.length size = value := by
  have found : ((front ++ (f.field size value ++ rest)).drop front.length).take size =
      f.field size value := by
    rw [List.drop_left, List.take_left' (f.length_field size value)]
  simp only [number]
  rw [found]
  obtain ⟨width, order⟩ := f
  cases order with
  | little => exact Bytes.ofLittleEndian_littleEndian_of_lt fits
  | big =>
    simp only [field, Bytes.ofBigEndian, List.reverse_reverse]
    exact Bytes.ofLittleEndian_littleEndian_of_lt fits

/-- Fields that follow each other from an offset on. -/
def Reads (bytes : Bytes) : Nat → List (Nat × Nat) → Prop
  | _, [] => True
  | offset, (size, value) :: rest =>
    f.number bytes offset size = value ∧ Reads bytes (offset + size) rest

/-- The fields of a record read back as they were written, wherever it stands. -/
theorem reads_record (front : Bytes) (fields : List (Nat × Nat)) (rest : Bytes)
    (fit : ∀ field ∈ fields, field.2 < Bytes.capacity field.1) :
    f.Reads (front ++ (f.record fields ++ rest)) front.length fields := by
  induction fields generalizing front with
  | nil => exact trivial
  | cons field fields ih =>
    obtain ⟨fits, later⟩ := List.forall_mem_cons.mp fit
    have bytes : f.record (field :: fields) ++ rest =
        f.field field.1 field.2 ++ (f.record fields ++ rest) := by
      rw [record, List.flatMap_cons, List.append_assoc]
      rfl
    rw [bytes]
    refine ⟨f.number_field front _ fits, ?_⟩
    have behind := ih (front ++ f.field field.1 field.2) later
    rwa [List.append_assoc, List.length_append, length_field] at behind

/-- Numbers that the file header holds besides the entry point. -/
theorem sizes_lt : f.fileHeaderBytes < Bytes.capacity f.wordBytes ∧
    f.fileHeaderBytes < Bytes.capacity 2 ∧ f.segmentEntryBytes < Bytes.capacity 2 ∧
    f.sectionEntryBytes < Bytes.capacity 2 := by
  obtain ⟨width, order⟩ := f
  cases width <;> cases order <;> decide

@[simp] theorem length_identity : f.identity.length = 16 := rfl

theorem length_headerFields (entry count : Nat) :
    (f.record (f.headerFields entry count)).length + 16 = f.fileHeaderBytes := by
  rw [length_record]
  obtain ⟨width, order⟩ := f
  cases width <;> rfl

theorem length_segmentFields (part : Part) (offset : Nat) :
    (f.record (f.segmentFields part offset)).length = f.segmentEntryBytes := by
  rw [length_record]
  obtain ⟨width, order⟩ := f
  cases width <;> rfl

theorem kindOf_identity (rest : Bytes) : kindOf (f.identity ++ rest) = .ok (.elf f.width) := by
  have some : ¬(f.identity ++ rest).length < 16 := by
    rw [List.length_append, length_identity]
    omega
  obtain ⟨width, order⟩ := f
  rw [kindOf, if_neg some]
  cases width <;> rfl

theorem formatOf_identity {rest : Bytes} (long : f.fileHeaderBytes ≤ (f.identity ++ rest).length) :
    formatOf f.width (f.identity ++ rest) = .ok f := by
  obtain ⟨width, order⟩ := f
  have header : ¬((mk width order).identity ++ rest).length < (mk width .little).fileHeaderBytes :=
    Nat.not_lt.mpr long
  rw [formatOf]
  cases width <;> cases order <;> exact if_neg header

/-- The file header reads back as it was written, whatever stands behind it. -/
theorem fileHeader_record {entry count : Nat} (fits : entry < Bytes.capacity f.wordBytes)
    (few : count < 0xFFFF) (rest : Bytes) :
    f.fileHeader (f.identity ++ (f.record (f.headerFields entry count) ++ rest)) =
      ⟨entry, f.fileHeaderBytes, 0, f.segmentEntryBytes, count, f.sectionEntryBytes, 0, 0⟩ := by
  have half : count < Bytes.capacity 2 := few.trans (by decide)
  have none (size : Nat) : 0 < Bytes.capacity size := Bytes.capacity_pos size
  have kind : 2 < Bytes.capacity 2 ∧ 0xf3 < Bytes.capacity 2 ∧ 1 < Bytes.capacity 4 := by decide
  obtain ⟨start, header, segments, sections⟩ := f.sizes_lt
  have fit : ∀ field ∈ f.headerFields entry count, field.2 < Bytes.capacity field.1 := by
    simp only [headerFields, List.forall_mem_cons]
    exact ⟨kind.1, kind.2.1, kind.2.2, fits, start, none _, none _, header, segments, half, sections,
      none _, none _, List.forall_mem_nil _⟩
  have read := f.reads_record f.identity (f.headerFields entry count) rest fit
  obtain ⟨width, order⟩ := f
  cases width
  all_goals
    simp only [headerFields, Reads, length_identity, wordBytes, byWidth, Nat.reduceAdd] at read
    obtain ⟨-, -, -, entered, start, sections, -, -, size, number, sectionSize, none, names, -⟩ := read
    simp only [fileHeader, byWidth, FileHeader.mk.injEq]
    exact ⟨entered, start, sections, size, number, sectionSize, none, names⟩

/-- A program header reads back as it was written. -/
theorem programHeader_record {part : Part} {offset : Nat} (kind : part.kind < Bytes.capacity 4)
    (start : offset < Bytes.capacity f.wordBytes) (addr : part.addr < Bytes.capacity f.wordBytes)
    (size : part.data.length < Bytes.capacity f.wordBytes)
    (memory : part.memoryBytes < Bytes.capacity f.wordBytes) :
    f.programHeader (f.record (f.segmentFields part offset)) =
      ⟨part.kind, offset, part.addr, part.data.length, part.memoryBytes⟩ := by
  have small : 5 < Bytes.capacity 4 ∧ 1 < Bytes.capacity 4 ∧ 1 < Bytes.capacity 8 := by decide
  have read := f.reads_record [] (f.segmentFields part offset) []
  rw [List.append_nil, List.nil_append] at read
  obtain ⟨width, order⟩ := f
  cases width with
  | bits32 =>
    simp only [segmentFields, byWidth, wordBytes, List.forall_mem_cons] at *
    obtain ⟨kind, start, -, addr, size, memory, -⟩ := read ⟨kind, start, addr, addr, size, memory,
      small.1, small.2.1, List.forall_mem_nil _⟩
    simp only [programHeader, byWidth, ProgramHeader.mk.injEq]
    exact ⟨kind, start, addr, size, memory⟩
  | bits64 =>
    simp only [segmentFields, byWidth, wordBytes, List.forall_mem_cons] at *
    obtain ⟨kind, -, start, -, addr, size, memory, -⟩ := read ⟨kind, small.1, start, addr, addr, size,
      memory, small.2.2, List.forall_mem_nil _⟩
    simp only [programHeader, byWidth, ProgramHeader.mk.injEq]
    exact ⟨kind, start, addr, size, memory⟩

end Format

/-- Records of one size are found again. -/
theorem records_flatten {entries : List Bytes} {size : Nat}
    (sized : ∀ entry ∈ entries, entry.length = size) :
    records entries.flatten size entries.length = entries := by
  induction entries with
  | nil => rfl
  | cons entry rest ih =>
    obtain ⟨first, later⟩ := List.forall_mem_cons.mp sized
    rw [List.flatten_cons, List.length_cons, records, List.take_left' first, List.drop_left' first,
      ih later]

theorem slice?_append (front middle rest : Bytes) :
    slice? (front ++ (middle ++ rest)) front.length middle.length = some middle := by
  have inside : front.length + middle.length ≤ (front ++ (middle ++ rest)).length := by
    simp only [List.length_append]
    omega
  rw [slice?, if_pos inside, List.drop_left, List.take_left]

@[simp] theorem length_placed (start : Nat) (parts : List Part) :
    (placed start parts).length = parts.length := by
  induction parts generalizing start with
  | nil => rfl
  | cons part rest ih => rw [placed, List.length_cons, ih, List.length_cons]

theorem mem_of_mem_placed {start : Nat} {parts : List Part} {entry : Part × Nat}
    (member : entry ∈ placed start parts) : entry.1 ∈ parts := by
  induction parts generalizing start with
  | nil => cases member
  | cons part rest ih =>
    rcases List.mem_cons.mp member with rfl | member
    · exact List.mem_cons_self ..
    · exact List.mem_cons_of_mem _ (ih member)

/-- The bytes of a part stand at its offset. -/
theorem slice?_placed {front : Bytes} {parts : List Part} {entry : Part × Nat}
    (member : entry ∈ placed front.length parts) :
    slice? (front ++ parts.flatMap Part.data) entry.2 entry.1.data.length = some entry.1.data := by
  induction parts generalizing front with
  | nil => cases member
  | cons part rest ih =>
    rw [List.flatMap_cons]
    rcases List.mem_cons.mp member with rfl | member
    · exact slice?_append ..
    · rw [← List.length_append] at member
      have found := ih member
      rwa [List.append_assoc] at found

namespace Program

variable (program : Program) (f : Format)

theorem length_entries : (program.entries f).length = program.parts.length := by
  rw [entries, List.length_map, table, length_placed]

theorem sized_entries : ∀ entry ∈ program.entries f, entry.length = f.segmentEntryBytes := by
  intro entry member
  obtain ⟨_, _, rfl⟩ := List.mem_map.mp member
  exact f.length_segmentFields _ _

theorem length_flatten_entries :
    (program.entries f).flatten.length = program.parts.length * f.segmentEntryBytes := by
  rw [List.length_flatten, List.map_congr_left (program.sized_entries f), List.map_const',
    List.sum_replicate, length_entries, smul_eq_mul]

/-- The file header, with its identity. -/
def opening : Bytes :=
  f.identity ++ f.record (f.headerFields program.entry program.parts.length)

theorem length_opening : (program.opening f).length = f.fileHeaderBytes := by
  rw [opening, List.length_append, Format.length_identity, Nat.add_comm, Format.length_headerFields]

theorem layout_eq : program.layout f =
    program.opening f ++ ((program.entries f).flatten ++ program.parts.flatMap Part.data) := by
  rw [layout, opening, List.append_assoc]

theorem length_layout : (program.layout f).length =
    program.bytesStart f + (program.parts.flatMap Part.data).length := by
  rw [layout_eq, List.length_append, List.length_append, length_opening, length_flatten_entries,
    ← Nat.add_assoc, bytesStart]

/-- The bytes of a part stand in the file at the offset that its header gives. -/
theorem slice?_layout {entry : Part × Nat} (member : entry ∈ program.table f) :
    slice? (program.layout f) entry.2 entry.1.data.length = some entry.1.data := by
  have start : (program.opening f ++ (program.entries f).flatten).length = program.bytesStart f := by
    rw [List.length_append, length_opening, length_flatten_entries, bytesStart]
  rw [table, ← start] at member
  rw [layout_eq, ← List.append_assoc]
  exact slice?_placed member

variable {program f} (fits : program.Fits f)
include fits

theorem Fits.programHeader {entry : Part × Nat} (member : entry ∈ program.table f) :
    f.programHeader (f.record (f.segmentFields entry.1 entry.2)) =
      ⟨entry.1.kind, entry.2, entry.1.addr, entry.1.data.length, entry.1.memoryBytes⟩ := by
  have part := mem_of_mem_placed member
  have inside : entry.2 + entry.1.data.length ≤ (program.layout f).length := by
    have found := program.slice?_layout f member
    unfold slice? at found
    split at found
    · assumption
    · cases found
  have size := fits.size
  exact f.programHeader_record (fits.kind _ part) (by omega) (fits.addr _ part) (by omega)
    (fits.memoryBytes _ part)

theorem Fits.programHeaders :
    programHeaders f (program.layout f) ⟨program.entry, f.fileHeaderBytes, 0, f.segmentEntryBytes,
      program.parts.length, f.sectionEntryBytes, 0, 0⟩ = .ok (program.headers f) := by
  have behind : f.fileHeaderBytes ≠ 0 := by
    obtain ⟨width, order⟩ := f
    cases width <;> exact Nat.succ_ne_zero _
  have few : program.parts.length < 0xFFFF := fits.count
  have found : slice? (program.layout f) f.fileHeaderBytes
      (program.parts.length * f.segmentEntryBytes) = some (program.entries f).flatten := by
    rw [layout_eq, ← length_opening, ← length_flatten_entries]
    exact slice?_append ..
  have read : (program.entries f).map f.programHeader = program.headers f := by
    rw [entries, List.map_map, headers]
    exact List.map_congr_left fun entry member => fits.programHeader member
  have cut := records_flatten (program.sized_entries f)
  rw [length_entries] at cut
  rw [Elf.programHeaders, if_neg behind, segmentCount, if_pos few]
  show (if program.parts.length = 0 then _ else _ : Except ImageFault (List ProgramHeader)) = _
  split
  · next none =>
    have empty : program.parts = [] := List.length_eq_zero_iff.mp none
    rw [headers, table, empty]
    rfl
  · simp only [ne_eq, not_true_eq_false, if_false, found, cut, read]
    rfl

theorem Fits.tables :
    tables f.width (program.layout f) = .ok (program.entry, program.headers f) := by
  have long : f.fileHeaderBytes ≤ (program.layout f).length := by
    rw [layout_eq, List.length_append, length_opening]
    exact Nat.le_add_right ..
  have format : formatOf f.width (program.layout f) = .ok f := f.formatOf_identity long
  have header : f.fileHeader (program.layout f) = ⟨program.entry, f.fileHeaderBytes, 0,
      f.segmentEntryBytes, program.parts.length, f.sectionEntryBytes, 0, 0⟩ :=
    f.fileHeader_record fits.entry fits.count _
  rw [Elf.tables, format]
  show (do
    let segments ← Elf.programHeaders f (program.layout f) (f.fileHeader (program.layout f))
    _ : Except ImageFault (Nat × List ProgramHeader)) = _
  rw [header, fits.programHeaders]
  rfl

/-- A reader that follows the format yields the entry point and the headers that went into a
layout. -/
theorem Fits.yields :
    reader.Yields (program.layout f) program.entry (program.headers f) where
  tables := ⟨f.width, f.kindOf_identity _, fits.tables⟩
  data _ _ := rfl

end Program

theorem placed_same (start start' : Nat) (parts : List Part) :
    List.Forall₂ (fun entry entry' => entry.1 = entry'.1) (placed start parts)
      (placed start' parts) := by
  induction parts generalizing start start' with
  | nil => exact .nil
  | cons part rest ih => exact .cons rfl (ih _ _)

/-- The headers of two layouts differ only in where they put the bytes. -/
theorem Program.headers_like (program : Program) (f f' : Format) :
    List.Forall₂ (ProgramHeader.Like (program.layout f) (program.layout f')) (program.headers f)
      (program.headers f') := by
  have same : List.Forall₂ (fun entry entry' => entry.1 = entry'.1) (program.table f)
      (program.table f') := placed_same _ _ _
  rw [headers, headers, List.forall₂_map_left_iff, List.forall₂_map_right_iff,
    List.forall₂_iff_get]
  refine ⟨same.length_eq, fun i h h' => ?_⟩
  have part := same.get h h'
  have found := program.slice?_layout f (List.get_mem (program.table f) ⟨i, h⟩)
  have found' := program.slice?_layout f' (List.get_mem (program.table f') ⟨i, h'⟩)
  rw [← part] at found'
  refine ⟨congrArg Part.kind part, congrArg Part.addr part, congrArg Part.memoryBytes part, ?_⟩
  simp only [stored]
  rw [found, ← part, found']

/-- A file whose tables the reader yields gives an image just if its entry point lies in the space,
if every header that is to be loaded can be, and if there is one; the image holds what these headers
ask for, in their order. Otherwise the fault is that of the entry point, or else of the first
header that cannot be loaded, or else the lack of any. Neither other headers nor the places of the
bytes matter, and a program that is laid out in two formats has one and the same image. -/
theorem parse_exact (reader : Reader) :
    (∀ file entry headers, reader.Yields file entry headers →
      ((∃ image, parse reader file = .ok image) ↔
        entry < spaceBytes ∧ (∀ p ∈ loaded headers, p.Loads file) ∧ loaded headers ≠ []) ∧
      (∀ image, parse reader file = .ok image → image.entry.toNat = entry ∧
        List.Forall₂ (fun p segment => segment.addr.val.toNat = p.addr ∧
          segment.data = (file.drop p.offset).take p.fileBytes ++
            List.replicate (p.memoryBytes - p.fileBytes) 0 ∧
          segment.data.length = p.memoryBytes) (loaded headers) image.segments) ∧
      ∀ e, parse reader file = .error e →
        (spaceBytes ≤ entry ∧ e = .outOfRange entry 0) ∨
        (entry < spaceBytes ∧ ∃ before p after, loaded headers = before ++ p :: after ∧
          (∀ q ∈ before, q.Loads file) ∧ ¬p.Loads file ∧ e = p.refusal file) ∨
        (entry < spaceBytes ∧ loaded headers = [] ∧ e = .image .noSegments)) ∧
    (∀ file file' entry headers headers', reader.Yields file entry headers →
      reader.Yields file' entry headers' →
      List.Forall₂ (ProgramHeader.Like file file') (loaded headers) (loaded headers') →
      parse reader file = parse reader file') ∧
    ∀ (program : Program) (f f' : Format),
      reader.Yields (program.layout f) program.entry (program.headers f) →
      reader.Yields (program.layout f') program.entry (program.headers f') →
      parse reader (program.layout f) = parse reader (program.layout f') := by
  refine ⟨?_, ?_, ?_⟩
  · intro file entry headers yields
    have extracts := imageOf_extracts file entry headers
    rw [← parse_of_yields yields] at extracts
    exact ⟨extracts.ok_iff, fun _ => extracts.image_segments, fun _ => extracts.error_cause⟩
  · intro file file' entry headers headers' yields yields' like
    rw [parse_of_yields yields, parse_of_yields yields']
    exact imageOf_like entry like
  · intro program f f' yields yields'
    rw [parse_of_yields yields, parse_of_yields yields']
    exact imageOf_like program.entry (loaded_like (program.headers_like f f'))

/-- A note and a segment that ends with the space, in a small and in a large format. -/
theorem parse_exact_last_line :
    let program : Program := ⟨0x80000000, [⟨4, 0, [0xab], 1⟩, ⟨1, 0xfffffff8, [1, 2, 3], 8⟩]⟩
    let small : Format := ⟨.bits32, .little⟩
    let large : Format := ⟨.bits64, .big⟩
    let image : Image := ⟨[⟨⟨0xfffffff8⟩, [1, 2, 3, 0, 0, 0, 0, 0]⟩], 0x80000000⟩
    reader.Yields (program.layout small) program.entry (program.headers small) ∧
      reader.Yields (program.layout large) program.entry (program.headers large) ∧
      (∀ p ∈ loaded (program.headers small), p.Loads (program.layout small)) ∧
      parse reader (program.layout small) = .ok image ∧
      parse reader (program.layout large) = .ok image := by
  intro program small large image
  have size : (program.layout small).length < Bytes.capacity small.wordBytes := by
    rw [Program.length_layout]
    decide
  have size' : (program.layout large).length < Bytes.capacity large.wordBytes := by
    rw [Program.length_layout]
    decide
  have fits : program.Fits small :=
    ⟨by decide, by decide, size, by decide, by decide, by decide⟩
  have fits' : program.Fits large :=
    ⟨by decide, by decide, size', by decide, by decide, by decide⟩
  have parsed : parse reader (program.layout small) = .ok image := by decide +kernel
  obtain ⟨exact, -, formats⟩ := parse_exact reader
  obtain ⟨-, all, -⟩ := (exact _ _ _ fits.yields).1.mp ⟨image, parsed⟩
  exact ⟨fits.yields, fits'.yields, all, parsed,
    (formats program small large fits.yields fits'.yields).symm.trans parsed⟩

end LineBridge.Elf
