import Mathlib
import LineBridge.Image.Elf.Loadable

/-! What an image takes from a program header table. It takes the headers that are to be loaded,
in their order, or is refused for the first of them that cannot be; all others are left alone.
Nothing else of the file matters, so files with the same parts give the same image. How the table
is read is left to the reader; only what it yields for a file counts. -/

namespace LineBridge

variable {ε α β : Type}

/-- Everything in a list is good, or there is a first that is not. -/
theorem all_or_first (good : α → Prop) (xs : List α) :
    (∀ x ∈ xs, good x) ∨ ∃ before x after, xs = before ++ x :: after ∧
      (∀ y ∈ before, good y) ∧ ¬good x := by
  induction xs with
  | nil => exact .inl (List.forall_mem_nil _)
  | cons x rest ih =>
    by_cases fine : good x
    · rcases ih with all | ⟨before, y, after, rfl, passed, caught⟩
      · exact .inl (List.forall_mem_cons.mpr ⟨fine, all⟩)
      · exact .inr ⟨x :: before, y, after, rfl, List.forall_mem_cons.mpr ⟨fine, passed⟩, caught⟩
    · exact .inr ⟨[], x, rest, rfl, List.forall_mem_nil _, fine⟩

theorem mapM_eq_ok {f : α → Except ε β} {g : α → β} {xs : List α}
    (all : ∀ x ∈ xs, f x = .ok (g x)) : xs.mapM f = .ok (xs.map g) := by
  induction xs with
  | nil => rfl
  | cons x rest ih =>
    obtain ⟨first, later⟩ := List.forall_mem_cons.mp all
    rw [List.mapM_cons, first, ih later]
    rfl

theorem exists_of_mapM_ok {f : α → Except ε β} {xs : List α} {ys : List β}
    (ended : xs.mapM f = .ok ys) {y : β} (member : y ∈ ys) : ∃ x ∈ xs, f x = .ok y := by
  induction xs generalizing ys with
  | nil =>
    cases ended
    cases member
  | cons x rest ih =>
    rw [List.mapM_cons] at ended
    cases first : f x with
    | error e => rw [first] at ended; cases ended
    | ok z =>
      cases later : rest.mapM f with
      | error e => rw [first, later] at ended; cases ended
      | ok zs =>
        rw [first, later] at ended
        cases ended
        rcases List.mem_cons.mp member with rfl | member
        · exact ⟨x, List.mem_cons_self .., first⟩
        · obtain ⟨w, among, same⟩ := ih later member
          exact ⟨w, List.mem_cons_of_mem _ among, same⟩

theorem mapM_congr {f g : α → Except ε β} {xs ys : List α}
    (alike : List.Forall₂ (fun x y => f x = g y) xs ys) : xs.mapM f = ys.mapM g := by
  induction alike with
  | nil => rfl
  | cons first _ ih => rw [List.mapM_cons, List.mapM_cons, first, ih]

theorem mapM_eq_error {f : α → Except ε β} {g : α → β} {before after : List α} {x : α} {e : ε}
    (passed : ∀ y ∈ before, f y = .ok (g y)) (caught : f x = .error e) :
    (before ++ x :: after).mapM f = .error e := by
  rw [List.mapM_append, mapM_eq_ok passed, List.mapM_cons, caught]
  rfl

namespace Elf

namespace ProgramHeader

variable (p : ProgramHeader) (file : Bytes)

/-- The memory that it asks for lies in the address space. -/
def Placed : Prop := p.addr < spaceBytes ∧ p.addr + p.memoryBytes ≤ spaceBytes

/-- Its memory lies in the address space and its bytes in the file, and they fit the memory. -/
structure Loads : Prop where
  placed : p.Placed
  held : p.offset + p.fileBytes ≤ file.length
  small : p.fileBytes ≤ p.memoryBytes

instance : Decidable p.Placed := inferInstanceAs (Decidable (_ ∧ _))

/-- Its bytes in the file, and zeros behind them. -/
def segment : Segment :=
  ⟨⟨UInt32.ofNat p.addr⟩, (file.drop p.offset).take p.fileBytes ++
    List.replicate (p.memoryBytes - p.fileBytes) 0⟩

/-- Why it cannot be loaded: for its place, or else for its bytes. -/
def refusal : Fault :=
  if ¬p.Placed then .outOfRange p.addr p.memoryBytes
  else if file.length < p.offset + p.fileBytes then .image (.segmentOverrunsFile p.addr)
  else .image (.segmentLargerInFile p.addr)

variable {p file}

theorem Loads.length_segment (loads : p.Loads file) :
    (p.segment file).data.length = p.memoryBytes := by
  have held := loads.held
  have small := loads.small
  simp only [segment, List.length_append, List.length_take, List.length_drop, List.length_replicate]
  omega

theorem Loads.addr_segment (loads : p.Loads file) : (p.segment file).addr.val.toNat = p.addr :=
  UInt32.toNat_ofNat_of_lt' loads.placed.1

end ProgramHeader

/-- The bytes of a header, as they stand in the file. -/
def stored (file : Bytes) (p : ProgramHeader) : Option Bytes := slice? file p.offset p.fileBytes

section Headers

variable {file : Bytes} {p : ProgramHeader}

theorem place_of_placed {addr len : Nat} (low : addr < spaceBytes) (inside : addr + len ≤ spaceBytes) :
    place addr len = .ok ⟨UInt32.ofNat addr⟩ := by
  rw [place, if_neg (not_or.mpr ⟨Nat.not_le.mpr low, Nat.not_lt.mpr inside⟩)]

theorem length_slice {offset size : Nat} (held : offset + size ≤ file.length) :
    ((file.drop offset).take size).length = size := by
  rw [List.length_take, List.length_drop]
  omega

theorem segmentOf_of_loads (loads : p.Loads file) :
    segmentOf (stored file) p = .ok (p.segment file) := by
  rw [segmentOf, place_of_placed loads.placed.1 loads.placed.2]
  simp only [stored, slice?, if_pos loads.held, length_slice loads.held,
    if_neg (Nat.not_lt.mpr loads.small)]
  rfl

theorem segmentOf_of_not_loads (caught : ¬p.Loads file) :
    segmentOf (stored file) p = .error (p.refusal file) := by
  rw [segmentOf, ProgramHeader.refusal]
  by_cases placed : p.Placed
  · rw [if_neg (not_not.mpr placed), place_of_placed placed.1 placed.2]
    by_cases held : p.offset + p.fileBytes ≤ file.length
    · have large : p.memoryBytes < p.fileBytes :=
        Nat.lt_of_not_le fun small => caught ⟨placed, held, small⟩
      rw [if_neg (Nat.not_lt.mpr held)]
      simp only [stored, slice?, if_pos held, length_slice held, if_pos large]
      rfl
    · rw [if_pos (Nat.lt_of_not_le held)]
      simp only [stored, slice?, if_neg held]
      rfl
  · have outside : spaceBytes ≤ p.addr ∨ spaceBytes < p.addr + p.memoryBytes := by
      unfold ProgramHeader.Placed at placed
      omega
    rw [if_pos placed, place, if_pos outside]
    rfl

end Headers

/-- The headers that are to be loaded, in their order. -/
def loaded (headers : List ProgramHeader) : List ProgramHeader :=
  headers.filter fun p => p.kind = loadable ∧ p.memoryBytes ≠ 0

theorem filter_isLoaded (headers : List ProgramHeader) :
    headers.filter isLoaded = loaded headers := by
  apply List.filter_congr
  intro p _
  rw [Bool.eq_iff_iff]
  simp [isLoaded]

/-- What comes of an entry point and the headers that are to be loaded. -/
inductive Extracts (file : Bytes) (entry : Nat) : List ProgramHeader → Except Fault Image → Prop
  | highEntry {parts : List ProgramHeader} (high : spaceBytes ≤ entry) :
    Extracts file entry parts (.error (.outOfRange entry 0))
  | refused {before after : List ProgramHeader} {p : ProgramHeader} (low : entry < spaceBytes)
    (passed : ∀ q ∈ before, q.Loads file) (caught : ¬p.Loads file) :
    Extracts file entry (before ++ p :: after) (.error (p.refusal file))
  | empty (low : entry < spaceBytes) : Extracts file entry [] (.error (.image .noSegments))
  | image {parts : List ProgramHeader} (low : entry < spaceBytes) (some : parts ≠ [])
    (all : ∀ q ∈ parts, q.Loads file) :
    Extracts file entry parts (.ok ⟨parts.map (·.segment file), UInt32.ofNat entry⟩)

theorem imageOf_extracts (file : Bytes) (entry : Nat) (headers : List ProgramHeader) :
    Extracts file entry (loaded headers) (imageOf (stored file) entry headers) := by
  rw [imageOf, filter_isLoaded]
  by_cases high : spaceBytes ≤ entry
  · rw [place, if_pos (.inl high)]
    exact .highEntry high
  · have low := Nat.lt_of_not_le high
    rw [place_of_placed low low.le]
    rcases all_or_first (ProgramHeader.Loads · file) (loaded headers) with
      all | ⟨before, p, after, parts, passed, caught⟩
    · rw [mapM_eq_ok fun q member => segmentOf_of_loads (all q member)]
      generalize loaded headers = parts at all
      cases parts with
      | nil => exact .empty low
      | cons p rest => exact .image low (List.cons_ne_nil _ _) all
    · rw [parts, mapM_eq_error (fun q member => segmentOf_of_loads (passed q member))
        (segmentOf_of_not_loads caught)]
      exact .refused low passed caught

namespace Extracts

variable {file : Bytes} {entry : Nat} {parts : List ProgramHeader} {result : Except Fault Image}
  (extracts : Extracts file entry parts result)
include extracts

theorem ok_iff : (∃ image, result = .ok image) ↔
    entry < spaceBytes ∧ (∀ p ∈ parts, p.Loads file) ∧ parts ≠ [] := by
  cases extracts with
  | highEntry high => exact ⟨nofun, fun h => absurd h.1 (Nat.not_lt.mpr high)⟩
  | refused low passed caught =>
    exact ⟨nofun, fun h => absurd (h.2.1 _ (List.mem_append_right _ (List.mem_cons_self ..))) caught⟩
  | empty low => exact ⟨nofun, fun h => absurd rfl h.2.2⟩
  | image low some all => exact ⟨fun _ => ⟨low, all, some⟩, fun _ => ⟨_, rfl⟩⟩

/-- The image holds the headers in their order, each with all of its memory. -/
theorem image_segments {image : Image} (ended : result = .ok image) :
    image.entry.toNat = entry ∧
      List.Forall₂ (fun p segment => segment.addr.val.toNat = p.addr ∧
        segment.data = (file.drop p.offset).take p.fileBytes ++
          List.replicate (p.memoryBytes - p.fileBytes) 0 ∧
        segment.data.length = p.memoryBytes) parts image.segments := by
  cases extracts with
  | highEntry high => cases ended
  | refused low passed caught => cases ended
  | empty low => cases ended
  | image low some all =>
    cases ended
    refine ⟨UInt32.toNat_ofNat_of_lt' low, ?_⟩
    rw [List.forall₂_map_right_iff, List.forall₂_same]
    exact fun p member => ⟨(all p member).addr_segment, rfl, (all p member).length_segment⟩

theorem error_cause {e : Fault} (ended : result = .error e) :
    (spaceBytes ≤ entry ∧ e = .outOfRange entry 0) ∨
    (entry < spaceBytes ∧ ∃ before p after, parts = before ++ p :: after ∧
      (∀ q ∈ before, q.Loads file) ∧ ¬p.Loads file ∧ e = p.refusal file) ∨
    (entry < spaceBytes ∧ parts = [] ∧ e = .image .noSegments) := by
  cases extracts with
  | highEntry high =>
    cases ended
    exact .inl ⟨high, rfl⟩
  | refused low passed caught =>
    cases ended
    exact .inr (.inl ⟨low, _, _, _, rfl, passed, caught, rfl⟩)
  | empty low =>
    cases ended
    exact .inr (.inr ⟨low, rfl, rfl⟩)
  | image low some all => cases ended

end Extracts

section Formats

variable {file file' : Bytes}

/-- Headers of two files that ask for the same memory and the same bytes. -/
structure ProgramHeader.Like (file file' : Bytes) (p q : ProgramHeader) : Prop where
  kind : p.kind = q.kind
  addr : p.addr = q.addr
  memoryBytes : p.memoryBytes = q.memoryBytes
  data : stored file p = stored file' q

theorem segmentOf_like {p q : ProgramHeader} (like : p.Like file file' q) :
    segmentOf (stored file) p = segmentOf (stored file') q := by
  rw [segmentOf, segmentOf, like.addr, like.memoryBytes, like.data]

theorem loaded_like {headers headers' : List ProgramHeader}
    (like : List.Forall₂ (ProgramHeader.Like file file') headers headers') :
    List.Forall₂ (ProgramHeader.Like file file') (loaded headers) (loaded headers') := by
  refine List.rel_filter ?_ like
  intro p q same
  simp only [same.kind, same.memoryBytes]

/-- Where in a file the bytes stand does not matter, nor which headers are ignored. -/
theorem imageOf_like {headers headers' : List ProgramHeader} (entry : Nat)
    (like : List.Forall₂ (ProgramHeader.Like file file') (loaded headers) (loaded headers')) :
    imageOf (stored file) entry headers = imageOf (stored file') entry headers' := by
  rw [imageOf, imageOf, filter_isLoaded, filter_isLoaded,
    mapM_congr (like.imp fun _ _ => segmentOf_like)]

end Formats

section Readers

variable {reader : Reader} {file : Bytes} {entry : Nat} {headers : List ProgramHeader}

/-- The reader accepts a file, and yields its entry point, its program header table, and for each
header the bytes that stand in the file. -/
structure Reader.Yields (reader : Reader) (file : Bytes) (entry : Nat)
    (headers : List ProgramHeader) : Prop where
  tables : ∃ width, reader.kindOf file = .ok (.elf width) ∧
    reader.tables width file = .ok (entry, headers)
  data : ∀ p ∈ headers, reader.data file p = stored file p

theorem parse_of_yields (yields : reader.Yields file entry headers) :
    parse reader file = imageOf (stored file) entry headers := by
  obtain ⟨width, kind, tables⟩ := yields.tables
  have same : (headers.filter isLoaded).mapM (segmentOf (reader.data file)) =
      (headers.filter isLoaded).mapM (segmentOf (stored file)) := by
    refine mapM_congr (List.forall₂_same.mpr fun p member => ?_)
    rw [segmentOf, segmentOf, yields.data p (List.mem_of_mem_filter member)]
  simp only [parse, kind, tables, imageOf, same]

/-- Whatever a reader yields for the bytes of a header, its segment has the memory that the header
asks for, in the space. -/
theorem segmentOf_ok {data : ProgramHeader → Option Bytes} {p : ProgramHeader} {segment : Segment}
    (ended : segmentOf data p = .ok segment) :
    segment.addr.val.toNat = p.addr ∧ segment.data.length = p.memoryBytes ∧ p.Placed := by
  unfold segmentOf at ended
  by_cases placed : p.Placed
  · rw [place_of_placed placed.1 placed.2] at ended
    cases found : data p with
    | none =>
      rw [found] at ended
      cases ended
    | some bytes =>
      rw [found] at ended
      by_cases large : p.memoryBytes < bytes.length
      · cases (if_pos large).symm.trans ended
      · cases (if_neg large).symm.trans ended
        refine ⟨UInt32.toNat_ofNat_of_lt' placed.1, ?_, placed⟩
        rw [List.length_append, List.length_replicate]
        omega
  · have outside : spaceBytes ≤ p.addr ∨ spaceBytes < p.addr + p.memoryBytes := by
      unfold ProgramHeader.Placed at placed
      omega
    rw [place, if_pos outside] at ended
    cases ended

/-- The segments of an image come from headers that are to be loaded. -/
theorem exists_of_imageOf_ok {data : ProgramHeader → Option Bytes} {image : Image}
    (ended : imageOf data entry headers = .ok image) {segment : Segment}
    (member : segment ∈ image.segments) :
    ∃ p ∈ loaded headers, segmentOf data p = .ok segment := by
  rw [imageOf, filter_isLoaded] at ended
  cases put : place entry 0 with
  | error e => rw [put] at ended; cases ended
  | ok entry =>
    cases made : (loaded headers).mapM (segmentOf data) with
    | error e => rw [put, made] at ended; cases ended
    | ok segments =>
      rw [put, made] at ended
      cases segments with
      | nil => cases ended
      | cons first rest =>
        cases ended
        exact exists_of_mapM_ok made member

end Readers

end Elf

end LineBridge
