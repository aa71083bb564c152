import Mathlib
import LineBridge.Image.Elf.Tables
import LineBridge.Proofs.ElfSegments
import LineBridge.Proofs.LoadOutcomes

/-! Images that were read from files. Whatever the file, and whatever a reader makes of it, its
segments are not empty and stay in the space. A load of such an image can only fail where the
padding of a segment does not. -/

namespace LineBridge

namespace Elf

/-- The segments of a file are not empty and stay in the space, whatever the reader yields. -/
theorem parse_segment {reader : Reader} {file : Bytes} {image : Image}
    (parsed : parse reader file = .ok image) {segment : Segment}
    (member : segment ∈ image.segments) :
    segment.data ≠ [] ∧ segment.addr.Spans segment.data.length := by
  obtain ⟨entry, headers, given⟩ : ∃ entry headers,
      imageOf (reader.data file) entry headers = .ok image := by
    unfold parse at parsed
    split at parsed
    · cases parsed
    · cases parsed
    · split at parsed
      · cases parsed
      · exact ⟨_, _, parsed⟩
  obtain ⟨p, among, made⟩ := exists_of_imageOf_ok given member
  obtain ⟨addr, length, placed⟩ := segmentOf_ok made
  rw [← filter_isLoaded] at among
  have some : p.memoryBytes ≠ 0 := by
    have taken := (List.mem_filter.mp among).2
    simp only [isLoaded, Bool.and_eq_true, bne_iff_ne] at taken
    exact taken.2
  constructor
  · intro empty
    rw [empty] at length
    exact some length.symm
  · rw [Addr.Spans, addr, length]
    exact placed.2

/-- A 32-bit file with one program header, for a segment that the file holds whole. -/
def single (addr : UInt32) (data : Bytes) : Bytes :=
  let half := Bytes.littleEndian 2
  let word := Bytes.littleEndian 4
  let identity := [0x7f, 0x45, 0x4c, 0x46, 1, 1, 1] ++ List.replicate 9 0
  let header := half 2 ++ half 0xf3 ++ word 1 ++ word 0 ++ word 52 ++ word 0 ++ word 0 ++
    half 52 ++ half 32 ++ half 1 ++ half 40 ++ half 0 ++ half 0
  let entry := word loadable ++ word 84 ++ word addr.toNat ++ word addr.toNat ++
    word data.length ++ word data.length ++ word 5 ++ word 1
  identity ++ header ++ entry ++ data

end Elf

namespace Segment

variable {segment : Segment} (spans : segment.addr.Spans segment.data.length)
include spans

theorem fits_of_spans : segment.Fits := spans.le_spaceBytes.trans_lt (by decide)

/-- Padding passes the end of the space only behind the last lines' worth of addresses, and only
if the segment does not start at a line. -/
theorem spans_padded_of_clear (clear : segment.addr.IsLineAligned ∨
      segment.addr.val.toNat + segment.data.length + lineBytes ≤ spaceBytes + 1) :
    segment.addr.Spans segment.padded.length := by
  unfold Addr.Spans at spans ⊢
  rw [length_padded]
  rcases clear with aligned | early
  · have aligned : segment.addr.val.toNat % 16 = 0 := aligned
    simp only [spaceBytes, UInt32.size] at spans ⊢
    omega
  · simp only [lineBytes] at early
    omega

end Segment

section Loads

variable {σ : Type} {view : σ → Device} {s : Settings} {channel : Channel σ}

/-- An image from a file is loaded if and only if its segments stay in the space when padded. The
first that does not is named by the error, which is the only one there can be; and a segment does
so if it starts at a line, or has room for the padding of a line. -/
theorem load_parsed (fronts : channel.Fronts view False) (valid : s.validate = .ok ())
    (inTime : channel.InTime s.poll.limits) {l : Loader σ} {f : Flat}
    (serves : Serves view s l.memory f) {reader : Elf.Reader} {file : Bytes} {image : Image}
    (parsed : Elf.parse reader file = .ok image) (verify : Bool) :
    let outcome := ((Loader.load channel.link image verify).run l).1
    ((∃ report, outcome = .ok report) ↔
      ∀ segment ∈ image.segments, segment.addr.Spans segment.padded.length) ∧
    (∀ e, outcome = .error e → ∃ earlier segment later,
      image.segments = earlier ++ segment :: later ∧
      (∀ part ∈ earlier, part.addr.Spans part.padded.length) ∧
      ¬segment.addr.Spans segment.padded.length ∧
      e = .outOfRange segment.addr.val.toNat segment.padded.length) ∧
    ∀ segment ∈ image.segments, segment.addr.IsLineAligned ∨
      segment.addr.val.toNat + segment.data.length + lineBytes ≤ spaceBytes + 1 →
      segment.addr.Spans segment.padded.length := by
  intro outcome
  have inside := fun segment (member : segment ∈ image.segments) =>
    (Elf.parse_segment parsed member).2
  have fit : ∀ segment ∈ image.segments, segment.Fits :=
    fun segment member => Segment.fits_of_spans (inside segment member)
  have room := fun segment (member : segment ∈ image.segments) =>
    Segment.spans_padded_of_clear (inside segment member)
  rcases all_or_first (fun part => part.addr.Spans part.padded.length) image.segments with
    spans | ⟨earlier, segment, later, parts, before, outside⟩
  · obtain ⟨report, l', loaded, -⟩ := load_ok fronts valid inTime serves fit spans verify
    have ending : outcome = .ok report := congrArg Prod.fst loaded
    refine ⟨iff_of_true ⟨report, ending⟩ spans, fun e failed => ?_, room⟩
    rw [ending] at failed
    cases failed
  · have whole := load_outcome fronts valid inTime serves fit verify
    rw [parts, Flat.run_loadSegments_error before outside] at whole
    obtain ⟨l', refused, -⟩ := whole
    have ending : outcome = _ := congrArg Prod.fst refused
    refine ⟨iff_of_false ?_ ?_, fun e failed => ?_, room⟩
    · rintro ⟨report, loaded⟩
      rw [ending] at loaded
      cases loaded
    · intro spans
      rw [parts] at spans
      exact outside (spans segment (List.mem_append_right _ (List.mem_cons_self ..)))
    · rw [ending] at failed
      cases failed
      exact ⟨earlier, segment, later, parts, before, outside, rfl⟩

end Loads

/-- A file with one byte in the last line of the space. -/
theorem load_parsed_last_line :
    let l : Loader Device := { memory := ({} : Settings).memory {} }
    ∃ image report, Elf.parse Elf.reader (Elf.single 0xfffffff0 [5]) = .ok image ∧
      ((Loader.load Device.link image true).run l).1 = .ok report := by
  intro l
  have parsed : Elf.parse Elf.reader (Elf.single 0xfffffff0 [5]) = .ok ⟨[⟨⟨0xfffffff0⟩, [5]⟩], 0⟩ := by
    decide
  have serves : Serves id {} l.memory fun _ => 0 := serves_new
  obtain ⟨loads, -, room⟩ := load_parsed Channel.fronts_device (by decide)
    (Device.inTime (by decide)) serves parsed true
  obtain ⟨report, loaded⟩ := loads.mpr fun segment member => room segment member <| by
    rw [List.mem_singleton.mp member]
    exact .inl (by decide)
  exact ⟨_, report, parsed, loaded⟩

/-- A file whose one segment stays in the space, while its padding does not. -/
theorem parsed_image_refused :
    let l : Loader Device := { memory := ({} : Settings).memory {} }
    let image : Image := ⟨[⟨⟨0xfffffff8⟩, [5]⟩], 0⟩
    Elf.parse Elf.reader (Elf.single 0xfffffff8 [5]) = .ok image ∧ ({} : Settings).validate = .ok () ∧
      Device.channel.InTime ({} : Settings).poll.limits ∧
      Serves id {} l.memory (fun _ => 0) ∧
      ((Loader.load Device.link image false).run l).1 = .error (.outOfRange 0xfffffff8 16) := by
  intro l image
  have valid : ({} : Settings).validate = .ok () := by decide
  have inTime : Device.channel.InTime ({} : Settings).poll.limits :=
    Device.inTime (by decide)
  have serves : Serves id {} l.memory fun _ => 0 := serves_new
  have fit : ∀ segment ∈ image.segments, segment.Fits := by decide
  have ending := load_outcome Channel.fronts_device valid inTime serves fit false
  have outside : ¬(⟨0xfffffff8⟩ : Addr).Spans (⟨⟨0xfffffff8⟩, [5]⟩ : Segment).padded.length := by
    decide
  rw [show image.segments = [] ++ ⟨⟨0xfffffff8⟩, [5]⟩ :: [] from rfl,
    Flat.run_loadSegments_error (List.forall_mem_nil _) outside] at ending
  obtain ⟨l', refused, -⟩ := ending
  exact ⟨by decide, valid, inTime, serves, congrArg Prod.fst refused⟩

end LineBridge
