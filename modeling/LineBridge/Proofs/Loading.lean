import Mathlib
import LineBridge.Proofs.FlatRefinement

/-! Loading an image over a healthy device is storing its segments in a flat memory, one after
another and each with its padding. Into which pages a segment is cut and whether it is read back
makes no difference to that. -/

namespace LineBridge

open LineBridge.Action (Agree Follows)

theorem Memory.firstDifference_self (data : Bytes) (at_ : Nat) :
    Memory.firstDifference data data at_ = none := by
  induction data generalizing at_ with
  | nil => rfl
  | cons byte rest ih =>
    rw [firstDifference, if_pos rfl]
    exact ih _

/-- The second of two strings in a range that stays in the space. -/
theorem Addr.Spans.behind {a : Addr} {xs ys : Bytes} (spans : a.Spans (xs ++ ys).length) :
    (a.offset xs.length).Spans ys.length := by
  rw [List.length_append] at spans
  have rest := spans.rest (Nat.le_add_right xs.length ys.length)
  rwa [Nat.add_sub_cancel_left] at rest

namespace Flat

theorem run_store {addr : Addr} {data : Bytes} (spans : addr.Spans data.length) (f : Flat) :
    (store addr data).run f = (.ok (), f.write addr data) := if_pos spans

theorem run_store_of_not_spans {addr : Addr} {data : Bytes} (outside : ¬addr.Spans data.length)
    (f : Flat) : (store addr data).run f = (.error (.outOfRange addr.val.toNat data.length), f) :=
  if_neg outside

theorem store_nil (addr : Addr) : store addr [] = pure () :=
  funext fun _ => if_pos (Nat.le_of_lt addr.val.toNat_lt_size)

/-- A range inside the space may be stored in two parts. -/
theorem store_append {addr : Addr} {xs ys : Bytes} (spans : addr.Spans (xs ++ ys).length) :
    store addr (xs ++ ys) = store addr xs >>= fun _ => store (addr.offset xs.length) ys := by
  have sum : (xs ++ ys).length = xs.length + ys.length := List.length_append
  have first : addr.Spans xs.length := by
    unfold Addr.Spans at spans ⊢
    omega
  have last : (addr.offset xs.length).Spans ys.length := spans.behind
  funext f
  change (store addr (xs ++ ys)).run f = _
  rw [run_store spans, write_append f addr xs (sum ▸ spans.le_spaceBytes)]
  refine Eq.trans ?_ (Action.run_bind_ok (run_store first f)).symm
  exact (run_store last _).symm

/-- What has just been stored compares equal. -/
theorem store_compare {addr : Addr} {data : Bytes} (spans : addr.Spans data.length) :
    (store addr data >>= fun _ => compare addr data) = store addr data := by
  funext f
  have loaded : (load addr data.length).run (f.write addr data) =
      (.ok data, f.write addr data) := by
    have delivered : (load addr data.length).run (f.write addr data) = _ := if_pos spans
    rw [delivered, read_write f addr spans.le_spaceBytes]
  refine (Action.run_bind_ok (run_store spans f)).trans ?_
  rw [compare_eq, Action.run_bind_ok loaded, Memory.firstDifference_self]
  exact (run_store spans f).symm

/-- Stores a segment with its padding, and answers how many bytes that were. -/
def loadSegment (segment : Segment) : Action Flat Nat := do
  store segment.addr segment.padded
  pure segment.padded.length

def loadSegments : List Segment → Nat → Action Flat Nat
  | [], written => pure written
  | segment :: rest, written => do
    let bytes ← loadSegment segment
    loadSegments rest (written + bytes)

/-- Segments laid down in order, each with its padding. -/
def lay (f : Flat) (segments : List Segment) : Flat :=
  segments.foldl (fun f segment => f.write segment.addr segment.padded) f

/-- Segments are loaded if and only if all of them stay in the space. -/
theorem run_loadSegments_ok_iff {segments : List Segment} {written bytes : Nat} {f f' : Flat} :
    (loadSegments segments written).run f = (.ok bytes, f') ↔
      (∀ segment ∈ segments, segment.addr.Spans segment.padded.length) ∧
      bytes = written + (segments.map (·.padded.length)).sum ∧ f' = f.lay segments := by
  induction segments generalizing written f with
  | nil => simp [loadSegments, lay, eq_comm]
  | cons segment rest ih =>
    by_cases spans : segment.addr.Spans segment.padded.length
    · have stored : (loadSegment segment).run f =
          (.ok segment.padded.length, f.write segment.addr segment.padded) :=
        Action.run_bind_ok (run_store spans f)
      rw [loadSegments, Action.run_bind_ok stored, ih]
      simp only [List.forall_mem_cons, spans, true_and, List.map_cons, List.sum_cons, lay,
        List.foldl_cons, Nat.add_assoc]
    · have refused : (loadSegment segment).run f =
          (.error (.outOfRange segment.addr.val.toNat segment.padded.length), f) :=
        Action.run_bind_error (run_store_of_not_spans spans f)
      rw [loadSegments, Action.run_bind_error refused]
      simp [spans]

end Flat

/-- Loading changes memory, and remembers the entry point if all of it went well. -/
theorem Loader.run_load {σ : Type} (link : Link σ) (image : Image) (verify : Bool)
    (l : Loader σ) :
    (load link image verify).run l =
      match (loadSegments link verify image.segments 0).run l.memory with
      | (.ok bytes, m) => (.ok ⟨image.segments.length, bytes, image.entry, verify,
          link.clock.now m.host.state - link.clock.now l.memory.host.state⟩,
          { l with memory := m, entry := some image.entry })
      | (.error e, m) => (.error e, { l with memory := m }) := by
  have began : (onMemory (Memory.onHost (Host.now link))).run l =
      (.ok (link.clock.now l.memory.host.state), l) := rfl
  rw [load, Action.run_bind_ok began]
  cases run : (loadSegments link verify image.segments 0).run l.memory with
  | mk outcome m =>
    have loaded : (onMemory (loadSegments link verify image.segments 0)).run l =
        (outcome, { l with memory := m }) := by
      rw [onMemory, Action.run_on, run]
    cases outcome with
    | ok bytes =>
      rw [Action.run_bind_ok loaded]
      rfl
    | error e => rw [Action.run_bind_error loaded]

theorem Segment.length_padded (segment : Segment) :
    segment.padded.length = (segment.data.length + 15) / 16 * 16 := by
  simp only [padded, Bytes.padTo, List.length_append, List.length_replicate, lineBytes]
  omega

/-- The lengths that a segment can have in a 64-bit program. -/
def Segment.Fits (segment : Segment) : Prop := segment.data.length < UInt64.size / 2

instance (segment : Segment) : Decidable segment.Fits := inferInstanceAs (Decidable (_ < _))

theorem Segment.Fits.formed {segment : Segment} (fits : segment.Fits) :
    segment.padded.length + spaceBytes ≤ UInt64.size := by
  unfold Fits at fits
  rw [length_padded]
  simp only [spaceBytes, UInt32.size, UInt64.size] at fits ⊢
  omega

section Refinement

variable {σ : Type} {view : σ → Device} {s : Settings} {channel : Channel σ}
  (fronts : channel.Fronts view False) (valid : s.validate = .ok ())
  (inTime : channel.InTime s.poll.limits)
include fronts valid inTime

theorem writePages_follows (addr : Addr) {pages : List Bytes}
    (spans : addr.Spans pages.flatten.length) :
    Follows (Serves view s) (Loader.writePages channel.link addr pages)
      (Flat.store addr pages.flatten) := by
  induction pages generalizing addr with
  | nil =>
    rw [List.flatten_nil, Flat.store_nil]
    exact Follows.pure ()
  | cons page rest ih =>
    rw [List.flatten_cons] at spans ⊢
    have short := spans.le_spaceBytes
    have formed : page.length + spaceBytes ≤ UInt64.size := by
      simp only [List.length_append, spaceBytes, UInt32.size, UInt64.size] at short ⊢
      omega
    have written := (write_follows fronts valid inTime addr formed).bind fun _ => ih _ spans.behind
    rw [bind_map_left] at written
    rw [Flat.store_append spans]
    exact written

theorem storePages_follows (verify : Bool) {segment : Segment} (page : Nat)
    (spans : segment.addr.Spans segment.padded.length) :
    Follows (Serves view s)
      (do Loader.writePages channel.link segment.addr (segment.padded.chunks (max page lineBytes))
          if verify then Memory.verify channel.link segment.addr segment.padded
          pure segment.padded.length)
      (Flat.loadSegment segment) := by
  have cut := Bytes.flatten_chunks (max page lineBytes) (lt_max_of_lt_right (by decide))
    segment.padded
  rw [← cut] at spans
  have stored := writePages_follows fronts valid inTime segment.addr spans
  rw [cut] at stored spans
  unfold Flat.loadSegment
  cases verify with
  | false => exact stored.bind fun _ => Follows.pure _
  | true =>
    have formed : segment.padded.length + spaceBytes ≤ UInt64.size := by
      have short := spans.le_spaceBytes
      simp only [spaceBytes, UInt32.size, UInt64.size] at short ⊢
      omega
    rw [← Flat.store_compare spans, bind_assoc]
    refine stored.bind fun _ => ?_
    exact (verify_follows fronts valid inTime segment.addr formed).bind fun _ => Follows.pure _

theorem loadSegment_follows (verify : Bool) {segment : Segment} (fits : segment.Fits) :
    Follows (Serves view s) (Loader.loadSegment channel.link verify segment)
      (Flat.loadSegment segment) := by
  unfold Loader.loadSegment
  by_cases empty : segment.padded = []
  · simp only [Flat.loadSegment, empty, List.isEmpty_nil, if_true, Flat.store_nil]
    exact Follows.pure 0
  simp only [if_neg (List.isEmpty_iff.not.mpr empty)]
  by_cases spans : segment.addr.Spans segment.padded.length
  · rw [Memory.requestEnd_of_spans spans]
    intro m
    exact storePages_follows fronts valid inTime verify m.transfer.loadPageBytes.toNat spans m
  · rw [Memory.requestEnd_of_not_spans fits.formed spans]
    intro m f serves
    exact ⟨_, m, f, rfl, Action.run_bind_error (Flat.run_store_of_not_spans spans f), serves⟩

theorem loadSegments_follows (verify : Bool) {segments : List Segment}
    (fit : ∀ segment ∈ segments, segment.Fits) (written : Nat) :
    Follows (Serves view s) (Loader.loadSegments channel.link verify segments written)
      (Flat.loadSegments segments written) := by
  induction segments generalizing written with
  | nil => exact Follows.pure written
  | cons segment rest ih =>
    apply Follows.bind
    · exact loadSegment_follows fronts valid inTime verify (fit segment (List.mem_cons_self ..))
    · intro bytes
      exact ih (fun later member => fit later (List.mem_cons_of_mem _ member)) _

/-- A load ends as storing the segments in a flat memory does, and the entry point changes only
when it ends well. -/
theorem load_outcome {l : Loader σ} {f : Flat} (serves : Serves view s l.memory f)
    {image : Image} (fit : ∀ segment ∈ image.segments, segment.Fits) (verify : Bool) :
    match (Flat.loadSegments image.segments 0).run f with
    | (.ok bytes, f') => ∃ elapsed l', (Loader.load channel.link image verify).run l =
        (.ok ⟨image.segments.length, bytes, image.entry, verify, elapsed⟩, l') ∧
        l'.entry = some image.entry ∧ Serves view s l'.memory f'
    | (.error e, f') => ∃ l', (Loader.load channel.link image verify).run l = (.error e, l') ∧
        l'.entry = l.entry ∧ Serves view s l'.memory f' := by
  obtain ⟨outcome, m, f', left, right, after⟩ :=
    loadSegments_follows fronts valid inTime verify fit 0 l.memory f serves
  rw [Loader.run_load, left, right]
  cases outcome with
  | ok bytes => exact ⟨_, _, rfl, rfl, after⟩
  | error e => exact ⟨_, rfl, rfl, after⟩

/-- An image that stays in the space is loaded. -/
theorem load_ok {l : Loader σ} {f : Flat} (serves : Serves view s l.memory f) {image : Image}
    (fit : ∀ segment ∈ image.segments, segment.Fits)
    (spans : ∀ segment ∈ image.segments, segment.addr.Spans segment.padded.length)
    (verify : Bool) :
    ∃ report l', (Loader.load channel.link image verify).run l = (.ok report, l') ∧
      l'.entry = some image.entry ∧ Serves view s l'.memory (f.lay image.segments) := by
  have ending := load_outcome fronts valid inTime serves fit verify
  rw [Flat.run_loadSegments_ok_iff.mpr ⟨spans, rfl, rfl⟩] at ending
  obtain ⟨elapsed, l', run, rest⟩ := ending
  exact ⟨_, l', run, rest⟩

end Refinement

/-- A driver with standard settings in front of a new device. -/
theorem serves_new : Serves id {} (({} : Settings).memory {}) fun _ => 0 where
  transfer := rfl
  limits := rfl
  healthy := ⟨rfl, rfl, by decide⟩
  idle := ⟨rfl, rfl, rfl, rfl, rfl⟩
  memory := funext LineStore.byteAt_empty

end LineBridge
