import Mathlib
import LineBridge.Proofs.JsonExactness
import LineBridge.Proofs.JsonWriting
import LineBridge.Proofs.SectionOrders
import LineBridge.Proofs.Validation

/-! Settings from text are the defaults with what the text gives laid over them, if that keeps the
rules, and there are none otherwise. How the text is put does not matter: which sections are there,
in which order members stand, what else is said under other keys, and how values are spelled. -/

namespace LineBridge

/-! ## Overlays -/

namespace Settings

/-- Some of the sections, each with values for some of its fields. -/
structure Overlay where
  poll : Option PollGiven := none
  transfer : Option TransferGiven := none
  control : Option ControlGiven := none
  link : Option LinkGiven := none

def PollGiven.over (o : PollGiven) (p : PollSettings) : PollSettings where
  maxAttempts := o.maxAttempts.getD p.maxAttempts
  delayMicros := o.delayMicros.getD p.delayMicros
  timeoutMillis := o.timeoutMillis.getD p.timeoutMillis

def TransferGiven.over (o : TransferGiven) (t : TransferSettings) : TransferSettings where
  readBatchBytes := o.readBatchBytes.getD t.readBatchBytes
  writeBatchBytes := o.writeBatchBytes.getD t.writeBatchBytes
  loadPageBytes := o.loadPageBytes.getD t.loadPageBytes
  packedWrites := o.packedWrites.getD t.packedWrites
  idleCycles := o.idleCycles.getD t.idleCycles

def ControlGiven.over (o : ControlGiven) (c : ControlWords) : ControlWords where
  programCounter := o.programCounter.getD c.programCounter
  reset := o.reset.getD c.reset
  hold := o.hold.getD c.hold

def LinkGiven.over (o : LinkGiven) (l : LinkSettings) : LinkSettings where
  endpoint := o.endpoint.getD l.endpoint
  timeoutMillis := o.timeoutMillis.getD l.timeoutMillis
  maxFrame := o.maxFrame.getD l.maxFrame
  clockHz := o.clockHz.getD l.clockHz
  maxChunk := o.maxChunk.getD l.maxChunk

/-- The settings with the values of the overlay in place of their own. -/
def Overlay.over (o : Overlay) (s : Settings) : Settings where
  poll := (o.poll.getD {}).over s.poll
  transfer := (o.transfer.getD {}).over s.transfer
  control := (o.control.getD {}).over s.control
  link := (o.link.getD {}).over s.link

/-- All sections with all their fields. -/
def overlay (s : Settings) : Overlay where
  poll := some ⟨s.poll.maxAttempts, s.poll.delayMicros, s.poll.timeoutMillis⟩
  transfer := some ⟨s.transfer.readBatchBytes, s.transfer.writeBatchBytes,
    s.transfer.loadPageBytes, s.transfer.packedWrites, s.transfer.idleCycles⟩
  control := some ⟨s.control.programCounter, s.control.reset, s.control.hold⟩
  link := some ⟨s.link.endpoint, s.link.timeoutMillis, s.link.maxFrame, s.link.clockHz,
    s.link.maxChunk⟩

/-! ## What an overlay looks like as a document -/

def ofWord32 (n : UInt32) : Json := .natural n.toNat

def ofWord64 (n : UInt64) : Json := .natural n.toNat

def ofString (s : String) : Json := .string (some s)

def PollGiven.slots (o : PollGiven) : List (String × Option Json) := [
  ("max_attempts", o.maxAttempts.map ofWord32),
  ("delay_us", o.delayMicros.map ofWord64),
  ("timeout_ms", o.timeoutMillis.map ofWord64)]

def TransferGiven.slots (o : TransferGiven) : List (String × Option Json) := [
  ("read_batch_bytes", o.readBatchBytes.map ofWord64),
  ("write_batch_bytes", o.writeBatchBytes.map ofWord64),
  ("load_page_bytes", o.loadPageBytes.map ofWord64),
  ("packed_writes", o.packedWrites.map Json.bool),
  ("idle_cycles", o.idleCycles.map ofWord32)]

def ControlGiven.slots (o : ControlGiven) : List (String × Option Json) := [
  ("pc_address", o.programCounter.map ofWord32),
  ("reset_address", o.reset.map ofWord32),
  ("reset_hold_value", o.hold.map ofWord32)]

def LinkGiven.slots (o : LinkGiven) : List (String × Option Json) := [
  ("socket_addr", o.endpoint.map ofString),
  ("socket_timeout_ms", o.timeoutMillis.map ofWord64),
  ("max_frame", o.maxFrame.map ofWord64),
  ("mpsse_clock_hz", o.clockHz.map ofWord32),
  ("mpsse_max_chunk", o.maxChunk.map ofWord64)]

/-- A document says what an overlay says: it is an object with the sections of the overlay, in any
order and among anything under other keys, and so is every section with its fields. -/
inductive Overlay.LaidOut (o : Overlay) : Json → Prop
  | object {poll transfer control link : Option (List (Option String × Json))}
      {members : List (Option String × Json)} :
      Option.Rel Field.Lays (o.poll.map PollGiven.slots) poll →
      Option.Rel Field.Lays (o.transfer.map TransferGiven.slots) transfer →
      Option.Rel Field.Lays (o.control.map ControlGiven.slots) control →
      Option.Rel Field.Lays (o.link.map LinkGiven.slots) link →
      Field.Lays [("poll", poll.map Json.object), ("transfer", transfer.map Json.object),
        ("control", control.map Json.object), ("link", link.map Json.object)] members →
      LaidOut o (.object members)

/-- A text of a document that says what an overlay says. -/
def Overlay.Written (o : Overlay) (text : String) : Prop :=
  ∃ document, o.LaidOut document ∧ Json.Spells (.element document) text.toList

/-! ## Defaults -/

/-- Every field of a section has the default that it has in a section which is missing. -/
theorem PollGiven.complete_eq (g : PollGiven) : g.complete = g.over {} := rfl

theorem TransferGiven.complete_eq (g : TransferGiven) : g.complete = g.over {} := rfl

theorem ControlGiven.complete_eq (g : ControlGiven) : g.complete = g.over {} := rfl

theorem LinkGiven.complete_eq (g : LinkGiven) : g.complete = g.over {} := rfl

/-! ## Sections -/

open LineBridge.Settings.Field

/-- What a decoder is relied on for: it reads the texts of the grammar as what they spell, takes
values that fit their fields, and fills the fields of a section with what an object has under their
keys, in whatever order and whatever else it has. -/
structure Decoder.Documented (d : Decoder) : Prop where
  read : ∀ {document : Json} {text : String}, Json.Spells (.element document) text.toList →
    d.read text = some document
  word32 : ∀ n, d.word32 (ofWord32 n) = some n
  word64 : ∀ n, d.word64 (ofWord64 n) = some n
  flag : ∀ b, d.flag (.bool b) = some b
  text : ∀ s, d.text (ofString s) = some s
  fill : ∀ {α : Type} {fields : List (Field α)}, fields.Pairwise Commutes →
    (fields.map Field.key).Nodup → ∀ {slots : List (String × Option Json)},
    slots.map Prod.fst = fields.map Field.key → ∀ {members}, Lays slots members → ∀ a,
    d.fill fields (.object members) a = putAll fields (slots.map Prod.snd) a

namespace Field

variable {α β : Type}

/-- A value that is there is taken and set. -/
theorem putIf_taken {take : Json → Option β} {item : β → Json} (takes : ∀ b, take (item b) = some b)
    (key : String) (set : β → α → α) (value : Option β) (a : α) :
    putIf (taken take key set) (value.map item) a = some (value.elim a (set · a)) := by
  cases value with
  | none => rfl
  | some b => simp [putIf, taken, takes]

/-- A section that is there sets what its own object says. -/
theorem putIf_section {ω : Type} {take : Json → Option β} {result : ω → β}
    {slots : ω → List (String × Option Json)} {o : Option ω}
    {members : Option (List (Option String × Json))}
    (takes : ∀ {o ms}, Lays (slots o) ms → take (.object ms) = some (result o))
    (lays : Option.Rel Lays (o.map slots) members) (key : String) (set : β → α → α) (a : α) :
    putIf (taken take key set) (members.map Json.object) a =
      some (o.elim a fun o => set (result o) a) := by
  cases o with
  | none =>
    cases lays
    rfl
  | some o =>
    cases lays with
    | some lays => simp [putIf, taken, takes lays]

end Field

namespace Decoder

variable (d : Decoder)

theorem pollFields_apart : d.pollFields.Pairwise Commutes := by
  simp only [pollFields, List.pairwise_cons, List.forall_mem_cons, List.not_mem_nil,
    false_imp_iff, implies_true, List.Pairwise.nil, and_true]
  and_intros <;> apply commutes_taken <;> exact fun _ _ _ => rfl

theorem transferFields_apart : d.transferFields.Pairwise Commutes := by
  simp only [transferFields, List.pairwise_cons, List.forall_mem_cons, List.not_mem_nil,
    false_imp_iff, implies_true, List.Pairwise.nil, and_true]
  and_intros <;> apply commutes_taken <;> exact fun _ _ _ => rfl

theorem controlFields_apart : d.controlFields.Pairwise Commutes := by
  simp only [controlFields, List.pairwise_cons, List.forall_mem_cons, List.not_mem_nil,
    false_imp_iff, implies_true, List.Pairwise.nil, and_true]
  and_intros <;> apply commutes_taken <;> exact fun _ _ _ => rfl

theorem linkFields_apart : d.linkFields.Pairwise Commutes := by
  simp only [linkFields, List.pairwise_cons, List.forall_mem_cons, List.not_mem_nil,
    false_imp_iff, implies_true, List.Pairwise.nil, and_true]
  and_intros <;> apply commutes_taken <;> exact fun _ _ _ => rfl

theorem sections_apart : d.sections.Pairwise Commutes := by
  simp only [sections, List.pairwise_cons, List.forall_mem_cons, List.not_mem_nil,
    false_imp_iff, implies_true, List.Pairwise.nil, and_true]
  and_intros <;> apply commutes_taken <;> exact fun _ _ _ => rfl

namespace Documented

variable {d} (documented : d.Documented)
include documented

theorem section?_poll {g : PollGiven} {members : List (Option String × Json)}
    (lays : Lays g.slots members) :
    d.section? d.pollFields {} PollGiven.complete (.object members) = some (g.over {}) := by
  rw [section?, documented.fill d.pollFields_apart (by simp [pollFields, taken]) rfl lays,
    ← PollGiven.complete_eq]
  simp only [pollFields, PollGiven.slots, List.map_cons, List.map_nil, putAll_cons, putAll_nil,
    putIf_taken documented.word32, putIf_taken documented.word64, Option.bind_some]
  rcases g with ⟨_ | _, _ | _, _ | _⟩ <;> rfl

theorem section?_transfer {g : TransferGiven} {members : List (Option String × Json)}
    (lays : Lays g.slots members) :
    d.section? d.transferFields {} TransferGiven.complete (.object members) =
      some (g.over {}) := by
  rw [section?, documented.fill d.transferFields_apart (by simp [transferFields, taken]) rfl lays,
    ← TransferGiven.complete_eq]
  simp only [transferFields, TransferGiven.slots, List.map_cons, List.map_nil, putAll_cons,
    putAll_nil, putIf_taken documented.word32, putIf_taken documented.word64,
    putIf_taken documented.flag, Option.bind_some]
  rcases g with ⟨_ | _, _ | _, _ | _, _ | _, _ | _⟩ <;> rfl

theorem section?_control {g : ControlGiven} {members : List (Option String × Json)}
    (lays : Lays g.slots members) :
    d.section? d.controlFields {} ControlGiven.complete (.object members) = some (g.over {}) := by
  rw [section?, documented.fill d.controlFields_apart (by simp [controlFields, taken]) rfl lays,
    ← ControlGiven.complete_eq]
  simp only [controlFields, ControlGiven.slots, List.map_cons, List.map_nil, putAll_cons,
    putAll_nil, putIf_taken documented.word32, Option.bind_some]
  rcases g with ⟨_ | _, _ | _, _ | _⟩ <;> rfl

theorem section?_link {g : LinkGiven} {members : List (Option String × Json)}
    (lays : Lays g.slots members) :
    d.section? d.linkFields {} LinkGiven.complete (.object members) = some (g.over {}) := by
  rw [section?, documented.fill d.linkFields_apart (by simp [linkFields, taken]) rfl lays,
    ← LinkGiven.complete_eq]
  simp only [linkFields, LinkGiven.slots, List.map_cons, List.map_nil, putAll_cons, putAll_nil,
    putIf_taken documented.word32, putIf_taken documented.word64, putIf_taken documented.text,
    Option.bind_some]
  rcases g with ⟨_ | _, _ | _, _ | _, _ | _, _ | _⟩ <;> rfl

/-- A document is decoded to what it says, laid over the defaults. -/
theorem decode_laidOut {o : Overlay} {document : Json} (laid : o.LaidOut document) :
    d.decode document = some (o.over {}) := by
  cases laid with
  | object poll transfer control link lays =>
    rw [decode, section?, documented.fill d.sections_apart (by simp [sections, taken]) rfl lays]
    -- a section that is missing keeps its defaults, and so does one that says nothing
    simp only [sections, List.map_cons, List.map_nil, putAll_cons, putAll_nil, Option.bind_some,
      putIf_section documented.section?_poll poll,
      putIf_section documented.section?_transfer transfer,
      putIf_section documented.section?_control control,
      putIf_section documented.section?_link link]
    rcases o with ⟨_ | _, _ | _, _ | _, _ | _⟩ <;> rfl

theorem ofText_written {o : Overlay} {text : String} (written : o.Written text) (s : Settings) :
    ofText d text = .ok s ↔ (o.over {}).Valid ∧ s = o.over {} := by
  obtain ⟨document, laid, spelled⟩ := written
  have decoded : (d.read text).bind d.decode = some (o.over {}) := by
    rw [documented.read spelled, Option.bind_some, documented.decode_laidOut laid]
  rw [ofText, decoded]
  simp only [chain_eq_ok_iff, validate_eq_ok_iff, pure, Except.pure, Except.ok.injEq]
  rw [eq_comm (a := s)]

end Documented

end Decoder

/-! ## Texts -/

/-- The members of the slots alone, in order. -/
theorem lays_given (slots : List (String × Option Json)) :
    Lays slots ((given slots).map named) := by
  refine ⟨[], by simp, ?_⟩
  rw [List.append_nil]

/-- A section put plainly. -/
theorem rel_given {ω : Type} (o : Option ω) (slots : ω → List (String × Option Json)) :
    Option.Rel Lays (o.map slots) (o.map fun o => (given (slots o)).map named) := by
  cases o with
  | none => exact .none
  | some o => exact .some (lays_given (slots o))

/-- The plain text of a document is one of its texts. -/
theorem written_of_laidOut {o : Overlay} {document : Json} (laid : o.LaidOut document) :
    o.Written (String.ofList (Json.write document)) := by
  refine ⟨document, laid, ?_⟩
  rw [String.toList_ofList]
  exact (Json.spells_write document).bare

/-- Every overlay can be written. -/
theorem exists_written (o : Overlay) : ∃ text, o.Written text := by
  have laid := Overlay.LaidOut.object (rel_given o.poll _) (rel_given o.transfer _)
    (rel_given o.control _) (rel_given o.link _) (lays_given _)
  exact ⟨_, written_of_laidOut laid⟩

/-- All fields together leave nothing of what they are laid over. -/
theorem overlay_over (s t : Settings) : s.overlay.over t = s := rfl

/-- However values for some of the fields are written, settings are read from the text just if
those values keep the rules when they are laid over the defaults, and then the outcome is that. So
valid settings that are written out with all their fields are read back as they were. -/
theorem ofText_overlays {d : Decoder} (documented : d.Documented) :
    (∀ (o : Overlay) (text : String), o.Written text → ∀ s : Settings,
      ofText d text = .ok s ↔ (o.over {}).Valid ∧ s = o.over {}) ∧
    ∀ s : Settings, s.validate = .ok () →
      (∃ text, s.overlay.Written text) ∧
        ∀ text, s.overlay.Written text → ofText d text = .ok s := by
  refine ⟨fun o text written s => documented.ofText_written written s, fun s valid => ?_⟩
  refine ⟨exists_written s.overlay, fun text written => ?_⟩
  rw [documented.ofText_written written, overlay_over]
  exact ⟨validate_eq_ok_iff.mp valid, rfl⟩

/-- The reader of documents does what is asked of one. -/
theorem decoder_documented : decoder.Documented where
  read := Json.read?_eq_some_iff.mpr
  word32 n := by simp [decoder, readWord32, ofWord32, n.toNat_lt]
  word64 n := by simp [decoder, readWord64, ofWord64, n.toNat_lt]
  flag _ := rfl
  text _ := rfl
  fill apart distinct _ keys _ lays a := fillMembers_of_lays apart distinct keys lays a

/-- A document with sections and members out of order, two sections missing, and something under
unknown keys. -/
def shuffled : Json := .object [
  (some "link", .object [
    (some "note", .array [.null, .otherNumber]), (some "mpsse_max_chunk", .natural 65535)]),
  (some "extra", .object [(some "poll", .string none)]),
  (some "transfer", .object [
    (some "packed_writes", .bool false), (some "read_batch_bytes", .natural 65520)])]

theorem ofText_overlays_shuffled :
    decoder.Documented ∧ Overlay.Written
      { transfer := some { readBatchBytes := some 65520, packedWrites := some false }
        link := some { maxChunk := some 65535 } } (String.ofList (Json.write shuffled)) ∧
    ofText decoder (String.ofList (Json.write shuffled)) = .ok
      { transfer := { readBatchBytes := 65520, packedWrites := false }
        link := { maxChunk := 65535 } } ∧
    ({} : Settings).validate = .ok () ∧
    ∃ text, ({} : Settings).overlay.Written text ∧ ofText decoder text = .ok {} := by
  have transfer : Lays (TransferGiven.slots
      { readBatchBytes := some 65520, packedWrites := some false })
      [(some "packed_writes", .bool false), (some "read_batch_bytes", .natural 65520)] :=
    ⟨[], by simp, .swap ..⟩
  have link : Lays (LinkGiven.slots { maxChunk := some 65535 })
      [(some "note", .array [.null, .otherNumber]), (some "mpsse_max_chunk", .natural 65535)] :=
    ⟨[("note", .array [.null, .otherNumber])], by simp [LinkGiven.slots], .swap ..⟩
  have laid : Overlay.LaidOut
      { transfer := some { readBatchBytes := some 65520, packedWrites := some false }
        link := some { maxChunk := some 65535 } } shuffled := by
    refine .object .none (.some transfer) .none (.some link)
      ⟨[("extra", .object [(some "poll", .string none)])], by simp, ?_⟩
    change List.Perm ([_, _] ++ [_]) ([_] ++ [_, _])
    exact List.perm_append_comm
  have written := written_of_laidOut laid
  have valid : ({} : Settings).validate = .ok () := by decide
  obtain ⟨overlays, roundTrip⟩ := ofText_overlays decoder_documented
  obtain ⟨⟨text, full⟩, back⟩ := roundTrip {} valid
  have laidOver := (overlays _ _ written _).mpr
    ⟨validate_eq_ok_iff.mp (show Settings.validate _ = .ok () by decide), rfl⟩
  exact ⟨decoder_documented, written, laidOver, valid, text, full, back text full⟩

end Settings

end LineBridge
