import Mathlib
import LineBridge.Proofs.Loading
import LineBridge.Proofs.LostAccesses
import LineBridge.Proofs.WordWrites

/-! Holding and starting the core, over whole runs of a loader. The entry point is that of the
image that was last loaded whole, and without one there is nothing to start. A start sets three
words in order, and whatever is lost on the way, it sets no word before those in front of it: the
core is let go only with its program counter set. -/

namespace LineBridge

open LineBridge.Action (Ends Preserves runEach)

variable {σ : Type} {view : σ → Device} {lossy : Prop}

namespace ControlWords

/-- The words that a start sets: the program counter, hold, and let go. -/
def starting (c : ControlWords) (entry : UInt32) : List WordWrite :=
  [⟨⟨c.programCounter⟩, entry⟩, ⟨⟨c.reset⟩, c.hold⟩, ⟨⟨c.reset⟩, 0⟩]

/-- The word that a halt sets. -/
def halting (c : ControlWords) : List WordWrite := [⟨⟨c.reset⟩, c.hold⟩]

end ControlWords

namespace Loader

theorem startFrom_some (link : Link σ) (c : ControlWords) (entry : UInt32) :
    startFrom link c (some entry) = setWords link (c.starting entry) := by
  simp only [startFrom, ControlWords.starting, setWords, bind_pure_unit]

theorem halt_eq (link : Link σ) :
    halt link = Action.get >>= fun l => setWords link l.control.halting := by
  simp only [halt, ControlWords.halting, setWords, bind_pure_unit]

/-- A loader with these control words that is to start at this entry point. -/
def Aims (c : ControlWords) (entry : Option UInt32) (l : Loader σ) : Prop :=
  l.control = c ∧ l.entry = entry

section Entries

variable (link : Link σ) (c : ControlWords) (entry : Option UInt32)

theorem onMemory_aims {α : Type} (x : Action (Memory σ) α) :
    Preserves (Aims c entry) (fun _ => Aims c entry) (onMemory x) := by
  intro l before
  rw [onMemory, Action.run_on]
  cases (x.run l.memory).1 <;> exact before

theorem setWords_aims (words : List WordWrite) :
    Preserves (Aims c entry) (fun _ => Aims c entry) (setWords link words) := by
  induction words with
  | nil => exact .pure ()
  | cons w rest ih => exact (onMemory_aims c entry _).bind fun _ => ih

theorem halt_aims : Preserves (Aims c entry) (fun _ => Aims c entry) (halt link) := by
  rw [halt_eq]
  exact Ends.get_then fun l _ => setWords_aims link c entry _

theorem start_aims : Preserves (Aims c entry) (fun _ => Aims c entry) (start link) := by
  rw [start_eq]
  apply Ends.get_then
  intro l _
  cases l.entry with
  | none => exact Ends.fail fun _ before => before
  | some entry => exact startFrom_some link l.control entry ▸ setWords_aims link c _ _

/-- Only a load that goes through moves the entry point. -/
theorem load_aims (image : Image) (verify : Bool) (l : Loader σ) :
    Ends (· = l) (load link image verify) (fun _ => Aims l.control (some image.entry))
      (fun _ => Aims l.control l.entry) := by
  intro _ same
  rw [same, run_load]
  rcases (loadSegments link verify image.segments 0).run l.memory with ⟨_ | _, _⟩
  · exact ⟨rfl, rfl⟩
  · exact ⟨rfl, rfl⟩

/-- The entry point of the image that a call loads whole, if there is one. A load counts also when
the start that follows it fails. -/
def loadedBy (l : Loader σ) : LoaderCall → Option UInt32
  | .load image verify | .loadAndStart image verify =>
    ((load link image verify).run l).1.toOption.map fun _ => image.entry
  | .start | .halt => none

/-- The entry points of the images that a run of calls loads whole, oldest first. -/
def loadedEach : List LoaderCall → Loader σ → List UInt32
  | [], _ => []
  | call :: rest, l =>
    (loadedBy link l call).toList ++ loadedEach rest ((DriverCall.onLoader link call).run l).2

theorem call_aims (call : LoaderCall) (l : Loader σ) :
    Aims l.control ((loadedBy link l call).or l.entry)
      ((DriverCall.onLoader link call).run l).2 := by
  cases call with
  | load image verify =>
    have ending := load_aims link image verify l l rfl
    rw [DriverCall.onLoader, Action.state_map, loadedBy]
    generalize (load link image verify).run l = result at ending
    rcases result with ⟨_ | _, _⟩
    · exact ending
    · exact ending
  | loadAndStart image verify =>
    have ending := load_aims link image verify l l rfl
    rw [DriverCall.onLoader, Action.state_map, loadAndStart, Action.run_bind, loadedBy]
    generalize (load link image verify).run l = result at ending
    rcases result with ⟨_ | report, _⟩
    · exact ending
    · have onward := (start_aims link l.control (some image.entry)).bind fun _ => .pure report
      exact Ends.state onward ending
  | start =>
    rw [DriverCall.onLoader, Action.state_map]
    exact Ends.state (start_aims link l.control l.entry) ⟨rfl, rfl⟩
  | halt =>
    rw [DriverCall.onLoader, Action.state_map]
    exact Ends.state (halt_aims link l.control l.entry) ⟨rfl, rfl⟩

/-- After any run of calls the entry point is that of the last image that was loaded whole. -/
theorem calls_aim (calls : List LoaderCall) (l : Loader σ) :
    Aims l.control ((loadedEach link calls l).getLast?.or l.entry)
      (runEach (DriverCall.onLoader link) calls l).2 := by
  induction calls generalizing l with
  | nil => exact ⟨rfl, rfl⟩
  | cons call rest ih =>
    have first := call_aims link call l
    have later := ih ((DriverCall.onLoader link call).run l).2
    have last : (loadedBy link l call).toList.getLast? = loadedBy link l call := by
      cases loadedBy link l call <;> rfl
    rw [first.1, first.2, ← Option.or_assoc] at later
    rw [loadedEach, List.getLast?_append, last]
    exact later

end Entries

/-- A start that is refused at once: nothing changes, and a link that counts the calls that it
receives has received none. -/
def Refuses (link : Link σ) (l : Loader σ) : Prop :=
  (start link).run l = (.error .notLoaded, l) ∧
  ∀ calls, ((start link.counted).run
    (l.facing ⟨l.memory.host.state, calls⟩)).2.memory.host.state.calls = calls

theorem run_start (link : Link σ) (l : Loader σ) :
    (start link).run l = (startFrom link l.control l.entry).run l := by
  rw [start_eq, Action.run_bind_ok (Action.run_get l)]

theorem run_start_unloaded (link : Link σ) {l : Loader σ} (unloaded : l.entry = none) :
    (start link).run l = (.error .notLoaded, l) := by
  rw [run_start, unloaded]
  rfl

theorem refuses_iff (link : Link σ) {l : Loader σ}
    (aligned : (⟨l.control.programCounter⟩ : Addr).IsWordAligned) :
    l.Refuses link ↔ l.entry = none := by
  constructor
  · intro refused
    by_contra loaded
    obtain ⟨entry, loaded⟩ := Option.ne_none_iff_exists'.mp loaded
    -- the program counter would be set, and not without a call to the link
    have silent := refused.2 0
    generalize facing : l.facing (⟨l.memory.host.state, 0⟩ : Counted σ) = k at silent
    have control : k.control = l.control := facing ▸ rfl
    have entered : k.entry = some entry := facing ▸ loaded
    rw [run_start, control, entered, startFrom_some] at silent
    have calling := Ends.state (setWords_calls link (w := ⟨⟨l.control.programCounter⟩, entry⟩)
      aligned (l.control.starting entry).tail 0) (Nat.zero_le k.memory.host.state.calls)
    exact calling.ne' silent
  · intro unloaded
    refine ⟨run_start_unloaded link unloaded, fun calls => ?_⟩
    have facing : (l.facing (⟨l.memory.host.state, calls⟩ : Counted σ)).entry = none := unloaded
    rw [run_start_unloaded link.counted facing]
    rfl

/-- From `l` on, a call sets the words one after another, each by one write of its line, and leaves
the device idle. If it fails, it has set the first of them and not touched the others; and it fails
only if an access was lost, or a wait ran out that the device or the clock drew out. -/
def Sets (view : σ → Device) (lost : Prop) (channel : Channel σ) (l : Loader σ) (call : LoaderCall)
    (words : List WordWrite) : Prop :=
  let d := view l.memory.host.state
  Ends (· = l) (DriverCall.onLoader channel.link call)
    (fun _ l' => d.HasSet words (view l'.memory.host.state) ∧ (view l'.memory.host.state).Idle)
    (fun _ l' => (∃ k ≤ words.length, d.HasSet (words.take k) (view l'.memory.host.state)) ∧
      Troubled lost channel l.memory.host.limits d)

section Sets

variable {channel : Channel σ} {l : Loader σ} {call : LoaderCall} {words : List WordWrite}

/-- With no access lost and no wait drawn out, all of the words are set. -/
theorem Sets.goes_through {lost : Prop} (sets : l.Sets view lost channel call words)
    (whole : ¬lost) (inTime : channel.InTime l.memory.host.limits)
    (healthy : (view l.memory.host.state).Healthy l.memory.host.limits) :
    ∃ reply l', (DriverCall.onLoader channel.link call).run l = (.ok reply, l') ∧
      (view l.memory.host.state).HasSet words (view l'.memory.host.state) ∧
      (view l'.memory.host.state).Idle := by
  refine (Ends.onFault sets fun _ _ after => ?_).exists_ok (s := l) rfl
  rcases after.2 with gone | late | broken
  · exact whole gone
  · exact late inTime
  · exact broken healthy

/-- Only what is lost in the course of the call can make it fail. -/
theorem Sets.unless_lost (fronts : channel.Fronts view lossy)
    (sets : l.Sets view lossy channel call words)
    (clean : (l.doubled view).Sets Doubled.device False channel.doubled call words) :
    l.Sets view (l.Loses channel call) channel call words := by
  intro k same
  subst same
  have ending := sets k rfl
  have clean := clean (k.doubled view) rfl
  have either := loses_or_ends_alike fronts call k
  generalize (DriverCall.onLoader channel.link call).run k = result at ending either ⊢
  generalize (DriverCall.onLoader channel.doubled.link call).run (k.doubled view) = result'
    at clean either
  rcases result with ⟨_ | _, k'⟩
  · refine ⟨ending.1, ?_⟩
    rcases either with lost | alike
    · exact .inl lost
    -- it fails also where no access can, so that the device or the clock is to blame
    · rcases result' with ⟨_ | _, _⟩
      · exact clean.2.of_doubled _
      · cases alike
  · exact ending

variable (fronts : channel.Fronts view lossy)
include fronts

/-- A call that comes to setting words sets them. -/
theorem sets_of_run (some : words ≠ []) (aligned : ∀ w ∈ words, w.addr.IsWordAligned)
    (run : (DriverCall.onLoader channel.link call).run l =
      ((fun _ => CallReply.done) <$> setWords channel.link words).run l) :
    l.Sets view lossy channel call words := by
  have set := setWords_ends fronts aligned l.memory.host.limits (view l.memory.host.state)
  refine Ends.congr (Ends.map _ (set.weaken ?_ ?_ ?_) fun _ _ after => after)
    (fun k same => same ▸ run)
  · intro k same
    subst same
    exact ⟨rfl, rfl⟩
  · intro _ l' after
    exact ⟨after.2.1, after.2.2 (.inr some)⟩
  · intro _ l' after
    exact after.2

theorem halt_sets (aligned : (⟨l.control.reset⟩ : Addr).IsWordAligned) :
    l.Sets view lossy channel .halt l.control.halting := by
  apply sets_of_run fronts (by simp [ControlWords.halting])
    (by simp [ControlWords.halting, aligned])
  rw [DriverCall.onLoader, halt_eq]
  rfl

theorem start_sets {entry : UInt32} (loaded : l.entry = some entry)
    (counter : (⟨l.control.programCounter⟩ : Addr).IsWordAligned)
    (reset : (⟨l.control.reset⟩ : Addr).IsWordAligned) :
    l.Sets view lossy channel .start (l.control.starting entry) := by
  apply sets_of_run fronts (by simp [ControlWords.starting])
    (by simp [ControlWords.starting, counter, reset])
  rw [DriverCall.onLoader, map_eq_pure_bind, map_eq_pure_bind, Action.run_bind, run_start, loaded,
    startFrom_some, Action.run_bind]

end Sets

end Loader

/-- After any run of calls, some of which may have failed, the entry point is that of the image
that was last loaded whole; a start is refused exactly if there is none; and a start or a halt sets
its words in order. If it fails it has set the first of them, and it fails only if one of its own
accesses does, or a wait is drawn out. -/
theorem control_in_order {channel : Channel σ} (fronts : channel.Fronts view lossy) {s : Settings}
    (valid : s.validate = .ok ()) {l₀ : Loader σ} (configured : l₀.control = s.control)
    (unloaded : l₀.entry = none) (calls : List LoaderCall) :
    let l := (runEach (DriverCall.onLoader channel.link) calls l₀).2
    let loaded := Loader.loadedEach channel.link calls l₀
    l.entry = loaded.getLast? ∧
    (l.Refuses channel.link ↔ loaded = []) ∧
    (∀ entry, l.entry = some entry → l.Sets view (l.Loses channel .start) channel .start
      [⟨⟨s.control.programCounter⟩, entry⟩, ⟨⟨s.control.reset⟩, s.control.hold⟩,
        ⟨⟨s.control.reset⟩, 0⟩]) ∧
    l.Sets view (l.Loses channel .halt) channel .halt [⟨⟨s.control.reset⟩, s.control.hold⟩] := by
  intro l loaded
  obtain ⟨counter, reset⟩ := Settings.aligned_of_validate valid
  have aims := Loader.calls_aim channel.link calls l₀
  rw [unloaded, Option.or_none] at aims
  have control : l.control = s.control := aims.1.trans configured
  have entered : l.entry = loaded.getLast? := aims.2
  rw [← control] at counter reset ⊢
  refine ⟨entered, ?_, fun entry some => ?_, ?_⟩
  · rw [Loader.refuses_iff channel.link counter, entered, List.getLast?_eq_none_iff]
  · exact (Loader.start_sets fronts some counter reset).unless_lost fronts
      (Loader.start_sets (l := l.doubled view) channel.fronts_doubled some counter reset)
  · exact (Loader.halt_sets fronts reset).unless_lost fronts
      (Loader.halt_sets (l := l.doubled view) channel.fronts_doubled reset)

/-- Both control words are in the last line of the space, and an access may be cut off. -/
theorem control_in_order_last_line :
    let s : Settings := { control := ⟨0xFFFFFFF8, 0xFFFFFFFC, 1⟩ }
    let channel := Bench.Probed.channel Device.channel
    let l₀ : Loader (Bench.Probed Device) :=
      { memory := s.memory { inner := {}, cutAt := some 40 }, control := s.control }
    let l := (runEach (DriverCall.onLoader channel.link)
      [.start, .load ⟨[], 0x80000000⟩ false] l₀).2
    channel.Fronts Bench.Probed.inner True ∧ s.validate = .ok () ∧ l₀.entry = none ∧
      l₀.Refuses channel.link ∧ l.entry = some 0x80000000 ∧
      l.Sets Bench.Probed.inner (l.Loses channel .start) channel .start
        [⟨⟨0xFFFFFFF8⟩, 0x80000000⟩, ⟨⟨0xFFFFFFFC⟩, 1⟩, ⟨⟨0xFFFFFFFC⟩, 0⟩] ∧
      l.Sets Bench.Probed.inner (l.Loses channel .halt) channel .halt
        [⟨⟨0xFFFFFFFC⟩, 1⟩] := by
  intro s channel l₀ l
  have fronts : channel.Fronts Bench.Probed.inner True := Channel.fronts_probed
  have valid : s.validate = .ok () := by decide
  have configured : l₀.control = s.control := rfl
  have controlled := control_in_order fronts valid configured rfl
  have refused : l₀.Refuses channel.link := (controlled []).2.1.mpr rfl
  obtain ⟨entry, -, starts, halts⟩ := controlled [.start, .load ⟨[], 0x80000000⟩ false]
  have entered : l.entry = some 0x80000000 := entry
  exact ⟨fronts, valid, rfl, refused, entered, starts _ entered, halts⟩

end LineBridge
