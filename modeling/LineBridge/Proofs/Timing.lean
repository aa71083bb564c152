import Mathlib
import LineBridge.Proofs.Calls

/-! Times in what a driver reports. Events and accounts say how long something took, and this is all
that a driver makes of its clock outside of its waits. What is to be compared of two clocks can
therefore be chosen: their readings as they are, or nothing at all. -/

namespace LineBridge

variable {σ : Type} (f : Nat → Nat)

/-- With the time that it took replaced. -/
def Event.retimed : Event → Event
  | phase p elapsed => phase p (f elapsed)
  | batch b => batch b

def TransferReport.retimed (r : TransferReport) : TransferReport :=
  { r with elapsed := f r.elapsed }

def LoadReport.retimed (r : LoadReport) : LoadReport := { r with elapsed := f r.elapsed }

def CallReply.retimed : CallReply → CallReply
  | moved report => moved (report.retimed f)
  | loaded report => loaded (report.retimed f)
  | reply => reply

def UseReply.retimed : UseReply → UseReply
  | answered reply => answered (reply.retimed f)
  | account data report => account data (report.retimed f)
  | reply => reply

def Host.retimed (h : Host σ) : Host σ := { h with events := h.events.map (Event.retimed f) }

def Memory.retimed (m : Memory σ) : Memory σ := { m with host := m.host.retimed f }

def Loader.retimed (l : Loader σ) : Loader σ := { l with memory := l.memory.retimed f }

section Untouched

@[simp] theorem Event.retimed_id : Event.retimed id = id := by
  funext event
  cases event <;> rfl

@[simp] theorem CallReply.retimed_id : CallReply.retimed id = id := by
  funext reply
  cases reply <;> rfl

@[simp] theorem UseReply.retimed_id : UseReply.retimed id = id := by
  funext reply
  cases reply with
  | answered reply => exact congrArg answered (congrFun CallReply.retimed_id reply)
  | account data report => rfl
  | drained data => rfl
  | streamed => rfl
  | waited outcome => rfl

@[simp] theorem Host.retimed_id (h : Host σ) : h.retimed id = h := by
  simp [Host.retimed]

end Untouched

/-- What is kept of the times that two clocks show. -/
structure Timing where
  /-- Readings of the two clocks that go together. -/
  Same : Nat → Nat → Prop
  /-- What is shown of a length of time. -/
  shown : Nat → Nat
  shown_sub : ∀ {a b a' b' : Nat}, Same a a' → Same b b' → shown (b - a) = shown (b' - a')

namespace Timing

/-- A phase looks the same from readings that go together. -/
theorem phase_eq (timing : Timing) (phase : Phase) {a b a' b' : Nat} (started : timing.Same a a')
    (ended : timing.Same b b') : (Event.phase phase (b - a)).retimed timing.shown =
      (Event.phase phase (b' - a')).retimed timing.shown :=
  congrArg (Event.phase phase) (timing.shown_sub started ended)

/-- Clocks that show the same. -/
def exact : Timing where
  Same := Eq
  shown := id
  shown_sub := by
    rintro a b _ _ rfl rfl
    rfl

theorem eq_of_exact {event event' : Event}
    (same : event.retimed exact.shown = event'.retimed exact.shown) : event = event' := by
  have kept : Event.retimed exact.shown = id := Event.retimed_id
  rwa [kept] at same

/-- Clocks that have nothing to do with each other: times are left out. -/
def none : Timing where
  Same _ _ := True
  shown _ := 0
  shown_sub _ _ := rfl

end Timing

end LineBridge
