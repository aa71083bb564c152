import LineBridge.Host.Event
import LineBridge.Link

/-! The host's side of a link: its limits, the transaction that it has in flight, and the
events that it has reported. -/

namespace LineBridge

/-- A host on a link with states `σ`. -/
structure Host (σ : Type) where
  /-- The state of the link. -/
  state : σ
  limits : PollLimits := .standard
  /-- Clocks that follow every transaction with the device deselected. -/
  idleCycles : UInt32 := 0
  /-- Whether events are kept. -/
  observed : Bool := false
  inFlight : Option Addr := none
  /-- Newest first. -/
  events : List Event := []

namespace Host

variable {σ α : Type}

/-- Uses the link. -/
def onLink (x : Action σ α) : Action (Host σ) α :=
  Action.on (·.state) (fun s h => { h with state := s }) x

def now (link : Link σ) : Action (Host σ) Nat := fun h => (.ok (link.clock.now h.state), h)

def report (event : Event) : Action (Host σ) Unit :=
  Action.modify fun h => if h.observed then { h with events := event :: h.events } else h

/-- Reports a phase that began at a given time. -/
def endPhase (link : Link σ) (phase : Phase) (started : Nat) : Action (Host σ) Unit := do
  let t ← now link
  report (.phase phase (t - started))

def setInFlight (addr : Option Addr) : Action (Host σ) Unit :=
  Action.modify fun h => { h with inFlight := addr }

end Host

end LineBridge
