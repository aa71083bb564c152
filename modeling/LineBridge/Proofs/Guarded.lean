import Mathlib
import LineBridge.Proofs.Outcome
import LineBridge.Transfer

/-! Computations that can be caught out. Where an operation would leave the bounds of its bytes,
fall below zero or lose a part of a number, a guarded computation has no result at all, neither a
value nor a fault. A guarded computation `Does` what a plain one does if it always has a result,
and the same one. -/

namespace LineBridge

open LineBridge.Action (Ends)

variable {σ τ α β : Type}

/-- A computation on states `σ` that may have no result. -/
def Guarded (σ α : Type) : Type := σ → Option (Except Fault α × σ)

namespace Guarded

def run (g : Guarded σ α) (s : σ) : Option (Except Fault α × σ) := g s

protected def pure (a : α) : Guarded σ α := fun s => some (.ok a, s)

protected def bind (g : Guarded σ α) (f : α → Guarded σ β) : Guarded σ β := fun s =>
  match g s with
  | none => none
  | some (.ok a, s') => f a s'
  | some (.error e, s') => some (.error e, s')

instance : Monad (Guarded σ) where
  pure := Guarded.pure
  bind := Guarded.bind

/-- A computation in which there is nothing to guard. -/
def lift (x : Action σ α) : Guarded σ α := fun s => some (x.run s)

/-- Runs on one component of a larger state. -/
def on (view : τ → σ) (put : σ → τ → τ) (g : Guarded σ α) : Guarded τ α := fun t =>
  (g (view t)).map fun (outcome, s') => (outcome, put s' t)

/-- There is no result unless it holds. -/
def require (p : Prop) [Decidable p] : Guarded σ Unit := fun s =>
  if p then some (.ok (), s) else none

/-- A difference that does not fall below zero. -/
def minus (a b : Nat) : Guarded σ Nat := do
  require (b ≤ a)
  pure (a - b)

/-- A product that a word of the host can hold. -/
def times (a b : Nat) : Guarded σ Nat := do
  require (a * b < UInt64.size)
  pure (a * b)

/-- A number in 16 bits, with nothing lost. -/
def word16 (n : Nat) : Guarded σ UInt16 := do
  require (n < UInt16.size)
  pure (UInt16.ofNat n)

/-- The bytes from one place up to another. -/
def slice (data : Bytes) (first last : Nat) : Guarded σ Bytes := do
  require (first ≤ last ∧ last ≤ data.length)
  pure ((data.drop first).take (last - first))

def element (data : Bytes) (i : Nat) : Guarded σ UInt8 :=
  match data[i]? with
  | some byte => pure byte
  | none => fun _ => none

/-- A copy of all of `data` over a part of the line, which must be as long. -/
def copyInto (line : Bytes) (offset : Nat) (data : Bytes) : Guarded σ Bytes := do
  let part ← slice line offset (offset + data.length)
  require (part.length = data.length)
  pure (Memory.splice line offset data)

/-- An address further on, by a distance that fits 32 bits. -/
def advance (addr : Addr) (distance : Nat) : Guarded σ Addr := do
  require (distance < UInt32.size)
  pure (addr.offset distance)

/-- The end of a request, formed in 64 bits. -/
def requestEnd (addr : Addr) (len : Nat) : Guarded σ UInt64 := do
  require (addr.val.toNat + len < UInt64.size)
  lift (Action.ofExcept (addr.requestEnd len))

end Guarded

/-- What the values of a computation are known to be, whatever it starts from. -/
def Action.Gives (x : Action σ α) (Q : α → Prop) : Prop :=
  Ends (fun _ => True) x (fun a _ => Q a) (fun _ _ => True)

namespace Action.Gives

variable {x : Action σ α} {Q : α → Prop}

theorem pure {a : α} (holds : Q a) : (Pure.pure a : Action σ α).Gives Q :=
  Ends.pure fun _ _ => holds

theorem fail (e : Fault) : (Action.fail e : Action σ α).Gives Q := Ends.fail fun _ _ => trivial

theorem bind {P : α → Prop} {f : α → Action σ β} {Q : β → Prop} (first : x.Gives P)
    (next : ∀ a, P a → (f a).Gives Q) : (x >>= f).Gives Q :=
  Ends.bind first fun a s holds => next a holds s trivial

/-- Nothing need be known of what comes before. -/
theorem after (x : Action σ α) {f : α → Action σ β} {Q : β → Prop}
    (next : ∀ a, (f a).Gives Q) : (x >>= f).Gives Q :=
  bind (P := fun _ => True) (Ends.trivial x) fun a _ => next a

theorem weaken {P : α → Prop} (known : x.Gives P) (holds : ∀ a, P a → Q a) : x.Gives Q :=
  Ends.onValue known fun a _ => holds a

/-- What holds anyway. -/
theorem const {P : Prop} (x : Action σ α) (holds : P) : x.Gives fun _ => P :=
  (Ends.trivial x).onValue fun _ _ _ => holds

theorem ofExcept {r : Except Fault α} (holds : ∀ a, r = .ok a → Q a) :
    (Action.ofExcept r : Action σ α).Gives Q :=
  Ends.ofExcept (fun a same _ _ => holds a same) fun _ _ _ _ => trivial

theorem ite {c : Prop} [Decidable c] {y : Action σ α} (yes : c → x.Gives Q) (no : ¬c → y.Gives Q) :
    (if c then x else y).Gives Q := by
  split
  · next holds => exact yes holds
  · next fails => exact no fails

theorem on {view : τ → σ} {put : σ → τ → τ} (own : x.Gives Q) :
    (Action.on view put x).Gives Q := by
  intro t _
  have ending := own (view t) trivial
  rw [run_on]
  cases run : x.run (view t) with
  | mk outcome s =>
    rw [run] at ending
    cases outcome with
    | ok a => exact ending
    | error e => trivial

theorem ok (gives : x.Gives Q) {s s' : σ} {a : α} (run : x.run s = (.ok a, s')) : Q a :=
  Ends.ok gives trivial run

end Action.Gives

namespace Guarded

/-- It always has a result, which is that of `x`. -/
def Does (g : Guarded σ α) (x : Action σ α) : Prop := ∀ s, g.run s = some (x.run s)

namespace Does

variable {g : Guarded σ α} {x : Action σ α} {f : α → Guarded σ β} {h : α → Action σ β}
  {y : Action σ β}

theorem lift (x : Action σ α) : Does (.lift x) x := fun _ => rfl

theorem pure (a : α) : Does (Pure.pure a : Guarded σ α) (Pure.pure a) := fun _ => rfl

/-- What is known of the first value may be used for what follows. -/
theorem bind_of {Q : α → Prop} (first : Does g x) (known : x.Gives Q)
    (next : ∀ a, Q a → Does (f a) (h a)) : Does (g >>= f) (x >>= h) := by
  intro s
  have ran : g s = some (x.run s) := first s
  show Guarded.bind g f s = some ((x >>= h).run s)
  rw [Guarded.bind, ran]
  cases run : x.run s with
  | mk outcome s' =>
    cases outcome with
    | ok a =>
      rw [Action.run_bind_ok run]
      exact next a (known.ok run) s'
    | error e =>
      rw [Action.run_bind_error run]

theorem bind (first : Does g x) (next : ∀ a, Does (f a) (h a)) : Does (g >>= f) (x >>= h) :=
  first.bind_of (Q := fun _ => True) (Ends.trivial x) fun a _ => next a

/-- An operation that stays within its bounds is no step of the plain computation. -/
theorem step {a : α} (known : Does g (Pure.pure a)) (rest : Does (f a) y) : Does (g >>= f) y := by
  intro s
  have ran : g s = some (.ok a, s) := known s
  show Guarded.bind g f s = some (y.run s)
  rw [Guarded.bind, ran]
  exact rest s

/-- A fault is the end of both. -/
theorem stop {e : Fault} (known : Does g (Action.fail e)) : Does (g >>= f) (Action.fail e) :=
  known.bind_of (Q := fun _ => False) (h := fun _ => Action.fail e) (.fail e) fun _ no => no.elim

theorem on {view : τ → σ} {put : σ → τ → τ} (own : Does g x) :
    Does (Guarded.on view put g) (Action.on view put x) := by
  intro t
  have ran : g (view t) = some (x.run (view t)) := own (view t)
  show (g (view t)).map _ = _
  rw [ran]
  rfl

theorem map (f : α → β) (own : Does g x) : Does (f <$> g) (f <$> x) :=
  own.bind fun a => .pure (f a)

end Does

theorem does_require {p : Prop} [Decidable p] (holds : p) :
    Does (require p : Guarded σ Unit) (pure ()) := fun _ => if_pos holds

theorem does_minus {a b : Nat} (le : b ≤ a) : Does (minus a b : Guarded σ Nat) (pure (a - b)) :=
  (does_require le).step (.pure _)

theorem does_times {a b : Nat} (fits : a * b < UInt64.size) :
    Does (times a b : Guarded σ Nat) (pure (a * b)) := (does_require fits).step (.pure _)

theorem does_word16 {n : Nat} (fits : n < UInt16.size) :
    Does (word16 n : Guarded σ UInt16) (pure (UInt16.ofNat n)) :=
  (does_require fits).step (.pure _)

theorem does_slice {data : Bytes} {first last : Nat} (ordered : first ≤ last)
    (inside : last ≤ data.length) : Does (slice data first last : Guarded σ Bytes)
      (pure ((data.drop first).take (last - first))) :=
  (does_require ⟨ordered, inside⟩).step (.pure _)

example : (slice [1, 2] 1 3 : Guarded Unit Bytes).run () = none := rfl

theorem does_element {data : Bytes} {i : Nat} {byte : UInt8} (there : data[i]? = some byte) :
    Does (element data i : Guarded σ UInt8) (pure byte) := by
  rw [element, there]
  exact .pure byte

theorem does_copyInto {line data : Bytes} {offset : Nat}
    (inside : offset + data.length ≤ line.length) :
    Does (copyInto line offset data : Guarded σ Bytes)
      (pure (Memory.splice line offset data)) := by
  apply (does_slice (Nat.le_add_right _ _) inside).step
  refine (does_require ?_).step (.pure _)
  rw [List.length_take, List.length_drop]
  omega

theorem does_advance {addr : Addr} {distance : Nat} (fits : distance < UInt32.size) :
    Does (advance addr distance : Guarded σ Addr) (pure (addr.offset distance)) :=
  (does_require fits).step (.pure _)

theorem does_requestEnd {addr : Addr} {len : Nat} (formed : addr.val.toNat + len < UInt64.size) :
    Does (requestEnd addr len : Guarded σ UInt64) (Action.ofExcept (addr.requestEnd len)) :=
  (does_require formed).step (.lift _)

end Guarded

end LineBridge
