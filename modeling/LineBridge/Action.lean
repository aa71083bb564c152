import LineBridge.Fault

/-! Computations on a link: they read and change its state, and may end in a fault. A fault
ends the computation but undoes nothing, so the state that it leaves is part of the result. -/

namespace LineBridge

/-- A computation on states `σ`. -/
def Action (σ α : Type) : Type := σ → Except Fault α × σ

namespace Action

variable {σ τ α β : Type}

def run (x : Action σ α) (s : σ) : Except Fault α × σ := x s

protected def pure (a : α) : Action σ α := fun s => (.ok a, s)

protected def bind (x : Action σ α) (f : α → Action σ β) : Action σ β := fun s =>
  match x s with
  | (.ok a, s') => f a s'
  | (.error e, s') => (.error e, s')

instance : Monad (Action σ) where
  pure := Action.pure
  bind := Action.bind

/-- Ends in a fault. -/
def fail (e : Fault) : Action σ α := fun s => (.error e, s)

/-- Turns a fault into a value. -/
def attempt (x : Action σ α) : Action σ (Except Fault α) := fun s =>
  let (outcome, s') := x s
  (.ok outcome, s')

def get : Action σ σ := fun s => (.ok s, s)

def modify (f : σ → σ) : Action σ Unit := fun s => (.ok (), f s)

/-- Reads and changes the state in one step. -/
def modifyGet (f : σ → α × σ) : Action σ α := fun s =>
  let (a, s') := f s
  (.ok a, s')

def ofExcept : Except Fault α → Action σ α
  | .ok a => pure a
  | .error e => fail e

/-- Runs on one component of a larger state. -/
def on (view : τ → σ) (put : σ → τ → τ) (x : Action σ α) : Action τ α := fun t =>
  let (outcome, s') := x (view t)
  (outcome, put s' t)

@[simp] theorem run_pure (a : α) (s : σ) : (pure a : Action σ α).run s = (.ok a, s) := rfl

@[simp] theorem run_fail (e : Fault) (s : σ) : (fail e : Action σ α).run s = (.error e, s) := rfl

@[simp] theorem run_get (s : σ) : (get : Action σ σ).run s = (.ok s, s) := rfl

@[simp] theorem run_modify (f : σ → σ) (s : σ) : (modify f).run s = (.ok (), f s) := rfl

theorem run_bind (x : Action σ α) (f : α → Action σ β) (s : σ) :
    (x >>= f).run s = match x.run s with
      | (.ok a, s') => (f a).run s'
      | (.error e, s') => (.error e, s') := rfl

theorem run_bind_ok {x : Action σ α} {f : α → Action σ β} {s s' : σ} {a : α}
    (h : x.run s = (.ok a, s')) : (x >>= f).run s = (f a).run s' := by
  rw [run_bind, h]

theorem run_bind_error {x : Action σ α} {f : α → Action σ β} {s s' : σ} {e : Fault}
    (h : x.run s = (.error e, s')) : (x >>= f).run s = (.error e, s') := by
  rw [run_bind, h]

instance : LawfulMonad (Action σ) := LawfulMonad.mk' _
  (fun x => by
    funext s
    change (match x s with | (.ok a, s') => _ | (.error e, s') => _) = x s
    rcases x s with ⟨_ | _, _⟩ <;> rfl)
  (fun _ _ => rfl)
  (fun x f g => by
    funext s
    change (match (match x s with | (.ok a, s') => f a s' | (.error e, s') => (.error e, s')) with
      | (.ok a, s') => g a s' | (.error e, s') => (.error e, s')) =
      (match x s with
        | (.ok a, s') => (match f a s' with
          | (.ok a, s') => g a s' | (.error e, s') => (.error e, s'))
        | (.error e, s') => (.error e, s'))
    rcases x s with ⟨_ | _, _⟩ <;> rfl)

end Action

end LineBridge
