import Mathlib
import LineBridge.Action

/-! Assertions about computations that may end in a fault. `Ends P x Q E` promises one of two
endings from every state in `P`: a value and a state that `Q` accepts, or a fault and a state
that `E` accepts. Since a fault undoes nothing, what it leaves behind is asserted as well, and
`E` that accepts nothing says that there is no fault. -/

namespace LineBridge.Action

variable {σ τ α β : Type} {P P' : σ → Prop} {E E' : Fault → σ → Prop}

def Ends (P : σ → Prop) (x : Action σ α) (Q : α → σ → Prop) (E : Fault → σ → Prop) : Prop :=
  ∀ s, P s → match x.run s with
    | (.ok a, s') => Q a s'
    | (.error e, s') => E e s'

theorem run_on (view : τ → σ) (put : σ → τ → τ) (x : Action σ α) (t : τ) :
    (Action.on view put x).run t = ((x.run (view t)).1, put (x.run (view t)).2 t) := rfl

theorem run_map (f : α → β) (x : Action σ α) (s : σ) :
    (f <$> x).run s = ((x.run s).1.map f, (x.run s).2) := by
  rw [map_eq_pure_bind, run_bind]
  rcases x.run s with ⟨_ | _, _⟩ <;> rfl

theorem state_map (f : α → β) (x : Action σ α) (s : σ) :
    ((f <$> x).run s).2 = (x.run s).2 := by
  rw [run_map]

theorem map_on (view : τ → σ) (put : σ → τ → τ) (f : α → β) (x : Action σ α) :
    f <$> Action.on view put x = Action.on view put (f <$> x) := by
  funext t
  have left : (f <$> Action.on view put x).run t = _ := run_map ..
  have right : (Action.on view put (f <$> x)).run t = _ := run_on ..
  rw [run_on] at left
  rw [run_map] at right
  exact left.trans right.symm

theorem exists_of_isOk {x : Action σ α} {s : σ} (ok : (x.run s).1.isOk = true) :
    ∃ a s', x.run s = (.ok a, s') := by
  cases run : x.run s with
  | mk outcome s' =>
    rw [run] at ok
    cases outcome with
    | ok a => exact ⟨a, s', rfl⟩
    | error e => cases ok

namespace Ends

theorem congr {x y : Action σ α} {Q : α → σ → Prop} (h : Ends P x Q E)
    (run : ∀ s, P s → y.run s = x.run s) : Ends P y Q E := by
  intro s before
  rw [run s before]
  exact h s before

theorem ok {x : Action σ α} {Q : α → σ → Prop} (h : Ends P x Q E) {s s' : σ} {a : α}
    (before : P s) (run : x.run s = (.ok a, s')) : Q a s' := by
  have ending := h s before
  rw [run] at ending
  exact ending

/-- What holds however a computation ends holds of the state that it leaves. -/
theorem state {x : Action σ α} {I : σ → Prop} (h : Ends P x (fun _ => I) (fun _ => I)) {s : σ}
    (before : P s) : I (x.run s).2 := by
  have ending := h s before
  split at ending
  · next run => rwa [run]
  · next run => rwa [run]

/-- Where no fault is accepted there is a value. -/
theorem exists_ok {x : Action σ α} {Q : α → σ → Prop} (h : Ends P x Q fun _ _ => False) {s : σ}
    (before : P s) : ∃ a s', x.run s = (.ok a, s') ∧ Q a s' := by
  have ending := h s before
  cases run : x.run s with
  | mk outcome s' =>
    rw [run] at ending
    cases outcome with
    | ok a => exact ⟨a, s', rfl, ending⟩
    | error e => exact ending.elim

theorem trivial (x : Action σ α) : Ends P x (fun _ _ => True) (fun _ _ => True) := by
  intro s _
  cases x.run s with
  | mk outcome s' => cases outcome <;> exact True.intro

theorem pure {Q : α → σ → Prop} {a : α} (h : ∀ s, P s → Q a s) :
    Ends P (Pure.pure a : Action σ α) Q E := h

theorem fail {Q : α → σ → Prop} {e : Fault} (h : ∀ s, P s → E e s) :
    Ends P (Action.fail e : Action σ α) Q E := h

theorem bind {x : Action σ α} {f : α → Action σ β} {Q : α → σ → Prop} {R : β → σ → Prop}
    (first : Ends P x Q E) (next : ∀ a, Ends (Q a) (f a) R E) : Ends P (x >>= f) R E := by
  intro s before
  have ending := first s before
  rw [run_bind]
  cases run : x.run s with
  | mk outcome s' =>
    rw [run] at ending
    cases outcome with
    | ok a => exact next a s' ending
    | error e => exact ending

theorem map {x : Action σ α} {Q : α → σ → Prop} {R : β → σ → Prop} (f : α → β) (h : Ends P x Q E)
    (value : ∀ a s, Q a s → R (f a) s) : Ends P (f <$> x) R E := by
  rw [map_eq_pure_bind]
  exact h.bind fun a => pure (value a)

theorem weaken {x : Action σ α} {Q Q' : α → σ → Prop} (h : Ends P' x Q' E')
    (before : ∀ s, P s → P' s) (value : ∀ a s, Q' a s → Q a s)
    (fault : ∀ e s, E' e s → E e s) : Ends P x Q E := by
  intro s holds
  have ending := h s (before s holds)
  cases run : x.run s with
  | mk outcome s' =>
    rw [run] at ending
    cases outcome with
    | ok a => exact value a s' ending
    | error e => exact fault e s' ending

theorem onValue {x : Action σ α} {Q Q' : α → σ → Prop} (h : Ends P x Q' E)
    (value : ∀ a s, Q' a s → Q a s) : Ends P x Q E :=
  h.weaken (fun _ before => before) value (fun _ _ after => after)

theorem onFault {x : Action σ α} {Q : α → σ → Prop} (h : Ends P x Q E')
    (fault : ∀ e s, E' e s → E e s) : Ends P x Q E :=
  h.weaken (fun _ before => before) (fun _ _ after => after) fault

/-- What has been proved of every single starting state holds of all of them. -/
theorem of_eq {x : Action σ α} {Q : α → σ → Prop} (h : ∀ s, P s → Ends (· = s) x Q E) :
    Ends P x Q E := fun s before => h s before s rfl

theorem get_bind {f : σ → Action σ β} {R : β → σ → Prop}
    (next : ∀ s, P s → Ends (· = s) (f s) R E) : Ends P (Action.get >>= f) R E :=
  fun s before => next s before s rfl

theorem get_then {f : σ → Action σ β} {R : β → σ → Prop}
    (next : ∀ s, P s → Ends P (f s) R E) : Ends P (Action.get >>= f) R E :=
  fun s before => next s before s before

theorem modify {Q : Unit → σ → Prop} {f : σ → σ} (h : ∀ s, P s → Q () (f s)) :
    Ends P (Action.modify f) Q E := h

theorem ofExcept {Q : α → σ → Prop} {r : Except Fault α} (value : ∀ a, r = .ok a → ∀ s, P s → Q a s)
    (fault : ∀ e, r = .error e → ∀ s, P s → E e s) : Ends P (Action.ofExcept r) Q E := by
  intro s before
  cases r with
  | ok a => exact value a rfl s before
  | error e => exact fault e rfl s before

theorem ofExcept_ok {f : α → Action σ β} {R : β → σ → Prop} {a : α} (h : Ends P (f a) R E) :
    Ends P (Action.ofExcept (.ok a) >>= f) R E := h

/-- A computation on a component keeps what the rest of the state has to say. -/
theorem on {view : τ → σ} {put : σ → τ → τ} {x : Action σ α} {Q : α → σ → Prop}
    {J : τ → Prop} (h : Ends P x Q E) (view_put : ∀ s t, view (put s t) = s)
    (keeps : ∀ s t, J t → J (put s t)) :
    Ends (fun t => J t ∧ P (view t)) (Action.on view put x) (fun a t => J t ∧ Q a (view t))
      (fun e t => J t ∧ E e (view t)) := by
  intro t ⟨rest, before⟩
  have ending := h (view t) before
  cases run : x.run (view t) with
  | mk outcome s' =>
    have whole : (Action.on view put x).run t = (outcome, put s' t) := by rw [run_on, run]
    rw [run] at ending
    rw [whole]
    cases outcome with
    | ok a => exact ⟨keeps s' t rest, (view_put s' t).symm ▸ ending⟩
    | error e => exact ⟨keeps s' t rest, (view_put s' t).symm ▸ ending⟩

end Ends

end LineBridge.Action
