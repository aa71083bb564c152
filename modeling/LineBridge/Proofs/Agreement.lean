import Mathlib
import LineBridge.Proofs.Outcome

/-! Two computations in step. They agree if from related states both end with the same value or
the same fault, in related states. What is known of one side alone may be used on the way, so
that they need to agree only where the program really goes. -/

namespace LineBridge.Action

variable {σ τ α β κ : Type} {P P' E E' : σ → τ → Prop}

def Agree (P : σ → τ → Prop) (x : Action σ α) (y : Action τ α) (Q : α → σ → τ → Prop)
    (E : σ → τ → Prop) : Prop :=
  ∀ s t, P s t → ∃ outcome s' t', x.run s = (outcome, s') ∧ y.run t = (outcome, t') ∧
    match outcome with
    | .ok a => Q a s' t'
    | .error _ => E s' t'

/-- Agreement that starts and ends in the same relation. -/
abbrev Follows (R : σ → τ → Prop) (x : Action σ α) (y : Action τ α) : Prop :=
  Agree R x y (fun _ => R) R

namespace Agree

theorem pure {Q : α → σ → τ → Prop} {a : α} (h : ∀ s t, P s t → Q a s t) :
    Agree P (Pure.pure a : Action σ α) (Pure.pure a : Action τ α) Q E :=
  fun s t before => ⟨.ok a, s, t, rfl, rfl, h s t before⟩

theorem fail {Q : α → σ → τ → Prop} {e : Fault} (h : ∀ s t, P s t → E s t) :
    Agree P (Action.fail e : Action σ α) (Action.fail e : Action τ α) Q E :=
  fun s t before => ⟨.error e, s, t, rfl, rfl, h s t before⟩

theorem bind {x : Action σ α} {y : Action τ α} {f : α → Action σ β} {g : α → Action τ β}
    {Q : α → σ → τ → Prop} {S : β → σ → τ → Prop} (first : Agree P x y Q E)
    (next : ∀ a, Agree (Q a) (f a) (g a) S E) : Agree P (x >>= f) (y >>= g) S E := by
  intro s t before
  obtain ⟨outcome, s', t', left, right, after⟩ := first s t before
  cases outcome with
  | ok a =>
    rw [run_bind_ok left, run_bind_ok right]
    exact next a s' t' after
  | error e =>
    rw [run_bind_error left, run_bind_error right]
    exact ⟨.error e, s', t', rfl, rfl, after⟩

theorem weaken {x : Action σ α} {y : Action τ α} {Q Q' : α → σ → τ → Prop}
    (h : Agree P' x y Q' E') (before : ∀ s t, P s t → P' s t)
    (value : ∀ a s t, Q' a s t → Q a s t) (fault : ∀ s t, E' s t → E s t) : Agree P x y Q E := by
  intro s t holds
  obtain ⟨outcome, s', t', left, right, after⟩ := h s t (before s t holds)
  refine ⟨outcome, s', t', left, right, ?_⟩
  cases outcome with
  | ok a => exact value a s' t' after
  | error e => exact fault s' t' after

/-- One side is run, and the other is shown to end likewise. -/
theorem of_ends {x : Action σ α} {y : Action τ α} {Q : α → σ → τ → Prop}
    (h : ∀ s t, P s t → Ends (· = s) x (fun a s' => ∃ t', y.run t = (.ok a, t') ∧ Q a s' t')
      (fun e s' => ∃ t', y.run t = (.error e, t') ∧ E s' t')) : Agree P x y Q E := by
  intro s t before
  have ending := h s t before s rfl
  cases run : x.run s with
  | mk outcome s' =>
    rw [run] at ending
    cases outcome with
    | ok a =>
      obtain ⟨t', right, after⟩ := ending
      exact ⟨.ok a, s', t', rfl, right, after⟩
    | error e =>
      obtain ⟨t', right, after⟩ := ending
      exact ⟨.error e, s', t', rfl, right, after⟩

/-- What is known of the second side alone. -/
theorem knowing {x : Action σ α} {y : Action τ α} {Q : α → σ → τ → Prop} {B : τ → Prop}
    {A : α → τ → Prop} {F : Fault → τ → Prop} (h : Agree P x y Q E) (known : Ends B y A F) :
    Agree (fun s t => P s t ∧ B t) x y (fun a s t => Q a s t ∧ A a t) E := by
  intro s t ⟨before, holds⟩
  obtain ⟨outcome, s', t', left, right, after⟩ := h s t before
  refine ⟨outcome, s', t', left, right, ?_⟩
  cases outcome with
  | ok a => exact ⟨after, known.ok holds right⟩
  | error e => exact after

theorem ofExcept_then {f : α → Action σ β} {g : α → Action τ β} {S : β → σ → τ → Prop}
    {r : Except Fault α} (next : ∀ a, r = .ok a → Agree P (f a) (g a) S E)
    (fault : ∀ s t, P s t → E s t) :
    Agree P (Action.ofExcept r >>= f) (Action.ofExcept r >>= g) S E := by
  cases r with
  | ok a => exact next a rfl
  | error e => exact fun s t before => ⟨.error e, s, t, rfl, rfl, fault s t before⟩

theorem get_then {f : σ → Action σ β} {g : τ → Action τ β} {S : β → σ → τ → Prop}
    (next : ∀ s t, P s t → Agree P (f s) (g t) S E) :
    Agree P (Action.get >>= f) (Action.get >>= g) S E :=
  fun s t before => next s t before s t before

theorem modify {Q : Unit → σ → τ → Prop} {f : σ → σ} {g : τ → τ}
    (h : ∀ s t, P s t → Q () (f s) (g t)) :
    Agree P (Action.modify f) (Action.modify g) Q E :=
  fun s t before => ⟨.ok (), f s, g t, rfl, rfl, h s t before⟩

theorem modifyGet {Q : α → σ → τ → Prop} {f : σ → α × σ} {g : τ → α × τ}
    (h : ∀ s t, P s t → (f s).1 = (g t).1 ∧ Q (f s).1 (f s).2 (g t).2) :
    Agree P (Action.modifyGet f) (Action.modifyGet g) Q E := by
  intro s t before
  obtain ⟨same, after⟩ := h s t before
  exact ⟨.ok (f s).1, (f s).2, (g t).2, rfl, by rw [same]; rfl, after⟩

theorem map {x : Action σ α} {y : Action τ α} {Q : α → σ → τ → Prop} {S : β → σ → τ → Prop}
    (f : α → β) (h : Agree P x y Q E) (value : ∀ a s t, Q a s t → S (f a) s t) :
    Agree P (f <$> x) (f <$> y) S E := by
  rw [map_eq_pure_bind, map_eq_pure_bind]
  exact h.bind fun a => Agree.pure (value a)

/-- Agreement on a component is agreement on the whole, if what relates the wholes survives a
change of the component. -/
theorem on {υ ω : Type} {view : υ → σ} {put : σ → υ → υ} {view' : ω → τ} {put' : τ → ω → ω}
    {x : Action σ α} {y : Action τ α} {Q : α → σ → τ → Prop} {W F : υ → ω → Prop}
    {V : α → υ → ω → Prop} (h : Agree P x y Q E)
    (inside : ∀ u w, W u w → P (view u) (view' w))
    (value : ∀ a u w s t, W u w → Q a s t → V a (put s u) (put' t w))
    (fault : ∀ u w s t, W u w → E s t → F (put s u) (put' t w)) :
    Agree W (Action.on view put x) (Action.on view' put' y) V F := by
  intro u w before
  obtain ⟨outcome, s', t', left, right, after⟩ := h (view u) (view' w) (inside u w before)
  refine ⟨outcome, put s' u, put' t' w, ?_, ?_, ?_⟩
  · rw [run_on, left]
  · rw [run_on, right]
  · cases outcome with
    | ok a => exact value a u w s' t' before after
    | error e => exact fault u w s' t' before after

end Agree

namespace Follows

variable {R : σ → τ → Prop} {x : Action σ α} {y : Action τ α}

theorem pure (a : α) : Follows R (Pure.pure a : Action σ α) (Pure.pure a : Action τ α) :=
  Agree.pure fun _ _ related => related

theorem fail (e : Fault) : Follows R (Action.fail e : Action σ α) (Action.fail e : Action τ α) :=
  Agree.fail fun _ _ related => related

theorem bind {f : α → Action σ β} {g : α → Action τ β} (first : Follows R x y)
    (next : ∀ a, Follows R (f a) (g a)) : Follows R (x >>= f) (y >>= g) := Agree.bind first next

theorem refl (x : Action σ α) : Follows Eq x x := by
  rintro s _ rfl
  cases run : x.run s with
  | mk outcome s' =>
    refine ⟨outcome, s', s', rfl, rfl, ?_⟩
    cases outcome with
    | ok a => rfl
    | error e => rfl

/-- In the middle of something, a fault only has to leave what holds outside of it. -/
theorem within {R₀ : σ → τ → Prop} (h : Follows R x y) (forget : ∀ s t, R s t → R₀ s t) :
    Agree R x y (fun _ => R) R₀ :=
  h.weaken (fun _ _ related => related) (fun _ _ _ after => after) forget

theorem map (f : α → β) (h : Follows R x y) : Follows R (f <$> x) (f <$> y) :=
  Agree.map f h fun _ _ _ related => related

theorem alike (follows : Follows R x y) {s : σ} {t : τ} (related : R s t) :
    (x.run s).1 = (y.run t).1 ∧ R (x.run s).2 (y.run t).2 := by
  obtain ⟨outcome, s', t', ran, ran', after⟩ := follows s t related
  rw [ran, ran']
  refine ⟨rfl, ?_⟩
  cases outcome with
  | ok a => exact after
  | error e => exact after

/-- Two computations that follow a third are in step. -/
theorem meet {υ : Type} {S : τ → υ → Prop} {T : σ → υ → Prop} {z : Action υ α}
    (left : Follows T x z) (right : Follows S y z) :
    Follows (fun s t => ∃ u, T s u ∧ S t u) x y := by
  rintro s t ⟨u, related, related'⟩
  obtain ⟨outcome, s', u', run, ran, after⟩ := left s u related
  obtain ⟨outcome', t', u'', run', ran', after'⟩ := right t u related'
  obtain ⟨rfl, rfl⟩ := Prod.mk.inj (ran.symm.trans ran')
  refine ⟨outcome, s', t', run, run', ?_⟩
  cases outcome with
  | ok a => exact ⟨u', after, after'⟩
  | error e => exact ⟨u', after, after'⟩

theorem eq {x y : Action σ α} (follows : Follows Eq x y) : x = y := by
  funext s
  obtain ⟨same, after⟩ := follows.alike rfl
  exact Prod.ext same after

end Follows

/-- Makes calls one after another, and gathers their outcomes; a call that fails does not end the
sequence. -/
def runEach (perform : κ → Action σ α) : List κ → σ → List (Except Fault α) × σ
  | [], s => ([], s)
  | call :: rest, s =>
    let (outcome, s') := (perform call).run s
    let (outcomes, last) := runEach perform rest s'
    (outcome :: outcomes, last)

/-- Calls that agree one by one agree in any sequence. -/
theorem Agree.runEach {f : κ → Action σ α} {g : κ → Action τ α} {R : σ → τ → Prop}
    {calls : List κ} (step : ∀ call ∈ calls, Follows R (f call) (g call)) {s : σ} {t : τ}
    (start : R s t) : (runEach f calls s).1 = (runEach g calls t).1 ∧
      R (runEach f calls s).2 (runEach g calls t).2 := by
  induction calls generalizing s t with
  | nil => exact ⟨rfl, start⟩
  | cons call rest ih =>
    obtain ⟨outcome, s', t', left, right, after⟩ := step call (List.mem_cons_self ..) s t start
    have related : R s' t' := by cases outcome <;> exact after
    obtain ⟨same, last⟩ := ih (fun c member => step c (List.mem_cons_of_mem _ member)) related
    simp only [Action.runEach, left, right]
    exact ⟨congrArg (outcome :: ·) same, last⟩

end LineBridge.Action
