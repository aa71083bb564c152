import Mathlib
import LineBridge.Polling
import LineBridge.Proofs.Outcome

/-! What computations leave in a trace. A computation emits a language if it extends the trace by
one of its words, or, when it ends in a fault, by nothing or by the beginning of one. Sequences
emit products, and polls emit one word or more. -/

namespace LineBridge

open Computability

section Words

variable {A : Type} {L M : Language A}

theorem exists_mem_mul (first : ∃ word, word ∈ L) (last : ∃ word, word ∈ M) :
    ∃ word, word ∈ L * M := by
  obtain ⟨u, left⟩ := first
  obtain ⟨v, right⟩ := last
  exact ⟨u ++ v, Language.append_mem_mul left right⟩

theorem exists_mem_mul_kstar (some : ∃ word, word ∈ L) : ∃ word, word ∈ L * L∗ :=
  exists_mem_mul some ⟨[], Language.nil_mem_kstar L⟩

theorem mem_singleton_mul_kstar {v word : List A} :
    word ∈ ({v} : Language A) * ({v} : Language A)∗ ↔
      ∃ n, 0 < n ∧ word = (List.replicate n v).flatten := by
  constructor
  · intro member
    obtain ⟨first, rfl, rest, ⟨words, rfl, same⟩, rfl⟩ := Language.mem_mul.mp member
    refine ⟨words.length + 1, Nat.succ_pos _, ?_⟩
    rw [List.replicate_succ, List.flatten_cons, ← List.eq_replicate_length.mpr same]
  · intro after
    obtain ⟨n, some, rfl⟩ := after
    obtain ⟨n, rfl⟩ := Nat.exists_eq_succ_of_ne_zero (Nat.ne_of_gt some)
    rw [List.replicate_succ, List.flatten_cons]
    exact Language.append_mem_mul rfl
      (Language.join_mem_kstar fun y member => List.eq_of_mem_replicate member)

/-- What breaks off in a sequence of words has some of them whole, and the beginning of the next. -/
theorem eq_nil_or_of_prefix_flatten {ι : Type} {f : ι → List A} {items : List ι} {part : List A}
    (begun : part <+: (items.map f).flatten) :
    part = [] ∨ ∃ done item later rest, items = done ++ item :: later ∧ rest <+: f item ∧
      part = (done.map f).flatten ++ rest := by
  induction items generalizing part with
  | nil => exact .inl (List.prefix_nil.mp begun)
  | cons item items ih =>
    obtain ⟨missing, split⟩ := begun
    rw [List.map_cons, List.flatten_cons] at split
    rcases List.append_eq_append_iff.mp split with ⟨tail, within, -⟩ | ⟨tail, rfl, behind⟩
    · exact .inr ⟨[], item, items, part, rfl, ⟨tail, within.symm⟩, rfl⟩
    · rcases ih ⟨missing, behind.symm⟩ with rfl | ⟨done, next, later, rest, rfl, first, rfl⟩
      · exact .inr ⟨[], item, items, f item, rfl, List.prefix_rfl, by simp⟩
      · refine .inr ⟨item :: done, next, later, rest, rfl, first, ?_⟩
        rw [List.map_cons, List.flatten_cons, List.append_assoc]

end Words

namespace Action

variable {σ τ α β A : Type} {trace : σ → List A} {J : σ → Prop}

/-- From every state in `J`, and back to one. -/
def Emits (trace : σ → List A) (J : σ → Prop) (x : Action σ α) (L : Language A) : Prop :=
  ∀ s, J s → J (x.run s).2 ∧ ∃ word, trace (x.run s).2 = trace s ++ word ∧
    match (x.run s).1 with
    | .ok _ => word ∈ L
    | .error _ => word = [] ∨ ∃ rest, word ++ rest ∈ L

namespace Emits

variable {x : Action σ α} {f : α → Action σ β} {L M : Language A}

theorem pure (a : α) : Emits trace J (Pure.pure a) 1 :=
  fun _ steady => ⟨steady, [], (List.append_nil _).symm, Language.nil_mem_one⟩

theorem fail (e : Fault) : Emits trace J (Action.fail e : Action σ α) L :=
  fun _ steady => ⟨steady, [], (List.append_nil _).symm, .inl rfl⟩

theorem weaken (h : Emits trace J x L) (more : L ≤ M) : Emits trace J x M := by
  intro s steady
  obtain ⟨after, word, grown, ending⟩ := h s steady
  refine ⟨after, word, grown, ?_⟩
  cases outcome : (x.run s).1 with
  | ok a =>
    rw [outcome] at ending
    exact more ending
  | error e =>
    rw [outcome] at ending
    exact ending.imp_right fun ⟨rest, whole⟩ => ⟨rest, more whole⟩

/-- What comes second can still be emitted when the first half has been. -/
theorem bind (first : Emits trace J x L) (next : ∀ a, Emits trace J (f a) M)
    (some : ∃ word, word ∈ M) : Emits trace J (x >>= f) (L * M) := by
  intro s steady
  obtain ⟨after, word, grown, ending⟩ := first s steady
  obtain ⟨later, possible⟩ := some
  cases run : x.run s with
  | mk outcome s' =>
    rw [run] at after grown ending
    cases outcome with
    | ok a =>
      obtain ⟨last, word', grown', ending'⟩ := next a s' after
      rw [run_bind_ok run]
      refine ⟨last, word ++ word', by rw [grown', grown, List.append_assoc], ?_⟩
      cases outcome : ((f a).run s').1 with
      | ok b =>
        rw [outcome] at ending'
        exact Language.append_mem_mul ending ending'
      | error e =>
        rw [outcome] at ending'
        have rest : ∃ rest, word' ++ rest ∈ M := by
          rcases ending' with rfl | some
          · exact ⟨later, possible⟩
          · exact some
        obtain ⟨rest, whole⟩ := rest
        refine .inr ⟨rest, ?_⟩
        rw [List.append_assoc]
        exact Language.append_mem_mul ending whole
    | error e =>
      rw [run_bind_error run]
      refine ⟨after, word, grown, ending.imp_right fun ⟨rest, whole⟩ => ⟨rest ++ later, ?_⟩⟩
      rw [← List.append_assoc]
      exact Language.append_mem_mul whole possible

theorem word_bind {u v : List A} (first : Emits trace J x {u})
    (next : ∀ a, Emits trace J (f a) {v}) : Emits trace J (x >>= f) {u ++ v} := by
  have both := first.bind next ⟨v, rfl⟩
  rwa [show ({u} : Language A) * {v} = {u ++ v} from Set.image2_singleton] at both

/-- What leaves no trace adds nothing. -/
theorem silent_bind (first : Emits trace J x 1) (next : ∀ a, Emits trace J (f a) M) :
    Emits trace J (x >>= f) M := by
  intro s steady
  obtain ⟨after, word, grown, ending⟩ := first s steady
  cases run : x.run s with
  | mk outcome s' =>
    rw [run] at after grown ending
    have nothing : word = [] := by
      cases outcome with
      | ok a => exact (Language.mem_one _).mp ending
      | error e =>
        rcases ending with none | ⟨rest, whole⟩
        · exact none
        · exact (List.append_eq_nil_iff.mp ((Language.mem_one _).mp whole)).1
    rw [nothing, List.append_nil] at grown
    cases outcome with
    | ok a =>
      rw [run_bind_ok run, ← grown]
      exact next a s' after
    | error e =>
      rw [run_bind_error run]
      exact ⟨after, [], by rw [grown, List.append_nil], .inl rfl⟩

theorem bind_silent (first : Emits trace J x L) (next : ∀ a, Emits trace J (f a) 1) :
    Emits trace J (x >>= f) L := by
  have both := first.bind next ⟨[], Language.nil_mem_one⟩
  rwa [mul_one] at both

theorem get_then {g : σ → Action σ β} (next : ∀ s, J s → Emits trace J (g s) L) :
    Emits trace J (Action.get >>= g) L := fun s steady => next s steady s steady

theorem modify {g : σ → σ} (steady : ∀ s, J s → J (g s))
    (still : ∀ s, trace (g s) = trace s) : Emits trace J (Action.modify g) 1 :=
  fun s before => ⟨steady s before, [], by rw [List.append_nil]; exact still s,
    Language.nil_mem_one⟩

theorem map (g : α → β) (h : Emits trace J x L) : Emits trace J (g <$> x) L := by
  rw [map_eq_pure_bind]
  exact h.bind_silent fun a => Emits.pure (g a)

theorem ofExcept_then {r : Except Fault α} (next : ∀ a, r = .ok a → Emits trace J (f a) L) :
    Emits trace J (Action.ofExcept r >>= f) L := by
  cases r with
  | ok a => exact next a rfl
  | error e => exact Emits.fail e

/-- A computation on a component emits what it emits there. -/
theorem on {view : τ → σ} {put : σ → τ → τ} {K : τ → Prop} (h : Emits trace J x L)
    (inside : ∀ t, K t → J (view t)) (view_put : ∀ s t, view (put s t) = s)
    (keeps : ∀ s t, K t → J s → K (put s t)) :
    Emits (fun t => trace (view t)) K (Action.on view put x) L := by
  intro t steady
  obtain ⟨after, word, grown, ending⟩ := h (view t) (inside t steady)
  rw [run_on]
  refine ⟨keeps _ t steady after, word, ?_, ending⟩
  change trace (view (put _ t)) = trace (view t) ++ word
  rw [view_put, grown]

theorem kstar_bind (first : Emits trace J x L∗) (next : ∀ a, Emits trace J (f a) L∗) :
    Emits trace J (x >>= f) L∗ := by
  have both := first.bind next ⟨[], Language.nil_mem_kstar L⟩
  rwa [kstar_mul_kstar] at both

end Emits

section Polls

variable {clock : Clock σ} {read : Action σ α} {L : Language A} (reads : Emits trace J read L)
  (pauses : ∀ length s, J s → J (clock.pause length s))
  (still : ∀ length s, trace (clock.pause length s) = trace s)
include reads pauses still

theorem pollFrom_emits (limits : PollLimits) (accept : α → Bool) (started more made : Nat) :
    Emits trace J (pollFrom clock limits read accept started more made) (L * L∗) := by
  have some : ∃ word, word ∈ L∗ := ⟨[], Language.nil_mem_kstar L⟩
  have stop : ∀ outcome : PollOutcome α, Emits trace J (Pure.pure outcome) L∗ :=
    fun outcome => (Emits.pure outcome).weaken one_le_kstar
  induction more generalizing made with
  | zero =>
    refine reads.bind (fun value => ?_) some
    split
    · exact stop _
    · exact stop _
  | succ more ih =>
    refine reads.bind (fun value => ?_) some
    split
    · exact stop _
    · apply Emits.get_then
      intro s _
      have again := (ih (made + 1)).weaken mul_kstar_le_kstar
      split
      · exact stop _
      · split
        · exact (Emits.modify (pauses limits.delay) (still limits.delay)).silent_bind fun _ => again
        · exact again

/-- A poll reads at least once. -/
theorem poll_emits (limits : PollLimits) (accept : α → Bool) :
    Emits trace J (poll clock limits read accept) (L * L∗) :=
  Emits.get_then fun _ _ => pollFrom_emits reads pauses still limits accept _ _ _

end Polls

end Action

end LineBridge
