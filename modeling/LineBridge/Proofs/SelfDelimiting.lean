import Mathlib

/-! Encodings that say where they end. If no encoding is a proper first part of another, whatever
stands behind them, then a string of encodings can be taken apart in one way only. -/

namespace LineBridge

variable {α β : Type}

/-- The encodings of what is `good` can be told apart and end by themselves. -/
structure SelfDelimiting (good : α → Prop) (encode : α → List β) : Prop where
  nonempty : ∀ a, good a → encode a ≠ []
  inj : ∀ {a b : α} {u v : List β}, good a → good b → encode a ++ u = encode b ++ v → a = b ∧ u = v

namespace SelfDelimiting

variable {good : α → Prop} {encode : α → List β} (delimiting : SelfDelimiting good encode)
  {items others : List α} (sized : ∀ a ∈ items, good a) (sized' : ∀ a ∈ others, good a)
include delimiting sized sized'

/-- If no encoding stands behind some items, no other cut of the string finds more of them. -/
theorem prefix_of_flatMap {rest behind : List β}
    (same : others.flatMap encode ++ behind = items.flatMap encode ++ rest)
    (final : ∀ a, good a → ∀ tail, rest ≠ encode a ++ tail) : others <+: items := by
  induction others generalizing items with
  | nil => exact List.nil_prefix
  | cons a others ih =>
    rw [List.forall_mem_cons] at sized'
    rw [List.flatMap_cons, List.append_assoc] at same
    cases items with
    | nil => exact absurd same.symm (final a sized'.1 _)
    | cons b items =>
      rw [List.forall_mem_cons] at sized
      rw [List.flatMap_cons, List.append_assoc] at same
      obtain ⟨rfl, left⟩ := delimiting.inj sized'.1 sized.1 same
      exact List.cons_prefix_cons.mpr ⟨rfl, ih sized.2 sized'.2 left⟩

/-- A string of encodings is taken apart in one way. -/
theorem flatMap_inj (same : others.flatMap encode = items.flatMap encode) : others = items := by
  have final : ∀ a, good a → ∀ tail, [] ≠ encode a ++ tail := by
    intro a fine tail none
    exact delimiting.nonempty a fine (List.append_eq_nil_iff.mp none.symm).1
  have whole : others.flatMap encode ++ [] = items.flatMap encode ++ [] := by rw [same]
  have first : others <+: items := delimiting.prefix_of_flatMap sized sized' whole final
  have last : items <+: others := delimiting.prefix_of_flatMap sized' sized whole.symm final
  exact first.eq_of_length_le last.length_le

end SelfDelimiting

end LineBridge
