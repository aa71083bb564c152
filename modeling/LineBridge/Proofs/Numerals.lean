import Mathlib
import LineBridge.Text.Numeral

/-! Which texts are numbers. A reader takes digits one by one under a limit, and comes to the number
that the digits write in their base just if that is below the limit; on the way to it the limit is
never in question. It lets one plus sign stand in front. -/

namespace LineBridge.Numeral

/-- Characters are digits of a base, with these values. -/
def Values (base : Nat) : List Char → List Nat → Prop :=
  List.Forall₂ fun c d => digit? base c = some d

/-- One digit or more of a base, and the number that they write, the first digit weighing most. -/
def Writes (base : Nat) (text : List Char) (n : Nat) : Prop :=
  text ≠ [] ∧ ∃ ds, Values base text ds ∧ n = Nat.ofDigits base ds.reverse

/-- Digits alone. -/
def unsigned : List (List Char) := [[]]

/-- Digits that may have a plus sign in front. -/
def plusSigned : List (List Char) := [[], ['+']]

theorem digit?_sixteen (c : Char) : digit? 16 c = Hex.value? c := by
  rw [digit?]
  cases value : Hex.value? c with
  | none => rfl
  | some v => exact Option.filter_some_pos (decide_eq_true (Hex.value?_lt value))

theorem digit?_plus (base : Nat) : digit? base '+' = none := rfl

/-- Digits have their value as characters of ASCII. -/
theorem lt_of_digit? {base d : Nat} {c : Char} (digit : digit? base c = some d) :
    c.toNat < 0x80 := by
  obtain ⟨value, -⟩ := Option.filter_eq_some_iff.mp digit
  have bounds (a b : Char) : a ≤ c ∧ c ≤ b ↔ a.toNat ≤ c.toNat ∧ c.toNat ≤ b.toNat := Iff.rfl
  by_contra high
  have above (a b : Char) (low : b.toNat < 0x80) : ¬(a ≤ c ∧ c ≤ b) := by
    rw [bounds]
    omega
  rw [Hex.value?, if_neg (above _ _ (by decide)), if_neg (above _ _ (by decide)),
    if_neg (above _ _ (by decide))] at value
  cases value

theorem Values.ascii {base : Nat} {text : List Char} {ds : List Nat}
    (values : Values base text ds) : ∀ c ∈ text, c.toNat < 0x80 := by
  induction values with
  | nil => exact List.forall_mem_nil _
  | cons digit _ ih => exact List.forall_mem_cons.mpr ⟨lt_of_digit? digit, ih⟩

theorem Values.lt {base : Nat} {text : List Char} {ds : List Nat}
    (values : Values base text ds) : ∀ d ∈ ds, d < base := by
  induction values with
  | nil => exact List.forall_mem_nil _
  | cons digit _ ih =>
    have small := (Option.filter_eq_some_iff.mp digit).2
    exact List.forall_mem_cons.mpr ⟨of_decide_eq_true small, ih⟩

theorem Writes.ascii {base n : Nat} {text : List Char} (written : Writes base text n) :
    ∀ c ∈ text, c.toNat < 0x80 := by
  obtain ⟨-, ds, values, -⟩ := written
  exact values.ascii

/-- So many digits write no number beyond those that they can tell apart. -/
theorem Writes.lt {base n : Nat} {text : List Char} (written : Writes base text n)
    (several : 1 < base) : n < base ^ text.length := by
  obtain ⟨-, ds, values, rfl⟩ := written
  have size : ds.reverse.length = text.length :=
    List.length_reverse.trans values.length_eq.symm
  rw [← size]
  exact Nat.ofDigits_lt_base_pow_length several fun d member =>
    values.lt d (List.mem_reverse.mp member)

/-- The digits of a number so far, shifted by those that follow. -/
theorem weight_cons (base start d : Nat) (ds : List Nat) :
    start * base ^ (d :: ds).length + Nat.ofDigits base (d :: ds).reverse =
      (start * base + d) * base ^ ds.length + Nat.ofDigits base ds.reverse := by
  rw [List.reverse_cons, Nat.ofDigits_append, Nat.ofDigits_singleton, List.length_reverse,
    List.length_cons]
  ring

/-- Reading on from a number comes to what it weighs in front of the digits that follow. -/
theorem readDigits_eq_ok_iff {base limit start m : Nat} {text : List Char} (positive : 0 < base)
    (small : start < limit) :
    readDigits base limit start text = .ok m ↔ m < limit ∧ ∃ ds, Values base text ds ∧
      m = start * base ^ ds.length + Nat.ofDigits base ds.reverse := by
  induction text generalizing start with
  | nil =>
    simp only [readDigits, Values, List.forall₂_nil_left_iff, Except.ok.injEq]
    constructor
    · rintro rfl
      exact ⟨small, [], rfl, by simp⟩
    · rintro ⟨-, ds, rfl, rfl⟩
      simp
  | cons c rest ih =>
    simp only [Values, List.forall₂_cons_left_iff] at ih ⊢
    cases digit : digit? base c with
    | none => simp [readDigits, digit]
    | some d =>
      simp only [readDigits, digit]
      split
      · next fits =>
        rw [ih fits]
        constructor
        · rintro ⟨below, ds, values, total⟩
          exact ⟨below, d :: ds, ⟨d, ds, rfl, values, rfl⟩, total.trans (weight_cons ..).symm⟩
        · rintro ⟨below, _, ⟨_, ds, same, values, rfl⟩, total⟩
          cases same
          exact ⟨below, ds, values, total.trans (weight_cons ..)⟩
      · next exceeds =>
        -- digits that follow only add to what is too much already
        refine iff_of_false (by simp) ?_
        rintro ⟨below, _, ⟨_, ds, same, values, rfl⟩, total⟩
        cases same
        rw [weight_cons] at total
        have grown : start * base + d ≤ (start * base + d) * base ^ ds.length :=
          Nat.le_mul_of_pos_right _ (Nat.pow_pos positive)
        omega

/-- A character that is no digit is not among the digits. -/
theorem Writes.not_mem {base n : Nat} {text : List Char} {c : Char} (written : Writes base text n)
    (other : digit? base c = none) : c ∉ text := by
  obtain ⟨-, ds, values, -⟩ := written
  induction values with
  | nil => exact List.not_mem_nil
  | cons digit _ ih =>
    refine List.not_mem_cons_of_ne_of_not_mem ?_ ih
    rintro rfl
    rw [other] at digit
    cases digit

theorem not_writes_plus (base n : Nat) (rest : List Char) : ¬Writes base ('+' :: rest) n :=
  fun written => written.not_mem (digit?_plus base) List.mem_cons_self

/-- A number is read just if it is below the limit and the text writes it, with a plus sign in
front of its digits or without one. -/
theorem read_eq_ok_iff {base limit n : Nat} {text : List Char} (positive : 0 < base)
    (room : 0 < limit) :
    read base limit text = .ok n ↔
      n < limit ∧ ∃ sign ∈ plusSigned, ∃ digits, text = sign ++ digits ∧ Writes base digits n := by
  have digits_iff (digits : List Char) (some : digits ≠ []) :
      readDigits base limit 0 digits = .ok n ↔ n < limit ∧ Writes base digits n := by
    simp [readDigits_eq_ok_iff positive room, Writes, some]
  have empty : ¬Writes base [] n := fun written => written.1 rfl
  unfold read
  split
  · simp [plusSigned, empty]
  · simp [plusSigned, empty, not_writes_plus]
  · next digits some =>
    have some : digits ≠ [] := fun none => some (by rw [none])
    simp [plusSigned, not_writes_plus, digits_iff digits some]
  · next some _ unsigned =>
    have bare (digits : List Char) : text ≠ '+' :: digits := unsigned digits
    simp [plusSigned, bare, digits_iff text some]

/-- A number of two hexadecimal digits. -/
theorem writes_sixteen_pair {c d : Char} {n : Nat} :
    Writes 16 [c, d] n ↔ ∃ hi lo, Hex.value? c = some hi ∧ Hex.value? d = some lo ∧
      n = hi * 16 + lo := by
  simp only [Writes, Values, List.forall₂_cons_left_iff, List.forall₂_nil_left_iff, digit?_sixteen]
  constructor
  · rintro ⟨-, _, ⟨hi, _, high, ⟨lo, _, low, rfl, rfl⟩, rfl⟩, rfl⟩
    refine ⟨hi, lo, high, low, ?_⟩
    simp only [List.reverse_cons, List.reverse_nil, List.nil_append, List.singleton_append,
      Nat.ofDigits_cons, Nat.ofDigits_nil]
    ring
  · rintro ⟨hi, lo, high, low, rfl⟩
    refine ⟨List.cons_ne_nil _ _, [hi, lo], ⟨hi, _, high, ⟨lo, _, low, rfl, rfl⟩, rfl⟩, ?_⟩
    simp only [List.reverse_cons, List.reverse_nil, List.nil_append, List.singleton_append,
      Nat.ofDigits_cons, Nat.ofDigits_nil]
    ring

/-! ### Numbers as they are written -/

variable {base n d : Nat} {text : List Char} {c : Char}

theorem digit?_digitChar (small : d < 16) : digit? 16 (Nat.digitChar d) = some d :=
  (digit?_sixteen _).trans (Hex.value?_digitChar d small)

theorem Writes.digit (value : digit? base c = some d) : Writes base [c] d :=
  ⟨List.cons_ne_nil _ _, [d], .cons value .nil, Nat.ofDigits_singleton.symm⟩

/-- One more digit behind a number. -/
theorem Writes.concat (written : Writes base text n) (value : digit? base c = some d) :
    Writes base (text ++ [c]) (base * n + d) := by
  obtain ⟨-, ds, values, rfl⟩ := written
  refine ⟨List.concat_ne_nil _ _, ds ++ [d], List.rel_append values (.cons value .nil), ?_⟩
  rw [List.reverse_append, List.reverse_singleton, List.singleton_append, Nat.ofDigits_cons]
  exact Nat.add_comm _ _

/-- Zeros in front do not count. -/
theorem Writes.zeros (written : Writes 16 text n) (more : Nat) :
    Writes 16 (List.replicate more '0' ++ text) n := by
  induction more with
  | zero => exact written
  | succ more ih =>
    obtain ⟨-, ds, values, total⟩ := ih
    refine ⟨List.cons_ne_nil _ _, 0 :: ds, .cons rfl values, ?_⟩
    rw [total, List.reverse_cons, Nat.ofDigits_append, Nat.ofDigits_singleton, Nat.mul_zero,
      Nat.add_zero]

theorem writes_toDigits (n : Nat) : Writes 16 (Nat.toDigits 16 n) n := by
  induction n using Nat.strongRecOn with
  | ind n ih =>
    rcases Nat.lt_or_ge n 16 with small | large
    · rw [Nat.toDigits_of_lt_base small]
      exact .digit (digit?_digitChar small)
    · have last := digit?_digitChar (Nat.mod_lt n (show 0 < 16 by decide))
      have written := (ih (n / 16) (by omega)).concat last
      rwa [Nat.div_add_mod, ← Nat.toDigits_of_base_le (by decide) large] at written

/-- What is written is read back. -/
theorem writes_padded (width n : Nat) : Writes 16 (Hex.padded width n).toList n := by
  rw [Hex.padded, String.toList_ofList]
  exact (writes_toDigits n).zeros _

theorem length_padded {width : Nat} (some : 0 < width) (fits : n < 16 ^ width) :
    (Hex.padded width n).toList.length = width := by
  have short := (Nat.length_toDigits_le_iff (by decide) some).mpr fits
  simp only [Hex.padded, String.toList_ofList, List.length_append, List.length_replicate]
  omega

/-- A byte takes two digits. -/
theorem padded_byte (b : UInt8) : (Hex.padded 2 b.toNat).toList =
    [Nat.digitChar (b.toNat / 16), Nat.digitChar (b.toNat % 16)] := by
  rw [Hex.padded, String.toList_ofList]
  rcases Nat.lt_or_ge b.toNat 16 with small | large
  · rw [Nat.toDigits_of_lt_base small, Nat.div_eq_of_lt small, Nat.mod_eq_of_lt small]
    rfl
  · have high : b.toNat / 16 < 16 := Nat.div_lt_of_lt_mul b.toNat_lt
    rw [Nat.toDigits_of_base_le (by decide) large, Nat.toDigits_of_lt_base high]
    rfl

end LineBridge.Numeral
