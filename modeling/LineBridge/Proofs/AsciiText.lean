import Mathlib
import LineBridge.Text.Utf8

/-! Which bytes of a text are characters of their own. A character of ASCII is one byte, which is
found in no other character; so a text can be cut between any two of its bytes and still tells them
apart, and two bytes are a text of ASCII only if each of them is. -/

namespace LineBridge.Utf8

theorem encodeChar_of_ascii {c : Char} (ascii : c.toNat < 0x80) :
    String.utf8EncodeChar c = [UInt8.ofNat c.toNat] := by
  have small : c.val.toNat ≤ 127 := Nat.le_of_lt_succ ascii
  rw [String.utf8EncodeChar, if_pos small]
  rfl

/-- A character beyond ASCII has no byte of ASCII. -/
theorem le_of_mem_encodeChar {c : Char} (beyond : 0x80 ≤ c.toNat) :
    ∀ b ∈ String.utf8EncodeChar c, 0x80 ≤ b := by
  have tail (n : Nat) : 0x80 ≤ UInt8.ofNat (n % 64 + 128) := by
    rw [UInt8.le_iff_toNat_le, UInt8.toNat_ofNat']
    change 128 ≤ _
    omega
  have lead (n m k : Nat) (few : m + k ≤ 256) (some : 0 < m) (high : 128 ≤ k) :
      0x80 ≤ UInt8.ofNat (n % m + k) := by
    have := Nat.mod_lt n some
    rw [UInt8.le_iff_toNat_le, UInt8.toNat_ofNat', Nat.mod_eq_of_lt (by omega)]
    change 128 ≤ _
    omega
  have large : ¬c.val.toNat ≤ 127 := Nat.not_le.mpr beyond
  simp only [String.utf8EncodeChar, if_neg large]
  split_ifs <;>
    simp only [List.forall_mem_cons, List.not_mem_nil, false_implies, implies_true, and_true, tail]
  · exact lead _ _ _ (by omega) (by omega) (by omega)
  · exact lead _ _ _ (by omega) (by omega) (by omega)
  · exact lead _ _ _ (by omega) (by omega) (by omega)

theorem ofNat_toNat_of_ascii {c : Char} (ascii : c.toNat < 0x80) :
    (UInt8.ofNat c.toNat).toNat = c.toNat :=
  UInt8.toNat_ofNat_of_lt' (Nat.lt_trans ascii (by decide))

/-- A byte of ASCII is a character of its own. -/
theorem exists_of_flatMap_eq_cons {cs : List Char} {b : UInt8} {rest : Bytes} (ascii : b < 0x80)
    (encoded : cs.flatMap String.utf8EncodeChar = b :: rest) :
    ∃ tail, cs = Char.ofNat b.toNat :: tail ∧ tail.flatMap String.utf8EncodeChar = rest := by
  cases cs with
  | nil => cases encoded
  | cons c tail =>
    rw [List.flatMap_cons] at encoded
    rcases Nat.lt_or_ge c.toNat 0x80 with low | beyond
    · rw [encodeChar_of_ascii low, List.singleton_append] at encoded
      obtain ⟨rfl, rest⟩ := List.cons.inj encoded
      rw [ofNat_toNat_of_ascii low, Char.ofNat_toNat]
      exact ⟨tail, rfl, rest⟩
    · cases bytes : String.utf8EncodeChar c with
      | nil => exact absurd bytes String.utf8EncodeChar_ne_nil
      | cons first more =>
        rw [bytes] at encoded
        obtain ⟨rfl, -⟩ := List.cons.inj encoded
        have high := le_of_mem_encodeChar beyond first (by rw [bytes]; exact List.mem_cons_self)
        exact absurd ascii (UInt8.not_lt.mpr high)

theorem text?_of_ascii {a b : UInt8} (first : a < 0x80) (second : b < 0x80) :
    text? [a, b] = some (String.ofList [Char.ofNat a.toNat, Char.ofNat b.toNat]) := by
  have ascii : ∀ x ∈ [a, b], x < 0x80 :=
    List.forall_mem_cons.mpr ⟨first, List.forall_mem_singleton.mpr second⟩
  rw [text?, decode_of_ascii ascii]
  rfl

/-- A byte beyond ASCII does not end with itself. -/
theorem next_nil_of_le {b : UInt8} (beyond : 0x80 ≤ b) : next b [] = (none, []) := by
  have high : ¬b < 0x80 := UInt8.not_lt.mpr beyond
  unfold next lead?
  rw [if_neg high]
  split_ifs <;> rfl

/-- A byte beyond ASCII begins nothing, or a character of two bytes, or a longer one. -/
theorem lead?_of_le {a : UInt8} (beyond : 0x80 ≤ a) :
    lead? a = none ∨
    (0xc2 ≤ a ∧ a < 0xe0 ∧ lead? a = some ⟨a.toNat - 0xc0, 1, 0x80, 0xbf⟩) ∨
    ∃ bits more low high, lead? a = some ⟨bits, more + 2, low, high⟩ := by
  unfold lead?
  rw [if_neg (UInt8.not_lt.mpr beyond)]
  split
  · exact .inl rfl
  next leads =>
    split
    next two => exact .inr (.inl ⟨UInt8.not_lt.mp leads, two, rfl⟩)
    split
    · exact .inr (.inr ⟨_, 0, _, _, rfl⟩)
    split
    · exact .inr (.inr ⟨_, 1, _, _, rfl⟩)
    · exact .inl rfl

/-- Of two bytes, the first can begin a character beyond ASCII only if it takes both. -/
theorem next_of_le {a : UInt8} (beyond : 0x80 ≤ a) (b : UInt8) :
    (next a [b]).1 = none ∨ ∃ c : Char, next a [b] = (some c, []) ∧ 0x80 ≤ c.toNat := by
  unfold next
  rcases lead?_of_le beyond with none | ⟨low, high, two⟩ | ⟨bits, more, low, high, longer⟩
  · rw [none]
    exact .inl rfl
  · rw [two]
    dsimp only
    rw [finish]
    split
    next follows =>
      refine .inr ⟨_, rfl, ?_⟩
      rw [UInt8.le_iff_toNat_le] at low
      rw [UInt8.lt_iff_toNat_lt] at high
      rw [UInt8.le_iff_toNat_le, UInt8.le_iff_toNat_le] at follows
      change 0xc2 ≤ a.toNat at low
      change a.toNat < 0xe0 at high
      change 0x80 ≤ b.toNat ∧ b.toNat ≤ 0xbf at follows
      have valid : ((a.toNat - 0xc0) * 64 + (b.toNat - 0x80)).isValidChar := .inl (by omega)
      rw [Char.toNat_ofNat, if_pos valid]
      omega
    next => exact .inl rfl
  · rw [longer]
    dsimp only
    rw [finish]
    split <;> exact .inl rfl

/-- Two bytes are a text of ASCII only if each of them is a character of it. -/
theorem ascii_of_text? {a b : UInt8} {s : String} (text : text? [a, b] = some s)
    (ascii : ∀ c ∈ s.toList, c.toNat < 0x80) : a < 0x80 ∧ b < 0x80 := by
  obtain ⟨cs, all, rfl⟩ := Option.map_eq_some_iff.mp text
  rw [String.toList_ofList] at ascii
  rcases UInt8.lt_or_le a 0x80 with first | beyond
  · refine ⟨first, UInt8.not_le.mp fun beyond => ?_⟩
    rw [decode, next_of_ascii first, decode, next_nil_of_le beyond] at all
    simp at all
  · rcases next_of_le beyond b with none | ⟨c, whole, high⟩
    · rw [decode, none] at all
      simp at all
    · rw [decode, whole, decode] at all
      obtain rfl : [c] = cs := by simpa using all
      exact absurd (ascii c List.mem_cons_self) (Nat.not_lt.mpr high)

end LineBridge.Utf8
