import Mathlib
import LineBridge.Proofs.AsciiText
import LineBridge.Proofs.Numerals
import LineBridge.Tool.Operand

/-! Which texts are numbers and which are data, as they are given by hand. Data is read byte by
byte from the encoding of the text, yet what it accepts can be said in characters: a character
beyond ASCII is cut into bytes that are no digits, however they are paired. The digits of a number,
and those of each byte, are read by a reader that lets a plus sign stand in front of them. -/

namespace LineBridge.Operand

open Numeral (Writes unsigned plusSigned)

/-- What may stand anywhere in data. -/
def separators : List Char := [' ', '\t', '\n', '\x0c', '\r', '_']

/-- Data without what may stand anywhere in it. -/
def bare (text : String) : List Char := text.toList.filter (· ∉ separators)

/-- One `0x` in front of data is not part of it. -/
def withoutPrefix : List Char → List Char
  | '0' :: 'x' :: rest => rest
  | all => all

/-- Bytes of two characters each: digits, with one of the given signs in front of them. -/
inductive Spells (signs : List (List Char)) : List Char → Bytes → Prop
  | nil : Spells signs [] []
  | byte {sign digits rest : List Char} {n : Nat} {bytes : Bytes} : sign ∈ signs →
      (sign ++ digits).length = 2 → Writes 16 digits n → Spells signs rest bytes →
      Spells signs (sign ++ digits ++ rest) (UInt8.ofNat n :: bytes)

/-- Numbers in base ten, or in base sixteen behind `0x` or `0X`, with one of the given signs in
front of their digits. -/
inductive Number (signs : List (List Char)) : List Char → Nat → Prop
  | decimal {sign digits : List Char} {n : Nat} : sign ∈ signs → Writes 10 digits n →
      Number signs (sign ++ digits) n
  | hexadecimal {x : Char} {sign digits : List Char} {n : Nat} : x ∈ ['x', 'X'] → sign ∈ signs →
      Writes 16 digits n → Number signs ('0' :: x :: (sign ++ digits)) n

/-! ### Bytes and characters -/

theorem isSeparator_of_ascii {c : Char} (ascii : c.toNat < 0x80) :
    isSeparator (UInt8.ofNat c.toNat) = decide (c ∈ separators) := by
  have all : ∀ n : Fin 0x80, isSeparator (UInt8.ofNat n) = decide (Char.ofNat n ∈ separators) := by
    decide +kernel
  have same := all ⟨c.toNat, ascii⟩
  rwa [Char.ofNat_toNat] at same

theorem isSeparator_of_le {b : UInt8} (beyond : 0x80 ≤ b) : isSeparator b = false := by
  rw [isSeparator, Bool.eq_false_iff]
  intro member
  have ascii : ∀ x ∈ [0x20, 0x09, 0x0a, 0x0c, 0x0d, 0x5f], x < (0x80 : UInt8) := by decide +kernel
  exact absurd (ascii b (List.contains_iff_mem.mp member)) (UInt8.not_lt.mpr beyond)

theorem filter_encodeChar (c : Char) :
    (String.utf8EncodeChar c).filter (!isSeparator ·) =
      if c ∈ separators then [] else String.utf8EncodeChar c := by
  rcases Nat.lt_or_ge c.toNat 0x80 with ascii | beyond
  · rw [Utf8.encodeChar_of_ascii ascii, List.filter_singleton, isSeparator_of_ascii ascii]
    by_cases among : c ∈ separators <;> simp [among]
  · have ascii : ∀ s ∈ separators, s.toNat < 0x80 := by simp [separators]
    have other : c ∉ separators := fun among => absurd (ascii c among) (Nat.not_lt.mpr beyond)
    rw [if_neg other, List.filter_eq_self]
    intro b member
    rw [isSeparator_of_le (Utf8.le_of_mem_encodeChar beyond b member)]
    rfl

/-- Separators can be dropped before the text is encoded. -/
theorem filter_encode (cs : List Char) :
    (cs.flatMap String.utf8EncodeChar).filter (!isSeparator ·) =
      (cs.filter (· ∉ separators)).flatMap String.utf8EncodeChar := by
  induction cs with
  | nil => rfl
  | cons c cs ih =>
    rw [List.flatMap_cons, List.filter_append, filter_encodeChar, ih]
    by_cases among : c ∈ separators <;> simp [among]

/-- The prefix can be dropped before the text is encoded. -/
theorem digits_eq (text : String) :
    digits text = (withoutPrefix (bare text)).flatMap String.utf8EncodeChar := by
  have kept : (Utf8.encode text).filter (!isSeparator ·) =
      (bare text).flatMap String.utf8EncodeChar := filter_encode text.toList
  rw [digits, kept]
  generalize bare text = cs
  split
  · next rest encoded =>
    obtain ⟨more, rfl, marked⟩ := Utf8.exists_of_flatMap_eq_cons (by decide) encoded
    obtain ⟨tail, rfl, behind⟩ := Utf8.exists_of_flatMap_eq_cons (by decide) marked
    exact behind.symm
  · next other =>
    unfold withoutPrefix
    split
    · next rest => exact absurd rfl (other (rest.flatMap String.utf8EncodeChar))
    · rfl

/-- A sign is of ASCII, as digits are. -/
theorem ascii_of_signed {base n : Nat} {sign digits : List Char} (member : sign ∈ plusSigned)
    (written : Writes base digits n) : ∀ c ∈ sign ++ digits, c.toNat < 0x80 := by
  have signs : ∀ sign ∈ plusSigned, ∀ c ∈ sign, c.toNat < 0x80 := by simp [plusSigned]
  exact List.forall_mem_append.mpr ⟨signs sign member, written.ascii⟩

/-- A byte is read from two characters of ASCII, a sign and a digit or two digits. -/
theorem byteOfPair_eq_ok_iff {a b v : UInt8} :
    byteOfPair [a, b] = .ok v ↔ a < 0x80 ∧ b < 0x80 ∧ ∃ sign ∈ plusSigned, ∃ digits n,
      [Char.ofNat a.toNat, Char.ofNat b.toNat] = sign ++ digits ∧ Writes 16 digits n ∧
        v = UInt8.ofNat n := by
  constructor
  · intro read
    cases text : Utf8.text? [a, b] with
    | none => simp [byteOfPair, text] at read
    | some s =>
      cases number : Numeral.read 16 UInt8.size s.toList with
      | error e => simp [byteOfPair, text, number] at read
      | ok n =>
        obtain rfl : UInt8.ofNat n = v := by simpa [byteOfPair, text, number] using read
        obtain ⟨-, sign, member, digits, same, written⟩ :=
          (Numeral.read_eq_ok_iff (by decide) (by decide)).mp number
        have ascii : ∀ c ∈ s.toList, c.toNat < 0x80 := same ▸ ascii_of_signed member written
        obtain ⟨first, second⟩ := Utf8.ascii_of_text? text ascii
        rw [Utf8.text?_of_ascii first second, Option.some.injEq] at text
        rw [← text, String.toList_ofList] at same
        exact ⟨first, second, sign, member, digits, n, same, written, rfl⟩
  · rintro ⟨first, second, sign, member, digits, n, same, written, rfl⟩
    have short : digits.length ≤ 2 := by
      have size : 2 = sign.length + digits.length :=
        (congrArg List.length same).trans List.length_append
      omega
    have small : n < UInt8.size :=
      (written.lt (by decide)).trans_le (Nat.pow_le_pow_right (by decide) short)
    have number : Numeral.read 16 UInt8.size (sign ++ digits) = .ok n :=
      (Numeral.read_eq_ok_iff (by decide) (by decide)).mpr
        ⟨small, sign, member, digits, rfl, written⟩
    rw [byteOfPair, Utf8.text?_of_ascii first second, Option.map_some, String.toList_ofList, same,
      number]

/-! ### Data -/

theorem chunks_nil : Bytes.chunks 2 [] = [] := by rw [Bytes.chunks, if_pos (.inl rfl)]

theorem chunks_two (a b : UInt8) (rest : Bytes) :
    Bytes.chunks 2 (a :: b :: rest) = [a, b] :: Bytes.chunks 2 rest := by
  rw [Bytes.chunks, if_neg (by simp)]
  rfl

theorem mapM_cons_eq_ok_iff {f : α → Except ε β} {x : α} {xs : List α} {ys : List β} :
    (x :: xs).mapM f = .ok ys ↔ ∃ y rest, f x = .ok y ∧ xs.mapM f = .ok rest ∧ ys = y :: rest := by
  rw [List.mapM_cons]
  cases f x with
  | error e => exact iff_of_false nofun fun ⟨_, _, first, _⟩ => nomatch first
  | ok y =>
    cases xs.mapM f with
    | error e => exact iff_of_false nofun fun ⟨_, _, _, later, _⟩ => nomatch later
    | ok rest =>
      constructor
      · rintro ⟨⟩
        exact ⟨y, rest, rfl, rfl, rfl⟩
      · rintro ⟨_, _, ⟨⟩, ⟨⟩, rfl⟩
        rfl

/-- Bytes that are read pair by pair are spelled by the text that was encoded: a pair that is read
is two characters of it, and what follows is again an encoding. -/
theorem spells_of_pairs : ∀ {all : Bytes} {cs : List Char} {bytes : Bytes},
    cs.flatMap String.utf8EncodeChar = all → all.length % 2 = 0 →
    (Bytes.chunks 2 all).mapM byteOfPair = .ok bytes → Spells plusSigned cs bytes
  | [], cs, bytes, encoded, _, read => by
    obtain rfl : cs = [] := List.eq_nil_iff_forall_not_mem.mpr fun c member =>
      String.utf8EncodeChar_ne_nil (List.flatMap_eq_nil_iff.mp encoded c member)
    rw [chunks_nil] at read
    cases read
    exact .nil
  | [_], _, _, _, even, _ => nomatch even
  | a :: b :: rest, cs, bytes, encoded, even, read => by
    rw [chunks_two, mapM_cons_eq_ok_iff] at read
    obtain ⟨v, later, first, read, rfl⟩ := read
    obtain ⟨low, high, sign, member, digits, n, pair, written, rfl⟩ :=
      byteOfPair_eq_ok_iff.mp first
    obtain ⟨more, rfl, second⟩ := Utf8.exists_of_flatMap_eq_cons low encoded
    obtain ⟨tail, rfl, behind⟩ := Utf8.exists_of_flatMap_eq_cons high second
    have later := spells_of_pairs behind ((Nat.add_mod_right _ 2).symm.trans even) read
    have spelled := Spells.byte member (by rw [← pair]; rfl) written later
    rwa [← pair] at spelled

/-- A sign and its digits, if they are two characters, make a pair of bytes that is read. -/
theorem exists_pair_of_signed {sign digits : List Char} {n : Nat} (member : sign ∈ plusSigned)
    (two : (sign ++ digits).length = 2) (written : Writes 16 digits n) :
    ∃ a b, (sign ++ digits).flatMap String.utf8EncodeChar = [a, b] ∧
      byteOfPair [a, b] = .ok (UInt8.ofNat n) := by
  have ascii := ascii_of_signed member written
  obtain ⟨c, d, pair⟩ := List.length_eq_two.mp two
  rw [pair] at ascii ⊢
  have low := ascii c List.mem_cons_self
  have high := ascii d (List.mem_cons_of_mem _ List.mem_cons_self)
  have below {c : Char} (ascii : c.toNat < 0x80) : UInt8.ofNat c.toNat < 0x80 := by
    rw [UInt8.lt_iff_toNat_lt, Utf8.ofNat_toNat_of_ascii ascii]
    exact ascii
  refine ⟨UInt8.ofNat c.toNat, UInt8.ofNat d.toNat, ?_, ?_⟩
  · simp [Utf8.encodeChar_of_ascii low, Utf8.encodeChar_of_ascii high]
  · refine byteOfPair_eq_ok_iff.mpr
      ⟨below low, below high, sign, member, digits, n, ?_, written, rfl⟩
    rw [Utf8.ofNat_toNat_of_ascii low, Utf8.ofNat_toNat_of_ascii high, Char.ofNat_toNat,
      Char.ofNat_toNat, pair]

/-- Bytes that a text spells are read from its encoding. -/
theorem Spells.pairs {cs : List Char} {bytes : Bytes} (spelled : Spells plusSigned cs bytes) :
    (cs.flatMap String.utf8EncodeChar).length % 2 = 0 ∧
    (Bytes.chunks 2 (cs.flatMap String.utf8EncodeChar)).mapM byteOfPair = .ok bytes := by
  induction spelled with
  | nil =>
    rw [List.flatMap_nil, chunks_nil]
    exact ⟨rfl, rfl⟩
  | byte member two written _ ih =>
    obtain ⟨even, later⟩ := ih
    obtain ⟨a, b, pair, first⟩ := exists_pair_of_signed member two written
    rw [List.flatMap_append, pair, List.cons_append, List.singleton_append, chunks_two,
      mapM_cons_eq_ok_iff]
    exact ⟨(Nat.add_mod_right _ 2).trans even, _, _, first, later, rfl⟩

theorem data_eq_ok_iff {text : String} {bytes : Bytes} :
    data text = .ok bytes ↔
      bytes ≠ [] ∧ Spells plusSigned (withoutPrefix (bare text)) bytes := by
  have read := digits_eq text
  generalize withoutPrefix (bare text) = cs at read ⊢
  have spells : Spells plusSigned cs bytes ↔ (digits text).length % 2 = 0 ∧
      (Bytes.chunks 2 (digits text)).mapM byteOfPair = .ok bytes :=
    ⟨fun spelled => read ▸ spelled.pairs, fun ⟨even, ok⟩ => spells_of_pairs read.symm even ok⟩
  rw [spells, data]
  generalize digits text = all
  match all with
  | [] =>
    rw [if_pos (.inl rfl), chunks_nil]
    refine iff_of_false nofun ?_
    rintro ⟨some, -, ⟨⟩⟩
    exact some rfl
  | [_] => exact iff_of_false nofun fun ⟨_, even, _⟩ => nomatch even
  | a :: b :: rest =>
    by_cases even : (a :: b :: rest).length % 2 = 0
    · have whole : ¬((a :: b :: rest).isEmpty ∨ (a :: b :: rest).length % 2 ≠ 0) := by
        rintro (⟨⟨⟩⟩ | odd)
        exact odd even
      rw [if_neg whole, chunks_two, mapM_cons_eq_ok_iff]
      constructor
      · rintro ⟨v, later, first, read, rfl⟩
        exact ⟨List.cons_ne_nil _ _, even, v, later, first, read, rfl⟩
      · rintro ⟨-, -, read⟩
        exact read
    · rw [if_pos (.inr even)]
      exact iff_of_false nofun fun ⟨_, paired, _⟩ => even paired

/-! ### Numbers -/

variable {cs digits : List Char} {n : Nat}

/-- Digits that have an `x` behind the first of them are none. -/
theorem not_writes_prefixed {base : Nat} {sign : List Char} {x : Char} (mark : x ∈ ['x', 'X'])
    (member : sign ∈ plusSigned) (split : '0' :: x :: cs = sign ++ digits) :
    ¬Writes base digits n := by
  rintro ⟨-, ds, values, -⟩
  obtain rfl | rfl : sign = [] ∨ sign = ['+'] := by simpa [plusSigned] using member
  · obtain rfl : '0' :: x :: cs = digits := split
    obtain ⟨_, _, -, values, -⟩ := List.forall₂_cons_left_iff.mp values
    obtain ⟨_, _, digit, -⟩ := List.forall₂_cons_left_iff.mp values
    obtain rfl | rfl : x = 'x' ∨ x = 'X' := by simpa using mark
    · cases digit
    · cases digit
  · exact absurd (List.cons.inj split).1 (by decide)

theorem number_prefixed_iff {x : Char} (mark : x ∈ ['x', 'X']) :
    Number plusSigned ('0' :: x :: cs) n ↔
      ∃ sign ∈ plusSigned, ∃ digits, cs = sign ++ digits ∧ Writes 16 digits n := by
  constructor
  · intro number
    generalize whole : '0' :: x :: cs = all at number
    cases number with
    | decimal member written => exact absurd written (not_writes_prefixed mark member whole)
    | hexadecimal _ member written =>
      obtain ⟨rfl, rfl⟩ : x = _ ∧ cs = _ := by simpa using whole
      exact ⟨_, member, _, rfl, written⟩
  · rintro ⟨sign, member, digits, rfl, written⟩
    exact .hexadecimal mark member written

theorem number_unprefixed_iff (lower : ∀ rest, cs ≠ '0' :: 'x' :: rest)
    (upper : ∀ rest, cs ≠ '0' :: 'X' :: rest) :
    Number plusSigned cs n ↔
      ∃ sign ∈ plusSigned, ∃ digits, cs = sign ++ digits ∧ Writes 10 digits n := by
  constructor
  · rintro (⟨member, written⟩ | ⟨mark, -, -⟩)
    · exact ⟨_, member, _, rfl, written⟩
    · obtain rfl | rfl := List.mem_pair.mp mark
      · exact absurd rfl (lower _)
      · exact absurd rfl (upper _)
  · rintro ⟨sign, member, digits, rfl, written⟩
    exact .decimal member written

/-- A number that is read under the limit of a word becomes a word without loss. -/
theorem ofNat_read_eq_ok_iff {base : Nat} (positive : 0 < base) {w : UInt32} :
    UInt32.ofNat <$> Numeral.read base UInt32.size cs = .ok w ↔
      ∃ sign ∈ plusSigned, ∃ digits, cs = sign ++ digits ∧ Writes base digits w.toNat := by
  have room : 0 < UInt32.size := by decide
  constructor
  · intro read
    cases number : Numeral.read base UInt32.size cs with
    | error e => rw [number] at read; cases read
    | ok m =>
      rw [number] at read
      cases read
      obtain ⟨small, spelled⟩ := (Numeral.read_eq_ok_iff positive room).mp number
      rwa [UInt32.toNat_ofNat_of_lt' small]
  · intro spelled
    rw [(Numeral.read_eq_ok_iff positive room).mpr ⟨w.toNat_lt, spelled⟩]
    exact congrArg Except.ok UInt32.ofNat_toNat

theorem word_eq_ok_iff {text : String} {w : UInt32} :
    word text = .ok w ↔ Number plusSigned (text.toList.filter (· != '_')) w.toNat := by
  unfold word
  generalize text.toList.filter (· != '_') = cs
  split
  · rw [ofNat_read_eq_ok_iff (by decide), number_prefixed_iff (by decide)]
  · rw [ofNat_read_eq_ok_iff (by decide), number_prefixed_iff (by decide)]
  next lower upper =>
    rw [ofNat_read_eq_ok_iff (by decide), number_unprefixed_iff lower upper]

/-! ### Signs -/

theorem unsigned_subset : unsigned ⊆ plusSigned := by simp [unsigned, plusSigned]

theorem plain_of_unsigned {base : Nat} {sign : List Char} (member : sign ∈ unsigned)
    (written : Writes base digits n) : '+' ∉ sign ++ digits := by
  obtain rfl := List.mem_singleton.mp member
  exact written.not_mem (Numeral.digit?_plus base)

/-- The only sign that a text without a plus can have is none. -/
theorem mem_unsigned {sign : List Char} (member : sign ∈ plusSigned)
    (plain : '+' ∉ sign ++ digits) : sign ∈ unsigned := by
  obtain rfl | rfl : sign = [] ∨ sign = ['+'] := by simpa [plusSigned] using member
  · exact List.mem_singleton_self _
  · exact absurd List.mem_cons_self plain

theorem Spells.mono {few many : List (List Char)} (more : few ⊆ many) {bytes : Bytes}
    (spelled : Spells few cs bytes) : Spells many cs bytes := by
  induction spelled with
  | nil => exact .nil
  | byte member two written _ ih => exact .byte (more member) two written ih

theorem spells_unsigned_iff {bytes : Bytes} :
    Spells unsigned cs bytes ↔ '+' ∉ cs ∧ Spells plusSigned cs bytes := by
  constructor
  · refine fun spelled => ⟨?_, spelled.mono unsigned_subset⟩
    induction spelled with
    | nil => exact List.not_mem_nil
    | byte member two written _ ih =>
      exact List.not_mem_append (plain_of_unsigned member written) ih
  · rintro ⟨plain, spelled⟩
    induction spelled with
    | nil => exact .nil
    | byte member two written _ ih =>
      obtain ⟨front, behind⟩ := not_or.mp (mt List.mem_append.mpr plain)
      exact .byte (mem_unsigned member front) two written (ih behind)

theorem number_unsigned_iff :
    Number unsigned cs n ↔ '+' ∉ cs ∧ Number plusSigned cs n := by
  constructor
  · rintro (⟨member, written⟩ | ⟨mark, member, written⟩)
    · exact ⟨plain_of_unsigned member written, .decimal (unsigned_subset member) written⟩
    · refine ⟨?_, .hexadecimal mark (unsigned_subset member) written⟩
      obtain rfl | rfl := List.mem_pair.mp mark
      · simpa using plain_of_unsigned member written
      · simpa using plain_of_unsigned member written
  · rintro ⟨plain, ⟨member, written⟩ | ⟨mark, member, written⟩⟩
    · exact .decimal (mem_unsigned member plain) written
    · have behind := List.not_mem_of_not_mem_cons (List.not_mem_of_not_mem_cons plain)
      exact .hexadecimal mark (mem_unsigned member behind) written

/-- What is dropped from data has no plus sign. -/
theorem plus_mem_digits_iff (text : String) :
    '+' ∈ withoutPrefix (bare text) ↔ '+' ∈ text.toList := by
  have kept : '+' ∈ bare text ↔ '+' ∈ text.toList := by simp [bare, separators]
  rw [← kept]
  generalize bare text = cs
  unfold withoutPrefix
  split
  · simp
  · rfl

/-- Two digits make a byte. -/
theorem Spells.pair {c d : Char} {hi lo : Nat} {bytes : Bytes} (high : Hex.value? c = some hi)
    (low : Hex.value? d = some lo) (later : Spells unsigned cs bytes) :
    Spells unsigned (c :: d :: cs) (UInt8.ofNat (hi * 16 + lo) :: bytes) :=
  .byte (List.mem_singleton_self _) rfl (Numeral.writes_sixteen_pair.mpr ⟨hi, lo, high, low, rfl⟩)
    later

/-- Digits of bytes do not begin as a prefix does. -/
theorem Spells.withoutPrefix_eq {bytes : Bytes} (spelled : Spells unsigned cs bytes) :
    withoutPrefix cs = cs := by
  cases spelled with
  | nil => rfl
  | @byte sign digits rest n bytes member two written spelled =>
    obtain rfl := List.mem_singleton.mp member
    obtain ⟨c, d, rfl⟩ := List.length_eq_two.mp (show digits.length = 2 from two)
    obtain ⟨_, _, -, low, -⟩ := Numeral.writes_sixteen_pair.mp written
    have digit : d ≠ 'x' := by
      rintro rfl
      cases low
    simp [withoutPrefix, digit]

/-- Bytes are read from every spelling of them by digits alone. -/
theorem data_of_spells {text : String} {bytes : Bytes} (some : bytes ≠ [])
    (spelled : Spells unsigned (bare text) bytes) : data text = .ok bytes := by
  rw [data_eq_ok_iff, spelled.withoutPrefix_eq]
  exact ⟨some, spelled.mono unsigned_subset⟩

/-- Data is digits of both cases, two a byte and one byte at least, and a number is digits of
base ten, or of base sixteen behind `0x` or `0X`, that stay below the limit of a word; separators
do not count, nor does one `0x` in front of data. But wherever digits are read, a plus sign may
stand in front of them, in data in front of those of each byte. So what digits alone can say is
what is read from texts without a plus sign, and all other texts that are read have one. -/
theorem operands_exact (text : String) :
    (∀ bytes, data text = .ok bytes ↔
      bytes ≠ [] ∧ Spells plusSigned (withoutPrefix (bare text)) bytes) ∧
    (∀ bytes, (bytes ≠ [] ∧ Spells unsigned (withoutPrefix (bare text)) bytes) ↔
      '+' ∉ text.toList ∧ data text = .ok bytes) ∧
    (∀ bytes, bytes ≠ [] → Spells unsigned (bare text) bytes → data text = .ok bytes) ∧
    (∀ w, word text = .ok w ↔ Number plusSigned (text.toList.filter (· != '_')) w.toNat) ∧
    ∀ w : UInt32, Number unsigned (text.toList.filter (· != '_')) w.toNat ↔
      '+' ∉ text.toList ∧ word text = .ok w := by
  refine ⟨fun bytes => data_eq_ok_iff, fun bytes => ?_, fun bytes => data_of_spells,
    fun w => word_eq_ok_iff, fun w => ?_⟩
  · rw [spells_unsigned_iff, plus_mem_digits_iff, data_eq_ok_iff]
    exact and_left_comm
  · have kept : '+' ∈ text.toList.filter (· != '_') ↔ '+' ∈ text.toList := by simp
    rw [number_unsigned_iff, kept, word_eq_ok_iff]

theorem operands_exact_signed :
    data "+f+0" = .ok [0x0f, 0x00] ∧
    (∀ bytes, bytes ≠ [] → ¬Spells unsigned (withoutPrefix (bare "+f+0")) bytes) ∧
    Spells unsigned (bare "D_E ad") [0xde, 0xad] ∧ data "D_E ad" = .ok [0xde, 0xad] := by
  have value : Hex.value? 'D' = some 13 ∧ Hex.value? 'E' = some 14 ∧ Hex.value? 'a' = some 10 ∧
      Hex.value? 'd' = some 13 := by decide
  have digits : Spells unsigned (bare "D_E ad") [0xde, 0xad] :=
    .pair value.1 value.2.1 (.pair value.2.2.1 value.2.2.2 .nil)
  refine ⟨by decide +kernel, fun bytes some spelled => ?_, digits, ?_⟩
  · obtain ⟨plain, -⟩ := ((operands_exact "+f+0").2.1 bytes).mp ⟨some, spelled⟩
    exact plain (by decide)
  · exact (operands_exact "D_E ad").2.2.1 _ (by decide) digits

end LineBridge.Operand
