import Mathlib
import LineBridge.Json.Reader
import LineBridge.Proofs.JsonGrammar

/-! The reader takes every text of the grammar for what it says. Where a part ends is up to the
reader, and only a number could go on too far. -/

namespace LineBridge.Json

/-! ## Numbers -/

/-- What may follow a number. -/
def Stops (rest : List Char) : Prop :=
  ∀ c ∈ rest.head?, c.isDigit = false ∧ c ≠ '.' ∧ c ≠ 'e' ∧ c ≠ 'E'

theorem readDigits_append {digits rest : List Char} (run : Digits digits)
    (stops : ∀ c ∈ rest.head?, c.isDigit = false) :
    readDigits (digits ++ rest) = some (digits, rest) := by
  have taken : (digits ++ rest).takeWhile Char.isDigit = digits := by
    rw [List.takeWhile_append_of_pos run.all]
    cases rest with
    | nil => simp
    | cons c rest => simp [stops c rfl]
  have left : (digits ++ rest).dropWhile Char.isDigit = rest := by
    rw [List.dropWhile_append_of_pos run.all]
    cases rest with
    | nil => simp
    | cons c rest => simp [stops c rfl]
  simp [readDigits, List.span_eq_takeWhile_dropWhile, taken, left, run.ne_nil]

theorem readWhole_append {digits rest : List Char} (whole : Whole digits)
    (stops : ∀ c ∈ rest.head?, c.isDigit = false) :
    readWhole (digits ++ rest) = some (Nat.ofDigitChars 10 digits 0, rest) := by
  have plain : ¬(digits.head? = some '0' ∧ 1 < digits.length) := by
    intro ⟨zero, long⟩
    rw [whole.leading zero] at long
    simp at long
  simp only [readWhole, readDigits_append whole.digits stops, Option.bind_eq_bind,
    Option.bind_some, if_neg plain]
  rfl

theorem readFraction_append {text rest : List Char} (fraction : Fraction text)
    (stops : ∀ c ∈ rest.head?, c.isDigit = false ∧ c ≠ '.') :
    readFraction (text ++ rest) = some (!text.isEmpty, rest) := by
  cases fraction with
  | none =>
    cases rest with
    | nil => rfl
    | cons c rest =>
      unfold readFraction
      split
      · next same => exact absurd (List.cons.inj same).1 (stops c rfl).2
      · rfl
  | point run =>
    simp [readFraction, readDigits_append run fun c first => (stops c first).1]

theorem readExponent_append {text rest : List Char} (exponent : Exponent text)
    (stops : Stops rest) : readExponent (text ++ rest) = some (!text.isEmpty, rest) := by
  cases exponent with
  | none =>
    cases rest with
    | nil => rfl
    | cons c rest => simp [readExponent, stops c rfl]
  | @power e sign digits letter signed run =>
    have letter : e = 'e' ∨ e = 'E' := by simpa using letter
    have read := readDigits_append run fun c first => (stops c first).1
    simp only [List.mem_cons, List.not_mem_nil, or_false] at signed
    rcases signed with rfl | rfl | rfl
    · -- a sign is no digit, so the first digit is not taken for one
      obtain ⟨d, more, rfl⟩ := List.exists_cons_of_ne_nil run.ne_nil
      have first : d.isDigit = true := run.all d (by simp)
      have plus : d ≠ '+' := fun same => absurd (same ▸ first) (by decide)
      have minus : d ≠ '-' := fun same => absurd (same ▸ first) (by decide)
      rw [List.cons_append] at read
      simp [readExponent, letter, plus, minus, read]
    · simp [readExponent, letter, read]
    · simp [readExponent, letter, read]

theorem Fraction.stops {text rest : List Char} (fraction : Fraction text)
    (after : ∀ c ∈ rest.head?, c.isDigit = false) :
    ∀ c ∈ (text ++ rest).head?, c.isDigit = false := by
  cases fraction with
  | none => exact after
  | point => simp

theorem Exponent.stops {text rest : List Char} (exponent : Exponent text)
    (after : ∀ c ∈ rest.head?, c.isDigit = false ∧ c ≠ '.') :
    ∀ c ∈ (text ++ rest).head?, c.isDigit = false ∧ c ≠ '.' := by
  cases exponent with
  | none => exact after
  | @power e _ _ letter =>
    have letter : e = 'e' ∨ e = 'E' := by simpa using letter
    rcases letter with rfl | rfl <;> simp

/-- A whole number in front of a fraction and an exponent, either of which may be missing. -/
theorem readNumber_append {sign whole fraction exponent rest : List Char}
    (signed : sign ∈ [[], ['-']]) (plain : Whole whole) (point : Fraction fraction)
    (power : Exponent exponent) (stops : Stops rest) :
    readNumber (sign ++ (whole ++ (fraction ++ (exponent ++ rest)))) =
      some (if !sign.isEmpty || !fraction.isEmpty || !exponent.isEmpty then .otherNumber
        else .natural (Nat.ofDigitChars 10 whole 0), rest) := by
  have afterPower := power.stops fun c first => ⟨(stops c first).1, (stops c first).2.1⟩
  have readExponent := readExponent_append power stops
  have readFraction := readFraction_append point afterPower
  have readWhole := readWhole_append plain (point.stops fun c first => (afterPower c first).1)
  simp only [List.mem_cons, List.not_mem_nil, or_false] at signed
  rcases signed with rfl | rfl
  · obtain ⟨d, more, rfl⟩ := List.exists_cons_of_ne_nil plain.digits.ne_nil
    have first : d.isDigit = true := plain.digits.all d (by simp)
    have minus : d ≠ '-' := fun same => absurd (same ▸ first) (by decide)
    rw [List.cons_append] at readWhole
    simp [readNumber, minus, readWhole, readFraction, readExponent]
  · simp [readNumber, readWhole, readFraction, readExponent]

/-! ## Strings -/

theorem readEscape_short {e : Char} {code : Nat} (escape : (e, code) ∈ shortEscapes)
    (rest : List Char) : readEscape (e :: rest) = some (code, rest) := by
  simp only [shortEscapes, List.mem_cons, Prod.mk.injEq, List.not_mem_nil, or_false] at escape
  rcases escape with ⟨rfl, rfl⟩ | ⟨rfl, rfl⟩ | ⟨rfl, rfl⟩ | ⟨rfl, rfl⟩ | ⟨rfl, rfl⟩ | ⟨rfl, rfl⟩ |
    ⟨rfl, rfl⟩ | ⟨rfl, rfl⟩ <;> rfl

theorem readEscape_unit {code : Nat} {digits : List Char} (unit : CodeUnit code digits)
    (rest : List Char) : readEscape ('u' :: (digits ++ rest)) = some (code, rest) := by
  cases unit with
  | digits first second third fourth =>
    simp [readEscape, readCodeUnit, first, second, third, fourth]

theorem readCodes_escape {text rest : List Char} {code : Nat}
    (read : readEscape text = some (code, rest)) (codes : List Nat) :
    readCodes ('\\' :: text) codes = readCodes rest (code :: codes) := by
  rw [readCodes]
  split
  · next failed => simp [read] at failed
  · next taken =>
    rw [read] at taken
    cases taken
    rfl

theorem readCodes_code {code : Nat} {text : List Char} (spelled : Code code text)
    (rest : List Char) (codes : List Nat) :
    readCodes (text ++ rest) codes = readCodes rest (code :: codes) := by
  cases spelled with
  | @plain c high quote backslash =>
    rw [List.singleton_append, readCodes]
    · rw [if_neg (by omega)]
    · exact quote
    · exact backslash
  | short escape => exact readCodes_escape (readEscape_short escape rest) codes
  | unit unit => exact readCodes_escape (readEscape_unit unit rest) codes

theorem readCodes_append {codes : List Nat} {text : List Char} (spelled : Codes codes text)
    (rest : List Char) (seen : List Nat) :
    readCodes (text ++ '"' :: rest) seen = some (seen.reverse ++ codes, rest) := by
  induction spelled generalizing seen with
  | nil =>
    rw [List.nil_append, readCodes]
    simp
  | cons code _ ih => simp [readCodes_code code, ih]

theorem toNat_valid (c : Char) : c.toNat < 0xD800 ∨ 0xE000 ≤ c.toNat ∧ c.toNat < 0x110000 := by
  have valid : c.toNat < 0xD800 ∨ 0xDFFF < c.toNat ∧ c.toNat < 0x110000 := c.valid
  omega

theorem toNat_ofNat {n : Nat} (valid : n < 0xD800 ∨ 0xE000 ≤ n ∧ n < 0x110000) :
    (Char.ofNat n).toNat = n := by
  rw [Char.toNat_ofNat, if_pos]
  have : n < 0xD800 ∨ 0xDFFF < n ∧ n < 0x110000 := by omega
  exact this

theorem Code.lt {code : Nat} {text : List Char} (spelled : Code code text) : code < 0x110000 := by
  cases spelled with
  | @plain c =>
    have := toNat_valid c
    omega
  | short escape =>
    have small : ∀ pair ∈ shortEscapes, pair.2 < 0x110000 := by decide
    exact small _ escape
  | unit unit =>
    cases unit with
    | digits first second third fourth =>
      have := Hex.value?_lt first
      have := Hex.value?_lt second
      have := Hex.value?_lt third
      have := Hex.value?_lt fourth
      omega

theorem isHighSurrogate_iff {code : Nat} :
    isHighSurrogate code ↔ 0xD800 ≤ code ∧ code < 0xDC00 := by simp [isHighSurrogate]

theorem isLowSurrogate_iff {code : Nat} :
    isLowSurrogate code ↔ 0xDC00 ≤ code ∧ code < 0xE000 := by simp [isLowSurrogate]

/-- What is written letter by letter has its surrogate pairs joined again. -/
theorem Letters.codes {cs text : List Char} (spelled : Letters cs text) :
    ∃ codes, Codes codes text ∧ joinPairs codes = some cs := by
  induction spelled with
  | nil => exact ⟨[], .nil, rfl⟩
  | @cons c cs _ more letter _ ih =>
    obtain ⟨codes, rest, joined⟩ := ih
    cases letter with
    | single code =>
      refine ⟨c.toNat :: codes, .cons code rest, ?_⟩
      have valid := toNat_valid c
      have notLow : ¬isLowSurrogate c.toNat := by
        rw [isLowSurrogate_iff]
        omega
      have notHigh : ¬isHighSurrogate c.toNat := by
        rw [isHighSurrogate_iff]
        omega
      unfold joinPairs
      simp [notLow, notHigh, joined]
    | @pair high low _ _ first second upper lower code =>
      refine ⟨high :: low :: codes, ?_, ?_⟩
      · rw [List.append_assoc]
        exact .cons first (.cons second rest)
      · have notLow : ¬isLowSurrogate high := by
          rw [isLowSurrogate_iff]
          omega
        unfold joinPairs
        simp [notLow, isHighSurrogate_iff.mpr upper, isLowSurrogate_iff.mpr lower, joined, ← code]

/-- What can be joined is written letter by letter. -/
theorem Codes.letters {codes : List Nat} {text : List Char} (spelled : Codes codes text) :
    ∀ {cs}, joinPairs codes = some cs → Letters cs text := by
  intro cs joined
  fun_induction joinPairs codes generalizing text cs with
  | case1 =>
    cases joined
    cases spelled
    exact .nil
  | case2 => cases joined
  | case3 code notLow high low rest lower ih =>
    rw [Option.map_eq_some_iff] at joined
    obtain ⟨cs, joined, rfl⟩ := joined
    cases spelled with
    | cons first spelled =>
      cases spelled with
      | cons second spelled =>
        rw [← List.append_assoc]
        rw [isHighSurrogate_iff] at high
        rw [isLowSurrogate_iff] at lower
        exact .cons (.pair first second high lower (toNat_ofNat (by omega))) (ih spelled joined)
  | case4 => cases joined
  | case5 => cases joined
  | case6 code rest notLow notHigh ih =>
    rw [Option.map_eq_some_iff] at joined
    obtain ⟨cs, joined, rfl⟩ := joined
    cases spelled with
    | cons first spelled =>
      have value : (Char.ofNat code).toNat = code := by
        have := first.lt
        apply toNat_ofNat
        rw [isHighSurrogate_iff] at notHigh
        rw [isLowSurrogate_iff] at notLow
        omega
      exact .cons (.single (value.symm ▸ first)) (ih spelled joined)

/-- The codes of a text are determined, since the reader finds them. -/
theorem Codes.unique {codes codes' : List Nat} {text : List Char} (one : Codes codes text)
    (other : Codes codes' text) : codes = codes' := by
  have same := (readCodes_append one [] []).symm.trans (readCodes_append other [] [])
  simpa using same

theorem Quoted.lone {codes : List Nat} {text : List Char} (spelled : Codes codes text)
    (lone : joinPairs codes = none) : Quoted none ('"' :: (text ++ ['"'])) := by
  refine .broken spelled fun cs letters => ?_
  obtain ⟨codes', spelled', joined⟩ := letters.codes
  rw [spelled'.unique spelled, lone] at joined
  cases joined

/-- The reader takes a string for what it stands for. -/
theorem Quoted.read {s : Option String} {text : List Char} (quoted : Quoted s text) :
    ∃ content, text = '"' :: content ∧ ∀ rest, readText (content ++ rest) = some (s, rest) := by
  cases quoted with
  | @whole s text letters =>
    obtain ⟨codes, spelled, joined⟩ := letters.codes
    refine ⟨_, rfl, fun rest => ?_⟩
    simp [readText, readCodes_append spelled, joined]
  | @broken codes text spelled noLetters =>
    have lone : joinPairs codes = none := by
      by_contra joins
      obtain ⟨cs, joined⟩ := Option.ne_none_iff_exists'.mp joins
      exact noLetters cs (spelled.letters joined)
    refine ⟨_, rfl, fun rest => ?_⟩
    simp [readText, readCodes_append spelled, lone]

/-! ## Values -/

theorem isBlank_iff {c : Char} : isBlank c ↔ c = ' ' ∨ c = '\t' ∨ c = '\n' ∨ c = '\r' := by
  simp [isBlank, or_assoc]

theorem skipBlanks_append {gap : List Char} (blank : Gap gap) (rest : List Char) :
    skipBlanks (gap ++ rest) = skipBlanks rest :=
  List.dropWhile_append_of_pos fun c inside => isBlank_iff.mpr (blank c inside)

theorem skipBlanks_cons {c : Char} (dark : isBlank c = false) (rest : List Char) :
    skipBlanks (c :: rest) = c :: rest := by simp [skipBlanks, dark]

theorem skipBlanks_skipBlanks (text : List Char) :
    skipBlanks (skipBlanks text) = skipBlanks text := List.dropWhile_idempotent isBlank text

theorem readValue_skipBlanks (fuel : Nat) (text : List Char) :
    readValue fuel (skipBlanks text) = readValue fuel text := by
  cases fuel with
  | zero => rfl
  | succ fuel => simp only [readValue, skipBlanks_skipBlanks]

theorem readItems_skipBlanks (fuel : Nat) (text : List Char) :
    readItems fuel (skipBlanks text) = readItems fuel text := by
  cases fuel with
  | zero => rfl
  | succ fuel => simp only [readItems, readValue_skipBlanks]

theorem readMembers_skipBlanks (fuel : Nat) (text : List Char) :
    readMembers fuel (skipBlanks text) = readMembers fuel text := by
  cases fuel with
  | zero => rfl
  | succ fuel => simp only [readMembers, skipBlanks_skipBlanks]

/-- What follows an element, if anything does. -/
def Closes (rest : List Char) : Prop := ∀ c ∈ rest.head?, c = ',' ∨ c = ']' ∨ c = '\x7d'

theorem Closes.stops {gap rest : List Char} (closes : Closes rest) (blank : Gap gap) :
    Stops (gap ++ rest) := by
  cases gap with
  | nil =>
    intro c first
    rcases closes c first with rfl | rfl | rfl <;> decide
  | cons d gap =>
    intro c first
    cases first
    rcases blank d (by simp) with rfl | rfl | rfl | rfl <;> decide

theorem readValue_number {c : Char} (first : c = '-' ∨ c.isDigit = true) (fuel : Nat)
    (rest : List Char) : readValue (fuel + 1) (c :: rest) = readNumber (c :: rest) := by
  have dark : isBlank c = false := by
    by_contra blank
    rcases isBlank_iff.mp (Bool.of_not_eq_false blank) with rfl | rfl | rfl | rfl <;> simp at first
  rw [readValue, skipBlanks_cons dark]
  split <;> simp_all [Char.isDigit]

theorem readValue_signed {sign whole : List Char} (signed : sign ∈ [[], ['-']])
    (plain : Whole whole) (fuel : Nat) (rest : List Char) :
    readValue (fuel + 1) (sign ++ (whole ++ rest)) = readNumber (sign ++ (whole ++ rest)) := by
  simp only [List.mem_cons, List.not_mem_nil, or_false] at signed
  rcases signed with rfl | rfl
  · obtain ⟨d, more, rfl⟩ := List.exists_cons_of_ne_nil plain.digits.ne_nil
    exact readValue_number (.inr (plain.digits.all d (by simp))) fuel _
  · exact readValue_number (.inl rfl) fuel _

theorem readValue_string {text rest : List Char} {s : Option String} (fuel : Nat)
    (read : readText text = some (s, rest)) :
    readValue (fuel + 1) ('"' :: text) = some (.string s, rest) := by
  simp [readValue, skipBlanks_cons, isBlank, read]

/-- No item begins with the bracket that closes an array, and no member with a brace. -/
theorem readItems_bracket (fuel : Nat) (rest : List Char) :
    readItems fuel (']' :: rest) = none := by
  cases fuel with
  | zero => rfl
  | succ fuel =>
    cases fuel with
    | zero => rfl
    | succ fuel =>
      have number : readNumber (']' :: rest) = none := by
        simp [readNumber, readWhole, readDigits, List.span_eq_takeWhile_dropWhile]
      simp [readItems, readValue, skipBlanks_cons, isBlank, number]

theorem readMembers_brace (fuel : Nat) (rest : List Char) :
    readMembers fuel ('\x7d' :: rest) = none := by
  cases fuel with
  | zero => rfl
  | succ fuel => simp [readMembers, skipBlanks_cons, isBlank, expect]

theorem readValue_emptyArray {text rest : List Char} (fuel : Nat)
    (closed : skipBlanks text = ']' :: rest) :
    readValue (fuel + 1) ('[' :: text) = some (.array [], rest) := by
  simp [readValue, skipBlanks_cons, isBlank, closed]

theorem readValue_array {fuel : Nat} {text rest : List Char} {vs : List Json}
    (read : readItems fuel text = some (vs, rest)) :
    readValue (fuel + 1) ('[' :: text) = some (.array vs, rest) := by
  rw [← readItems_skipBlanks] at read
  simp only [readValue, skipBlanks_cons (show isBlank '[' = false from rfl)]
  split
  · next rest empty => simp [empty, readItems_bracket] at read
  · simp [read]

theorem readValue_emptyObject {text rest : List Char} (fuel : Nat)
    (closed : skipBlanks text = '\x7d' :: rest) :
    readValue (fuel + 1) ('\x7b' :: text) = some (.object [], rest) := by
  simp [readValue, skipBlanks_cons, isBlank, closed]

theorem readValue_object {fuel : Nat} {text rest : List Char} {ms : List (Option String × Json)}
    (read : readMembers fuel text = some (ms, rest)) :
    readValue (fuel + 1) ('\x7b' :: text) = some (.object ms, rest) := by
  rw [← readMembers_skipBlanks] at read
  simp only [readValue, skipBlanks_cons (show isBlank '\x7b' = false from rfl)]
  split
  · next rest empty => simp [empty, readMembers_brace] at read
  · simp [read]

theorem readItems_last {fuel : Nat} {text left rest : List Char} {v : Json}
    (read : readValue fuel text = some (v, left)) (closed : skipBlanks left = ']' :: rest) :
    readItems (fuel + 1) text = some ([v], rest) := by
  simp [readItems, read, closed]

theorem readItems_next {fuel : Nat} {text left more rest : List Char} {v : Json} {vs : List Json}
    (read : readValue fuel text = some (v, left)) (parted : skipBlanks left = ',' :: more)
    (readMore : readItems fuel more = some (vs, rest)) :
    readItems (fuel + 1) text = some (v :: vs, rest) := by
  simp [readItems, read, parted, readMore]

theorem readMembers_last {key : Option String} {v : Json}
    {before name after text left rest : List Char} {fuel : Nat} (ahead : Gap before)
    (quoted : Quoted key name) (behind : Gap after) (read : readValue fuel text = some (v, left))
    (closed : skipBlanks left = '\x7d' :: rest) :
    readMembers (fuel + 1) (before ++ (name ++ (after ++ ':' :: text))) =
      some ([(key, v)], rest) := by
  obtain ⟨content, rfl, readKey⟩ := quoted.read
  have opened := skipBlanks_append ahead ('"' :: (content ++ (after ++ ':' :: text)))
  have colon := skipBlanks_append behind (':' :: text)
  rw [skipBlanks_cons rfl] at opened colon
  simp [readMembers, opened, colon, expect, readKey, read, closed]

theorem readMembers_next {key : Option String} {v : Json} {ms : List (Option String × Json)}
    {before name after text left more rest : List Char} {fuel : Nat} (ahead : Gap before)
    (quoted : Quoted key name) (behind : Gap after) (read : readValue fuel text = some (v, left))
    (parted : skipBlanks left = ',' :: more) (readMore : readMembers fuel more = some (ms, rest)) :
    readMembers (fuel + 1) (before ++ (name ++ (after ++ ':' :: text))) =
      some ((key, v) :: ms, rest) := by
  obtain ⟨content, rfl, readKey⟩ := quoted.read
  have opened := skipBlanks_append ahead ('"' :: (content ++ (after ++ ':' :: text)))
  have colon := skipBlanks_append behind (':' :: text)
  rw [skipBlanks_cons rfl] at opened colon
  simp [readMembers, opened, colon, expect, readKey, read, parted, readMore]

/-- The reader takes a piece of text for a phrase, whatever follows it. Two calls for every
character are enough. Only a number has to be ended by what follows. -/
def Phrase.Read (text : List Char) : Phrase → Prop
  | .value v => ∀ fuel rest, 2 * text.length ≤ fuel → Stops rest →
      readValue fuel (text ++ rest) = some (v, rest)
  | .element v => ∀ fuel rest, 2 * text.length ≤ fuel → Closes rest →
      ∃ left, readValue fuel (text ++ rest) = some (v, left) ∧ skipBlanks left = skipBlanks rest
  | .items vs => ∀ fuel rest, 2 * text.length ≤ fuel →
      readItems fuel (text ++ rest) = some (vs, rest)
  | .members ms => ∀ fuel rest, 2 * text.length ≤ fuel →
      readMembers fuel (text ++ rest) = some (ms, rest)

/-- Fuel for a text that is not empty. -/
theorem exists_succ_of_le {n fuel : Nat} (enough : 2 * (n + 1) ≤ fuel) :
    ∃ more, fuel = more + 1 ∧ 2 * n + 1 ≤ more := ⟨fuel - 1, by omega, by omega⟩

theorem Spells.read {phrase : Phrase} {text : List Char} (spelled : Spells phrase text) :
    phrase.Read text := by
  -- every call that leads to two further ones has taken a character for itself, a bracket or the
  -- sign behind an element, and that pays for both
  induction spelled with
  | null =>
    intro fuel rest enough _
    obtain ⟨fuel, rfl, _⟩ := exists_succ_of_le enough
    rfl
  | yes =>
    intro fuel rest enough _
    obtain ⟨fuel, rfl, _⟩ := exists_succ_of_le enough
    rfl
  | no =>
    intro fuel rest enough _
    obtain ⟨fuel, rfl, _⟩ := exists_succ_of_le enough
    rfl
  | @natural digits plain =>
    intro fuel rest enough stops
    have := List.length_pos_iff.mpr plain.digits.ne_nil
    obtain ⟨fuel, rfl⟩ : ∃ more, fuel = more + 1 := ⟨fuel - 1, by omega⟩
    have unsigned : [] ∈ [[], ['-']] := by simp
    have read := readNumber_append unsigned plain .none .none stops
    rwa [← readValue_signed unsigned plain fuel] at read
  | @number sign whole fraction exponent signed plain point power more =>
    intro fuel rest enough stops
    have := List.length_pos_iff.mpr plain.digits.ne_nil
    simp only [List.length_append] at enough
    obtain ⟨fuel, rfl⟩ : ∃ more, fuel = more + 1 := ⟨fuel - 1, by omega⟩
    have read := readNumber_append signed plain point power stops
    have other : (!sign.isEmpty || !fraction.isEmpty || !exponent.isEmpty) = true := by
      by_contra none
      exact more (by simpa [and_assoc] using none)
    rw [if_pos other, ← readValue_signed signed plain fuel] at read
    simpa only [List.append_assoc] using read
  | string quoted =>
    intro fuel rest enough _
    obtain ⟨content, rfl, read⟩ := quoted.read
    obtain ⟨fuel, rfl, _⟩ := exists_succ_of_le enough
    exact readValue_string fuel (read rest)
  | @emptyArray gap blank =>
    intro fuel rest enough _
    obtain ⟨fuel, rfl, _⟩ := exists_succ_of_le enough
    rw [List.cons_append, List.append_assoc]
    exact readValue_emptyArray fuel (skipBlanks_append blank _)
  | @array vs text items ih =>
    intro fuel rest enough _
    obtain ⟨fuel, rfl, enough⟩ := exists_succ_of_le enough
    exact readValue_array (ih fuel rest (by omega))
  | @emptyObject gap blank =>
    intro fuel rest enough _
    obtain ⟨fuel, rfl, _⟩ := exists_succ_of_le enough
    rw [List.cons_append, List.append_assoc]
    exact readValue_emptyObject fuel (skipBlanks_append blank _)
  | @object ms text members ih =>
    intro fuel rest enough _
    obtain ⟨fuel, rfl, enough⟩ := exists_succ_of_le enough
    exact readValue_object (ih fuel rest (by omega))
  | @element v before text after ahead _ behind ih =>
    intro fuel rest enough closes
    simp only [List.length_append] at enough
    refine ⟨after ++ rest, ?_, skipBlanks_append behind rest⟩
    rw [← readValue_skipBlanks, List.append_assoc, skipBlanks_append ahead, readValue_skipBlanks,
      List.append_assoc]
    exact ih fuel _ (by omega) (closes.stops behind)
  | @lastItem v text _ ih =>
    intro fuel rest enough
    rw [List.length_append, List.length_singleton] at enough
    obtain ⟨fuel, rfl, enough⟩ := exists_succ_of_le enough
    obtain ⟨left, read, skipped⟩ := ih fuel (']' :: rest) (by omega) (by simp [Closes])
    rw [List.append_assoc]
    exact readItems_last read skipped
  | @item v vs text more _ _ ih ihMore =>
    intro fuel rest enough
    rw [List.length_append, List.length_cons] at enough
    obtain ⟨fuel, rfl, enough⟩ := exists_succ_of_le enough
    obtain ⟨left, read, skipped⟩ := ih fuel (',' :: (more ++ rest)) (by omega) (by simp [Closes])
    rw [List.append_assoc]
    exact readItems_next read skipped (ihMore fuel rest (by omega))
  | @lastMember key v before name after text ahead quoted behind _ ih =>
    intro fuel rest enough
    simp only [List.length_append, List.length_cons] at enough
    obtain ⟨fuel, rfl⟩ : ∃ more, fuel = more + 1 := ⟨fuel - 1, by omega⟩
    obtain ⟨left, read, skipped⟩ := ih fuel ('\x7d' :: rest) (by omega) (by simp [Closes])
    simp only [List.append_assoc, List.cons_append]
    exact readMembers_last ahead quoted behind read skipped
  | @member key v ms before name after text more ahead quoted behind _ _ ih ihMore =>
    intro fuel rest enough
    simp only [List.length_append, List.length_cons] at enough
    obtain ⟨fuel, rfl⟩ : ∃ more, fuel = more + 1 := ⟨fuel - 1, by omega⟩
    obtain ⟨left, read, skipped⟩ := ih fuel (',' :: (more ++ rest)) (by omega) (by simp [Closes])
    simp only [List.append_assoc, List.cons_append]
    exact readMembers_next ahead quoted behind read skipped (ihMore fuel rest (by omega))

/-- The reader takes every document for what it says. -/
theorem read?_of_spells {v : Json} {text : String} (spelled : Spells (.element v) text.toList) :
    read? text = some v := by
  obtain ⟨left, read, skipped⟩ := spelled.read (2 * text.toList.length + 2) [] (by omega)
    (by simp [Closes])
  rw [List.append_nil] at read
  have ended : skipBlanks left = [] := skipped
  simp only [read?, read, ended, Option.bind_eq_bind, Option.bind_some, List.isEmpty_nil, if_true]

end LineBridge.Json
