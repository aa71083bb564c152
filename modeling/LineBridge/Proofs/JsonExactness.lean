import Mathlib
import LineBridge.Proofs.JsonReading

/-! The reader takes nothing but the texts of the grammar: what it has taken off the front of a
text spells what it has read. So a text can be read just if the grammar has it, and what it says is
determined. -/

namespace LineBridge.Json

/-! ## Numbers -/

theorem digits_of_readDigits {text digits rest : List Char}
    (read : readDigits text = some (digits, rest)) : text = digits ++ rest ∧ Digits digits := by
  simp only [readDigits, List.span_eq_takeWhile_dropWhile] at read
  split at read
  · cases read
  · next some =>
    cases read
    have digit : ∀ c ∈ text.takeWhile Char.isDigit, c.isDigit = true :=
      fun c inside => List.mem_takeWhile_imp inside
    exact ⟨List.takeWhile_append_dropWhile.symm, by simpa using some, digit⟩

theorem whole_of_readWhole {text rest : List Char} {n : Nat}
    (read : readWhole text = some (n, rest)) :
    ∃ digits, text = digits ++ rest ∧ Whole digits ∧ n = Nat.ofDigitChars 10 digits 0 := by
  simp only [readWhole, Option.bind_eq_bind, Option.bind_eq_some_iff] at read
  obtain ⟨⟨digits, after⟩, taken, read⟩ := read
  obtain ⟨rfl, run⟩ := digits_of_readDigits taken
  dsimp only at read
  split at read
  · cases read
  · next plain =>
    cases read
    refine ⟨digits, rfl, ⟨run, fun zero => ?_⟩, rfl⟩
    obtain ⟨d, more, rfl⟩ := List.exists_cons_of_ne_nil run.ne_nil
    cases more with
    | nil => simpa using zero
    | cons => exact absurd ⟨zero, by simp⟩ plain

theorem fraction_of_readFraction {text rest : List Char} {there : Bool}
    (read : readFraction text = some (there, rest)) :
    ∃ fraction, text = fraction ++ rest ∧ Fraction fraction ∧ there = !fraction.isEmpty := by
  unfold readFraction at read
  split at read
  · simp only [Option.bind_eq_bind, Option.bind_eq_some_iff] at read
    obtain ⟨⟨digits, after⟩, taken, read⟩ := read
    cases read
    obtain ⟨rfl, run⟩ := digits_of_readDigits taken
    exact ⟨'.' :: digits, rfl, .point run, rfl⟩
  · cases read
    exact ⟨[], rfl, .none, rfl⟩

theorem exponent_of_readExponent {text rest : List Char} {there : Bool}
    (read : readExponent text = some (there, rest)) :
    ∃ exponent, text = exponent ++ rest ∧ Exponent exponent ∧ there = !exponent.isEmpty := by
  unfold readExponent at read
  split at read
  · next e text =>
    split at read
    · next letter =>
      simp only [Option.bind_eq_bind, Option.bind_eq_some_iff] at read
      obtain ⟨⟨digits, after⟩, taken, read⟩ := read
      cases read
      have letter : e ∈ ['e', 'E'] := by simpa using letter
      split at taken
      · obtain ⟨rfl, run⟩ := digits_of_readDigits taken
        exact ⟨e :: (['+'] ++ digits), by simp, .power letter (by simp) run, rfl⟩
      · obtain ⟨rfl, run⟩ := digits_of_readDigits taken
        exact ⟨e :: (['-'] ++ digits), by simp, .power letter (by simp) run, rfl⟩
      · obtain ⟨rfl, run⟩ := digits_of_readDigits taken
        exact ⟨e :: ([] ++ digits), by simp, .power letter (by simp) run, rfl⟩
    · cases read
      exact ⟨[], rfl, .none, rfl⟩
  · cases read
    exact ⟨[], rfl, .none, rfl⟩

theorem spells_of_readNumber {v : Json} {text rest : List Char}
    (read : readNumber text = some (v, rest)) :
    ∃ front, text = front ++ rest ∧ Spells (.value v) front := by
  -- the sign is what stands in front of the whole number
  obtain ⟨sign, unsigned, signed, rfl, parts⟩ : ∃ sign unsigned, sign ∈ [[], ['-']] ∧
      text = sign ++ unsigned ∧
      ((readWhole unsigned).bind fun whole => (readFraction whole.2).bind fun fraction =>
        (readExponent fraction.2).bind fun exponent =>
          some (if !sign.isEmpty || fraction.1 || exponent.1 then .otherNumber
            else .natural whole.1, exponent.2)) = some (v, rest) := by
    unfold readNumber at read
    dsimp only [Option.bind_eq_bind] at read
    split at read
    · exact ⟨['-'], _, by simp, rfl, read⟩
    · exact ⟨[], _, by simp, rfl, read⟩
  simp only [Option.bind_eq_some_iff] at parts
  obtain ⟨⟨n, _⟩, readWhole, ⟨point, _⟩, readFraction, ⟨power, _⟩, readExponent, value⟩ := parts
  obtain ⟨digits, rfl, plain, rfl⟩ := whole_of_readWhole readWhole
  obtain ⟨fraction, rfl, pointed, rfl⟩ := fraction_of_readFraction readFraction
  obtain ⟨exponent, rfl, powered, rfl⟩ := exponent_of_readExponent readExponent
  refine ⟨sign ++ (digits ++ (fraction ++ exponent)), ?_, ?_⟩
  · cases value
    simp only [List.append_assoc]
  · cases value
    split
    · next other =>
      refine .number signed plain pointed powered fun none => ?_
      simp_all
    · next whole =>
      have none : sign = [] ∧ fraction = [] ∧ exponent = [] := by simpa [and_assoc] using whole
      obtain ⟨rfl, rfl, rfl⟩ := none
      simpa using Spells.natural plain

/-! ## Strings -/

theorem code_of_readEscape {text rest : List Char} {code : Nat}
    (read : readEscape text = some (code, rest)) :
    ∃ front, text = front ++ rest ∧ Code code ('\\' :: front) := by
  unfold readEscape at read
  split at read
  case h_9 tail =>
    unfold readCodeUnit at read
    split at read
    · next a b c d after =>
      simp only [Option.bind_eq_bind, Option.bind_eq_some_iff] at read
      obtain ⟨w, first, x, second, y, third, z, fourth, read⟩ := read
      cases read
      exact ⟨['u', a, b, c, d], rfl, .unit (.digits first second third fourth)⟩
    · cases read
  case h_10 => cases read
  all_goals
    cases read
    exact ⟨[_], rfl, .short (by decide)⟩

theorem codes_of_readCodes {text rest : List Char} {seen codes : List Nat}
    (read : readCodes text seen = some (codes, rest)) :
    ∃ front more, text = front ++ '"' :: rest ∧ codes = seen.reverse ++ more ∧
      Codes more front := by
  fun_induction readCodes text seen with
  | case1 => cases read
  | case2 =>
    cases read
    exact ⟨[], [], rfl, by simp, .nil⟩
  | case3 => cases read
  | case4 seen after code later taken ih =>
    obtain ⟨front, more, rfl, rfl, spelled⟩ := ih read
    obtain ⟨escape, rfl, escaped⟩ := code_of_readEscape taken
    exact ⟨'\\' :: escape ++ front, code :: more, by simp, by simp, .cons escaped spelled⟩
  | case5 => cases read
  | case6 seen c after quote backslash high ih =>
    obtain ⟨front, more, rfl, rfl, spelled⟩ := ih read
    have plain : Code c.toNat [c] := .plain (by omega) quote backslash
    exact ⟨[c] ++ front, c.toNat :: more, by simp, by simp, .cons plain spelled⟩

theorem quoted_of_readText {text rest : List Char} {s : Option String}
    (read : readText text = some (s, rest)) :
    ∃ content, text = content ++ '"' :: rest ∧ Quoted s ('"' :: (content ++ ['"'])) := by
  simp only [readText, Option.bind_eq_bind, Option.bind_eq_some_iff] at read
  obtain ⟨⟨codes, after⟩, taken, read⟩ := read
  cases read
  obtain ⟨content, _, rfl, same, spelled⟩ := codes_of_readCodes taken
  rw [List.reverse_nil, List.nil_append] at same
  subst same
  refine ⟨content, rfl, ?_⟩
  cases joined : joinPairs codes with
  | none => simpa [joined] using Quoted.lone spelled joined
  | some cs =>
    have letters : Letters (String.ofList cs).toList content := by
      rw [String.toList_ofList]
      exact spelled.letters joined
    simpa [joined] using Quoted.whole letters

/-! ## Values -/

theorem gap_of_skipBlanks {text rest : List Char} (skipped : skipBlanks text = rest) :
    ∃ gap, text = gap ++ rest ∧ Gap gap := by
  refine ⟨text.takeWhile isBlank, ?_, fun c inside => ?_⟩
  · rw [← skipped]
    exact List.takeWhile_append_dropWhile.symm
  · exact isBlank_iff.mp (List.mem_takeWhile_imp inside)

theorem expect_eq_some_iff {word text rest : List Char} :
    expect word text = some rest ↔ text = word ++ rest := by
  induction word generalizing text with
  | nil => simp [expect]
  | cons c word ih =>
    cases text with
    | nil => simp [expect]
    | cons d text =>
      by_cases same : c = d
      · simp [expect, same, ih]
      · simp [expect, same, Ne.symm same]

/-- The calls with some fuel take only what spells what they read. -/
structure Sound (fuel : Nat) : Prop where
  value : ∀ {text v rest}, readValue fuel text = some (v, rest) →
    ∃ gap front, text = gap ++ (front ++ rest) ∧ Gap gap ∧ Spells (.value v) front
  items : ∀ {text vs rest}, readItems fuel text = some (vs, rest) →
    ∃ front, text = front ++ rest ∧ Spells (.items vs) front
  members : ∀ {text ms rest}, readMembers fuel text = some (ms, rest) →
    ∃ front, text = front ++ rest ∧ Spells (.members ms) front

theorem Sound.element {fuel : Nat} (sound : Sound fuel) {text left rest : List Char} {v : Json}
    (read : readValue fuel text = some (v, left)) (skipped : skipBlanks left = rest) :
    ∃ front, text = front ++ rest ∧ Spells (.element v) front := by
  obtain ⟨before, front, rfl, ahead, spelled⟩ := sound.value read
  obtain ⟨after, rfl, behind⟩ := gap_of_skipBlanks skipped
  exact ⟨before ++ (front ++ after), by simp, .element ahead spelled behind⟩

/-- With one call more, a value is taken from where the blanks before it end. -/
theorem Sound.value_succ {fuel : Nat} (sound : Sound fuel) {text rest : List Char} {v : Json}
    (read : readValue (fuel + 1) text = some (v, rest)) :
    ∃ front, skipBlanks text = front ++ rest ∧ Spells (.value v) front := by
  unfold readValue at read
  split at read
  · next content opened =>
    simp only [Option.bind_eq_bind, Option.bind_eq_some_iff] at read
    obtain ⟨⟨s, _⟩, taken, read⟩ := read
    cases read
    obtain ⟨content, rfl, quoted⟩ := quoted_of_readText taken
    exact ⟨'"' :: (content ++ ['"']), by simp [opened], .string quoted⟩
  · next inside opened =>
    split at read
    · next closed =>
      cases read
      obtain ⟨gap, rfl, blank⟩ := gap_of_skipBlanks closed
      exact ⟨'[' :: (gap ++ [']']), by simp [opened], .emptyArray blank⟩
    · simp only [Option.bind_eq_bind, Option.bind_eq_some_iff] at read
      obtain ⟨⟨vs, _⟩, taken, read⟩ := read
      cases read
      rw [readItems_skipBlanks] at taken
      obtain ⟨front, rfl, items⟩ := sound.items taken
      exact ⟨'[' :: front, by simp [opened], .array items⟩
  · next inside opened =>
    split at read
    · next closed =>
      cases read
      obtain ⟨gap, rfl, blank⟩ := gap_of_skipBlanks closed
      exact ⟨'\x7b' :: (gap ++ ['\x7d']), by simp [opened], .emptyObject blank⟩
    · simp only [Option.bind_eq_bind, Option.bind_eq_some_iff] at read
      obtain ⟨⟨ms, _⟩, taken, read⟩ := read
      cases read
      rw [readMembers_skipBlanks] at taken
      obtain ⟨front, rfl, members⟩ := sound.members taken
      exact ⟨'\x7b' :: front, by simp [opened], .object members⟩
  · next opened =>
    simp only [Option.bind_eq_bind, Option.bind_eq_some_iff, expect_eq_some_iff] at read
    obtain ⟨_, rfl, read⟩ := read
    cases read
    exact ⟨_, opened, .yes⟩
  · next opened =>
    simp only [Option.bind_eq_bind, Option.bind_eq_some_iff, expect_eq_some_iff] at read
    obtain ⟨_, rfl, read⟩ := read
    cases read
    exact ⟨_, opened, .no⟩
  · next opened =>
    simp only [Option.bind_eq_bind, Option.bind_eq_some_iff, expect_eq_some_iff] at read
    obtain ⟨_, rfl, read⟩ := read
    cases read
    exact ⟨_, opened, .null⟩
  · exact spells_of_readNumber read

theorem sound (fuel : Nat) : Sound fuel := by
  induction fuel with
  | zero => constructor <;> intro _ _ _ read <;> cases read
  | succ fuel ih =>
    constructor
    · intro text v rest read
      obtain ⟨front, opened, spelled⟩ := ih.value_succ read
      obtain ⟨gap, rfl, blank⟩ := gap_of_skipBlanks opened
      exact ⟨gap, front, rfl, blank, spelled⟩
    · intro text vs rest read
      simp only [readItems, Option.bind_eq_bind, Option.bind_eq_some_iff] at read
      obtain ⟨⟨v, left⟩, taken, read⟩ := read
      split at read
      · next parted =>
        simp only [Option.bind_eq_some_iff] at read
        obtain ⟨⟨vs, _⟩, takenMore, read⟩ := read
        cases read
        obtain ⟨front, rfl, element⟩ := ih.element taken parted
        obtain ⟨more, rfl, items⟩ := ih.items takenMore
        exact ⟨front ++ ',' :: more, by simp, .item element items⟩
      · next closed =>
        cases read
        obtain ⟨front, rfl, element⟩ := ih.element taken closed
        exact ⟨front ++ [']'], by simp, .lastItem element⟩
      · cases read
    · intro text ms rest read
      simp only [readMembers, Option.bind_eq_bind, Option.bind_eq_some_iff,
        expect_eq_some_iff] at read
      obtain ⟨_, opened, ⟨key, _⟩, takenKey, _, colon, ⟨v, left⟩, taken, read⟩ := read
      obtain ⟨before, rfl, ahead⟩ := gap_of_skipBlanks opened
      obtain ⟨name, rfl, quoted⟩ := quoted_of_readText takenKey
      obtain ⟨after, rfl, behind⟩ := gap_of_skipBlanks colon
      split at read
      · next parted =>
        simp only [Option.bind_eq_some_iff] at read
        obtain ⟨⟨ms, _⟩, takenMore, read⟩ := read
        cases read
        obtain ⟨front, rfl, element⟩ := ih.element taken parted
        obtain ⟨more, rfl, members⟩ := ih.members takenMore
        exact ⟨_, by simp, .member ahead quoted behind element members⟩
      · next closed =>
        cases read
        obtain ⟨front, rfl, element⟩ := ih.element taken closed
        exact ⟨_, by simp, .lastMember ahead quoted behind element⟩
      · cases read

/-- A document is read from just the texts that spell it. -/
theorem read?_eq_some_iff {v : Json} {text : String} :
    read? text = some v ↔ Spells (.element v) text.toList := by
  refine ⟨fun read => ?_, read?_of_spells⟩
  simp only [read?, Option.bind_eq_bind, Option.bind_eq_some_iff] at read
  obtain ⟨⟨v, left⟩, taken, read⟩ := read
  split at read
  · next ended =>
    cases read
    obtain ⟨front, same, element⟩ := (sound _).element taken (List.isEmpty_iff.mp ended)
    rwa [same, List.append_nil]
  · cases read

end LineBridge.Json
