import Mathlib
import LineBridge.Settings.Reading

/-! A section says the same in whatever order its members stand, and members with unknown keys
say nothing. Fields of one section put their values into different places, so any two of them can
change turns; a key that comes twice fails wherever it stands. -/

namespace LineBridge.Settings

namespace Field

variable {α β γ : Type}

/-- Neither field puts anything where the other one does. -/
def Commutes (f g : Field α) : Prop :=
  ∀ x y a, (f.put x a).bind (g.put y) = (g.put y a).bind (f.put x)

/-- Values that are set in different places can change turns. -/
theorem commutes_taken {takeF : Json → Option β} {takeG : Json → Option γ} {setF : β → α → α}
    {setG : γ → α → α} (apart : ∀ b c a, setG c (setF b a) = setF b (setG c a))
    (key key' : String) : Commutes (taken takeF key setF) (taken takeG key' setG) := by
  intro x y a
  simp only [taken]
  cases takeF x <;> cases takeG y <;> simp [apart]

theorem Commutes.symm {f g : Field α} (commutes : Commutes f g) : Commutes g f :=
  fun x y a => (commutes y x a).symm

/-- Of the keys seen only the set counts. -/
theorem fillMembers_congr {fields : List (Field α)} {members : List (Option String × Json)}
    {seen seen' : List String} (same : ∀ key, key ∈ seen ↔ key ∈ seen') (a : α) :
    fillMembers fields members seen a = fillMembers fields members seen' a := by
  induction members generalizing seen seen' a with
  | nil => rfl
  | cons m rest ih =>
    obtain ⟨_ | key, x⟩ := m
    · rfl
    · unfold fillMembers
      split
      · exact ih same a
      · have step (b : α) : fillMembers fields rest (key :: seen) b =
            fillMembers fields rest (key :: seen') b := ih (by simp [same]) b
        simp only [same key, step]

/-- A member with an unknown key is passed over. -/
theorem fillMembers_unknown {fields : List (Field α)} {key : String}
    (unknown : fields.find? (·.key == key) = none) (x : Json)
    (rest : List (Option String × Json)) (seen : List String) (a : α) :
    fillMembers fields ((some key, x) :: rest) seen a = fillMembers fields rest seen a := by
  simp [fillMembers, unknown]

/-- A member with a known key is put in, unless its key has come before. -/
theorem fillMembers_known {fields : List (Field α)} {key : String} {field : Field α}
    (known : fields.find? (·.key == key) = some field) (x : Json)
    (rest : List (Option String × Json)) (seen : List String) (a : α) :
    fillMembers fields ((some key, x) :: rest) seen a =
      if key ∈ seen then none
      else (field.put x a).bind fun b => fillMembers fields rest (key :: seen) b := by
  simp [fillMembers, known]

/-- Nothing that stands in front can mend what fails behind it. -/
theorem fillMembers_cons_none {fields : List (Field α)} {rest : List (Option String × Json)}
    (fails : ∀ seen a, fillMembers fields rest seen a = none) (m : Option String × Json)
    (seen : List String) (a : α) : fillMembers fields (m :: rest) seen a = none := by
  obtain ⟨_ | key, x⟩ := m
  · rfl
  · cases known : fields.find? (·.key == key) with
    | none => rw [fillMembers_unknown known, fails]
    | some field => simp [fillMembers_known known, fails]

theorem commutes_of_find? {fields : List (Field α)} (apart : fields.Pairwise Commutes)
    {key key' : String} {f g : Field α} (first : fields.find? (·.key == key) = some f)
    (second : fields.find? (·.key == key') = some g) (differ : key ≠ key') : Commutes f g := by
  have symm : Std.Symm (Commutes : Field α → Field α → Prop) := ⟨fun _ _ => Commutes.symm⟩
  refine apart.forall (List.mem_of_find?_eq_some first) (List.mem_of_find?_eq_some second) ?_
  intro same
  have key_f : f.key = key := by simpa using List.find?_some first
  have key_g : g.key = key' := by simpa using List.find?_some second
  exact differ (key_f ▸ key_g ▸ same ▸ rfl)

theorem fillMembers_swap {fields : List (Field α)} (apart : fields.Pairwise Commutes)
    (m n : Option String × Json) (rest : List (Option String × Json)) (seen : List String) (a : α) :
    fillMembers fields (m :: n :: rest) seen a = fillMembers fields (n :: m :: rest) seen a := by
  have nameless (x : Json) (rest : List (Option String × Json)) (seen : List String) (a : α) :
      fillMembers fields ((none, x) :: rest) seen a = none := rfl
  obtain ⟨_ | key, x⟩ := m
  · rw [nameless, fillMembers_cons_none (nameless x rest)]
  obtain ⟨_ | key', y⟩ := n
  · rw [nameless, fillMembers_cons_none (nameless y rest)]
  cases first : fields.find? (·.key == key) with
  | none =>
    cases second : fields.find? (·.key == key') with
    | none => simp only [fillMembers_unknown first, fillMembers_unknown second]
    | some g => simp only [fillMembers_unknown first, fillMembers_known second]
  | some f =>
    cases second : fields.find? (·.key == key') with
    | none => simp only [fillMembers_known first, fillMembers_unknown second]
    | some g =>
      simp only [fillMembers_known first, fillMembers_known second, List.mem_cons]
      -- the same key twice fails either way, and two different ones change turns
      by_cases same : key = key'
      · simp [same]
      · have commutes := commutes_of_find? apart first second same
        have swapped (b : α) : fillMembers fields rest (key' :: key :: seen) b =
            fillMembers fields rest (key :: key' :: seen) b :=
          fillMembers_congr (by simp [or_left_comm]) b
        by_cases before : key ∈ seen <;> by_cases before' : key' ∈ seen <;>
          simp only [before, before', same, Ne.symm same, or_true, or_false, if_true, if_false,
            Option.bind_fun_none]
        calc (f.put x a).bind (fun b => (g.put y b).bind fun c =>
              fillMembers fields rest (key' :: key :: seen) c)
            = ((f.put x a).bind (g.put y)).bind fun c =>
                fillMembers fields rest (key' :: key :: seen) c := (Option.bind_assoc ..).symm
          _ = ((g.put y a).bind (f.put x)).bind fun c =>
                fillMembers fields rest (key :: key' :: seen) c := by
              rw [commutes x y a, funext swapped]
          _ = _ := Option.bind_assoc ..

/-- The order of the members does not matter. -/
theorem fillMembers_perm {fields : List (Field α)} (apart : fields.Pairwise Commutes)
    {members members' : List (Option String × Json)} (order : members.Perm members')
    (seen : List String) (a : α) :
    fillMembers fields members seen a = fillMembers fields members' seen a := by
  induction order generalizing seen a with
  | nil => rfl
  | cons m _ ih =>
    obtain ⟨_ | key, x⟩ := m
    · rfl
    · unfold fillMembers
      simp only [ih]
  | swap m n rest => exact fillMembers_swap apart n m rest seen a
  | trans _ _ first second => exact (first seen a).trans (second seen a)

/-- A member whose key is a text. -/
def named (m : String × Json) : Option String × Json := (some m.1, m.2)

/-- The members that are there, out of those that may be. -/
def given (slots : List (String × Option Json)) : List (String × Json) :=
  slots.filterMap fun slot => slot.2.map (slot.1, ·)

/-- An object says what the slots say: in any order, with any values under any other keys. -/
def Lays (slots : List (String × Option Json)) (members : List (Option String × Json)) : Prop :=
  ∃ unknown : List (String × Json), (∀ m ∈ unknown, m.1 ∉ slots.map Prod.fst) ∧
    members.Perm ((given slots ++ unknown).map named)

/-- Puts a value in if there is one. -/
def putIf (field : Field α) : Option Json → α → Option α
  | none, a => some a
  | some x, a => field.put x a

/-- Puts in the values that there are, field by field. -/
def putAll (fields : List (Field α)) (values : List (Option Json)) (a : α) : Option α :=
  (fields.zip values).foldlM (fun a p => p.1.putIf p.2 a) a

@[simp]
theorem putAll_nil (a : α) : putAll [] [] a = some a := rfl

@[simp]
theorem putAll_cons (field : Field α) (fields : List (Field α)) (value : Option Json)
    (values : List (Option Json)) (a : α) :
    putAll (field :: fields) (value :: values) a =
      (field.putIf value a).bind (putAll fields values) := rfl

/-- Members whose keys are unknown leave everything as it is. -/
theorem fillMembers_append {fields : List (Field α)} {unknown : List (String × Json)}
    (skipped : ∀ m ∈ unknown, fields.find? (·.key == m.1) = none)
    (members : List (Option String × Json)) (seen : List String) (a : α) :
    fillMembers fields (unknown.map named ++ members) seen a =
      fillMembers fields members seen a := by
  induction unknown with
  | nil => rfl
  | cons m unknown ih =>
    rw [List.map_cons, List.cons_append, named, fillMembers_unknown (skipped m (by simp))]
    exact ih fun n later => skipped n (by simp [later])

theorem find?_key {fields : List (Field α)} (distinct : (fields.map Field.key).Nodup)
    {field : Field α} (inside : field ∈ fields) :
    fields.find? (·.key == field.key) = some field := by
  induction fields with
  | nil => simp at inside
  | cons first fields ih =>
    rw [List.map_cons, List.nodup_cons] at distinct
    rcases List.mem_cons.mp inside with rfl | later
    · simp
    · have other : first.key ≠ field.key := fun same =>
        distinct.1 (same ▸ List.mem_map_of_mem later)
      rw [List.find?_cons_of_neg (by simpa using other)]
      exact ih distinct.2 later

/-- Known members in the order of the fields; the induction is on the fields still to come. -/
theorem fillMembers_given {fields later : List (Field α)} {slots : List (String × Option Json)}
    (found : ∀ f ∈ later, fields.find? (·.key == f.key) = some f)
    (distinct : (later.map Field.key).Nodup) (keys : slots.map Prod.fst = later.map Field.key)
    {seen : List String} (fresh : ∀ f ∈ later, f.key ∉ seen) (a : α) :
    fillMembers fields ((given slots).map named) seen a = putAll later (slots.map Prod.snd) a := by
  induction later generalizing slots seen a with
  | nil =>
    have none : slots = [] := by simpa using keys
    subst none
    rfl
  | cons f later ih =>
    obtain ⟨⟨key, value⟩, slots, rfl⟩ : ∃ slot rest, slots = slot :: rest := by
      cases slots with
      | nil => simp at keys
      | cons slot rest => exact ⟨slot, rest, rfl⟩
    simp only [List.map_cons, List.cons.injEq] at keys
    obtain ⟨rfl, keys⟩ := keys
    rw [List.map_cons, List.nodup_cons] at distinct
    have found_later : ∀ g ∈ later, fields.find? (·.key == g.key) = some g :=
      fun g inside => found g (by simp [inside])
    cases value with
    | none =>
      exact ih found_later distinct.2 keys (fun g inside => fresh g (by simp [inside])) a
    | some x =>
      have fresh_later : ∀ g ∈ later, g.key ∉ f.key :: seen := by
        intro g inside seen
        rcases List.mem_cons.mp seen with same | before
        · exact distinct.1 (same ▸ List.mem_map_of_mem inside)
        · exact fresh g (by simp [inside]) before
      have put := fillMembers_known (found f (by simp)) x ((given slots).map named) seen a
      rw [if_neg (fresh f (by simp))] at put
      simp only [ih found_later distinct.2 keys fresh_later] at put
      exact put

/-- An object puts in what its slots say. -/
theorem fillMembers_of_lays {fields : List (Field α)} (apart : fields.Pairwise Commutes)
    (distinct : (fields.map Field.key).Nodup) {slots : List (String × Option Json)}
    (keys : slots.map Prod.fst = fields.map Field.key) {members : List (Option String × Json)}
    (lays : Lays slots members) (a : α) :
    fillMembers fields members [] a = putAll fields (slots.map Prod.snd) a := by
  obtain ⟨unknown, others, order⟩ := lays
  have skipped : ∀ m ∈ unknown, fields.find? (·.key == m.1) = none := by
    intro m inside
    have other := keys ▸ others m inside
    simpa [List.find?_eq_none] using other
  have apart_order : members.Perm (unknown.map named ++ (given slots).map named) := by
    rw [List.map_append] at order
    exact order.trans List.perm_append_comm
  calc fillMembers fields members [] a
      = fillMembers fields (unknown.map named ++ (given slots).map named) [] a :=
        fillMembers_perm apart apart_order [] a
    _ = fillMembers fields ((given slots).map named) [] a := fillMembers_append skipped _ [] a
    _ = putAll fields (slots.map Prod.snd) a :=
        fillMembers_given (fun _ => find?_key distinct) distinct keys (by simp) a

end Field

end LineBridge.Settings
