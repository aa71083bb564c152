import LineBridge.Tool.Parameter

/-! Reading the words of one level of the command line, from left to right. The last parameter
that was named is held back until the next one is named or the level ends: only then is its
value looked at. So an unknown word is refused before a bad value that stands right before it,
and of two bad values the first one is reported. -/

namespace LineBridge.Tool

/-- What one level knows. -/
structure Level where
  options : List Parameter
  /-- The parameter that a word without dashes stands for, once. -/
  operand : Option Parameter := none

namespace Level

def named? (level : Level) (name : String) : Option Parameter :=
  level.options.find? (·.name == name)

def lettered? (level : Level) (letter : Char) : Option Parameter :=
  level.options.find? (·.letter? == some letter)

end Level

/-- A word by its dashes. -/
inductive Word where
  /-- Two dashes alone: all that follows is plain. -/
  | rest
  | long (name : String) (value : Option String)
  | letters (cs : List Char)
  | plain (text : String)
deriving DecidableEq, Repr

/-- One dash alone is plain. -/
def Word.ofText (text : String) : Word :=
  match text.toList with
  | ['-', '-'] => .rest
  | '-' :: '-' :: body =>
    let name := String.ofList (body.takeWhile (· != '='))
    match body.dropWhile (· != '=') with
    | [] => .long name none
    | _ :: value => .long name (some (String.ofList value))
  | '-' :: c :: more => .letters (c :: more)
  | _ => .plain text

/-- What has been read on a level. -/
structure Reading where
  /-- Newest first. -/
  given : List Given := []
  /-- The parameter that is held back, and its value if there is one yet. -/
  held : Option (Parameter × Option String) := none
  /-- Whether the operand has been seen. -/
  filled : Bool := false
  /-- Whether dashes have lost their meaning. -/
  plain : Bool := false

namespace Reading

def awaitsValue (r : Reading) : Bool :=
  match r.held with
  | some (_, none) => true
  | _ => false

/-- Takes a parameter with its value. -/
def take (p : Parameter) (value : String) (r : Reading) : Except Stop Reading :=
  if !p.mayRepeat && r.given.any (·.parameter == p) then .error (.refused (.repeated p))
  else do
    let g ← p.give value
    pure { r with given := g :: r.given }

/-- Takes what is held back. -/
def settle (r : Reading) : Except Stop Reading :=
  match r.held with
  | none => .ok r
  | some (p, none) => .error (.refused (.missingValue p))
  | some (p, some value) => take p value { r with held := none }

/-- Takes a parameter at once, behind what is held back. -/
def name (p : Parameter) (value : String) (r : Reading) : Except Stop Reading := do
  let r ← r.settle
  r.take p value

/-- Holds a parameter back. -/
def hold (p : Parameter) (value : Option String) (r : Reading) : Except Stop Reading := do
  let r ← r.settle
  pure { r with held := some (p, value) }

def readLong (level : Level) (name : String) (value : Option String) (r : Reading) :
    Except Stop Reading :=
  match level.named? name, value with
  | none, _ => .error (.refused (.unknown ("--" ++ name)))
  | some p, none => if p.takesValue then r.hold p none else r.name p ""
  | some p, some v => if p.takesValue then r.name p v else .error (.refused (.needlessValue p))

/-- A letter that takes a value takes all that follows, without an equals sign in front. -/
def readLetters (level : Level) : List Char → Reading → Except Stop Reading
  | [], r => .ok r
  | c :: rest, r =>
    match level.lettered? c with
    | none => .error (.refused (.unknown (String.ofList ['-', c])))
    | some p =>
      if p.takesValue then
        match rest with
        | [] => r.hold p none
        | '=' :: value => r.name p (String.ofList value)
        | value => r.name p (String.ofList value)
      else do
        let r ← r.name p ""
        readLetters level rest r

def readOperand (level : Level) (text : String) (r : Reading) : Except Stop Reading :=
  match level.operand, r.filled with
  | some p, false => do
    let r ← r.hold p (some text)
    pure { r with filled := true }
  | _, _ => .error (.refused (.unknown text))

def readPlain (level : Level) (text : String) (r : Reading) : Except Stop Reading :=
  match r.held with
  | some (p, none) => .ok { r with held := some (p, some text) }
  | _ => r.readOperand level text

def readWord (level : Level) (r : Reading) (text : String) : Except Stop Reading :=
  if r.plain then r.readOperand level text
  else match Word.ofText text with
  | .rest => .ok { r with plain := true }
  | .long name value => r.readLong level name value
  | .letters cs => readLetters level cs r
  | .plain text => r.readPlain level text

/-- All words of a level that has no level below it. -/
def readAll (level : Level) (words : List String) : Except Stop Reading := do
  let r ← words.foldlM (readWord level) {}
  r.settle

end Reading

end LineBridge.Tool
