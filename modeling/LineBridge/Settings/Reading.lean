import LineBridge.Json.Reader
import LineBridge.Settings.Document

/-! A reader of settings documents. A known key may come once, and a number must be a plain one
that fits its field. -/

namespace LineBridge.Settings

def readWord32 : Json → Option UInt32
  | .natural n => if n < UInt32.size then some (UInt32.ofNat n) else none
  | _ => none

def readWord64 : Json → Option UInt64
  | .natural n => if n < UInt64.size then some (UInt64.ofNat n) else none
  | _ => none

def readFlag : Json → Option Bool
  | .bool b => some b
  | _ => none

def readString : Json → Option String
  | .string s => s
  | _ => none

namespace Field

variable {α : Type}

/-- Puts in the members of an object, in order; `seen` holds the known keys so far. -/
def fillMembers (fields : List (Field α)) :
    List (Option String × Json) → List String → α → Option α
  | [], _, a => some a
  | (none, _) :: _, _, _ => none
  | (some key, item) :: rest, seen, a =>
    match fields.find? (·.key == key) with
    | none => fillMembers fields rest seen a
    | some field =>
      if key ∈ seen then none
      else do
        let a ← field.put item a
        fillMembers fields rest (key :: seen) a

/-- Puts in the items of an array, field by field. -/
def fillItems : List (Field α) → List Json → α → Option α
  | _, [], a => some a
  | [], _ :: _, _ => none
  | field :: fields, item :: rest, a => do
    let a ← field.put item a
    fillItems fields rest a

def fill (fields : List (Field α)) : Json → α → Option α
  | .object members, a => fillMembers fields members [] a
  | .array items, a => fillItems fields items a
  | _, _ => none

end Field

def decoder : Decoder where
  read := Json.read?
  word32 := readWord32
  word64 := readWord64
  flag := readFlag
  text := readString
  fill := Field.fill

end LineBridge.Settings
