import LineBridge.Bytes

/-! The nine operations that a host can ask of a bridge served over a byte stream. -/

namespace LineBridge.Remote

inductive Operation where
  | writeRegister
  | readRegister
  | pollRegister
  | idleClock
  | packedWrite
  | bulkWrite
  | bulkRead
  | readPair
  | writePair
deriving DecidableEq, Repr

namespace Operation

/-- The first byte of a command. -/
def code : Operation → UInt8
  | writeRegister => 1
  | readRegister => 2
  | pollRegister => 3
  | idleClock => 4
  | packedWrite => 5
  | bulkWrite => 6
  | bulkRead => 7
  | readPair => 8
  | writePair => 9

def ofCode? (raw : UInt8) : Option Operation :=
  match raw.toNat with
  | 1 => some writeRegister
  | 2 => some readRegister
  | 3 => some pollRegister
  | 4 => some idleClock
  | 5 => some packedWrite
  | 6 => some bulkWrite
  | 7 => some bulkRead
  | 8 => some readPair
  | 9 => some writePair
  | _ => none

/-- The name that a refusal is reported under. -/
def text : Operation → String
  | writeRegister => "WriteReg"
  | readRegister => "ReadReg"
  | pollRegister => "PollReg"
  | idleClock => "IdleClock"
  | packedWrite => "PackedWrite"
  | bulkWrite => "BulkWrite"
  | bulkRead => "BulkRead"
  | readPair => "ReadReg16"
  | writePair => "WriteReg16"

/-- Only the two streaming writes are followed by a payload. -/
def carriesPayload : Operation → Bool
  | bulkWrite | packedWrite => true
  | _ => false

theorem ofCode?_code (op : Operation) : ofCode? op.code = some op := by
  cases op <;> rfl

theorem code_of_ofCode? {raw : UInt8} {op : Operation} (h : ofCode? raw = some op) :
    op.code = raw := by
  have back : ∀ b : UInt8, ∀ o, ofCode? b = some o → o.code = b := by
    intro b o
    simp only [ofCode?]
    split <;> rintro ⟨⟩ <;> rename_i value <;> exact UInt8.toNat_inj.mp value.symm
  exact back raw op h

end Operation

end LineBridge.Remote
