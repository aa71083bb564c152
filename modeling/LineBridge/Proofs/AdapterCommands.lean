import Mathlib
import LineBridge.Proofs.Codec
import LineBridge.Proofs.SelfDelimiting
import LineBridge.Spi.Frame

/-! What an adapter is told, as data. A string of bytes is a string of commands in one way at
most, whatever bytes are shifted out, and so are commands as assertions of chip select. -/

namespace LineBridge.Spi

/-- The formats of the commands. Lengths and counts are those that are meant. -/
inductive AdapterCommand where
  | setPins (value direction : UInt8)
  | shiftOut (data : Bytes)
  | shiftIn (count : Nat)
  /-- Groups of eight clocks. -/
  | clockGroups (count : Nat)
  | clockBits (count : Nat)
  | sendImmediate
  | fullClock
  | adaptiveOff
  | threePhase
  | loopbackOff
  | setDivisor (value : UInt16)

namespace AdapterCommand

def bytes : AdapterCommand → Bytes
  | setPins value direction => [Opcode.setPins, value, direction]
  | shiftOut data => lengthCommand Opcode.writeBytes data.length ++ data
  | shiftIn count => lengthCommand Opcode.readBytes count
  | clockGroups count => lengthCommand Opcode.clockBytes count
  | clockBits count => [Opcode.clockBits, UInt8.ofNat (count - 1)]
  | sendImmediate => [Opcode.sendImmediate]
  | fullClock => [Opcode.fullClock]
  | adaptiveOff => [Opcode.adaptiveOff]
  | threePhase => [Opcode.threePhase]
  | loopbackOff => [Opcode.loopbackOff]
  | setDivisor value => Opcode.setDivisor :: Bytes.littleEndian 2 value.toNat

/-- A length less one fits two bytes, and bits less one fit one. -/
def Sized : AdapterCommand → Prop
  | shiftOut data => 1 ≤ data.length ∧ data.length ≤ maxCommandBytes
  | shiftIn count | clockGroups count => 1 ≤ count ∧ count ≤ maxCommandBytes
  | clockBits count => 1 ≤ count ∧ count ≤ 256
  | _ => True

end AdapterCommand

theorem lengthCommand_append_inj {opcode : UInt8} {m n : Nat} {u v : Bytes}
    (first : 1 ≤ m ∧ m ≤ maxCommandBytes) (second : 1 ≤ n ∧ n ≤ maxCommandBytes)
    (same : lengthCommand opcode m ++ u = lengthCommand opcode n ++ v) : m = n ∧ u = v := by
  have words := List.append_inj same rfl
  have less : Bytes.littleEndian 2 (m - 1) = Bytes.littleEndian 2 (n - 1) :=
    (List.cons.inj words.1).2
  have small {k : Nat} (fits : 1 ≤ k ∧ k ≤ maxCommandBytes) : k - 1 < Bytes.capacity 2 :=
    Nat.lt_of_lt_of_le (Nat.sub_lt fits.1 Nat.one_pos) fits.2
  have equal := congrArg Bytes.ofLittleEndian less
  rw [Bytes.ofLittleEndian_littleEndian_of_lt (small first),
    Bytes.ofLittleEndian_littleEndian_of_lt (small second)] at equal
  exact ⟨by omega, words.2⟩

/-- No opcode starts two formats, and every format says where it ends. -/
theorem AdapterCommand.selfDelimiting : SelfDelimiting Sized bytes where
  nonempty c _ := by cases c <;> exact List.cons_ne_nil _ _
  inj := by
    intro c d u v sized sized' same
    cases c with
    | setPins value direction =>
      cases d with
      | setPins value' direction' =>
        obtain ⟨-, operands⟩ := List.cons.inj same
        obtain ⟨values, last⟩ := List.cons.inj operands
        obtain ⟨directions, rest⟩ := List.cons.inj last
        exact ⟨congrArg₂ setPins values directions, rest⟩
      | _ => exact absurd (List.cons.inj same).1 (by decide)
    | shiftOut data =>
      cases d with
      | shiftOut data' =>
        simp only [bytes, List.append_assoc] at same
        obtain ⟨size, behind⟩ := lengthCommand_append_inj sized sized' same
        obtain ⟨payloads, rest⟩ := List.append_inj behind size
        exact ⟨congrArg shiftOut payloads, rest⟩
      | _ => exact absurd (List.cons.inj same).1 (by decide)
    | shiftIn count =>
      cases d with
      | shiftIn count' =>
        obtain ⟨rfl, rest⟩ := lengthCommand_append_inj sized sized' same
        exact ⟨rfl, rest⟩
      | _ => exact absurd (List.cons.inj same).1 (by decide)
    | clockGroups count =>
      cases d with
      | clockGroups count' =>
        obtain ⟨rfl, rest⟩ := lengthCommand_append_inj sized sized' same
        exact ⟨rfl, rest⟩
      | _ => exact absurd (List.cons.inj same).1 (by decide)
    | clockBits count =>
      cases d with
      | clockBits count' =>
        obtain ⟨-, rest⟩ := List.cons.inj same
        obtain ⟨less, rest⟩ := List.cons.inj rest
        have small {k : Nat} (fits : 1 ≤ k ∧ k ≤ 256) : k - 1 < 2 ^ 8 :=
          Nat.lt_of_lt_of_le (Nat.sub_lt fits.1 Nat.one_pos) fits.2
        have equal := congrArg UInt8.toNat less
        rw [UInt8.toNat_ofNat_of_lt' (small sized),
          UInt8.toNat_ofNat_of_lt' (small sized')] at equal
        have counts : count = count' := by
          have positive := sized.1
          have positive' := sized'.1
          omega
        exact ⟨congrArg clockBits counts, rest⟩
      | _ => exact absurd (List.cons.inj same).1 (by decide)
    | setDivisor value =>
      cases d with
      | setDivisor value' =>
        obtain ⟨word, rest⟩ := List.append_inj (List.cons.inj same).2 rfl
        have equal := congrArg Bytes.ofLittleEndian word
        rw [Bytes.ofLittleEndian_littleEndian_of_lt value.toNat_lt,
          Bytes.ofLittleEndian_littleEndian_of_lt value'.toNat_lt] at equal
        exact ⟨congrArg setDivisor (UInt16.toNat_inj.mp equal), rest⟩
      | _ => exact absurd (List.cons.inj same).1 (by decide)
    | sendImmediate =>
      cases d with
      | sendImmediate => exact ⟨rfl, (List.cons.inj same).2⟩
      | _ => exact absurd (List.cons.inj same).1 (by decide)
    | fullClock =>
      cases d with
      | fullClock => exact ⟨rfl, (List.cons.inj same).2⟩
      | _ => exact absurd (List.cons.inj same).1 (by decide)
    | adaptiveOff =>
      cases d with
      | adaptiveOff => exact ⟨rfl, (List.cons.inj same).2⟩
      | _ => exact absurd (List.cons.inj same).1 (by decide)
    | threePhase =>
      cases d with
      | threePhase => exact ⟨rfl, (List.cons.inj same).2⟩
      | _ => exact absurd (List.cons.inj same).1 (by decide)
    | loopbackOff =>
      cases d with
      | loopbackOff => exact ⟨rfl, (List.cons.inj same).2⟩
      | _ => exact absurd (List.cons.inj same).1 (by decide)

/-- What an adapter is told to do on the bus, with one assertion of chip select for each access
to a register. -/
inductive BusStep where
  | write (reg : UInt8) (data : Bytes)
  | read (reg : UInt8) (count : Nat)
  /-- Hands what has been shifted in to the host. -/
  | handOver
  | clockGroups (count : Nat)
  | clockBits (count : Nat)

namespace BusStep

def assertion (body : List AdapterCommand) : List AdapterCommand :=
  .setPins 0 Pin.outputs :: body ++ [.setPins Pin.chipSelect Pin.outputs]

def commands : BusStep → List AdapterCommand
  | write reg data => assertion [.shiftOut ((Register.writeFlag ||| reg) :: data)]
  | read reg count => assertion [.shiftOut [reg], .shiftIn count]
  | handOver => [.sendImmediate]
  | clockGroups count => [.clockGroups count]
  | clockBits count => [.clockBits count]

/-- The write flag is free, and every command fits its format. -/
def Sized : BusStep → Prop
  | write reg data => reg < Register.writeFlag ∧ data.length ≤ maxChunkBytes
  | read reg count => reg < Register.writeFlag ∧ 1 ≤ count ∧ count ≤ maxCommandBytes
  | handOver => True
  | clockGroups count => 1 ≤ count ∧ count ≤ maxCommandBytes
  | clockBits count => 1 ≤ count ∧ count ≤ 256

def bytes (step : BusStep) : Bytes := step.commands.flatMap AdapterCommand.bytes

theorem sized_write (reg : UInt8) {data : Bytes} (fits : data.length ≤ maxChunkBytes) :
    ∀ c ∈ (write reg data).commands, c.Sized := by
  have header : (AdapterCommand.shiftOut ((Register.writeFlag ||| reg) :: data)).Sized :=
    ⟨Nat.le_add_left _ _, Nat.succ_le_succ fits⟩
  simpa [commands, assertion] using ⟨trivial, header, trivial⟩

theorem sized_read (reg : UInt8) {count : Nat} (fits : 1 ≤ count ∧ count ≤ maxCommandBytes) :
    ∀ c ∈ (read reg count).commands, c.Sized := by
  have header : (AdapterCommand.shiftOut [reg]).Sized :=
    ⟨Nat.le_refl 1, (by decide : 1 ≤ maxCommandBytes)⟩
  have answer : (AdapterCommand.shiftIn count).Sized := fits
  simpa [commands, assertion] using ⟨trivial, header, answer, trivial⟩

theorem sized_commands {step : BusStep} (sized : step.Sized) :
    ∀ c ∈ step.commands, c.Sized := by
  cases step with
  | write reg data => exact sized_write reg sized.2
  | read reg count => exact sized_read reg sized.2
  | handOver => exact List.forall_mem_singleton.mpr trivial
  | clockGroups count => exact List.forall_mem_singleton.mpr sized
  | clockBits count => exact List.forall_mem_singleton.mpr sized

theorem writeFlag_or_inj {a b : UInt8} (free : a < Register.writeFlag)
    (free' : b < Register.writeFlag) (same : Register.writeFlag ||| a = Register.writeFlag ||| b) :
    a = b := by
  have sum {r : UInt8} (free : r < Register.writeFlag) :
      (Register.writeFlag ||| r).toNat = 2 ^ 7 + r.toNat := by
    have low : r.toNat < 2 ^ 7 := UInt8.lt_iff_toNat_lt.mp free
    rw [UInt8.toNat_or]
    exact (Nat.two_pow_add_eq_or_of_lt low 1).symm
  have equal := congrArg UInt8.toNat same
  rw [sum free, sum free'] at equal
  exact UInt8.toNat_inj.mp (Nat.add_left_cancel equal)

/-- Commands are put together to steps in one way: a write ends where a read shifts in. -/
theorem selfDelimiting : SelfDelimiting Sized commands where
  nonempty step _ := by cases step <;> exact List.cons_ne_nil _ _
  inj := by
    intro a b u v sized sized' same
    cases a with
    | write reg data =>
      cases b with
      | write reg' data' =>
        obtain ⟨-, asserted⟩ := List.cons.inj same
        obtain ⟨shifted, released⟩ := List.cons.inj asserted
        obtain ⟨headers, payloads⟩ := List.cons.inj (AdapterCommand.shiftOut.inj shifted)
        have regs := writeFlag_or_inj sized.1 sized'.1 headers
        exact ⟨congrArg₂ write regs payloads, (List.cons.inj released).2⟩
      | read reg' count' =>
        obtain ⟨-, asserted⟩ := List.cons.inj same
        exact nomatch (List.cons.inj (List.cons.inj asserted).2).1
      | _ => exact nomatch (List.cons.inj same).1
    | read reg count =>
      cases b with
      | read reg' count' =>
        obtain ⟨-, asserted⟩ := List.cons.inj same
        obtain ⟨shifted, answered⟩ := List.cons.inj asserted
        obtain ⟨counts, released⟩ := List.cons.inj answered
        have regs := (List.cons.inj (AdapterCommand.shiftOut.inj shifted)).1
        exact ⟨congrArg₂ read regs (AdapterCommand.shiftIn.inj counts), (List.cons.inj released).2⟩
      | write reg' data' =>
        obtain ⟨-, asserted⟩ := List.cons.inj same
        exact nomatch (List.cons.inj (List.cons.inj asserted).2).1
      | _ => exact nomatch (List.cons.inj same).1
    | handOver =>
      cases b with
      | handOver => exact ⟨rfl, (List.cons.inj same).2⟩
      | _ => exact nomatch (List.cons.inj same).1
    | clockGroups count =>
      cases b with
      | clockGroups count' =>
        obtain ⟨groups, rest⟩ := List.cons.inj same
        exact ⟨congrArg clockGroups (AdapterCommand.clockGroups.inj groups), rest⟩
      | _ => exact nomatch (List.cons.inj same).1
    | clockBits count =>
      cases b with
      | clockBits count' =>
        obtain ⟨bits, rest⟩ := List.cons.inj same
        exact ⟨congrArg clockBits (AdapterCommand.clockBits.inj bits), rest⟩
      | _ => exact nomatch (List.cons.inj same).1

end BusStep

/-- The bytes decode to these steps: they are commands in one way, which are these steps and no
others. -/
structure Decodes (bytes : Bytes) (steps : List BusStep) : Prop where
  sized : ∀ step ∈ steps, step.Sized
  encoded : bytes = (steps.flatMap BusStep.commands).flatMap AdapterCommand.bytes
  commands_unique : ∀ commands : List AdapterCommand, (∀ c ∈ commands, c.Sized) →
    bytes = commands.flatMap AdapterCommand.bytes → commands = steps.flatMap BusStep.commands
  steps_unique : ∀ others : List BusStep, (∀ step ∈ others, step.Sized) →
    others.flatMap BusStep.commands = steps.flatMap BusStep.commands → others = steps

/-- Bytes that encode steps decode to them. -/
theorem decodes_flatMap {steps : List BusStep} (sized : ∀ step ∈ steps, step.Sized) :
    Decodes (steps.flatMap BusStep.bytes) steps where
  sized := sized
  encoded := List.flatMap_assoc.symm
  commands_unique := by
    intro commands fits same
    have fits' : ∀ c ∈ steps.flatMap BusStep.commands, c.Sized := by
      intro c member
      obtain ⟨step, among, inside⟩ := List.mem_flatMap.mp member
      exact BusStep.sized_commands (sized step among) c inside
    refine AdapterCommand.selfDelimiting.flatMap_inj fits' fits ?_
    rw [← same, List.flatMap_assoc]
    rfl
  steps_unique := fun _ fits same => BusStep.selfDelimiting.flatMap_inj sized fits same

end LineBridge.Spi
