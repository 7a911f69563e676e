import NovelScript.Bytes.Cursor
import NovelScript.Instruction

/-!
Decoding code as a whole. A sweep goes from instruction to instruction until the code ends or cannot
be decoded; it keeps the code behind each instruction, so that signatures can be looked for there.
-/

namespace NovelScript

structure Placed where
  /-- The distance from the start of the code. -/
  offset : Nat
  instruction : Instruction
  /-- The code after the instruction. -/
  rest : Bytes
  deriving DecidableEq, Repr

structure Undecodable where
  offset : Nat
  cause : DecodeCause
  deriving DecidableEq, Repr

/-- What code decodes to: its instructions, and the place where decoding stopped short. -/
structure Sweep where
  found : List Placed
  failure? : Option Undecodable
  deriving DecidableEq, Repr

namespace Sweep

/-- Sweeps code that begins at `offset`, after `skip` bytes that belong to the instruction before.
-/
def walk : (skip offset : Nat) → Bytes → Sweep
  | _, _, [] => ⟨[], none⟩
  | skip + 1, offset, _ :: code => walk skip (offset + 1) code
  | 0, offset, b :: code =>
    match Instruction.decode (b :: code) with
    | .error cause =>
      ⟨[], some ⟨offset + Instruction.failureOffset (code.length + 1) cause, cause⟩⟩
    | .ok (i, rest) =>
      let swept := walk (i.size - 1) (offset + 1) code
      ⟨⟨offset, i, rest⟩ :: swept.found, swept.failure?⟩

def ofCode (code : Bytes) : Sweep := walk 0 0 code

/-- The code address of something `offset` bytes into code that begins at `pos`. -/
def address (pos : UInt32) (offset : Nat) : UInt32 := UInt32.ofNat (pos.toNat + offset)

end Sweep

namespace Read

def words : (count : Nat) → Read (List UInt32)
  | 0 => return []
  | count + 1 => do
    let w ← u32
    let ws ← words count
    return w :: ws

def operand : OperandKind → Read Operand
  | .slot => return .slot (← u8)
  | .byte => return .byte (← u8)
  | .word => return .word (← u32)
  | .constant => return .constant (← u32)
  | .table => do
    let count ← u8
    return .table (← words count.toNat)
  | .function => return .function (← u32)
  | .native => return .native (← u32)
  | .label => return .label (← u32)

def operands : List OperandKind → Read (List Operand)
  | [] => return []
  | kind :: kinds => do
    let o ← operand kind
    let os ← operands kinds
    return o :: os

/-- Reads an instruction. An opcode that does not exist has been read when it is refused. -/
def instruction : Read Instruction := do
  let position := (← get).absolute
  let b ← u8
  match Opcode.ofByte? b with
  | none => throw (.decode position (.unknownOpcode b))
  | some opcode => return ⟨opcode, ← operands opcode.operandKinds⟩

end Read

end NovelScript
