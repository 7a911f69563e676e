import NovelScript.Text

/-!
The instruction set: the opcodes in the order of their bytes, their mnemonics, and the kinds of
operands that each one carries.
-/

namespace NovelScript

/-- What an operand stands for, and with that how it is encoded and written. -/
inductive OperandKind
  /-- A slot among the function's locals, in one byte. -/
  | slot
  /-- A number in one byte. -/
  | byte
  /-- A number in four bytes. -/
  | word
  /-- A number in four bytes that may be the position of a string. -/
  | constant
  /-- A count in one byte and as many words. -/
  | table
  /-- An index into the function table, in four bytes. -/
  | function
  /-- The number of a function of the engine, in four bytes. -/
  | native
  /-- A code address, in four bytes. -/
  | label
  deriving DecidableEq, Repr

def OperandKind.fixedSize? : OperandKind → Option Nat
  | slot | byte => some 1
  | word | constant | function | native | label => some 4
  | table => none

inductive Opcode
  | nop | pushl | popl | pushc | pushb | pushi | pushg | popg | pop | dup
  | add | sub | mul | div | mod | neg | and | or | xor | not | shl | shr
  | land | lor | lnot | eq | ne | lt | le | gt | ge | inc | dec
  | jmp | jz | jnz | jmpa | call | ret | retv | pushr | calln | wait | swap | stop
  deriving DecidableEq, Repr

namespace Opcode

def all : List Opcode :=
  [nop, pushl, popl, pushc, pushb, pushi, pushg, popg, pop, dup,
    add, sub, mul, div, mod, neg, and, or, xor, not, shl, shr,
    land, lor, lnot, eq, ne, lt, le, gt, ge, inc, dec,
    jmp, jz, jnz, jmpa, call, ret, retv, pushr, calln, wait, swap, stop]

def byte (op : Opcode) : UInt8 := UInt8.ofNat (all.idxOf op)

def ofByte? (b : UInt8) : Option Opcode := all[b.toNat]?

def mnemonic : Opcode → String
  | nop => "nop" | pushl => "pushl" | popl => "popl" | pushc => "pushc" | pushb => "pushb"
  | pushi => "pushi" | pushg => "pushg" | popg => "popg" | pop => "pop" | dup => "dup"
  | add => "add" | sub => "sub" | mul => "mul" | div => "div" | mod => "mod" | neg => "neg"
  | and => "and" | or => "or" | xor => "xor" | not => "not" | shl => "shl" | shr => "shr"
  | land => "land" | lor => "lor" | lnot => "lnot" | eq => "eq" | ne => "ne" | lt => "lt"
  | le => "le" | gt => "gt" | ge => "ge" | inc => "inc" | dec => "dec" | jmp => "jmp"
  | jz => "jz" | jnz => "jnz" | jmpa => "jmpa" | call => "call" | ret => "ret" | retv => "retv"
  | pushr => "pushr" | calln => "calln" | wait => "wait" | swap => "swap" | stop => "end"

def ofMnemonic? (t : Text) : Option Opcode := all.find? fun op => op.mnemonic.toList = t

def operandKinds : Opcode → List OperandKind
  | pushl | popl | inc | dec => [.slot]
  | pushc => [.constant]
  | pushb => [.byte]
  | pushi | pushg | popg => [.word]
  | jmp | jz | jnz => [.label]
  | jmpa => [.table]
  | call => [.function]
  | calln => [.native, .byte]
  | _ => []

theorem ofByte?_byte (op : Opcode) : ofByte? op.byte = some op := by
  cases op <;> rfl

theorem byte_getElem_all : ∀ i : Fin all.length, (all[i]).byte = UInt8.ofNat i := by decide

theorem byte_of_ofByte? {b : UInt8} {op : Opcode} (h : ofByte? b = some op) : op.byte = b := by
  obtain ⟨hb, hop⟩ := List.getElem?_eq_some_iff.1 h
  have h := byte_getElem_all ⟨b.toNat, hb⟩
  rw [Fin.getElem_fin, hop] at h
  rw [h, UInt8.ofNat_toNat]

theorem ofMnemonic?_mnemonic (op : Opcode) : ofMnemonic? op.mnemonic.toList = some op := by
  cases op <;> decide

end Opcode

end NovelScript
