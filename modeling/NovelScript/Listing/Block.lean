import NovelScript.Listing.Symbols
import NovelScript.Speaker

/-!
The listing of a function. Labels stand where a jump of the function leads to one of its
instructions; all other jump targets are written as numbers.
-/

namespace NovelScript.Listing

structure Decoded where
  function : FunctionEntry
  instructions : List Placed
  /-- The addresses that have labels. -/
  labels : List UInt32
  deriving Repr

namespace Decoded

def address (f : FunctionEntry) (p : Placed) : UInt32 := Sweep.address f.pos p.offset

def targets (instructions : List Placed) : List UInt32 :=
  (instructions.flatMap (·.instruction.operands)).filterMap fun o =>
    match o with
    | .label target => some target
    | _ => none

def ofFunction (f : FunctionEntry) : Except Fault Decoded :=
  let swept := Sweep.ofCode f.code
  match swept.failure? with
  | some failure => .error (.decode (f.pos.toNat + failure.offset) failure.cause)
  | none =>
    let starts := swept.found.map (address f)
    .ok {
      function := f
      instructions := swept.found
      labels := (targets swept.found).eraseDups.filter starts.contains }

end Decoded

def hexLiteral (width n : Nat) : Text := '0' :: 'x' :: Numeral.hex width n

/-- The symbol for a pushed constant. It is taken for a string if it is the position of one, is
shown right away, and does not have the bytes of a function's name. -/
def constantSymbol? (script : Script) (symbols : Symbols) (value : UInt32) (rest : Bytes) :
    Option Text :=
  (script.stringAt? value).bind fun entry =>
    if symbols.functionNames.contains entry.bytes then none
    else if startsWith rest showLine then symbols.string? value
    else none

def operandText (script : Script) (symbols : Symbols) (d : Decoded) (p : Placed) :
    Operand → Except Fault Text
  | .slot index => .ok ("local_".toList ++ Numeral.hex 2 index.toNat)
  | .byte value =>
    .ok (if value < 10 then Numeral.decimal value.toNat else hexLiteral 2 value.toNat)
  | .word value => .ok (hexLiteral 8 value.toNat)
  | .constant value =>
    .ok ((constantSymbol? script symbols value p.rest).getD (Numeral.signed value.toInt32.toInt))
  | .table entries =>
    .ok (List.intercalate [','] (entries.map fun e => hexLiteral 8 e.toNat))
  | .function index =>
    match script.functions[index.toNat]? with
    | some target => symbols.function target
    | none =>
      .error (.decode (Decoded.address d.function p).toNat
        (.callOutOfRange index script.functions.length))
  | .native id => .ok ("@native".toList ++ Numeral.hex 2 id.toNat)
  | .label target =>
    .ok (if d.labels.contains target then labelName target else hexLiteral 8 target.toNat)

def operandComment? : Operand → Option Text
  | .byte value => if value < 10 then none else some (Numeral.decimal value.toNat)
  | .word value =>
    if 10 ≤ value.toInt32.toInt then some (Numeral.signed value.toInt32.toInt) else none
  | _ => none

def operandTexts (script : Script) (symbols : Symbols) (d : Decoded) (p : Placed) :
    List Operand → Except Fault (List Text)
  | [] => .ok []
  | o :: os => do
    let t ← operandText script symbols d p o
    let ts ← operandTexts script symbols d p os
    return t :: ts

def instructionLine (i : Instruction) (operands : List Text) : Text :=
  let comments := i.operands.filterMap operandComment?
  '\t' :: i.opcode.mnemonic.toList ++
    (if operands = [] then [] else '\t' :: List.intercalate [','] operands) ++
    (if comments = [] then [] else "\t; ".toList ++ List.intercalate [',', ' '] comments)

/-- Writes an instruction, after the line of its label if it has one. -/
def instructionLines (script : Script) (symbols : Symbols) (d : Decoded) (p : Placed) :
    Except Fault (List Text) := do
  let address := Decoded.address d.function p
  let operands ← operandTexts script symbols d p p.instruction.operands
  let line := instructionLine p.instruction operands
  return if d.labels.contains address then [labelName address ++ [':'], line] else [line]

def bodyLines (script : Script) (symbols : Symbols) (d : Decoded) :
    List Placed → Except Fault (List Text)
  | [] => .ok []
  | p :: ps => do
    let lines ← instructionLines script symbols d p
    let more ← bodyLines script symbols d ps
    return lines ++ more

def functionLines (script : Script) (symbols : Symbols) (f : FunctionEntry) :
    Except Fault (List Text) := do
  let d ← Decoded.ofFunction f
  let name ← symbols.function f
  let body ← bodyLines script symbols d d.instructions
  let header := "function ".toList ++ name ++ ',' :: Numeral.decimal f.params.toNat
  return header :: body ++ ["endfunction".toList]

end NovelScript.Listing
