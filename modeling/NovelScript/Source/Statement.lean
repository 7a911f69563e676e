import NovelScript.Instruction
import NovelScript.Source.Line
import NovelScript.Source.Number

/-!
The lines inside a function: label definitions and instructions. A line is read without knowing any
other line, so whatever it names stays a name here.
-/

namespace NovelScript

/-- An operand as written: a value, or the name of a local, a string, a function or a label. -/
inductive Argument
  | operand (o : Operand)
  | slot (name : Text)
  | string (name : Text)
  | function (name : Text)
  | label (name : Text)
  deriving DecidableEq, Repr

inductive Statement
  | label (name : Text)
  | instruction (opcode : Opcode) (arguments : List Argument)
  deriving DecidableEq, Repr

namespace Statement

def maxTableLength : Nat := 255

/-- The label that a line defines: a name and a colon, with nothing else on the line. -/
def definedLabel? (text : Text) : Option Text :=
  let name := text.dropLast
  if text.getLast? = some ':' ∧ name ≠ [] ∧
      ¬ name.any (fun c => isSpace c || c = ',' || c = ':') then
    some name
  else none

def splitMnemonic (text : Text) : Text × Text :=
  match text.splitAtFirst isBlank with
  | some (mnemonic, rest) => (mnemonic, rest.trim)
  | none => (text, [])

/-- Splits the text of operands at its commas. No operand may be empty. -/
def splitOperands (line : Line) (rest : Text) : Except Fault (List Text) :=
  if rest = [] then .ok []
  else
    let tokens := (rest.splitOn ',').map Text.trim
    if [] ∈ tokens then .error (.syntactic line.number (.emptyOperand line.text)) else .ok tokens

/-- Reads an operand of a kind. Where a constant or a label is wanted, what is no number is a name.
-/
def argument (line : Nat) (kind : OperandKind) (token : Text) : Except Fault Argument :=
  match kind with
  | .slot => .ok (.slot token)
  | .byte => (Number.byte line token).map fun n => .operand (.byte n)
  | .word => (Number.word line token).map fun n => .operand (.word n)
  | .constant =>
    if Number.isNumber token then (Number.word line token).map fun n => .operand (.constant n)
    else .ok (.string token)
  | .table => (Number.word line token).map fun n => .operand (.table [n])
  | .function => .ok (.function token)
  | .native => (Number.native line token).map fun n => .operand (.native n)
  | .label =>
    if Number.isNumber token then (Number.word line token).map fun n => .operand (.label n)
    else .ok (.label token)

def argumentList (line : Nat) : List (OperandKind × Text) → Except Fault (List Argument)
  | [] => .ok []
  | (kind, token) :: rest => do
    let a ← argument line kind token
    let as ← argumentList line rest
    return a :: as

def tableEntries (line : Nat) : List Text → Except Fault (List UInt32)
  | [] => .ok []
  | token :: rest => do
    let n ← Number.word line token
    let ns ← tableEntries line rest
    return n :: ns

def arguments (line : Nat) (mnemonic : Text) (opcode : Opcode) (tokens : List Text) :
    Except Fault (List Argument) :=
  if opcode = .jmpa then
    if maxTableLength < tokens.length then
      .error (.semantic line (.jumpTableTooLong tokens.length))
    else (tableEntries line tokens).map fun entries => [.operand (.table entries)]
  else
    let kinds := opcode.operandKinds
    if kinds.length ≠ tokens.length then
      .error (.syntactic line (.operandCount mnemonic kinds.length tokens.length))
    else argumentList line (kinds.zip tokens)

def parse (line : Line) : Except Fault Statement :=
  match definedLabel? line.text with
  | some name => .ok (.label name)
  | none => do
    let (mnemonic, rest) := splitMnemonic line.text
    let tokens ← splitOperands line rest
    match Opcode.ofMnemonic? mnemonic with
    | none => throw (.syntactic line.number (.unknownInstruction mnemonic))
    | some opcode => return .instruction opcode (← arguments line.number mnemonic opcode tokens)

end Statement

end NovelScript
