import NovelScript.Bytes.Buffer
import NovelScript.Script
import NovelScript.Source.Statement

/-!
A function while its lines are being read. Code is emitted at once; an operand whose value is not
known yet is emitted as a placeholder and noted as a fixup. Labels are fixed up when the function
ends, calls when all functions are known.
-/

namespace NovelScript.Assembly

/-- The word that stands for a value not yet known. -/
def unresolved : UInt32 := 0xdeadc0de

def maxLocals : Nat := 256

/-- The strings defined so far, each with its name in the source. -/
abbrev StringTable := List (Text × StringEntry)

structure Fixup where
  offset : Nat
  target : Text
  /-- The line of the instruction, to be blamed if the target does not exist. -/
  line : Nat
  deriving DecidableEq, Repr

structure Draft where
  name : Text
  namePos : UInt32
  params : UInt32
  /-- The address of the first instruction. -/
  start : Nat
  code : Buffer := {}
  instructions : Nat := 0
  /-- The names of the locals in the order of their slots. -/
  locals : List Text := []
  labels : List (Text × UInt32) := []
  jumps : List Fixup := []
  calls : List Fixup := []
  deriving Repr

/-- A function that is complete, except for the calls in its code. -/
structure Assembled where
  name : Text
  entry : FunctionEntry
  instructions : Nat
  calls : List Fixup
  deriving Repr

namespace Draft

def cursor (d : Draft) : UInt32 := UInt32.ofNat (d.start + d.code.size)

def emit (d : Draft) (field : Field) : Draft := { d with code := d.code.put field }

def fixup (d : Draft) (target : Text) (line : Nat) : Fixup := ⟨d.code.size, target, line⟩

/-- The slot of a local; a name that is new takes the next slot. -/
def slot (d : Draft) (line : Nat) (name : Text) : Except Fault (UInt8 × Draft) :=
  match d.locals.idxOf? name with
  | some i => .ok (UInt8.ofNat i, d)
  | none =>
    let count := d.locals.length
    if maxLocals ≤ count then
      .error (.semantic line (.tooManyLocals name (count + 1) d.name maxLocals))
    else .ok (UInt8.ofNat count, { d with locals := d.locals ++ [name] })

/-- Emits an operand. A label that is defined already has its address emitted; calls always wait. -/
def argument (table : StringTable) (line : Nat) (d : Draft) : Argument → Except Fault Draft
  | .operand o => .ok (d.emit (.block o.encode))
  | .slot name => (d.slot line name).map fun (i, d) => d.emit (.u8 i)
  | .string name =>
    match table.lookup name with
    | some entry => .ok (d.emit (.u32 entry.pos))
    | none => .error (.semantic line (.undefinedString name))
  | .function name =>
    .ok { d.emit (.u32 unresolved) with calls := d.calls ++ [d.fixup name line] }
  | .label name =>
    match d.labels.lookup name with
    | some address => .ok (d.emit (.u32 address))
    | none => .ok { d.emit (.u32 unresolved) with jumps := d.jumps ++ [d.fixup name line] }

def statement (table : StringTable) (line : Nat) (d : Draft) : Statement → Except Fault Draft
  | .label name =>
    match d.labels.lookup name with
    | some _ => .error (.semantic line (.duplicateLabel name d.name))
    | none => .ok { d with labels := (name, d.cursor) :: d.labels }
  | .instruction opcode arguments =>
    (arguments.foldlM (argument table line) (d.emit (.u8 opcode.byte))).map
      fun d => { d with instructions := d.instructions + 1 }

def patchJump (d : Draft) (code : Bytes) (jump : Fixup) : Except Fault Bytes :=
  match d.labels.lookup jump.target with
  | some address => patchWord code jump.offset address
  | none => .error (.semantic jump.line (.undefinedLabel jump.target d.name))

def finish (d : Draft) (line : Nat) : Except Fault Assembled := do
  if d.instructions = 0 then throw (.semantic line (.emptyFunction d.name))
  let code ← d.jumps.foldlM d.patchJump d.code.toList
  if UInt32.size ≤ d.start + (wordLength code).toNat then
    throw (.semantic line .codeSectionOverflow)
  return {
    name := d.name
    entry := {
      name := d.namePos, pos := UInt32.ofNat d.start, params := d.params,
      locals := UInt32.ofNat d.locals.length, code }
    instructions := d.instructions
    calls := d.calls }

end Draft

end NovelScript.Assembly
