import NovelScript.Assembly.Draft
import NovelScript.Source.Declaration

/-!
Assembling source text. The lines are read once, from top to bottom: each one takes the assembler
from one phase to the next, and at the end the calls are linked.
-/

namespace NovelScript.Assembly

/-- The room for a string, its bytes and a zero byte. As a word it is too small for a string of
`2 ^ 32 - 1` bytes or more. -/
def stringRoom (bytes : Bytes) : UInt32 := wordLength bytes + 1

def stringsEnd (table : StringTable) : Nat :=
  match table.getLast? with
  | some (_, entry) => entry.pos.toNat + (stringRoom entry.bytes).toNat
  | none => 0

def codeEnd (done : List Assembled) : Nat :=
  match done.getLast? with
  | some a => a.entry.pos.toNat + (wordLength a.entry.code).toNat
  | none => 0

structure Progress where
  name : Bytes
  table : StringTable
  done : List Assembled := []
  deriving Repr

inductive Phase
  /-- Nothing has been read. -/
  | start
  /-- The name has been read. -/
  | named (name : Bytes)
  /-- The strings are being read. -/
  | strings (name : Bytes) (table : StringTable)
  /-- No function is open. -/
  | between (p : Progress)
  /-- A function is open. -/
  | inside (p : Progress) (draft : Draft)
  deriving Repr

def addString (cs : Charset) (table : StringTable) (line : Line) : Except Fault StringTable := do
  let (name, value) ← Declaration.stringDefinition line
  if (table.lookup name).isSome then throw (.semantic line.number (.duplicateString name))
  let bytes ← Declaration.stringBytes cs line.number name value
  let pos := stringsEnd table
  if UInt32.size ≤ pos + (stringRoom bytes).toNat then
    throw (.semantic line.number .stringSectionOverflow)
  return table ++ [(name, ⟨UInt32.ofNat pos, bytes⟩)]

/-- Opens a function. It has to have a string of the same name. -/
def openFunction (p : Progress) (line : Line) : Except Fault Draft := do
  if ¬ Declaration.opensFunction line.text then
    throw (.syntactic line.number (.notFunction line.text))
  let (name, params) ← Declaration.functionHeader line
  match p.table.lookup name with
  | none => throw (.semantic line.number (.functionWithoutString name))
  | some entry =>
    if p.done.any (·.name = name) then throw (.semantic line.number (.duplicateFunction name))
    return { name, namePos := entry.pos, params, start := codeEnd p.done }

def Phase.step (cs : Charset) (line : Line) : Phase → Except Fault Phase
  | start => (Declaration.scriptName cs line).map named
  | named name =>
    if line.text = "strings".toList then .ok (strings name [])
    else .error (.syntactic line.number (.notStringsHeader line.text))
  | strings name table =>
    if line.text = "endstrings".toList then
      if table = [] then .error (.semantic line.number .noStrings)
      else .ok (between { name, table })
    else (addString cs table line).map (strings name)
  | between p => (openFunction p line).map (inside p)
  | inside p draft =>
    if line.text = "endfunction".toList then
      (draft.finish line.number).map fun a => between { p with done := p.done ++ [a] }
    else do
      let statement ← Statement.parse line
      return inside p (← draft.statement p.table line.number statement)

def Phase.run (cs : Charset) (lines : List Line) (phase : Phase) : Except Fault Phase :=
  lines.foldlM (fun phase line => phase.step cs line) phase

/-- The functions of a source text that ends in this phase, `line` being its last line. -/
def Phase.finish (line : Nat) : Phase → Except Fault Progress
  | start => .error (.syntactic line (.endOfInput .scriptHeader))
  | named _ => .error (.syntactic line (.endOfInput .stringsHeader))
  | strings _ _ => .error (.syntactic line (.endOfInput .endOfStrings))
  | inside _ _ => .error (.syntactic line (.endOfInput .endOfFunction))
  | between p => if p.done = [] then .error (.semantic line .noFunctions) else .ok p

def functionIndex? (done : List Assembled) (name : Text) : Option Nat :=
  done.findIdx? (·.name = name)

def patchCall (done : List Assembled) (code : Bytes) (call : Fixup) : Except Fault Bytes :=
  match functionIndex? done call.target with
  | some index => patchWord code call.offset (UInt32.ofNat index)
  | none => .error (.semantic call.line (.undefinedFunction call.target))

/-- Completes the calls of functions, `done` being all functions of the script. -/
def linkCalls (done : List Assembled) : List Assembled → Except Fault (List FunctionEntry)
  | [] => .ok []
  | a :: rest => do
    let code ← a.calls.foldlM (patchCall done) a.entry.code
    let entries ← linkCalls done rest
    return { a.entry with code } :: entries

def Progress.link (p : Progress) : Except Fault Script := do
  let functions ← linkCalls p.done p.done
  return { name := p.name, strings := p.table.map Prod.snd, functions }

def lastNumber (lines : List Line) : Nat :=
  match lines.getLast? with
  | some line => line.number
  | none => 0

def assembleLines (cs : Charset) (lines : List Line) : Except Fault Script := do
  let phase ← Phase.start.run cs lines
  let progress ← phase.finish (lastNumber lines)
  progress.link

end NovelScript.Assembly

namespace NovelScript

def assemble (cs : Charset) (source : Text) : Except Fault Script :=
  Assembly.assembleLines cs (Source.lines source)

end NovelScript
