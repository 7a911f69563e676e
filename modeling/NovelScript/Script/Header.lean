import NovelScript.Bytes.Cursor
import NovelScript.Bytes.Field
import NovelScript.Script

/-!
The header of a container and the records of its function table, as they stand in the file.

The header is 0x44 bytes long: a word that is zero, the name in 32 bytes, then as words the start
and length of the function table, the start and size of the code section, the start and size of the
string section, the size of the file, and another zero. A record is 0x14 bytes long: name,
parameters, locals, and the start and size of the code, counted from the start of the code section.
-/

namespace NovelScript.Container

def headerSize : Nat := 0x44

def recordSize : Nat := 0x14

def nameWidth : Nat := 32

/-- The longest name of a script: a zero byte has to fit behind it. -/
def maxNameLength : Nat := nameWidth - 1

def stringsAlignment : Nat := 4

structure Header where
  /-- The first word, zero in every regular file. -/
  leading : UInt32 := 0
  name : Bytes
  functionsStart : UInt32
  functionCount : UInt32
  codeStart : UInt32
  codeSize : UInt32
  stringsStart : UInt32
  stringsSize : UInt32
  fileSize : UInt32
  /-- The last word, zero in every regular file. -/
  trailing : UInt32 := 0
  deriving DecidableEq, Repr

def readHeader : Read Header := do
  let leading ← Read.u32
  let name ← Read.block nameWidth
  let functionsStart ← Read.u32
  let functionCount ← Read.u32
  let codeStart ← Read.u32
  let codeSize ← Read.u32
  let stringsStart ← Read.u32
  let stringsSize ← Read.u32
  let fileSize ← Read.u32
  let trailing ← Read.u32
  return { leading, name, functionsStart, functionCount, codeStart, codeSize, stringsStart,
           stringsSize, fileSize, trailing }

def Header.fields (h : Header) : List Field :=
  [.u32 h.leading, .fixed h.name nameWidth, .u32 h.functionsStart, .u32 h.functionCount,
    .u32 h.codeStart, .u32 h.codeSize, .u32 h.stringsStart, .u32 h.stringsSize, .u32 h.fileSize,
    .u32 h.trailing]

structure Record where
  name : UInt32
  params : UInt32
  locals : UInt32
  pos : UInt32
  size : UInt32
  deriving DecidableEq, Repr

def readRecord : Read Record := do
  let name ← Read.u32
  let params ← Read.u32
  let locals ← Read.u32
  let pos ← Read.u32
  let size ← Read.u32
  return { name, params, locals, pos, size }

def Record.fields (r : Record) : List Field :=
  [.u32 r.name, .u32 r.params, .u32 r.locals, .u32 r.pos, .u32 r.size]

def Record.ofFunction (f : FunctionEntry) : Record :=
  ⟨f.name, f.params, f.locals, f.pos, wordLength f.code⟩

end NovelScript.Container
