import NovelScript.Bytes

/-!
The script of a visual novel: its name, its string table and its function table, with the lookups
between them.
-/

namespace NovelScript

structure StringEntry where
  /-- The offset in the string section. -/
  pos : UInt32
  bytes : Bytes
  deriving DecidableEq, Repr

def StringEntry.nextPos (s : StringEntry) : UInt32 :=
  UInt32.ofNat (s.pos.toNat + s.bytes.length + 1)

structure FunctionEntry where
  /-- The position of the string that is the function's name. -/
  name : UInt32 := 0
  /-- The offset of the first instruction in the code section. -/
  pos : UInt32
  params : UInt32 := 0
  locals : UInt32 := 0
  code : Bytes
  deriving DecidableEq, Repr

def FunctionEntry.stop (f : FunctionEntry) : UInt32 := UInt32.ofNat (f.pos.toNat + f.code.length)

/-- A script. Its name is in its charset like its strings. -/
structure Script where
  name : Bytes := []
  strings : List StringEntry := []
  functions : List FunctionEntry := []
  deriving DecidableEq, Repr, Inhabited

namespace Script

/-- The string at a position, in a table that is in ascending order of positions. The table is
halved until a single string is left that can stand there. -/
def entryAt? (strings : List StringEntry) (pos : UInt32) : Option StringEntry :=
  if h : 1 < strings.length then
    have : strings.length / 2 < strings.length := by omega
    if pos < strings[strings.length / 2].pos then entryAt? (strings.take (strings.length / 2)) pos
    else entryAt? (strings.drop (strings.length / 2)) pos
  else strings.find? (·.pos = pos)
termination_by strings.length
decreasing_by
  · rw [List.length_take]
    omega
  · rw [List.length_drop]
    omega

def stringAt? (s : Script) (pos : UInt32) : Option StringEntry := entryAt? s.strings pos

def notFound : UInt32 := 0xffffffff

def stringPos (s : Script) (bytes : Bytes) : UInt32 :=
  match s.strings.find? (·.bytes = bytes) with
  | some entry => entry.pos
  | none => notFound

def functionName? (s : Script) (f : FunctionEntry) : Option Bytes :=
  (s.stringAt? f.name).map (·.bytes)

def functionIndex? (s : Script) (name : Bytes) : Option Nat :=
  s.functions.findIdx? fun f => s.functionName? f = some name

def nextStringPos (s : Script) : UInt32 :=
  match s.strings.getLast? with
  | some entry => entry.nextPos
  | none => 0

def nextFunctionPos (s : Script) : UInt32 :=
  match s.functions.getLast? with
  | some f => f.stop
  | none => 0

def addString (s : Script) (entry : StringEntry) : Script :=
  { s with strings := s.strings ++ [entry] }

def addFunction (s : Script) (f : FunctionEntry) : Script :=
  { s with functions := s.functions ++ [f] }

def dropString (s : Script) : Script := { s with strings := s.strings.dropLast }

def dropFunction (s : Script) : Script := { s with functions := s.functions.dropLast }

end Script

end NovelScript
