import NovelScript.Bytes.Buffer
import NovelScript.Script.Header

/-!
Writing a container: header, function table, code section, zeros up to a multiple of four, and
string section, without gaps. Functions keep their positions, so the code section has zeros where no
function is; strings have to sit one behind the other already.
-/

namespace NovelScript.Script

def checkName (name : Bytes) : Except Fault Unit :=
  if Container.maxNameLength < name.length then
    .error (.encode (.nameTooLong name.length Container.maxNameLength))
  else if 0 ∈ name then .error (.encode .nameContainsNul)
  else .ok ()

/-- The code section from offset `cursor` on, with functions in the order of their positions. -/
def layCode (cursor : Nat) : List FunctionEntry → Except Fault Bytes
  | [] => .ok []
  | f :: fs =>
    if f.pos.toNat < cursor then .error (.encode (.overlappingFunction f.pos cursor))
    else
      (layCode (f.pos.toNat + f.code.length) fs).map
        fun rest => List.replicate (f.pos.toNat - cursor) 0 ++ f.code ++ rest

/-- The functions in the order of their positions; those of one position stay in table order. -/
def codeOrder (functions : List FunctionEntry) : List FunctionEntry :=
  functions.mergeSort fun f g => f.pos ≤ g.pos

def layStrings (cursor : Nat) : List StringEntry → Except Fault Bytes
  | [] => .ok []
  | s :: ss =>
    if s.pos.toNat ≠ cursor then .error (.encode (.misplacedString s.pos cursor))
    else if 0 ∈ s.bytes then .error (.encode (.stringContainsNul s.pos))
    else
      (layStrings (cursor + s.bytes.length + 1) ss).map
        fun rest => (Field.cstr s.bytes).encode ++ rest

def headerFor (s : Script) (code strings : Bytes) : Container.Header :=
  let codeStart := Container.headerSize + s.functions.length * Container.recordSize
  let codeEnd := codeStart + code.length
  let stringsStart := codeEnd + paddingTo Container.stringsAlignment codeEnd
  { name := s.name
    functionsStart := UInt32.ofNat Container.headerSize
    functionCount := UInt32.ofNat s.functions.length
    codeStart := UInt32.ofNat codeStart
    codeSize := wordLength code
    stringsStart := UInt32.ofNat stringsStart
    stringsSize := wordLength strings
    fileSize := UInt32.ofNat (stringsStart + strings.length) }

def write (s : Script) (code strings : Bytes) : Write Unit := do
  Write.fields (s.headerFor code strings).fields
  Write.fields (s.functions.flatMap fun f => (Container.Record.ofFunction f).fields)
  Write.put (.block code)
  Write.align Container.stringsAlignment
  Write.put (.block strings)

def save (s : Script) : Except Fault Bytes := do
  checkName s.name
  let code ← layCode 0 (codeOrder s.functions)
  let strings ← layStrings 0 s.strings
  (s.write code strings).bytes

end NovelScript.Script
