import NovelScript.Script.Header

/-!
Reading a container. The header says where the function table, the code section and the string
section are; they may lie anywhere inside the data and may overlap. Nothing else of the data
matters.
-/

namespace NovelScript.Container

/-- Refuses a region that does not end inside `size` bytes; `position` is where it was declared. -/
def checkRegion (position : Nat) (region : Region) (start length : UInt32) (size : Nat) :
    Except Fault Unit :=
  let stop := start.toNat + length.toNat
  if size < stop then .error (.decode position (.outside region start.toNat stop size))
  else .ok ()

def slice (data : Bytes) (start length : UInt32) : Bytes :=
  (data.drop start.toNat).take length.toNat

/-- Splits a string section at its zero bytes. `pos` is the offset of what comes next, `start` the
offset of the string in progress, whose bytes so far are `taken` in reverse, and `base` the absolute
position of the section. -/
def splitStrings (base start pos : Nat) (taken : Bytes) : Bytes → Except Fault (List StringEntry)
  | [] =>
    if pos = start then .ok [] else .error (.decode (base + start) .unterminatedString)
  | b :: rest =>
    if b = 0 then
      (splitStrings base (pos + 1) (pos + 1) [] rest).map
        fun strings => ⟨UInt32.ofNat start, taken.reverse⟩ :: strings
    else splitStrings base start (pos + 1) (b :: taken) rest

def functionOfRecord (strings : List StringEntry) (code : Bytes) (position : Nat) (r : Record) :
    Except Fault FunctionEntry := do
  checkRegion (position + 0x0c) .functionCode r.pos r.size code.length
  match Script.entryAt? strings r.name with
  | none => throw (.decode position (.nameStartsNoString r.name))
  | some _ =>
    return { name := r.name, pos := r.pos, params := r.params, locals := r.locals,
             code := slice code r.pos r.size }

def readFunctions (strings : List StringEntry) (code : Bytes) :
    (count : Nat) → Read (List FunctionEntry)
  | 0 => return []
  | count + 1 => do
    let position := (← get).pos
    let r ← readRecord
    let f ← Read.ofExcept (functionOfRecord strings code position r)
    let fs ← readFunctions strings code count
    return f :: fs

def trimName (field : Bytes) : Bytes := field.takeWhile (· ≠ 0)

def readScript (data : Bytes) (h : Header) : Read Script := do
  let tableSize := h.functionCount.toNat * recordSize
  if UInt32.size ≤ tableSize then throw (.decode 0x28 (.functionCountOverflow h.functionCount))
  Read.ofExcept do
    checkRegion 0x24 .functionTable h.functionsStart (UInt32.ofNat tableSize) data.length
    checkRegion 0x2c .codeSection h.codeStart h.codeSize data.length
    checkRegion 0x34 .stringSection h.stringsStart h.stringsSize data.length
  let strings ← Read.ofExcept <|
    splitStrings h.stringsStart.toNat 0 0 [] (slice data h.stringsStart h.stringsSize)
  Read.seek h.functionsStart.toNat
  let functions ← readFunctions strings (slice data h.codeStart h.codeSize) h.functionCount.toNat
  return { name := trimName h.name, strings, functions }

end NovelScript.Container

namespace NovelScript.Script

def load (data : Bytes) : Except Fault Script :=
  (Read.runFrom (Container.readHeader >>= Container.readScript data) { data }).1

end NovelScript.Script
