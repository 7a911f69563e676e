import NovelScript.Bytes.Field
import NovelScript.Fault

/-!
Binary data under construction: fields are put at the end, and a word inside can be replaced later.
A `Write` is an action on such data that may fail, and a failure leaves it behind as it is.
-/

namespace NovelScript

/-- Puts a word in the place of the four bytes at `offset`, which have to exist. -/
def patchWord (bytes : Bytes) (offset : Nat) (value : UInt32) : Except Fault Bytes :=
  if offset + 4 ≤ bytes.length then
    .ok (bytes.take offset ++ wordBytes value ++ bytes.drop (offset + 4))
  else .error (.encode (.patchOutside offset bytes.length))

/-- The zero bytes that are missing from `size` bytes to a multiple of `alignment`. -/
def paddingTo (alignment size : Nat) : Nat :=
  if size % alignment = 0 then 0 else alignment - size % alignment

structure Buffer where
  data : Array UInt8 := #[]
  deriving DecidableEq, Repr, Inhabited

namespace Buffer

def toList (b : Buffer) : Bytes := b.data.toList

def size (b : Buffer) : Nat := b.data.size

def isEmpty (b : Buffer) : Bool := b.data.isEmpty

def put (b : Buffer) (field : Field) : Buffer := ⟨b.data ++ field.encode⟩

def align (b : Buffer) (alignment : Nat) : Buffer :=
  ⟨b.data ++ List.replicate (paddingTo alignment b.size) (0 : UInt8)⟩

def patch (b : Buffer) (offset : Nat) (value : UInt32) : Except Fault Buffer :=
  (patchWord b.toList offset value).map fun bytes => ⟨bytes.toArray⟩

@[simp] theorem toList_put (b : Buffer) (field : Field) :
    (b.put field).toList = b.toList ++ field.encode := by
  simp [put, toList]

@[simp] theorem toList_align (b : Buffer) (alignment : Nat) :
    (b.align alignment).toList = b.toList ++ List.replicate (paddingTo alignment b.size) 0 := by
  simp [align, toList]

@[simp] theorem length_toList (b : Buffer) : b.toList.length = b.size := by
  simp [toList, size]

end Buffer

abbrev Write := ExceptT Fault (StateM Buffer)

namespace Write

def runOn {α : Type} (action : Write α) (b : Buffer) : Except Fault α × Buffer :=
  StateT.run (ExceptT.run action) b

def put (field : Field) : Write Unit := modify (·.put field)

def fields : List Field → Write Unit
  | [] => return ()
  | field :: more => do
    put field
    fields more

def align (alignment : Nat) : Write Unit := modify (·.align alignment)

def bytes (action : Write Unit) : Except Fault Bytes :=
  let (outcome, b) := action.runOn {}
  outcome.map fun _ => b.toList

def patch (offset : Nat) (value : UInt32) : Write Unit := do
  let b ← get
  match b.patch offset value with
  | .ok patched => set patched
  | .error fault => throw fault

end Write

end NovelScript
