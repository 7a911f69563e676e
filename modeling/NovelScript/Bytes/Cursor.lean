import NovelScript.Fault
import NovelScript.Bytes

/-!
Reading binary data from front to back. A `Cursor` is the data with the current position; a `Read`
is an action on it that may fail, and a failure leaves behind the cursor it happened at. Reads that
come up short report the absolute position at which they began.
-/

namespace NovelScript

/-- Data that is being read. The first byte has the absolute position `base`. -/
structure Cursor where
  data : Bytes
  pos : Nat := 0
  base : Nat := 0
  /-- Remembered positions, the latest first. -/
  saved : List Nat := []
  deriving DecidableEq, Repr

abbrev Read := ExceptT Fault (StateM Cursor)

namespace Cursor

def rest (c : Cursor) : Bytes := c.data.drop c.pos

def remaining (c : Cursor) : Nat := c.data.length - c.pos

def atEnd (c : Cursor) : Bool := c.data.length ≤ c.pos

def absolute (c : Cursor) : Nat := c.base + c.pos

end Cursor

def bytesAt? (data : Bytes) (pos count : Nat) : Option Bytes :=
  if pos + count ≤ data.length then some ((data.drop pos).take count) else none

namespace Read

def runFrom {α : Type} (action : Read α) (c : Cursor) : Except Fault α × Cursor :=
  StateT.run (ExceptT.run action) c

def ofExcept {α : Type} (outcome : Except Fault α) : Read α := ExceptT.mk (pure outcome)

/-- Reads `count` bytes, or fails where they are not there and stays. -/
def block (count : Nat) : Read Bytes := do
  let c ← get
  match bytesAt? c.data c.pos count with
  | some bytes =>
    set { c with pos := c.pos + count }
    return bytes
  | none => throw (.decode c.absolute (.truncated count c.remaining))

def u8 : Read UInt8 := return UInt8.ofNat (LittleEndian.decode (← block 1))

def u16 : Read UInt16 := return UInt16.ofNat (LittleEndian.decode (← block 2))

def u32 : Read UInt32 := return wordOfBytes (← block 4)

def u64 : Read UInt64 := return UInt64.ofNat (LittleEndian.decode (← block 8))

def cstr : Read Bytes := do
  let c ← get
  match c.rest.idxOf? 0 with
  | some length =>
    set { c with pos := c.pos + length + 1 }
    return c.rest.take length
  | none => throw (.decode c.absolute .unterminatedString)

def peek (count : Nat) : Read (Option Bytes) := do
  let c ← get
  return bytesAt? c.data c.pos count

/-- Moves to a position, at most to the end. -/
def seek (pos : Nat) : Read Unit := do
  let c ← get
  if c.data.length < pos then throw (.decode (c.base + pos) (.seekPastEnd c.data.length))
  else set { c with pos := pos }

def save : Read Unit := modify fun c => { c with saved := c.pos :: c.saved }

/-- Goes back to the position that was remembered last, and forgets it. Without one, stays. -/
def restore : Read Unit := modify fun c =>
  match c.saved with
  | [] => c
  | pos :: saved => { c with pos, saved }

end Read

end NovelScript
