import NovelScript.Bytes

/-!
Typed fields, the units in which binary data is written.
-/

namespace NovelScript

inductive Field
  | u8 (value : UInt8)
  | u16 (value : UInt16)
  | u32 (value : UInt32)
  | u64 (value : UInt64)
  | block (bytes : Bytes)
  | cstr (bytes : Bytes)
  | fixed (bytes : Bytes) (width : Nat)
  deriving DecidableEq, Repr

namespace Field

def padded (bytes : Bytes) (width : Nat) : Bytes :=
  let kept := bytes.take width
  kept ++ List.replicate (width - kept.length) 0

/-- The bytes of a field. Numbers are little-endian, a `cstr` ends in a zero byte. -/
def encode : Field → Bytes
  | u8 value => [value]
  | u16 value => LittleEndian.encode 2 value.toNat
  | u32 value => wordBytes value
  | u64 value => LittleEndian.encode 8 value.toNat
  | block bytes => bytes
  | cstr bytes => bytes ++ [0]
  | fixed bytes width => padded bytes width

@[simp] theorem length_padded (bytes : Bytes) (width : Nat) :
    (padded bytes width).length = width := by
  simp only [padded, List.length_append, List.length_take, List.length_replicate]
  omega

end Field

def encodeFields (fields : List Field) : Bytes := fields.flatMap Field.encode

end NovelScript
