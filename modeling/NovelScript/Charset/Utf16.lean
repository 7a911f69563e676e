import NovelScript.Charset.Decoded

/-!
UTF-16 of either byte order. It is read only where a byte order mark announces it, and never
written.
-/

namespace NovelScript.Charset.Utf16

inductive ByteOrder
  | littleEndian
  | bigEndian
  deriving DecidableEq, Repr

def ByteOrder.unit : ByteOrder → UInt8 → UInt8 → Nat
  | littleEndian, a, b => a.toNat + 256 * b.toNat
  | bigEndian, a, b => a.toNat * 256 + b.toNat

def isHigh (u : Nat) : Bool := 0xd800 ≤ u && u ≤ 0xdbff

def isLow (u : Nat) : Bool := 0xdc00 ≤ u && u ≤ 0xdfff

/-- Decodes one character. A surrogate without its partner is malformed, and so is all that the
input is too short for. -/
def step (order : ByteOrder) (a : UInt8) : Bytes → Decoded
  | [] => .malformed 0
  | b :: rest =>
    let u := order.unit a b
    if isHigh u then
      match rest with
      | c :: d :: _ =>
        let v := order.unit c d
        if isLow v then .code (0x10000 + (u - 0xd800) * 0x400 + (v - 0xdc00)) 3 else .malformed 1
      | short => .malformed (1 + short.length)
    else if isLow u then .malformed 1
    else .code u 1

end NovelScript.Charset.Utf16
