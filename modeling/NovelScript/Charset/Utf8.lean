import NovelScript.Charset.Decoded

/-!
UTF-8. A malformed sequence covers the longest beginning of a well-formed one, so a byte that cannot
continue a sequence is looked at again on its own.
-/

namespace NovelScript.Charset.Utf8

def isContinuation (b : UInt8) : Bool := 0x80 ≤ b && b ≤ 0xbf

/-- The bytes that may stand second after `lead`: fewer where the sequence would be longer than
needed, a surrogate, or beyond the last code point. -/
def isSecond (lead b : UInt8) : Bool :=
  (if lead = 0xe0 then 0xa0 else if lead = 0xf0 then 0x90 else 0x80) ≤ b &&
    b ≤ (if lead = 0xed then 0x9f else if lead = 0xf4 then 0x8f else 0xbf)

def extend (n : Nat) (b : UInt8) : Nat := n * 64 + (b.toNat - 0x80)

/-- Decodes the last `count` bytes of a sequence, `taken` of which follow the first one already. -/
def continueStep (taken n : Nat) : (count : Nat) → Bytes → Decoded
  | 0, _ => .code n taken
  | _ + 1, [] => .malformed taken
  | count + 1, b :: rest =>
    if isContinuation b then continueStep (taken + 1) (extend n b) count rest else .malformed taken

/-- Decodes a sequence of a lead byte, which holds the bits `n`, and `count + 1` bytes more. -/
def sequenceStep (lead : UInt8) (n count : Nat) : Bytes → Decoded
  | [] => .malformed 0
  | b :: rest =>
    if isSecond lead b then continueStep 1 (extend n b) count rest else .malformed 0

def step (b : UInt8) (rest : Bytes) : Decoded :=
  if b < 0x80 then .code b.toNat 0
  else if 0xc2 ≤ b && b ≤ 0xdf then sequenceStep b (b.toNat - 0xc0) 0 rest
  else if 0xe0 ≤ b && b ≤ 0xef then sequenceStep b (b.toNat - 0xe0) 1 rest
  else if 0xf0 ≤ b && b ≤ 0xf4 then sequenceStep b (b.toNat - 0xf0) 2 rest
  else .malformed 0

def encodeChar (c : Char) : Bytes := String.utf8EncodeChar c

def encode (t : Text) : Bytes := t.flatMap encodeChar

def decode? (bytes : Bytes) : Option Text := (decodeSteps step 0 bytes).mapM id

end NovelScript.Charset.Utf8
