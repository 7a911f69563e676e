import NovelScript.Charset.Decoded
import NovelScript.Charset.GbCharacters

/-!
GBK. Bytes are read as GB 18030: ASCII and the euro sign in one byte, the rows of `gbTable` in two,
all other characters in four. Text is written with one or two bytes only.
-/

namespace NovelScript.Charset.Gbk

def isTrail (b : UInt8) : Bool := (0x40 ≤ b && b ≤ 0x7e) || (0x80 ≤ b && b ≤ 0xfe)

/-- The bytes that are second and fourth of four. -/
def isDigit (b : UInt8) : Bool := 0x30 ≤ b && b ≤ 0x39

/-- The bytes that begin a character of two or four bytes, and are third of four. -/
def isLead (b : UInt8) : Bool := 0x81 ≤ b && b ≤ 0xfe

def pointer (lead trail : UInt8) : Nat :=
  (lead.toNat - 0x81) * 190 + (trail.toNat - if trail < 0x7f then 0x40 else 0x41)

def pointerBytes (p : Nat) : Bytes :=
  let trail := p % 190
  [UInt8.ofNat (p / 190 + 0x81), UInt8.ofNat (trail + if trail < 0x3f then 0x40 else 0x41)]

def widePointer (b₁ b₂ b₃ b₄ : UInt8) : Nat :=
  (((b₁.toNat - 0x81) * 10 + (b₂.toNat - 0x30)) * 126 + (b₃.toNat - 0x81)) * 10 +
    (b₄.toNat - 0x30)

/-- The character with a four-byte pointer: one of the ranges up to 39419, and the code points from
2^16 on from pointer 189000. -/
def wideChar? (p : Nat) : Option Char :=
  if p ≤ 39419 then
    (gbRanges.find? (·.1 ≤ p)).map fun (first, start) => Char.ofNat (start + (p - first))
  else if 189000 ≤ p ∧ p ≤ 1237575 then some (Char.ofNat (0x10000 + (p - 189000)))
  else none

/-- Decodes the bytes after a lead byte and a digit. Where the third or fourth byte is out of place,
only the lead byte is covered; where the input ends, all of it is. -/
def wideStep (b₁ b₂ : UInt8) : Bytes → Decoded
  | [] => .malformed 1
  | b₃ :: rest =>
    if isLead b₃ then
      match rest with
      | [] => .malformed 2
      | b₄ :: _ =>
        if isDigit b₄ then .ofTable (wideChar? (widePointer b₁ b₂ b₃ b₄)) 3 3 else .malformed 0
    else .malformed 0

/-- Decodes one character. A second byte that cannot be one is covered too, unless it is ASCII. -/
def step (b : UInt8) (rest : Bytes) : Decoded :=
  if b < 0x80 then .code b.toNat 0
  else if b = 0x80 then .char '€' 0
  else if isLead b then
    match rest with
    | [] => .malformed 0
    | t :: rest =>
      if isDigit t then wideStep b t rest
      else
        let otherwise := if t < 0x80 then 0 else 1
        if isTrail t then .ofTable (gbTable.char? (pointer b t)) 1 otherwise
        else .malformed otherwise
  else .malformed 0

/-- Private characters that stood in the table before these positions had characters of their own.
They are still written with the bytes of that position. -/
def formerPrivate? (n : Nat) : Option Bytes :=
  if 0xe78d ≤ n ∧ n ≤ 0xe793 then some [0xa6, UInt8.ofNat (n - 0xe78d + 0xd9)]
  else [(0xe794, 0xa6, 0xec), (0xe795, 0xa6, 0xed), (0xe796, 0xa6, 0xf3), (0xe81e, 0xfe, 0x59),
    (0xe826, 0xfe, 0x61), (0xe82b, 0xfe, 0x66), (0xe82c, 0xfe, 0x67), (0xe832, 0xfe, 0x6d),
    (0xe843, 0xfe, 0x7e), (0xe854, 0xfe, 0x90), (0xe864, 0xfe, 0xa0)].findSome?
      fun (code, lead, trail) => if n = code then some [lead, trail] else none

def encodeChar (c : Char) : Option Bytes :=
  let n := c.toNat
  if n < 0x80 then some [UInt8.ofNat n]
  else if c = '€' then some [0x80]
  else match formerPrivate? n with
    | some bytes => some bytes
    | none => (gbTable.pointer? c).map pointerBytes

end NovelScript.Charset.Gbk
