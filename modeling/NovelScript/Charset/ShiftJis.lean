import NovelScript.Charset.Decoded
import NovelScript.Charset.JisCharacters

/-!
Shift-JIS: ASCII and half-width katakana in one byte, the rows of `jisTable` and a private area in
two. Two rows share a lead byte, so a lead byte spans 188 pointers.
-/

namespace NovelScript.Charset.ShiftJis

def isLead (b : UInt8) : Bool := (0x81 ≤ b && b ≤ 0x9f) || (0xe0 ≤ b && b ≤ 0xfc)

def isTrail (b : UInt8) : Bool := (0x40 ≤ b && b ≤ 0x7e) || (0x80 ≤ b && b ≤ 0xfc)

def pointer (lead trail : UInt8) : Nat :=
  (lead.toNat - if lead < 0xa0 then 0x81 else 0xc1) * 188 +
    (trail.toNat - if trail < 0x7f then 0x40 else 0x41)

def pointerBytes (p : Nat) : Bytes :=
  let lead := p / 188
  let trail := p % 188
  [UInt8.ofNat (lead + if lead < 0x1f then 0x81 else 0xc1),
    UInt8.ofNat (trail + if trail < 0x3f then 0x40 else 0x41)]

/-- The character with a pointer. The pointers of twenty rows are private characters. -/
def charAt? (p : Nat) : Option Char :=
  if 8836 ≤ p ∧ p ≤ 10715 then some (Char.ofNat (0xe000 + (p - 8836))) else jisTable.char? p

/-- Decodes one character. A trail byte that cannot be one is covered too, unless it is ASCII. -/
def step (b : UInt8) (rest : Bytes) : Decoded :=
  if b ≤ 0x80 then .code b.toNat 0
  else if 0xa1 ≤ b && b ≤ 0xdf then .code (0xff61 + (b.toNat - 0xa1)) 0
  else if isLead b then
    match rest with
    | [] => .malformed 0
    | t :: _ =>
      let otherwise := if t < 0x80 then 0 else 1
      if isTrail t then .ofTable (charAt? (pointer b t)) 1 otherwise else .malformed otherwise
  else .malformed 0

/-- Encodes one character. The yen sign and the overline are written as the ASCII characters in
their place, and the minus sign as the full-width one; private characters are not written. -/
def encodeChar (c : Char) : Option Bytes :=
  let n := c.toNat
  if n ≤ 0x80 then some [UInt8.ofNat n]
  else if n = 0xa5 then some [0x5c]
  else if n = 0x203e then some [0x7e]
  else if 0xff61 ≤ n ∧ n ≤ 0xff9f then some [UInt8.ofNat (n - 0xff61 + 0xa1)]
  else (jisTable.pointer? (if n = 0x2212 then '\uff0d' else c)).map pointerBytes

end NovelScript.Charset.ShiftJis
