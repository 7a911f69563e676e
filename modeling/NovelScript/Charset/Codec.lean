import NovelScript.Charset
import NovelScript.Charset.ShiftJis
import NovelScript.Charset.Gbk
import NovelScript.Charset.Utf8
import NovelScript.Charset.Utf16

/-!
Encoding and decoding in the charsets of a script. Both work character by character: an encoding is
the concatenation of the encodings of the characters (`encode_append`), and decoding is a walk of
single steps.
-/

namespace NovelScript.Charset

def encodeChar : Charset → Char → Option Bytes
  | shiftJis, c => ShiftJis.encodeChar c
  | gbk, c => Gbk.encodeChar c
  | utf8, c => some (Utf8.encodeChar c)

def encode (cs : Charset) : Text → Option Bytes
  | [] => some []
  | c :: rest =>
    match cs.encodeChar c, cs.encode rest with
    | some front, some back => some (front ++ back)
    | _, _ => none

def step : Charset → UInt8 → Bytes → Decoded
  | shiftJis => ShiftJis.step
  | gbk => Gbk.step
  | utf8 => Utf8.step

/-- Decodes bytes that are well-formed throughout. A byte order mark is a character like others. -/
def decode? (cs : Charset) (bytes : Bytes) : Option Text := (decodeSteps cs.step 0 bytes).mapM id

def reproduces (cs : Charset) (t : Text) (bytes : Bytes) : Bool := cs.encode t == some bytes

/-- The decoding step and the rest of the bytes: a byte order mark at the front decides about the
step, whatever the charset, and is taken off. -/
def announced (cs : Charset) (bytes : Bytes) : (UInt8 → Bytes → Decoded) × Bytes :=
  match bytes with
  | 0xef :: 0xbb :: 0xbf :: rest => (Utf8.step, rest)
  | 0xfe :: 0xff :: rest => (Utf16.step .bigEndian, rest)
  | 0xff :: 0xfe :: rest => (Utf16.step .littleEndian, rest)
  | _ => (cs.step, bytes)

def announcedChars (cs : Charset) (bytes : Bytes) : List (Option Char) :=
  let (step, rest) := cs.announced bytes
  decodeSteps step 0 rest

def decodeLossy (cs : Charset) (bytes : Bytes) : Text :=
  (cs.announcedChars bytes).map (·.getD '\ufffd')

def isLossy (cs : Charset) (bytes : Bytes) : Bool := (cs.announcedChars bytes).any (·.isNone)

theorem encode_append (cs : Charset) (s t : Text) :
    cs.encode (s ++ t) =
      (cs.encode s).bind fun front => (cs.encode t).map fun back => front ++ back := by
  induction s with
  | nil => simp [encode]
  | cons c s ih =>
    simp only [List.cons_append, encode, ih]
    cases cs.encodeChar c <;> cases cs.encode s <;> cases cs.encode t <;> simp

end NovelScript.Charset
