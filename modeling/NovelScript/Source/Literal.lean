import NovelScript.Charset.Codec
import NovelScript.Fault

/-!
Quoted literals. A literal stands for pieces of text, to be encoded in the script's charset, and for
raw bytes, written `\xNN`. Bytes are quoted as text as far as the charset writes that text back with
the very same bytes, and as raw bytes elsewhere.
-/

namespace NovelScript

inductive Piece
  | text (t : Text)
  | byte (b : UInt8)
  deriving DecidableEq, Repr

namespace Literal

/-- Puts a character in front of pieces, as part of the first one if that is text. -/
def consChar (c : Char) : List Piece → List Piece
  | .text t :: rest => .text (c :: t) :: rest
  | rest => .text [c] :: rest

def unescape? (letter : Char) : Option Char :=
  if letter = 'n' then some '\n'
  else if letter = 'r' then some '\r'
  else if letter = 't' then some '\t'
  else if letter = '"' ∨ letter = '\x27' ∨ letter = '\\' then some letter
  else none

def hexByte? (high low : Char) : Option UInt8 :=
  match Numeral.hexDigit? high, Numeral.hexDigit? low with
  | some h, some l => some (UInt8.ofNat (h * 16 + l))
  | _, _ => none

/-- Reads a literal behind its opening quote. Only white space may follow the closing one. -/
def body : Text → Except SyntaxCause (List Piece)
  | [] => .error .unterminatedLiteral
  | c :: rest =>
    if c = '"' then
      if Text.trim rest = [] then .ok [] else .error (.afterLiteral (Text.trim rest))
    else if c = '\\' then
      match rest with
      | [] => .error .unterminatedLiteral
      | letter :: rest =>
        if letter = 'x' then
          match rest with
          | high :: low :: rest =>
            match hexByte? high low with
            | some b => (body rest).map (.byte b :: ·)
            | none => .error .missingHexDigits
          | _ => .error .missingHexDigits
        else
          match unescape? letter with
          | some c => (body rest).map (consChar c)
          | none => .error (.unknownEscape letter)
    else (body rest).map (consChar c)

def parse : Text → Except SyntaxCause (List Piece)
  | '"' :: rest => body rest
  | other => .error (.notQuoted other)

/-- The bytes of pieces, if the charset has all their characters. -/
def encode (cs : Charset) : List Piece → Option Bytes
  | [] => some []
  | .byte b :: rest => (encode cs rest).map (b :: ·)
  | .text t :: rest =>
    match cs.encode t, encode cs rest with
    | some front, some back => some (front ++ back)
    | _, _ => none

/-! ## Quoting bytes -/

/-- The character in front of bytes, and how many bytes after the first it covers, if the charset
writes it back with the very same bytes. -/
def exactChar? (cs : Charset) (b : UInt8) (rest : Bytes) : Option (Char × Nat) :=
  let d := cs.step b rest
  d.char?.bind fun c =>
    if cs.encodeChar c = some (b :: rest.take d.more) then some (c, d.more) else none

/-- The control characters that have escape letters. -/
def isLayout (c : Char) : Bool := c = '\n' ∨ c = '\r' ∨ c = '\t'

def escapeChar (c : Char) : Text :=
  if c = '\\' then ['\\', '\\']
  else if c = '"' then ['\\', '"']
  else if c = '\n' then ['\\', 'n']
  else if c = '\r' then ['\\', 'r']
  else if c = '\t' then ['\\', 't']
  else [c]

def escapeByte (b : UInt8) : Text := '\\' :: 'x' :: Numeral.hex 2 b.toNat

/-- The inside of the literal for bytes, after `skip` bytes that belong to the character before. -/
def escapeFrom (cs : Charset) : (skip : Nat) → Bytes → Text
  | _, [] => []
  | skip + 1, _ :: rest => escapeFrom cs skip rest
  | 0, b :: rest =>
    match exactChar? cs b rest with
    | some (c, more) =>
      if isControl c && !isLayout c then escapeByte b ++ escapeFrom cs 0 rest
      else escapeChar c ++ escapeFrom cs more rest
    | none => escapeByte b ++ escapeFrom cs 0 rest

/-- The inside of the literal for bytes. Control characters are written as raw bytes, apart from
those with an escape letter. -/
def escape (cs : Charset) (bytes : Bytes) : Text := escapeFrom cs 0 bytes

def quote (cs : Charset) (bytes : Bytes) : Text := '"' :: escape cs bytes ++ ['"']

end Literal

end NovelScript
