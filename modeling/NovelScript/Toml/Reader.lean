import NovelScript.Text.Numeral
import NovelScript.Toml.Value

/-!
Reading TOML. Every reader takes a part off the front of a text and returns it with the rest.
-/

namespace NovelScript.Toml

abbrev Reader (α : Type) := Text → Option (α × Text)

/-! ## Characters -/

/-- The characters that may stand in comments, and in strings apart from their quotes. -/
def isTextChar (c : Char) : Bool :=
  let n := c.toNat
  n = 0x09 || (0x20 ≤ n && n ≠ 0x7f)

def isBareKeyChar (c : Char) : Bool :=
  ('a' ≤ c && c ≤ 'z') || ('A' ≤ c && c ≤ 'Z') || ('0' ≤ c && c ≤ '9') || c = '_' || c = '-'

def skipBlanks (t : Text) : Text := t.dropWhile isBlank

def lineBreak? : Text → Option Text
  | '\n' :: rest => some rest
  | '\r' :: '\n' :: rest => some rest
  | _ => none

def skipComment : Text → Text
  | '#' :: rest => rest.dropWhile isTextChar
  | t => t

def skipTrivia : (inComment : Bool) → Text → Text
  | _, [] => []
  | true, c :: rest =>
    if isTextChar c then skipTrivia true rest
    else if c = '\n' ∨ (c = '\r' ∧ rest.head? = some '\n') then skipTrivia false rest
    else c :: rest
  | false, c :: rest =>
    if isBlank c ∨ c = '\n' ∨ (c = '\r' ∧ rest.head? = some '\n') then skipTrivia false rest
    else if c = '#' then skipTrivia true rest
    else c :: rest

/-! ## Strings -/

def unescape? (letter : Char) : Option Char :=
  [('b', '\x08'), ('t', '\t'), ('n', '\n'), ('f', '\x0c'), ('r', '\r'), ('"', '"'),
    ('\\', '\\')].lookup letter

def codePoint? (digits : Text) : Option Char :=
  let n := Numeral.value 16 digits
  if digits.all (fun c => (Numeral.hexDigit? c).isSome) ∧ n.isValidChar then some (Char.ofNat n)
  else none

/-- The character of an escape sequence, given the text behind its backslash, and how many
characters of that text belong to it. -/
def escape? : Text → Option (Char × Nat)
  | [] => none
  | letter :: rest =>
    if letter = 'u' ∨ letter = 'U' then
      let width := if letter = 'u' then 4 else 8
      let digits := rest.take width
      if digits.length = width then (codePoint? digits).map fun c => (c, width + 1) else none
    else (unescape? letter).map fun c => (c, 1)

def consChar (c : Char) (read : Text × Text) : Text × Text := (c :: read.1, read.2)

def startsLineBreak (t : Text) : Bool := (lineBreak? t).isSome

/-- The rest after closing quotes, given the text behind the first of them. In strings of several
lines three quotes close, and up to two in front of them belong to the string; `none` means that the
string goes on. -/
def closing? (multi : Bool) (quote : Char) (behind : Text) : Option (Option (Text × Text)) :=
  if ¬ multi then some (some ([], behind))
  else if behind.take 2 = [quote, quote] then
    let extra := (behind.drop 2).takeWhile (· = quote)
    some (if extra.length ≤ 2 then some (extra, behind.drop (2 + extra.length)) else none)
  else none

/-- What the characters of a string between double quotes that come next are. -/
inductive BasicMode
  | plain
  /-- Characters of an escape sequence. -/
  | covered (count : Nat)
  /-- White space behind an escaped line break, which is left out. -/
  | skipped
  deriving DecidableEq, Repr

/-- Reads the inside and the closing quotes of a string between double quotes; `multi` says whether
it may have several lines, and so three quotes at its ends. -/
def basicBody (multi : Bool) : BasicMode → Reader Text
  | _, [] => none
  | .covered (count + 1), _ :: rest => basicBody multi (.covered count) rest
  | mode, c :: rest =>
    let continuesBreak := c = '\r' ∧ rest.head? = some '\n'
    if mode = .skipped ∧ (isBlank c ∨ c = '\n' ∨ continuesBreak) then basicBody multi .skipped rest
    else if c = '"' then
      match closing? multi '"' rest with
      | some closed => closed
      | none => (basicBody multi .plain rest).map (consChar c)
    else if c = '\\' then
      match escape? rest with
      | some (code, count) => (basicBody multi (.covered count) rest).map (consChar code)
      | none =>
        if multi ∧ startsLineBreak (skipBlanks rest) then basicBody multi .skipped rest else none
    else if isTextChar c ∨ (multi ∧ c = '\n') then (basicBody multi .plain rest).map (consChar c)
    else if multi ∧ continuesBreak then basicBody multi .plain rest
    else none

/-- Reads the inside and the closing quotes of a string between single quotes, in which nothing is
escaped. -/
def literalBody (multi : Bool) : Reader Text
  | [] => none
  | c :: rest =>
    if c = '\x27' then
      match closing? multi '\x27' rest with
      | some closed => closed
      | none => (literalBody multi rest).map (consChar c)
    else if isTextChar c ∨ (multi ∧ c = '\n') then (literalBody multi rest).map (consChar c)
    else if multi ∧ c = '\r' ∧ rest.head? = some '\n' then literalBody multi rest
    else none

def dropLineBreak (t : Text) : Text := (lineBreak? t).getD t

def shortString : Reader Text
  | '"' :: rest => basicBody false .plain rest
  | '\x27' :: rest => literalBody false rest
  | _ => none

/-- Reads a string. A line break right behind three opening quotes is left out. -/
def string : Reader Text
  | '"' :: '"' :: '"' :: rest => basicBody true .plain (dropLineBreak rest)
  | '\x27' :: '\x27' :: '\x27' :: rest => literalBody true (dropLineBreak rest)
  | t => shortString t

/-! ## Keys and values -/

def simpleKey : Reader Text := fun t =>
  match shortString t with
  | some read => some read
  | none =>
    let key := t.takeWhile isBareKeyChar
    if key = [] then none else some (key, t.drop key.length)

/-- Reads the parts of a key, at most `limit`. Blanks may stand around the dots and the key. -/
def keyParts : (limit : Nat) → Reader (List Text)
  | 0, _ => none
  | limit + 1, t => do
    let (part, rest) ← simpleKey (skipBlanks t)
    match skipBlanks rest with
    | '.' :: rest =>
      let (parts, rest) ← keyParts limit rest
      return (part :: parts, rest)
    | rest => return ([part], rest)

def key : Reader (List Text) := fun t => keyParts t.length t

/-- Reads `key = value` with a reader for values, and returns the key's parts. -/
def assignment (value : Reader Value) : Reader (List Text × Value) := fun t => do
  let (parts, rest) ← key t
  match rest with
  | '=' :: rest =>
    let (v, rest) ← value (skipBlanks rest)
    return ((parts, v), rest)
  | _ => none

def arrayItems (value : Reader Value) : (limit : Nat) → Reader (List Value)
  | 0, _ => none
  | limit + 1, t =>
    match skipTrivia false t with
    | ']' :: rest => some ([], rest)
    | t => do
      let (v, rest) ← value t
      match skipTrivia false rest with
      | ',' :: rest =>
        let (vs, rest) ← arrayItems value limit rest
        return (v :: vs, rest)
      | ']' :: rest => return ([v], rest)
      | _ => none

def inlineEntries (value : Reader Value) : (limit : Nat) → Entries → Reader Entries
  | 0, _, _ => none
  | limit + 1, entries, t => do
    let ((parts, v), rest) ← assignment value t
    let entries ← entries.addDotted parts.dropLast (parts.getLastD []) v
    match skipBlanks rest with
    | ',' :: rest => inlineEntries value limit entries rest
    | '\x7d' :: rest => return (entries, rest)
    | _ => none

/-- How deep arrays and inline tables may be nested. -/
def maxDepth : Nat := 80

def value : (depth : Nat) → Reader Value
  | 0, _ => none
  | depth + 1, t =>
    match t with
    | '[' :: rest => (arrayItems (value depth) t.length rest).map fun (vs, rest) =>
      (.array vs, rest)
    | '\x7b' :: rest =>
      match skipBlanks rest with
      | '\x7d' :: rest => some (.inline [], rest)
      | rest =>
        (inlineEntries (value depth) t.length [] rest).map fun (es, rest) => (.inline es, rest)
    | t => (string t).map fun (s, rest) => (.text s, rest)

/-! ## Documents -/

structure State where
  root : Entries := []
  /-- The header under which the next key belongs. -/
  header : List Text := []
  deriving Repr

def State.header? (s : State) (t : Text) : Option (State × Text) := do
  let (parts, rest) ← key t
  match rest with
  | ']' :: rest => return (⟨← s.root.openHeader parts, parts⟩, rest)
  | _ => none

/-- Reads what a line holds besides blanks and a comment. -/
def State.expression? (s : State) (t : Text) : Option (State × Text) :=
  match t with
  | [] => some (s, t)
  | '\n' :: _ => some (s, t)
  | '\r' :: _ => some (s, t)
  | '#' :: _ => some (s, t)
  | '[' :: rest => s.header? rest
  | t => do
    let ((parts, v), rest) ← assignment (value maxDepth) t
    let root ← s.root.addUnder s.header parts.dropLast (parts.getLastD []) v
    return ({ s with root }, rest)

def documentLines : (limit : Nat) → State → Text → Option State
  | 0, _, _ => none
  | limit + 1, s, t => do
    let (s, rest) ← s.expression? (skipBlanks t)
    match skipComment (skipBlanks rest) with
    | [] => return s
    | rest =>
      let rest ← lineBreak? rest
      documentLines limit s rest

/-- Reads a document, which may begin with a byte order mark. There is at most one line more than
there are characters. -/
def document (t : Text) : Option Entries :=
  let t := match t with
    | '\ufeff' :: rest => rest
    | t => t
  (documentLines (t.length + 1) {} t).map (·.root)

end NovelScript.Toml
