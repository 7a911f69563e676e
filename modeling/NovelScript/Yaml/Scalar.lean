import NovelScript.Yaml.Resolution

/-!
Writing a text as a YAML scalar, as the value of a key. A text of several lines is written as a
literal block; a text that could be taken for something else stands in single quotes; other texts
are plain where YAML allows it. A text with special characters stands in double quotes.
-/

namespace NovelScript.Yaml

def isBreak (c : Char) : Bool :=
  c = '\n' || c = '\r' || c = '\x85' || c = '\u2028' || c = '\u2029'

def isBlankOrBreak (c : Char) : Bool := c = ' ' || c = '\t' || c = '\x00' || isBreak c

def isPrintable (c : Char) : Bool :=
  let n := c.toNat
  n = 0x0a || (0x20 ≤ n && n ≤ 0x7e) || (0xa0 ≤ n && n ≤ 0xfffd && n ≠ 0xfeff) || 0x10000 ≤ n

def isIndicator (c : Char) : Bool := "#,[]\x7b\x7d&*!|>\x27\"%@\x60".toList.contains c

def hasNeighbours (first second : Char → Bool) (t : Text) : Bool :=
  (t.zip t.tail).any fun (a, b) => first a && second b

/-- Whether a colon before a blank, or a comment sign behind one, stands in a text that comes after
`previous`. -/
def hasInnerIndicator (previous : Char) : Text → Bool
  | [] => false
  | c :: rest =>
    (c = ':' && rest.head?.all isBlankOrBreak) || (c = '#' && isBlankOrBreak previous) ||
      hasInnerIndicator c rest

def hasIndicator (t : Text) : Bool :=
  "---".toList.isPrefixOf t || "...".toList.isPrefixOf t ||
    match t with
    | [] => false
    | c :: rest =>
      isIndicator c || ((c = '?' || c = ':' || c = '-') && rest.head?.all isBlankOrBreak) ||
        hasInnerIndicator c rest

/-- Whether a text can only be written in double quotes. -/
def isSpecial (t : Text) : Bool :=
  !t.all isPrintable || hasNeighbours (· = ' ') isBreak t

inductive Style
  | plain
  | singleQuoted
  | doubleQuoted
  | literal
  deriving DecidableEq, Repr

def styleOf (t : Text) : Style :=
  if t.contains '\n' then
    if isSpecial t || t.getLast? = some ' ' then .doubleQuoted else .literal
  else if isSpecial t || hasNeighbours isBreak (· = ' ') t then .doubleQuoted
  else if isAmbiguous t || hasIndicator t || t.any isBreak || t.head? = some ' ' ||
      t.getLast? = some ' ' then .singleQuoted
  else .plain

def blanks (indent : Nat) : Text := List.replicate indent ' '

/-- The characters of a literal block; `fresh` says whether a line begins. -/
def literalBody (indent : Nat) : (fresh : Bool) → Text → Text
  | _, [] => []
  | fresh, c :: rest =>
    if isBreak c then c :: literalBody indent true rest
    else (if fresh then blanks indent else []) ++ c :: literalBody indent false rest

/-- The marks behind the bar of a literal block: its indentation if that cannot be seen, and what
becomes of the line breaks at the end. -/
def literalHints (t : Text) : Text :=
  let front := if t.head?.any fun c => c = ' ' || isBreak c then ['2'] else []
  let back := match t.reverse with
    | [] => ['-']
    | c :: before =>
      if !isBreak c then ['-']
      else if before.head?.all isBreak then ['+'] else []
  front ++ back

/-- The characters inside single quotes; `fresh` says whether a line begins. -/
def singleBody (indent : Nat) : (fresh : Bool) → Text → Text
  | fresh, [] => if fresh then blanks indent else []
  | fresh, c :: rest =>
    if isBreak c then c :: singleBody indent true rest
    else
      (if fresh then blanks indent else []) ++ (if c = '\x27' then ['\x27', '\x27'] else [c]) ++
        singleBody indent false rest

def escapeLetters : List (Nat × Char) :=
  [(0x00, '0'), (0x07, 'a'), (0x08, 'b'), (0x09, 't'), (0x0a, 'n'), (0x0b, 'v'), (0x0c, 'f'),
    (0x0d, 'r'), (0x1b, 'e'), (0x22, '"'), (0x5c, '\\'), (0x85, 'N'), (0xa0, '_'), (0x2028, 'L'),
    (0x2029, 'P')]

def doubleChar (c : Char) : Text :=
  let n := c.toNat
  if isPrintable c && !isBreak c && c ≠ '"' && c ≠ '\\' then [c]
  else match escapeLetters.lookup n with
    | some letter => ['\\', letter]
    | none =>
      if n ≤ 0xff then '\\' :: 'x' :: Numeral.upperHex 2 n
      else if n ≤ 0xffff then '\\' :: 'u' :: Numeral.upperHex 4 n
      else '\\' :: 'U' :: Numeral.upperHex 8 n

/-- Writes a scalar behind its key; further lines are indented by `indent`. -/
def writeScalar (indent : Nat) (t : Text) : Text :=
  match styleOf t with
  | .plain => t
  | .singleQuoted => '\x27' :: singleBody indent false t ++ ['\x27']
  | .doubleQuoted => '"' :: t.flatMap doubleChar ++ ['"']
  | .literal => '|' :: literalHints t ++ '\n' :: literalBody indent true t

/-- Writes an entry of a mapping. A block that ends in a line break needs no further one. -/
def writeEntry (indent : Nat) (key : String) (value : Text) : Text :=
  let written := writeScalar (indent + 2) value
  key.toList ++ ": ".toList ++ written ++
    if styleOf value = .literal ∧ written.getLast?.any isBreak then [] else ['\n']

end NovelScript.Yaml
