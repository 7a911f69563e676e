import NovelScript.Text

/-!
The lines of source text. A semicolon outside of quotes begins a comment; comments and the white
space around a line do not count, and lines that are empty without them do not either.
-/

namespace NovelScript

/-- A source line without its comment, with its number in the source text from 1 on. -/
structure Line where
  number : Nat
  text : Text
  deriving DecidableEq, Repr

namespace Source

/-- Where a scan for comments is with respect to quotes. -/
inductive Quoting
  | outside
  | inside (quote : Char)
  | escaping (quote : Char)
  deriving DecidableEq, Repr

/-- Goes past a character. A backslash escapes the next character inside quotes only. -/
def Quoting.pass : Quoting → Char → Quoting
  | outside, c => if c = '"' ∨ c = '\x27' then inside c else outside
  | inside quote, c =>
    if c = '\\' then escaping quote else if c = quote then outside else inside quote
  | escaping quote, _ => inside quote

/-- Cuts the comment off, given where the text begins with respect to quotes. -/
def cutComment : Quoting → Text → Text
  | _, [] => []
  | q, c :: rest =>
    if q = .outside ∧ c = ';' then [] else c :: cutComment (q.pass c) rest

def stripComment (line : Text) : Text := cutComment .outside line

/-- The lines that count, given the lines from number `number` on. -/
def numberLines (number : Nat) : List Text → List Line
  | [] => []
  | line :: rest =>
    let text := (stripComment line).trim
    if text = [] then numberLines (number + 1) rest
    else ⟨number, text⟩ :: numberLines (number + 1) rest

/-- The lines of a source text that count. -/
def lines (source : Text) : List Line := numberLines 1 source.lines

/-- Splits `name = value` at the first equal sign. -/
def splitAssignment (line : Text) : Option (Text × Text) :=
  (line.splitAtFirst (· = '=')).map fun (name, value) => (name.trim, value.trim)

end Source

end NovelScript
