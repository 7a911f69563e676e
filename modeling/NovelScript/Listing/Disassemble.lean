import NovelScript.Listing.Block
import NovelScript.Source.Literal

/-!
Writing a script as source text. What the text says about speakers stands in comments.
-/

namespace NovelScript.Listing

def preamble (cs : Charset) : List Text :=
  ["; ASB script disassembly.",
    s!"; String literals were decoded from {cs.name} and are written here as UTF-8;",
    s!"; the assembler encodes them back to {cs.name}. \\xNN is a raw byte."].map String.toList

/-- Whether a name can stand without quotes: a text of visible characters without comment sign that
does not begin with a quote and stands for exactly these bytes. -/
def isBareName (cs : Charset) (name : Bytes) (t : Text) : Bool :=
  !t.isEmpty && cs.reproduces t name && t.head? != some '"' &&
    !t.any fun c => isSpace c || isControl c || c = ';'

def scriptName (cs : Charset) (name : Bytes) : Text :=
  match (cs.decode? name).filter (isBareName cs name) with
  | some t => t
  | none => Literal.quote cs name

/-- Writes the definition of a string, with its speaker as a comment. -/
def stringLine (cs : Charset) (symbols : Symbols) (speakers : List (UInt32 × Text))
    (s : StringEntry) : Text :=
  let symbol := (symbols.string? s.pos).getD (stringSymbol s.pos)
  '\t' :: symbol ++ " = ".toList ++ Literal.quote cs s.bytes ++
    match speakers.lookup s.pos with
    | some speaker => "\t; ".toList ++ speaker
    | none => []

def stringLines (script : Script) (cs : Charset) (cast : Cast) (symbols : Symbols) : List Text :=
  if script.strings = [] then []
  else
    let speakers := Speaker.infer script cast
    [[], "strings".toList] ++ script.strings.map (stringLine cs symbols speakers) ++
      ["endstrings".toList]

def functionBlocks (script : Script) (symbols : Symbols) :
    List FunctionEntry → Except Fault (List Text)
  | [] => .ok []
  | f :: fs => do
    let block ← functionLines script symbols f
    let blocks ← functionBlocks script symbols fs
    return [] :: block ++ blocks

def lines (script : Script) (cs : Charset) (cast : Cast) : Except Fault (List Text) := do
  let symbols := Symbols.build script cs
  let blocks ← functionBlocks script symbols script.functions
  return preamble cs ++ ("script ".toList ++ scriptName cs script.name) ::
    stringLines script cs cast symbols ++ blocks

end NovelScript.Listing

namespace NovelScript

def disassemble (script : Script) (cs : Charset) (cast : Cast) : Except Fault Text :=
  (Listing.lines script cs cast).map Text.unlines

end NovelScript
