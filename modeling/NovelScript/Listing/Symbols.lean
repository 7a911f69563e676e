import NovelScript.Charset.Codec
import NovelScript.Fault
import NovelScript.Script
import NovelScript.Source.Number

/-!
The symbols of a listing. Every string has one symbol: a string that names a function is its own
symbol if its text can be one, and all other symbols are made from positions.
-/

namespace NovelScript.Listing

/-- A name made from an address, in four digits if they are enough and in eight otherwise. -/
def syntheticName (kind : String) (address : UInt32) : Text :=
  let width := if address < 0x10000 then 4 else 8
  kind.toList ++ '_' :: Numeral.hex width address.toNat

def labelName (address : UInt32) : Text := syntheticName "label" address

def stringSymbol (pos : UInt32) : Text := syntheticName "str" pos

/-- The characters that end or change a token of source text. -/
def isPunctuation (c : Char) : Bool := ",;=:\"\x27\\".toList.contains c

/-- The beginnings that are kept for other names. -/
def reservedBeginnings : List String := ["str_", "label_", "local_", "@"]

def isUsable (t : Text) : Bool :=
  !t.isEmpty && !Number.isNumber t &&
    !reservedBeginnings.any (fun front => front.toList.isPrefixOf t) &&
    !t.any fun c => isSpace c || isControl c || isPunctuation c

structure Symbols where
  /-- The symbol of every string, by its position. -/
  strings : List (UInt32 × Text)
  /-- The bytes of all function names. -/
  functionNames : List Bytes
  deriving Repr

namespace Symbols

/-- The text of a string, if it can be a symbol and stands for exactly the bytes of the string. -/
def ownSymbol? (cs : Charset) (entry : StringEntry) : Option Text :=
  (cs.decode? entry.bytes).filter fun t => isUsable t && cs.reproduces t entry.bytes

/-- Adds the symbol of a string that names a function, unless the string has one or the text is
taken already. -/
def addName (cs : Charset) (named : List (UInt32 × Text)) (entry : StringEntry) :
    List (UInt32 × Text) :=
  match ownSymbol? cs entry with
  | none => named
  | some t =>
    if named.any fun (pos, text) => pos = entry.pos || text = t then named
    else (entry.pos, t) :: named

def nameEntries (script : Script) : List StringEntry :=
  script.functions.filterMap fun f => script.stringAt? f.name

/-- Chooses the symbols of a script. Of several strings with one text the first to name a function
gets it. -/
def build (script : Script) (cs : Charset) : Symbols :=
  let entries := nameEntries script
  let named := entries.foldl (addName cs) []
  { strings := script.strings.map fun s => (s.pos, (named.lookup s.pos).getD (stringSymbol s.pos))
    functionNames := entries.map (·.bytes) }

def string? (s : Symbols) (pos : UInt32) : Option Text := s.strings.lookup pos

def function (s : Symbols) (f : FunctionEntry) : Except Fault Text :=
  match s.string? f.name with
  | some t => .ok t
  | none => .error (.decode f.pos.toNat (.nameUnresolved f.name))

end Symbols

end NovelScript.Listing
