import NovelScript.Script.Header
import NovelScript.Source.Line
import NovelScript.Source.Literal
import NovelScript.Source.Number

/-!
The lines outside of functions: the script's name, the definitions of strings, and the line that
opens a function.
-/

namespace NovelScript.Declaration

def afterKeyword? (keyword : String) (text : Text) : Option Text :=
  match Text.after? keyword.toList text with
  | some (c :: rest) => if isBlank c then some (c :: rest) else none
  | _ => none

/-- The bytes of a name that is written bare or as a literal. -/
def nameBytes (cs : Charset) (line : Nat) (name : Text) : Except Fault (Option Bytes) :=
  if name.head? = some '"' then
    match Literal.parse name with
    | .ok pieces => .ok (Literal.encode cs pieces)
    | .error cause => .error (.syntactic line cause)
  else .ok (cs.encode name)

def scriptName (cs : Charset) (line : Line) : Except Fault Bytes := do
  let name := ((afterKeyword? "script" line.text).map Text.trim).getD []
  if name = [] then throw (.syntactic line.number (.notScriptHeader line.text))
  match ← nameBytes cs line.number name with
  | none => throw (.semantic line.number (.nameUnencodable name cs))
  | some bytes =>
    if 0 ∈ bytes then throw (.semantic line.number .nameContainsNul)
    if Container.maxNameLength < bytes.length then
      throw (.semantic line.number (.nameTooLong name Container.maxNameLength))
    return bytes

/-- Reads the name and the literal, still as text, of `name = "value"`. -/
def stringDefinition (line : Line) : Except Fault (Text × Text) :=
  match Source.splitAssignment line.text with
  | none => .error (.syntactic line.number (.notAssignment line.text))
  | some (name, value) =>
    if name = [] ∨ name.any isSpace then
      .error (.syntactic line.number (.invalidStringName name))
    else .ok (name, value)

def stringBytes (cs : Charset) (line : Nat) (name value : Text) : Except Fault Bytes :=
  match Literal.parse value with
  | .error cause => .error (.syntactic line cause)
  | .ok pieces =>
    match Literal.encode cs pieces with
    | none => .error (.semantic line (.stringUnencodable name cs))
    | some bytes =>
      if 0 ∈ bytes then .error (.semantic line (.stringContainsNul name)) else .ok bytes

/-- Whether a line opens a function, or seems to. -/
def opensFunction (text : Text) : Bool := (Text.after? "function".toList text).isSome

def functionHeader (line : Line) : Except Fault (Text × UInt32) :=
  match (afterKeyword? "function" line.text).bind fun rest => rest.splitAtFirst (· = ',') with
  | none => .error (.syntactic line.number (.malformedFunctionHeader line.text))
  | some (name, params) =>
    if name.trim = [] then .error (.syntactic line.number (.malformedFunctionHeader line.text))
    else (Number.count line.number params.trim).map fun n => (name.trim, n)

end NovelScript.Declaration
