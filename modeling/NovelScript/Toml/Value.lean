import NovelScript.Text

/-!
TOML documents as far as settings need them: texts, arrays and tables. A document that holds
numbers, truth values, dates or arrays of tables has no use as settings and is refused by the
reader.
-/

namespace NovelScript.Toml

/-- How a table came into being, which decides whether it may be extended. -/
inductive Origin
  /-- By its own header. -/
  | header
  /-- By the header of a table inside of it. -/
  | implied
  /-- By a dotted key. -/
  | dotted
  deriving DecidableEq, Repr

inductive Value
  | text (t : Text)
  | array (items : List Value)
  | inline (entries : List (Text × Value))
  | table (origin : Origin) (entries : List (Text × Value))
  deriving Repr

/-- The entries of a table in the order of their keys' first appearance. -/
abbrev Entries := List (Text × Value)

namespace Entries

def put (entries : Entries) (key : Text) (value : Value) : Entries :=
  if entries.any (·.1 = key) then
    entries.map fun entry => if entry.1 = key then (key, value) else entry
  else entries ++ [(key, value)]

def add (entries : Entries) (key : Text) (value : Value) : Option Entries :=
  if entries.any (·.1 = key) then none else some (entries ++ [(key, value)])

/-- Adds a key in the table that a dotted key names. The tables on the way are made as needed; those
that are there already must have been made by dotted keys. -/
def addDotted : (path : List Text) → (key : Text) → Value → Entries → Option Entries
  | [], key, value, entries => entries.add key value
  | part :: path, key, value, entries =>
    match entries.lookup part with
    | none => (addDotted path key value []).map fun inner => entries.put part (.table .dotted inner)
    | some (.table .dotted inner) =>
      (addDotted path key value inner).map fun inner => entries.put part (.table .dotted inner)
    | some _ => none

def addUnder : (header path : List Text) → (key : Text) → Value → Entries → Option Entries
  | [], path, key, value, entries => entries.addDotted path key value
  | part :: header, path, key, value, entries =>
    match entries.lookup part with
    | some (.table origin inner) =>
      (addUnder header path key value inner).map fun inner => entries.put part (.table origin inner)
    | _ => none

/-- Makes the table of a header. It may be there only because of a table inside of it. -/
def openHeader : (header : List Text) → Entries → Option Entries
  | [], _ => none
  | [key], entries =>
    match entries.lookup key with
    | none => some (entries.put key (.table .header []))
    | some (.table .implied inner) => some (entries.put key (.table .header inner))
    | some _ => none
  | part :: header, entries =>
    match entries.lookup part with
    | none => (openHeader header []).map fun inner => entries.put part (.table .implied inner)
    | some (.table origin inner) =>
      (openHeader header inner).map fun inner => entries.put part (.table origin inner)
    | some _ => none

end Entries

end NovelScript.Toml
