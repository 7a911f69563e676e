import NovelScript.Proofs.Source.Lines
import NovelScript.Source.Declaration
import NovelScript.Source.Statement

/-!
The names in source text. Source text falls into *fragments*: names, each with its role, and all
that stands between them. Which is which depends on the place of a line, and the place on the lines
before. A *renaming* replaces the names and leaves everything else as it is; if it replaces nothing
the text is the same (`rename_unchanged`). It is legal if names that differ stay different, each
role for itself, and if the new names are names again and cannot be taken for anything else.
-/

namespace NovelScript

/-! ### Places -/

/-- Where a line of source text stands. Functions are counted from zero. -/
inductive Place
  | header
  | opening
  | strings
  | between (count : Nat)
  | inside (function : Nat)
  deriving DecidableEq, Repr

namespace Place

/-- The place behind a line with this text. Lines without text do not count. -/
def next (text : Text) (place : Place) : Place :=
  if text = [] then place
  else
    match place with
    | header => opening
    | opening => strings
    | strings => if text = "endstrings".toList then between 0 else strings
    | between count => inside count
    | inside function =>
      if text = "endfunction".toList then between (function + 1) else inside function

def inFunctions : Place → Bool
  | between _ | inside _ => true
  | _ => false

end Place

/-! ### Names and what stands between them -/

/-- What a name is the name of: a string, and with that perhaps a function; or a label or a local of
one function. -/
inductive Role
  | symbol
  | label (function : Nat)
  | slot (function : Nat)
  deriving DecidableEq, Repr

def isQuote (c : Char) : Bool := c = '"' || c = '\x27'

/-- Whether a token is a name. Numbers are names of locals only. -/
def Role.isName (role : Role) (t : Text) : Bool :=
  t ≠ [] && !t.any isQuote &&
    match role with
    | slot _ => true
    | _ => !Number.isNumber t

inductive Fragment
  | plain (t : Text)
  | name (role : Role) (t : Text)
  deriving DecidableEq, Repr

def Fragment.name? : Fragment → Option (Role × Text)
  | plain _ => none
  | name role t => some (role, t)

namespace Source

def tokenFragments (role : Role) (t : Text) : List Fragment :=
  if role.isName t.trim then
    [.plain t.leading, .name role t.trim, .plain t.trailing]
  else [.plain t]

/-- The name of a string and its literal, in front of the equal sign and behind it. A name with
white space in it is none. -/
def definition? (text : Text) : Option (Text × Text) :=
  (text.splitAtFirst (· = '=')).filter fun p => !p.1.trim.any isSpace

def definitionFragments (text : Text) : List Fragment :=
  match definition? text with
  | some (name, value) => tokenFragments .symbol name ++ [.plain ('=' :: value)]
  | none => [.plain text]

/-- The name of a function, between the keyword and the comma, and what stands behind the comma. -/
def header? (text : Text) : Option (Text × Text) :=
  (Declaration.afterKeyword? "function" text).bind (·.splitAtFirst (· = ','))

def headerFragments (text : Text) : List Fragment :=
  match header? text with
  | some (name, params) =>
    .plain "function".toList :: tokenFragments .symbol name ++ [.plain (',' :: params)]
  | none => [.plain text]

/-- The role of operands of a kind, if they are names. -/
def kindRole? (function : Nat) : OperandKind → Option Role
  | .slot => some (.slot function)
  | .constant | .function => some .symbol
  | .label => some (.label function)
  | _ => none

def operandRole? (function : Nat) (opcode : Opcode) : Option Role :=
  match opcode.operandKinds with
  | [kind] => kindRole? function kind
  | _ => none

/-- A line inside of a function: the name of a label, or operands behind a mnemonic. -/
def statementFragments (function : Nat) (text : Text) : List Fragment :=
  match Statement.definedLabel? text with
  | some name => tokenFragments (.label function) name ++ [.plain [':']]
  | none =>
    let (mnemonic, operands) := Statement.splitMnemonic text
    match (Opcode.ofMnemonic? mnemonic).bind (operandRole? function) with
    | some role =>
      .plain (text.take (text.length - operands.length)) ::
        [.plain [',']].intercalate ((operands.splitOn ',').map (tokenFragments role))
    | none => [.plain text]

/-- The text of a line, without the white space around it and without comment. -/
def textFragments (text : Text) : Place → List Fragment
  | .header | .opening => [.plain text]
  | .strings => definitionFragments text
  | .between _ => headerFragments text
  | .inside function => statementFragments function text

def lineFragments (line : Text) (place : Place) : List Fragment :=
  let code := stripComment line
  .plain code.leading :: textFragments code.trim place ++
    [.plain code.trailing, .plain (line.drop code.length)]

def placed (place : Place) : List Text → List (Text × Place)
  | [] => []
  | line :: rest => (line, place) :: placed (place.next (textOf line)) rest

def placedLines (source : Text) : List (Text × Place) := placed .header (source.splitOn '\n')

/-- A source text as names and what stands between them. -/
def fragments (source : Text) : List Fragment :=
  [.plain ['\n']].intercalate ((placedLines source).map fun (line, place) =>
    lineFragments line place)

def names (source : Text) : List (Role × Text) := (fragments source).filterMap Fragment.name?

/-- No line of a function and no line between functions has a quote outside of its comment. -/
def QuotesConfined (source : Text) : Prop :=
  ∀ p ∈ placedLines source, p.2.inFunctions → (textOf p.1).any isQuote = false

end Source

/-! ### Renaming -/

/-- New names for old ones, by their role. -/
abbrev Renaming := Role → Text → Text

def Fragment.write (ρ : Renaming) : Fragment → Text
  | plain t => t
  | name role t => ρ role t

namespace Renaming

def write (ρ : Renaming) (fragments : List Fragment) : Text := fragments.flatMap (·.write ρ)

def rename (ρ : Renaming) (source : Text) : Text := ρ.write (Source.fragments source)

end Renaming

/-- The characters that end or separate names in source text. -/
def isReserved (c : Char) : Bool :=
  isSpace c || isQuote c || c = ',' || c = ';' || c = ':' || c = '='

@[mk_iff] structure Role.Clean (role : Role) (t : Text) : Prop where
  isName : role.isName t = true
  reserved : t.any isReserved = false

@[mk_iff] structure Renaming.Legal (ρ : Renaming) (source : Text) : Prop where
  injective : ∀ n ∈ Source.names source, ∀ n' ∈ Source.names source, n.1 = n'.1 →
    ρ n.1 n.2 = ρ n'.1 n'.2 → n.2 = n'.2
  clean : ∀ n ∈ Source.names source, n.1.Clean (ρ n.1 n.2)

instance (source : Text) : Decidable (Source.QuotesConfined source) :=
  inferInstanceAs (Decidable (∀ p ∈ Source.placedLines source, p.2.inFunctions →
    (Source.textOf p.1).any isQuote = false))

instance (role : Role) (t : Text) : Decidable (role.Clean t) :=
  decidable_of_iff _ (Role.clean_iff role t).symm

instance (ρ : Renaming) (source : Text) : Decidable (ρ.Legal source) :=
  decidable_of_iff _ (Renaming.legal_iff ρ source).symm

end NovelScript
