import NovelScript.Charset

/-!
The command lines of the tools. Options have a long name and mostly a letter; letters can be
combined behind one dash, and a value can follow its option directly, after an equal sign, or as the
next argument. No option may be given twice, and there are no arguments besides options and their
values.
-/

namespace NovelScript

inductive Tool
  | assembler
  | disassembler
  deriving DecidableEq, Repr

inductive ToolOption
  | input
  | output
  | lang
  | config
  | summary
  | verbose
  | help
  | version
  deriving DecidableEq, Repr

namespace ToolOption

def longName : ToolOption → String
  | input => "input"
  | output => "output"
  | lang => "lang"
  | config => "config"
  | summary => "summary"
  | verbose => "verbose"
  | help => "help"
  | version => "version"

def letter? : ToolOption → Option Char
  | input => some 'i'
  | output => some 'o'
  | lang => some 'l'
  | config => some 'c'
  | summary => none
  | verbose => some 'v'
  | help => some 'h'
  | version => some 'V'

def takesValue : ToolOption → Bool
  | verbose | help | version => false
  | _ => true

/-- Whether an option can have a value: a charset has to be known, and a path is not empty. -/
def accepts : ToolOption → Text → Bool
  | input, value | output, value | config, value | summary, value => value ≠ []
  | lang, value => (Charset.ofName? value).isSome
  | verbose, _ | help, _ | version, _ => true

end ToolOption

def Tool.options : Tool → List ToolOption
  | .assembler => [.input, .output, .lang, .config, .verbose, .help, .version]
  | .disassembler => [.input, .output, .lang, .config, .summary, .verbose, .help, .version]

structure Arguments where
  input : Text
  output : Text
  charset? : Option Charset := none
  settings? : Option Text := none
  summary? : Option Text := none
  verbose : Bool := false
  deriving DecidableEq, Repr

inductive Refusal
  /-- It is not a command line of the tool. -/
  | usage
  /-- It asks for information about the tool instead. -/
  | information
  deriving DecidableEq, Repr

namespace Arguments

/-- Options with their values, the empty one for options without value. -/
abbrev Found := List (ToolOption × Text)

def found (option : ToolOption) (value : Text) (before : Found) : Except Refusal Found :=
  if before.any (·.1 = option) || !option.accepts value then .error .usage
  else if option = .help ∨ option = .version then .error .information
  else .ok ((option, value) :: before)

/-- What a part of the command line leaves behind: the options found, and one that waits for its
value. -/
structure State where
  found : Found := []
  waiting? : Option ToolOption := none

/-- Reads letters combined behind a dash. What follows a letter that takes a value is the value. -/
def letters (tool : Tool) : Text → Found → Except Refusal State
  | [], before => .ok { found := before }
  | c :: rest, before =>
    match tool.options.find? (·.letter? = some c) with
    | none => .error .usage
    | some option =>
      if option.takesValue then
        if rest = [] then .ok { found := before, waiting? := some option }
        else
          let value := if rest.head? = some '=' then rest.tail else rest
          (found option value before).map fun before => { found := before }
      else
        match found option [] before with
        | .ok before => letters tool rest before
        | .error refusal => .error refusal

def long (tool : Tool) (t : Text) (before : Found) : Except Refusal State :=
  let (name, value?) := match t.splitAtFirst (· = '=') with
    | some (name, value) => (name, some value)
    | none => (t, none)
  match tool.options.find? (·.longName.toList = name), value? with
  | none, _ => .error .usage
  | some option, some value =>
    if option.takesValue then (found option value before).map fun before => { found := before }
    else .error .usage
  | some option, none =>
    if option.takesValue then .ok { found := before, waiting? := some option }
    else (found option [] before).map fun before => { found := before }

/-- Whether an argument is an option. A dash alone is a value. -/
def isOption (t : Text) : Bool := t.head? = some '-' && t ≠ ['-']

/-- Reads arguments. Nothing may follow two dashes alone. -/
def readAll (tool : Tool) : List Text → State → Except Refusal Found
  | [], s => if s.waiting?.isSome then .error .usage else .ok s.found
  | t :: rest, s =>
    match s.waiting? with
    | some option =>
      if isOption t then .error .usage
      else do
        let before ← found option t s.found
        readAll tool rest { found := before }
    | none =>
      if t = ['-', '-'] then (if rest = [] then .ok s.found else .error .usage)
      else if ¬ isOption t then .error .usage
      else do
        let next ← match t with
          | '-' :: '-' :: name => long tool name s.found
          | _ => letters tool t.tail s.found
        readAll tool rest next

def required (options : Found) (option : ToolOption) : Except Refusal Text :=
  match options.lookup option with
  | some value => .ok value
  | none => .error .usage

def parse (tool : Tool) (args : List Text) : Except Refusal Arguments := do
  let options ← readAll tool args {}
  return {
    input := ← required options .input
    output := ← required options .output
    charset? := (options.lookup .lang).bind Charset.ofName?
    settings? := options.lookup .config
    summary? := options.lookup .summary
    verbose := (options.lookup .verbose).isSome }

end Arguments

end NovelScript
