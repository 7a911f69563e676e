import NovelScript.Charset
import NovelScript.Text.Numeral

/-!
Everything that can be wrong with a container, a source text or a script. A fault says where it is
and why: a byte position for data that cannot be decoded, a line number for source text. The wording
is in `Fault.message` alone.
-/

namespace NovelScript

inductive Region
  | functionTable
  | codeSection
  | stringSection
  | functionCode
  deriving DecidableEq, Repr

inductive DecodeCause
  | truncated (need left : Nat)
  | unterminatedString
  | seekPastEnd (size : Nat)
  | unknownOpcode (byte : UInt8)
  | functionCountOverflow (count : UInt32)
  | outside (region : Region) (start stop size : Nat)
  | nameStartsNoString (name : UInt32)
  | nameUnresolved (name : UInt32)
  | callOutOfRange (index : UInt32) (count : Nat)
  deriving DecidableEq, Repr

inductive Expected
  | scriptHeader
  | stringsHeader
  | endOfStrings
  | endOfFunction
  deriving DecidableEq, Repr

inductive SyntaxCause
  | endOfInput (expected : Expected)
  | notScriptHeader (found : Text)
  | notStringsHeader (found : Text)
  | notAssignment (found : Text)
  | invalidStringName (name : Text)
  | notFunction (found : Text)
  | malformedFunctionHeader (found : Text)
  | notNumber (token : Text)
  | notNative (token : Text)
  | emptyOperand (line : Text)
  | unknownInstruction (mnemonic : Text)
  | operandCount (mnemonic : Text) (expected found : Nat)
  | notQuoted (found : Text)
  | afterLiteral (rest : Text)
  | missingHexDigits
  | unknownEscape (c : Char)
  | unterminatedLiteral
  deriving DecidableEq, Repr

inductive SemanticCause
  | nameUnencodable (name : Text) (charset : Charset)
  | nameContainsNul
  | nameTooLong (name : Text) (limit : Nat)
  | noStrings
  | duplicateString (name : Text)
  | stringUnencodable (name : Text) (charset : Charset)
  | stringContainsNul (name : Text)
  | stringSectionOverflow
  | functionWithoutString (name : Text)
  | duplicateFunction (name : Text)
  | outOfRange (token : Text) (least greatest : Int)
  | undefinedString (token : Text)
  | tooManyLocals (name : Text) (number : Nat) (function : Text) (limit : Nat)
  | jumpTableTooLong (count : Nat)
  | duplicateLabel (label function : Text)
  | emptyFunction (name : Text)
  | undefinedLabel (label function : Text)
  | codeSectionOverflow
  | noFunctions
  | undefinedFunction (name : Text)
  deriving DecidableEq, Repr

inductive EncodeCause
  | patchOutside (offset size : Nat)
  | nameTooLong (size limit : Nat)
  | nameContainsNul
  | overlappingFunction (pos : UInt32) (stop : Nat)
  | misplacedString (pos : UInt32) (expected : Nat)
  | stringContainsNul (pos : UInt32)
  deriving DecidableEq, Repr

inductive Fault
  | decode (position : Nat) (cause : DecodeCause)
  | syntactic (line : Nat) (cause : SyntaxCause)
  | semantic (line : Nat) (cause : SemanticCause)
  | encode (cause : EncodeCause)
  deriving DecidableEq, Repr

/-! ## Wording -/

def shown (t : Text) : String := String.ofList t

def shownHex (n : Nat) : String := "0x" ++ shown (Numeral.upperHex 0 n)

def Region.description : Region → String
  | functionTable => "function table"
  | codeSection => "code section"
  | stringSection => "string section"
  | functionCode => "function code"

def DecodeCause.message : DecodeCause → String
  | truncated need left => s!"unexpected end of data: need {need} byte(s), {left} left"
  | unterminatedString => "unterminated string"
  | seekPastEnd size => s!"seek past the end of a {size} byte buffer"
  | unknownOpcode byte => "unknown opcode 0x" ++ shown (Numeral.upperHex 2 byte.toNat)
  | functionCountOverflow count => s!"function count {count.toNat} overflows"
  | outside region start stop size =>
    s!"{region.description} [{shownHex start}, {shownHex stop}) exceeds the {size} byte buffer"
  | nameStartsNoString name =>
    s!"function name {shownHex name.toNat} does not start a string"
  | nameUnresolved name =>
    s!"function name {shownHex name.toNat} does not reference a string"
  | callOutOfRange index count => s!"call to function #{index.toNat} of {count}"

def Expected.description : Expected → String
  | scriptHeader => "`script <name>`"
  | stringsHeader => "`strings`"
  | endOfStrings => "`endstrings`"
  | endOfFunction => "`endfunction`"

def SyntaxCause.message : SyntaxCause → String
  | endOfInput expected => s!"unexpected end of input, expected {expected.description}"
  | notScriptHeader found => s!"expected `script <name>`, found `{shown found}`"
  | notStringsHeader found => s!"expected `strings`, found `{shown found}`"
  | notAssignment found => s!"expected `name = \"value\"`, found `{shown found}`"
  | invalidStringName name => s!"invalid string name `{shown name}`"
  | notFunction found => s!"expected `function`, found `{shown found}`"
  | malformedFunctionHeader found =>
    s!"expected `function <name>,<num_params>`, found `{shown found}`"
  | notNumber token => s!"expected a number, found `{shown token}`"
  | notNative token => s!"expected `@nativeXX`, found `{shown token}`"
  | emptyOperand line => s!"empty operand in `{shown line}`"
  | unknownInstruction mnemonic => s!"unknown instruction `{shown mnemonic}`"
  | operandCount mnemonic expected found =>
    s!"`{shown mnemonic}` takes {expected} operand(s), found {found}"
  | notQuoted found => s!"expected a quoted string, found `{shown found}`"
  | afterLiteral rest => s!"unexpected `{shown rest}` after string literal"
  | missingHexDigits => "`\\x` needs two hex digits"
  | unknownEscape c => "unknown escape sequence `\\" ++ shown [c] ++ "`"
  | unterminatedLiteral => "unterminated string literal"

def SemanticCause.message : SemanticCause → String
  | nameUnencodable name charset =>
    s!"script name `{shown name}` cannot be represented in {charset.name}"
  | nameContainsNul => "script name contains a NUL"
  | nameTooLong name limit => s!"script name `{shown name}` is longer than {limit} bytes"
  | noStrings => "at least one string is required"
  | duplicateString name => s!"string `{shown name}` is already defined"
  | stringUnencodable name charset =>
    s!"string `{shown name}` cannot be represented in {charset.name}"
  | stringContainsNul name => s!"string `{shown name}` contains a NUL"
  | stringSectionOverflow => "string section overflows"
  | functionWithoutString name => s!"function `{shown name}` has no string of the same name"
  | duplicateFunction name => s!"function `{shown name}` is already defined"
  | outOfRange token least greatest =>
    s!"`{shown token}` does not fit in the operand ({least}..={greatest})"
  | undefinedString token => s!"undefined string `{shown token}`"
  | tooManyLocals name number function limit =>
    s!"`{shown name}` would be local #{number} of `{shown function}`, the limit is {limit}"
  | jumpTableTooLong count => s!"jump table has {count} entries, at most 255 fit"
  | duplicateLabel label function =>
    s!"label `{shown label}` is already defined in `{shown function}`"
  | emptyFunction name => s!"function `{shown name}` has no instructions"
  | undefinedLabel label function => s!"undefined label `{shown label}` in `{shown function}`"
  | codeSectionOverflow => "code section overflows"
  | noFunctions => "script defines no functions"
  | undefinedFunction name => s!"call to undefined function `{shown name}`"

def EncodeCause.message : EncodeCause → String
  | patchOutside offset size => s!"patch at {shownHex offset} is outside of a {size} byte buffer"
  | nameTooLong size limit => s!"script name is {size} bytes, at most {limit} fit"
  | nameContainsNul => "script name contains a NUL byte"
  | overlappingFunction pos stop =>
    s!"function at {shownHex pos.toNat} overlaps code ending at {shownHex stop}"
  | misplacedString pos expected =>
    s!"string at {shownHex pos.toNat} should sit at {shownHex expected}"
  | stringContainsNul pos => s!"string at {shownHex pos.toNat} contains a NUL byte"

def Fault.message : Fault → String
  | decode position cause => s!"decode error at {shownHex position}: {cause.message}"
  | syntactic line cause => s!"syntax error at line {line}: {cause.message}"
  | semantic line cause => s!"semantic error at line {line}: {cause.message}"
  | encode cause => s!"encode error: {cause.message}"

end NovelScript
