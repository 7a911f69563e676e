import NovelScript.Bytes
import NovelScript.Charset
import NovelScript.Fault

/-!
What the tools report while they work. An `Event` says what happened; its level decides whether it
is shown.
-/

namespace NovelScript

/-- How much is shown. Each level shows what the levels before it show. -/
inductive LogLevel
  | off
  | error
  | warn
  | info
  | debug
  | trace
  deriving DecidableEq, Repr

namespace LogLevel

def all : List LogLevel := [off, error, warn, info, debug, trace]

def name : LogLevel → String
  | off => "OFF"
  | error => "ERROR"
  | warn => "WARN"
  | info => "INFO"
  | debug => "DEBUG"
  | trace => "TRACE"

def rank (level : LogLevel) : Nat := all.idxOf level

def ofName? (t : Text) : Option LogLevel :=
  all.find? fun level => Text.asciiLower level.name.toList = Text.asciiLower t

end LogLevel

inductive Event
  | headerPadding (leading trailing : UInt32)
  | fileSizeMismatch (declared : UInt32) (actual : Nat)
  | loaded (nameLength functions strings : Nat) (codeSize : UInt32)
  | labelPatched (label : Text) (address : UInt32) (offset : Nat)
  | functionAssembled (name : Text) (pos : UInt32) (instructions locals size : Nat)
  | callPatched (name : Text) (index offset : Nat)
  | functionListed (name : Text) (pos : UInt32) (instructions labels : Nat)
  | malformedText (charset : Charset) (bytes : Bytes)
  | assembled (input output : Text) (functions strings size : Nat) (charset : Charset)
  | disassembled (input output : Text) (functions strings : Nat) (charset : Charset)
  | summaryWritten (path : Text)
  deriving DecidableEq, Repr

namespace Event

def level : Event → LogLevel
  | headerPadding .. | fileSizeMismatch .. | malformedText .. => .warn
  | loaded .. | functionAssembled .. | functionListed .. => .debug
  | labelPatched .. | callPatched .. => .trace
  | assembled .. | disassembled .. | summaryWritten .. => .info

def shownBytes (bytes : Bytes) : String :=
  "[" ++ ", ".intercalate (bytes.map fun b => shown (Numeral.hex 2 b.toNat)) ++ "]"

def message : Event → String
  | headerPadding leading trailing =>
    s!"unexpected header padding: unk_00={shownHex leading.toNat}, unk_40={shownHex trailing.toNat}"
  | fileSizeMismatch declared actual =>
    s!"header file_size {shownHex declared.toNat} does not match the {shownHex actual} byte buffer"
  | loaded nameLength functions strings codeSize =>
    s!"loaded {nameLength} byte name, {functions} function(s), {strings} string(s), " ++
      s!"{shownHex codeSize.toNat} code bytes"
  | labelPatched label address offset =>
    s!"patching label `{shown label}` = {shownHex address.toNat} at +{shownHex offset}"
  | functionAssembled name pos instructions locals size =>
    s!"assembled `{shown name}` at {shownHex pos.toNat}: {instructions} instruction(s), " ++
      s!"{locals} local(s), {size} byte(s)"
  | callPatched name index offset =>
    s!"patching call `{shown name}` = #{index} at +{shownHex offset}"
  | functionListed name pos instructions labels =>
    s!"disassembling `{shown name}` at {shownHex pos.toNat}: {instructions} instruction(s), " ++
      s!"{labels} label(s)"
  | malformedText charset bytes => s!"{charset.name} decode error in {shownBytes bytes}"
  | assembled input output functions strings size charset =>
    s!"{shown input} -> {shown output} ({functions} function(s), {strings} string(s), " ++
      s!"{shownHex size} bytes, {charset.name})"
  | disassembled input output functions strings charset =>
    s!"{shown input} -> {shown output} ({functions} function(s), {strings} string(s), " ++
      s!"{charset.name})"
  | summaryWritten path => s!"summary written to {shown path}"

def isShown (level : LogLevel) (e : Event) : Bool := e.level.rank ≤ level.rank

end Event

end NovelScript
