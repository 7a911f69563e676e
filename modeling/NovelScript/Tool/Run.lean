import NovelScript.Script.Save
import NovelScript.Tool.Arguments
import NovelScript.Tool.Files
import NovelScript.Tool.Events
import NovelScript.Tool.Settings
import NovelScript.Yaml.Summary

/-!
The runs of the tools. A run reads the settings and the input, does its work, and writes the output
last, so that a run that fails before it writes leaves all files as they were. Only a summary is
written after the output.
-/

namespace NovelScript

/-- Why a run failed: what was being done, and the cause if that is another matter. -/
structure Report where
  context : String
  cause? : Option String := none
  deriving DecidableEq, Repr

def Report.text (r : Report) : String :=
  match r.cause? with
  | none => r.context
  | some cause => r.context ++ "\n\nCaused by:\n    " ++ cause

structure Outcome where
  /-- The exit code: 0 for success, 1 for failure, 2 for a bad command line. -/
  code : Nat
  /-- What was shown on the way. -/
  log : List Event := []
  report? : Option Report := none
  deriving Repr

/-- Work that reports events and may fail. The events before a failure are kept. -/
abbrev Work (m : Type → Type) := ExceptT Report (StateT (List Event) m)

namespace Tool

variable {m : Type → Type} [Monad m] [FileAccess m]

def tell (events : List Event) : Work m Unit := modify (· ++ events)

def fail {α : Type} (activity : String) (path : Text) (cause : String) : Work m α :=
  throw ⟨activity ++ " " ++ shown path, some cause⟩

def readBytes (activity : String) (path : Text) : Work m Bytes := do
  match ← (FileAccess.readFile path : m _) with
  | .ok data => return data
  | .error error => fail activity path error.message

def readText (activity : String) (path : Text) : Work m Text := do
  let data ← readBytes activity path
  match Charset.Utf8.decode? data with
  | some t => return t
  | none => fail activity path "stream did not contain valid UTF-8"

def writeBytes (activity : String) (path : Text) (data : Bytes) : Work m Unit := do
  match ← (FileAccess.writeFile path data : m _) with
  | .ok () => return ()
  | .error error => fail activity path error.message

/-- Takes the result of a step, or fails with its fault as the cause. -/
def orFail {α : Type} (activity : String) (path : Text) : Except Fault α → Work m α
  | .ok a => return a
  | .error fault => fail activity path fault.message

def readSettings : Option Text → Work m Settings
  | none => return {}
  | some path => do
    let t ← readText "failed to read config" path
    match Settings.parse? t with
    | some settings => return settings
    | none => throw ⟨"invalid config " ++ shown path, none⟩

def assembleFile (args : Arguments) (cs : Charset) : Work m Unit := do
  let source ← readText "failed to read" args.input
  tell (Events.assembling cs source)
  let script ← orFail "failed to assemble" args.input (assemble cs source)
  match script.save with
  | .error fault => throw ⟨fault.message, none⟩
  | .ok data =>
    writeBytes "failed to write" args.output data
    tell [.assembled args.input args.output script.functions.length script.strings.length
      data.length cs]

def writeSummary (script : Script) (cs : Charset) (path : Text) : Work m Unit := do
  tell (Events.summarizing script cs)
  writeBytes "failed to write summary" path
    (Charset.Utf8.encode (Yaml.document (script.summary cs)))
  tell [.summaryWritten path]

def disassembleFile (args : Arguments) (cs : Charset) (cast : Cast) : Work m Unit := do
  let data ← readBytes "failed to read" args.input
  tell (Events.loading data)
  let script ← orFail "failed to load" args.input (Script.load data)
  tell (Events.disassembling script cs)
  let t ← orFail "failed to disassemble" args.input (disassemble script cs cast)
  writeBytes "failed to write" args.output (Charset.Utf8.encode t)
  tell [.disassembled args.input args.output script.functions.length script.strings.length cs]
  match args.summary? with
  | none => return ()
  | some path => writeSummary script cs path

/-- The level of a run: the command line comes before the settings. -/
def logLevel (args : Arguments) (settings : Settings) : LogLevel :=
  if args.verbose then .debug else settings.logLevel?.getD .info

def charset (args : Arguments) (settings : Settings) : Charset :=
  (args.charset? <|> settings.charset?).getD .shiftJis

def work (tool : Tool) (args : Arguments) (settings : Settings) : Work m Unit :=
  let cs := charset args settings
  match tool with
  | .assembler => assembleFile args cs
  | .disassembler => disassembleFile args cs settings.cast

def outcome (level : LogLevel) : Except Report Unit × List Event → Outcome
  | (result, events) =>
    let log := events.filter (Event.isShown level)
    match result with
    | .ok () => { code := 0, log }
    | .error report => { code := 1, log, report? := some report }

def run (tool : Tool) (args : List Text) : m Outcome := do
  match Arguments.parse tool args with
  | .error .usage => return { code := 2 }
  | .error .information => return { code := 0 }
  | .ok args =>
    match ← (readSettings args.settings? : Work m Settings).run.run [] with
    | (.error report, _) => return { code := 1, report? := some report }
    | (.ok settings, _) =>
      return outcome (logLevel args settings) (← (work tool args settings : Work m Unit).run.run [])

end Tool

end NovelScript
