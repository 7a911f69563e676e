import NovelScript.Charset
import NovelScript.Speaker
import NovelScript.Tool.Log
import NovelScript.Toml.Reader

/-!
The settings that the tools take from a file. Every setting may be left out, and there are no
others.
-/

namespace NovelScript

structure Settings where
  charset? : Option Charset := none
  logLevel? : Option LogLevel := none
  talkers? : Option (List Text) := none
  deriving Repr

namespace Settings

def keys : List String := ["nls", "log_level", "talkers"]

def isEmptyValue : Toml.Value → Bool
  | .text _ => false
  | .array items => items.isEmpty
  | .inline entries => entries.isEmpty
  | .table _ entries => entries.isEmpty

/-- The name of a choice: a text, or the only key of a table, with nothing in it. -/
def choice? : Toml.Value → Option Text
  | .text t => some t
  | .array _ => none
  | .inline [(key, value)] => if isEmptyValue value then some key else none
  | .inline _ => none
  | .table _ [(key, value)] => if isEmptyValue value then some key else none
  | .table _ _ => none

def texts? : Toml.Value → Option (List Text)
  | .array items => items.mapM fun
    | .text t => some t
    | _ => none
  | _ => none

def read? {α : Type} (entries : Toml.Entries) (key : String) (value? : Toml.Value → Option α) :
    Option (Option α) :=
  match entries.lookup key.toList with
  | none => some none
  | some value => (value? value).map some

def ofEntries? (entries : Toml.Entries) : Option Settings := do
  if entries.any fun entry => !keys.any (·.toList = entry.1) then none
  let charset? ← read? entries "nls" fun v => (choice? v).bind Charset.ofTag?
  let logLevel? ← read? entries "log_level" fun v => (choice? v).bind LogLevel.ofName?
  let talkers? ← read? entries "talkers" texts?
  return { charset?, logLevel?, talkers? }

def parse? (t : Text) : Option Settings := (Toml.document t).bind ofEntries?

def cast (s : Settings) : Cast := (s.talkers?.map Cast.mk).getD Cast.standard

end Settings

end NovelScript
