import NovelScript.Tool.Run

/-!
The command line. The first argument names the tool; the others are its own.
-/

namespace NovelScript

def FileError.ofError : IO.Error → FileError
  | .noFileOrDirectory .. => .notFound
  | .inappropriateType .. => .isDirectory
  | error => .other (toString error)

def bytesOfArray (data : ByteArray) : Bytes := data.toList

def caught {α : Type} (action : IO α) : IO (Except FileError α) := do
  try
    return .ok (← action)
  catch error =>
    return .error (FileError.ofError error)

instance : FileAccess IO where
  readFile path := return (← caught (IO.FS.readBinFile (shown path))).map bytesOfArray
  writeFile path data := caught (IO.FS.writeBinFile (shown path) data.toByteArray)

def Tool.ofName? (name : String) : Option Tool :=
  if name = "assembler" then some .assembler
  else if name = "disassembler" then some .disassembler
  else none

def showOutcome (o : Outcome) : IO UInt32 := do
  for event in o.log do
    IO.eprintln s!"[{event.level.name}] {event.message}"
  if let some report := o.report? then
    IO.eprintln s!"Error: {report.text}"
  return UInt32.ofNat o.code

end NovelScript

open NovelScript in
def main (args : List String) : IO UInt32 := do
  match args with
  | name :: rest =>
    match Tool.ofName? name with
    | some tool => showOutcome (← Tool.run tool (rest.map String.toList))
    | none => return 2
  | [] => return 2
