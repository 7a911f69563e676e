import NovelScript.Assembly.Assemble
import NovelScript.Listing.Disassemble
import NovelScript.Script.Load
import NovelScript.Script.Summary
import NovelScript.Tool.Log

/-!
The events of loading, assembling, listing and summarizing, also of runs that fail on the way: a
failure is preceded by the events of everything before it.
-/

namespace NovelScript.Events

/-- The events of loading a container. Once the header has been read, doubts about it are reported.
-/
def loading (data : Bytes) : List Event :=
  match (Read.runFrom Container.readHeader { data }).1 with
  | .error _ => []
  | .ok h =>
    (if h.leading ≠ 0 ∨ h.trailing ≠ 0 then [.headerPadding h.leading h.trailing] else []) ++
      (if h.fileSize.toNat ≠ data.length then [.fileSizeMismatch h.fileSize data.length] else []) ++
        match Script.load data with
        | .error _ => []
        | .ok s => [.loaded s.name.length s.functions.length s.strings.length h.codeSize]

open Assembly in
/-- The events of fixing up the jumps of a function, up to a jump to a label that does not exist. -/
def patchingLabels (d : Draft) : List Fixup → List Event
  | [] => []
  | jump :: rest =>
    match d.labels.lookup jump.target with
    | some address => .labelPatched jump.target address jump.offset :: patchingLabels d rest
    | none => []

open Assembly in
def finishing (d : Draft) (line : Nat) : List Event :=
  if d.instructions = 0 then []
  else
    patchingLabels d d.jumps ++
      match d.finish line with
      | .error _ => []
      | .ok a =>
        [.functionAssembled a.name a.entry.pos a.instructions d.locals.length
          (wordLength a.entry.code).toNat]

open Assembly in
/-- The events of fixing up calls, up to a call to a function that does not exist. -/
def patchingCalls (done : List Assembled) : List Fixup → List Event
  | [] => []
  | call :: rest =>
    match functionIndex? done call.target with
    | some index => .callPatched call.target index call.offset :: patchingCalls done rest
    | none => []

open Assembly in
/-- The events of reading lines from a phase on, `last` being the last line of the source. -/
def reading (cs : Charset) (last : Nat) : List Line → Phase → List Event
  | [], phase =>
    match phase.finish last with
    | .error _ => []
    | .ok p => patchingCalls p.done (p.done.flatMap (·.calls))
  | line :: rest, phase =>
    (match phase with
      | .inside _ d => if line.text = "endfunction".toList then finishing d line.number else []
      | _ => []) ++
    match phase.step cs line with
    | .error _ => []
    | .ok next => reading cs last rest next

def assembling (cs : Charset) (source : Text) : List Event :=
  let lines := Source.lines source
  reading cs (Assembly.lastNumber lines) lines .start

/-- The events of listing functions, up to one that cannot be listed. -/
def listing (script : Script) (symbols : Listing.Symbols) : List FunctionEntry → List Event
  | [] => []
  | f :: fs =>
    match Listing.Decoded.ofFunction f, symbols.function f with
    | .ok d, .ok name =>
      .functionListed name f.pos d.instructions.length d.labels.length ::
        match Listing.functionLines script symbols f with
        | .error _ => []
        | .ok _ => listing script symbols fs
    | _, _ => []

def disassembling (script : Script) (cs : Charset) : List Event :=
  listing script (Listing.Symbols.build script cs) script.functions

def summarizing (script : Script) (cs : Charset) : List Event :=
  (script.summaryTexts.filter cs.isLossy).map (.malformedText cs)

end NovelScript.Events
