import NovelScript.Proofs.Assembly.Numbering
import NovelScript.Proofs.Relayout.Lines

/-!
Assembling lines with new numbers. Numbers of lines are kept in placeholders and given in faults,
and nothing else depends on them: lines with new numbers take the assembler to the same states with
new numbers (`Phase.moves_run`), and they are assembled to the same script, or to the same fault
with the new number of its line (`moves_assembleLines`). Edits of the layout do no more than give
new numbers to lines, so they do not matter to assembly (`assemble_relaid`).
-/

namespace NovelScript

/-! ### Outcomes with new numbers -/

def Fault.moved (m : Nat → Nat) : Fault → Fault
  | decode position cause => decode position cause
  | syntactic line cause => syntactic (m line) cause
  | semantic line cause => semantic (m line) cause
  | encode cause => encode cause

/-- The second outcome is what `f` makes of the first one, or both are the same fault, whose line
has its new number in the second one. -/
abbrev Moves (m : Nat → Nat) {α β : Type} (f : α → β) : Except Fault α → Except Fault β → Prop :=
  Outcome.Follows (fun e e' => e' = e.moved m) f

variable {m : Nat → Nat}

theorem Moves.eq_mapError {α : Type} {x x' : Except Fault α} (h : Moves m id x x') :
    x' = x.mapError (Fault.moved m) := by
  cases h with
  | ok a => rfl
  | error h => exact congrArg Except.error h

theorem Relined.moves {n : Nat} {α β : Type} {f : α → β} {x : Except Fault α} {x' : Except Fault β}
    (h : Relined m n f x x') : Moves m f x x' := by
  refine h.mono ?_
  rintro e e' (cause | cause)
  · rfl
  · rfl

namespace Assembly

/-! ### Patches -/

theorem moves_patchWord (code : Bytes) (offset : Nat) (value : UInt32) :
    Moves m id (patchWord code offset value) (patchWord code offset value) :=
  .ite Iff.rfl (fun _ => .ok _) fun _ => .error rfl

theorem functionIndex?_moved (done : List Assembled) (name : Text) :
    functionIndex? (done.map (Assembled.moved m)) name = functionIndex? done name := by
  rw [functionIndex?, functionIndex?, List.findIdx?_map]
  rfl

theorem moves_patchCall (done : List Assembled) (code : Bytes) (call : Fixup) :
    Moves m id (patchCall done code call)
      (patchCall (done.map (Assembled.moved m)) code (call.moved m)) := by
  rw [patchCall, patchCall, Fixup.moved, functionIndex?_moved]
  cases functionIndex? done call.target with
  | none => exact .error rfl
  | some index => exact moves_patchWord code call.offset (UInt32.ofNat index)

theorem Draft.moves_patchJump (d : Draft) (code : Bytes) (jump : Fixup) :
    Moves m id (d.patchJump code jump) ((d.moved m).patchJump code (jump.moved m)) := by
  rw [patchJump, patchJump, Fixup.moved, labels_moved]
  cases d.labels.lookup jump.target with
  | none => exact .error rfl
  | some address => exact moves_patchWord code jump.offset address

theorem Draft.moves_finish (d : Draft) (n : Nat) :
    Moves m (Assembled.moved m) (d.finish n) ((d.moved m).finish (m n)) := by
  rw [finish, finish]
  refine .guard Iff.rfl rfl fun _ => ?_
  have hloop : Moves m id (d.jumps.foldlM d.patchJump d.code.toList)
      ((d.moved m).jumps.foldlM (d.moved m).patchJump d.code.toList) :=
    .foldlM d.moves_patchJump d.jumps _
  refine hloop.bind fun code _ => ?_
  exact .guard Iff.rfl rfl fun _ => .ok _

/-! ### Lines -/

/-- A line with a new number takes the state with new numbers to the next one. -/
theorem Phase.moves_step (cs : Charset) (line : Line) (phase : Phase) :
    Moves m (Phase.moved m) (phase.step cs line) ((phase.moved m).step cs (line.moved m)) := by
  cases phase with
  | start => exact (Declaration.relined_scriptName cs line).moves.map fun _ _ => rfl
  | named name =>
    exact .ite Iff.rfl (fun _ => .ok (strings name [])) fun _ => .error rfl
  | strings name table =>
    refine .ite Iff.rfl (fun _ => ?_) fun _ => ?_
    · exact .ite Iff.rfl (fun _ => .error rfl) fun _ => .ok (between { name, table })
    · exact (relined_addString cs table line).moves.map fun _ _ => rfl
  | between p => exact (relined_openFunction p line).moves.map fun _ _ => rfl
  | inside p d =>
    refine .ite Iff.rfl (fun _ => ?_) fun _ => ?_
    · refine (d.moves_finish line.number).map fun a _ => ?_
      rw [moved, Progress.moved, Progress.moved, List.map_append]
      rfl
    · refine (Statement.relined_parse line).moves.bind fun statement _ => ?_
      refine (d.relined_statement p.table line.number statement).moves.bind fun d _ => ?_
      exact .ok (inside p d)

/-- Lines with new numbers take the state with new numbers to the last one. -/
theorem Phase.moves_run (cs : Charset) (lines : List Line) (phase : Phase) :
    Moves m (Phase.moved m) (phase.run cs lines)
      ((phase.moved m).run cs (lines.map (Line.moved m))) :=
  .foldlM (fun phase line => phase.moves_step cs line) lines phase

/-! ### Whole source texts -/

theorem Phase.moves_finish (n : Nat) (phase : Phase) :
    Moves m (Progress.moved m) (phase.finish n) ((phase.moved m).finish (m n)) := by
  cases phase with
  | between p =>
    have hnil : p.done = [] ↔ (p.moved m).done = [] := List.map_eq_nil_iff.symm
    exact .ite hnil (fun _ => .error rfl) fun _ => .ok p
  | _ => exact .error rfl

theorem moves_linkCalls (done rest : List Assembled) :
    Moves m id (linkCalls done rest)
      (linkCalls (done.map (Assembled.moved m)) (rest.map (Assembled.moved m))) := by
  induction rest with
  | nil => exact .ok []
  | cons a rest ih =>
    rw [List.map_cons, linkCalls, linkCalls]
    refine Outcome.Follows.bind (.foldlM (moves_patchCall done) a.calls a.entry.code)
      fun code _ => ?_
    exact ih.bind fun entries _ => .ok ({ a.entry with code } :: entries)

theorem Progress.moves_link (p : Progress) : Moves m id p.link (p.moved m).link := by
  rw [link, link]
  exact (moves_linkCalls p.done p.done).bind fun functions _ => .ok _

theorem lastNumber_moved (lines : List Line) (hzero : m 0 = 0) :
    lastNumber (lines.map (Line.moved m)) = m (lastNumber lines) := by
  rw [lastNumber, lastNumber, List.getLast?_map]
  cases lines.getLast? with
  | none => exact hzero.symm
  | some line => rfl

/-- Lines with new numbers are assembled as the lines are. -/
theorem moves_assembleLines (cs : Charset) (lines : List Line) (hzero : m 0 = 0) :
    Moves m id (assembleLines cs lines) (assembleLines cs (lines.map (Line.moved m))) := by
  rw [assembleLines, assembleLines, lastNumber_moved lines hzero]
  refine (Phase.moves_run cs lines .start).bind fun phase _ => ?_
  refine (phase.moves_finish (lastNumber lines)).bind fun progress _ => ?_
  exact progress.moves_link

end Assembly

/-! ### Main result -/

/-- The layout of a source text does not matter to assembly. After any edits, the lines that count
have the same texts and their new numbers, under which they stand in the new text, and assembly
gives the same script, or it fails with the same fault, blamed on the new number of the line. If no
line counts, both blame line zero. -/
theorem assemble_relaid (cs : Charset) {m : Nat → Nat} {source source' : Text}
    (h : Source.Edits m (source.splitOn '\n') (source'.splitOn '\n')) :
    Source.lines source' = (Source.lines source).map (Line.moved m) ∧
      (∀ l ∈ Source.lines source, Source.HasLine source l ∧ Source.HasLine source' (l.moved m)) ∧
      assemble cs source' = (assemble cs source).mapError (Fault.moved m) ∧
      (Source.lines source = [] →
        assemble cs source = .error (.syntactic 0 (.endOfInput .scriptHeader)) ∧
          assemble cs source' = .error (.syntactic 0 (.endOfInput .scriptHeader))) := by
  have hsame : assemble cs source' = (assemble cs source).mapError (Fault.moved m) := by
    rw [assemble, assemble, h.lines]
    exact (Assembly.moves_assembleLines cs (Source.lines source) h.zero).eq_mapError
  refine ⟨h.lines, fun l hl => ⟨Source.hasLine_of_mem hl, ?_⟩, hsame, fun hnil => ?_⟩
  · apply Source.hasLine_of_mem
    rw [h.lines]
    exact List.mem_map_of_mem hl
  · have hold : assemble cs source = .error (.syntactic 0 (.endOfInput .scriptHeader)) := by
      rw [assemble, hnil]
      rfl
    refine ⟨hold, ?_⟩
    rw [hsame, hold]
    show Except.error (Fault.syntactic (m 0) _) = _
    rw [h.zero]

def tightLines : List Text :=
  ["script a", "strings", "f = \"; f\"", "endstrings", "function f,0", "jmp x", "endfunction"].map
    String.toList

/-- The same lines with a line without text, a comment that opens a literal, and white space. -/
def looseLines : List Text :=
  ["; \"a", "script a", "strings", "f = \"; f\";\"", "endstrings", "function f,0", "\tjmp x\r",
    "endfunction"].map String.toList

/-- A jump to a label that does not exist is blamed on its line, wherever that is. -/
theorem assemble_relaid_loose :
    assemble .utf8 (['\n'].intercalate tightLines) =
        .error (.semantic 6 (.undefinedLabel ['x'] ['f'])) ∧
      assemble .utf8 (['\n'].intercalate looseLines) =
        .error (.semantic 7 (.undefinedLabel ['x'] ['f'])) := by
  have htight : (['\n'].intercalate tightLines).splitOn '\n' = tightLines := by decide +kernel
  have hloose : (['\n'].intercalate looseLines).splitOn '\n' = looseLines := by decide +kernel
  have hpad : Source.Edit id tightLines
      (tightLines.take 5 ++ "\tjmp x\r".toList :: tightLines.drop 6) :=
    .pad (tightLines.take 5) (tightLines.drop 6) (by decide +kernel)
  have hcomment : Source.Edit id (tightLines.take 5 ++ "\tjmp x\r".toList :: tightLines.drop 6)
      (looseLines.drop 1) :=
    .comment (tightLines.take 2) (looseLines.drop 4) (by decide +kernel) ['"']
  have hinsert : Source.Edit (Source.shift 0) (looseLines.drop 1) looseLines :=
    .insert [] (looseLines.drop 1) ⟨[], nofun, .inr ⟨" \"a".toList, by decide +kernel⟩⟩
  have hedits := (((Source.Edits.none tightLines).snoc hpad).snoc hcomment).snoc hinsert
  have hfault : assemble .utf8 (['\n'].intercalate tightLines) =
      .error (.semantic 6 (.undefinedLabel ['x'] ['f'])) := by decide +kernel
  rw [← htight, ← hloose] at hedits
  refine ⟨hfault, ?_⟩
  rw [(assemble_relaid .utf8 hedits).2.2.1, hfault]
  rfl

end NovelScript
