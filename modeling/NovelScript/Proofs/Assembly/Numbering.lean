import NovelScript.Assembly.Assemble
import NovelScript.Proofs.Outcome
import NovelScript.Proofs.Source.Lines

/-!
The number of a line in what is read of it. Every check of a line blames this very line, and nothing
else in its outcome depends on the number: when the line gets a new number, the same is read of it,
or the same fault is found in it (`Relined`). Placeholders keep the numbers of the lines that they
were noted in, so the state of the assembler gets new numbers as well (`Phase.moved`).
-/

namespace NovelScript

/-- The same fault of the line `n`, before and after the line has got its new number. -/
inductive Fault.Relined (m : Nat → Nat) (n : Nat) : Fault → Fault → Prop
  | syntactic (cause : SyntaxCause) : Relined m n (.syntactic n cause) (.syntactic (m n) cause)
  | semantic (cause : SemanticCause) : Relined m n (.semantic n cause) (.semantic (m n) cause)

/-- The second outcome is what `f` makes of the first one, or both are the same fault of the line
`n`, which has its new number in the second one. -/
abbrev Relined (m : Nat → Nat) (n : Nat) {α β : Type} (f : α → β) :
    Except Fault α → Except Fault β → Prop :=
  Outcome.Follows (Fault.Relined m n) f

variable {m : Nat → Nat}

/-! ### Checks in one line -/

namespace Number

theorem relined_expect (n : Nat) (token : Text) :
    Relined m n id (expect n token) (expect (m n) token) := by
  rw [expect, expect]
  cases parse? token with
  | some number => exact .ok number
  | none => exact .error (.syntactic _)

theorem relined_checkRange (n : Nat) (token : Text) (least greatest number : Int) :
    Relined m n id (checkRange n token least greatest number)
      (checkRange (m n) token least greatest number) :=
  .ite Iff.rfl (fun _ => .error (.semantic _)) fun _ => .ok number

theorem relined_bounded {α : Type} (n : Nat) (token : Text) (least greatest : Int) (f : Int → α) :
    Relined m n id
      (do
        let number ← expect n token
        let number ← checkRange n token least greatest number
        return f number)
      (do
        let number ← expect (m n) token
        let number ← checkRange (m n) token least greatest number
        return f number) :=
  (relined_expect n token).bind fun number _ =>
    (relined_checkRange n token least greatest number).bind fun number _ => .ok (f number)

theorem relined_word (n : Nat) (token : Text) :
    Relined m n id (word n token) (word (m n) token) :=
  relined_bounded n token _ _ _

theorem relined_byte (n : Nat) (token : Text) :
    Relined m n id (byte n token) (byte (m n) token) :=
  relined_bounded n token _ _ _

theorem relined_count (n : Nat) (token : Text) :
    Relined m n id (count n token) (count (m n) token) :=
  relined_bounded n token _ _ _

theorem relined_native (n : Nat) (token : Text) :
    Relined m n id (native n token) (native (m n) token) := by
  rw [native, native]
  generalize (Text.after? "@native".toList token).bind _ = number?
  cases number? with
  | none => exact .error (.syntactic _)
  | some number => exact (relined_checkRange n token _ _ number).map_id _

end Number

namespace Declaration

theorem relined_nameBytes (cs : Charset) (n : Nat) (name : Text) :
    Relined m n id (nameBytes cs n name) (nameBytes cs (m n) name) := by
  refine .ite Iff.rfl (fun _ => ?_) fun _ => .ok _
  cases Literal.parse name with
  | ok pieces => exact .ok _
  | error cause => exact .error (.syntactic cause)

theorem relined_scriptName (cs : Charset) (line : Line) :
    Relined m line.number id (scriptName cs line) (scriptName cs (line.moved m)) := by
  rw [scriptName, scriptName]
  refine .guard Iff.rfl (.syntactic _) fun _ => ?_
  refine (relined_nameBytes cs line.number _).bind fun bytes? _ => ?_
  cases bytes? with
  | none => exact .error (.semantic _)
  | some bytes =>
    refine .guard Iff.rfl (.semantic _) fun _ => ?_
    exact .guard Iff.rfl (.semantic _) fun _ => .ok bytes

theorem relined_stringDefinition (line : Line) :
    Relined m line.number id (stringDefinition line) (stringDefinition (line.moved m)) := by
  rw [stringDefinition, stringDefinition, Line.moved]
  cases Source.splitAssignment line.text with
  | none => exact .error (.syntactic _)
  | some pair => exact .ite Iff.rfl (fun _ => .error (.syntactic _)) fun _ => .ok pair

theorem relined_stringBytes (cs : Charset) (n : Nat) (name value : Text) :
    Relined m n id (stringBytes cs n name value) (stringBytes cs (m n) name value) := by
  rw [stringBytes, stringBytes]
  cases Literal.parse value with
  | error cause => exact .error (.syntactic cause)
  | ok pieces =>
    simp only
    cases Literal.encode cs pieces with
    | none => exact .error (.semantic _)
    | some bytes => exact .ite Iff.rfl (fun _ => .error (.semantic _)) fun _ => .ok bytes

theorem relined_functionHeader (line : Line) :
    Relined m line.number id (functionHeader line) (functionHeader (line.moved m)) := by
  rw [functionHeader, functionHeader, Line.moved]
  generalize (afterKeyword? "function" line.text).bind _ = split?
  cases split? with
  | none => exact .error (.syntactic _)
  | some pair =>
    refine .ite Iff.rfl (fun _ => .error (.syntactic _)) fun _ => ?_
    exact (Number.relined_count line.number _).map_id _

end Declaration

namespace Statement

theorem relined_argument (n : Nat) (kind : OperandKind) (token : Text) :
    Relined m n id (argument n kind token) (argument (m n) kind token) := by
  cases kind with
  | slot => exact .ok _
  | byte => exact (Number.relined_byte n token).map_id _
  | word => exact (Number.relined_word n token).map_id _
  | constant =>
    exact .ite Iff.rfl (fun _ => (Number.relined_word n token).map_id _) fun _ => .ok _
  | table => exact (Number.relined_word n token).map_id _
  | function => exact .ok _
  | native => exact (Number.relined_native n token).map_id _
  | label =>
    exact .ite Iff.rfl (fun _ => (Number.relined_word n token).map_id _) fun _ => .ok _

theorem relined_argumentList (n : Nat) (pairs : List (OperandKind × Text)) :
    Relined m n id (argumentList n pairs) (argumentList (m n) pairs) := by
  induction pairs with
  | nil => exact .ok []
  | cons pair pairs ih =>
    exact (relined_argument n pair.1 pair.2).bind fun a _ => ih.bind fun as _ => .ok (a :: as)

theorem relined_tableEntries (n : Nat) (tokens : List Text) :
    Relined m n id (tableEntries n tokens) (tableEntries (m n) tokens) := by
  induction tokens with
  | nil => exact .ok []
  | cons token tokens ih =>
    exact (Number.relined_word n token).bind fun w _ => ih.bind fun ws _ => .ok (w :: ws)

theorem relined_arguments (n : Nat) (mnemonic : Text) (opcode : Opcode) (tokens : List Text) :
    Relined m n id (arguments n mnemonic opcode tokens)
      (arguments (m n) mnemonic opcode tokens) := by
  refine .ite Iff.rfl (fun _ => ?_) fun _ => ?_
  · refine .ite Iff.rfl (fun _ => .error (.semantic _)) fun _ => ?_
    exact (relined_tableEntries n tokens).map_id _
  · exact .ite Iff.rfl (fun _ => .error (.syntactic _)) fun _ => relined_argumentList n _

theorem relined_splitOperands (line : Line) (rest : Text) :
    Relined m line.number id (splitOperands line rest) (splitOperands (line.moved m) rest) :=
  .ite Iff.rfl (fun _ => .ok []) fun _ =>
    .ite Iff.rfl (fun _ => .error (.syntactic _)) fun _ => .ok _

theorem relined_parse (line : Line) :
    Relined m line.number id (parse line) (parse (line.moved m)) := by
  rw [parse, parse, Line.moved]
  cases definedLabel? line.text with
  | some name => exact .ok _
  | none =>
    obtain ⟨mnemonic, rest⟩ := splitMnemonic line.text
    refine (relined_splitOperands line rest).bind fun tokens _ => ?_
    simp only [id]
    cases Opcode.ofMnemonic? mnemonic with
    | none => exact .error (.syntactic _)
    | some opcode =>
      exact (relined_arguments line.number mnemonic opcode tokens).bind fun as _ => .ok _

end Statement

namespace Assembly

/-! ### The state with new numbers -/

def Fixup.moved (m : Nat → Nat) (f : Fixup) : Fixup := { f with line := m f.line }

def Draft.moved (m : Nat → Nat) (d : Draft) : Draft :=
  { d with jumps := d.jumps.map (Fixup.moved m), calls := d.calls.map (Fixup.moved m) }

def Assembled.moved (m : Nat → Nat) (a : Assembled) : Assembled :=
  { a with calls := a.calls.map (Fixup.moved m) }

def Progress.moved (m : Nat → Nat) (p : Progress) : Progress :=
  { p with done := p.done.map (Assembled.moved m) }

def Phase.moved (m : Nat → Nat) : Phase → Phase
  | start => start
  | named name => named name
  | strings name table => strings name table
  | between p => between (p.moved m)
  | inside p d => inside (p.moved m) (d.moved m)

@[simp] theorem Draft.labels_moved (d : Draft) : (d.moved m).labels = d.labels := rfl

@[simp] theorem Progress.table_moved (p : Progress) : (p.moved m).table = p.table := rfl

theorem codeEnd_moved (done : List Assembled) :
    codeEnd (done.map (Assembled.moved m)) = codeEnd done := by
  rw [codeEnd, codeEnd, List.getLast?_map]
  cases done.getLast? with
  | none => rfl
  | some a => rfl

/-! ### Lines of functions -/

namespace Draft

theorem relined_slot (d : Draft) (n : Nat) (name : Text) :
    Relined m n (Prod.map id (moved m)) (d.slot n name) ((d.moved m).slot (m n) name) := by
  rw [slot, slot, moved]
  cases d.locals.idxOf? name with
  | some i => exact .ok (UInt8.ofNat i, d)
  | none =>
    refine .ite Iff.rfl (fun _ => .error (.semantic _)) fun _ => ?_
    exact .ok (UInt8.ofNat d.locals.length, { d with locals := d.locals ++ [name] })

theorem relined_argument (table : StringTable) (n : Nat) (d : Draft) (a : Argument) :
    Relined m n (moved m) (d.argument table n a) ((d.moved m).argument table (m n) a) := by
  cases a with
  | operand o => exact .ok (d.emit (.block o.encode))
  | slot name => exact (d.relined_slot n name).map fun _ _ => rfl
  | string name =>
    rw [argument, argument]
    cases table.lookup name with
    | none => exact .error (.semantic _)
    | some entry => exact .ok (d.emit (.u32 entry.pos))
  | function name =>
    have hcalls : (d.moved m).calls ++ [(d.moved m).fixup name (m n)] =
        (d.calls ++ [d.fixup name n]).map (Fixup.moved m) := by
      rw [List.map_append]
      rfl
    rw [argument, argument, hcalls]
    exact .ok { d.emit (.u32 unresolved) with calls := d.calls ++ [d.fixup name n] }
  | label name =>
    have hjumps : (d.moved m).jumps ++ [(d.moved m).fixup name (m n)] =
        (d.jumps ++ [d.fixup name n]).map (Fixup.moved m) := by
      rw [List.map_append]
      rfl
    rw [argument, argument, hjumps, labels_moved]
    cases d.labels.lookup name with
    | some address => exact .ok (d.emit (.u32 address))
    | none => exact .ok { d.emit (.u32 unresolved) with jumps := d.jumps ++ [d.fixup name n] }

theorem relined_statement (table : StringTable) (n : Nat) (d : Draft) (s : Statement) :
    Relined m n (moved m) (d.statement table n s) ((d.moved m).statement table (m n) s) := by
  cases s with
  | label name =>
    rw [statement, statement, labels_moved]
    cases d.labels.lookup name with
    | some address => exact .error (.semantic _)
    | none => exact .ok { d with labels := (name, d.cursor) :: d.labels }
  | instruction opcode arguments =>
    have hloop : Relined m n (moved m)
        (arguments.foldlM (argument table n) (d.emit (.u8 opcode.byte)))
        (arguments.foldlM (argument table (m n)) ((d.emit (.u8 opcode.byte)).moved m)) :=
      .foldlM_same (fun d a => d.relined_argument table n a) arguments _
    exact hloop.map fun _ _ => rfl

end Draft

/-! ### Lines outside of functions -/

theorem relined_addString (cs : Charset) (table : StringTable) (line : Line) :
    Relined m line.number id (addString cs table line) (addString cs table (line.moved m)) := by
  rw [addString, addString]
  refine (Declaration.relined_stringDefinition line).bind fun pair _ => ?_
  refine .guard Iff.rfl (.semantic _) fun _ => ?_
  refine (Declaration.relined_stringBytes cs line.number pair.1 pair.2).bind fun bytes _ => ?_
  exact .guard Iff.rfl (.semantic _) fun _ => .ok _

theorem relined_openFunction (p : Progress) (line : Line) :
    Relined m line.number (Draft.moved m) (openFunction p line)
      (openFunction (p.moved m) (line.moved m)) := by
  rw [openFunction, openFunction]
  refine .guard Iff.rfl (.syntactic _) fun _ => ?_
  refine (Declaration.relined_functionHeader line).bind fun header _ => ?_
  obtain ⟨name, params⟩ := header
  have hend : codeEnd (p.moved m).done = codeEnd p.done := codeEnd_moved p.done
  have hany : (p.moved m).done.any (fun a => decide (a.name = name)) =
      p.done.any fun a => decide (a.name = name) := by
    rw [Progress.moved, List.any_map]
    rfl
  simp only [id, hend, hany, Progress.table_moved]
  cases p.table.lookup name with
  | none => exact .error (.semantic _)
  | some entry => exact .guard Iff.rfl (.semantic _) fun _ => .ok _

end Assembly

end NovelScript
