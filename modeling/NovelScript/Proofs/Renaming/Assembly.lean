import NovelScript.Assembly.Assemble
import NovelScript.Proofs.Association
import NovelScript.Proofs.FirstUses
import NovelScript.Proofs.Renaming.Statements

/-!
Assembling renamed lines. Wherever the assembler keeps a name it keeps the new name instead, so its
state after renamed lines is the renamed state (`Phase.rename`). Names are looked up among names of
the same role only, so what is found does not depend on the names. One line takes renamed states to
renamed states (`Phase.step_rename`), and so do all lines of a source text (`Phase.run_rename`).
-/

namespace NovelScript.Assembly

variable {σ : Renaming}

/-! ### The state with new names -/

def renameTable (σ : Renaming) (table : StringTable) : StringTable :=
  table.map (Prod.map (σ .symbol) id)

def Fixup.rename (f : Text → Text) (x : Fixup) : Fixup := { x with target := f x.target }

def Draft.rename (σ : Renaming) (function : Nat) (d : Draft) : Draft :=
  { d with
    name := σ .symbol d.name
    locals := d.locals.map (σ (.slot function))
    labels := d.labels.map (Prod.map (σ (.label function)) id)
    jumps := d.jumps.map (Fixup.rename (σ (.label function)))
    calls := d.calls.map (Fixup.rename (σ .symbol)) }

def Assembled.rename (σ : Renaming) (a : Assembled) : Assembled :=
  { a with name := σ .symbol a.name, calls := a.calls.map (Fixup.rename (σ .symbol)) }

def Progress.rename (σ : Renaming) (p : Progress) : Progress :=
  { p with table := renameTable σ p.table, done := p.done.map (Assembled.rename σ) }

namespace Phase

def rename (σ : Renaming) : Phase → Phase
  | start => start
  | named name => named name
  | strings name table => strings name (renameTable σ table)
  | between p => between (p.rename σ)
  | inside p d => inside (p.rename σ) (d.rename σ p.done.length)

/-- Where the next line stands. -/
def place : Phase → Place
  | start => .header
  | named _ => .opening
  | strings _ _ => .strings
  | between p => .between p.done.length
  | inside p _ => .inside p.done.length

/-- The state of the assembler agrees with the place of a line. -/
theorem place_of_step {cs : Charset} {line : Line} {phase next : Phase} (hne : line.text ≠ [])
    (h : phase.step cs line = .ok next) : next.place = phase.place.next line.text := by
  rw [Place.next.eq_def, if_neg hne]
  cases phase with
  | start =>
    obtain ⟨name, -, rfl⟩ := Outcome.map_eq_ok_iff.1 h
    rfl
  | named name =>
    rcases ite_eq_iff.1 h with ⟨-, h⟩ | ⟨-, h⟩
    · obtain rfl := Except.ok.inj h
      rfl
    · cases h
  | strings name table =>
    rw [step] at h
    split at h
    · rename_i hend
      split at h
      · cases h
      · obtain rfl := Except.ok.inj h
        exact (if_pos hend).symm
    · rename_i hend
      obtain ⟨table, -, rfl⟩ := Outcome.map_eq_ok_iff.1 h
      exact (if_neg hend).symm
  | between p =>
    obtain ⟨d, -, rfl⟩ := Outcome.map_eq_ok_iff.1 h
    rfl
  | inside p d =>
    rw [step] at h
    split at h
    · rename_i hend
      obtain ⟨a, -, rfl⟩ := Outcome.map_eq_ok_iff.1 h
      simp only [place, if_pos hend, List.length_append, List.length_singleton]
    · rename_i hend
      obtain ⟨statement, -, h⟩ := Outcome.bind_eq_ok_iff.1 h
      obtain ⟨d, -, h⟩ := Outcome.bind_eq_ok_iff.1 h
      obtain rfl := Except.ok.inj h
      simp only [place, if_neg hend]

end Phase

/-! ### Looking up names -/

theorem functionIndex?_rename (h : σ.Lawful) (done : List Assembled) (name : Text) :
    functionIndex? (done.map (Assembled.rename σ)) (σ .symbol name) = functionIndex? done name := by
  rw [functionIndex?, functionIndex?, List.findIdx?_map]
  congr 1
  funext a
  exact decide_eq_decide.2 (h.injective .symbol).eq_iff

theorem stringsEnd_rename (table : StringTable) :
    stringsEnd (renameTable σ table) = stringsEnd table := by
  rw [stringsEnd, stringsEnd, renameTable, List.getLast?_map]
  cases table.getLast? with
  | none => rfl
  | some p => rfl

theorem codeEnd_rename (done : List Assembled) :
    codeEnd (done.map (Assembled.rename σ)) = codeEnd done := by
  rw [codeEnd, codeEnd, List.getLast?_map]
  cases done.getLast? with
  | none => rfl
  | some a => rfl

/-! ### Functions -/

variable {function : Nat}

namespace Draft

theorem rename_jump (d : Draft) (name : Text) (line : Nat) :
    { (d.rename σ function).emit (.u32 unresolved) with
      jumps := (d.rename σ function).jumps ++
        [(d.rename σ function).fixup (σ (.label function) name) line] } =
      { d.emit (.u32 unresolved) with
        jumps := d.jumps ++ [d.fixup name line] }.rename σ function := by
  simp only [rename, emit, fixup, Fixup.rename, List.map_append, List.map_singleton]

theorem rename_call (d : Draft) (name : Text) (line : Nat) :
    { (d.rename σ function).emit (.u32 unresolved) with
      calls := (d.rename σ function).calls ++
        [(d.rename σ function).fixup (σ .symbol name) line] } =
      { d.emit (.u32 unresolved) with
        calls := d.calls ++ [d.fixup name line] }.rename σ function := by
  simp only [rename, emit, fixup, Fixup.rename, List.map_append, List.map_singleton]

theorem slot_rename (h : σ.Lawful) (d : Draft) (line : Nat) (name : Text) :
    Alike (Prod.map id (rename σ function)) (d.slot line name)
      ((d.rename σ function).slot line (σ (.slot function) name)) := by
  have hidx : (d.rename σ function).locals.idxOf? (σ (.slot function) name) =
      d.locals.idxOf? name :=
    FirstUses.idxOf?_map (fun _ _ => (h.injective (.slot function)).eq_iff) d.locals name
  have hlength : (d.rename σ function).locals.length = d.locals.length := List.length_map _
  have hnew : { d.rename σ function with
      locals := (d.rename σ function).locals ++ [σ (.slot function) name] } =
        { d with locals := d.locals ++ [name] }.rename σ function := by
    simp only [rename, List.map_append, List.map_singleton]
  rw [slot, slot, hidx]
  simp only [hlength, hnew]
  cases d.locals.idxOf? name with
  | some i => exact .ok (UInt8.ofNat i, d)
  | none =>
    simp only
    split
    · exact .error rfl
    · exact .ok (UInt8.ofNat d.locals.length, { d with locals := d.locals ++ [name] })

theorem lookup_labels_rename (h : σ.Lawful) (d : Draft) (name : Text) :
    (d.rename σ function).labels.lookup (σ (.label function) name) = d.labels.lookup name :=
  Association.lookup_map_fst (h.injective (.label function)) d.labels name

theorem argument_rename (h : σ.Lawful) (table : StringTable) (line : Nat) (d : Draft)
    (a : Argument) : Alike (rename σ function) (d.argument table line a)
      ((d.rename σ function).argument (renameTable σ table) line (a.rename σ function)) := by
  cases a with
  | operand o => exact .ok (d.emit (.block o.encode))
  | slot name => exact (d.slot_rename h line name).map fun _ _ => rfl
  | string name =>
    rw [Argument.rename, argument, argument, renameTable,
      Association.lookup_map_fst (h.injective .symbol)]
    cases table.lookup name with
    | none => exact .error rfl
    | some entry => exact .ok (d.emit (.u32 entry.pos))
  | function name =>
    rw [Argument.rename, argument, argument, rename_call]
    exact .ok _
  | label name =>
    rw [Argument.rename, argument, argument, d.lookup_labels_rename h, rename_jump]
    cases d.labels.lookup name with
    | some address => exact .ok (d.emit (.u32 address))
    | none => exact .ok _

theorem statement_rename (h : σ.Lawful) (table : StringTable) (line : Nat) (d : Draft)
    (s : Statement) : Alike (rename σ function) (d.statement table line s)
      ((d.rename σ function).statement (renameTable σ table) line (s.rename σ function)) := by
  cases s with
  | label name =>
    rw [Statement.rename, statement, statement, d.lookup_labels_rename h]
    cases d.labels.lookup name with
    | some address => exact .error rfl
    | none => exact .ok { d with labels := (name, d.cursor) :: d.labels }
  | instruction opcode arguments =>
    have hemit : (d.rename σ function).emit (.u8 opcode.byte) =
        (d.emit (.u8 opcode.byte)).rename σ function := rfl
    rw [Statement.rename, statement, statement, hemit]
    refine Outcome.Follows.map (.foldlM (fun d a => d.argument_rename h table line a) arguments _)
      ?_
    exact fun _ _ => rfl

theorem patchJump_rename (h : σ.Lawful) (d : Draft) (code : Bytes) (jump : Fixup) :
    Alike id (d.patchJump code jump)
      ((d.rename σ function).patchJump code (jump.rename (σ (.label function)))) := by
  rw [patchJump, patchJump, Fixup.rename, d.lookup_labels_rename h]
  cases d.labels.lookup jump.target with
  | none => exact .error rfl
  | some address => exact .of_eq fun _ _ => rfl

theorem finish_rename (h : σ.Lawful) (d : Draft) (line : Nat) :
    Alike (Assembled.rename σ) (d.finish line) ((d.rename σ function).finish line) := by
  have hlength : (d.rename σ function).locals.length = d.locals.length := List.length_map _
  rw [finish, finish]
  refine .guard Iff.rfl rfl fun _ => ?_
  refine Outcome.Follows.bind (.foldlM (fun code jump => d.patchJump_rename h code jump) d.jumps _)
    fun code _ => ?_
  refine .guard Iff.rfl rfl fun _ => ?_
  rw [hlength]
  exact .ok _

end Draft

/-! ### Lines -/

theorem stringBytes_rename (cs : Charset) (number : Nat) (name name' value : Text) :
    Alike id (Declaration.stringBytes cs number name value)
      (Declaration.stringBytes cs number name' value) := by
  rw [Declaration.stringBytes, Declaration.stringBytes]
  cases Literal.parse value with
  | error cause => exact .error rfl
  | ok pieces =>
    simp only
    cases Literal.encode cs pieces with
    | none => exact .error rfl
    | some bytes =>
      simp only
      split
      · exact .error rfl
      · exact .ok bytes

theorem addString_rename (h : σ.Lawful) (cs : Charset) (table : StringTable) (number : Nat)
    (t : Text) : Alike (renameTable σ) (addString cs table ⟨number, t⟩)
      (addString cs (renameTable σ table) ⟨number, σ.text .strings t⟩) := by
  rw [addString, addString]
  refine (h.stringDefinition number t).bind fun p _ => ?_
  obtain ⟨name, value⟩ := p
  have hlookup : (renameTable σ table).lookup (σ .symbol name) = table.lookup name :=
    Association.lookup_map_fst (h.injective .symbol) table name
  simp only [Renaming.renameFst, hlookup, stringsEnd_rename]
  refine .guard Iff.rfl rfl fun _ => ?_
  refine (stringBytes_rename cs number name _ value).bind fun bytes _ => ?_
  refine .guard Iff.rfl rfl fun _ => ?_
  have hnew (entry : StringEntry) : renameTable σ table ++ [(σ .symbol name, entry)] =
      renameTable σ (table ++ [(name, entry)]) := by
    rw [renameTable, renameTable, List.map_append]
    rfl
  rw [id_eq, hnew]
  exact .ok _

theorem openFunction_rename (h : σ.Lawful) (p : Progress) (number count : Nat) (t : Text) :
    Alike (Draft.rename σ function) (openFunction p ⟨number, t⟩)
      (openFunction (p.rename σ) ⟨number, σ.text (.between count) t⟩) := by
  rw [openFunction, openFunction]
  refine .guard (by rw [Renaming.opensFunction_text]) rfl fun _ => ?_
  refine (h.functionHeader number count t).bind fun header _ => ?_
  obtain ⟨name, params⟩ := header
  have hlookup : (p.rename σ).table.lookup (σ .symbol name) = p.table.lookup name :=
    Association.lookup_map_fst (h.injective .symbol) p.table name
  have hend : codeEnd (p.rename σ).done = codeEnd p.done := codeEnd_rename p.done
  have hany : (p.rename σ).done.any (fun a => decide (a.name = σ .symbol name)) =
      p.done.any fun a => decide (a.name = name) := by
    rw [Progress.rename, List.any_map]
    congr 1
    funext a
    exact decide_eq_decide.2 (h.injective .symbol).eq_iff
  simp only [Renaming.renameFst, hlookup, hend]
  cases p.table.lookup name with
  | none => exact .error rfl
  | some entry =>
    exact .guard (Bool.eq_iff_iff.1 hany.symm) rfl fun _ => .ok _

/-- A renamed line takes the renamed state to the renamed next one. -/
theorem Phase.step_rename (h : σ.Lawful) (cs : Charset) (number : Nat) {t : Text} (ht : t.trim = t)
    (phase : Phase) : Alike (Phase.rename σ) (phase.step cs ⟨number, t⟩)
      ((phase.rename σ).step cs ⟨number, σ.text phase.place t⟩) := by
  cases phase with
  | start =>
    have hsame : σ.text .header t = t := Renaming.write_singleton _
    rw [place, hsame]
    exact .map_same fun _ => rfl
  | named name =>
    have hsame : σ.text .opening t = t := Renaming.write_singleton _
    rw [place, hsame, rename, step]
    split
    · exact .ok (strings name [])
    · exact .error rfl
  | strings name table =>
    rw [rename, place, step, step]
    simp only [Renaming.text_eq_endstrings]
    split
    · have hnil : renameTable σ table = [] ↔ table = [] := List.map_eq_nil_iff
      simp only [hnil]
      split
      · exact .error rfl
      · exact .ok (between { name, table })
    · exact (addString_rename h cs table number t).map fun _ _ => rfl
  | between p => exact (openFunction_rename h p number p.done.length t).map fun _ _ => rfl
  | inside p d =>
    rw [rename, place, step, step]
    simp only [h.text_eq_endfunction ht]
    split
    · refine (d.finish_rename h number).map fun a _ => ?_
      rw [rename, Progress.rename, Progress.rename, List.map_append]
      rfl
    · refine (h.parse number ht).bind fun statement _ => ?_
      refine (d.statement_rename h p.table number statement).bind fun d _ => ?_
      exact .ok (inside p d)

/-- Renamed lines take the renamed state to the renamed last one. -/
theorem Phase.run_rename (h : σ.Lawful) (cs : Charset) {lines : List Line}
    (htext : ∀ l ∈ lines, l.text.trim = l.text ∧ l.text ≠ []) (phase : Phase) :
    Alike (Phase.rename σ) (phase.run cs lines)
      ((phase.rename σ).run cs (σ.lines phase.place lines)) := by
  induction lines generalizing phase with
  | nil => exact .ok phase
  | cons l lines ih =>
    obtain ⟨⟨htrim, hne⟩, hrest⟩ := List.forall_mem_cons.1 htext
    rw [Renaming.lines, run, run, List.foldlM_cons, List.foldlM_cons]
    refine (step_rename h cs l.number htrim phase).bind fun next hnext => ?_
    rw [← place_of_step hne hnext]
    exact ih hrest next

/-! ### Whole source texts -/

theorem Phase.finish_rename (line : Nat) (phase : Phase) :
    Alike (Progress.rename σ) (phase.finish line) ((phase.rename σ).finish line) := by
  cases phase with
  | between p =>
    have hnil : (p.rename σ).done = [] ↔ p.done = [] := List.map_eq_nil_iff
    rw [rename, finish, finish]
    simp only [hnil]
    split
    · exact .error rfl
    · exact .ok p
  | _ => exact .error rfl

theorem patchCall_rename (h : σ.Lawful) (done : List Assembled) (code : Bytes) (call : Fixup) :
    Alike id (patchCall done code call)
      (patchCall (done.map (Assembled.rename σ)) code (call.rename (σ .symbol))) := by
  rw [patchCall, patchCall, Fixup.rename, functionIndex?_rename h]
  cases functionIndex? done call.target with
  | none => exact .error rfl
  | some index => exact .of_eq fun _ _ => rfl

theorem linkCalls_rename (h : σ.Lawful) (done rest : List Assembled) :
    Alike id (linkCalls done rest)
      (linkCalls (done.map (Assembled.rename σ)) (rest.map (Assembled.rename σ))) := by
  induction rest with
  | nil => exact .ok []
  | cons a rest ih =>
    rw [List.map_cons, linkCalls, linkCalls]
    have hcalls := Outcome.Follows.foldlM (patchCall_rename h done) a.calls a.entry.code
    refine Outcome.Follows.bind hcalls fun code _ => ?_
    refine ih.bind fun entries _ => ?_
    exact .ok ({ a.entry with code } :: entries)

/-- No name is left in a script, so the renamed state gives the same one. -/
theorem Progress.link_rename (h : σ.Lawful) (p : Progress) : Alike id p.link (p.rename σ).link := by
  have hstrings : (p.rename σ).table.map Prod.snd = p.table.map Prod.snd := by
    rw [rename, renameTable, List.map_map]
    rfl
  rw [link, link, hstrings]
  exact (linkCalls_rename h p.done p.done).bind fun functions _ => .ok _

theorem lastNumber_rename (place : Place) (lines : List Line) :
    lastNumber (σ.lines place lines) = lastNumber lines := by
  have hlast (lines : List Line) :
      lastNumber lines = ((lines.map Line.number).getLast?).getD 0 := by
    rw [lastNumber, List.getLast?_map]
    cases lines.getLast? with
    | none => rfl
    | some l => rfl
  rw [hlast, hlast, Renaming.numbers_lines]

/-- Renamed source text is assembled as the source text is. -/
theorem assemble_rename_of_lawful (h : σ.Lawful) (cs : Charset) {source : Text}
    (hquotes : Source.QuotesConfined source) :
    Alike id (assemble cs source) (assemble cs (σ.rename source)) := by
  have htext : ∀ l ∈ Source.lines source, l.text.trim = l.text ∧ l.text ≠ [] := by
    intro l hl
    rw [Source.lines_eq] at hl
    exact Source.trim_of_mem_numberLines hl
  rw [assemble, assemble, assembleLines, assembleLines, h.lines_rename hquotes, lastNumber_rename]
  refine (Phase.start.run_rename h cs htext).bind fun phase _ => ?_
  refine (phase.finish_rename _).bind fun progress _ => ?_
  exact progress.link_rename h

end NovelScript.Assembly
