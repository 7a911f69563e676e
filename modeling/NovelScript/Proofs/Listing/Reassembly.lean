import NovelScript.Proofs.Assembly.Agreement
import NovelScript.Proofs.Listing.Layout

/-!
Assembling a listing. In the program of a script all names resolve to what they were made of
(`resolves_scope`), so it is assembled to the normal form of the script (`script?_program`). With
the agreement of the assemblers this says what disassembling and assembling again does to a script.
-/

namespace NovelScript.Listing

open Assembly

variable {script : Script} (cs : Charset)

/-! ### Strings -/

theorem tableFrom_strings {cursor : Nat} {strings : List StringEntry}
    (h : Script.StringsPacked cursor strings)
    (hwords : ∀ s ∈ strings, s.bytes.length + 1 < 2 ^ 32) :
    TwoPass.tableFrom cursor (strings.map fun s => (symbolName script cs s.pos, s.bytes)) =
      strings.map fun s => (symbolName script cs s.pos, s) := by
  induction strings generalizing cursor with
  | nil => rfl
  | cons s strings ih =>
    obtain ⟨hpos, hrest⟩ := h
    have hentry : (⟨UInt32.ofNat cursor, s.bytes⟩ : StringEntry) = s := by
      rw [← hpos, UInt32.ofNat_toNat]
    rw [List.forall_mem_cons] at hwords
    have hsize : TwoPass.stringSize s.bytes = s.bytes.length + 1 := Nat.mod_eq_of_lt hwords.1
    rw [List.map_cons, TwoPass.tableFrom, hentry, hsize, ← Nat.add_assoc, ih hrest hwords.2,
      List.map_cons]

def tableOf (script : Script) (cs : Charset) : StringTable :=
  script.strings.map fun s => (symbolName script cs s.pos, s)

theorem nodup_positions (hscript : script.Listable) : (script.strings.map (·.pos)).Nodup := by
  obtain ⟨bytes, hbytes⟩ :=
    Script.exists_layStrings_of_packed hscript.strings_packed hscript.strings_zero
  have hpairs := (Container.pairwise_of_layStrings hbytes).2
  exact List.pairwise_map.2 (hpairs.imp fun h => UInt32.ne_of_lt h)

theorem nodup_symbols (hscript : script.Listable) :
    ((tableOf script cs).map Prod.fst).Nodup := by
  have hinjective : Function.Injective (symbolName script cs) := fun _ _ => symbolName_inj.1
  have hnames := (nodup_positions hscript).map hinjective
  rw [List.map_map] at hnames
  rw [tableOf, List.map_map]
  exact hnames

theorem lookup_symbolName (hscript : script.Listable) {pos : UInt32}
    (hpos : pos ∈ script.strings.map (·.pos)) :
    ∃ s, (tableOf script cs).lookup (symbolName script cs pos) = some s ∧ s.pos = pos := by
  obtain ⟨s, hs, rfl⟩ := List.mem_map.1 hpos
  exact ⟨s, Association.lookup_of_mem (nodup_symbols cs hscript) (List.mem_map.2 ⟨s, hs, rfl⟩), rfl⟩

/-! ### Functions -/

theorem nodup_routines (hscript : script.Listable) :
    ((program script cs).routines.map (·.name)).Nodup := by
  have hinjective : Function.Injective (symbolName script cs) := fun _ _ => symbolName_inj.1
  have hnames := hscript.names_nodup.map hinjective
  rw [List.map_map] at hnames
  rw [program, List.map_map]
  exact hnames

theorem findIdx?_routines (hscript : script.Listable) (i : Nat) (hi : i < script.functions.length) :
    (program script cs).routines.findIdx?
      (·.name = symbolName script cs script.functions[i].name) = some i := by
  have hlen : i < (program script cs).routines.length := by
    rw [program, List.length_map]
    exact hi
  have hname {j : Nat} (hj : j < script.functions.length)
      (hj' : j < (program script cs).routines.length) :
      (program script cs).routines[j].name = symbolName script cs script.functions[j].name := by
    simp only [program, List.getElem_map, routineOf]
  refine List.findIdx?_eq_some_iff_getElem.2 ⟨hlen, decide_eq_true (hname hi hlen), ?_⟩
  intro j hj heq
  have hj' : j < script.functions.length := Nat.lt_trans hj hi
  -- an earlier function with this symbol would have the same name
  rw [decide_eq_true_eq, hname hj' (Nat.lt_trans hj hlen), symbolName_inj] at heq
  have hnodup := hscript.names_nodup
  have hjlt : j < (script.functions.map (·.name)).length := by rwa [List.length_map]
  have hilt : i < (script.functions.map (·.name)).length := by rwa [List.length_map]
  have hget : (script.functions.map (·.name))[j] = (script.functions.map (·.name))[i] := by
    rw [List.getElem_map, List.getElem_map, heq]
  have hindex := hnodup.getElem_inj_iff.1 hget
  omega

/-- In the program of a script every name stands for what it was made of. -/
theorem resolves_scope (hscript : script.Listable) {f : FunctionEntry} (hf : f ∈ script.functions)
    (start : Nat) :
    Resolves script cs f start (TwoPass.scope (tableOf script cs) (program script cs).routines
      start (routineOf script cs f).body) where
  strings pos hpos := by
    obtain ⟨s, hs, rfl⟩ := lookup_symbolName cs hscript hpos
    show ((tableOf script cs).lookup _).map _ = _
    rw [hs]
    rfl
  functions i hi := by
    show ((program script cs).routines.findIdx? _).map _ = _
    rw [findIdx?_routines cs hscript i hi]
    rfl
  labels target htarget := lookup_label (hscript.functions_listable f hf) start htarget
  locals index hindex := by
    show (TwoPass.locals _).idxOf _ = _
    rw [locals_routineOf (hscript.functions_listable f hf)]
    exact FirstUses.idxOf_map (fun _ _ => slotName_inj) _ _

theorem instructions?_body (hscript : script.Listable) {f : FunctionEntry} {start : Nat}
    {σ : TwoPass.Scope} (hσ : Resolves script cs f start σ)
    (hcall : ∀ index ∈ f.calls, index.toNat < script.functions.length) {ps : List Placed}
    (hps : ∀ p ∈ ps, p ∈ (Sweep.ofCode f.code).found)
    (hwf : ∀ p ∈ ps, p.instruction.WellFormed) :
    σ.instructions? (ps.flatMap (entriesOf script cs (decoded f))) =
      some ((ps.map Placed.instruction).map (f.normalInstruction start)) := by
  induction ps with
  | nil => rfl
  | cons p ps ih =>
    have hp := instruction?_tokens hscript hσ (hps p List.mem_cons_self) hcall
      (hwf p List.mem_cons_self)
    have hrest := ih (fun q hq => hps q (List.mem_cons_of_mem p hq))
      fun q hq => hwf q (List.mem_cons_of_mem p hq)
    have hentries : σ.instructions? (entriesOf script cs (decoded f) p) =
        some [f.normalInstruction start p.instruction] := by
      rw [entriesOf, TwoPass.Scope.instructions?_append,
        TwoPass.Scope.instructions?_instruction, hp]
      split
      · rw [TwoPass.Scope.instructions?_label]
        rfl
      · rfl
    rw [List.flatMap_cons, TwoPass.Scope.instructions?_append, hentries, hrest]
    rfl

theorem function?_routineOf (hscript : script.Listable) {f : FunctionEntry}
    (hf : f ∈ script.functions) (start : Nat) :
    TwoPass.function? (tableOf script cs) (program script cs).routines start
      (routineOf script cs f) = some (f.normalAt start) := by
  have hlistable := hscript.functions_listable f hf
  obtain ⟨s, hs, hpos⟩ := lookup_symbolName cs hscript (hscript.names_mem f hf)
  have hbody := instructions?_body cs hscript (resolves_scope cs hscript hf start)
    hlistable.calls_lt (fun p hp => hp) fun p hp => wellFormed_of_mem_found hlistable.sweeps hp
  refine TwoPass.function?_eq_some_iff.2 ⟨s, _, hs, hbody, ?_⟩
  rw [locals_routineOf hlistable, List.length_map, hpos]
  rfl

theorem size_routineOf {f : FunctionEntry} (hlistable : f.Listable script.functions.length) :
    (routineOf script cs f).size = f.code.length := by
  have hstop := hlistable.stop_lt
  rw [TwoPass.Routine.size, codeSize_routineOf hlistable]
  exact Nat.mod_eq_of_lt (by omega)

theorem functionsFrom?_routines (hscript : script.Listable) {fs : List FunctionEntry}
    (hfs : ∀ f ∈ fs, f ∈ script.functions) (start : Nat) :
    TwoPass.functionsFrom? (tableOf script cs) (program script cs).routines start
      (fs.map (routineOf script cs)) = some (Script.packFrom start fs) := by
  induction fs generalizing start with
  | nil => rfl
  | cons f fs ih =>
    have hf := hfs f List.mem_cons_self
    have hrest := ih (fun g hg => hfs g (List.mem_cons_of_mem f hg)) (start + f.code.length)
    rw [List.map_cons, TwoPass.functionsFrom?, function?_routineOf cs hscript hf,
      size_routineOf cs (hscript.functions_listable f hf), hrest]
    rfl

/-! ### The program as a whole -/

theorem routineOf_valid (hscript : script.Listable) {f : FunctionEntry}
    (hf : f ∈ script.functions) : (routineOf script cs f).Valid where
  hasInstruction := by
    have hlistable := hscript.functions_listable f hf
    obtain ⟨is, -, hcode, -, hfound⟩ := hlistable.exists_instructions
    cases is with
    | nil => exact absurd hcode hlistable.code_ne
    | cons i is =>
      rw [List.any_eq_true]
      have hmem : (⟨0, i, is.flatMap Instruction.encode⟩ : Placed) ∈ (decoded f).instructions := by
        rw [decoded, hfound]
        exact List.mem_cons_self
      refine ⟨_, List.mem_flatMap.2
        ⟨_, hmem, List.mem_append_right _ (List.mem_singleton.2 rfl)⟩, rfl⟩
  labels_nodup := nodup_labels (hscript.functions_listable f hf) 0
  locals_le := by
    rw [locals_routineOf (hscript.functions_listable f hf), List.length_map]
    exact f.length_slots_le

theorem program_valid (hscript : script.Listable) : (program script cs).Valid where
  strings_ne := by
    rw [program, ne_eq, List.map_eq_nil_iff]
    exact hscript.strings_ne
  strings_nodup := by
    have hsymbols := nodup_symbols cs hscript
    rw [tableOf, List.map_map] at hsymbols
    rw [program, List.map_map]
    exact hsymbols
  strings_size := by
    have hsizes : ((program script cs).strings.map fun s => s.2.length + 1).sum =
        script.stringsLength := by
      rw [program, List.map_map]
      rfl
    have hsize := hscript.strings_size
    rw [← hsizes] at hsize
    rwa [TwoPass.sectionSize_eq hsize]
  routines_ne := by
    rw [program, ne_eq, List.map_eq_nil_iff]
    exact hscript.functions_ne
  routines_nodup := nodup_routines cs hscript
  code_size := by
    have hsizes : script.functions.map (TwoPass.Routine.size ∘ routineOf script cs) =
        script.functions.map fun f => f.code.length :=
      List.map_congr_left fun f hf => size_routineOf cs (hscript.functions_listable f hf)
    rw [program, TwoPass.programSize, List.map_map, hsizes]
    exact hscript.code_size
  routines_valid r hr := by
    obtain ⟨f, hf, rfl⟩ := List.mem_map.1 hr
    exact routineOf_valid cs hscript hf

/-- The program of a script is assembled to the normal form of the script. -/
theorem script?_program (hscript : script.Listable) :
    (program script cs).script? = some script.normalForm := by
  have htable : TwoPass.tableFrom 0 (program script cs).strings = tableOf script cs :=
    tableFrom_strings cs hscript.strings_packed fun _ hs =>
      Nat.lt_of_le_of_lt (Script.length_bytes_lt hs) hscript.strings_size
  have hstrings : (tableOf script cs).map Prod.snd = script.strings := by
    rw [tableOf, List.map_map]
    exact List.map_id _
  have hfunctions : TwoPass.functionsFrom? (tableOf script cs) (program script cs).routines 0
      (program script cs).routines = some (Script.packFrom 0 script.functions) :=
    functionsFrom?_routines cs hscript (fun f hf => hf) 0
  rw [TwoPass.Program.script?_eq_some_iff, htable, hstrings]
  exact ⟨program_valid cs hscript, _, hfunctions, rfl⟩

/-- Lines that are read as the program of a script are assembled to its normal form. -/
theorem assembleLines_of_program? (hscript : script.Listable) {ls : List Line}
    (h : TwoPass.program? cs ls = some (program script cs)) :
    assembleLines cs ls = .ok script.normalForm := by
  rw [assembleLines_eq_ok_iff, TwoPass.assembleLines, h]
  exact script?_program cs hscript

end NovelScript.Listing

namespace NovelScript

open Assembly

/-- Disassembling a script and assembling the listing leaves the normal form of the script. The
script need not come from the assembler: its functions may stand anywhere, and its jumps may lead
anywhere. -/
theorem assemble_disassemble {s : Script} (h : s.Listable) (cs : Charset) {cast : Cast}
    (hcast : ∀ name ∈ cast.names, '\n' ∉ name) :
    ∃ text, disassemble s cs cast = .ok text ∧ assemble cs text = .ok s.normalForm := by
  obtain ⟨text, htext, hprogram⟩ := Listing.exists_disassemble cs h hcast
  exact ⟨text, htext, Listing.assembleLines_of_program? cs h hprogram⟩

/-- A script with gaps between its functions, which do not stand in the order of their table, with
an unused local, a jump into the middle of an instruction, a name that needs quotes, and two strings
with the text of one name. -/
def scatteredScript : Script where
  name := [0x61, 0x20]
  strings := [⟨0, [0x66]⟩, ⟨2, [0x66]⟩, ⟨4, [0xff, 0x0a]⟩]
  functions := [
    { name := 2, pos := 100, params := 2, locals := 7
      code := [0x01, 0x05, 0x21, 0x64, 0x00, 0x00, 0x00, 0x21, 0x65, 0x00, 0x00, 0x00, 0x2c] },
    { name := 0, pos := 10, code := [0x25, 0x00, 0x00, 0x00, 0x00, 0x2c] }]

theorem assemble_disassemble_scattered :
    scatteredScript.Listable ∧ (∀ name ∈ Cast.standard.names, '\n' ∉ name) ∧
      ∃ text, disassemble scatteredScript .shiftJis Cast.standard = .ok text ∧
        assemble .shiftJis text = .ok scatteredScript.normalForm := by
  have hscript : scatteredScript.Listable := by decide +kernel
  have hcast : ∀ name ∈ Cast.standard.names, '\n' ∉ name := by decide
  exact ⟨hscript, hcast, assemble_disassemble hscript .shiftJis hcast⟩

/-- The function moves to the front and takes the jump to its start along, but not the one into its
first instruction; its one local becomes the first. -/
example : scatteredScript.normalForm.functions = [
    { name := 2, pos := 0, params := 2, locals := 1
      code := [0x01, 0x00, 0x21, 0x00, 0x00, 0x00, 0x00, 0x21, 0x65, 0x00, 0x00, 0x00, 0x2c] },
    { name := 0, pos := 13, code := [0x25, 0x00, 0x00, 0x00, 0x00, 0x2c] }] := by
  decide +kernel

end NovelScript
