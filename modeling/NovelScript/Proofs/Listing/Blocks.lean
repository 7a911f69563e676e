import NovelScript.Proofs.Listing.Failures

/-!
What stands where in a listing. Behind the lines for the name and the strings every function has a
block of lines (`IsBlock`): its instructions in the order in which they are read, each on one line,
some of them behind the line of a label. What holds of the lines that are written for every function
is said of the text of a listing in these terms (`everyBlock_of_disassemble`).
-/

namespace NovelScript.Listing

/-! ### The lines of a function -/

def heading (script : Script) (cs : Charset) (cast : Cast) : List Text :=
  preamble cs ++ ("script ".toList ++ scriptName cs script.name) ::
    stringLines script cs cast (Symbols.build script cs)

/-- Lines that stand for addresses, each behind the line of its label if the address has one. -/
def labelled (labels : List UInt32) (rows : List (UInt32 × Text)) : List Text :=
  rows.flatMap fun (address, line) =>
    (if address ∈ labels then [labelName address ++ [':']] else []) ++ [line]

/-- The block of a function in a listing: an empty line, the header, the instructions, and the end.
The line of an instruction begins with a tab and the mnemonic. No line is broken. -/
structure IsBlock (script : Script) (cs : Charset) (f : FunctionEntry) (labels : List UInt32)
    (rows : List (UInt32 × Text)) (block : List Text) : Prop where
  eq : ∃ name, (Symbols.build script cs).string? f.name = some name ∧
    block = [] :: headerText name f.params :: labelled labels rows ++ ["endfunction".toList]
  rows : List.Forall₂ (fun p row => row.1 = p.1 ∧ '\t' :: p.2.opcode.mnemonic.toList <+: row.2)
    f.reading.found rows
  lineFeed : ∀ l ∈ block, '\n' ∉ l

/-- A text is a listing of the script, in which the block of every function has the property `P`. -/
def EveryBlock (script : Script) (cs : Charset) (cast : Cast) (text : Text)
    (P : FunctionEntry → List UInt32 → List (UInt32 × Text) → List Text → Prop) : Prop :=
  ∃ blocks : List (List Text), text = Text.unlines (heading script cs cast ++ blocks.flatten) ∧
    List.Forall₂ (fun f block => ∃ labels rows, IsBlock script cs f labels rows block ∧
      P f labels rows block) script.functions blocks

variable (script : Script) (cs : Charset)

def rowOf (d : Decoded) (p : Placed) : UInt32 × Text :=
  (Decoded.address d.function p,
    instructionLine p.instruction (p.instruction.operands.map (operandWord script cs d p)))

def rowsOf (f : FunctionEntry) : List (UInt32 × Text) :=
  (Sweep.ofCode f.code).found.map (rowOf script cs (decoded f))

def blockOf (f : FunctionEntry) : List Text :=
  [] :: headerText (symbolName script cs f.name) f.params ::
    labelled (decoded f).labels (rowsOf script cs f) ++ ["endfunction".toList]

variable {script} {cs}

theorem labelled_cons (labels : List UInt32) (row : UInt32 × Text) (rows : List (UInt32 × Text)) :
    labelled labels (row :: rows) = labelled labels [row] ++ labelled labels rows := by
  rw [labelled, labelled, labelled, List.flatMap_cons, List.flatMap_singleton]

/-- It matters only which addresses have labels. -/
theorem labelled_congr {labels labels' : List UInt32} (h : ∀ a, a ∈ labels ↔ a ∈ labels')
    (rows : List (UInt32 × Text)) : labelled labels rows = labelled labels' rows := by
  simp only [labelled, h]

/-! ### What is written -/

variable {d : Decoded} {p : Placed}

theorem operandTexts_eq {os : List Operand} {texts : List Text}
    (h : operandTexts script (Symbols.build script cs) d p os = .ok texts) :
    texts = os.map (operandWord script cs d p) := by
  rw [operandTexts_eq_mapM, Outcome.mapM_eq_ok_iff] at h
  induction h with
  | nil => rfl
  | cons ho _ ih =>
    rw [List.map_cons, ← ih, operandWord, ho]
    rfl

theorem instructionLines_eq {ls : List Text}
    (h : instructionLines script (Symbols.build script cs) d p = .ok ls) :
    ls = labelled d.labels [rowOf script cs d p] := by
  obtain ⟨texts, htexts, h⟩ := Outcome.bind_eq_ok_iff.1 h
  obtain rfl := operandTexts_eq htexts
  obtain rfl := Except.ok.inj h
  rw [labelled, List.flatMap_singleton, rowOf]
  simp only [List.contains_iff_mem]
  split <;> rfl

theorem bodyLines_eq {ps : List Placed} {ls : List Text}
    (h : bodyLines script (Symbols.build script cs) d ps = .ok ls) :
    ls = labelled d.labels (ps.map (rowOf script cs d)) := by
  induction ps generalizing ls with
  | nil => exact (Except.ok.inj h).symm
  | cons p ps ih =>
    obtain ⟨front, hfront, h⟩ := Outcome.bind_eq_ok_iff.1 h
    obtain ⟨back, hback, h⟩ := Outcome.bind_eq_ok_iff.1 h
    obtain rfl := Except.ok.inj h
    rw [List.map_cons, labelled_cons, ← ih hback, ← instructionLines_eq hfront]

theorem functionBlocks_eq {fs : List FunctionEntry} {ls : List Text}
    (h : functionBlocks script (Symbols.build script cs) fs = .ok ls) :
    ls = fs.flatMap (blockOf script cs) := by
  induction fs generalizing ls with
  | nil => exact (Except.ok.inj h).symm
  | cons f fs ih =>
    obtain ⟨block, hblock, h⟩ := Outcome.bind_eq_ok_iff.1 h
    obtain ⟨blocks, hblocks, h⟩ := Outcome.bind_eq_ok_iff.1 h
    obtain rfl := Except.ok.inj h
    obtain ⟨-, -, body, hbody, rfl⟩ := functionLines_eq_ok_iff.1 hblock
    rw [List.flatMap_cons, ← ih hblocks, bodyLines_eq hbody]
    rfl

/-! ### Main result -/

theorem isBlock_blockOf (hscript : script.Printable) {f : FunctionEntry} (hf : f ∈ script.functions)
    {labels : List UInt32} (hlabels : ∀ a, a ∈ labels ↔ a ∈ (decoded f).labels) :
    IsBlock script cs f labels (rowsOf script cs f) (blockOf script cs f) where
  eq := by
    refine ⟨_, string?_build_eq_some_iff.2 ⟨hscript.names_mem f hf, rfl⟩, ?_⟩
    rw [labelled_congr hlabels]
    rfl
  rows := by
    rw [f.found_reading, rowsOf, List.forall₂_map_left_iff, List.forall₂_map_right_iff,
      List.forall₂_same]
    intro p _
    refine ⟨rfl, ?_⟩
    rw [rowOf, instructionLine]
    simp only [List.append_assoc]
    exact List.prefix_append _ _
  lineFeed := by
    obtain ⟨ls, hls, hfeed, -⟩ := exists_functionLines cs hscript hf
    obtain ⟨-, -, body, hbody, rfl⟩ := functionLines_eq_ok_iff.1 hls
    rw [bodyLines_eq hbody] at hfeed
    intro l hl
    rcases List.mem_cons.1 hl with rfl | hl
    · exact List.not_mem_nil
    · exact hfeed l hl

/-- A listing consists of its heading and of one block for every function. -/
theorem disassemble_eq {cast : Cast} {text : Text} (h : disassemble script cs cast = .ok text) :
    text = Text.unlines (heading script cs cast ++
      (script.functions.map (blockOf script cs)).flatten) := by
  obtain ⟨ls, hls, rfl⟩ := Outcome.map_eq_ok_iff.1 h
  obtain ⟨blocks, hblocks, h⟩ := Outcome.bind_eq_ok_iff.1 hls
  obtain rfl := Except.ok.inj h
  rw [functionBlocks_eq hblocks, List.flatMap_def, heading, List.append_assoc]

/-- What holds of the lines that are written for each function holds of the blocks of the listing.
The labels may be given in any order. -/
theorem everyBlock_of_disassemble {cast : Cast} {text : Text}
    (h : disassemble script cs cast = .ok text)
    {P : FunctionEntry → List UInt32 → List (UInt32 × Text) → List Text → Prop}
    (hP : ∀ f ∈ script.functions, ∃ labels, (∀ a, a ∈ labels ↔ a ∈ (decoded f).labels) ∧
      P f labels (rowsOf script cs f) (blockOf script cs f)) :
    EveryBlock script cs cast text P := by
  have hscript := printable_of_disassemble h
  refine ⟨_, disassemble_eq h, ?_⟩
  rw [List.forall₂_map_right_iff, List.forall₂_same]
  intro f hf
  obtain ⟨labels, hlabels, hlines⟩ := hP f hf
  exact ⟨labels, _, isBlock_blockOf hscript hf hlabels, hlines⟩

/-- The instruction that is read at an index, and what stands in its row. -/
theorem exists_row (script : Script) (cs : Charset) {f : FunctionEntry} {k : Nat}
    {address : UInt32} {i : Instruction} (h : f.reading.found[k]? = some (address, i)) :
    ∃ p, (Sweep.ofCode f.code).found[k]? = some p ∧ p.instruction = i ∧
      (rowsOf script cs f)[k]? = some (address,
        instructionLine i (i.operands.map (operandWord script cs (decoded f) p))) := by
  rw [f.found_reading, List.getElem?_map] at h
  obtain ⟨p, hp, hpair⟩ := Option.map_eq_some_iff.1 h
  obtain ⟨rfl, rfl⟩ := Prod.mk.inj hpair
  refine ⟨p, hp, rfl, ?_⟩
  rw [rowsOf, List.getElem?_map, hp]
  rfl

theorem instructionLine_singleton {i : Instruction} {o : Operand} (h : i.operands = [o])
    (hcomment : operandComment? o = none) (t : Text) :
    instructionLine i [t] = '\t' :: i.opcode.mnemonic.toList ++ '\t' :: t := by
  rw [instructionLine, h]
  simp [hcomment, List.intercalate_singleton]

end NovelScript.Listing
