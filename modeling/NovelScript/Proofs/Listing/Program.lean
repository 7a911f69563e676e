import NovelScript.Proofs.Assembly.Resolution
import NovelScript.Proofs.Listing.Names
import NovelScript.Proofs.Listing.Reading
import NovelScript.Proofs.NormalForm

/-!
A listing as the assembler sees it. `program` is what a script is listed as, in the terms of the
two-pass assembler: its strings under their symbols, and its functions as labels and words. Every
script that can be listed is, and its listing is read as this program (`exists_disassemble`).
-/

namespace NovelScript.Listing

open Assembly

/-! ### The program of a script -/

def decoded (f : FunctionEntry) : Decoded where
  function := f
  instructions := (Sweep.ofCode f.code).found
  labels := (Decoded.targets (Sweep.ofCode f.code).found).eraseDups.filter
    ((Sweep.ofCode f.code).found.map (Decoded.address f)).contains

theorem ofFunction_eq_ok {f : FunctionEntry} (h : (Sweep.ofCode f.code).failure? = none) :
    Decoded.ofFunction f = .ok (decoded f) := by
  rw [Decoded.ofFunction]
  simp only [h]
  rfl

variable (script : Script) (cs : Charset)

def operandWord (d : Decoded) (p : Placed) (o : Operand) : Text :=
  (operandText script (Symbols.build script cs) d p o).toOption.getD []

/-- The words for an operand. A jump table has one for each of its entries. -/
def operandTokens (d : Decoded) (p : Placed) : Operand → List Text
  | .table entries => entries.map fun e => hexLiteral 8 e.toNat
  | o => [operandWord script cs d p o]

def instructionTokens (d : Decoded) (p : Placed) : List Text :=
  p.instruction.operands.flatMap (operandTokens script cs d p)

def entriesOf (d : Decoded) (p : Placed) : List TwoPass.Entry :=
  (if d.labels.contains (Decoded.address d.function p) then
    [.label (labelName (Decoded.address d.function p))] else []) ++
  [.instruction p.instruction.opcode (instructionTokens script cs d p)]

def routineOf (f : FunctionEntry) : TwoPass.Routine where
  name := symbolName script cs f.name
  params := f.params
  body := (decoded f).instructions.flatMap (entriesOf script cs (decoded f))

def program : TwoPass.Program where
  name := script.name
  strings := script.strings.map fun s => (symbolName script cs s.pos, s.bytes)
  routines := script.functions.map (routineOf script cs)

variable {script}

/-! ### Operands -/

theorem function_eq_ok {f : FunctionEntry} (h : f.name ∈ script.strings.map (·.pos)) :
    (Symbols.build script cs).function f = .ok (symbolName script cs f.name) := by
  have hstring : (Symbols.build script cs).string? f.name = some (symbolName script cs f.name) :=
    string?_build_eq_some_iff.2 ⟨h, rfl⟩
  rw [Symbols.function, hstring]

theorem string?_of_constantSymbol? {value : UInt32} {rest : Bytes} {t : Text}
    (h : constantSymbol? script (Symbols.build script cs) value rest = some t) :
    (Symbols.build script cs).string? value = some t := by
  obtain ⟨entry, -, h⟩ := Option.bind_eq_some_iff.1 h
  split at h
  · exact nomatch h
  · split at h
    · exact h
    · exact nomatch h

/-- The function that an operand calls is one of the script, if it calls any. -/
def CalleeExists (script : Script) (o : Operand) : Prop :=
  ∀ index, o.callee? = some index → index.toNat < script.functions.length

theorem exists_operandText (hscript : script.Printable) (d : Decoded) (p : Placed) {o : Operand}
    (htable : o.kind ≠ .table)
    (hcall : CalleeExists script o) :
    ∃ t, operandText script (Symbols.build script cs) d p o = .ok t ∧ IsToken t := by
  cases o with
  | slot index =>
    exact ⟨_, rfl, IsToken.append (by decide) (isToken_hex 2 _)⟩
  | byte value =>
    refine ⟨_, rfl, ?_⟩
    split
    · exact isToken_decimal _
    · exact isToken_hexLiteral 2 _
  | word value => exact ⟨_, rfl, isToken_hexLiteral 8 _⟩
  | constant value =>
    refine ⟨_, rfl, ?_⟩
    cases hsymbol : constantSymbol? script (Symbols.build script cs) value p.rest with
    | none => exact isToken_signed _
    | some t =>
      obtain ⟨-, rfl⟩ := string?_build_eq_some_iff.1 (string?_of_constantSymbol? cs hsymbol)
      exact isToken_symbolName script cs value
  | table entries => exact absurd rfl htable
  | function index =>
    have hlt := hcall index rfl
    have htarget : script.functions[index.toNat]? = some script.functions[index.toNat] :=
      List.getElem?_eq_getElem hlt
    have hname := hscript.names_mem _ (List.getElem_mem hlt)
    refine ⟨symbolName script cs script.functions[index.toNat].name, ?_,
      isToken_symbolName script cs _⟩
    rw [operandText, htarget]
    exact function_eq_ok cs hname
  | native id => exact ⟨_, rfl, IsToken.append (by decide) (isToken_hex 2 _)⟩
  | label target =>
    refine ⟨_, rfl, ?_⟩
    split
    · exact isToken_labelName target
    · exact isToken_hexLiteral 8 _

theorem operandText_eq_ok (hscript : script.Printable) (d : Decoded) (p : Placed) {o : Operand}
    (htable : o.kind ≠ .table)
    (hcall : CalleeExists script o) :
    operandText script (Symbols.build script cs) d p o = .ok (operandWord script cs d p o) ∧
      IsToken (operandWord script cs d p o) := by
  obtain ⟨t, ht, htoken⟩ := exists_operandText cs hscript d p htable hcall
  have hword : operandWord script cs d p o = t := by
    rw [operandWord, ht]
    rfl
  rw [hword]
  exact ⟨ht, htoken⟩

theorem operandTokens_eq {o : Operand} (htable : o.kind ≠ .table) (d : Decoded) (p : Placed) :
    operandTokens script cs d p o = [operandWord script cs d p o] := by
  cases o with
  | table entries => exact absurd rfl htable
  | _ => rfl

/-- Operands other than jump tables are one word each. -/
theorem flatMap_operandTokens {os : List Operand} (htable : .table ∉ os.map Operand.kind)
    (d : Decoded) (p : Placed) :
    os.flatMap (operandTokens script cs d p) = os.map (operandWord script cs d p) := by
  induction os with
  | nil => rfl
  | cons o os ih =>
    rw [List.map_cons, List.mem_cons, not_or] at htable
    rw [List.flatMap_cons, operandTokens_eq cs (Ne.symm htable.1), ih htable.2]
    rfl

theorem isToken_of_mem_operandTokens (hscript : script.Printable) {d : Decoded} {p : Placed}
    {o : Operand} (hcall : CalleeExists script o)
    {t : Text} (ht : t ∈ operandTokens script cs d p o) : IsToken t := by
  by_cases htable : o.kind = .table
  · cases o with
    | table entries =>
      obtain ⟨e, -, rfl⟩ := List.mem_map.1 ht
      exact isToken_hexLiteral 8 _
    | _ => exact nomatch htable
  · rw [operandTokens_eq cs htable, List.mem_singleton] at ht
    rw [ht]
    exact (operandText_eq_ok cs hscript d p htable hcall).2

/-! ### Instructions -/

theorem operandTexts_eq_ok (hscript : script.Printable) (d : Decoded) (p : Placed)
    {os : List Operand} (htable : .table ∉ os.map Operand.kind)
    (hcall : ∀ o ∈ os, CalleeExists script o) :
    operandTexts script (Symbols.build script cs) d p os =
      .ok (os.map (operandWord script cs d p)) := by
  induction os with
  | nil => rfl
  | cons o os ih =>
    rw [List.map_cons, List.mem_cons, not_or] at htable
    have ho := operandText_eq_ok cs hscript d p (Ne.symm htable.1) (hcall o List.mem_cons_self)
    have hos := ih htable.2 fun o' ho' => hcall o' (List.mem_cons_of_mem o ho')
    rw [operandTexts, ho.1, Outcome.ok_bind, hos, Outcome.ok_bind]
    rfl

theorem exists_table {i : Instruction} (hwf : i.WellFormed) (hjmpa : i.opcode = .jmpa) :
    ∃ entries, i.operands = [.table entries] := by
  have hkinds := hwf.1
  rw [hjmpa] at hkinds
  obtain ⟨o, ho, hkind⟩ := List.map_eq_singleton_iff.1 hkinds
  cases o with
  | table entries => exact ⟨entries, ho⟩
  | _ => exact nomatch hkind

theorem instructionTokens_of_table {d : Decoded} {p : Placed} {entries : List UInt32}
    (h : p.instruction.operands = [.table entries]) :
    instructionTokens script cs d p = entries.map fun e => hexLiteral 8 e.toNat := by
  rw [instructionTokens, h, List.flatMap_singleton, operandTokens]

/-- Operations other than a jump by table have operands with one word each. -/
theorem table_not_mem_kinds {i : Instruction} (hwf : i.WellFormed) (hjmpa : i.opcode ≠ .jmpa) :
    .table ∉ i.operands.map Operand.kind := by
  rw [hwf.1]
  exact TwoPass.table_not_mem_operandKinds hjmpa

/-- The operands of an instruction can be written, and joined by commas they are its words. -/
theorem exists_operandTexts (hscript : script.Printable) (d : Decoded) {p : Placed}
    (hwf : p.instruction.WellFormed)
    (hcall : ∀ o ∈ p.instruction.operands, CalleeExists script o) :
    ∃ texts, operandTexts script (Symbols.build script cs) d p p.instruction.operands = .ok texts ∧
      [','].intercalate texts = [','].intercalate (instructionTokens script cs d p) ∧
      (texts = [] → instructionTokens script cs d p = []) := by
  by_cases hjmpa : p.instruction.opcode = .jmpa
  · -- A jump table is written as one operand, but it is as many words as it has entries.
    obtain ⟨entries, hentries⟩ := exists_table hwf hjmpa
    refine ⟨[[','].intercalate (instructionTokens script cs d p)], ?_, List.intercalate_singleton,
      nofun⟩
    rw [hentries, instructionTokens_of_table cs hentries]
    rfl
  · have htable := table_not_mem_kinds hwf hjmpa
    rw [instructionTokens, flatMap_operandTokens cs htable]
    exact ⟨_, operandTexts_eq_ok cs hscript d p htable hcall, rfl, id⟩

/-- The lines of an instruction are read as this instruction, behind its label if it has one. -/
theorem exists_instructionLines (hscript : script.Printable) (d : Decoded) {p : Placed}
    (hwf : p.instruction.WellFormed)
    (hcall : ∀ o ∈ p.instruction.operands, CalleeExists script o) :
    ∃ ls, instructionLines script (Symbols.build script cs) d p = .ok ls ∧
      ReadAs ls (entriesOf script cs d p) := by
  obtain ⟨texts, htexts, hjoin, hnil⟩ := exists_operandTexts cs hscript d hwf hcall
  have htokens : ∀ t ∈ instructionTokens script cs d p, IsToken t := by
    intro t ht
    obtain ⟨o, ho, ht⟩ := List.mem_flatMap.1 ht
    exact isToken_of_mem_operandTokens cs hscript (hcall o ho) ht
  have hline := readAs_instruction p.instruction hjoin hnil htokens
  rw [instructionLines, entriesOf]
  simp only [htexts, Outcome.ok_bind]
  split
  · exact ⟨_, rfl, (readAs_label (isToken_labelName _)).append hline⟩
  · exact ⟨_, rfl, hline⟩

theorem exists_bodyLines (hscript : script.Printable) (d : Decoded) {ps : List Placed}
    (hwf : ∀ p ∈ ps, p.instruction.WellFormed)
    (hcall : ∀ p ∈ ps, ∀ o ∈ p.instruction.operands, CalleeExists script o) :
    ∃ ls, bodyLines script (Symbols.build script cs) d ps = .ok ls ∧
      ReadAs ls (ps.flatMap (entriesOf script cs d)) := by
  induction ps with
  | nil => exact ⟨[], rfl, .nil⟩
  | cons p ps ih =>
    obtain ⟨front, hfront, hread⟩ := exists_instructionLines cs hscript d
      (hwf p List.mem_cons_self) (hcall p List.mem_cons_self)
    obtain ⟨back, hback, hread'⟩ := ih (fun q hq => hwf q (List.mem_cons_of_mem p hq))
      fun q hq => hcall q (List.mem_cons_of_mem p hq)
    refine ⟨front ++ back, ?_, hread.append hread'⟩
    rw [bodyLines, hfront, Outcome.ok_bind, hback, Outcome.ok_bind]
    rfl

/-! ### Functions -/

theorem wellFormed_of_mem_found {f : FunctionEntry} (h : (Sweep.ofCode f.code).failure? = none)
    {p : Placed} (hp : p ∈ (Sweep.ofCode f.code).found) : p.instruction.WellFormed := by
  obtain ⟨is, his, -, hfound⟩ := Sweep.failure?_eq_none_iff.1 h
  have hmem : p.instruction ∈ (Sweep.ofCode f.code).found.map Placed.instruction :=
    List.mem_map.2 ⟨p, hp, rfl⟩
  rw [hfound, Sweep.map_instruction_placedFrom] at hmem
  exact his _ hmem

theorem mem_calls_of_mem_found {f : FunctionEntry} {p : Placed}
    (hp : p ∈ (Sweep.ofCode f.code).found) {o : Operand} (ho : o ∈ p.instruction.operands)
    {index : UInt32} (hindex : o.callee? = some index) : index ∈ f.calls := by
  have hinstruction : p.instruction ∈ f.instructions := List.mem_map.2 ⟨p, hp, rfl⟩
  have hoperand : o ∈ f.operands := List.mem_flatMap.2 ⟨_, hinstruction, ho⟩
  exact List.mem_filterMap.2 ⟨o, hoperand, hindex⟩

/-- The lines of a function are read as this function. -/
theorem exists_functionLines (hscript : script.Printable) {f : FunctionEntry}
    (hf : f ∈ script.functions) :
    ∃ ls, functionLines script (Symbols.build script cs) f = .ok ls ∧ (∀ l ∈ ls, '\n' ∉ l) ∧
      ∀ n rest, TwoPass.routines? none
          (Source.numberLines n ((ls ++ rest).map Text.dropReturn)) =
        (TwoPass.routines? none (Source.numberLines (n + ls.length)
          (rest.map Text.dropReturn))).map (routineOf script cs f :: ·) := by
  have hsweeps := hscript.sweeps f hf
  have hname := isToken_symbolName script cs f.name
  have hcall : ∀ p ∈ (decoded f).instructions, ∀ o ∈ p.instruction.operands,
      CalleeExists script o := by
    intro p hp o ho index hindex
    exact hscript.calls_lt f hf index (mem_calls_of_mem_found hp ho hindex)
  obtain ⟨body, hbody, hread⟩ := exists_bodyLines cs hscript (decoded f)
    (fun p hp => wellFormed_of_mem_found hsweeps hp) hcall
  refine ⟨headerText (symbolName script cs f.name) f.params :: body ++ ["endfunction".toList],
    ?_, ?_, ?_⟩
  · rw [functionLines, ofFunction_eq_ok hsweeps, Outcome.ok_bind,
      function_eq_ok cs (hscript.names_mem f hf), Outcome.ok_bind]
    exact Outcome.bind_eq_ok_iff.2 ⟨body, hbody, rfl⟩
  · intro l hl
    rcases List.mem_append.1 hl with hl | hl
    · rcases List.mem_cons.1 hl with rfl | hl
      · intro hmem
        exact absurd (mem_headerText hname hmem) (by decide)
      · exact hread.lineFeed l hl
    · rw [List.mem_singleton.1 hl]
      decide
  · intro n rest
    have hcount : n + (headerText (symbolName script cs f.name) f.params :: body ++
        ["endfunction".toList]).length = n + 1 + body.length + 1 := by
      rw [List.length_append, List.length_cons, List.length_singleton]
      omega
    rw [List.append_assoc, List.cons_append, routines?_header hname, routines?_body hread,
      List.singleton_append, routines?_end, hcount]
    rfl

theorem exists_functionBlocks (hscript : script.Printable) {fs : List FunctionEntry}
    (hfs : ∀ f ∈ fs, f ∈ script.functions) :
    ∃ ls, functionBlocks script (Symbols.build script cs) fs = .ok ls ∧ (∀ l ∈ ls, '\n' ∉ l) ∧
      ∀ n, TwoPass.routines? none (Source.numberLines n (ls.map Text.dropReturn)) =
        some (fs.map (routineOf script cs)) := by
  induction fs with
  | nil => exact ⟨[], rfl, nofun, fun _ => rfl⟩
  | cons f fs ih =>
    obtain ⟨block, hblock, hfeed, hread⟩ :=
      exists_functionLines cs hscript (hfs f List.mem_cons_self)
    obtain ⟨blocks, hblocks, hfeeds, hreads⟩ := ih fun g hg => hfs g (List.mem_cons_of_mem f hg)
    refine ⟨[] :: block ++ blocks, ?_, ?_, ?_⟩
    · rw [functionBlocks, hblock, Outcome.ok_bind, hblocks, Outcome.ok_bind]
      rfl
    · intro l hl
      rcases List.mem_append.1 hl with hl | hl
      · rcases List.mem_cons.1 hl with rfl | hl
        · exact List.not_mem_nil
        · exact hfeed l hl
      · exact hfeeds l hl
    · intro n
      rw [List.cons_append, Source.numberLines_dropped (by decide), hread, hreads]
      rfl

/-! ### The whole listing -/

theorem getD_string?_build {s : StringEntry} (hs : s ∈ script.strings) :
    ((Symbols.build script cs).string? s.pos).getD (stringSymbol s.pos) =
      symbolName script cs s.pos := by
  have hmem : s.pos ∈ script.strings.map (·.pos) := List.mem_map.2 ⟨s, hs, rfl⟩
  rw [string?_build_eq_some_iff.2 ⟨hmem, rfl⟩, Option.getD_some]

theorem lineFeed_not_mem_speaker {cast : Cast} (hcast : ∀ name ∈ cast.names, '\n' ∉ name)
    (script : Script) : ∀ p ∈ Speaker.infer script cast, '\n' ∉ p.2 := by
  intro p hp
  obtain ⟨⟨pos, id⟩, -, h⟩ := List.mem_filterMap.1 hp
  obtain ⟨name, hname, rfl⟩ := Option.map_eq_some_iff.1 h
  rw [Cast.name?] at hname
  split at hname
  · exact nomatch hname
  · exact hcast name (List.mem_of_getElem? hname)

/-- The lines of the strings of a script, without the lines around them. -/
def definitionLines (script : Script) (cs : Charset) (cast : Cast) : List Text :=
  script.strings.map (stringLine cs (Symbols.build script cs) (Speaker.infer script cast))

theorem clean_definitionLines (cast : Cast) :
    (definitionLines script cs cast).map Source.clean =
      (program script cs).strings.map fun s => definitionText cs s.1 s.2 := by
  rw [definitionLines, program, List.map_map, List.map_map]
  apply List.map_congr_left
  intro s hs
  have hsymbol := getD_string?_build cs hs
  show Source.clean (stringLine cs (Symbols.build script cs) (Speaker.infer script cast) s) = _
  rw [clean_stringLine]
  · rw [hsymbol]
    rfl
  · rw [hsymbol]
    exact isToken_symbolName script cs s.pos

theorem lineFeed_not_mem_definitionLines {cast : Cast} (hcast : ∀ name ∈ cast.names, '\n' ∉ name) :
    ∀ l ∈ definitionLines script cs cast, '\n' ∉ l := by
  intro l hl
  obtain ⟨s, hs, rfl⟩ := List.mem_map.1 hl
  apply lineFeed_not_mem_stringLine cs _ (lineFeed_not_mem_speaker hcast script) s
  rw [getD_string?_build cs hs]
  exact isToken_symbolName script cs s.pos

/-- The lines of a listing in which the functions take up the last lines. -/
def listingLines (script : Script) (cs : Charset) (cast : Cast) (blocks : List Text) :
    List Text :=
  preamble cs ++ ("script ".toList ++ scriptName cs script.name) ::
    [] :: "strings".toList :: (definitionLines script cs cast ++ "endstrings".toList :: blocks)

theorem lines_eq_ok (hscript : script.Listable) (cast : Cast) {blocks : List Text}
    (hblocks : functionBlocks script (Symbols.build script cs) script.functions = .ok blocks) :
    lines script cs cast = .ok (listingLines script cs cast blocks) := by
  have hstrings : stringLines script cs cast (Symbols.build script cs) =
      [[], "strings".toList] ++ definitionLines script cs cast ++ ["endstrings".toList] :=
    if_neg hscript.strings_ne
  rw [lines]
  simp only [hblocks, Outcome.ok_bind, hstrings]
  show Except.ok _ = Except.ok _
  simp [listingLines]

theorem lineFeed_not_mem_listingLines {cast : Cast} (hcast : ∀ name ∈ cast.names, '\n' ∉ name)
    {blocks : List Text} (hblocks : ∀ l ∈ blocks, '\n' ∉ l) :
    ∀ l ∈ listingLines script cs cast blocks, '\n' ∉ l := by
  intro l hl
  rcases List.mem_append.1 hl with hl | hl
  · exact lineFeed_not_mem_preamble cs l hl
  · simp only [List.mem_cons, List.mem_append] at hl
    rcases hl with rfl | rfl | rfl | hl | rfl | hl
    · rw [List.mem_append, not_or]
      exact ⟨by decide, (isName_scriptName cs script.name).lineFeed⟩
    · decide
    · decide
    · exact lineFeed_not_mem_definitionLines cs hcast l hl
    · decide
    · exact hblocks l hl

/-- The lines around the functions are read as the name and the strings of the script. -/
theorem program?_listingLines (hscript : script.Listable) (cast : Cast) {blocks : List Text}
    (hreads : ∀ n, TwoPass.routines? none (Source.numberLines n (blocks.map Text.dropReturn)) =
      some (program script cs).routines) (n : Nat) :
    TwoPass.program? cs
        (Source.numberLines n ((listingLines script cs cast blocks).map Text.dropReturn)) =
      some (program script cs) := by
  have hname := isName_scriptName cs script.name
  have hclean : Source.clean "strings".toList = "strings".toList := by decide
  have hheader : Source.clean ("script ".toList ++ scriptName cs script.name) ≠ [] := by
    rw [clean_header hname]
    exact List.append_ne_nil_of_left_ne_nil (by decide) _
  rw [listingLines, numberLines_comments (clean_preamble cs), Source.numberLines_kept hheader,
    Source.numberLines_dropped (by decide), Source.numberLines_kept (by rw [hclean]; decide),
    TwoPass.program?_eq_some_iff hclean]
  refine ⟨_, ?_, strings?_block (clean_definitionLines cs cast) ?_ _ _, hreads _⟩
  · rw [clean_header hname]
    exact scriptName_header hscript.name_length hscript.name_zero hname _
  · intro d hd
    obtain ⟨e, he, rfl⟩ := List.mem_map.1 hd
    exact ⟨isToken_symbolName script cs e.pos, hscript.strings_zero e he⟩

/-- A script that can be listed is, and its listing is read as its program. -/
theorem exists_disassemble (hscript : script.Listable) {cast : Cast}
    (hcast : ∀ name ∈ cast.names, '\n' ∉ name) :
    ∃ text, disassemble script cs cast = .ok text ∧
      TwoPass.program? cs (Source.lines text) = some (program script cs) := by
  obtain ⟨blocks, hblocks, hfeeds, hreads⟩ :=
    exists_functionBlocks cs hscript.printable fun f hf => hf
  refine ⟨Text.unlines (listingLines script cs cast blocks), ?_, ?_⟩
  · rw [disassemble, lines_eq_ok cs hscript cast hblocks]
    rfl
  · rw [Source.lines_unlines (lineFeed_not_mem_listingLines cs hcast hfeeds)]
    exact program?_listingLines cs hscript cast hreads 1

end NovelScript.Listing
