import NovelScript.Proofs.Assembly.LongStrings
import NovelScript.Proofs.Source.Declarations
import NovelScript.Proofs.WellFormed

/-!
The assembler leaves only well-formed scripts. By the agreement with the two-pass assembler nothing
about patching is needed here: the code of a function is the code of the instructions that its lines
stand for.
-/

namespace NovelScript.Assembly

open TwoPass

/-! ### Strings -/

theorem zero_not_mem_of_strings? {cs : Charset} {lines rest : List Line}
    {strings : List (Text × Bytes)} (h : strings? cs lines = some (strings, rest)) :
    ∀ s ∈ strings, 0 ∉ s.2 := by
  induction lines generalizing strings with
  | nil => cases h
  | cons line lines ih =>
    by_cases hend : line.text = "endstrings".toList
    · rw [strings?, if_pos hend] at h
      obtain ⟨rfl, rfl⟩ := Prod.mk.inj (Option.some.inj h)
      intro s hs
      cases hs
    · obtain ⟨⟨name, bytes⟩, more, hs, hmore, rfl⟩ := (strings?_cons_eq_some_iff hend).1 h
      obtain ⟨_, _, _, _, _, _, _, hzero⟩ := string?_eq_some_iff.1 hs
      intro s hs
      rcases List.mem_cons.1 hs with rfl | hs
      · exact hzero
      · exact ih hmore s hs

/-- The name and the strings of a program that has been read fit into a container. -/
theorem zero_not_mem_of_program? {cs : Charset} {lines : List Line} {p : Program}
    (h : program? cs lines = some p) :
    p.name.length ≤ 31 ∧ 0 ∉ p.name ∧ ∀ s ∈ p.strings, 0 ∉ s.2 := by
  rcases lines with _ | ⟨header, _ | ⟨opening, rest⟩⟩
  · cases h
  · cases h
  · by_cases hopening : opening.text = "strings".toList
    · obtain ⟨rest', hheader, hstrings, -⟩ := (program?_eq_some_iff hopening).1 h
      obtain ⟨_, _, _, _, hlen, hzero⟩ := Declaration.scriptName_eq_ok_iff.1 hheader
      exact ⟨hlen, hzero, zero_not_mem_of_strings? hstrings⟩
    · rw [program?, if_neg hopening] at h
      cases h

theorem map_bytes_tableFrom (pos : Nat) (strings : List (Text × Bytes)) :
    ((tableFrom pos strings).map Prod.snd).map (·.bytes) = strings.map Prod.snd := by
  induction strings generalizing pos with
  | nil => rfl
  | cons s strings ih => rw [tableFrom, List.map_cons, List.map_cons, List.map_cons, ih]

/-- Strings stand one behind the other if the size of each, except for the last, is a word. -/
theorem tableFrom_packed {pos : Nat} {strings : List (Text × Bytes)}
    (h : pos + sectionSize strings < 2 ^ 32)
    (hwords : ∀ s ∈ strings.dropLast, s.2.length + 1 < 2 ^ 32) :
    Script.StringsPacked pos ((tableFrom pos strings).map Prod.snd) := by
  induction strings generalizing pos with
  | nil => exact trivial
  | cons s strings ih =>
    rw [sectionSize_cons] at h
    refine ⟨?_, ?_⟩
    · show (UInt32.ofNat pos).toNat = pos
      rw [UInt32.toNat_ofNat']
      exact Nat.mod_eq_of_lt (by omega)
    · cases strings with
      | nil => exact trivial
      | cons t strings =>
        rw [List.dropLast_cons_cons, List.forall_mem_cons] at hwords
        have hsize : stringSize s.2 = s.2.length + 1 := Nat.mod_eq_of_lt hwords.1
        rw [hsize] at h ⊢
        have hrest : pos + (s.2.length + 1) + sectionSize (t :: strings) < 2 ^ 32 := by omega
        exact ih hrest hwords.2

theorem zero_not_mem_tableFrom {pos : Nat} {strings : List (Text × Bytes)}
    (h : ∀ s ∈ strings, 0 ∉ s.2) : ∀ e ∈ (tableFrom pos strings).map Prod.snd, 0 ∉ e.bytes := by
  induction strings generalizing pos with
  | nil => exact nofun
  | cons s strings ih =>
    intro e he
    rcases List.mem_cons.1 he with rfl | he
    · exact h s List.mem_cons_self
    · exact ih (fun t ht => h t (List.mem_cons_of_mem s ht)) e he

/-- Positions do not wrap around: every string begins and ends in the section. -/
theorem pos_of_mem_tableFrom {pos : Nat} {strings : List (Text × Bytes)}
    (h : pos + sectionSize strings < 2 ^ 32) :
    ∀ e ∈ (tableFrom pos strings).map Prod.snd,
      pos ≤ e.pos.toNat ∧ e.pos.toNat + stringSize e.bytes < 2 ^ 32 := by
  induction strings generalizing pos with
  | nil => exact nofun
  | cons s strings ih =>
    rw [sectionSize_cons] at h
    have hpos : (UInt32.ofNat pos).toNat = pos := by
      rw [UInt32.toNat_ofNat']
      exact Nat.mod_eq_of_lt (by omega)
    intro e he
    rcases List.mem_cons.1 he with rfl | he
    · show pos ≤ (UInt32.ofNat pos).toNat ∧ (UInt32.ofNat pos).toNat + stringSize s.2 < _
      omega
    · have hbounds := ih (by omega) e he
      omega

/-- Positions ascend where every string, except for the last, takes up some room. -/
theorem pairwise_tableFrom {pos : Nat} {strings : List (Text × Bytes)}
    (h : pos + sectionSize strings < 2 ^ 32)
    (hroom : ∀ s ∈ strings.dropLast, stringSize s.2 ≠ 0) :
    ((tableFrom pos strings).map Prod.snd).Pairwise fun s t => s.pos < t.pos := by
  induction strings generalizing pos with
  | nil => exact .nil
  | cons s strings ih =>
    rw [sectionSize_cons] at h
    cases strings with
    | nil => exact List.pairwise_singleton _ _
    | cons t strings =>
      rw [List.dropLast_cons_cons, List.forall_mem_cons] at hroom
      refine List.pairwise_cons.2 ⟨fun e he => ?_, ih (by omega) hroom.2⟩
      have hbounds := (pos_of_mem_tableFrom (by omega) e he).1
      have hfirst := hroom.1
      rw [UInt32.lt_iff_toNat_lt, UInt32.toNat_ofNat', Nat.mod_eq_of_lt (by omega)]
      omega

/-! ### Locals and calls in code -/

namespace TwoPass.Scope

variable {σ : Scope}

theorem slot?_of_operand? {kind : OperandKind} {token : Text} {o : Operand}
    (h : σ.operand? kind token = some o) :
    o.slot? = if kind = .slot then some (UInt8.ofNat (σ.locals.idxOf token)) else none := by
  rcases operand?_cases h with ⟨rfl, rfl⟩ | ⟨rfl, index, -, rfl⟩ | ⟨hslot, -, rfl⟩
  · rfl
  · rfl
  · rw [if_neg hslot]
    cases o with
    | slot index => exact absurd rfl hslot
    | _ => rfl

theorem function_of_operand? {kind : OperandKind} {token : Text} {o : Operand} {index : UInt32}
    (h : σ.operand? kind token = some o) (ho : o.callee? = some index) :
    σ.functions token = some index := by
  rcases operand?_cases h with ⟨rfl, rfl⟩ | ⟨rfl, index', hindex, rfl⟩ | ⟨-, hfunction, rfl⟩
  · cases ho
  · rw [hindex]
    exact ho
  · cases o with
    | function index => exact absurd rfl hfunction
    | _ => cases ho

theorem slots_of_mapM {pairs : List (OperandKind × Text)} {os : List Operand}
    (h : pairs.mapM (fun p => σ.operand? p.1 p.2) = some os) :
    os.filterMap Operand.slot? = ((pairs.filter fun (kind, _) => kind = .slot).map Prod.snd).map
      fun name => UInt8.ofNat (σ.locals.idxOf name) := by
  induction pairs generalizing os with
  | nil =>
    obtain rfl : [] = os := by simpa using h
    rfl
  | cons pair pairs ih =>
    obtain ⟨o, rest, ho, hrest, rfl⟩ := Outcome.mapM_cons_eq_some_iff.1 h
    rw [List.filterMap_cons, slot?_of_operand? ho, List.filter_cons]
    by_cases hk : pair.1 = .slot
    · simp [hk, ih hrest]
    · simp [hk, ih hrest]

theorem callee_of_mapM {pairs : List (OperandKind × Text)} {os : List Operand}
    (h : pairs.mapM (fun p => σ.operand? p.1 p.2) = some os) {index : UInt32}
    (hindex : index ∈ os.filterMap Operand.callee?) : ∃ token, σ.functions token = some index := by
  induction pairs generalizing os with
  | nil =>
    obtain rfl : [] = os := by simpa using h
    exact nomatch hindex
  | cons pair pairs ih =>
    obtain ⟨o, rest, ho, hrest, rfl⟩ := Outcome.mapM_cons_eq_some_iff.1 h
    obtain ⟨o', ho', hcallee⟩ := List.mem_filterMap.1 hindex
    rcases List.mem_cons.1 ho' with rfl | ho'
    · exact ⟨pair.2, function_of_operand? ho hcallee⟩
    · exact ih hrest (List.mem_filterMap.2 ⟨o', ho', hcallee⟩)

/-- An instruction uses the slots of the locals in its line, and calls functions that exist. -/
theorem operands_of_instruction? {opcode : Opcode} {tokens : List Text} {i : Instruction}
    (h : σ.instruction? opcode tokens = some i) :
    i.operands.filterMap Operand.slot? = (Entry.instruction opcode tokens).slots.map
        (fun name => UInt8.ofNat (σ.locals.idxOf name)) ∧
      ∀ index ∈ i.operands.filterMap Operand.callee?,
        ∃ token, σ.functions token = some index := by
  rcases instruction?_cases h with ⟨rfl, -, entries, -, rfl⟩ | ⟨-, -, os, hos, rfl⟩
  · constructor
    · cases tokens <;> rfl
    · intro index hindex
      cases hindex
  · exact ⟨slots_of_mapM hos, fun index hindex => callee_of_mapM hos hindex⟩

theorem operands_of_instructions? {body : List Entry} {is : List Instruction}
    (h : σ.instructions? body = some is) :
    (is.flatMap (·.operands)).filterMap Operand.slot? =
        (body.flatMap Entry.slots).map (fun name => UInt8.ofNat (σ.locals.idxOf name)) ∧
      ∀ index ∈ (is.flatMap (·.operands)).filterMap Operand.callee?,
        ∃ token, σ.functions token = some index := by
  induction body generalizing is with
  | nil =>
    obtain rfl := Option.some.inj h
    exact ⟨rfl, nofun⟩
  | cons e body ih =>
    cases e with
    | label name => exact ih h
    | instruction opcode tokens =>
      obtain ⟨i, rest, hi, hrest, rfl⟩ := instructions?_cons_eq_some_iff.1 h
      obtain ⟨hslots, hcalls⟩ := operands_of_instruction? hi
      obtain ⟨hmore, hrestCalls⟩ := ih hrest
      rw [List.flatMap_cons, List.filterMap_append, List.filterMap_append]
      refine ⟨?_, ?_⟩
      · rw [hslots, hmore, List.flatMap_cons, List.map_append]
      · intro index hindex
        rcases List.mem_append.1 hindex with hindex | hindex
        · exact hcalls index hindex
        · exact hrestCalls index hindex

end TwoPass.Scope

/-! ### Functions -/

theorem function_lt_of_scope {table : StringTable} {routines : List Routine} {start : Nat}
    {body : List Entry} {token : Text} {index : UInt32}
    (h : (scope table routines start body).functions token = some index) :
    index.toNat < routines.length := by
  obtain ⟨i, hi, rfl⟩ := Option.map_eq_some_iff.1 h
  obtain ⟨hlt, -⟩ := List.findIdx?_eq_some_iff_getElem.1 hi
  rw [UInt32.toNat_ofNat']
  exact Nat.lt_of_le_of_lt (Nat.mod_le _ _) hlt

theorem codeSize_pos {body : List Entry} (h : body.any Entry.isInstruction) :
    0 < codeSize body := by
  obtain ⟨e, he, hinstruction⟩ := List.any_eq_true.1 h
  cases e with
  | label name => exact nomatch hinstruction
  | instruction opcode tokens =>
    have hpos : 0 < (Entry.instruction opcode tokens).size := by
      rw [Entry.size]
      split <;> omega
    obtain ⟨front, back, rfl⟩ := List.append_of_mem he
    rw [codeSize_append, codeSize_cons]
    omega

/-- The code of a valid function has the size of the layout, and the function is well-formed. -/
theorem wellFormed_of_function? {table : StringTable} {routines : List Routine} {start : Nat}
    {r : Routine} {f : FunctionEntry} (hvalid : r.Valid)
    (h : function? table routines start r = some f) :
    f.code.length = codeSize r.body ∧ f.WellFormed routines.length := by
  obtain ⟨string, is, -, his, rfl⟩ := function?_eq_some_iff.1 h
  obtain ⟨hwf, hsize⟩ := Scope.wellFormed_of_instructions? his
  obtain ⟨hslots, hcalls⟩ := Scope.operands_of_instructions? his
  have hlocals : (locals r.body).length ≤ 256 := hvalid.locals_le
  have hcount : (UInt32.ofNat (locals r.body).length).toNat = (locals r.body).length := by
    rw [UInt32.toNat_ofNat']
    exact Nat.mod_eq_of_lt (by omega)
  have hlen : (is.flatMap Instruction.encode).length = codeSize r.body := by
    rw [← hsize, Instruction.length_flatMap_encode]
  refine ⟨hlen, ?_⟩
  generalize hf : ({ name := string.pos, pos := UInt32.ofNat start, params := r.params
                     locals := UInt32.ofNat (locals r.body).length
                     code := is.flatMap Instruction.encode } : FunctionEntry) = f
  have hcode : f.code = is.flatMap Instruction.encode := by rw [← hf]
  have hflocals : f.locals.toNat = (locals r.body).length := by
    rw [← hf]
    exact hcount
  have hinstructions := FunctionEntry.instructions_eq hwf hcode
  have hoperands : f.operands = is.flatMap (·.operands) := by
    rw [FunctionEntry.operands, hinstructions]
  exact {
    code_ne := by
      have hpos := codeSize_pos hvalid.hasInstruction
      rw [hcode]
      intro hnil
      rw [hnil, List.length_nil] at hlen
      omega
    sweeps := by
      rw [hcode, Sweep.ofCode_flatMap hwf]
    reads := by
      rw [hinstructions]
      exact Read.toEnd_of_rest hwf (Nat.zero_le _) hcode
    calls_lt := by
      intro index hindex
      rw [FunctionEntry.calls, hoperands] at hindex
      obtain ⟨token, htoken⟩ := hcalls index hindex
      exact function_lt_of_scope htoken
    slots_eq := by
      rw [hflocals, FunctionEntry.slots, hoperands, hslots]
      exact FirstUses.eraseDups_map_byte hlocals
    locals_le := by
      rw [hflocals]
      exact hlocals }

/-- Functions are encoded one behind the other, each from its own routine. -/
theorem packed_of_functionsFrom? {table : StringTable} {routines rs : List Routine} {start : Nat}
    {fs : List FunctionEntry} (hvalid : ∀ r ∈ rs, r.Valid)
    (hsize : start + programSize rs < 2 ^ 32)
    (h : functionsFrom? table routines start rs = some fs)
    (hwords : ∀ f ∈ fs, f.code.length < 2 ^ 32) :
    Script.FunctionsPacked start fs ∧ fs.length = rs.length ∧
      (∀ f ∈ fs, f.WellFormed routines.length) ∧
      fs.map (fun f => some f.name) = rs.map fun r => (table.lookup r.name).map (·.pos) := by
  induction rs generalizing start fs with
  | nil =>
    obtain rfl := Option.some.inj h
    exact ⟨trivial, rfl, nofun, rfl⟩
  | cons r rs ih =>
    obtain ⟨f, rest, hf, hrest, rfl⟩ := functionsFrom?_cons_eq_some_iff.1 h
    rw [List.forall_mem_cons] at hwords
    rw [programSize_cons] at hsize
    obtain ⟨hlen, hwf⟩ := wellFormed_of_function? (hvalid r List.mem_cons_self) hf
    have hroom : r.size = f.code.length := by
      rw [Routine.size, ← hlen]
      exact Nat.mod_eq_of_lt hwords.1
    obtain ⟨hpacked, hcount, hwfs, hnames⟩ :=
      ih (fun r' hr' => hvalid r' (List.mem_cons_of_mem r hr')) (by omega) hrest hwords.2
    obtain ⟨string, is, hstring, -, hentry⟩ := function?_eq_some_iff.1 hf
    refine ⟨⟨?_, ?_⟩, ?_, ?_, ?_⟩
    · rw [← hentry]
      show (UInt32.ofNat start).toNat = start
      rw [UInt32.toNat_ofNat']
      exact Nat.mod_eq_of_lt (by omega)
    · rw [← hroom]
      exact hpacked
    · rw [List.length_cons, List.length_cons, hcount]
    · intro g hg
      rcases List.mem_cons.1 hg with rfl | hg
      · exact hwf
      · exact hwfs g hg
    · rw [List.map_cons, List.map_cons, hnames, hstring, ← hentry]
      rfl

/-- Functions with different names have different strings for names. -/
theorem nodup_names {table : StringTable} {rs : List Routine} {fs : List FunctionEntry}
    (htable : (table.map Prod.snd).Pairwise fun s t => s.pos < t.pos)
    (hrs : (rs.map Routine.name).Nodup)
    (h : fs.map (fun f => some f.name) = rs.map fun r => (table.lookup r.name).map (·.pos)) :
    (fs.map (·.name)).Nodup ∧ ∀ f ∈ fs, f.name ∈ (table.map Prod.snd).map (·.pos) := by
  have hlookup {r : Routine} {pos : UInt32} (hr : (table.lookup r.name).map (·.pos) = some pos) :
      ∃ entry, (r.name, entry) ∈ table ∧ entry.pos = pos := by
    obtain ⟨entry, hentry, hpos⟩ := Option.map_eq_some_iff.1 hr
    exact ⟨entry, Association.mem_of_lookup hentry, hpos⟩
  constructor
  · induction fs generalizing rs with
    | nil => exact List.nodup_nil
    | cons f fs ih =>
      obtain _ | ⟨r, rs⟩ := rs
      · exact nomatch h
      · rw [List.map_cons, List.nodup_cons] at hrs
        obtain ⟨hfirst, hrest⟩ := List.cons_eq_cons.1 h
        refine List.nodup_cons.2 ⟨?_, ih hrs.2 hrest⟩
        intro hmem
        obtain ⟨g, hg, hname⟩ := List.mem_map.1 hmem
        have hsame : some f.name ∈ rs.map fun r => (table.lookup r.name).map (·.pos) := by
          rw [← hrest]
          exact List.mem_map.2 ⟨g, hg, congrArg some hname⟩
        obtain ⟨r', hr', hpos'⟩ := List.mem_map.1 hsame
        obtain ⟨e, he, hepos⟩ := hlookup hfirst.symm
        obtain ⟨e', he', hepos'⟩ := hlookup hpos'
        -- no two strings have the same position, so both routines have the same name
        have hascending : table.Pairwise fun s t => s.2.pos < t.2.pos := by
          rw [List.pairwise_map] at htable
          exact htable
        have heq := Association.eq_of_key_eq hascending he he' (hepos.trans hepos'.symm)
        exact hrs.1 (List.mem_map.2 ⟨r', hr', (Prod.mk.inj heq).1.symm⟩)
  · intro f hf
    have hmem : some f.name ∈ rs.map fun r => (table.lookup r.name).map (·.pos) := by
      rw [← h]
      exact List.mem_map.2 ⟨f, hf, rfl⟩
    obtain ⟨r, -, hr⟩ := List.mem_map.1 hmem
    obtain ⟨entry, hentry, hpos⟩ := hlookup hr
    exact List.mem_map.2 ⟨entry, List.mem_map.2 ⟨_, hentry, rfl⟩, hpos⟩

theorem wellFormed_of_assembleLines {cs : Charset} {lines : List Line} {s : Script}
    (h : assembleLines cs lines = .ok s) (hcode : s.codeLength < 2 ^ 32)
    (hstrings : ∀ e ∈ s.strings.dropLast, e.bytes.length + 1 < 2 ^ 32) : s.WellFormed := by
  rw [assembleLines_eq_ok_iff] at h
  obtain ⟨p, hp, hscript⟩ := Option.bind_eq_some_iff.1 h
  obtain ⟨hvalid, fs, hfs, rfl⟩ := Program.script?_eq_some_iff.1 hscript
  obtain ⟨hlen, hnul, hzero⟩ := zero_not_mem_of_program? hp
  have hwords : ∀ s ∈ p.strings.dropLast, s.2.length + 1 < 2 ^ 32 := by
    intro s hs
    have hbytes := List.mem_map_of_mem (f := Prod.snd) hs
    rw [List.map_dropLast, ← map_bytes_tableFrom 0, ← List.map_dropLast] at hbytes
    obtain ⟨e, he, hbytes⟩ := List.mem_map.1 hbytes
    rw [← hbytes]
    exact hstrings e he
  have hsection : 0 + sectionSize p.strings < 2 ^ 32 := by
    rw [Nat.zero_add]
    exact hvalid.strings_size
  have hprogram : 0 + programSize p.routines < 2 ^ 32 := by
    rw [Nat.zero_add]
    exact hvalid.code_size
  obtain ⟨hpacked, hcount, hwf, hnames⟩ := packed_of_functionsFrom? hvalid.routines_valid hprogram
    hfs fun f hf => Nat.lt_of_le_of_lt (Script.length_code_le hf) hcode
  have hpairs := pairwise_tableFrom hsection fun s hs => by
    rw [stringSize, Nat.mod_eq_of_lt (hwords s hs)]
    exact Nat.succ_ne_zero _
  obtain ⟨hnodup, hmem⟩ := nodup_names hpairs hvalid.routines_nodup hnames
  exact {
    name_length := hlen
    name_zero := hnul
    strings_ne := by
      intro hnil
      exact hvalid.strings_ne ((tableFrom_eq_nil_iff p.strings).1 (List.map_eq_nil_iff.1 hnil))
    strings_packed := tableFrom_packed hsection hwords
    strings_zero := zero_not_mem_tableFrom hzero
    functions_ne := by
      rintro rfl
      exact hvalid.routines_ne (List.length_eq_zero_iff.1 hcount.symm)
    functions_packed := hpacked
    functions_wellFormed := by
      rw [hcount]
      exact hwf
    names_mem := hmem
    names_nodup := hnodup }

/-- Every script that the assembler returns is well-formed, so it can be saved and loaded again: as
long as its code is smaller than `2 ^ 32` bytes, and so is the room of every string that another one
follows. -/
theorem assemble_wellFormed {cs : Charset} {source : Text} {s : Script}
    (h : assemble cs source = .ok s) (hcode : s.codeLength < 2 ^ 32)
    (hstrings : ∀ e ∈ s.strings.dropLast, e.bytes.length + 1 < 2 ^ 32) :
    s.WellFormed ∧ ∃ d, s.save = .ok d ∧ (d.length < 2 ^ 32 → Script.load d = .ok s) := by
  have hwf := wellFormed_of_assembleLines h hcode hstrings
  exact ⟨hwf, hwf.saved⟩

/-- A source text with locals, jumps in both directions and a call of a later function. -/
def sampleSource : Text :=
  ("script a\nstrings\nf = \"f\"\nmain = \"x\\xff\"\nendstrings\n" ++
    "function main,0\nl:\npushl x\njz e\npopl y ; the second local\ncall f\njmp l\ne:\nend\n" ++
    "endfunction\nfunction f,1\nend\nendfunction\n").toList

def sampleScript : Script where
  name := [0x61]
  strings := [⟨0, [0x66]⟩, ⟨2, [0x78, 0xff]⟩]
  functions := [
    { name := 2, pos := 0, locals := 2
      code := [0x01, 0x00, 0x22, 0x13, 0x00, 0x00, 0x00, 0x02, 0x01, 0x25, 0x01, 0x00, 0x00, 0x00,
        0x21, 0x00, 0x00, 0x00, 0x00, 0x2c] },
    { name := 0, pos := 20, params := 1, code := [0x2c] }]

theorem assemble_sampleSource : assemble .utf8 sampleSource = .ok sampleScript := by
  decide +kernel

theorem assemble_wellFormed_sample :
    assemble .utf8 sampleSource = .ok sampleScript ∧ sampleScript.codeLength < 2 ^ 32 ∧
      (∀ e ∈ sampleScript.strings.dropLast, e.bytes.length + 1 < 2 ^ 32) ∧
      sampleScript.WellFormed ∧
      ∃ d, sampleScript.save = .ok d ∧ (d.length < 2 ^ 32 → Script.load d = .ok sampleScript) := by
  have hcode : sampleScript.codeLength < 2 ^ 32 := by decide
  have hstrings : ∀ e ∈ sampleScript.strings.dropLast, e.bytes.length + 1 < 2 ^ 32 := by decide
  exact ⟨assemble_sampleSource, hcode, hstrings,
    assemble_wellFormed assemble_sampleSource hcode hstrings⟩

/-- A string of `2 ^ 32` bytes takes up the room of an empty one. The string behind it is put inside
of it, and the script that the assembler returns cannot be saved. -/
theorem assemble_malformed_longString :
    ∃ s, assemble .utf8 (longSource (2 ^ 32)) = .ok s ∧ s.codeLength < 2 ^ 32 ∧
      s.strings.map (·.pos) = [0, 1] ∧ s.strings.map (·.bytes.length) = [2 ^ 32, 0] ∧
      ¬ s.WellFormed ∧ s.save = .error (.encode (.misplacedString 1 (2 ^ 32 + 1))) := by
  have hlong : 2 ^ 32 ≤ 2 ^ 32 + 1 := Nat.le_succ _
  refine ⟨longScript (2 ^ 32), assemble_longSource (by decide), by decide, rfl, ?_,
    not_wellFormed_longScript hlong, save_longScript hlong⟩
  simp only [longScript, List.map_cons, List.map_nil, List.length_replicate, List.length_nil]

end NovelScript.Assembly
