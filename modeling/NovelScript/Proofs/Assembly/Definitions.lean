import NovelScript.Proofs.Assembly.Agreement
import NovelScript.Proofs.WellFormed

/-!
Definitions and their uses. In a source that can be assembled, a jump to a label is encoded with the
address behind the instructions above the label, and a string as a constant with the position of the
string (`assemble_resolves`). This holds for names that are no numbers: a label or a string may be
called by a number too, but where its name is used it is read as the number
(`assemble_misreads_number`).
-/

namespace NovelScript

def FunctionEntry.addressBehind (f : FunctionEntry) (count : Nat) : UInt32 :=
  UInt32.ofNat (f.pos.toNat + ((f.instructions.take count).map Instruction.size).sum)

namespace Assembly

open TwoPass

def TwoPass.instructionCount (body : List Entry) : Nat := body.countP Entry.isInstruction

structure Resolves (p : Program) (s : Script) (r : Routine) (f : FunctionEntry) : Prop where
  code_eq : f.code = f.instructions.flatMap Instruction.encode
  label : ∀ (name : Text) (opcode : Opcode) (above below front back : List Entry),
    Number.isNumber name = false → opcode.operandKinds = [.label] →
    r.body = above ++ .label name :: below → r.body = front ++ .instruction opcode [name] :: back →
      f.instructions[instructionCount front]? =
        some ⟨opcode, [.label (f.addressBehind (instructionCount above))]⟩
  string : ∀ (name : Text) (opcode : Opcode) (index : Nat) (bytes : Bytes)
    (front back : List Entry),
    Number.isNumber name = false → opcode.operandKinds = [.constant] →
    p.strings[index]? = some (name, bytes) → r.body = front ++ .instruction opcode [name] :: back →
      ∃ entry : StringEntry, s.strings[index]? = some entry ∧ entry.bytes = bytes ∧
        f.instructions[instructionCount front]? = some ⟨opcode, [.constant entry.pos]⟩

/-! ### Instructions in their places -/

namespace TwoPass

variable {σ : Scope} {body front back : List Entry} {is : List Instruction}

theorem Scope.length_instructions? (h : σ.instructions? body = some is) :
    is.length = instructionCount body := by
  induction body generalizing is with
  | nil =>
    obtain rfl := Option.some.inj h
    rfl
  | cons e body ih =>
    cases e with
    | label name =>
      rw [ih h]
      exact (List.countP_cons_of_neg Bool.false_ne_true).symm
    | instruction opcode tokens =>
      obtain ⟨i, rest, -, hrest, rfl⟩ := instructions?_cons_eq_some_iff.1 h
      rw [List.length_cons, ih hrest]
      exact (List.countP_cons_of_pos rfl).symm

/-- The instructions of the lines above are the first ones, and their size is that of the layout. -/
theorem Scope.sum_take_instructions? (h : σ.instructions? (front ++ back) = some is) :
    ((is.take (instructionCount front)).map Instruction.size).sum = codeSize front := by
  rw [instructions?_append] at h
  obtain ⟨first, hfirst, h⟩ := Option.bind_eq_some_iff.1 h
  obtain ⟨rest, -, rfl⟩ := Option.map_eq_some_iff.1 h
  rw [← length_instructions? hfirst, List.take_left']
  · exact (wellFormed_of_instructions? hfirst).2
  · rfl

theorem Scope.getElem?_instructions? {opcode : Opcode} {tokens : List Text}
    (h : σ.instructions? (front ++ .instruction opcode tokens :: back) = some is) :
    is[instructionCount front]? = σ.instruction? opcode tokens := by
  rw [instructions?_append] at h
  obtain ⟨first, hfirst, h⟩ := Option.bind_eq_some_iff.1 h
  obtain ⟨rest, hrest, rfl⟩ := Option.map_eq_some_iff.1 h
  obtain ⟨i, more, hi, -, rfl⟩ := instructions?_cons_eq_some_iff.1 hrest
  rw [← length_instructions? hfirst, hi, List.getElem?_append_right (Nat.le_refl _), Nat.sub_self,
    List.getElem?_cons_zero]

theorem Scope.getElem?_of_operand? {opcode : Opcode} {kind : OperandKind} {token : Text}
    {o : Operand}
    (h : σ.instructions? (front ++ .instruction opcode [token] :: back) = some is)
    (hkinds : opcode.operandKinds = [kind]) (hkind : kind ≠ .table)
    (ho : σ.operand? kind token = some o) :
    is[instructionCount front]? = some ⟨opcode, [o]⟩ := by
  have hop : opcode ≠ .jmpa := by
    rintro rfl
    exact hkind (List.singleton_inj.1 hkinds).symm
  rw [getElem?_instructions? h, instruction?, if_neg hop, hkinds]
  simp [ho]

theorem Scope.operand?_of_label {name : Text} {address : UInt32}
    (hname : Number.isNumber name = false) (h : σ.labels name = some address) :
    σ.operand? .label name = some (.label address) := by
  rw [operand?, hname, if_neg Bool.false_ne_true, h]
  rfl

theorem Scope.operand?_of_string {name : Text} {pos : UInt32}
    (hname : Number.isNumber name = false) (h : σ.strings name = some pos) :
    σ.operand? .constant name = some (.constant pos) := by
  rw [operand?, hname, if_neg Bool.false_ne_true, h]
  rfl

theorem lookup_labels {start : Nat} {name : Text} {above below : List Entry}
    (h : ((labels 0 (above ++ .label name :: below)).map Prod.fst).Nodup) :
    (labels start (above ++ .label name :: below)).lookup name =
      some (UInt32.ofNat (start + codeSize above)) := by
  rw [keys_labels 0 start] at h
  apply Association.lookup_of_mem h
  rw [labels_append]
  exact List.mem_append_right _ List.mem_cons_self

theorem getElem?_tableFrom (pos : Nat) {index : Nat} {strings : List (Text × Bytes)} {name : Text}
    {bytes : Bytes} (h : strings[index]? = some (name, bytes)) :
    ∃ entry : StringEntry, (tableFrom pos strings)[index]? = some (name, entry) ∧
      entry.bytes = bytes := by
  induction strings generalizing pos index with
  | nil => exact nomatch h
  | cons s strings ih =>
    cases index with
    | zero =>
      obtain rfl := Option.some.inj h
      exact ⟨_, rfl, rfl⟩
    | succ index => exact ih _ h

theorem getElem?_functionsFrom? {table : StringTable} {routines rs : List Routine}
    {start index : Nat} {fs : List FunctionEntry} {r : Routine}
    (h : functionsFrom? table routines start rs = some fs) (hr : rs[index]? = some r) :
    ∃ place f, fs[index]? = some f ∧ function? table routines place r = some f := by
  induction rs generalizing start index fs with
  | nil => exact nomatch hr
  | cons first rs ih =>
    obtain ⟨f, more, hf, hmore, rfl⟩ := functionsFrom?_cons_eq_some_iff.1 h
    cases index with
    | zero =>
      obtain rfl := Option.some.inj hr
      exact ⟨start, f, rfl, hf⟩
    | succ index =>
      rw [List.getElem?_cons_succ] at hr ⊢
      exact ih hmore hr

end TwoPass

/-! ### Main result -/

/-- The address of an instruction, whether or not addresses wrap around. -/
theorem ofNat_toNat_add (a b : Nat) :
    UInt32.ofNat ((UInt32.ofNat a).toNat + b) = UInt32.ofNat (a + b) := by
  rw [UInt32.ofNat_add, UInt32.ofNat_toNat, ← UInt32.ofNat_add]

/-- What is encoded under the scope of a function has its names resolved. -/
theorem resolves_of_function? {p : Program} (hp : p.Valid) {s : Script}
    (hs : s.strings = (tableFrom 0 p.strings).map Prod.snd) {start : Nat} {r : Routine}
    (hr : r ∈ p.routines) {f : FunctionEntry}
    (h : function? (tableFrom 0 p.strings) p.routines start r = some f) : Resolves p s r f := by
  obtain ⟨entry, is, -, his, hf⟩ := function?_eq_some_iff.1 h
  have hpos : f.pos = UInt32.ofNat start := by rw [← hf]
  have hcode : f.code = is.flatMap Instruction.encode := by rw [← hf]
  obtain rfl : f.instructions = is :=
    FunctionEntry.instructions_eq (Scope.wellFormed_of_instructions? his).1 hcode
  refine ⟨hcode, ?_, ?_⟩
  · intro name opcode above below front back hname hkinds habove hfront
    have hnodup := (hp.routines_valid r hr).labels_nodup
    rw [habove] at hnodup
    have hsize := his
    rw [habove] at hsize
    have hlabel : (labels start r.body).lookup name =
        some (f.addressBehind (instructionCount above)) := by
      rw [habove, lookup_labels hnodup, FunctionEntry.addressBehind,
        Scope.sum_take_instructions? hsize, hpos, ofNat_toNat_add]
    rw [hfront] at his
    apply Scope.getElem?_of_operand? his hkinds (by decide)
    rw [← hfront]
    exact Scope.operand?_of_label hname hlabel
  · intro name opcode index bytes front back hname hkinds hstring hfront
    obtain ⟨entry, hentry, hbytes⟩ := getElem?_tableFrom 0 hstring
    have hkeys : ((tableFrom 0 p.strings).map Prod.fst).Nodup := by
      rw [keys_tableFrom]
      exact hp.strings_nodup
    have hlookup : (tableFrom 0 p.strings).lookup name = some entry :=
      Association.lookup_of_mem hkeys (List.mem_of_getElem? hentry)
    refine ⟨entry, by rw [hs, List.getElem?_map, hentry]; rfl, hbytes, ?_⟩
    rw [hfront] at his
    apply Scope.getElem?_of_operand? his hkinds (by decide)
    have hposition : ((tableFrom 0 p.strings).lookup name).map (·.pos) = some entry.pos := by
      rw [hlookup, Option.map_some]
    exact Scope.operand?_of_string hname hposition

/-- In a source that can be assembled, names that are no numbers are encoded as what they are
defined to be: a label as its address, a string as its position. -/
theorem assemble_resolves {cs : Charset} {source : Text} {s : Script}
    (h : assemble cs source = .ok s) :
    ∃ p : Program, program? cs (Source.lines source) = some p ∧
      ∀ (index : Nat) (r : Routine), p.routines[index]? = some r →
        ∃ f, s.functions[index]? = some f ∧ Resolves p s r f := by
  rw [← Outcome.toOption_eq_some_iff, toOption_assemble] at h
  obtain ⟨p, hp, hscript⟩ := Option.bind_eq_some_iff.1 h
  obtain ⟨hvalid, fs, hfs, rfl⟩ := Program.script?_eq_some_iff.1 hscript
  refine ⟨p, hp, fun index r hr => ?_⟩
  obtain ⟨place, f, hf, hfunction⟩ := getElem?_functionsFrom? hfs hr
  exact ⟨f, hf, resolves_of_function? hvalid rfl (List.mem_of_getElem? hr) hfunction⟩

/-- A source text with a label and a string whose names only look like numbers, used before and
behind their definitions. -/
def oddNamesSource : Text :=
  ("script a\nstrings\nf = \"f\"\n-x = \"g\"\nendstrings\n" ++
    "function f,0\njmp 0X1\npushc -x\n0X1:\n" ++
    "jz 0X1\nend\nendfunction\n").toList

theorem assemble_resolves_oddNames :
    ∃ s f entry, assemble .utf8 oddNamesSource = .ok s ∧ s.functions[0]? = some f ∧
      s.strings[1]? = some entry ∧
      f.instructions[0]? = some ⟨.jmp, [.label (f.addressBehind 2)]⟩ ∧
      f.instructions[1]? = some ⟨.pushc, [.constant entry.pos]⟩ ∧
      f.instructions[2]? = some ⟨.jz, [.label (f.addressBehind 2)]⟩ := by
  have hassembled : (assemble .utf8 oddNamesSource).toOption.isSome := by decide +kernel
  obtain ⟨s, hs⟩ := Option.isSome_iff_exists.1 hassembled
  rw [Outcome.toOption_eq_some_iff] at hs
  obtain ⟨p, hp, hresolves⟩ := assemble_resolves hs
  have hlabel : Number.isNumber ['0', 'X', '1'] = false := by decide +kernel
  have hstring : Number.isNumber ['-', 'x'] = false := by decide +kernel
  have hread : (program? .utf8 (Source.lines oddNamesSource)).map
      (fun p => (p.routines[0]?, p.strings[1]?)) =
        some (some { name := ['f'], params := 0, body := [
            .instruction .jmp [['0', 'X', '1']], .instruction .pushc [['-', 'x']],
            .label ['0', 'X', '1'], .instruction .jz [['0', 'X', '1']], .instruction .stop []] },
          some (['-', 'x'], [0x67])) := by decide +kernel
  rw [hp, Option.map_some, Option.some.injEq, Prod.mk.injEq] at hread
  obtain ⟨f, hf, hall⟩ := hresolves 0 _ hread.1
  obtain ⟨entry, hentry, -, hpush⟩ := hall.string ['-', 'x'] .pushc 1 [0x67]
    [.instruction .jmp [['0', 'X', '1']]] _ hstring rfl hread.2 rfl
  refine ⟨s, f, entry, hs, hf, hentry, ?_, hpush, ?_⟩
  · exact hall.label ['0', 'X', '1'] .jmp
      [.instruction .jmp [['0', 'X', '1']], .instruction .pushc [['-', 'x']]] _ [] _ hlabel rfl
      rfl rfl
  · exact hall.label ['0', 'X', '1'] .jz
      [.instruction .jmp [['0', 'X', '1']], .instruction .pushc [['-', 'x']]] _
      [.instruction .jmp [['0', 'X', '1']], .instruction .pushc [['-', 'x']],
        .label ['0', 'X', '1']] _ hlabel rfl rfl rfl

def numbersSource : Text :=
  ("script s\nstrings\nf = \"f\"\n7 = \"g\"\nendstrings\n" ++
    "function f,0\nnop\n7:\njmp 7\npushc 7\nend\n" ++
    "endfunction").toList

/-- Where a label and a string are called by a number, their names are read as the number. -/
theorem assemble_misreads_number :
    ∃ s f, assemble .utf8 numbersSource = .ok s ∧ s.functions = [f] ∧
      (program? .utf8 (Source.lines numbersSource)).map
          (fun p => (p.strings.map Prod.fst, p.routines.map Routine.body)) =
        some ([['f'], ['7']], [[.instruction .nop [], .label ['7'], .instruction .jmp [['7']],
          .instruction .pushc [['7']], .instruction .stop []]]) ∧
      f.instructions = [⟨.nop, []⟩, ⟨.jmp, [.label 7]⟩, ⟨.pushc, [.constant 7]⟩, ⟨.stop, []⟩] ∧
      f.addressBehind 1 = 1 ∧ s.strings.map (·.pos) = [0, 2] := by
  let f : FunctionEntry := {
    name := 0, pos := 0, params := 0, locals := 0
    code := [0, 0x21, 7, 0, 0, 0, 3, 7, 0, 0, 0, 0x2c] }
  exact ⟨⟨[0x73], [⟨0, [0x66]⟩, ⟨2, [0x67]⟩], [f]⟩, f, by decide +kernel, rfl, by decide +kernel,
    by decide +kernel, by decide +kernel, rfl⟩

end Assembly

end NovelScript
