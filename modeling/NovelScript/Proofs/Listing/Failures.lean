import NovelScript.Proofs.Listing.Program
import NovelScript.Proofs.Lookahead

/-!
Which scripts can be listed, and what is wrong with the others. A listing is written one function
after the other, so it fails at the first function with a defect, and the fault says what the defect
is (`Defect`): code that cannot be read to its end, a name that is no string, or a call that leads
to no function or to one without a name. There is nothing else that a listing can fail at
(`disassemble_outcome`).
-/

namespace NovelScript

/-! ### Defects -/

namespace Script

/-- The name of a function is a string of the script. -/
def Names (s : Script) (f : FunctionEntry) : Prop := f.name ∈ s.strings.map (·.pos)

/-- There is a function with this index, and it has a name. -/
def Callable (s : Script) (index : UInt32) : Prop :=
  ∃ target, s.functions[index.toNat]? = some target ∧ s.Names target

theorem Callable.lt {s : Script} {index : UInt32} (h : s.Callable index) :
    index.toNat < s.functions.length := by
  obtain ⟨target, htarget, -⟩ := h
  exact (List.getElem?_eq_some_iff.1 htarget).1

end Script

namespace Listing

/-- A call that cannot be written, and the fault that this is: no function has the index, or the one
that has it has no name. -/
inductive BadCall (s : Script) (address index : UInt32) : Fault → Prop
  | outOfRange (hindex : s.functions.length ≤ index.toNat) :
      BadCall s address index
        (.decode address.toNat (.callOutOfRange index s.functions.length))
  | nameless {target : FunctionEntry} (htarget : s.functions[index.toNat]? = some target)
      (hname : ¬ s.Names target) :
      BadCall s address index (.decode target.pos.toNat (.nameUnresolved target.name))

/-- What keeps a function from being listed, and the fault that this is. If the code cannot be read
to its end, the fault stands where no instruction can be read, inside of the code or at its end; if
it can, the own name comes before the calls, and of the calls the first bad one counts. -/
inductive Defect (s : Script) (f : FunctionEntry) : Fault → Prop
  | undecodable {is : List Instruction} {rest : Bytes} {offset : Nat} {cause : DecodeCause}
      (hreading : f.reading.failure? = some (.decode (f.pos.toNat + offset) cause))
      (hwf : ∀ i ∈ is, i.WellFormed) (hcode : f.code = is.flatMap Instruction.encode ++ rest)
      (hrest : Unreadable (f.pos.toNat + (is.flatMap Instruction.encode).length) rest
        (.decode (f.pos.toNat + offset) cause))
      (hoffset : offset ≤ f.code.length) :
      Defect s f (.decode (f.pos.toNat + offset) cause)
  | nameless (hreading : f.reading.failure? = none) (hname : ¬ s.Names f) :
      Defect s f (.decode f.pos.toNat (.nameUnresolved f.name))
  | call {front back : List (UInt32 × Instruction)} {address index : UInt32} {i : Instruction}
      {fault : Fault} (hreading : f.reading.failure? = none) (hname : s.Names f)
      (hfound : f.reading.found = front ++ (address, i) :: back)
      (hfront : ∀ p ∈ front, ∀ index, .function index ∈ p.2.operands → s.Callable index)
      (hindex : .function index ∈ i.operands) (hbad : BadCall s address index fault) :
      Defect s f fault

structure Sound (s : Script) (f : FunctionEntry) : Prop where
  reads : f.reading.failure? = none
  named : s.Names f
  calls : ∀ p ∈ f.reading.found, ∀ index, .function index ∈ p.2.operands → s.Callable index

theorem Defect.exists_decode {s : Script} {f : FunctionEntry} {fault : Fault}
    (h : Defect s f fault) :
    ∃ position cause, fault = .decode position cause := by
  cases h with
  | undecodable => exact ⟨_, _, rfl⟩
  | nameless => exact ⟨_, _, rfl⟩
  | call _ _ _ _ _ hbad => cases hbad <;> exact ⟨_, _, rfl⟩

variable {script : Script} {cs : Charset}

/-! ### Operands -/

theorem function_eq_error {f : FunctionEntry} (h : ¬ script.Names f) :
    (Symbols.build script cs).function f =
      .error (.decode f.pos.toNat (.nameUnresolved f.name)) := by
  have hnone : (Symbols.build script cs).string? f.name = none := by
    rw [Option.eq_none_iff_forall_ne_some]
    intro t ht
    exact h (string?_build_eq_some_iff.1 ht).1
  rw [Symbols.function, hnone]

theorem function_eq_ok_iff {f : FunctionEntry} {t : Text} :
    (Symbols.build script cs).function f = .ok t ↔
      script.Names f ∧ t = symbolName script cs f.name := by
  by_cases hname : script.Names f
  · rw [function_eq_ok cs hname, Except.ok.injEq]
    exact ⟨fun h => ⟨hname, h.symm⟩, fun h => h.2.symm⟩
  · rw [function_eq_error hname]
    exact ⟨nofun, fun h => absurd h.1 hname⟩

variable {d : Decoded} {p : Placed}

/-- Calls are the only operands that cannot always be written. -/
theorem operandText_eq_error {o : Operand} {fault : Fault}
    (h : operandText script (Symbols.build script cs) d p o = .error fault) :
    ∃ index, o = .function index ∧ BadCall script (Decoded.address d.function p) index fault := by
  cases o with
  | function index =>
    refine ⟨index, rfl, ?_⟩
    rw [operandText] at h
    cases htarget : script.functions[index.toNat]? with
    | none =>
      rw [htarget] at h
      obtain rfl := Except.error.inj h
      exact .outOfRange (List.getElem?_eq_none_iff.1 htarget)
    | some target =>
      rw [htarget] at h
      by_cases hname : script.Names target
      · simp only [function_eq_ok cs hname] at h
        cases h
      · simp only [function_eq_error hname] at h
        obtain rfl := Except.error.inj h
        exact .nameless htarget hname
  | _ => cases h

theorem callable_of_operandText {index : UInt32} {t : Text}
    (h : operandText script (Symbols.build script cs) d p (.function index) = .ok t) :
    script.Callable index := by
  rw [operandText] at h
  cases htarget : script.functions[index.toNat]? with
  | none =>
    rw [htarget] at h
    cases h
  | some target =>
    simp only [htarget] at h
    exact ⟨target, htarget, (function_eq_ok_iff.1 h).1⟩

variable {symbols : Symbols}

theorem operandTexts_eq_mapM (os : List Operand) :
    operandTexts script symbols d p os = os.mapM (operandText script symbols d p) := by
  induction os with
  | nil => rfl
  | cons o os ih => rw [operandTexts, ih, List.mapM_cons]

/-! ### Instructions -/

theorem instructionLines_eq_error {fault : Fault}
    (h : instructionLines script (Symbols.build script cs) d p = .error fault) :
    ∃ index, .function index ∈ p.instruction.operands ∧
      BadCall script (Decoded.address d.function p) index fault := by
  rcases Outcome.bind_eq_error_iff.1 h with h | ⟨_, -, h⟩
  · rw [operandTexts_eq_mapM] at h
    obtain ⟨front, o, back, hos, -, ho⟩ := Outcome.mapM_eq_error_iff.1 h
    obtain ⟨index, rfl, hbad⟩ := operandText_eq_error ho
    exact ⟨index, hos ▸ List.mem_append_right front List.mem_cons_self, hbad⟩
  · cases h

theorem callable_of_instructionLines {ls : List Text}
    (h : instructionLines script (Symbols.build script cs) d p = .ok ls) {index : UInt32}
    (hindex : .function index ∈ p.instruction.operands) : script.Callable index := by
  obtain ⟨texts, htexts, -⟩ := Outcome.bind_eq_ok_iff.1 h
  rw [operandTexts_eq_mapM] at htexts
  obtain ⟨t, -, ht⟩ := Outcome.exists_of_mapM htexts hindex
  exact callable_of_operandText ht

theorem bodyLines_eq_mapM (ps : List Placed) :
    bodyLines script symbols d ps =
      (ps.mapM (instructionLines script symbols d)).map List.flatten := by
  induction ps with
  | nil => rfl
  | cons p ps ih =>
    rw [bodyLines, ih, List.mapM_cons]
    cases instructionLines script symbols d p with
    | error fault => rfl
    | ok ls => cases ps.mapM (instructionLines script symbols d) <;> rfl

/-! ### Functions -/

/-- Code that cannot be read to its end. -/
theorem defect_of_ofFunction {f : FunctionEntry} {fault : Fault}
    (h : Decoded.ofFunction f = .error fault) : Defect script f fault := by
  rw [Decoded.ofFunction] at h
  cases hfailure : (Sweep.ofCode f.code).failure? with
  | none =>
    simp only [hfailure] at h
    cases h
  | some u =>
    simp only [hfailure] at h
    obtain rfl := Except.error.inj h
    have hreading : f.reading.failure? = some (.decode (f.pos.toNat + u.offset) u.cause) := by
      rw [f.reading_eq, Sweep.reading, hfailure]
      rfl
    obtain ⟨is, rest, hwf, hcode, -, hend⟩ := (instructions_exact f.pos.toNat).1 f.code
    rcases hend with ⟨-, hnone⟩ | ⟨fault, hrest, hsome⟩
    · rw [FunctionEntry.reading, hnone] at hreading
      cases hreading
    · obtain rfl := Option.some.inj (hsome.symm.trans hreading)
      refine .undecodable hreading hwf hcode hrest ?_
      have hle := hrest.position_le
      rw [hcode, List.length_append]
      omega

theorem failure?_reading_eq_none_iff {f : FunctionEntry} :
    f.reading.failure? = none ↔ (Sweep.ofCode f.code).failure? = none := by
  rw [f.reading_eq, Sweep.reading, Option.map_eq_none_iff]

theorem ofFunction_eq_ok_iff {f : FunctionEntry} {d : Decoded} :
    Decoded.ofFunction f = .ok d ↔ f.reading.failure? = none ∧ d = decoded f := by
  rw [failure?_reading_eq_none_iff]
  cases hfailure : (Sweep.ofCode f.code).failure? with
  | none =>
    rw [ofFunction_eq_ok hfailure, Except.ok.injEq]
    exact ⟨fun h => ⟨rfl, h.symm⟩, fun h => h.2.symm⟩
  | some u =>
    rw [Decoded.ofFunction]
    simp [hfailure]

/-- What a function without a defect is listed as. -/
theorem functionLines_eq_ok_iff {f : FunctionEntry} {ls : List Text} :
    functionLines script (Symbols.build script cs) f = .ok ls ↔
      f.reading.failure? = none ∧ script.Names f ∧
        ∃ body, bodyLines script (Symbols.build script cs) (decoded f) (decoded f).instructions =
            .ok body ∧
          ls = headerText (symbolName script cs f.name) f.params :: body ++
            ["endfunction".toList] := by
  rw [functionLines, Outcome.bind_eq_ok_iff]
  constructor
  · rintro ⟨d, hd, h⟩
    obtain ⟨hreading, rfl⟩ := ofFunction_eq_ok_iff.1 hd
    obtain ⟨name, hname, h⟩ := Outcome.bind_eq_ok_iff.1 h
    obtain ⟨hnamed, rfl⟩ := function_eq_ok_iff.1 hname
    obtain ⟨body, hbody, h⟩ := Outcome.bind_eq_ok_iff.1 h
    exact ⟨hreading, hnamed, body, hbody, (Except.ok.inj h).symm⟩
  · rintro ⟨hreading, hnamed, body, hbody, rfl⟩
    refine ⟨decoded f, ofFunction_eq_ok_iff.2 ⟨hreading, rfl⟩, Outcome.bind_eq_ok_iff.2
      ⟨_, function_eq_ok cs hnamed, Outcome.bind_eq_ok_iff.2 ⟨body, hbody, rfl⟩⟩⟩

theorem sound_of_functionLines {f : FunctionEntry} {ls : List Text}
    (h : functionLines script (Symbols.build script cs) f = .ok ls) : Sound script f := by
  obtain ⟨hreading, hnamed, body, hbody, -⟩ := functionLines_eq_ok_iff.1 h
  refine ⟨hreading, hnamed, ?_⟩
  rw [bodyLines_eq_mapM] at hbody
  obtain ⟨_, hbody, -⟩ := Outcome.map_eq_ok_iff.1 hbody
  rw [f.found_reading]
  intro q hq index hindex
  obtain ⟨p, hp, rfl⟩ := List.mem_map.1 hq
  obtain ⟨ls, -, hls⟩ := Outcome.exists_of_mapM hbody hp
  exact callable_of_instructionLines hls hindex

theorem defect_of_functionLines {f : FunctionEntry} {fault : Fault}
    (h : functionLines script (Symbols.build script cs) f = .error fault) :
    Defect script f fault := by
  rcases Outcome.bind_eq_error_iff.1 h with hd | ⟨d, hd, h⟩
  · exact defect_of_ofFunction hd
  obtain ⟨hreading, rfl⟩ := ofFunction_eq_ok_iff.1 hd
  by_cases hnamed : script.Names f
  · rw [function_eq_ok cs hnamed, Outcome.ok_bind] at h
    rcases Outcome.bind_eq_error_iff.1 h with hbody | ⟨_, -, h⟩
    · rw [bodyLines_eq_mapM, Outcome.map_eq_error_iff] at hbody
      obtain ⟨front, p, back, hfound, hfront, hp⟩ := Outcome.mapM_eq_error_iff.1 hbody
      obtain ⟨index, hindex, hbad⟩ := instructionLines_eq_error hp
      have hread : f.reading.found =
          (front ++ p :: back).map fun q => (Sweep.address f.pos q.offset, q.instruction) := by
        rw [f.found_reading, ← hfound]
        rfl
      rw [List.map_append, List.map_cons] at hread
      refine .call hreading hnamed hread ?_ hindex hbad
      intro q hq index hindex
      obtain ⟨p, hp, rfl⟩ := List.mem_map.1 hq
      obtain ⟨ls, hls⟩ := hfront p hp
      exact callable_of_instructionLines hls hindex
    · cases h
  · rw [function_eq_error hnamed] at h
    obtain rfl := Except.error.inj h
    exact .nameless hreading hnamed

/-! ### The whole listing -/

theorem functionBlocks_eq_mapM (fs : List FunctionEntry) :
    functionBlocks script symbols fs =
      (fs.mapM fun f => (functionLines script symbols f).map ([] :: ·)).map List.flatten := by
  induction fs with
  | nil => rfl
  | cons f fs ih =>
    rw [functionBlocks, ih, List.mapM_cons]
    cases functionLines script symbols f with
    | error fault => rfl
    | ok ls => cases fs.mapM fun f => (functionLines script symbols f).map ([] :: ·) <;> rfl

theorem sound_of_functionBlocks {fs : List FunctionEntry} {ls : List Text}
    (h : functionBlocks script (Symbols.build script cs) fs = .ok ls) {f : FunctionEntry}
    (hf : f ∈ fs) : Sound script f := by
  rw [functionBlocks_eq_mapM] at h
  obtain ⟨_, hblocks, -⟩ := Outcome.map_eq_ok_iff.1 h
  obtain ⟨_, -, hblock⟩ := Outcome.exists_of_mapM hblocks hf
  obtain ⟨_, hlines, -⟩ := Outcome.map_eq_ok_iff.1 hblock
  exact sound_of_functionLines hlines

/-- The first function with a defect is what a listing fails at. -/
theorem defect_of_functionBlocks {fs : List FunctionEntry} {fault : Fault}
    (h : functionBlocks script (Symbols.build script cs) fs = .error fault) :
    ∃ front f back, fs = front ++ f :: back ∧ (∀ g ∈ front, Sound script g) ∧
      Defect script f fault := by
  rw [functionBlocks_eq_mapM, Outcome.map_eq_error_iff] at h
  obtain ⟨front, f, back, rfl, hfront, hf⟩ := Outcome.mapM_eq_error_iff.1 h
  refine ⟨front, f, back, rfl, ?_, defect_of_functionLines (Outcome.map_eq_error_iff.1 hf)⟩
  intro g hg
  obtain ⟨_, hblock⟩ := hfront g hg
  obtain ⟨_, hlines, -⟩ := Outcome.map_eq_ok_iff.1 hblock
  exact sound_of_functionLines hlines

theorem mem_calls_iff {f : FunctionEntry} {index : UInt32} :
    index ∈ f.calls ↔ ∃ p ∈ f.reading.found, .function index ∈ p.2.operands := by
  have hinstructions : f.instructions = f.reading.found.map Prod.snd :=
    f.map_snd_found_reading.symm
  rw [FunctionEntry.calls, FunctionEntry.operands, hinstructions, List.mem_filterMap]
  constructor
  · rintro ⟨o, ho, hcallee⟩
    obtain ⟨i, hi, ho⟩ := List.mem_flatMap.1 ho
    obtain ⟨p, hp, rfl⟩ := List.mem_map.1 hi
    cases o with
    | function _ =>
      obtain rfl := Option.some.inj hcallee
      exact ⟨p, hp, ho⟩
    | _ => cases hcallee
  · rintro ⟨p, hp, hindex⟩
    exact ⟨_, List.mem_flatMap.2 ⟨p.2, List.mem_map.2 ⟨p, hp, rfl⟩, hindex⟩, rfl⟩

/-- What a script that can be listed is like, function by function. -/
theorem printable_iff : script.Printable ↔ ∀ f ∈ script.functions,
    f.reading.failure? = none ∧ script.Names f ∧
      ∀ p ∈ f.reading.found, ∀ index, .function index ∈ p.2.operands →
        index.toNat < script.functions.length := by
  constructor
  · intro h f hf
    refine ⟨failure?_reading_eq_none_iff.2 (h.sweeps f hf), h.names_mem f hf, ?_⟩
    intro p hp index hindex
    exact h.calls_lt f hf index (mem_calls_iff.2 ⟨p, hp, hindex⟩)
  · intro h
    refine ⟨fun f hf => failure?_reading_eq_none_iff.1 (h f hf).1, fun f hf => (h f hf).2.1, ?_⟩
    intro f hf index hindex
    obtain ⟨p, hp, hindex⟩ := mem_calls_iff.1 hindex
    exact (h f hf).2.2 p hp index hindex

/-- Only scripts of this kind can be listed. -/
theorem printable_of_disassemble {cast : Cast} {text : Text}
    (h : disassemble script cs cast = .ok text) : script.Printable := by
  obtain ⟨ls, hls, -⟩ := Outcome.map_eq_ok_iff.1 h
  obtain ⟨blocks, hblocks, -⟩ := Outcome.bind_eq_ok_iff.1 hls
  rw [printable_iff]
  intro f hf
  have hsound := sound_of_functionBlocks hblocks hf
  exact ⟨hsound.reads, hsound.named, fun p hp index hindex => (hsound.calls p hp index hindex).lt⟩

theorem exists_disassemble_of_printable (hscript : script.Printable) (cs : Charset) (cast : Cast) :
    ∃ text, disassemble script cs cast = .ok text := by
  obtain ⟨blocks, hblocks, -, -⟩ := exists_functionBlocks cs hscript fun f hf => hf
  exact ⟨_, Outcome.map_eq_ok_iff.2 ⟨_, Outcome.bind_eq_ok_iff.2 ⟨blocks, hblocks, rfl⟩, rfl⟩⟩

end Listing

/-- A script can be listed exactly if the code of its functions can be read to its end, their names
are strings, and calls lead to functions. Otherwise the listing fails at the first function with a
defect, with the fault that this defect is. Every string has its symbol in any case. -/
theorem disassemble_outcome (s : Script) (cs : Charset) (cast : Cast) :
    ((∃ text, disassemble s cs cast = .ok text) ↔ ∀ f ∈ s.functions,
      f.reading.failure? = none ∧ s.Names f ∧
        ∀ p ∈ f.reading.found, ∀ index, .function index ∈ p.2.operands →
          index.toNat < s.functions.length) ∧
    (∀ fault, disassemble s cs cast = .error fault →
      (∃ position cause, fault = .decode position cause) ∧
        ∃ front f back, s.functions = front ++ f :: back ∧ (∀ g ∈ front, Listing.Sound s g) ∧
          Listing.Defect s f fault) ∧
    ∀ e ∈ s.strings, ((Listing.Symbols.build s cs).string? e.pos).isSome := by
  refine ⟨?_, ?_, ?_⟩
  · rw [← Listing.printable_iff]
    exact ⟨fun ⟨_, h⟩ => Listing.printable_of_disassemble h,
      fun h => Listing.exists_disassemble_of_printable h cs cast⟩
  · intro fault h
    rw [disassemble, Outcome.map_eq_error_iff] at h
    rcases Outcome.bind_eq_error_iff.1 h with hblocks | ⟨_, -, h⟩
    · obtain ⟨front, f, back, hfunctions, hfront, hf⟩ := Listing.defect_of_functionBlocks hblocks
      exact ⟨hf.exists_decode, front, f, back, hfunctions, hfront, hf⟩
    · cases h
  · intro e he
    have hpos : e.pos ∈ s.strings.map (·.pos) := List.mem_map.2 ⟨e, he, rfl⟩
    rw [Listing.string?_build_eq_some_iff.2 ⟨hpos, rfl⟩]
    rfl

/-- A byte that is no opcode, behind two instructions of a function at `0x40`. -/
example : disassemble
    { strings := [⟨0, [0x66]⟩], functions := [{ name := 0, pos := 0x40, code := [0, 0, 0x30] }] }
    .utf8 Cast.standard = .error (.decode 0x42 (.unknownOpcode 0x30)) := by
  decide +kernel

end NovelScript
