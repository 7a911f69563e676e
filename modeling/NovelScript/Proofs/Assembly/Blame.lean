import NovelScript.Proofs.Assembly.Fixups
import NovelScript.Proofs.Assembly.Numbering
import NovelScript.Proofs.Assembly.Phases

/-!
Where assembly fails. Whatever is wrong with a source text, the fault is one of the source and
stands in one of its lines (`failsIn_assembleLines`): every check blames the line it is made for, a
placeholder was noted in a line that has been read (`Phase.Anchored`), and the end of the input is
blamed on the last line. A patch never fails for being out of place, since its four bytes lie inside
of the code of its function (`Phase.Anchored.patchedInside`).
-/

namespace NovelScript

/-! ### Faults in lines -/

inductive Fault.InLine (n : Nat) : Fault → Prop
  | syntactic (cause : SyntaxCause) : InLine n (.syntactic n cause)
  | semantic (cause : SemanticCause) : InLine n (.semantic n cause)

/-- If this failed, then with a fault of the source, in one of the lines of these numbers. -/
def FailsIn {α : Type} (numbers : List Nat) (x : Except Fault α) : Prop :=
  ∀ fault, x = .error fault → ∃ n ∈ numbers, fault.InLine n

namespace FailsIn

variable {α β : Type} {numbers : List Nat} {n : Nat} {x : Except Fault α}

theorem ok (a : α) : FailsIn numbers (.ok a) := nofun

theorem syntactic (h : n ∈ numbers) (cause : SyntaxCause) :
    FailsIn numbers (.error (.syntactic n cause) : Except Fault α) := by
  rintro fault ⟨⟩
  exact ⟨n, h, .syntactic cause⟩

theorem semantic (h : n ∈ numbers) (cause : SemanticCause) :
    FailsIn numbers (.error (.semantic n cause) : Except Fault α) := by
  rintro fault ⟨⟩
  exact ⟨n, h, .semantic cause⟩

theorem bind {f : α → Except Fault β} (hx : FailsIn numbers x)
    (hf : ∀ a, x = .ok a → FailsIn numbers (f a)) : FailsIn numbers (x >>= f) := by
  cases x with
  | error e =>
    rintro fault ⟨⟩
    exact hx e rfl
  | ok a => exact hf a rfl

theorem map (hx : FailsIn numbers x) (f : α → β) : FailsIn numbers (x.map f) := by
  cases x with
  | error e =>
    rintro fault ⟨⟩
    exact hx e rfl
  | ok a => exact ok (f a)

theorem guard {c : Prop} [Decidable c] {γ : Type} {fault : Fault} {k : γ → Except Fault α}
    (hfault : FailsIn numbers (.error fault : Except Fault γ)) (h : ¬ c → FailsIn numbers x) :
    FailsIn numbers (if c then throw fault >>= k else x) := by
  by_cases hc : c
  · rw [if_pos hc]
    exact hfault.bind fun _ => nofun
  · rw [if_neg hc]
    exact h hc

theorem ite {c : Prop} [Decidable c] {y : Except Fault α} (hx : FailsIn numbers x)
    (hy : FailsIn numbers y) : FailsIn numbers (if c then x else y) := by
  by_cases hc : c
  · rwa [if_pos hc]
  · rwa [if_neg hc]

end FailsIn

variable {numbers : List Nat} {n : Nat}

theorem Relined.failsIn {α β : Type} {f : α → β} {x : Except Fault α} {x' : Except Fault β}
    (h : Relined id n f x x') (hn : n ∈ numbers) : FailsIn numbers x := by
  cases h with
  | ok a => exact .ok a
  | error h =>
    cases h with
    | syntactic cause => exact .syntactic hn cause
    | semantic cause => exact .semantic hn cause

namespace Assembly

/-! ### Placeholders in their places -/

/-- The placeholders of an open function lie inside of its code, and were noted in lines of these
numbers. -/
structure Draft.Anchored (numbers : List Nat) (d : Draft) : Prop where
  fits : d.Fits
  jumps : ∀ f ∈ d.jumps, f.line ∈ numbers
  calls : ∀ f ∈ d.calls, f.line ∈ numbers

structure Assembled.Anchored (numbers : List Nat) (a : Assembled) : Prop where
  fits : ∀ f ∈ a.calls, f.Fits a.entry.code.length
  calls : ∀ f ∈ a.calls, f.line ∈ numbers

/-- All placeholders that are left lie inside of the code of their functions, and were noted in
lines of these numbers. -/
def Phase.Anchored (numbers : List Nat) : Phase → Prop
  | start | named _ | strings _ _ => True
  | between p => ∀ a ∈ p.done, a.Anchored numbers
  | inside p d => (∀ a ∈ p.done, a.Anchored numbers) ∧ d.Anchored numbers

/-- Whenever a placeholder is patched, all before it having been, its four bytes lie inside of the
code. -/
def PatchedInside (patch : Bytes → Fixup → Except Fault Bytes) (code : Bytes)
    (fixups : List Fixup) : Prop :=
  ∀ front f back middle, fixups = front ++ f :: back → front.foldlM patch code = .ok middle →
    f.Fits middle.length

/-- The jumps of an open function, and the calls of all complete ones, would be patched inside of
the code of the function they were noted for. -/
def Phase.PatchedInside : Phase → Prop
  | start | named _ | strings _ _ => True
  | between p => ∀ a ∈ p.done, Assembly.PatchedInside (patchCall p.done) a.entry.code a.calls
  | inside p d => Assembly.PatchedInside d.patchJump d.code.toList d.jumps ∧
      ∀ a ∈ p.done, Assembly.PatchedInside (patchCall p.done) a.entry.code a.calls

theorem Patches.patchedInside {patch : Bytes → Fixup → Except Fault Bytes}
    {value : Text → Option UInt32} {missing : Fixup → Fault} (hpatch : Patches patch value missing)
    {fixups : List Fixup} {code : Bytes} (hfits : ∀ f ∈ fixups, f.Fits code.length) :
    PatchedInside patch code fixups := by
  rintro front f back middle rfl hmiddle
  have hfront : ∀ g ∈ front, g.Fits code.length := fun g hg =>
    hfits g (List.mem_append_left _ hg)
  rw [hpatch.length_of_foldlM hfront hmiddle]
  exact hfits f (List.mem_append_right front List.mem_cons_self)

theorem Phase.Anchored.patchedInside {phase : Phase} (h : phase.Anchored numbers) :
    phase.PatchedInside := by
  cases phase with
  | start | named | strings => trivial
  | between p => exact fun a ha => (patches_patchCall p.done).patchedInside (h a ha).fits
  | inside p d =>
    exact ⟨d.patches_patchJump.patchedInside h.2.fits.jumps_toList,
      fun a ha => (patches_patchCall p.done).patchedInside (h.1 a ha).fits⟩

/-! ### One line -/

section Line

variable {cs : Charset} {table : StringTable} {p : Progress} {line : Line} {d d' : Draft}

theorem Draft.Anchored.statement (h : d.Anchored numbers) (hn : n ∈ numbers) {s : Statement}
    (hs : d.statement table n s = .ok d') : d'.Anchored numbers := by
  have hnotes := notes_statement hs
  have hmem {fixups : List Fixup} {more : List Text} {all : List Fixup}
      (hall : all.map Fixup.reference = fixups.map Fixup.reference ++ more.map (⟨n, ·⟩))
      (hold : ∀ f ∈ fixups, f.line ∈ numbers) : ∀ f ∈ all, f.line ∈ numbers := by
    intro f hf
    have href := List.mem_map_of_mem (f := Fixup.reference) hf
    rw [hall] at href
    rcases List.mem_append.1 href with href | href
    · obtain ⟨g, hg, heq⟩ := List.mem_map.1 href
      have hline : g.line = f.line := congrArg Reference.line heq
      rw [← hline]
      exact hold g hg
    · obtain ⟨name, -, heq⟩ := List.mem_map.1 href
      have hline : n = f.line := congrArg Reference.line heq
      rwa [← hline]
  exact {
    fits := h.fits.statement hs
    jumps := hmem hnotes.jumps h.jumps
    calls := hmem hnotes.calls h.calls }

/-- A function is completed unless it has no instruction, it jumps to a label that it does not have,
or its code ends too far. The jump is blamed on the line it was noted in. -/
theorem Draft.Anchored.failsIn_finish (h : d.Anchored numbers) (hn : n ∈ numbers) :
    FailsIn numbers (d.finish n) := by
  rw [finish]
  refine .guard (.semantic hn _) fun _ => ?_
  refine FailsIn.bind (?_ : FailsIn numbers (d.jumps.foldlM d.patchJump d.code.toList))
    fun code _ => .guard (.semantic hn _) fun _ => .ok _
  cases hfind : d.jumps.find? fun f => (d.labels.lookup f.target).isNone with
  | some f =>
    rw [d.patches_patchJump.foldlM_eq_error h.fits.jumps_toList hfind]
    exact .semantic (h.jumps f (List.mem_of_find?_eq_some hfind)) _
  | none =>
    obtain ⟨code, hcode, -⟩ := d.patches_patchJump.exists_foldlM h.fits.jumps_toList hfind
    rw [hcode]
    exact .ok code

/-- The calls of a complete function are those of its draft, in code of the same length. -/
theorem Draft.Anchored.finish (h : d.Anchored numbers) {a : Assembled} (ha : d.finish n = .ok a) :
    a.Anchored numbers := by
  obtain ⟨-, code, hcode, -, rfl⟩ := finish_eq_ok_iff.1 ha
  have hlen := d.patches_patchJump.length_of_foldlM h.fits.jumps_toList hcode
  rw [Buffer.length_toList] at hlen
  exact {
    fits := by
      intro f hf
      show f.Fits code.length
      rw [hlen]
      exact h.fits.calls f hf
    calls := h.calls }

theorem anchored_of_openFunction (h : openFunction p line = .ok d) : d.Anchored numbers := by
  obtain ⟨name, params, entry, -, -, -, rfl⟩ := openFunction_eq_ok_iff.1 h
  exact ⟨⟨nofun, nofun⟩, nofun, nofun⟩

/-- A line that cannot be taken in is blamed itself, or a line before it. -/
theorem Phase.Anchored.failsIn_step {phase : Phase} (h : phase.Anchored numbers)
    (hn : line.number ∈ numbers) : FailsIn numbers (phase.step cs line) := by
  cases phase with
  | start => exact ((Declaration.relined_scriptName cs line).failsIn hn).map _
  | named name => exact .ite (.ok _) (.syntactic hn _)
  | strings name table =>
    refine .ite (.ite (.semantic hn _) (.ok _)) ?_
    exact ((relined_addString cs table line).failsIn hn).map _
  | between p => exact ((relined_openFunction p line).failsIn hn).map _
  | inside p d =>
    refine .ite ((h.2.failsIn_finish hn).map _) ?_
    refine ((Statement.relined_parse line).failsIn hn).bind fun s _ => ?_
    refine ((d.relined_statement p.table line.number s).failsIn hn).bind fun d' _ => ?_
    exact .ok _

theorem Phase.Anchored.step {phase next : Phase} (h : phase.Anchored numbers)
    (hn : line.number ∈ numbers) (hnext : phase.step cs line = .ok next) :
    next.Anchored numbers := by
  cases phase with
  | start =>
    obtain ⟨name, -, rfl⟩ := Outcome.map_eq_ok_iff.1 hnext
    trivial
  | named name =>
    rw [Phase.step] at hnext
    split at hnext
    · obtain rfl := Except.ok.inj hnext
      trivial
    · cases hnext
  | strings name table =>
    rw [Phase.step] at hnext
    split at hnext
    · split at hnext
      · cases hnext
      · obtain rfl := Except.ok.inj hnext
        intro a ha
        cases ha
    · obtain ⟨table', -, rfl⟩ := Outcome.map_eq_ok_iff.1 hnext
      trivial
  | between p =>
    obtain ⟨d, hd, rfl⟩ := Outcome.map_eq_ok_iff.1 hnext
    exact ⟨h, anchored_of_openFunction hd⟩
  | inside p d =>
    by_cases hend : line.text = "endfunction".toList
    · rw [Phase.step, if_pos hend] at hnext
      obtain ⟨a, ha, rfl⟩ := Outcome.map_eq_ok_iff.1 hnext
      intro b hb
      rcases List.mem_append.1 hb with hb | hb
      · exact h.1 b hb
      · rw [List.mem_singleton.1 hb]
        exact h.2.finish ha
    · obtain ⟨s, d', -, hd', rfl⟩ := (Phase.step_inside_eq_ok_iff hend).1 hnext
      exact ⟨h.1, h.2.statement hn hd'⟩

end Line

/-! ### All lines -/

section Lines

variable {cs : Charset} {lines : List Line}

/-- Lines that have been read have left all placeholders in their places; lines that cannot be read
are blamed on one of these numbers. -/
theorem Phase.Anchored.run (cs : Charset) {phase : Phase} (h : phase.Anchored numbers)
    (hlines : ∀ l ∈ lines, l.number ∈ numbers) :
    FailsIn numbers (phase.run cs lines) ∧
      ∀ next, phase.run cs lines = .ok next → next.Anchored numbers := by
  induction lines generalizing phase with
  | nil =>
    refine ⟨.ok phase, ?_⟩
    rintro next ⟨⟩
    exact h
  | cons line lines ih =>
    obtain ⟨hline, hrest⟩ := List.forall_mem_cons.1 hlines
    rw [Phase.run, List.foldlM_cons]
    constructor
    · exact (h.failsIn_step hline).bind fun next hnext => (ih (h.step hline hnext) hrest).1
    · intro last hlast
      obtain ⟨next, hnext, hlast⟩ := Outcome.bind_eq_ok_iff.1 hlast
      exact (ih (h.step hline hnext) hrest).2 last hlast

theorem Phase.failsIn_finish (phase : Phase) {n : Nat} (hn : n ∈ numbers) :
    FailsIn numbers (phase.finish n) := by
  cases phase with
  | start | named | strings | inside => exact .syntactic hn _
  | between p => exact .ite (.semantic hn _) (.ok p)

theorem lastNumber_mem (h : lines ≠ []) : lastNumber lines ∈ lines.map (·.number) := by
  rw [lastNumber, List.getLast?_eq_some_getLast h]
  exact List.mem_map_of_mem (List.getLast_mem h)

theorem Phase.Anchored.failsIn_link {p : Progress}
    (h : (Phase.between p).Anchored numbers) : FailsIn numbers p.link := by
  have hfits : ∀ a ∈ p.done, ∀ f ∈ a.calls, f.Fits a.entry.code.length := fun a ha => (h a ha).fits
  refine FailsIn.bind (?_ : FailsIn numbers (linkCalls p.done p.done)) fun entries _ => .ok _
  cases hfind : (p.done.flatMap (·.calls)).find? (Unlinked p.done) with
  | some f =>
    rw [linkCalls_eq_error hfits hfind]
    obtain ⟨a, ha, hf⟩ := List.mem_flatMap.1 (List.mem_of_find?_eq_some hfind)
    exact .semantic ((h a ha).calls f hf) _
  | none =>
    obtain ⟨entries, hentries⟩ := exists_linkCalls hfits hfind
    rw [hentries]
    exact .ok entries

theorem failsIn_assembleLines (h : lines ≠ []) :
    FailsIn (lines.map (·.number)) (assembleLines cs lines) := by
  have hstart : Phase.start.Anchored (lines.map (·.number)) := trivial
  obtain ⟨hrun, hanchored⟩ := hstart.run cs fun l hl => List.mem_map_of_mem hl
  refine hrun.bind fun phase hphase => ?_
  refine (phase.failsIn_finish (lastNumber_mem h)).bind fun p hp => ?_
  have hbetween : phase = .between p := by
    cases phase with
    | between p' =>
      rw [Phase.finish] at hp
      split at hp
      · cases hp
      · rw [Except.ok.inj hp]
    | _ => cases hp
  exact Phase.Anchored.failsIn_link (hbetween ▸ hanchored phase hphase)

end Lines

/-! ### Main result -/

/-- A source text that has a line and cannot be assembled has a syntactic or a semantic fault in one
of its lines. However far it has been read, the jumps of the open function and the calls of the
complete ones are patched inside of the code of the function that they were noted for. -/
theorem assemble_blames_line (cs : Charset) (source : Text) :
    (Source.lines source ≠ [] → ∀ fault, assemble cs source = .error fault →
      ∃ line ∈ Source.lines source, fault.InLine line.number) ∧
    ∀ front back phase, Source.lines source = front ++ back →
      Phase.start.run cs front = .ok phase → phase.PatchedInside := by
  constructor
  · intro hlines fault hfault
    obtain ⟨n, hn, hline⟩ := failsIn_assembleLines hlines fault hfault
    obtain ⟨line, hmem, rfl⟩ := List.mem_map.1 hn
    exact ⟨line, hmem, hline⟩
  · intro front back phase _ hphase
    have hstart : Phase.start.Anchored (front.map (·.number)) := trivial
    exact ((hstart.run cs fun l hl => List.mem_map_of_mem hl).2 phase hphase).patchedInside

/-- A source text in which the second function calls one that does not exist, after a call and a
jump that are patched. -/
def strayCallSource : Text :=
  ("script a\nstrings\nf = \"f\"\ng = \"g\"\nendstrings\nfunction f,0\njmp e\n; end\ncall g\n" ++
    "e:\nend\nendfunction\nfunction g,0\ncall f\n\ncall h\nend\nendfunction\n").toList

theorem assemble_blames_line_strayCall :
    Source.lines strayCallSource ≠ [] ∧
      assemble .utf8 strayCallSource = .error (.semantic 16 (.undefinedFunction ['h'])) ∧
      (∃ line ∈ Source.lines strayCallSource,
        (Fault.semantic 16 (.undefinedFunction ['h'])).InLine line.number) ∧
      ∃ phase, Phase.start.run .utf8 ((Source.lines strayCallSource).take 9) = .ok phase ∧
        phase.PatchedInside := by
  have hlines : Source.lines strayCallSource ≠ [] := by decide +kernel
  have hfault : assemble .utf8 strayCallSource =
      .error (.semantic 16 (.undefinedFunction ['h'])) := by decide +kernel
  refine ⟨hlines, hfault, (assemble_blames_line .utf8 strayCallSource).1 hlines _ hfault, ?_⟩
  have hrun : (Phase.start.run .utf8 ((Source.lines strayCallSource).take 9)).toOption.isSome := by
    decide +kernel
  obtain ⟨phase, hphase⟩ := Option.isSome_iff_exists.1 hrun
  rw [Outcome.toOption_eq_some_iff] at hphase
  exact ⟨phase, hphase, (assemble_blames_line .utf8 strayCallSource).2 _
    ((Source.lines strayCallSource).drop 9) phase (List.take_append_drop 9 _).symm hphase⟩

end Assembly

end NovelScript
