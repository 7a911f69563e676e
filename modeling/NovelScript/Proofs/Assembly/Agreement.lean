import NovelScript.Proofs.Assembly.Phases
import NovelScript.Proofs.Source.Declarations

/-!
The assembler agrees with the two-pass assembler. The phases end in what the first pass reads, and
linking the calls of functions that are complete otherwise gives what the second pass encodes
(`linkCalls_eq_ok_iff`). So one of the two succeeds exactly if the other does, with the same script.
-/

namespace NovelScript.Assembly

open TwoPass

/-! ### Calls -/

theorem functionIndex?_eq {done : List Assembled} {routines : List Routine}
    (h : done.map (·.name) = routines.map Routine.name) (name : Text) :
    functionIndex? done name = routines.findIdx? (·.name = name) := by
  have hdone : functionIndex? done name = (done.map (·.name)).findIdx? (· = name) := by
    rw [List.findIdx?_map]
    rfl
  rw [hdone, h, List.findIdx?_map]
  rfl

theorem toOption_patchCall {done : List Assembled} {routines : List Routine}
    (h : done.map (·.name) = routines.map Routine.name) (table : StringTable) (start : Nat)
    (body : List Entry) {code : Bytes} {f : Fixup} (hf : f.Fits code.length) :
    (patchCall done code f).toOption =
      fill? (scope table routines start body).functions code f := by
  have hindex := functionIndex?_eq h f.target
  cases hfind : routines.findIdx? (·.name = f.target) with
  | none => simp [patchCall, fill?, scope, hindex, hfind]
  | some index => simp [patchCall, fill?, scope, hindex, hfind, patchWord_eq_ok hf]

theorem linkCalls_eq_ok_iff {table : StringTable} {start : Nat} {rs routines : List Routine}
    {done as : List Assembled} {fs : List FunctionEntry}
    (hdone : done.map (·.name) = routines.map Routine.name) (h : AllFor table start rs as) :
    linkCalls done as = .ok fs ↔ functionsFrom? table routines start rs = some fs := by
  induction h generalizing fs with
  | nil =>
    rw [linkCalls, functionsFrom?, Except.ok.injEq, Option.some.injEq]
  | @cons start r a rs as ha _ ih =>
    obtain ⟨string, hstring, hentry⟩ := ha.entry_eq
    have hcode (code : Bytes) : a.calls.foldlM (patchCall done) a.entry.code = .ok code ↔
        ((scope table routines start r.body).instructions? r.body).map
          (·.flatMap Instruction.encode) = some code := by
      rw [← ha.linked_eq routines]
      exact foldlM_eq_ok_iff (fun _ _ hf => toOption_patchCall hdone table start r.body hf) ha.fits
    rw [linkCalls, functionsFrom?_cons_eq_some_iff, Outcome.bind_eq_ok_iff]
    constructor
    · rintro ⟨code, hfirst, hrest⟩
      obtain ⟨entries, hentries, hfs⟩ := Outcome.bind_eq_ok_iff.1 hrest
      obtain rfl := Except.ok.inj hfs
      obtain ⟨is, his, rfl⟩ := Option.map_eq_some_iff.1 ((hcode code).1 hfirst)
      rw [hentry]
      exact ⟨_, entries, function?_eq_some_iff.2 ⟨string, is, hstring, his, rfl⟩, ih.1 hentries,
        rfl⟩
    · rintro ⟨f, entries, hf, hentries, rfl⟩
      obtain ⟨string', is, hstring', his, rfl⟩ := function?_eq_some_iff.1 hf
      obtain rfl : string = string' := Option.some.inj (hstring.symm.trans hstring')
      refine ⟨is.flatMap Instruction.encode, (hcode _).2 (by rw [his, Option.map_some]), ?_⟩
      rw [ih.2 hentries, hentry]
      rfl

/-! ### Whole sources -/

/-- What is encoded has names that can be looked up. -/
theorem TwoPass.function?_of_functionsFrom? {table : StringTable} {routines : List Routine}
    {start : Nat} {front back : List Routine} {r : Routine} {fs : List FunctionEntry}
    (h : functionsFrom? table routines start (front ++ r :: back) = some fs) :
    ∃ f, function? table routines (start + programSize front) r = some f := by
  induction front generalizing start fs with
  | nil =>
    obtain ⟨f, -, hf, -⟩ := functionsFrom?_cons_eq_some_iff.1 h
    exact ⟨f, hf⟩
  | cons first front ih =>
    obtain ⟨-, more, -, hrest, -⟩ := functionsFrom?_cons_eq_some_iff.1 h
    rw [programSize_cons, ← Nat.add_assoc]
    exact ih hrest

/-- In a valid program, a function can be assembled where it stands if it has a string and can be
encoded under some scope. -/
theorem TwoPass.Program.Valid.placeable_of_encodes {p : Program} (h : p.Valid) {table : StringTable}
    {front back : List Routine} {r : Routine} (hsplit : p.routines = front ++ r :: back)
    (hnamed : (table.lookup r.name).isSome)
    (hencodes : ∃ σ : Scope, (∀ name, σ.strings name = (table.lookup name).map (·.pos)) ∧
      (σ.instructions? r.body).isSome) : Placeable table front r := by
  have hr : r ∈ p.routines := by
    rw [hsplit]
    exact List.mem_append_right front List.mem_cons_self
  have hnodup := h.routines_nodup
  rw [hsplit, List.map_append, List.map_cons, List.nodup_append] at hnodup
  have hsize := h.code_size
  rw [hsplit, programSize_append, programSize_cons] at hsize
  exact {
    valid := h.routines_valid r hr
    named := hnamed
    new := fun hmem => hnodup.2.2 r.name hmem r.name List.mem_cons_self rfl
    stop_lt := by omega
    encodes := hencodes }

/-- In a valid program whose functions can be encoded, every function can be assembled where it
stands. -/
theorem TwoPass.Program.Valid.placeable {p : Program} (h : p.Valid) {table : StringTable}
    {fs : List FunctionEntry} (hfs : functionsFrom? table p.routines 0 p.routines = some fs)
    {front back : List Routine} {r : Routine} (hsplit : p.routines = front ++ r :: back) :
    Placeable table front r ∧
      ((scope table p.routines (programSize front) r.body).instructions? r.body).isSome := by
  have hplace := hfs
  rw [hsplit] at hplace
  obtain ⟨f, hf⟩ := function?_of_functionsFrom? hplace
  rw [← hsplit, Nat.zero_add] at hf
  obtain ⟨string, is, hstring, his, -⟩ := function?_eq_some_iff.1 hf
  have hresolves := Option.isSome_of_mem his
  have hnamed : (table.lookup r.name).isSome := by rw [hstring]; rfl
  exact ⟨h.placeable_of_encodes hsplit hnamed ⟨_, fun _ => rfl, hresolves⟩, hresolves⟩

/-- The phases end in a script exactly if the program that the first pass reads has this script. -/
theorem complete_between_iff {cs : Charset} {last : Nat} {name : Bytes} {lines : List Line}
    {strings : List (Text × Bytes)} (hstrings : StringsValid strings) {s : Script} :
    (Phase.complete cs last lines (.between { name, table := tableFrom 0 strings }) >>=
        Progress.link) = .ok s ↔
      ∃ routines, routines? none lines = some routines ∧
        Program.script? { name, strings, routines } = some s := by
  have hholds : Phase.Holds name (tableFrom 0 strings) [] none
      (.between { name, table := tableFrom 0 strings }) := .between (Laid.nil _)
  rw [Outcome.bind_eq_ok_iff]
  constructor
  · rintro ⟨p, hp, hlink⟩
    obtain ⟨routines, hroutines, hne, hlaid, hname, htable⟩ := complete_sound hholds hp
    rw [List.nil_append] at hne hlaid
    obtain ⟨fs, hfs, hlink⟩ := Outcome.bind_eq_ok_iff.1 hlink
    obtain rfl := Except.ok.inj hlink
    rw [linkCalls_eq_ok_iff hlaid.all.names_eq hlaid.all] at hfs
    have hvalid : Program.Valid { name, strings, routines } := {
      strings_ne := hstrings.ne_nil
      strings_nodup := hstrings.nodup
      strings_size := hstrings.size_lt
      routines_ne := hne
      routines_nodup := hlaid.nodup
      code_size := by
        have hlt := hlaid.all.stop_lt (by decide)
        rw [Nat.zero_add] at hlt
        exact hlt
      routines_valid := hlaid.all.valid }
    refine ⟨routines, hroutines, ?_⟩
    rw [Program.script?_eq_some_iff, hname, htable]
    exact ⟨hvalid, fs, hfs, rfl⟩
  · rintro ⟨routines, hroutines, hscript⟩
    obtain ⟨hvalid, fs, hfs, rfl⟩ := Program.script?_eq_some_iff.1 hscript
    obtain ⟨p, hp⟩ := exists_complete hvalid.routines_ne
      (fun front r back hsplit => hvalid.placeable hfs hsplit) (List.nil_append _) hholds hroutines
    -- that the phases end is `exists_complete`; what they end in is again `complete_sound`
    obtain ⟨routines', hroutines', -, hlaid, hname, htable⟩ := complete_sound hholds hp
    obtain rfl : routines = routines' := Option.some.inj (hroutines.symm.trans hroutines')
    rw [List.nil_append] at hlaid
    have hlink := (linkCalls_eq_ok_iff hlaid.all.names_eq hlaid.all).2 hfs
    refine ⟨p, hp, ?_⟩
    rw [Progress.link, hlink, hname, htable]
    rfl

theorem TwoPass.Program.Valid.strings_valid {p : Program} (h : p.Valid) :
    StringsValid p.strings :=
  ⟨h.strings_ne, h.strings_nodup, h.strings_size⟩

theorem complete_strings_link_iff {cs : Charset} {last : Nat} {name : Bytes} {lines : List Line}
    {s : Script} :
    (Phase.complete cs last lines (.strings name []) >>= Progress.link) = .ok s ↔
      ∃ strings rest routines, strings? cs lines = some (strings, rest) ∧
        routines? none rest = some routines ∧
        Program.script? { name, strings, routines } = some s := by
  have hkeys : (([] : List (Text × Bytes)).map Prod.fst).Nodup := List.nodup_nil
  have hsize : sectionSize [] < 2 ^ 32 := by decide
  rw [Outcome.bind_eq_ok_iff]
  constructor
  · rintro ⟨p, hp, hlink⟩
    have hstart : Phase.complete cs last lines (.strings name (tableFrom 0 [])) = .ok p := hp
    obtain ⟨strings, rest, hstrings, hvalid, hrest⟩ :=
      (complete_strings_iff hkeys hsize).1 hstart
    rw [List.nil_append] at hvalid hrest
    obtain ⟨routines, hroutines, hscript⟩ := (complete_between_iff hvalid).1
      (Outcome.bind_eq_ok_iff.2 ⟨p, hrest, hlink⟩)
    exact ⟨strings, rest, routines, hstrings, hroutines, hscript⟩
  · rintro ⟨strings, rest, routines, hstrings, hroutines, hscript⟩
    -- the checks of the strings are made by `script?` only after all lines are read
    have hvalid : StringsValid strings :=
      (Program.script?_eq_some_iff.1 hscript).1.strings_valid
    have hlinked : (Phase.complete cs last rest
        (.between { name, table := tableFrom 0 strings }) >>= Progress.link) = .ok s :=
      (complete_between_iff hvalid).2 ⟨routines, hroutines, hscript⟩
    obtain ⟨p, hp, hlink⟩ := Outcome.bind_eq_ok_iff.1 hlinked
    refine ⟨p, ?_, hlink⟩
    show Phase.complete cs last lines (.strings name (tableFrom 0 [])) = .ok p
    exact (complete_strings_iff hkeys hsize).2 ⟨strings, rest, hstrings, hvalid, hp⟩

/-- Assembling is taking in all lines and linking the calls. -/
theorem assembleLines_eq_complete (cs : Charset) (lines : List Line) :
    assembleLines cs lines =
      (Phase.complete cs (lastNumber lines) lines .start >>= Progress.link) := by
  rw [assembleLines, Phase.complete]
  cases Phase.start.run cs lines <;> rfl

theorem assembleLines_eq_ok_iff {cs : Charset} {lines : List Line} {s : Script} :
    assembleLines cs lines = .ok s ↔ TwoPass.assembleLines cs lines = some s := by
  rw [assembleLines_eq_complete, TwoPass.assembleLines]
  generalize lastNumber lines = last
  cases lines with
  | nil => constructor <;> intro h <;> cases h
  | cons header lines =>
    rw [Phase.complete_cons, Phase.step]
    cases lines with
    | nil =>
      cases Declaration.scriptName cs header <;> constructor <;> intro h <;> cases h
    | cons opening lines =>
      by_cases hopening : opening.text = "strings".toList
      · cases hname : Declaration.scriptName cs header with
        | error fault =>
          constructor
          · intro h
            cases h
          · intro h
            obtain ⟨p, hp, -⟩ := Option.bind_eq_some_iff.1 h
            obtain ⟨rest, hheader, -⟩ := (program?_eq_some_iff hopening).1 hp
            cases hname.symm.trans hheader
        | ok name =>
          show (Phase.complete cs last (opening :: lines) (.named name) >>= Progress.link) = _ ↔ _
          rw [Phase.complete_cons, Phase.step, if_pos hopening, Outcome.ok_bind,
            complete_strings_link_iff]
          constructor
          · rintro ⟨strings, rest, routines, hstrings, hroutines, hscript⟩
            have hp := (program?_eq_some_iff (p := { name, strings, routines }) hopening).2
              ⟨rest, hname, hstrings, hroutines⟩
            rw [hp]
            exact hscript
          · intro h
            obtain ⟨p, hp, hscript⟩ := Option.bind_eq_some_iff.1 h
            obtain ⟨rest, hheader, hstrings, hroutines⟩ := (program?_eq_some_iff hopening).1 hp
            obtain rfl : name = p.name := Except.ok.inj (hname.symm.trans hheader)
            exact ⟨p.strings, rest, p.routines, hstrings, hroutines, hscript⟩
      · have hnone : program? cs (header :: opening :: lines) = none := if_neg hopening
        rw [hnone]
        cases Declaration.scriptName cs header with
        | error fault => constructor <;> intro h <;> cases h
        | ok name =>
          show (Phase.complete cs last (opening :: lines) (.named name) >>= Progress.link) = _ ↔ _
          rw [Phase.complete_cons, Phase.step, if_neg hopening]
          constructor <;> intro h <;> cases h

/-- On every source text the assembler and the two-pass assembler give the same script, or both
give none. -/
theorem toOption_assemble (cs : Charset) (source : Text) :
    (assemble cs source).toOption = TwoPass.assemble cs source := by
  ext s
  rw [Outcome.toOption_eq_some_iff]
  exact assembleLines_eq_ok_iff

end NovelScript.Assembly
