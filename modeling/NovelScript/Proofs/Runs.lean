import NovelScript.Proofs.CommandLine
import NovelScript.Proofs.Work

/-!
What runs of the tools do to the files, in sessions where accesses may fail. Up to the first write a
run only reads, so what it writes is a function of the files it finds (`assembly?`, `disassembly?`),
and it comes down to delivering these writes (`leaves`). A run that fails before that leaves
everything as it was; one whose write breaks off leaves the beginning of what it was writing.
-/

namespace NovelScript.Tool

open FileSystem (Written)

variable {fs : FileSystem}

/-! ### What is read -/

def text? (fs : FileSystem) (path : Text) : Option Text :=
  (fs.read path).toOption.bind Charset.Utf8.decode?

def settings? (fs : FileSystem) : Option Text → Option Settings
  | none => some {}
  | some path => (text? fs path).bind Settings.parse?

theorem Reads.readText (activity : String) (path : Text) (fs : FileSystem) :
    Reads (Tool.readText activity path) fs 1 (text? fs path) := by
  refine bind (n := 0) (readBytes activity path fs) fun data => ?_
  cases Charset.Utf8.decode? data with
  | none => exact throw _ fs
  | some t => exact pure t fs

theorem Reads.readSettings (path? : Option Text) (fs : FileSystem) :
    Reads (Tool.readSettings path?) fs path?.toList.length (settings? fs path?) := by
  cases path? with
  | none => exact pure ({} : Settings) fs
  | some path =>
    refine bind (n := 0) (readText _ path fs) fun t => ?_
    cases Settings.parse? t with
    | none => exact throw _ fs
    | some settings => exact pure settings fs

/-- The container that the assembler makes of its input. The charset is that of the command line,
else that of the settings, else Shift-JIS. -/
def assembled? (fs : FileSystem) (args : Arguments) (settings : Settings) : Option Bytes := do
  let source ← text? fs args.input
  let script ← (assemble ((args.charset?.or settings.charset?).getD .shiftJis) source).toOption
  script.save.toOption

/-- The listing that the disassembler makes of its input, and the summary, as they stand in files.
-/
def disassembled? (fs : FileSystem) (args : Arguments) (settings : Settings) :
    Option (Bytes × Bytes) := do
  let cs := (args.charset?.or settings.charset?).getD .shiftJis
  let data ← (fs.read args.input).toOption
  let script ← (Script.load data).toOption
  let listing ← (disassemble script cs settings.cast).toOption
  return (Charset.Utf8.encode listing, Charset.Utf8.encode (Yaml.document (script.summary cs)))

def writes? (fs : FileSystem) (args : Arguments) (settings : Settings) :
    Tool → Option (List (Text × Bytes))
  | .assembler => (assembled? fs args settings).map fun data => [(args.output, data)]
  | .disassembler => (disassembled? fs args settings).map fun made =>
    (args.output, made.1) :: (args.summary?.map (·, made.2)).toList

def plan? (tool : Tool) (fs : FileSystem) (args : Arguments) : Option (List (Text × Bytes)) :=
  (settings? fs args.settings?).bind (writes? fs args · tool)

theorem charset_eq (args : Arguments) (settings : Settings) :
    charset args settings = (args.charset?.or settings.charset?).getD .shiftJis := by
  rw [charset]
  cases args.charset? <;> rfl

namespace Delivers

theorem assembleFile (args : Arguments) (settings : Settings) (fs : FileSystem) :
    Delivers (Tool.assembleFile args (charset args settings)) fs 1
      (writes? fs args settings .assembler) := by
  rw [charset_eq]
  refine bind (n := 0) (.readText _ args.input fs) fun source => tell_bind _ ?_
  refine bind (n := 0) (.orFail _ _ (assemble _ source) fs) fun script => ?_
  cases script.save with
  | error fault => exact throw _ fs
  | ok data => exact of_writes (.writeBytes_bind (.tell _)) fs

theorem disassembleFile (args : Arguments) (settings : Settings) (fs : FileSystem) :
    Delivers (Tool.disassembleFile args (charset args settings) settings.cast) fs 1
      (writes? fs args settings .disassembler) := by
  rw [charset_eq]
  refine bind (n := 0) (.readBytes _ args.input fs) fun data => tell_bind _ ?_
  refine bind (n := 0) (.orFail _ _ (Script.load data) fs) fun script => tell_bind _ ?_
  refine bind (n := 0) (.orFail _ _ (disassemble script _ settings.cast) fs) fun listing => ?_
  refine of_writes (.writeBytes_bind (.tell_bind _ ?_)) fs
  cases args.summary? with
  | none => exact .nothing
  | some path => exact .tell_bind _ (.writeBytes_bind (.tell _))

theorem work (tool : Tool) (args : Arguments) (settings : Settings) (fs : FileSystem) :
    Delivers (Tool.work tool args settings) fs 1 (writes? fs args settings tool) := by
  cases tool with
  | assembler => exact assembleFile args settings fs
  | disassembler => exact disassembleFile args settings fs

end Delivers

/-! ### Runs -/

abbrev ran (tool : Tool) (argv : List Text) (s : Session) : Outcome × Session :=
  (run tool argv : StateM Session Outcome).run s

variable {s : Session} {tool : Tool} {argv : List Text} {code : Nat} {after : FileSystem}

/-- How many accesses a run makes before its first write. -/
def readCount (args : Arguments) : Nat := args.settings?.toList.length + 1

/-- How a run of a tool can end: with an exit code, and with these files. -/
inductive Leaves (tool : Tool) (argv : List Text) (s : Session) : Nat → FileSystem → Prop
  | refused {code : Nat} (hcode : code ≠ 0) (hparse : Arguments.parse tool argv = .error .usage) :
      Leaves tool argv s code s.files
  | informed (hparse : Arguments.parse tool argv = .error .information) :
      Leaves tool argv s 0 s.files
  /-- Something failed before the first write. -/
  | failed {code : Nat} {args : Arguments} (hcode : code ≠ 0)
      (hparse : Arguments.parse tool argv = .ok args)
      (hwhy : plan? tool s.files args = none ∨ Disturbed s.fates (readCount args)) :
      Leaves tool argv s code s.files
  /-- Not everything could be written. -/
  | stopped {code : Nat} {args : Arguments} {writes : List (Text × Bytes)} {after : Session}
      (hcode : code ≠ 0) (hparse : Arguments.parse tool argv = .ok args)
      (hplan : plan? tool s.files args = some writes)
      (hafter : Session.deliver ⟨s.files, s.fates.drop (readCount args)⟩ writes = (none, after)) :
      Leaves tool argv s code after.files
  | finished {args : Arguments} {writes : List (Text × Bytes)} {after : Session}
      (hparse : Arguments.parse tool argv = .ok args)
      (hplan : plan? tool s.files args = some writes)
      (hafter :
        Session.deliver ⟨s.files, s.fates.drop (readCount args)⟩ writes = (some (), after)) :
      Leaves tool argv s 0 after.files

theorem code_outcome (level : LogLevel) (result : Except Report Unit) (events : List Event) :
    (outcome level (result, events)).code = if result.toOption.isSome then 0 else 1 := by
  cases result <;> rfl

theorem leaves (tool : Tool) (argv : List Text) (s : Session) :
    ∃ outcome after, ran tool argv s = (outcome, after) ∧
      Leaves tool argv s outcome.code after.files := by
  rw [ran, run]
  split
  · rename_i hparse
    exact ⟨_, s, rfl, .refused (by decide) hparse⟩
  · rename_i hparse
    exact ⟨_, s, rfl, .informed hparse⟩
  rename_i args hparse
  -- The settings are read by work of their own, and the rest starts with their files and no events.
  obtain ⟨fs, fates⟩ := s
  obtain ⟨result, events, fates', hread, hsettings⟩ :=
    Reads.readSettings args.settings? fs fates []
  rw [StateT.run_bind, hread]
  obtain ⟨settings, rfl, hsettings, rfl⟩ | ⟨hnone, hwhy⟩ := hsettings
  · have hplan : plan? tool fs args = writes? fs args settings tool := by
      rw [plan?, hsettings]
      rfl
    obtain ⟨result, events', after, hwork, hafter⟩ :=
      Delivers.work tool args settings fs (fates.drop args.settings?.toList.length) []
    have hrun : StateT.run (do
        let ended ← (Tool.work tool args settings : Work (StateM Session) Unit).run.run []
        return outcome (logLevel args settings) ended)
        ⟨fs, fates.drop args.settings?.toList.length⟩ =
        (outcome (logLevel args settings) (result, events'), after) := by
      rw [StateT.run_bind, hwork]
      rfl
    refine ⟨_, after, hrun, ?_⟩
    rw [code_outcome]
    obtain ⟨writes, hwrites, hdeliver⟩ | ⟨hnone, hfiles, hwhy⟩ := hafter
    · rw [List.drop_drop] at hdeliver
      cases hresult : result.toOption with
      | none =>
        rw [hresult] at hdeliver
        exact .stopped Nat.one_ne_zero hparse (hplan.trans hwrites) hdeliver
      | some ended =>
        rw [hresult] at hdeliver
        exact .finished hparse (hplan.trans hwrites) hdeliver
    · rw [hnone, hfiles]
      exact .failed Nat.one_ne_zero hparse (hwhy.imp hplan.trans .right)
  · cases result with
    | ok settings => exact nomatch hnone
    | error report =>
      refine ⟨_, ⟨fs, fates'⟩, rfl, .failed Nat.one_ne_zero hparse (hwhy.imp ?_ (·.left 1))⟩
      intro hsettings
      rw [plan?, hsettings]
      rfl

/-! ### What is left behind -/

namespace Leaves

/-- A run succeeds if everything has been written, or there was nothing to do. -/
theorem of_code_eq_zero (h : Leaves tool argv s code after) (hcode : code = 0) :
    (Arguments.parse tool argv = .error .information ∧ after = s.files) ∨
      ∃ args writes, Arguments.parse tool argv = .ok args ∧
        plan? tool s.files args = some writes ∧ Written s.files after writes.reverse := by
  cases h with
  | refused hne => exact absurd hcode hne
  | informed hparse => exact .inl ⟨hparse, rfl⟩
  | failed hne => exact absurd hcode hne
  | stopped hne => exact absurd hcode hne
  | finished hparse hplan hafter =>
    have hwritten := Session.written_of_deliver hafter
    exact .inr ⟨_, _, hparse, hplan, hwritten⟩

/-- A run that fails leaves everything as it was, or the writes before the one that failed, and
perhaps the beginning of that. -/
theorem of_code_ne_zero (h : Leaves tool argv s code after) (hcode : code ≠ 0) :
    after = s.files ∨ ∃ args done path data rest, Arguments.parse tool argv = .ok args ∧
      plan? tool s.files args = some (done ++ (path, data) :: rest) ∧
      ((done ≠ [] ∧ Written s.files after done.reverse) ∨
        s.fates ≠ [] ∧
          ∃ count, Written s.files after ((path, data.take count) :: done.reverse)) := by
  cases h with
  | refused => exact .inl rfl
  | informed => exact .inl rfl
  | failed => exact .inl rfl
  | finished => exact absurd rfl hcode
  | stopped _ hparse hplan hafter =>
    obtain ⟨done, path, data, rest, middle, rfl, hdone, hlast⟩ := Session.deliver_eq_none hafter
    have hwritten := Session.written_of_deliver hdone
    rcases hlast with hsame | ⟨hne, count, hbroken⟩
    · rw [hsame]
      by_cases hnil : done = []
      · subst hnil
        exact .inl (congrArg (·.2.files) hdone).symm
      · exact .inr ⟨_, done, path, data, rest, hparse, hplan, .inl ⟨hnil, hwritten⟩⟩
    · have hfates' : s.fates ≠ [] := fun hnil => hne (by rw [hnil, List.drop_nil])
      exact .inr ⟨_, done, path, data, rest, hparse, hplan,
        .inr ⟨hfates', count, hwritten.write hbroken⟩⟩

/-- If all that is read can be read, the run comes to delivering its writes. -/
theorem exists_deliver (h : Leaves tool argv s code after) {args : Arguments}
    {writes : List (Text × Bytes)} (hparse : Arguments.parse tool argv = .ok args)
    (hplan : plan? tool s.files args = some writes)
    (hfates : ¬ Disturbed s.fates (readCount args)) :
    ∃ result last, last.files = after ∧ (code = 0 ↔ result = some ()) ∧
      Session.deliver ⟨s.files, s.fates.drop (readCount args)⟩ writes = (result, last) := by
  cases h with
  | refused _ hparse' => exact nomatch hparse.symm.trans hparse'
  | informed hparse' => exact nomatch hparse.symm.trans hparse'
  | failed _ hparse' hwhy =>
    obtain rfl := Except.ok.inj (hparse.symm.trans hparse')
    rcases hwhy with hnone | hdisturbed
    · exact nomatch hplan.symm.trans hnone
    · exact absurd hdisturbed hfates
  | stopped hcode hparse' hplan' hafter =>
    obtain rfl := Except.ok.inj (hparse.symm.trans hparse')
    obtain rfl := Option.some.inj (hplan.symm.trans hplan')
    exact ⟨none, _, rfl, iff_of_false hcode nofun, hafter⟩
  | finished hparse' hplan' hafter =>
    obtain rfl := Except.ok.inj (hparse.symm.trans hparse')
    obtain rfl := Option.some.inj (hplan.symm.trans hplan')
    exact ⟨some (), _, rfl, iff_of_true rfl rfl, hafter⟩

/-- If no access goes wrong by chance, a run succeeds exactly if all that it is going to write can
be written. -/
theorem code_eq_zero_iff_of_plan (h : Leaves tool argv s code after) (hcalm : s.fates = [])
    {args : Arguments} {writes : List (Text × Bytes)}
    (hparse : Arguments.parse tool argv = .ok args)
    (hplan : plan? tool s.files args = some writes) :
    code = 0 ↔ ∀ write ∈ writes, (s.files.sink? write.1).isSome := by
  have hfates : ¬ Disturbed s.fates (readCount args) := by
    rintro ⟨fate, hfate, -⟩
    rw [hcalm, List.take_nil] at hfate
    exact nomatch hfate
  obtain ⟨result, last, -, hcode, hdeliver⟩ := h.exists_deliver hparse hplan hfates
  have hnil : s.fates.drop (readCount args) = [] := by rw [hcalm, List.drop_nil]
  obtain ⟨-, hall⟩ := Session.deliver_calm (s := ⟨s.files, s.fates.drop (readCount args)⟩) hnil
    (Written.refl s.files) writes
  rw [hdeliver] at hall
  exact hcode.trans hall

theorem code_eq_zero_iff (h : Leaves tool argv s code after) (hcalm : s.fates = []) :
    code = 0 ↔ Arguments.parse tool argv = .error .information ∨
      ∃ args writes, Arguments.parse tool argv = .ok args ∧ plan? tool s.files args = some writes ∧
        ∀ write ∈ writes, (s.files.sink? write.1).isSome := by
  constructor
  · intro hcode
    rcases h.of_code_eq_zero hcode with ⟨hparse, -⟩ | ⟨args, writes, hparse, hplan, -⟩
    · exact .inl hparse
    · exact .inr ⟨args, writes, hparse, hplan,
        (h.code_eq_zero_iff_of_plan hcalm hparse hplan).1 hcode⟩
  · rintro (hinformation | ⟨args, writes, hparse, hplan, hsinks⟩)
    · cases h with
      | informed => rfl
      | refused _ hparse => exact nomatch hparse.symm.trans hinformation
      | failed _ hparse => exact nomatch hparse.symm.trans hinformation
      | stopped _ hparse => exact nomatch hparse.symm.trans hinformation
      | finished => rfl
    · exact (h.code_eq_zero_iff_of_plan hcalm hparse hplan).2 hsinks

end Leaves

/-- The container that the assembler makes of its input under the settings that it is given. -/
def assembly? (fs : FileSystem) (args : Arguments) : Option Bytes :=
  (settings? fs args.settings?).bind (assembled? fs args)

def disassembly? (fs : FileSystem) (args : Arguments) : Option (Bytes × Bytes) :=
  (settings? fs args.settings?).bind (disassembled? fs args)

theorem plan?_assembler (fs : FileSystem) (args : Arguments) :
    plan? .assembler fs args = (assembly? fs args).map fun data => [(args.output, data)] := by
  rw [plan?, assembly?, Option.map_bind]
  rfl

theorem plan?_disassembler (fs : FileSystem) (args : Arguments) :
    plan? .disassembler fs args = (disassembly? fs args).map fun made =>
      (args.output, made.1) :: (args.summary?.map (·, made.2)).toList := by
  rw [plan?, disassembly?, Option.map_bind]
  rfl

structure AssemblerFiles (s : Session) (argv : List Text) (code : Nat) (after : FileSystem) :
    Prop where
  /-- Only a write that is broken off leaves something behind. -/
  failed : code ≠ 0 → after = s.files ∨
    s.fates ≠ [] ∧ ∃ args data count, Arguments.parse .assembler argv = .ok args ∧
      assembly? s.files args = some data ∧
      Written s.files after [(args.output, data.take count)]
  succeeded : code = 0 →
    (Arguments.parse .assembler argv = .error .information ∧ after = s.files) ∨
    ∃ args data, Arguments.parse .assembler argv = .ok args ∧
      assembly? s.files args = some data ∧ Written s.files after [(args.output, data)] ∧
      (s.files.Keeps args.output → after.read args.output = .ok data)
  calm : s.fates = [] → (code = 0 ↔
    Arguments.parse .assembler argv = .error .information ∨
    ∃ args data, Arguments.parse .assembler argv = .ok args ∧
      assembly? s.files args = some data ∧ (s.files.sink? args.output).isSome)

/-- What the disassembler leaves behind when only the summary could not be written. -/
inductive SummaryMissing (s : Session) (args : Arguments) (listing summary : Bytes)
    (after : FileSystem) : Prop
  | refused (path : Text) (hpath : args.summary? = some path)
      (hwritten : Written s.files after [(args.output, listing)])
      (hread : s.files.Keeps args.output → after.read args.output = .ok listing)
  | broken (path : Text) (hpath : args.summary? = some path) (count : Nat)
      (hfates : s.fates ≠ [])
      (hwritten : Written s.files after [(path, summary.take count), (args.output, listing)])
      (hread : s.files.sink? path ≠ s.files.sink? args.output → s.files.Keeps args.output →
        after.read args.output = .ok listing)

structure DisassemblerFiles (s : Session) (argv : List Text) (code : Nat) (after : FileSystem) :
    Prop where
  failed : code ≠ 0 → after = s.files ∨
    ∃ args listing summary, Arguments.parse .disassembler argv = .ok args ∧
      disassembly? s.files args = some (listing, summary) ∧
      ((s.fates ≠ [] ∧ ∃ count, Written s.files after [(args.output, listing.take count)]) ∨
        SummaryMissing s args listing summary after)
  /-- If all goes well up to the summary, the listing is complete. -/
  kept : code ≠ 0 → ∀ args listing summary, Arguments.parse .disassembler argv = .ok args →
    disassembly? s.files args = some (listing, summary) → (s.files.sink? args.output).isSome →
    ¬ Disturbed s.fates (readCount args + 1) → SummaryMissing s args listing summary after
  succeeded : code = 0 →
    (Arguments.parse .disassembler argv = .error .information ∧ after = s.files) ∨
    ∃ args listing summary, Arguments.parse .disassembler argv = .ok args ∧
      disassembly? s.files args = some (listing, summary) ∧
      Written s.files after ((args.summary?.map (·, summary)).toList ++ [(args.output, listing)]) ∧
      ((∀ path ∈ args.summary?, s.files.sink? path ≠ s.files.sink? args.output) →
        s.files.Keeps args.output → after.read args.output = .ok listing)
  calm : s.fates = [] → (code = 0 ↔
    Arguments.parse .disassembler argv = .error .information ∨
    ∃ args listing summary, Arguments.parse .disassembler argv = .ok args ∧
      disassembly? s.files args = some (listing, summary) ∧
      (s.files.sink? args.output).isSome ∧
      ∀ path ∈ args.summary?, (s.files.sink? path).isSome)

theorem assemblerFiles (h : Leaves .assembler argv s code after) :
    AssemblerFiles s argv code after := by
  constructor
  · intro hcode
    obtain hafter | ⟨args, done, path, data, rest, hparse, hplan, hlast⟩ := h.of_code_ne_zero hcode
    · exact .inl hafter
    rw [plan?_assembler] at hplan
    obtain ⟨container, hcontainer, hwrites⟩ := Option.map_eq_some_iff.1 hplan
    -- There is only one write, so none is done before the one that fails.
    obtain ⟨rfl, hwrite⟩ := (List.append_eq_singleton_iff.1 hwrites.symm).resolve_right (by simp)
    obtain ⟨⟨rfl, rfl⟩, -⟩ := List.cons.inj hwrite
    obtain ⟨hnil, -⟩ | ⟨hfates, count, hwritten⟩ := hlast
    · exact absurd rfl hnil
    · exact .inr ⟨hfates, args, _, count, hparse, hcontainer, hwritten⟩
  · intro hcode
    obtain hinformation | ⟨args, writes, hparse, hplan, hwritten⟩ := h.of_code_eq_zero hcode
    · exact .inl hinformation
    rw [plan?_assembler] at hplan
    obtain ⟨data, hdata, rfl⟩ := Option.map_eq_some_iff.1 hplan
    exact .inr ⟨args, data, hparse, hdata, hwritten, hwritten.read_head⟩
  · intro hcalm
    simp [h.code_eq_zero_iff hcalm, plan?_assembler]

theorem forall_sink_iff {output : Text} {listing summary : Bytes} {summary? : Option Text} :
    (∀ write ∈ (output, listing) :: (summary?.map (·, summary)).toList,
        (fs.sink? write.1).isSome) ↔
      (fs.sink? output).isSome ∧ ∀ path ∈ summary?, (fs.sink? path).isSome := by
  rw [List.forall_mem_cons]
  cases summary? <;> simp

theorem reverse_summary (summary? : Option Text) (data : Bytes) :
    (summary?.map (·, data)).toList.reverse = (summary?.map (·, data)).toList := by
  cases summary? <;> rfl

theorem SummaryMissing.of_broken {args : Arguments} {path : Text} {listing summary : Bytes}
    {count : Nat} (hpath : args.summary? = some path) (hfates : s.fates ≠ [])
    (hwritten : Written s.files after [(path, summary.take count), (args.output, listing)]) :
    SummaryMissing s args listing summary after := by
  refine .broken path hpath count hfates hwritten fun hne hkeeps => ?_
  have hwritten' : Written s.files after
      ([(path, summary.take count)] ++ [(args.output, listing)]) := hwritten
  exact hwritten'.read hkeeps (by simpa using hne)

/-- The listing is written, so that only the summary can fail. -/
theorem summaryMissing (h : Leaves .disassembler argv s code after) (hcode : code ≠ 0)
    {args : Arguments} {listing summary : Bytes}
    (hparse : Arguments.parse .disassembler argv = .ok args)
    (hmade : disassembly? s.files args = some (listing, summary))
    (hsink : (s.files.sink? args.output).isSome)
    (hfates : ¬ Disturbed s.fates (readCount args + 1)) :
    SummaryMissing s args listing summary after := by
  have hplan : plan? .disassembler s.files args =
      some ((args.output, listing) :: (args.summary?.map (·, summary)).toList) := by
    rw [plan?_disassembler, hmade]
    rfl
  have hfates' : ¬ Disturbed s.fates (readCount args) := fun hread => hfates (hread.left 1)
  obtain ⟨result, last, rfl, hresult, hdeliver⟩ := h.exists_deliver hparse hplan hfates'
  obtain ⟨sink, hsink⟩ := Option.isSome_iff_exists.1 hsink
  have hwrite : s.files.write args.output listing = .ok (s.files.store listing sink) :=
    FileSystem.write_eq_ok_iff.2 ⟨sink, hsink, rfl⟩
  have hlisting := (Written.refl s.files).write hwrite
  have hgranted := fate_of_not_disturbed hfates s.files
  rw [Session.deliver, Session.write_granted_ok hgranted hwrite] at hdeliver
  cases hpath : args.summary? with
  | none =>
    rw [hpath] at hdeliver
    exact absurd (hresult.2 (congrArg Prod.fst hdeliver).symm) hcode
  | some path =>
    simp only [hpath, Option.map_some, Option.toList_some, Session.deliver] at hdeliver
    split at hdeliver
    · exact absurd (hresult.2 (congrArg Prod.fst hdeliver).symm) hcode
    · rename_i hsummary
      obtain ⟨-, rfl⟩ := Prod.mk.inj hdeliver
      obtain rfl | ⟨hne, count, hbroken⟩ := Session.write_error hsummary
      · exact .refused path hpath hlisting hlisting.read_head
      · have hfates'' : s.fates ≠ [] := fun hnil => hne (by simp [hnil])
        exact .of_broken hpath hfates'' (hlisting.write hbroken)

theorem disassemblerFiles (h : Leaves .disassembler argv s code after) :
    DisassemblerFiles s argv code after := by
  constructor
  · intro hcode
    obtain hafter | ⟨args, done, path, data, rest, hparse, hplan, hlast⟩ := h.of_code_ne_zero hcode
    · exact .inl hafter
    rw [plan?_disassembler] at hplan
    obtain ⟨⟨listing, summary⟩, hmade, hwrites⟩ := Option.map_eq_some_iff.1 hplan
    refine .inr ⟨args, listing, summary, hparse, hmade, ?_⟩
    cases done with
    | nil =>
      obtain ⟨⟨rfl, rfl⟩, -⟩ := List.cons.inj hwrites
      obtain ⟨hnil, -⟩ | hbroken := hlast
      · exact absurd rfl hnil
      · exact .inl hbroken
    | cons write done =>
      obtain ⟨rfl, hsummary⟩ := List.cons.inj hwrites
      cases hpath : args.summary? with
      | none => simp [hpath] at hsummary
      | some path' =>
        rw [hpath] at hsummary
        obtain ⟨rfl, hwrite⟩ :=
          (List.append_eq_singleton_iff.1 hsummary.symm).resolve_right (by simp)
        obtain ⟨⟨rfl, rfl⟩, -⟩ := List.cons.inj hwrite
        obtain ⟨-, hwritten⟩ | ⟨hfates, count, hwritten⟩ := hlast
        · exact .inr (.refused path hpath hwritten hwritten.read_head)
        · exact .inr (.of_broken hpath hfates hwritten)
  · exact fun hcode args listing summary => summaryMissing h hcode
  · intro hcode
    obtain hinformation | ⟨args, writes, hparse, hplan, hwritten⟩ := h.of_code_eq_zero hcode
    · exact .inl hinformation
    rw [plan?_disassembler] at hplan
    obtain ⟨⟨listing, summary⟩, hmade, rfl⟩ := Option.map_eq_some_iff.1 hplan
    rw [List.reverse_cons, reverse_summary] at hwritten
    refine .inr ⟨args, listing, summary, hparse, hmade, hwritten, fun hne hkeeps => ?_⟩
    refine hwritten.read hkeeps fun write hwrite => ?_
    simp only [Option.mem_toList, Option.map_eq_some_iff] at hwrite
    obtain ⟨path, hpath, rfl⟩ := hwrite
    exact hne path hpath
  · intro hcalm
    rw [h.code_eq_zero_iff hcalm]
    simp only [plan?_disassembler, Option.map_eq_some_iff, Prod.exists]
    constructor
    · rintro (hinformation | ⟨args, _, hparse, ⟨listing, summary, hmade, rfl⟩, hsinks⟩)
      · exact .inl hinformation
      · exact .inr ⟨args, listing, summary, hparse, hmade, forall_sink_iff.1 hsinks⟩
    · rintro (hinformation | ⟨args, listing, summary, hparse, hmade, hsinks⟩)
      · exact .inl hinformation
      · exact .inr ⟨args, _, hparse, ⟨listing, summary, hmade, rfl⟩, forall_sink_iff.2 hsinks⟩

/-- A working directory with source text in it, and a device that keeps nothing. -/
def desk : FileSystem where
  nodes := [
    (["dev".toList], .folder),
    (["dev".toList, "null".toList], .device []),
    (["work".toList], .folder),
    (["work".toList, "a".toList], .file (Charset.Utf8.encode
      "script s\nstrings\nf = \"\"\nendstrings\nfunction f,0\nret\nendfunction\n".toList))]
  cwd := ["work".toList]

-- A summary in the place of a folder: the run fails, and the listing is there all the same.
example :
    let assembled := ran .assembler (["-i", "a", "-o", "b"].map String.toList) ⟨desk, []⟩
    let listed := ran .disassembler (["-i", "b", "-o", "c", "--summary=."].map String.toList)
      assembled.2
    assembled.1.code = 0 ∧ listed.1.code = 1 ∧
      listed.2.files.nodes.map (·.1.getLast?) =
        ["dev", "null", "work", "a", "b", "c"].map (some ·.toList) := by
  decide +kernel

end NovelScript.Tool
