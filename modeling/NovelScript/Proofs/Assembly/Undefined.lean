import NovelScript.Proofs.Assembly.Agreement
import NovelScript.Proofs.Assembly.Fixups

/-!
References to what does not exist. A source text that is fine but for labels and functions that are
named and not defined is blamed on the first line with such a label; if there is none, on the first
line with such a call (`assemble_blames_firstReference`). What has been noted of the lines of a
function is kept as an invariant (`Draft.Noted`), so the first placeholder that cannot be patched
was noted in the first line that refers to nothing.
-/

namespace NovelScript

/-! ### References in lines -/

/-- The operands in a line of a function, none if it cannot be read. -/
def Line.operands (line : Line) : List Argument :=
  match Statement.parse line with
  | .ok s => s.operands
  | .error _ => []

def Statement.label? : Statement → Option Text
  | .label name => some name
  | .instruction _ _ => none

theorem Statement.definedLabel?_of_parse {line : Line} {s : Statement} (h : parse line = .ok s) :
    definedLabel? line.text = s.label? := by
  rw [parse] at h
  cases hlabel : definedLabel? line.text with
  | some name =>
    rw [hlabel] at h
    obtain rfl := Except.ok.inj h
    rfl
  | none =>
    simp only [hlabel] at h
    obtain ⟨tokens, -, h⟩ := Outcome.bind_eq_ok_iff.1 h
    split at h
    · cases h
    · obtain ⟨arguments, -, h⟩ := Outcome.bind_eq_ok_iff.1 h
      obtain rfl := Except.ok.inj h
      rfl

namespace Assembly

open TwoPass

/-- What a line refers to by operands of one sort. -/
def references (name? : Argument → Option Text) (line : Line) : List Reference :=
  (line.operands.filterMap name?).map (⟨line.number, ·⟩)

theorem references_of_parse (name? : Argument → Option Text) {line : Line} {s : Statement}
    (h : Statement.parse line = .ok s) :
    references name? line = (s.operands.filterMap name?).map (⟨line.number, ·⟩) := by
  rw [references, Line.operands, h]

structure Passage where
  name : Text
  body : List Line := []
  deriving DecidableEq, Repr

/-- The functions in lines, the lines of one that is open already being still missing. -/
def passages : Option Passage → List Line → List Passage
  | none, [] => []
  | some f, [] => [f]
  | none, line :: rest =>
    match Declaration.functionHeader line with
    | .ok (name, _) => passages (some { name }) rest
    | .error _ => passages none rest
  | some f, line :: rest =>
    if line.text = "endfunction".toList then f :: passages none rest
    else passages (some { f with body := f.body ++ [line] }) rest

def functionLines (lines : List Line) : List Line :=
  ((lines.drop 2).dropWhile fun line => line.text ≠ "endstrings".toList).drop 1

def functionsOf (source : Text) : List Passage :=
  passages none (functionLines (Source.lines source))

namespace Passage

variable (f : Passage) (line : Line)

def labels : List Text := f.body.filterMap fun line => Statement.definedLabel? line.text

def jumps : List Reference := f.body.flatMap (references Argument.label?)

def calls : List Reference := f.body.flatMap (references Argument.callee?)

/-- The labels that a function refers to and does not have. -/
def strayJumps : List Reference := f.jumps.filter fun r => !f.labels.contains r.name

def push : Passage := { f with body := f.body ++ [line] }

theorem labels_push : (f.push line).labels =
    f.labels ++ (Statement.definedLabel? line.text).toList := by
  cases h : Statement.definedLabel? line.text <;> simp [labels, push, h]

theorem jumps_push : (f.push line).jumps = f.jumps ++ references Argument.label? line := by
  simp [jumps, push]

theorem calls_push : (f.push line).calls = f.calls ++ references Argument.callee? line := by
  simp [calls, push]

end Passage

/-- The functions that are called and that are none of these. -/
def strayCalls (fs : List Passage) : List Reference :=
  (fs.flatMap Passage.calls).filter fun r => !(fs.map Passage.name).contains r.name

/-- The first label that does not exist in the function that refers to it, with the name of this
function. -/
def firstStrayJump? (fs : List Passage) : Option (Text × Reference) :=
  fs.findSome? fun f => f.strayJumps.head?.map (f.name, ·)

/-! ### The order of lines -/

theorem pairwise_numberLines (n : Nat) (ls : List Text) :
    (∀ line ∈ Source.numberLines n ls, n ≤ line.number) ∧
      (Source.numberLines n ls).Pairwise (·.number < ·.number) := by
  induction ls generalizing n with
  | nil => exact ⟨nofun, .nil⟩
  | cons l ls ih =>
    obtain ⟨hle, hlt⟩ := ih (n + 1)
    have hrest : ∀ line ∈ Source.numberLines (n + 1) ls, n ≤ line.number :=
      fun line hline => Nat.le_of_succ_le (hle line hline)
    rw [Source.numberLines]
    split
    · exact ⟨hrest, hlt⟩
    · exact ⟨List.forall_mem_cons.2 ⟨Nat.le_refl n, hrest⟩, List.pairwise_cons.2 ⟨hle, hlt⟩⟩

theorem passages_sublist (f? : Option Passage) (lines : List Line) :
    ((passages f? lines).flatMap Passage.body).Sublist
      ((f?.map Passage.body).getD [] ++ lines) := by
  induction lines generalizing f? with
  | nil => cases f? <;> simp [passages]
  | cons line lines ih =>
    cases f? with
    | none =>
      rw [passages]
      split
      · exact (ih _).cons line
      · exact (ih none).cons line
    | some f =>
      rw [passages]
      split
      · exact ((ih none).cons line).append_left f.body
      · simpa using ih (some { f with body := f.body ++ [line] })

/-- The lines of the functions stand in the source in this order. -/
theorem functionsOf_sublist (source : Text) :
    ((functionsOf source).flatMap Passage.body).Sublist (Source.lines source) :=
  ((passages_sublist none _).trans (List.drop_sublist 1 _)).trans
    ((List.dropWhile_sublist _).trans (List.drop_sublist 2 _))

theorem pairwise_references (name? : Argument → Option Text) (source : Text) :
    (((functionsOf source).flatMap Passage.body).flatMap (references name?)).Pairwise
      (·.line ≤ ·.line) := by
  rw [List.pairwise_flatMap]
  constructor
  · intro line _
    rw [references, List.pairwise_map]
    exact List.pairwise_of_forall fun _ _ => Nat.le_refl _
  · have hlines : ((functionsOf source).flatMap Passage.body).Pairwise (·.number < ·.number) :=
      (pairwise_numberLines 1 source.lines).2.sublist (functionsOf_sublist source)
    refine hlines.imp fun {a b} hlt => ?_
    simp only [references, List.forall_mem_map]
    exact fun _ _ _ _ => Nat.le_of_lt hlt

theorem pairwise_strayJumps (source : Text) :
    ((functionsOf source).flatMap Passage.strayJumps).Pairwise (·.line ≤ ·.line) := by
  have hall := pairwise_references Argument.label? source
  rw [List.flatMap_assoc] at hall
  exact hall.sublist (List.Sublist.flatMap_right _ fun f _ => List.filter_sublist)

theorem pairwise_strayCalls (source : Text) :
    (strayCalls (functionsOf source)).Pairwise (·.line ≤ ·.line) := by
  have hall := pairwise_references Argument.callee? source
  rw [List.flatMap_assoc] at hall
  exact hall.sublist List.filter_sublist

/-! ### What has been noted of a function -/

/-- What a draft has noted of the lines of a function. It does not note the jumps to labels that it
knows already, but these are no jumps to nowhere. -/
structure Draft.Noted (f : Passage) (d : Draft) : Prop where
  name_eq : d.name = f.name
  labels_eq : d.labels.map Prod.fst = f.labels.reverse
  jumps_eq : ∀ names : List Text, f.labels ⊆ names →
    (d.jumps.map Fixup.reference).filter (fun r => !names.contains r.name) =
      f.jumps.filter fun r => !names.contains r.name
  calls_eq : d.calls.map Fixup.reference = f.calls

namespace Draft

variable {table : StringTable} {f : Passage} {line : Line} {s : Statement} {d d' : Draft}

/-- A line leaves the name of a function as it is, and adds the label that it defines. -/
theorem head_statement {n : Nat} (h : d.statement table n s = .ok d') :
    d'.name = d.name ∧ d'.labels.map Prod.fst = s.label?.toList ++ d.labels.map Prod.fst := by
  cases s with
  | label name =>
    obtain ⟨-, rfl⟩ := statement_label_eq_ok_iff.1 h
    exact ⟨rfl, rfl⟩
  | instruction opcode arguments =>
    obtain ⟨d₁, hd₁, rfl⟩ := Outcome.map_eq_ok_iff.1 h
    have hframe := (Took.of_arguments hd₁).frame
    show d₁.name = d.name ∧ d₁.labels.map Prod.fst = d.labels.map Prod.fst
    rw [hframe]
    exact ⟨rfl, rfl⟩

namespace Noted

theorem isNone_lookup (h : d.Noted f) (name : Text) :
    (d.labels.lookup name).isNone = !f.labels.contains name := by
  rw [Bool.eq_iff_iff, Option.isNone_iff_eq_none, Association.lookup_eq_none_iff_not_mem,
    h.labels_eq, List.mem_reverse, Bool.not_eq_true', ← Bool.not_eq_true, List.contains_iff_mem]

theorem statement (h : d.Noted f) (hs : Statement.parse line = .ok s)
    (hd : d.statement table line.number s = .ok d') : d'.Noted (f.push line) := by
  have hnotes := notes_statement hd
  obtain ⟨hname, hlabels⟩ := head_statement hd
  exact {
    name_eq := by rw [hname, h.name_eq]; rfl
    labels_eq := by
      rw [hlabels, h.labels_eq, Passage.labels_push,
        Statement.definedLabel?_of_parse hs, List.reverse_append]
      cases s.label? <;> rfl
    jumps_eq := by
      intro names hnames
      rw [Passage.labels_push] at hnames
      have hold : f.labels ⊆ names := (List.append_subset.1 hnames).1
      rw [hnotes.jumps, Passage.jumps_push, references_of_parse _ hs, List.filter_append,
        List.filter_append, h.jumps_eq names hold, List.filter_map, List.filter_map,
        List.filter_filter]
      congr 2
      -- a label that the draft knows is one of the names
      refine List.filter_congr fun name _ => ?_
      rw [h.isNone_lookup, Bool.and_eq_left_iff_imp]
      simp only [Function.comp_apply, Bool.not_eq_true', ← Bool.not_eq_true, List.contains_iff_mem]
      exact fun hname hmem => hname (hold hmem)
    calls_eq := by
      rw [hnotes.calls, Passage.calls_push, references_of_parse _ hs, h.calls_eq] }

/-- The first jump that cannot be patched is the first one that refers to nothing. -/
theorem find?_jumps (h : d.Noted f) :
    (d.jumps.find? fun j => (d.labels.lookup j.target).isNone).map Fixup.reference =
      f.strayJumps.head? := by
  have hstray := h.jumps_eq f.labels (List.Subset.refl _)
  rw [Passage.strayJumps, ← hstray, List.head?_filter, List.find?_map]
  congr 2
  ext j
  rw [h.isNone_lookup]
  rfl

/-- A function that refers to a label it does not have is blamed on the first such reference. -/
theorem finish_eq_error (h : d.Noted f) (hfits : d.Fits) (hinstructions : d.instructions ≠ 0)
    {r : Reference} (hstray : f.strayJumps.head? = some r) (n : Nat) :
    d.finish n = .error (.semantic r.line (.undefinedLabel r.name f.name)) := by
  rw [← h.find?_jumps] at hstray
  obtain ⟨j, hj, rfl⟩ := Option.map_eq_some_iff.1 hstray
  rw [finish, if_neg hinstructions, d.patches_patchJump.foldlM_eq_error hfits.jumps_toList hj,
    h.name_eq]
  rfl

/-- If there is none, its jumps can be patched. -/
theorem exists_patched (h : d.Noted f) (hfits : d.Fits) (hstray : f.strayJumps.head? = none) :
    ∃ code, d.jumps.foldlM d.patchJump d.code.toList = .ok code := by
  rw [← h.find?_jumps, Option.map_eq_none_iff] at hstray
  obtain ⟨code, hcode, -⟩ := d.patches_patchJump.exists_foldlM hfits.jumps_toList hstray
  exact ⟨code, hcode⟩

end Noted

end Draft

structure Noted (fs : List Passage) (done : List Assembled) : Prop where
  names_eq : done.map (·.name) = fs.map Passage.name
  calls_eq : (done.flatMap (·.calls)).map Fixup.reference = fs.flatMap Passage.calls

theorem Noted.nil : Noted [] [] := ⟨rfl, rfl⟩

theorem Noted.finish {fs : List Passage} {done : List Assembled} {f : Passage} {d : Draft}
    {a : Assembled} {n : Nat} (h : Noted fs done) (hd : d.Noted f) (ha : d.finish n = .ok a) :
    Noted (fs ++ [f]) (done ++ [a]) := by
  obtain ⟨-, code, -, -, rfl⟩ := Draft.finish_eq_ok_iff.1 ha
  exact {
    names_eq := by
      rw [List.map_append, List.map_append, h.names_eq, List.map_singleton, hd.name_eq]
      rfl
    calls_eq := by
      rw [List.flatMap_append, List.flatMap_append, List.map_append, h.calls_eq,
        List.flatMap_singleton, List.flatMap_singleton, hd.calls_eq] }

/-- What a phase inside the functions has noted, `fs` being the complete functions and `f?` the one
that is open. -/
inductive Phase.Noted (fs : List Passage) : (f? : Option Passage) → Phase → Prop
  | between {p : Progress} (done : Assembly.Noted fs p.done) : Noted fs none (.between p)
  | inside {p : Progress} {f : Passage} {d : Draft} (done : Assembly.Noted fs p.done)
      (hd : d.Noted f) : Noted fs (some f) (.inside p d)

namespace Phase.Noted

variable {cs : Charset} {fs : List Passage} {f : Passage} {line : Line} {phase next : Phase}

theorem header (h : phase.Noted fs none) {name : Text} {params : UInt32}
    (hheader : Declaration.functionHeader line = .ok (name, params))
    (hnext : phase.step cs line = .ok next) : next.Noted fs (some { name }) := by
  cases h with
  | between done =>
    obtain ⟨d, hd, rfl⟩ := Outcome.map_eq_ok_iff.1 hnext
    obtain ⟨name', params', entry, hheader', -, -, rfl⟩ := openFunction_eq_ok_iff.1 hd
    obtain ⟨rfl, rfl⟩ := Prod.mk.inj (Except.ok.inj (hheader.symm.trans hheader'))
    exact .inside done ⟨rfl, rfl, fun _ _ => rfl, rfl⟩

theorem push (h : phase.Noted fs (some f)) (hend : line.text ≠ "endfunction".toList)
    (hnext : phase.step cs line = .ok next) : next.Noted fs (some (f.push line)) := by
  cases h with
  | inside done hd =>
    obtain ⟨s, d', hs, hd', rfl⟩ := (Phase.step_inside_eq_ok_iff hend).1 hnext
    exact .inside done (hd.statement hs hd')

end Phase.Noted

/-! ### Taking in functions -/

def strayJumpFault (stray : Text × Reference) : Fault :=
  .semantic stray.2.line (.undefinedLabel stray.2.name stray.1)

/-- A function that can be placed is completed where it ends, unless it refers to a label that it
does not have: the first such reference is blamed. -/
theorem Phase.Noted.finish {name : Bytes} {table : StringTable} {rs : List Routine} {r : Routine}
    {fs : List Passage} {f : Passage} {line : Line} {phase : Phase} (h : phase.Noted fs (some f))
    (cs : Charset) (hholds : phase.Holds name table rs (some r))
    (hend : line.text = "endfunction".toList) (hplaced : Placeable table rs r) :
    match f.strayJumps.head? with
    | some stray => phase.step cs line = .error (strayJumpFault (f.name, stray))
    | none => ∃ next, phase.step cs line = .ok next ∧ next.Holds name table (rs ++ [r]) none ∧
        next.Noted (fs ++ [f]) none := by
  cases h with
  | inside hdone hd =>
    cases hholds with
    | inside laid hnew hdholds =>
      rw [Phase.step, if_pos hend]
      cases hstray : f.strayJumps.head? with
      | some stray =>
        have hinstructions := hdholds.hasInstruction.2 hplaced.valid.hasInstruction
        rw [hd.finish_eq_error hdholds.fits hinstructions hstray]
        rfl
      | none =>
        obtain ⟨code, hcode⟩ := hd.exists_patched hdholds.fits hstray
        obtain ⟨a, ha⟩ := hdholds.exists_finish_of_patched line.number hplaced.valid
          hplaced.stop_lt hcode
        rw [ha]
        exact ⟨_, rfl, .between (laid.concat (hdholds.finish ha) hnew),
          .between (hdone.finish hd ha)⟩

theorem firstStrayJump?_cons (f : Passage) (fs : List Passage) :
    firstStrayJump? (f :: fs) =
      (f.strayJumps.head?.map (f.name, ·)).or (firstStrayJump? fs) := by
  rw [firstStrayJump?, List.findSome?_cons, firstStrayJump?]
  cases f.strayJumps.head? <;> rfl

/-- Functions that can be placed are taken in to the end, unless one refers to a label that it does
not have: the first such reference is blamed. -/
theorem complete_functions (cs : Charset) (last : Nat) {name : Bytes} {table : StringTable}
    {lines : List Line} {all rs more : List Routine} {r? : Option Routine} {fs : List Passage}
    {f? : Option Passage} {phase : Phase} (hne : all ≠ [])
    (hplace : ∀ front r back, all = front ++ r :: back → Placeable table front r)
    (hall : rs ++ more = all) (hholds : phase.Holds name table rs r?) (hnoted : phase.Noted fs f?)
    (hmore : routines? r? lines = some more) :
    match firstStrayJump? (passages f? lines) with
    | some stray => phase.complete cs last lines = .error (strayJumpFault stray)
    | none => ∃ p, phase.complete cs last lines = .ok p ∧
        Noted (fs ++ passages f? lines) p.done := by
  -- as in `exists_complete`, with the passages read along
  induction lines generalizing phase rs more r? fs f? with
  | nil =>
    rw [Phase.complete_nil]
    cases r? with
    | some r => cases hmore
    | none =>
      obtain rfl := Option.some.inj hmore
      rw [List.append_nil] at hall
      obtain ⟨p, rfl, hp⟩ := hholds.exists_finish (hall ▸ hne) last
      cases hnoted with
      | between hnoted =>
        refine ⟨p, hp, ?_⟩
        rw [passages, List.append_nil]
        exact hnoted
  | cons line lines ih =>
    rw [Phase.complete_cons]
    have hnext (r : Routine) (back : List Routine) (hr : more = r :: back) : Placeable table rs r :=
      hplace rs r back (hr ▸ hall.symm)
    cases r? with
    | none =>
      obtain ⟨r, next, hheader, hrest, hstep, hholds'⟩ := hholds.exists_header cs hmore hnext
      obtain rfl : f? = none := by
        cases hnoted with
        | between => rfl
        | inside => cases hholds
      rw [hstep, passages, hheader]
      exact ih hall hholds' (hnoted.header hheader hstep) hrest
    | some r =>
      obtain ⟨f, rfl⟩ : ∃ f, f? = some f := by
        cases hnoted with
        | between => cases hholds
        | inside => exact ⟨_, rfl⟩
      rw [passages]
      by_cases hend : line.text = "endfunction".toList
      · rw [routines?, if_pos hend] at hmore
        obtain ⟨rest, hrest, rfl⟩ := Option.map_eq_some_iff.1 hmore
        have hfinish := hnoted.finish cs hholds hend (hnext r rest rfl)
        rw [if_pos hend, firstStrayJump?_cons]
        cases hstray : f.strayJumps.head? with
        | some stray =>
          rw [hstray] at hfinish
          rw [hfinish]
          rfl
        | none =>
          rw [hstray] at hfinish
          obtain ⟨next, hstep, hholds', hnoted'⟩ := hfinish
          rw [← List.singleton_append, ← List.append_assoc] at hall
          have hrest := ih hall hholds' hnoted' hrest
          rw [List.append_assoc, List.singleton_append] at hrest
          rw [hstep]
          exact hrest
      · obtain ⟨r', next, hrest, hstep, hholds'⟩ := hholds.exists_line cs hend hmore hnext
        rw [if_neg hend, hstep]
        exact ih hall hholds' (hnoted.push hend hstep) hrest

theorem firstStrayJump?_eq_none_iff {fs : List Passage} :
    firstStrayJump? fs = none ↔ ∀ f ∈ fs, f.strayJumps = [] := by
  simp only [firstStrayJump?, List.findSome?_eq_none_iff, Option.map_eq_none_iff,
    List.head?_eq_none_iff]

theorem of_firstStrayJump?_eq_some {fs : List Passage} {stray : Text × Reference}
    (h : firstStrayJump? fs = some stray) :
    (∃ f ∈ fs, f.name = stray.1 ∧ stray.2 ∈ f.strayJumps) ∧
      (fs.flatMap Passage.strayJumps).head? = some stray.2 := by
  obtain ⟨front, f, back, rfl, hf, hfront⟩ := List.findSome?_eq_some_iff.1 h
  obtain ⟨r, hr, rfl⟩ := Option.map_eq_some_iff.1 hf
  refine ⟨⟨f, List.mem_append_right front List.mem_cons_self, rfl, List.mem_of_head? hr⟩, ?_⟩
  rw [List.head?_flatMap, List.findSome?_eq_some_iff]
  exact ⟨front, f, back, rfl, hr, fun g hg => Option.map_eq_none_iff.1 (hfront g hg)⟩

/-! ### Linking -/

/-- The first call that cannot be linked is the first one that refers to nothing. -/
theorem Noted.find?_calls {fs : List Passage} {done : List Assembled} (h : Noted fs done) :
    ((done.flatMap (·.calls)).find? (Unlinked done)).map Fixup.reference =
      (strayCalls fs).head? := by
  rw [strayCalls, ← h.calls_eq, List.head?_filter, List.find?_map]
  congr 2
  ext f
  rw [Unlinked, functionIndex?, Bool.eq_iff_iff, Option.isNone_iff_eq_none,
    List.findIdx?_eq_none_iff, Function.comp_apply, Bool.not_eq_true', ← Bool.not_eq_true,
    List.contains_iff_mem, ← h.names_eq]
  simp [Fixup.reference]

/-! ### Whole sources -/

/-- What names stand for in a function if every label and every function has a value. -/
def TwoPass.completed (table : StringTable) (body : List Entry) : Scope where
  strings name := (table.lookup name).map (·.pos)
  functions _ := some 0
  labels _ := some 0
  locals := locals body

/-- Nothing is wrong with a program, except that it may refer to labels and to functions that do not
exist: it is valid, its functions have strings, and its instructions can be encoded if every label
and every function has a value. -/
structure TwoPass.Program.ValidUpToReferences (p : Program) : Prop where
  valid : p.Valid
  named : ∀ r ∈ p.routines, ((tableFrom 0 p.strings).lookup r.name).isSome
  encodes : ∀ r ∈ p.routines,
    ((completed (tableFrom 0 p.strings) r.body).instructions? r.body).isSome

instance (p : Program) : Decidable p.ValidUpToReferences :=
  decidable_of_iff (_ ∧ _ ∧ _) ⟨fun ⟨h₁, h₂, h₃⟩ => ⟨h₁, h₂, h₃⟩, fun ⟨h₁, h₂, h₃⟩ => ⟨h₁, h₂, h₃⟩⟩

theorem TwoPass.Program.ValidUpToReferences.placeable {p : Program} (h : p.ValidUpToReferences)
    {front back : List Routine} {r : Routine} (hsplit : p.routines = front ++ r :: back) :
    Placeable (tableFrom 0 p.strings) front r := by
  have hr : r ∈ p.routines := by
    rw [hsplit]
    exact List.mem_append_right front List.mem_cons_self
  exact h.valid.placeable_of_encodes hsplit (h.named r hr) ⟨_, fun _ => rfl, h.encodes r hr⟩

/-- The first pass reads functions in the lines behind the strings. -/
theorem TwoPass.rest_of_strings? {cs : Charset} {lines rest : List Line}
    {strings : List (Text × Bytes)} (h : strings? cs lines = some (strings, rest)) :
    rest = (lines.dropWhile fun line => line.text ≠ "endstrings".toList).drop 1 := by
  induction lines generalizing strings with
  | nil => exact nomatch h
  | cons line lines ih =>
    rw [List.dropWhile_cons]
    by_cases hend : line.text = "endstrings".toList
    · rw [strings?, if_pos hend] at h
      obtain ⟨-, rfl⟩ := Prod.mk.inj (Option.some.inj h)
      have hstop : ¬ decide (line.text ≠ "endstrings".toList) = true := by
        rw [decide_eq_true_eq]
        exact not_not_intro hend
      rw [if_neg hstop]
      rfl
    · obtain ⟨s, more, -, hmore, -⟩ := (strings?_cons_eq_some_iff hend).1 h
      rw [if_pos (decide_eq_true hend)]
      exact ih hmore

/-- Of a source that the first pass reads, only the functions are left to be taken in. -/
theorem complete_start_eq {cs : Charset} {lines : List Line} {p : Program} (last : Nat)
    (hp : program? cs lines = some p) (hstrings : StringsValid p.strings) :
    Phase.complete cs last lines .start = Phase.complete cs last (functionLines lines)
        (.between { name := p.name, table := tableFrom 0 p.strings }) ∧
      routines? none (functionLines lines) = some p.routines := by
  match lines with
  | [] | [_] => cases hp
  | header :: opening :: lines =>
    by_cases hopening : opening.text = "strings".toList
    · obtain ⟨rest, hname, hread, hroutines⟩ := (program?_eq_some_iff hopening).1 hp
      have hrest : functionLines (header :: opening :: lines) = rest :=
        (rest_of_strings? hread).symm
      rw [hrest]
      refine ⟨?_, hroutines⟩
      rw [Phase.complete_cons, Phase.step, hname]
      show Phase.complete cs last (opening :: lines) (.named p.name) = _
      rw [Phase.complete_cons, Phase.step, if_pos hopening]
      have hall : StringsValid ([] ++ p.strings) := hstrings
      exact complete_strings_eq cs last p.name hread hall
    · rw [program?, if_neg hopening] at hp
      cases hp

def strayCallFault (r : Reference) : Fault := .semantic r.line (.undefinedFunction r.name)

/-- If nothing else is wrong, reading the source stops at the first label that does not exist, or
comes to the end. -/
theorem complete_functionsOf {cs : Charset} {source : Text} {p : Program} (last : Nat)
    (hp : program? cs (Source.lines source) = some p) (h : p.ValidUpToReferences) :
    match firstStrayJump? (functionsOf source) with
    | some stray =>
      Phase.complete cs last (Source.lines source) .start = .error (strayJumpFault stray)
    | none => ∃ q, Phase.complete cs last (Source.lines source) .start = .ok q ∧
        Noted (functionsOf source) q.done ∧
        ∀ a ∈ q.done, ∀ f ∈ a.calls, f.Fits a.entry.code.length := by
  obtain ⟨hstart, hroutines⟩ := complete_start_eq last hp h.valid.strings_valid
  have hholds : Phase.Holds p.name (tableFrom 0 p.strings) [] none
      (.between { name := p.name, table := tableFrom 0 p.strings }) := .between (Laid.nil _)
  have hfunctions := complete_functions cs last h.valid.routines_ne
    (fun _ _ _ hsplit => h.placeable hsplit) (List.nil_append _) hholds (.between .nil) hroutines
  rw [hstart, functionsOf]
  cases hjump : firstStrayJump? (passages none (functionLines (Source.lines source))) with
  | some stray =>
    rw [hjump] at hfunctions
    exact hfunctions
  | none =>
    rw [hjump] at hfunctions
    obtain ⟨q, hq, hnoted⟩ := hfunctions
    obtain ⟨more, -, -, hlaid, -, -⟩ := complete_sound hholds hq
    exact ⟨q, hq, hnoted, hlaid.all.fits⟩

/-- A source in which nothing is wrong but references is blamed on the first label that does not
exist. -/
theorem assemble_of_strayJump {cs : Charset} {source : Text} {p : Program}
    (hp : program? cs (Source.lines source) = some p) (h : p.ValidUpToReferences)
    {stray : Text × Reference} (hjump : firstStrayJump? (functionsOf source) = some stray) :
    assemble cs source = .error (strayJumpFault stray) := by
  have hcomplete := complete_functionsOf (lastNumber (Source.lines source)) hp h
  rw [hjump] at hcomplete
  rw [assemble, assembleLines_eq_complete, hcomplete]
  rfl

/-- If all labels exist, it is blamed on the first call of a function that does not exist. -/
theorem assemble_of_no_strayJump {cs : Charset} {source : Text} {p : Program}
    (hp : program? cs (Source.lines source) = some p) (h : p.ValidUpToReferences)
    (hjump : firstStrayJump? (functionsOf source) = none) :
    match (strayCalls (functionsOf source)).head? with
    | some r => assemble cs source = .error (strayCallFault r)
    | none => ∃ s, assemble cs source = .ok s := by
  have hcomplete := complete_functionsOf (lastNumber (Source.lines source)) hp h
  rw [hjump] at hcomplete
  obtain ⟨q, hq, hnoted, hfits⟩ := hcomplete
  rw [← hnoted.find?_calls, assemble, assembleLines_eq_complete, hq, Outcome.ok_bind,
    Progress.link]
  cases hcall : (q.done.flatMap (·.calls)).find? (Unlinked q.done) with
  | some call =>
    rw [linkCalls_eq_error hfits hcall]
    rfl
  | none =>
    obtain ⟨entries, hentries⟩ := exists_linkCalls hfits hcall
    rw [hentries]
    exact ⟨_, rfl⟩

/-! ### Main result -/

/-- The first in the order of lines is the least line. -/
theorem line_le_of_head? {rs : List Reference} (h : rs.Pairwise (·.line ≤ ·.line)) {r : Reference}
    (hr : rs.head? = some r) : ∀ r' ∈ rs, r.line ≤ r'.line := by
  obtain ⟨rest, rfl⟩ := List.head?_eq_some_iff.1 hr
  exact List.forall_mem_cons.2 ⟨Nat.le_refl _, (List.pairwise_cons.1 h).1⟩

/-- A source text in which nothing is wrong but references. If a function refers to a label that it
does not have, the first line with such a reference is blamed, whatever calls stand before it. If
there is none, but functions are called that do not exist, the first line with such a call is
blamed. If there is none of these either, the source can be assembled. -/
theorem assemble_blames_firstReference {cs : Charset} {source : Text} {p : Program}
    (hp : program? cs (Source.lines source) = some p) (h : p.ValidUpToReferences) :
    ((∃ f ∈ functionsOf source, f.strayJumps ≠ []) →
      ∃ f ∈ functionsOf source, ∃ r ∈ f.strayJumps,
        (∀ g ∈ functionsOf source, ∀ r' ∈ g.strayJumps, r.line ≤ r'.line) ∧
        assemble cs source = .error (.semantic r.line (.undefinedLabel r.name f.name))) ∧
    ((∀ f ∈ functionsOf source, f.strayJumps = []) →
      (strayCalls (functionsOf source) ≠ [] →
        ∃ r ∈ strayCalls (functionsOf source),
          (∀ r' ∈ strayCalls (functionsOf source), r.line ≤ r'.line) ∧
          assemble cs source = .error (.semantic r.line (.undefinedFunction r.name))) ∧
      (strayCalls (functionsOf source) = [] → ∃ s, assemble cs source = .ok s)) := by
  constructor
  · rintro ⟨f, hf, hne⟩
    have hsome : firstStrayJump? (functionsOf source) ≠ none :=
      fun hnone => hne (firstStrayJump?_eq_none_iff.1 hnone f hf)
    obtain ⟨stray, hjump⟩ := Option.ne_none_iff_exists'.1 hsome
    obtain ⟨⟨f, hf, hname, hmem⟩, hhead⟩ := of_firstStrayJump?_eq_some hjump
    refine ⟨f, hf, stray.2, hmem, fun g hg r' hr' => ?_, ?_⟩
    · exact line_le_of_head? (pairwise_strayJumps source) hhead r'
        (List.mem_flatMap.2 ⟨g, hg, hr'⟩)
    · rw [assemble_of_strayJump hp h hjump, strayJumpFault, hname]
  · intro hnone
    have hcalls := assemble_of_no_strayJump hp h (firstStrayJump?_eq_none_iff.2 hnone)
    cases hfirst : (strayCalls (functionsOf source)).head? with
    | some r =>
      rw [hfirst] at hcalls
      constructor
      · intro _
        exact ⟨r, List.mem_of_head? hfirst, line_le_of_head? (pairwise_strayCalls source) hfirst,
          hcalls⟩
      · intro hnil
        rw [hnil] at hfirst
        cases hfirst
    | none =>
      rw [hfirst] at hcalls
      constructor
      · intro hne
        exact absurd (List.head?_eq_none_iff.1 hfirst) hne
      · exact fun _ => hcalls

/-- A source text whose first function calls one that does not exist, between two calls of one that
follows, and whose second function jumps to a label that only the first one has. -/
def straySource : Text :=
  ("script a\nstrings\nf = \"f\"\ng = \"g\"\nendstrings\nfunction f,0\ncall g\ncall h\ncall g\n" ++
    "jmp e\ne:\nend\nendfunction\nfunction g,0\njmp e\njmp i\nend\nendfunction\n").toList

theorem assemble_blames_firstReference_stray :
    ∃ p, program? .utf8 (Source.lines straySource) = some p ∧ p.ValidUpToReferences ∧
      strayCalls (functionsOf straySource) = [⟨8, ['h']⟩] ∧
      assemble .utf8 straySource = .error (.semantic 15 (.undefinedLabel ['e'] ['g'])) ∧
      ∃ f ∈ functionsOf straySource, ∃ r ∈ f.strayJumps,
        (∀ g ∈ functionsOf straySource, ∀ r' ∈ g.strayJumps, r.line ≤ r'.line) ∧
        assemble .utf8 straySource = .error (.semantic r.line (.undefinedLabel r.name f.name)) := by
  have hread : ((program? .utf8 (Source.lines straySource)).filter
      (·.ValidUpToReferences)).isSome := by decide +kernel
  obtain ⟨p, hp⟩ := Option.isSome_iff_exists.1 hread
  obtain ⟨hp, hvalid⟩ := Option.filter_eq_some_iff.1 hp
  have hvalid := of_decide_eq_true hvalid
  refine ⟨p, hp, hvalid, by decide +kernel, by decide +kernel, ?_⟩
  exact (assemble_blames_firstReference hp hvalid).1 (by decide +kernel)

end Assembly

end NovelScript
