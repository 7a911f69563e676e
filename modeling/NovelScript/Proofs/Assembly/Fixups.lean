import NovelScript.Proofs.Assembly.Body

/-!
What is noted to be patched, and what patching does. Taking in an instruction notes its calls, and
its jumps to labels that are not defined yet, each with the line (`references_statement`). Patching
goes from the first placeholder to the last one and stops at the first whose target has no value
(`Patches.foldlM_eq_error`); as placeholders lie inside of the code, it does not stop for any other
reason (`Patches.exists_foldlM`).
-/

namespace NovelScript

def Argument.label? : Argument → Option Text
  | .label name => some name
  | _ => none

def Argument.callee? : Argument → Option Text
  | .function name => some name
  | _ => none

def Statement.operands : Statement → List Argument
  | .label _ => []
  | .instruction _ arguments => arguments

namespace Assembly

structure Reference where
  line : Nat
  name : Text
  deriving DecidableEq, Repr

def Fixup.reference (f : Fixup) : Reference := ⟨f.line, f.target⟩

/-! ### Noting -/

namespace Draft

variable {table : StringTable} {line : Nat} {d d' : Draft}

/-- The references that a draft has noted after it has met names of labels and functions. -/
structure Notes (line : Nat) (d : Draft) (labels callees : List Text) (d' : Draft) : Prop where
  jumps : d'.jumps.map Fixup.reference = d.jumps.map Fixup.reference ++
    (labels.filter fun name => (d.labels.lookup name).isNone).map (⟨line, ·⟩)
  calls : d'.calls.map Fixup.reference = d.calls.map Fixup.reference ++ callees.map (⟨line, ·⟩)

theorem Notes.of_same (hjumps : d'.jumps = d.jumps) (hcalls : d'.calls = d.calls) :
    Notes line d [] [] d' where
  jumps := by simp [hjumps]
  calls := by simp [hcalls]

theorem Notes.trans {labels labels' callees callees' : List Text} {d'' : Draft}
    (h : Notes line d labels callees d') (hlabels : d'.labels = d.labels)
    (h' : Notes line d' labels' callees' d'') :
    Notes line d (labels ++ labels') (callees ++ callees') d'' where
  jumps := by
    rw [h'.jumps, h.jumps, hlabels, List.filter_append, List.map_append, List.append_assoc]
  calls := by rw [h'.calls, h.calls, List.map_append, List.append_assoc]

theorem slot_frame {name : Text} {i : UInt8} (h : d.slot line name = .ok (i, d')) :
    d' = { d with locals := d'.locals } := by
  rw [slot] at h
  split at h
  · obtain ⟨-, rfl⟩ := Prod.mk.inj (Except.ok.inj h)
    rfl
  · simp only at h
    split at h
    · cases h
    · obtain ⟨-, rfl⟩ := Prod.mk.inj (Except.ok.inj h)
      rfl

theorem notes_argument {a : Argument} (h : d.argument table line a = .ok d') :
    Notes line d a.label?.toList a.callee?.toList d' := by
  cases a with
  | operand o =>
    obtain rfl := Except.ok.inj h
    exact .of_same rfl rfl
  | slot name =>
    obtain ⟨⟨i, d₁⟩, hslot, rfl⟩ := Outcome.map_eq_ok_iff.1 h
    rw [slot_frame hslot]
    exact .of_same rfl rfl
  | string name =>
    rw [argument] at h
    split at h
    · obtain rfl := Except.ok.inj h
      exact .of_same rfl rfl
    · cases h
  | function name =>
    obtain rfl := Except.ok.inj h
    exact {
      jumps := by simp [Argument.label?, emit]
      calls := by simp [Argument.callee?, fixup, Fixup.reference] }
  | label name =>
    rw [argument] at h
    split at h
    · rename_i address hl
      obtain rfl := Except.ok.inj h
      exact {
        jumps := by simp [Argument.label?, emit, hl]
        calls := by simp [Argument.callee?, emit] }
    · rename_i hl
      obtain rfl := Except.ok.inj h
      exact {
        jumps := by simp [Argument.label?, fixup, Fixup.reference, hl]
        calls := by simp [Argument.callee?, emit] }

theorem notes_arguments {as : List Argument}
    (h : as.foldlM (Draft.argument table line) d = .ok d') :
    Notes line d (as.filterMap Argument.label?) (as.filterMap Argument.callee?) d' := by
  induction as generalizing d with
  | nil =>
    obtain rfl : d = d' := by simpa [Outcome.pure_eq_ok] using h
    exact .of_same rfl rfl
  | cons a as ih =>
    rw [List.foldlM_cons] at h
    obtain ⟨d₁, ha, h⟩ := Outcome.bind_eq_ok_iff.1 h
    have hboth := (notes_argument ha).trans (Took.of_argument ha).labels_eq (ih h)
    rw [List.filterMap_cons, List.filterMap_cons]
    cases hlabel : a.label? <;> cases hcallee : a.callee? <;> simpa [hlabel, hcallee] using hboth

/-- A line is noted for the functions it calls, and for the labels it jumps to that are not defined
above it. -/
theorem notes_statement {s : Statement} (h : d.statement table line s = .ok d') :
    Notes line d (s.operands.filterMap Argument.label?)
      (s.operands.filterMap Argument.callee?) d' := by
  cases s with
  | label name =>
    obtain ⟨-, rfl⟩ := statement_label_eq_ok_iff.1 h
    exact .of_same rfl rfl
  | instruction opcode arguments =>
    obtain ⟨d₁, hd₁, rfl⟩ := Outcome.map_eq_ok_iff.1 h
    have hnotes := notes_arguments hd₁
    exact { jumps := hnotes.jumps, calls := hnotes.calls }

theorem Fits.statement (h : d.Fits) {s : Statement} (hs : d.statement table line s = .ok d') :
    d'.Fits := by
  cases s with
  | label name =>
    obtain ⟨-, rfl⟩ := statement_label_eq_ok_iff.1 hs
    exact ⟨h.jumps, h.calls⟩
  | instruction opcode arguments =>
    obtain ⟨d₁, hd₁, rfl⟩ := Outcome.map_eq_ok_iff.1 hs
    have hfits := (Took.of_arguments hd₁).fits (h.emit _)
    exact ⟨hfits.jumps, hfits.calls⟩

end Draft

/-! ### Patching -/

/-- A way to patch: a placeholder whose target has a value gets this value, and any other one is
blamed. -/
structure Patches (patch : Bytes → Fixup → Except Fault Bytes) (value : Text → Option UInt32)
    (missing : Fixup → Fault) : Prop where
  found : ∀ {code : Bytes} {f : Fixup} {v : UInt32}, f.Fits code.length →
    value f.target = some v → patch code f = .ok (overwrite code f.offset v)
  blamed : ∀ {code : Bytes} {f : Fixup}, value f.target = none → patch code f = .error (missing f)

namespace Patches

variable {patch : Bytes → Fixup → Except Fault Bytes} {value : Text → Option UInt32}
  {missing : Fixup → Fault} {fixups : List Fixup} {code : Bytes}

/-- One placeholder filled, the others still fit. -/
theorem cons (hpatch : Patches patch value missing) {f : Fixup} {v : UInt32}
    (hfits : ∀ g ∈ f :: fixups, g.Fits code.length) (hv : value f.target = some v) :
    ∃ middle, patch code f = .ok middle ∧ middle.length = code.length ∧
      ∀ g ∈ fixups, g.Fits middle.length := by
  have hf := hfits f List.mem_cons_self
  have hlen := length_overwrite hf v
  exact ⟨_, hpatch.found hf hv, hlen, fits_of_fits_cons hfits hlen⟩

/-- If all targets have values, all placeholders are filled. -/
theorem exists_foldlM (hpatch : Patches patch value missing)
    (hfits : ∀ f ∈ fixups, f.Fits code.length)
    (h : fixups.find? (fun f => (value f.target).isNone) = none) :
    ∃ filled, fixups.foldlM patch code = .ok filled ∧ filled.length = code.length := by
  induction fixups generalizing code with
  | nil => exact ⟨code, rfl, rfl⟩
  | cons f fixups ih =>
    rw [List.find?_eq_none, List.forall_mem_cons] at h
    cases hv : value f.target with
    | none => simp [hv] at h
    | some v =>
      obtain ⟨middle, hmiddle, hlen, hrest⟩ := hpatch.cons hfits hv
      obtain ⟨filled, hfilled, hlen'⟩ := ih hrest (List.find?_eq_none.2 h.2)
      refine ⟨filled, ?_, hlen'.trans hlen⟩
      rw [List.foldlM_cons, hmiddle]
      exact hfilled

/-- The first target without a value is blamed. -/
theorem foldlM_eq_error (hpatch : Patches patch value missing)
    (hfits : ∀ f ∈ fixups, f.Fits code.length) {f : Fixup}
    (h : fixups.find? (fun f => (value f.target).isNone) = some f) :
    fixups.foldlM patch code = .error (missing f) := by
  induction fixups generalizing code with
  | nil => exact nomatch h
  | cons g fixups ih =>
    rw [List.find?_cons] at h
    rw [List.foldlM_cons]
    cases hv : value g.target with
    | none =>
      simp only [hv, Option.isNone_none, Option.some.injEq] at h
      rw [← h, hpatch.blamed hv]
      rfl
    | some v =>
      simp only [hv, Option.isNone_some] at h
      obtain ⟨middle, hmiddle, -, hrest⟩ := hpatch.cons hfits hv
      rw [hmiddle]
      exact ih hrest h

theorem length_of_foldlM (hpatch : Patches patch value missing) {filled : Bytes}
    (hfits : ∀ f ∈ fixups, f.Fits code.length) (h : fixups.foldlM patch code = .ok filled) :
    filled.length = code.length := by
  cases hfind : fixups.find? fun f => (value f.target).isNone with
  | some f => cases h.symm.trans (hpatch.foldlM_eq_error hfits hfind)
  | none =>
    obtain ⟨filled', hfilled, hlen⟩ := hpatch.exists_foldlM hfits hfind
    obtain rfl := Except.ok.inj (h.symm.trans hfilled)
    exact hlen

end Patches

theorem Draft.patches_patchJump (d : Draft) :
    Patches d.patchJump (fun name => d.labels.lookup name)
      fun f => .semantic f.line (.undefinedLabel f.target d.name) where
  found hf hv := by
    rw [patchJump, hv]
    exact patchWord_eq_ok hf _
  blamed hv := by rw [patchJump, hv]

theorem patches_patchCall (done : List Assembled) :
    Patches (patchCall done) (fun name => (functionIndex? done name).map UInt32.ofNat)
      fun f => .semantic f.line (.undefinedFunction f.target) where
  found hf hv := by
    obtain ⟨index, hindex, rfl⟩ := Option.map_eq_some_iff.1 hv
    rw [patchCall, hindex]
    exact patchWord_eq_ok hf _
  blamed hv := by rw [patchCall, Option.map_eq_none_iff.1 hv]

/-! ### Linking -/

def Unlinked (done : List Assembled) (f : Fixup) : Bool := (functionIndex? done f.target).isNone

variable {done as : List Assembled}

theorem find?_unlinked (done : List Assembled) (fixups : List Fixup) :
    fixups.find? (fun f => ((functionIndex? done f.target).map UInt32.ofNat).isNone) =
      fixups.find? (Unlinked done) := by
  simp only [Option.isNone_map]
  rfl

theorem exists_linkCalls (hfits : ∀ a ∈ as, ∀ f ∈ a.calls, f.Fits a.entry.code.length)
    (h : (as.flatMap (·.calls)).find? (Unlinked done) = none) :
    ∃ entries, linkCalls done as = .ok entries := by
  induction as with
  | nil => exact ⟨[], rfl⟩
  | cons a as ih =>
    obtain ⟨hfirst, hrest⟩ := List.forall_mem_cons.1 hfits
    rw [List.flatMap_cons, List.find?_append, Option.or_eq_none_iff] at h
    obtain ⟨code, hcode, -⟩ := (patches_patchCall done).exists_foldlM hfirst
      ((find?_unlinked done a.calls).trans h.1)
    obtain ⟨entries, hentries⟩ := ih hrest h.2
    rw [linkCalls, hcode, hentries]
    exact ⟨_, rfl⟩

theorem linkCalls_eq_error (hfits : ∀ a ∈ as, ∀ f ∈ a.calls, f.Fits a.entry.code.length)
    {f : Fixup} (h : (as.flatMap (·.calls)).find? (Unlinked done) = some f) :
    linkCalls done as = .error (.semantic f.line (.undefinedFunction f.target)) := by
  induction as with
  | nil => exact nomatch h
  | cons a as ih =>
    obtain ⟨hfirst, hrest⟩ := List.forall_mem_cons.1 hfits
    rw [List.flatMap_cons, List.find?_append] at h
    rw [linkCalls]
    cases hcalls : a.calls.find? (Unlinked done) with
    | some g =>
      rw [hcalls, Option.some_or, Option.some.injEq] at h
      rw [(patches_patchCall done).foldlM_eq_error hfirst
        ((find?_unlinked done a.calls).trans hcalls), h]
      rfl
    | none =>
      rw [hcalls, Option.none_or] at h
      obtain ⟨code, hcode, -⟩ := (patches_patchCall done).exists_foldlM hfirst
        ((find?_unlinked done a.calls).trans hcalls)
      rw [hcode, ih hrest h]
      rfl

end Assembly

end NovelScript
