import NovelScript.Proofs.Association
import NovelScript.Proofs.Assembly.Patching
import NovelScript.Proofs.Assembly.Resolution
import NovelScript.Proofs.FirstUses

/-!
A function while its lines are read. `Took` says what arguments do to a draft, `Draft.Holds` what a
draft is after the lines of a body: its filled code is what the second pass makes of these lines,
under every scope that agrees with what the draft knows already (`Scope.Agrees`).
-/

namespace NovelScript.Assembly

open TwoPass

/-- The scope gives the strings of the table their positions, and it continues the locals and the
labels of the draft. -/
structure TwoPass.Scope.Agrees (table : StringTable) (d : Draft) (σ : Scope) : Prop where
  strings : ∀ name, σ.strings name = (table.lookup name).map (·.pos)
  locals : d.locals <+: σ.locals
  labels : ∀ name address, d.labels.lookup name = some address → σ.labels name = some address

/-- A scope that agrees with a draft and in which every label and every function stands for
something. -/
def Draft.totalScope (table : StringTable) (d : Draft) : Scope where
  strings name := (table.lookup name).map (·.pos)
  functions _ := some 0
  labels name := some ((d.labels.lookup name).getD 0)
  locals := d.locals

theorem Draft.totalScope_agrees (table : StringTable) (d : Draft) :
    (d.totalScope table).Agrees table d where
  strings name := rfl
  locals := List.prefix_refl _
  labels name address hl := by
    show some ((d.labels.lookup name).getD 0) = some address
    rw [hl, Option.getD_some]

theorem Draft.exists_filled_totalScope (table : StringTable) (d : Draft) :
    ∃ code, d.filled (d.totalScope table) = some code := by
  have hlabels : ∀ name, ((d.totalScope table).labels name).isSome := fun _ => rfl
  have hfunctions : ∀ name, ((d.totalScope table).functions name).isSome := fun _ => rfl
  obtain ⟨middle, hmiddle⟩ :=
    Option.isSome_iff_exists.1 (isSome_foldlM_fill? hlabels d.jumps d.code.toList)
  obtain ⟨code, hcode⟩ :=
    Option.isSome_iff_exists.1 (isSome_foldlM_fill? hfunctions d.calls middle)
  refine ⟨code, ?_⟩
  rw [filled, hmiddle]
  exact hcode

/-! ### Arguments -/

/-- What taking in arguments does to a draft. Nothing but the code, the locals and the placeholders
changes; the filled code grows by the operands that the arguments stand for. -/
structure Took (table : StringTable) (as : List Argument) (d d' : Draft) : Prop where
  frame : d' = { d with code := d'.code, locals := d'.locals, jumps := d'.jumps, calls := d'.calls }
  fits : d.Fits → d'.Fits
  locals_grow : d.locals <+: d'.locals
  locals_le : d.locals.length ≤ maxLocals → d'.locals.length ≤ maxLocals
  locals_eq : ∀ names, d.locals = names.eraseDups →
    d'.locals = (names ++ as.filterMap slotName?).eraseDups
  filled_eq : d.Fits → ∀ σ, σ.Agrees table d' →
    d'.filled σ = (d.filled σ).bind fun code =>
      (as.mapM σ.value?).map fun os => code ++ os.flatMap Operand.encode

namespace Took

variable {table : StringTable} {as bs : List Argument} {d d' d₁ d₂ d₃ : Draft} {σ : Scope}

theorem labels_eq (h : Took table as d₁ d₂) : d₂.labels = d₁.labels := by
  rw [h.frame]

/-- A scope that agrees with a draft agrees with every earlier state of it. -/
theorem agrees (h : Took table as d₁ d₂) (hσ : σ.Agrees table d₂) : σ.Agrees table d₁ where
  strings := hσ.strings
  locals := h.locals_grow.trans hσ.locals
  labels name address hl := hσ.labels name address (by rw [h.labels_eq]; exact hl)

theorem nil (table : StringTable) (d : Draft) : Took table [] d d where
  frame := rfl
  fits := id
  locals_grow := List.prefix_refl _
  locals_le := id
  locals_eq names h := by simpa using h
  filled_eq _ σ _ := by cases d.filled σ <;> simp

theorem append (h₁ : Took table as d₁ d₂) (h₂ : Took table bs d₂ d₃) :
    Took table (as ++ bs) d₁ d₃ where
  frame := by rw [h₂.frame, h₁.frame]
  fits h := h₂.fits (h₁.fits h)
  locals_grow := h₁.locals_grow.trans h₂.locals_grow
  locals_le h := h₂.locals_le (h₁.locals_le h)
  locals_eq names h := by
    rw [h₂.locals_eq _ (h₁.locals_eq names h), List.filterMap_append, List.append_assoc]
  filled_eq hfits σ hσ := by
    rw [h₂.filled_eq (h₁.fits hfits) σ hσ, h₁.filled_eq hfits σ (h₂.agrees hσ), List.mapM_append]
    cases d₁.filled σ with
    | none => rfl
    | some code =>
      cases as.mapM σ.value? with
      | none => rfl
      | some os => cases bs.mapM σ.value? <;> simp

theorem of_no_local {a : Argument} (hslot : slotName? a = none)
    (hframe : d' = { d with code := d'.code, jumps := d'.jumps, calls := d'.calls })
    (hfits : d.Fits → d'.Fits)
    (hfilled : d.Fits → ∀ σ : Scope, σ.Agrees table d' →
      d'.filled σ = (d.filled σ).bind fun code => (σ.value? a).map fun o => code ++ o.encode) :
    Took table [a] d d' := by
  have hlocals : d'.locals = d.locals := by rw [hframe]
  exact {
    frame := by rw [hlocals]; exact hframe
    fits := hfits
    locals_grow := by rw [hlocals]
    locals_le := by rw [hlocals]; exact id
    locals_eq := by
      intro names hnames
      simpa [hslot, hlocals] using hnames
    filled_eq := by
      intro hd σ hσ
      rw [hfilled hd σ hσ]
      cases d.filled σ with
      | none => rfl
      | some code => cases h : σ.value? a <;> simp [h] }

theorem of_emit {a : Argument} {field : Field} (hslot : slotName? a = none)
    (h : ∀ σ : Scope, σ.Agrees table d → (σ.value? a).map Operand.encode = some field.encode) :
    Took table [a] d (d.emit field) := by
  apply of_no_local hslot rfl fun hfits => hfits.emit field
  intro hfits σ hσ
  obtain ⟨o, ho, hfield⟩ := Option.map_eq_some_iff.1 (h σ ⟨hσ.strings, hσ.locals, hσ.labels⟩)
  rw [Draft.filled_emit hfits]
  cases d.filled σ <;> simp [ho, hfield]

theorem of_known_slot {name : Text} {i : Nat} (h : d.locals.idxOf? name = some i) :
    Took table [.slot name] d (d.emit (.u8 (UInt8.ofNat i))) := by
  obtain ⟨hmem, hidx⟩ := FirstUses.idxOf_of_idxOf? h
  exact {
    frame := rfl
    fits := fun hfits => hfits.emit _
    locals_grow := List.prefix_refl _
    locals_le := id
    locals_eq := by
      intro names hnames
      have hin : name ∈ names := by
        rw [hnames, List.mem_eraseDups] at hmem
        exact hmem
      show d.locals = (names ++ [name]).eraseDups
      rw [FirstUses.eraseDups_concat_of_mem hin, hnames]
    filled_eq := by
      intro hfits σ hσ
      have hσidx : σ.locals.idxOf name = i := by
        rw [FirstUses.idxOf_of_prefix hσ.locals hmem]
        exact hidx
      rw [Draft.filled_emit hfits]
      cases hd : d.filled σ <;> simp [Scope.value?, hσidx, Operand.encode, Field.encode] }

theorem of_new_slot {name : Text} (hnew : d.locals.idxOf? name = none)
    (hroom : d.locals.length < maxLocals) :
    Took table [.slot name] d
      ({ d with locals := d.locals ++ [name] }.emit (.u8 (UInt8.ofNat d.locals.length))) := by
  have hmem : name ∉ d.locals := List.idxOf?_eq_none_iff.1 hnew
  exact {
    frame := rfl
    fits := fun hfits => Draft.Fits.emit (d := { d with locals := d.locals ++ [name] })
      ⟨hfits.jumps, hfits.calls⟩ _
    locals_grow := List.prefix_append _ _
    locals_le := by
      intro _
      show (d.locals ++ [name]).length ≤ maxLocals
      rw [List.length_append, List.length_singleton]
      omega
    locals_eq := by
      intro names hnames
      have hout : name ∉ names := by
        rw [hnames, List.mem_eraseDups] at hmem
        exact hmem
      show d.locals ++ [name] = (names ++ [name]).eraseDups
      rw [FirstUses.eraseDups_concat_of_not_mem hout, hnames]
    filled_eq := by
      intro hfits σ hσ
      have hσidx : σ.locals.idxOf name = d.locals.length := by
        have hlast : name ∈ d.locals ++ [name] := by simp
        have hgrow : d.locals ++ [name] <+: σ.locals := hσ.locals
        rw [FirstUses.idxOf_of_prefix hgrow hlast, FirstUses.idxOf_concat hmem]
      rw [Draft.filled_emit (d := { d with locals := d.locals ++ [name] })
        ⟨hfits.jumps, hfits.calls⟩]
      show (d.filled σ).map _ = _
      cases hd : d.filled σ <;> simp [Scope.value?, hσidx, Operand.encode, Field.encode] }

theorem of_jump (name : Text) (line : Nat) : Took table [.label name] d (d.jump name line) := by
  apply of_no_local rfl rfl fun hfits => hfits.jump name line
  intro hfits σ _
  rw [Draft.filled_jump hfits]
  cases d.filled σ with
  | none => rfl
  | some code => cases h : σ.labels name <;> simp [Scope.value?, h, Operand.encode]

theorem of_call (name : Text) (line : Nat) :
    Took table [.function name] d (d.call name line) := by
  apply of_no_local rfl rfl fun hfits => hfits.call name line
  intro hfits σ _
  rw [Draft.filled_call hfits]
  cases d.filled σ with
  | none => rfl
  | some code => cases h : σ.functions name <;> simp [Scope.value?, h, Operand.encode]

theorem of_argument {line : Nat} {a : Argument} (h : d.argument table line a = .ok d') :
    Took table [a] d d' := by
  cases a with
  | operand o =>
    obtain rfl := Except.ok.inj h
    exact of_emit rfl fun σ _ => rfl
  | slot name =>
    obtain ⟨⟨i, d₁⟩, hslot, rfl⟩ := Outcome.map_eq_ok_iff.1 h
    cases hidx : d.locals.idxOf? name with
    | some j =>
      simp only [Draft.slot, hidx, Except.ok.injEq, Prod.mk.injEq] at hslot
      obtain ⟨rfl, rfl⟩ := hslot
      exact of_known_slot hidx
    | none =>
      simp only [Draft.slot, hidx] at hslot
      split at hslot
      · exact nomatch hslot
      · rename_i hroom
        simp only [Except.ok.injEq, Prod.mk.injEq] at hslot
        obtain ⟨rfl, rfl⟩ := hslot
        exact of_new_slot hidx (Nat.not_le.1 hroom)
  | string name =>
    cases hl : table.lookup name with
    | none =>
      simp only [Draft.argument, hl] at h
      exact nomatch h
    | some entry =>
      simp only [Draft.argument, hl, Except.ok.injEq] at h
      subst h
      apply of_emit rfl
      intro σ hσ
      simp [Scope.value?, hσ.strings, hl, Operand.encode, Field.encode]
  | function name =>
    obtain rfl := Except.ok.inj h
    exact of_call name line
  | label name =>
    cases hl : d.labels.lookup name with
    | none =>
      simp only [Draft.argument, hl, Except.ok.injEq] at h
      subst h
      exact of_jump name line
    | some address =>
      simp only [Draft.argument, hl, Except.ok.injEq] at h
      subst h
      apply of_emit rfl
      intro σ hσ
      simp [Scope.value?, hσ.labels name address hl, Operand.encode, Field.encode]

theorem of_arguments {line : Nat} (h : as.foldlM (Draft.argument table line) d = .ok d') :
    Took table as d d' := by
  induction as generalizing d with
  | nil =>
    obtain rfl : d = d' := by simpa [Outcome.pure_eq_ok] using h
    exact nil table d
  | cons a as ih =>
    rw [List.foldlM_cons] at h
    obtain ⟨d₁, ha, h⟩ := Outcome.bind_eq_ok_iff.1 h
    exact (of_argument ha).append (ih h)

end Took

/-! ### Lines -/

theorem Draft.statement_label_eq_ok_iff {table : StringTable} {line : Nat} {d d' : Draft}
    {name : Text} :
    d.statement table line (.label name) = .ok d' ↔
      d.labels.lookup name = none ∧ { d with labels := (name, d.cursor) :: d.labels } = d' := by
  rw [statement]
  cases d.labels.lookup name <;> simp

structure Draft.Holds (table : StringTable) (start : Nat) (r : Routine) (d : Draft) : Prop where
  name_eq : d.name = r.name
  namePos_eq : (table.lookup r.name).map (·.pos) = some d.namePos
  params_eq : d.params = r.params
  start_eq : d.start = start
  fits : d.Fits
  hasInstruction : d.instructions ≠ 0 ↔ r.body.any Entry.isInstruction
  locals_eq : d.locals = TwoPass.locals r.body
  locals_le : d.locals.length ≤ maxLocals
  labels_eq : d.labels = (TwoPass.labels start r.body).reverse
  labels_nodup : ((TwoPass.labels start r.body).map Prod.fst).Nodup
  filled_eq : ∀ σ, σ.Agrees table d →
    d.filled σ = (σ.instructions? r.body).map (·.flatMap Instruction.encode)

namespace Draft.Holds

variable {table : StringTable} {start : Nat} {r : Routine} {d d' : Draft}

theorem lookup_labels (h : d.Holds table start r) (name : Text) :
    d.labels.lookup name = (TwoPass.labels start r.body).lookup name := by
  rw [h.labels_eq, Association.lookup_reverse h.labels_nodup]

theorem scope_agrees (h : d.Holds table start r) (routines : List Routine) (more : List Entry) :
    (scope table routines start (r.body ++ more)).Agrees table d where
  strings name := rfl
  locals := by
    refine ⟨(more.flatMap Entry.slots).removeAll (r.body.flatMap Entry.slots) |>.eraseDups, ?_⟩
    rw [h.locals_eq, scope, TwoPass.locals, TwoPass.locals, List.flatMap_append,
      List.eraseDups_append]
  labels name address hl := by
    rw [h.lookup_labels] at hl
    show (TwoPass.labels start (r.body ++ more)).lookup name = some address
    rw [labels_append, List.lookup_append, hl, Option.some_or]

/-- The code emitted so far is as long as the layout says. Its placeholders have no influence on
that, so any values for them will do. -/
theorem size_eq (h : d.Holds table start r) : d.code.size = codeSize r.body := by
  obtain ⟨code, hfilled⟩ := d.exists_filled_totalScope table
  have hlen := Draft.length_of_filled h.fits hfilled
  rw [h.filled_eq _ (d.totalScope_agrees table)] at hfilled
  obtain ⟨is, his, rfl⟩ := Option.map_eq_some_iff.1 hfilled
  rw [← hlen, ← (Scope.wellFormed_of_instructions? his).2]
  simp only [List.length_flatMap, Instruction.length_encode]

theorem opened {name : Text} {params : UInt32} {entry : StringEntry}
    (h : table.lookup name = some entry) :
    ({ name, namePos := entry.pos, params, start } : Draft).Holds table start { name, params } where
  name_eq := rfl
  namePos_eq := by rw [h, Option.map_some]
  params_eq := rfl
  start_eq := rfl
  fits := ⟨fun f hf => (nomatch hf), fun f hf => (nomatch hf)⟩
  hasInstruction := by simp
  locals_eq := rfl
  locals_le := Nat.zero_le _
  labels_eq := rfl
  labels_nodup := List.nodup_nil
  filled_eq σ _ := rfl

theorem label (h : d.Holds table start r) {name : Text} (hnew : d.labels.lookup name = none) :
    ({ d with labels := (name, d.cursor) :: d.labels } : Draft).Holds table start
      { r with body := r.body ++ [.label name] } where
  name_eq := h.name_eq
  namePos_eq := h.namePos_eq
  params_eq := h.params_eq
  start_eq := h.start_eq
  fits := ⟨h.fits.jumps, h.fits.calls⟩
  hasInstruction := by
    rw [List.any_append, List.any_cons, List.any_nil, Entry.isInstruction, Bool.or_false,
      Bool.or_false]
    exact h.hasInstruction
  locals_eq := by
    rw [TwoPass.locals, List.flatMap_append, List.flatMap_singleton, Entry.slots, List.append_nil]
    exact h.locals_eq
  locals_le := h.locals_le
  labels_eq := by
    rw [labels_append, List.reverse_append, ← h.labels_eq, Draft.cursor, h.start_eq, h.size_eq]
    rfl
  labels_nodup := by
    rw [h.lookup_labels, Association.lookup_eq_none_iff_not_mem] at hnew
    rw [labels_append]
    exact Association.nodup_map_concat_iff.2 ⟨h.labels_nodup, hnew⟩
  filled_eq σ hσ := by
    -- the new label is in front of the others, so a name that had an address keeps it
    have hbefore : σ.Agrees table d := by
      refine ⟨hσ.strings, hσ.locals, fun other address hl => hσ.labels other address ?_⟩
      have hne : other ≠ name := by
        rintro rfl
        exact nomatch hnew.symm.trans hl
      show List.lookup other ((name, d.cursor) :: d.labels) = some address
      rw [List.lookup_cons, beq_eq_false_iff_ne.2 hne]
      exact hl
    rw [Scope.instructions?_append, Scope.instructions?_label]
    show d.filled σ = _
    rw [h.filled_eq σ hbefore]
    cases σ.instructions? r.body <;> simp

/-- The code of an instruction is its opcode and what its arguments stand for. -/
theorem instruction (h : d.Holds table start r) {opcode : Opcode} {tokens : List Text}
    {as : List Argument} (has : arguments? opcode tokens = some as)
    (htook : Took table as (d.emit (.u8 opcode.byte)) d') :
    ({ d' with instructions := d'.instructions + 1 } : Draft).Holds table start
      { r with body := r.body ++ [.instruction opcode tokens] } where
  name_eq := by rw [htook.frame]; exact h.name_eq
  namePos_eq := by rw [htook.frame]; exact h.namePos_eq
  params_eq := by rw [htook.frame]; exact h.params_eq
  start_eq := by rw [htook.frame]; exact h.start_eq
  fits := ⟨(htook.fits (h.fits.emit _)).jumps, (htook.fits (h.fits.emit _)).calls⟩
  hasInstruction := by
    rw [List.any_append, List.any_cons, Entry.isInstruction, Bool.true_or, Bool.or_true]
    simp
  locals_eq := by
    have hlocals := htook.locals_eq (r.body.flatMap Entry.slots) h.locals_eq
    rw [slotNames_of_arguments? has] at hlocals
    rw [TwoPass.locals, List.flatMap_append, List.flatMap_singleton]
    exact hlocals
  locals_le := htook.locals_le h.locals_le
  labels_eq := by
    rw [labels_append]
    show d'.labels = (TwoPass.labels start r.body ++ []).reverse
    rw [htook.labels_eq, List.append_nil]
    exact h.labels_eq
  labels_nodup := by
    rw [labels_append]
    show ((TwoPass.labels start r.body ++ []).map Prod.fst).Nodup
    rw [List.append_nil]
    exact h.labels_nodup
  filled_eq σ hσ := by
    have hafter : σ.Agrees table d' := ⟨hσ.strings, hσ.locals, hσ.labels⟩
    have hbefore : σ.Agrees table d := by
      have hemit := htook.agrees hafter
      exact ⟨hemit.strings, hemit.locals, hemit.labels⟩
    rw [Scope.instructions?_append, Scope.instructions?_instruction, Scope.instruction?_eq, has]
    show d'.filled σ = _
    rw [htook.filled_eq (h.fits.emit _) σ hafter, Draft.filled_emit h.fits, h.filled_eq σ hbefore]
    cases σ.instructions? r.body with
    | none => rfl
    | some is =>
      cases hos : as.mapM σ.value? <;> simp [hos, Instruction.encode, Field.encode]

theorem statement (h : d.Holds table start r) {entry : Entry} {s : Statement} {line : Nat}
    (hs : entry.statement? = some s) (hd : d.statement table line s = .ok d') :
    d'.Holds table start { r with body := r.body ++ [entry] } := by
  cases entry with
  | label name =>
    obtain rfl := Option.some.inj hs
    obtain ⟨hnew, rfl⟩ := statement_label_eq_ok_iff.1 hd
    exact h.label hnew
  | instruction opcode tokens =>
    obtain ⟨as, has, rfl⟩ := Option.map_eq_some_iff.1 hs
    obtain ⟨d₁, hd₁, rfl⟩ := Outcome.map_eq_ok_iff.1 hd
    exact h.instruction has (Took.of_arguments hd₁)

end Draft.Holds

/-! ### Ends of functions -/

/-- A function that is complete except for its calls, whose placeholders wait for the functions. -/
structure Assembled.For (table : StringTable) (start : Nat) (r : Routine) (a : Assembled) :
    Prop where
  valid : r.Valid
  name_eq : a.name = r.name
  entry_eq : ∃ string, table.lookup r.name = some string ∧
    a.entry = {
      name := string.pos, pos := UInt32.ofNat start, params := r.params
      locals := UInt32.ofNat (TwoPass.locals r.body).length, code := a.entry.code }
  fits : ∀ f ∈ a.calls, f.Fits a.entry.code.length
  length_code : a.entry.code.length = codeSize r.body
  stop_lt : start + r.size < 2 ^ 32
  linked_eq : ∀ routines,
    a.calls.foldlM (fill? (scope table routines start r.body).functions) a.entry.code =
      ((scope table routines start r.body).instructions? r.body).map
        (·.flatMap Instruction.encode)

theorem Draft.toOption_patchJump (d : Draft) {code : Bytes} {f : Fixup} (h : f.Fits code.length) :
    (d.patchJump code f).toOption = fill? (fun name => d.labels.lookup name) code f := by
  cases hl : d.labels.lookup f.target with
  | none => simp [patchJump, fill?, hl]
  | some address => simp [patchJump, fill?, hl, patchWord_eq_ok h]

theorem toNat_wordLength (bytes : Bytes) : (wordLength bytes).toNat = bytes.length % 2 ^ 32 :=
  UInt32.toNat_ofNat'

/-- When a function can be completed, and what it is then. -/
theorem Draft.finish_eq_ok_iff {d : Draft} {line : Nat} {a : Assembled} :
    d.finish line = .ok a ↔
      d.instructions ≠ 0 ∧ ∃ code, d.jumps.foldlM d.patchJump d.code.toList = .ok code ∧
        d.start + (wordLength code).toNat < UInt32.size ∧
        { name := d.name
          entry := {
            name := d.namePos, pos := UInt32.ofNat d.start, params := d.params
            locals := UInt32.ofNat d.locals.length, code }
          instructions := d.instructions
          calls := d.calls } = a := by
  rw [finish]
  constructor
  · intro h
    split at h
    · exact nomatch h
    · rename_i hinstructions
      obtain ⟨code, hcode, h⟩ := Outcome.bind_eq_ok_iff.1 h
      split at h
      · exact nomatch h
      · rename_i hstop
        exact ⟨hinstructions, code, hcode, Nat.not_le.1 hstop, Except.ok.inj h⟩
  · rintro ⟨hinstructions, code, hcode, hstop, rfl⟩
    rw [if_neg hinstructions, hcode]
    exact if_neg (Nat.not_le.2 hstop)

namespace Draft.Holds

variable {table : StringTable} {start : Nat} {r : Routine} {d : Draft}

theorem valid (h : d.Holds table start r) (hinstructions : d.instructions ≠ 0) : r.Valid where
  hasInstruction := h.hasInstruction.1 hinstructions
  labels_nodup := by
    rw [keys_labels 0 start]
    exact h.labels_nodup
  locals_le := by
    rw [← h.locals_eq]
    exact h.locals_le

/-- The jumps that a draft can patch are those that the scope of its function can fill. -/
theorem patched_iff (h : d.Holds table start r) (routines : List Routine) (code : Bytes) :
    d.jumps.foldlM d.patchJump d.code.toList = .ok code ↔
      d.jumps.foldlM (fill? (scope table routines start r.body).labels) d.code.toList =
        some code := by
  have hjumps := h.fits.jumps_toList
  have hlabels : (scope table routines start r.body).labels = fun name => d.labels.lookup name := by
    ext name
    rw [h.lookup_labels]
    rfl
  rw [foldlM_eq_ok_iff (fun _ _ hf => d.toOption_patchJump hf) hjumps, hlabels]

theorem filled_scope (h : d.Holds table start r) (routines : List Routine) :
    d.filled (scope table routines start r.body) =
      ((scope table routines start r.body).instructions? r.body).map
        (·.flatMap Instruction.encode) := by
  have hagrees := h.scope_agrees routines []
  rw [List.append_nil] at hagrees
  exact h.filled_eq _ hagrees

theorem finish (h : d.Holds table start r) {line : Nat} {a : Assembled}
    (ha : d.finish line = .ok a) : a.For table start r := by
  obtain ⟨hinstructions, code, hcode, hstop, rfl⟩ := Draft.finish_eq_ok_iff.1 ha
  have hjumps := h.fits.jumps_toList
  have hlen : code.length = d.code.size := by
    rw [length_of_foldlM_fill? hjumps ((h.patched_iff [] code).1 hcode), Buffer.length_toList]
  obtain ⟨string, hstring, hpos⟩ := Option.map_eq_some_iff.1 h.namePos_eq
  exact {
    valid := h.valid hinstructions
    name_eq := h.name_eq
    entry_eq := by
      refine ⟨string, hstring, ?_⟩
      rw [hpos, h.start_eq, h.params_eq, h.locals_eq]
    fits := by
      intro f hf
      show f.Fits code.length
      rw [hlen]
      exact h.fits.calls f hf
    length_code := by
      show code.length = codeSize r.body
      rw [hlen, h.size_eq]
    stop_lt := by
      rw [toNat_wordLength, hlen, h.size_eq, h.start_eq] at hstop
      exact hstop
    linked_eq := by
      intro routines
      rw [← h.filled_scope routines, Draft.filled, (h.patched_iff routines code).1 hcode]
      rfl }

/-- The function can be completed if it is valid and its jumps can be patched. -/
theorem exists_finish_of_patched (h : d.Holds table start r) (line : Nat) (hvalid : r.Valid)
    (hstop : start + r.size < 2 ^ 32) {code : Bytes}
    (hcode : d.jumps.foldlM d.patchJump d.code.toList = .ok code) :
    ∃ a, d.finish line = .ok a := by
  have hlen := length_of_foldlM_fill? h.fits.jumps_toList ((h.patched_iff [] code).1 hcode)
  rw [Buffer.length_toList, h.size_eq] at hlen
  have hroom : d.start + (wordLength code).toNat < UInt32.size := by
    rw [h.start_eq, toNat_wordLength, hlen]
    exact hstop
  have hinstructions := h.hasInstruction.2 hvalid.hasInstruction
  exact ⟨_, Draft.finish_eq_ok_iff.2 ⟨hinstructions, code, hcode, hroom, rfl⟩⟩

/-- The function can be completed if it is valid and all names in it can be looked up. -/
theorem exists_finish (h : d.Holds table start r) (line : Nat) (hvalid : r.Valid)
    (hstop : start + r.size < 2 ^ 32) {routines : List Routine} {is : List Instruction}
    (his : (scope table routines start r.body).instructions? r.body = some is) :
    ∃ a, d.finish line = .ok a := by
  have hfilled := h.filled_scope routines
  rw [his, Option.map_some] at hfilled
  obtain ⟨code, hcode, -⟩ := Option.bind_eq_some_iff.1 hfilled
  exact h.exists_finish_of_patched line hvalid hstop ((h.patched_iff routines code).2 hcode)

end Draft.Holds

/-! ### Lines that can be taken in -/

section Progress

variable {table : StringTable} {start : Nat} {r : Routine} {d : Draft}

theorem exists_argument (line : Nat) {a : Argument} {names : List Text}
    (hlocals : d.locals = names.eraseDups)
    (hroom : (names ++ [a].filterMap slotName?).eraseDups.length ≤ maxLocals)
    (hstring : ∀ name, a = .string name → (table.lookup name).isSome) :
    ∃ d', d.argument table line a = .ok d' := by
  cases a with
  | operand o => exact ⟨_, rfl⟩
  | slot name =>
    cases hidx : d.locals.idxOf? name with
    | some i =>
      refine ⟨d.emit (.u8 (UInt8.ofNat i)), ?_⟩
      simp [Draft.argument, Draft.slot, hidx, Except.map]
    | none =>
      have hmem : name ∉ names := by
        rw [List.idxOf?_eq_none_iff, hlocals, List.mem_eraseDups] at hidx
        exact hidx
      have hgrow : (names ++ [name]).eraseDups.length ≤ maxLocals := hroom
      rw [FirstUses.eraseDups_concat_of_not_mem hmem, ← hlocals, List.length_append,
        List.length_singleton] at hgrow
      have hleft : ¬ maxLocals ≤ d.locals.length := by omega
      simp [Draft.argument, Draft.slot, hidx, hleft, Except.map]
  | string name =>
    obtain ⟨entry, hentry⟩ := Option.isSome_iff_exists.1 (hstring name rfl)
    exact ⟨d.emit (.u32 entry.pos), by simp [Draft.argument, hentry]⟩
  | function name => exact ⟨_, rfl⟩
  | label name =>
    cases hl : d.labels.lookup name with
    | none => exact ⟨d.jump name line, by simp [Draft.argument, hl, Draft.jump]⟩
    | some address => exact ⟨d.emit (.u32 address), by simp [Draft.argument, hl]⟩

theorem exists_arguments (line : Nat) {as : List Argument} {names : List Text}
    (hlocals : d.locals = names.eraseDups)
    (hroom : (names ++ as.filterMap slotName?).eraseDups.length ≤ maxLocals)
    (hstring : ∀ name, .string name ∈ as → (table.lookup name).isSome) :
    ∃ d', as.foldlM (Draft.argument table line) d = .ok d' := by
  induction as generalizing d names with
  | nil => exact ⟨d, rfl⟩
  | cons a as ih =>
    have hsplit : names ++ (a :: as).filterMap slotName? =
        (names ++ [a].filterMap slotName?) ++ as.filterMap slotName? := by
      rw [List.append_assoc, ← List.filterMap_append, List.singleton_append]
    rw [hsplit] at hroom
    -- the locals so far are no more than all locals together
    have hnow : (names ++ [a].filterMap slotName?).eraseDups.length ≤ maxLocals :=
      Nat.le_trans (FirstUses.length_eraseDups_le_append _ _) hroom
    obtain ⟨d₁, hd₁⟩ := exists_argument line hlocals hnow
      fun name ha => hstring name (ha ▸ List.mem_cons_self)
    obtain ⟨d₂, hd₂⟩ := ih ((Took.of_argument hd₁).locals_eq names hlocals) hroom
      fun name hname => hstring name (List.mem_cons_of_mem a hname)
    refine ⟨d₂, ?_⟩
    rw [List.foldlM_cons, hd₁]
    exact hd₂

theorem isSome_lookup_of_mapM {σ : Scope}
    (hσ : ∀ name, σ.strings name = (table.lookup name).map (·.pos)) {as : List Argument}
    {os : List Operand} (h : as.mapM σ.value? = some os) {name : Text}
    (hname : .string name ∈ as) : (table.lookup name).isSome := by
  induction as generalizing os with
  | nil => exact nomatch hname
  | cons a as ih =>
    obtain ⟨o, rest, ho, hrest, -⟩ := Outcome.mapM_cons_eq_some_iff.1 h
    rcases List.mem_cons.1 hname with rfl | hname
    · obtain ⟨pos, hpos, -⟩ := Option.map_eq_some_iff.1 ho
      rw [hσ] at hpos
      obtain ⟨entry, hentry, -⟩ := Option.map_eq_some_iff.1 hpos
      rw [hentry]
      rfl
    · exact ih hrest hname

/-- Every line of a valid function can be taken in if the function can be encoded under some scope
that has the strings of the table. What labels and functions stand for does not matter yet. -/
theorem Draft.Holds.exists_statement (h : d.Holds table start r) (line : Nat) {entry : Entry}
    {more : List Entry} (hvalid : Routine.Valid { r with body := r.body ++ entry :: more })
    {σ : Scope} (hσ : ∀ name, σ.strings name = (table.lookup name).map (·.pos))
    {is : List Instruction} (his : σ.instructions? (r.body ++ entry :: more) = some is) :
    ∃ s d', entry.statement? = some s ∧ d.statement table line s = .ok d' := by
  cases entry with
  | label name =>
    have hnodup := hvalid.labels_nodup
    rw [keys_labels 0 start, labels_append, TwoPass.labels, List.map_append, List.map_cons,
      List.nodup_append] at hnodup
    have hnew : d.labels.lookup name = none := by
      rw [h.lookup_labels, Association.lookup_eq_none_iff_not_mem]
      exact fun hmem => hnodup.2.2 name hmem name List.mem_cons_self rfl
    exact ⟨.label name, _, rfl, Draft.statement_label_eq_ok_iff.2 ⟨hnew, rfl⟩⟩
  | instruction opcode tokens =>
    rw [Scope.instructions?_append, Scope.instructions?, Scope.instruction?_eq] at his
    -- from the whole body down to the arguments of this line
    obtain ⟨_, -, hback⟩ := Option.bind_eq_some_iff.1 his
    obtain ⟨_, hline, -⟩ := Option.map_eq_some_iff.1 hback
    obtain ⟨i, hi, -⟩ := Option.bind_eq_some_iff.1 hline
    obtain ⟨as, has, hos⟩ := Option.bind_eq_some_iff.1 hi
    obtain ⟨os, hos, -⟩ := Option.map_eq_some_iff.1 hos
    have hroom : (r.body.flatMap Entry.slots ++ as.filterMap slotName?).eraseDups.length ≤
        maxLocals := by
      apply Nat.le_trans (FirstUses.length_eraseDups_le_append _ (more.flatMap Entry.slots))
      have hle := hvalid.locals_le
      rw [TwoPass.locals, List.flatMap_append, List.flatMap_cons, ← List.append_assoc] at hle
      rw [slotNames_of_arguments? has]
      exact hle
    obtain ⟨d', hd'⟩ := exists_arguments (d := d.emit (.u8 opcode.byte)) line h.locals_eq hroom
      fun name hname => isSome_lookup_of_mapM hσ hos hname
    refine ⟨.instruction opcode as, { d' with instructions := d'.instructions + 1 }, ?_, ?_⟩
    · rw [Entry.statement?, has, Option.map_some]
    · rw [Draft.statement, hd']
      rfl

end Progress

end NovelScript.Assembly
