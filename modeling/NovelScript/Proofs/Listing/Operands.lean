import NovelScript.Proofs.Listing.Program

/-!
What the words of a listing stand for. Where names resolve to what they were made of (`Resolves`),
every operand is read back as its normal form (`operand?_of_text`), and so is every instruction
(`instruction?_tokens`). Sizes and locals are read off the words without resolving anything.
-/

namespace NovelScript.Listing

open Assembly

variable {script : Script} {cs : Charset} {f : FunctionEntry}

def slotName (index : UInt8) : Text := "local_".toList ++ Numeral.hex 2 index.toNat

@[simp] theorem slotName_inj {a b : UInt8} : slotName a = slotName b ↔ a = b := by
  constructor
  · intro h
    have hvalue := congrArg (Numeral.value 16) (List.append_cancel_left h)
    rw [Numeral.value_hex, Numeral.value_hex] at hvalue
    exact UInt8.toNat_inj.1 hvalue
  · rintro rfl
    rfl

/-- The names in the listing of a function stand for what they were made of, if the function begins
at `start` in the end. -/
structure Resolves (script : Script) (cs : Charset) (f : FunctionEntry) (start : Nat)
    (σ : TwoPass.Scope) : Prop where
  strings : ∀ pos ∈ script.strings.map (·.pos), σ.strings (symbolName script cs pos) = some pos
  functions : ∀ (i : Nat) (hi : i < script.functions.length),
    σ.functions (symbolName script cs script.functions[i].name) = some (UInt32.ofNat i)
  labels : ∀ target ∈ (decoded f).labels,
    σ.labels (labelName target) = some (f.movedTarget start target)
  locals : ∀ index ∈ f.slots, σ.locals.idxOf (slotName index) = f.slots.eraseDups.idxOf index

theorem isNumber_of_word? {t : Text} {w : UInt32} (h : TwoPass.word? t = some w) :
    Number.isNumber t = true := by
  obtain ⟨n, hn, -⟩ := Option.map_eq_some_iff.1 h
  rw [Number.isNumber, (Option.filter_eq_some_iff.1 hn).1]
  rfl

theorem mem_labels_iff {target : UInt32} :
    target ∈ (decoded f).labels ↔
      target ∈ Decoded.targets (Sweep.ofCode f.code).found ∧ target ∈ f.starts := by
  rw [decoded, List.mem_filter, List.mem_eraseDups, List.contains_iff_mem]
  rfl

theorem mem_targets {p : Placed} (hp : p ∈ (Sweep.ofCode f.code).found) {target : UInt32}
    (ho : .label target ∈ p.instruction.operands) :
    target ∈ Decoded.targets (Sweep.ofCode f.code).found :=
  List.mem_filterMap.2 ⟨_, List.mem_flatMap.2 ⟨p, hp, ho⟩, rfl⟩

/-! ### Operands -/

theorem operand?_slot {start : Nat} {σ : TwoPass.Scope} (hσ : Resolves script cs f start σ)
    {index : UInt8} (h : index ∈ f.slots) :
    σ.operand? .slot (slotName index) = some (.slot (f.slotRank index)) := by
  rw [TwoPass.Scope.operand?, hσ.locals index h]
  rfl

theorem operand?_byte (σ : TwoPass.Scope) (value : UInt8) :
    σ.operand? .byte (if value < 10 then Numeral.decimal value.toNat else
      hexLiteral 2 value.toNat) = some (.byte value) := by
  rw [TwoPass.Scope.operand?]
  split
  · rw [TwoPass.byte?_decimal]
    rfl
  · rw [hexLiteral, TwoPass.byte?_hex]
    rfl

theorem operand?_constant {start : Nat} {σ : TwoPass.Scope} (hσ : Resolves script cs f start σ)
    (value : UInt32) (rest : Bytes) :
    σ.operand? .constant ((constantSymbol? script (Symbols.build script cs) value rest).getD
      (Numeral.signed value.toInt32.toInt)) = some (.constant value) := by
  rw [TwoPass.Scope.operand?]
  cases hsymbol : constantSymbol? script (Symbols.build script cs) value rest with
  | none =>
    have hword := TwoPass.word?_signed value
    rw [Option.getD_none, if_pos (isNumber_of_word? hword), hword]
    rfl
  | some t =>
    obtain ⟨hpos, rfl⟩ :=
      string?_build_eq_some_iff.1 (string?_of_constantSymbol? cs hsymbol)
    have hnumber : ¬ Number.isNumber (symbolName script cs value) = true := by
      rw [isNumber_symbolName]
      exact Bool.false_ne_true
    rw [Option.getD_some, if_neg hnumber, hσ.strings value hpos]
    rfl

theorem operand?_label {start : Nat} {σ : TwoPass.Scope} (hσ : Resolves script cs f start σ)
    {target : UInt32} (h : target ∈ Decoded.targets (Sweep.ofCode f.code).found) :
    σ.operand? .label (if (decoded f).labels.contains target then labelName target else
      hexLiteral 8 target.toNat) = some (.label (f.movedTarget start target)) := by
  rw [TwoPass.Scope.operand?]
  by_cases hlabel : target ∈ (decoded f).labels
  · have hnumber : ¬ Number.isNumber (labelName target) = true := by
      rw [show labelName target = 'l' :: _ from rfl,
        Number.isNumber_eq_false (by decide) (by decide)]
      exact Bool.false_ne_true
    rw [if_pos (List.contains_iff_mem.2 hlabel), if_neg hnumber, hσ.labels target hlabel]
    rfl
  · have hstart : target ∉ f.starts := fun hstart => hlabel (mem_labels_iff.2 ⟨h, hstart⟩)
    have hword : TwoPass.word? (hexLiteral 8 target.toNat) = some target :=
      TwoPass.word?_hex target
    rw [if_neg (fun hmem => hlabel (List.contains_iff_mem.1 hmem)),
      if_pos (isNumber_of_word? hword), hword, FunctionEntry.movedTarget, if_neg hstart]
    rfl

/-- What is written for an operand stands for its normal form. -/
theorem operand?_of_text (hscript : script.Listable) {start : Nat} {σ : TwoPass.Scope}
    (hσ : Resolves script cs f start σ) {p : Placed} (hp : p ∈ (Sweep.ofCode f.code).found)
    {o : Operand} (ho : o ∈ p.instruction.operands) (htable : o.kind ≠ .table) {t : Text}
    (ht : operandText script (Symbols.build script cs) (decoded f) p o = .ok t) :
    σ.operand? o.kind t = some (f.normalOperand start o) := by
  cases o with
  | slot index =>
    obtain rfl := Except.ok.inj ht
    have hinstruction : p.instruction ∈ f.instructions := List.mem_map.2 ⟨p, hp, rfl⟩
    have hoperand : .slot index ∈ f.operands := List.mem_flatMap.2 ⟨_, hinstruction, ho⟩
    exact operand?_slot hσ (List.mem_filterMap.2 ⟨_, hoperand, rfl⟩)
  | byte value =>
    obtain rfl := Except.ok.inj ht
    exact operand?_byte σ value
  | word value =>
    obtain rfl := Except.ok.inj ht
    show (TwoPass.word? (hexLiteral 8 value.toNat)).map _ = _
    rw [hexLiteral, TwoPass.word?_hex]
    rfl
  | constant value =>
    obtain rfl := Except.ok.inj ht
    exact operand?_constant hσ value p.rest
  | table entries => exact absurd rfl htable
  | function index =>
    rw [operandText] at ht
    cases htarget : script.functions[index.toNat]? with
    | none =>
      rw [htarget] at ht
      cases ht
    | some target =>
      obtain ⟨hlt, hget⟩ := List.getElem?_eq_some_iff.1 htarget
      have hname := hscript.names_mem target (hget ▸ List.getElem_mem hlt)
      simp only [htarget, function_eq_ok cs hname] at ht
      obtain rfl := Except.ok.inj ht
      have hindex := hσ.functions index.toNat hlt
      rw [hget, UInt32.ofNat_toNat] at hindex
      show (σ.functions _).map _ = _
      rw [hindex]
      rfl
  | native id =>
    obtain rfl := Except.ok.inj ht
    show (TwoPass.native? _).map _ = _
    rw [TwoPass.native?_hex]
    rfl
  | label target =>
    obtain rfl := Except.ok.inj ht
    exact operand?_label hσ (mem_targets hp ho)

/-! ### Instructions -/

theorem mapM_operand?_words (hscript : script.Listable) {start : Nat} {σ : TwoPass.Scope}
    (hσ : Resolves script cs f start σ) {p : Placed} (hp : p ∈ (Sweep.ofCode f.code).found)
    (hcall : ∀ index ∈ f.calls, index.toNat < script.functions.length) {os : List Operand}
    (hos : ∀ o ∈ os, o ∈ p.instruction.operands) (htable : .table ∉ os.map Operand.kind) :
    ((os.map Operand.kind).zip (os.map (operandWord script cs (decoded f) p))).mapM
        (fun pair => σ.operand? pair.1 pair.2) = some (os.map (f.normalOperand start)) := by
  induction os with
  | nil => rfl
  | cons o os ih =>
    rw [List.map_cons, List.mem_cons, not_or] at htable
    have ho := hos o List.mem_cons_self
    obtain ⟨ht, -⟩ := operandText_eq_ok cs hscript.printable (decoded f) p (Ne.symm htable.1)
      fun index hindex => hcall index (mem_calls_of_mem_found hp ho hindex)
    have hrest := ih (fun o' ho' => hos o' (List.mem_cons_of_mem o ho')) htable.2
    rw [List.map_cons, List.map_cons, List.zip_cons_cons, List.mapM_cons,
      operand?_of_text hscript hσ hp ho (Ne.symm htable.1) ht, hrest]
    rfl

@[simp] theorem mapM_word?_entries (entries : List UInt32) :
    (entries.map fun e => hexLiteral 8 e.toNat).mapM TwoPass.word? = some entries := by
  induction entries with
  | nil => rfl
  | cons e entries ih =>
    rw [List.map_cons, List.mapM_cons, ih, hexLiteral, TwoPass.word?_hex]
    rfl

theorem instruction?_tokens (hscript : script.Listable) {start : Nat} {σ : TwoPass.Scope}
    (hσ : Resolves script cs f start σ) {p : Placed} (hp : p ∈ (Sweep.ofCode f.code).found)
    (hcall : ∀ index ∈ f.calls, index.toNat < script.functions.length)
    (hwf : p.instruction.WellFormed) :
    σ.instruction? p.instruction.opcode (instructionTokens script cs (decoded f) p) =
      some (f.normalInstruction start p.instruction) := by
  by_cases hjmpa : p.instruction.opcode = .jmpa
  · obtain ⟨entries, hentries⟩ := exists_table hwf hjmpa
    have hlen : entries.length ≤ 255 := hwf.2 entries (hentries ▸ List.mem_singleton.2 rfl)
    rw [instructionTokens_of_table cs hentries, TwoPass.Scope.instruction?, if_pos hjmpa,
      List.length_map, if_pos hlen, mapM_word?_entries, FunctionEntry.normalInstruction, hentries]
    rfl
  · have htable := table_not_mem_kinds hwf hjmpa
    have hmapM := mapM_operand?_words hscript hσ hp hcall (fun _ ho => ho) htable
    have hlen : (p.instruction.operands.map (operandWord script cs (decoded f) p)).length =
        p.instruction.opcode.operandKinds.length := by
      rw [← hwf.1, List.length_map, List.length_map]
    rw [hwf.1] at hmapM
    rw [instructionTokens, flatMap_operandTokens cs htable, TwoPass.Scope.instruction?,
      if_neg hjmpa, if_pos hlen, hmapM]
    rfl

/-! ### Sizes and locals -/

theorem size_tokens {d : Decoded} {p : Placed} (hwf : p.instruction.WellFormed) :
    (TwoPass.Entry.instruction p.instruction.opcode (instructionTokens script cs d p)).size =
      p.instruction.size := by
  rw [TwoPass.Entry.size, Instruction.size_eq_sum]
  by_cases hjmpa : p.instruction.opcode = .jmpa
  · obtain ⟨entries, hentries⟩ := exists_table hwf hjmpa
    rw [if_pos hjmpa, instructionTokens_of_table cs hentries, List.length_map, hentries]
    simp only [List.map_cons, List.map_nil, List.sum_cons, List.sum_nil, Operand.size]
    omega
  · rw [if_neg hjmpa, ← hwf.1, TwoPass.fixedSizes_eq (table_not_mem_kinds hwf hjmpa)]

theorem slots_words (d : Decoded) (p : Placed) (os : List Operand) :
    ((((os.map Operand.kind).zip (os.map (operandWord script cs d p))).filter
        fun (kind, _) => kind = .slot).map Prod.snd) =
      (os.filterMap Operand.slot?).map slotName := by
  induction os with
  | nil => rfl
  | cons o os ih =>
    rw [List.map_cons, List.map_cons, List.zip_cons_cons]
    cases o with
    | slot index =>
      rw [List.filter_cons_of_pos (by rfl), List.map_cons, ih]
      rfl
    | _ =>
      rw [List.filter_cons_of_neg (by simp [Operand.kind]), ih]
      rfl

theorem slots_tokens {d : Decoded} {p : Placed} (hwf : p.instruction.WellFormed) :
    (TwoPass.Entry.instruction p.instruction.opcode (instructionTokens script cs d p)).slots =
      (p.instruction.operands.filterMap Operand.slot?).map slotName := by
  rw [TwoPass.Entry.slots]
  by_cases hjmpa : p.instruction.opcode = .jmpa
  · obtain ⟨entries, hentries⟩ := exists_table hwf hjmpa
    rw [hjmpa, instructionTokens_of_table cs hentries, hentries]
    cases entries <;> rfl
  · rw [instructionTokens, flatMap_operandTokens cs (table_not_mem_kinds hwf hjmpa), ← hwf.1]
    exact slots_words d p _

end NovelScript.Listing
