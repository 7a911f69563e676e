import NovelScript.Proofs.FirstUses
import NovelScript.Proofs.Listing.Operands

/-!
The layout of a listing. Its lines take up the sizes of their instructions, so every label stands
for the address of its instruction after the function has moved (`lookup_label`), and the locals of
a function are listed in the order of their first uses (`locals_routineOf`).
-/

namespace NovelScript.Listing

open Assembly

variable {script : Script} {cs : Charset} {f : FunctionEntry}

/-! ### Sizes -/

theorem codeSize_entriesOf {d : Decoded} {p : Placed} (hwf : p.instruction.WellFormed) :
    TwoPass.codeSize (entriesOf script cs d p) = p.instruction.size := by
  have hsize : TwoPass.codeSize [.instruction p.instruction.opcode
      (instructionTokens script cs d p)] = p.instruction.size := by
    rw [TwoPass.codeSize, List.map_singleton, List.sum_singleton, size_tokens hwf]
  rw [entriesOf, TwoPass.codeSize_append, hsize]
  split <;> exact Nat.zero_add _

theorem codeSize_body {d : Decoded} {ps : List Placed}
    (hwf : ∀ p ∈ ps, p.instruction.WellFormed) :
    TwoPass.codeSize (ps.flatMap (entriesOf script cs d)) =
      (ps.map fun p => p.instruction.size).sum := by
  induction ps with
  | nil => rfl
  | cons p ps ih =>
    rw [List.flatMap_cons, TwoPass.codeSize_append, codeSize_entriesOf (hwf p List.mem_cons_self),
      ih fun q hq => hwf q (List.mem_cons_of_mem p hq), List.map_cons, List.sum_cons]

theorem codeSize_routineOf {count : Nat} (h : f.Listable count) :
    TwoPass.codeSize (routineOf script cs f).body = f.code.length := by
  obtain ⟨is, his, hcode, -, hfound⟩ := h.exists_instructions
  have hinstructions : (Sweep.placedFrom 0 is).map (fun p => p.instruction.size) =
      is.map Instruction.size := by
    rw [← Sweep.map_instruction_placedFrom 0 is, List.map_map, Sweep.map_instruction_placedFrom]
    rfl
  rw [routineOf, decoded, codeSize_body fun p hp => wellFormed_of_mem_found h.sweeps hp, hfound,
    hinstructions, hcode, Instruction.length_flatMap_encode]

/-! ### Labels -/

/-- The labels of a body that begins at `start` stand at the new addresses of their instructions. -/
theorem labels_body (d : Decoded) (start off : Nat) {is : List Instruction}
    (his : ∀ i ∈ is, i.WellFormed) :
    TwoPass.labels (start + off) ((Sweep.placedFrom off is).flatMap (entriesOf script cs d)) =
      ((Sweep.placedFrom off is).filter
          fun p => d.labels.contains (Decoded.address d.function p)).map
        fun p => (labelName (Decoded.address d.function p), UInt32.ofNat (start + p.offset)) := by
  induction is generalizing off with
  | nil => rfl
  | cons i is ih =>
    have hrest := ih (off + i.size) fun j hj => his j (List.mem_cons_of_mem i hj)
    have hwf : (⟨off, i, is.flatMap Instruction.encode⟩ : Placed).instruction.WellFormed :=
      his i List.mem_cons_self
    rw [Sweep.placedFrom, List.flatMap_cons, TwoPass.labels_append, codeSize_entriesOf hwf,
      Nat.add_assoc, hrest, List.filter_cons, entriesOf]
    split
    · rfl
    · rfl

theorem labels_routineOf {count : Nat} (h : f.Listable count) (start : Nat) :
    TwoPass.labels start (routineOf script cs f).body =
      ((Sweep.ofCode f.code).found.filter
          fun p => (decoded f).labels.contains (Decoded.address f p)).map
        fun p => (labelName (Decoded.address f p), UInt32.ofNat (start + p.offset)) := by
  obtain ⟨is, his, -, -, hfound⟩ := h.exists_instructions
  rw [hfound]
  show TwoPass.labels (start + 0) ((Sweep.ofCode f.code).found.flatMap _) = _
  rw [hfound]
  exact labels_body (decoded f) start 0 his

theorem nodup_labels {count : Nat} (h : f.Listable count) (start : Nat) :
    ((TwoPass.labels start (routineOf script cs f).body).map Prod.fst).Nodup := by
  have hinjective : Function.Injective labelName := fun _ _ => syntheticName_inj.1
  have hnames := h.nodup_starts.map hinjective
  rw [FunctionEntry.starts, List.map_map] at hnames
  rw [labels_routineOf h, List.map_map]
  exact hnames.sublist (List.filter_sublist.map _)

/-- Every label stands for the address that its instruction has when the function begins at
`start`. -/
theorem lookup_label {count : Nat} (h : f.Listable count) (start : Nat) {target : UInt32}
    (htarget : target ∈ (decoded f).labels) :
    (TwoPass.labels start (routineOf script cs f).body).lookup (labelName target) =
      some (f.movedTarget start target) := by
  have hstarts := (mem_labels_iff.1 htarget).2
  obtain ⟨p, hp, haddress⟩ := List.mem_map.1 hstarts
  apply Association.lookup_of_mem (nodup_labels h start)
  -- `p` is the instruction that the label stands in front of
  have hmoved : f.movedTarget start target = UInt32.ofNat (start + p.offset) := by
    have htoNat : target.toNat = f.pos.toNat + p.offset := by
      rw [← haddress, h.address_toNat hp]
    rw [FunctionEntry.movedTarget, if_pos hstarts, htoNat, Nat.add_sub_cancel_left]
  have hmem : p ∈ (Sweep.ofCode f.code).found.filter
      fun p => (decoded f).labels.contains (Decoded.address f p) := by
    rw [List.mem_filter, List.contains_iff_mem]
    refine ⟨hp, ?_⟩
    show Sweep.address f.pos p.offset ∈ _
    rw [haddress]
    exact htarget
  rw [labels_routineOf h, hmoved, ← haddress]
  exact List.mem_map.2 ⟨p, hmem, rfl⟩

/-! ### Locals -/

theorem slots_entriesOf {d : Decoded} {p : Placed} (hwf : p.instruction.WellFormed) :
    (entriesOf script cs d p).flatMap TwoPass.Entry.slots =
      (p.instruction.operands.filterMap Operand.slot?).map slotName := by
  rw [entriesOf, List.flatMap_append, List.flatMap_singleton, slots_tokens hwf]
  split <;> rfl

theorem slots_body {d : Decoded} {ps : List Placed} (hwf : ∀ p ∈ ps, p.instruction.WellFormed) :
    (ps.flatMap (entriesOf script cs d)).flatMap TwoPass.Entry.slots =
      (((ps.map Placed.instruction).flatMap (·.operands)).filterMap Operand.slot?).map
        slotName := by
  induction ps with
  | nil => rfl
  | cons p ps ih =>
    rw [List.flatMap_cons, List.flatMap_append, slots_entriesOf (hwf p List.mem_cons_self),
      ih fun q hq => hwf q (List.mem_cons_of_mem p hq), List.map_cons, List.flatMap_cons,
      List.filterMap_append, List.map_append]

theorem locals_routineOf {count : Nat} (h : f.Listable count) :
    TwoPass.locals (routineOf script cs f).body = f.slots.eraseDups.map slotName := by
  have hslots : (routineOf script cs f).body.flatMap TwoPass.Entry.slots = f.slots.map slotName :=
    slots_body fun p hp => wellFormed_of_mem_found h.sweeps hp
  rw [TwoPass.locals, hslots]
  exact FirstUses.eraseDups_map fun _ _ _ _ => slotName_inj.1

end NovelScript.Listing
