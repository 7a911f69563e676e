import NovelScript.Proofs.Listing.Blocks
import NovelScript.Proofs.Listing.Operands

/-!
The labels of a listing. A function has a line with a label in front of those of its instructions
that it jumps to, and nowhere else; a jump names the label if there is one and gives a number
otherwise (`LabelsExact`). This holds of every function that does not go beyond the address space
(`disassemble_labels`).
-/

namespace NovelScript

namespace FunctionEntry

def StartsAt (f : FunctionEntry) (address : UInt32) : Prop :=
  address ∈ f.reading.found.map Prod.fst

def JumpsTo (f : FunctionEntry) (address : UInt32) : Prop :=
  ∃ p ∈ f.reading.found, .label address ∈ p.2.operands

theorem startsAt_iff {f : FunctionEntry} {address : UInt32} :
    f.StartsAt address ↔ address ∈ f.starts := by
  rw [StartsAt, found_reading, List.map_map]
  rfl

theorem jumpsTo_iff {f : FunctionEntry} {address : UInt32} :
    f.JumpsTo address ↔ address ∈ Listing.Decoded.targets (Sweep.ofCode f.code).found := by
  rw [JumpsTo, found_reading]
  constructor
  · rintro ⟨q, hq, htarget⟩
    obtain ⟨p, hp, rfl⟩ := List.mem_map.1 hq
    exact Listing.mem_targets hp htarget
  · intro h
    obtain ⟨o, ho, htarget⟩ := List.mem_filterMap.1 h
    obtain ⟨p, hp, ho⟩ := List.mem_flatMap.1 ho
    refine ⟨_, List.mem_map.2 ⟨p, hp, rfl⟩, ?_⟩
    cases o with
    | label target =>
      obtain rfl := Option.some.inj htarget
      exact ho
    | _ => exact nomatch htarget

end FunctionEntry

namespace Listing

/-! ### Lines of labels -/

/-- The line of a label: it does not begin with a tab, and it ends in a colon. -/
def isLabelLine (l : Text) : Bool := l.head? != some '\t' && l.getLast? == some ':'

theorem isLabelLine_labelName (address : UInt32) :
    isLabelLine (labelName address ++ [':']) = true := by
  have hhead : labelName address ++ [':'] = 'l' :: _ := rfl
  rw [isLabelLine, List.getLast?_concat, hhead, List.head?_cons]
  decide

theorem isLabelLine_headerText (name : Text) (params : UInt32) :
    isLabelLine (headerText name params) = false := by
  -- the line ends in a digit
  have hlast (front : Text) :
      (front ++ ',' :: Numeral.decimal params.toNat).getLast? ≠ some ':' := by
    rw [List.getLast?_append_of_ne_nil front (List.cons_ne_nil _ _),
      List.getLast?_cons_of_ne_nil (Numeral.decimal_ne_nil params.toNat)]
    intro h
    exact (isToken_decimal params.toNat).not_mem (by decide) (List.mem_of_getLast? h)
  rw [isLabelLine, Bool.and_eq_false_iff]
  exact .inr (beq_false_of_ne (hlast _))

/-- Of lines that stand for addresses, the labels are the lines of labels. -/
theorem filter_labelled {labels : List UInt32} {rows : List (UInt32 × Text)}
    (h : ∀ row ∈ rows, row.2.head? = some '\t') :
    (labelled labels rows).filter isLabelLine =
      ((rows.map Prod.fst).filter (· ∈ labels)).map fun a => labelName a ++ [':'] := by
  induction rows with
  | nil => rfl
  | cons row rows ih =>
    obtain ⟨hrow, hrows⟩ := List.forall_mem_cons.1 h
    have hline : isLabelLine row.2 = false := by
      rw [isLabelLine, hrow]
      rfl
    rw [labelled_cons, List.filter_append, ih hrows, labelled, List.flatMap_singleton,
      List.filter_append, List.map_cons, List.filter_cons]
    by_cases hlabel : row.1 ∈ labels
    · simp [hlabel, hline, isLabelLine_labelName]
    · simp [hlabel, hline]

/-! ### Jumps -/

theorem operands_of_label {i : Instruction} (hwf : i.WellFormed) {target : UInt32}
    (h : .label target ∈ i.operands) : i.operands = [.label target] := by
  have hkinds (op : Opcode) (hop : .label ∈ op.operandKinds) : op.operandKinds = [.label] := by
    cases op <;> first | rfl | simp [Opcode.operandKinds] at hop
  have hmem : OperandKind.label ∈ i.opcode.operandKinds := by
    rw [← hwf.1]
    exact List.mem_map.2 ⟨_, h, rfl⟩
  obtain ⟨o, ho, -⟩ := List.map_eq_singleton_iff.1 (hwf.1.trans (hkinds _ hmem))
  rw [ho] at h ⊢
  rw [List.mem_singleton.1 h]

/-! ### Main result -/

/-- The labels of a function: they stand for the addresses of instructions that the function jumps
to, and for no others; their lines are in ascending order; and a jump is written with the name of a
label that has a line in the same block or, exactly if no instruction begins at its target, with the
number. -/
structure LabelsExact (f : FunctionEntry) (labels : List UInt32) (rows : List (UInt32 × Text))
    (block : List Text) : Prop where
  ascending : labels.Pairwise (· < ·)
  mem_iff : ∀ address, address ∈ labels ↔ f.JumpsTo address ∧ f.StartsAt address
  lines : block.filter isLabelLine = labels.map fun address => labelName address ++ [':']
  jumps : ∀ (k : Nat) (address : UInt32) (i : Instruction) (target : UInt32),
    f.reading.found[k]? = some (address, i) → .label target ∈ i.operands →
      ∃ t, rows[k]? = some (address, '\t' :: i.opcode.mnemonic.toList ++ '\t' :: t) ∧
        (f.StartsAt target ∧ t = labelName target ∧ labelName target ++ [':'] ∈ block ∨
          ¬ f.StartsAt target ∧ t = hexLiteral 8 target.toNat)

variable {script : Script} {cs : Charset} {f : FunctionEntry}

def sortedLabels (f : FunctionEntry) : List UInt32 := f.starts.filter (· ∈ (decoded f).labels)

theorem mem_sortedLabels {address : UInt32} :
    address ∈ sortedLabels f ↔ address ∈ (decoded f).labels := by
  rw [sortedLabels, List.mem_filter, decide_eq_true_eq]
  exact ⟨And.right, fun h => ⟨(mem_labels_iff.1 h).2, h⟩⟩

theorem filter_blockOf :
    (blockOf script cs f).filter isLabelLine =
      (sortedLabels f).map fun address => labelName address ++ [':'] := by
  have hrows : ∀ row ∈ rowsOf script cs f, row.2.head? = some '\t' := by
    intro row hrow
    obtain ⟨p, -, rfl⟩ := List.mem_map.1 hrow
    rfl
  have hstarts : (rowsOf script cs f).map Prod.fst = f.starts := by
    rw [rowsOf, List.map_map]
    rfl
  have hempty : isLabelLine [] = false := rfl
  have hend : isLabelLine "endfunction".toList = false := by decide
  rw [blockOf, List.cons_append, List.cons_append, List.filter_cons, hempty, List.filter_cons,
    isLabelLine_headerText, List.filter_append, filter_labelled hrows, hstarts, List.filter_cons,
    hend]
  simp [sortedLabels]

theorem labelsExact_blockOf (hsweeps : (Sweep.ofCode f.code).failure? = none)
    (hstop : f.pos.toNat + f.code.length ≤ 2 ^ 32) :
    LabelsExact f (sortedLabels f) (rowsOf script cs f) (blockOf script cs f) where
  ascending := (FunctionEntry.pairwise_starts hsweeps hstop).filter _
  mem_iff address := by
    rw [mem_sortedLabels, mem_labels_iff, FunctionEntry.jumpsTo_iff, FunctionEntry.startsAt_iff]
  lines := filter_blockOf
  jumps := by
    intro k address i target hread htarget
    obtain ⟨p, hp, rfl, hrow⟩ := exists_row script cs hread
    have hmem := List.mem_of_getElem? hp
    have hoperands := operands_of_label (wellFormed_of_mem_found hsweeps hmem) htarget
    refine ⟨operandWord script cs (decoded f) p (.label target), ?_, ?_⟩
    · rw [hrow, hoperands, List.map_singleton, instructionLine_singleton hoperands rfl]
    · have hword : operandWord script cs (decoded f) p (.label target) =
          if (decoded f).labels.contains target then labelName target
          else hexLiteral 8 target.toNat := rfl
      have hlabel : target ∈ (decoded f).labels ↔ f.StartsAt target := by
        rw [mem_labels_iff, FunctionEntry.startsAt_iff]
        exact and_iff_right (mem_targets hmem htarget)
      rw [hword]
      by_cases hstarts : f.StartsAt target
      · have hline : labelName target ++ [':'] ∈ (blockOf script cs f).filter isLabelLine := by
          rw [filter_blockOf]
          exact List.mem_map.2 ⟨target, mem_sortedLabels.2 (hlabel.2 hstarts), rfl⟩
        refine .inl ⟨hstarts, ?_, (List.mem_filter.1 hline).1⟩
        exact if_pos (List.contains_iff_mem.2 (hlabel.2 hstarts))
      · exact .inr ⟨hstarts, if_neg fun h => hstarts (hlabel.1 (List.contains_iff_mem.1 h))⟩

end Listing

/-- In the listing of a script whose functions do not go beyond the address space, the labels of
every function are exact, and no two addresses have the same label. -/
theorem disassemble_labels {s : Script} {cs : Charset} {cast : Cast} {text : Text}
    (h : disassemble s cs cast = .ok text)
    (hstop : ∀ f ∈ s.functions, f.pos.toNat + f.code.length ≤ 2 ^ 32) :
    Listing.EveryBlock s cs cast text Listing.LabelsExact ∧
      Function.Injective Listing.labelName := by
  refine ⟨Listing.everyBlock_of_disassemble h ?_, fun _ _ => Listing.syntheticName_inj.1⟩
  intro f hf
  have hsweeps := (Listing.printable_of_disassemble h).sweeps f hf
  exact ⟨Listing.sortedLabels f, fun _ => Listing.mem_sortedLabels,
    Listing.labelsExact_blockOf hsweeps (hstop f hf)⟩

/-- A script with a function that jumps on both sides of the address up to which labels have four
digits, and into an instruction, and another one that stands at the end of the address space. -/
def leapingScript : Script where
  strings := [⟨0, [0x66]⟩, ⟨2, [0x67]⟩]
  functions := [
    { name := 0, pos := 0xfff6
      code := [0x21, 0, 0, 1, 0, 0x22, 0xf6, 0xff, 0, 0, 0x23, 0xfc, 0xff, 0, 0, 0x2c] },
    { name := 2, pos := 0xfffffffb, code := [0x21, 0xfb, 0xff, 0xff, 0xff] }]

def leapingListing : Text :=
  Text.unlines <| Listing.preamble .utf8 ++
    ["script \"\"", "", "strings", "\tf = \"f\"", "\tg = \"g\"", "endstrings", "", "function f,0",
      "label_fff6:", "\tjmp\tlabel_00010000", "\tjz\tlabel_fff6", "label_00010000:",
      "\tjnz\t0x0000fffc", "\tend", "endfunction", "", "function g,0", "label_fffffffb:",
      "\tjmp\tlabel_fffffffb", "endfunction"].map String.toList

/-- A function may stand at the very end of the address space. -/
theorem disassemble_labels_leaping :
    disassemble leapingScript .utf8 Cast.standard = .ok leapingListing ∧
      (∀ f ∈ leapingScript.functions, f.pos.toNat + f.code.length ≤ 2 ^ 32) ∧
      Listing.EveryBlock leapingScript .utf8 Cast.standard leapingListing Listing.LabelsExact ∧
      Function.Injective Listing.labelName := by
  have h : disassemble leapingScript .utf8 Cast.standard = .ok leapingListing := by
    decide +kernel
  have hstop : ∀ f ∈ leapingScript.functions, f.pos.toNat + f.code.length ≤ 2 ^ 32 := by decide
  exact ⟨h, hstop, disassemble_labels h hstop⟩

end NovelScript
