import NovelScript.Proofs.Container.Packed
import NovelScript.Proofs.Following

/-!
Well-formed scripts: the state in which the assembler leaves every script. The instructions of a
function are those that reading its code from front to back gives (`Read.ToEnd`); a well-formed
script can be saved and loaded again (`Script.WellFormed.saved`).
-/

namespace NovelScript

/-! ### Instructions read to the end -/

/-- Reading instruction after instruction gives these, and after them everything has been read. -/
inductive Read.ToEnd : Cursor → List Instruction → Prop
  | done {c : Cursor} (h : c.atEnd) : ToEnd c []
  | step {c c' : Cursor} {i : Instruction} {is : List Instruction}
      (h : Read.instruction.runFrom c = (.ok i, c')) (rest : ToEnd c' is) : ToEnd c (i :: is)

theorem Reads.instruction {i : Instruction} (h : i.WellFormed) :
    Reads Read.instruction i.encode i := by
  intro c more hpos hc
  have hlen := c.length_rest
  rw [hc, List.length_append] at hlen
  have hnext : c.data.length - more.length = c.pos + i.encode.length := by omega
  rw [Read.runFrom_instruction, hc, Instruction.decode_encode h]
  simp only [hnext]

theorem Read.toEnd_of_rest {is : List Instruction} (h : ∀ i ∈ is, i.WellFormed) {c : Cursor}
    (hpos : c.pos ≤ c.data.length) (hc : c.rest = is.flatMap Instruction.encode) :
    Read.ToEnd c is := by
  have hlen := c.length_rest
  induction is generalizing c with
  | nil =>
    apply Read.ToEnd.done
    rw [hc, List.flatMap_nil, List.length_nil] at hlen
    rw [Cursor.atEnd, decide_eq_true_eq]
    omega
  | cons i is ih =>
    rw [List.flatMap_cons] at hc
    rw [hc, List.length_append] at hlen
    refine .step (Reads.instruction (h i List.mem_cons_self) c _ hpos hc) ?_
    refine ih (fun j hj => h j (List.mem_cons_of_mem i hj)) ?_ (Cursor.rest_advance hc)
      (Cursor.length_rest _)
    show c.pos + i.encode.length ≤ c.data.length
    omega

/-! ### What stands in the code of a function -/

def Operand.slot? : Operand → Option UInt8
  | slot index => some index
  | _ => none

def Operand.callee? : Operand → Option UInt32
  | function index => some index
  | _ => none

namespace FunctionEntry

def instructions (f : FunctionEntry) : List Instruction :=
  (Sweep.ofCode f.code).found.map Placed.instruction

def operands (f : FunctionEntry) : List Operand := f.instructions.flatMap (·.operands)

/-- The locals that a function uses, in the order of their uses. -/
def slots (f : FunctionEntry) : List UInt8 := f.operands.filterMap Operand.slot?

def calls (f : FunctionEntry) : List UInt32 := f.operands.filterMap Operand.callee?

theorem instructions_eq {f : FunctionEntry} {is : List Instruction} (h : ∀ i ∈ is, i.WellFormed)
    (hcode : f.code = is.flatMap Instruction.encode) : f.instructions = is := by
  rw [instructions, hcode, Sweep.ofCode_flatMap h, Sweep.map_instruction_placedFrom]

/-- A function that a script with `count` functions can have: its code can be read to its end, it
calls existing functions only, and its locals are first used in the order of their slots. -/
structure WellFormed (count : Nat) (f : FunctionEntry) : Prop where
  code_ne : f.code ≠ []
  sweeps : (Sweep.ofCode f.code).failure? = none
  reads : Read.ToEnd { data := f.code, base := f.pos.toNat } f.instructions
  calls_lt : ∀ index ∈ f.calls, index.toNat < count
  slots_eq : f.slots.eraseDups.map (·.toNat) = List.range f.locals.toNat
  locals_le : f.locals.toNat ≤ 256

end FunctionEntry

namespace Script

structure WellFormed (s : Script) : Prop where
  name_length : s.name.length ≤ 31
  name_zero : 0 ∉ s.name
  strings_ne : s.strings ≠ []
  strings_packed : StringsPacked 0 s.strings
  strings_zero : ∀ e ∈ s.strings, 0 ∉ e.bytes
  functions_ne : s.functions ≠ []
  functions_packed : FunctionsPacked 0 s.functions
  functions_wellFormed : ∀ f ∈ s.functions, f.WellFormed s.functions.length
  names_mem : ∀ f ∈ s.functions, f.name ∈ s.strings.map (·.pos)
  names_nodup : (s.functions.map (·.name)).Nodup

/-- A well-formed script can be saved, and loading gives it back if the size of the container is a
word, as the header has to hold it. -/
theorem WellFormed.saved {s : Script} (h : s.WellFormed) :
    ∃ d, s.save = .ok d ∧ (d.length < 2 ^ 32 → load d = .ok s) := by
  obtain ⟨d, hd⟩ := exists_save_of_packed h.name_length h.name_zero h.strings_packed
    h.strings_zero h.functions_packed
  exact ⟨d, hd, fun hsize => Container.load_of_save hd hsize h.names_mem⟩

end Script

end NovelScript
