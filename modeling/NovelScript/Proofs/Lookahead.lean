import NovelScript.Proofs.Decoding
import NovelScript.Speaker

/-!
Looking ahead in code. A signature is the code of one instruction, so code begins with it exactly if
this instruction is decoded next (`startsWith_encode_iff`). What a sweep keeps behind an instruction
therefore tells which instruction it finds next, and whether it finds one (`linked_ofCode`).
-/

namespace NovelScript

/-! ### Signatures -/

/-- Code begins with the code of an instruction exactly if this is the instruction that is decoded.
-/
theorem startsWith_encode_iff {i : Instruction} (hi : i.WellFormed) {code : Bytes} :
    startsWith code i.encode ↔ ∃ rest, Instruction.decode code = .ok (i, rest) := by
  rw [startsWith, List.isPrefixOf_iff_prefix]
  constructor
  · rintro ⟨rest, rfl⟩
    exact ⟨rest, Instruction.decode_encode hi rest⟩
  · rintro ⟨rest, hrest⟩
    exact ⟨rest, (Instruction.decode_eq_ok_iff.1 hrest).2.symm⟩

namespace Sweep

/-- What is found next is what is decoded. -/
theorem head?_found_walk {offset : Nat} {code : Bytes} {j : Instruction} :
    (walk 0 offset code).found.head?.map Placed.instruction = some j ↔
      ∃ rest, Instruction.decode code = .ok (j, rest) := by
  cases code with
  | nil =>
    constructor
    · intro h
      cases h
    · rintro ⟨_, h⟩
      cases h
  | cons b code =>
    rw [walk]
    cases hdecode : Instruction.decode (b :: code) with
    | error cause => simp
    | ok pair => simp [eq_comm, Prod.ext_iff]

/-- The code behind each instruction begins with an instruction exactly if this is the one that
comes next in the list. -/
def Linked : List Placed → Prop
  | [] => True
  | p :: ps =>
    (∀ j : Instruction, j.WellFormed →
      (startsWith p.rest j.encode ↔ ps.head?.map Placed.instruction = some j)) ∧ Linked ps

theorem linked_walk (offset : Nat) (code : Bytes) : Linked (walk 0 offset code).found := by
  induction code using code_induction generalizing offset with
  | nil => exact trivial
  | stuck b code cause hdecode =>
    rw [walk, hdecode]
    exact trivial
  | step i rest hi ih =>
    rw [walk_append hi]
    refine ⟨?_, ih (offset + i.size)⟩
    intro j hj
    rw [startsWith_encode_iff hj, head?_found_walk]

/-- In a sweep, looking ahead in the code and taking the next instruction are the same. -/
theorem linked_ofCode (code : Bytes) : Linked (ofCode code).found := linked_walk 0 code

/-- The code behind the instruction at an index tells which one has the next index. -/
theorem Linked.startsWith_iff {ps : List Placed} (h : Linked ps) {k : Nat} {p : Placed}
    (hp : ps[k]? = some p) {j : Instruction} (hj : j.WellFormed) :
    startsWith p.rest j.encode ↔ ps[k + 1]?.map Placed.instruction = some j := by
  induction ps generalizing k with
  | nil => exact nomatch hp
  | cons q qs ih =>
    obtain ⟨hnext, hlinked⟩ := h
    cases k with
    | zero =>
      obtain rfl := Option.some.inj hp
      rw [List.getElem?_cons_succ, ← List.head?_eq_getElem?]
      exact hnext j hj
    | succ k => exact ih hlinked hp

end Sweep

/-! ### The instructions of a function -/

namespace FunctionEntry

def reading (f : FunctionEntry) : Reading :=
  ({ data := f.code, base := f.pos.toNat } : Cursor).instructions

theorem reading_eq (f : FunctionEntry) : f.reading = (Sweep.ofCode f.code).reading f.pos.toNat :=
  instructions_eq_sweep f.code f.pos.toNat

theorem found_reading (f : FunctionEntry) :
    f.reading.found = (Sweep.ofCode f.code).found.map
      fun p => (Sweep.address f.pos p.offset, p.instruction) := by
  rw [reading_eq]
  rfl

theorem map_snd_found_reading (f : FunctionEntry) :
    f.reading.found.map Prod.snd = (Sweep.ofCode f.code).found.map Placed.instruction := by
  rw [found_reading, List.map_map]
  rfl

end FunctionEntry

end NovelScript
