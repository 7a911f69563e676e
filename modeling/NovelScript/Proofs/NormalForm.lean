import NovelScript.Proofs.FirstUses
import NovelScript.Proofs.WellFormed

/-!
The normal form of a script: what is left of it when it has gone through its listing. Functions are
packed in the order of their table, jumps to instructions of the same function move along with them,
and locals are numbered in the order of their first uses; all else stays. A normal form is
well-formed (`Script.Listable.wellFormed_normalForm`), and a well-formed script is its own normal
form (`Script.WellFormed.normalForm_eq`), so a second time through a listing changes nothing more.
-/

namespace NovelScript

namespace FunctionEntry

def starts (f : FunctionEntry) : List UInt32 :=
  (Sweep.ofCode f.code).found.map fun p => Sweep.address f.pos p.offset

/-- Where a jump goes when its function begins at `start`: the address of an instruction moves along
with the function, and any other address stays. -/
def movedTarget (f : FunctionEntry) (start : Nat) (target : UInt32) : UInt32 :=
  if target ∈ f.starts then UInt32.ofNat (start + (target.toNat - f.pos.toNat)) else target

/-- The number of a local among the locals in the order of their first uses. -/
def slotRank (f : FunctionEntry) (index : UInt8) : UInt8 :=
  UInt8.ofNat (f.slots.eraseDups.idxOf index)

def normalOperand (f : FunctionEntry) (start : Nat) : Operand → Operand
  | .slot index => .slot (f.slotRank index)
  | .label target => .label (f.movedTarget start target)
  | o => o

def normalInstruction (f : FunctionEntry) (start : Nat) (i : Instruction) : Instruction where
  opcode := i.opcode
  operands := i.operands.map (f.normalOperand start)

def normalAt (f : FunctionEntry) (start : Nat) : FunctionEntry where
  name := f.name
  pos := UInt32.ofNat start
  params := f.params
  locals := UInt32.ofNat f.slots.eraseDups.length
  code := (f.instructions.map (f.normalInstruction start)).flatMap Instruction.encode

/-! ### Addresses -/

/-- Addresses in a function that does not go beyond the address space do not begin again at zero. -/
theorem toNat_address {f : FunctionEntry} (hsweeps : (Sweep.ofCode f.code).failure? = none)
    (hstop : f.pos.toNat + f.code.length ≤ 2 ^ 32) {p : Placed}
    (hp : p ∈ (Sweep.ofCode f.code).found) :
    (Sweep.address f.pos p.offset).toNat = f.pos.toNat + p.offset := by
  obtain ⟨is, -, hcode, hfound⟩ := Sweep.failure?_eq_none_iff.1 hsweeps
  have hlen := congrArg List.length hcode
  rw [Instruction.length_flatMap_encode] at hlen
  rw [hfound] at hp
  have hbounds := Sweep.offset_bounds hp
  -- an instruction takes up at least one byte, so none begins where the function stops
  rw [Instruction.size_eq_sum] at hbounds
  rw [Sweep.address, UInt32.toNat_ofNat']
  exact Nat.mod_eq_of_lt (by omega)

theorem pairwise_starts {f : FunctionEntry} (hsweeps : (Sweep.ofCode f.code).failure? = none)
    (hstop : f.pos.toNat + f.code.length ≤ 2 ^ 32) : f.starts.Pairwise (· < ·) := by
  obtain ⟨is, -, -, hfound⟩ := Sweep.failure?_eq_none_iff.1 hsweeps
  have hpairs := Sweep.pairwise_offset 0 is
  rw [← hfound] at hpairs
  refine List.pairwise_map.2 (hpairs.imp_of_mem ?_)
  intro p q hp hq hlt
  rw [UInt32.lt_iff_toNat_lt, toNat_address hsweeps hstop hp, toNat_address hsweeps hstop hq]
  omega

/-! ### Functions that can be listed -/

/-- A function that can be listed in a script with `count` functions: its code can be read to its
end and fits in the address space, and it calls existing functions only. -/
structure Listable (count : Nat) (f : FunctionEntry) : Prop where
  code_ne : f.code ≠ []
  sweeps : (Sweep.ofCode f.code).failure? = none
  calls_lt : ∀ index ∈ f.calls, index.toNat < count
  stop_lt : f.pos.toNat + f.code.length < 2 ^ 32

namespace Listable

variable {count : Nat} {f : FunctionEntry}

theorem exists_instructions (h : f.Listable count) :
    ∃ is : List Instruction, (∀ i ∈ is, i.WellFormed) ∧
      f.code = is.flatMap Instruction.encode ∧ f.instructions = is ∧
      (Sweep.ofCode f.code).found = Sweep.placedFrom 0 is := by
  obtain ⟨is, his, hcode, hfound⟩ := Sweep.failure?_eq_none_iff.1 h.sweeps
  exact ⟨is, his, hcode, instructions_eq his hcode, hfound⟩

theorem address_toNat (h : f.Listable count) {p : Placed} (hp : p ∈ (Sweep.ofCode f.code).found) :
    (Sweep.address f.pos p.offset).toNat = f.pos.toNat + p.offset :=
  toNat_address h.sweeps (Nat.le_of_lt h.stop_lt) hp

theorem nodup_starts (h : f.Listable count) : f.starts.Nodup :=
  (pairwise_starts h.sweeps (Nat.le_of_lt h.stop_lt)).imp UInt32.ne_of_lt

end Listable

/-! ### The code of a normal form -/

@[simp] theorem kind_normalOperand (f : FunctionEntry) (start : Nat) (o : Operand) :
    (f.normalOperand start o).kind = o.kind := by
  cases o <;> rfl

theorem table_of_normalOperand {f : FunctionEntry} {start : Nat} {o : Operand}
    {entries : List UInt32} (h : f.normalOperand start o = .table entries) :
    o = .table entries := by
  cases o with
  | table entries' => exact h
  | _ => exact nomatch h

theorem wellFormed_normalInstruction {f : FunctionEntry} {start : Nat} {i : Instruction}
    (h : i.WellFormed) : (f.normalInstruction start i).WellFormed := by
  constructor
  · rw [normalInstruction, List.map_map]
    exact (List.map_congr_left fun o _ => f.kind_normalOperand start o).trans h.1
  · intro entries hentries
    obtain ⟨o, ho, htable⟩ := List.mem_map.1 hentries
    exact h.2 entries (table_of_normalOperand htable ▸ ho)

@[simp] theorem size_normalInstruction (f : FunctionEntry) (start : Nat) (i : Instruction) :
    (f.normalInstruction start i).size = i.size := by
  have hsize (o : Operand) : (f.normalOperand start o).size = o.size := by
    cases o <;> rfl
  rw [Instruction.size_eq_sum, normalInstruction, List.map_map]
  exact congrArg (fun sizes => 1 + List.sum sizes) (List.map_congr_left fun o _ => hsize o)

/-- The normal form of a function has the normal forms of its instructions. -/
theorem instructions_normalAt {count : Nat} {f : FunctionEntry} (h : f.Listable count)
    (start : Nat) :
    (f.normalAt start).instructions = f.instructions.map (f.normalInstruction start) := by
  obtain ⟨is, his, -, hinstructions, -⟩ := h.exists_instructions
  refine instructions_eq ?_ rfl
  intro i hi
  obtain ⟨j, hj, rfl⟩ := List.mem_map.1 hi
  rw [hinstructions] at hj
  exact wellFormed_normalInstruction (his j hj)

theorem length_code_normalAt {count : Nat} {f : FunctionEntry} (h : f.Listable count)
    (start : Nat) : (f.normalAt start).code.length = f.code.length := by
  obtain ⟨is, -, hcode, hinstructions, -⟩ := h.exists_instructions
  have hsizes : (is.map (f.normalInstruction start)).map Instruction.size =
      is.map Instruction.size := by
    rw [List.map_map]
    exact List.map_congr_left fun i _ => f.size_normalInstruction start i
  rw [normalAt, Instruction.length_flatMap_encode, hinstructions, hsizes, hcode,
    Instruction.length_flatMap_encode]

theorem operands_normalAt {count : Nat} {f : FunctionEntry} (h : f.Listable count) (start : Nat) :
    (f.normalAt start).operands = f.operands.map (f.normalOperand start) := by
  rw [operands, instructions_normalAt h, operands, List.flatMap_map, List.map_flatMap]
  rfl

theorem slots_normalAt {count : Nat} {f : FunctionEntry} (h : f.Listable count) (start : Nat) :
    (f.normalAt start).slots = f.slots.map f.slotRank := by
  rw [slots, operands_normalAt h, slots, List.filterMap_map, List.map_filterMap]
  apply List.filterMap_congr
  intro o _
  cases o <;> rfl

/-- A normal form calls the functions that were called. -/
theorem calls_normalAt {count : Nat} {f : FunctionEntry} (h : f.Listable count) (start : Nat) :
    (f.normalAt start).calls = f.calls := by
  rw [calls, operands_normalAt h, calls, List.filterMap_map]
  apply List.filterMap_congr
  intro o _
  cases o <;> rfl

theorem length_slots_le (f : FunctionEntry) : f.slots.eraseDups.length ≤ 256 := by
  have hnodup : (f.slots.eraseDups.map (·.toNat)).Nodup := by
    rw [List.nodup_map_iff_inj_on (FirstUses.nodup_eraseDups f.slots)]
    exact fun a _ b _ => UInt8.toNat_inj.1
  have hsubset : f.slots.eraseDups.map (·.toNat) ⊆ List.range 256 := by
    intro n hn
    obtain ⟨index, -, rfl⟩ := List.mem_map.1 hn
    exact List.mem_range.2 index.toNat_lt
  have hlen := hnodup.length_le_of_subset hsubset
  rw [List.length_map, List.length_range] at hlen
  exact hlen

theorem toNat_locals_normalAt (f : FunctionEntry) (start : Nat) :
    (f.normalAt start).locals.toNat = f.slots.eraseDups.length := by
  have hle := f.length_slots_le
  show (UInt32.ofNat f.slots.eraseDups.length).toNat = _
  rw [UInt32.toNat_ofNat']
  exact Nat.mod_eq_of_lt (by omega)

/-- The normal form of a function that can be listed is well-formed, wherever it begins. -/
theorem Listable.wellFormed_normalAt {count : Nat} {f : FunctionEntry} (h : f.Listable count)
    (start : Nat) : (f.normalAt start).WellFormed count := by
  obtain ⟨is, his, -, hinstructions, -⟩ := h.exists_instructions
  have hnormal : ∀ i ∈ f.instructions.map (f.normalInstruction start), i.WellFormed := by
    rw [hinstructions]
    exact List.forall_mem_map.2 fun i hi => wellFormed_normalInstruction (his i hi)
  exact {
    code_ne := by
      rw [← List.length_pos_iff, length_code_normalAt h, List.length_pos_iff]
      exact h.code_ne
    sweeps := by
      rw [normalAt, Sweep.ofCode_flatMap hnormal]
    reads := by
      rw [instructions_normalAt h]
      exact Read.toEnd_of_rest hnormal (Nat.zero_le _) rfl
    calls_lt := by
      rw [calls_normalAt h]
      exact h.calls_lt
    slots_eq := by
      rw [toNat_locals_normalAt, slots_normalAt h]
      exact FirstUses.eraseDups_map_byte f.length_slots_le
    locals_le := by
      rw [toNat_locals_normalAt]
      exact f.length_slots_le }

/-! ### Functions that are in normal form -/

theorem WellFormed.listable {count : Nat} {f : FunctionEntry} (h : f.WellFormed count)
    (hstop : f.pos.toNat + f.code.length < 2 ^ 32) : f.Listable count where
  code_ne := h.code_ne
  sweeps := h.sweeps
  calls_lt := h.calls_lt
  stop_lt := hstop

/-- Jumps of a function that stays in its place stay the same. -/
theorem movedTarget_pos {count : Nat} {f : FunctionEntry} (h : f.Listable count)
    (target : UInt32) : f.movedTarget f.pos.toNat target = target := by
  rw [movedTarget]
  split
  · rename_i hstart
    obtain ⟨p, hp, rfl⟩ := List.mem_map.1 hstart
    rw [h.address_toNat hp, Nat.add_sub_cancel_left]
    rfl
  · rfl

theorem slotRank_eq {count : Nat} {f : FunctionEntry} (h : f.WellFormed count) {index : UInt8}
    (hindex : index ∈ f.slots) : f.slotRank index = index := by
  have hmem : index.toNat ∈ List.range f.locals.toNat := by
    rw [← h.slots_eq]
    exact List.mem_map.2 ⟨index, List.mem_eraseDups.2 hindex, rfl⟩
  -- the first uses are 0, 1, 2, ..., so each number is its own rank
  have hrank : (List.range f.locals.toNat).idxOf index.toNat = index.toNat := by
    have hlt : index.toNat < (List.range f.locals.toNat).length := by
      rw [List.length_range]
      exact List.mem_range.1 hmem
    have hget := List.nodup_range.idxOf_getElem index.toNat hlt
    rw [List.getElem_range] at hget
    exact hget
  rw [← h.slots_eq, FirstUses.idxOf_map fun _ _ => UInt8.toNat_inj] at hrank
  rw [slotRank, hrank, UInt8.ofNat_toNat]

theorem normalOperand_eq {count : Nat} {f : FunctionEntry} (h : f.WellFormed count)
    (hlistable : f.Listable count) {o : Operand} (ho : o ∈ f.operands) :
    f.normalOperand f.pos.toNat o = o := by
  cases o with
  | slot index =>
    have hindex : index ∈ f.slots := List.mem_filterMap.2 ⟨_, ho, rfl⟩
    exact congrArg Operand.slot (slotRank_eq h hindex)
  | label target => exact congrArg Operand.label (movedTarget_pos hlistable target)
  | _ => rfl

/-- A well-formed function is its own normal form. -/
theorem normalAt_pos {count : Nat} {f : FunctionEntry} (h : f.WellFormed count)
    (hlistable : f.Listable count) : f.normalAt f.pos.toNat = f := by
  obtain ⟨is, his, hcode, hinstructions, -⟩ := hlistable.exists_instructions
  have hnormal : f.instructions.map (f.normalInstruction f.pos.toNat) = f.instructions := by
    have hid : f.instructions.map (f.normalInstruction f.pos.toNat) = f.instructions.map id := by
      apply List.map_congr_left
      intro i hi
      have hoperands : i.operands.map (f.normalOperand f.pos.toNat) = i.operands.map id :=
        List.map_congr_left fun o ho =>
          normalOperand_eq h hlistable (List.mem_flatMap.2 ⟨i, hi, ho⟩)
      rw [normalInstruction, hoperands, List.map_id]
      rfl
    rw [hid, List.map_id]
  have hlocals : f.slots.eraseDups.length = f.locals.toNat := by
    have hlen := congrArg List.length h.slots_eq
    rw [List.length_map, List.length_range] at hlen
    exact hlen
  rw [normalAt, hnormal, hinstructions, ← hcode, hlocals, UInt32.ofNat_toNat, UInt32.ofNat_toNat]

end FunctionEntry

namespace Script

/-- Functions in their normal forms, one behind the other. -/
def packFrom (start : Nat) : List FunctionEntry → List FunctionEntry
  | [] => []
  | f :: fs => f.normalAt start :: packFrom (start + f.code.length) fs

def normalForm (s : Script) : Script where
  name := s.name
  strings := s.strings
  functions := packFrom 0 s.functions

structure Printable (s : Script) : Prop where
  sweeps : ∀ f ∈ s.functions, (Sweep.ofCode f.code).failure? = none
  names_mem : ∀ f ∈ s.functions, f.name ∈ s.strings.map (·.pos)
  calls_lt : ∀ f ∈ s.functions, ∀ index ∈ f.calls, index.toNat < s.functions.length

/-- A script that can be listed so that the listing can be assembled again. Its functions may stand
anywhere. -/
structure Listable (s : Script) : Prop where
  name_length : s.name.length ≤ 31
  name_zero : 0 ∉ s.name
  strings_ne : s.strings ≠ []
  strings_packed : StringsPacked 0 s.strings
  strings_zero : ∀ e ∈ s.strings, 0 ∉ e.bytes
  strings_size : s.stringsLength < 2 ^ 32
  functions_ne : s.functions ≠ []
  functions_listable : ∀ f ∈ s.functions, f.Listable s.functions.length
  names_mem : ∀ f ∈ s.functions, f.name ∈ s.strings.map (·.pos)
  names_nodup : (s.functions.map (·.name)).Nodup
  code_size : s.codeLength < 2 ^ 32

theorem Listable.printable {s : Script} (h : s.Listable) : s.Printable where
  sweeps f hf := (h.functions_listable f hf).sweeps
  names_mem := h.names_mem
  calls_lt f hf := (h.functions_listable f hf).calls_lt

-- The calls are searched as a list: words are finitely many, but too many to be tried one by one.
instance (count : Nat) (f : FunctionEntry) : Decidable (f.Listable count) :=
  decidable_of_iff
    (_ ∧ _ ∧ (f.calls.all fun index => decide (index.toNat < count)) = true ∧ _)
    ⟨fun ⟨h₁, h₂, h₃, h₄⟩ => ⟨h₁, h₂, by simpa using h₃, h₄⟩,
      fun ⟨h₁, h₂, h₃, h₄⟩ => ⟨h₁, h₂, by simpa using h₃, h₄⟩⟩

instance (s : Script) : Decidable s.Listable :=
  decidable_of_iff (_ ∧ _ ∧ _ ∧ _ ∧ _ ∧ _ ∧ _ ∧ _ ∧ _ ∧ _ ∧ _)
    ⟨fun ⟨h₁, h₂, h₃, h₄, h₅, h₆, h₇, h₈, h₉, h₁₀, h₁₁⟩ =>
        ⟨h₁, h₂, h₃, h₄, h₅, h₆, h₇, h₈, h₉, h₁₀, h₁₁⟩,
      fun ⟨h₁, h₂, h₃, h₄, h₅, h₆, h₇, h₈, h₉, h₁₀, h₁₁⟩ =>
        ⟨h₁, h₂, h₃, h₄, h₅, h₆, h₇, h₈, h₉, h₁₀, h₁₁⟩⟩

/-- The functions of a normal form have no gaps between them. -/
theorem packed_packFrom {count : Nat} {start : Nat} {fs : List FunctionEntry}
    (hfs : ∀ f ∈ fs, f.Listable count)
    (hsize : start + (fs.map fun f => f.code.length).sum < 2 ^ 32) :
    FunctionsPacked start (packFrom start fs) := by
  induction fs generalizing start with
  | nil => exact trivial
  | cons f fs ih =>
    rw [List.map_cons, List.sum_cons] at hsize
    refine ⟨?_, ?_⟩
    · show (UInt32.ofNat start).toNat = start
      rw [UInt32.toNat_ofNat']
      exact Nat.mod_eq_of_lt (by omega)
    · rw [FunctionEntry.length_code_normalAt (hfs f List.mem_cons_self)]
      exact ih (fun g hg => hfs g (List.mem_cons_of_mem f hg)) (by omega)

/-- Packing changes nothing that the normal forms of the functions leave as it is. -/
theorem map_packFrom {α : Type} {g : FunctionEntry → α} {fs : List FunctionEntry}
    (hg : ∀ f ∈ fs, ∀ start, g (f.normalAt start) = g f) (start : Nat) :
    (packFrom start fs).map g = fs.map g := by
  induction fs generalizing start with
  | nil => rfl
  | cons f fs ih =>
    rw [List.forall_mem_cons] at hg
    rw [packFrom, List.map_cons, List.map_cons, hg.1, ih hg.2]

theorem exists_of_mem_packFrom {start : Nat} {fs : List FunctionEntry} {g : FunctionEntry}
    (hg : g ∈ packFrom start fs) : ∃ f ∈ fs, ∃ start', g = f.normalAt start' := by
  induction fs generalizing start with
  | nil => exact nomatch hg
  | cons f fs ih =>
    rcases List.mem_cons.1 hg with rfl | hg
    · exact ⟨f, List.mem_cons_self, start, rfl⟩
    · obtain ⟨f', hf', hnormal⟩ := ih hg
      exact ⟨f', List.mem_cons_of_mem f hf', hnormal⟩

theorem packFrom_eq {cursor : Nat} {fs : List FunctionEntry} (h : FunctionsPacked cursor fs)
    (hfs : ∀ f ∈ fs, f.normalAt f.pos.toNat = f) : packFrom cursor fs = fs := by
  induction fs generalizing cursor with
  | nil => rfl
  | cons f fs ih =>
    obtain ⟨hpos, hrest⟩ := h
    have hf := hfs f List.mem_cons_self
    rw [hpos] at hf
    rw [packFrom, hf, ih hrest fun g hg => hfs g (List.mem_cons_of_mem f hg)]

namespace WellFormed

variable {s : Script}

theorem stop_lt (h : s.WellFormed) (hcode : s.codeLength < 2 ^ 32) {f : FunctionEntry}
    (hf : f ∈ s.functions) : f.pos.toNat + f.code.length < 2 ^ 32 := by
  have hle := stop_le_of_packed h.functions_packed hf
  rw [Nat.zero_add] at hle
  exact Nat.lt_of_le_of_lt hle hcode

/-- A well-formed script can be listed if the sizes of its sections are words. -/
theorem listable (h : s.WellFormed) (hstrings : s.stringsLength < 2 ^ 32)
    (hcode : s.codeLength < 2 ^ 32) : s.Listable where
  name_length := h.name_length
  name_zero := h.name_zero
  strings_ne := h.strings_ne
  strings_packed := h.strings_packed
  strings_zero := h.strings_zero
  strings_size := hstrings
  functions_ne := h.functions_ne
  functions_listable f hf := (h.functions_wellFormed f hf).listable (h.stop_lt hcode hf)
  names_mem := h.names_mem
  names_nodup := h.names_nodup
  code_size := hcode

/-- A well-formed script is its own normal form. -/
theorem normalForm_eq (h : s.WellFormed) (hcode : s.codeLength < 2 ^ 32) : s.normalForm = s := by
  have hfunctions : packFrom 0 s.functions = s.functions := by
    apply packFrom_eq h.functions_packed
    intro f hf
    have hf' := h.functions_wellFormed f hf
    exact FunctionEntry.normalAt_pos hf' (hf'.listable (h.stop_lt hcode hf))
  rw [normalForm, hfunctions]

end WellFormed

namespace Listable

variable {s : Script}

theorem codeLength_normalForm (h : s.Listable) : s.normalForm.codeLength = s.codeLength :=
  congrArg List.sum (map_packFrom
    (fun _ hf => FunctionEntry.length_code_normalAt (h.functions_listable _ hf)) 0)

/-- The normal form of a script that can be listed is well-formed. -/
theorem wellFormed_normalForm (h : s.Listable) : s.normalForm.WellFormed := by
  have hnames : s.normalForm.functions.map (·.name) = s.functions.map (·.name) :=
    map_packFrom (fun _ _ _ => rfl) 0
  have hcount : s.normalForm.functions.length = s.functions.length := by
    have hlen := congrArg List.length hnames
    rw [List.length_map, List.length_map] at hlen
    exact hlen
  exact {
    name_length := h.name_length
    name_zero := h.name_zero
    strings_ne := h.strings_ne
    strings_packed := h.strings_packed
    strings_zero := h.strings_zero
    functions_ne := by
      rw [← List.length_pos_iff, hcount, List.length_pos_iff]
      exact h.functions_ne
    functions_packed := by
      refine packed_packFrom h.functions_listable ?_
      rw [Nat.zero_add]
      exact h.code_size
    functions_wellFormed := by
      intro g hg
      obtain ⟨f, hf, start, rfl⟩ := exists_of_mem_packFrom hg
      rw [hcount]
      exact (h.functions_listable f hf).wellFormed_normalAt start
    names_mem := by
      rw [← List.forall_mem_map, hnames, List.forall_mem_map]
      exact h.names_mem
    names_nodup := by
      rw [hnames]
      exact h.names_nodup }

theorem normalForm_normalForm (h : s.Listable) : s.normalForm.normalForm = s.normalForm :=
  h.wellFormed_normalForm.normalForm_eq (by rw [h.codeLength_normalForm]; exact h.code_size)

end Listable

end Script

end NovelScript
