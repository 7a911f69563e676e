import NovelScript.Proofs.WellFormed

/-!
Reading code to its end or to the first place where it cannot be read. Reading instruction after
instruction (`Cursor.instructions`) takes the code of well-formed instructions off the front and
stops where none follows: at a byte that is no opcode, or inside of an instruction at the read that
comes up short (`Unreadable`). Nothing is lost and nothing added (`instructions_exact`), and the
sweep that listings are made with finds the same (`instructions_eq_sweep`).
-/

namespace NovelScript

/-! ### Bytes that are no instruction -/

/-- Bytes that end inside of an operand of a kind: the read that comes up short begins `offset`
bytes into them and needs `need` bytes. -/
inductive CutOff : OperandKind → Bytes → (offset need : Nat) → Prop
  | fixed {kind : OperandKind} {size : Nat} {part : Bytes} (hsize : kind.fixedSize? = some size)
      (hshort : part.length < size) : CutOff kind part 0 size
  | count : CutOff .table [] 0 1
  | entry {count : UInt8} {entries : List UInt32} {part : Bytes}
      (hmissing : entries.length < count.toNat) (hshort : part.length < 4) :
      CutOff .table (count :: entries.flatMap wordBytes ++ part) (1 + 4 * entries.length) 4

/-- Bytes, the first of which has the position `start`, that do not begin with an instruction, and
the fault that this is: the first byte is no opcode, or behind some operands of the instruction
(`front` has these only) the next one is cut off. -/
inductive Unreadable (start : Nat) : Bytes → Fault → Prop
  | unknown {b : UInt8} {rest : Bytes} (hb : 0x2d ≤ b.toNat) :
      Unreadable start (b :: rest) (.decode start (.unknownOpcode b))
  | short {front : Instruction} {kind : OperandKind} {kinds : List OperandKind} {part : Bytes}
      {offset need : Nat}
      (hkinds : front.opcode.operandKinds = front.operands.map Operand.kind ++ kind :: kinds)
      (htables : ∀ entries, Operand.table entries ∈ front.operands → entries.length ≤ 255)
      (hcut : CutOff kind part offset need) :
      Unreadable start (front.encode ++ part)
        (.decode (start + front.encode.length + offset) (.truncated need (part.length - offset)))

theorem CutOff.offset_le {kind : OperandKind} {part : Bytes} {offset need : Nat}
    (h : CutOff kind part offset need) : offset ≤ part.length := by
  cases h with
  | fixed => exact Nat.zero_le _
  | count => exact Nat.zero_le _
  | @entry count entries part =>
    have hwords : (entries.flatMap wordBytes).length = 4 * entries.length := by
      simp [List.length_flatMap, Nat.mul_comm]
    rw [List.cons_append, List.length_cons, List.length_append, hwords]
    omega

theorem Unreadable.position_le {start position : Nat} {bytes : Bytes} {cause : DecodeCause}
    (h : Unreadable start bytes (.decode position cause)) : position ≤ start + bytes.length := by
  cases h with
  | unknown => exact Nat.le_add_right _ _
  | short _ _ hcut =>
    have hle := hcut.offset_le
    rw [List.length_append]
    omega

theorem Opcode.ofByte?_eq_none_iff {b : UInt8} : ofByte? b = none ↔ 0x2d ≤ b.toNat :=
  List.getElem?_eq_none_iff

namespace Instruction

variable {bytes : Bytes} {cause : DecodeCause}

theorem takeByte_eq_error (h : takeByte bytes = .error cause) :
    bytes = [] ∧ cause = .truncated 1 0 := by
  cases bytes with
  | nil => exact ⟨rfl, (Except.error.inj h).symm⟩
  | cons b bytes => exact nomatch h

theorem takeWord_eq_error (h : takeWord bytes = .error cause) :
    bytes.length < 4 ∧ cause = .truncated 4 bytes.length := by
  match bytes, h with
  | [], h | [_], h | [_, _], h | [_, _, _], h =>
    exact ⟨by simp, (Except.error.inj h).symm⟩

theorem takeWords_eq_error {count : Nat} (h : takeWords count bytes = .error cause) :
    ∃ (entries : List UInt32) (part : Bytes), bytes = entries.flatMap wordBytes ++ part ∧
      entries.length < count ∧ part.length < 4 ∧ cause = .truncated 4 part.length := by
  induction count generalizing bytes with
  | zero => exact nomatch h
  | succ count ih =>
    rcases Outcome.bind_eq_error_iff.1 h with hw | ⟨⟨w, rest⟩, hw, h⟩
    · obtain ⟨hshort, rfl⟩ := takeWord_eq_error hw
      exact ⟨[], bytes, rfl, Nat.succ_pos count, hshort, rfl⟩
    · rcases Outcome.bind_eq_error_iff.1 h with hws | ⟨_, -, h⟩
      · obtain ⟨entries, part, rfl, hmissing, hshort, rfl⟩ := ih hws
        refine ⟨w :: entries, part, ?_, Nat.succ_lt_succ hmissing, hshort, rfl⟩
        rw [append_of_takeWord hw, List.flatMap_cons, List.append_assoc]
      · exact nomatch h

theorem takeOperand_eq_error {kind : OperandKind} (h : takeOperand kind bytes = .error cause) :
    ∃ offset need, CutOff kind bytes offset need ∧
      cause = .truncated need (bytes.length - offset) := by
  cases kind with
  | table =>
    rcases Outcome.bind_eq_error_iff.1 h with hcount | ⟨⟨count, rest⟩, hcount, htail⟩
    · obtain ⟨rfl, rfl⟩ := takeByte_eq_error hcount
      exact ⟨0, 1, .count, rfl⟩
    · obtain rfl := takeByte_eq_ok_iff.1 hcount
      rcases Outcome.bind_eq_error_iff.1 htail with hentries | ⟨⟨_, _⟩, -, hdone⟩
      · obtain ⟨entries, part, rfl, hmissing, hshort, rfl⟩ := takeWords_eq_error hentries
        refine ⟨_, _, .entry hmissing hshort, ?_⟩
        have hwords : (entries.flatMap wordBytes).length = 4 * entries.length := by
          simp [List.length_flatMap, Nat.mul_comm]
        rw [List.length_cons, List.length_append, hwords]
        congr 1
        omega
      · exact nomatch hdone
  | slot | byte =>
    obtain ⟨rfl, rfl⟩ := takeByte_eq_error (Outcome.map_eq_error_iff.1 h)
    exact ⟨0, 1, .fixed rfl Nat.one_pos, rfl⟩
  | _ =>
    obtain ⟨hshort, rfl⟩ := takeWord_eq_error (Outcome.map_eq_error_iff.1 h)
    exact ⟨0, 4, .fixed rfl hshort, rfl⟩

theorem takeOperands_eq_error {kinds : List OperandKind}
    (h : takeOperands kinds bytes = .error cause) :
    ∃ (os : List Operand) (kind : OperandKind) (more : List OperandKind) (part : Bytes)
      (offset need : Nat), kinds = os.map Operand.kind ++ kind :: more ∧
        (∀ entries, Operand.table entries ∈ os → entries.length ≤ 255) ∧
        bytes = os.flatMap Operand.encode ++ part ∧ CutOff kind part offset need ∧
        cause = .truncated need (part.length - offset) := by
  induction kinds generalizing bytes with
  | nil => exact nomatch h
  | cons kind kinds ih =>
    rcases Outcome.bind_eq_error_iff.1 h with ho | ⟨⟨o, rest⟩, ho, h⟩
    · obtain ⟨offset, need, hcut, rfl⟩ := takeOperand_eq_error ho
      exact ⟨[], kind, kinds, bytes, offset, need, rfl, nofun, rfl, hcut, rfl⟩
    · obtain ⟨hbytes, hkind, htable⟩ := append_of_takeOperand ho
      rcases Outcome.bind_eq_error_iff.1 h with hos | ⟨_, -, h⟩
      · obtain ⟨os, next, more, part, offset, need, rfl, htables, rfl, hcut, rfl⟩ := ih hos
        refine ⟨o :: os, next, more, part, offset, need, by rw [List.map_cons, hkind]; rfl, ?_, ?_,
          hcut, rfl⟩
        · intro entries hentries
          rcases List.mem_cons.1 hentries with heq | hentries
          · exact htable entries heq.symm
          · exact htables entries hentries
        · rw [hbytes, List.flatMap_cons, List.append_assoc]
      · exact nomatch h

/-- Where decoding fails on bytes, they do not begin with an instruction. -/
theorem unreadable_of_decode (hne : bytes ≠ []) (h : decode bytes = .error cause) (start : Nat) :
    Unreadable start bytes (.decode (start + failureOffset bytes.length cause) cause) := by
  obtain ⟨b, bytes, rfl⟩ := List.exists_cons_of_ne_nil hne
  cases hop : Opcode.ofByte? b with
  | none =>
    obtain rfl : DecodeCause.unknownOpcode b = cause := by
      simpa [decode, takeByte, hop] using h
    exact .unknown (Opcode.ofByte?_eq_none_iff.1 hop)
  | some opcode =>
    have hos : takeOperands opcode.operandKinds bytes = .error cause := by
      simp only [decode, takeByte, Outcome.ok_bind, hop] at h
      rcases Outcome.bind_eq_error_iff.1 h with hos | ⟨_, -, h⟩
      · exact hos
      · cases h
    obtain ⟨os, kind, more, part, offset, need, hkinds, htables, rfl, hcut, rfl⟩ :=
      takeOperands_eq_error hos
    have hfront : b :: (os.flatMap Operand.encode ++ part) =
        (⟨opcode, os⟩ : Instruction).encode ++ part := by
      rw [encode, Opcode.byte_of_ofByte? hop, List.cons_append]
    have hshort : Unreadable start ((⟨opcode, os⟩ : Instruction).encode ++ part)
        (.decode (start + (⟨opcode, os⟩ : Instruction).encode.length + offset)
          (.truncated need (part.length - offset))) := .short hkinds htables hcut
    have hle := hcut.offset_le
    have hoffset : failureOffset ((⟨opcode, os⟩ : Instruction).encode ++ part).length
        (.truncated need (part.length - offset)) =
          (⟨opcode, os⟩ : Instruction).encode.length + offset := by
      rw [failureOffset, List.length_append]
      omega
    rw [hfront, hoffset, ← Nat.add_assoc]
    exact hshort

end Instruction

/-! ### Reading on -/

structure Reading where
  found : List (UInt32 × Instruction)
  failure? : Option Fault
  deriving DecidableEq

theorem Read.instruction_of_ok {c : Cursor} {i : Instruction} {rest : Bytes}
    (h : Instruction.decode c.rest = .ok (i, rest)) :
    Read.instruction.runFrom c = (.ok i, { c with pos := c.data.length - rest.length }) := by
  rw [Read.runFrom_instruction, h]

theorem Read.fst_instruction_of_error {c : Cursor} {cause : DecodeCause}
    (h : Instruction.decode c.rest = .error cause) :
    (Read.instruction.runFrom c).1 =
      .error (.decode (c.absolute + Instruction.failureOffset c.rest.length cause) cause) := by
  rw [Read.runFrom_instruction, h]

theorem Read.remaining_of_instruction {c c' : Cursor} {i : Instruction}
    (h : Read.instruction.runFrom c = (.ok i, c')) : c'.remaining < c.remaining := by
  cases hdecode : Instruction.decode c.rest with
  | error cause =>
    have hfail := fst_instruction_of_error hdecode
    rw [h] at hfail
    exact nomatch hfail
  | ok pair =>
    obtain ⟨j, rest⟩ := pair
    rw [instruction_of_ok hdecode] at h
    obtain ⟨-, rfl⟩ := Prod.mk.inj h
    have hlen := congrArg List.length (Instruction.decode_eq_ok_iff.1 hdecode).2
    have hpos := List.length_pos_iff.2 j.encode_ne_nil
    rw [List.length_append, Cursor.length_rest] at hlen
    show c.data.length - (c.data.length - rest.length) < c.data.length - c.pos
    omega

def Cursor.instructions (c : Cursor) : Reading :=
  if c.atEnd then ⟨[], none⟩
  else
    match _hread : Read.instruction.runFrom c with
    | (.error fault, _) => ⟨[], some fault⟩
    | (.ok i, c') =>
      let more := c'.instructions
      ⟨(UInt32.ofNat c.absolute, i) :: more.found, more.failure?⟩
  termination_by c.remaining
  decreasing_by exact Read.remaining_of_instruction _hread

/-- Instructions with their addresses, one behind the other, the first one `start` bytes from the
address zero. -/
def addressed (start : Nat) : List Instruction → List (UInt32 × Instruction)
  | [] => []
  | i :: is => (UInt32.ofNat start, i) :: addressed (start + i.encode.length) is

namespace Cursor

variable {c : Cursor}

theorem rest_eq_nil_iff : c.rest = [] ↔ c.atEnd := by
  rw [rest, List.drop_eq_nil_iff, atEnd, decide_eq_true_eq]

theorem instructions_atEnd (h : c.atEnd) : c.instructions = ⟨[], none⟩ := by
  rw [instructions, if_pos h]

/-- An instruction in front of other bytes is read, and then what follows it. -/
theorem instructions_append {i : Instruction} {more : Bytes} (hi : i.WellFormed)
    (hpos : c.pos ≤ c.data.length) (hc : c.rest = i.encode ++ more) :
    c.instructions =
      ⟨(UInt32.ofNat c.absolute, i) ::
          ({ c with pos := c.pos + i.encode.length } : Cursor).instructions.found,
        ({ c with pos := c.pos + i.encode.length } : Cursor).instructions.failure?⟩ := by
  have hread := Reads.instruction hi c more hpos hc
  have hend : ¬ c.atEnd := by
    rw [← rest_eq_nil_iff, hc]
    exact List.append_ne_nil_of_left_ne_nil i.encode_ne_nil more
  rw [instructions, if_neg hend]
  split
  · rename_i fault c' hfail
    rw [hread] at hfail
    exact nomatch hfail
  · rename_i j c' hok
    rw [hread] at hok
    obtain ⟨hj, rfl⟩ := Prod.mk.inj hok
    obtain rfl := Except.ok.inj hj
    rfl

theorem instructions_of_error {cause : DecodeCause} (hend : ¬ c.atEnd)
    (h : Instruction.decode c.rest = .error cause) :
    c.instructions =
      ⟨[], some (.decode (c.absolute + Instruction.failureOffset c.rest.length cause) cause)⟩ := by
  have hread := Read.fst_instruction_of_error h
  rw [instructions, if_neg hend]
  split
  · rename_i fault c' hfail
    rw [hfail] at hread
    rw [Except.error.inj hread]
  · rename_i j c' hok
    rw [hok] at hread
    exact nomatch hread

/-- The code of well-formed instructions is read to its end. -/
theorem instructions_of_rest {is : List Instruction} (h : ∀ i ∈ is, i.WellFormed)
    (hpos : c.pos ≤ c.data.length) (hc : c.rest = is.flatMap Instruction.encode) :
    c.instructions = ⟨addressed c.absolute is, none⟩ := by
  induction is generalizing c with
  | nil => exact instructions_atEnd (rest_eq_nil_iff.1 hc)
  | cons i is ih =>
    have hlen := c.length_rest
    rw [hc, List.flatMap_cons, List.length_append] at hlen
    rw [instructions_append (h i List.mem_cons_self) hpos hc,
      ih (fun j hj => h j (List.mem_cons_of_mem i hj)) (by simp only; omega) (rest_advance hc)]
    rw [addressed, absolute, absolute, Nat.add_assoc]

/-- What is read is there, and reading stops where no instruction follows. -/
theorem exists_instructions (hpos : c.pos ≤ c.data.length) :
    ∃ (is : List Instruction) (rest : Bytes), (∀ i ∈ is, i.WellFormed) ∧
      c.rest = is.flatMap Instruction.encode ++ rest ∧
      c.instructions.found = addressed c.absolute is ∧
      (rest = [] ∧ c.instructions.failure? = none ∨
        ∃ fault, Unreadable (c.absolute + (is.flatMap Instruction.encode).length) rest fault ∧
          c.instructions.failure? = some fault) := by
  generalize hn : c.remaining = n
  -- on what is left to read, which every instruction makes less
  induction n using Nat.strongRecOn generalizing c with
  | ind n ih =>
    by_cases hend : c.atEnd
    · rw [instructions_atEnd hend]
      exact ⟨[], [], nofun, rest_eq_nil_iff.2 hend, rfl, .inl ⟨rfl, rfl⟩⟩
    cases hdecode : Instruction.decode c.rest with
    | error cause =>
      rw [instructions_of_error hend hdecode]
      refine ⟨[], c.rest, nofun, rfl, rfl, .inr ⟨_, ?_, rfl⟩⟩
      exact Instruction.unreadable_of_decode (mt rest_eq_nil_iff.1 hend) hdecode c.absolute
    | ok pair =>
      obtain ⟨i, more⟩ := pair
      obtain ⟨hi, hc⟩ := Instruction.decode_eq_ok_iff.1 hdecode
      have hlen := c.length_rest
      have hsize := List.length_pos_iff.2 i.encode_ne_nil
      rw [hc, List.length_append] at hlen
      rw [remaining] at hn
      obtain ⟨is, rest, his, hrest, hfound, hfailure⟩ :=
        ih _ (by rw [remaining]; simp only; omega)
          (c := { c with pos := c.pos + i.encode.length }) (by simp only; omega) rfl
      rw [rest_advance hc] at hrest
      rw [instructions_append hi hpos hc]
      refine ⟨i :: is, rest, List.forall_mem_cons.2 ⟨hi, his⟩, ?_, ?_, ?_⟩
      · rw [hc, hrest, List.flatMap_cons, List.append_assoc]
      · rw [hfound, addressed, absolute, absolute, Nat.add_assoc]
      · rw [List.flatMap_cons, List.length_append, ← Nat.add_assoc]
        rw [absolute, ← Nat.add_assoc] at hfailure
        exact hfailure

end Cursor

/-! ### Reading and sweeping -/

/-- What a sweep of code whose first byte has the position `base` found. -/
def Sweep.reading (base : Nat) (s : Sweep) : Reading where
  found := s.found.map fun p => (UInt32.ofNat (base + p.offset), p.instruction)
  failure? := s.failure?.map fun u => .decode (base + u.offset) u.cause

theorem Cursor.instructions_eq_walk {c : Cursor} (hpos : c.pos ≤ c.data.length) {base offset : Nat}
    (habsolute : c.absolute = base + offset) :
    c.instructions = (Sweep.walk 0 offset c.rest).reading base := by
  generalize hn : c.remaining = n
  induction n using Nat.strongRecOn generalizing c offset with
  | ind n ih =>
    by_cases hend : c.atEnd
    · rw [instructions_atEnd hend, rest_eq_nil_iff.2 hend]
      rfl
    cases hdecode : Instruction.decode c.rest with
    | error cause =>
      obtain ⟨b, code, hc⟩ := List.exists_cons_of_ne_nil (mt rest_eq_nil_iff.1 hend)
      rw [instructions_of_error hend hdecode, habsolute, hc, Sweep.walk, ← hc, hdecode, hc,
        Nat.add_assoc]
      rfl
    | ok pair =>
      obtain ⟨i, more⟩ := pair
      obtain ⟨hi, hc⟩ := Instruction.decode_eq_ok_iff.1 hdecode
      have hlen := c.length_rest
      have hsize := List.length_pos_iff.2 i.encode_ne_nil
      rw [hc, List.length_append] at hlen
      rw [remaining] at hn
      rw [absolute] at habsolute
      have hadvance : ({ c with pos := c.pos + i.encode.length } : Cursor).absolute =
          base + (offset + i.size) := by
        rw [absolute, i.length_encode]
        simp only
        omega
      have hnext := ih _ (by rw [remaining]; simp only; omega) (by simp only; omega) hadvance rfl
      rw [rest_advance hc] at hnext
      rw [instructions_append hi hpos hc, hc, Sweep.walk_append hi, hnext, absolute, habsolute]
      rfl

/-- The sweep finds what reading instruction after instruction gives. -/
theorem instructions_eq_sweep (code : Bytes) (base : Nat) :
    ({ data := code, base } : Cursor).instructions = (Sweep.ofCode code).reading base :=
  Cursor.instructions_eq_walk (Nat.zero_le _) rfl

/-! ### Main result -/

/-- Reading code is exact: the instructions that are read, written down again, are the code up to
where reading stops, and each has the address at which it begins. Reading stops at the end of the
code, or earlier where no instruction can be read. The code of well-formed instructions is read as
these. -/
theorem instructions_exact (base : Nat) :
    (∀ code : Bytes, ∃ (is : List Instruction) (rest : Bytes), (∀ i ∈ is, i.WellFormed) ∧
      code = is.flatMap Instruction.encode ++ rest ∧
      ({ data := code, base } : Cursor).instructions.found = addressed base is ∧
      (rest = [] ∧ ({ data := code, base } : Cursor).instructions.failure? = none ∨
        ∃ fault, Unreadable (base + (is.flatMap Instruction.encode).length) rest fault ∧
          ({ data := code, base } : Cursor).instructions.failure? = some fault)) ∧
    ∀ is : List Instruction, (∀ i ∈ is, i.WellFormed) →
      ({ data := is.flatMap Instruction.encode, base } : Cursor).instructions =
        ⟨addressed base is, none⟩ :=
  ⟨fun code => Cursor.exists_instructions (c := { data := code, base }) (Nat.zero_le _),
    fun _ h => Cursor.instructions_of_rest h (Nat.zero_le _) rfl⟩

def someInstructions : List Instruction :=
  [⟨.pushc, [.constant 5]⟩, ⟨.jmpa, [.table [0x10, 0x20]]⟩, ⟨.calln, [.native 0, .byte 1]⟩,
    ⟨.ret, []⟩]

/-- Addresses begin again at zero where they do not fit into a word. -/
theorem instructions_exact_wrapping :
    (∀ i ∈ someInstructions, i.WellFormed) ∧
      ({ data := someInstructions.flatMap Instruction.encode, base := 0xfffffffe } :
          Cursor).instructions =
        ⟨[(0xfffffffe, ⟨.pushc, [.constant 5]⟩), (3, ⟨.jmpa, [.table [0x10, 0x20]]⟩),
            (13, ⟨.calln, [.native 0, .byte 1]⟩), (19, ⟨.ret, []⟩)], none⟩ := by
  have hwf : ∀ i ∈ someInstructions, i.WellFormed := by
    simp [someInstructions, Instruction.WellFormed, Operand.kind, Opcode.operandKinds]
  exact ⟨hwf, (instructions_exact 0xfffffffe).2 someInstructions hwf⟩

/-- A jump table of two entries is cut off inside of the second. -/
example :
    ({ data := [0x26, 0x24, 2, 0x10, 0, 0, 0, 0x20, 0], base := 0x100 } : Cursor).instructions =
      ⟨[(0x100, ⟨.ret, []⟩)], some (.decode 0x107 (.truncated 4 2))⟩ := by
  rw [instructions_eq_sweep]
  decide

end NovelScript
