import NovelScript.Instruction.Sweep
import NovelScript.Proofs.Outcome

/-!
Code as a list of instructions. Decoding takes exactly the bytes of a well-formed instruction off
the front (`decode_eq_ok_iff`). So code that a sweep goes through without failing is the code of one
list of instructions, and the sweep finds these (`failure?_eq_none_iff`).
-/

namespace NovelScript

theorem LittleEndian.encode_decode (bytes : Bytes) :
    encode bytes.length (decode bytes) = bytes := by
  induction bytes with
  | nil => rfl
  | cons b rest ih =>
    have hb := b.toNat_lt
    have hlow : UInt8.ofNat (b.toNat + 256 * decode rest) = b := by
      apply UInt8.toNat_inj.1
      rw [UInt8.toNat_ofNat']
      omega
    have hhigh : (b.toNat + 256 * decode rest) / 256 = decode rest := by omega
    rw [decode, List.length_cons, encode, hlow, hhigh, ih]

theorem wordBytes_wordOfBytes {bytes : Bytes} (h : bytes.length = 4) :
    wordBytes (wordOfBytes bytes) = bytes := by
  have hlt := LittleEndian.decode_lt bytes
  rw [h, Nat.pow_eq] at hlt
  have hword : (wordOfBytes bytes).toNat = LittleEndian.decode bytes := by
    rw [wordOfBytes, UInt32.toNat_ofNat']
    omega
  rw [wordBytes, hword, ← h, LittleEndian.encode_decode]

namespace Instruction

theorem size_eq_sum (i : Instruction) : i.size = 1 + (i.operands.map Operand.size).sum := rfl

/-! ### What decoding takes -/

theorem takeByte_eq_ok_iff {bytes rest : Bytes} {b : UInt8} :
    takeByte bytes = .ok (b, rest) ↔ bytes = b :: rest := by
  cases bytes with
  | nil => exact ⟨nofun, nofun⟩
  | cons c bytes => simp [takeByte]

theorem append_of_takeWord {bytes rest : Bytes} {w : UInt32}
    (h : takeWord bytes = .ok (w, rest)) : bytes = wordBytes w ++ rest := by
  match bytes, h with
  | b₀ :: b₁ :: b₂ :: b₃ :: tail, h =>
    obtain ⟨rfl, rfl⟩ := Prod.mk.inj (Except.ok.inj h)
    rw [wordBytes_wordOfBytes rfl]
    rfl
  | [], h | [_], h | [_, _], h | [_, _, _], h => exact nomatch h

theorem append_of_takeWords {count : Nat} {bytes rest : Bytes} {ws : List UInt32}
    (h : takeWords count bytes = .ok (ws, rest)) :
    bytes = ws.flatMap wordBytes ++ rest ∧ ws.length = count := by
  induction count generalizing bytes ws with
  | zero =>
    obtain ⟨rfl, rfl⟩ := Prod.mk.inj (Except.ok.inj h)
    exact ⟨rfl, rfl⟩
  | succ count ih =>
    obtain ⟨⟨w, tail⟩, hw, h⟩ := Outcome.bind_eq_ok_iff.1 h
    obtain ⟨⟨more, tail'⟩, hmore, h⟩ := Outcome.bind_eq_ok_iff.1 h
    obtain ⟨rfl, rfl⟩ := Prod.mk.inj (Except.ok.inj h)
    obtain ⟨rfl, hlen⟩ := ih hmore
    refine ⟨?_, by rw [List.length_cons, hlen]⟩
    rw [append_of_takeWord hw, List.flatMap_cons, List.append_assoc]

theorem append_of_takeOperand {kind : OperandKind} {bytes rest : Bytes} {o : Operand}
    (h : takeOperand kind bytes = .ok (o, rest)) :
    bytes = o.encode ++ rest ∧ o.kind = kind ∧
      ∀ entries, o = .table entries → entries.length ≤ 255 := by
  cases kind with
  | table =>
    obtain ⟨⟨count, tail⟩, hcount, h⟩ := Outcome.bind_eq_ok_iff.1 h
    obtain ⟨⟨entries, tail'⟩, hentries, h⟩ := Outcome.bind_eq_ok_iff.1 h
    obtain ⟨rfl, rfl⟩ := Prod.mk.inj (Except.ok.inj h)
    obtain ⟨rfl, hlen⟩ := append_of_takeWords hentries
    refine ⟨?_, rfl, ?_⟩
    · rw [takeByte_eq_ok_iff.1 hcount, Operand.encode, hlen, UInt8.ofNat_toNat, List.cons_append]
    · rintro entries' hentries'
      obtain rfl := Operand.table.inj hentries'
      have hlt := count.toNat_lt
      omega
  | slot | byte =>
    obtain ⟨⟨b, tail⟩, hb, h⟩ := Outcome.map_eq_ok_iff.1 h
    obtain ⟨rfl, rfl⟩ := Prod.mk.inj h
    exact ⟨takeByte_eq_ok_iff.1 hb, rfl, by simp⟩
  | _ =>
    obtain ⟨⟨w, tail⟩, hw, h⟩ := Outcome.map_eq_ok_iff.1 h
    obtain ⟨rfl, rfl⟩ := Prod.mk.inj h
    exact ⟨append_of_takeWord hw, rfl, by simp⟩

theorem append_of_takeOperands {kinds : List OperandKind} {bytes rest : Bytes} {os : List Operand}
    (h : takeOperands kinds bytes = .ok (os, rest)) :
    bytes = os.flatMap Operand.encode ++ rest ∧ os.map Operand.kind = kinds ∧
      ∀ entries, Operand.table entries ∈ os → entries.length ≤ 255 := by
  induction kinds generalizing bytes os with
  | nil =>
    obtain ⟨rfl, rfl⟩ := Prod.mk.inj (Except.ok.inj h)
    exact ⟨rfl, rfl, nofun⟩
  | cons kind kinds ih =>
    obtain ⟨⟨o, tail⟩, ho, h⟩ := Outcome.bind_eq_ok_iff.1 h
    obtain ⟨⟨more, tail'⟩, hmore, h⟩ := Outcome.bind_eq_ok_iff.1 h
    obtain ⟨rfl, rfl⟩ := Prod.mk.inj (Except.ok.inj h)
    obtain ⟨hbytes, hkind, htable⟩ := append_of_takeOperand ho
    obtain ⟨rfl, hkinds, htables⟩ := ih hmore
    refine ⟨?_, by rw [List.map_cons, hkind, hkinds], ?_⟩
    · rw [hbytes, List.flatMap_cons, List.append_assoc]
    · intro entries hentries
      rcases List.mem_cons.1 hentries with heq | hentries
      · exact htable entries heq.symm
      · exact htables entries hentries

/-- Decoding takes exactly the bytes of a well-formed instruction. -/
theorem decode_eq_ok_iff {bytes rest : Bytes} {i : Instruction} :
    decode bytes = .ok (i, rest) ↔ i.WellFormed ∧ bytes = i.encode ++ rest := by
  constructor
  · intro h
    obtain ⟨⟨b, tail⟩, hb, h⟩ := Outcome.bind_eq_ok_iff.1 h
    cases hop : Opcode.ofByte? b with
    | none =>
      simp only [hop] at h
      exact nomatch h
    | some opcode =>
      simp only [hop] at h
      obtain ⟨⟨os, tail'⟩, hos, h⟩ := Outcome.bind_eq_ok_iff.1 h
      obtain ⟨rfl, rfl⟩ := Prod.mk.inj (Except.ok.inj h)
      obtain ⟨rfl, hkinds, htables⟩ := append_of_takeOperands hos
      refine ⟨⟨hkinds, htables⟩, ?_⟩
      rw [takeByte_eq_ok_iff.1 hb, encode, Opcode.byte_of_ofByte? hop, List.cons_append]
  · rintro ⟨hi, rfl⟩
    exact decode_encode hi rest

theorem encode_ne_nil (i : Instruction) : i.encode ≠ [] := List.cons_ne_nil _ _

@[simp] theorem length_flatMap_encode (is : List Instruction) :
    (is.flatMap encode).length = (is.map size).sum := by
  rw [List.length_flatMap]
  exact congrArg List.sum (List.map_congr_left fun i _ => i.length_encode)

end Instruction

/-! ### Sweeping code -/

/-- Induction over code, instruction by instruction, up to its end or to a place where none can be
decoded. -/
theorem code_induction {P : Bytes → Prop} (nil : P [])
    (stuck : ∀ (b : UInt8) (code : Bytes) (cause : DecodeCause),
      Instruction.decode (b :: code) = .error cause → P (b :: code))
    (step : ∀ (i : Instruction) (rest : Bytes), i.WellFormed → P rest → P (i.encode ++ rest))
    (code : Bytes) : P code := by
  generalize hn : code.length = n
  -- on the length, as an instruction takes more than the one byte of a cons
  induction n using Nat.strongRecOn generalizing code with
  | ind n ih =>
    cases code with
    | nil => exact nil
    | cons b code =>
      cases hdecode : Instruction.decode (b :: code) with
      | error cause => exact stuck b code cause hdecode
      | ok pair =>
        obtain ⟨i, rest⟩ := pair
        obtain ⟨hi, hcode⟩ := Instruction.decode_eq_ok_iff.1 hdecode
        have hlen := congrArg List.length hcode
        have hpos := List.length_pos_iff.2 i.encode_ne_nil
        rw [List.length_append] at hlen
        rw [hcode]
        exact step i rest hi (ih rest.length (by omega) rest rfl)

namespace Sweep

/-- Instructions where they stand in their code, which begins at `offset`. -/
def placedFrom (offset : Nat) : List Instruction → List Placed
  | [] => []
  | i :: is => ⟨offset, i, is.flatMap Instruction.encode⟩ :: placedFrom (offset + i.size) is

theorem walk_skip (skip offset : Nat) (code : Bytes) :
    walk skip offset code = walk 0 (offset + skip) (code.drop skip) := by
  induction code generalizing skip offset with
  | nil => cases skip <;> simp [walk]
  | cons b code ih =>
    cases skip with
    | zero => rfl
    | succ skip =>
      have hoffset : offset + 1 + skip = offset + (skip + 1) := by omega
      rw [walk, ih, hoffset, List.drop_succ_cons]

/-- A sweep finds the instruction at the front, and then sweeps what follows it. -/
theorem walk_append {i : Instruction} (h : i.WellFormed) (offset : Nat) (rest : Bytes) :
    walk 0 offset (i.encode ++ rest) =
      ⟨⟨offset, i, rest⟩ :: (walk 0 (offset + i.size) rest).found,
        (walk 0 (offset + i.size) rest).failure?⟩ := by
  have hdecode := Instruction.decode_encode h rest
  have hsize := i.length_encode
  cases hcode : i.encode ++ rest with
  | nil => exact absurd (List.append_eq_nil_iff.1 hcode).1 i.encode_ne_nil
  | cons b code =>
    rw [hcode] at hdecode
    -- the sweep is structural: it takes one byte and skips the rest of the instruction
    have hdrop : code.drop (i.size - 1) = rest := by
      have htail : (b :: code).drop i.size = rest := by
        rw [← hcode, ← hsize, List.drop_left]
      have hpos : i.size = i.size - 1 + 1 := by
        rw [Instruction.size_eq_sum]
        omega
      rw [hpos, List.drop_succ_cons] at htail
      exact htail
    have hnext : offset + 1 + (i.size - 1) = offset + i.size := by
      rw [Instruction.size_eq_sum]
      omega
    rw [walk, hdecode]
    simp only
    rw [walk_skip, hdrop, hnext]

theorem walk_flatMap {is : List Instruction} (h : ∀ i ∈ is, i.WellFormed) (offset : Nat) :
    walk 0 offset (is.flatMap Instruction.encode) = ⟨placedFrom offset is, none⟩ := by
  induction is generalizing offset with
  | nil => rfl
  | cons i is ih =>
    rw [List.flatMap_cons, walk_append (h i List.mem_cons_self),
      ih (fun j hj => h j (List.mem_cons_of_mem i hj)), placedFrom]

/-- What a sweep goes through without failing is the code of some instructions. -/
theorem exists_of_walk {offset : Nat} {code : Bytes} (h : (walk 0 offset code).failure? = none) :
    ∃ is : List Instruction,
      (∀ i ∈ is, i.WellFormed) ∧ code = is.flatMap Instruction.encode := by
  induction code using code_induction generalizing offset with
  | nil => exact ⟨[], nofun, rfl⟩
  | stuck b code cause hdecode =>
    rw [walk, hdecode] at h
    cases h
  | step i rest hi ih =>
    rw [walk_append hi] at h
    obtain ⟨is, his, rfl⟩ := ih h
    exact ⟨i :: is, List.forall_mem_cons.2 ⟨hi, his⟩, List.flatMap_cons.symm⟩

/-- A sweep goes through the code of well-formed instructions, finds each of them in its place, and
goes through no other code. -/
theorem failure?_eq_none_iff {code : Bytes} :
    (ofCode code).failure? = none ↔ ∃ is : List Instruction, (∀ i ∈ is, i.WellFormed) ∧
      code = is.flatMap Instruction.encode ∧ (ofCode code).found = placedFrom 0 is := by
  constructor
  · intro h
    obtain ⟨is, his, rfl⟩ := exists_of_walk h
    exact ⟨is, his, rfl, by rw [ofCode, walk_flatMap his]⟩
  · rintro ⟨is, his, rfl, -⟩
    rw [ofCode, walk_flatMap his]

theorem ofCode_flatMap {is : List Instruction} (h : ∀ i ∈ is, i.WellFormed) :
    ofCode (is.flatMap Instruction.encode) = ⟨placedFrom 0 is, none⟩ := walk_flatMap h 0

@[simp] theorem map_instruction_placedFrom (offset : Nat) (is : List Instruction) :
    (placedFrom offset is).map Placed.instruction = is := by
  induction is generalizing offset with
  | nil => rfl
  | cons i is ih => rw [placedFrom, List.map_cons, ih]

theorem offset_bounds {offset : Nat} {is : List Instruction} {p : Placed}
    (hp : p ∈ placedFrom offset is) :
    offset ≤ p.offset ∧
      p.offset + p.instruction.size ≤ offset + (is.map Instruction.size).sum := by
  induction is generalizing offset with
  | nil => exact nomatch hp
  | cons i is ih =>
    rw [List.map_cons, List.sum_cons]
    rcases List.mem_cons.1 hp with rfl | hp
    · refine ⟨Nat.le_refl offset, ?_⟩
      show offset + i.size ≤ _
      omega
    · have := ih hp
      omega

theorem pairwise_offset (offset : Nat) (is : List Instruction) :
    (placedFrom offset is).Pairwise fun p q => p.offset < q.offset := by
  induction is generalizing offset with
  | nil => exact .nil
  | cons i is ih =>
    refine .cons ?_ (ih (offset + i.size))
    intro q hq
    have hle := (offset_bounds hq).1
    have hpos : 0 < i.size := by
      rw [Instruction.size_eq_sum]
      omega
    show offset < q.offset
    omega

end Sweep

end NovelScript
