import NovelScript.Proofs.Container.Reading

/-!
Reading an instruction with a cursor, and decoding it off the front of bytes. A read *follows* a
function on bytes if it takes what the function takes, and fails at the bytes that the function
misses; reads that are put together follow functions that are put together in the same way. So
reading an instruction is decoding it (`Read.runFrom_instruction`).
-/

namespace NovelScript

/-- The read does on a cursor what `take` does on the bytes that are left: it goes past what is
taken, and where bytes are missing it fails at these and stays there. -/
structure Follows {α : Type} (read : Read α) (take : Bytes → Except DecodeCause (α × Bytes)) :
    Prop where
  ok : ∀ {c : Cursor} {a : α} {rest : Bytes}, c.pos ≤ c.data.length → take c.rest = .ok (a, rest) →
    ∃ front, c.rest = front ++ rest ∧
      read.runFrom c = (.ok a, { c with pos := c.pos + front.length })
  error : ∀ {c : Cursor} {cause : DecodeCause}, c.pos ≤ c.data.length →
    take c.rest = .error cause → ∃ passed need,
      passed ≤ c.rest.length ∧ cause = .truncated need (c.rest.length - passed) ∧
      read.runFrom c =
        (.error (.decode (c.absolute + passed) cause), { c with pos := c.pos + passed })

namespace Follows

variable {α β : Type}

theorem pure (a : α) : Follows (Pure.pure a) fun bytes => .ok (a, bytes) where
  ok := by
    rintro c a' rest - h
    obtain ⟨rfl, rfl⟩ := Prod.mk.inj (Except.ok.inj h)
    exact ⟨[], rfl, rfl⟩
  error := nofun

theorem bind {read : Read α} {take : Bytes → Except DecodeCause (α × Bytes)} {next : α → Read β}
    {takeNext : α → Bytes → Except DecodeCause (β × Bytes)} (h : Follows read take)
    (hnext : ∀ a, Follows (next a) (takeNext a)) :
    Follows (read >>= next) fun bytes => take bytes >>= fun (a, rest) => takeNext a rest where
  ok := by
    intro c b rest hpos hb
    obtain ⟨⟨a, more⟩, ha, hb⟩ := Outcome.bind_eq_ok_iff.1 hb
    obtain ⟨front, hfront, hread⟩ := h.ok hpos ha
    have hlen := c.length_rest
    rw [hfront, List.length_append] at hlen
    have hmore := Cursor.rest_advance hfront
    rw [← hmore] at hb
    obtain ⟨back, hback, hreadNext⟩ := (hnext a).ok (by simp only; omega) hb
    rw [hmore] at hback
    refine ⟨front ++ back, by rw [List.append_assoc, ← hback, hfront], ?_⟩
    rw [Read.runFrom_bind_ok hread, hreadNext, List.length_append, ← Nat.add_assoc]
  error := by
    intro c cause hpos hfail
    rcases Outcome.bind_eq_error_iff.1 hfail with ha | ⟨⟨a, more⟩, ha, hfail⟩
    · obtain ⟨passed, need, hpassed, hcause, hread⟩ := h.error hpos ha
      exact ⟨passed, need, hpassed, hcause, by rw [Read.runFrom_bind, hread]⟩
    · -- what the second read misses is missing behind what the first one took
      obtain ⟨front, hfront, hread⟩ := h.ok hpos ha
      have hlen := c.length_rest
      rw [hfront, List.length_append] at hlen
      have hmore := Cursor.rest_advance hfront
      rw [← hmore] at hfail
      obtain ⟨passed, need, hpassed, hcause, hreadNext⟩ :=
        (hnext a).error (by simp only; omega) hfail
      rw [hmore] at hpassed hcause
      have hleft : c.rest.length - (front.length + passed) = more.length - passed := by
        rw [hfront, List.length_append]
        omega
      refine ⟨front.length + passed, need, ?_, by rw [hleft, hcause], ?_⟩
      · rw [hfront, List.length_append]
        omega
      · rw [Read.runFrom_bind_ok hread, hreadNext, Cursor.absolute, Cursor.absolute, Nat.add_assoc,
          Nat.add_assoc, Nat.add_assoc]

theorem map {read : Read α} {take : Bytes → Except DecodeCause (α × Bytes)} (h : Follows read take)
    (f : α → β) : Follows (do return f (← read))
      fun bytes => (take bytes).map fun (a, rest) => (f a, rest) := by
  have hpure (a : α) : Follows (Pure.pure (f a)) fun bytes => .ok (f a, bytes) := pure (f a)
  have hbind := h.bind hpure
  have htake : (fun bytes => take bytes >>= fun (a, rest) => .ok (f a, rest)) =
      fun bytes => (take bytes).map fun (a, rest) => (f a, rest) := by
    ext bytes
    cases take bytes <;> rfl
  rw [htake] at hbind
  exact hbind

theorem block {count : Nat} {f : Bytes → α} {take : Bytes → Except DecodeCause (α × Bytes)}
    (htake : ∀ front rest, front.length = count → take (front ++ rest) = .ok (f front, rest))
    (hshort : ∀ short, short.length < count → take short = .error (.truncated count short.length)) :
    Follows (do return f (← Read.block count)) take where
  ok := by
    intro c a rest hpos h
    by_cases hroom : count ≤ c.rest.length
    · have hfront : (c.rest.take count).length = count := List.length_take_of_le hroom
      have hsplit := htake (c.rest.take count) (c.rest.drop count) hfront
      rw [List.take_append_drop, h] at hsplit
      obtain ⟨rfl, rfl⟩ := Prod.mk.inj (Except.ok.inj hsplit)
      have hread := (Reads.block (c.rest.take count)).map (f := f) c _ hpos
        (List.take_append_drop count c.rest).symm
      rw [hfront] at hread
      exact ⟨c.rest.take count, (List.take_append_drop _ _).symm, by rw [hread, hfront]⟩
    · rw [hshort c.rest (Nat.not_le.1 hroom)] at h
      exact nomatch h
  error := by
    intro c cause hpos h
    by_cases hroom : count ≤ c.rest.length
    · have hsplit := htake (c.rest.take count) (c.rest.drop count) (List.length_take_of_le hroom)
      rw [List.take_append_drop, h] at hsplit
      exact nomatch hsplit
    · rw [hshort c.rest (Nat.not_le.1 hroom)] at h
      obtain rfl := Except.error.inj h
      have hlen := c.length_rest
      have hnone : bytesAt? c.data c.pos count = none := if_neg (by omega)
      have hread : (Read.block count).runFrom c =
          (.error (.decode c.absolute (.truncated count c.remaining)), c) := by
        rw [Read.block, Read.runFrom_bind_ok (Read.runFrom_get c), hnone]
        rfl
      refine ⟨0, count, Nat.zero_le _, rfl, ?_⟩
      rw [Read.runFrom_bind, hread, Cursor.remaining, ← hlen]
      rfl

end Follows

open Instruction

/-! ### Operands -/

theorem follows_u8 : Follows Read.u8 takeByte := by
  refine .block (f := fun bytes => UInt8.ofNat (LittleEndian.decode bytes)) ?_ ?_
  · intro front rest hfront
    obtain ⟨b, rfl⟩ := List.length_eq_one_iff.1 hfront
    have hb : UInt8.ofNat (LittleEndian.decode [b]) = b := UInt8.ofNat_toNat
    rw [List.singleton_append, takeByte, hb]
  · intro short hshort
    obtain rfl := List.length_eq_zero_iff.1 (Nat.lt_one_iff.1 hshort)
    rfl

theorem follows_u32 : Follows Read.u32 takeWord := by
  refine .block ?_ ?_
  · intro front rest hfront
    match front, hfront with
    | [_, _, _, _], _ => rfl
  · intro short hshort
    match short, hshort with
    | [], _ | [_], _ | [_, _], _ | [_, _, _], _ => rfl

theorem follows_words (count : Nat) : Follows (Read.words count) (takeWords count) := by
  induction count with
  | zero => exact .pure []
  | succ count ih => exact follows_u32.bind fun w => ih.bind fun ws => .pure (w :: ws)

theorem follows_operand (kind : OperandKind) : Follows (Read.operand kind) (takeOperand kind) := by
  cases kind with
  | slot | byte => exact follows_u8.map _
  | table =>
    exact follows_u8.bind fun count => (follows_words count.toNat).bind fun entries => .pure _
  | _ => exact follows_u32.map _

theorem follows_operands (kinds : List OperandKind) :
    Follows (Read.operands kinds) (takeOperands kinds) := by
  induction kinds with
  | nil => exact .pure []
  | cons kind kinds ih =>
    exact (follows_operand kind).bind fun o => ih.bind fun os => .pure (o :: os)

/-! ### Instructions -/

namespace Instruction

/-- How many of the bytes of an instruction are passed when it is refused: those in front of the
ones that are missing, or the opcode that does not exist. -/
def passedOffset (size : Nat) : DecodeCause → Nat
  | .unknownOpcode _ => 1
  | cause => failureOffset size cause

theorem failureOffset_le (size : Nat) (cause : DecodeCause) : failureOffset size cause ≤ size := by
  cases cause <;> simp [failureOffset]

theorem passedOffset_le {bytes : Bytes} {cause : DecodeCause} (h : decode bytes = .error cause) :
    passedOffset bytes.length cause ≤ bytes.length := by
  have hle := failureOffset_le bytes.length cause
  cases cause with
  | unknownOpcode b =>
    -- there is a byte that is no opcode
    cases bytes with
    | nil => exact nomatch Except.error.inj h
    | cons => exact Nat.succ_le_of_lt (Nat.succ_pos _)
  | _ => exact hle

theorem decode_cons (b : UInt8) (bytes : Bytes) :
    decode (b :: bytes) =
      match Opcode.ofByte? b with
      | none => .error (.unknownOpcode b)
      | some opcode =>
        (takeOperands opcode.operandKinds bytes).map fun (os, rest) => (⟨opcode, os⟩, rest) := by
  rw [decode, takeByte, Outcome.ok_bind]
  cases hop : Opcode.ofByte? b with
  | none => simp only [hop, Outcome.throw_eq_error]
  | some opcode =>
    simp only [hop]
    cases takeOperands opcode.operandKinds bytes <;> rfl

end Instruction

/-- Reading an instruction is decoding it off the bytes that are left. -/
theorem Read.runFrom_instruction (c : Cursor) :
    Read.instruction.runFrom c =
      match decode c.rest with
      | .ok (i, rest) => (.ok i, { c with pos := c.data.length - rest.length })
      | .error cause => (.error (.decode (c.absolute + failureOffset c.rest.length cause) cause),
          { c with pos := c.pos + passedOffset c.rest.length cause }) := by
  have hlen := c.length_rest
  rw [Read.instruction, Read.runFrom_bind_ok (Read.runFrom_get c)]
  cases hrest : c.rest with
  | nil =>
    rw [hrest, List.length_nil] at hlen
    have hnone : bytesAt? c.data c.pos 1 = none := if_neg (by omega)
    have hread : Read.u8.runFrom c = (.error (.decode c.absolute (.truncated 1 0)), c) := by
      rw [Read.u8, Read.block, Read.runFrom_bind, Read.runFrom_bind_ok (Read.runFrom_get c), hnone,
        Cursor.remaining, ← hlen]
      rfl
    rw [Read.runFrom_bind, hread]
    rfl
  | cons b bytes =>
    rw [hrest, List.length_cons] at hlen
    have hpos : c.pos ≤ c.data.length := by omega
    have hfirst : takeByte c.rest = .ok (b, bytes) := by rw [hrest]; rfl
    obtain ⟨front, hfront, hread⟩ := follows_u8.ok hpos hfirst
    obtain rfl : front = [b] := List.append_cancel_right (hfront.symm.trans hrest)
    have hmore := Cursor.rest_advance hfront
    rw [Read.runFrom_bind_ok hread, decode_cons]
    cases Opcode.ofByte? b with
    | none => rfl
    | some opcode =>
      have hoperands := (follows_operands opcode.operandKinds).map fun os =>
        (⟨opcode, os⟩ : Instruction)
      have hroom : c.pos + [b].length ≤ c.data.length := by
        rw [List.length_singleton]
        omega
      cases htake : (takeOperands opcode.operandKinds bytes).map fun (os, rest) =>
          ((⟨opcode, os⟩ : Instruction), rest) with
      | ok pair =>
        obtain ⟨i, rest⟩ := pair
        simp only [htake]
        rw [← hmore] at htake
        obtain ⟨front, hfront, hread⟩ := hoperands.ok hroom htake
        rw [hmore] at hfront
        rw [hfront, List.length_append] at hlen
        have hnext : c.pos + [b].length + front.length = c.data.length - rest.length := by
          rw [List.length_singleton]
          omega
        rw [hread, hnext]
      | error cause =>
        simp only [htake]
        rw [← hmore] at htake
        obtain ⟨passed, need, hpassed, rfl, hread⟩ := hoperands.error hroom htake
        rw [hmore] at hpassed hread
        have hoffset : failureOffset (b :: bytes).length (.truncated need (bytes.length - passed)) =
            1 + passed := by
          rw [failureOffset, List.length_cons]
          omega
        rw [hread, hmore]
        simp only [passedOffset, hoffset, Cursor.absolute, List.length_singleton, Nat.add_assoc]

end NovelScript
