import NovelScript.Bytes
import NovelScript.Fault
import NovelScript.Opcode

/-!
Instructions and their binary form. `decode_encode` says that decoding gives back an instruction and
whatever follows it.
-/

namespace NovelScript

inductive Operand
  | slot (index : UInt8)
  | byte (value : UInt8)
  | word (value : UInt32)
  | constant (value : UInt32)
  | table (entries : List UInt32)
  | function (index : UInt32)
  | native (id : UInt32)
  | label (address : UInt32)
  deriving DecidableEq, Repr

namespace Operand

def kind : Operand → OperandKind
  | slot _ => .slot
  | byte _ => .byte
  | word _ => .word
  | constant _ => .constant
  | table _ => .table
  | function _ => .function
  | native _ => .native
  | label _ => .label

def encode : Operand → Bytes
  | slot index => [index]
  | byte value => [value]
  | word value => wordBytes value
  | constant value => wordBytes value
  | table entries => UInt8.ofNat entries.length :: entries.flatMap wordBytes
  | function index => wordBytes index
  | native id => wordBytes id
  | label address => wordBytes address

def size : Operand → Nat
  | slot _ | byte _ => 1
  | word _ | constant _ | function _ | native _ | label _ => 4
  | table entries => 1 + 4 * entries.length

@[simp] theorem length_encode (o : Operand) : o.encode.length = o.size := by
  cases o with
  | table entries =>
    simp only [encode, size, List.length_cons, List.length_flatMap, length_wordBytes,
      List.map_const', List.sum_replicate_nat]
    omega
  | _ => simp [encode, size]

end Operand

structure Instruction where
  opcode : Opcode
  operands : List Operand := []
  deriving DecidableEq, Repr

namespace Instruction

/-- The operands are of the kinds that the opcode takes, and tables have at most 255 entries. -/
def WellFormed (i : Instruction) : Prop :=
  i.operands.map Operand.kind = i.opcode.operandKinds ∧
    ∀ entries, Operand.table entries ∈ i.operands → entries.length ≤ 255

def encode (i : Instruction) : Bytes := i.opcode.byte :: i.operands.flatMap Operand.encode

def size (i : Instruction) : Nat := 1 + (i.operands.map Operand.size).foldr (· + ·) 0

@[simp] theorem length_encode (i : Instruction) : i.encode.length = i.size := by
  have h : i.operands.map (List.length ∘ Operand.encode) = i.operands.map Operand.size :=
    List.map_congr_left fun o _ => o.length_encode
  simp only [encode, size, List.length_cons, List.length_flatMap, ← h, Function.comp_def,
    List.sum_eq_foldr]
  omega

def takeByte : Bytes → Except DecodeCause (UInt8 × Bytes)
  | b :: rest => .ok (b, rest)
  | [] => .error (.truncated 1 0)

def takeWord : Bytes → Except DecodeCause (UInt32 × Bytes)
  | b₀ :: b₁ :: b₂ :: b₃ :: rest => .ok (wordOfBytes [b₀, b₁, b₂, b₃], rest)
  | short => .error (.truncated 4 short.length)

def takeWords : (count : Nat) → Bytes → Except DecodeCause (List UInt32 × Bytes)
  | 0, bytes => .ok ([], bytes)
  | count + 1, bytes => do
    let (w, bytes) ← takeWord bytes
    let (ws, bytes) ← takeWords count bytes
    return (w :: ws, bytes)

def takeOperand (kind : OperandKind) (bytes : Bytes) : Except DecodeCause (Operand × Bytes) :=
  match kind with
  | .slot => (takeByte bytes).map fun (b, rest) => (.slot b, rest)
  | .byte => (takeByte bytes).map fun (b, rest) => (.byte b, rest)
  | .word => (takeWord bytes).map fun (w, rest) => (.word w, rest)
  | .constant => (takeWord bytes).map fun (w, rest) => (.constant w, rest)
  | .table => do
    let (count, bytes) ← takeByte bytes
    let (entries, rest) ← takeWords count.toNat bytes
    return (.table entries, rest)
  | .function => (takeWord bytes).map fun (w, rest) => (.function w, rest)
  | .native => (takeWord bytes).map fun (w, rest) => (.native w, rest)
  | .label => (takeWord bytes).map fun (w, rest) => (.label w, rest)

def takeOperands : List OperandKind → Bytes → Except DecodeCause (List Operand × Bytes)
  | [], bytes => .ok ([], bytes)
  | kind :: kinds, bytes => do
    let (o, bytes) ← takeOperand kind bytes
    let (os, bytes) ← takeOperands kinds bytes
    return (o :: os, bytes)

def decode (bytes : Bytes) : Except DecodeCause (Instruction × Bytes) := do
  let (b, bytes) ← takeByte bytes
  match Opcode.ofByte? b with
  | none => throw (.unknownOpcode b)
  | some opcode =>
    let (operands, rest) ← takeOperands opcode.operandKinds bytes
    return (⟨opcode, operands⟩, rest)

/-- Where, behind the start of an instruction of which `size` bytes and more are there, decoding
fails: where the missing bytes should be, or at an opcode that does not exist. -/
def failureOffset (size : Nat) : DecodeCause → Nat
  | .truncated _ left => size - left
  | _ => 0

/-! ## Decoding what was encoded -/

theorem takeWord_wordBytes (w : UInt32) (rest : Bytes) :
    takeWord (wordBytes w ++ rest) = .ok (w, rest) := by
  have h := wordOfBytes_wordBytes w
  simp only [wordBytes, LittleEndian.encode] at h ⊢
  simp only [List.cons_append, List.nil_append, takeWord, h]

theorem takeWords_flatMap (ws : List UInt32) (rest : Bytes) :
    takeWords ws.length (ws.flatMap wordBytes ++ rest) = .ok (ws, rest) := by
  induction ws with
  | nil => rfl
  | cons w ws ih =>
    simp only [List.length_cons, List.flatMap_cons, List.append_assoc, takeWords,
      takeWord_wordBytes]
    simp [bind, Except.bind, ih, pure, Except.pure]

theorem takeOperand_encode (o : Operand) (rest : Bytes)
    (h : ∀ entries, o = .table entries → entries.length ≤ 255) :
    takeOperand o.kind (o.encode ++ rest) = .ok (o, rest) := by
  cases o with
  | table entries =>
    have hl := h entries rfl
    have hc : (UInt8.ofNat entries.length).toNat = entries.length := by
      rw [UInt8.toNat_ofNat']
      omega
    simp only [takeOperand, Operand.kind, Operand.encode, List.cons_append, takeByte]
    simp [bind, Except.bind, hc, takeWords_flatMap, pure, Except.pure]
  | slot | byte => simp [takeOperand, Operand.kind, Operand.encode, takeByte, Except.map]
  | _ => simp [takeOperand, Operand.kind, Operand.encode, takeWord_wordBytes, Except.map]

theorem takeOperands_encode (os : List Operand) (rest : Bytes)
    (h : ∀ entries, Operand.table entries ∈ os → entries.length ≤ 255) :
    takeOperands (os.map Operand.kind) (os.flatMap Operand.encode ++ rest) = .ok (os, rest) := by
  induction os with
  | nil => rfl
  | cons o os ih =>
    have ho := takeOperand_encode o (os.flatMap Operand.encode ++ rest)
      fun entries he => h entries (he ▸ List.mem_cons_self)
    have hos := ih fun entries he => h entries (List.mem_cons_of_mem _ he)
    simp only [List.map_cons, List.flatMap_cons, List.append_assoc, takeOperands, ho]
    simp [bind, Except.bind, hos, pure, Except.pure]

theorem decode_encode {i : Instruction} (h : i.WellFormed) (rest : Bytes) :
    decode (i.encode ++ rest) = .ok (i, rest) := by
  have hos := takeOperands_encode i.operands rest h.2
  rw [h.1] at hos
  simp only [encode, List.cons_append, decode, takeByte]
  simp [bind, Except.bind, Opcode.ofByte?_byte, hos, pure, Except.pure]

end Instruction

end NovelScript
