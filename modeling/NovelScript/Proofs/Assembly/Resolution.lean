import NovelScript.Proofs.Assembly.TwoPass
import NovelScript.Proofs.Code

/-!
The words of an instruction and what they stand for. Reading a line gives the same arguments
whatever its number (`toOption_parse`), and encoding words under a scope is reading them as
arguments first and looking up the names among these afterwards (`Scope.instruction?_eq`). An
instruction that comes out of this is well-formed and has the size that the layout reserved for it.
-/

namespace NovelScript.Assembly.TwoPass

open Outcome (toOption_map toOption_bind)

/-! ### Reading words as arguments -/

/-- The argument of a kind that a word stands for. Names stay names. -/
def argument? (kind : OperandKind) (token : Text) : Option Argument :=
  match kind with
  | .slot => some (.slot token)
  | .byte => (byte? token).map fun n => .operand (.byte n)
  | .word => (word? token).map fun n => .operand (.word n)
  | .constant =>
    if Number.isNumber token then (word? token).map fun n => .operand (.constant n)
    else some (.string token)
  | .table => (word? token).map fun n => .operand (.table [n])
  | .function => some (.function token)
  | .native => (native? token).map fun n => .operand (.native n)
  | .label =>
    if Number.isNumber token then (word? token).map fun n => .operand (.label n)
    else some (.label token)

def arguments? (opcode : Opcode) (tokens : List Text) : Option (List Argument) :=
  if opcode = .jmpa then
    if tokens.length ≤ 255 then (tokens.mapM word?).map fun entries => [.operand (.table entries)]
    else none
  else if tokens.length = opcode.operandKinds.length then
    (opcode.operandKinds.zip tokens).mapM fun p => argument? p.1 p.2
  else none

def Entry.statement? : Entry → Option Statement
  | label name => some (.label name)
  | instruction opcode tokens => (arguments? opcode tokens).map (.instruction opcode)

theorem toOption_checkRange (line : Nat) (token : Text) (least greatest n : Int) :
    (Number.checkRange line token least greatest n).toOption =
      if least ≤ n ∧ n ≤ greatest then some n else none := by
  by_cases h : n < least ∨ greatest < n
  · rw [Number.checkRange, if_pos h, if_neg (by omega)]
    rfl
  · rw [Number.checkRange, if_neg h, if_pos (by omega)]
    rfl

@[simp] theorem toOption_expect (line : Nat) (token : Text) :
    (Number.expect line token).toOption = Number.parse? token := by
  cases h : Number.parse? token <;> simp [Number.expect, h]

theorem filter_bound (n : Int) (least greatest : Int) :
    (if least ≤ n ∧ n ≤ greatest then some n else none) =
      (some n).filter fun n => least ≤ n ∧ n ≤ greatest := by
  rw [Option.filter_some]
  by_cases h : least ≤ n ∧ n ≤ greatest <;> simp [h]

theorem toOption_bounded {α : Type} (line : Nat) (token : Text) (least greatest : Int)
    (f : Int → α) :
    (do let n ← Number.expect line token
        let n ← Number.checkRange line token least greatest n
        return f n : Except Fault α).toOption = (number? least greatest token).map f := by
  rw [toOption_bind, toOption_expect, number?]
  cases Number.parse? token with
  | none => rfl
  | some n =>
    rw [Option.bind_some, toOption_bind, toOption_checkRange, filter_bound]
    cases (some n).filter fun n => least ≤ n ∧ n ≤ greatest <;> rfl

@[simp] theorem toOption_word (line : Nat) (token : Text) :
    (Number.word line token).toOption = word? token :=
  toOption_bounded line token _ _ _

@[simp] theorem toOption_byte (line : Nat) (token : Text) :
    (Number.byte line token).toOption = byte? token :=
  toOption_bounded line token _ _ _

@[simp] theorem toOption_native (line : Nat) (token : Text) :
    (Number.native line token).toOption = native? token := by
  rw [Number.native, native?]
  cases Text.after? "@native".toList token with
  | none => rfl
  | some digits =>
    by_cases hd : digits = []
    · simp [hd]
    · cases hp : Number.parse? ('0' :: 'x' :: digits) with
      | none => simp [hd, hp, number?]
      | some n =>
        simp only [Option.bind_some, hd, if_false, hp, toOption_map, toOption_checkRange,
          filter_bound, number?]

@[simp] theorem toOption_argument (line : Nat) (kind : OperandKind) (token : Text) :
    (Statement.argument line kind token).toOption = argument? kind token := by
  cases kind with
  | slot | function => rfl
  | byte => rw [Statement.argument, toOption_map, toOption_byte, argument?]
  | word | table => rw [Statement.argument, toOption_map, toOption_word, argument?]
  | native => rw [Statement.argument, toOption_map, toOption_native, argument?]
  | constant | label =>
    cases hn : Number.isNumber token with
    | false => simp [Statement.argument, argument?, hn]
    | true => simp [Statement.argument, argument?, hn, toOption_map, toOption_word]

@[simp] theorem toOption_argumentList (line : Nat) (pairs : List (OperandKind × Text)) :
    (Statement.argumentList line pairs).toOption =
      pairs.mapM fun p => argument? p.1 p.2 := by
  induction pairs with
  | nil => rfl
  | cons pair pairs ih =>
    rw [Statement.argumentList, toOption_bind, toOption_argument, List.mapM_cons]
    cases argument? pair.1 pair.2 with
    | none => rfl
    | some a =>
      rw [Option.bind_some, toOption_bind, ih]
      rfl

@[simp] theorem toOption_tableEntries (line : Nat) (tokens : List Text) :
    (Statement.tableEntries line tokens).toOption = tokens.mapM word? := by
  induction tokens with
  | nil => rfl
  | cons token tokens ih =>
    rw [Statement.tableEntries, toOption_bind, toOption_word, List.mapM_cons]
    cases word? token with
    | none => rfl
    | some n =>
      rw [Option.bind_some, toOption_bind, ih]
      rfl

theorem toOption_arguments (line : Nat) (mnemonic : Text) (opcode : Opcode) (tokens : List Text) :
    (Statement.arguments line mnemonic opcode tokens).toOption = arguments? opcode tokens := by
  by_cases hop : opcode = .jmpa
  · by_cases hlen : tokens.length ≤ 255
    · have hnot : ¬ Statement.maxTableLength < tokens.length := Nat.not_lt.2 hlen
      simp only [Statement.arguments, arguments?, hop, if_true, if_neg hnot, toOption_map,
        toOption_tableEntries, if_pos hlen]
    · have hlt : Statement.maxTableLength < tokens.length := Nat.not_le.1 hlen
      simp only [Statement.arguments, arguments?, hop, if_true, if_pos hlt, if_neg hlen]
      rfl
  · by_cases hlen : tokens.length = opcode.operandKinds.length
    · simp only [Statement.arguments, arguments?, if_neg hop, hlen, ne_eq, not_true, if_false,
        toOption_argumentList, if_true]
    · have hne : opcode.operandKinds.length ≠ tokens.length := fun h => hlen h.symm
      simp only [Statement.arguments, arguments?, if_neg hop, if_pos hne, if_neg hlen]
      rfl

@[simp] theorem toOption_splitOperands (line : Line) (rest : Text) :
    (Statement.splitOperands line rest).toOption = tokens? rest := by
  by_cases hrest : rest = []
  · simp [Statement.splitOperands, tokens?, hrest]
  · by_cases hmem : [] ∈ (rest.splitOn ',').map Text.trim
    · simp only [Statement.splitOperands, tokens?, if_neg hrest, List.contains_iff_mem, if_pos hmem]
      rfl
    · simp only [Statement.splitOperands, tokens?, if_neg hrest, List.contains_iff_mem, if_neg hmem]
      rfl

/-- A line is understood in the same way whatever its number. -/
theorem toOption_parse (line : Line) :
    (Statement.parse line).toOption = (Entry.ofText? line.text).bind Entry.statement? := by
  rw [Statement.parse, Entry.ofText?]
  cases Statement.definedLabel? line.text with
  | some name => rfl
  | none =>
    simp only [toOption_bind, toOption_splitOperands]
    cases tokens? (Statement.splitMnemonic line.text).2 with
    | none => rfl
    | some tokens =>
      cases Opcode.ofMnemonic? (Statement.splitMnemonic line.text).1 with
      | none => rfl
      | some opcode =>
        have h := toOption_arguments line.number (Statement.splitMnemonic line.text).1 opcode tokens
        simp only [Option.bind_some, toOption_bind, h]
        cases harg : arguments? opcode tokens with
        | none => simp [Entry.statement?, harg]
        | some as => simp [Entry.statement?, harg, pure, Except.pure]

/-! ### Looking up names -/

namespace Scope

def value? (σ : Scope) : Argument → Option Operand
  | .operand o => some o
  | .slot name => some (.slot (UInt8.ofNat (σ.locals.idxOf name)))
  | .string name => (σ.strings name).map .constant
  | .function name => (σ.functions name).map .function
  | .label name => (σ.labels name).map .label

theorem operand?_eq (σ : Scope) (kind : OperandKind) (token : Text) :
    σ.operand? kind token = (argument? kind token).bind σ.value? := by
  cases kind with
  | slot | function => rfl
  | byte => cases h : byte? token <;> simp [operand?, argument?, value?, h]
  | word | table => cases h : word? token <;> simp [operand?, argument?, value?, h]
  | native => cases h : native? token <;> simp [operand?, argument?, value?, h]
  | constant | label =>
    cases hn : Number.isNumber token with
    | false => simp [operand?, argument?, value?, hn]
    | true => cases h : word? token <;> simp [operand?, argument?, value?, hn, h]

theorem mapM_operand? (σ : Scope) (pairs : List (OperandKind × Text)) :
    (pairs.mapM fun p => σ.operand? p.1 p.2) =
      (pairs.mapM fun p => argument? p.1 p.2).bind (·.mapM σ.value?) := by
  induction pairs with
  | nil => rfl
  | cons pair pairs ih =>
    rw [List.mapM_cons, List.mapM_cons, operand?_eq, ih]
    cases argument? pair.1 pair.2 with
    | none => rfl
    | some a =>
      cases pairs.mapM fun p => argument? p.1 p.2 with
      | none => cases h : σ.value? a <;> simp [h]
      | some as => simp

theorem instruction?_eq (σ : Scope) (opcode : Opcode) (tokens : List Text) :
    σ.instruction? opcode tokens =
      (arguments? opcode tokens).bind fun as => (as.mapM σ.value?).map (⟨opcode, ·⟩) := by
  by_cases hop : opcode = .jmpa
  · by_cases hlen : tokens.length ≤ 255
    · cases h : tokens.mapM word? <;> simp [instruction?, arguments?, hop, hlen, h, value?]
    · simp [instruction?, arguments?, hop, hlen]
  · by_cases hlen : tokens.length = opcode.operandKinds.length
    · rw [instruction?, arguments?, if_neg hop, if_neg hop, mapM_operand?, if_pos hlen,
        if_pos hlen, Option.map_bind]
      rfl
    · simp [instruction?, arguments?, hop, hlen]

theorem instructions?_append (σ : Scope) (front back : List Entry) :
    σ.instructions? (front ++ back) =
      (σ.instructions? front).bind fun is => (σ.instructions? back).map (is ++ ·) := by
  induction front with
  | nil => simp [instructions?]
  | cons e front ih =>
    cases e with
    | label name => simpa [instructions?] using ih
    | instruction opcode tokens =>
      simp only [List.cons_append, instructions?, ih]
      cases σ.instruction? opcode tokens with
      | none => rfl
      | some i =>
        cases σ.instructions? front with
        | none => rfl
        | some is => cases σ.instructions? back <;> simp

@[simp] theorem instructions?_label (σ : Scope) (name : Text) :
    σ.instructions? [.label name] = some [] :=
  rfl

theorem instructions?_instruction (σ : Scope) (opcode : Opcode) (tokens : List Text) :
    σ.instructions? [.instruction opcode tokens] = (σ.instruction? opcode tokens).map ([·]) := by
  cases h : σ.instruction? opcode tokens <;> simp [instructions?, h]

/-! ### The shape of what comes out -/

/-- An operand of a kind is a slot, taken from the place of a local, a function, taken from its
index, or one of another kind. -/
theorem operand?_cases {σ : Scope} {kind : OperandKind} {token : Text} {o : Operand}
    (h : σ.operand? kind token = some o) :
    (kind = .slot ∧ o = .slot (UInt8.ofNat (σ.locals.idxOf token))) ∨
      (kind = .function ∧ ∃ index, σ.functions token = some index ∧ o = .function index) ∨
      (kind ≠ .slot ∧ kind ≠ .function ∧ o.kind = kind) := by
  cases kind with
  | slot => exact .inl ⟨rfl, (Option.some.inj h).symm⟩
  | function =>
    obtain ⟨index, hindex, rfl⟩ := Option.map_eq_some_iff.1 h
    exact .inr (.inl ⟨rfl, index, hindex, rfl⟩)
  | _ =>
    obtain ⟨n, -, rfl⟩ := Option.map_eq_some_iff.1 h
    exact .inr (.inr ⟨by simp, by simp, rfl⟩)

theorem kind_of_operand? {σ : Scope} {kind : OperandKind} {token : Text} {o : Operand}
    (h : σ.operand? kind token = some o) : o.kind = kind := by
  rcases operand?_cases h with ⟨rfl, rfl⟩ | ⟨rfl, index, -, rfl⟩ | ⟨-, -, hkind⟩
  · rfl
  · rfl
  · exact hkind

theorem kinds_of_mapM {σ : Scope} {kinds : List OperandKind} {tokens : List Text}
    {os : List Operand} (hlen : tokens.length = kinds.length)
    (h : (kinds.zip tokens).mapM (fun p => σ.operand? p.1 p.2) = some os) :
    os.map Operand.kind = kinds := by
  induction kinds generalizing tokens os with
  | nil =>
    obtain rfl : [] = os := by simpa using h
    rfl
  | cons kind kinds ih =>
    obtain _ | ⟨token, tokens⟩ := tokens
    · simp at hlen
    · rw [List.zip_cons_cons] at h
      obtain ⟨o, rest, ho, hrest, rfl⟩ := Outcome.mapM_cons_eq_some_iff.1 h
      rw [List.map_cons, kind_of_operand? ho, ih (Nat.succ.inj hlen) hrest]

end Scope

theorem table_not_mem_operandKinds {opcode : Opcode} (h : opcode ≠ .jmpa) :
    OperandKind.table ∉ opcode.operandKinds := by
  cases opcode <;> first | exact absurd rfl h | decide

theorem fixedSizes_eq {os : List Operand} (h : OperandKind.table ∉ os.map Operand.kind) :
    (os.map Operand.kind).filterMap OperandKind.fixedSize? = os.map Operand.size := by
  induction os with
  | nil => rfl
  | cons o os ih =>
    rw [List.map_cons, List.mem_cons, not_or] at h
    have ho : o.kind.fixedSize? = some o.size := by
      cases o with
      | table entries => exact absurd rfl h.1
      | _ => rfl
    rw [List.map_cons, List.filterMap_cons, ho, ih h.2, List.map_cons]

namespace Scope

/-- An instruction is a jump through a table of words, or its words stand for operands of the kinds
of its operation. -/
theorem instruction?_cases {σ : Scope} {opcode : Opcode} {tokens : List Text} {i : Instruction}
    (h : σ.instruction? opcode tokens = some i) :
    (opcode = .jmpa ∧ tokens.length ≤ 255 ∧
        ∃ entries, tokens.mapM word? = some entries ∧ i = ⟨opcode, [.table entries]⟩) ∨
      (opcode ≠ .jmpa ∧ tokens.length = opcode.operandKinds.length ∧
        ∃ os, (opcode.operandKinds.zip tokens).mapM (fun p => σ.operand? p.1 p.2) = some os ∧
          i = ⟨opcode, os⟩) := by
  rw [instruction?] at h
  split at h
  · rename_i hop
    obtain ⟨hlen, h⟩ := Option.ite_none_right_eq_some.1 h
    obtain ⟨entries, hentries, rfl⟩ := Option.map_eq_some_iff.1 h
    exact .inl ⟨hop, hlen, entries, hentries, rfl⟩
  · rename_i hop
    obtain ⟨hlen, h⟩ := Option.ite_none_right_eq_some.1 h
    obtain ⟨os, hos, rfl⟩ := Option.map_eq_some_iff.1 h
    exact .inr ⟨hop, hlen, os, hos, rfl⟩

theorem instructions?_cons_eq_some_iff {σ : Scope} {opcode : Opcode} {tokens : List Text}
    {body : List Entry} {is : List Instruction} :
    σ.instructions? (.instruction opcode tokens :: body) = some is ↔
      ∃ i rest, σ.instruction? opcode tokens = some i ∧ σ.instructions? body = some rest ∧
        i :: rest = is := by
  rw [instructions?]
  cases σ.instruction? opcode tokens with
  | none => simp
  | some i => cases σ.instructions? body <;> simp

theorem wellFormed_of_instruction? {σ : Scope} {opcode : Opcode} {tokens : List Text}
    {i : Instruction} (h : σ.instruction? opcode tokens = some i) :
    i.WellFormed ∧ i.size = (Entry.instruction opcode tokens).size := by
  rcases instruction?_cases h with ⟨rfl, hlen, entries, hentries, rfl⟩ | ⟨hop, hlen, os, hos, rfl⟩
  · have hcount := Outcome.length_of_mapM hentries
    refine ⟨⟨rfl, fun es hes => ?_⟩, ?_⟩
    · obtain rfl : es = entries := by simpa using hes
      omega
    · simp only [Instruction.size_eq_sum, Operand.size, Entry.size, if_true, List.map_cons,
        List.map_nil, List.sum_cons, List.sum_nil]
      omega
  · have hkinds := kinds_of_mapM hlen hos
    have htable : OperandKind.table ∉ os.map Operand.kind := by
      rw [hkinds]
      exact table_not_mem_operandKinds hop
    refine ⟨⟨hkinds, fun es hes => ?_⟩, ?_⟩
    · exact absurd (List.mem_map.2 ⟨_, hes, rfl⟩) htable
    · rw [Instruction.size_eq_sum, Entry.size, if_neg hop, ← hkinds, fixedSizes_eq htable]

theorem wellFormed_of_instructions? {σ : Scope} {body : List Entry} {is : List Instruction}
    (h : σ.instructions? body = some is) :
    (∀ i ∈ is, i.WellFormed) ∧ (is.map Instruction.size).sum = codeSize body := by
  induction body generalizing is with
  | nil =>
    obtain rfl := Option.some.inj h
    exact ⟨by simp, rfl⟩
  | cons e body ih =>
    cases e with
    | label name =>
      obtain ⟨hwf, hsize⟩ := ih h
      refine ⟨hwf, ?_⟩
      rw [hsize, codeSize_cons, Entry.size, Nat.zero_add]
    | instruction opcode tokens =>
      obtain ⟨i, rest, hi, hrest, rfl⟩ := instructions?_cons_eq_some_iff.1 h
      obtain ⟨hwf, hsize⟩ := ih hrest
      obtain ⟨hi, hisize⟩ := wellFormed_of_instruction? hi
      refine ⟨?_, ?_⟩
      · intro j hj
        rcases List.mem_cons.1 hj with rfl | hj
        · exact hi
        · exact hwf j hj
      · rw [List.map_cons, List.sum_cons, hsize, hisize, codeSize_cons]

end Scope

/-! ### Names of locals -/

def slotName? : Argument → Option Text
  | .slot name => some name
  | _ => none

theorem slotName?_of_argument? {kind : OperandKind} {token : Text} {a : Argument}
    (h : argument? kind token = some a) :
    slotName? a = if kind = .slot then some token else none := by
  cases kind with
  | slot | function =>
    obtain rfl := Option.some.inj h
    rfl
  | constant | label =>
    simp only [argument?] at h
    split at h
    · obtain ⟨n, -, rfl⟩ := Option.map_eq_some_iff.1 h
      rfl
    · obtain rfl := Option.some.inj h
      rfl
  | _ =>
    obtain ⟨n, -, rfl⟩ := Option.map_eq_some_iff.1 h
    rfl

theorem slotNames_of_mapM {pairs : List (OperandKind × Text)} {as : List Argument}
    (h : pairs.mapM (fun p => argument? p.1 p.2) = some as) :
    as.filterMap slotName? = (pairs.filter fun (kind, _) => kind = .slot).map Prod.snd := by
  induction pairs generalizing as with
  | nil =>
    obtain rfl : [] = as := by simpa using h
    rfl
  | cons pair pairs ih =>
    obtain ⟨a, rest, ha, hrest, rfl⟩ := Outcome.mapM_cons_eq_some_iff.1 h
    rw [List.filterMap_cons, slotName?_of_argument? ha, List.filter_cons]
    by_cases hk : pair.1 = .slot
    · simp [hk, ih hrest]
    · simp [hk, ih hrest]

/-- The locals among the arguments of an instruction are the slots of its line. -/
theorem slotNames_of_arguments? {opcode : Opcode} {tokens : List Text} {as : List Argument}
    (h : arguments? opcode tokens = some as) :
    as.filterMap slotName? = (Entry.instruction opcode tokens).slots := by
  by_cases hop : opcode = .jmpa
  · subst hop
    rw [arguments?, if_pos rfl] at h
    split at h
    · obtain ⟨entries, -, rfl⟩ := Option.map_eq_some_iff.1 h
      cases tokens <;> rfl
    · exact nomatch h
  · rw [arguments?, if_neg hop] at h
    split at h
    · exact slotNames_of_mapM h
    · exact nomatch h

end NovelScript.Assembly.TwoPass
