import Mathlib
import NovelScript.Assembly.Assemble

/-!
A two-pass assembler, as the measure of the one that patches. The first pass reads the whole source
into a `Program`; with it the size of every line is known, and so is the address of every label and
the index of every function. The second pass encodes each instruction under what is known then. No
code is ever changed after it has been written.

Sizes of strings and of functions are 32-bit words. As long as a section is smaller than `2 ^ 32`
bytes this changes nothing (`sectionSize_eq`, `programSize_eq`).
-/

namespace NovelScript.Assembly.TwoPass

/-- A line inside a function, split into words but not understood any further. -/
inductive Entry
  | label (name : Text)
  | instruction (opcode : Opcode) (tokens : List Text)
  deriving DecidableEq, Repr

structure Routine where
  name : Text
  params : UInt32
  body : List Entry := []
  deriving DecidableEq, Repr

structure Program where
  name : Bytes
  strings : List (Text × Bytes)
  routines : List Routine
  deriving DecidableEq, Repr

/-! ### First pass: reading -/

/-- The words of the operands of an instruction, none of which may be empty. -/
def tokens? (rest : Text) : Option (List Text) :=
  let tokens := if rest = [] then [] else (rest.splitOn ',').map Text.trim
  if tokens.contains [] then none else some tokens

def Entry.ofText? (text : Text) : Option Entry :=
  match Statement.definedLabel? text with
  | some name => some (.label name)
  | none => do
    let (mnemonic, rest) := Statement.splitMnemonic text
    let tokens ← tokens? rest
    let opcode ← Opcode.ofMnemonic? mnemonic
    return .instruction opcode tokens

/-- Reads functions to the end of the source. The lines of a function that is open already are still
missing. -/
def routines? : Option Routine → List Line → Option (List Routine)
  | none, [] => some []
  | some _, [] => none
  | none, line :: rest => do
    let (name, params) ← (Declaration.functionHeader line).toOption
    routines? (some { name, params }) rest
  | some r, line :: rest =>
    if line.text = "endfunction".toList then (routines? none rest).map (r :: ·)
    else do
      let entry ← Entry.ofText? line.text
      routines? (some { r with body := r.body ++ [entry] }) rest

def string? (cs : Charset) (line : Line) : Option (Text × Bytes) := do
  let (name, value) ← (Declaration.stringDefinition line).toOption
  let bytes ← (Declaration.stringBytes cs line.number name value).toOption
  return (name, bytes)

/-- Reads strings up to the line that ends them, and returns the lines behind it too. -/
def strings? (cs : Charset) : List Line → Option (List (Text × Bytes) × List Line)
  | [] => none
  | line :: rest =>
    if line.text = "endstrings".toList then some ([], rest)
    else do
      let string ← string? cs line
      let (strings, rest) ← strings? cs rest
      return (string :: strings, rest)

theorem strings?_cons_eq_some_iff {cs : Charset} {line : Line} {lines rest : List Line}
    {strings : List (Text × Bytes)} (hend : line.text ≠ "endstrings".toList) :
    strings? cs (line :: lines) = some (strings, rest) ↔
      ∃ s more, string? cs line = some s ∧ strings? cs lines = some (more, rest) ∧
        s :: more = strings := by
  rw [strings?, if_neg hend]
  cases string? cs line with
  | none => simp
  | some s =>
    cases strings? cs lines with
    | none => simp
    | some read =>
      obtain ⟨more, rest'⟩ := read
      simp [and_comm]

def program? (cs : Charset) : List Line → Option Program
  | header :: opening :: rest =>
    if opening.text = "strings".toList then do
      let name ← (Declaration.scriptName cs header).toOption
      let (strings, rest) ← strings? cs rest
      let routines ← routines? none rest
      return { name, strings, routines }
    else none
  | _ => none

/-! ### First pass: layout -/

/-- The size of the code for a line. A jump table has a count and its entries; the operands of all
other operations have sizes of their own. -/
def Entry.size : Entry → Nat
  | label _ => 0
  | instruction opcode tokens =>
    if opcode = .jmpa then 2 + 4 * tokens.length
    else 1 + (opcode.operandKinds.filterMap OperandKind.fixedSize?).sum

def Entry.slots : Entry → List Text
  | label _ => []
  | instruction opcode tokens =>
    ((opcode.operandKinds.zip tokens).filter fun (kind, _) => kind = .slot).map Prod.snd

def Entry.isInstruction : Entry → Bool
  | label _ => false
  | instruction _ _ => true

/-- The labels of a body that begins at an address, each with its own address. -/
def labels (address : Nat) : List Entry → List (Text × UInt32)
  | [] => []
  | .label name :: rest => (name, UInt32.ofNat address) :: labels address rest
  | .instruction opcode tokens :: rest =>
    labels (address + (Entry.instruction opcode tokens).size) rest

def codeSize (body : List Entry) : Nat := (body.map Entry.size).sum

/-- The size of a function, a word. -/
def Routine.size (r : Routine) : Nat := codeSize r.body % 2 ^ 32

def programSize (routines : List Routine) : Nat := (routines.map Routine.size).sum

/-- The distinct names of locals in a body, in the order of their first use. -/
def locals (body : List Entry) : List Text := (body.flatMap Entry.slots).eraseDups

/-- The size of a string together with the zero byte behind it, a word. -/
def stringSize (bytes : Bytes) : Nat := (bytes.length + 1) % 2 ^ 32

/-- The strings with their positions, the first of which is `pos`. -/
def tableFrom (pos : Nat) : List (Text × Bytes) → StringTable
  | [] => []
  | (name, bytes) :: rest =>
    (name, ⟨UInt32.ofNat pos, bytes⟩) :: tableFrom (pos + stringSize bytes) rest

def sectionSize (strings : List (Text × Bytes)) : Nat :=
  (strings.map fun s => stringSize s.2).sum

/-! ### Layout of parts -/

@[simp] theorem codeSize_append (front back : List Entry) :
    codeSize (front ++ back) = codeSize front + codeSize back := by
  rw [codeSize, List.map_append, List.sum_append]
  rfl

@[simp] theorem codeSize_cons (e : Entry) (body : List Entry) :
    codeSize (e :: body) = e.size + codeSize body := by
  rw [codeSize, List.map_cons, List.sum_cons]
  rfl

@[simp] theorem labels_append (address : Nat) (front back : List Entry) :
    labels address (front ++ back) =
      labels address front ++ labels (address + codeSize front) back := by
  induction front generalizing address with
  | nil => rfl
  | cons e front ih =>
    cases e with
    | label name =>
      rw [List.cons_append, labels, labels, ih, codeSize_cons, Entry.size, Nat.zero_add,
        List.cons_append]
    | instruction opcode tokens =>
      rw [List.cons_append, labels, labels, ih, codeSize_cons, Nat.add_assoc]

/-- Where a body begins has no influence on which labels it has. -/
theorem keys_labels (a b : Nat) (body : List Entry) :
    (labels a body).map Prod.fst = (labels b body).map Prod.fst := by
  induction body generalizing a b with
  | nil => rfl
  | cons e body ih =>
    cases e with
    | label name => rw [labels, labels, List.map_cons, List.map_cons, ih]
    | instruction opcode tokens => exact ih _ _

@[simp] theorem programSize_append (front back : List Routine) :
    programSize (front ++ back) = programSize front + programSize back := by
  rw [programSize, List.map_append, List.sum_append]
  rfl

@[simp] theorem programSize_cons (r : Routine) (rs : List Routine) :
    programSize (r :: rs) = r.size + programSize rs := by
  rw [programSize, List.map_cons, List.sum_cons]
  rfl

theorem programSize_concat (rs : List Routine) (r : Routine) :
    programSize (rs ++ [r]) = programSize rs + r.size := by
  rw [programSize_append, programSize_cons]
  rfl

theorem sum_map_mod {α : Type} (size : α → Nat) {l : List α} (h : (l.map size).sum < 2 ^ 32) :
    (l.map fun a => size a % 2 ^ 32).sum = (l.map size).sum := by
  refine congrArg List.sum (List.map_congr_left fun a ha => Nat.mod_eq_of_lt ?_)
  exact Nat.lt_of_le_of_lt (List.le_sum_of_mem (List.mem_map_of_mem ha)) h

theorem programSize_eq {routines : List Routine}
    (h : (routines.map fun r => codeSize r.body).sum < 2 ^ 32) :
    programSize routines = (routines.map fun r => codeSize r.body).sum :=
  sum_map_mod (fun r : Routine => codeSize r.body) h

theorem sectionSize_eq {strings : List (Text × Bytes)}
    (h : (strings.map fun s => s.2.length + 1).sum < 2 ^ 32) :
    sectionSize strings = (strings.map fun s => s.2.length + 1).sum :=
  sum_map_mod (fun s : Text × Bytes => s.2.length + 1) h

@[simp] theorem sectionSize_append (front back : List (Text × Bytes)) :
    sectionSize (front ++ back) = sectionSize front + sectionSize back := by
  rw [sectionSize, List.map_append, List.sum_append]
  rfl

@[simp] theorem sectionSize_cons (s : Text × Bytes) (strings : List (Text × Bytes)) :
    sectionSize (s :: strings) = stringSize s.2 + sectionSize strings := by
  rw [sectionSize, List.map_cons, List.sum_cons]
  rfl

@[simp] theorem tableFrom_append (pos : Nat) (front back : List (Text × Bytes)) :
    tableFrom pos (front ++ back) =
      tableFrom pos front ++ tableFrom (pos + sectionSize front) back := by
  induction front generalizing pos with
  | nil => rfl
  | cons s front ih =>
    rw [List.cons_append, tableFrom, ih, tableFrom, sectionSize_cons, List.cons_append]
    simp only [Nat.add_assoc]

@[simp] theorem keys_tableFrom (pos : Nat) (strings : List (Text × Bytes)) :
    (tableFrom pos strings).map Prod.fst = strings.map Prod.fst := by
  induction strings generalizing pos with
  | nil => rfl
  | cons s strings ih => rw [tableFrom, List.map_cons, List.map_cons, ih]

/-! ### Second pass -/

structure Scope where
  /-- The positions of the strings. -/
  strings : Text → Option UInt32
  /-- The indices of the functions. -/
  functions : Text → Option UInt32
  /-- The addresses of the labels. -/
  labels : Text → Option UInt32
  /-- The locals in the order of their slots. -/
  locals : List Text

def number? (least greatest : Int) (token : Text) : Option Int :=
  (Number.parse? token).filter fun n => least ≤ n ∧ n ≤ greatest

/-- A number as a word in two's complement. -/
def word? (token : Text) : Option UInt32 :=
  (number? (-2147483648) 4294967295 token).map UInt32.ofInt

def byte? (token : Text) : Option UInt8 := (number? (-128) 255 token).map UInt8.ofInt

/-- The number of a function of the engine, in hexadecimal digits behind `@native`. -/
def native? (token : Text) : Option UInt32 :=
  (Text.after? "@native".toList token).bind fun digits =>
    if digits = [] then none
    else (number? 0 4294967295 ('0' :: 'x' :: digits)).map UInt32.ofInt

namespace Scope

def operand? (σ : Scope) (kind : OperandKind) (token : Text) : Option Operand :=
  match kind with
  | .slot => some (.slot (UInt8.ofNat (σ.locals.idxOf token)))
  | .byte => (byte? token).map .byte
  | .word => (word? token).map .word
  | .constant =>
    (if Number.isNumber token then word? token else σ.strings token).map .constant
  | .table => (word? token).map fun n => .table [n]
  | .function => (σ.functions token).map .function
  | .native => (native? token).map .native
  | .label => (if Number.isNumber token then word? token else σ.labels token).map .label

def instruction? (σ : Scope) (opcode : Opcode) (tokens : List Text) : Option Instruction :=
  if opcode = .jmpa then
    if tokens.length ≤ 255 then
      (tokens.mapM word?).map fun entries => ⟨opcode, [.table entries]⟩
    else none
  else if tokens.length = opcode.operandKinds.length then
    ((opcode.operandKinds.zip tokens).mapM fun p => σ.operand? p.1 p.2).map (⟨opcode, ·⟩)
  else none

def instructions? (σ : Scope) : List Entry → Option (List Instruction)
  | [] => some []
  | .label _ :: rest => σ.instructions? rest
  | .instruction opcode tokens :: rest => do
    let i ← σ.instruction? opcode tokens
    let is ← σ.instructions? rest
    return i :: is

end Scope

/-- A function has an instruction, no label twice, and no more locals than slots. -/
structure Routine.Valid (r : Routine) : Prop where
  hasInstruction : r.body.any Entry.isInstruction
  labels_nodup : ((labels 0 r.body).map Prod.fst).Nodup
  locals_le : (locals r.body).length ≤ maxLocals

/-- A program has strings and functions, no name twice, and sections whose sizes are words. -/
structure Program.Valid (p : Program) : Prop where
  strings_ne : p.strings ≠ []
  strings_nodup : (p.strings.map Prod.fst).Nodup
  strings_size : sectionSize p.strings < 2 ^ 32
  routines_ne : p.routines ≠ []
  routines_nodup : (p.routines.map Routine.name).Nodup
  code_size : programSize p.routines < 2 ^ 32
  routines_valid : ∀ r ∈ p.routines, r.Valid

instance (r : Routine) : Decidable r.Valid :=
  decidable_of_iff (_ ∧ _ ∧ _) ⟨fun ⟨h₁, h₂, h₃⟩ => ⟨h₁, h₂, h₃⟩, fun ⟨h₁, h₂, h₃⟩ => ⟨h₁, h₂, h₃⟩⟩

instance (p : Program) : Decidable p.Valid :=
  decidable_of_iff (_ ∧ _ ∧ _ ∧ _ ∧ _ ∧ _ ∧ _)
    ⟨fun ⟨h₁, h₂, h₃, h₄, h₅, h₆, h₇⟩ => ⟨h₁, h₂, h₃, h₄, h₅, h₆, h₇⟩,
      fun ⟨h₁, h₂, h₃, h₄, h₅, h₆, h₇⟩ => ⟨h₁, h₂, h₃, h₄, h₅, h₆, h₇⟩⟩

/-- What names stand for in a function, given the string table and all functions, if its code begins
at an address. -/
def scope (table : StringTable) (routines : List Routine) (start : Nat) (body : List Entry) :
    Scope where
  strings name := (table.lookup name).map (·.pos)
  functions name := (routines.findIdx? (·.name = name)).map UInt32.ofNat
  labels name := (labels start body).lookup name
  locals := locals body

def function? (table : StringTable) (routines : List Routine) (start : Nat) (r : Routine) :
    Option FunctionEntry := do
  let string ← table.lookup r.name
  let instructions ← (scope table routines start r.body).instructions? r.body
  return {
    name := string.pos
    pos := UInt32.ofNat start
    params := r.params
    locals := UInt32.ofNat (locals r.body).length
    code := instructions.flatMap Instruction.encode }

def functionsFrom? (table : StringTable) (routines : List Routine) :
    (start : Nat) → List Routine → Option (List FunctionEntry)
  | _, [] => some []
  | start, r :: rest => do
    let f ← function? table routines start r
    let fs ← functionsFrom? table routines (start + r.size) rest
    return f :: fs

theorem function?_eq_some_iff {table : StringTable} {routines : List Routine}
    {start : Nat} {r : Routine} {f : FunctionEntry} :
    function? table routines start r = some f ↔
      ∃ string is, table.lookup r.name = some string ∧
        (scope table routines start r.body).instructions? r.body = some is ∧
        { name := string.pos, pos := UInt32.ofNat start, params := r.params
          locals := UInt32.ofNat (locals r.body).length
          code := is.flatMap Instruction.encode } = f := by
  rw [function?, Option.bind_eq_bind, Option.bind_eq_some_iff]
  constructor
  · rintro ⟨string, hstring, h⟩
    obtain ⟨is, his, h⟩ := Option.bind_eq_some_iff.1 h
    exact ⟨string, is, hstring, his, Option.some.inj h⟩
  · rintro ⟨string, is, hstring, his, rfl⟩
    refine ⟨string, hstring, ?_⟩
    rw [his]
    rfl

theorem functionsFrom?_cons_eq_some_iff {table : StringTable} {routines rest : List Routine}
    {start : Nat} {r : Routine} {fs : List FunctionEntry} :
    functionsFrom? table routines start (r :: rest) = some fs ↔
      ∃ f more, function? table routines start r = some f ∧
        functionsFrom? table routines (start + r.size) rest = some more ∧ f :: more = fs := by
  rw [functionsFrom?]
  cases function? table routines start r with
  | none => simp
  | some f => cases functionsFrom? table routines (start + r.size) rest <;> simp

def Program.script? (p : Program) : Option Script :=
  if p.Valid then
    let table := tableFrom 0 p.strings
    (functionsFrom? table p.routines 0 p.routines).map fun functions =>
      { name := p.name, strings := table.map Prod.snd, functions }
  else none

theorem Program.script?_eq_some_iff {p : Program} {s : Script} :
    p.script? = some s ↔
      p.Valid ∧ ∃ fs, functionsFrom? (tableFrom 0 p.strings) p.routines 0 p.routines = some fs ∧
        { name := p.name, strings := (tableFrom 0 p.strings).map Prod.snd, functions := fs } =
          s := by
  rw [script?, Option.ite_none_right_eq_some, Option.map_eq_some_iff]

def assembleLines (cs : Charset) (lines : List Line) : Option Script :=
  (program? cs lines).bind Program.script?

def assemble (cs : Charset) (source : Text) : Option Script :=
  assembleLines cs (Source.lines source)

end NovelScript.Assembly.TwoPass
