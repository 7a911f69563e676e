import NovelScript.Proofs.Outcome
import NovelScript.Proofs.Renaming.Lines
import NovelScript.Proofs.Source.Declarations

/-!
Renamed lines are read as the renamed contents of the lines. Two outcomes are *alike* if both
succeed, the second one with the renamed result of the first, or if both fail with the same blame: a
fault of the same kind in the same place. The texts that faults quote may differ.
-/

namespace NovelScript

/-! ### Outcomes that are alike -/

/-- The kind of a fault and its place, without its cause. -/
inductive Blame
  | decode (position : Nat)
  | syntactic (line : Nat)
  | semantic (line : Nat)
  | encode
  deriving DecidableEq, Repr

def Fault.blame : Fault → Blame
  | decode position _ => .decode position
  | syntactic line _ => .syntactic line
  | semantic line _ => .semantic line
  | encode _ => .encode

/-- The second outcome is what `f` makes of the first one, apart from the causes of faults. -/
abbrev Alike {α β : Type} (f : α → β) : Except Fault α → Except Fault β → Prop :=
  Outcome.Follows (fun e e' => e.blame = e'.blame) f

namespace Alike

variable {α β β' : Type} {g : β → β'}

/-- What is the same in both runs is alike if its results are not renamed. -/
theorem of_eq {x : Except Fault α} {f : α → α} (h : ∀ a, x = .ok a → f a = a) : Alike f x x := by
  refine Outcome.Follows.of_eq ?_ h
  exact fun _ => rfl

/-- What is made of the same outcome is alike. -/
theorem map_same {x : Except Fault α} {u : α → β} {u' : α → β'} (hu : ∀ a, u' a = g (u a)) :
    Alike g (x.map u) (x.map u') :=
  Outcome.Follows.map (f := id) (of_eq fun _ _ => rfl) fun a _ => hu a

/-- Alike outcomes with the same results differ in the causes of faults only. -/
theorem mapError_eq {x x' : Except Fault α} (h : Alike id x x') :
    x'.mapError Fault.blame = x.mapError Fault.blame := by
  cases h with
  | ok a => rfl
  | error h => exact congrArg Except.error h.symm

end Alike

/-! ### Statements with new names -/

def Argument.rename (σ : Renaming) (function : Nat) : Argument → Argument
  | .operand o => .operand o
  | .slot name => .slot (σ (.slot function) name)
  | .string name => .string (σ .symbol name)
  | .function name => .function (σ .symbol name)
  | .label name => .label (σ (.label function) name)

def Statement.rename (σ : Renaming) (function : Nat) : Statement → Statement
  | .label name => .label (σ (.label function) name)
  | .instruction opcode arguments =>
    .instruction opcode (arguments.map (Argument.rename σ function))

namespace Renaming

variable {σ : Renaming} {role : Role} {t : Text} {function : Nat}

/-! ### Declarations -/

def renameFst {α : Type} (σ : Renaming) (role : Role) (p : Text × α) : Text × α := (σ role p.1, p.2)

theorem Lawful.splitAtFirst_token (h : σ.Lawful) {c : Char} (hc : isReserved c = true)
    (ht : c ∉ t) (rest : Text) :
    (σ.token role t ++ c :: rest).splitAtFirst (· = c) = some (σ.token role t, rest) := by
  refine Text.splitAtFirst_append (fun d hd => ?_) (decide_eq_true rfl) rest
  rw [decide_eq_false_iff_not]
  rintro rfl
  exact ht (h.mem_token hd hc)

/-- A line that is read as the definition of a string has its name in front of the equal sign. -/
theorem isSome_definition? {number : Nat} {p : Text × Text}
    (h : Declaration.stringDefinition ⟨number, t⟩ = .ok p) : (Source.definition? t).isSome := by
  obtain ⟨hassignment, -, hspace⟩ := Declaration.stringDefinition_eq_ok_iff.1 h
  obtain ⟨⟨name, value⟩, hsplit, heq⟩ := Option.map_eq_some_iff.1 hassignment
  rw [← (Prod.mk.inj heq).1] at hspace
  rw [Source.definition?, hsplit, Option.filter_some_pos (by simp only [hspace, Bool.not_false])]
  rfl

theorem Lawful.stringDefinition (h : σ.Lawful) (number : Nat) (t : Text) :
    Alike (renameFst σ .symbol) (Declaration.stringDefinition ⟨number, t⟩)
      (Declaration.stringDefinition ⟨number, σ.text .strings t⟩) := by
  cases hdefinition : Source.definition? t with
  | none =>
    rw [text_definition_of_none hdefinition]
    refine .of_eq fun p hp => ?_
    have hsome := isSome_definition? hp
    rw [hdefinition] at hsome
    exact nomatch hsome
  | some pair =>
    obtain ⟨name, value⟩ := pair
    obtain ⟨-, hequals, hspace⟩ := definition?_eq_some hdefinition
    have hold := (Option.filter_eq_some_iff.1 hdefinition).1
    have hnew : (σ.token .symbol name ++ '=' :: value).splitAtFirst (· = '=') =
        some (σ.token .symbol name, value) := h.splitAtFirst_token rfl hequals value
    have hspace' : (σ .symbol name.trim).any isSpace = false := h.any_isSpace hspace
    rw [text_definition hdefinition, Declaration.stringDefinition, Declaration.stringDefinition,
      Source.splitAssignment, Source.splitAssignment, hold, hnew]
    simp only [Option.map_some, h.trim_token, hspace, hspace', h.eq_nil_iff, Bool.false_eq_true,
      or_false]
    split
    · exact .error rfl
    · exact .ok (name.trim, value.trim)

theorem opensFunction_text (count : Nat) (t : Text) :
    Declaration.opensFunction (σ.text (.between count) t) = Declaration.opensFunction t := by
  cases hheader : Source.header? t with
  | none => rw [text_header_of_none hheader]
  | some pair =>
    obtain ⟨ht, -⟩ := header?_eq_some hheader
    have hopens (rest : Text) : Declaration.opensFunction ("function".toList ++ rest) = true :=
      Option.isSome_iff_exists.2 ⟨rest, Text.after?_eq_some_iff.2 rfl⟩
    rw [text_header hheader, List.append_assoc, hopens, ht, List.append_assoc, hopens]

/-- White space in front of a token stays. -/
theorem exists_token_cons {b : Char} (hb : isSpace b = true) (rest : Text) :
    ∃ more, σ.token role (b :: rest) = b :: more := by
  rw [token]
  split
  · have hleading : Text.leading (b :: rest) = b :: Text.leading rest :=
      List.takeWhile_cons_of_pos hb
    rw [hleading]
    exact ⟨_, rfl⟩
  · exact ⟨rest, rfl⟩

theorem Lawful.header?_text (h : σ.Lawful) {count : Nat} {name params : Text}
    (hheader : Source.header? t = some (name, params)) :
    Source.header? (σ.text (.between count) t) = some (σ.token .symbol name, params) := by
  obtain ⟨-, hcomma, b, rest, rfl, hb⟩ := header?_eq_some hheader
  obtain ⟨more, hmore⟩ : ∃ more, σ.token .symbol (b :: rest) = b :: more :=
    exists_token_cons (isSpace_of_isBlank hb) rest
  have hkeyword : Text.after? "function".toList (σ.text (.between count) t) =
      some (b :: more ++ ',' :: params) := by
    rw [text_header hheader, hmore, List.append_assoc]
    exact Text.after?_eq_some_iff.2 rfl
  rw [Source.header?, Declaration.afterKeyword?, hkeyword]
  simp only [List.cons_append, hb, if_true, Option.bind_some]
  rw [← List.cons_append, ← hmore, h.splitAtFirst_token rfl hcomma]

theorem Lawful.functionHeader (h : σ.Lawful) (number count : Nat) (t : Text) :
    Alike (renameFst σ .symbol) (Declaration.functionHeader ⟨number, t⟩)
      (Declaration.functionHeader ⟨number, σ.text (.between count) t⟩) := by
  rw [Declaration.functionHeader, Declaration.functionHeader, ← Source.header?, ← Source.header?]
  cases hheader : Source.header? t with
  | none =>
    rw [text_header_of_none hheader]
    simp only [hheader]
    exact .error rfl
  | some pair =>
    simp only [h.header?_text hheader, h.trim_token, h.eq_nil_iff]
    split
    · exact .error rfl
    · exact .map_same fun _ => rfl

/-! ### Lines of functions -/

/-- An operation with names has one operand. -/
theorem operandRole?_eq_some {opcode : Opcode}
    (h : Source.operandRole? function opcode = some role) :
    opcode ≠ .jmpa ∧ ∃ kind, opcode.operandKinds = [kind] ∧
      Source.kindRole? function kind = some role := by
  cases opcode <;> simp_all [Source.operandRole?, Opcode.operandKinds, Source.kindRole?]

theorem kindRole?_of_operandRole? {opcode : Opcode}
    (h : Source.operandRole? function opcode = none) :
    ∀ kind ∈ opcode.operandKinds, Source.kindRole? function kind = none := by
  cases opcode <;> simp_all [Source.operandRole?, Opcode.operandKinds, Source.kindRole?]

theorem isName_symbol (t : Text) (h : Number.isNumber t = true) : Role.symbol.isName t = false := by
  simp [Role.isName, h]

theorem isName_label (t : Text) (h : Number.isNumber t = true) :
    (Role.label function).isName t = false := by
  simp [Role.isName, h]

/-- Where numbers are no names, a token is read as a number in both runs or in neither of them. -/
theorem Lawful.numberOrName (h : σ.Lawful)
    (hrole : ∀ t, Number.isNumber t = true → role.isName t = false)
    {number number' name name' : Except Fault Argument}
    (hnumber : σ role t = t → Alike (Argument.rename σ function) number number')
    (hname : Alike (Argument.rename σ function) name name') :
    Alike (Argument.rename σ function) (if Number.isNumber t then number else name)
      (if Number.isNumber (σ role t) then number' else name') := by
  rw [h.isNumber hrole]
  split
  · rename_i ht
    exact hnumber (h.other (hrole t ht))
  · exact hname

theorem Lawful.argument (h : σ.Lawful) (number : Nat) {kind : OperandKind}
    (hrole : Source.kindRole? function kind = some role) (t : Text) :
    Alike (Argument.rename σ function) (Statement.argument number kind t)
      (Statement.argument number kind (σ role t)) := by
  cases kind with
  | slot =>
    obtain rfl := Option.some.inj hrole
    exact .ok (Argument.slot t)
  | function =>
    obtain rfl := Option.some.inj hrole
    exact .ok (Argument.function t)
  | constant =>
    obtain rfl := Option.some.inj hrole
    refine h.numberOrName isName_symbol (fun heq => ?_) (.ok (Argument.string t))
    rw [heq]
    exact .map_same fun _ => rfl
  | label =>
    obtain rfl := Option.some.inj hrole
    refine h.numberOrName isName_label (fun heq => ?_) (.ok (Argument.label t))
    rw [heq]
    exact .map_same fun _ => rfl
  | _ => exact nomatch hrole

/-- Operands of other kinds have no names in them. -/
theorem rename_argument_of {number : Nat} {kind : OperandKind} {a : Argument}
    (hrole : Source.kindRole? function kind = none)
    (ha : Statement.argument number kind t = .ok a) :
    a.rename σ function = a := by
  cases kind with
  | slot | constant | function | label => exact nomatch hrole
  | _ =>
    obtain ⟨n, -, rfl⟩ := Outcome.map_eq_ok_iff.1 ha
    rfl

theorem map_rename_argumentList {number : Nat} {pairs : List (OperandKind × Text)}
    {as : List Argument} (hrole : ∀ p ∈ pairs, Source.kindRole? function p.1 = none)
    (has : Statement.argumentList number pairs = .ok as) :
    as.map (Argument.rename σ function) = as := by
  induction pairs generalizing as with
  | nil =>
    obtain rfl := Except.ok.inj has
    rfl
  | cons p pairs ih =>
    obtain ⟨a, ha, has⟩ := Outcome.bind_eq_ok_iff.1 has
    obtain ⟨more, hmore, has⟩ := Outcome.bind_eq_ok_iff.1 has
    obtain rfl := Except.ok.inj has
    rw [List.map_cons, rename_argument_of (hrole p List.mem_cons_self) ha,
      ih (fun q hq => hrole q (List.mem_cons_of_mem p hq)) hmore]

/-- Operations with other operands have no names in them. -/
theorem map_rename_arguments {number : Nat} {mnemonic : Text} {opcode : Opcode} {tokens : List Text}
    {as : List Argument} (hrole : Source.operandRole? function opcode = none)
    (has : Statement.arguments number mnemonic opcode tokens = .ok as) :
    as.map (Argument.rename σ function) = as := by
  rw [Statement.arguments] at has
  split at has
  · split at has
    · exact nomatch has
    · obtain ⟨entries, -, rfl⟩ := Outcome.map_eq_ok_iff.1 has
      rfl
  · simp only at has
    split at has
    · exact nomatch has
    · refine map_rename_argumentList (fun p hp => ?_) has
      exact kindRole?_of_operandRole? hrole p.1 (List.of_mem_zip hp).1

theorem Lawful.arguments (h : σ.Lawful) (number : Nat) (mnemonic : Text) {opcode : Opcode}
    (hrole : Source.operandRole? function opcode = some role) (tokens : List Text) :
    Alike (List.map (Argument.rename σ function))
      (Statement.arguments number mnemonic opcode tokens)
      (Statement.arguments number mnemonic opcode (tokens.map (σ role))) := by
  obtain ⟨hjmpa, kind, hkinds, hkind⟩ := operandRole?_eq_some hrole
  rw [Statement.arguments, Statement.arguments, if_neg hjmpa, if_neg hjmpa]
  simp only [hkinds, List.length_map]
  split
  · exact .error rfl
  · rename_i hlength
    obtain ⟨token, rfl⟩ := List.length_eq_one_iff.1 (not_not.1 hlength).symm
    refine (h.argument number hkind token).bind fun a _ => ?_
    exact .ok [a]

theorem Lawful.eq_of_token (h : σ.Lawful) (ht : ∀ c ∈ t, isSpace c = false) :
    σ.token role t = σ role t := by
  have hspace : ∀ c ∈ σ.token role t, isSpace c = false := by
    intro c hc
    by_contra hspace
    have hreserved := isReserved_of_isSpace (Bool.of_not_eq_false hspace)
    exact hspace (ht c (h.mem_token hc hreserved))
  rw [← Text.trim_of_forall_not hspace, h.trim_token, Text.trim_of_forall_not ht]

/-- A renamed label definition is the definition of the renamed label. -/
theorem Lawful.definedLabel?_of_label (h : σ.Lawful) {name : Text}
    (hlabel : Statement.definedLabel? t = some name) :
    Statement.definedLabel? (σ.text (.inside function) t) = some (σ (.label function) name) := by
  obtain ⟨-, hne, hany⟩ := definedLabel?_eq_some_iff.1 hlabel
  rw [List.any_eq_false] at hany
  have hspace : ∀ c ∈ name, isSpace c = false := fun c hc =>
    Bool.eq_false_iff.2 fun hc' => hany c hc (by rw [hc']; rfl)
  rw [text_label hlabel, h.eq_of_token hspace, definedLabel?_eq_some_iff]
  refine ⟨rfl, fun hnil => hne (h.eq_nil_iff.1 hnil), ?_⟩
  rw [List.any_eq_false]
  intro c hc hstop
  refine hany c (h.mem hc ?_) hstop
  simp only [Bool.or_eq_true, decide_eq_true_eq] at hstop
  rcases hstop with (hstop | rfl) | rfl
  · exact isReserved_of_isSpace hstop
  · rfl
  · rfl

section Operands

variable {mnemonic operands : Text} (ht : t.trim = t) (hlabel : Statement.definedLabel? t = none)
  (hsplit : Statement.splitMnemonic t = (mnemonic, operands))
  (hrole : (Opcode.ofMnemonic? mnemonic).bind (Source.operandRole? function) = some role)

include hlabel hsplit hrole

/-- With operands a line is renamed behind its mnemonic and a gap. -/
theorem exists_text_operands (hne : operands ≠ []) (ht : t.trim = t) :
    ∃ b gap, σ.text (.inside function) t = mnemonic ++ (b :: gap) ++ σ.operands role operands ∧
      operands.trim = operands ∧ (∀ c ∈ mnemonic, isBlank c = false) ∧ isBlank b = true ∧
      ∀ c ∈ gap, isSpace c = true := by
  obtain ⟨b, gap, hold, hrest⟩ := exists_operands ht hsplit hne
  have htake : t.take (t.length - operands.length) = mnemonic ++ (b :: gap) := by
    rw [hold, List.length_append, Nat.add_sub_cancel, List.take_left]
  exact ⟨b, gap, by rw [text_operands hlabel hsplit hrole, htake], hrest⟩

theorem Lawful.text_of_no_operands (h : σ.Lawful) (hnil : operands = []) :
    σ.text (.inside function) t = t := by
  rw [text_operands hlabel hsplit hrole, h.operands_eq_nil_iff.2 hnil, hnil, List.length_nil,
    Nat.sub_zero, List.take_length, List.append_nil]

include ht

/-- The renamed operands are the operands of the renamed line. -/
theorem Lawful.splitMnemonic_text (h : σ.Lawful) :
    Statement.splitMnemonic (σ.text (.inside function) t) =
      (mnemonic, σ.operands role operands) := by
  by_cases hnil : operands = []
  · rw [h.text_of_no_operands hlabel hsplit hrole hnil, hsplit, h.operands_eq_nil_iff.2 hnil, hnil]
  · obtain ⟨b, gap, htext, htrim, hmnemonic, hb, hgap⟩ :=
      exists_text_operands hlabel hsplit hrole hnil ht
    have hblank : (σ.text (.inside function) t).splitAtFirst isBlank =
        some (mnemonic, gap ++ σ.operands role operands) := by
      rw [htext, List.append_assoc]
      exact Text.splitAtFirst_append hmnemonic hb _
    have hpad : Text.trim (gap ++ σ.operands role operands ++ []) = σ.operands role operands :=
      Text.trim_pad_of_trim hgap (h.trim_operands htrim) nofun
    rw [List.append_nil] at hpad
    rw [Statement.splitMnemonic, hblank]
    simp only [hpad]

/-- Renaming operands does not make the line define a label. -/
theorem Lawful.definedLabel?_of_operands (h : σ.Lawful) :
    Statement.definedLabel? (σ.text (.inside function) t) = none := by
  by_cases hnil : operands = []
  · rw [h.text_of_no_operands hlabel hsplit hrole hnil, hlabel]
  · obtain ⟨b, gap, htext, -, -, hb, -⟩ := exists_text_operands hlabel hsplit hrole hnil ht
    rw [Option.eq_none_iff_forall_ne_some]
    intro name hname
    obtain ⟨heq, -, hany⟩ := definedLabel?_eq_some_iff.1 hname
    rw [List.any_eq_false] at hany
    have hmem : b ∈ name ++ [':'] := by
      rw [← heq, htext]
      simp
    rcases List.mem_append.1 hmem with hmem | hmem
    · exact hany b hmem (by rw [isSpace_of_isBlank hb]; rfl)
    · obtain rfl := List.mem_singleton.1 hmem
      exact nomatch hb

end Operands

theorem Lawful.splitOperands (h : σ.Lawful) (number : Nat) (text text' operands : Text) :
    Alike (List.map (σ role)) (Statement.splitOperands ⟨number, text⟩ operands)
      (Statement.splitOperands ⟨number, text'⟩ (σ.operands role operands)) := by
  have htokens : ((σ.operands role operands).splitOn ',').map Text.trim =
      ((operands.splitOn ',').map Text.trim).map (σ role) := by
    rw [Renaming.operands, List.splitOn_intercalate, List.map_map, List.map_map]
    · exact List.map_congr_left fun token _ => h.trim_token
    · intro token htoken hmem
      obtain ⟨part, hpart, rfl⟩ := List.mem_map.1 htoken
      exact Text.not_mem_of_mem_splitOn hpart (h.mem_token hmem rfl)
    · exact fun hnil => List.splitOn_ne_nil ',' operands (List.map_eq_nil_iff.1 hnil)
  have hempty (tokens : List Text) : [] ∈ tokens.map (σ role) ↔ [] ∈ tokens := by
    rw [List.mem_map]
    constructor
    · rintro ⟨token, htoken, hnil⟩
      rwa [← h.eq_nil_iff.1 hnil]
    · exact fun hmem => ⟨[], hmem, h.nil role⟩
  rw [Statement.splitOperands, Statement.splitOperands]
  simp only [h.operands_eq_nil_iff, htokens, hempty]
  split
  · exact .ok []
  · split
    · exact .error rfl
    · exact .ok _

theorem Lawful.parse (h : σ.Lawful) (number : Nat) (ht : t.trim = t) :
    Alike (Statement.rename σ function) (Statement.parse ⟨number, t⟩)
      (Statement.parse ⟨number, σ.text (.inside function) t⟩) := by
  rw [Statement.parse, Statement.parse]
  cases hlabel : Statement.definedLabel? t with
  | some name =>
    simp only [h.definedLabel?_of_label hlabel]
    exact .ok (Statement.label name)
  | none =>
    obtain ⟨mnemonic, operands, hsplit⟩ : ∃ mnemonic operands,
        Statement.splitMnemonic t = (mnemonic, operands) := ⟨_, _, rfl⟩
    cases hrole : (Opcode.ofMnemonic? mnemonic).bind (Source.operandRole? function) with
    | none =>
      rw [text_operands_of_none hlabel hsplit hrole]
      simp only [hlabel, hsplit]
      refine .of_eq fun statement hstatement => ?_
      obtain ⟨tokens, -, hstatement⟩ := Outcome.bind_eq_ok_iff.1 hstatement
      cases hopcode : Opcode.ofMnemonic? mnemonic with
      | none =>
        rw [hopcode] at hstatement
        exact nomatch hstatement
      | some opcode =>
        rw [hopcode] at hstatement hrole
        obtain ⟨as, has, hstatement⟩ := Outcome.bind_eq_ok_iff.1 hstatement
        obtain rfl := Except.ok.inj hstatement
        rw [Statement.rename, map_rename_arguments hrole has]
    | some role =>
      obtain ⟨opcode, hopcode, hrole'⟩ := Option.bind_eq_some_iff.1 hrole
      simp only [h.definedLabel?_of_operands ht hlabel hsplit hrole, hsplit,
        h.splitMnemonic_text ht hlabel hsplit hrole, hopcode]
      refine (h.splitOperands number t _ operands).bind fun tokens _ => ?_
      refine (h.arguments number mnemonic hrole' tokens).bind fun as _ => ?_
      exact .ok (Statement.instruction opcode as)

/-! ### Keywords -/

/-- Only the end of the strings is renamed to the end of the strings. -/
theorem text_eq_endstrings :
    σ.text .strings t = "endstrings".toList ↔ t = "endstrings".toList := by
  cases hdefinition : Source.definition? t with
  | none => rw [text_definition_of_none hdefinition]
  | some pair =>
    have hequals (front value : Text) : front ++ '=' :: value ≠ "endstrings".toList := by
      intro heq
      have hmem : '=' ∈ "endstrings".toList := by
        rw [← heq]
        simp
      exact absurd hmem (by decide)
    rw [text_definition hdefinition, (definition?_eq_some hdefinition).1]
    exact iff_of_false (hequals _ _) (hequals _ _)

/-- Only the end of a function is renamed to the end of a function. -/
theorem Lawful.text_eq_endfunction (h : σ.Lawful) (ht : t.trim = t) :
    σ.text (.inside function) t = "endfunction".toList ↔ t = "endfunction".toList := by
  have hlabel : Statement.definedLabel? "endfunction".toList = none := by decide
  have hsplit :
      Statement.splitMnemonic "endfunction".toList = ("endfunction".toList, []) := by decide
  have hopcode : Opcode.ofMnemonic? "endfunction".toList = none := by decide
  constructor
  · intro hend
    cases hlabel' : Statement.definedLabel? t with
    | some name =>
      have hnew : Statement.definedLabel? (σ.text (.inside function) t) =
          some (σ (.label function) name) := h.definedLabel?_of_label hlabel'
      rw [hend, hlabel] at hnew
      exact nomatch hnew
    | none =>
      obtain ⟨mnemonic, operands, hsplit'⟩ : ∃ mnemonic operands,
          Statement.splitMnemonic t = (mnemonic, operands) := ⟨_, _, rfl⟩
      cases hrole : (Opcode.ofMnemonic? mnemonic).bind (Source.operandRole? function) with
      | none => rwa [text_operands_of_none hlabel' hsplit' hrole] at hend
      | some role =>
        have hnew := h.splitMnemonic_text ht hlabel' hsplit' hrole
        rw [hend, hsplit] at hnew
        rw [← (Prod.mk.inj hnew).1, hopcode] at hrole
        exact nomatch hrole
  · rintro rfl
    refine text_operands_of_none hlabel hsplit ?_
    rw [hopcode]
    rfl

end Renaming

end NovelScript
