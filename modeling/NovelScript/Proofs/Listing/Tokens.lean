import NovelScript.Listing.Block
import NovelScript.Proofs.Assembly.TwoPass
import NovelScript.Proofs.Source.Lines
import NovelScript.Proofs.Source.Numbers

/-!
The words of a listing and the lines inside of its functions. A *token* is one word wherever it
stands on a line; everything that a listing writes for an operand is made of tokens. The line for an
instruction is cleaned to its mnemonic and its tokens (`clean_instructionLine`), and is read as
exactly these (`ofText?_instructionText`).
-/

namespace NovelScript.Listing

open Assembly

/-! ### Tokens -/

/-- A text that is one word of a source line: nothing in it separates words, begins a comment or a
literal, or marks a label. -/
@[mk_iff] structure IsToken (t : Text) : Prop where
  ne_nil : t ≠ []
  plain : ∀ c ∈ t, isSpace c = false ∧ isPunctuation c = false

instance (t : Text) : Decidable (IsToken t) :=
  decidable_of_iff ((!t.isEmpty && t.all fun c => !isSpace c && !isPunctuation c) = true) <| by
    simp [isToken_iff]

theorem IsToken.solid {t : Text} (h : IsToken t) : t.Solid :=
  .of_forall h.ne_nil fun c hc => (h.plain c hc).1

theorem IsToken.not_mem {t : Text} (h : IsToken t) {c : Char}
    (hc : (isSpace c || isPunctuation c) = true) : c ∉ t := by
  intro hmem
  obtain ⟨hspace, hpunctuation⟩ := h.plain c hmem
  rw [hspace, hpunctuation] at hc
  exact nomatch hc

theorem inert_of_isPunctuation {c : Char} (h : isPunctuation c = false) : Source.Inert c := by
  constructor <;> rintro rfl <;> simp [isPunctuation] at h

theorem IsToken.append {s t : Text} (hs : IsToken s) (ht : IsToken t) : IsToken (s ++ t) where
  ne_nil := List.append_ne_nil_of_left_ne_nil hs.ne_nil t
  plain c hc := (List.mem_append.1 hc).elim (hs.plain c) (ht.plain c)

theorem isToken_hex (width n : Nat) : IsToken (Numeral.hex width n) where
  ne_nil := Numeral.hex_ne_nil width n
  plain _ hc :=
    Numeral.forall_mem_hex (P := fun c => isSpace c = false ∧ isPunctuation c = false)
      (by decide) hc

theorem isToken_decimal (n : Nat) : IsToken (Numeral.decimal n) where
  ne_nil := Numeral.decimal_ne_nil n
  plain _ hc :=
    Numeral.forall_mem_decimal (P := fun c => isSpace c = false ∧ isPunctuation c = false)
      (by decide) hc

theorem isToken_signed (i : Int) : IsToken (Numeral.signed i) := by
  cases i with
  | ofNat n => exact isToken_decimal n
  | negSucc n => exact IsToken.append (s := ['-']) (by decide) (isToken_decimal (n + 1))

theorem isToken_hexLiteral (width n : Nat) : IsToken (hexLiteral width n) :=
  IsToken.append (s := ['0', 'x']) (by decide) (isToken_hex width n)

theorem isToken_mnemonic (opcode : Opcode) : IsToken opcode.mnemonic.toList := by
  cases opcode <;> decide

/-! ### Tokens joined by commas -/

theorem solid_intercalate {tokens : List Text} (hne : tokens ≠ [])
    (h : ∀ t ∈ tokens, IsToken t) : Text.Solid ([','].intercalate tokens) := by
  induction tokens with
  | nil => exact absurd rfl hne
  | cons t tokens ih =>
    have ht := (h t List.mem_cons_self).solid
    by_cases hnil : tokens = []
    · rw [hnil, List.intercalate_singleton]
      exact ht
    · rw [List.intercalate_cons_of_ne_nil hnil]
      exact ht.append (ih hnil fun t' ht' => h t' (List.mem_cons_of_mem t ht')) [',']

theorem tokens?_intercalate {tokens : List Text} (h : ∀ t ∈ tokens, IsToken t) :
    TwoPass.tokens? ([','].intercalate tokens) = some tokens := by
  by_cases hnil : tokens = []
  · rw [hnil]
    rfl
  · have hsplit : ([','].intercalate tokens).splitOn ',' = tokens :=
      List.splitOn_intercalate ',' (fun t ht => (h t ht).not_mem (by decide)) hnil
    have htrim : tokens.map Text.trim = tokens := by
      rw [List.map_congr_left fun t ht => Text.trim_of_solid (h t ht).solid, List.map_id']
    have hempty : ¬ tokens.contains [] := by
      rw [List.contains_iff_mem]
      exact fun hmem => (h [] hmem).ne_nil rfl
    rw [TwoPass.tokens?, if_neg (solid_intercalate hnil h).ne_nil, hsplit, htrim]
    exact if_neg hempty

/-! ### Instructions -/

def instructionText (opcode : Opcode) (tokens : List Text) : Text :=
  opcode.mnemonic.toList ++ if tokens = [] then [] else '\t' :: [','].intercalate tokens

theorem mem_instructionText {opcode : Opcode} {tokens : List Text}
    (h : ∀ t ∈ tokens, IsToken t) {c : Char} (hc : c ∈ instructionText opcode tokens) :
    c = '\t' ∨ c = ',' ∨ isSpace c = false ∧ isPunctuation c = false := by
  rcases List.mem_append.1 hc with hc | hc
  · exact .inr (.inr ((isToken_mnemonic opcode).plain c hc))
  · split at hc
    · exact nomatch hc
    · rcases List.mem_cons.1 hc with hc | hc
      · exact .inl hc
      · rcases Text.mem_intercalate hc with hc | ⟨t, ht, hc⟩
        · exact .inr (.inl (List.mem_singleton.1 hc))
        · exact .inr (.inr ((h t ht).plain c hc))

theorem solid_instructionText (opcode : Opcode) {tokens : List Text}
    (h : ∀ t ∈ tokens, IsToken t) : (instructionText opcode tokens).Solid := by
  have hmnemonic := (isToken_mnemonic opcode).solid
  rw [instructionText]
  split
  · rw [List.append_nil]
    exact hmnemonic
  · rename_i hne
    have happend := hmnemonic.append (solid_intercalate hne h) ['\t']
    rw [List.append_assoc] at happend
    exact happend

theorem splitMnemonic_instructionText (opcode : Opcode) {tokens : List Text}
    (h : ∀ t ∈ tokens, IsToken t) :
    Statement.splitMnemonic (instructionText opcode tokens) =
      (opcode.mnemonic.toList, [','].intercalate tokens) := by
  have hblank : ∀ c ∈ opcode.mnemonic.toList, isBlank c = false := by
    intro c hc
    rw [Bool.eq_false_iff]
    intro hblank
    have hspace := ((isToken_mnemonic opcode).plain c hc).1
    exact absurd (hspace.symm.trans (isSpace_of_isBlank hblank)) (by decide)
  rw [Statement.splitMnemonic, instructionText]
  by_cases hnil : tokens = []
  · rw [if_pos hnil, List.append_nil, Text.splitAtFirst_eq_none hblank, hnil]
    rfl
  · rw [if_neg hnil, Text.splitAtFirst_append hblank (by decide)]
    show (_, Text.trim _) = _
    rw [Text.trim_of_solid (solid_intercalate hnil h)]

theorem ofText?_instructionText (opcode : Opcode) {tokens : List Text}
    (h : ∀ t ∈ tokens, IsToken t) :
    TwoPass.Entry.ofText? (instructionText opcode tokens) = some (.instruction opcode tokens) := by
  have hcolon : (instructionText opcode tokens).getLast? ≠ some ':' := by
    intro hlast
    rcases mem_instructionText h (List.mem_of_getLast? hlast) with hc | hc | ⟨-, hc⟩
    · exact absurd hc (by decide)
    · exact absurd hc (by decide)
    · exact absurd hc (by decide)
  have hlabel : Statement.definedLabel? (instructionText opcode tokens) = none :=
    if_neg fun hdefined => hcolon hdefined.1
  rw [TwoPass.Entry.ofText?, hlabel]
  simp only [splitMnemonic_instructionText opcode h, tokens?_intercalate h,
    Opcode.ofMnemonic?_mnemonic]
  rfl

/-- Where the text of operands is empty, a line ends in at most one more blank. -/
theorem exists_padding (opcode : Opcode) {texts tokens : List Text}
    (hjoin : [','].intercalate texts = [','].intercalate tokens)
    (hnil : texts = [] → tokens = []) :
    ∃ back, (∀ c ∈ back, isBlank c = true) ∧
      '\t' :: opcode.mnemonic.toList ++
          (if texts = [] then [] else '\t' :: List.intercalate [','] texts) =
        ['\t'] ++ instructionText opcode tokens ++ back := by
  rw [instructionText]
  by_cases htokens : tokens = []
  · rw [htokens, List.intercalate_nil] at hjoin
    rw [if_pos htokens]
    by_cases htexts : texts = []
    · exact ⟨[], nofun, by rw [if_pos htexts]; simp⟩
    · exact ⟨['\t'], by simp [isBlank], by rw [if_neg htexts, hjoin]; simp⟩
  · have htexts : texts ≠ [] := fun htexts => htokens (hnil htexts)
    exact ⟨[], nofun, by rw [if_neg htokens, if_neg htexts, hjoin]; simp⟩

/-- Of the line for an instruction the mnemonic and the tokens are left. -/
theorem clean_instructionLine (i : Instruction) {texts tokens : List Text}
    (hjoin : [','].intercalate texts = [','].intercalate tokens)
    (hnil : texts = [] → tokens = []) (h : ∀ t ∈ tokens, IsToken t) :
    Source.clean (instructionLine i texts) = instructionText i.opcode tokens := by
  obtain ⟨back, hback, hline⟩ := exists_padding i.opcode hjoin hnil
  have hsolid := solid_instructionText i.opcode h
  have hpass : Source.Passes .outside (['\t'] ++ instructionText i.opcode tokens ++ back)
      .outside := by
    apply Source.Passes.plain
    intro c hc
    rcases List.mem_append.1 hc with hc | hc
    · rcases List.mem_append.1 hc with hc | hc
      · rw [List.mem_singleton.1 hc]
        exact Source.inert_of_isBlank rfl
      · rcases mem_instructionText h hc with rfl | rfl | hc
        · exact Source.inert_of_isBlank rfl
        · simp [Source.inert_iff]
        · exact inert_of_isPunctuation hc.2
    · exact Source.inert_of_isBlank (hback c hc)
  rw [instructionLine, hline]
  split
  · rw [List.append_nil]
    exact Source.clean_padded rfl (by simp [isBlank]) hsolid hback hpass.stripComment_eq
  · rw [← List.append_assoc]
    exact Source.clean_commented (by simp [isBlank]) hsolid hback hpass _

theorem isToken_operandComment {o : Operand} {t : Text} (h : operandComment? o = some t) :
    IsToken t := by
  cases o with
  | byte value =>
    rw [operandComment?] at h
    split at h
    · exact nomatch h
    · obtain rfl := Option.some.inj h
      exact isToken_decimal _
  | word value =>
    rw [operandComment?] at h
    split at h
    · obtain rfl := Option.some.inj h
      exact isToken_signed _
    · exact nomatch h
  | _ => exact nomatch h

theorem lineFeed_not_mem_instructionLine (i : Instruction) {texts tokens : List Text}
    (hjoin : [','].intercalate texts = [','].intercalate tokens)
    (hnil : texts = [] → tokens = []) (h : ∀ t ∈ tokens, IsToken t) :
    '\n' ∉ instructionLine i texts := by
  obtain ⟨back, hback, hline⟩ := exists_padding i.opcode hjoin hnil
  rw [instructionLine, hline]
  intro hmem
  rcases List.mem_append.1 hmem with hmem | hmem
  · rcases List.mem_append.1 hmem with hmem | hmem
    · rcases List.mem_append.1 hmem with hmem | hmem
      · exact absurd hmem (by decide)
      · exact absurd (mem_instructionText h hmem) (by decide)
    · exact absurd (hback _ hmem) (by decide)
  · split at hmem
    · exact nomatch hmem
    · rcases List.mem_append.1 hmem with hmem | hmem
      · exact absurd hmem (by decide)
      · rcases Text.mem_intercalate hmem with hmem | ⟨t, ht, hmem⟩
        · exact absurd hmem (by decide)
        · obtain ⟨o, -, ho⟩ := List.mem_filterMap.1 ht
          exact (isToken_operandComment ho).not_mem (by decide) hmem

/-! ### Labels and other made names -/

theorem isToken_syntheticName {kind : String} (h : IsToken kind.toList) (address : UInt32) :
    IsToken (syntheticName kind address) :=
  h.append (IsToken.append (s := ['_']) (by decide) (isToken_hex _ _))

theorem isToken_labelName (address : UInt32) : IsToken (labelName address) :=
  isToken_syntheticName (by decide) address

theorem isToken_stringSymbol (pos : UInt32) : IsToken (stringSymbol pos) :=
  isToken_syntheticName (by decide) pos

@[simp] theorem syntheticName_inj {kind : String} {a b : UInt32} :
    syntheticName kind a = syntheticName kind b ↔ a = b := by
  constructor
  · intro h
    have hdigits := List.cons.inj (List.append_cancel_left h)
    have hvalue := congrArg (Numeral.value 16) hdigits.2
    rw [Numeral.value_hex, Numeral.value_hex] at hvalue
    exact UInt32.toNat_inj.1 hvalue
  · rintro rfl
    rfl

theorem ofText?_label {name : Text} (h : IsToken name) :
    TwoPass.Entry.ofText? (name ++ [':']) = some (.label name) := by
  have hplain : ¬ name.any (fun c => isSpace c || c = ',' || c = ':') := by
    rw [Bool.not_eq_true, List.any_eq_false]
    intro c hc hbad
    have hne {d : Char} (hd : (isSpace d || isPunctuation d) = true) : c ≠ d := by
      rintro rfl
      exact h.not_mem hd hc
    rw [(h.plain c hc).1, decide_eq_false (hne (by decide)),
      decide_eq_false (hne (by decide))] at hbad
    exact nomatch hbad
  have hlabel : Statement.definedLabel? (name ++ [':']) = some name := by
    rw [Statement.definedLabel?, List.dropLast_concat, List.getLast?_concat]
    exact if_pos ⟨rfl, h.ne_nil, hplain⟩
  rw [TwoPass.Entry.ofText?, hlabel]

/-- Text without quotes and comment signs that begins and ends in visible characters stands on a
line as it is. -/
theorem clean_plain {t : Text} (ht : t.Solid) (h : ∀ c ∈ t, Source.Inert c) :
    Source.clean t = t := by
  have hline : t = [] ++ t ++ [] := (List.append_nil t).symm
  exact Source.clean_padded hline nofun ht nofun (Source.Passes.plain h).stripComment_eq

end NovelScript.Listing
