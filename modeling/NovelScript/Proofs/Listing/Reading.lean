import NovelScript.Listing.Disassemble
import NovelScript.Proofs.Association
import NovelScript.Proofs.Listing.Tokens
import NovelScript.Proofs.Source.Declarations
import NovelScript.Proofs.Source.Comments

/-!
What the first pass of the two-pass assembler reads in the lines of a listing, for each kind of
line: inside of functions (`routines?_body`), at their ends, in the string block (`strings?_block`)
and at the top (`scriptName_header`).
-/

namespace NovelScript.Listing

open Assembly

/-! ### Lines inside of functions -/

structure ReadAs (ls : List Text) (entries : List TwoPass.Entry) : Prop where
  entries_eq : ls.map (fun l => TwoPass.Entry.ofText? (Source.clean l)) = entries.map some
  lineFeed : ∀ l ∈ ls, '\n' ∉ l

theorem ReadAs.nil : ReadAs [] [] := ⟨rfl, nofun⟩

theorem ReadAs.append {ls ls' : List Text} {entries entries' : List TwoPass.Entry}
    (h : ReadAs ls entries) (h' : ReadAs ls' entries') :
    ReadAs (ls ++ ls') (entries ++ entries') where
  entries_eq := by rw [List.map_append, List.map_append, h.entries_eq, h'.entries_eq]
  lineFeed l hl := (List.mem_append.1 hl).elim (h.lineFeed l) (h'.lineFeed l)

theorem readAs_label {name : Text} (h : IsToken name) : ReadAs [name ++ [':']] [.label name] := by
  have hcolon : Text.Solid [':'] := .of_forall (List.cons_ne_nil _ _) (by simp [isSpace])
  have hsolid : (name ++ [':']).Solid := by
    have happend := h.solid.append hcolon []
    rw [List.append_nil] at happend
    exact happend
  have hplain : ∀ c ∈ name ++ [':'], Source.Inert c := by
    intro c hc
    rcases List.mem_append.1 hc with hc | hc
    · exact inert_of_isPunctuation (h.plain c hc).2
    · rw [List.mem_singleton.1 hc]
      simp [Source.inert_iff]
  constructor
  · rw [List.map_singleton, clean_plain hsolid hplain, ofText?_label h]
    rfl
  · intro l hl
    rw [List.mem_singleton.1 hl, List.mem_append, not_or]
    exact ⟨h.not_mem (by decide), by decide⟩

theorem readAs_instruction (i : Instruction) {texts tokens : List Text}
    (hjoin : [','].intercalate texts = [','].intercalate tokens)
    (hnil : texts = [] → tokens = []) (h : ∀ t ∈ tokens, IsToken t) :
    ReadAs [instructionLine i texts] [.instruction i.opcode tokens] := by
  constructor
  · rw [List.map_singleton, clean_instructionLine i hjoin hnil h,
      ofText?_instructionText i.opcode h]
    rfl
  · intro l hl
    rw [List.mem_singleton.1 hl]
    exact lineFeed_not_mem_instructionLine i hjoin hnil h

theorem routines?_line {l : Text} {e : TwoPass.Entry}
    (h : TwoPass.Entry.ofText? (Source.clean l) = some e) (r : TwoPass.Routine) (n : Nat)
    (rest : List Text) :
    TwoPass.routines? (some r) (Source.numberLines n ((l :: rest).map Text.dropReturn)) =
      TwoPass.routines? (some { r with body := r.body ++ [e] })
        (Source.numberLines (n + 1) (rest.map Text.dropReturn)) := by
  have hne : Source.clean l ≠ [] := by
    intro hnil
    have hentry : TwoPass.Entry.ofText? [] = none := by decide
    rw [hnil, hentry] at h
    exact nomatch h
  have hend : Source.clean l ≠ "endfunction".toList := by
    intro heq
    have hentry : TwoPass.Entry.ofText? "endfunction".toList = none := by decide
    rw [heq, hentry] at h
    exact nomatch h
  rw [Source.numberLines_kept hne, TwoPass.routines?, if_neg hend, h]
  rfl

theorem routines?_body {ls : List Text} {entries : List TwoPass.Entry} (h : ReadAs ls entries)
    (r : TwoPass.Routine) (n : Nat) (rest : List Text) :
    TwoPass.routines? (some r) (Source.numberLines n ((ls ++ rest).map Text.dropReturn)) =
      TwoPass.routines? (some { r with body := r.body ++ entries })
        (Source.numberLines (n + ls.length) (rest.map Text.dropReturn)) := by
  obtain ⟨hentries, -⟩ := h
  -- the entries of the lines already read are in the body of `r`
  induction ls generalizing entries r n with
  | nil =>
    rw [List.map_nil, eq_comm, List.map_eq_nil_iff] at hentries
    rw [hentries, List.append_nil]
    rfl
  | cons l ls ih =>
    cases entries with
    | nil => exact nomatch hentries
    | cons e entries =>
      obtain ⟨he, hrest⟩ := List.cons.inj hentries
      have hbody : r.body ++ e :: entries = r.body ++ [e] ++ entries := by simp
      have hcount : n + (l :: ls).length = n + 1 + ls.length := by
        rw [List.length_cons]
        omega
      rw [List.cons_append, routines?_line he, ih { r with body := r.body ++ [e] } (n + 1) hrest,
        hbody, hcount]

/-! ### Lines around functions -/

theorem routines?_end (r : TwoPass.Routine) (n : Nat) (rest : List Text) :
    TwoPass.routines? (some r)
        (Source.numberLines n (("endfunction".toList :: rest).map Text.dropReturn)) =
      (TwoPass.routines? none
        (Source.numberLines (n + 1) (rest.map Text.dropReturn))).map (r :: ·) := by
  have hclean : Source.clean "endfunction".toList = "endfunction".toList := by decide
  rw [Source.numberLines_kept (by rw [hclean]; decide), TwoPass.routines?, if_pos hclean]

def headerText (name : Text) (params : UInt32) : Text :=
  "function ".toList ++ name ++ ',' :: Numeral.decimal params.toNat

theorem mem_headerText {name : Text} (h : IsToken name) {params : UInt32} {c : Char}
    (hc : c ∈ headerText name params) :
    c = ' ' ∨ c = ',' ∨ isSpace c = false ∧ isPunctuation c = false := by
  have hkeyword : ∀ d ∈ "function ".toList,
      d = ' ' ∨ d = ',' ∨ isSpace d = false ∧ isPunctuation d = false := by
    simp [isSpace, isPunctuation]
  rcases List.mem_append.1 hc with hc | hc
  · rcases List.mem_append.1 hc with hc | hc
    · exact hkeyword c hc
    · exact .inr (.inr (h.plain c hc))
  · rcases List.mem_cons.1 hc with hc | hc
    · exact .inr (.inl hc)
    · exact .inr (.inr ((isToken_decimal params.toNat).plain c hc))

theorem functionHeader_headerText {name : Text} (h : IsToken name) (params : UInt32) (n : Nat) :
    Declaration.functionHeader ⟨n, headerText name params⟩ = .ok (name, params) := by
  -- the first comma of the line is the one behind the name
  have hstop : ∀ c ∈ ' ' :: name, decide (c = ',') = false := by
    intro c hc
    rw [decide_eq_false_iff_not]
    rintro rfl
    rcases List.mem_cons.1 hc with hc | hc
    · exact absurd hc (by decide)
    · exact h.not_mem (by decide) hc
  have htrim : Text.trim (' ' :: name) = name := Text.trim_cons_blank h.solid
  refine Declaration.functionHeader_eq_ok_iff.2
    ⟨' ' :: name ++ ',' :: Numeral.decimal params.toNat, ' ' :: name,
      Numeral.decimal params.toNat, ?_, ?_, htrim, h.ne_nil, ?_⟩
  · have hafter : Text.after? "function".toList (headerText name params) =
        some (' ' :: name ++ ',' :: Numeral.decimal params.toNat) :=
      Text.after?_eq_some_iff.2 rfl
    rw [Declaration.afterKeyword?, hafter]
    rfl
  · exact Text.splitAtFirst_append hstop rfl _
  · rw [Text.trim_of_solid (isToken_decimal _).solid]
    exact Number.count_decimal n params

theorem routines?_header {name : Text} (h : IsToken name) (params : UInt32) (n : Nat)
    (rest : List Text) :
    TwoPass.routines? none
        (Source.numberLines n ((headerText name params :: rest).map Text.dropReturn)) =
      TwoPass.routines? (some { name, params })
        (Source.numberLines (n + 1) (rest.map Text.dropReturn)) := by
  have hsolid : (headerText name params).Solid := by
    have hfront : Text.Solid "function".toList := IsToken.solid (by decide)
    have happend := hfront.append (isToken_decimal params.toNat).solid (' ' :: name ++ [','])
    have htext (keyword : Text) : keyword ++ [' '] ++ name ++ ',' :: Numeral.decimal params.toNat =
        keyword ++ (' ' :: name ++ [',']) ++ Numeral.decimal params.toNat := by
      simp
    rw [← htext] at happend
    exact happend
  have hclean : Source.clean (headerText name params) = headerText name params := by
    apply clean_plain hsolid
    intro c hc
    rcases mem_headerText h hc with rfl | rfl | hc
    · exact Source.inert_of_isBlank rfl
    · simp [Source.inert_iff]
    · exact inert_of_isPunctuation hc.2
  rw [Source.numberLines_kept (by rw [hclean]; exact hsolid.ne_nil), TwoPass.routines?, hclean,
    functionHeader_headerText h]
  rfl

/-! ### Lines of strings -/

def definitionText (cs : Charset) (name : Text) (bytes : Bytes) : Text :=
  name ++ " = ".toList ++ Literal.quote cs bytes

theorem solid_definitionText (cs : Charset) {name : Text} (h : IsToken name) (bytes : Bytes) :
    (definitionText cs name bytes).Solid :=
  h.solid.append (Literal.solid_quote cs bytes) " = ".toList

/-- No comment begins in the definition of a string. -/
theorem passes_definitionText (cs : Charset) {name : Text} (h : IsToken name) (bytes : Bytes) :
    Source.Passes .outside ('\t' :: definitionText cs name bytes) .outside := by
  have hname : Source.Passes .outside ('\t' :: name) .outside := by
    apply Source.Passes.plain
    intro c hc
    rcases List.mem_cons.1 hc with rfl | hc
    · exact Source.inert_of_isBlank rfl
    · exact inert_of_isPunctuation (h.plain c hc).2
  have hequal : Source.Passes .outside " = ".toList .outside :=
    .plain (by simp [Source.inert_iff])
  exact (hname.append hequal).append (Literal.passes_quote cs bytes)

/-- A definition is read without the comment that names the speaker. -/
theorem clean_stringLine (cs : Charset) (symbols : Symbols) (speakers : List (UInt32 × Text))
    (s : StringEntry) (h : IsToken ((symbols.string? s.pos).getD (stringSymbol s.pos))) :
    Source.clean (stringLine cs symbols speakers s) =
      definitionText cs ((symbols.string? s.pos).getD (stringSymbol s.pos)) s.bytes := by
  rw [stringLine]
  generalize (symbols.string? s.pos).getD (stringSymbol s.pos) = name at h
  have hblank : ∀ c ∈ ([] : Text), isBlank c = true := nofun
  have hsolid := solid_definitionText cs h s.bytes
  have hpass :
      Source.Passes .outside (['\t'] ++ definitionText cs name s.bytes ++ []) .outside := by
    rw [List.append_nil]
    exact passes_definitionText cs h s.bytes
  have hstart : '\t' :: name ++ " = ".toList ++ Literal.quote cs s.bytes =
      ['\t'] ++ definitionText cs name s.bytes ++ [] := by
    rw [List.append_nil]
    rfl
  cases speakers.lookup s.pos with
  | none =>
    show Source.clean ('\t' :: name ++ " = ".toList ++ Literal.quote cs s.bytes ++ []) = _
    rw [List.append_nil, hstart]
    exact Source.clean_padded rfl (by simp [isBlank]) hsolid hblank hpass.stripComment_eq
  | some speaker =>
    have hclean := Source.clean_commented (by simp [isBlank]) hsolid hblank hpass speaker
    rw [← hstart, List.append_assoc] at hclean
    exact hclean

theorem splitAssignment_definitionText (cs : Charset) {name : Text} (h : IsToken name)
    (bytes : Bytes) :
    Source.splitAssignment (definitionText cs name bytes) =
      some (name, Literal.quote cs bytes) :=
  Source.splitAssignment_append h.solid (h.not_mem (by decide)) (Literal.solid_quote cs bytes)

theorem string?_definitionText (cs : Charset) {name : Text} (h : IsToken name) {bytes : Bytes}
    (hzero : 0 ∉ bytes) (n : Nat) :
    TwoPass.string? cs ⟨n, definitionText cs name bytes⟩ = some (name, bytes) := by
  obtain ⟨pieces, hpieces, hencode⟩ := Literal.exists_parse_quote cs bytes
  have hspace : name.any isSpace = false :=
    List.any_eq_false.2 fun c hc => by rw [(h.plain c hc).1]; exact Bool.false_ne_true
  exact TwoPass.string?_eq_some_iff.2
    ⟨_, pieces, splitAssignment_definitionText cs h bytes, h.ne_nil, hspace, hpieces, hencode,
      hzero⟩

theorem definitionText_ne_end (cs : Charset) (name : Text) (bytes : Bytes) :
    definitionText cs name bytes ≠ "endstrings".toList := by
  intro heq
  have hequal : '=' ∈ definitionText cs name bytes := by simp [definitionText]
  rw [heq] at hequal
  exact absurd hequal (by decide)

theorem strings?_block {cs : Charset} {ls : List Text} {strings : List (Text × Bytes)}
    (h : ls.map Source.clean = strings.map fun s => definitionText cs s.1 s.2)
    (hstrings : ∀ s ∈ strings, IsToken s.1 ∧ 0 ∉ s.2) (n : Nat) (rest : List Text) :
    TwoPass.strings? cs
        (Source.numberLines n ((ls ++ "endstrings".toList :: rest).map Text.dropReturn)) =
      some (strings, Source.numberLines (n + ls.length + 1) (rest.map Text.dropReturn)) := by
  induction ls generalizing strings n with
  | nil =>
    have hclean : Source.clean "endstrings".toList = "endstrings".toList := by decide
    rw [List.map_nil, eq_comm, List.map_eq_nil_iff] at h
    rw [h, List.nil_append, Source.numberLines_kept (by rw [hclean]; decide), TwoPass.strings?,
      if_pos hclean]
    rfl
  | cons l ls ih =>
    cases strings with
    | nil => cases h
    | cons s strings =>
      obtain ⟨hl, hls⟩ := List.cons.inj h
      obtain ⟨hname, hzero⟩ := hstrings s List.mem_cons_self
      have hne : Source.clean l ≠ [] := by
        rw [hl]
        exact (solid_definitionText cs hname s.2).ne_nil
      have hend : Source.clean l ≠ "endstrings".toList := by
        rw [hl]
        exact definitionText_ne_end cs s.1 s.2
      have hrest := ih hls (fun s' hs' => hstrings s' (List.mem_cons_of_mem s hs')) (n + 1)
      have hcount : n + (l :: ls).length + 1 = n + 1 + ls.length + 1 := by
        rw [List.length_cons]
        omega
      rw [List.cons_append, Source.numberLines_kept hne, hcount,
        TwoPass.strings?_cons_eq_some_iff hend, hl]
      exact ⟨s, strings, string?_definitionText cs hname hzero n, hrest, rfl⟩

theorem lineFeed_not_mem_stringLine (cs : Charset) (symbols : Symbols)
    {speakers : List (UInt32 × Text)} (hspeakers : ∀ p ∈ speakers, '\n' ∉ p.2) (s : StringEntry)
    (h : IsToken ((symbols.string? s.pos).getD (stringSymbol s.pos))) :
    '\n' ∉ stringLine cs symbols speakers s := by
  have hequal : '\n' ∉ " = ".toList := by decide
  have hsign : '\n' ∉ "\t; ".toList := by decide
  rw [stringLine]
  intro hmem
  rcases List.mem_append.1 hmem with hmem | hmem
  · rcases List.mem_append.1 hmem with hmem | hmem
    · rcases List.mem_append.1 hmem with hmem | hmem
      · exact h.not_mem (by decide) (List.mem_of_ne_of_mem (by decide) hmem)
      · exact hequal hmem
    · exact Literal.lineFeed_not_mem_quote cs s.bytes hmem
  · split at hmem
    · rename_i speaker hlookup
      rcases List.mem_append.1 hmem with hmem | hmem
      · exact hsign hmem
      · exact hspeakers _ (Association.mem_of_lookup hlookup) hmem
    · exact nomatch hmem

/-! ### The top of a listing -/

theorem numberLines_comments {ls : List Text} (h : ∀ l ∈ ls, Source.clean l = []) (n : Nat)
    (rest : List Text) :
    Source.numberLines n ((ls ++ rest).map Text.dropReturn) =
      Source.numberLines (n + ls.length) (rest.map Text.dropReturn) := by
  induction ls generalizing n with
  | nil => rfl
  | cons l ls ih =>
    have hcount : n + (l :: ls).length = n + 1 + ls.length := by
      rw [List.length_cons]
      omega
    rw [List.cons_append, Source.numberLines_dropped (h l List.mem_cons_self),
      ih (fun l' hl' => h l' (List.mem_cons_of_mem l hl')), hcount]

theorem clean_preamble (cs : Charset) : ∀ l ∈ preamble cs, Source.clean l = [] := by
  cases cs <;> decide

theorem lineFeed_not_mem_preamble (cs : Charset) : ∀ l ∈ preamble cs, '\n' ∉ l := by
  cases cs <;> decide

structure IsName (cs : Charset) (name : Bytes) (t : Text) : Prop where
  solid : t.Solid
  read (n : Nat) : Declaration.nameBytes cs n t = .ok (some name)
  noComment : Source.stripComment ("script ".toList ++ t) = "script ".toList ++ t
  lineFeed : '\n' ∉ t

theorem isName_bare {cs : Charset} {name : Bytes} {t : Text} (h : isBareName cs name t = true) :
    IsName cs name t := by
  rw [isBareName, Bool.and_eq_true, Bool.and_eq_true, Bool.and_eq_true] at h
  obtain ⟨⟨⟨hempty, hreproduces⟩, hhead⟩, hchars⟩ := h
  rw [Bool.not_eq_true', List.any_eq_false] at hchars
  have hnot {c : Char} (hc : (isSpace c || isControl c || decide (c = ';')) = true) : c ∉ t :=
    fun hmem => hchars c hmem hc
  have hne : t ≠ [] := by
    rintro rfl
    exact nomatch hempty
  constructor
  · refine .of_forall hne fun c hc => Bool.eq_false_iff.2 fun hspace => hnot ?_ hc
    rw [hspace]
    rfl
  · intro n
    have hencode : cs.encode t = some name := beq_iff_eq.1 hreproduces
    rw [Declaration.nameBytes, if_neg (bne_iff_ne.1 hhead), hencode]
  · refine Source.cutComment_of_not_mem ?_ _
    rw [List.mem_append, not_or]
    exact ⟨by decide, hnot (by decide)⟩
  · exact hnot (by decide)

theorem isName_quote (cs : Charset) (name : Bytes) : IsName cs name (Literal.quote cs name) where
  solid := Literal.solid_quote cs name
  read n := by
    obtain ⟨pieces, hpieces, hencode⟩ := Literal.exists_parse_quote cs name
    have hhead : (Literal.quote cs name).head? = some '"' := rfl
    rw [Declaration.nameBytes, if_pos hhead, hpieces]
    exact congrArg Except.ok hencode
  noComment := by
    have hkeyword : Source.Passes .outside "script ".toList .outside :=
      .plain (by simp [Source.inert_iff])
    exact (hkeyword.append (Literal.passes_quote cs name)).stripComment_eq
  lineFeed := Literal.lineFeed_not_mem_quote cs name

theorem isName_scriptName (cs : Charset) (name : Bytes) :
    IsName cs name (scriptName cs name) := by
  rw [scriptName]
  split
  · rename_i t hbare
    exact isName_bare (Option.filter_eq_some_iff.1 hbare).2
  · exact isName_quote cs name

theorem scriptName_header {cs : Charset} {name : Bytes} (hlen : name.length ≤ 31)
    (hzero : 0 ∉ name) {t : Text} (h : IsName cs name t) (n : Nat) :
    Declaration.scriptName cs ⟨n, "script ".toList ++ t⟩ = .ok name := by
  have hafter : Declaration.afterKeyword? "script" ("script ".toList ++ t) = some (' ' :: t) := by
    have hkeyword : Text.after? "script".toList ("script ".toList ++ t) = some (' ' :: t) :=
      Text.after?_eq_some_iff.2 rfl
    rw [Declaration.afterKeyword?, hkeyword]
    rfl
  have htrim : Text.trim (' ' :: t) = t := Text.trim_cons_blank h.solid
  refine Declaration.scriptName_eq_ok_iff.2 ⟨' ' :: t, hafter, ?_, ?_, hlen, hzero⟩
  · rw [htrim]
    exact h.solid.ne_nil
  · rw [htrim]
    exact h.read n

theorem clean_header {cs : Charset} {name : Bytes} {t : Text} (h : IsName cs name t) :
    Source.clean ("script ".toList ++ t) = "script ".toList ++ t := by
  have hkeyword : Text.Solid "script".toList := IsToken.solid (by decide)
  have hsolid : Text.Solid ("script ".toList ++ t) := hkeyword.append h.solid [' ']
  have hline : "script ".toList ++ t = [] ++ ("script ".toList ++ t) ++ [] :=
    (List.append_nil _).symm
  exact Source.clean_padded hline nofun hsolid nofun h.noComment

end NovelScript.Listing
