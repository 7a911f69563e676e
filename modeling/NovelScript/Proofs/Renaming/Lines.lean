import NovelScript.Proofs.Renaming.Names

/-!
Renamed source text, line by line. A *lawful* renaming gives new names to all texts, not only to the
names of one source text. It works fragment by fragment, so renamed text has the white space and the
separators of the old text and no others (`mem_write`, `solid_write`). What is read of a renamed
line is the renamed text that was read of the line (`textOf_line`): comments stay comments, and
lines lines.
-/

namespace NovelScript

namespace Source

/-- Lines that count have text, and no white space around it. -/
theorem trim_of_mem_numberLines {number : Nat} {ls : List Text} {l : Line}
    (hl : l ∈ numberLines number ls) : l.text.trim = l.text ∧ l.text ≠ [] := by
  induction ls generalizing number with
  | nil => exact nomatch hl
  | cons text ls ih =>
    rw [numberLines_cons] at hl
    split at hl
    · exact ih hl
    · rename_i hne
      rcases List.mem_cons.1 hl with rfl | hl
      · exact ⟨Text.trim_trim _, hne⟩
      · exact ih hl

end Source

namespace Renaming

/-- Different texts of one role stay different, names become clean names, and what is no name stays.
-/
structure Lawful (σ : Renaming) : Prop where
  injective : ∀ role, Function.Injective (σ role)
  clean : ∀ {role : Role} {t : Text}, role.isName t = true → role.Clean (σ role t)
  other : ∀ {role : Role} {t : Text}, role.isName t = false → σ role t = t

def unchanged : Renaming := fun _ t => t

/-- A token with its new name, if it is a name. -/
def token (σ : Renaming) (role : Role) (t : Text) : Text :=
  if role.isName t.trim then t.leading ++ σ role t.trim ++ t.trailing else t

def operands (σ : Renaming) (role : Role) (t : Text) : Text :=
  [','].intercalate ((t.splitOn ',').map (σ.token role))

def text (σ : Renaming) (place : Place) (t : Text) : Text := σ.write (Source.textFragments t place)

def line (σ : Renaming) (place : Place) (l : Text) : Text := σ.write (Source.lineFragments l place)

variable {σ : Renaming} {role : Role} {place : Place} {t : Text}

/-! ### Single names -/

theorem Lawful.nil (h : σ.Lawful) (role : Role) : σ role [] = [] := h.other rfl

theorem Lawful.eq_nil_iff (h : σ.Lawful) : σ role t = [] ↔ t = [] := by
  constructor
  · intro hnil
    exact h.injective role (hnil.trans (h.nil role).symm)
  · rintro rfl
    exact h.nil role

/-- No name gets a character that ends or separates names. -/
theorem Lawful.mem (h : σ.Lawful) {c : Char} (hc : c ∈ σ role t) (hreserved : isReserved c = true) :
    c ∈ t := by
  cases hname : role.isName t with
  | true => exact absurd hreserved (List.any_eq_false.1 (h.clean hname).reserved c hc)
  | false => rwa [h.other hname] at hc

theorem isReserved_of_isSpace {c : Char} (h : isSpace c = true) : isReserved c = true := by
  simp [isReserved, h]

theorem isSpace_of_isReserved {c : Char} (h : ¬ isReserved c = true) : isSpace c = false :=
  Bool.eq_false_iff.2 fun hspace => h (isReserved_of_isSpace hspace)

theorem Lawful.any_isSpace (h : σ.Lawful) (ht : t.any isSpace = false) :
    (σ role t).any isSpace = false := by
  rw [List.any_eq_false] at ht ⊢
  intro c hc hspace
  exact ht c (h.mem hc (isReserved_of_isSpace hspace)) hspace

/-- The new names of names are solid. -/
theorem Lawful.solid_of_isName (h : σ.Lawful) (hname : role.isName t = true) :
    Text.Solid (σ role t) := by
  have hne : t ≠ [] := by
    rintro rfl
    exact nomatch hname
  refine .of_forall (fun hnil => hne (h.eq_nil_iff.1 hnil)) fun c hc => ?_
  exact isSpace_of_isReserved (List.any_eq_false.1 (h.clean hname).reserved c hc)

/-- Where numbers are no names, names become no numbers. -/
theorem Lawful.isNumber (h : σ.Lawful)
    (hrole : ∀ t, Number.isNumber t = true → role.isName t = false) :
    Number.isNumber (σ role t) = Number.isNumber t := by
  cases hname : role.isName t with
  | true =>
    have hnumber (t : Text) (ht : role.isName t = true) : Number.isNumber t = false := by
      by_contra hn
      exact nomatch ht.symm.trans (hrole t (Bool.of_not_eq_false hn))
    rw [hnumber t hname, hnumber _ (h.clean hname).isName]
  | false => rw [h.other hname]

/-! ### Tokens -/

theorem isQuote_of_isSpace {c : Char} (h : isSpace c = true) : isQuote c = false := by
  by_contra hquote
  simp only [isQuote, Bool.not_eq_false, Bool.or_eq_true, decide_eq_true_eq] at hquote
  rcases hquote with rfl | rfl <;> exact nomatch h

theorem unchanged_token (role : Role) (t : Text) : unchanged.token role t = t := by
  rw [token]
  split
  · exact t.leading_append_trim_append_trailing
  · rfl

/-- Of a renamed token the name is left when it is trimmed. -/
theorem Lawful.trim_token (h : σ.Lawful) : (σ.token role t).trim = σ role t.trim := by
  rw [token]
  split
  · rename_i hname
    exact Text.trim_pad (fun _ => Text.isSpace_of_mem_leading) (h.solid_of_isName hname)
      fun _ => Text.isSpace_of_mem_trailing
  · rename_i hname
    rw [h.other (Bool.of_not_eq_true hname)]

theorem token_of_not_isName (hname : role.isName t.trim = false) : σ.token role t = t := by
  rw [token, if_neg (Bool.eq_false_iff.1 hname)]

/-- White space has no quotes in it, so only the text inside of it matters. -/
theorem isQuote_of_mem (ht : t.trim.any isQuote = false) {c : Char} (hc : c ∈ t) :
    isQuote c = false := by
  rw [← t.leading_append_trim_append_trailing, List.mem_append, List.mem_append] at hc
  rcases hc with (hc | hc) | hc
  · exact isQuote_of_isSpace (Text.isSpace_of_mem_leading hc)
  · exact Bool.eq_false_iff.2 (List.any_eq_false.1 ht c hc)
  · exact isQuote_of_isSpace (Text.isSpace_of_mem_trailing hc)

theorem any_isQuote_of_isName (hname : role.isName t = true) : t.any isQuote = false := by
  simp only [Role.isName, Bool.and_eq_true, Bool.not_eq_true'] at hname
  exact hname.1.2

/-- What is put between the white space of a text brings its own characters only. -/
theorem mem_of_mem_padded {inner : Text} {c : Char} (hinner : c ∈ inner → c ∈ t.trim)
    (hc : c ∈ t.leading ++ inner ++ t.trailing) : c ∈ t := by
  rw [← t.leading_append_trim_append_trailing]
  simp only [List.mem_append] at hc ⊢
  rcases hc with (hc | hc) | hc
  · exact .inl (.inl hc)
  · exact .inl (.inr (hinner hc))
  · exact .inr hc

theorem Lawful.mem_token (h : σ.Lawful) {c : Char} (hc : c ∈ σ.token role t)
    (hreserved : isReserved c = true) : c ∈ t := by
  rw [token] at hc
  split at hc
  · exact mem_of_mem_padded (fun hc => h.mem hc hreserved) hc
  · exact hc

/-! ### Fragments -/

theorem write_append (frs frs' : List Fragment) :
    σ.write (frs ++ frs') = σ.write frs ++ σ.write frs' := List.flatMap_append

theorem write_singleton (f : Fragment) : σ.write [f] = f.write σ := List.append_nil (f.write σ)

theorem write_cons (f : Fragment) (frs : List Fragment) :
    σ.write (f :: frs) = f.write σ ++ σ.write frs := rfl

theorem write_tokenFragments (t : Text) :
    σ.write (Source.tokenFragments role t) = σ.token role t := by
  rw [Source.tokenFragments, token]
  split
  · rw [write_cons, write_cons, write_singleton, List.append_assoc]
    rfl
  · exact write_singleton _

theorem write_intercalate (sep : Text) (parts : List (List Fragment)) :
    σ.write ([.plain sep].intercalate parts) = sep.intercalate (parts.map σ.write) := by
  induction parts with
  | nil => rfl
  | cons part parts ih =>
    by_cases hnil : parts = []
    · rw [hnil, List.intercalate_singleton, List.map_singleton, List.intercalate_singleton]
    · have hmap : parts.map σ.write ≠ [] := fun h => hnil (List.map_eq_nil_iff.1 h)
      rw [List.intercalate_cons_of_ne_nil hnil, write_append, write_append, write_singleton, ih,
        List.map_cons, List.intercalate_cons_of_ne_nil hmap]
      rfl

theorem write_operands (t : Text) : σ.write ([.plain [',']].intercalate
    ((t.splitOn ',').map (Source.tokenFragments role))) = σ.operands role t := by
  rw [write_intercalate, List.map_map, operands]
  congr 2
  funext token
  exact write_tokenFragments token

theorem unchanged_operands (t : Text) : unchanged.operands role t = t := by
  have htokens : (t.splitOn ',').map (unchanged.token role) = t.splitOn ',' := by
    rw [List.map_congr_left fun token _ => unchanged_token role token, List.map_id']
  rw [operands, htokens, List.intercalate_splitOn]

/-- Renamed text has no characters that end or separate names but those of the text. -/
theorem Lawful.mem_write (h : σ.Lawful) {frs : List Fragment} {c : Char} (hc : c ∈ σ.write frs)
    (hreserved : isReserved c = true) : c ∈ unchanged.write frs := by
  obtain ⟨f, hf, hc⟩ := List.mem_flatMap.1 hc
  refine List.mem_flatMap.2 ⟨f, hf, ?_⟩
  cases f with
  | plain t => exact hc
  | name role t => exact h.mem hc hreserved

theorem Lawful.write_eq_nil_iff (h : σ.Lawful) {frs : List Fragment} :
    σ.write frs = [] ↔ unchanged.write frs = [] := by
  rw [write, write, List.flatMap_eq_nil_iff, List.flatMap_eq_nil_iff]
  refine forall₂_congr fun f _ => ?_
  cases f with
  | plain t => rfl
  | name role t => exact h.eq_nil_iff

/-- A fragment stays the same, or it is a name and turns into a solid text. -/
theorem Lawful.write_fragment (h : σ.Lawful) (f : Fragment) :
    f.write σ = f.write unchanged ∨ Text.Solid (f.write σ) := by
  cases f with
  | plain t => exact .inl rfl
  | name role t =>
    cases hname : role.isName t with
    | true => exact .inr (h.solid_of_isName hname)
    | false => exact .inl (h.other hname)

/-- Fragments that make a solid text do so with new names. -/
theorem Lawful.solid_write (h : σ.Lawful) {frs : List Fragment}
    (hsolid : Text.Solid (unchanged.write frs)) : Text.Solid (σ.write frs) where
  head := by
    have hhead := hsolid.head
    clear hsolid
    induction frs with
    | nil =>
      obtain ⟨c, rest, hnil, -⟩ := hhead
      exact nomatch hnil
    | cons f frs ih =>
      obtain ⟨c, rest, hfrs, hc⟩ := hhead
      rw [write_cons] at hfrs ⊢
      rcases h.write_fragment f with hf | hf
      · rw [hf]
        cases hwrite : f.write unchanged with
        | nil =>
          rw [hwrite] at hfrs
          exact ih ⟨c, rest, hfrs, hc⟩
        | cons d more =>
          rw [hwrite] at hfrs
          obtain rfl := (List.cons.inj hfrs).1
          exact ⟨d, _, rfl, hc⟩
      · obtain ⟨d, more, hd, hspace⟩ := hf.head
        exact ⟨d, more ++ σ.write frs, by rw [hd, List.cons_append], hspace⟩
  last := by
    have hlast := hsolid.last
    clear hsolid
    induction frs using List.reverseRecOn with
    | nil =>
      obtain ⟨front, c, hnil, -⟩ := hlast
      exact nomatch (List.append_eq_nil_iff.1 hnil.symm).2
    | append_singleton frs f ih =>
      obtain ⟨front, c, hfrs, hc⟩ := hlast
      rw [write_append, write_singleton] at hfrs ⊢
      rcases h.write_fragment f with hf | hf
      · rw [hf]
        rcases List.eq_nil_or_concat (f.write unchanged) with hnil | ⟨more, d, hconcat⟩
        · rw [hnil, List.append_nil] at hfrs ⊢
          exact ih ⟨front, c, hfrs, hc⟩
        · rw [hconcat, List.concat_eq_append, ← List.append_assoc] at hfrs ⊢
          obtain rfl := (List.append_singleton_inj.1 hfrs).2
          exact ⟨_, d, rfl, hc⟩
      · obtain ⟨more, d, hd, hspace⟩ := hf.last
        exact ⟨σ.write frs ++ more, d, by rw [hd, List.append_assoc], hspace⟩

theorem Lawful.trim_write (h : σ.Lawful) {frs : List Fragment}
    (ht : Text.trim (unchanged.write frs) = unchanged.write frs) :
    Text.trim (σ.write frs) = σ.write frs := by
  by_cases hnil : unchanged.write frs = []
  · rw [h.write_eq_nil_iff.2 hnil]
    rfl
  · refine Text.trim_of_solid (h.solid_write ?_)
    rw [← ht]
    exact Text.solid_trim (by rwa [ht])

theorem Lawful.operands_eq_nil_iff (h : σ.Lawful) : σ.operands role t = [] ↔ t = [] := by
  rw [← write_operands, h.write_eq_nil_iff, write_operands, unchanged_operands]

theorem Lawful.trim_operands (h : σ.Lawful) (ht : t.trim = t) :
    (σ.operands role t).trim = σ.operands role t := by
  rw [← write_operands]
  apply h.trim_write
  rw [write_operands, unchanged_operands, ht]

/-! ### The text of a line -/

theorem definedLabel?_eq_some_iff {name : Text} : Statement.definedLabel? t = some name ↔
    t = name ++ [':'] ∧ name ≠ [] ∧
      name.any (fun c => isSpace c || c = ',' || c = ':') = false := by
  rw [Statement.definedLabel?]
  constructor
  · intro h
    obtain ⟨⟨hcolon, hne, hany⟩, hname⟩ := Option.ite_none_right_eq_some.1 h
    obtain ⟨front, rfl⟩ := List.getLast?_eq_some_iff.1 hcolon
    rw [List.dropLast_concat] at hname hne hany
    obtain rfl := Option.some.inj hname
    exact ⟨rfl, hne, Bool.eq_false_iff.2 hany⟩
  · rintro ⟨rfl, hne, hany⟩
    simp only [List.dropLast_concat, hany]
    exact if_pos ⟨List.getLast?_concat, hne, Bool.false_ne_true⟩

/-- The line of a string is its name, an equal sign and its value. -/
theorem definition?_eq_some {name value : Text} (h : Source.definition? t = some (name, value)) :
    t = name ++ '=' :: value ∧ '=' ∉ name ∧ name.trim.any isSpace = false := by
  obtain ⟨hsplit, hspace⟩ := Option.filter_eq_some_iff.1 h
  obtain ⟨c, ht, hc, hname⟩ := Text.splitAtFirst_eq_some hsplit
  obtain rfl := of_decide_eq_true hc
  exact ⟨ht, fun hmem => of_decide_eq_false (hname _ hmem) rfl, Bool.not_eq_eq_eq_not.1 hspace⟩

/-- The line that opens a function is the keyword, a name behind a blank, and more behind a comma.
-/
theorem header?_eq_some {name params : Text} (h : Source.header? t = some (name, params)) :
    t = "function".toList ++ name ++ ',' :: params ∧ ',' ∉ name ∧
      ∃ b rest, name = b :: rest ∧ isBlank b = true := by
  obtain ⟨after, hafter, hsplit⟩ := Option.bind_eq_some_iff.1 h
  obtain ⟨c, rfl, hc, hname⟩ := Text.splitAtFirst_eq_some hsplit
  obtain rfl := of_decide_eq_true hc
  rw [Declaration.afterKeyword?] at hafter
  split at hafter
  · rename_i b rest hkeyword
    obtain ⟨hb, hafter⟩ := Option.ite_none_right_eq_some.1 hafter
    have ht := Text.after?_eq_some_iff.1 hkeyword
    have heq := Option.some.inj hafter
    rw [heq, ← List.append_assoc] at ht
    refine ⟨ht, fun hmem => of_decide_eq_false (hname _ hmem) rfl, ?_⟩
    cases name with
    | nil =>
      obtain rfl := (List.cons.inj heq).1
      exact nomatch hb
    | cons d name =>
      obtain rfl := (List.cons.inj heq).1
      exact ⟨b, name, rfl, hb⟩
  · exact nomatch hafter

theorem text_definition {name value : Text} (h : Source.definition? t = some (name, value)) :
    σ.text .strings t = σ.token .symbol name ++ '=' :: value := by
  simp only [text, Source.textFragments, Source.definitionFragments, h]
  rw [write_append, write_tokenFragments, write_singleton]
  rfl

theorem text_definition_of_none (h : Source.definition? t = none) : σ.text .strings t = t := by
  simp only [text, Source.textFragments, Source.definitionFragments, h]
  exact write_singleton _

theorem text_header {count : Nat} {name params : Text}
    (h : Source.header? t = some (name, params)) :
    σ.text (.between count) t = "function".toList ++ σ.token .symbol name ++ ',' :: params := by
  simp only [text, Source.textFragments, Source.headerFragments, h]
  rw [write_append, write_cons, write_tokenFragments, write_singleton]
  rfl

theorem text_header_of_none {count : Nat} (h : Source.header? t = none) :
    σ.text (.between count) t = t := by
  simp only [text, Source.textFragments, Source.headerFragments, h]
  exact write_singleton _

theorem text_label {function : Nat} {name : Text} (h : Statement.definedLabel? t = some name) :
    σ.text (.inside function) t = σ.token (.label function) name ++ [':'] := by
  simp only [text, Source.textFragments, Source.statementFragments, h]
  rw [write_append, write_tokenFragments, write_singleton]
  rfl

theorem text_operands {function : Nat} {mnemonic operands : Text}
    (hlabel : Statement.definedLabel? t = none)
    (hsplit : Statement.splitMnemonic t = (mnemonic, operands))
    (hrole : (Opcode.ofMnemonic? mnemonic).bind (Source.operandRole? function) = some role) :
    σ.text (.inside function) t =
      t.take (t.length - operands.length) ++ σ.operands role operands := by
  simp only [text, Source.textFragments, Source.statementFragments, hlabel, hsplit, hrole]
  rw [write_cons, write_operands]
  rfl

theorem text_operands_of_none {function : Nat} {mnemonic operands : Text}
    (hlabel : Statement.definedLabel? t = none)
    (hsplit : Statement.splitMnemonic t = (mnemonic, operands))
    (hrole : (Opcode.ofMnemonic? mnemonic).bind (Source.operandRole? function) = none) :
    σ.text (.inside function) t = t := by
  simp only [text, Source.textFragments, Source.statementFragments, hlabel, hsplit, hrole]
  exact write_singleton _

/-- Operands end the text, behind a mnemonic and a gap. -/
theorem exists_operands {mnemonic operands : Text} (ht : t.trim = t)
    (hsplit : Statement.splitMnemonic t = (mnemonic, operands)) (hne : operands ≠ []) :
    ∃ b gap, t = mnemonic ++ (b :: gap) ++ operands ∧ operands.trim = operands ∧
      (∀ c ∈ mnemonic, isBlank c = false) ∧ isBlank b = true ∧ ∀ c ∈ gap, isSpace c = true := by
  rw [Statement.splitMnemonic] at hsplit
  split at hsplit
  · rename_i front rest hblank
    obtain ⟨rfl, rfl⟩ := Prod.mk.inj hsplit
    obtain ⟨b, hold, hb, hmnemonic⟩ := Text.splitAtFirst_eq_some hblank
    have hrest := rest.leading_append_trim_append_trailing
    -- The last character of the text is no white space, so none stands behind the operands.
    have htrailing : rest.trailing = [] := by
      rcases List.eq_nil_or_concat rest.trailing with hnil | ⟨more, d, hmore⟩
      · exact hnil
      rw [List.concat_eq_append] at hmore
      rw [hmore] at hrest
      have hend : t = front ++ b :: (rest.leading ++ rest.trim ++ more) ++ [d] := by
        rw [hold, List.append_assoc, List.cons_append, List.append_assoc _ more, hrest]
      have hsolid : t.Solid := by
        rw [← ht]
        refine Text.solid_trim fun hnil => ?_
        rw [ht, hold] at hnil
        exact nomatch (List.append_eq_nil_iff.1 hnil).2
      obtain ⟨before, c, hlast, hc⟩ := hsolid.last
      obtain ⟨-, rfl⟩ := List.append_singleton_inj.1 (hend.symm.trans hlast)
      have hd : d ∈ rest.trailing := by simp [hmore]
      exact nomatch hc.symm.trans (Text.isSpace_of_mem_trailing hd)
    rw [htrailing, List.append_nil] at hrest
    refine ⟨b, rest.leading, ?_, Text.trim_trim rest, hmnemonic, hb,
      fun _ => Text.isSpace_of_mem_leading⟩
    rw [hold, List.append_assoc, List.cons_append, hrest]
  · exact absurd (Prod.mk.inj hsplit).2.symm hne

/-- So what is in front of the operands is found by its length. -/
theorem take_append_operands {mnemonic operands : Text} (ht : t.trim = t)
    (hsplit : Statement.splitMnemonic t = (mnemonic, operands)) :
    t.take (t.length - operands.length) ++ operands = t := by
  by_cases hne : operands = []
  · rw [hne, List.length_nil, Nat.sub_zero, List.take_length, List.append_nil]
  · obtain ⟨b, gap, hold, -⟩ := exists_operands ht hsplit hne
    conv_rhs => rw [hold]
    rw [hold, List.length_append, Nat.add_sub_cancel, List.take_left]

theorem unchanged_text (ht : t.trim = t) : unchanged.text place t = t := by
  cases place with
  | header => exact write_singleton _
  | opening => exact write_singleton _
  | strings =>
    cases hdefinition : Source.definition? t with
    | none => exact text_definition_of_none hdefinition
    | some pair =>
      rw [text_definition hdefinition, unchanged_token, ← (definition?_eq_some hdefinition).1]
  | between count =>
    cases hheader : Source.header? t with
    | none => exact text_header_of_none hheader
    | some pair => rw [text_header hheader, unchanged_token, ← (header?_eq_some hheader).1]
  | inside function =>
    cases hlabel : Statement.definedLabel? t with
    | some name => rw [text_label hlabel, unchanged_token, ← (definedLabel?_eq_some_iff.1 hlabel).1]
    | none =>
      obtain ⟨mnemonic, operands, hsplit⟩ : ∃ mnemonic operands,
          Statement.splitMnemonic t = (mnemonic, operands) := ⟨_, _, rfl⟩
      cases hrole : (Opcode.ofMnemonic? mnemonic).bind (Source.operandRole? function) with
      | none => exact text_operands_of_none hlabel hsplit hrole
      | some role =>
        rw [text_operands hlabel hsplit hrole, unchanged_operands, take_append_operands ht hsplit]

theorem Lawful.mem_text (h : σ.Lawful) (ht : t.trim = t) {c : Char} (hc : c ∈ σ.text place t)
    (hreserved : isReserved c = true) : c ∈ t := by
  have hmem := h.mem_write hc hreserved
  rwa [← text, unchanged_text ht] at hmem

theorem Lawful.text_eq_nil_iff (h : σ.Lawful) (ht : t.trim = t) : σ.text place t = [] ↔ t = [] := by
  rw [text, h.write_eq_nil_iff, ← text, unchanged_text ht]

theorem Lawful.trim_text (h : σ.Lawful) (ht : t.trim = t) :
    (σ.text place t).trim = σ.text place t := by
  apply h.trim_write
  rw [← text, unchanged_text ht, ht]

/-! ### Lines -/

theorem line_eq (l : Text) : σ.line place l =
    (Source.stripComment l).leading ++ σ.text place (Source.textOf l) ++
      (Source.stripComment l).trailing ++ l.drop (Source.stripComment l).length := by
  rw [line, Source.lineFragments, write_append, write_cons, write_cons, write_singleton, text,
    Source.textOf, ← List.append_assoc]
  rfl

theorem trim_textOf (l : Text) : (Source.textOf l).trim = Source.textOf l := Text.trim_trim _

theorem line_of_same {l : Text} (hsame : σ.text place (Source.textOf l) = Source.textOf l) :
    σ.line place l = l := by
  rw [line_eq, hsame, Source.textOf, Text.leading_append_trim_append_trailing,
    Source.stripComment_append_drop]

theorem unchanged_line (l : Text) : unchanged.line place l = l :=
  line_of_same (unchanged_text (trim_textOf l))

theorem inert_of_isReserved {c : Char} (h : isReserved c = false) : Source.Inert c := by
  constructor <;> rintro rfl <;> exact nomatch h

/-- If the renaming changes only a part of the line in front of all quotes, the comment is found
where it was before. -/
theorem Lawful.textOf_line_of_front (h : σ.Lawful) {l front front' back : Text}
    (hold : Source.stripComment l = front ++ back)
    (hnew : (Source.stripComment l).leading ++ σ.text place (Source.textOf l) ++
      (Source.stripComment l).trailing = front' ++ back)
    (hquotes : ∀ c ∈ front, isQuote c = false)
    (hmem : ∀ c ∈ front', isReserved c = true → c ∈ front) :
    Source.textOf (σ.line place l) = σ.text place (Source.textOf l) := by
  have hstrip : Source.stripComment (front ++ (back ++ l.drop (Source.stripComment l).length)) =
      front ++ back := by
    rw [← List.append_assoc, ← hold, Source.stripComment_append_drop]
  have hfront : ∀ c ∈ front, Source.Inert c := by
    refine Source.inert_of_stripComment (fun c hc => ?_) hstrip
    simpa [isQuote] using hquotes c hc
  have hfront' : ∀ c ∈ front', Source.Inert c := by
    intro c hc
    cases hreserved : isReserved c with
    | true => exact hfront c (hmem c hc hreserved)
    | false => exact inert_of_isReserved hreserved
  have hrenamed := Source.stripComment_replace hfront hfront' hstrip
  rw [Source.textOf, line_eq, hnew, List.append_assoc, hrenamed, ← hnew]
  exact Text.trim_pad_of_trim (fun _ => Text.isSpace_of_mem_leading) (h.trim_text (trim_textOf l))
    fun _ => Text.isSpace_of_mem_trailing

/-- Without quotes the comment is found where it was before. -/
theorem Lawful.textOf_line_of_quoteless (h : σ.Lawful) {l : Text}
    (hquotes : (Source.textOf l).any isQuote = false) :
    Source.textOf (σ.line place l) = σ.text place (Source.textOf l) := by
  refine h.textOf_line_of_front (List.append_nil _).symm (List.append_nil _).symm
    (fun c hc => isQuote_of_mem hquotes hc) fun c hc hreserved => ?_
  exact mem_of_mem_padded (fun hc => h.mem_text (trim_textOf l) hc hreserved) hc

/-- The definition of a string is renamed in front of its literal. -/
theorem Lawful.textOf_line_of_definition (h : σ.Lawful) {l name value : Text}
    (hdefinition : Source.definition? (Source.textOf l) = some (name, value))
    (hname : Role.symbol.isName name.trim = true) :
    Source.textOf (σ.line .strings l) = σ.text .strings (Source.textOf l) := by
  have hold : Source.stripComment l = (Source.stripComment l).leading ++ name ++
      ('=' :: value ++ (Source.stripComment l).trailing) := by
    conv_lhs => rw [← (Source.stripComment l).leading_append_trim_append_trailing, ← Source.textOf,
      (definition?_eq_some hdefinition).1]
    simp only [List.append_assoc, List.cons_append]
  have hnew : (Source.stripComment l).leading ++ σ.text .strings (Source.textOf l) ++
      (Source.stripComment l).trailing = (Source.stripComment l).leading ++
        σ.token .symbol name ++ ('=' :: value ++ (Source.stripComment l).trailing) := by
    rw [text_definition hdefinition]
    simp only [List.append_assoc, List.cons_append]
  refine h.textOf_line_of_front hold hnew (fun c hc => ?_) fun c hc hreserved => ?_
  · rcases List.mem_append.1 hc with hc | hc
    · exact isQuote_of_isSpace (Text.isSpace_of_mem_leading hc)
    · exact isQuote_of_mem (any_isQuote_of_isName hname) hc
  · rcases List.mem_append.1 hc with hc | hc
    · exact List.mem_append_left _ hc
    · exact List.mem_append_right _ (h.mem_token hc hreserved)

/-- What is read of a renamed line is the renamed text that was read of it. -/
theorem Lawful.textOf_line (h : σ.Lawful) {l : Text}
    (hquotes : place.inFunctions → (Source.textOf l).any isQuote = false) :
    Source.textOf (σ.line place l) = σ.text place (Source.textOf l) := by
  have hsame (hsame : σ.text place (Source.textOf l) = Source.textOf l) :
      Source.textOf (σ.line place l) = σ.text place (Source.textOf l) := by
    rw [line_of_same hsame, hsame]
  cases place with
  | header => exact hsame (write_singleton _)
  | opening => exact hsame (write_singleton _)
  | between count => exact h.textOf_line_of_quoteless (hquotes rfl)
  | inside function => exact h.textOf_line_of_quoteless (hquotes rfl)
  | strings =>
    cases hdefinition : Source.definition? (Source.textOf l) with
    | none => exact hsame (text_definition_of_none hdefinition)
    | some pair =>
      cases hname : Role.symbol.isName pair.1.trim with
      | true => exact h.textOf_line_of_definition hdefinition hname
      | false =>
        apply hsame
        rw [text_definition hdefinition, token_of_not_isName hname,
          ← (definition?_eq_some hdefinition).1]

/-- No line is divided or joined to another one by renaming. -/
theorem Lawful.lineFeed_not_mem_line (h : σ.Lawful) {l : Text} (hl : '\n' ∉ l) :
    '\n' ∉ σ.line place l := by
  intro hmem
  have hold := h.mem_write hmem rfl
  rw [← line, unchanged_line] at hold
  exact hl hold

theorem rename_eq (source : Text) : σ.rename source =
    ['\n'].intercalate ((Source.placedLines source).map fun p => σ.line p.2 p.1) := by
  rw [rename, Source.fragments, write_intercalate, List.map_map]
  rfl

theorem map_fst_placed (place : Place) (ls : List Text) :
    (Source.placed place ls).map Prod.fst = ls := by
  induction ls generalizing place with
  | nil => rfl
  | cons l ls ih => rw [Source.placed, List.map_cons, ih]

theorem rename_unchanged (source : Text) : unchanged.rename source = source := by
  have hlines : ((Source.placedLines source).map fun p => unchanged.line p.2 p.1) =
      source.splitOn '\n' := by
    rw [← map_fst_placed .header (source.splitOn '\n')]
    exact List.map_congr_left fun p _ => unchanged_line p.1
  rw [rename_eq, hlines, List.intercalate_splitOn]

/-- Numbered lines with new names, from a place on. -/
def lines (σ : Renaming) (place : Place) : List Line → List Line
  | [] => []
  | l :: rest => ⟨l.number, σ.text place l.text⟩ :: σ.lines (place.next l.text) rest

theorem numbers_lines (place : Place) (ls : List Line) :
    (σ.lines place ls).map Line.number = ls.map Line.number := by
  induction ls generalizing place with
  | nil => rfl
  | cons l ls ih => rw [lines, List.map_cons, List.map_cons, ih]

theorem Lawful.numberLines_placed (h : σ.Lawful) {ls : List Text}
    (hquotes : ∀ p ∈ Source.placed place ls, p.2.inFunctions →
      (Source.textOf p.1).any isQuote = false) (number : Nat) :
    Source.numberLines number ((Source.placed place ls).map fun p => σ.line p.2 p.1) =
      σ.lines place (Source.numberLines number ls) := by
  induction ls generalizing place number with
  | nil => rfl
  | cons l ls ih =>
    rw [Source.placed, List.forall_mem_cons] at hquotes
    have htext := h.textOf_line hquotes.1
    have hnil : σ.text place (Source.textOf l) = [] ↔ Source.textOf l = [] :=
      h.text_eq_nil_iff (trim_textOf l)
    have hrest := ih hquotes.2 (number + 1)
    rw [Source.placed, List.map_cons, Source.numberLines_cons, Source.numberLines_cons, htext]
    by_cases hl : Source.textOf l = []
    · rw [hl, Place.next.eq_def, if_pos rfl] at hrest
      rw [if_pos (hnil.2 hl), if_pos hl, hl, Place.next.eq_def, if_pos rfl, hrest]
    · rw [if_neg (mt hnil.1 hl), if_neg hl, lines, hrest]

/-- The lines of a renamed source text are the renamed lines. -/
theorem Lawful.lines_rename (h : σ.Lawful) {source : Text}
    (hquotes : Source.QuotesConfined source) :
    Source.lines (σ.rename source) = σ.lines .header (Source.lines source) := by
  have hlines := map_fst_placed .header (source.splitOn '\n')
  rw [Source.lines_eq, Source.lines_eq, rename_eq, List.splitOn_intercalate]
  · exact h.numberLines_placed hquotes 1
  · intro l hl
    obtain ⟨p, hp, rfl⟩ := List.mem_map.1 hl
    have hmem : p.1 ∈ source.splitOn '\n' := hlines ▸ List.mem_map.2 ⟨p, hp, rfl⟩
    exact h.lineFeed_not_mem_line (Text.not_mem_of_mem_splitOn hmem)
  · intro hnil
    rw [List.map_eq_nil_iff] at hnil
    rw [← Source.placedLines, hnil] at hlines
    exact List.splitOn_ne_nil '\n' source hlines.symm

end Renaming

end NovelScript
