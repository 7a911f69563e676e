import NovelScript.Proofs.Association
import NovelScript.Proofs.Listing.Tokens

/-!
The symbols of a listing tell the strings of a script apart. A string that names a function may be
its own symbol; the texts that were taken for symbols stay distinct while names are added (`Named`),
and none of them looks like a made name, so no two positions share a symbol (`symbolName_inj`).
-/

namespace NovelScript.Listing

/-! ### Usable texts -/

theorem isToken_of_isUsable {t : Text} (h : isUsable t = true) : IsToken t := by
  rw [isUsable, Bool.and_eq_true, Bool.and_eq_true, Bool.and_eq_true] at h
  obtain ⟨⟨⟨hempty, -⟩, -⟩, hchars⟩ := h
  rw [Bool.not_eq_true', List.any_eq_false] at hchars
  constructor
  · rintro rfl
    exact nomatch hempty
  · intro c hc
    have hplain := hchars c hc
    rw [Bool.not_eq_true, Bool.or_eq_false_iff, Bool.or_eq_false_iff] at hplain
    exact ⟨hplain.1.1, hplain.2⟩

theorem isNumber_of_isUsable {t : Text} (h : isUsable t = true) : Number.isNumber t = false := by
  rw [isUsable, Bool.and_eq_true, Bool.and_eq_true, Bool.and_eq_true] at h
  exact Bool.not_eq_true' _ ▸ h.1.1.2

/-- A usable text is no made name of a string. -/
theorem ne_stringSymbol_of_isUsable {t : Text} (h : isUsable t = true) (pos : UInt32) :
    t ≠ stringSymbol pos := by
  rintro rfl
  rw [isUsable, Bool.and_eq_true, Bool.and_eq_true] at h
  have hreserved : reservedBeginnings.any
      (fun front => front.toList.isPrefixOf (stringSymbol pos)) = true := rfl
  rw [hreserved] at h
  exact nomatch h.1.2

/-! ### Texts that are symbols -/

theorem isUsable_of_ownSymbol? {cs : Charset} {e : StringEntry} {t : Text}
    (h : Symbols.ownSymbol? cs e = some t) : isUsable t = true := by
  obtain ⟨-, ht⟩ := Option.filter_eq_some_iff.1 h
  exact (Bool.and_eq_true_iff.1 ht).1

theorem encode_of_ownSymbol? {cs : Charset} {e : StringEntry} {t : Text}
    (h : Symbols.ownSymbol? cs e = some t) : cs.encode t = some e.bytes := by
  obtain ⟨-, ht⟩ := Option.filter_eq_some_iff.1 h
  exact eq_of_beq (Bool.and_eq_true_iff.1 ht).2

/-- What holds of the texts that strings have got as their symbols, after these entries: each is the
text of one of them, and all are different. -/
structure Named (cs : Charset) (entries : List StringEntry) (named : List (UInt32 × Text)) :
    Prop where
  own : ∀ p ∈ named, ∃ e ∈ entries, e.pos = p.1 ∧ Symbols.ownSymbol? cs e = some p.2
  nodup : (named.map Prod.snd).Nodup

theorem Named.addName {cs : Charset} {entries : List StringEntry} {named : List (UInt32 × Text)}
    (h : Named cs entries named) (entry : StringEntry) :
    Named cs (entries ++ [entry]) (Symbols.addName cs named entry) := by
  have hown : ∀ p ∈ named, ∃ e ∈ entries ++ [entry], e.pos = p.1 ∧
      Symbols.ownSymbol? cs e = some p.2 := by
    intro p hp
    obtain ⟨e, he, h⟩ := h.own p hp
    exact ⟨e, List.mem_append_left _ he, h⟩
  rw [Symbols.addName]
  cases htext : Symbols.ownSymbol? cs entry with
  | none => exact ⟨hown, h.nodup⟩
  | some t =>
    simp only
    split
    · exact ⟨hown, h.nodup⟩
    · rename_i hnew
      rw [List.any_eq_true] at hnew
      constructor
      · intro p hp
        rcases List.mem_cons.1 hp with rfl | hp
        · exact ⟨entry, List.mem_append_right _ List.mem_cons_self, rfl, htext⟩
        · exact hown p hp
      · rw [List.map_cons, List.nodup_cons]
        refine ⟨?_, h.nodup⟩
        intro hmem
        obtain ⟨p, hp, htext⟩ := List.mem_map.1 hmem
        exact hnew ⟨p, hp, Bool.or_eq_true_iff.2 (.inr (decide_eq_true htext))⟩

theorem Named.foldl {cs : Charset} {front : List StringEntry} {named : List (UInt32 × Text)}
    (h : Named cs front named) (back : List StringEntry) :
    Named cs (front ++ back) (back.foldl (Symbols.addName cs) named) := by
  induction back generalizing front named with
  | nil =>
    rw [List.append_nil]
    exact h
  | cons entry back ih =>
    have hrest := ih (h.addName entry)
    rw [List.append_assoc, List.singleton_append] at hrest
    exact hrest

def namedTexts (script : Script) (cs : Charset) : List (UInt32 × Text) :=
  (Symbols.nameEntries script).foldl (Symbols.addName cs) []

theorem named_namedTexts (script : Script) (cs : Charset) :
    Named cs (Symbols.nameEntries script) (namedTexts script cs) := by
  have hnil : Named cs [] [] := ⟨fun _ hp => (nomatch hp), List.nodup_nil⟩
  exact hnil.foldl (Symbols.nameEntries script)

def symbolName (script : Script) (cs : Charset) (pos : UInt32) : Text :=
  ((namedTexts script cs).lookup pos).getD (stringSymbol pos)

/-- A symbol is a usable text or a made name. -/
theorem symbolName_cases (script : Script) (cs : Charset) (pos : UInt32) :
    ((pos, symbolName script cs pos) ∈ namedTexts script cs ∧
        isUsable (symbolName script cs pos) = true) ∨
      symbolName script cs pos = stringSymbol pos := by
  cases hlookup : (namedTexts script cs).lookup pos with
  | none =>
    right
    rw [symbolName, hlookup]
    rfl
  | some t =>
    have hname : symbolName script cs pos = t := by
      rw [symbolName, hlookup]
      rfl
    have hmem := Association.mem_of_lookup hlookup
    obtain ⟨e, -, -, hown⟩ := (named_namedTexts script cs).own _ hmem
    rw [hname]
    exact .inl ⟨hmem, isUsable_of_ownSymbol? hown⟩

theorem isToken_symbolName (script : Script) (cs : Charset) (pos : UInt32) :
    IsToken (symbolName script cs pos) := by
  rcases symbolName_cases script cs pos with ⟨-, h⟩ | h
  · exact isToken_of_isUsable h
  · rw [h]
    exact isToken_stringSymbol pos

@[simp] theorem isNumber_symbolName (script : Script) (cs : Charset) (pos : UInt32) :
    Number.isNumber (symbolName script cs pos) = false := by
  rcases symbolName_cases script cs pos with ⟨-, h⟩ | h
  · exact isNumber_of_isUsable h
  · rw [h]
    exact Number.isNumber_eq_false (by decide) (by decide)

@[simp] theorem symbolName_inj {script : Script} {cs : Charset} {pos pos' : UInt32} :
    symbolName script cs pos = symbolName script cs pos' ↔ pos = pos' := by
  constructor
  · intro h
    rcases symbolName_cases script cs pos with ⟨hmem, husable⟩ | hmade
    · rcases symbolName_cases script cs pos' with ⟨hmem', -⟩ | hmade'
      · rw [← h] at hmem'
        have hnodup := (named_namedTexts script cs).nodup
        exact congrArg Prod.fst (List.inj_on_of_nodup_map hnodup hmem hmem' rfl)
      · exact absurd (h.trans hmade') (ne_stringSymbol_of_isUsable husable pos')
    · rcases symbolName_cases script cs pos' with ⟨-, husable'⟩ | hmade'
      · exact absurd (h.symm.trans hmade) (ne_stringSymbol_of_isUsable husable' pos)
      · exact syntheticName_inj.1 (hmade.symm.trans (h.trans hmade'))
  · rintro rfl
    rfl

/-- The symbols of a script are those of the positions of its strings. -/
theorem string?_build_eq_some_iff {script : Script} {cs : Charset} {pos : UInt32} {t : Text} :
    (Symbols.build script cs).string? pos = some t ↔
      pos ∈ script.strings.map (·.pos) ∧ t = symbolName script cs pos := by
  have hbuild : (Symbols.build script cs).string? pos =
      (script.strings.map fun s => (s.pos, symbolName script cs s.pos)).lookup pos := rfl
  rw [hbuild]
  generalize script.strings = strings
  induction strings with
  | nil => exact ⟨nofun, fun h => nomatch h.1⟩
  | cons s strings ih =>
    rw [List.map_cons, List.map_cons, List.lookup_cons, List.mem_cons]
    by_cases hpos : pos = s.pos
    · rw [hpos, beq_self_eq_true]
      simp only [Option.some.injEq, true_or, true_and]
      exact eq_comm
    · rw [beq_false_of_ne hpos]
      simp only [hpos, false_or]
      exact ih

end NovelScript.Listing
