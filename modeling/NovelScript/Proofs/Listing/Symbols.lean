import NovelScript.Proofs.Listing.Names
import NovelScript.Proofs.Lookup

/-!
The symbols of a script as a whole. Each string has one symbol, no two share one, and each is a word
that a source line can hold (`IsLegal`). A string has another symbol than the one made from its
position only if it names a function, and then the symbol stands for its bytes (`symbols_orderly`).
-/

namespace NovelScript.Listing

/-! ### Legal symbols -/

/-- A text that can stand for a string: it is no number, and nothing in it ends or changes a word of
a source line. -/
structure IsLegal (t : Text) : Prop where
  ne_nil : t ≠ []
  not_number : Number.parse? t = none
  plain : ∀ c ∈ t, isSpace c = false ∧ isControl c = false ∧
    c ∉ [',', ';', '=', ':', '"', '\x27', '\\']

theorem isLegal_of_isToken {t : Text} (h : IsToken t) (hnumber : Number.isNumber t = false)
    (hcontrol : ∀ c ∈ t, isControl c = false) : IsLegal t where
  ne_nil := h.ne_nil
  not_number := Option.isNone_iff_eq_none.1 (Option.isSome_eq_false_iff.1 hnumber)
  plain c hc := by
    obtain ⟨hspace, hpunctuation⟩ := h.plain c hc
    refine ⟨hspace, hcontrol c hc, ?_⟩
    simpa [isPunctuation] using hpunctuation

theorem isControl_of_isUsable {t : Text} (h : isUsable t = true) :
    ∀ c ∈ t, isControl c = false := by
  have hchars := (Bool.and_eq_true_iff.1 h).2
  rw [Bool.not_eq_true', List.any_eq_false] at hchars
  intro c hc
  have hplain := hchars c hc
  rw [Bool.not_eq_true, Bool.or_eq_false_iff, Bool.or_eq_false_iff] at hplain
  exact hplain.1.2

theorem isControl_stringSymbol (pos : UInt32) : ∀ c ∈ stringSymbol pos, isControl c = false := by
  intro c hc
  rcases List.mem_append.1 hc with hc | hc
  · have hkind : ∀ c ∈ "str".toList, isControl c = false := by simp [isControl]
    exact hkind c hc
  rcases List.mem_cons.1 hc with rfl | hc
  · rfl
  · exact Numeral.forall_mem_hex (P := fun c => isControl c = false) (by decide) hc

theorem isLegal_symbolName (script : Script) (cs : Charset) (pos : UInt32) :
    IsLegal (symbolName script cs pos) := by
  refine isLegal_of_isToken (isToken_symbolName script cs pos) (isNumber_symbolName script cs pos)
    ?_
  rcases symbolName_cases script cs pos with ⟨-, h⟩ | h
  · exact isControl_of_isUsable h
  · rw [h]
    exact isControl_stringSymbol pos

/-! ### Symbols that are texts of strings -/

/-- A symbol that is not made from the position of its string is the text of a string that stands
there and names a function. -/
theorem exists_of_symbolName_ne {script : Script} {cs : Charset} {pos : UInt32}
    (h : symbolName script cs pos ≠ stringSymbol pos) :
    ∃ f ∈ script.functions, ∃ e, script.stringAt? f.name = some e ∧ e.pos = pos ∧
      cs.encode (symbolName script cs pos) = some e.bytes := by
  obtain ⟨hmem, -⟩ := (symbolName_cases script cs pos).resolve_right h
  obtain ⟨e, he, hpos, hown⟩ := (named_namedTexts script cs).own _ hmem
  obtain ⟨f, hf, hname⟩ := List.mem_filterMap.1 he
  exact ⟨f, hf, e, hname, hpos, encode_of_ownSymbol? hown⟩

/-! ### Main result -/

structure Symbols.Orderly (symbols : Symbols) (s : Script) (cs : Charset) : Prop where
  only : symbols.strings.map Prod.fst = s.strings.map (·.pos)
  unique : ∀ e ∈ s.strings, ∃! t, (e.pos, t) ∈ symbols.strings
  found : ∀ pos t, symbols.string? pos = some t ↔ (pos, t) ∈ symbols.strings
  distinct : ∀ e ∈ s.strings, ∀ e' ∈ s.strings, ∀ t, (e.pos, t) ∈ symbols.strings →
    (e'.pos, t) ∈ symbols.strings → e = e'
  legal : ∀ p ∈ symbols.strings, IsLegal p.2
  own : ∀ e ∈ s.strings, ∀ t, (e.pos, t) ∈ symbols.strings → t ≠ stringSymbol e.pos →
    (∃ f ∈ s.functions, f.name = e.pos) ∧ cs.encode t = some e.bytes

theorem mem_strings_build {script : Script} {cs : Charset} {pos : UInt32} {t : Text} :
    (pos, t) ∈ (Symbols.build script cs).strings ↔
      pos ∈ script.strings.map (·.pos) ∧ t = symbolName script cs pos := by
  have hbuild : (Symbols.build script cs).strings =
      script.strings.map fun s => (s.pos, symbolName script cs s.pos) := rfl
  rw [hbuild, List.mem_map, List.mem_map]
  constructor
  · rintro ⟨e, he, heq⟩
    obtain ⟨rfl, rfl⟩ := Prod.mk.inj heq
    exact ⟨⟨e, he, rfl⟩, rfl⟩
  · rintro ⟨⟨e, he, rfl⟩, rfl⟩
    exact ⟨e, he, rfl⟩

/-- Where the strings of a script are in order, their symbols never collide and are always words of
a source line. Those that are not made from positions are given to strings that name functions, and
stand for exactly the bytes of these strings. -/
theorem symbols_orderly {s : Script} (h : s.strings.Pairwise fun t u => t.pos < u.pos)
    (cs : Charset) : (Symbols.build s cs).Orderly s cs where
  only := by
    show (s.strings.map fun e => (e.pos, symbolName s cs e.pos)).map Prod.fst = _
    rw [List.map_map]
    rfl
  unique e he := by
    refine ⟨symbolName s cs e.pos, mem_strings_build.2 ⟨List.mem_map_of_mem he, rfl⟩, ?_⟩
    exact fun t ht => (mem_strings_build.1 ht).2
  found pos t := string?_build_eq_some_iff.trans mem_strings_build.symm
  distinct e he e' he' t ht ht' := by
    have hname := (mem_strings_build.1 ht).2.symm.trans (mem_strings_build.1 ht').2
    exact Association.eq_of_key_eq h he he' (symbolName_inj.1 hname)
  legal p hp := by
    rw [(mem_strings_build.1 hp).2]
    exact isLegal_symbolName s cs p.1
  own e he t ht hne := by
    obtain ⟨-, rfl⟩ := mem_strings_build.1 ht
    obtain ⟨f, hf, e', hname, hpos, hencode⟩ := exists_of_symbolName_ne hne
    obtain ⟨hmem, hname⟩ := (Container.entryAt?_eq_some_iff h).1 hname
    obtain rfl := Association.eq_of_key_eq h hmem he hpos
    exact ⟨⟨f, hf, hname.symm⟩, hencode⟩

/-- The functions are named by one text twice, by a number, and by a text that looks like the symbol
made from another position. -/
def awkwardScript : Script where
  strings := [⟨0, [0x61]⟩, ⟨2, [0x37]⟩, ⟨4, [0x61]⟩, ⟨6, "str_0002".toUTF8.toList⟩,
    ⟨0x10000, [0xff]⟩]
  functions := [{ name := 4, pos := 0, code := [] }, { name := 2, pos := 0, code := [] },
    { name := 0, pos := 0, code := [] }, { name := 6, pos := 0, code := [] }]

theorem symbols_orderly_awkward :
    (awkwardScript.strings.Pairwise fun t u => t.pos < u.pos) ∧
      (Symbols.build awkwardScript .utf8).strings =
        [(0, "str_0000".toList), (2, "str_0002".toList), (4, ['a']), (6, "str_0006".toList),
          (0x10000, "str_00010000".toList)] ∧
      (Symbols.build awkwardScript .utf8).Orderly awkwardScript .utf8 := by
  have hascending : awkwardScript.strings.Pairwise fun t u => t.pos < u.pos := by decide
  exact ⟨hascending, by decide +kernel, symbols_orderly hascending .utf8⟩

end NovelScript.Listing
