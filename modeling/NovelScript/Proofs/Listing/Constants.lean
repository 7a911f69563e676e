import NovelScript.Proofs.Container.Strings
import NovelScript.Proofs.FirstShowing
import NovelScript.Proofs.Listing.Blocks
import NovelScript.Proofs.Listing.Operands

/-!
The constants of a listing. A pushed constant is written as the symbol of a string if it is taken
for the position of this string, and as a number otherwise. Which of them it is depends on the bytes
behind the instruction; it is the instruction that comes next, and nothing else, that these bytes
tell (`disassemble_constants`).
-/

namespace NovelScript

namespace Script

/-- A string begins at the position, and its bytes are not the name of a function. -/
def HasPlainString (s : Script) (pos : UInt32) : Prop :=
  ∃ e ∈ s.strings, e.pos = pos ∧ ∀ g ∈ s.functions, s.functionName? g ≠ some e.bytes

end Script

namespace Listing

/-- The constant with the index `k` in a function stands for a string: it is the position of one
that is not the name of a function, and the next instruction of the function shows this string. -/
structure StandsForString (s : Script) (f : FunctionEntry) (k : Nat) (value : UInt32) : Prop where
  plain : s.HasPlainString value
  shown : f.reading.found[k + 1]?.map Prod.snd = some Speaker.showCall

/-- What is written for the constants of a function: the symbol of a string for those that stand for
one, and for no others, and a signed decimal number for all others. -/
def ConstantsExact (s : Script) (cs : Charset) (f : FunctionEntry) (rows : List (UInt32 × Text)) :
    Prop :=
  ∀ (k : Nat) (address value : UInt32),
    f.reading.found[k]? = some (address, ⟨.pushc, [.constant value]⟩) →
      ∃ t, rows[k]? = some (address, '\t' :: Opcode.pushc.mnemonic.toList ++ '\t' :: t) ∧
        ((Symbols.build s cs).string? value = some t ↔ StandsForString s f k value) ∧
        (¬ StandsForString s f k value → t = Numeral.signed value.toInt32.toInt)

variable {script : Script} {cs : Charset}

theorem not_mem_functionNames_iff {bytes : Bytes} :
    bytes ∉ (Symbols.build script cs).functionNames ↔
      ∀ g ∈ script.functions, script.functionName? g ≠ some bytes := by
  have hmem : bytes ∈ (Symbols.build script cs).functionNames ↔
      ∃ g ∈ script.functions, script.functionName? g = some bytes := by
    rw [Symbols.build, Symbols.nameEntries, List.mem_map]
    simp only [List.mem_filterMap, Script.functionName?, Option.map_eq_some_iff]
    constructor
    · rintro ⟨e, ⟨g, hg, he⟩, rfl⟩
      exact ⟨g, hg, e, he, rfl⟩
    · rintro ⟨g, hg, e, he, rfl⟩
      exact ⟨e, ⟨g, hg, he⟩, rfl⟩
  simp only [hmem, not_exists, not_and, ne_eq]

/-- A constant has a symbol if it is the position of a string that is not the name of a function,
and the code behind it begins with the signature. -/
theorem constantSymbol?_eq_some_iff (hstrings : script.strings.Pairwise fun a b => a.pos < b.pos)
    {value : UInt32} {rest : Bytes} {t : Text} :
    constantSymbol? script (Symbols.build script cs) value rest = some t ↔
      (script.HasPlainString value ∧ startsWith rest showLine) ∧
        t = symbolName script cs value := by
  constructor
  · intro h
    obtain ⟨-, ht⟩ := string?_build_eq_some_iff.1 (string?_of_constantSymbol? cs h)
    obtain ⟨e, he, h⟩ := Option.bind_eq_some_iff.1 h
    obtain ⟨hmem, hpos⟩ := Container.mem_of_entryAt? he
    split at h
    · exact nomatch h
    rename_i hname
    split at h
    · rename_i hshown
      have hplain := not_mem_functionNames_iff.1 (mt List.contains_iff_mem.2 hname)
      exact ⟨⟨⟨e, hmem, hpos, hplain⟩, hshown⟩, ht⟩
    · exact nomatch h
  · rintro ⟨⟨⟨e, hmem, rfl, hplain⟩, hshown⟩, rfl⟩
    have hentry : script.stringAt? e.pos = some e := Container.entryAt?_of_mem hstrings hmem
    have hname : ¬ (Symbols.build script cs).functionNames.contains e.bytes :=
      mt List.contains_iff_mem.1 (not_mem_functionNames_iff.2 hplain)
    rw [constantSymbol?, hentry, Option.bind_some, if_neg hname, if_pos hshown,
      string?_build_eq_some_iff]
    exact ⟨List.mem_map.2 ⟨e, hmem, rfl⟩, rfl⟩

/-- No symbol looks like a number. -/
theorem symbolName_ne_signed (pos value : UInt32) :
    symbolName script cs pos ≠ Numeral.signed value.toInt32.toInt := by
  intro h
  have hnumber := isNumber_of_word? (Assembly.TwoPass.word?_signed value)
  rw [← h, isNumber_symbolName] at hnumber
  exact Bool.false_ne_true hnumber

theorem constantsExact_rowsOf (hstrings : script.strings.Pairwise fun a b => a.pos < b.pos)
    (f : FunctionEntry) : ConstantsExact script cs f (rowsOf script cs f) := by
  intro k address value hread
  obtain ⟨p, hp, -, hrow⟩ := exists_row script cs hread
  have hshown : startsWith p.rest showLine ↔
      f.reading.found[k + 1]?.map Prod.snd = some Speaker.showCall := by
    rw [f.found_reading, List.getElem?_map, Option.map_map]
    exact Speaker.startsWith_showLine_iff fun _ hj =>
      (Sweep.linked_ofCode f.code).startsWith_iff hp hj
  have hstands : script.HasPlainString value ∧ startsWith p.rest showLine ↔
      StandsForString script f k value :=
    ⟨fun h => ⟨h.1, hshown.1 h.2⟩, fun h => ⟨h.plain, hshown.2 h.shown⟩⟩
  refine ⟨(constantSymbol? script (Symbols.build script cs) value p.rest).getD
    (Numeral.signed value.toInt32.toInt), ?_, ?_⟩
  · rw [hrow, List.map_singleton, instructionLine_singleton rfl rfl]
    rfl
  cases hsymbol : constantSymbol? script (Symbols.build script cs) value p.rest with
  | some t =>
    have hvalue := ((constantSymbol?_eq_some_iff hstrings).1 hsymbol).1
    have hstring := string?_of_constantSymbol? cs hsymbol
    exact ⟨iff_of_true hstring (hstands.1 hvalue), fun h => absurd (hstands.1 hvalue) h⟩
  | none =>
    have hnot : ¬ StandsForString script f k value := by
      intro h
      rw [(constantSymbol?_eq_some_iff hstrings).2 ⟨hstands.2 h, rfl⟩] at hsymbol
      exact nomatch hsymbol
    refine ⟨iff_of_false ?_ hnot, fun _ => rfl⟩
    intro h
    exact symbolName_ne_signed value value (string?_build_eq_some_iff.1 h).2.symm

end Listing

/-- In the listing of a script whose strings are in the order of their positions, a pushed constant
is the symbol of a string exactly if it stands for this string, and a signed decimal number
otherwise. -/
theorem disassemble_constants {s : Script} {cs : Charset} {cast : Cast} {text : Text}
    (hstrings : s.strings.Pairwise fun a b => a.pos < b.pos)
    (h : disassemble s cs cast = .ok text) :
    Listing.EveryBlock s cs cast text fun f _ rows _ => Listing.ConstantsExact s cs f rows :=
  Listing.everyBlock_of_disassemble h fun f _ =>
    ⟨(Listing.decoded f).labels, fun _ => Iff.rfl, Listing.constantsExact_rowsOf hstrings f⟩

/-- A script that pushes the position of a string and shows it, pushes it and goes on, shows the
name of its function by the position of another string with the same bytes, shows what is no string,
and ends with a position that nothing comes behind. -/
def quotingScript : Script where
  strings := [⟨0, [0x66]⟩, ⟨2, [0x68, 0x69]⟩, ⟨5, [0x66]⟩]
  functions := [
    { name := 0, pos := 0
      code := [0x03, 2, 0, 0, 0] ++ showLine ++ [0x03, 2, 0, 0, 0, 0x08, 0x03, 5, 0, 0, 0] ++
        showLine ++ [0x03, 0xff, 0xff, 0xff, 0xff] ++ showLine ++ [0x03, 2, 0, 0, 0] }]

def quotingListing : Text :=
  Text.unlines <| Listing.preamble .utf8 ++
    ["script \"\"", "", "strings", "\tf = \"f\"", "\tstr_0002 = \"hi\"", "\tstr_0005 = \"f\"",
      "endstrings", "", "function f,0", "\tpushc\tstr_0002", "\tcalln\t@native00,1", "\tpushc\t2",
      "\tpop", "\tpushc\t5", "\tcalln\t@native00,1", "\tpushc\t-1", "\tcalln\t@native00,1",
      "\tpushc\t2", "endfunction"].map String.toList

/-- The same constant is written in both ways. -/
theorem disassemble_constants_quoting :
    (quotingScript.strings.Pairwise fun a b => a.pos < b.pos) ∧
      disassemble quotingScript .utf8 Cast.standard = .ok quotingListing ∧
      Listing.EveryBlock quotingScript .utf8 Cast.standard quotingListing fun f _ rows _ =>
        Listing.ConstantsExact quotingScript .utf8 f rows := by
  have hstrings : quotingScript.strings.Pairwise fun a b => a.pos < b.pos := by decide
  have h : disassemble quotingScript .utf8 Cast.standard = .ok quotingListing := by
    decide +kernel
  exact ⟨hstrings, h, disassemble_constants hstrings h⟩

end NovelScript
