import NovelScript.Proofs.Listing.Program

/-!
What a listing says about speakers stands in comments. The lines of two listings of one script that
differ only in the names of the characters are read as the same lines (`flatMap_cleanParts_lines`),
so both listings are assembled to the same script or refused with the same fault. Names are written
as they are, and one with a line feed does not stay in its comment (`assemble_ne_of_lineFeed`).
-/

namespace NovelScript.Listing

variable {script : Script} (cs : Charset)

/-- What the assembler reads of the strings in a listing, the speakers left out. -/
def readStrings (script : Script) (cs : Charset) : List Text :=
  if script.strings = [] then []
  else
    [[], "strings".toList].flatMap Source.cleanParts ++
      (program script cs).strings.map (fun s => definitionText cs s.1 s.2) ++
      ["endstrings".toList].flatMap Source.cleanParts

theorem flatMap_cleanParts_stringLines {cast : Cast} (hcast : ∀ name ∈ cast.names, '\n' ∉ name) :
    (stringLines script cs cast (Symbols.build script cs)).flatMap Source.cleanParts =
      readStrings script cs := by
  have hdefinitions : (definitionLines script cs cast).flatMap Source.cleanParts =
      (program script cs).strings.map fun s => definitionText cs s.1 s.2 := by
    rw [← clean_definitionLines cs cast, List.flatMap_congr fun l hl =>
      Source.cleanParts_eq (lineFeed_not_mem_definitionLines cs hcast l hl)]
    exact List.map_eq_flatMap.symm
  rw [stringLines, readStrings]
  split
  · rfl
  · rw [List.flatMap_append, List.flatMap_append, ← hdefinitions]
    rfl

/-- What the assembler reads of a listing does not depend on the characters. -/
theorem flatMap_cleanParts_lines {cast cast' : Cast} (hcast : ∀ name ∈ cast.names, '\n' ∉ name)
    (hcast' : ∀ name ∈ cast'.names, '\n' ∉ name) {ls : List Text}
    (h : lines script cs cast = .ok ls) :
    ∃ ls', lines script cs cast' = .ok ls' ∧
      ls'.flatMap Source.cleanParts = ls.flatMap Source.cleanParts := by
  obtain ⟨blocks, hblocks, h⟩ := Outcome.bind_eq_ok_iff.1 h
  obtain rfl := Except.ok.inj h
  refine ⟨_, Outcome.bind_eq_ok_iff.2 ⟨blocks, hblocks, rfl⟩, ?_⟩
  simp only [List.flatMap_append, List.flatMap_cons, flatMap_cleanParts_stringLines cs hcast,
    flatMap_cleanParts_stringLines cs hcast']

end NovelScript.Listing

namespace NovelScript

/-- Whatever the characters of a script are called, its listing is assembled to the same script or
refused with the same fault, as long as no name contains a line feed. -/
theorem assemble_eq_of_cast {s : Script} {cs : Charset} {cast cast' : Cast}
    (hcast : ∀ name ∈ cast.names, '\n' ∉ name) (hcast' : ∀ name ∈ cast'.names, '\n' ∉ name)
    {text : Text} (h : disassemble s cs cast = .ok text) (cs' : Charset) :
    ∃ text', disassemble s cs cast' = .ok text' ∧ assemble cs' text' = assemble cs' text := by
  obtain ⟨ls, hls, rfl⟩ := Outcome.map_eq_ok_iff.1 h
  obtain ⟨ls', hls', hread⟩ := Listing.flatMap_cleanParts_lines cs hcast hcast' hls
  refine ⟨Text.unlines ls', Outcome.map_eq_ok_iff.2 ⟨ls', hls', rfl⟩, ?_⟩
  rw [assemble, assemble, Source.lines_congr hread]

/-- A script whose only string is shown by its first character. -/
def spokenScript : Script where
  strings := [⟨0, [0x66]⟩]
  functions := [
    { name := 0, pos := 0
      code := [0x03, 0, 0, 0, 0, 0x29, 0x1d, 0, 0, 0, 2, 0x03, 0, 0, 0, 0] ++ showLine ++ [0x2c] }]

/-- The listing of `spokenScript`, given the name of its first character. -/
def spokenListing (name : String) : Text :=
  Text.unlines <| Listing.preamble .utf8 ++
    ["script \"\"", "", "strings", "\tf = \"f\"\t; " ++ name, "endstrings", "", "function f,0",
      "\tpushc\t0", "\tcalln\t@native1d,2", "\tpushc\t0", "\tcalln\t@native00,1", "\tend",
      "endfunction"].map String.toList

/-- Comment signs, quotes, backslashes and a carriage return in a name do no harm. -/
theorem assemble_eq_of_cast_spoken :
    (∀ name ∈ Cast.standard.names, '\n' ∉ name) ∧
      (∀ name ∈ (⟨["; \" = \\\r".toList]⟩ : Cast).names, '\n' ∉ name) ∧
      disassemble spokenScript .utf8 Cast.standard = .ok (spokenListing "Kazuki") ∧
      ∃ text', disassemble spokenScript .utf8 ⟨["; \" = \\\r".toList]⟩ = .ok text' ∧
        assemble .utf8 text' = assemble .utf8 (spokenListing "Kazuki") := by
  have hcast : ∀ name ∈ Cast.standard.names, '\n' ∉ name := by decide
  have hcast' : ∀ name ∈ (⟨["; \" = \\\r".toList]⟩ : Cast).names, '\n' ∉ name := by decide
  have h : disassemble spokenScript .utf8 Cast.standard = .ok (spokenListing "Kazuki") := by
    decide +kernel
  exact ⟨hcast, hcast', h, assemble_eq_of_cast hcast hcast' h .utf8⟩

/-- What follows a line feed in a name stands on a line of its own, which the assembler reads. -/
theorem assemble_ne_of_lineFeed :
    disassemble spokenScript .utf8 Cast.standard = .ok (spokenListing "Kazuki") ∧
      disassemble spokenScript .utf8 ⟨["A\nB".toList]⟩ = .ok (spokenListing "A\nB") ∧
      assemble .utf8 (spokenListing "Kazuki") = .ok spokenScript ∧
      assemble .utf8 (spokenListing "A\nB") =
        .error (.syntactic 8 (.notAssignment "B".toList)) := by
  decide +kernel

end NovelScript
