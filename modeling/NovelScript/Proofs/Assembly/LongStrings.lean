import NovelScript.Proofs.Assembly.Agreement
import NovelScript.Proofs.Source.Lines
import NovelScript.Proofs.Source.Literals
import NovelScript.Proofs.WellFormed

/-!
Strings whose room is no word. A string of `n` letters followed by another one is assembled for
every `n` apart from those that are `2 ^ 32 - 2` up to a multiple of `2 ^ 32`, and the second string
is put at `n + 1` as a word (`assemble_longSource`). From `n = 2 ^ 32 - 1` on it is put where the
first one still stands. The length is a variable throughout: no text of this length is evaluated.
-/

namespace NovelScript.Assembly

open TwoPass

def longLine (n : Nat) : Text := ['f'] ++ (" = \"".toList ++ List.replicate n 'a') ++ ['"']

def longSource (n : Nat) : Text :=
  Text.unlines ["script s".toList, "strings".toList, longLine n, "g = \"\"".toList,
    "endstrings".toList, "function f,0".toList, "end".toList, "endfunction".toList]

/-! ### Reading the lines -/

theorem mem_longLine {n : Nat} {c : Char} (h : c ∈ longLine n) : c ∈ "f = \"a".toList := by
  simp only [longLine, List.mem_append, List.mem_singleton, List.mem_replicate] at h
  rcases h with (rfl | h | ⟨-, rfl⟩) | rfl
  · decide
  · exact List.mem_append_right ['f'] (List.mem_append_left ['a'] h)
  · decide
  · decide

theorem solid_singleton {c : Char} (h : isSpace c = false) : Text.Solid [c] :=
  .of_forall (List.cons_ne_nil c []) (by simpa using h)

theorem solid_longLine (n : Nat) : (longLine n).Solid :=
  (solid_singleton rfl).append (solid_singleton rfl) _

theorem passes_longLine (n : Nat) : Source.Passes .outside (longLine n) .outside := by
  have hopen : Source.Passes .outside "f = \"".toList (.inside '"') :=
    (Source.Passes.plain (t := "f = ".toList) (by simp [Source.inert_iff])).append
      (.cons (fun _ => by decide) (.nil _))
  have hletters : Source.Passes (.inside '"') (List.replicate n 'a') (.inside '"') := by
    refine .quoted fun c hc => ?_
    rw [(List.mem_replicate.1 hc).2]
    decide
  exact (hopen.append hletters).append (.cons nofun (.nil _))

theorem clean_longLine (n : Nat) : Source.clean (longLine n) = longLine n := by
  have hline : longLine n = [] ++ longLine n ++ [] := (List.append_nil _).symm
  exact Source.clean_padded hline nofun (solid_longLine n) nofun (passes_longLine n).stripComment_eq

theorem lines_longSource (n : Nat) :
    Source.lines (longSource n) = [⟨1, "script s".toList⟩, ⟨2, "strings".toList⟩, ⟨3, longLine n⟩,
      ⟨4, "g = \"\"".toList⟩, ⟨5, "endstrings".toList⟩, ⟨6, "function f,0".toList⟩,
      ⟨7, "end".toList⟩, ⟨8, "endfunction".toList⟩] := by
  have hkept {l : Text} (hclean : Source.clean l = l) (hne : l ≠ []) (k : Nat) (ls : List Text) :
      Source.numberLines k ((l :: ls).map Text.dropReturn) =
        ⟨k, l⟩ :: Source.numberLines (k + 1) (ls.map Text.dropReturn) := by
    have hkeep : Source.clean l ≠ [] := by rwa [hclean]
    rw [Source.numberLines_kept hkeep, hclean]
  rw [longSource, Source.lines_unlines, hkept (by decide) (by decide),
    hkept (by decide) (by decide), hkept (clean_longLine n) (solid_longLine n).ne_nil,
    hkept (by decide) (by decide), hkept (by decide) (by decide), hkept (by decide) (by decide),
    hkept (by decide) (by decide), hkept (by decide) (by decide)]
  · rfl
  · have hlong : '\n' ∉ longLine n := fun h => absurd (mem_longLine h) (by decide)
    simp only [List.forall_mem_cons, hlong]
    decide

theorem exists_body_letters (n : Nat) :
    ∃ pieces, Literal.body (List.replicate n 'a' ++ ['"']) = .ok pieces ∧
      Literal.encode .utf8 pieces = some (List.replicate n 0x61) := by
  induction n with
  | zero => exact ⟨[], by decide, rfl⟩
  | succ n ih =>
    obtain ⟨pieces, hbody, hencode⟩ := ih
    refine ⟨Literal.consChar 'a' pieces, ?_, ?_⟩
    · rw [List.replicate_succ, List.cons_append, Literal.body_plain (by decide) (by decide), hbody]
      rfl
    · rw [Literal.encode_consChar, hencode]
      rfl

theorem string?_longLine (k n : Nat) :
    string? .utf8 ⟨k, longLine n⟩ = some (['f'], List.replicate n 0x61) := by
  obtain ⟨pieces, hbody, hencode⟩ := exists_body_letters n
  let value : Text := '"' :: (List.replicate n 'a' ++ ['"'])
  have hvalue : value.Solid :=
    (solid_singleton rfl).append (solid_singleton rfl) (List.replicate n 'a')
  have hsplit : Source.splitAssignment (longLine n) = some (['f'], value) := by
    have hline : longLine n = ['f', ' '] ++ '=' :: (' ' :: value) := by
      simp [longLine, value]
    have hfront : ∀ c ∈ ['f', ' '], decide (c = '=') = false := by simp
    rw [Source.splitAssignment, hline, Text.splitAtFirst_append hfront rfl]
    show some (['f'], Text.trim (' ' :: value)) = _
    rw [Text.trim_cons_blank hvalue]
  refine string?_eq_some_iff.2 ⟨value, pieces, hsplit, by decide, by decide, hbody, hencode, ?_⟩
  intro hzero
  exact absurd (List.mem_replicate.1 hzero).2 (by decide)

/-! ### Assembling -/

def stopRoutine : Routine where
  name := ['f']
  params := 0
  body := [.instruction .stop []]

def longProgram (n : Nat) : Program where
  name := [0x73]
  strings := [(['f'], List.replicate n 0x61), (['g'], [])]
  routines := [stopRoutine]

def longScript (n : Nat) : Script where
  name := [0x73]
  strings := [⟨0, List.replicate n 0x61⟩, ⟨UInt32.ofNat (n + 1), []⟩]
  functions := [{ name := 0, pos := 0, code := [0x2c] }]

theorem program?_longSource (n : Nat) :
    program? .utf8 (Source.lines (longSource n)) = some (longProgram n) := by
  rw [lines_longSource, program?_eq_some_iff rfl]
  have hrest : strings? .utf8 [⟨4, "g = \"\"".toList⟩, ⟨5, "endstrings".toList⟩,
      ⟨6, "function f,0".toList⟩, ⟨7, "end".toList⟩, ⟨8, "endfunction".toList⟩] =
        some ([(['g'], [])], [⟨6, "function f,0".toList⟩, ⟨7, "end".toList⟩,
          ⟨8, "endfunction".toList⟩]) := by decide
  have hend : longLine n ≠ "endstrings".toList := fun hend => nomatch congrArg List.head? hend
  have hname : Declaration.scriptName .utf8 ⟨1, "script s".toList⟩ = .ok [0x73] := by decide
  have hroutines : routines? none [⟨6, "function f,0".toList⟩, ⟨7, "end".toList⟩,
      ⟨8, "endfunction".toList⟩] = some [stopRoutine] := by decide
  exact ⟨_, hname, (strings?_cons_eq_some_iff hend).2 ⟨_, _, string?_longLine 3 n, hrest, rfl⟩,
    hroutines⟩

theorem script?_longProgram {n : Nat} (h : (n + 1) % 2 ^ 32 ≠ 2 ^ 32 - 1) :
    (longProgram n).script? = some (longScript n) := by
  have hsize : stringSize (List.replicate n 0x61) = (n + 1) % 2 ^ 32 := by
    rw [stringSize, List.length_replicate]
  have htable : tableFrom 0 (longProgram n).strings =
      [(['f'], ⟨0, List.replicate n 0x61⟩), (['g'], ⟨UInt32.ofNat (n + 1), []⟩)] := by
    have hpos : UInt32.ofNat ((n + 1) % 2 ^ 32) = UInt32.ofNat (n + 1) := UInt32.ofNat_mod_size
    rw [longProgram, tableFrom, tableFrom, tableFrom, hsize, Nat.zero_add, hpos]
    rfl
  rw [Program.script?_eq_some_iff, htable]
  refine ⟨?_, _, rfl, rfl⟩
  exact {
    strings_ne := List.cons_ne_nil _ _
    strings_nodup := show [['f'], ['g']].Nodup by decide
    strings_size := by
      show stringSize _ + (1 + 0) < 2 ^ 32
      rw [hsize]
      omega
    routines_ne := List.cons_ne_nil _ _
    routines_nodup := List.nodup_singleton _
    code_size := show programSize [stopRoutine] < 2 ^ 32 by decide
    routines_valid := show ∀ r ∈ [stopRoutine], r.Valid by decide }

theorem assemble_longSource {n : Nat} (h : (n + 1) % 2 ^ 32 ≠ 2 ^ 32 - 1) :
    assemble .utf8 (longSource n) = .ok (longScript n) := by
  rw [assemble, assembleLines_eq_ok_iff, TwoPass.assembleLines, program?_longSource]
  exact script?_longProgram h

/-! ### Saving -/

/-- Behind a string whose room is no word nothing stands where it has to. -/
theorem not_wellFormed_longScript {n : Nat} (h : 2 ^ 32 ≤ n + 1) : ¬ (longScript n).WellFormed := by
  intro hwf
  obtain ⟨-, hpos, -⟩ := hwf.strings_packed
  change (UInt32.ofNat (n + 1)).toNat = 0 + (List.replicate n (0x61 : UInt8)).length + 1 at hpos
  have hlt := (UInt32.ofNat (n + 1)).toNat_lt
  rw [hpos, List.length_replicate] at hlt
  omega

theorem save_longScript {n : Nat} (h : 2 ^ 32 ≤ n + 1) :
    (longScript n).save =
      .error (.encode (.misplacedString (UInt32.ofNat (n + 1)) (n + 1))) := by
  have hzero : (0 : UInt8) ∉ List.replicate n 0x61 := fun hmem =>
    absurd (List.mem_replicate.1 hmem).2 (by decide)
  have hplace :
      (UInt32.ofNat (n + 1)).toNat ≠ 0 + (List.replicate n (0x61 : UInt8)).length + 1 := by
    have hlt := (UInt32.ofNat (n + 1)).toNat_lt
    rw [List.length_replicate]
    omega
  have hstrings : Script.layStrings 0 (longScript n).strings =
      .error (.encode (.misplacedString (UInt32.ofNat (n + 1)) (n + 1))) := by
    have hfirst : ¬ (0 : UInt32).toNat ≠ 0 := not_not_intro rfl
    rw [longScript, Script.layStrings, if_neg hfirst, if_neg hzero, Script.layStrings,
      if_pos hplace, List.length_replicate, Nat.zero_add]
    rfl
  have hcode : Script.layCode 0 (Script.codeOrder (longScript n).functions) = .ok [0x2c] := by
    rw [longScript, Script.codeOrder, List.mergeSort_singleton]
    rfl
  rw [Script.save, hcode, hstrings]
  rfl

end NovelScript.Assembly
