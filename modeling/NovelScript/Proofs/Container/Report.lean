import NovelScript.Proofs.Container.RoundTrip
import NovelScript.Script.Summary

/-!
The layout report of a script against the container that is written of it. The report is computed
from the two tables alone: its code ends where the last function ends, and its strings end behind
the last one. Laying the tables out sorts the functions, fills the gaps between them and joins the
strings, and yet comes to the same sizes (`toNat_codeEnd`, `toNat_nextStringPos`); so what the
report says stands in the header, the records and the sections of the container
(`truthful_summary`).
-/

namespace NovelScript

namespace Container

/-! ### Sizes of the sections -/

theorem max?_stops (s : Script) :
    (0 :: s.functions.map fun f => f.stop.toNat).max? = some s.codeEnd.toNat := by
  have hfold (fs : List FunctionEntry) (start : UInt32) :
      (fs.foldl (fun stop f => max stop f.stop) start).toNat =
        fs.foldl (fun stop f => max stop f.stop.toNat) start.toNat := by
    induction fs generalizing start with
    | nil => rfl
    | cons f fs ih => rw [List.foldl_cons, List.foldl_cons, ih, UInt32.toNat_max]
  rw [List.max?_cons', List.foldl_map, Script.codeEnd, hfold]
  rfl

theorem toNat_codeEnd {s : Script} {code : Bytes}
    (h : Script.layCode 0 (Script.codeOrder s.functions) = .ok code)
    (hsize : code.length < 2 ^ 32) :
    s.codeEnd.toNat = code.length := by
  have hstop (f : FunctionEntry) (hf : f ∈ s.functions) :
      f.stop.toNat = f.pos.toNat + f.code.length ∧ f.stop.toNat ≤ code.length := by
    obtain ⟨-, hle, -⟩ := slice_of_layCode h (List.mem_mergeSort.2 hf)
    rw [FunctionEntry.stop, UInt32.toNat_ofNat']
    omega
  obtain ⟨hattained, hle⟩ := List.max?_eq_some_iff.1 (max?_stops s)
  rw [List.mem_cons, List.mem_map] at hattained
  rw [List.forall_mem_cons, List.forall_mem_map] at hle
  apply Nat.le_antisymm
  · rcases hattained with hzero | ⟨f, hf, hend⟩
    · omega
    · exact hend ▸ (hstop f hf).2
  · rcases stop_of_layCode h with hnil | ⟨f, hf, hend⟩
    · omega
    · have hmem : f ∈ s.functions := List.mem_mergeSort.1 hf
      have hlast := hle.2 f hmem
      rw [(hstop f hmem).1] at hlast
      omega

theorem length_of_getLast? {cursor : Nat} {strings : List StringEntry} {bytes : Bytes}
    {last : StringEntry} (h : Script.layStrings cursor strings = .ok bytes)
    (hlast : strings.getLast? = some last) :
    last.pos.toNat + last.bytes.length + 1 = cursor + bytes.length := by
  induction strings generalizing cursor bytes with
  | nil => exact nomatch hlast
  | cons s strings ih =>
    obtain ⟨hpos, -, rest, hrest, rfl⟩ := layStrings_cons_eq_ok_iff.1 h
    rw [List.length_append, List.length_cons]
    cases strings with
    | nil =>
      rw [List.getLast?_singleton] at hlast
      obtain rfl := Option.some.inj hlast
      obtain rfl := Except.ok.inj hrest
      rw [List.length_nil]
      omega
    | cons t strings =>
      have := ih hrest (by rwa [List.getLast?_cons_cons] at hlast)
      omega

theorem toNat_nextStringPos {s : Script} {strings : Bytes}
    (h : Script.layStrings 0 s.strings = .ok strings) (hsize : strings.length < 2 ^ 32) :
    s.nextStringPos.toNat = strings.length := by
  rw [Script.nextStringPos]
  cases hlast : s.strings.getLast? with
  | none =>
    rw [List.getLast?_eq_none_iff.1 hlast] at h
    obtain rfl := Except.ok.inj h
    rfl
  | some last =>
    have hend := length_of_getLast? h hlast
    show (UInt32.ofNat (last.pos.toNat + last.bytes.length + 1)).toNat = strings.length
    rw [hend, Nat.zero_add, UInt32.toNat_ofNat', Nat.mod_eq_of_lt hsize]

/-- Every string of a section ends in the one zero byte that it takes up. -/
theorem count_zero_of_layStrings {cursor : Nat} {strings : List StringEntry} {bytes : Bytes}
    (h : Script.layStrings cursor strings = .ok bytes) : bytes.count 0 = strings.length := by
  induction strings generalizing cursor bytes with
  | nil =>
    obtain rfl := Except.ok.inj h
    rfl
  | cons s strings ih =>
    obtain ⟨-, hzero, rest, hrest, rfl⟩ := layStrings_cons_eq_ok_iff.1 h
    rw [List.count_append, List.count_cons_self, List.count_eq_zero.2 hzero, ih hrest,
      List.length_cons, Nat.zero_add]

/-! ### The report -/

structure Reports (f : FunctionSummary) (r : Record) : Prop where
  pos : f.pos = r.pos
  size : f.size = r.size
  params : f.params = r.params
  locals : f.locals = r.locals

/-- What a report says stands in the data: the sizes at 0x30 and 0x38 of the header, the strings
with their zero bytes in the string section, and every function in its place in the function table.
-/
structure Truthful (report : ScriptSummary) (d : Bytes) : Prop where
  codeSize : report.codeSize = wordAt d 0x30
  stringsSize : report.stringsSize = wordAt d 0x38
  stringCount : report.stringCount = (stringSection d).count 0
  functionCount : report.functions.length = (wordAt d 0x28).toNat
  functions : List.Forall₂ Reports report.functions (records d)

theorem reports_summarizeFunction (s : Script) (cs : Charset) (f : FunctionEntry) :
    Reports (s.summarizeFunction cs f) (Record.ofFunction f) := ⟨rfl, rfl, rfl, rfl⟩

/-- The report of a script tells the truth about the container that is written of it. -/
theorem truthful_summary {s : Script} {d : Bytes} (cs : Charset) (hsave : s.save = .ok d)
    (hsize : d.length < 2 ^ 32) : Truthful (s.summary cs) d := by
  obtain ⟨-, code, strings, hcode, hstrings, rfl⟩ := save_eq_ok_iff.1 hsave
  have hexact := exact_headerOf hsize
  have hlength := length_assembleSections s code strings
  refine ⟨UInt32.toNat_inj.1 ?_, UInt32.toNat_inj.1 ?_, ?_, ?_, ?_⟩
  · exact (toNat_codeEnd hcode (by omega)).trans hexact.codeSize.symm
  · exact (toNat_nextStringPos hstrings (by omega)).trans hexact.stringsSize.symm
  · rw [stringSection_assembleSections hsize]
    exact (count_zero_of_layStrings hstrings).symm
  · exact (List.length_map _).trans hexact.functionCount.symm
  · rw [records_assembleSections hsize, Script.summary, List.forall₂_map_left_iff,
      List.forall₂_map_right_iff, List.forall₂_same]
    exact fun f _ => reports_summarizeFunction s cs f

/-- The functions are not in the order of the code, which has gaps. -/
theorem truthful_summary_gapped :
    gapped.save = .ok gappedContainer ∧ gappedContainer.length < 2 ^ 32 ∧
      Truthful (gapped.summary .utf8) gappedContainer ∧
      (gapped.summary .utf8).codeSize = 6 ∧ (gapped.summary .utf8).stringsSize = 5 := by
  have hsize : gappedContainer.length < 2 ^ 32 := by decide +kernel
  exact ⟨save_gapped, hsize, truthful_summary .utf8 save_gapped hsize, rfl, rfl⟩

end Container

end NovelScript
