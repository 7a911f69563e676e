import NovelScript.Proofs.Container.Loading
import NovelScript.Proofs.Fields

/-!
A container that has been written. As long as its size is a word the header is exact, so the records
and sections that were written stand in it, and the data depicts the script
(`depicts_assembleSections`). It is read back as that script if every function is named by a string
(`load_of_save`), and only then (`load_save_iff`).
-/

namespace NovelScript

def Script.padding (s : Script) (code : Bytes) : Bytes :=
  List.replicate
    (paddingTo Container.stringsAlignment
      (Container.headerSize + s.functions.length * Container.recordSize + code.length)) 0

namespace Container

def assembleSections (s : Script) (code strings : Bytes) : Bytes :=
  encodeFields (s.headerFor code strings).fields ++ tableBytes s.functions ++ code ++
    s.padding code ++ strings

/-- What is written is padded by its own size. -/
theorem bytes_write (s : Script) (code strings : Bytes) :
    (s.write code strings).bytes = .ok (assembleSections s code strings) := by
  obtain ⟨b₁, hheader, hb₁⟩ := Write.runOn_fields (s.headerFor code strings).fields {}
  obtain ⟨b₂, htable, hb₂⟩ :=
    Write.runOn_fields (s.functions.flatMap fun f => (Record.ofFunction f).fields) b₁
  have hrun : (s.write code strings).runOn {} =
      (.ok (), ((b₂.put (.block code)).align stringsAlignment).put (.block strings)) := by
    rw [Script.write, Write.runOn_bind_ok hheader, Write.runOn_bind_ok htable]
    rfl
  have hfront : b₂.toList =
      encodeFields (s.headerFor code strings).fields ++ tableBytes s.functions := by
    rw [hb₂, hb₁, encodeFields_flatMap, tableBytes, List.flatMap_map]
    rfl
  have hsize : (b₂.put (.block code)).size =
      headerSize + s.functions.length * recordSize + code.length := by
    rw [← Buffer.length_toList, Buffer.toList_put, hfront, List.length_append, List.length_append,
      length_encode_header, length_tableBytes]
    rfl
  rw [Write.bytes, hrun]
  show Except.ok _ = _
  rw [Buffer.toList_put, Buffer.toList_align, Buffer.toList_put, hfront, hsize]
  rfl

theorem save_eq_ok_iff {s : Script} {d : Bytes} :
    s.save = .ok d ↔ Script.checkName s.name = .ok () ∧
      ∃ code strings, Script.layCode 0 (Script.codeOrder s.functions) = .ok code ∧
        Script.layStrings 0 s.strings = .ok strings ∧ assembleSections s code strings = d := by
  rw [Script.save]
  constructor
  · intro h
    obtain ⟨⟨⟩, hname, h⟩ := Outcome.bind_eq_ok_iff.1 h
    obtain ⟨code, hcode, h⟩ := Outcome.bind_eq_ok_iff.1 h
    obtain ⟨strings, hstrings, h⟩ := Outcome.bind_eq_ok_iff.1 h
    rw [bytes_write] at h
    exact ⟨hname, code, strings, hcode, hstrings, Except.ok.inj h⟩
  · rintro ⟨hname, code, strings, hcode, hstrings, rfl⟩
    rw [hname, Outcome.ok_bind, hcode, Outcome.ok_bind, hstrings, Outcome.ok_bind, bytes_write]

theorem length_assembleSections (s : Script) (code strings : Bytes) :
    (assembleSections s code strings).length =
      headerSize + s.functions.length * recordSize + code.length + (s.padding code).length +
        strings.length := by
  simp only [assembleSections, List.length_append, length_encode_header, length_tableBytes]

/-- What the header says of a container whose size is a word. -/
structure Exact (s : Script) (code strings : Bytes) (h : Header) : Prop where
  functionsStart : h.functionsStart.toNat = headerSize
  functionCount : h.functionCount.toNat = s.functions.length
  codeStart : h.codeStart.toNat = headerSize + s.functions.length * recordSize
  codeSize : h.codeSize.toNat = code.length
  stringsStart : h.stringsStart.toNat =
    headerSize + s.functions.length * recordSize + code.length + (s.padding code).length
  stringsSize : h.stringsSize.toNat = strings.length
  fileSize : h.fileSize.toNat = (assembleSections s code strings).length

section

variable {s : Script} {code strings : Bytes}

theorem exact_headerFor (h : (assembleSections s code strings).length < 2 ^ 32) :
    Exact s code strings (s.headerFor code strings) := by
  have hlength := length_assembleSections s code strings
  have hpadding : (s.padding code).length = paddingTo stringsAlignment
      (headerSize + s.functions.length * recordSize + code.length) := List.length_replicate
  have hcount : s.functions.length ≤ s.functions.length * recordSize :=
    Nat.le_mul_of_pos_right _ (by decide)
  have hword {n : Nat} (hn : n < 2 ^ 32) : (UInt32.ofNat n).toNat = n := by
    rw [UInt32.toNat_ofNat']
    exact Nat.mod_eq_of_lt hn
  exact {
    functionsStart := rfl
    functionCount := hword (by omega)
    codeStart := hword (by omega)
    codeSize := hword (by omega)
    stringsStart := by
      rw [hpadding]
      exact hword (by omega)
    stringsSize := hword (by omega)
    fileSize := by
      rw [hlength, hpadding]
      exact hword (by omega) }

theorem headerOf_assembleSections (s : Script) (code strings : Bytes) :
    headerOf (assembleSections s code strings) =
      { s.headerFor code strings with name := Field.padded s.name nameWidth } := by
  simp only [assembleSections, List.append_assoc]
  exact headerOf_encode _ _

theorem exact_headerOf (h : (assembleSections s code strings).length < 2 ^ 32) :
    Exact s code strings (headerOf (assembleSections s code strings)) := by
  have hexact := exact_headerFor h
  rw [headerOf_assembleSections]
  exact ⟨hexact.functionsStart, hexact.functionCount, hexact.codeStart, hexact.codeSize,
    hexact.stringsStart, hexact.stringsSize, hexact.fileSize⟩

/-! ### What was written stands in the data -/

theorem codeSection_assembleSections (h : (assembleSections s code strings).length < 2 ^ 32) :
    codeSection (assembleSections s code strings) = code := by
  have hexact := exact_headerOf h
  have hsplit : assembleSections s code strings =
      encodeFields (s.headerFor code strings).fields ++ tableBytes s.functions ++
        (code ++ (s.padding code ++ strings)) := by
    simp only [assembleSections, List.append_assoc]
  rw [codeSection]
  nth_rewrite 1 [hsplit]
  refine span_middle ?_ hexact.codeSize
  rw [hexact.codeStart, List.length_append, length_encode_header, length_tableBytes]

theorem stringSection_assembleSections (h : (assembleSections s code strings).length < 2 ^ 32) :
    stringSection (assembleSections s code strings) = strings := by
  have hexact := exact_headerOf h
  have hsplit : assembleSections s code strings =
      encodeFields (s.headerFor code strings).fields ++ tableBytes s.functions ++ code ++
        s.padding code ++ (strings ++ []) := by
    rw [List.append_nil]
    rfl
  rw [stringSection]
  nth_rewrite 1 [hsplit]
  refine span_middle ?_ hexact.stringsSize
  rw [hexact.stringsStart]
  simp only [List.length_append, length_encode_header, length_tableBytes]

theorem records_assembleSections (h : (assembleSections s code strings).length < 2 ^ 32) :
    records (assembleSections s code strings) = s.functions.map Record.ofFunction := by
  have hexact := exact_headerOf h
  have htable : (assembleSections s code strings).drop headerSize =
      tableBytes s.functions ++ (code ++ (s.padding code ++ strings)) := by
    simp only [assembleSections, List.append_assoc]
    exact List.drop_left' (length_encode_header _)
  have hfound := recordsAt_encode htable
  rw [List.length_map] at hfound
  rw [records, hexact.functionsStart, hexact.functionCount, hfound]

theorem placed_assembleSections (h : (assembleSections s code strings).length < 2 ^ 32) :
    Placed (assembleSections s code strings) := by
  have hexact := exact_headerOf h
  have hlength := length_assembleSections s code strings
  refine ⟨by omega, ?_, ?_, ?_, ?_⟩
  · rw [hexact.functionCount]
    omega
  · rw [hexact.functionsStart, hexact.functionCount]
    omega
  · rw [hexact.codeStart, hexact.codeSize]
    omega
  · rw [hexact.stringsStart, hexact.stringsSize]
    omega

theorem functionAt_ofFunction (h : (assembleSections s code strings).length < 2 ^ 32)
    (hcode : Script.layCode 0 (Script.codeOrder s.functions) = .ok code) {f : FunctionEntry}
    (hf : f ∈ s.functions) :
    f.pos.toNat + (Record.ofFunction f).size.toNat ≤ code.length ∧
      functionAt (assembleSections s code strings) (Record.ofFunction f) = f := by
  have hlength := length_assembleSections s code strings
  have hexact := exact_headerOf h
  obtain ⟨-, hstop, hslice⟩ := slice_of_layCode hcode (List.mem_mergeSort.2 hf)
  have hsize : (Record.ofFunction f).size.toNat = f.code.length := by
    show (UInt32.ofNat f.code.length).toNat = f.code.length
    rw [UInt32.toNat_ofNat']
    omega
  have hinside : f.pos.toNat + (Record.ofFunction f).size.toNat ≤ code.length := by omega
  have hsame :
      (functionAt (assembleSections s code strings) (Record.ofFunction f)).code = f.code := by
    rw [← slice_codeSection (by rw [hexact.codeSize]; exact hinside),
      codeSection_assembleSections h, slice, hsize]
    exact hslice
  exact ⟨hinside,
    congrArg (fun code => FunctionEntry.mk f.name f.pos f.params f.locals code) hsame⟩

theorem depicts_assembleSections (h : (assembleSections s code strings).length < 2 ^ 32)
    (hname : Script.checkName s.name = .ok ())
    (hcode : Script.layCode 0 (Script.codeOrder s.functions) = .ok code)
    (hstrings : Script.layStrings 0 s.strings = .ok strings) :
    Depicts (assembleSections s code strings) s := by
  obtain ⟨hshort, hzero⟩ := checkName_eq_ok_iff.1 hname
  refine ⟨?_, ?_, ?_⟩
  · rw [headerOf_assembleSections]
    exact (trimName_padded hshort hzero).symm
  · rw [stringSection_assembleSections h]
    exact isSplit_iff.2 hstrings
  · rw [records_assembleSections h, List.map_map]
    have hsame :
        s.functions.map (functionAt (assembleSections s code strings) ∘ Record.ofFunction) =
        s.functions.map id :=
      List.map_congr_left fun f hf => (functionAt_ofFunction h hcode hf).2
    rw [hsame, List.map_id]

theorem wellFormed_assembleSections_iff (h : (assembleSections s code strings).length < 2 ^ 32)
    (hcode : Script.layCode 0 (Script.codeOrder s.functions) = .ok code)
    (hstrings : Script.layStrings 0 s.strings = .ok strings) :
    WellFormed (assembleSections s code strings) ↔
      ∀ f ∈ s.functions, f.name ∈ s.strings.map (·.pos) := by
  have hexact := exact_headerOf h
  have hstarts (name : UInt32) :
      StartsString strings name.toNat ↔ name ∈ s.strings.map (·.pos) := by
    simp only [startsString_iff hstrings, Nat.zero_add, UInt32.toNat_inj, List.mem_map]
  constructor
  · intro hwf f hf
    have hstart := hwf.name_starts (Record.ofFunction f)
      (by rw [records_assembleSections h]; exact List.mem_map_of_mem hf)
    rw [stringSection_assembleSections h] at hstart
    exact (hstarts f.name).1 hstart
  · intro hnames
    refine ⟨placed_assembleSections h, ?_, ?_, ?_⟩
    · rw [stringSection_assembleSections h]
      exact terminated_of_layStrings hstrings
    · rw [records_assembleSections h, hexact.codeSize, List.forall_mem_map]
      exact fun f hf => (functionAt_ofFunction h hcode hf).1
    · rw [records_assembleSections h, stringSection_assembleSections h, List.forall_mem_map]
      exact fun f hf => (hstarts f.name).2 (hnames f hf)

end

/-! ### Reading back -/

/-- A container is read back as the script that was written. -/
theorem load_of_save {s : Script} {d : Bytes} (h : s.save = .ok d) (hsize : d.length < 2 ^ 32)
    (hnames : ∀ f ∈ s.functions, f.name ∈ s.strings.map (·.pos)) : Script.load d = .ok s := by
  obtain ⟨hname, code, strings, hcode, hstrings, rfl⟩ := save_eq_ok_iff.1 h
  exact load_eq_ok_iff.2 ⟨(wellFormed_assembleSections_iff hsize hcode hstrings).2 hnames,
    depicts_assembleSections hsize hname hcode hstrings⟩

/-- Exactly the scripts whose functions are named by their strings are read back from what was
written. -/
theorem load_save_iff {s : Script} {d : Bytes} (h : s.save = .ok d) (hsize : d.length < 2 ^ 32) :
    Script.load d = .ok s ↔ ∀ f ∈ s.functions, f.name ∈ s.strings.map (·.pos) := by
  obtain ⟨-, code, strings, hcode, hstrings, rfl⟩ := save_eq_ok_iff.1 h
  constructor
  · intro hload
    exact (wellFormed_assembleSections_iff hsize hcode hstrings).1 (load_eq_ok_iff.1 hload).1
  · exact load_of_save h hsize

/-- A script whose table is not in the order of the code. There are gaps in the code, and one of the
functions is empty, like the string that is its name. -/
def gapped : Script where
  name := [0x6d]
  strings := [⟨0, [0x66]⟩, ⟨2, []⟩, ⟨3, [0x67]⟩]
  functions := [
    { name := 3, pos := 5, params := 300, locals := 7, code := [0x2c] },
    { name := 2, pos := 3, code := [] },
    { name := 0, pos := 0, code := [0x29, 0x2c] }]

def gappedContainer : Bytes :=
  [0, 0, 0, 0] ++ 0x6d :: List.replicate 31 0 ++
    [0x44, 0, 0, 0, 3, 0, 0, 0, 0x80, 0, 0, 0, 6, 0, 0, 0, 0x88, 0, 0, 0, 5, 0, 0, 0, 0x8d, 0, 0, 0,
      0, 0, 0, 0] ++
    [3, 0, 0, 0, 0x2c, 1, 0, 0, 7, 0, 0, 0, 5, 0, 0, 0, 1, 0, 0, 0] ++
    [2, 0, 0, 0, 0, 0, 0, 0, 0, 0, 0, 0, 3, 0, 0, 0, 0, 0, 0, 0] ++
    [0, 0, 0, 0, 0, 0, 0, 0, 0, 0, 0, 0, 0, 0, 0, 0, 2, 0, 0, 0] ++
    [0x29, 0x2c, 0, 0, 0, 0x2c] ++ [0, 0] ++ [0x66, 0, 0, 0x67, 0]

theorem save_gapped : gapped.save = .ok gappedContainer := by
  have horder : Script.codeOrder gapped.functions = gapped.functions.reverse := by
    simp [Script.codeOrder, gapped, List.mergeSort]
  rw [save_eq_ok_iff, horder]
  exact ⟨rfl, _, _, rfl, rfl, rfl⟩

theorem load_gappedContainer :
    gapped.save = .ok gappedContainer ∧ gappedContainer.length < 2 ^ 32 ∧
      Script.load gappedContainer = .ok gapped := by
  have hsize : gappedContainer.length < 2 ^ 32 := by decide +kernel
  exact ⟨save_gapped, hsize, (load_save_iff save_gapped hsize).2 (by decide)⟩

end Container

end NovelScript
