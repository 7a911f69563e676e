import NovelScript.Proofs.Container.RoundTrip

/-!
Canonical containers. Loading forgets what is not part of the script; writing puts zeros there, and
the sections one behind the other. Where all of this is so already a container is *canonical*: if it
is loaded and written, it is the same again exactly if it is canonical (`save_load_eq_iff`).
-/

namespace NovelScript.Container

/-! ### Canonical containers -/

/-- The end of the last code that belongs to a function. -/
def largestStop : List Record → Nat
  | [] => 0
  | r :: rs => max (r.pos.toNat + r.size.toNat) (largestStop rs)

theorem stop_le_largestStop {rs : List Record} {r : Record} (hr : r ∈ rs) :
    r.pos.toNat + r.size.toNat ≤ largestStop rs := by
  induction rs with
  | nil => exact nomatch hr
  | cons t rs ih =>
    rcases List.mem_cons.1 hr with rfl | hr
    · exact Nat.le_max_left _ _
    · exact (ih hr).trans (Nat.le_max_right _ _)

theorem largestStop_attained (rs : List Record) :
    largestStop rs = 0 ∨ ∃ r ∈ rs, r.pos.toNat + r.size.toNat = largestStop rs := by
  induction rs with
  | nil => exact .inl rfl
  | cons r rs ih =>
    rw [largestStop, List.exists_mem_cons_iff]
    rcases Nat.le_total (largestStop rs) (r.pos.toNat + r.size.toNat) with hle | hle
    · exact .inr (.inl (Nat.max_eq_left hle).symm)
    · rw [Nat.max_eq_right hle]
      exact ih.imp_right .inr

theorem largestStop_eq {rs : List Record} {n : Nat}
    (hle : ∀ r ∈ rs, r.pos.toNat + r.size.toNat ≤ n)
    (hattained : n = 0 ∨ ∃ r ∈ rs, r.pos.toNat + r.size.toNat = n) : largestStop rs = n := by
  apply Nat.le_antisymm
  · rcases largestStop_attained rs with hzero | ⟨r, hr, hstop⟩
    · omega
    · exact hstop ▸ hle r hr
  · rcases hattained with rfl | ⟨r, hr, rfl⟩
    · exact Nat.zero_le _
    · exact stop_le_largestStop hr

def codeEnd (d : Bytes) : Nat := (headerOf d).codeStart.toNat + (headerOf d).codeSize.toNat

/-- Table, code and strings stand one behind the other and fill the data, the strings from the next
multiple of four on; and all is zero that is not used. -/
structure Canonical (d : Bytes) : Prop where
  leading : (headerOf d).leading = 0
  trailing : (headerOf d).trailing = 0
  name : ∀ b ∈ (headerOf d).name.dropWhile (· ≠ 0), b = 0
  functionsStart : (headerOf d).functionsStart.toNat = headerSize
  codeStart : (headerOf d).codeStart.toNat =
    headerSize + (headerOf d).functionCount.toNat * recordSize
  codeSize : (headerOf d).codeSize.toNat = largestStop (records d)
  stringsStart : (headerOf d).stringsStart.toNat = (codeEnd d + 3) / 4 * 4
  fileSize : (headerOf d).fileSize.toNat =
    (headerOf d).stringsStart.toNat + (headerOf d).stringsSize.toNat
  length : d.length = (headerOf d).stringsStart.toNat + (headerOf d).stringsSize.toNat
  padding : ∀ b ∈ span d (codeEnd d) ((headerOf d).stringsStart.toNat - codeEnd d), b = 0
  gaps : ∀ i < (headerOf d).codeSize.toNat,
    (∀ r ∈ records d, i < r.pos.toNat ∨ r.pos.toNat + r.size.toNat ≤ i) →
      (codeSection d)[i]? = some 0

theorem add_paddingTo (n : Nat) : n + paddingTo stringsAlignment n = (n + 3) / 4 * 4 := by
  by_cases h : n % 4 = 0
  · rw [paddingTo, stringsAlignment, if_pos h]
    omega
  · rw [paddingTo, stringsAlignment, if_neg h]
    omega

section

variable {d code : Bytes} {s : Script}

/-! ### The code of a script that stands in a container -/

theorem length_functionAt (hplaced : Placed d) {r : Record}
    (hinside : r.pos.toNat + r.size.toNat ≤ (headerOf d).codeSize.toNat) :
    (functionAt d r).code.length = r.size.toNat := by
  have hcode := hplaced.code
  apply length_span
  omega

theorem ofFunction_functionAt (hplaced : Placed d) {r : Record}
    (hinside : r.pos.toNat + r.size.toNat ≤ (headerOf d).codeSize.toNat) :
    Record.ofFunction (functionAt d r) = r := by
  rw [Record.ofFunction, wordLength, length_functionAt hplaced hinside, UInt32.ofNat_toNat]
  rfl

theorem Depicts.mem_codeOrder_iff (hs : Depicts d s) {f : FunctionEntry} :
    f ∈ Script.codeOrder s.functions ↔ ∃ r ∈ records d, functionAt d r = f := by
  rw [Script.codeOrder, List.mem_mergeSort, hs.functions, List.mem_map]

theorem Depicts.length_functions (hs : Depicts d s) :
    s.functions.length = (headerOf d).functionCount.toNat := by
  rw [hs.functions, List.length_map, records, length_recordsAt]

/-- The functions of a script are written as the records that they were declared by. -/
theorem Depicts.map_ofFunction (hs : Depicts d s) (hwf : WellFormed d) :
    s.functions.map Record.ofFunction = records d := by
  rw [hs.functions, List.map_map]
  refine (List.map_congr_left fun r hr => ?_).trans (List.map_id _)
  exact ofFunction_functionAt hwf.toPlaced (hwf.code_inside r hr)

theorem largestStop_records (hwf : WellFormed d) (hs : Depicts d s)
    (hcode : Script.layCode 0 (Script.codeOrder s.functions) = .ok code) :
    largestStop (records d) = code.length := by
  have hlength (r : Record) (hr : r ∈ records d) : (functionAt d r).code.length = r.size.toNat :=
    length_functionAt hwf.toPlaced (hwf.code_inside r hr)
  apply largestStop_eq
  · intro r hr
    obtain ⟨-, hstop, -⟩ := slice_of_layCode hcode (hs.mem_codeOrder_iff.2 ⟨r, hr, rfl⟩)
    rw [hlength r hr, Nat.zero_add] at hstop
    exact hstop
  · rcases stop_of_layCode hcode with hnil | ⟨f, hf, hstop⟩
    · exact .inl hnil
    · obtain ⟨r, hr, rfl⟩ := hs.mem_codeOrder_iff.1 hf
      rw [hlength r hr, Nat.zero_add] at hstop
      exact .inr ⟨r, hr, hstop⟩

theorem zero_of_uncovered (hwf : WellFormed d) (hs : Depicts d s)
    (hcode : Script.layCode 0 (Script.codeOrder s.functions) = .ok code) {i : Nat}
    (hi : i < code.length)
    (hfree : ∀ r ∈ records d, i < r.pos.toNat ∨ r.pos.toNat + r.size.toNat ≤ i) :
    code[i]? = some 0 := by
  apply zero_of_layCode hcode hi
  intro f hf
  obtain ⟨r, hr, rfl⟩ := hs.mem_codeOrder_iff.1 hf
  rw [length_functionAt hwf.toPlaced (hwf.code_inside r hr), Nat.zero_add]
  exact hfree r hr

theorem getElem?_slice {data : Bytes} {start length : UInt32} {i : Nat}
    (hstart : start.toNat ≤ i) (hstop : i < start.toNat + length.toNat) :
    (slice data start length)[i - start.toNat]? = data[i]? := by
  rw [slice, List.getElem?_take_of_lt (by omega), List.getElem?_drop, Nat.add_sub_cancel' hstart]

/-- The code section of a canonical container is laid out again. It ends with the last function, and
where no function is there are zeros. -/
theorem codeSection_of_layCode (hwf : WellFormed d) (hs : Depicts d s) (hcanonical : Canonical d)
    (hcode : Script.layCode 0 (Script.codeOrder s.functions) = .ok code) :
    codeSection d = code := by
  have hsize : (codeSection d).length = code.length := by
    rw [hwf.length_codeSection, hcanonical.codeSize, largestStop_records hwf hs hcode]
  apply List.ext_getElem?
  intro i
  by_cases hi : i < code.length
  · by_cases hfree : ∀ r ∈ records d, i < r.pos.toNat ∨ r.pos.toNat + r.size.toNat ≤ i
    · rw [zero_of_uncovered hwf hs hcode hi hfree]
      apply hcanonical.gaps i _ hfree
      rw [← hwf.length_codeSection, hsize]
      exact hi
    · push Not at hfree
      obtain ⟨r, hr, hstart, hstop⟩ := hfree
      have hinside := hwf.code_inside r hr
      obtain ⟨-, -, hlaid⟩ := slice_of_layCode hcode (hs.mem_codeOrder_iff.2 ⟨r, hr, rfl⟩)
      have hsame : slice code r.pos r.size = slice (codeSection d) r.pos r.size := by
        rw [length_functionAt hwf.toPlaced hinside, ← slice_codeSection hinside] at hlaid
        exact hlaid
      rw [← getElem?_slice hstart hstop, ← getElem?_slice hstart hstop, hsame]
  · rw [List.getElem?_eq_none (by omega), List.getElem?_eq_none (by omega)]

/-! ### What is written of a canonical container -/

theorem headerFor_of_canonical (hwf : WellFormed d) (hs : Depicts d s) (hcanonical : Canonical d) :
    { s.headerFor (codeSection d) (stringSection d) with name := Field.padded s.name nameWidth } =
      headerOf d := by
  have hname : Field.padded s.name nameWidth = (headerOf d).name := by
    rw [hs.name]
    refine padded_trimName (length_span ?_) hcanonical.name
    have := hwf.header
    simp only [headerSize, nameWidth] at this ⊢
    omega
  have hword {w : UInt32} {n : Nat} (h : w.toNat = n) : UInt32.ofNat n = w := by
    rw [← h, UInt32.ofNat_toNat]
  have hstrings := hcanonical.stringsStart
  rw [← add_paddingTo, codeEnd, hcanonical.codeStart] at hstrings
  have hfile := hcanonical.fileSize
  rw [hstrings] at hfile
  have hends (h : Header) (hleading : h.leading = 0) (htrailing : h.trailing = 0) :
      { h with leading := 0, trailing := 0 } = h := by
    rw [← hleading]
    nth_rewrite 2 [hleading]
    rw [← htrailing]
  simp only [Script.headerFor, wordLength, hs.length_functions, hwf.length_codeSection,
    hwf.length_stringSection, hname, hword hcanonical.functionsStart, hword hcanonical.codeStart,
    hword hstrings, hword hfile, UInt32.ofNat_toNat]
  exact hends _ hcanonical.leading hcanonical.trailing

theorem tableBytes_of_canonical (hwf : WellFormed d) (hs : Depicts d s)
    (hcanonical : Canonical d) : tableBytes s.functions =
      span d headerSize ((headerOf d).functionCount.toNat * recordSize) := by
  rw [tableBytes, hs.map_ofFunction hwf, records, encode_recordsAt hwf.table,
    hcanonical.functionsStart]

theorem padding_of_canonical (hwf : WellFormed d) (hs : Depicts d s) (hcanonical : Canonical d) :
    s.padding (codeSection d) = span d (codeEnd d) (paddingTo stringsAlignment (codeEnd d)) := by
  have hstart := hcanonical.stringsStart
  rw [← add_paddingTo] at hstart
  have hzero := hcanonical.padding
  rw [hstart, Nat.add_sub_cancel_left] at hzero
  rw [Script.padding, hs.length_functions, hwf.length_codeSection, ← hcanonical.codeStart]
  symm
  refine List.eq_replicate_iff.2 ⟨length_span ?_, hzero⟩
  rw [← hstart, hcanonical.length]
  exact Nat.le_add_right _ _

/-- The parts of a canonical container make up the whole. -/
theorem assembleSections_of_canonical (hwf : WellFormed d) (hs : Depicts d s)
    (hcanonical : Canonical d) : assembleSections s (codeSection d) (stringSection d) = d := by
  have hend : headerSize + (headerOf d).functionCount.toNat * recordSize +
      (headerOf d).codeSize.toNat = codeEnd d := by
    rw [codeEnd, hcanonical.codeStart]
  have hstart := hcanonical.stringsStart
  rw [← add_paddingTo] at hstart
  have hheader : encodeFields (s.headerFor (codeSection d) (stringSection d)).fields =
      span d 0 headerSize := by
    have hsame := congrArg (fun h => encodeFields h.fields)
      (headerFor_of_canonical hwf hs hcanonical)
    rw [← encode_padded_name]
    exact hsame.trans (encode_headerOf hwf.header)
  have hcode : codeSection d = span d
      (headerSize + (headerOf d).functionCount.toNat * recordSize) (headerOf d).codeSize.toNat := by
    rw [← hcanonical.codeStart]
    rfl
  have hstrings : stringSection d = span d (codeEnd d + paddingTo stringsAlignment (codeEnd d))
      (headerOf d).stringsSize.toNat := by
    rw [← hstart]
    rfl
  calc assembleSections s (codeSection d) (stringSection d)
      = span d 0 (codeEnd d + paddingTo stringsAlignment (codeEnd d) +
          (headerOf d).stringsSize.toNat) := by
        rw [span_add, span_add, ← hend, span_add, span_add, assembleSections, hheader,
          tableBytes_of_canonical hwf hs hcanonical, padding_of_canonical hwf hs hcanonical,
          hstrings,
          hend]
        nth_rewrite 1 [hcode]
        simp only [Nat.zero_add]
    _ = span d 0 d.length := by rw [← hstart, hcanonical.length]
    _ = d := List.take_length

/-! ### Written containers are canonical -/

theorem canonical_of_save (hwf : WellFormed d) (hs : Depicts d s) (hsize : d.length < 2 ^ 32)
    (hsave : s.save = .ok d) : Canonical d := by
  obtain ⟨hname, code, strings, hcode, hstrings, rfl⟩ := save_eq_ok_iff.1 hsave
  have hexact := exact_headerOf hsize
  have hlength := length_assembleSections s code strings
  have hend : codeEnd (assembleSections s code strings) =
      headerSize + s.functions.length * recordSize + code.length := by
    rw [codeEnd, hexact.codeStart, hexact.codeSize]
  have hpadding : span (assembleSections s code strings)
      (codeEnd (assembleSections s code strings)) (s.padding code).length = s.padding code := by
    rw [hend, assembleSections, List.append_assoc]
    apply span_middle _ rfl
    simp only [List.length_append, length_encode_header, length_tableBytes]
  exact {
    leading := by
      rw [headerOf_assembleSections]
      rfl
    trailing := by
      rw [headerOf_assembleSections]
      rfl
    name := by
      rw [headerOf_assembleSections]
      exact zero_of_mem_dropWhile_padded (checkName_eq_ok_iff.1 hname).2
    functionsStart := hexact.functionsStart
    codeStart := by rw [hexact.codeStart, hexact.functionCount]
    codeSize := by rw [hexact.codeSize, largestStop_records hwf hs hcode]
    stringsStart := by
      rw [← add_paddingTo, hend, hexact.stringsStart, Script.padding, List.length_replicate]
    fileSize := by rw [hexact.fileSize, hlength, hexact.stringsStart, hexact.stringsSize]
    length := by rw [hlength, hexact.stringsStart, hexact.stringsSize]
    padding := by
      rw [hexact.stringsStart, hend, Nat.add_sub_cancel_left, ← hend, hpadding]
      exact fun b => List.eq_of_mem_replicate
    gaps := by
      rw [codeSection_assembleSections hsize, hexact.codeSize]
      exact fun i hi hfree => zero_of_uncovered hwf hs hcode hi hfree }

end

/-- A container that was loaded is written as it was, if and only if it is canonical. -/
theorem save_load_eq_iff {d d' : Bytes} {s : Script} (hsize : d.length < 2 ^ 32)
    (hload : Script.load d = .ok s) (hsave : s.save = .ok d') : d' = d ↔ Canonical d := by
  obtain ⟨hwf, hs⟩ := load_eq_ok_iff.1 hload
  constructor
  · rintro rfl
    exact canonical_of_save hwf hs hsize hsave
  · intro hcanonical
    obtain ⟨-, code, strings, hcode, hstrings, rfl⟩ := save_eq_ok_iff.1 hsave
    have hcodeSame : codeSection d = code := codeSection_of_layCode hwf hs hcanonical hcode
    have hstringsSame : stringSection d = strings := by
      have hlaid := isSplit_iff.1 hs.strings
      rw [hstrings] at hlaid
      exact (Except.ok.inj hlaid).symm
    rw [← hcodeSame, ← hstringsSame]
    exact assembleSections_of_canonical hwf hs hcanonical

theorem save_load_gappedContainer_tangled :
    Canonical gappedContainer ∧ Script.load gappedContainer = .ok gapped ∧
      gapped.save = .ok gappedContainer ∧
      ¬ Canonical tangled ∧ Script.load tangled = .ok tangledScript ∧
      ∃ d', tangledScript.save = .ok d' ∧ d' ≠ tangled := by
  have hsize : gappedContainer.length < 2 ^ 32 := by decide +kernel
  have hload : Script.load gappedContainer = .ok gapped :=
    load_of_save save_gapped hsize (by decide)
  have hloadTangled : Script.load tangled = .ok tangledScript :=
    load_eq_ok_iff.2 ⟨by decide, by decide⟩
  have hsaveTangled : tangledScript.save = .ok (assembleSections tangledScript
      (List.replicate 16 0 ++ [4, 0, 0, 0]) [0x61, 0x62, 0]) := by
    rw [Script.save, Script.codeOrder, tangledScript, List.mergeSort_singleton]
    rfl
  have hcanonical : Canonical gappedContainer := (save_load_eq_iff hsize hload save_gapped).1 rfl
  have hdiffers : ¬ Canonical tangled := fun h => absurd h.leading (by decide)
  exact ⟨hcanonical, hload, save_gapped, hdiffers, hloadTangled, _, hsaveTangled,
    (save_load_eq_iff (by decide) hloadTangled hsaveTangled).not.2 hdiffers⟩

end NovelScript.Container
