import NovelScript.Proofs.Container.Contents

/-!
Loading a container. Past its header a container is loaded by checks on its contents alone
(`load_eq`); these accept exactly the well-formed containers and give the script that stands in them
(`load_eq_ok_iff`), and where they refuse one they say a position inside of it (`failsWithin_load`).
-/

namespace NovelScript.Container

/-! ### Loading as checks on the contents -/

def functionsOfRecords (strings : List StringEntry) (code : Bytes) (position : Nat) :
    List Record → Except Fault (List FunctionEntry)
  | [] => .ok []
  | r :: rs => do
    let f ← functionOfRecord strings code position r
    (functionsOfRecords strings code (position + recordSize) rs).map (f :: ·)

/-- The script that stands in the data, if all checks are passed. -/
def scriptOf (d : Bytes) : Except Fault Script := do
  let h := headerOf d
  let tableSize := h.functionCount.toNat * recordSize
  if UInt32.size ≤ tableSize then throw (.decode 0x28 (.functionCountOverflow h.functionCount))
  checkRegion 0x24 .functionTable h.functionsStart (UInt32.ofNat tableSize) d.length
  checkRegion 0x2c .codeSection h.codeStart h.codeSize d.length
  checkRegion 0x34 .stringSection h.stringsStart h.stringsSize d.length
  let strings ← splitStrings h.stringsStart.toNat 0 0 [] (stringSection d)
  (functionsOfRecords strings (codeSection d) h.functionsStart.toNat (records d)).map
    fun functions => { name := trimName h.name, strings, functions }

theorem fst_runFrom_readFunctions {strings : List StringEntry} {code : Bytes} {count : Nat}
    {c : Cursor} (h : c.pos + count * recordSize ≤ c.data.length) :
    ((readFunctions strings code count).runFrom c).1 =
      functionsOfRecords strings code c.pos (recordsAt c.data c.pos count) := by
  induction count generalizing c with
  | zero => rfl
  | succ count ih =>
    rw [Nat.succ_mul] at h
    have hrest := ih (c := { c with pos := c.pos + recordSize }) (by simp only; omega)
    rw [readFunctions, Read.runFrom_bind_ok (Read.runFrom_get c),
      Read.runFrom_bind_ok (runFrom_readRecord (by omega)), Read.fst_runFrom_ofExcept_bind,
      recordsAt, functionsOfRecords]
    apply Outcome.bind_congr
    intro f _
    rw [Read.fst_runFrom_map, hrest]

theorem checkRegion_eq_ok_iff {position : Nat} {region : Region} {start length : UInt32}
    {size : Nat} : checkRegion position region start length size = .ok () ↔
      start.toNat + length.toNat ≤ size := by
  rw [checkRegion]
  split <;> simp <;> omega

theorem checkRegion_bind_eq_ok_iff {α : Type} {position : Nat} {region : Region}
    {start length : UInt32} {size : Nat} {f : Unit → Except Fault α} {a : α} :
    (checkRegion position region start length size >>= f) = .ok a ↔
      start.toNat + length.toNat ≤ size ∧ f () = .ok a := by
  rw [Outcome.bind_eq_ok_iff, ← checkRegion_eq_ok_iff]
  exact ⟨fun ⟨_, h, h'⟩ => ⟨h, h'⟩, fun ⟨h, h'⟩ => ⟨(), h, h'⟩⟩

theorem failsWithin_checkRegion {position bound : Nat} (h : position ≤ bound) (region : Region)
    (start length : UInt32) (size : Nat) :
    FailsWithin bound (checkRegion position region start length size) := by
  rw [checkRegion]
  split
  · exact .error h _
  · exact .ok ()

theorem runFrom_seek {c : Cursor} {pos : Nat} (h : pos ≤ c.data.length) :
    (Read.seek pos).runFrom c = (.ok (), { c with pos }) := by
  rw [Read.seek, Read.runFrom_bind_ok (Read.runFrom_get c), if_neg (Nat.not_lt.2 h)]
  rfl

theorem toNat_tableSize {size : Nat} (h : ¬ UInt32.size ≤ size) :
    (UInt32.ofNat size).toNat = size := by
  rw [UInt32.toNat_ofNat']
  exact Nat.mod_eq_of_lt (Nat.not_le.1 h)

/-- Once the header has been read no other read can fail: the table was checked to be there. -/
theorem load_eq {d : Bytes} (h : headerSize ≤ d.length) : Script.load d = scriptOf d := by
  rw [Script.load, Read.runFrom_bind_ok (runFrom_readHeader_eq h), readScript, scriptOf]
  by_cases hcount : UInt32.size ≤ (headerOf d).functionCount.toNat * recordSize
  · simp only [if_pos hcount]
    rfl
  · simp only [if_neg hcount]
    rw [Read.fst_runFrom_ofExcept_bind]
    simp only [bind_assoc]
    apply Outcome.bind_congr
    intro _ htable
    rw [checkRegion_eq_ok_iff, toNat_tableSize hcount] at htable
    apply Outcome.bind_congr
    intro _ _
    apply Outcome.bind_congr
    intro _ _
    rw [Read.fst_runFrom_ofExcept_bind]
    apply Outcome.bind_congr
    intro strings _
    rw [Read.runFrom_bind_ok (runFrom_seek (by simp only; omega)), Read.fst_runFrom_map,
      fst_runFrom_readFunctions htable]
    rfl

theorem load_of_short {d : Bytes} (h : d.length < headerSize) :
    ∃ position cause, Script.load d = .error (.decode position cause) ∧ position ≤ d.length := by
  rcases needs_readHeader { data := d } (Nat.zero_le _) with
    ⟨hroom, -⟩ | ⟨-, position, cause, c, hread, hposition⟩
  · rw [Nat.zero_add] at hroom
    exact absurd hroom (Nat.not_le.2 h)
  · rw [Nat.zero_add] at hposition
    refine ⟨position, cause, ?_, hposition⟩
    rw [Script.load, Read.runFrom_bind, hread]

/-! ### What is accepted -/

def functionIn (code : Bytes) (r : Record) : FunctionEntry where
  name := r.name
  pos := r.pos
  params := r.params
  locals := r.locals
  code := slice code r.pos r.size

section

variable {strings : List StringEntry} {code : Bytes} {position : Nat}

theorem functionOfRecord_eq_ok_iff (hstrings : strings.Pairwise fun s t => s.pos < t.pos)
    {r : Record} {f : FunctionEntry} :
    functionOfRecord strings code position r = .ok f ↔
      (r.pos.toNat + r.size.toNat ≤ code.length ∧ ∃ s ∈ strings, s.pos = r.name) ∧
        f = functionIn code r := by
  rw [functionOfRecord, checkRegion_bind_eq_ok_iff]
  constructor
  · rintro ⟨hinside, h⟩
    split at h
    · exact nomatch h
    · rename_i s hs
      exact ⟨⟨hinside, s, mem_of_entryAt? hs⟩, (Except.ok.inj h).symm⟩
  · rintro ⟨⟨hinside, s, hs, hname⟩, rfl⟩
    refine ⟨hinside, ?_⟩
    rw [← hname, entryAt?_of_mem hstrings hs, hname]
    rfl

theorem functionsOfRecords_eq_ok_iff (hstrings : strings.Pairwise fun s t => s.pos < t.pos)
    {rs : List Record} {fs : List FunctionEntry} :
    functionsOfRecords strings code position rs = .ok fs ↔
      (∀ r ∈ rs, r.pos.toNat + r.size.toNat ≤ code.length ∧ ∃ s ∈ strings, s.pos = r.name) ∧
        fs = rs.map (functionIn code) := by
  induction rs generalizing position fs with
  | nil => simp [functionsOfRecords, eq_comm]
  | cons r rs ih =>
    rw [functionsOfRecords, Outcome.bind_eq_ok_iff, List.forall_mem_cons, List.map_cons]
    simp only [functionOfRecord_eq_ok_iff hstrings, Outcome.map_eq_ok_iff, ih]
    constructor
    · rintro ⟨f, ⟨hr, rfl⟩, fs, ⟨hrs, rfl⟩, rfl⟩
      exact ⟨⟨hr, hrs⟩, rfl⟩
    · rintro ⟨⟨hr, hrs⟩, rfl⟩
      exact ⟨_, ⟨hr, rfl⟩, _, ⟨hrs, rfl⟩, rfl⟩

theorem failsWithin_functionOfRecord {bound : Nat} (h : position + recordSize ≤ bound)
    (r : Record) : FailsWithin bound (functionOfRecord strings code position r) := by
  simp only [recordSize] at h
  rw [functionOfRecord]
  apply (failsWithin_checkRegion (by omega) _ _ _ _).bind
  intro _ _
  split
  · exact .error (by omega) _
  · exact .ok _

theorem failsWithin_functionsOfRecords {bound : Nat} {rs : List Record}
    (h : position + rs.length * recordSize ≤ bound) :
    FailsWithin bound (functionsOfRecords strings code position rs) := by
  induction rs generalizing position with
  | nil => exact .ok []
  | cons r rs ih =>
    rw [List.length_cons, Nat.succ_mul] at h
    rw [functionsOfRecords]
    apply (failsWithin_functionOfRecord (by omega) r).bind
    intro f _
    exact (ih (by omega)).map _

end

theorem scriptOf_eq_ok_iff {d : Bytes} {s : Script} :
    scriptOf d = .ok s ↔
      (headerOf d).functionCount.toNat * recordSize < 2 ^ 32 ∧
        (headerOf d).functionsStart.toNat + (headerOf d).functionCount.toNat * recordSize ≤
          d.length ∧
        (headerOf d).codeStart.toNat + (headerOf d).codeSize.toNat ≤ d.length ∧
        (headerOf d).stringsStart.toNat + (headerOf d).stringsSize.toNat ≤ d.length ∧
        splitStrings (headerOf d).stringsStart.toNat 0 0 [] (stringSection d) = .ok s.strings ∧
        functionsOfRecords s.strings (codeSection d) (headerOf d).functionsStart.toNat (records d) =
          .ok s.functions ∧
        s.name = trimName (headerOf d).name := by
  rw [scriptOf]
  by_cases hcount : UInt32.size ≤ (headerOf d).functionCount.toNat * recordSize
  · simp only [if_pos hcount, Outcome.throw_eq_error]
    exact ⟨nofun, fun h => absurd h.1 (Nat.not_lt.2 hcount)⟩
  · simp only [if_neg hcount, checkRegion_bind_eq_ok_iff, toNat_tableSize hcount]
    simp only [Outcome.bind_eq_ok_iff, Outcome.map_eq_ok_iff]
    constructor
    · rintro ⟨htable, hcode, hsection, strings, hstrings, functions, hfunctions, rfl⟩
      exact ⟨Nat.not_le.1 hcount, htable, hcode, hsection, hstrings, hfunctions, rfl⟩
    · rintro ⟨-, htable, hcode, hsection, hstrings, hfunctions, hname⟩
      refine ⟨htable, hcode, hsection, _, hstrings, _, hfunctions, ?_⟩
      rw [← hname]

theorem length_stringSection_lt (d : Bytes) : (stringSection d).length < 2 ^ 32 := by
  have := (headerOf d).stringsSize.toNat_lt
  simp [stringSection, slice]
  omega

theorem WellFormed.exists_isSplit {d : Bytes} (h : WellFormed d) :
    ∃ strings, IsSplit (stringSection d) strings := by
  have hsize := length_stringSection_lt d
  obtain ⟨strings, hstrings⟩ : ∃ strings, splitStrings 0 0 0 [] (stringSection d) = .ok strings :=
    (exists_splitStrings_iff hsize).2 h.terminated
  exact ⟨strings, isSplit_iff.2 ((splitStrings_eq_ok_iff hsize).1 hstrings)⟩

/-- The functions declared in a well-formed container, given its strings. -/
theorem functionsOfRecords_records {d : Bytes} (hplaced : Placed d) {strings : List StringEntry}
    (hstrings : IsSplit (stringSection d) strings) {position : Nat} {fs : List FunctionEntry} :
    functionsOfRecords strings (codeSection d) position (records d) = .ok fs ↔
      (∀ r ∈ records d, r.pos.toNat + r.size.toNat ≤ (headerOf d).codeSize.toNat ∧
        StartsString (stringSection d) r.name.toNat) ∧ fs = (records d).map (functionAt d) := by
  have hlay := isSplit_iff.1 hstrings
  rw [functionsOfRecords_eq_ok_iff (pairwise_of_layStrings hlay).2, hplaced.length_codeSection]
  simp only [startsString_iff hlay, Nat.zero_add, UInt32.toNat_inj]
  apply and_congr_right
  intro hrecords
  rw [List.map_congr_left]
  intro r hr
  rw [functionIn, slice_codeSection (hrecords r hr).1]
  rfl

/-- A container is loaded as the script that stands in it, if it is well-formed. -/
theorem load_eq_ok_iff {d : Bytes} {s : Script} :
    Script.load d = .ok s ↔ WellFormed d ∧ Depicts d s := by
  have hsize := length_stringSection_lt d
  by_cases hheader : headerSize ≤ d.length
  · rw [load_eq hheader, scriptOf_eq_ok_iff, splitStrings_eq_ok_iff hsize, ← isSplit_iff]
    constructor
    · rintro ⟨hcount, htable, hcode, hsection, hstrings, hfunctions, hname⟩
      have hplaced : Placed d := ⟨hheader, hcount, htable, hcode, hsection⟩
      obtain ⟨hrecords, hfunctions⟩ := (functionsOfRecords_records hplaced hstrings).1 hfunctions
      have hwf : WellFormed d := {
        toPlaced := hplaced
        terminated := terminated_of_layStrings (isSplit_iff.1 hstrings)
        code_inside := fun r hr => (hrecords r hr).1
        name_starts := fun r hr => (hrecords r hr).2 }
      exact ⟨hwf, hname, hstrings, hfunctions⟩
    · rintro ⟨hwf, hname, hstrings, hfunctions⟩
      refine ⟨hwf.count, hwf.table, hwf.code, hwf.strings, hstrings, ?_, hname⟩
      exact (functionsOfRecords_records hwf.toPlaced hstrings).2
        ⟨fun r hr => ⟨hwf.code_inside r hr, hwf.name_starts r hr⟩, hfunctions⟩
  · obtain ⟨position, cause, hload, -⟩ := load_of_short (Nat.not_le.1 hheader)
    rw [hload]
    exact ⟨nofun, fun h => absurd h.1.header hheader⟩

/-! ### What is refused -/

theorem failsWithin_scriptOf {d : Bytes} (h : headerSize ≤ d.length) :
    FailsWithin d.length (scriptOf d) := by
  simp only [headerSize] at h
  rw [scriptOf]
  by_cases hcount : UInt32.size ≤ (headerOf d).functionCount.toNat * recordSize
  · simp only [if_pos hcount]
    exact .error (by omega) _
  · simp only [if_neg hcount]
    apply (failsWithin_checkRegion (by omega) _ _ _ _).bind
    intro _ htable
    apply (failsWithin_checkRegion (by omega) _ _ _ _).bind
    intro _ _
    apply (failsWithin_checkRegion (by omega) _ _ _ _).bind
    intro _ hsection
    rw [checkRegion_eq_ok_iff, toNat_tableSize hcount] at htable
    rw [checkRegion_eq_ok_iff] at hsection
    have hlength : (stringSection d).length = (headerOf d).stringsSize.toNat := length_span hsection
    apply FailsWithin.bind
    · apply (failsWithin_splitStrings le_rfl).mono
      omega
    · intro strings _
      apply FailsWithin.map
      apply failsWithin_functionsOfRecords
      rw [records, length_recordsAt]
      exact htable

/-- Data that is refused is refused at a position inside of it or at its end. -/
theorem failsWithin_load (d : Bytes) : FailsWithin d.length (Script.load d) := by
  rcases Nat.lt_or_ge d.length headerSize with hshort | hheader
  · obtain ⟨position, cause, hload, hposition⟩ := load_of_short hshort
    rw [hload]
    exact .error hposition cause
  · rw [load_eq hheader]
    exact failsWithin_scriptOf hheader

/-! ### Main result -/

theorem IsSplit.unique {bytes : Bytes} {strings strings' : List StringEntry}
    (h : IsSplit bytes strings) (h' : IsSplit bytes strings') : strings' = strings := by
  have hread : splitStrings 0 0 0 [] bytes = .ok strings :=
    splitStrings_of_layStrings (isSplit_iff.1 h)
  rw [splitStrings_of_layStrings (isSplit_iff.1 h')] at hread
  exact Except.ok.inj hread

theorem WellFormed.existsUnique_depicts {d : Bytes} (h : WellFormed d) : ∃! s, Depicts d s := by
  obtain ⟨strings, hstrings⟩ := h.exists_isSplit
  refine ⟨⟨_, strings, _⟩, ⟨rfl, hstrings, rfl⟩, ?_⟩
  rintro ⟨name, strings', functions⟩ ⟨rfl, hstrings', rfl⟩
  obtain rfl := hstrings.unique hstrings'
  rfl

/-- Data is well-formed if what it declares lies inside of it and agrees with well-formed data. -/
theorem Agree.wellFormed {d d' : Bytes} (h : Agree d d') (hplaced : Placed d')
    (hwf : WellFormed d) : WellFormed d' := by
  have hsize : (headerOf d').codeSize.toNat = (headerOf d).codeSize.toNat := by
    rw [← hplaced.length_codeSection, h.code, hwf.length_codeSection]
  refine ⟨hplaced, ?_, ?_, ?_⟩
  · rw [h.strings]
    exact hwf.terminated
  · rw [h.records, hsize]
    exact hwf.code_inside
  · rw [h.records, h.strings]
    exact hwf.name_starts

theorem Agree.depicts {d d' : Bytes} (h : Agree d d') (hplaced : Placed d') (hwf : WellFormed d)
    {s : Script} (hs : Depicts d s) : Depicts d' s := by
  have hwf' := h.wellFormed hplaced hwf
  refine ⟨?_, ?_, ?_⟩
  · rw [h.name]
    exact hs.name
  · rw [h.strings]
    exact hs.strings
  · rw [hs.functions, ← h.records]
    apply List.map_congr_left
    intro r hr
    have hcode : (functionAt d r).code = (functionAt d' r).code := by
      rw [← slice_codeSection (hwf'.code_inside r hr), h.code, slice_codeSection]
      exact hwf.code_inside r (h.records ▸ hr)
    exact congrArg (fun code => FunctionEntry.mk r.name r.pos r.params r.locals code) hcode

/-- Loading accepts the well-formed containers. It gives the one script that stands in there,
whatever stands elsewhere, and no sum of words on the way wraps around; all other data it refuses at
a position inside of the data or at its end. -/
theorem load_faithful {d : Bytes} (hsize : d.length < 2 ^ 32) :
    (∀ s, Script.load d = .ok s ↔ WellFormed d ∧ Depicts d s) ∧
      (WellFormed d → (∃! s, Depicts d s) ∧ NoWrap d) ∧
      (∀ s d', Script.load d = .ok s → Placed d' → Agree d d' → Script.load d' = .ok s) ∧
      (¬ WellFormed d → ∃ position cause,
        Script.load d = .error (.decode position cause) ∧ position ≤ d.length) := by
  refine ⟨fun s => load_eq_ok_iff, fun hwf => ⟨hwf.existsUnique_depicts, hwf.noWrap hsize⟩, ?_, ?_⟩
  · intro s d' hload hplaced hagree
    obtain ⟨hwf, hs⟩ := load_eq_ok_iff.1 hload
    exact load_eq_ok_iff.2 ⟨hagree.wellFormed hplaced hwf, hagree.depicts hplaced hwf hs⟩
  · intro hwf
    cases hload : Script.load d with
    | ok s => exact absurd (load_eq_ok_iff.1 hload).1 hwf
    | error e =>
      obtain ⟨position, cause, rfl, hposition⟩ := failsWithin_load d e hload
      exact ⟨position, cause, rfl, hposition⟩

/-- A container whose sections lie in each other: the function table is its own code section, and
the strings are the start of the name in the header. -/
def tangled : Bytes :=
  encodeFields ({
    leading := 7
    name := [0x61, 0x62, 0x00] ++ List.replicate 29 0xff
    functionsStart := 0x44
    functionCount := 1
    codeStart := 0x44
    codeSize := 0x14
    stringsStart := 0x04
    stringsSize := 0x03
    fileSize := 0
    trailing := 9 } : Header).fields ++
  encodeFields ({ name := 0, params := 1, locals := 2, pos := 0x10, size := 4 } : Record).fields

/-- The script that stands in `tangled`. The code of its function is the size of that code. -/
def tangledScript : Script where
  name := [0x61, 0x62]
  strings := [⟨0, [0x61, 0x62]⟩]
  functions := [{ name := 0, pos := 0x10, params := 1, locals := 2, code := [4, 0, 0, 0] }]

theorem load_tangled :
    tangled.length < 2 ^ 32 ∧ WellFormed tangled ∧ Depicts tangled tangledScript ∧
      Script.load tangled = .ok tangledScript := by
  have hsize : tangled.length < 2 ^ 32 := by decide
  have hwf : WellFormed tangled := by decide
  have hs : Depicts tangled tangledScript := by decide
  exact ⟨hsize, hwf, hs, ((load_faithful hsize).1 tangledScript).2 ⟨hwf, hs⟩⟩

end NovelScript.Container
