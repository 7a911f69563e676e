import NovelScript.Proofs.Assembly.WellFormed

/-!
The lookups between the tables of a script. Where the strings are in order, each lookup finds what
going through its table from the front would find (`Script.lookupsExact_of_pairwise`). A string
section ends at an offset that is a word, so no string with room for a zero byte stands at the
position for "no such string", and that position is found exactly if there is no such string
(`Script.missesExact`). Loaded strings have such room, and so do assembled ones whose size is no
multiple of `2 ^ 32`.
-/

namespace NovelScript

namespace Script

/-! ### What a lookup has to find -/

/-- An element of a table, behind `front`, is the first one that a condition holds of. -/
structure IsFirst {α : Type} (p : α → Prop) (table front : List α) (a : α) : Prop where
  stands : ∃ back, table = front ++ a :: back
  holds : p a
  before : ∀ b ∈ front, ¬ p b

/-- What the lookups of a script find, said without any search. -/
structure LookupsExact (s : Script) : Prop where
  string : ∀ pos e, s.stringAt? pos = some e ↔ e ∈ s.strings ∧ e.pos = pos
  position : ∀ bytes front e, IsFirst (·.bytes = bytes) s.strings front e →
    s.stringPos bytes = e.pos
  noPosition : ∀ bytes, (∀ e ∈ s.strings, e.bytes ≠ bytes) → s.stringPos bytes = notFound
  name : ∀ f bytes, s.functionName? f = some bytes ↔
    ∃ e ∈ s.strings, e.pos = f.name ∧ e.bytes = bytes
  index : ∀ name front f, IsFirst (s.functionName? · = some name) s.functions front f →
    s.functionIndex? name = some front.length
  noIndex : ∀ name, (∀ f ∈ s.functions, s.functionName? f ≠ some name) →
    s.functionIndex? name = none

structure MissesExact (s : Script) : Prop where
  ascending : s.strings.Pairwise fun t u => t.pos < u.pos
  ne_notFound : ∀ e ∈ s.strings, e.pos ≠ notFound
  missing_iff : ∀ bytes, s.stringPos bytes = notFound ↔ ∀ e ∈ s.strings, e.bytes ≠ bytes
  found : ∀ bytes, s.stringPos bytes ≠ notFound →
    ∃ e, s.stringAt? (s.stringPos bytes) = some e ∧ e.bytes = bytes

/-! ### Searches from the front -/

variable {s : Script}

theorem stringPos_of_isFirst {bytes : Bytes} {front : List StringEntry} {e : StringEntry}
    (h : IsFirst (·.bytes = bytes) s.strings front e) : s.stringPos bytes = e.pos := by
  obtain ⟨back, hback⟩ := h.stands
  have hfind : s.strings.find? (·.bytes = bytes) = some e := by
    rw [List.find?_eq_some_iff_append]
    refine ⟨decide_eq_true h.holds, front, back, hback, fun t ht => ?_⟩
    rw [Bool.not_eq_true', decide_eq_false_iff_not]
    exact h.before t ht
  rw [stringPos, hfind]

theorem stringPos_of_forall {bytes : Bytes} (h : ∀ e ∈ s.strings, e.bytes ≠ bytes) :
    s.stringPos bytes = notFound := by
  have hfind : s.strings.find? (·.bytes = bytes) = none := by
    rw [List.find?_eq_none]
    exact fun e he hbytes => h e he (of_decide_eq_true hbytes)
  rw [stringPos, hfind]

theorem exists_of_stringPos {bytes : Bytes} (h : s.stringPos bytes ≠ notFound) :
    ∃ e ∈ s.strings, e.bytes = bytes ∧ e.pos = s.stringPos bytes := by
  rw [stringPos] at h ⊢
  split at h
  · rename_i e hfind
    have hbytes := List.find?_some (p := fun t : StringEntry => decide (t.bytes = bytes)) hfind
    exact ⟨e, List.mem_of_find?_eq_some hfind, of_decide_eq_true hbytes, rfl⟩
  · exact absurd rfl h

theorem functionIndex?_of_isFirst {name : Bytes} {front : List FunctionEntry} {f : FunctionEntry}
    (h : IsFirst (s.functionName? · = some name) s.functions front f) :
    s.functionIndex? name = some front.length := by
  obtain ⟨back, hback⟩ := h.stands
  have hfront : front.findIdx? (fun g => s.functionName? g = some name) = none := by
    rw [List.findIdx?_eq_none_iff]
    exact fun g hg => decide_eq_false (h.before g hg)
  rw [functionIndex?, hback, List.findIdx?_append, hfront, List.findIdx?_cons,
    if_pos (decide_eq_true h.holds)]
  simp

theorem functionIndex?_of_forall {name : Bytes}
    (h : ∀ f ∈ s.functions, s.functionName? f ≠ some name) : s.functionIndex? name = none := by
  rw [functionIndex?, List.findIdx?_eq_none_iff]
  exact fun f hf => decide_eq_false (h f hf)

/-- Halving a table that is in order misses nothing that a search from its front finds. -/
theorem lookupsExact_of_pairwise (h : s.strings.Pairwise fun t u => t.pos < u.pos) :
    s.LookupsExact where
  string := fun _ _ => Container.entryAt?_eq_some_iff h
  position := fun _ _ _ => stringPos_of_isFirst
  noPosition := fun _ => stringPos_of_forall
  name := by
    intro f bytes
    rw [functionName?, Option.map_eq_some_iff]
    constructor
    · rintro ⟨e, he, hbytes⟩
      obtain ⟨hmem, hpos⟩ := (Container.entryAt?_eq_some_iff h).1 he
      exact ⟨e, hmem, hpos, hbytes⟩
    · rintro ⟨e, hmem, hpos, hbytes⟩
      exact ⟨e, (Container.entryAt?_eq_some_iff h).2 ⟨hmem, hpos⟩, hbytes⟩
  index := fun _ _ _ => functionIndex?_of_isFirst
  noIndex := fun _ => functionIndex?_of_forall

/-! ### The position for "no such string" -/

/-- If no string stands at the position for "no such string", it is found exactly if there is none.
-/
theorem missesExact (hascending : s.strings.Pairwise fun t u => t.pos < u.pos)
    (hne : ∀ e ∈ s.strings, e.pos ≠ notFound) : s.MissesExact := by
  refine ⟨hascending, hne, ?_, ?_⟩
  · intro bytes
    refine ⟨fun hmissing e he hbytes => ?_, stringPos_of_forall⟩
    -- a string with the bytes has a first one with them, which would be found
    cases hfind : s.strings.find? (·.bytes = bytes) with
    | none => exact List.find?_eq_none.1 hfind e he (decide_eq_true hbytes)
    | some first =>
      rw [stringPos, hfind] at hmissing
      exact hne first (List.mem_of_find?_eq_some hfind) hmissing
  · intro bytes hfound
    obtain ⟨e, hmem, hbytes, hpos⟩ := exists_of_stringPos hfound
    exact ⟨e, (Container.entryAt?_eq_some_iff hascending).2 ⟨hmem, hpos⟩, hbytes⟩

theorem ne_notFound_of_lt {pos : UInt32} {room : Nat} (h : pos.toNat + room < 2 ^ 32)
    (hroom : room ≠ 0) : pos ≠ notFound := by
  rintro rfl
  have hnotFound : notFound.toNat = 2 ^ 32 - 1 := rfl
  omega

theorem missesExact_of_load {d : Bytes} {s : Script} (h : load d = .ok s) : s.MissesExact := by
  obtain ⟨-, hs⟩ := Container.load_eq_ok_iff.1 h
  have hbytes := Container.isSplit_iff.1 hs.strings
  have hsize := Container.length_stringSection_lt d
  refine missesExact (Container.pairwise_of_layStrings hbytes).2 fun e he => ?_
  have hlt : e.pos.toNat + 1 < 2 ^ 32 := by
    have hpos := Container.pos_lt_of_layStrings hbytes he
    omega
  exact ne_notFound_of_lt hlt Nat.one_ne_zero

end Script

namespace Assembly

open TwoPass

theorem missesExact_of_assembleLines {cs : Charset} {lines : List Line} {s : Script}
    (h : assembleLines cs lines = .ok s)
    (hroom : ∀ e ∈ s.strings, (e.bytes.length + 1) % 2 ^ 32 ≠ 0) : s.MissesExact := by
  rw [assembleLines_eq_ok_iff] at h
  obtain ⟨p, -, hscript⟩ := Option.bind_eq_some_iff.1 h
  obtain ⟨hvalid, fs, -, rfl⟩ := Program.script?_eq_some_iff.1 hscript
  have hsection : 0 + sectionSize p.strings < 2 ^ 32 := by
    rw [Nat.zero_add]
    exact hvalid.strings_size
  have hsizes : ∀ s ∈ p.strings, stringSize s.2 ≠ 0 := by
    intro s hs
    have hbytes := List.mem_map_of_mem (f := Prod.snd) hs
    rw [← map_bytes_tableFrom 0] at hbytes
    obtain ⟨e, he, hbytes⟩ := List.mem_map.1 hbytes
    rw [← hbytes]
    exact hroom e he
  refine Script.missesExact
    (pairwise_tableFrom hsection fun s hs => hsizes s (List.mem_of_mem_dropLast hs)) ?_
  intro e he
  exact Script.ne_notFound_of_lt (pos_of_mem_tableFrom hsection e he).2 (hroom e he)

end Assembly

namespace Script

/-! ### Main result -/

/-- Where the strings are in order, the lookups find what searches from the front of the tables
find. The strings of every script that was loaded or assembled are in order, and none stands at the
position for "no such string": it is found exactly if there is no such string, and any other
position that is found is that of a string with the bytes. Of an assembled script this holds if the
room of each string is no multiple of `2 ^ 32`, in which case it would count as none. -/
theorem lookups_exact (s : Script) :
    ((s.strings.Pairwise fun t u => t.pos < u.pos) → s.LookupsExact) ∧
      (∀ d, load d = .ok s → s.MissesExact) ∧
      ∀ cs source, assemble cs source = .ok s →
        (∀ e ∈ s.strings, (e.bytes.length + 1) % 2 ^ 32 ≠ 0) → s.MissesExact :=
  ⟨lookupsExact_of_pairwise, fun _ h => missesExact_of_load h,
    fun _ _ h hroom => Assembly.missesExact_of_assembleLines h hroom⟩

/-- A script that has one text at two positions, both of which are names of functions. The last
string stands at the position for "no such string". -/
def twinScript : Script where
  strings := [⟨0, [0x61]⟩, ⟨2, []⟩, ⟨5, [0x62]⟩, ⟨9, [0x61]⟩, ⟨0xffffffff, []⟩]
  functions := [{ name := 5, pos := 0, code := [] }, { name := 9, pos := 0, code := [] },
    { name := 3, pos := 0, code := [] }, { name := 0, pos := 0, code := [] }]

theorem lookups_exact_twins :
    ((twinScript.strings.Pairwise fun t u => t.pos < u.pos) ∧
      twinScript.stringAt? 9 = some ⟨9, [0x61]⟩ ∧ twinScript.stringAt? 3 = none ∧
      twinScript.stringPos [0x61] = 0 ∧ twinScript.functionIndex? [0x61] = some 1 ∧
      twinScript.LookupsExact) ∧
      (load Container.tangled = .ok Container.tangledScript ∧
        Container.tangledScript.MissesExact) ∧
      (assemble .utf8 Assembly.sampleSource = .ok Assembly.sampleScript ∧
        (∀ e ∈ Assembly.sampleScript.strings, (e.bytes.length + 1) % 2 ^ 32 ≠ 0) ∧
        Assembly.sampleScript.MissesExact) := by
  have hascending : twinScript.strings.Pairwise fun t u => t.pos < u.pos := by decide
  have hload : load Container.tangled = .ok Container.tangledScript := by decide +kernel
  have hassemble := Assembly.assemble_sampleSource
  have hroom : ∀ e ∈ Assembly.sampleScript.strings, (e.bytes.length + 1) % 2 ^ 32 ≠ 0 := by decide
  have hexact := (lookups_exact twinScript).1 hascending
  refine ⟨⟨hascending, ?_, ?_, ?_, ?_, hexact⟩, ⟨hload, (lookups_exact _).2.1 _ hload⟩,
    ⟨hassemble, hroom, (lookups_exact _).2.2 _ _ hassemble hroom⟩⟩
  · rw [hexact.string]
    decide
  · rw [Option.eq_none_iff_forall_ne_some]
    intro e he
    obtain ⟨hmem, hpos⟩ := (hexact.string 3 e).1 he
    have hother : ∀ e ∈ twinScript.strings, e.pos ≠ 3 := by decide
    exact hother e hmem hpos
  · exact hexact.position [0x61] [] ⟨0, [0x61]⟩ ⟨⟨_, rfl⟩, rfl, nofun⟩
  · refine hexact.index [0x61] [{ name := 5, pos := 0, code := [] }]
      { name := 9, pos := 0, code := [] } ⟨⟨_, rfl⟩, ?_, ?_⟩
    · exact (hexact.name _ _).2 ⟨⟨9, [0x61]⟩, by decide, rfl, rfl⟩
    · decide +kernel

open Assembly in
/-- A string whose room is a multiple of `2 ^ 32` has the string behind it at its own position, and
that one is found there. -/
theorem stringAt?_longScript {n : Nat} (h : UInt32.ofNat (n + 1) = 0) :
    (longScript n).stringPos (List.replicate n 0x61) = 0 ∧
      (longScript n).stringAt? 0 = some ⟨0, []⟩ := by
  have hfirst : IsFirst (·.bytes = List.replicate n 0x61) (longScript n).strings []
      ⟨0, List.replicate n 0x61⟩ := ⟨⟨_, rfl⟩, rfl, nofun⟩
  refine ⟨stringPos_of_isFirst hfirst, ?_⟩
  rw [stringAt?, longScript, h, entryAt?]
  simp [entryAt?]

open Assembly in
/-- A string of `2 ^ 32 - 1` bytes takes up no room, so two strings stand at one position. The
lookup of the first one leads to the second one. -/
theorem lookups_inexact_longString :
    ∃ s, assemble .utf8 (longSource (2 ^ 32 - 1)) = .ok s ∧ s.strings.map (·.pos) = [0, 0] ∧
      ¬ (s.strings.Pairwise fun t u => t.pos < u.pos) ∧
      ∃ bytes, s.stringPos bytes ≠ notFound ∧
        ∃ e, s.stringAt? (s.stringPos bytes) = some e ∧ e.bytes ≠ bytes := by
  have hpos : UInt32.ofNat (2 ^ 32 - 1 + 1) = 0 := by decide
  obtain ⟨hfound, hentry⟩ := stringAt?_longScript hpos
  refine ⟨longScript (2 ^ 32 - 1), assemble_longSource (by decide), ?_, ?_,
    List.replicate (2 ^ 32 - 1) 0x61, ?_, ⟨0, []⟩, ?_, ?_⟩
  · rw [longScript, hpos]
    rfl
  · rw [longScript, hpos, List.pairwise_pair]
    decide
  · rw [hfound]
    decide
  · rw [hfound, hentry]
  · intro hnil
    exact absurd (congrArg List.length hnil) (by rw [List.length_replicate]; decide)

end Script

end NovelScript
