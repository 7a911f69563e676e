import NovelScript.Proofs.Assembly.Body

/-!
The phases of the assembler against the first pass. `Phase.complete` reads to the end of the source.
From the strings on it does what `strings?` does, with the table of the layout in hand
(`complete_strings_iff`); inside the functions the phase always stands for the routines read so far
(`Phase.Holds`), so what it ends in stands for all of them (`complete_sound`), and it does end if
they are valid and all names in them can be looked up (`exists_complete`).
-/

namespace NovelScript.Assembly

open TwoPass

/-- Reads lines to the end of a source whose last line has a number. -/
def Phase.complete (cs : Charset) (last : Nat) (lines : List Line) (phase : Phase) :
    Except Fault Progress := do
  let phase ← phase.run cs lines
  phase.finish last

theorem Phase.complete_nil (cs : Charset) (last : Nat) (phase : Phase) :
    phase.complete cs last [] = phase.finish last := rfl

theorem Phase.complete_cons (cs : Charset) (last : Nat) (line : Line) (lines : List Line)
    (phase : Phase) :
    phase.complete cs last (line :: lines) =
      phase.step cs line >>= Phase.complete cs last lines := by
  rw [complete, run, List.foldlM_cons]
  cases phase.step cs line <;> rfl

/-! ### Strings -/

theorem TwoPass.isSome_lookup_tableFrom (pos : Nat) (strings : List (Text × Bytes)) (name : Text) :
    ((tableFrom pos strings).lookup name).isSome ↔ name ∈ strings.map Prod.fst := by
  rw [Association.isSome_lookup_iff_mem, keys_tableFrom]

theorem toNat_stringRoom (bytes : Bytes) : (stringRoom bytes).toNat = stringSize bytes := by
  rw [stringRoom, UInt32.toNat_add, toNat_wordLength, stringSize]
  exact Nat.mod_add_mod _ _ _

theorem stringsEnd_tableFrom {strings : List (Text × Bytes)}
    (h : sectionSize strings < 2 ^ 32) :
    stringsEnd (tableFrom 0 strings) = sectionSize strings := by
  rcases List.eq_nil_or_concat strings with rfl | ⟨front, s, rfl⟩
  · rfl
  · rw [List.concat_eq_append, sectionSize_append] at *
    have hlast : sectionSize [s] = stringSize s.2 := by
      rw [sectionSize, List.map_singleton, List.sum_singleton]
    have hpos : (UInt32.ofNat (sectionSize front)).toNat = sectionSize front := by
      rw [UInt32.toNat_ofNat']
      omega
    rw [tableFrom_append, Nat.zero_add, tableFrom, tableFrom, stringsEnd, List.getLast?_concat]
    show (UInt32.ofNat (sectionSize front)).toNat + (stringRoom s.2).toNat = _
    rw [hpos, hlast, toNat_stringRoom]

/-- Taking in a string is reading it and putting it behind the others, if its name is new and the
section does not become too large. -/
theorem addString_eq_ok_iff {cs : Charset} {done : List (Text × Bytes)} {line : Line}
    {table : StringTable} (hsize : sectionSize done < 2 ^ 32) :
    addString cs (tableFrom 0 done) line = .ok table ↔
      ∃ s, string? cs line = some s ∧ s.1 ∉ done.map Prod.fst ∧
        sectionSize (done ++ [s]) < 2 ^ 32 ∧ tableFrom 0 (done ++ [s]) = table := by
  rw [addString, string?, stringsEnd_tableFrom hsize]
  simp only [toNat_stringRoom]
  cases Declaration.stringDefinition line with
  | error fault => simp [Outcome.error_bind]
  | ok pair =>
    obtain ⟨name, value⟩ := pair
    by_cases hname : name ∈ done.map Prod.fst
    · have hdup := (isSome_lookup_tableFrom 0 done name).2 hname
      simp only [Outcome.ok_bind, hdup, if_true, Outcome.throw_eq_error, Outcome.error_bind,
        Outcome.toOption_ok, Option.bind_eq_bind, Option.bind_some]
      constructor
      · exact nofun
      · rintro ⟨s, hs, hnew, -⟩
        obtain ⟨bytes, -, hs⟩ := Option.bind_eq_some_iff.1 hs
        obtain rfl : (name, bytes) = s := Option.some.inj hs
        exact absurd hname hnew
    · have hnew := mt (isSome_lookup_tableFrom 0 done name).1 hname
      simp only [Outcome.ok_bind, hnew, Bool.false_eq_true, if_false, Outcome.toOption_ok,
        Option.bind_eq_bind, Option.bind_some]
      cases Declaration.stringBytes cs line.number name value with
      | error fault => simp [Outcome.error_bind]
      | ok bytes =>
        have hgrow : sectionSize (done ++ [(name, bytes)]) =
            sectionSize done + stringSize bytes := by
          rw [sectionSize_append]
          rfl
        have htable : tableFrom 0 (done ++ [(name, bytes)]) =
            tableFrom 0 done ++ [(name, ⟨UInt32.ofNat (sectionSize done), bytes⟩)] := by
          rw [tableFrom_append, Nat.zero_add]
          rfl
        by_cases hroom : UInt32.size ≤ sectionSize done + stringSize bytes
        · simp only [Outcome.ok_bind, if_pos hroom, Outcome.throw_eq_error]
          constructor
          · exact nofun
          · rintro ⟨s, hs, -, hlt, -⟩
            obtain rfl := Option.some.inj hs
            rw [hgrow] at hlt
            exact absurd hlt (Nat.not_lt.2 hroom)
        · simp only [Outcome.ok_bind, if_neg hroom, Outcome.pure_eq_ok, Except.ok.injEq]
          have hlt : sectionSize (done ++ [(name, bytes)]) < 2 ^ 32 := by
            rw [hgrow]
            exact Nat.not_le.1 hroom
          constructor
          · rintro rfl
            exact ⟨(name, bytes), rfl, hname, hlt, htable⟩
          · rintro ⟨s, hs, -, -, rfl⟩
            obtain rfl := Option.some.inj hs
            exact htable.symm

structure TwoPass.StringsValid (strings : List (Text × Bytes)) : Prop where
  ne_nil : strings ≠ []
  nodup : (strings.map Prod.fst).Nodup
  size_lt : sectionSize strings < 2 ^ 32

@[simp] theorem tableFrom_eq_nil_iff (strings : List (Text × Bytes)) :
    tableFrom 0 strings = [] ↔ strings = [] := by
  cases strings with
  | nil => exact ⟨fun _ => rfl, fun _ => rfl⟩
  | cons s strings => exact ⟨fun h => (nomatch h), fun h => (nomatch h)⟩

/-- Strings that can stand in a script are all taken in, `done` being those before. -/
theorem complete_strings_eq (cs : Charset) (last : Nat) (name : Bytes) {lines rest : List Line}
    {done strings : List (Text × Bytes)} (hstrings : strings? cs lines = some (strings, rest))
    (hvalid : StringsValid (done ++ strings)) :
    Phase.complete cs last lines (.strings name (tableFrom 0 done)) =
      Phase.complete cs last rest (.between { name, table := tableFrom 0 (done ++ strings) }) := by
  -- on the lines; `done` grows by the string of each
  induction lines generalizing done strings with
  | nil => exact nomatch hstrings
  | cons line lines ih =>
    rw [Phase.complete_cons, Phase.step]
    by_cases hend : line.text = "endstrings".toList
    · rw [strings?, if_pos hend] at hstrings
      obtain ⟨rfl, rfl⟩ := Prod.mk.inj (Option.some.inj hstrings)
      rw [List.append_nil] at hvalid ⊢
      rw [if_pos hend, if_neg (mt (tableFrom_eq_nil_iff done).1 hvalid.ne_nil)]
      rfl
    · obtain ⟨s, more, hs, hmore, rfl⟩ := (strings?_cons_eq_some_iff hend).1 hstrings
      have hsplit : done ++ s :: more = (done ++ [s]) ++ more := by
        rw [List.append_assoc, List.singleton_append]
      rw [hsplit] at hvalid ⊢
      -- what holds of all strings of the block holds of those up to this line
      have hkeys := hvalid.nodup
      rw [List.map_append] at hkeys
      have hnew := (Association.nodup_map_concat_iff.1 (List.nodup_append.1 hkeys).1).2
      have hroom := hvalid.size_lt
      rw [sectionSize_append] at hroom
      have hsize : sectionSize done < 2 ^ 32 := by
        rw [sectionSize_append] at hroom
        omega
      have hadd : addString cs (tableFrom 0 done) line = .ok (tableFrom 0 (done ++ [s])) :=
        (addString_eq_ok_iff hsize).2 ⟨s, hs, hnew, by omega, rfl⟩
      rw [if_neg hend, hadd]
      exact ih hmore hvalid

/-- Reading on from the middle of the strings, `done` being those before. -/
theorem complete_strings_iff {cs : Charset} {last : Nat} {name : Bytes} {lines : List Line}
    {done : List (Text × Bytes)} {p : Progress} (hnodup : (done.map Prod.fst).Nodup)
    (hsize : sectionSize done < 2 ^ 32) :
    Phase.complete cs last lines (.strings name (tableFrom 0 done)) = .ok p ↔
      ∃ strings rest, strings? cs lines = some (strings, rest) ∧
        StringsValid (done ++ strings) ∧
        Phase.complete cs last rest (.between { name, table := tableFrom 0 (done ++ strings) }) =
          .ok p := by
  constructor
  · intro h
    induction lines generalizing done with
    | nil => exact nomatch h
    | cons line lines ih =>
      rw [Phase.complete_cons, Phase.step] at h
      by_cases hend : line.text = "endstrings".toList
      · rw [if_pos hend] at h
        by_cases hnil : done = []
        · rw [if_pos ((tableFrom_eq_nil_iff done).2 hnil)] at h
          exact nomatch h
        · rw [if_neg (mt (tableFrom_eq_nil_iff done).1 hnil), Outcome.ok_bind] at h
          refine ⟨[], lines, by rw [strings?, if_pos hend], ?_, ?_⟩
          · rw [List.append_nil]
            exact ⟨hnil, hnodup, hsize⟩
          · rw [List.append_nil]
            exact h
      · rw [if_neg hend] at h
        obtain ⟨phase, hphase, h⟩ := Outcome.bind_eq_ok_iff.1 h
        obtain ⟨table, htable, rfl⟩ := Outcome.map_eq_ok_iff.1 hphase
        obtain ⟨s, hs, hnew, hroom, rfl⟩ := (addString_eq_ok_iff hsize).1 htable
        have hgrow := Association.nodup_map_concat_iff.2 ⟨hnodup, hnew⟩
        obtain ⟨strings, rest, hstrings, hvalid, h⟩ := ih hgrow hroom h
        rw [List.append_assoc, List.singleton_append] at hvalid h
        exact ⟨s :: strings, rest,
          (strings?_cons_eq_some_iff hend).2 ⟨s, strings, hs, hstrings, rfl⟩, hvalid, h⟩
  · rintro ⟨strings, rest, hstrings, hvalid, h⟩
    rwa [complete_strings_eq cs last name hstrings hvalid]

/-! ### Functions -/

/-- Functions that are complete except for their calls, one behind the other from an address on. -/
inductive AllFor (table : StringTable) : (start : Nat) → List Routine → List Assembled → Prop
  | nil {start : Nat} : AllFor table start [] []
  | cons {start : Nat} {r : Routine} {a : Assembled} {rs : List Routine} {as : List Assembled} :
      a.For table start r → AllFor table (start + r.size) rs as →
        AllFor table start (r :: rs) (a :: as)

namespace AllFor

variable {table : StringTable} {start : Nat} {rs : List Routine} {as : List Assembled}

theorem concat (h : AllFor table start rs as) {r : Routine} {a : Assembled}
    (ha : a.For table (start + programSize rs) r) :
    AllFor table start (rs ++ [r]) (as ++ [a]) := by
  induction h with
  | nil => exact .cons ha .nil
  | cons hfirst _ ih =>
    refine .cons hfirst (ih ?_)
    rw [Nat.add_assoc, ← programSize_cons]
    exact ha

theorem names_eq (h : AllFor table start rs as) : as.map (·.name) = rs.map (·.name) := by
  induction h with
  | nil => rfl
  | cons hfirst _ ih => rw [List.map_cons, List.map_cons, hfirst.name_eq, ih]

theorem valid (h : AllFor table start rs as) : ∀ r ∈ rs, r.Valid := by
  induction h with
  | nil => exact nofun
  | cons hfirst _ ih =>
    intro r hr
    rcases List.mem_cons.1 hr with rfl | hr
    · exact hfirst.valid
    · exact ih r hr

theorem fits (h : AllFor table start rs as) :
    ∀ a ∈ as, ∀ f ∈ a.calls, f.Fits a.entry.code.length := by
  induction h with
  | nil => exact nofun
  | cons hfirst _ ih => exact List.forall_mem_cons.2 ⟨hfirst.fits, ih⟩

theorem stop_lt (h : AllFor table start rs as) (hstart : start < 2 ^ 32) :
    start + programSize rs < 2 ^ 32 := by
  induction h with
  | nil => exact hstart
  | cons hfirst _ ih =>
    rw [programSize_cons, ← Nat.add_assoc]
    exact ih hfirst.stop_lt

end AllFor

structure Laid (table : StringTable) (rs : List Routine) (done : List Assembled) : Prop where
  all : AllFor table 0 rs done
  codeEnd_eq : codeEnd done = programSize rs
  nodup : (rs.map Routine.name).Nodup

namespace Laid

variable {table : StringTable} {rs : List Routine} {done : List Assembled}

theorem nil (table : StringTable) : Laid table [] [] where
  all := .nil
  codeEnd_eq := rfl
  nodup := List.nodup_nil

theorem concat (h : Laid table rs done) {r : Routine} {a : Assembled}
    (ha : a.For table (programSize rs) r) (hnew : r.name ∉ rs.map Routine.name) :
    Laid table (rs ++ [r]) (done ++ [a]) where
  all := by
    apply h.all.concat
    rw [Nat.zero_add]
    exact ha
  codeEnd_eq := by
    -- only the address of the last function is looked at, and it has not wrapped around
    obtain ⟨string, -, hentry⟩ := ha.entry_eq
    have hpos : a.entry.pos.toNat = programSize rs := by
      have hlt := ha.stop_lt
      rw [hentry, UInt32.toNat_ofNat']
      omega
    rw [programSize_concat, codeEnd, List.getLast?_concat]
    show a.entry.pos.toNat + (wordLength a.entry.code).toNat = _
    rw [hpos, toNat_wordLength, ha.length_code, Routine.size]
  nodup := Association.nodup_map_concat_iff.2 ⟨h.nodup, hnew⟩

end Laid

/-- A phase inside the functions, `rs` being the routines read so far and `r?` the one that is open.
-/
inductive Phase.Holds (name : Bytes) (table : StringTable) (rs : List Routine) :
    (r? : Option Routine) → Phase → Prop
  | between {done : List Assembled} (laid : Laid table rs done) :
      Holds name table rs none (.between { name, table, done })
  | inside {done : List Assembled} {r : Routine} {d : Draft} (laid : Laid table rs done)
      (hnew : r.name ∉ rs.map Routine.name) (hd : d.Holds table (programSize rs) r) :
      Holds name table rs (some r) (.inside { name, table, done } d)

theorem opensFunction_of_functionHeader {line : Line} {name : Text} {params : UInt32}
    (h : Declaration.functionHeader line = .ok (name, params)) :
    Declaration.opensFunction line.text := by
  rw [Declaration.opensFunction]
  cases hafter : Text.after? "function".toList line.text with
  | none =>
    rw [Declaration.functionHeader, Declaration.afterKeyword?, hafter] at h
    exact nomatch h
  | some rest => rfl

theorem openFunction_eq_ok_iff {p : Progress} {line : Line} {d : Draft} :
    openFunction p line = .ok d ↔
      ∃ name params entry, Declaration.functionHeader line = .ok (name, params) ∧
        p.table.lookup name = some entry ∧ name ∉ p.done.map (·.name) ∧
        { name, namePos := entry.pos, params, start := codeEnd p.done } = d := by
  rw [openFunction]
  cases hheader : Declaration.functionHeader line with
  | error fault =>
    constructor
    · intro h
      by_cases hopens : Declaration.opensFunction line.text = true
      · rw [if_neg (not_not_intro hopens)] at h
        exact nomatch h
      · rw [if_pos hopens] at h
        exact nomatch h
    · rintro ⟨name, params, entry, h, -⟩
      exact nomatch h
  | ok pair =>
    obtain ⟨name, params⟩ := pair
    rw [if_neg (not_not_intro (opensFunction_of_functionHeader hheader))]
    simp only [Outcome.ok_bind, Outcome.pure_eq_ok]
    cases hlookup : p.table.lookup name with
    | none =>
      constructor
      · exact nofun
      · rintro ⟨name', params', entry, h, hl, -⟩
        obtain ⟨rfl, rfl⟩ := Prod.mk.inj (Except.ok.inj h)
        exact nomatch hlookup.symm.trans hl
    | some entry =>
      have hany : p.done.any (fun a => decide (a.name = name)) = true ↔
          name ∈ p.done.map (·.name) := by
        simp only [List.any_eq_true, decide_eq_true_eq, List.mem_map]
      by_cases hname : name ∈ p.done.map (·.name)
      · simp only [if_pos (hany.2 hname), Outcome.throw_eq_error, Outcome.error_bind]
        constructor
        · exact nofun
        · rintro ⟨name', params', entry', h, -, hnew, -⟩
          obtain ⟨rfl, rfl⟩ := Prod.mk.inj (Except.ok.inj h)
          exact absurd hname hnew
      · simp only [if_neg (mt hany.1 hname), Except.ok.injEq]
        constructor
        · rintro rfl
          exact ⟨name, params, entry, rfl, hlookup, hname, rfl⟩
        · rintro ⟨name', params', entry', h, hl, -, rfl⟩
          obtain ⟨rfl, rfl⟩ := Prod.mk.inj h
          obtain rfl := Option.some.inj (hlookup.symm.trans hl)
          rfl

theorem Phase.step_inside_eq_ok_iff {cs : Charset} {p : Progress} {d : Draft} {line : Line}
    {next : Phase} (hend : line.text ≠ "endfunction".toList) :
    (Phase.inside p d).step cs line = .ok next ↔
      ∃ s d', Statement.parse line = .ok s ∧ d.statement p.table line.number s = .ok d' ∧
        .inside p d' = next := by
  rw [Phase.step, if_neg hend, Outcome.bind_eq_ok_iff]
  refine exists_congr fun s => ?_
  simp only [Outcome.bind_eq_ok_iff, Outcome.pure_eq_ok, Except.ok.injEq, exists_and_left]

theorem Phase.Holds.opened {name : Bytes} {table : StringTable} {rs : List Routine}
    {done : List Assembled} (laid : Laid table rs done) {line : Line} {d : Draft}
    (h : openFunction { name, table, done } line = .ok d) :
    ∃ r : Routine, Declaration.functionHeader line = .ok (r.name, r.params) ∧ r.body = [] ∧
      Phase.Holds name table rs (some r) (.inside { name, table, done } d) := by
  obtain ⟨fname, params, entry, hheader, hlookup, hnew, rfl⟩ := openFunction_eq_ok_iff.1 h
  refine ⟨{ name := fname, params }, hheader, rfl, ?_⟩
  have hstart : codeEnd done = programSize rs := laid.codeEnd_eq
  refine .inside laid ?_ ?_
  · rw [← laid.all.names_eq]
    exact hnew
  · show Draft.Holds table (programSize rs) { name := fname, params }
      { name := fname, namePos := entry.pos, params, start := codeEnd done }
    rw [hstart]
    exact Draft.Holds.opened hlookup

/-- What the assembler reads to the end is what the first pass reads. -/
theorem complete_sound {cs : Charset} {last : Nat} {name : Bytes} {table : StringTable}
    {lines : List Line} {rs : List Routine} {r? : Option Routine} {phase : Phase} {p : Progress}
    (h : phase.Holds name table rs r?) (hp : phase.complete cs last lines = .ok p) :
    ∃ more, routines? r? lines = some more ∧ rs ++ more ≠ [] ∧ Laid table (rs ++ more) p.done ∧
      p.name = name ∧ p.table = table := by
  -- `Phase.Holds` carries the induction: a header opens a routine, its end makes it one of `rs`,
  -- and every other line makes the open routine longer
  induction lines generalizing phase rs r? with
  | nil =>
    rw [Phase.complete_nil] at hp
    cases h with
    | inside laid hnew hd => exact nomatch hp
    | @between done laid =>
      rw [Phase.finish] at hp
      split at hp
      · exact nomatch hp
      · rename_i hdone
        obtain rfl := Except.ok.inj hp
        refine ⟨[], rfl, ?_, ?_, rfl, rfl⟩
        · rw [List.append_nil]
          rintro rfl
          exact hdone (List.map_eq_nil_iff.1 laid.all.names_eq)
        · rw [List.append_nil]
          exact laid
  | cons line lines ih =>
    rw [Phase.complete_cons] at hp
    obtain ⟨next, hnext, hp⟩ := Outcome.bind_eq_ok_iff.1 hp
    cases h with
    | between laid =>
      obtain ⟨d, hd, rfl⟩ := Outcome.map_eq_ok_iff.1 hnext
      obtain ⟨r, hheader, hbody, hholds⟩ := Phase.Holds.opened laid hd
      obtain ⟨more, hmore, hrest⟩ := ih hholds hp
      refine ⟨more, ?_, hrest⟩
      have hr : r = { name := r.name, params := r.params } := by rw [← hbody]
      rw [hr] at hmore
      rw [routines?, hheader]
      exact hmore
    | @inside done r d laid hnew hd =>
      rw [routines?]
      by_cases hend : line.text = "endfunction".toList
      · rw [Phase.step, if_pos hend] at hnext
        rw [if_pos hend]
        obtain ⟨a, ha, rfl⟩ := Outcome.map_eq_ok_iff.1 hnext
        obtain ⟨more, hmore, hne, hlaid, hrest⟩ :=
          ih (.between (laid.concat (hd.finish ha) hnew)) hp
        rw [List.append_assoc, List.singleton_append] at hne hlaid
        exact ⟨r :: more, by rw [hmore]; rfl, hne, hlaid, hrest⟩
      · obtain ⟨s, d', hs, hd', rfl⟩ := (Phase.step_inside_eq_ok_iff hend).1 hnext
        rw [if_neg hend]
        have hparse := toOption_parse line
        rw [hs] at hparse
        obtain ⟨entry, hentry, hstatement⟩ := Option.bind_eq_some_iff.1 hparse.symm
        rw [hentry]
        exact ih (.inside laid hnew (hd.statement hstatement hd')) hp

/-! ### Sources that can be read to the end -/

/-- A routine that can be assembled behind others, as far as this does not depend on what the names
of labels and functions stand for. -/
structure TwoPass.Placeable (table : StringTable) (front : List Routine) (r : Routine) : Prop where
  valid : r.Valid
  named : (table.lookup r.name).isSome
  new : r.name ∉ front.map Routine.name
  stop_lt : programSize front + r.size < 2 ^ 32
  encodes : ∃ σ : Scope, (∀ name, σ.strings name = (table.lookup name).map (·.pos)) ∧
    (σ.instructions? r.body).isSome

theorem routines?_open {lines : List Line} {r : Routine} {rs : List Routine}
    (h : routines? (some r) lines = some rs) :
    ∃ more rest, rs = { r with body := r.body ++ more } :: rest := by
  induction lines generalizing r with
  | nil => exact nomatch h
  | cons line lines ih =>
    rw [routines?] at h
    split at h
    · obtain ⟨rest, -, rfl⟩ := Option.map_eq_some_iff.1 h
      exact ⟨[], rest, by rw [List.append_nil]⟩
    · obtain ⟨entry, -, h⟩ := Option.bind_eq_some_iff.1 h
      obtain ⟨more, rest, rfl⟩ := ih h
      exact ⟨entry :: more, rest, by rw [List.append_assoc, List.singleton_append]⟩

namespace Phase.Holds

variable {name : Bytes} {table : StringTable} {line : Line} {lines : List Line}
  {rs more : List Routine} {r : Routine} {phase : Phase}

/-- The header of a routine that can be placed opens it. -/
theorem exists_header (h : phase.Holds name table rs none) (cs : Charset)
    (hmore : routines? none (line :: lines) = some more)
    (hplace : ∀ r back, more = r :: back → Placeable table rs r) :
    ∃ (r : Routine) (next : Phase), Declaration.functionHeader line = .ok (r.name, r.params) ∧
      routines? (some r) lines = some more ∧ phase.step cs line = .ok next ∧
      next.Holds name table rs (some r) := by
  rw [routines?] at hmore
  obtain ⟨⟨fname, params⟩, hheader, hmore⟩ := Option.bind_eq_some_iff.1 hmore
  rw [Outcome.toOption_eq_some_iff] at hheader
  -- the routine as it will be when it ends, which is the one that can be placed
  obtain ⟨body, rest, rfl⟩ := routines?_open hmore
  have hplaced := hplace _ rest rfl
  cases h with
  | @between done laid =>
    obtain ⟨entry, hentry⟩ := Option.isSome_iff_exists.1 hplaced.named
    have hnew : fname ∉ done.map (·.name) := by
      rw [laid.all.names_eq]
      exact hplaced.new
    have hopen := (openFunction_eq_ok_iff (p := { name, table, done })).2
      ⟨fname, params, entry, hheader, hentry, hnew, rfl⟩
    obtain ⟨r, hr, hbody, hholds⟩ := Phase.Holds.opened laid hopen
    obtain ⟨rfl, rfl⟩ := Prod.mk.inj (Except.ok.inj (hheader.symm.trans hr))
    have hr : { name := r.name, params := r.params } = r := by rw [← hbody]
    refine ⟨r, _, hheader, hr ▸ hmore, ?_, hholds⟩
    rw [Phase.step, hopen]
    rfl

theorem exists_line (h : phase.Holds name table rs (some r)) (cs : Charset)
    (hend : line.text ≠ "endfunction".toList)
    (hmore : routines? (some r) (line :: lines) = some more)
    (hplace : ∀ r back, more = r :: back → Placeable table rs r) :
    ∃ (r' : Routine) (next : Phase), routines? (some r') lines = some more ∧
      phase.step cs line = .ok next ∧ next.Holds name table rs (some r') := by
  rw [routines?, if_neg hend] at hmore
  obtain ⟨entry, hentry, hmore⟩ := Option.bind_eq_some_iff.1 hmore
  obtain ⟨body, rest, rfl⟩ := routines?_open hmore
  have hplaced := hplace _ rest rfl
  have hsplit : (r.body ++ [entry]) ++ body = r.body ++ entry :: body := by
    rw [List.append_assoc, List.singleton_append]
  rw [hsplit] at hplaced
  cases h with
  | @inside done r d laid hnew hd =>
    obtain ⟨σ, hσ, hencodes⟩ := hplaced.encodes
    obtain ⟨is, his⟩ := Option.isSome_iff_exists.1 hencodes
    obtain ⟨s, d', hs, hd'⟩ := hd.exists_statement line.number hplaced.valid hσ his
    have hparse : Statement.parse line = .ok s := by
      rw [← Outcome.toOption_eq_some_iff, toOption_parse, hentry]
      exact hs
    exact ⟨_, _, hmore, (Phase.step_inside_eq_ok_iff hend).2 ⟨s, d', hparse, hd', rfl⟩,
      .inside laid hnew (hd.statement hs hd')⟩

/-- A source may end where no routine is open, if there has been one. -/
theorem exists_finish (h : phase.Holds name table rs none) (hne : rs ≠ []) (last : Nat) :
    ∃ p, phase = .between p ∧ phase.finish last = .ok p := by
  cases h with
  | @between done laid =>
    have hdone : done ≠ [] := by
      rintro rfl
      exact hne (List.map_eq_nil_iff.1 laid.all.names_eq.symm)
    exact ⟨{ name, table, done }, rfl, if_neg hdone⟩

end Phase.Holds

/-- What the first pass reads the assembler reads to the end, if every routine can be assembled
where it stands. -/
theorem exists_complete {cs : Charset} {last : Nat} {name : Bytes} {table : StringTable}
    {lines : List Line} {all rs more : List Routine} {r? : Option Routine} {phase : Phase}
    (hne : all ≠ [])
    (hplace : ∀ front r back, all = front ++ r :: back → Placeable table front r ∧
      ((scope table all (programSize front) r.body).instructions? r.body).isSome)
    (hall : rs ++ more = all) (h : phase.Holds name table rs r?)
    (hmore : routines? r? lines = some more) : ∃ p, phase.complete cs last lines = .ok p := by
  induction lines generalizing phase rs more r? with
  | nil =>
    rw [Phase.complete_nil]
    cases r? with
    | some r => exact nomatch hmore
    | none =>
      obtain rfl := Option.some.inj hmore
      rw [List.append_nil] at hall
      obtain ⟨p, -, hp⟩ := h.exists_finish (hall ▸ hne) last
      exact ⟨p, hp⟩
  | cons line lines ih =>
    rw [Phase.complete_cons]
    have hnext (r : Routine) (back : List Routine) (hr : more = r :: back) : Placeable table rs r :=
      (hplace rs r back (hr ▸ hall.symm)).1
    cases r? with
    | none =>
      obtain ⟨r, next, -, hrest, hstep, hholds⟩ := h.exists_header cs hmore hnext
      rw [hstep]
      exact ih hall hholds hrest
    | some r =>
      by_cases hend : line.text = "endfunction".toList
      · rw [routines?, if_pos hend] at hmore
        obtain ⟨rest, hrest, rfl⟩ := Option.map_eq_some_iff.1 hmore
        obtain ⟨hplaced, hresolves⟩ := hplace rs r rest hall.symm
        obtain ⟨is, his⟩ := Option.isSome_iff_exists.1 hresolves
        cases h with
        | inside laid hnew hd =>
          obtain ⟨a, ha⟩ := hd.exists_finish line.number hplaced.valid hplaced.stop_lt his
          rw [← List.singleton_append, ← List.append_assoc] at hall
          rw [Phase.step, if_pos hend, ha]
          exact ih hall (.between (laid.concat (hd.finish ha) hnew)) hrest
      · obtain ⟨r', next, hrest, hstep, hholds⟩ := h.exists_line cs hend hmore hnext
        rw [hstep]
        exact ih hall hholds hrest

end NovelScript.Assembly
