import NovelScript.Proofs.Assembly.TwoPass
import NovelScript.Proofs.Outcome

/-!
The lines outside of functions: exactly which texts the assembler takes for a name, for the
definition of a string and for the head of a function, and what it takes them for.
-/

namespace NovelScript.Declaration

theorem scriptName_eq_ok_iff {cs : Charset} {line : Line} {bytes : Bytes} :
    scriptName cs line = .ok bytes ↔
      ∃ rest, afterKeyword? "script" line.text = some rest ∧ Text.trim rest ≠ [] ∧
        nameBytes cs line.number (Text.trim rest) = .ok (some bytes) ∧
        bytes.length ≤ Container.maxNameLength ∧ 0 ∉ bytes := by
  rw [scriptName]
  cases hafter : afterKeyword? "script" line.text with
  | none => exact ⟨nofun, fun ⟨rest, h, _⟩ => nomatch h⟩
  | some rest =>
    simp only [Option.map_some, Option.getD_some]
    by_cases hempty : Text.trim rest = []
    · simp only [if_pos hempty]
      constructor
      · exact nofun
      · rintro ⟨rest', hrest, hne, -⟩
        obtain rfl := Option.some.inj hrest
        exact absurd hempty hne
    · simp only [if_neg hempty]
      constructor
      · intro h
        obtain ⟨found, hfound, h⟩ := Outcome.bind_eq_ok_iff.1 h
        cases found with
        | none => exact nomatch h
        | some name =>
          simp only at h
          split at h
          · exact nomatch h
          · rename_i hzero
            split at h
            · exact nomatch h
            · rename_i hlen
              obtain rfl := Except.ok.inj h
              exact ⟨rest, rfl, hempty, hfound, Nat.not_lt.1 hlen, hzero⟩
      · rintro ⟨rest', hrest, -, hfound, hlen, hzero⟩
        obtain rfl := Option.some.inj hrest
        rw [hfound, Outcome.ok_bind]
        simp only [if_neg hzero, if_neg (Nat.not_lt.2 hlen)]
        rfl

theorem stringDefinition_eq_ok_iff {line : Line} {name value : Text} :
    stringDefinition line = .ok (name, value) ↔
      Source.splitAssignment line.text = some (name, value) ∧ name ≠ [] ∧
        name.any isSpace = false := by
  rw [stringDefinition]
  cases Source.splitAssignment line.text with
  | none => exact ⟨nofun, fun h => nomatch h.1⟩
  | some pair =>
    obtain ⟨name', value'⟩ := pair
    simp only
    split
    · rename_i hbad
      constructor
      · exact nofun
      · rintro ⟨hpair, hne, hspace⟩
        obtain ⟨rfl, rfl⟩ := Prod.mk.inj (Option.some.inj hpair)
        rcases hbad with hnil | hany
        · exact absurd hnil hne
        · exact absurd hany (by rw [hspace]; exact Bool.false_ne_true)
    · rename_i hgood
      rw [not_or] at hgood
      constructor
      · intro h
        obtain ⟨rfl, rfl⟩ := Prod.mk.inj (Except.ok.inj h)
        exact ⟨rfl, hgood.1, Bool.eq_false_iff.2 hgood.2⟩
      · rintro ⟨hpair, -, -⟩
        exact congrArg Except.ok (Option.some.inj hpair)

theorem stringBytes_eq_ok_iff {cs : Charset} {line : Nat} {name value : Text} {bytes : Bytes} :
    stringBytes cs line name value = .ok bytes ↔
      ∃ pieces, Literal.parse value = .ok pieces ∧ Literal.encode cs pieces = some bytes ∧
        0 ∉ bytes := by
  rw [stringBytes]
  cases Literal.parse value with
  | error cause => exact ⟨nofun, fun ⟨_, h, _⟩ => nomatch h⟩
  | ok pieces =>
    simp only [Except.ok.injEq]
    cases hencode : Literal.encode cs pieces with
    | none =>
      constructor
      · exact nofun
      · rintro ⟨pieces', rfl, h, -⟩
        exact nomatch hencode.symm.trans h
    | some found =>
      simp only
      split
      · rename_i hzero
        constructor
        · exact nofun
        · rintro ⟨pieces', rfl, h, hnot⟩
          obtain rfl := Option.some.inj (hencode.symm.trans h)
          exact absurd hzero hnot
      · rename_i hzero
        constructor
        · intro h
          obtain rfl := Except.ok.inj h
          exact ⟨pieces, rfl, hencode, hzero⟩
        · rintro ⟨pieces', rfl, h, -⟩
          exact congrArg Except.ok (Option.some.inj (hencode.symm.trans h))

theorem functionHeader_eq_ok_iff {line : Line} {name : Text} {params : UInt32} :
    functionHeader line = .ok (name, params) ↔
      ∃ rest front back, afterKeyword? "function" line.text = some rest ∧
        rest.splitAtFirst (· = ',') = some (front, back) ∧ front.trim = name ∧ name ≠ [] ∧
        Number.count line.number back.trim = .ok params := by
  rw [functionHeader]
  constructor
  · intro h
    cases hsplit : (afterKeyword? "function" line.text).bind
        fun rest => rest.splitAtFirst (· = ',') with
    | none =>
      simp only [hsplit] at h
      exact nomatch h
    | some pair =>
      obtain ⟨front, back⟩ := pair
      simp only [hsplit] at h
      split at h
      · exact nomatch h
      · rename_i hne
        obtain ⟨n, hn, hpair⟩ := Outcome.map_eq_ok_iff.1 h
        obtain ⟨rfl, rfl⟩ := Prod.mk.inj hpair
        obtain ⟨rest, hrest, hcomma⟩ := Option.bind_eq_some_iff.1 hsplit
        exact ⟨rest, front, back, hrest, hcomma, rfl, hne, hn⟩
  · rintro ⟨rest, front, back, hrest, hcomma, rfl, hne, hcount⟩
    simp only [hrest, Option.bind_some, hcomma, if_neg hne, hcount]
    rfl

end NovelScript.Declaration

namespace NovelScript.Assembly.TwoPass

theorem string?_eq_some_iff {cs : Charset} {line : Line} {name : Text} {bytes : Bytes} :
    string? cs line = some (name, bytes) ↔
      ∃ value pieces, Source.splitAssignment line.text = some (name, value) ∧ name ≠ [] ∧
        name.any isSpace = false ∧ Literal.parse value = .ok pieces ∧
        Literal.encode cs pieces = some bytes ∧ 0 ∉ bytes := by
  rw [string?, Option.bind_eq_bind, Option.bind_eq_some_iff]
  constructor
  · rintro ⟨⟨name', value⟩, hline, h⟩
    obtain ⟨bytes', hbytes, h⟩ := Option.bind_eq_some_iff.1 h
    obtain ⟨rfl, rfl⟩ := Prod.mk.inj (Option.some.inj h)
    rw [Outcome.toOption_eq_some_iff] at hline hbytes
    obtain ⟨hsplit, hne, hspace⟩ := Declaration.stringDefinition_eq_ok_iff.1 hline
    obtain ⟨pieces, hpieces, hencode, hzero⟩ := Declaration.stringBytes_eq_ok_iff.1 hbytes
    exact ⟨value, pieces, hsplit, hne, hspace, hpieces, hencode, hzero⟩
  · rintro ⟨value, pieces, hsplit, hne, hspace, hpieces, hencode, hzero⟩
    refine ⟨(name, value), ?_, ?_⟩
    · rw [Outcome.toOption_eq_some_iff]
      exact Declaration.stringDefinition_eq_ok_iff.2 ⟨hsplit, hne, hspace⟩
    · have hbytes : Declaration.stringBytes cs line.number name value = .ok bytes :=
        Declaration.stringBytes_eq_ok_iff.2 ⟨pieces, hpieces, hencode, hzero⟩
      simp only [hbytes]
      rfl

/-- What the first pass reads behind the name. -/
theorem program?_eq_some_iff {cs : Charset} {header opening : Line} {lines : List Line}
    (hopening : opening.text = "strings".toList) {p : Program} :
    program? cs (header :: opening :: lines) = some p ↔
      ∃ rest, Declaration.scriptName cs header = .ok p.name ∧
        strings? cs lines = some (p.strings, rest) ∧ routines? none rest = some p.routines := by
  rw [program?, if_pos hopening, Option.bind_eq_bind, Option.bind_eq_some_iff]
  constructor
  · rintro ⟨name, hname, h⟩
    obtain ⟨⟨strings, rest⟩, hstrings, h⟩ := Option.bind_eq_some_iff.1 h
    obtain ⟨routines, hroutines, h⟩ := Option.bind_eq_some_iff.1 h
    obtain rfl := Option.some.inj h
    exact ⟨rest, Outcome.toOption_eq_some_iff.1 hname, hstrings, hroutines⟩
  · rintro ⟨rest, hname, hstrings, hroutines⟩
    refine ⟨p.name, Outcome.toOption_eq_some_iff.2 hname, ?_⟩
    rw [hstrings]
    show (routines? none rest).bind _ = some p
    rw [hroutines]
    rfl

end NovelScript.Assembly.TwoPass
