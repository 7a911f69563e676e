import NovelScript.Proofs.Charset.Steps

/-!
Control characters in the charsets. The tables of double bytes have none (`RunsAbove`), so a control
character is written in one byte, or in UTF-8 in two, of which the second one begins no character
(`exists_of_isControl`).
-/

namespace NovelScript

/-! ### Tables without control characters -/

/-- All characters of runs have code points from `least` on. -/
def RunsAbove (least : Nat) (runs : List CharacterRun) : Prop :=
  ∀ run ∈ runs, ∀ c ∈ run.characters, least ≤ c.toNat

namespace RunsAbove

variable {least : Nat} {runs : List CharacterRun}

theorem nil : RunsAbove least [] := nofun

theorem append {more : List CharacterRun} (h : RunsAbove least runs)
    (hmore : RunsAbove least more) :
    RunsAbove least (runs ++ more) := by
  intro run hrun
  exact (List.mem_append.1 hrun).elim (h run) (hmore run)

/-- The characters are given as a list, which is faster to go through than a string. -/
theorem spelled {first : Nat} {characters : List Char}
    (h : (characters.all fun c => least ≤ c.toNat) = true) (hruns : RunsAbove least runs) :
    RunsAbove least (.spelled first (String.ofList characters) :: runs) := by
  refine List.forall_mem_cons.2 ⟨fun c hc => ?_, hruns⟩
  rw [CharacterRun.spelled, String.toList_ofList] at hc
  exact of_decide_eq_true (List.all_eq_true.1 h c hc)

theorem consecutive {first start count : Nat}
    (h : ((List.range count).all fun i => least ≤ (Char.ofNat (start + i)).toNat) = true)
    (hruns : RunsAbove least runs) :
    RunsAbove least (.consecutive first start count :: runs) := by
  refine List.forall_mem_cons.2 ⟨fun c hc => ?_, hruns⟩
  obtain ⟨i, hi, rfl⟩ := List.mem_map.1 hc
  exact of_decide_eq_true (List.all_eq_true.1 h i hi)

end RunsAbove

namespace CodeTable

theorem mem_of_foldl_characters {entries : List (Char × Nat)} {table : Array (Option Char)}
    {c : Char} {p : Nat}
    (h : (entries.foldl (fun table (c, p) => table.setIfInBounds p (some c)) table)[p]?.join =
      some c) : table[p]?.join = some c ∨ c ∈ entries.map Prod.fst := by
  induction entries generalizing table with
  | nil => exact .inl h
  | cons entry entries ih =>
    rcases ih h with h | h
    · rw [Array.getElem?_setIfInBounds] at h
      split at h
      · split at h
        · right
          rw [List.map_cons, ← Option.some.inj h]
          exact List.mem_cons_self
        · exact nomatch h
      · exact .inl h
    · exact .inr (List.mem_cons_of_mem _ h)

theorem exists_of_char?_ofRuns {size p : Nat} {preferred : Nat → Bool} {runs : List CharacterRun}
    {c : Char} (h : (ofRuns size preferred runs).char? p = some c) :
    ∃ run ∈ runs, c ∈ run.characters := by
  rcases mem_of_foldl_characters h with h | h
  · rw [Array.getElem?_replicate] at h
    split at h <;> exact nomatch h
  · obtain ⟨entry, hentry, rfl⟩ := List.mem_map.1 h
    obtain ⟨run, hrun, hentry⟩ := List.mem_flatMap.1 hentry
    exact ⟨run, hrun, List.fst_mem_of_mem_zipIdx hentry⟩

theorem le_of_pointer?_ofRuns {size p least : Nat} {preferred : Nat → Bool}
    {runs : List CharacterRun} (hruns : RunsAbove least runs) {c : Char}
    (h : (ofRuns size preferred runs).pointer? c = some p) : least ≤ c.toNat := by
  obtain ⟨run, hrun, hc⟩ := exists_of_char?_ofRuns (char?_of_pointer? h)
  exact hruns run hrun c hc

end CodeTable

namespace Charset

def behindControls : Nat := 0xa0

set_option maxRecDepth 4000 in
theorem runsAbove_jisRuns : RunsAbove behindControls jisRuns := by
  unfold jisRuns
  repeat' with_reducible refine RunsAbove.spelled (by decide +kernel) ?_
  exact .nil

theorem runsAbove_gbPrivateRuns : RunsAbove behindControls gbPrivateRuns := by
  unfold gbPrivateRuns
  repeat' with_reducible refine RunsAbove.consecutive (by decide +kernel) ?_
  exact .nil

set_option maxRecDepth 4000 in
theorem runsAbove_gbRuns : RunsAbove behindControls gbRuns := by
  unfold gbRuns
  repeat' with_reducible refine RunsAbove.spelled (by decide +kernel) ?_
  exact .nil

/-! ### Control characters -/

theorem toNat_lt_of_isControl {c : Char} (h : isControl c = true) : c.toNat < behindControls := by
  rw [isControl, Bool.or_eq_true, Bool.and_eq_true, decide_eq_true_iff, decide_eq_true_iff,
    decide_eq_true_iff] at h
  rw [behindControls]
  omega

theorem ShiftJis.exists_of_isControl {c : Char} {bytes : Bytes} (hc : isControl c = true)
    (h : encodeChar c = some bytes) : ∃ b, bytes = [b] := by
  have hlt := toNat_lt_of_isControl hc
  rw [behindControls] at hlt
  rw [encodeChar] at h
  split at h
  · exact ⟨_, (Option.some.inj h).symm⟩
  · rw [if_neg (by omega), if_neg (by omega), if_neg (by omega), if_neg (by omega)] at h
    obtain ⟨p, hp, -⟩ := Option.map_eq_some_iff.1 h
    have hle := CodeTable.le_of_pointer?_ofRuns runsAbove_jisRuns hp
    rw [behindControls] at hle
    omega

theorem Gbk.formerPrivate?_eq_none : ∀ n : Fin behindControls, formerPrivate? n = none := by
  decide +kernel

theorem Gbk.exists_of_isControl {c : Char} {bytes : Bytes} (hc : isControl c = true)
    (h : encodeChar c = some bytes) : ∃ b, bytes = [b] := by
  have hlt := toNat_lt_of_isControl hc
  rw [encodeChar] at h
  split at h
  · exact ⟨_, (Option.some.inj h).symm⟩
  split at h
  · exact ⟨_, (Option.some.inj h).symm⟩
  rw [formerPrivate?_eq_none ⟨c.toNat, hlt⟩] at h
  obtain ⟨p, hp, -⟩ := Option.map_eq_some_iff.1 h
  have hruns := runsAbove_gbPrivateRuns.append runsAbove_gbRuns
  exact absurd (CodeTable.le_of_pointer?_ofRuns hruns hp) (Nat.not_le.2 hlt)

/-- In UTF-8 a control character beyond ASCII has two bytes. -/
theorem Utf8.exists_of_isControl {c : Char} (hc : isControl c = true) :
    ∃ b front, encodeChar c = b :: front ∧ ∀ t ∈ front, isContinuation t = true := by
  have hlt := toNat_lt_of_isControl hc
  rw [behindControls] at hlt
  rw [encodeChar, String.utf8EncodeChar]
  have hval : c.val.toNat = c.toNat := rfl
  simp only [hval]
  split
  · exact ⟨_, [], rfl, nofun⟩
  · rw [if_pos (by omega)]
    refine ⟨_, _, rfl, fun t ht => ?_⟩
    rw [List.mem_singleton.1 ht, isContinuation, Bool.and_eq_true, decide_eq_true_iff,
      decide_eq_true_iff, UInt8.le_iff_toNat_le, UInt8.le_iff_toNat_le, UInt8.toNat_ofNat']
    have hlow : (0x80 : UInt8).toNat = 128 := rfl
    have hhigh : (0xbf : UInt8).toNat = 191 := rfl
    omega

theorem Utf8.step_of_isContinuation {t : UInt8} (h : isContinuation t = true) (rest : Bytes) :
    step t rest = .malformed 0 := by
  rw [isContinuation, Bool.and_eq_true, decide_eq_true_iff, decide_eq_true_iff,
    UInt8.le_iff_toNat_le, UInt8.le_iff_toNat_le] at h
  have hlow : (0x80 : UInt8).toNat = 128 := rfl
  have hhigh : (0xbf : UInt8).toNat = 191 := rfl
  have hascii : ¬ t < 0x80 := by
    rw [UInt8.lt_iff_toNat_lt]
    omega
  have hlead {least greatest : UInt8} (hleast : 191 < least.toNat) :
      ¬ (decide (least ≤ t) && decide (t ≤ greatest)) = true := by
    rw [Bool.and_eq_true, decide_eq_true_iff, UInt8.le_iff_toNat_le]
    omega
  rw [step, if_neg hascii, if_neg (hlead (by decide)), if_neg (hlead (by decide)),
    if_neg (hlead (by decide))]

/-- A control character begins with its first byte, and none of the others begins a character. -/
theorem exists_of_isControl {cs : Charset} {c : Char} {bytes : Bytes} (hc : isControl c = true)
    (h : cs.encodeChar c = some bytes) :
    ∃ b front, bytes = b :: front ∧ ∀ t ∈ front, ∀ rest, cs.step t rest = .malformed 0 := by
  cases cs with
  | shiftJis =>
    obtain ⟨b, rfl⟩ := ShiftJis.exists_of_isControl hc h
    exact ⟨b, [], rfl, nofun⟩
  | gbk =>
    obtain ⟨b, rfl⟩ := Gbk.exists_of_isControl hc h
    exact ⟨b, [], rfl, nofun⟩
  | utf8 =>
    obtain ⟨b, front, hbytes, hfront⟩ := Utf8.exists_of_isControl hc
    refine ⟨b, front, (Option.some.inj h).symm.trans hbytes, fun t ht => ?_⟩
    exact Utf8.step_of_isContinuation (hfront t ht)

end Charset

end NovelScript
