import NovelScript.Proofs.Container.Reading

/-!
The string section. Strings that stand one behind the other, each up to a zero byte, are written as
the section that is read back as them, and a section is read as no other strings
(`splitStrings_eq_ok_iff`). A section can be read if it is empty or ends in a zero byte
(`exists_splitStrings_iff`), and its strings then start where it starts and behind each zero byte
(`startsString_iff`).
-/

namespace NovelScript

namespace Script

/-- Every string sits behind the one before it and its zero byte, the first one at `cursor`. -/
def StringsPacked (cursor : Nat) : List StringEntry → Prop
  | [] => True
  | s :: ss => s.pos.toNat = cursor ∧ StringsPacked (cursor + s.bytes.length + 1) ss

instance decidableStringsPacked : ∀ (cursor : Nat) (strings : List StringEntry),
    Decidable (StringsPacked cursor strings)
  | _, [] => .isTrue trivial
  | cursor, s :: strings =>
    have := decidableStringsPacked (cursor + s.bytes.length + 1) strings
    inferInstanceAs (Decidable (_ ∧ _))

end Script

namespace Container

/-! ### Written strings -/

/-- Laying out strings, the first of which has to stand where the section has got to. -/
theorem layStrings_cons_eq_ok_iff {cursor : Nat} {s : StringEntry} {strings : List StringEntry}
    {bytes : Bytes} :
    Script.layStrings cursor (s :: strings) = .ok bytes ↔
      s.pos.toNat = cursor ∧ 0 ∉ s.bytes ∧
        ∃ rest, Script.layStrings (cursor + s.bytes.length + 1) strings = .ok rest ∧
          s.bytes ++ 0 :: rest = bytes := by
  rw [Script.layStrings]
  by_cases hpos : s.pos.toNat = cursor
  · by_cases hzero : 0 ∈ s.bytes
    · simp [hpos, hzero]
    · rw [if_neg (not_not_intro hpos), if_neg hzero, Outcome.map_eq_ok_iff]
      simp [hpos, hzero, Field.encode]
  · simp [hpos]

/-- What a string section consists of. -/
theorem layStrings_eq_ok_iff {cursor : Nat} {strings : List StringEntry} {bytes : Bytes} :
    Script.layStrings cursor strings = .ok bytes ↔
      Script.StringsPacked cursor strings ∧ (∀ s ∈ strings, 0 ∉ s.bytes) ∧
        bytes = strings.flatMap fun s => s.bytes ++ [0] := by
  induction strings generalizing cursor bytes with
  | nil => simp [Script.layStrings, Script.StringsPacked, eq_comm]
  | cons s strings ih =>
    rw [layStrings_cons_eq_ok_iff, Script.StringsPacked, List.forall_mem_cons, List.flatMap_cons]
    constructor
    · rintro ⟨hpos, hzero, rest, hrest, rfl⟩
      obtain ⟨hpacked, hzeros, rfl⟩ := ih.1 hrest
      exact ⟨⟨hpos, hpacked⟩, ⟨hzero, hzeros⟩, by simp⟩
    · rintro ⟨⟨hpos, hpacked⟩, ⟨hzero, hzeros⟩, rfl⟩
      exact ⟨hpos, hzero, _, ih.2 ⟨hpacked, hzeros, rfl⟩, by simp⟩

/-- A section falls apart into these strings: each stands behind the one before it, the first one at
the start, and takes up its bytes and the next zero byte. -/
structure IsSplit (bytes : Bytes) (strings : List StringEntry) : Prop where
  packed : Script.StringsPacked 0 strings
  zero : ∀ s ∈ strings, 0 ∉ s.bytes
  joined : bytes = strings.flatMap fun s => s.bytes ++ [0]

theorem isSplit_iff {bytes : Bytes} {strings : List StringEntry} :
    IsSplit bytes strings ↔ Script.layStrings 0 strings = .ok bytes := by
  rw [layStrings_eq_ok_iff]
  exact ⟨fun h => ⟨h.packed, h.zero, h.joined⟩, fun ⟨h₁, h₂, h₃⟩ => ⟨h₁, h₂, h₃⟩⟩

instance (bytes : Bytes) (strings : List StringEntry) : Decidable (IsSplit bytes strings) :=
  decidable_of_iff (_ ∧ _ ∧ _) ⟨fun ⟨h₁, h₂, h₃⟩ => ⟨h₁, h₂, h₃⟩, fun ⟨h₁, h₂, h₃⟩ => ⟨h₁, h₂, h₃⟩⟩

theorem pairwise_of_layStrings {cursor : Nat} {strings : List StringEntry} {bytes : Bytes}
    (h : Script.layStrings cursor strings = .ok bytes) :
    (∀ s ∈ strings, cursor ≤ s.pos.toNat) ∧ strings.Pairwise fun s t => s.pos < t.pos := by
  induction strings generalizing cursor bytes with
  | nil => exact ⟨nofun, .nil⟩
  | cons s strings ih =>
    obtain ⟨hpos, -, rest, hrest, -⟩ := layStrings_cons_eq_ok_iff.1 h
    obtain ⟨hle, hpairs⟩ := ih hrest
    refine ⟨?_, .cons ?_ hpairs⟩
    · intro t ht
      rcases List.mem_cons.1 ht with rfl | ht
      · omega
      · have := hle t ht
        omega
    · intro t ht
      have := hle t ht
      exact UInt32.lt_iff_toNat_lt.2 (by omega)

theorem length_of_layStrings {cursor : Nat} {strings : List StringEntry} {bytes : Bytes}
    (h : Script.layStrings cursor strings = .ok bytes) :
    bytes.length = (strings.map fun s => s.bytes.length + 1).sum := by
  induction strings generalizing cursor bytes with
  | nil =>
    obtain rfl := Except.ok.inj h
    rfl
  | cons s strings ih =>
    obtain ⟨-, -, rest, hrest, rfl⟩ := layStrings_cons_eq_ok_iff.1 h
    rw [List.length_append, List.length_cons, ih hrest, List.map_cons, List.sum_cons]
    omega

theorem terminated_of_layStrings {cursor : Nat} {strings : List StringEntry} {bytes : Bytes}
    (h : Script.layStrings cursor strings = .ok bytes) :
    bytes = [] ∨ bytes.getLast? = some 0 := by
  obtain ⟨-, -, rfl⟩ := layStrings_eq_ok_iff.1 h
  rcases List.eq_nil_or_concat strings with rfl | ⟨front, last, rfl⟩
  · exact .inl rfl
  · right
    simp

/-! ### Read strings -/

theorem splitStrings_append {base start pos : Nat} {taken bytes rest : Bytes} (h : 0 ∉ bytes) :
    splitStrings base start pos taken (bytes ++ 0 :: rest) =
      (splitStrings base (pos + bytes.length + 1) (pos + bytes.length + 1) [] rest).map
        fun strings => ⟨UInt32.ofNat start, taken.reverse ++ bytes⟩ :: strings := by
  induction bytes generalizing pos taken with
  | nil =>
    rw [List.nil_append, splitStrings, if_pos rfl, List.append_nil]
    rfl
  | cons b bytes ih =>
    rw [List.mem_cons, not_or] at h
    have hnext : pos + 1 + bytes.length = pos + (b :: bytes).length := by
      rw [List.length_cons]
      omega
    rw [List.cons_append, splitStrings, if_neg (Ne.symm h.1), ih h.2, hnext, List.reverse_cons,
      List.append_assoc, List.singleton_append]

/-- What can be laid out as a string section is read back from it. -/
theorem splitStrings_of_layStrings {base cursor : Nat} {strings : List StringEntry} {bytes : Bytes}
    (h : Script.layStrings cursor strings = .ok bytes) :
    splitStrings base cursor cursor [] bytes = .ok strings := by
  induction strings generalizing cursor bytes with
  | nil =>
    obtain rfl := Except.ok.inj h
    rw [splitStrings, if_pos rfl]
  | cons s strings ih =>
    obtain ⟨hpos, hzero, rest, hrest, rfl⟩ := layStrings_cons_eq_ok_iff.1 h
    have hentry : s = ⟨UInt32.ofNat cursor, s.bytes⟩ := by
      rw [← hpos, UInt32.ofNat_toNat]
    rw [splitStrings_append hzero, ih hrest]
    exact congrArg (fun e => Except.ok (e :: strings)) hentry.symm

/-- A section is laid out from what it is read as. Its size is a word, so no position wraps. -/
theorem layStrings_of_splitStrings {base start pos : Nat} {taken bytes : Bytes}
    {strings : List StringEntry} (hpos : start + taken.length = pos) (hzero : 0 ∉ taken)
    (hsize : pos + bytes.length < 2 ^ 32)
    (h : splitStrings base start pos taken bytes = .ok strings) :
    Script.layStrings start strings = .ok (taken.reverse ++ bytes) := by
  induction bytes generalizing start pos taken strings with
  | nil =>
    rw [splitStrings] at h
    split at h
    · have htaken : taken = [] := List.length_eq_zero_iff.1 (by omega)
      obtain rfl := Except.ok.inj h
      rw [htaken]
      rfl
    · exact nomatch h
  | cons b bytes ih =>
    rw [List.length_cons] at hsize
    rw [splitStrings] at h
    split at h
    · rename_i hb
      obtain ⟨more, hmore, rfl⟩ := Outcome.map_eq_ok_iff.1 h
      have hrest : Script.layStrings (pos + 1) more = .ok ([].reverse ++ bytes) :=
        ih (Nat.add_zero _) List.not_mem_nil (by omega) hmore
      have hstart : (UInt32.ofNat start).toNat = start := by
        rw [UInt32.toNat_ofNat']
        omega
      refine layStrings_cons_eq_ok_iff.2 ⟨hstart, by simpa using hzero, bytes, ?_, by rw [hb]⟩
      rw [List.length_reverse, hpos]
      exact hrest
    · rename_i hb
      have hrest : Script.layStrings start strings = .ok ((b :: taken).reverse ++ bytes) :=
        ih (by rw [List.length_cons]; omega) (by simp [hzero, Ne.symm hb]) (by omega) h
      rw [hrest, List.reverse_cons, List.append_assoc, List.singleton_append]

/-- A section is read as exactly the strings that it is laid out from. -/
theorem splitStrings_eq_ok_iff {base : Nat} {bytes : Bytes} {strings : List StringEntry}
    (hsize : bytes.length < 2 ^ 32) :
    splitStrings base 0 0 [] bytes = .ok strings ↔ Script.layStrings 0 strings = .ok bytes := by
  constructor
  · intro h
    exact layStrings_of_splitStrings (Nat.add_zero 0) List.not_mem_nil (by omega) h
  · exact splitStrings_of_layStrings

theorem exists_splitStrings {base start pos : Nat} {taken bytes : Bytes}
    (h : bytes.getLast? = some 0 ∨ bytes = [] ∧ pos = start) :
    ∃ strings, splitStrings base start pos taken bytes = .ok strings := by
  induction bytes generalizing start pos taken with
  | nil =>
    obtain h | ⟨-, hpos⟩ := h
    · simp at h
    · exact ⟨[], if_pos hpos⟩
  | cons b bytes ih =>
    rw [splitStrings]
    by_cases hb : b = 0
    · have hlast : bytes.getLast? = some 0 ∨ bytes = [] ∧ pos + 1 = pos + 1 := by
        cases bytes with
        | nil => exact .inr ⟨rfl, rfl⟩
        | cons => simpa using h
      obtain ⟨more, hmore⟩ : ∃ more, splitStrings base (pos + 1) (pos + 1) [] bytes = .ok more :=
        ih hlast
      exact ⟨_, by rw [if_pos hb, hmore]; rfl⟩
    · have hlast : bytes.getLast? = some 0 := by
        cases bytes with
        | nil => simp [hb] at h
        | cons => simpa using h
      rw [if_neg hb]
      exact ih (.inl hlast)

/-- A section can be read if and only if nothing is behind its last zero byte. -/
theorem exists_splitStrings_iff {base : Nat} {bytes : Bytes} (hsize : bytes.length < 2 ^ 32) :
    (∃ strings, splitStrings base 0 0 [] bytes = .ok strings) ↔
      bytes = [] ∨ bytes.getLast? = some 0 := by
  constructor
  · rintro ⟨strings, h⟩
    exact terminated_of_layStrings ((splitStrings_eq_ok_iff hsize).1 h)
  · rintro (rfl | h)
    · exact exists_splitStrings (.inr ⟨rfl, rfl⟩)
    · exact exists_splitStrings (.inl h)

/-- Reading fails at the start of the string that does not end. -/
theorem failsWithin_splitStrings {base start pos : Nat} {taken bytes : Bytes}
    (hpos : start ≤ pos) :
    FailsWithin (base + (pos + bytes.length)) (splitStrings base start pos taken bytes) := by
  induction bytes generalizing start pos taken with
  | nil =>
    rw [splitStrings]
    split
    · exact .ok []
    · exact .error (by omega) _
  | cons b bytes ih =>
    have hnext : pos + (b :: bytes).length = pos + 1 + bytes.length := by
      rw [List.length_cons]
      omega
    rw [splitStrings, hnext]
    split
    · exact (ih le_rfl).map _
    · exact ih (by omega)

/-! ### Search -/

def StartsString (bytes : Bytes) (n : Nat) : Prop :=
  n < bytes.length ∧ (n = 0 ∨ bytes[n - 1]? = some 0)

instance (bytes : Bytes) (n : Nat) : Decidable (StartsString bytes n) :=
  inferInstanceAs (Decidable (_ ∧ _))

theorem startsString_iff {cursor : Nat} {strings : List StringEntry} {bytes : Bytes}
    (h : Script.layStrings cursor strings = .ok bytes) (n : Nat) :
    StartsString bytes n ↔ ∃ s ∈ strings, s.pos.toNat = cursor + n := by
  induction strings generalizing cursor bytes n with
  | nil =>
    obtain rfl := Except.ok.inj h
    simp [StartsString]
  | cons s strings ih =>
    obtain ⟨hpos, hzero, rest, hrest, rfl⟩ := layStrings_cons_eq_ok_iff.1 h
    have hle := (pairwise_of_layStrings hrest).1
    rw [StartsString, List.length_append, List.length_cons, List.exists_mem_cons_iff, hpos]
    -- the offset is the start of the first string, inside of that string, or behind it
    rcases Nat.lt_or_ge s.bytes.length n with hn | hn
    · obtain ⟨m, rfl⟩ : ∃ m, n = s.bytes.length + 1 + m := ⟨n - (s.bytes.length + 1), by omega⟩
      have hindex : s.bytes.length + 1 + m - 1 = s.bytes.length + m := by omega
      have hbehind : (s.bytes ++ 0 :: rest)[s.bytes.length + m]? = some 0 ↔
          m = 0 ∨ rest[m - 1]? = some 0 := by
        rw [List.getElem?_append_right (by omega), Nat.add_sub_cancel_left]
        cases m <;> simp
      have hlength : s.bytes.length + 1 + m < s.bytes.length + (rest.length + 1) ↔
          m < rest.length := by omega
      have hfirst : ¬ cursor = cursor + (s.bytes.length + 1 + m) := by omega
      have hsum : cursor + (s.bytes.length + 1 + m) = cursor + s.bytes.length + 1 + m := by omega
      rw [hindex, hbehind, hlength, eq_false hfirst, false_or, hsum, ← ih hrest m, StartsString]
      simp
    · rcases Nat.eq_zero_or_pos n with rfl | hn'
      · simp
      · have hinside : (s.bytes ++ 0 :: rest)[n - 1]? = some s.bytes[n - 1] := by
          rw [List.getElem?_append_left (by omega), List.getElem?_eq_getElem]
        have hne : s.bytes[n - 1] ≠ 0 := fun heq => hzero (heq ▸ List.getElem_mem _)
        constructor
        · rintro ⟨-, hstart⟩
          rcases hstart with hstart | hstart
          · omega
          · rw [hinside, Option.some.injEq] at hstart
            exact absurd hstart hne
        · rintro (heq | ⟨t, ht, heq⟩)
          · omega
          · have := hle t ht
            omega

theorem mem_of_entryAt? {strings : List StringEntry} {pos : UInt32} {s : StringEntry}
    (h : Script.entryAt? strings pos = some s) : s ∈ strings ∧ s.pos = pos := by
  fun_induction Script.entryAt? strings pos with
  | case1 strings _ _ _ ih => exact ⟨List.mem_of_mem_take (ih h).1, (ih h).2⟩
  | case2 strings _ _ _ ih => exact ⟨List.mem_of_mem_drop (ih h).1, (ih h).2⟩
  | case3 strings _ =>
    have hfound : decide (s.pos = pos) = true :=
      List.find?_some (p := fun t : StringEntry => decide (t.pos = pos)) h
    exact ⟨List.mem_of_find?_eq_some h, of_decide_eq_true hfound⟩

/-- In a table that is in order a string is found by its position: it stands in the half in which
the search goes on. -/
theorem entryAt?_of_mem {strings : List StringEntry}
    (h : strings.Pairwise fun s t => s.pos < t.pos) {s : StringEntry} (hs : s ∈ strings) :
    Script.entryAt? strings s.pos = some s := by
  generalize hpos : s.pos = pos
  fun_induction Script.entryAt? strings pos with
  | case1 strings _ hhalf hlt ih =>
    -- the half from the string in the middle on begins behind the position
    refine ih (h.sublist (List.take_sublist _ _)) ?_
    rw [← List.take_append_drop (strings.length / 2) strings, List.mem_append] at hs
    refine hs.resolve_right fun hback => ?_
    have hdrop := h.sublist (List.drop_sublist (strings.length / 2) strings)
    rw [List.drop_eq_getElem_cons hhalf] at hback hdrop
    rw [← hpos] at hlt
    rcases List.mem_cons.1 hback with heq | hback
    · rw [← heq] at hlt
      exact UInt32.lt_irrefl _ hlt
    · exact UInt32.lt_asymm hlt (List.rel_of_pairwise_cons hdrop hback)
  | case2 strings _ hhalf hle ih =>
    -- the half before the string in the middle ends in front of the position
    refine ih (h.sublist (List.drop_sublist _ _)) ?_
    have hsplit := h
    rw [← List.take_append_drop (strings.length / 2) strings] at hs hsplit
    rw [List.mem_append] at hs
    refine hs.resolve_left fun hfront => hle ?_
    rw [← hpos]
    refine (List.pairwise_append.1 hsplit).2.2 s hfront _ ?_
    rw [List.drop_eq_getElem_cons hhalf]
    exact List.mem_cons_self
  | case3 strings hlength =>
    obtain ⟨t, rfl⟩ : ∃ t, strings = [t] := by
      apply List.length_eq_one_iff.1
      have := List.length_pos_of_mem hs
      omega
    obtain rfl := List.mem_singleton.1 hs
    exact List.find?_cons_of_pos (decide_eq_true hpos)

/-- In a table that is in order the string at a position is found, and nothing else. -/
theorem entryAt?_eq_some_iff {strings : List StringEntry}
    (h : strings.Pairwise fun s t => s.pos < t.pos) {pos : UInt32} {s : StringEntry} :
    Script.entryAt? strings pos = some s ↔ s ∈ strings ∧ s.pos = pos := by
  constructor
  · exact mem_of_entryAt?
  · rintro ⟨hs, rfl⟩
    exact entryAt?_of_mem h hs

theorem pos_lt_of_layStrings {cursor : Nat} {strings : List StringEntry} {bytes : Bytes}
    (h : Script.layStrings cursor strings = .ok bytes) {s : StringEntry} (hs : s ∈ strings) :
    s.pos.toNat < cursor + bytes.length := by
  have hle := (pairwise_of_layStrings h).1 s hs
  obtain ⟨n, hn⟩ := Nat.exists_eq_add_of_le hle
  have hstart := ((startsString_iff h n).2 ⟨s, hs, hn⟩).1
  omega

end Container

end NovelScript
