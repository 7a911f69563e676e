import Mathlib
import NovelScript.Text

/-!
Trimming, splitting and joining of texts. A *solid* text begins and ends in characters that are no
white space, so trimming takes off exactly the white space put around it (`trim_pad`); lines without
line feeds are read back from their text up to a final carriage return (`lines_unlines`).
-/

namespace NovelScript.Text

/-! ### Trimming -/

structure Solid (t : Text) : Prop where
  head : ∃ c rest, t = c :: rest ∧ isSpace c = false
  last : ∃ front c, t = front ++ [c] ∧ isSpace c = false

theorem Solid.of_forall {t : Text} (hne : t ≠ []) (h : ∀ c ∈ t, isSpace c = false) : Solid t where
  head := by
    obtain ⟨c, rest, rfl⟩ := List.exists_cons_of_ne_nil hne
    exact ⟨c, rest, rfl, h c List.mem_cons_self⟩
  last := by
    refine ⟨t.dropLast, t.getLast hne, (List.dropLast_concat_getLast hne).symm, ?_⟩
    exact h _ (List.getLast_mem hne)

theorem Solid.ne_nil {t : Text} (h : Solid t) : t ≠ [] := by
  obtain ⟨c, rest, rfl, -⟩ := h.head
  exact List.cons_ne_nil c rest

theorem Solid.append {front back : Text} (hfront : Solid front) (hback : Solid back)
    (middle : Text) : Solid (front ++ middle ++ back) where
  head := by
    obtain ⟨c, rest, rfl, hc⟩ := hfront.head
    exact ⟨c, rest ++ middle ++ back, by simp only [List.cons_append], hc⟩
  last := by
    obtain ⟨rest, c, rfl, hc⟩ := hback.last
    exact ⟨front ++ middle ++ rest, c, by simp only [List.append_assoc], hc⟩

theorem trimStart_append {front t : Text} (h : ∀ c ∈ front, isSpace c = true) :
    trimStart (front ++ t) = trimStart t := List.dropWhile_append_of_pos h

theorem trimStart_of_solid {t : Text} (h : Solid t) (back : Text) :
    trimStart (t ++ back) = t ++ back := by
  obtain ⟨c, rest, rfl, hc⟩ := h.head
  exact List.dropWhile_cons_of_neg (by rw [hc]; exact Bool.false_ne_true)

theorem trimEnd_of_solid {t back : Text} (h : Solid t) (hback : ∀ c ∈ back, isSpace c = true) :
    trimEnd (t ++ back) = t := by
  obtain ⟨rest, c, rfl, hc⟩ := h.last
  have hspace : ∀ c ∈ back.reverse, isSpace c = true := fun c hc => hback c (List.mem_reverse.1 hc)
  have hstop : ¬ isSpace c = true := by
    rw [hc]
    exact Bool.false_ne_true
  rw [trimEnd, List.reverse_append, List.dropWhile_append_of_pos hspace, List.reverse_append,
    List.reverse_singleton, List.singleton_append, List.dropWhile_cons_of_neg hstop,
    List.reverse_cons, List.reverse_reverse]

/-- Trimming takes off exactly the white space around a solid text. -/
theorem trim_pad {front t back : Text} (hfront : ∀ c ∈ front, isSpace c = true) (h : Solid t)
    (hback : ∀ c ∈ back, isSpace c = true) : trim (front ++ t ++ back) = t := by
  rw [trim, List.append_assoc, trimStart_append hfront, trimStart_of_solid h,
    trimEnd_of_solid h hback]

theorem trim_of_solid {t : Text} (h : Solid t) : trim t = t := by
  have hpad : trim ([] ++ t ++ []) = t := trim_pad nofun h nofun
  rw [List.nil_append, List.append_nil] at hpad
  exact hpad

theorem trim_of_forall_not {t : Text} (h : ∀ c ∈ t, isSpace c = false) : t.trim = t := by
  by_cases hnil : t = []
  · rw [hnil]
    rfl
  · exact trim_of_solid (.of_forall hnil h)

theorem trim_cons_blank {t : Text} (h : Solid t) : trim (' ' :: t) = t := by
  have hfront : ∀ c ∈ [' '], isSpace c = true := by simp [isSpace]
  have hpad : trim ([' '] ++ t ++ []) = t := trim_pad hfront h nofun
  rw [List.append_nil] at hpad
  exact hpad

theorem trim_concat_blank {t : Text} (h : Solid t) : trim (t ++ [' ']) = t := by
  have hfront : ∀ c ∈ ([] : Text), isSpace c = true := nofun
  exact trim_pad hfront h (by simp [isSpace])

def leading (t : Text) : Text := t.takeWhile isSpace

/-- The white space at the end of a text, unless there is nothing else in it. -/
def trailing (t : Text) : Text := (t.trimStart.reverse.takeWhile isSpace).reverse

theorem isSpace_of_mem_leading {t : Text} {c : Char} (h : c ∈ t.leading) : isSpace c = true :=
  List.mem_takeWhile_imp h

theorem isSpace_of_mem_trailing {t : Text} {c : Char} (h : c ∈ t.trailing) : isSpace c = true :=
  List.mem_takeWhile_imp (List.mem_reverse.1 h)

theorem trim_append_trailing (t : Text) : t.trim ++ t.trailing = t.trimStart := by
  rw [trim, trimEnd, trailing, ← List.reverse_append, List.takeWhile_append_dropWhile,
    List.reverse_reverse]

/-- Trimming divides a text in three. -/
theorem leading_append_trim_append_trailing (t : Text) :
    t.leading ++ t.trim ++ t.trailing = t := by
  rw [List.append_assoc, trim_append_trailing]
  exact List.takeWhile_append_dropWhile

theorem solid_trim {t : Text} (h : t.trim ≠ []) : Solid t.trim where
  head := by
    obtain ⟨c, rest, hc⟩ := List.exists_cons_of_ne_nil h
    have hstart : t.dropWhile isSpace = c :: (rest ++ t.trailing) := by
      rw [← List.cons_append, ← hc, trim_append_trailing]
      rfl
    have hhead := List.head?_dropWhile_not isSpace t
    rw [hstart] at hhead
    exact ⟨c, rest, hc, hhead⟩
  last := by
    have hlast := List.head?_dropWhile_not isSpace t.trimStart.reverse
    cases hrest : t.trimStart.reverse.dropWhile isSpace with
    | nil => exact absurd (congrArg List.reverse hrest) h
    | cons c rest =>
      rw [hrest] at hlast
      exact ⟨rest.reverse, c, (congrArg List.reverse hrest).trans List.reverse_cons, hlast⟩

theorem trim_of_forall {t : Text} (h : ∀ c ∈ t, isSpace c = true) : t.trim = [] := by
  by_contra hne
  obtain ⟨c, rest, hc, hspace⟩ := (solid_trim hne).head
  have hmem : c ∈ t := by
    rw [← leading_append_trim_append_trailing t, hc]
    simp
  exact nomatch hspace.symm.trans (h c hmem)

/-- Trimming leaves nothing of white space only. -/
theorem forall_of_trim {t : Text} (h : t.trim = []) : ∀ c ∈ t, isSpace c = true := by
  intro c hc
  rw [← leading_append_trim_append_trailing t, h, List.append_nil] at hc
  rcases List.mem_append.1 hc with hc | hc
  · exact isSpace_of_mem_leading hc
  · exact isSpace_of_mem_trailing hc

theorem trim_trim (t : Text) : t.trim.trim = t.trim := by
  by_cases h : t.trim = []
  · rw [h]
    rfl
  · exact trim_of_solid (solid_trim h)

/-- Trimming takes off exactly the white space around a trimmed text. -/
theorem trim_pad_of_trim {front t back : Text} (hfront : ∀ c ∈ front, isSpace c = true)
    (ht : t.trim = t) (hback : ∀ c ∈ back, isSpace c = true) : trim (front ++ t ++ back) = t := by
  by_cases hnil : t = []
  · rw [hnil, List.append_nil]
    exact trim_of_forall fun c hc => (List.mem_append.1 hc).elim (hfront c) (hback c)
  · refine trim_pad hfront ?_ hback
    rw [← ht]
    exact solid_trim (by rwa [ht])

/-- White space at the end does not matter to trimming. -/
theorem trim_append {t back : Text} (hback : ∀ c ∈ back, isSpace c = true) :
    trim (t ++ back) = trim t := by
  have htrailing : ∀ c ∈ t.trailing ++ back, isSpace c = true := by
    intro c hc
    rcases List.mem_append.1 hc with hc | hc
    · exact isSpace_of_mem_trailing hc
    · exact hback c hc
  have hsplit : t ++ back = t.leading ++ t.trim ++ (t.trailing ++ back) := by
    rw [← List.append_assoc, leading_append_trim_append_trailing]
  by_cases hnil : t.trim = []
  · rw [hsplit, hnil, List.append_nil]
    apply trim_of_forall
    intro c hc
    rcases List.mem_append.1 hc with hc | hc
    · exact isSpace_of_mem_leading hc
    · exact htrailing c hc
  · rw [hsplit]
    exact trim_pad (fun _ => isSpace_of_mem_leading) (solid_trim hnil) htrailing

/-! ### Lines -/

theorem splitOn_unlines (ls : List Text) :
    (unlines ls).splitOn '\n' = ls.flatMap (·.splitOn '\n') ++ [[]] := by
  induction ls with
  | nil => rfl
  | cons l ls ih =>
    have hjoin : unlines (l :: ls) = l ++ '\n' :: unlines ls := by simp [unlines]
    have hsplit : (unlines (l :: ls)).splitOn '\n' =
        l.splitOn '\n' ++ (unlines ls).splitOn '\n' := by
      rw [hjoin]
      exact List.splitOnP_append_cons l (unlines ls) (beq_self_eq_true '\n')
    rw [hsplit, ih, List.flatMap_cons, List.append_assoc]

/-- A text that a line feed ends is divided at its own line feeds as well. -/
theorem lines_unlines_eq (ls : List Text) :
    lines (unlines ls) = (ls.flatMap (·.splitOn '\n')).map dropReturn := by
  simp [lines, splitOn_unlines, List.getLastD_eq_getLast?]

/-- Lines without line feeds are read back, apart from a carriage return at the end of each. -/
theorem lines_unlines {ls : List Text} (h : ∀ l ∈ ls, '\n' ∉ l) :
    lines (unlines ls) = ls.map dropReturn := by
  have hlines : ls.flatMap (·.splitOn '\n') = ls := by
    rw [List.flatMap_congr fun l hl => List.splitOn_eq_singleton (h l hl)]
    simp
  rw [lines_unlines_eq, hlines]

theorem lines_of_not_mem {t : Text} (hne : t ≠ []) (h : '\n' ∉ t) : lines t = [t] := by
  have hlast : [t].getLastD [] = t := rfl
  rw [lines, List.splitOn_eq_singleton h, hlast, if_neg hne]
  rfl

theorem dropReturn_of_not_mem {t : Text} (h : '\r' ∉ t) : dropReturn t = t := by
  refine if_neg fun hlast => h ?_
  exact List.mem_of_getLast? hlast

theorem dropReturn_append (front : Text) {back : Text} (h : back ≠ []) :
    dropReturn (front ++ back) = front ++ dropReturn back := by
  have hlast : (front ++ back).getLast? = back.getLast? := by
    rw [List.getLast?_append, List.getLast?_eq_some_getLast h]
    rfl
  rw [dropReturn, dropReturn, hlast]
  split
  · exact List.dropLast_append_of_ne_nil h
  · rfl

/-! ### Splitting -/

theorem splitAtFirst_append {stop : Char → Bool} {front : Text} {c : Char}
    (hfront : ∀ d ∈ front, stop d = false) (hc : stop c = true) (rest : Text) :
    splitAtFirst stop (front ++ c :: rest) = some (front, rest) := by
  induction front with
  | nil => rw [List.nil_append, splitAtFirst, if_pos hc]
  | cons d front ih =>
    have hd : ¬ stop d = true := by
      rw [hfront d List.mem_cons_self]
      exact Bool.false_ne_true
    rw [List.cons_append, splitAtFirst, if_neg hd,
      ih fun e he => hfront e (List.mem_cons_of_mem d he)]
    rfl

theorem splitAtFirst_eq_none {stop : Char → Bool} {t : Text} (h : ∀ d ∈ t, stop d = false) :
    splitAtFirst stop t = none := by
  induction t with
  | nil => rfl
  | cons d t ih =>
    have hd : ¬ stop d = true := by
      rw [h d List.mem_cons_self]
      exact Bool.false_ne_true
    rw [splitAtFirst, if_neg hd, ih fun e he => h e (List.mem_cons_of_mem d he)]
    rfl

/-- A text is cut at the first of the characters that end its front. -/
theorem splitAtFirst_eq_some {stop : Char → Bool} {t front back : Text}
    (h : splitAtFirst stop t = some (front, back)) :
    ∃ c, t = front ++ c :: back ∧ stop c = true ∧ ∀ d ∈ front, stop d = false := by
  induction t generalizing front with
  | nil => exact nomatch h
  | cons d t ih =>
    rw [splitAtFirst] at h
    split at h
    · rename_i hd
      obtain ⟨rfl, rfl⟩ := Prod.mk.inj (Option.some.inj h)
      exact ⟨d, rfl, hd, nofun⟩
    · rename_i hd
      obtain ⟨⟨front, back⟩, hrest, heq⟩ := Option.map_eq_some_iff.1 h
      obtain ⟨rfl, rfl⟩ := Prod.mk.inj heq
      obtain ⟨c, rfl, hc, hfront⟩ := ih hrest
      exact ⟨c, rfl, hc, List.forall_mem_cons.2 ⟨Bool.eq_false_iff.2 hd, hfront⟩⟩

/-- The parts of a text do not have the character it is split at. -/
theorem not_mem_of_mem_splitOn {c : Char} {t part : Text} (h : part ∈ t.splitOn c) : c ∉ part := by
  induction t generalizing part with
  | nil =>
    obtain rfl : part = [] := List.mem_singleton.1 h
    exact List.not_mem_nil
  | cons d t ih =>
    rw [List.splitOn, List.splitOnP_cons_eq_if_modifyHead] at h
    split at h
    · rcases List.mem_cons.1 h with rfl | h
      · exact List.not_mem_nil
      · exact ih h
    · rename_i hd
      obtain ⟨first, more, hparts⟩ := List.exists_cons_of_ne_nil (List.splitOn_ne_nil c t)
      rw [← List.splitOn, hparts, List.modifyHead_cons] at h
      rcases List.mem_cons.1 h with rfl | h
      · rw [List.mem_cons, not_or]
        refine ⟨fun hc => hd (beq_iff_eq.2 hc.symm), ?_⟩
        exact ih (by rw [hparts]; exact List.mem_cons_self)
      · exact ih (by rw [hparts]; exact List.mem_cons_of_mem first h)

/-- What is in a joined list is in the separator or in one of the lists. -/
theorem mem_intercalate {α : Type} {sep : List α} {lists : List (List α)} {x : α}
    (h : x ∈ sep.intercalate lists) : x ∈ sep ∨ ∃ l ∈ lists, x ∈ l := by
  induction lists with
  | nil => exact nomatch h
  | cons l lists ih =>
    by_cases hnil : lists = []
    · rw [hnil, List.intercalate_singleton] at h
      exact .inr ⟨l, List.mem_cons_self, h⟩
    · rw [List.intercalate_cons_of_ne_nil hnil, List.mem_append, List.mem_append] at h
      rcases h with (h | h) | h
      · exact .inr ⟨l, List.mem_cons_self, h⟩
      · exact .inl h
      · rcases ih h with h | ⟨l', hl', h⟩
        · exact .inl h
        · exact .inr ⟨l', List.mem_cons_of_mem l hl', h⟩

end NovelScript.Text
