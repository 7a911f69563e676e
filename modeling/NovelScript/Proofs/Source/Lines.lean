import NovelScript.Proofs.Text
import NovelScript.Source.Line

/-!
What a source line is read as. A scan *passes* a text if it finds no comment sign in it; which texts
it passes follows piece by piece (`Passes.append`). Of a line that was written between white space
and a comment exactly the text between them is left (`clean_padded`, `clean_commented`).
-/

namespace NovelScript

def Line.moved (m : Nat → Nat) (l : Line) : Line := { l with number := m l.number }

namespace Source

/-! ### Comments -/

/-- A scan for comments goes through a text from one state to another without finding a comment. -/
def Passes (q : Quoting) (t : Text) (q' : Quoting) : Prop :=
  ∀ rest, cutComment q (t ++ rest) = t ++ cutComment q' rest

theorem Passes.nil (q : Quoting) : Passes q [] q := fun _ => rfl

theorem Passes.append {q q' q'' : Quoting} {s t : Text} (hs : Passes q s q')
    (ht : Passes q' t q'') : Passes q (s ++ t) q'' := by
  intro rest
  rw [List.append_assoc, hs, ht, List.append_assoc]

theorem Passes.cons {q q' : Quoting} {c : Char} {t : Text} (hc : q = .outside → c ≠ ';')
    (ht : Passes (q.pass c) t q') : Passes q (c :: t) q' := by
  intro rest
  have hkeep : ¬ (q = .outside ∧ c = ';') := fun h => hc h.1 h.2
  rw [List.cons_append, cutComment, if_neg hkeep, ht, List.cons_append]

/-- A character that neither begins a comment nor opens a literal. -/
@[mk_iff] structure Inert (c : Char) : Prop where
  ne_semicolon : c ≠ ';'
  ne_quote : c ≠ '"'
  ne_apostrophe : c ≠ '\x27'

theorem inert_of_isSpace {c : Char} (h : isSpace c = true) : Inert c := by
  constructor
  all_goals
    rintro rfl
    exact nomatch h

theorem inert_of_isBlank {c : Char} (h : isBlank c = true) : Inert c :=
  inert_of_isSpace (isSpace_of_isBlank h)

/-- Outside of quotes, a text of inert characters is passed. -/
theorem Passes.plain {t : Text} (h : ∀ c ∈ t, Inert c) : Passes .outside t .outside := by
  induction t with
  | nil => exact .nil _
  | cons c t ih =>
    have hc := h c List.mem_cons_self
    have hpass : Quoting.outside.pass c = .outside :=
      if_neg (not_or.2 ⟨hc.ne_quote, hc.ne_apostrophe⟩)
    refine .cons (fun _ => hc.ne_semicolon) ?_
    rw [hpass]
    exact ih fun d hd => h d (List.mem_cons_of_mem c hd)

/-- Inside of quotes, a text without this quote and without backslashes is passed. -/
theorem Passes.quoted {quote : Char} {t : Text} (h : ∀ c ∈ t, c ≠ '\\' ∧ c ≠ quote) :
    Passes (.inside quote) t (.inside quote) := by
  induction t with
  | nil => exact .nil _
  | cons c t ih =>
    obtain ⟨hbackslash, hquote⟩ := h c List.mem_cons_self
    have hpass : (Quoting.inside quote).pass c = .inside quote := by
      rw [Quoting.pass, if_neg hbackslash, if_neg hquote]
    refine .cons nofun ?_
    rw [hpass]
    exact ih fun d hd => h d (List.mem_cons_of_mem c hd)

theorem Passes.escaped (quote c : Char) : Passes (.inside quote) ['\\', c] (.inside quote) := by
  have hpass : (Quoting.inside quote).pass '\\' = .escaping quote := by
    rw [Quoting.pass, if_pos rfl]
  refine .cons nofun ?_
  rw [hpass]
  exact .cons nofun (.nil _)

theorem cutComment_of_not_mem {t : Text} (h : ';' ∉ t) (q : Quoting) : cutComment q t = t := by
  induction t generalizing q with
  | nil => rfl
  | cons c t ih =>
    rw [List.mem_cons, not_or] at h
    have hkeep : ¬ (q = .outside ∧ c = ';') := fun hc => h.1 hc.2.symm
    rw [cutComment, if_neg hkeep, ih h.2]

theorem Passes.stripComment_eq {q : Quoting} {t : Text} (h : Passes .outside t q) :
    stripComment t = t := by
  have hend := h []
  rw [List.append_nil] at hend
  rw [stripComment, hend, cutComment, List.append_nil]

theorem Passes.stripComment_comment {t : Text} (h : Passes .outside t .outside) (comment : Text) :
    stripComment (t ++ ';' :: comment) = t := by
  rw [stripComment, h, cutComment, if_pos ⟨rfl, rfl⟩, List.append_nil]

/-- A text without quotes in front of which a scan finds no comment is inert. -/
theorem inert_of_stripComment {front rest kept : Text}
    (hquote : ∀ c ∈ front, c ≠ '"' ∧ c ≠ '\x27')
    (h : stripComment (front ++ rest) = front ++ kept) : ∀ c ∈ front, Inert c := by
  induction front with
  | nil => exact nofun
  | cons c front ih =>
    obtain ⟨hq, ha⟩ := hquote c List.mem_cons_self
    have hpass : Quoting.outside.pass c = .outside := if_neg (not_or.2 ⟨hq, ha⟩)
    rw [stripComment, List.cons_append, List.cons_append, cutComment] at h
    split at h
    · exact nomatch h
    · rename_i hkeep
      rw [hpass] at h
      rw [List.forall_mem_cons]
      refine ⟨⟨fun hc => hkeep ⟨rfl, hc⟩, hq, ha⟩, ?_⟩
      exact ih (fun d hd => hquote d (List.mem_cons_of_mem c hd)) (List.cons.inj h).2

/-- Behind inert text it does not matter which text that was. -/
theorem stripComment_replace {front front' rest kept : Text} (hfront : ∀ c ∈ front, Inert c)
    (hfront' : ∀ c ∈ front', Inert c) (h : stripComment (front ++ rest) = front ++ kept) :
    stripComment (front' ++ rest) = front' ++ kept := by
  rw [stripComment, Passes.plain hfront, List.append_cancel_left_eq] at h
  rw [stripComment, Passes.plain hfront', h]

theorem prefix_cutComment (q : Quoting) (t : Text) : cutComment q t <+: t := by
  induction t generalizing q with
  | nil => exact List.prefix_refl _
  | cons c t ih =>
    rw [cutComment]
    split
    · exact List.nil_prefix
    · exact (List.prefix_cons_inj c).2 (ih _)

/-- A line is what is left of it without its comment, and the comment. -/
theorem stripComment_append_drop (line : Text) :
    stripComment line ++ line.drop (stripComment line).length = line :=
  List.prefix_iff_eq_append.1 (prefix_cutComment .outside line)

theorem cutComment_concat (q : Quoting) (t : Text) (c : Char) :
    cutComment q (t ++ [c]) = cutComment q t ∨ cutComment q (t ++ [c]) = cutComment q t ++ [c] := by
  induction t generalizing q with
  | nil =>
    simp only [List.nil_append, cutComment]
    split
    · exact .inl rfl
    · exact .inr rfl
  | cons d t ih =>
    rw [List.cons_append, cutComment, cutComment]
    split
    · exact .inl rfl
    · rcases ih (q.pass d) with h | h
      · exact .inl (by rw [h])
      · exact .inr (by rw [h, List.cons_append])

/-! ### Lines -/

def textOf (line : Text) : Text := (stripComment line).trim

theorem numberLines_cons (number : Nat) (l : Text) (ls : List Text) :
    numberLines number (l :: ls) =
      if textOf l = [] then numberLines (number + 1) ls
      else ⟨number, textOf l⟩ :: numberLines (number + 1) ls := rfl

/-- What the assembler reads of a line that a line feed ends. -/
def clean (line : Text) : Text := (stripComment line.dropReturn).trim

theorem lines_unlines {ls : List Text} (h : ∀ l ∈ ls, '\n' ∉ l) :
    lines (Text.unlines ls) = numberLines 1 (ls.map Text.dropReturn) := by
  rw [lines, Text.lines_unlines h]

theorem numberLines_kept {l : Text} (h : clean l ≠ []) (n : Nat) (ls : List Text) :
    numberLines n ((l :: ls).map Text.dropReturn) =
      ⟨n, clean l⟩ :: numberLines (n + 1) (ls.map Text.dropReturn) := if_neg h

theorem numberLines_dropped {l : Text} (h : clean l = []) (n : Nat) (ls : List Text) :
    numberLines n ((l :: ls).map Text.dropReturn) =
      numberLines (n + 1) (ls.map Text.dropReturn) := if_pos h

/-- What the assembler reads of a text that a line feed ends, line feeds inside of it dividing it.
-/
def cleanParts (t : Text) : List Text := (t.splitOn '\n').map clean

theorem cleanParts_eq {t : Text} (h : '\n' ∉ t) : cleanParts t = [clean t] := by
  rw [cleanParts, List.splitOn_eq_singleton h, List.map_singleton]

theorem numberLines_congr {ls ls' : List Text} (h : ls.map textOf = ls'.map textOf) (n : Nat) :
    numberLines n ls = numberLines n ls' := by
  induction ls generalizing ls' n with
  | nil =>
    rw [List.map_nil, eq_comm, List.map_eq_nil_iff] at h
    rw [h]
  | cons l ls ih =>
    cases ls' with
    | nil => simp at h
    | cons l' ls' =>
      obtain ⟨hl, hls⟩ := List.cons.inj h
      rw [numberLines_cons, numberLines_cons, hl, ih hls]

/-- The assembler tells texts apart by what it reads of their lines only. -/
theorem lines_congr {ls ls' : List Text} (h : ls.flatMap cleanParts = ls'.flatMap cleanParts) :
    lines (Text.unlines ls) = lines (Text.unlines ls') := by
  have hparts (ls : List Text) :
      ((ls.flatMap (·.splitOn '\n')).map Text.dropReturn).map textOf = ls.flatMap cleanParts := by
    rw [List.map_map, List.map_flatMap]
    rfl
  rw [lines, lines, Text.lines_unlines_eq, Text.lines_unlines_eq]
  apply numberLines_congr
  rw [hparts, hparts, h]

/-- A carriage return at the end of a line does not matter. -/
theorem clean_eq (line : Text) : clean line = (stripComment line).trim := by
  by_cases hlast : line.getLast? = some '\r'
  · obtain ⟨front, rfl⟩ := List.getLast?_eq_some_iff.1 hlast
    have hspace : ∀ c ∈ ['\r'], isSpace c = true := by simp [isSpace]
    have hreturn : Text.dropReturn (front ++ ['\r']) = front := by
      rw [Text.dropReturn, if_pos hlast, List.dropLast_concat]
    rw [clean, hreturn, stripComment, stripComment]
    rcases cutComment_concat .outside front '\r' with h | h
    · rw [h]
    · rw [h, Text.trim_append hspace]
  · rw [clean, Text.dropReturn, if_neg hlast]

theorem numberLines_concat_nil (n : Nat) (ls : List Text) :
    numberLines n (ls ++ [[]]) = numberLines n ls := by
  induction ls generalizing n with
  | nil => rfl
  | cons l ls ih => simp only [List.cons_append, numberLines, ih]

/-- The lines of a text are told apart by line feeds alone. -/
theorem lines_eq (source : Text) : lines source = numberLines 1 (source.splitOn '\n') := by
  have hne : source.splitOn '\n' ≠ [] := List.splitOn_ne_nil '\n' source
  obtain ⟨front, last, hparts⟩ : ∃ front last, source.splitOn '\n' = front ++ [last] :=
    ⟨_, _, (List.dropLast_concat_getLast hne).symm⟩
  have hfront : numberLines 1 (front.map Text.dropReturn ++ [last]) =
      numberLines 1 (front ++ [last]) := by
    apply numberLines_congr
    rw [List.map_append, List.map_append, List.map_map]
    congr 1
    exact List.map_congr_left fun l _ => clean_eq l
  rw [lines, Text.lines, hparts, List.dropLast_concat, List.getLastD_concat, ← hfront]
  split
  · rename_i hnil
    rw [hnil, List.append_nil, numberLines_concat_nil]
  · rfl

theorem dropReturn_padded (front : Text) {t back : Text} (ht : t.Solid)
    (hback : ∀ c ∈ back, isBlank c = true) :
    Text.dropReturn (front ++ t ++ back) = front ++ t ++ back := by
  by_cases hnil : back = []
  · obtain ⟨rest, c, rfl, hc⟩ := ht.last
    apply if_neg
    rw [hnil, List.append_nil, ← List.append_assoc, List.getLast?_concat, Option.some.injEq]
    rintro rfl
    exact nomatch hc
  · have hreturn : '\r' ∉ back := fun h => nomatch hback _ h
    rw [Text.dropReturn_append _ hnil, Text.dropReturn_of_not_mem hreturn]

/-- Blanks around a line without comment do not matter. -/
theorem clean_padded {line front t back : Text} (hline : line = front ++ t ++ back)
    (hfront : ∀ c ∈ front, isBlank c = true) (ht : t.Solid) (hback : ∀ c ∈ back, isBlank c = true)
    (hstrip : stripComment line = line) : clean line = t := by
  have hreturn : Text.dropReturn line = line := by
    rw [hline, dropReturn_padded front ht hback]
  rw [clean, hreturn, hstrip, hline]
  exact Text.trim_pad (fun c hc => isSpace_of_isBlank (hfront c hc)) ht
    fun c hc => isSpace_of_isBlank (hback c hc)

/-- Blanks around a line and a comment behind it do not matter, whatever the comment says. -/
theorem clean_commented {front t back : Text} (hfront : ∀ c ∈ front, isBlank c = true)
    (ht : t.Solid) (hback : ∀ c ∈ back, isBlank c = true)
    (hpass : Passes .outside (front ++ t ++ back) .outside) (comment : Text) :
    clean (front ++ t ++ back ++ "\t; ".toList ++ comment) = t := by
  have hsplit : front ++ t ++ back ++ "\t; ".toList ++ comment =
      front ++ t ++ (back ++ ['\t']) ++ ';' :: ' ' :: comment := by
    simp
  have hreturn : Text.dropReturn (';' :: ' ' :: comment) =
      ';' :: Text.dropReturn (' ' :: comment) :=
    Text.dropReturn_append [';'] (List.cons_ne_nil _ _)
  have htab : Passes .outside (front ++ t ++ (back ++ ['\t'])) .outside := by
    rw [← List.append_assoc]
    exact hpass.append (.plain (by simp [inert_iff]))
  rw [clean, hsplit, Text.dropReturn_append _ (List.cons_ne_nil _ _), hreturn,
    htab.stripComment_comment]
  apply Text.trim_pad (fun c hc => isSpace_of_isBlank (hfront c hc)) ht
  intro c hc
  rcases List.mem_append.1 hc with hc | hc
  · exact isSpace_of_isBlank (hback c hc)
  · rw [List.mem_singleton.1 hc]
    rfl

/-! ### Assignments -/

/-- A name and a value with an equal sign between them are told apart. -/
theorem splitAssignment_append {name value : Text} (hname : name.Solid) (hequal : '=' ∉ name)
    (hvalue : value.Solid) :
    splitAssignment (name ++ " = ".toList ++ value) = some (name, value) := by
  have hstop : ∀ c ∈ name ++ [' '], decide (c = '=') = false := by
    intro c hc
    rw [decide_eq_false_iff_not]
    rintro rfl
    rcases List.mem_append.1 hc with hc | hc
    · exact hequal hc
    · exact absurd hc (by decide)
  have htext : name ++ " = ".toList ++ value = name ++ [' '] ++ '=' :: ' ' :: value := by
    rw [List.append_assoc, List.append_assoc]
    rfl
  rw [splitAssignment, htext, Text.splitAtFirst_append hstop rfl]
  show some (Text.trim (name ++ [' ']), Text.trim (' ' :: value)) = _
  rw [Text.trim_concat_blank hname, Text.trim_cons_blank hvalue]

end Source

end NovelScript
