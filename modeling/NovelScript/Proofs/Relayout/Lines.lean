import NovelScript.Proofs.Source.Lines

/-!
Edits of the layout of source text: lines without text are inserted, white space at the ends of
lines is changed, and comments are put behind lines. The physical lines of a text stand between its
line feeds. An edit leaves what is read of every line as it is and takes its number to a new one
(`Edit.numberLines`), and so do any number of edits (`Edits.lines`).
-/

namespace NovelScript.Source

/-! ### The end of a line -/

/-- Where a scan for comments is behind a text. In a comment it is nowhere. -/
def scan : Quoting → Text → Option Quoting
  | q, [] => some q
  | q, c :: rest => if q = .outside ∧ c = ';' then none else scan (q.pass c) rest

/-- Behind this line, a semicolon begins a comment or stands in one. -/
def TakesComment (line : Text) : Prop :=
  scan .outside line = some .outside ∨ scan .outside line = none

instance (line : Text) : Decidable (TakesComment line) :=
  inferInstanceAs (Decidable (_ ∨ _))

/-- Cutting a comment off goes on where the scan is behind the front of a text. -/
theorem cutComment_append (q : Quoting) (t rest : Text) :
    cutComment q (t ++ rest) =
      match scan q t with
      | some q' => t ++ cutComment q' rest
      | none => cutComment q t := by
  induction t generalizing q with
  | nil => rfl
  | cons c t ih =>
    rw [List.cons_append, cutComment, cutComment, scan]
    split
    · rfl
    · rw [ih]
      cases scan (q.pass c) t with
      | some q' => rfl
      | none => rfl

theorem passes_of_scan {q q' : Quoting} {t : Text} (h : scan q t = some q') : Passes q t q' := by
  intro rest
  rw [cutComment_append, h]

/-- What follows a comment sign belongs to the comment. -/
theorem stripComment_of_scan {t : Text} (h : scan .outside t = none) (rest : Text) :
    stripComment (t ++ rest) = stripComment t := by
  rw [stripComment, cutComment_append, h, stripComment]

theorem textOf_pad {before after : Text} (hbefore : ∀ c ∈ before, isSpace c = true)
    (hafter : ∀ c ∈ after, isSpace c = true) (t : Text) :
    textOf (before ++ t ++ after) = textOf t := by
  have hfront : textOf (before ++ (t ++ after)) = textOf (t ++ after) := by
    have hpasses : Passes .outside before .outside :=
      .plain fun c hc => inert_of_isSpace (hbefore c hc)
    rw [textOf, stripComment, hpasses, Text.trim, Text.trimStart_append hbefore]
    rfl
  have hback : ';' ∉ after := fun h => absurd (hafter _ h) (by decide)
  rw [List.append_assoc, hfront, textOf, textOf]
  -- the white space behind is part of the comment, or no comment begins in it
  cases hscan : scan .outside t with
  | none => rw [stripComment_of_scan hscan]
  | some q =>
    have hpasses : Passes .outside t q := passes_of_scan hscan
    rw [hpasses.stripComment_eq, stripComment, hpasses, cutComment_of_not_mem hback,
      Text.trim_append hafter]

theorem textOf_trim (line : Text) : textOf line.trim = textOf line := by
  have hpad : textOf (line.leading ++ line.trim ++ line.trailing) = textOf line.trim :=
    textOf_pad (fun _ => Text.isSpace_of_mem_leading) (fun _ => Text.isSpace_of_mem_trailing) _
  rw [← hpad, Text.leading_append_trim_append_trailing]

theorem TakesComment.textOf_eq {line : Text} (h : TakesComment line) (comment : Text) :
    textOf (line ++ ';' :: comment) = textOf line := by
  rw [textOf, textOf]
  rcases h with h | h
  · have hpasses : Passes .outside line .outside := passes_of_scan h
    rw [hpasses.stripComment_comment, hpasses.stripComment_eq]
  · rw [stripComment_of_scan h]

/-! ### Edits -/

/-- A line without text: it has white space only, and may have a comment. -/
def Idle (line : Text) : Prop :=
  ∃ space, (∀ c ∈ space, isSpace c = true) ∧
    (line = space ∨ ∃ comment, line = space ++ ';' :: comment)

/-- The number that a line gets when another one is inserted behind the first `k` lines. -/
def shift (k number : Nat) : Nat := if number ≤ k then number else number + 1

/-- An edit of the layout of physical lines, with the new numbers of the lines: a line without text
is inserted, white space at the ends of a line is changed, or a comment is put behind a line. The
carriage return of a line that ends in one is white space at its end. -/
inductive Edit : (Nat → Nat) → List Text → List Text → Prop
  | insert (front back : List Text) {line : Text} (h : Idle line) :
      Edit (shift front.length) (front ++ back) (front ++ line :: back)
  | pad (front back : List Text) {line line' : Text} (h : line'.trim = line.trim) :
      Edit id (front ++ line :: back) (front ++ line' :: back)
  | comment (front back : List Text) {line : Text} (h : TakesComment line) (comment : Text) :
      Edit id (front ++ line :: back) (front ++ (line ++ ';' :: comment) :: back)

inductive Edits : (Nat → Nat) → List Text → List Text → Prop
  | none (ls : List Text) : Edits id ls ls
  | snoc {m m' : Nat → Nat} {ls ls' ls'' : List Text} (h : Edits m ls ls')
      (hedit : Edit m' ls' ls'') : Edits (m' ∘ m) ls ls''

theorem Idle.textOf_eq {line : Text} (h : Idle line) : textOf line = [] := by
  obtain ⟨space, hspace, hline⟩ := h
  have hpasses : Passes .outside space .outside :=
    .plain fun c hc => inert_of_isSpace (hspace c hc)
  rcases hline with rfl | ⟨comment, rfl⟩
  · rw [textOf, hpasses.stripComment_eq, Text.trim_of_forall hspace]
  · rw [textOf, hpasses.stripComment_comment, Text.trim_of_forall hspace]

theorem numberLines_succ {m : Nat → Nat} {n : Nat} (hm : ∀ k, n ≤ k → m k = k + 1)
    (ls : List Text) : numberLines (n + 1) ls = (numberLines n ls).map (Line.moved m) := by
  induction ls generalizing n with
  | nil => rfl
  | cons l ls ih =>
    have hrest := ih fun k hk => hm k (Nat.le_of_succ_le hk)
    rw [numberLines_cons, numberLines_cons, hrest]
    split
    · rfl
    · rw [List.map_cons, Line.moved, hm n (Nat.le_refl n)]

/-- The lines in front of an inserted one keep their numbers, those behind it move on. -/
theorem numberLines_insert {m : Nat → Nat} {line : Text} (hline : textOf line = [])
    (front back : List Text) {n : Nat} (hfront : ∀ k, n ≤ k → k < n + front.length → m k = k)
    (hback : ∀ k, n + front.length ≤ k → m k = k + 1) :
    numberLines n (front ++ line :: back) = (numberLines n (front ++ back)).map (Line.moved m) := by
  induction front generalizing n with
  | nil =>
    rw [List.nil_append, List.nil_append, numberLines_cons, if_pos hline]
    exact numberLines_succ hback back
  | cons l front ih =>
    rw [List.length_cons] at hfront hback
    have hrest : numberLines (n + 1) (front ++ line :: back) =
        (numberLines (n + 1) (front ++ back)).map (Line.moved m) :=
      ih (fun k hk hlt => hfront k (by omega) (by omega)) fun k hk => hback k (by omega)
    rw [List.cons_append, List.cons_append, numberLines_cons, numberLines_cons, hrest]
    split
    · rfl
    · rw [List.map_cons, Line.moved, hfront n (Nat.le_refl n) (by omega)]

theorem numberLines_replace {line line' : Text} (h : textOf line' = textOf line)
    (front back : List Text) (n : Nat) :
    numberLines n (front ++ line' :: back) =
      (numberLines n (front ++ line :: back)).map (Line.moved id) := by
  have hmoved : Line.moved id = id := rfl
  rw [hmoved, List.map_id]
  apply numberLines_congr
  rw [List.map_append, List.map_append, List.map_cons, List.map_cons, h]

/-- After an edit, the lines that count are the same, with their new numbers. -/
theorem Edit.numberLines {m : Nat → Nat} {ls ls' : List Text} (h : Edit m ls ls') :
    numberLines 1 ls' = (numberLines 1 ls).map (Line.moved m) := by
  cases h with
  | insert front back hidle =>
    refine numberLines_insert hidle.textOf_eq front back (fun k _ hlt => ?_) fun k hle => ?_
    · exact if_pos (by omega)
    · exact if_neg (by omega)
  | pad front back htrim =>
    refine numberLines_replace ?_ front back 1
    rw [← textOf_trim, htrim, textOf_trim]
  | comment front back h comment => exact numberLines_replace (h.textOf_eq comment) front back 1

theorem Edits.numberLines {m : Nat → Nat} {ls ls' : List Text} (h : Edits m ls ls') :
    numberLines 1 ls' = (numberLines 1 ls).map (Line.moved m) := by
  induction h with
  | none ls => exact (List.map_id _).symm
  | snoc h hedit ih =>
    rw [hedit.numberLines, ih, List.map_map]
    rfl

/-- After edits, the lines that count are the same, with their new numbers. -/
theorem Edits.lines {m : Nat → Nat} {source source' : Text}
    (h : Edits m (source.splitOn '\n') (source'.splitOn '\n')) :
    lines source' = (lines source).map (Line.moved m) := by
  rw [lines_eq, lines_eq, h.numberLines]

/-- A text has this line: its physical line of this number is read as this text. -/
def HasLine (source : Text) (l : Line) : Prop :=
  0 < l.number ∧ ∃ t, (source.splitOn '\n')[l.number - 1]? = some t ∧ textOf t = l.text

theorem exists_of_mem_numberLines {n : Nat} {ls : List Text} {l : Line}
    (h : l ∈ numberLines n ls) :
    n ≤ l.number ∧ ∃ t, ls[l.number - n]? = some t ∧ textOf t = l.text := by
  induction ls generalizing n with
  | nil => cases h
  | cons t ls ih =>
    have hbehind (h : l ∈ numberLines (n + 1) ls) :
        n ≤ l.number ∧ ∃ t', (t :: ls)[l.number - n]? = some t' ∧ textOf t' = l.text := by
      obtain ⟨hle, t', ht', htext⟩ := ih h
      have hindex : l.number - n = l.number - (n + 1) + 1 := by omega
      exact ⟨Nat.le_of_succ_le hle, t', by rw [hindex, List.getElem?_cons_succ, ht'], htext⟩
    rw [numberLines_cons] at h
    split at h
    · exact hbehind h
    · rcases List.mem_cons.1 h with rfl | h
      · exact ⟨Nat.le_refl n, t, by rw [Nat.sub_self, List.getElem?_cons_zero], rfl⟩
      · exact hbehind h

theorem hasLine_of_mem {source : Text} {l : Line} (h : l ∈ lines source) : HasLine source l := by
  rw [lines_eq] at h
  exact exists_of_mem_numberLines h

theorem Edits.zero {m : Nat → Nat} {ls ls' : List Text} (h : Edits m ls ls') : m 0 = 0 := by
  induction h with
  | none ls => rfl
  | snoc h hedit ih =>
    rw [Function.comp_apply, ih]
    cases hedit with
    | insert front back hidle => exact if_pos (Nat.zero_le _)
    | pad | comment => rfl

end NovelScript.Source
