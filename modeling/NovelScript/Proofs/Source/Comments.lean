import NovelScript.Proofs.Source.Grammar

/-!
Literals and comments. The scan for comments knows less of a literal than its reader does: it skips
the character behind a backslash, whatever that is, and takes an apostrophe for a quote as well. But
it goes through the items of a literal one by one (`passes_item`), so it leaves the literal where
its reader does (`Spells.passes`). A comment behind an assignment therefore begins where it was put
(`lines_assignment`).
-/

namespace NovelScript.Literal

open Source (Passes)

/-! ### The scan inside of a literal -/

theorem char_ne_of_hexDigit (d : HexDigit) : d.char ≠ '\\' ∧ d.char ≠ '"' := by
  obtain ⟨value, upper⟩ := d
  revert value upper
  decide

theorem passes_item (item : Item) : Passes (.inside '"') item.text (.inside '"') := by
  cases item with
  | plain c hquote hbackslash =>
    apply Passes.quoted
    intro d hd
    rw [List.mem_singleton.1 hd]
    exact ⟨hbackslash, hquote⟩
  | escape e => exact .escaped '"' e.letter
  | hex high low =>
    have hdigits : Passes (.inside '"') [high.char, low.char] (.inside '"') := by
      apply Passes.quoted
      simp only [List.forall_mem_cons]
      exact ⟨char_ne_of_hexDigit high, char_ne_of_hexDigit low, nofun⟩
    exact (Passes.escaped '"' 'x').append hdigits

theorem passes_items (items : List Item) :
    Passes (.inside '"') (items.flatMap Item.text) (.inside '"') := by
  induction items with
  | nil => exact .nil _
  | cons item items ih => exact (passes_item item).append ih

/-- The scan leaves a literal at its closing quote, and no comment begins in the white space behind
it. -/
theorem Spells.passes {text : Text} {items : List Item} (h : Spells text items) :
    Passes .outside text .outside := by
  obtain ⟨space, hspace, rfl⟩ := h
  have hbehind : Passes .outside space .outside :=
    .plain fun c hc => Source.inert_of_isSpace (hspace c hc)
  have hclose : Passes (.inside '"') ('"' :: space) .outside := .cons nofun hbehind
  exact .cons (fun _ => by decide) ((passes_items items).append hclose)

/-- No comment begins inside of a literal that bytes were quoted by. -/
theorem passes_quote (cs : Charset) (bytes : Bytes) :
    Passes .outside (quote cs bytes) .outside := by
  obtain ⟨pieces, hparse, -⟩ := exists_parse_quote cs bytes
  obtain ⟨items, hspells, -⟩ := parse_eq_ok_iff.1 hparse
  exact hspells.passes

/-- A literal that ends in its closing quote begins and ends in quotes. -/
theorem Spells.solid {text : Text} {items : List Item} (h : Spells text items)
    (hlast : text.getLast? = some '"') : text.Solid where
  head := by
    obtain ⟨space, -, rfl⟩ := h
    exact ⟨'"', _, rfl, rfl⟩
  last := by
    obtain ⟨front, hfront⟩ := List.getLast?_eq_some_iff.1 hlast
    exact ⟨front, '"', hfront, rfl⟩

/-! ### Assignments with comments -/

/-- A character that a name may have which is written in front of a literal. -/
structure IsNameChar (c : Char) : Prop extends Source.Inert c where
  ne_equal : c ≠ '='
  not_space : isSpace c = false

/-- Behind an assignment, a comment begins where it was put, and the assignment is told apart into
the name and the literal, whatever is in the literal and in the comment. -/
theorem lines_assignment {name literal comment : Text} {pieces : List Piece} (hname : name ≠ [])
    (hchars : ∀ c ∈ name, IsNameChar c) (hliteral : parse literal = .ok pieces)
    (hlast : literal.getLast? = some '"') (hline : '\n' ∉ literal) (hcomment : '\n' ∉ comment) :
    Source.lines (name ++ " = ".toList ++ literal ++ "\t;".toList ++ comment) =
        [⟨1, name ++ " = ".toList ++ literal⟩] ∧
      Source.splitAssignment (name ++ " = ".toList ++ literal) = some (name, literal) := by
  obtain ⟨items, hspells, -⟩ := parse_eq_ok_iff.1 hliteral
  have hsolid : name.Solid := .of_forall hname fun c hc => (hchars c hc).not_space
  have hvalue : literal.Solid := hspells.solid hlast
  have hequal : '=' ∉ name := fun hc => (hchars _ hc).ne_equal rfl
  refine ⟨?_, Source.splitAssignment_append hsolid hequal hvalue⟩
  have hsource : name ++ " = ".toList ++ literal ++ "\t;".toList ++ comment =
      name ++ " = ".toList ++ literal ++ ['\t'] ++ ';' :: comment := by
    simp
  have hpasses : Passes .outside (name ++ " = ".toList ++ literal ++ ['\t']) .outside := by
    have hfront : Passes .outside name .outside := .plain fun c hc => (hchars c hc).toInert
    have hsign : Passes .outside " = ".toList .outside := .plain (by simp [Source.inert_iff])
    have htab : Passes .outside ['\t'] .outside := .plain (by simp [Source.inert_iff])
    exact ((hfront.append hsign).append hspells.passes).append htab
  have hsingle : '\n' ∉ name ++ " = ".toList ++ literal ++ "\t;".toList ++ comment := by
    have hfeed : '\n' ∉ name := fun hc => nomatch (hchars _ hc).not_space
    simp [hfeed, hline, hcomment]
  have hkept : (name ++ " = ".toList ++ literal).Solid := hsolid.append hvalue _
  have htext : (Source.stripComment (name ++ " = ".toList ++ literal ++ "\t;".toList ++
      comment)).trim = name ++ " = ".toList ++ literal := by
    rw [hsource, hpasses.stripComment_comment, Text.trim_append (by simp [isSpace]),
      Text.trim_of_solid hkept]
  rw [Source.lines, Text.lines_of_not_mem (by simp) hsingle, Source.numberLines, htext,
    if_neg hkept.ne_nil]
  rfl

/-- A literal with quotes, a backslash, semicolons and an equal sign. -/
def crowdedLiteral : Text := "\"; \\\" = ' \\x3b\\\\\"".toList

/-- The comment opens a literal that it does not close. -/
theorem lines_assignment_crowded :
    Source.lines (['a'] ++ " = ".toList ++ crowdedLiteral ++ "\t;".toList ++ "\" = ;".toList) =
        [⟨1, ['a'] ++ " = ".toList ++ crowdedLiteral⟩] ∧
      Source.splitAssignment (['a'] ++ " = ".toList ++ crowdedLiteral) =
        some (['a'], crowdedLiteral) := by
  have hname : ∀ c ∈ ['a'], IsNameChar c := by
    intro c hc
    rw [List.mem_singleton.1 hc]
    exact ⟨⟨by decide, by decide, by decide⟩, by decide, by decide⟩
  have hliteral : parse crowdedLiteral =
      .ok [.text "; \" = ' ".toList, .byte 0x3b, .text ['\\']] := by decide +kernel
  exact lines_assignment (by decide) hname hliteral (by decide +kernel) (by decide +kernel)
    (by decide +kernel)

end NovelScript.Literal
