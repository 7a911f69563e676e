import NovelScript.Proofs.Renaming.Assembly
import NovelScript.Proofs.Source.Numbers

/-!
Renaming does not change what a source text is assembled to. A legal renaming of the names of a
source text is extended to a lawful one of all texts (`Renaming.extend`), for which this is known
step by step; on the source text itself both do the same (`rename_extend`).
-/

namespace NovelScript

/-! ### The names of a source text -/

namespace Source

theorem isName_of_mem_tokenFragments {role role' : Role} {t t' : Text}
    (h : .name role t ∈ tokenFragments role' t') : role.isName t = true := by
  rw [tokenFragments] at h
  split at h
  · rename_i hname
    simp only [List.mem_cons, Fragment.name.injEq, reduceCtorEq, List.not_mem_nil, or_false,
      false_or] at h
    rwa [h.1, h.2]
  · cases List.mem_singleton.1 h

theorem isName_of_mem_textFragments {role : Role} {t text : Text} {place : Place}
    (h : .name role t ∈ textFragments text place) : role.isName t = true := by
  have hplain {u : Text} (hmem : Fragment.name role t ∈ [.plain u]) : role.isName t = true := by
    cases List.mem_singleton.1 hmem
  cases place with
  | header => exact hplain h
  | opening => exact hplain h
  | strings =>
    rw [textFragments, definitionFragments] at h
    split at h
    · rcases List.mem_append.1 h with h | h
      · exact isName_of_mem_tokenFragments h
      · exact hplain h
    · exact hplain h
  | between count =>
    rw [textFragments, headerFragments] at h
    split at h
    · rcases List.mem_append.1 h with h | h
      · exact isName_of_mem_tokenFragments (List.mem_of_ne_of_mem (by simp) h)
      · exact hplain h
    · exact hplain h
  | inside function =>
    rw [textFragments, statementFragments] at h
    split at h
    · rcases List.mem_append.1 h with h | h
      · exact isName_of_mem_tokenFragments h
      · exact hplain h
    · simp only at h
      split at h
      · rcases Text.mem_intercalate (List.mem_of_ne_of_mem (by simp) h) with h | ⟨l, hl, h⟩
        · exact hplain h
        · obtain ⟨token, -, rfl⟩ := List.mem_map.1 hl
          exact isName_of_mem_tokenFragments h
      · exact hplain h

theorem isName_of_mem_fragments {source : Text} {role : Role} {t : Text}
    (h : .name role t ∈ fragments source) : role.isName t = true := by
  rcases Text.mem_intercalate h with h | ⟨l, hl, h⟩
  · exact nomatch List.mem_singleton.1 h
  · obtain ⟨p, -, rfl⟩ := List.mem_map.1 hl
    rcases List.mem_append.1 h with h | h
    · exact isName_of_mem_textFragments ((List.mem_cons.1 h).resolve_left nofun)
    · simp at h

theorem mem_names_iff {source : Text} {role : Role} {t : Text} :
    (role, t) ∈ names source ↔ .name role t ∈ fragments source := by
  rw [names, List.mem_filterMap]
  constructor
  · rintro ⟨f, hf, hname⟩
    cases f with
    | plain t => exact nomatch hname
    | name role' t' =>
      obtain ⟨rfl, rfl⟩ := Prod.mk.inj (Option.some.inj hname)
      exact hf
  · exact fun hf => ⟨_, hf, rfl⟩

end Source

/-! ### From a source text to all texts -/

namespace Renaming

/-- A renaming of the names of a source text, extended to all texts. A name that the source text
does not have gets one that is longer than the whole renamed text. -/
def extend (ρ : Renaming) (source : Text) : Renaming := fun role t =>
  if role.isName t = false then t
  else if (role, t) ∈ Source.names source then ρ role t
  else List.replicate ((ρ.rename source).length + Encodable.encode (t.map Char.toNat) + 1) 'x'

variable {ρ : Renaming} {source : Text} {role : Role} {t : Text}

theorem length_le_rename (h : (role, t) ∈ Source.names source) :
    (ρ role t).length ≤ (ρ.rename source).length := by
  obtain ⟨front, back, hfragments⟩ := List.append_of_mem (Source.mem_names_iff.1 h)
  rw [rename, hfragments, write_append, write_cons, List.length_append, List.length_append]
  simp only [Fragment.write]
  omega

theorem clean_replicate (role : Role) (n : Nat) : role.Clean (List.replicate (n + 1) 'x') where
  isName := by
    have hnumber : Number.isNumber (List.replicate (n + 1) 'x') = false :=
      Number.isNumber_eq_false (by decide) (by decide)
    have hquote : (List.replicate (n + 1) 'x').any isQuote = false := by
      rw [List.any_eq_false]
      intro c hc
      rw [List.eq_of_mem_replicate hc]
      decide
    cases role <;> simp [Role.isName, hnumber, hquote]
  reserved := by
    rw [List.any_eq_false]
    intro c hc
    rw [List.eq_of_mem_replicate hc]
    decide

theorem extend_of_mem (hname : role.isName t = true) (h : (role, t) ∈ Source.names source) :
    ρ.extend source role t = ρ role t := by
  rw [extend, if_neg (ne_false_of_eq_true hname), if_pos h]

theorem extend_of_not_mem (hname : role.isName t = true) (h : (role, t) ∉ Source.names source) :
    ρ.extend source role t = List.replicate
      ((ρ.rename source).length + Encodable.encode (t.map Char.toNat) + 1) 'x' := by
  rw [extend, if_neg (ne_false_of_eq_true hname), if_neg h]

/-- The names of the source text are told from others by the lengths of their new names. -/
theorem mem_names_iff_length (hname : role.isName t = true) : (role, t) ∈ Source.names source ↔
    (ρ.extend source role t).length ≤ (ρ.rename source).length := by
  constructor
  · intro h
    rw [extend_of_mem hname h]
    exact length_le_rename h
  · intro hlength
    by_contra h
    rw [extend_of_not_mem hname h, List.length_replicate] at hlength
    omega

theorem Legal.clean_extend (h : ρ.Legal source) (hname : role.isName t = true) :
    role.Clean (ρ.extend source role t) := by
  by_cases hmem : (role, t) ∈ Source.names source
  · rw [extend_of_mem hname hmem]
    exact h.clean _ hmem
  · rw [extend_of_not_mem hname hmem]
    exact clean_replicate role _

theorem Legal.extend_injective (h : ρ.Legal source) (role : Role) :
    Function.Injective (ρ.extend source role) := by
  intro t t' heq
  have hother {t : Text} (hname : role.isName t = false) : ρ.extend source role t = t :=
    if_pos hname
  have hiff (t : Text) : role.isName (ρ.extend source role t) = role.isName t := by
    cases hname : role.isName t with
    | true => exact (h.clean_extend hname).isName
    | false => rw [hother hname, hname]
  have hsame : role.isName t = role.isName t' := by rw [← hiff t, heq, hiff t']
  cases hname : role.isName t with
  | false => rw [← hother hname, heq, hother (hsame ▸ hname)]
  | true =>
    have hname' : role.isName t' = true := hsame ▸ hname
    have hmem : (role, t) ∈ Source.names source ↔ (role, t') ∈ Source.names source := by
      rw [mem_names_iff_length hname, mem_names_iff_length hname', heq]
    by_cases ht : (role, t) ∈ Source.names source
    · have ht' := hmem.1 ht
      rw [extend_of_mem hname ht, extend_of_mem hname' ht'] at heq
      exact h.injective _ ht _ ht' rfl heq
    · rw [extend_of_not_mem hname ht, extend_of_not_mem hname' (mt hmem.2 ht)] at heq
      have hlength := congrArg List.length heq
      rw [List.length_replicate, List.length_replicate] at hlength
      have hcode : t.map Char.toNat = t'.map Char.toNat := Encodable.encode_injective (by omega)
      have hchar : Function.Injective Char.toNat := Function.LeftInverse.injective Char.ofNat_toNat
      exact List.map_injective_iff.2 hchar hcode

/-- Extended, a legal renaming is lawful. -/
theorem Legal.lawful_extend (h : ρ.Legal source) : (ρ.extend source).Lawful where
  injective := h.extend_injective
  clean := h.clean_extend
  other := fun hname => if_pos hname

/-- On the source text itself, the extended renaming does what the renaming does. -/
theorem rename_extend : (ρ.extend source).rename source = ρ.rename source := by
  refine List.flatMap_congr fun f hf => ?_
  cases f with
  | plain t => rfl
  | name role t =>
    exact extend_of_mem (Source.isName_of_mem_fragments hf) (Source.mem_names_iff.2 hf)

end Renaming

/-! ### Main result -/

/-- Renaming does not matter to assembly: if names of one role that differ get clean names that
differ, the renamed source text is assembled to the same script, or both fail with a fault of the
same kind in the same line. -/
theorem assemble_rename (cs : Charset) {ρ : Renaming} {source : Text}
    (hquotes : Source.QuotesConfined source) (hlegal : ρ.Legal source) :
    (assemble cs (ρ.rename source)).mapError Fault.blame =
      (assemble cs source).mapError Fault.blame := by
  have halike := Assembly.assemble_rename_of_lawful hlegal.lawful_extend cs hquotes
  rw [Renaming.rename_extend] at halike
  exact halike.mapError_eq

/-- A source text with the same names in all roles, in a literal and in comments. -/
def tangledSource : Text :=
  Text.unlines (["script f", "strings", "m = \"m; 'f'\" ; m", "f=\"f\"", "endstrings",
    "function m,0", "m: ; \"m", "pushl m", "popl f", "pushc f", "jz m", "call f", "endfunction",
    "function f, 0", "m:", "popl 5", "jmp m", "endfunction"].map String.toList)

/-- Swaps the strings, and gives the names of other roles away to each other. -/
def tangle : Renaming
  | .symbol, t => if t = ['m'] then ['f'] else ['m']
  | .label 0, _ => ['f']
  | .label _, _ => ['5', 'f']
  | .slot 0, t => if t = ['m'] then ['5'] else ['m']
  | .slot _, _ => ['m']

theorem assemble_rename_tangled :
    tangle.rename tangledSource =
      Text.unlines (["script f", "strings", "f = \"m; 'f'\" ; m", "m=\"f\"", "endstrings",
        "function f,0", "f: ; \"m", "pushl 5", "popl m", "pushc m", "jz f", "call m", "endfunction",
        "function m, 0", "5f:", "popl m", "jmp 5f", "endfunction"].map String.toList) ∧
      (assemble .utf8 tangledSource).toOption.isSome ∧
      (assemble .utf8 (tangle.rename tangledSource)).mapError Fault.blame =
        (assemble .utf8 tangledSource).mapError Fault.blame :=
  ⟨by decide +kernel, by decide +kernel,
    assemble_rename .utf8 (by decide +kernel) (by decide +kernel)⟩

end NovelScript
