import Mathlib

/-!
Association lists. A key that is bound once can be looked up wherever its binding stands
(`lookup_eq_some_iff_mem`), so with distinct keys the order of the bindings does not matter.
-/

namespace NovelScript.Association

variable {α β : Type}

theorem nodup_map_concat_iff {γ : Type} {key : γ → α} {xs : List γ} {x : γ} :
    ((xs ++ [x]).map key).Nodup ↔ (xs.map key).Nodup ∧ key x ∉ xs.map key := by
  rw [List.map_append, List.map_singleton, List.nodup_append]
  constructor
  · rintro ⟨h, -, hne⟩
    exact ⟨h, fun hmem => hne _ hmem _ (List.mem_singleton.2 rfl) rfl⟩
  · rintro ⟨h, hnew⟩
    refine ⟨h, List.pairwise_singleton _ _, ?_⟩
    rintro k hk other hother rfl
    rw [List.mem_singleton.1 hother] at hk
    exact hnew hk

theorem eq_of_key_eq {γ : Type} {key : γ → UInt32} {xs : List γ}
    (h : xs.Pairwise fun x y => key x < key y) {x y : γ} (hx : x ∈ xs) (hy : y ∈ xs)
    (heq : key x = key y) : x = y := by
  have hnodup : (xs.map key).Nodup := List.pairwise_map.2 (h.imp UInt32.ne_of_lt)
  exact List.inj_on_of_nodup_map hnodup hx hy heq

theorem nodup_filterMap_snd {γ : Type} {xs : List (α × β)} (hnodup : (xs.map Prod.fst).Nodup)
    (g : β → Option γ) :
    ((xs.filterMap fun x => (g x.2).map fun y => (x.1, y)).map Prod.fst).Nodup := by
  have hkeys : (xs.filterMap fun x => (g x.2).map fun y => (x.1, y)).map Prod.fst =
      (xs.filter fun x => (g x.2).isSome).map Prod.fst := by
    induction xs with
    | nil => rfl
    | cons x xs ih =>
      rw [List.map_cons, List.nodup_cons] at hnodup
      rw [List.filterMap_cons, List.filter_cons]
      cases g x.2 with
      | none => exact ih hnodup.2
      | some y => exact congrArg (x.1 :: ·) (ih hnodup.2)
  rw [hkeys]
  exact hnodup.sublist (List.filter_sublist.map _)

variable [BEq α] [LawfulBEq α]

theorem lookup_eq_none_iff_not_mem {xs : List (α × β)} {k : α} :
    xs.lookup k = none ↔ k ∉ xs.map Prod.fst := by
  rw [List.lookup_eq_none_iff]
  constructor
  · intro h hk
    obtain ⟨p, hp, rfl⟩ := List.mem_map.1 hk
    simpa using h p hp
  · intro h p hp
    have hne : k ≠ p.1 := by
      rintro rfl
      exact h (List.mem_map.2 ⟨p, hp, rfl⟩)
    simpa using hne

theorem isSome_lookup_iff_mem {xs : List (α × β)} {k : α} :
    (xs.lookup k).isSome ↔ k ∈ xs.map Prod.fst := by
  rw [← Option.ne_none_iff_isSome, ne_eq, lookup_eq_none_iff_not_mem, Classical.not_not]

theorem mem_of_lookup {xs : List (α × β)} {k : α} {v : β} (h : xs.lookup k = some v) :
    (k, v) ∈ xs := by
  obtain ⟨front, back, rfl, -⟩ := List.lookup_eq_some_iff.1 h
  simp

theorem lookup_of_mem {xs : List (α × β)} (hnodup : (xs.map Prod.fst).Nodup) {k : α} {v : β}
    (h : (k, v) ∈ xs) : xs.lookup k = some v := by
  induction xs with
  | nil => exact nomatch h
  | cons x xs ih =>
    rw [List.map_cons, List.nodup_cons] at hnodup
    rcases List.mem_cons.1 h with rfl | h
    · exact List.lookup_cons_self
    · have hne : k ≠ x.1 := by
        rintro rfl
        exact hnodup.1 (List.mem_map.2 ⟨_, h, rfl⟩)
      rw [List.lookup_cons, beq_eq_false_iff_ne.2 hne]
      exact ih hnodup.2 h

theorem lookup_eq_some_iff_mem {xs : List (α × β)} (hnodup : (xs.map Prod.fst).Nodup) {k : α}
    {v : β} : xs.lookup k = some v ↔ (k, v) ∈ xs :=
  ⟨mem_of_lookup, lookup_of_mem hnodup⟩

theorem lookup_map_fst {γ : Type} [BEq γ] [LawfulBEq γ] {f : α → γ} (hf : Function.Injective f)
    (xs : List (α × β)) (k : α) : (xs.map (Prod.map f id)).lookup (f k) = xs.lookup k := by
  induction xs with
  | nil => rfl
  | cons x xs ih =>
    rw [List.map_cons, List.lookup_cons, List.lookup_cons, ih]
    have hkey : (f k == f x.1) = (k == x.1) := by
      rw [Bool.eq_iff_iff, beq_iff_eq, beq_iff_eq, hf.eq_iff]
    simp only [Prod.map_fst, hkey, Prod.map_snd, id_eq]

theorem lookup_reverse {xs : List (α × β)} (hnodup : (xs.map Prod.fst).Nodup) (k : α) :
    xs.reverse.lookup k = xs.lookup k := by
  have hreverse : (xs.reverse.map Prod.fst).Nodup := by
    rw [List.map_reverse]
    exact List.pairwise_reverse.2 (hnodup.imp Ne.symm)
  ext v
  rw [lookup_eq_some_iff_mem hreverse, lookup_eq_some_iff_mem hnodup, List.mem_reverse]

theorem lookup_filterMap_snd {γ : Type} {xs : List (α × β)} (hnodup : (xs.map Prod.fst).Nodup)
    (g : β → Option γ) (k : α) :
    (xs.filterMap fun x => (g x.2).map fun y => (x.1, y)).lookup k = (xs.lookup k).bind g := by
  induction xs with
  | nil => rfl
  | cons x xs ih =>
    rw [List.map_cons, List.nodup_cons] at hnodup
    have hrest := ih hnodup.2
    rw [List.filterMap_cons, List.lookup_cons]
    by_cases hkey : k = x.1
    · have habsent : xs.lookup k = none := lookup_eq_none_iff_not_mem.2 (hkey ▸ hnodup.1)
      rw [habsent] at hrest
      cases hvalue : g x.2 with
      | none => simpa [hkey, hvalue] using hrest
      | some y => simp [hkey, hvalue]
    · have hne := beq_false_of_ne hkey
      cases hvalue : g x.2 with
      | none => simpa [hne] using hrest
      | some y => simpa [List.lookup_cons, hne] using hrest

theorem lookup_replace [DecidableEq α] (xs : List (α × β)) (k : α) (v : β) (key : α) :
    (xs.map fun x => if x.1 = k then (k, v) else x).lookup key =
      if key = k then (xs.lookup k).map fun _ => v else xs.lookup key := by
  induction xs with
  | nil => simp
  | cons x xs ih =>
    rw [List.map_cons, List.lookup_cons, List.lookup_cons, List.lookup_cons, ih]
    by_cases hx : x.1 = k
    · rw [if_pos hx, hx]
      by_cases hkey : key = k
      · simp [hkey]
      · simp [hkey, beq_false_of_ne hkey]
    · rw [if_neg hx, beq_false_of_ne (Ne.symm hx)]
      by_cases hkey : key = k
      · simp [hkey, beq_false_of_ne (Ne.symm hx)]
      · simp [hkey]

end NovelScript.Association
