import Mathlib

/-!
The distinct members of a list in the order of their first occurrence, which is what
`List.eraseDups` leaves, seen as a list that grows from the end.
-/

namespace NovelScript.FirstUses

variable {α : Type} [BEq α] [LawfulBEq α]

theorem eraseDups_concat_of_mem {xs : List α} {x : α} (h : x ∈ xs) :
    (xs ++ [x]).eraseDups = xs.eraseDups := by
  rw [List.eraseDups_append, List.removeAll]
  simp [h]

theorem eraseDups_concat_of_not_mem {xs : List α} {x : α} (h : x ∉ xs) :
    (xs ++ [x]).eraseDups = xs.eraseDups ++ [x] := by
  rw [List.eraseDups_append, List.removeAll]
  simp [h, List.eraseDups_cons]

theorem length_eraseDups_le_append (xs ys : List α) :
    xs.eraseDups.length ≤ (xs ++ ys).eraseDups.length := by
  rw [List.eraseDups_append, List.length_append]
  omega

theorem nodup_eraseDups (xs : List α) : xs.eraseDups.Nodup := by
  induction xs using List.reverseRecOn with
  | nil => exact List.nodup_nil
  | append_singleton xs x ih =>
    by_cases hx : x ∈ xs
    · rw [eraseDups_concat_of_mem hx]
      exact ih
    · rw [eraseDups_concat_of_not_mem hx, List.nodup_append]
      refine ⟨ih, List.pairwise_singleton _ _, ?_⟩
      rintro y hy z hz rfl
      rw [List.mem_singleton.1 hz] at hy
      exact hx (List.mem_eraseDups.1 hy)

theorem idxOf_of_prefix {xs ys : List α} {x : α} (h : xs <+: ys) (hx : x ∈ xs) :
    ys.idxOf x = xs.idxOf x := by
  obtain ⟨more, rfl⟩ := h
  rw [List.idxOf_append, if_pos hx]

theorem idxOf_of_idxOf? {xs : List α} {x : α} {i : Nat} (h : xs.idxOf? x = some i) :
    x ∈ xs ∧ xs.idxOf x = i := by
  refine ⟨List.isSome_idxOf?.1 (by rw [h]; rfl), ?_⟩
  exact (List.findIdx?_eq_some_iff_findIdx_eq.1 h).2

theorem idxOf_concat {xs : List α} {x : α} (h : x ∉ xs) : (xs ++ [x]).idxOf x = xs.length := by
  rw [List.idxOf_append, if_neg h, List.idxOf_cons_self, Nat.zero_add]

theorem idxOf_eraseDups_lt {xs : List α} {x : α} (h : x ∈ xs) :
    xs.eraseDups.idxOf x < xs.eraseDups.length :=
  List.idxOf_lt_length_of_mem (List.mem_eraseDups.2 h)

/-- Numbered in the order of their first uses, members first occur as 0, 1, 2 and so on. -/
theorem eraseDups_map_idxOf (xs : List α) :
    (xs.map fun x => xs.eraseDups.idxOf x).eraseDups = List.range xs.eraseDups.length := by
  induction xs using List.reverseRecOn with
  | nil => rfl
  | append_singleton xs x ih =>
    by_cases hx : x ∈ xs
    · rw [eraseDups_concat_of_mem hx, List.map_append, List.map_singleton, eraseDups_concat_of_mem,
        ih]
      exact List.mem_map.2 ⟨x, hx, rfl⟩
    · have hold : (xs.map fun y => (xs.eraseDups ++ [x]).idxOf y) =
          xs.map fun y => xs.eraseDups.idxOf y := by
        apply List.map_congr_left
        intro y hy
        exact idxOf_of_prefix (List.prefix_append _ _) (List.mem_eraseDups.2 hy)
      have hlast : (xs.eraseDups ++ [x]).idxOf x = xs.eraseDups.length :=
        idxOf_concat fun hmem => hx (List.mem_eraseDups.1 hmem)
      have hnew : xs.eraseDups.length ∉ xs.map fun y => xs.eraseDups.idxOf y := by
        intro hmem
        obtain ⟨y, hy, hidx⟩ := List.mem_map.1 hmem
        have hlt := idxOf_eraseDups_lt hy
        omega
      rw [eraseDups_concat_of_not_mem hx, List.map_append, List.map_singleton, hold, hlast,
        eraseDups_concat_of_not_mem hnew, ih, List.length_append, List.length_singleton,
        List.range_succ]

theorem eraseDups_map {β : Type} [BEq β] [LawfulBEq β] {f : α → β} {xs : List α}
    (h : ∀ x ∈ xs, ∀ y ∈ xs, f x = f y → x = y) : (xs.map f).eraseDups = xs.eraseDups.map f := by
  induction xs using List.reverseRecOn with
  | nil => rfl
  | append_singleton xs x ih =>
    have hxs := ih fun y hy z hz => h y (List.mem_append_left _ hy) z (List.mem_append_left _ hz)
    by_cases hx : x ∈ xs
    · rw [List.map_append, List.map_singleton, eraseDups_concat_of_mem hx,
        eraseDups_concat_of_mem (List.mem_map.2 ⟨x, hx, rfl⟩), hxs]
    · have hnew : f x ∉ xs.map f := by
        intro hmem
        obtain ⟨y, hy, hfy⟩ := List.mem_map.1 hmem
        have hlast : x ∈ xs ++ [x] := List.mem_append_right _ (List.mem_singleton.2 rfl)
        obtain rfl := h y (List.mem_append_left _ hy) x hlast hfy
        exact hx hy
      rw [List.map_append, List.map_singleton, eraseDups_concat_of_not_mem hx,
        eraseDups_concat_of_not_mem hnew, hxs, List.map_append, List.map_singleton]

/-- Numbered by bytes in the order of their first uses, members still first occur as 0, 1, 2 and so
on, as long as there are bytes for all of them. -/
theorem eraseDups_map_byte {xs : List α} (h : xs.eraseDups.length ≤ 256) :
    (xs.map fun x => UInt8.ofNat (xs.eraseDups.idxOf x)).eraseDups.map (·.toNat) =
      List.range xs.eraseDups.length := by
  -- as numbers, since the bytes themselves wrap around at 256
  have hnumbers : (xs.map fun x => UInt8.ofNat (xs.eraseDups.idxOf x)).map (·.toNat) =
      xs.map fun x => xs.eraseDups.idxOf x := by
    rw [List.map_map]
    apply List.map_congr_left
    intro x hx
    have hlt := idxOf_eraseDups_lt hx
    show (UInt8.ofNat (xs.eraseDups.idxOf x)).toNat = _
    rw [UInt8.toNat_ofNat']
    exact Nat.mod_eq_of_lt (by omega)
  rw [← eraseDups_map fun x _ y _ hxy => UInt8.toNat_inj.1 hxy, hnumbers, eraseDups_map_idxOf]

theorem beq_comp {β : Type} [BEq β] [LawfulBEq β] {f : α → β} (hf : ∀ x y, f x = f y ↔ x = y)
    (x : α) : (fun y => y == f x) ∘ f = fun y => y == x := by
  ext y
  rw [Function.comp_apply, Bool.eq_iff_iff, beq_iff_eq, beq_iff_eq, hf]

theorem idxOf_map {β : Type} [BEq β] [LawfulBEq β] {f : α → β} (hf : ∀ x y, f x = f y ↔ x = y)
    (xs : List α) (x : α) : (xs.map f).idxOf (f x) = xs.idxOf x := by
  rw [List.idxOf, List.findIdx_map, beq_comp hf]
  rfl

theorem idxOf?_map {β : Type} [BEq β] [LawfulBEq β] {f : α → β} (hf : ∀ x y, f x = f y ↔ x = y)
    (xs : List α) (x : α) : (xs.map f).idxOf? (f x) = xs.idxOf? x := by
  rw [List.idxOf?, List.findIdx?_map, beq_comp hf]
  rfl

end NovelScript.FirstUses
