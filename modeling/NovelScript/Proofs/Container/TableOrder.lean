import NovelScript.Proofs.Container.Saving

/-!
The order of the function table. Code is laid out by positions, so what the code section holds does
not depend on the table (`layCode_unique`), and whether it can be laid out is a question of every
two functions (`exists_layCode_codeOrder_iff`). Only an empty function at the position of one with
code has to be listed first; as long as such pairs are not turned around, functions can be listed in
any order (`save_permuted`). Otherwise they cannot (`save_depends_on_order`).
-/

namespace NovelScript

/-! ### Two functions at one position -/

namespace FunctionEntry

/-- The first function is empty and stands at the position of the second one, which is not. -/
structure EmptyAt (f g : FunctionEntry) : Prop where
  pos_eq : f.pos = g.pos
  empty : f.code = []
  ne_empty : g.code ≠ []

instance (f g : FunctionEntry) : Decidable (f.EmptyAt g) :=
  decidable_of_iff (_ ∧ _ ∧ _) ⟨fun ⟨h₁, h₂, h₃⟩ => ⟨h₁, h₂, h₃⟩, fun ⟨h₁, h₂, h₃⟩ => ⟨h₁, h₂, h₃⟩⟩

instance (f g : FunctionEntry) : Decidable (f.Ordered g) :=
  decidable_of_iff (_ ∧ _) ⟨fun ⟨h₁, h₂⟩ => ⟨h₁, h₂⟩, fun ⟨h₁, h₂⟩ => ⟨h₁, h₂⟩⟩

/-- Two functions in order can be listed the other way round too, unless the first is an empty one
that has to come before the second. -/
theorem Ordered.symm {f g : FunctionEntry} (h : f.Ordered g) (hne : ¬ f.EmptyAt g) :
    g.Ordered f where
  forward := by
    intro hle
    rcases Nat.lt_or_eq_of_le hle with hlt | heq
    · exact h.backward hlt
    · have hempty : f.code = [] := by
        have := h.forward heq.ge
        rw [← List.length_eq_zero_iff]
        omega
      have hboth : g.code = [] := by
        by_contra hcode
        exact hne ⟨UInt32.toNat_inj.1 heq.symm, hempty, hcode⟩
      rw [hboth, List.length_nil]
      omega
  backward hlt := h.forward hlt.le

end FunctionEntry

/-! ### Code sections -/

namespace Script

theorem pairwise_of_layCode {cursor : Nat} {functions : List FunctionEntry} {code : Bytes}
    (h : layCode cursor functions = .ok code) :
    functions.Pairwise fun f g => f.pos.toNat + f.code.length ≤ g.pos.toNat := by
  induction functions generalizing cursor code with
  | nil => exact .nil
  | cons f functions ih =>
    rw [layCode] at h
    split at h
    · cases h
    · obtain ⟨rest, hrest, -⟩ := Outcome.map_eq_ok_iff.1 h
      exact .cons (fun g hg => (Container.slice_of_layCode hrest hg).1) (ih hrest)

/-- Functions whose code can be laid out are ordered two by two. -/
theorem ordered_of_layCode {functions : List FunctionEntry} {code : Bytes}
    (h : layCode 0 (codeOrder functions) = .ok code) :
    functions.Pairwise FunctionEntry.Ordered := by
  have hlaid := pairwise_of_layCode h
  let R (f g : FunctionEntry) : Prop :=
    f.pos.toNat + f.code.length ≤ g.pos.toNat ∨ g.pos.toNat + g.code.length ≤ f.pos.toNat
  have : Std.Symm R := ⟨fun _ _ => Or.symm⟩
  have hapart : (codeOrder functions).Pairwise R := hlaid.imp .inl
  rw [List.pairwise_iff_forall_sublist]
  intro f g hsublist
  have hmem {e : FunctionEntry} (he : e ∈ [f, g]) : e ∈ codeOrder functions :=
    List.mem_mergeSort.2 (hsublist.mem he)
  constructor
  · -- sorting leaves them in this order
    intro hle
    have hpos : decide (f.pos ≤ g.pos) = true := decide_eq_true (UInt32.le_iff_toNat_le.2 hle)
    have hpair : [f, g].Sublist (codeOrder functions) :=
      List.pair_sublist_mergeSort codeOrder_trans codeOrder_total hpos hsublist
    exact List.pairwise_iff_forall_sublist.1 hlaid hpair
  · intro hlt
    have hne : f ≠ g := by
      rintro rfl
      exact lt_irrefl _ hlt
    rcases hapart.forall (hmem (by simp)) (hmem (by simp)) hne with hstop | hstop
    · omega
    · exact hstop

/-- Whether code can be laid out is decided by every two functions. -/
theorem exists_layCode_codeOrder_iff {functions : List FunctionEntry} :
    (∃ code, layCode 0 (codeOrder functions) = .ok code) ↔
      functions.Pairwise FunctionEntry.Ordered :=
  ⟨fun ⟨_, hcode⟩ => ordered_of_layCode hcode,
    fun h => exists_layCode (fun _ _ => Nat.zero_le _) (pairwise_codeOrder h)⟩

section Unique

variable {fs gs : List FunctionEntry} {code code' : Bytes}

theorem getElem?_layCode (h : layCode 0 fs = .ok code) {f : FunctionEntry} (hf : f ∈ fs) {i : Nat}
    (hi : f.Covers i) : code[i]? = f.code[i - f.pos.toNat]? := by
  obtain ⟨-, -, hslice⟩ := Container.slice_of_layCode h hf
  obtain ⟨hstart, hstop⟩ := hi
  rw [← hslice, List.getElem?_take_of_lt (by omega), List.getElem?_drop, Nat.sub_zero,
    Nat.add_sub_cancel' hstart]

theorem length_le_of_layCode (h : layCode 0 fs = .ok code) (h' : layCode 0 gs = .ok code')
    (hmem : ∀ f ∈ fs, f ∈ gs) : code.length ≤ code'.length := by
  rcases Container.stop_of_layCode h with hnil | ⟨f, hf, hstop⟩
  · omega
  · have := (Container.slice_of_layCode h' (hmem f hf)).2.1
    omega

theorem layCode_unique (h : layCode 0 fs = .ok code) (h' : layCode 0 gs = .ok code')
    (hmem : ∀ f, f ∈ fs ↔ f ∈ gs) : code = code' := by
  have hlength : code.length = code'.length :=
    le_antisymm (length_le_of_layCode h h' fun f => (hmem f).1)
      (length_le_of_layCode h' h fun f => (hmem f).2)
  apply List.ext_getElem?
  intro i
  by_cases hi : i < code.length
  · by_cases hcovered : ∃ f ∈ fs, f.Covers i
    · obtain ⟨f, hf, hcovers⟩ := hcovered
      rw [getElem?_layCode h hf hcovers, getElem?_layCode h' ((hmem f).1 hf) hcovers]
    · have hfree : ∀ f ∈ fs, 0 + i < f.pos.toNat ∨ f.pos.toNat + f.code.length ≤ 0 + i := by
        intro f hf
        by_contra hcovers
        exact hcovered ⟨f, hf, by omega, by omega⟩
      rw [Container.zero_of_layCode h hi hfree,
        Container.zero_of_layCode h' (hlength ▸ hi) fun f hf => hfree f ((hmem f).2 hf)]
  · rw [List.getElem?_eq_none (by omega), List.getElem?_eq_none (by omega)]

end Unique

/-- What decides whether a script can be written. -/
theorem exists_save_iff {s : Script} :
    (∃ d, s.save = .ok d) ↔ checkName s.name = .ok () ∧ s.functions.Pairwise FunctionEntry.Ordered ∧
      ∃ strings, layStrings 0 s.strings = .ok strings := by
  rw [← exists_layCode_codeOrder_iff]
  constructor
  · rintro ⟨d, hd⟩
    obtain ⟨hname, code, strings, hcode, hstrings, -⟩ := Container.save_eq_ok_iff.1 hd
    exact ⟨hname, ⟨code, hcode⟩, strings, hstrings⟩
  · rintro ⟨hname, ⟨code, hcode⟩, strings, hstrings⟩
    exact ⟨_, Container.save_eq_ok_iff.2 ⟨hname, code, strings, hcode, hstrings, rfl⟩⟩

end Script

/-! ### Tables in another order -/

namespace Container

variable {n : Nat}

/-- No empty function is moved past a function with code at its position. -/
def KeepsEmpty (fs : Fin n → FunctionEntry) (σ : Equiv.Perm (Fin n)) : Prop :=
  ∀ i j, (fs (σ i)).EmptyAt (fs (σ j)) → (i < j ↔ σ i < σ j)

instance (fs : Fin n → FunctionEntry) (σ : Equiv.Perm (Fin n)) : Decidable (KeepsEmpty fs σ) :=
  inferInstanceAs (Decidable (∀ i j, (fs (σ i)).EmptyAt (fs (σ j)) → (i < j ↔ σ i < σ j)))

theorem KeepsEmpty.symm {fs : Fin n → FunctionEntry} {σ : Equiv.Perm (Fin n)}
    (h : KeepsEmpty fs σ) : KeepsEmpty (fs ∘ σ) σ.symm := by
  intro i j hij
  have hback := h (σ.symm i) (σ.symm j) (by simpa using hij)
  simpa using hback.symm

theorem KeepsEmpty.ordered {fs : Fin n → FunctionEntry} {σ : Equiv.Perm (Fin n)}
    (h : KeepsEmpty fs σ) (hordered : (List.ofFn fs).Pairwise FunctionEntry.Ordered) :
    (List.ofFn (fs ∘ σ)).Pairwise FunctionEntry.Ordered := by
  rw [List.pairwise_ofFn] at hordered ⊢
  intro i j hij
  rcases lt_or_gt_of_ne (σ.injective.ne hij.ne) with hlt | hgt
  · exact hordered hlt
  · -- the pair is turned around, so it is none that has to stay
    refine (hordered hgt).symm fun hempty => ?_
    exact absurd ((h j i hempty).2 hgt) hij.le.not_gt

def recordBytes (f : FunctionEntry) : Bytes := encodeFields (Record.ofFunction f).fields

theorem tableBytes_ofFn (fs : Fin n → FunctionEntry) :
    tableBytes (List.ofFn fs) = (List.ofFn fun i => recordBytes (fs i)).flatten := by
  rw [tableBytes, List.flatMap_map, List.flatMap_def, List.map_ofFn]
  rfl

theorem layCode_permuted {fs : Fin n → FunctionEntry} {σ : Equiv.Perm (Fin n)} {code code' : Bytes}
    (h : Script.layCode 0 (Script.codeOrder (List.ofFn fs)) = .ok code)
    (h' : Script.layCode 0 (Script.codeOrder (List.ofFn (fs ∘ σ))) = .ok code') : code = code' := by
  refine Script.layCode_unique h h' fun f => ?_
  rw [Script.codeOrder, Script.codeOrder, List.mem_mergeSort, List.mem_mergeSort,
    (Equiv.Perm.ofFn_comp_perm σ fs).mem_iff]

/-- The same script with its functions listed in another order. If no empty function is moved past
one with code at its position, one of the two can be written if the other one can. If both can be
written, all that differs is the order of the records. -/
theorem save_permuted (s : Script) (fs : Fin n → FunctionEntry) (σ : Equiv.Perm (Fin n)) :
    (KeepsEmpty fs σ →
      ((∃ d, Script.save { s with functions := List.ofFn fs } = .ok d) ↔
        ∃ d, Script.save { s with functions := List.ofFn (fs ∘ σ) } = .ok d)) ∧
    ∀ d e, Script.save { s with functions := List.ofFn fs } = .ok d →
      Script.save { s with functions := List.ofFn (fs ∘ σ) } = .ok e →
      ∃ header code padding strings : Bytes, header.length = headerSize ∧
        Script.layCode 0 (Script.codeOrder (List.ofFn fs)) = .ok code ∧
        Script.layStrings 0 s.strings = .ok strings ∧
        d = header ++ (List.ofFn fun i => recordBytes (fs i)).flatten ++ code ++ padding ++
          strings ∧
        e = header ++ (List.ofFn fun i => recordBytes (fs (σ i))).flatten ++ code ++ padding ++
          strings := by
  have hlength : (List.ofFn (fs ∘ σ)).length = (List.ofFn fs).length := by
    rw [List.length_ofFn, List.length_ofFn]
  constructor
  · intro hkeeps
    rw [Script.exists_save_iff, Script.exists_save_iff]
    have hback := hkeeps.symm.ordered
    rw [Function.comp_assoc, Equiv.self_comp_symm, Function.comp_id] at hback
    exact and_congr_right fun _ => and_congr_left fun _ => ⟨hkeeps.ordered, hback⟩
  · intro d e hd he
    obtain ⟨-, code, strings, hcode, hstrings, rfl⟩ := save_eq_ok_iff.1 hd
    obtain ⟨-, code', strings', hcode', hstrings', rfl⟩ := save_eq_ok_iff.1 he
    obtain rfl : strings = strings' := Except.ok.inj (hstrings.symm.trans hstrings')
    obtain rfl : code = code' := layCode_permuted hcode hcode'
    let listed : Script := { s with functions := List.ofFn fs }
    refine ⟨encodeFields (listed.headerFor code strings).fields, code, listed.padding code, strings,
      length_encode_header _, hcode, hstrings, ?_, ?_⟩
    · rw [assembleSections, tableBytes_ofFn]
    · rw [assembleSections, tableBytes_ofFn, Script.headerFor, Script.headerFor, Script.padding,
        Script.padding, hlength]
      rfl

def bareFunction (pos : UInt32) (code : Bytes) : FunctionEntry :=
  { name := 0, pos, params := 0, locals := 0, code }

def bareScript (functions : List FunctionEntry) : Script :=
  { name := [0x6d], strings := [⟨0, [0x66]⟩], functions }

/-- An empty function, one with code at its position, and one behind a gap. -/
def bareFunctions : Fin 3 → FunctionEntry :=
  ![bareFunction 0 [], bareFunction 0 [0x26], bareFunction 4 [0x26]]

def rotation : Equiv.Perm (Fin 3) := ⟨![2, 0, 1], ![1, 2, 0], by decide, by decide⟩

theorem save_permuted_rotation :
    KeepsEmpty bareFunctions rotation ∧ ∃ d e,
      (bareScript (List.ofFn bareFunctions)).save = .ok d ∧
      (bareScript (List.ofFn (bareFunctions ∘ rotation))).save = .ok e ∧
      ∃ header code padding strings : Bytes, header.length = headerSize ∧
        Script.layCode 0 (Script.codeOrder (List.ofFn bareFunctions)) = .ok code ∧
        Script.layStrings 0 [⟨0, [0x66]⟩] = .ok strings ∧
        d = header ++ (List.ofFn fun i => recordBytes (bareFunctions i)).flatten ++ code ++
          padding ++ strings ∧
        e = header ++ (List.ofFn fun i => recordBytes (bareFunctions (rotation i))).flatten ++
          code ++ padding ++ strings := by
  have hkeeps : KeepsEmpty bareFunctions rotation := by decide
  obtain ⟨hiff, hsame⟩ := save_permuted (bareScript []) bareFunctions rotation
  have hordered : (List.ofFn bareFunctions).Pairwise FunctionEntry.Ordered := by decide
  have hsave : ∃ d, (bareScript (List.ofFn bareFunctions)).save = .ok d :=
    Script.exists_save_iff.2 ⟨rfl, hordered, _, rfl⟩
  obtain ⟨e, he⟩ := (hiff hkeeps).1 hsave
  obtain ⟨d, hd⟩ := hsave
  exact ⟨hkeeps, d, e, hd, he, hsame d e hd he⟩

/-- An empty function listed behind one with code at its position cannot be written, although
nothing overlaps and the two could be written in the other order. -/
theorem save_depends_on_order :
    (∃ d, (bareScript [bareFunction 0 [], bareFunction 0 [0x26]]).save = .ok d) ∧
      (bareScript [bareFunction 0 [0x26], bareFunction 0 []]).save =
        .error (.encode (.overlappingFunction 0 1)) := by
  constructor
  · exact Script.exists_save_iff.2 ⟨rfl, by decide, _, rfl⟩
  · have horder : Script.codeOrder [bareFunction 0 [0x26], bareFunction 0 []] =
        [bareFunction 0 [0x26], bareFunction 0 []] :=
      List.mergeSort_of_pairwise (by simp [bareFunction])
    rw [bareScript, Script.save, horder]
    rfl

end Container

end NovelScript
