import Mathlib

/-!
Computations that may fail, taken apart into their steps.
-/

namespace NovelScript.Outcome

variable {ε α β : Type}

theorem bind_eq_ok_iff {x : Except ε α} {f : α → Except ε β} {b : β} :
    (x >>= f) = .ok b ↔ ∃ a, x = .ok a ∧ f a = .ok b := by
  cases x with
  | error e => simp [bind, Except.bind]
  | ok a => simp [bind, Except.bind]

theorem bind_eq_error_iff {x : Except ε α} {f : α → Except ε β} {e : ε} :
    (x >>= f) = .error e ↔ x = .error e ∨ ∃ a, x = .ok a ∧ f a = .error e := by
  cases x with
  | error e => simp [bind, Except.bind]
  | ok a => simp [bind, Except.bind]

theorem map_eq_error_iff {x : Except ε α} {f : α → β} {e : ε} :
    x.map f = .error e ↔ x = .error e := by
  cases x with
  | error e => simp [Except.map]
  | ok a => simp [Except.map]

theorem map_eq_ok_iff {x : Except ε α} {f : α → β} {b : β} :
    x.map f = .ok b ↔ ∃ a, x = .ok a ∧ f a = b := by
  cases x with
  | error e => simp [Except.map]
  | ok a => simp [Except.map]

/-- Only what follows a success matters behind a step. -/
theorem bind_congr {x : Except ε α} {f g : α → Except ε β} (h : ∀ a, x = .ok a → f a = g a) :
    (x >>= f) = (x >>= g) := by
  cases x with
  | error e => rfl
  | ok a => exact h a rfl

@[simp] theorem ok_bind (a : α) (f : α → Except ε β) : (Except.ok a >>= f) = f a := rfl

@[simp] theorem error_bind (e : ε) (f : α → Except ε β) : (Except.error e >>= f) = .error e := rfl

@[simp] theorem throw_eq_error (e : ε) : (throw e : Except ε α) = .error e := rfl

@[simp] theorem pure_eq_ok (a : α) : (pure a : Except ε α) = .ok a := rfl

@[simp] theorem toOption_ok (a : α) : (Except.ok a : Except ε α).toOption = some a := rfl

@[simp] theorem toOption_error (e : ε) : (Except.error e : Except ε α).toOption = none := rfl

theorem mapM_cons_eq_some_iff {f : α → Option β} {x : α} {xs : List α} {ys : List β} :
    (x :: xs).mapM f = some ys ↔
      ∃ y rest, f x = some y ∧ xs.mapM f = some rest ∧ y :: rest = ys := by
  rw [List.mapM_cons]
  cases f x with
  | none => simp
  | some y => cases xs.mapM f <;> simp

theorem length_of_mapM {f : α → Option β} {xs : List α} {ys : List β}
    (h : xs.mapM f = some ys) : ys.length = xs.length := by
  induction xs generalizing ys with
  | nil =>
    obtain rfl : [] = ys := by simpa using h
    rfl
  | cons x xs ih =>
    obtain ⟨y, rest, -, hrest, rfl⟩ := mapM_cons_eq_some_iff.1 h
    rw [List.length_cons, List.length_cons, ih hrest]

theorem toOption_eq_some_iff {x : Except ε α} {a : α} : x.toOption = some a ↔ x = .ok a := by
  cases x with
  | error e => simp
  | ok a => simp

@[simp] theorem toOption_map {x : Except ε α} {f : α → β} :
    (x.map f).toOption = x.toOption.map f := by
  cases x <;> rfl

@[simp] theorem toOption_bind {x : Except ε α} {f : α → Except ε β} :
    (x >>= f).toOption = x.toOption.bind fun a => (f a).toOption := by
  cases x <;> rfl

/-! ### One after the other -/

theorem mapM_eq_ok_iff {f : α → Except ε β} {xs : List α} {ys : List β} :
    xs.mapM f = .ok ys ↔ List.Forall₂ (fun x y => f x = .ok y) xs ys := by
  induction xs generalizing ys with
  | nil => simp [eq_comm]
  | cons x xs ih =>
    rw [List.mapM_cons, bind_eq_ok_iff, List.forall₂_cons_left_iff]
    constructor
    · rintro ⟨y, hy, h⟩
      obtain ⟨more, hmore, h⟩ := bind_eq_ok_iff.1 h
      exact ⟨y, more, hy, ih.1 hmore, (Except.ok.inj h).symm⟩
    · rintro ⟨y, more, hy, hmore, rfl⟩
      exact ⟨y, hy, bind_eq_ok_iff.2 ⟨more, ih.2 hmore, rfl⟩⟩

theorem exists_of_mapM {f : α → Except ε β} {xs : List α} {ys : List β} (h : xs.mapM f = .ok ys)
    {x : α} (hx : x ∈ xs) : ∃ y ∈ ys, f x = .ok y := by
  induction mapM_eq_ok_iff.1 h with
  | nil => exact nomatch hx
  | cons hy hrest ih =>
    rcases List.mem_cons.1 hx with rfl | hx
    · exact ⟨_, List.mem_cons_self, hy⟩
    · obtain ⟨y, hmem, hfy⟩ := ih (mapM_eq_ok_iff.2 hrest) hx
      exact ⟨y, List.mem_cons_of_mem _ hmem, hfy⟩

/-- The first failure stops everything. -/
theorem mapM_eq_error_iff {f : α → Except ε β} {xs : List α} {e : ε} :
    xs.mapM f = .error e ↔ ∃ (front : List α) (x : α) (back : List α),
      xs = front ++ x :: back ∧ (∀ y ∈ front, ∃ b, f y = .ok b) ∧ f x = .error e := by
  induction xs with
  | nil => simp
  | cons x xs ih =>
    rw [List.mapM_cons, bind_eq_error_iff]
    constructor
    · rintro (hx | ⟨y, hy, h⟩)
      · exact ⟨[], x, xs, rfl, nofun, hx⟩
      · rcases bind_eq_error_iff.1 h with hrest | ⟨_, -, h⟩
        · obtain ⟨front, z, back, rfl, hfront, hz⟩ := ih.1 hrest
          exact ⟨x :: front, z, back, rfl, List.forall_mem_cons.2 ⟨⟨y, hy⟩, hfront⟩, hz⟩
        · exact nomatch h
    · rintro ⟨front, z, back, hxs, hfront, hz⟩
      cases front with
      | nil =>
        obtain ⟨rfl, rfl⟩ := List.cons.inj hxs
        exact .inl hz
      | cons _ front =>
        obtain ⟨rfl, rfl⟩ := List.cons.inj hxs
        obtain ⟨⟨y, hy⟩, hfront⟩ := List.forall_mem_cons.1 hfront
        exact .inr ⟨y, hy, bind_eq_error_iff.2 (.inl (ih.2 ⟨front, z, back, rfl, hfront, hz⟩))⟩

/-! ### Two runs -/

/-- The second outcome is what `f` makes of the first one. If they fail, `R` relates their failures.
-/
inductive Follows {ε' : Type} (R : ε → ε' → Prop) (f : α → β) : Except ε α → Except ε' β → Prop
  | ok (a : α) : Follows R f (.ok a) (.ok (f a))
  | error {e : ε} {e' : ε'} (h : R e e') : Follows R f (.error e) (.error e')

namespace Follows

variable {ε' α' β' : Type} {R : ε → ε' → Prop} {f : α → α'} {g : β → β'} {x : Except ε α}
  {x' : Except ε' α'}

/-- What is the same in both runs follows itself if its results stay. -/
theorem of_eq {R : ε → ε → Prop} (hR : ∀ e, R e e) {f : α → α} (h : ∀ a, x = .ok a → f a = a) :
    Follows R f x x := by
  cases x with
  | error e => exact .error (hR e)
  | ok a =>
    have hok : Follows R f (.ok a) (.ok (f a)) := .ok a
    rwa [h a rfl] at hok

theorem mono {S : ε → ε' → Prop} (h : Follows R f x x') (hS : ∀ e e', R e e' → S e e') :
    Follows S f x x' := by
  cases h with
  | ok a => exact .ok a
  | error h => exact .error (hS _ _ h)

theorem bind (h : Follows R f x x') {k : α → Except ε β} {k' : α' → Except ε' β'}
    (hk : ∀ a, x = .ok a → Follows R g (k a) (k' (f a))) : Follows R g (x >>= k) (x' >>= k') := by
  cases h with
  | ok a => exact hk a rfl
  | error h => exact .error h

theorem map (h : Follows R f x x') {u : α → β} {u' : α' → β'}
    (hu : ∀ a, x = .ok a → u' (f a) = g (u a)) : Follows R g (x.map u) (x'.map u') := by
  cases h with
  | ok a =>
    show Follows R g (.ok (u a)) (.ok (u' (f a)))
    rw [hu a rfl]
    exact .ok (u a)
  | error h => exact .error h

theorem map_id {x' : Except ε' α} (h : Follows R id x x') (u : α → β) :
    Follows R id (x.map u) (x'.map u) := h.map fun _ _ => rfl

theorem ite {c c' : Prop} [Decidable c] [Decidable c'] {y : Except ε α} {y' : Except ε' α'}
    (hc : c ↔ c') (hx : c → Follows R f x x') (hy : ¬ c → Follows R f y y') :
    Follows R f (if c then x else y) (if c' then x' else y') := by
  by_cases h : c
  · rw [if_pos h, if_pos (hc.1 h)]
    exact hx h
  · rw [if_neg h, if_neg (mt hc.2 h)]
    exact hy h

theorem guard {c c' : Prop} [Decidable c] [Decidable c'] {γ γ' : Type} {e : ε} {e' : ε'}
    {k : γ → Except ε α} {k' : γ' → Except ε' α'} (hc : c ↔ c') (he : R e e')
    (h : ¬ c → Follows R f x x') :
    Follows R f (if c then throw e >>= k else x) (if c' then throw e' >>= k' else x') :=
  .ite hc (fun _ => .error he) h

theorem foldlM {step : α → β → Except ε α} {step' : α' → β' → Except ε' α'}
    (hstep : ∀ a b, Follows R f (step a b) (step' (f a) (g b))) (bs : List β) (a : α) :
    Follows R f (bs.foldlM step a) ((bs.map g).foldlM step' (f a)) := by
  induction bs generalizing a with
  | nil => exact .ok a
  | cons b bs ih =>
    rw [List.map_cons, List.foldlM_cons, List.foldlM_cons]
    exact (hstep a b).bind fun a _ => ih a

theorem foldlM_same {γ : Type} {step : α → γ → Except ε α} {step' : α' → γ → Except ε' α'}
    (hstep : ∀ a c, Follows R f (step a c) (step' (f a) c)) (cs : List γ) (a : α) :
    Follows R f (cs.foldlM step a) (cs.foldlM step' (f a)) := by
  have hloop : Follows R f (cs.foldlM step a) ((cs.map id).foldlM step' (f a)) := foldlM hstep cs a
  rwa [List.map_id] at hloop

end Follows

end NovelScript.Outcome
