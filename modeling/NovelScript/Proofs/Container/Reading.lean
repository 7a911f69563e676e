import NovelScript.Proofs.Code
import NovelScript.Script.Load
import NovelScript.Script.Save

/-!
What reading actions take from the data. `Reads action bytes a` says that an action takes these
bytes and gives `a`, wherever it begins and whatever follows, and `Needs action size` that it takes
so many bytes, and fails inside of the data where there are fewer; the actions of a format are put
together from such statements.
-/

namespace NovelScript

namespace Read

theorem runFrom_bind {α β : Type} (x : Read α) (f : α → Read β) (c : Cursor) :
    (x >>= f).runFrom c =
      match x.runFrom c with
      | (.ok a, c) => (f a).runFrom c
      | (.error e, c) => (.error e, c) := by
  show ExceptT.bindCont f (x.runFrom c).1 (x.runFrom c).2 = _
  cases x.runFrom c with
  | mk outcome c => cases outcome <;> rfl

theorem runFrom_bind_ok {α β : Type} {x : Read α} {f : α → Read β} {c c' : Cursor} {a : α}
    (h : x.runFrom c = (.ok a, c')) : (x >>= f).runFrom c = (f a).runFrom c' := by
  rw [runFrom_bind, h]

theorem runFrom_ofExcept {α : Type} (outcome : Except Fault α) (c : Cursor) :
    (ofExcept outcome).runFrom c = (outcome, c) := rfl

theorem runFrom_get (c : Cursor) : (get : Read Cursor).runFrom c = (.ok c, c) := rfl

end Read

theorem Read.fst_runFrom_ofExcept_bind {α β : Type} (x : Except Fault α) (f : α → Read β)
    (c : Cursor) : ((ofExcept x >>= f).runFrom c).1 = x >>= fun a => ((f a).runFrom c).1 := by
  rw [runFrom_bind, runFrom_ofExcept]
  cases x <;> rfl

theorem Read.fst_runFrom_map {α β : Type} (x : Read α) (f : α → β) (c : Cursor) :
    ((x >>= fun a => pure (f a)).runFrom c).1 = (x.runFrom c).1.map f := by
  rw [runFrom_bind]
  cases x.runFrom c with
  | mk outcome c => cases outcome <;> rfl

theorem Cursor.rest_advance {c : Cursor} {bytes more : Bytes} (h : c.rest = bytes ++ more) :
    ({ c with pos := c.pos + bytes.length } : Cursor).rest = more := by
  show c.data.drop (c.pos + bytes.length) = more
  rw [← List.drop_drop]
  show c.rest.drop bytes.length = more
  rw [h, List.drop_left]

theorem Cursor.length_rest (c : Cursor) : c.rest.length = c.data.length - c.pos :=
  List.length_drop

theorem bytesAt?_eq_some {c : Cursor} {bytes more : Bytes} (h : c.rest = bytes ++ more)
    (hpos : c.pos ≤ c.data.length) : bytesAt? c.data c.pos bytes.length = some bytes := by
  have hlen := c.length_rest
  rw [h, List.length_append] at hlen
  rw [bytesAt?, if_pos (by omega)]
  show some (c.rest.take bytes.length) = some bytes
  rw [h, List.take_left]

/-- The action takes these bytes and gives `a`, wherever it begins and whatever follows. -/
def Reads {α : Type} (action : Read α) (bytes : Bytes) (a : α) : Prop :=
  ∀ (c : Cursor) (more : Bytes), c.pos ≤ c.data.length → c.rest = bytes ++ more →
    action.runFrom c = (.ok a, { c with pos := c.pos + bytes.length })

namespace Reads

variable {α β : Type}

theorem pure (a : α) : Reads (Pure.pure a) [] a := fun _ _ _ _ => rfl

theorem bind {x : Read α} {f : α → Read β} {front back : Bytes} {a : α} {b : β}
    (hx : Reads x front a) (hf : Reads (f a) back b) : Reads (x >>= f) (front ++ back) b := by
  intro c more hpos h
  rw [List.append_assoc] at h
  have hlen := c.length_rest
  rw [h, List.length_append] at hlen
  have hroom : c.pos + front.length ≤ c.data.length := by omega
  have hback := hf { c with pos := c.pos + front.length } more hroom (Cursor.rest_advance h)
  rw [Read.runFrom_bind_ok (hx c _ hpos h), hback, List.length_append, ← Nat.add_assoc]

theorem map {x : Read α} {f : α → β} {bytes : Bytes} {a : α} (hx : Reads x bytes a) :
    Reads (do return f (← x)) bytes (f a) := by
  have h := hx.bind (f := fun a => Pure.pure (f a)) (pure (f a))
  rw [List.append_nil] at h
  exact h

theorem block (bytes : Bytes) : Reads (Read.block bytes.length) bytes bytes := by
  intro c more hpos h
  rw [Read.block, Read.runFrom_bind_ok (Read.runFrom_get c), bytesAt?_eq_some h hpos]
  rfl

theorem u32 (w : UInt32) : Reads Read.u32 (wordBytes w) w := by
  have h := block (wordBytes w)
  rw [length_wordBytes] at h
  have hword := h.map (f := wordOfBytes)
  rw [wordOfBytes_wordBytes] at hword
  exact hword

end Reads

/-! ### Failures -/

/-- If this failed, then in the data at a position up to `bound`. -/
def FailsWithin {α : Type} (bound : Nat) (x : Except Fault α) : Prop :=
  ∀ e, x = .error e → ∃ position cause, e = .decode position cause ∧ position ≤ bound

namespace FailsWithin

variable {α β : Type} {bound : Nat}

theorem ok (a : α) : FailsWithin bound (.ok a) := nofun

theorem error {position : Nat} (h : position ≤ bound) (cause : DecodeCause) :
    FailsWithin bound (.error (.decode position cause) : Except Fault α) := by
  rintro e ⟨⟩
  exact ⟨position, cause, rfl, h⟩

theorem mono {bound' : Nat} {x : Except Fault α} (hx : FailsWithin bound x) (h : bound ≤ bound') :
    FailsWithin bound' x := by
  intro e he
  obtain ⟨position, cause, rfl, hposition⟩ := hx e he
  exact ⟨position, cause, rfl, hposition.trans h⟩

theorem bind {x : Except Fault α} {f : α → Except Fault β} (hx : FailsWithin bound x)
    (hf : ∀ a, x = .ok a → FailsWithin bound (f a)) : FailsWithin bound (x >>= f) := by
  cases x with
  | error e =>
    rintro e' ⟨⟩
    exact hx e rfl
  | ok a => exact hf a rfl

theorem map {x : Except Fault α} (hx : FailsWithin bound x) (f : α → β) :
    FailsWithin bound (x.map f) := by
  cases x with
  | error e =>
    rintro e' ⟨⟩
    exact hx e rfl
  | ok a => exact ok (f a)

end FailsWithin

/-- The action takes `size` bytes. Where there are fewer it fails, at a position inside of the data
or at its end. -/
def Needs {α : Type} (action : Read α) (size : Nat) : Prop :=
  ∀ c : Cursor, c.pos ≤ c.data.length →
    (c.pos + size ≤ c.data.length ∧
      ∃ a, action.runFrom c = (.ok a, { c with pos := c.pos + size })) ∨
    (c.data.length < c.pos + size ∧ ∃ position cause c',
      action.runFrom c = (.error (.decode position cause), c') ∧ position ≤ c.base + c.data.length)

namespace Needs

variable {α β : Type}

theorem pure (a : α) : Needs (Pure.pure a) 0 := fun _ hpos => .inl ⟨hpos, a, rfl⟩

theorem bind {x : Read α} {f : α → Read β} {m n : Nat} (hx : Needs x m)
    (hf : ∀ a, Needs (f a) n) : Needs (x >>= f) (m + n) := by
  intro c hpos
  rcases hx c hpos with ⟨hroom, a, ha⟩ | ⟨hshort, position, cause, c', hfail, hposition⟩
  · rcases hf a { c with pos := c.pos + m } hroom with
      ⟨hroom', b, hb⟩ | ⟨hshort', position, cause, c', hfail, hposition⟩
    · refine .inl ⟨by simpa [Nat.add_assoc] using hroom', b, ?_⟩
      rw [Read.runFrom_bind_ok ha, hb, ← Nat.add_assoc]
    · refine .inr ⟨by simpa [Nat.add_assoc] using hshort', position, cause, c', ?_, hposition⟩
      rw [Read.runFrom_bind_ok ha, hfail]
  · refine .inr ⟨by omega, position, cause, c', ?_, hposition⟩
    rw [Read.runFrom_bind, hfail]

theorem block (count : Nat) : Needs (Read.block count) count := by
  intro c hpos
  rw [Read.block, Read.runFrom_bind_ok (Read.runFrom_get c), bytesAt?]
  by_cases hroom : c.pos + count ≤ c.data.length
  · rw [if_pos hroom]
    exact .inl ⟨hroom, _, rfl⟩
  · rw [if_neg hroom]
    exact .inr ⟨by omega, c.absolute, _, c, rfl, by simp [Cursor.absolute, hpos]⟩

theorem u32 : Needs Read.u32 4 := (block 4).bind fun _ => pure _

end Needs

end NovelScript
