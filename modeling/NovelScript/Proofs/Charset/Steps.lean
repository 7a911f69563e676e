import NovelScript.Charset.Codec
import NovelScript.Proofs.Outcome

/-!
How far a decoder looks. Where a step gives a character, it has looked at the bytes that this
character covers and at no others (`local_step`). So a character is read whatever comes behind its
bytes (`step_append`), and no beginning of these bytes is text by itself (`decode?_eq_none`).
-/

namespace NovelScript.Charset

/-! ### Decoders that look no further -/

/-- A decoder of what is behind the first byte and `taken` bytes more. Where it gives a character,
it has looked at the bytes that are covered and at no others; these are at most three. -/
def Local (taken : Nat) (read : Bytes → Decoded) : Prop :=
  ∀ bytes c more, read bytes = .char c more →
    ∃ front back, bytes = front ++ back ∧ taken + front.length = more ∧ more ≤ 3 ∧
      ∀ rest, read (front ++ rest) = .char c more

namespace Local

variable {taken : Nat}

theorem char (h : taken ≤ 3) (c : Char) : Local taken fun _ => .char c taken := by
  intro bytes c' more heq
  obtain ⟨rfl, rfl⟩ := Decoded.mk.inj heq |>.imp_left Option.some.inj
  exact ⟨[], bytes, rfl, rfl, h, fun _ => rfl⟩

theorem code (h : taken ≤ 3) (n : Nat) : Local taken fun _ => .code n taken := char h _

theorem malformed (more : Nat) : Local taken fun _ => .malformed more :=
  fun _ _ _ heq => nomatch (Decoded.mk.inj heq).1

theorem ofTable (h : taken ≤ 3) (found : Option Char) (otherwise : Nat) :
    Local taken fun _ => .ofTable found taken otherwise := by
  cases found with
  | none => exact malformed otherwise
  | some c => exact char h c

theorem ite {p : Prop} [Decidable p] {f g : Bytes → Decoded} (hf : p → Local taken f)
    (hg : ¬ p → Local taken g) : Local taken fun bytes => if p then f bytes else g bytes := by
  by_cases h : p
  · simpa only [if_pos h] using hf h
  · simpa only [if_neg h] using hg h

/-- A decoder that takes one more byte, without which there is no character. -/
theorem next {read : Bytes → Decoded} {f : UInt8 → Bytes → Decoded} (short : Nat)
    (hnil : read [] = .malformed short) (hcons : ∀ t rest, read (t :: rest) = f t rest)
    (hf : ∀ t, Local (taken + 1) (f t)) : Local taken read := by
  intro bytes c more heq
  cases bytes with
  | nil => exact nomatch (Decoded.mk.inj (hnil.symm.trans heq)).1
  | cons t bytes =>
    obtain ⟨front, back, rfl, hlen, hle, hread⟩ :=
      hf t bytes c more ((hcons t bytes).symm.trans heq)
    refine ⟨t :: front, back, rfl, ?_, hle, fun rest => (hcons t _).trans (hread rest)⟩
    rw [List.length_cons, ← hlen]
    omega

end Local

/-! ### The charsets -/

theorem ShiftJis.local_step (b : UInt8) : Local 0 (step b) := by
  refine Local.ite (fun _ => .code (by decide) _) fun _ => ?_
  refine Local.ite (fun _ => .code (by decide) _) fun _ => ?_
  refine Local.ite (fun _ => ?_) fun _ => .malformed _
  refine Local.next 0 rfl (fun _ _ => rfl) fun t => ?_
  exact Local.ite (fun _ => .ofTable (by decide) _ _) fun _ => .malformed _

theorem Gbk.local_wideStep (b₁ b₂ : UInt8) : Local 1 (wideStep b₁ b₂) := by
  refine Local.next 1 rfl (fun _ _ => rfl) fun b₃ => ?_
  refine Local.ite (fun _ => ?_) fun _ => .malformed _
  refine Local.next 2 rfl (fun _ _ => rfl) fun b₄ => ?_
  exact Local.ite (fun _ => .ofTable (by decide) _ _) fun _ => .malformed _

theorem Gbk.local_step (b : UInt8) : Local 0 (step b) := by
  refine Local.ite (fun _ => .code (by decide) _) fun _ => ?_
  refine Local.ite (fun _ => .char (by decide) _) fun _ => ?_
  refine Local.ite (fun _ => ?_) fun _ => .malformed _
  refine Local.next 0 rfl (fun _ _ => rfl) fun t => ?_
  refine Local.ite (fun _ => local_wideStep b t) fun _ => ?_
  exact Local.ite (fun _ => .ofTable (by decide) _ _) fun _ => .malformed _

theorem Utf8.local_continueStep {taken n count : Nat} (h : taken + count ≤ 3) :
    Local taken (continueStep taken n count) := by
  induction count generalizing taken n with
  | zero => exact .code h _
  | succ count ih =>
    refine Local.next taken rfl (fun _ _ => rfl) fun b => ?_
    exact Local.ite (fun _ => ih (by omega)) fun _ => .malformed _

theorem Utf8.local_sequenceStep {lead : UInt8} {n count : Nat} (h : count ≤ 2) :
    Local 0 (sequenceStep lead n count) := by
  refine Local.next 0 rfl (fun _ _ => rfl) fun b => ?_
  exact Local.ite (fun _ => local_continueStep (by omega)) fun _ => .malformed _

theorem Utf8.local_step (b : UInt8) : Local 0 (step b) := by
  refine Local.ite (fun _ => .code (by decide) _) fun _ => ?_
  refine Local.ite (fun _ => local_sequenceStep (by decide)) fun _ => ?_
  refine Local.ite (fun _ => local_sequenceStep (by decide)) fun _ => ?_
  exact Local.ite (fun _ => local_sequenceStep (by decide)) fun _ => .malformed _

theorem local_step (cs : Charset) (b : UInt8) : Local 0 (cs.step b) := by
  cases cs with
  | shiftJis => exact ShiftJis.local_step b
  | gbk => exact Gbk.local_step b
  | utf8 => exact Utf8.local_step b

/-! ### Characters at the front -/

variable {cs : Charset} {b : UInt8} {c : Char}

theorem exists_of_step {bytes : Bytes} {more : Nat} (h : cs.step b bytes = .char c more) :
    ∃ front back, bytes = front ++ back ∧ front.length = more ∧ more ≤ 3 ∧
      ∀ rest, cs.step b (front ++ rest) = .char c more := by
  obtain ⟨front, back, hbytes, hlen, hle, hread⟩ := local_step cs b bytes c more h
  exact ⟨front, back, hbytes, by omega, hle, hread⟩

theorem step_append {front : Bytes} (h : cs.step b front = .char c front.length) (rest : Bytes) :
    cs.step b (front ++ rest) = .char c front.length := by
  obtain ⟨front', back, hfront, hlen, -, hread⟩ := exists_of_step h
  have hback : back = [] := by
    have hlength := congrArg List.length hfront
    rw [List.length_append, hlen] at hlength
    exact List.eq_nil_of_length_eq_zero (by omega)
  rw [hback, List.append_nil] at hfront
  rw [hfront] at hread ⊢
  exact hread rest

theorem decode?_cons (cs : Charset) (b : UInt8) (rest : Bytes) :
    cs.decode? (b :: rest) = (cs.step b rest).char?.bind fun c =>
      (cs.decode? (rest.drop (cs.step b rest).more)).map (c :: ·) := by
  rw [decode?, decodeSteps_cons, List.mapM_cons]
  cases (cs.step b rest).char? with
  | none => rfl
  | some c =>
    show ((decodeSteps cs.step 0 _).mapM id >>= fun t => some (c :: t)) = Option.map _ (decode? _ _)
    rw [decode?]
    cases (decodeSteps cs.step 0 (rest.drop (cs.step b rest).more)).mapM id <;> rfl

theorem decode?_eq_nil_iff {bytes : Bytes} : cs.decode? bytes = some [] ↔ bytes = [] := by
  cases bytes with
  | nil => exact ⟨fun _ => rfl, fun _ => rfl⟩
  | cons b rest =>
    refine ⟨fun h => ?_, nofun⟩
    rw [decode?_cons, Option.bind_eq_some_iff] at h
    obtain ⟨c, -, h⟩ := h
    obtain ⟨t, -, ht⟩ := Option.map_eq_some_iff.1 h
    exact nomatch ht

theorem decode?_eq_singleton_iff {bytes : Bytes} :
    cs.decode? bytes = some [c] ↔
      ∃ b front, bytes = b :: front ∧ cs.step b front = .char c front.length := by
  constructor
  · intro h
    cases bytes with
    | nil => exact nomatch Option.some.inj h
    | cons b front =>
      refine ⟨b, front, rfl, ?_⟩
      rw [decode?_cons, Option.bind_eq_some_iff] at h
      obtain ⟨c', hchar, h⟩ := h
      obtain ⟨t, hrest, ht⟩ := Option.map_eq_some_iff.1 h
      obtain ⟨rfl, rfl⟩ := List.cons.inj ht
      have hstep : cs.step b front = .char c' (cs.step b front).more := by
        rw [Decoded.char, ← hchar]
      obtain ⟨front', back, hfront, hlen, -⟩ := exists_of_step hstep
      have hle := List.drop_eq_nil_iff.1 (decode?_eq_nil_iff.1 hrest)
      have hmore : (cs.step b front).more = front.length := by
        have hlength := congrArg List.length hfront
        rw [List.length_append] at hlength
        omega
      rw [← hmore]
      exact hstep
  · rintro ⟨b, front, rfl, hstep⟩
    rw [decode?_cons, hstep]
    show (decode? cs (front.drop front.length)).map (c :: ·) = some [c]
    rw [List.drop_length]
    rfl

theorem decode?_eq_none {front back : Bytes} (h : cs.decode? (front ++ back) = some [c])
    (hfront : front ≠ []) (hback : back ≠ []) : cs.decode? front = none := by
  obtain ⟨b', all, hbytes, hstep⟩ := decode?_eq_singleton_iff.1 h
  obtain ⟨b, front, rfl⟩ := List.exists_cons_of_ne_nil hfront
  rw [List.cons_append] at hbytes
  obtain ⟨rfl, rfl⟩ := List.cons.inj hbytes
  rw [decode?_cons, Option.bind_eq_none_iff]
  intro c' hchar
  -- a character that is read of the front alone covers no more than that, also in the whole
  have hstep' : cs.step b front = .char c' (cs.step b front).more := by
    rw [Decoded.char, ← hchar]
  obtain ⟨front', back', rfl, hlen, -, hread⟩ := exists_of_step hstep'
  rw [List.append_assoc, hread, List.length_append, List.length_append] at hstep
  have hmore := (Decoded.mk.inj hstep).2
  have hpos := List.length_pos_of_ne_nil hback
  omega

end NovelScript.Charset
