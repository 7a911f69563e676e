import NovelScript.Proofs.Following

/-!
Cursors through any sequence of reads. `Effect` says once what a step can do to a cursor: all that
is said of sequences follows from it. The position and all saved positions stay inside of the data
(`legal_after`), a step that fails changes nothing, reading an instruction apart (`effect_run`), and
a restore undoes everything since the latest save that has not been restored (`after_restore`).
-/

namespace NovelScript

/-- A use of a cursor. What it reads does not matter here. -/
inductive ReadStep
  | u8
  | u16
  | u32
  | u64
  | block (count : Nat)
  | cstr
  | peek (count : Nat)
  | seek (pos : Nat)
  | save
  | restore
  | instruction
  deriving DecidableEq, Repr

/-- The position and the saved positions lie in the data or at its end. -/
structure Cursor.Legal (c : Cursor) : Prop where
  pos_le : c.pos ≤ c.data.length
  saved_le : ∀ pos ∈ c.saved, pos ≤ c.data.length

theorem Read.runFrom_discard {α : Type} (action : Read α) (c : Cursor) :
    (discard action).runFrom c = ((action.runFrom c).1.map fun _ => (), (action.runFrom c).2) := by
  show (action >>= fun a => (pure () : Read Unit)).runFrom c = _
  rw [Read.runFrom_bind]
  cases action.runFrom c with
  | mk outcome c => cases outcome <;> rfl

namespace ReadStep

def action : ReadStep → Read Unit
  | u8 => discard Read.u8
  | u16 => discard Read.u16
  | u32 => discard Read.u32
  | u64 => discard Read.u64
  | block count => discard (Read.block count)
  | cstr => discard Read.cstr
  | peek count => discard (Read.peek count)
  | seek pos => Read.seek pos
  | save => Read.save
  | restore => Read.restore
  | instruction => discard Read.instruction

def run (s : ReadStep) (c : Cursor) : Except Fault Unit × Cursor := s.action.runFrom c

/-- The absolute position that a step reports if it fails: where it was to go, or where it began. -/
def reported (s : ReadStep) (c : Cursor) : Nat :=
  match s with
  | seek pos => c.base + pos
  | _ => c.absolute

def IsPlain (s : ReadStep) : Prop := s ≠ save ∧ s ≠ restore

inductive Effect (c : Cursor) : ReadStep → Except Fault Unit × Cursor → Prop
  | saved : Effect c save (.ok (), { c with saved := c.pos :: c.saved })
  | nothingSaved (h : c.saved = []) : Effect c restore (.ok (), c)
  | restored {pos : Nat} {saved : List Nat} (h : c.saved = pos :: saved) :
      Effect c restore (.ok (), { c with pos, saved })
  | moved {s : ReadStep} {pos : Nat} (hs : s.IsPlain) (hpos : pos ≤ c.data.length) :
      Effect c s (.ok (), { c with pos })
  | refused {s : ReadStep} {cause : DecodeCause} (hs : s.IsPlain) :
      Effect c s (.error (.decode (s.reported c) cause), c)
  /-- Reading an instruction can stop on the way. -/
  | stopped {pos position : Nat} {cause : DecodeCause} (hpos : pos ≤ c.data.length)
      (hposition : position ≤ c.base + c.data.length) :
      Effect c instruction (.error (.decode position cause), { c with pos })

/-! ### One step -/

section

variable {α : Type} {c : Cursor}

/-- The action goes on to somewhere in the data, or it fails where it is and stays. -/
def Steady (action : Read α) (c : Cursor) : Prop :=
  (∃ a pos, pos ≤ c.data.length ∧ action.runFrom c = (.ok a, { c with pos })) ∨
    ∃ cause, action.runFrom c = (.error (.decode c.absolute cause), c)

theorem Steady.map {β : Type} {action : Read α} (h : Steady action c) (f : α → β) :
    Steady (do return f (← action)) c := by
  rcases h with ⟨a, pos, hpos, hrun⟩ | ⟨cause, hrun⟩
  · exact .inl ⟨f a, pos, hpos, Read.runFrom_bind_ok hrun⟩
  · refine .inr ⟨cause, ?_⟩
    rw [Read.runFrom_bind, hrun]

theorem steady_block (count : Nat) : Steady (Read.block count) c := by
  rw [Steady, Read.block, Read.runFrom_bind_ok (Read.runFrom_get c), bytesAt?]
  by_cases hroom : c.pos + count ≤ c.data.length
  · rw [if_pos hroom]
    exact .inl ⟨_, _, hroom, rfl⟩
  · rw [if_neg hroom]
    exact .inr ⟨_, rfl⟩

/-- The zero byte behind a text is in the data, too. -/
theorem steady_cstr : Steady Read.cstr c := by
  rw [Steady, Read.cstr, Read.runFrom_bind_ok (Read.runFrom_get c)]
  cases hfind : c.rest.idxOf? 0 with
  | none => exact .inr ⟨_, rfl⟩
  | some length =>
    obtain ⟨hlength, -⟩ := List.idxOf?_eq_some_iff.1 hfind
    rw [Cursor.length_rest] at hlength
    exact .inl ⟨_, _, by omega, rfl⟩

theorem Steady.effect {s : ReadStep} {action : Read α} (h : Steady action c) (hs : s.IsPlain)
    (hreported : s.reported c = c.absolute) (haction : s.action = discard action) :
    Effect c s (s.run c) := by
  rw [run, haction, Read.runFrom_discard]
  rcases h with ⟨a, pos, hpos, hrun⟩ | ⟨cause, hrun⟩
  · rw [hrun]
    exact .moved hs hpos
  · rw [hrun, ← hreported]
    exact .refused hs

theorem effect_seek (pos : Nat) : Effect c (seek pos) ((seek pos).run c) := by
  have hs : (seek pos).IsPlain := ⟨nofun, nofun⟩
  rw [run, action, Read.seek, Read.runFrom_bind_ok (Read.runFrom_get c)]
  by_cases hpos : c.data.length < pos
  · rw [if_pos hpos]
    exact .refused hs
  · rw [if_neg hpos]
    exact .moved hs (by omega)

theorem run_restore_of_cons {pos : Nat} {saved : List Nat} (h : c.saved = pos :: saved) :
    restore.run c = (.ok (), { c with pos, saved }) := by
  obtain ⟨data, base, here, _⟩ := c
  subst h
  rfl

theorem run_restore_of_nil (h : c.saved = []) : restore.run c = (.ok (), c) := by
  obtain ⟨data, base, pos, _⟩ := c
  subst h
  rfl

theorem effect_restore : Effect c restore (restore.run c) := by
  cases hsaved : c.saved with
  | nil =>
    rw [run_restore_of_nil hsaved]
    exact .nothingSaved hsaved
  | cons pos saved =>
    rw [run_restore_of_cons hsaved]
    exact .restored hsaved

/-- An instruction that cannot be read is left behind the part that was read. -/
theorem effect_instruction (h : c.pos ≤ c.data.length) :
    Effect c instruction (instruction.run c) := by
  have hlength := c.length_rest
  rw [run, action, Read.runFrom_discard, Read.runFrom_instruction]
  cases hdecode : Instruction.decode c.rest with
  | ok pair => exact .moved ⟨nofun, nofun⟩ (Nat.sub_le _ _)
  | error cause =>
    have hoffset := Instruction.failureOffset_le c.rest.length cause
    have hpassed := Instruction.passedOffset_le hdecode
    refine .stopped (by omega) ?_
    rw [Cursor.absolute]
    omega

end

theorem effect_run {c : Cursor} (h : c.pos ≤ c.data.length) (s : ReadStep) :
    Effect c s (s.run c) := by
  cases s with
  | u8 => exact ((steady_block 1).map _).effect ⟨nofun, nofun⟩ rfl rfl
  | u16 => exact ((steady_block 2).map _).effect ⟨nofun, nofun⟩ rfl rfl
  | u32 => exact ((steady_block 4).map _).effect ⟨nofun, nofun⟩ rfl rfl
  | u64 => exact ((steady_block 8).map _).effect ⟨nofun, nofun⟩ rfl rfl
  | block count => exact (steady_block count).effect ⟨nofun, nofun⟩ rfl rfl
  | cstr => exact steady_cstr.effect ⟨nofun, nofun⟩ rfl rfl
  | peek count => exact .moved ⟨nofun, nofun⟩ h
  | seek pos => exact effect_seek pos
  | save => exact .saved
  | restore => exact effect_restore
  | instruction => exact effect_instruction h

variable {s : ReadStep} {c : Cursor} {result : Except Fault Unit × Cursor}

theorem Effect.legal (h : Effect c s result) (hc : c.Legal) : result.2.Legal := by
  cases h with
  | saved => exact ⟨hc.pos_le, List.forall_mem_cons.2 ⟨hc.pos_le, hc.saved_le⟩⟩
  | nothingSaved => exact hc
  | restored hsaved =>
    have hle := hc.saved_le
    rw [hsaved] at hle
    exact ⟨(List.forall_mem_cons.1 hle).1, (List.forall_mem_cons.1 hle).2⟩
  | moved _ hpos => exact ⟨hpos, hc.saved_le⟩
  | refused => exact hc
  | stopped hpos => exact ⟨hpos, hc.saved_le⟩

theorem Effect.same (h : Effect c s result) : result.2.data = c.data ∧ result.2.base = c.base := by
  cases h <;> exact ⟨rfl, rfl⟩

theorem Effect.saved_eq (h : Effect c s result) (hs : s.IsPlain) : result.2.saved = c.saved := by
  cases h with
  | saved => exact absurd rfl hs.1
  | nothingSaved => exact absurd rfl hs.2
  | restored => exact absurd rfl hs.2
  | moved => rfl
  | refused => rfl
  | stopped => rfl

/-- With nothing saved, restoring does nothing. -/
theorem Effect.of_nothingSaved (h : Effect c restore result) (hnone : c.saved = []) :
    result.2 = c := by
  cases h with
  | nothingSaved => rfl
  | restored hsaved => exact absurd (hnone.symm.trans hsaved) nofun
  | moved hs => exact absurd rfl hs.2
  | refused => rfl

/-- A step that fails has no effect, reading an instruction apart. -/
theorem Effect.fails (h : Effect c s result) (hs : s ≠ instruction) {fault : Fault}
    (hfault : result.1 = .error fault) :
    result.2 = c ∧ ∃ cause, fault = .decode (s.reported c) cause := by
  cases h with
  | saved => exact nomatch hfault
  | nothingSaved => exact nomatch hfault
  | restored => exact nomatch hfault
  | moved => exact nomatch hfault
  | refused => exact ⟨rfl, _, (Except.error.inj hfault).symm⟩
  | stopped => exact absurd rfl hs

/-- A failure is reported in the data or at its end, or where a step was to go. -/
theorem Effect.position (h : Effect c s result) (hc : c.Legal) {fault : Fault}
    (hfault : result.1 = .error fault) : ∃ position cause, fault = .decode position cause ∧
      (position ≤ c.base + c.data.length ∨ ∃ pos, s = seek pos ∧ position = c.base + pos) := by
  have hle := hc.pos_le
  cases h with
  | saved => exact nomatch hfault
  | nothingSaved => exact nomatch hfault
  | restored => exact nomatch hfault
  | moved => exact nomatch hfault
  | refused =>
    obtain rfl := Except.error.inj hfault
    refine ⟨_, _, rfl, ?_⟩
    cases s with
    | seek pos => exact .inr ⟨pos, rfl, rfl⟩
    | _ => exact .inl (Nat.add_le_add_left hle c.base)
  | stopped _ hposition =>
    obtain rfl := Except.error.inj hfault
    exact ⟨_, _, rfl, .inl hposition⟩

end ReadStep

/-! ### Many steps -/

namespace Cursor

def after (c : Cursor) : List ReadStep → Cursor
  | [] => c
  | s :: steps => (s.run c).2.after steps

variable {c : Cursor}

theorem after_append (c : Cursor) (front back : List ReadStep) :
    c.after (front ++ back) = (c.after front).after back := by
  induction front generalizing c with
  | nil => rfl
  | cons s front ih => exact ih (s.run c).2

theorem legal_after (h : c.Legal) (steps : List ReadStep) : (c.after steps).Legal := by
  induction steps generalizing c with
  | nil => exact h
  | cons s steps ih => exact ih ((ReadStep.effect_run h.pos_le s).legal h)

theorem same_after (h : c.Legal) (steps : List ReadStep) :
    (c.after steps).data = c.data ∧ (c.after steps).base = c.base := by
  induction steps generalizing c with
  | nil => exact ⟨rfl, rfl⟩
  | cons s steps ih =>
    have heffect := ReadStep.effect_run h.pos_le s
    obtain ⟨hdata, hbase⟩ := ih (heffect.legal h)
    exact ⟨hdata.trans heffect.same.1, hbase.trans heffect.same.2⟩

end Cursor

/-! ### Saving and restoring -/

/-- Steps in which every save has its restore and every restore its save. -/
inductive Balanced : List ReadStep → Prop
  | nil : Balanced []
  | plain {s : ReadStep} (h : s.IsPlain) : Balanced [s]
  | append {front back : List ReadStep} (hfront : Balanced front) (hback : Balanced back) :
      Balanced (front ++ back)
  | matched {inner : List ReadStep} (h : Balanced inner) :
      Balanced (.save :: inner ++ [.restore])

namespace Cursor

variable {c : Cursor}

theorem after_concat (c : Cursor) (front : List ReadStep) (s : ReadStep) :
    c.after (front ++ [s]) = (s.run (c.after front)).2 := after_append c front [s]

/-- A restore whose save was the last one to remain undoes everything since. -/
theorem after_matched {inner : List ReadStep} (h : c.Legal)
    (hsaved : (c.after (.save :: inner)).saved = c.pos :: c.saved) :
    c.after (.save :: inner ++ [.restore]) = c := by
  obtain ⟨hdata, hbase⟩ := same_after h (.save :: inner)
  rw [after_concat, ReadStep.run_restore_of_cons hsaved, hdata, hbase]

/-- Balanced steps leave behind what was saved before them. -/
theorem saved_after {steps : List ReadStep} (hsteps : Balanced steps) (h : c.Legal) :
    (c.after steps).saved = c.saved := by
  induction hsteps generalizing c with
  | nil => rfl
  | plain hs => exact (ReadStep.effect_run h.pos_le _).saved_eq hs
  | append _ _ ihfront ihback => rw [after_append, ihback (legal_after h _), ihfront h]
  | matched _ ih =>
    rw [after_matched h]
    exact ih ((ReadStep.effect_run h.pos_le .save).legal h)

/-- A restore goes back to the latest save that has no restore yet. -/
theorem after_restore (h : c.Legal) (front : List ReadStep) {inner : List ReadStep}
    (hinner : Balanced inner) :
    c.after (front ++ .save :: inner ++ [.restore]) = c.after front := by
  have hlegal := legal_after h front
  rw [List.append_assoc, after_append]
  apply after_matched hlegal
  exact saved_after hinner ((ReadStep.effect_run hlegal.pos_le .save).legal hlegal)

theorem exists_save (h : c.Legal) (hnone : c.saved = []) (steps : List ReadStep) :
    (c.after steps).saved = [] ∨
      ∃ front inner, steps = front ++ .save :: inner ∧ Balanced inner := by
  generalize hn : steps.length = n
  -- on the length, since behind a restore the search goes on before the save that it matches
  induction n using Nat.strongRecOn generalizing steps with
  | ind n ih =>
    rcases List.eq_nil_or_concat' steps with rfl | ⟨front, s, rfl⟩
    · exact .inl hnone
    rw [List.length_append, List.length_singleton] at hn
    have hfront := ih front.length (by omega) front rfl
    have heffect := ReadStep.effect_run (legal_after h front).pos_le s
    rw [after_concat]
    by_cases hsave : s = .save
    · exact .inr ⟨front, [], by rw [hsave], .nil⟩
    by_cases hrestore : s = .restore
    · subst hrestore
      rcases hfront with hempty | ⟨before, inner, rfl, hinner⟩
      · rw [heffect.of_nothingSaved hempty]
        exact .inl hempty
      · rw [List.length_append] at hn
        rw [← after_concat, after_restore h before hinner]
        rcases ih before.length (by omega) before rfl with hempty | ⟨before', inner', rfl, hinner'⟩
        · exact .inl hempty
        · refine .inr ⟨before', inner' ++ (.save :: inner ++ [.restore]), ?_,
            hinner'.append (.matched hinner)⟩
          simp
    · have hs : s.IsPlain := ⟨hsave, hrestore⟩
      rw [heffect.saved_eq hs]
      rcases hfront with hempty | ⟨before, inner, rfl, hinner⟩
      · exact .inl hempty
      · exact .inr ⟨before, inner ++ [s], by simp, hinner.append (.plain hs)⟩

/-- Where every save has its restore already, a restore does nothing. -/
theorem after_restore_of_none (h : c.Legal) (hnone : c.saved = []) {steps : List ReadStep}
    (hmatched : ∀ front inner, steps = front ++ .save :: inner → ¬ Balanced inner) :
    c.after (steps ++ [.restore]) = c.after steps := by
  have hempty := (exists_save h hnone steps).resolve_right fun ⟨front, inner, heq, hinner⟩ =>
    hmatched front inner heq hinner
  rw [after_concat]
  exact (ReadStep.effect_run (legal_after h steps).pos_le .restore).of_nothingSaved hempty

end Cursor

/-! ### Main result -/

/-- A cursor that begins at the front of data stays in it, whatever is done, and positions fit into
a machine word as long as those of the data and of all targets do. A step that fails changes nothing
and says where it was, reading an instruction apart. A restore brings back the cursor as it was at
the latest save that has no restore yet, and does nothing if there is none. -/
theorem cursor_orderly {data : Bytes} {base : Nat} {steps : List ReadStep}
    (hbase : base + data.length < 2 ^ 64)
    (hseek : ∀ pos, ReadStep.seek pos ∈ steps → base + pos < 2 ^ 64) :
    (∀ front : List ReadStep, front <+: steps →
      let c := ({ data, base } : Cursor).after front
      c.Legal ∧ c.data = data ∧ c.base = base ∧ c.pos + c.remaining = data.length ∧
        c.absolute < 2 ^ 64) ∧
    (∀ (front : List ReadStep) (s : ReadStep) (fault : Fault), front ++ [s] <+: steps →
      let c := ({ data, base } : Cursor).after front
      (s.run c).1 = .error fault →
        (∃ position cause, fault = .decode position cause ∧ position < 2 ^ 64) ∧
        (s ≠ .instruction → (s.run c).2 = c ∧ ∃ cause, fault = .decode (s.reported c) cause)) ∧
    ∀ front : List ReadStep,
      let c := ({ data, base } : Cursor)
      (∀ before inner : List ReadStep, front = before ++ .save :: inner → Balanced inner →
        c.after (front ++ [.restore]) = c.after before) ∧
      ((∀ before inner : List ReadStep, front = before ++ .save :: inner → ¬ Balanced inner) →
        c.after (front ++ [.restore]) = c.after front) := by
  have hlegal : ({ data, base } : Cursor).Legal := ⟨Nat.zero_le _, nofun⟩
  refine ⟨?_, ?_, ?_⟩
  · intro front _ c
    have hc : c.Legal := Cursor.legal_after hlegal front
    obtain ⟨hdata, hbase'⟩ : c.data = data ∧ c.base = base := Cursor.same_after hlegal front
    have hle := hc.pos_le
    rw [hdata] at hle
    refine ⟨hc, hdata, hbase', ?_, ?_⟩
    · rw [Cursor.remaining, hdata]
      omega
    · rw [Cursor.absolute, hbase']
      omega
  · intro front s fault hfront c hfault
    have hc : c.Legal := Cursor.legal_after hlegal front
    obtain ⟨hdata, hbase'⟩ : c.data = data ∧ c.base = base := Cursor.same_after hlegal front
    have heffect := ReadStep.effect_run hc.pos_le s
    refine ⟨?_, fun hs => heffect.fails hs hfault⟩
    obtain ⟨position, cause, hdecode, hposition⟩ := heffect.position hc hfault
    refine ⟨position, cause, hdecode, ?_⟩
    rw [hdata, hbase'] at hposition
    rcases hposition with hle | ⟨pos, rfl, rfl⟩
    · omega
    · exact hseek pos (hfront.subset (List.mem_append_right _ (List.mem_singleton_self _)))
  · intro front c
    refine ⟨?_, fun hnone => Cursor.after_restore_of_none hlegal rfl hnone⟩
    rintro before inner rfl hinner
    exact Cursor.after_restore hlegal before hinner

/-- Steps of all sorts: a jump table that is cut off between a save and its restore, a word that is
not there, a text up to the last byte, a target behind the data, and a restore too many. -/
def someSteps : List ReadStep :=
  [.u8, .save, .instruction, .restore, .u64, .peek 9, .cstr, .block (2 ^ 64 - 1), .seek 7, .restore]

theorem cursor_orderly_someSteps :
    let c : Cursor := { data := [0x26, 0x24, 2, 1, 0], base := 0x100 }
    c.base + c.data.length < 2 ^ 64 ∧
      (∀ pos, ReadStep.seek pos ∈ someSteps → c.base + pos < 2 ^ 64) ∧
      (c.after someSteps).Legal ∧
      (c.after [.u8, .save, .instruction]).pos = 3 ∧
      c.after [.u8, .save, .instruction, .restore] = c.after [.u8] ∧
      (c.after (someSteps.take 7)).pos = 5 ∧
      ∃ cause, ((ReadStep.seek 7).run (c.after (someSteps.take 8))).1 =
        .error (.decode 0x107 cause) := by
  intro c
  have hbase : c.base + c.data.length < 2 ^ 64 := by decide
  have hseek : ∀ pos, ReadStep.seek pos ∈ someSteps → c.base + pos < 2 ^ 64 := by
    simp [c, someSteps]
  obtain ⟨hlegal, hfails, hrestore⟩ := cursor_orderly hbase hseek
  have hfailed : ((ReadStep.seek 7).run (c.after (someSteps.take 8))).1 =
      .error (.decode 0x107 (.seekPastEnd 5)) := by decide +kernel
  have hseven := (hfails (someSteps.take 8) (.seek 7) _ ⟨[.restore], rfl⟩ hfailed).2 nofun
  obtain ⟨-, cause, hcause⟩ := hseven
  exact ⟨hbase, hseek, (hlegal someSteps List.prefix_rfl).1, rfl,
    (hrestore [.u8, .save, .instruction]).1 [.u8] [.instruction] rfl (.plain ⟨nofun, nofun⟩), rfl,
    cause, hfailed.trans (congrArg _ hcause)⟩

end NovelScript
