import NovelScript.Proofs.Association
import NovelScript.Proofs.Lookahead

/-!
The speaker of one string. `Speaker.infer` finds the speakers of all strings in one pass over the
code; `Speaker.firstShowing?` looks for the speaker of a single string and stops where it is shown
first. The state of the pass agrees with every such search (`Agrees`), so both give the same names
(`infer_eq_firstShowing`).
-/

namespace NovelScript

def Instruction.pushed? : Instruction → Option UInt32
  | ⟨.pushc, [.constant value]⟩ => some value
  | _ => none

theorem Instruction.pushed?_eq_some_iff {i : Instruction} {value : UInt32} :
    i.pushed? = some value ↔ i = ⟨.pushc, [.constant value]⟩ := by
  constructor
  · intro h
    rw [pushed?.eq_def] at h
    split at h
    · rw [Option.some.inj h]
    · exact nomatch h
  · rintro rfl
    rfl

namespace Speaker

/-! ### The search for one string -/

def showCall : Instruction := ⟨.calln, [.native 0, .byte 1]⟩

def selectCalls : List Instruction :=
  [⟨.calln, [.native 0x1d, .byte 2]⟩, ⟨.calln, [.native 0x1e, .byte 2]⟩]

/-- Looks for the place where the string at `pos` is shown while a character is selected. The search
stops there with this character, and otherwise ends with the character that is selected last. -/
def search (pos : UInt32) (current : Int) : List Instruction → Except Int Int
  | [] => .ok current
  | i :: is =>
    match i.pushed? with
    | none => search pos current is
    | some value =>
      if is.head? ∈ selectCalls.map some then search pos value.toInt32.toInt is
      else if value = pos ∧ is.head? = some showCall ∧ 0 ≤ current then .error current
      else search pos current is

/-- The character that shows the string at `pos` first, if there is one. The selected character is
carried from function to function, and a function is left where it cannot be decoded. -/
def firstShowing? (pos : UInt32) (functions : List FunctionEntry) : Option Int :=
  match functions.foldlM
      (fun current f => search pos current (f.reading.found.map Prod.snd)) (-1) with
  | .error id => some id
  | .ok _ => none

/-! ### Signatures as calls -/

theorem wellFormed_call (id : UInt32) (count : UInt8) :
    (⟨.calln, [.native id, .byte count]⟩ : Instruction).WellFormed :=
  ⟨rfl, by simp⟩

theorem showLine_eq : showLine = showCall.encode := by decide

theorem selectSpeaker_eq : selectSpeaker = selectCalls.map Instruction.encode := by decide

variable {rest : Bytes} {next? : Option Instruction}

theorem startsWith_showLine_iff
    (h : ∀ j : Instruction, j.WellFormed → (startsWith rest j.encode ↔ next? = some j)) :
    startsWith rest showLine ↔ next? = some showCall := by
  rw [showLine_eq]
  exact h showCall (wellFormed_call 0 1)

theorem any_selectSpeaker_iff
    (h : ∀ j : Instruction, j.WellFormed → (startsWith rest j.encode ↔ next? = some j)) :
    selectSpeaker.any (startsWith rest) ↔ next? ∈ selectCalls.map some := by
  have hcall : ∀ j ∈ selectCalls, (startsWith rest j.encode ↔ next? = some j) := by
    intro j hj
    apply h
    rcases List.mem_pair.1 hj with rfl | rfl
    · exact wellFormed_call 0x1d 2
    · exact wellFormed_call 0x1e 2
  rw [selectSpeaker_eq, List.any_map, List.any_eq_true, List.mem_map]
  constructor
  · rintro ⟨j, hj, hstart⟩
    exact ⟨j, hj, ((hcall j hj).1 hstart).symm⟩
  · rintro ⟨j, hj, hnext⟩
    exact ⟨j, hj, (hcall j hj).2 hnext.symm⟩

/-! ### One instruction -/

theorem pass_of_not_pushed {s : State} {p : Placed} (h : p.instruction.pushed? = none) :
    s.pass p = s := by
  rw [State.pass]
  split
  · rename_i value hinstruction
    rw [hinstruction] at h
    exact nomatch h
  · rfl

/-- What an instruction that pushes a constant does, by the instruction after it. -/
theorem pass_of_pushed {s : State} {p : Placed} {value : UInt32}
    (hpushed : p.instruction.pushed? = some value)
    (hnext : ∀ j : Instruction, j.WellFormed → (startsWith p.rest j.encode ↔ next? = some j)) :
    s.pass p =
      if next? ∈ selectCalls.map some then { s with current := value.toInt32.toInt }
      else if 0 ≤ s.current ∧ next? = some showCall ∧ s.found.lookup value = none then
        { s with found := (value, s.current) :: s.found }
      else s := by
  rw [Instruction.pushed?_eq_some_iff] at hpushed
  simp only [State.pass, hpushed, any_selectSpeaker_iff hnext, startsWith_showLine_iff hnext,
    Option.isNone_iff_eq_none]

/-- A string that is shown for the first time gets its character, and nothing else is noted. -/
theorem found_pass (s : State) (p : Placed) :
    (s.pass p).found = s.found ∨
      ∃ value id, s.found.lookup value = none ∧ (s.pass p).found = (value, id) :: s.found := by
  rw [State.pass]
  split
  · split
    · exact .inl rfl
    · split
      next hnew => exact .inr ⟨_, _, Option.isNone_iff_eq_none.1 hnew.2.2, rfl⟩
      next => exact .inl rfl
  · exact .inl rfl

theorem lookup_pass {s : State} (p : Placed) {pos : UInt32} {id : Int}
    (h : s.found.lookup pos = some id) : (s.pass p).found.lookup pos = some id := by
  rcases found_pass s p with hsame | ⟨value, _, hnew, hfound⟩
  · rw [hsame, h]
  · have hne : pos ≠ value := by
      rintro rfl
      rw [h] at hnew
      exact nomatch hnew
    rw [hfound, List.lookup_cons, beq_false_of_ne hne]
    exact h

theorem nodup_pass {s : State} (p : Placed) (h : (s.found.map Prod.fst).Nodup) :
    ((s.pass p).found.map Prod.fst).Nodup := by
  rcases found_pass s p with hsame | ⟨value, _, hnew, hfound⟩
  · rwa [hsame]
  · rw [hfound, List.map_cons, List.nodup_cons]
    exact ⟨Association.lookup_eq_none_iff_not_mem.1 hnew, h⟩

/-! ### Passes over code -/

/-- The state of a pass agrees with the search for the string at `pos`: as long as the search goes
on, the same character is selected and the string has not been shown; afterwards the string has the
character that the search stopped with. -/
def Agrees (pos : UInt32) (s : State) : Except Int Int → Prop
  | .ok current => s.current = current ∧ s.found.lookup pos = none
  | .error id => s.found.lookup pos = some id

theorem lookup_foldl_pass (ps : List Placed) {s : State} {pos : UInt32} {id : Int}
    (h : s.found.lookup pos = some id) : (ps.foldl State.pass s).found.lookup pos = some id := by
  induction ps generalizing s with
  | nil => exact h
  | cons p ps ih => exact ih (lookup_pass p h)

/-- A pass over instructions agrees with the search through them. -/
theorem agrees_foldl_pass {pos : UInt32} {ps : List Placed} (hlinked : Sweep.Linked ps) {s : State}
    (hshown : s.found.lookup pos = none) :
    Agrees pos (ps.foldl State.pass s) (search pos s.current (ps.map Placed.instruction)) := by
  induction ps generalizing s with
  | nil => exact ⟨rfl, hshown⟩
  | cons p ps ih =>
    obtain ⟨hnext, hlinked⟩ := hlinked
    rw [← List.head?_map] at hnext
    rw [List.foldl_cons, List.map_cons, search]
    cases hpushed : p.instruction.pushed? with
    | none =>
      rw [pass_of_not_pushed hpushed]
      exact ih hlinked hshown
    | some value =>
      rw [pass_of_pushed hpushed hnext]
      simp only
      split
      · exact ih hlinked hshown
      -- the string that is shown is the one looked for, or another one
      by_cases hpos : value = pos
      · subst hpos
        simp only [hshown, and_true, true_and, and_comm (a := 0 ≤ s.current)]
        split
        · exact lookup_foldl_pass ps List.lookup_cons_self
        · exact ih hlinked hshown
      · have hgoesOn : ¬ (value = pos ∧ (ps.map Placed.instruction).head? = some showCall ∧
            0 ≤ s.current) := fun h => hpos h.1
        rw [if_neg hgoesOn]
        split
        · have hother : ((value, s.current) :: s.found).lookup pos = none := by
            rw [List.lookup_cons, beq_false_of_ne (Ne.symm hpos)]
            exact hshown
          exact ih (s := { s with found := (value, s.current) :: s.found }) hlinked hother
        · exact ih hlinked hshown

theorem lookup_passFunction (fs : List FunctionEntry) {s : State} {pos : UInt32} {id : Int}
    (h : s.found.lookup pos = some id) :
    (fs.foldl State.passFunction s).found.lookup pos = some id := by
  induction fs generalizing s with
  | nil => exact h
  | cons f fs ih => exact ih (lookup_foldl_pass _ h)

/-- A pass over functions agrees with the search through them. -/
theorem agrees_foldl_passFunction (pos : UInt32) (fs : List FunctionEntry) {s : State}
    (hshown : s.found.lookup pos = none) :
    Agrees pos (fs.foldl State.passFunction s)
      (fs.foldlM
        (fun current f => search pos current (f.reading.found.map Prod.snd)) s.current) := by
  induction fs generalizing s with
  | nil => exact ⟨rfl, hshown⟩
  | cons f fs ih =>
    have hfunction : Agrees pos (s.passFunction f)
        (search pos s.current (f.reading.found.map Prod.snd)) := by
      rw [f.map_snd_found_reading]
      exact agrees_foldl_pass (Sweep.linked_ofCode f.code) hshown
    rw [List.foldl_cons, List.foldlM_cons]
    cases hsearch : search pos s.current (f.reading.found.map Prod.snd) with
    | error id =>
      rw [hsearch] at hfunction
      exact lookup_passFunction fs hfunction
    | ok current =>
      rw [hsearch] at hfunction
      obtain ⟨rfl, hshown'⟩ := hfunction
      exact ih hshown'

theorem nodup_foldl_pass (ps : List Placed) {s : State} (h : (s.found.map Prod.fst).Nodup) :
    ((ps.foldl State.pass s).found.map Prod.fst).Nodup := by
  induction ps generalizing s with
  | nil => exact h
  | cons p ps ih => exact ih (nodup_pass p h)

theorem nodup_foldl_passFunction (fs : List FunctionEntry) {s : State}
    (h : (s.found.map Prod.fst).Nodup) :
    ((fs.foldl State.passFunction s).found.map Prod.fst).Nodup := by
  induction fs generalizing s with
  | nil => exact h
  | cons f fs ih => exact ih (nodup_foldl_pass _ h)

/-! ### Main result -/

theorem nodup_firstSpeakers (fs : List FunctionEntry) :
    ((firstSpeakers fs).map Prod.fst).Nodup := by
  rw [firstSpeakers, List.map_reverse]
  exact List.nodup_reverse.2 (nodup_foldl_passFunction fs List.nodup_nil)

/-- One pass finds the character for every string that a search of its own finds. -/
theorem lookup_firstSpeakers (fs : List FunctionEntry) (pos : UInt32) :
    (firstSpeakers fs).lookup pos = firstShowing? pos fs := by
  have hnodup := nodup_foldl_passFunction fs (s := {}) List.nodup_nil
  have hagrees := agrees_foldl_passFunction pos fs (s := {}) rfl
  rw [firstSpeakers, Association.lookup_reverse hnodup, firstShowing?]
  split
  · rename_i id hsearch
    rw [hsearch] at hagrees
    exact hagrees
  · rename_i current hsearch
    rw [hsearch] at hagrees
    exact hagrees.2

/-- The speaker of a string is named after the character that shows it first, and a string that is
shown first by a character without a name has no speaker. -/
theorem infer_eq_firstShowing (script : Script) (cast : Cast) :
    ((infer script cast).map Prod.fst).Nodup ∧
      ∀ pos, (infer script cast).lookup pos =
        (firstShowing? pos script.functions).bind cast.name? := by
  have hnodup := nodup_firstSpeakers script.functions
  rw [infer]
  refine ⟨?_, fun pos => ?_⟩
  · exact Association.nodup_filterMap_snd hnodup cast.name?
  · rw [← lookup_firstSpeakers, Association.lookup_filterMap_snd hnodup]

end Speaker

end NovelScript
