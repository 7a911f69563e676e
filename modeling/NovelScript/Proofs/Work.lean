import NovelScript.Proofs.Delivery
import NovelScript.Proofs.Outcome
import NovelScript.Tool.Run

/-!
Work of the tools in a session. It only reads up to its first write (`Reads`), and from there on it
comes down to delivering writes (`Writes`). For work of both kinds one after the other `Delivers`
says which writes these are, as a function of the files at the start. There is one rule for every
way to build work.
-/

namespace NovelScript.Tool

variable {α β : Type} {fs : FileSystem}

theorem run_bind (x : Work (StateM Session) α) (f : α → Work (StateM Session) β)
    (events : List Event) (s : Session) :
    ((x >>= f).run.run events).run s =
      match (x.run.run events).run s with
      | ((.ok a, events'), s') => ((f a).run.run events').run s'
      | ((.error report, events'), s') => ((.error report, events'), s') := by
  rw [ExceptT.run_bind, StateT.run_bind, StateT.run_bind]
  rcases (x.run.run events).run s with ⟨⟨_ | _, _⟩, _⟩ <;> rfl

/-- One of the first accesses goes wrong by chance. -/
def Disturbed (fates : List Fate) (count : Nat) : Prop := ∃ fate ∈ fates.take count, fate ≠ .granted

theorem Disturbed.left {fates : List Fate} {m : Nat} (h : Disturbed fates m) (n : Nat) :
    Disturbed fates (m + n) := by
  obtain ⟨fate, hfate, hne⟩ := h
  exact ⟨fate, List.take_subset_take_left _ (Nat.le_add_right m n) hfate, hne⟩

theorem Disturbed.right {fates : List Fate} {m n : Nat} (h : Disturbed (fates.drop m) n) :
    Disturbed fates (m + n) := by
  obtain ⟨fate, hfate, hne⟩ := h
  rw [List.take_drop] at hfate
  exact ⟨fate, List.mem_of_mem_drop hfate, hne⟩

theorem fate_of_not_disturbed {fates : List Fate} {n : Nat} (h : ¬ Disturbed fates (n + 1))
    (fs : FileSystem) : Session.fate ⟨fs, fates.drop n⟩ = .granted := by
  rw [Session.fate, List.head?_drop]
  cases hfate : fates[n]? with
  | none => rfl
  | some fate =>
    rw [← List.getElem?_take_of_lt (Nat.lt_succ_self n)] at hfate
    by_contra hne
    exact h ⟨fate, List.mem_of_getElem? hfate, hne⟩

/-- Work that changes no file. It comes to this result with so many accesses, or fails, for no other
reason than that one of them does if there is a result to come to. -/
def Reads (x : Work (StateM Session) α) (fs : FileSystem) (count : Nat) (a? : Option α) : Prop :=
  ∀ fates events, ∃ outcome events' fates',
    (x.run.run events).run ⟨fs, fates⟩ = ((outcome, events'), ⟨fs, fates'⟩) ∧
    ((∃ a, outcome = .ok a ∧ a? = some a ∧ fates' = fates.drop count) ∨
      outcome.toOption = none ∧ (a? = none ∨ Disturbed fates count))

namespace Reads

theorem pure (a : α) (fs : FileSystem) : Reads (Pure.pure a) fs 0 (some a) :=
  fun fates events => ⟨.ok a, events, fates, rfl, .inl ⟨a, rfl, rfl, rfl⟩⟩

theorem throw (report : Report) (fs : FileSystem) :
    Reads (MonadExcept.throw report : Work (StateM Session) α) fs 0 none :=
  fun fates events => ⟨.error report, events, fates, rfl, .inr ⟨rfl, .inl rfl⟩⟩

theorem bind {x : Work (StateM Session) α} {f : α → Work (StateM Session) β} {a? : Option α}
    {g : α → Option β} {m n : Nat} (hx : Reads x fs m a?) (hf : ∀ a, Reads (f a) fs n (g a)) :
    Reads (x >>= f) fs (m + n) (a?.bind g) := by
  intro fates events
  obtain ⟨outcome, events', fates', hrun, houtcome⟩ := hx fates events
  rw [run_bind, hrun]
  obtain ⟨a, rfl, rfl, rfl⟩ | ⟨hnone, hwhy⟩ := houtcome
  · obtain ⟨outcome, events'', fates'', hrun, houtcome⟩ := hf a (fates.drop m) events'
    refine ⟨outcome, events'', fates'', hrun, houtcome.imp ?_ ?_⟩
    · exact fun ⟨b, hb, hg, hfates⟩ => ⟨b, hb, hg, by rw [hfates, List.drop_drop]⟩
    · exact And.imp_right fun hwhy => hwhy.imp_right .right
  · cases outcome with
    | ok a => exact nomatch hnone
    | error report =>
      refine ⟨.error report, events', fates', rfl, .inr ⟨rfl, ?_⟩⟩
      rcases hwhy with rfl | hdisturbed
      · exact .inl rfl
      · exact .inr (hdisturbed.left n)

theorem readBytes (activity : String) (path : Text) (fs : FileSystem) :
    Reads (Tool.readBytes activity path) fs 1 (fs.read path).toOption := by
  intro fates events
  have hread : ((liftM (FileAccess.readFile path : StateM Session _) :
      Work (StateM Session) _).run.run events).run ⟨fs, fates⟩ =
      ((.ok (Session.read ⟨fs, fates⟩ path), events), ⟨fs, fates.tail⟩) := rfl
  have hresult : Session.read ⟨fs, fates⟩ path = fs.read path ∨
      (Session.read ⟨fs, fates⟩ path).toOption = none ∧ Disturbed fates 1 := by
    rcases fates with _ | ⟨fate, fates⟩
    · exact .inl rfl
    · cases fate with
      | granted => exact .inl rfl
      | refused error => exact .inr ⟨rfl, .refused error, List.mem_cons_self, nofun⟩
      | stopped count error => exact .inr ⟨rfl, .stopped count error, List.mem_cons_self, nofun⟩
  rw [Tool.readBytes, run_bind, hread]
  cases hdata : Session.read ⟨fs, fates⟩ path with
  | ok data =>
    rw [hdata] at hresult
    have hok : fs.read path = .ok data := (hresult.resolve_right nofun).symm
    refine ⟨.ok data, events, fates.tail, rfl, .inl ⟨data, rfl, ?_, List.drop_one.symm⟩⟩
    rw [hok]
    rfl
  | error error =>
    rw [hdata] at hresult
    refine ⟨.error _, events, fates.tail, rfl, .inr ⟨rfl, hresult.imp ?_ And.right⟩⟩
    intro herror
    rw [← herror]
    rfl

theorem orFail (activity : String) (path : Text) (x : Except Fault α) (fs : FileSystem) :
    Reads (Tool.orFail activity path x) fs 0 x.toOption := by
  cases x with
  | ok a => exact pure a fs
  | error fault => exact throw _ fs

end Reads

/-- Work that comes down to delivering writes. -/
def Writes (x : Work (StateM Session) Unit) (writes : List (Text × Bytes)) : Prop :=
  ∀ s events, ∃ outcome events',
    (x.run.run events).run s = ((outcome, events'), (s.deliver writes).2) ∧
    outcome.toOption = (s.deliver writes).1

namespace Writes

theorem nothing : Writes (Pure.pure ()) [] := fun _ events => ⟨.ok (), events, rfl, rfl⟩

theorem tell (events : List Event) : Writes (Tool.tell events) [] :=
  fun _ before => ⟨.ok (), before ++ events, rfl, rfl⟩

theorem tell_bind (events : List Event) {f : Unit → Work (StateM Session) Unit}
    {writes : List (Text × Bytes)} (hf : Writes (f ()) writes) :
    Writes (Tool.tell events >>= f) writes := by
  intro s before
  rw [run_bind]
  exact hf s (before ++ events)

theorem writeBytes_bind {activity : String} {path : Text} {data : Bytes}
    {rest : List (Text × Bytes)} {f : Unit → Work (StateM Session) Unit} (hf : Writes (f ()) rest) :
    Writes (writeBytes activity path data >>= f) ((path, data) :: rest) := by
  intro s events
  have hwrite : ((liftM (FileAccess.writeFile path data : StateM Session _) :
      Work (StateM Session) _).run.run events).run s =
      ((.ok (s.write path data).1, events), ⟨(s.write path data).2, s.fates.tail⟩) := rfl
  rw [run_bind, writeBytes, run_bind, hwrite, Session.deliver]
  rcases s.write path data with ⟨error | ⟨⟨⟩⟩, files⟩
  · exact ⟨.error _, events, rfl, rfl⟩
  · exact hf ⟨files, s.fates.tail⟩ events

end Writes

/-- Work that reads at first, with so many accesses, and then delivers these writes if it has come
to any. -/
def Delivers (x : Work (StateM Session) Unit) (fs : FileSystem) (count : Nat)
    (writes? : Option (List (Text × Bytes))) : Prop :=
  ∀ fates events, ∃ outcome events' after,
    (x.run.run events).run ⟨fs, fates⟩ = ((outcome, events'), after) ∧
    ((∃ writes, writes? = some writes ∧
        Session.deliver ⟨fs, fates.drop count⟩ writes = (outcome.toOption, after)) ∨
      outcome.toOption = none ∧ after.files = fs ∧ (writes? = none ∨ Disturbed fates count))

namespace Delivers

theorem of_writes {x : Work (StateM Session) Unit} {writes : List (Text × Bytes)}
    (h : Writes x writes) (fs : FileSystem) : Delivers x fs 0 (some writes) := by
  intro fates events
  obtain ⟨outcome, events', hrun, houtcome⟩ := h ⟨fs, fates⟩ events
  exact ⟨outcome, events', _, hrun, .inl ⟨writes, rfl, Prod.ext houtcome.symm rfl⟩⟩

theorem throw (report : Report) (fs : FileSystem) : Delivers (MonadExcept.throw report) fs 0 none :=
  fun fates events => ⟨.error report, events, ⟨fs, fates⟩, rfl, .inr ⟨rfl, rfl, .inl rfl⟩⟩

theorem tell_bind (events : List Event) {f : Unit → Work (StateM Session) Unit} {count : Nat}
    {writes? : Option (List (Text × Bytes))} (hf : Delivers (f ()) fs count writes?) :
    Delivers (Tool.tell events >>= f) fs count writes? := by
  intro fates before
  rw [run_bind]
  exact hf fates (before ++ events)

/-- A step that reads, before what comes down to the writes that `k` makes of something, if it is
there. -/
theorem bind {γ : Type} {x : Work (StateM Session) α} {f : α → Work (StateM Session) Unit}
    {a? : Option α} {g : α → Option γ} {k : γ → List (Text × Bytes)} {m n : Nat}
    (hx : Reads x fs m a?) (hf : ∀ a, Delivers (f a) fs n ((g a).map k)) :
    Delivers (x >>= f) fs (m + n) ((a?.bind g).map k) := by
  intro fates events
  obtain ⟨outcome, events', fates', hrun, houtcome⟩ := hx fates events
  rw [run_bind, hrun]
  obtain ⟨a, rfl, rfl, rfl⟩ | ⟨hnone, hwhy⟩ := houtcome
  · obtain ⟨outcome, events'', after, hrun, hafter⟩ := hf a (fates.drop m) events'
    refine ⟨outcome, events'', after, hrun, hafter.imp ?_ ?_⟩
    · rintro ⟨writes, hwrites, hdeliver⟩
      exact ⟨writes, hwrites, by rwa [List.drop_drop] at hdeliver⟩
    · exact And.imp_right fun ⟨hfiles, hwhy⟩ => ⟨hfiles, hwhy.imp_right .right⟩
  · cases outcome with
    | ok a => exact nomatch hnone
    | error report =>
      refine ⟨.error report, events', ⟨fs, fates'⟩, rfl, .inr ⟨rfl, rfl, ?_⟩⟩
      rcases hwhy with rfl | hdisturbed
      · exact .inl rfl
      · exact .inr (hdisturbed.left n)

end Delivers

end NovelScript.Tool
