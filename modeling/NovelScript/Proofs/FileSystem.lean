import NovelScript.Proofs.Association
import NovelScript.Tool.Files

/-!
What writing does to a file system. Every path that can be written to has one `Sink`: a location, or
a device that keeps nothing. A write changes what stands at this location alone and moves no path
(`sink?_put`), so after several writes every location holds what was written to it last, or what
stood there before (`Written`). A write that breaks off is a write of the beginning of its data.
-/

namespace NovelScript.FileSystem

variable {fs : FileSystem} {l : Location}

/-! ### Nodes -/

theorem node?_put (hl : l ≠ []) (data : Bytes) (m : Location) :
    (fs.put l data).node? m = if m = l then some (.file data) else fs.node? m := by
  rw [node?, node?]
  by_cases hm : m = []
  · rw [if_pos hm, if_pos hm, if_neg (hm ▸ hl.symm)]
  rw [if_neg hm, if_neg hm, put]
  split
  · rename_i hfound
    obtain ⟨old, hold⟩ := Option.isSome_iff_exists.1 hfound
    rw [Association.lookup_replace, hold]
    rfl
  · rename_i hfound
    rw [Option.not_isSome_iff_eq_none] at hfound
    rw [List.lookup_append, List.lookup_cons]
    by_cases hm : m = l
    · simp [hm, hfound]
    · simp [hm, beq_false_of_ne hm]

@[simp] theorem cwd_put (fs : FileSystem) (l : Location) (data : Bytes) :
    (fs.put l data).cwd = fs.cwd := by
  rw [put]
  split <;> rfl

/-! ### Places -/

/-- What takes the bytes that are written to a path. -/
inductive Sink
  | location (location : Location)
  /-- They are lost. -/
  | device
  deriving DecidableEq, Repr

def Place.sink? : Place → Option Sink
  | file l | vacant l => some (.location l)
  | device _ => some .device
  | _ => none

def sink? (fs : FileSystem) (path : Text) : Option Sink := (fs.place path).sink?

/-- What is written to the path can be read from it: it does not go to a device. -/
def Keeps (fs : FileSystem) (path : Text) : Prop := ∃ l, fs.sink? path = some (.location l)

/-- What is known of a place that a path leads to. -/
def Sound (fs : FileSystem) : Place → Prop
  | .file l => ∃ data, fs.node? l = some (.file data)
  | .vacant l => fs.node? l = none
  | _ => True

theorem Place.sound_before {place : Place} (h : fs.Sound place) (error : FileError)
    (rest : List Text) : fs.Sound (place.before error rest) := by
  rw [before]
  split
  · exact h
  split <;> trivial

theorem sound_settle (fs : FileSystem) (l : Location) (rest : List Text) :
    fs.Sound (fs.settle l rest) := by
  rw [settle]
  split
  · rename_i data hnode
    refine Place.sound_before ?_ _ rest
    exact ⟨data, hnode⟩
  · refine Place.sound_before ?_ _ rest
    trivial
  · rename_i hnode
    refine Place.sound_before ?_ _ rest
    exact hnode
  · trivial

theorem sound_walk {folder : Location} {parts : List Text} {place : Place}
    (h : fs.walk folder parts = .done place) : fs.Sound place := by
  induction parts generalizing folder with
  | nil =>
    obtain rfl := Halt.done.inj h
    trivial
  | cons part rest ih =>
    rw [walk] at h
    split at h
    · exact ih h
    split at h
    · exact ih h
    split at h
    · obtain rfl := Halt.done.inj h
      trivial
    split at h
    · exact ih h
    · exact nomatch h
    · obtain rfl := Halt.done.inj h
      exact sound_settle fs _ rest
    · obtain rfl := Halt.done.inj h
      exact sound_settle fs _ rest

theorem sound_resolve (fs : FileSystem) (links : Nat) (folder : Location) (parts : List Text) :
    fs.Sound (fs.resolve links folder parts) := by
  induction links generalizing folder parts with
  | zero =>
    rw [resolve]
    split
    · rename_i hwalk
      exact sound_walk hwalk
    · trivial
  | succ links ih =>
    rw [resolve]
    split
    · rename_i hwalk
      exact sound_walk hwalk
    · exact ih _ _

theorem sound_place (fs : FileSystem) (path : Text) : fs.Sound (fs.place path) := by
  rw [place]
  split
  · trivial
  split
  · trivial
  · exact sound_resolve fs _ _ _

/-- A file can be put there: no other node is in its way. -/
def CanPut (fs : FileSystem) (l : Location) : Prop :=
  fs.node? l = none ∨ ∃ data, fs.node? l = some (.file data)

theorem CanPut.ne_nil (h : fs.CanPut l) : l ≠ [] := by
  rintro rfl
  simp [CanPut, node?] at h

theorem canPut_of_sink? {path : Text} (h : fs.sink? path = some (.location l)) : fs.CanPut l := by
  have hsound := fs.sound_place path
  rw [sink?] at h
  cases hplace : fs.place path with
  | file m =>
    rw [hplace] at h hsound
    obtain rfl : m = l := by simpa [Place.sink?] using h
    exact .inr hsound
  | vacant m =>
    rw [hplace] at h hsound
    obtain rfl : m = l := by simpa [Place.sink?] using h
    exact .inl hsound
  | _ =>
    rw [hplace] at h
    simp [Place.sink?] at h

/-- What is read through a path is what stands at the location that takes the writes to it. -/
theorem read_eq_ok {path : Text} {data : Bytes} (h : fs.sink? path = some (.location l))
    (hnode : fs.node? l = some (.file data)) : fs.read path = .ok data := by
  have hsound := fs.sound_place path
  rw [sink?] at h
  rw [read]
  cases hplace : fs.place path with
  | file m =>
    rw [hplace] at h
    obtain rfl : m = l := by simpa [Place.sink?] using h
    simp only [hnode]
  | vacant m =>
    rw [hplace] at h hsound
    obtain rfl : m = l := by simpa [Place.sink?] using h
    exact nomatch hnode.symm.trans hsound
  | _ =>
    rw [hplace] at h
    simp [Place.sink?] at h

/-! ### Paths after a file has been put -/

/-- Writing to either does the same. -/
inductive Halt.Similar : Halt → Halt → Prop
  | done {place place' : Place} (h : place.sink? = place'.sink?) :
      Similar (done place) (done place')
  | link (folder : Location) (target : Text) (rest : List Text) :
      Similar (link folder target rest) (link folder target rest)

theorem Place.sink?_before {place place' : Place} (h : place.sink? = place'.sink?)
    (error error' : FileError) (rest : List Text) :
    (place.before error rest).sink? = (place'.before error' rest).sink? := by
  rw [before, before]
  split
  · exact h
  split <;> rfl

theorem sink?_settle_put (hl : fs.CanPut l) (data : Bytes) (m : Location) (rest : List Text) :
    (fs.settle m rest).sink? = ((fs.put l data).settle m rest).sink? := by
  rw [settle, settle, node?_put hl.ne_nil]
  by_cases hm : m = l
  · subst hm
    rw [if_pos rfl]
    rcases hl with hnone | ⟨old, hold⟩
    · have hsink : (Place.vacant m).sink? = (Place.file m).sink? := rfl
      rw [hnone]
      exact Place.sink?_before hsink .notFound .notDirectory rest
    · rw [hold]
  · rw [if_neg hm]

theorem similar_walk_put (hl : fs.CanPut l) (data : Bytes) (folder : Location) (parts : List Text) :
    (fs.walk folder parts).Similar ((fs.put l data).walk folder parts) := by
  induction parts generalizing folder with
  | nil => exact .done rfl
  | cons part rest ih =>
    rw [walk, walk]
    split
    · exact ih folder
    split
    · exact ih folder.dropLast
    split
    · exact .done rfl
    rw [node?_put hl.ne_nil]
    by_cases hsame : folder ++ [part] = l
    · -- Before and after, the walk ends here.
      rw [hsame, if_pos rfl]
      rcases hl with hnone | ⟨old, hold⟩
      · rw [hnone]
        exact .done (sink?_settle_put (.inl hnone) data l rest)
      · rw [hold]
        exact .done (sink?_settle_put (.inr ⟨old, hold⟩) data l rest)
    rw [if_neg hsame]
    split
    · exact ih (folder ++ [part])
    · exact .link folder _ rest
    · exact .done (sink?_settle_put hl data _ rest)
    · exact .done (sink?_settle_put hl data _ rest)

theorem sink?_resolve_put (hl : fs.CanPut l) (data : Bytes) (links : Nat) (folder : Location)
    (parts : List Text) :
    (fs.resolve links folder parts).sink? = ((fs.put l data).resolve links folder parts).sink? := by
  induction links generalizing folder parts with
  | zero =>
    have hwalk := similar_walk_put hl data folder parts
    rw [resolve, resolve]
    generalize fs.walk folder parts = halt at hwalk
    generalize (fs.put l data).walk folder parts = halt' at hwalk
    cases hwalk with
    | done h => exact h
    | link => rfl
  | succ links ih =>
    have hwalk := similar_walk_put hl data folder parts
    rw [resolve, resolve]
    generalize fs.walk folder parts = halt at hwalk
    generalize (fs.put l data).walk folder parts = halt' at hwalk
    cases hwalk with
    | done h => exact h
    | link => exact ih _ _

/-- Writing moves no path. -/
theorem sink?_put (hl : fs.CanPut l) (data : Bytes) (path : Text) :
    (fs.put l data).sink? path = fs.sink? path := by
  rw [sink?, sink?, place, place, cwd_put]
  split
  · rfl
  split
  · rfl
  · exact (sink?_resolve_put hl data _ _ _).symm

/-! ### Several writes -/

def store (fs : FileSystem) (data : Bytes) : Sink → FileSystem
  | .location l => fs.put l data
  | .device => fs

theorem write_eq_ok_iff {path : Text} {data : Bytes} {after : FileSystem} :
    fs.write path data = .ok after ↔
      ∃ sink, fs.sink? path = some sink ∧ fs.store data sink = after := by
  rw [write, sink?]
  cases fs.place path <;> simp [Place.sink?, store]

/-- What stands at a location after writes to some paths, the latest one first. -/
def holding (fs : FileSystem) : List (Text × Bytes) → Location → Option Node
  | [], l => fs.node? l
  | (path, data) :: before, l =>
    if fs.sink? path = some (.location l) then some (.file data) else fs.holding before l

/-- What is left behind by writes to some paths, the latest one first, and nothing else. -/
structure Written (fs after : FileSystem) (writes : List (Text × Bytes)) : Prop where
  /-- All these paths could be written to. -/
  reached : ∀ write ∈ writes, (fs.sink? write.1).isSome
  node? : ∀ l, after.node? l = fs.holding writes l
  /-- Every path leads where it led before. -/
  sink? : ∀ path, after.sink? path = fs.sink? path

namespace Written

variable {after : FileSystem} {writes : List (Text × Bytes)} {path : Text} {data : Bytes}

theorem refl (fs : FileSystem) : Written fs fs [] := ⟨nofun, fun _ => rfl, fun _ => rfl⟩

theorem write {middle : FileSystem} (h : Written fs middle writes)
    (hwrite : middle.write path data = .ok after) : Written fs after ((path, data) :: writes) := by
  obtain ⟨sink, hsink, rfl⟩ := write_eq_ok_iff.1 hwrite
  have hpath : fs.sink? path = some sink := by rw [← h.sink?, hsink]
  have hreached : ∀ write ∈ (path, data) :: writes, (fs.sink? write.1).isSome :=
    List.forall_mem_cons.2 ⟨by rw [hpath]; rfl, h.reached⟩
  cases sink with
  | device =>
    refine ⟨hreached, fun m => ?_, h.sink?⟩
    rw [holding, hpath, if_neg (by simp), store, h.node?]
  | location l =>
    have hput : middle.CanPut l := canPut_of_sink? hsink
    refine ⟨hreached, fun m => ?_, fun other => ?_⟩
    · rw [store, node?_put hput.ne_nil, holding, hpath, h.node?]
      simp only [Option.some.injEq, Sink.location.injEq, eq_comm]
    · rw [store, sink?_put hput, h.sink?]

theorem holding_append {later before : List (Text × Bytes)}
    (hl : fs.sink? path = some (.location l))
    (hlater : ∀ write ∈ later, fs.sink? write.1 ≠ fs.sink? path) :
    fs.holding (later ++ (path, data) :: before) l = some (.file data) := by
  induction later with
  | nil => rw [List.nil_append, holding, if_pos hl]
  | cons write later ih =>
    obtain ⟨hwrite, hlater⟩ := List.forall_mem_cons.1 hlater
    rw [List.cons_append, holding, if_neg (hl ▸ hwrite)]
    exact ih hlater

/-- A file holds what has been written to it last. -/
theorem read {later before : List (Text × Bytes)}
    (h : Written fs after (later ++ (path, data) :: before)) (hkeeps : fs.Keeps path)
    (hlater : ∀ write ∈ later, fs.sink? write.1 ≠ fs.sink? path) : after.read path = .ok data := by
  obtain ⟨l, hl⟩ := hkeeps
  have hnode : after.node? l = some (.file data) := by
    rw [h.node?, holding_append hl hlater]
  exact read_eq_ok (by rw [h.sink?, hl]) hnode

theorem read_head {before : List (Text × Bytes)} (h : Written fs after ((path, data) :: before))
    (hkeeps : fs.Keeps path) : after.read path = .ok data := by
  have h' : Written fs after ([] ++ (path, data) :: before) := h
  exact h'.read hkeeps nofun

end Written

end NovelScript.FileSystem
