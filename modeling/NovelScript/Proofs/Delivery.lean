import NovelScript.Proofs.FileSystem

/-!
Writing one file after the other in a session, up to a write that fails. The writes before that one
are complete, and it may have stored the beginning of its data itself (`deliver_eq_none`). If
nothing goes wrong by chance, a write fails exactly if its path cannot be written to
(`deliver_calm`).
-/

namespace NovelScript.Session

open FileSystem (Written)

variable {s after : Session} {path : Text} {data : Bytes} {files : FileSystem} {error : FileError}

theorem write_ok (h : s.write path data = (.ok (), files)) :
    s.files.write path data = .ok files := by
  rw [write] at h
  split at h
  · split at h
    · rename_i hwrite
      obtain ⟨-, rfl⟩ := Prod.mk.inj h
      exact hwrite
    · exact nomatch h
  · exact nomatch h
  · split at h <;> exact nomatch h

/-- A write that fails has changed nothing, or it has been broken off. -/
theorem write_error (h : s.write path data = (.error error, files)) :
    files = s.files ∨
      s.fates ≠ [] ∧ ∃ count, s.files.write path (data.take count) = .ok files := by
  rw [write] at h
  split at h
  · split at h
    · exact nomatch h
    · exact .inl (Prod.mk.inj h).2.symm
  · exact .inl (Prod.mk.inj h).2.symm
  · rename_i count _ hfate
    split at h
    · rename_i hwrite
      obtain ⟨-, rfl⟩ := Prod.mk.inj h
      refine .inr ⟨?_, count, hwrite⟩
      intro hnil
      simp [fate, hnil] at hfate
    · exact .inl (Prod.mk.inj h).2.symm

/-- Writes one file after the other, up to one that fails. -/
def deliver (s : Session) : List (Text × Bytes) → Option Unit × Session
  | [] => (some (), s)
  | (path, data) :: rest =>
    match s.write path data with
    | (.ok (), files) => deliver ⟨files, s.fates.tail⟩ rest
    | (.error _, files) => (none, ⟨files, s.fates.tail⟩)

theorem written_deliver {fs : FileSystem} {before writes : List (Text × Bytes)}
    (h : Written fs s.files before) (hwrites : s.deliver writes = (some (), after)) :
    Written fs after.files (writes.reverse ++ before) := by
  induction writes generalizing s before with
  | nil =>
    obtain rfl : s = after := congrArg Prod.snd hwrites
    exact h
  | cons write writes ih =>
    rw [deliver] at hwrites
    split at hwrites
    · rename_i hwrite
      rw [List.reverse_cons, List.append_assoc]
      exact ih (h.write (write_ok hwrite)) hwrites
    · exact nomatch hwrites

theorem written_of_deliver {writes : List (Text × Bytes)}
    (h : s.deliver writes = (some (), after)) : Written s.files after.files writes.reverse := by
  have hwritten := written_deliver (Written.refl s.files) h
  rwa [List.append_nil] at hwritten

/-- Those before the one that fails are written, and it may have been broken off. -/
theorem deliver_eq_none {writes : List (Text × Bytes)} (h : s.deliver writes = (none, after)) :
    ∃ done path data rest middle, writes = done ++ (path, data) :: rest ∧
      s.deliver done = (some (), middle) ∧
      (after.files = middle.files ∨ s.fates ≠ [] ∧
        ∃ count, middle.files.write path (data.take count) = .ok after.files) := by
  induction writes generalizing s with
  | nil => exact nomatch h
  | cons write writes ih =>
    rw [deliver] at h
    split at h
    · rename_i files hwrite
      obtain ⟨done, path, data, rest, middle, rfl, hdone, hafter⟩ := ih h
      refine ⟨write :: done, path, data, rest, middle, rfl, ?_, ?_⟩
      · rw [deliver, hwrite]
        exact hdone
      · refine hafter.imp_right fun ⟨hfates, hbroken⟩ => ⟨?_, hbroken⟩
        intro hnil
        exact hfates (by rw [hnil, List.tail_nil])
    · rename_i files hwrite
      obtain rfl : ⟨files, s.fates.tail⟩ = after := congrArg Prod.snd h
      exact ⟨[], write.1, write.2, writes, s, rfl, rfl, write_error hwrite⟩

/-! ### Writes that are granted -/

theorem write_granted_ok (h : s.fate = .granted) (hwrite : s.files.write path data = .ok files) :
    s.write path data = (.ok (), files) := by
  simp only [write, h, hwrite]

theorem write_granted_error (h : s.fate = .granted)
    (hwrite : s.files.write path data = .error error) :
    s.write path data = (.error error, s.files) := by
  simp only [write, h, hwrite]

/-- What is delivered is what comes before the first path that cannot be written to. -/
theorem deliver_calm {fs : FileSystem} {before : List (Text × Bytes)} (hfates : s.fates = [])
    (h : Written fs s.files before) (writes : List (Text × Bytes)) :
    Written fs (s.deliver writes).2.files
        ((writes.takeWhile fun write => (fs.sink? write.1).isSome).reverse ++ before) ∧
      ((s.deliver writes).1 = some () ↔ ∀ write ∈ writes, (fs.sink? write.1).isSome) := by
  induction writes generalizing s before with
  | nil => exact ⟨h, by simp [deliver]⟩
  | cons write writes ih =>
    have hgranted : s.fate = .granted := by
      rw [fate, hfates]
      rfl
    rw [deliver, List.takeWhile_cons, List.forall_mem_cons, ← h.sink?]
    cases hwrite : s.files.write write.1 write.2 with
    | ok files =>
      rw [write_granted_ok hgranted hwrite]
      obtain ⟨sink, hsink, -⟩ := FileSystem.write_eq_ok_iff.1 hwrite
      have hrest : Session.fates ⟨files, s.fates.tail⟩ = [] := by rw [hfates, List.tail_nil]
      obtain ⟨hwritten, hdone⟩ := ih hrest (h.write hwrite)
      simp only [hsink, Option.isSome_some, if_true, true_and, List.reverse_cons, List.append_assoc]
      exact ⟨hwritten, hdone⟩
    | error error =>
      rw [write_granted_error hgranted hwrite]
      have hsink : s.files.sink? write.1 = none := by
        rw [Option.eq_none_iff_forall_ne_some]
        intro sink hsink
        exact nomatch hwrite.symm.trans (FileSystem.write_eq_ok_iff.2 ⟨sink, hsink, rfl⟩)
      simp only [hsink, Option.isSome_none, Bool.false_eq_true, if_false, false_and, iff_false]
      exact ⟨h, nofun⟩

end NovelScript.Session
