import NovelScript.Text

/-!
Tables of double-byte charsets. A table numbers its characters by *pointers*; it is given as runs of
neighbouring pointers and is read in both directions. `pointer?` looks its candidate up again before
it answers, so an answer always names a pointer of that character (`char?_of_pointer?`).
-/

namespace NovelScript

/-- Characters with neighbouring pointers, the first of which is `first`. -/
structure CharacterRun where
  first : Nat
  characters : List Char

def CharacterRun.spelled (first : Nat) (characters : String) : CharacterRun :=
  ⟨first, characters.toList⟩

def CharacterRun.consecutive (first start count : Nat) : CharacterRun :=
  ⟨first, (List.range count).map fun i => Char.ofNat (start + i)⟩

/-- A table from pointers to characters, and for each code point below 2^16 a candidate pointer. -/
structure CodeTable where
  characters : Array (Option Char)
  candidates : Array Nat

namespace CodeTable

/-- The table of `size` pointers with the given runs. Of several pointers of one character the
candidate is the least for which `preferred` holds. -/
def ofRuns (size : Nat) (preferred : Nat → Bool) (runs : List CharacterRun) : CodeTable :=
  let entries := runs.flatMap fun run => run.characters.zipIdx run.first
  { characters := entries.foldl (fun table (c, p) => table.setIfInBounds p (some c))
      (Array.replicate size none)
    candidates := entries.reverse.foldl
      (fun table (c, p) => if preferred p then table.setIfInBounds c.toNat p else table)
      (Array.replicate 0x10000 0) }

def char? (t : CodeTable) (pointer : Nat) : Option Char := t.characters[pointer]?.join

def pointer? (t : CodeTable) (c : Char) : Option Nat :=
  let p := t.candidates.getD c.toNat 0
  if t.char? p = some c then some p else none

theorem char?_of_pointer? {t : CodeTable} {c : Char} {p : Nat} (h : t.pointer? c = some p) :
    t.char? p = some c := by
  simp only [pointer?] at h
  split at h
  · simp_all
  · simp at h

end CodeTable

end NovelScript
