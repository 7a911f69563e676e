import NovelScript.Proofs.Container.RoundTrip

/-!
Writing what was loaded. A loaded script has its strings in their places and its names among them,
so only two things are in the way of writing it: a name that fills its field and so leaves no room
for a zero byte, and code that cannot be laid out in the order of positions. Code is laid out if
each function ends before the next one begins (`exists_layCode`), and this follows from what the
function table says of every two functions (`pairwise_codeOrder`). Such a script is written as a
container of the same script (`save_of_load`).
-/

namespace NovelScript

/-! ### Sorting -/

/-- Sorting puts two elements in another order only if they have to be. -/
theorem pairwise_mergeSort_of_pairwise {α : Type} {le : α → α → Bool} {R : α → α → Prop}
    (trans : ∀ a b c, le a b → le b c → le a c) (total : ∀ a b, le a b || le b a) {l : List α}
    (h : l.Pairwise R) :
    (l.mergeSort le).Pairwise fun a b => R a b ∨ R b a ∧ le b a = false := by
  induction l with
  | nil => simp
  | cons a l ih =>
    obtain ⟨hfirst, hrest⟩ := List.pairwise_cons.1 h
    obtain ⟨front, back, hsorted, hl, hbefore⟩ := List.mergeSort_cons trans total a l
    have hmem {b : α} (hb : b ∈ front ++ back) : b ∈ l := by
      rw [← hl, List.mem_mergeSort] at hb
      exact hb
    have hpairs := ih hrest
    rw [hl, List.pairwise_append] at hpairs
    obtain ⟨hfront, hback, hacross⟩ := hpairs
    rw [hsorted, List.pairwise_append, List.pairwise_cons]
    refine ⟨hfront, ⟨fun b hb => .inl (hfirst b (hmem (List.mem_append_right _ hb))), hback⟩, ?_⟩
    intro b hb c hc
    rcases List.mem_cons.1 hc with rfl | hc
    · have hlt : le c b = false := by simpa using hbefore b hb
      exact .inr ⟨hfirst b (hmem (List.mem_append_left _ hb)), hlt⟩
    · exact hacross b hb c hc

/-! ### Functions in the code section -/

namespace FunctionEntry

/-- The byte at an offset of the code section is part of the function. -/
def Covers (f : FunctionEntry) (n : Nat) : Prop := f.pos.toNat ≤ n ∧ n < f.pos.toNat + f.code.length

/-- Two functions have no byte of the code section in common. -/
def Apart (f g : FunctionEntry) : Prop := ∀ n, ¬ (f.Covers n ∧ g.Covers n)

/-- Of two functions, `f` being listed before `g`, none is empty and stands in the code of the
other, except that `f` may stand in front of all of the code of `g`. -/
structure Outside (f g : FunctionEntry) : Prop where
  later : g.code = [] → ¬ f.Covers g.pos.toNat
  earlier : f.code = [] → g.Covers f.pos.toNat → f.pos = g.pos

/-- Of two functions, `f` being listed before `g`, the one that comes first in the code section ends
before the other one begins. Of two at one position the one listed first comes first. -/
structure Ordered (f g : FunctionEntry) : Prop where
  forward : f.pos.toNat ≤ g.pos.toNat → f.pos.toNat + f.code.length ≤ g.pos.toNat
  backward : g.pos.toNat < f.pos.toNat → g.pos.toNat + g.code.length ≤ f.pos.toNat

theorem Apart.ordered {f g : FunctionEntry} (h : f.Apart g) (hempty : f.Outside g) :
    f.Ordered g where
  forward := by
    intro hle
    by_contra hreach
    -- the first byte of `g` would be in both, so there is none
    have hcovers : f.Covers g.pos.toNat := ⟨hle, by omega⟩
    have hnil : g.code = [] := by
      by_contra hne
      have := List.length_pos_iff.2 hne
      exact h g.pos.toNat ⟨hcovers, le_rfl, by omega⟩
    exact hempty.later hnil hcovers
  backward := by
    intro hlt
    by_contra hreach
    have hcovers : g.Covers f.pos.toNat := ⟨hlt.le, by omega⟩
    have hnil : f.code = [] := by
      by_contra hne
      have := List.length_pos_iff.2 hne
      exact h f.pos.toNat ⟨⟨le_rfl, by omega⟩, hcovers⟩
    have := hempty.earlier hnil hcovers
    rw [this] at hlt
    exact absurd hlt (lt_irrefl _)

end FunctionEntry

namespace Script

theorem codeOrder_trans (f g e : FunctionEntry) (hfg : decide (f.pos ≤ g.pos) = true)
    (hge : decide (g.pos ≤ e.pos) = true) : decide (f.pos ≤ e.pos) = true := by
  simp only [decide_eq_true_eq, UInt32.le_iff_toNat_le] at *
  omega

theorem codeOrder_total (f g : FunctionEntry) :
    (decide (f.pos ≤ g.pos) || decide (g.pos ≤ f.pos)) = true := by
  simp only [Bool.or_eq_true, decide_eq_true_eq, UInt32.le_iff_toNat_le]
  omega

theorem pairwise_codeOrder {functions : List FunctionEntry}
    (h : functions.Pairwise FunctionEntry.Ordered) :
    (codeOrder functions).Pairwise fun f g => f.pos.toNat + f.code.length ≤ g.pos.toNat := by
  have hsorted := List.pairwise_mergeSort codeOrder_trans codeOrder_total functions
  refine (hsorted.and (pairwise_mergeSort_of_pairwise codeOrder_trans codeOrder_total h)).imp ?_
  rintro f g ⟨hle, hordered | ⟨hordered, hlt⟩⟩
  · rw [decide_eq_true_eq, UInt32.le_iff_toNat_le] at hle
    exact hordered.forward hle
  · rw [decide_eq_false_iff_not, UInt32.le_iff_toNat_le, not_le] at hlt
    exact hordered.backward hlt

/-- Code can be laid out in which every function ends before the later ones begin. -/
theorem exists_layCode {cursor : Nat} {functions : List FunctionEntry}
    (hcursor : ∀ f ∈ functions, cursor ≤ f.pos.toNat)
    (h : functions.Pairwise fun f g => f.pos.toNat + f.code.length ≤ g.pos.toNat) :
    ∃ code, layCode cursor functions = .ok code := by
  induction functions generalizing cursor with
  | nil => exact ⟨[], rfl⟩
  | cons f functions ih =>
    obtain ⟨hfirst, hrest⟩ := List.pairwise_cons.1 h
    obtain ⟨code, hcode⟩ := ih hfirst hrest
    rw [layCode, if_neg (Nat.not_lt.2 (hcursor f List.mem_cons_self)), hcode]
    exact ⟨_, rfl⟩

end Script

namespace Container

/-- The functions of a script that stands in a well-formed container have strings as their names. -/
theorem Depicts.name_mem {d : Bytes} {s : Script} (hs : Depicts d s) (hwf : WellFormed d) :
    ∀ f ∈ s.functions, f.name ∈ s.strings.map (·.pos) := by
  intro f hf
  rw [hs.functions] at hf
  obtain ⟨r, hr, rfl⟩ := List.mem_map.1 hf
  obtain ⟨e, he, hpos⟩ :=
    (startsString_iff (isSplit_iff.1 hs.strings) r.name.toNat).1 (hwf.name_starts r hr)
  rw [Nat.zero_add, UInt32.toNat_inj] at hpos
  exact List.mem_map.2 ⟨e, he, hpos⟩

theorem Depicts.zero_not_mem_name {d : Bytes} {s : Script} (hs : Depicts d s) : 0 ∉ s.name := by
  intro h
  rw [hs.name] at h
  simpa using List.mem_takeWhile_imp h

/-! ### Main result -/

/-- What was loaded can be written, and is then loaded again as the same script: if its name leaves
room for a zero byte, no two functions have a byte in common, and no empty function stands in the
code of another one. -/
theorem save_of_load {d : Bytes} {s : Script} (hload : Script.load d = .ok s)
    (hname : s.name.length ≤ maxNameLength)
    (hapart : s.functions.Pairwise FunctionEntry.Apart)
    (hempty : s.functions.Pairwise FunctionEntry.Outside) :
    ∃ d', s.save = .ok d' ∧ (d'.length < 2 ^ 32 → Script.load d' = .ok s) := by
  obtain ⟨hwf, hs⟩ := load_eq_ok_iff.1 hload
  have hordered : s.functions.Pairwise FunctionEntry.Ordered :=
    (hapart.and hempty).imp fun ⟨h, hout⟩ => h.ordered hout
  have hstart : ∀ f ∈ Script.codeOrder s.functions, 0 ≤ f.pos.toNat := fun _ _ => Nat.zero_le _
  obtain ⟨code, hcode⟩ := Script.exists_layCode hstart (Script.pairwise_codeOrder hordered)
  have hsave : s.save = .ok (assembleSections s code (stringSection d)) :=
    save_eq_ok_iff.2 ⟨checkName_eq_ok_iff.2 ⟨hname, hs.zero_not_mem_name⟩, code, _, hcode,
      isSplit_iff.1 hs.strings, rfl⟩
  exact ⟨_, hsave, fun hsize => load_of_save hsave hsize (hs.name_mem hwf)⟩

def twoFunctions (name : Bytes) (first second : Record) : Bytes :=
  encodeFields ({
    name
    functionsStart := 0x44
    functionCount := 2
    codeStart := 0x6c
    codeSize := 2
    stringsStart := 0x70
    stringsSize := 2
    fileSize := 0x72 } : Header).fields ++
  encodeFields first.fields ++ encodeFields second.fields ++ [0x26, 0x26, 0, 0, 0x66, 0]

def bareRecord (pos size : UInt32) : Record := ⟨0, 0, 0, pos, size⟩

/-- A name of the greatest length, and an empty function in front of another one. -/
theorem save_of_load_longName :
    ∃ s d', Script.load (twoFunctions (List.replicate 31 0x78) (bareRecord 0 0) (bareRecord 0 2)) =
        .ok s ∧ s.name.length = 31 ∧ s.functions.map (·.code) = [[], [0x26, 0x26]] ∧
      s.save = .ok d' ∧ (d'.length < 2 ^ 32 → Script.load d' = .ok s) := by
  let s : Script := {
    name := List.replicate 31 0x78
    strings := [⟨0, [0x66]⟩]
    functions := [{ pos := 0, code := [] }, { pos := 0, code := [0x26, 0x26] }] }
  have hload : Script.load
      (twoFunctions (List.replicate 31 0x78) (bareRecord 0 0) (bareRecord 0 2)) = .ok s :=
    load_eq_ok_iff.2 ⟨by decide, by decide⟩
  have hapart : s.functions.Pairwise FunctionEntry.Apart := by
    simp [s, FunctionEntry.Apart, FunctionEntry.Covers]
  have hempty : s.functions.Pairwise FunctionEntry.Outside := by
    simp only [s, List.pairwise_pair]
    exact ⟨nofun, fun _ _ => rfl⟩
  obtain ⟨d', hsave, hagain⟩ := save_of_load hload (by decide) hapart hempty
  exact ⟨s, d', hload, rfl, rfl, hsave, hagain⟩

/-- Not everything that was loaded can be written: not a name that fills its field, and no empty
function that stands in the code of another one or is listed behind it at the same position. -/
theorem save_fails_of_loaded :
    (∃ s, Script.load (twoFunctions (List.replicate 32 0x78) (bareRecord 0 1) (bareRecord 1 1)) =
        .ok s ∧ s.functions.Pairwise FunctionEntry.Apart ∧
        s.save = .error (.encode (.nameTooLong 32 31))) ∧
      ∀ pos ∈ [0, 1], ∃ s,
        Script.load (twoFunctions [0x6d] (bareRecord 0 2) (bareRecord pos 0)) = .ok s ∧
        s.functions.Pairwise FunctionEntry.Apart ∧
        s.save = .error (.encode (.overlappingFunction pos 2)) := by
  constructor
  · refine ⟨{
      name := List.replicate 32 0x78
      strings := [⟨0, [0x66]⟩]
      functions := [{ pos := 0, code := [0x26] }, { pos := 1, code := [0x26] }] }, ?_, ?_, rfl⟩
    · exact load_eq_ok_iff.2 ⟨by decide, by decide⟩
    · simp only [List.pairwise_pair]
      rintro n ⟨⟨-, hfirst⟩, ⟨hsecond, -⟩⟩
      simp at hfirst hsecond
      omega
  · intro pos hpos
    let s : Script := {
      name := [0x6d]
      strings := [⟨0, [0x66]⟩]
      functions := [{ pos := 0, code := [0x26, 0x26] }, { pos, code := [] }] }
    refine ⟨s, ?_, ?_, ?_⟩
    · rcases List.mem_pair.1 hpos with rfl | rfl
      · exact load_eq_ok_iff.2 ⟨by decide, by decide⟩
      · exact load_eq_ok_iff.2 ⟨by decide, by decide⟩
    · simp only [s, List.pairwise_pair]
      rintro n ⟨-, ⟨hstart, hstop⟩⟩
      simp at hstart hstop
      omega
    · have horder : Script.codeOrder s.functions = s.functions :=
        List.mergeSort_of_pairwise (by simp [s])
      rw [Script.save, horder]
      rcases List.mem_pair.1 hpos with rfl | rfl
      · rfl
      · rfl

end Container

end NovelScript
