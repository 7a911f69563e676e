import NovelScript.Proofs.Container.RoundTrip

/-!
Scripts without gaps. Where every string and every function begins where the one before it ends, the
sections are simply their concatenations, so the script can be saved (`exists_save_of_packed`).
-/

namespace NovelScript.Script

/-- Every function begins at the end of the one before it, the first one at `cursor`. -/
def FunctionsPacked (cursor : Nat) : List FunctionEntry → Prop
  | [] => True
  | f :: fs => f.pos.toNat = cursor ∧ FunctionsPacked (cursor + f.code.length) fs

theorem exists_layStrings_of_packed {cursor : Nat} {strings : List StringEntry}
    (h : StringsPacked cursor strings) (hzero : ∀ s ∈ strings, 0 ∉ s.bytes) :
    ∃ bytes, layStrings cursor strings = .ok bytes :=
  ⟨_, Container.layStrings_eq_ok_iff.2 ⟨h, hzero, rfl⟩⟩

theorem layCode_of_packed {cursor : Nat} {functions : List FunctionEntry}
    (h : FunctionsPacked cursor functions) :
    layCode cursor functions = .ok (functions.flatMap (·.code)) := by
  induction functions generalizing cursor with
  | nil => rfl
  | cons f functions ih =>
    obtain ⟨hpos, hrest⟩ := h
    rw [layCode, if_neg (by omega), hpos, ih hrest, Nat.sub_self, List.flatMap_cons]
    rfl

theorem pairwise_of_packed {cursor : Nat} {functions : List FunctionEntry}
    (h : FunctionsPacked cursor functions) :
    (∀ f ∈ functions, cursor ≤ f.pos.toNat) ∧
      functions.Pairwise fun f g => decide (f.pos ≤ g.pos) = true := by
  induction functions generalizing cursor with
  | nil => exact ⟨nofun, .nil⟩
  | cons f functions ih =>
    obtain ⟨hpos, hrest⟩ := h
    obtain ⟨hle, hpairs⟩ := ih hrest
    refine ⟨?_, .cons ?_ hpairs⟩
    · intro g hg
      rcases List.mem_cons.1 hg with rfl | hg
      · omega
      · have := hle g hg
        omega
    · intro g hg
      have := hle g hg
      rw [decide_eq_true_eq, UInt32.le_iff_toNat_le]
      omega

theorem stop_le_of_packed {cursor : Nat} {functions : List FunctionEntry}
    (h : FunctionsPacked cursor functions) {f : FunctionEntry} (hf : f ∈ functions) :
    f.pos.toNat + f.code.length ≤ cursor + (functions.map fun g => g.code.length).sum := by
  induction functions generalizing cursor with
  | nil => exact nomatch hf
  | cons g functions ih =>
    obtain ⟨hpos, hrest⟩ := h
    rw [List.map_cons, List.sum_cons]
    rcases List.mem_cons.1 hf with rfl | hf
    · omega
    · have := ih hrest hf
      omega

theorem codeOrder_of_packed {functions : List FunctionEntry}
    (h : FunctionsPacked 0 functions) : codeOrder functions = functions :=
  List.mergeSort_of_pairwise (pairwise_of_packed h).2

/-- A packed script can be saved if its name fits and no string contains a zero byte. -/
theorem exists_save_of_packed {s : Script} (hlen : s.name.length ≤ Container.maxNameLength)
    (hname : 0 ∉ s.name) (hstrings : StringsPacked 0 s.strings)
    (hzero : ∀ e ∈ s.strings, 0 ∉ e.bytes) (hfunctions : FunctionsPacked 0 s.functions) :
    ∃ d, s.save = .ok d := by
  obtain ⟨bytes, hbytes⟩ := exists_layStrings_of_packed hstrings hzero
  refine ⟨Container.assembleSections s (s.functions.flatMap (·.code)) bytes, ?_⟩
  rw [Container.save_eq_ok_iff, Container.checkName_eq_ok_iff, codeOrder_of_packed hfunctions]
  exact ⟨⟨hlen, hname⟩, _, _, layCode_of_packed hfunctions, hbytes, rfl⟩

def codeLength (s : Script) : Nat := (s.functions.map fun f => f.code.length).sum

def stringsLength (s : Script) : Nat := (s.strings.map fun e => e.bytes.length + 1).sum

def codeStop (s : Script) : Nat :=
  Container.headerSize + s.functions.length * Container.recordSize + s.codeLength

def containerLength (s : Script) : Nat :=
  s.codeStop + paddingTo Container.stringsAlignment s.codeStop + s.stringsLength

theorem length_code_le {s : Script} {f : FunctionEntry} (h : f ∈ s.functions) :
    f.code.length ≤ s.codeLength :=
  List.le_sum_of_mem (List.mem_map.2 ⟨f, h, rfl⟩)

theorem length_bytes_lt {s : Script} {e : StringEntry} (h : e ∈ s.strings) :
    e.bytes.length + 1 ≤ s.stringsLength :=
  List.le_sum_of_mem (List.mem_map.2 ⟨e, h, rfl⟩)

theorem length_of_save {s : Script} {d : Bytes} (h : s.save = .ok d)
    (hfunctions : FunctionsPacked 0 s.functions) : d.length = s.containerLength := by
  obtain ⟨-, code, strings, hcode, hstrings, rfl⟩ := Container.save_eq_ok_iff.1 h
  rw [codeOrder_of_packed hfunctions, layCode_of_packed hfunctions] at hcode
  obtain rfl := Except.ok.inj hcode
  rw [Container.length_assembleSections, Container.length_of_layStrings hstrings, padding,
    List.length_replicate, List.length_flatMap]
  rfl

end NovelScript.Script
