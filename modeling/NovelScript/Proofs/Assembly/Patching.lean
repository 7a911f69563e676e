import NovelScript.Proofs.Assembly.TwoPass
import NovelScript.Proofs.Outcome

/-!
Code with placeholders. `filled` is the code of a draft once every placeholder has the value that a
scope gives to its target. What is emitted appears at the end of it, whatever is still to be patched
before (`filled_emit`), and a placeholder appears as the value it stands for (`filled_jump`,
`filled_call`).
-/

namespace NovelScript.Assembly

open TwoPass (Scope)

/-! ### Replacing words -/

def overwrite (code : Bytes) (offset : Nat) (value : UInt32) : Bytes :=
  code.take offset ++ wordBytes value ++ code.drop (offset + 4)

theorem length_overwrite {code : Bytes} {offset : Nat} (h : offset + 4 ≤ code.length)
    (value : UInt32) : (overwrite code offset value).length = code.length := by
  simp only [overwrite, List.length_append, List.length_take, length_wordBytes, List.length_drop]
  omega

theorem overwrite_append {code : Bytes} {offset : Nat} (h : offset + 4 ≤ code.length)
    (value : UInt32) (more : Bytes) :
    overwrite (code ++ more) offset value = overwrite code offset value ++ more := by
  have htake : offset ≤ code.length := by omega
  rw [overwrite, overwrite, List.take_append_of_le_length htake,
    List.drop_append_of_le_length h]
  simp only [List.append_assoc]

theorem overwrite_end (code : Bytes) (old value : UInt32) :
    overwrite (code ++ wordBytes old) code.length value = code ++ wordBytes value := by
  have hlen : (code ++ wordBytes old).length = code.length + 4 := by simp
  rw [overwrite, List.take_left, ← hlen, List.drop_length, List.append_nil]

theorem patchWord_eq_ok {code : Bytes} {offset : Nat} (h : offset + 4 ≤ code.length)
    (value : UInt32) : patchWord code offset value = .ok (overwrite code offset value) :=
  if_pos h

/-! ### Filling placeholders -/

def Fixup.Fits (size : Nat) (f : Fixup) : Prop := f.offset + 4 ≤ size

theorem Fixup.Fits.mono {size size' : Nat} {f : Fixup} (h : f.Fits size) (hle : size ≤ size') :
    f.Fits size' := Nat.le_trans h hle

def fill? (value : Text → Option UInt32) (code : Bytes) (f : Fixup) : Option Bytes :=
  (value f.target).map (overwrite code f.offset)

theorem fill?_append {value : Text → Option UInt32} {code : Bytes} {f : Fixup}
    (h : f.Fits code.length) (more : Bytes) :
    fill? value (code ++ more) f = (fill? value code f).map (· ++ more) := by
  cases hv : value f.target with
  | none => simp [fill?, hv]
  | some v => simp [fill?, hv, overwrite_append h]

theorem length_of_fill? {value : Text → Option UInt32} {code filled : Bytes} {f : Fixup}
    (h : f.Fits code.length) (hf : fill? value code f = some filled) :
    filled.length = code.length := by
  obtain ⟨v, -, rfl⟩ := Option.map_eq_some_iff.1 hf
  exact length_overwrite h v

theorem fits_of_fits_cons {f : Fixup} {fixups : List Fixup} {code middle : Bytes}
    (h : ∀ g ∈ f :: fixups, g.Fits code.length) (hlen : middle.length = code.length) :
    ∀ g ∈ fixups, g.Fits middle.length := by
  intro g hg
  rw [hlen]
  exact h g (List.mem_cons_of_mem f hg)

/-- Fixups before the end of some code do not see what follows it. -/
theorem foldlM_fill?_append (value : Text → Option UInt32) {fixups : List Fixup} {code : Bytes}
    (h : ∀ f ∈ fixups, f.Fits code.length) (more : Bytes) :
    fixups.foldlM (fill? value) (code ++ more) =
      (fixups.foldlM (fill? value) code).map (· ++ more) := by
  induction fixups generalizing code with
  | nil => rfl
  | cons f fixups ih =>
    rw [List.foldlM_cons, List.foldlM_cons, fill?_append (h f List.mem_cons_self)]
    cases hf : fill? value code f with
    | none => rfl
    | some filled =>
      have hlen := length_of_fill? (h f List.mem_cons_self) hf
      exact ih (fits_of_fits_cons h hlen)

theorem length_of_foldlM_fill? {value : Text → Option UInt32} {fixups : List Fixup}
    {code filled : Bytes} (h : ∀ f ∈ fixups, f.Fits code.length)
    (hf : fixups.foldlM (fill? value) code = some filled) : filled.length = code.length := by
  induction fixups generalizing code with
  | nil =>
    obtain rfl : code = filled := by simpa using hf
    rfl
  | cons f fixups ih =>
    rw [List.foldlM_cons] at hf
    obtain ⟨middle, hmiddle, hf⟩ := Option.bind_eq_some_iff.1 hf
    have hlen := length_of_fill? (h f List.mem_cons_self) hmiddle
    rw [ih (fits_of_fits_cons h hlen) hf, hlen]

theorem isSome_foldlM_fill? {value : Text → Option UInt32} (h : ∀ name, (value name).isSome)
    (fixups : List Fixup) (code : Bytes) :
    (fixups.foldlM (fill? value) code).isSome := by
  induction fixups generalizing code with
  | nil => rfl
  | cons f fixups ih =>
    obtain ⟨v, hv⟩ := Option.isSome_iff_exists.1 (h f.target)
    rw [List.foldlM_cons]
    simpa [fill?, hv] using ih (overwrite code f.offset v)

/-- Patching with a function that finds the values is filling. -/
theorem foldlM_eq_ok_iff {patch : Bytes → Fixup → Except Fault Bytes}
    {value : Text → Option UInt32}
    (hpatch : ∀ code f, f.Fits code.length → (patch code f).toOption = fill? value code f)
    {fixups : List Fixup} {code filled : Bytes} (h : ∀ f ∈ fixups, f.Fits code.length) :
    fixups.foldlM patch code = .ok filled ↔ fixups.foldlM (fill? value) code = some filled := by
  induction fixups generalizing code with
  | nil => simp [Outcome.pure_eq_ok]
  | cons f fixups ih =>
    have hf := h f List.mem_cons_self
    rw [List.foldlM_cons, List.foldlM_cons, Outcome.bind_eq_ok_iff, ← hpatch code f hf]
    cases hp : patch code f with
    | error e => simp
    | ok middle =>
      have hlen := length_of_fill? hf (by rw [← hpatch code f hf, hp]; rfl)
      simpa using ih (fits_of_fits_cons h hlen)

/-! ### The filled code of a draft -/

namespace Draft

structure Fits (d : Draft) : Prop where
  jumps : ∀ f ∈ d.jumps, f.Fits d.code.size
  calls : ∀ f ∈ d.calls, f.Fits d.code.size

/-- The code of a draft under a scope. -/
def filled (σ : Scope) (d : Draft) : Option Bytes := do
  let code ← d.jumps.foldlM (fill? σ.labels) d.code.toList
  d.calls.foldlM (fill? σ.functions) code

@[simp] theorem size_emit (d : Draft) (field : Field) :
    (d.emit field).code.size = d.code.size + field.encode.length := by
  rw [← Buffer.length_toList, emit, Buffer.toList_put, List.length_append, Buffer.length_toList]

theorem Fits.jumps_toList {d : Draft} (h : d.Fits) :
    ∀ f ∈ d.jumps, f.Fits d.code.toList.length := by
  simpa only [Buffer.length_toList] using h.jumps

theorem Fits.emit {d : Draft} (h : d.Fits) (field : Field) : (d.emit field).Fits where
  jumps f hf := (h.jumps f hf).mono (by rw [size_emit]; omega)
  calls f hf := (h.calls f hf).mono (by rw [size_emit]; omega)

/-- The jumps of a draft, and then its calls, do not see what follows the code. -/
theorem filled_append {d : Draft} (h : d.Fits) (σ : Scope) (more : Bytes) :
    ((d.jumps.foldlM (fill? σ.labels) (d.code.toList ++ more)).bind
        fun code => d.calls.foldlM (fill? σ.functions) code) =
      (d.filled σ).map (· ++ more) := by
  have hjumps := h.jumps_toList
  rw [foldlM_fill?_append σ.labels hjumps, filled]
  cases hc : d.jumps.foldlM (fill? σ.labels) d.code.toList with
  | none => rfl
  | some code =>
    have hlen := length_of_foldlM_fill? hjumps hc
    refine foldlM_fill?_append σ.functions (fun f hf => ?_) more
    rw [hlen, Buffer.length_toList]
    exact h.calls f hf

theorem filled_emit {d : Draft} (h : d.Fits) (σ : Scope) (field : Field) :
    (d.emit field).filled σ = (d.filled σ).map (· ++ field.encode) := by
  rw [← filled_append h σ field.encode, ← Buffer.toList_put]
  rfl

theorem length_of_filled {d : Draft} (h : d.Fits) {σ : Scope} {code : Bytes}
    (hc : d.filled σ = some code) : code.length = d.code.size := by
  have hjumps := h.jumps_toList
  obtain ⟨middle, hmiddle, hcode⟩ := Option.bind_eq_some_iff.1 hc
  have hlen := length_of_foldlM_fill? hjumps hmiddle
  rw [length_of_foldlM_fill? (fun f hf => ?_) hcode, hlen, Buffer.length_toList]
  rw [hlen, Buffer.length_toList]
  exact h.calls f hf

/-- The draft after a jump to a label that is not defined yet. -/
def jump (d : Draft) (name : Text) (line : Nat) : Draft :=
  { d.emit (.u32 unresolved) with jumps := d.jumps ++ [d.fixup name line] }

def call (d : Draft) (name : Text) (line : Nat) : Draft :=
  { d.emit (.u32 unresolved) with calls := d.calls ++ [d.fixup name line] }

theorem fits_fixup (d : Draft) (name : Text) (line : Nat) :
    (d.fixup name line).Fits (d.emit (.u32 unresolved)).code.size := by
  have hsize : (d.emit (.u32 unresolved)).code.size = d.code.size + 4 := by
    rw [size_emit, Field.encode, length_wordBytes]
  show d.code.size + 4 ≤ (d.emit (.u32 unresolved)).code.size
  omega

theorem Fits.jump {d : Draft} (h : d.Fits) (name : Text) (line : Nat) :
    (d.jump name line).Fits where
  jumps f hf := by
    rcases List.mem_append.1 hf with hf | hf
    · exact (h.emit _).jumps f hf
    · rw [List.mem_singleton.1 hf]
      exact d.fits_fixup name line
  calls := (h.emit _).calls

theorem Fits.call {d : Draft} (h : d.Fits) (name : Text) (line : Nat) :
    (d.call name line).Fits where
  jumps := (h.emit _).jumps
  calls f hf := by
    rcases List.mem_append.1 hf with hf | hf
    · exact (h.emit _).calls f hf
    · rw [List.mem_singleton.1 hf]
      exact d.fits_fixup name line

/-- Filling a placeholder at the end of code replaces just that placeholder. -/
theorem fill?_fixup (value : Text → Option UInt32) {d : Draft} {code : Bytes}
    (h : code.length = d.code.size) (name : Text) (line : Nat) :
    fill? value (code ++ wordBytes unresolved) (d.fixup name line) =
      (value name).map fun v => code ++ wordBytes v := by
  cases hv : value name with
  | none => simp [fill?, fixup, hv]
  | some v => simp [fill?, fixup, hv, ← h, overwrite_end]

theorem filled_jump {d : Draft} (h : d.Fits) (σ : Scope) (name : Text) (line : Nat) :
    (d.jump name line).filled σ =
      (d.filled σ).bind fun code => (σ.labels name).map fun v => code ++ wordBytes v := by
  have hjumps := h.jumps_toList
  have hcode : (d.jump name line).code.toList = d.code.toList ++ wordBytes unresolved := by
    simp [jump, emit, Field.encode]
  have hall : (d.jump name line).jumps = d.jumps ++ [d.fixup name line] := rfl
  rw [filled, hcode, hall, List.foldlM_append, foldlM_fill?_append σ.labels hjumps, filled]
  cases hc : d.jumps.foldlM (fill? σ.labels) d.code.toList with
  | none => rfl
  | some code =>
    have hlen := length_of_foldlM_fill? hjumps hc
    rw [Buffer.length_toList] at hlen
    have hcalls : ∀ f ∈ d.calls, f.Fits code.length := by
      rw [hlen]
      exact h.calls
    have hlast := fill?_fixup σ.labels hlen name line
    -- the calls are filled after the new jump, but lie before it
    cases hv : σ.labels name with
    | none =>
      rw [hv] at hlast
      simp [hlast]
    | some v =>
      rw [hv] at hlast
      have hrest := foldlM_fill?_append σ.functions hcalls (wordBytes v)
      simp only [Option.map_some] at hlast
      cases hf : d.calls.foldlM (fill? σ.functions) code with
      | none => simpa [hlast, jump, emit, hf] using hrest
      | some filled => simpa [hlast, jump, emit, hf] using hrest

theorem filled_call {d : Draft} (h : d.Fits) (σ : Scope) (name : Text) (line : Nat) :
    (d.call name line).filled σ =
      (d.filled σ).bind fun code => (σ.functions name).map fun v => code ++ wordBytes v := by
  have hcode : (d.call name line).code.toList = d.code.toList ++ wordBytes unresolved := by
    simp [call, emit, Field.encode]
  have hall : (d.call name line).calls = d.calls ++ [d.fixup name line] := rfl
  have hsame : (d.call name line).jumps = d.jumps := rfl
  have hbefore := filled_append h σ (wordBytes unresolved)
  rw [filled, hcode, hall, hsame]
  simp only [List.foldlM_append, bind] at hbefore ⊢
  rw [← Option.bind_assoc, hbefore]
  cases hc : d.filled σ with
  | none => rfl
  | some code =>
    have hlast := fill?_fixup σ.functions (length_of_filled h hc) name line
    simp [hlast]

end Draft

end NovelScript.Assembly
