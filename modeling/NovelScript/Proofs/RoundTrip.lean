import NovelScript.Proofs.Assembly.WellFormed
import NovelScript.Proofs.Listing.Reassembly

/-!
The way of an assembled script through a container and through a listing. The assembler leaves a
script in its normal form, so a listing in any charset brings back the very same script.
-/

namespace NovelScript

open Assembly

theorem lineFeed_not_mem_standard : ∀ name ∈ Cast.standard.names, '\n' ∉ name := by decide

/-- A script that the assembler made is saved and loaded, listed in any charset and assembled again,
all without a change to it or to its container. -/
theorem assemble_roundTrip {cs cs' : Charset} {source : Text} {s : Script}
    (h : assemble cs source = .ok s) (hsize : s.containerLength < 2 ^ 32) :
    ∃ d text, s.save = .ok d ∧ Script.load d = .ok s ∧
      disassemble s cs' Cast.standard = .ok text ∧ assemble cs' text = .ok s ∧
      (assemble cs' text >>= Script.save) = .ok d := by
  -- both sections are shorter than the container
  have hcode : s.codeLength < 2 ^ 32 := by
    rw [Script.containerLength, Script.codeStop] at hsize
    omega
  have hstrings : s.stringsLength < 2 ^ 32 := by
    rw [Script.containerLength] at hsize
    omega
  have hwf := wellFormed_of_assembleLines h hcode fun e he =>
    Nat.lt_of_le_of_lt (Script.length_bytes_lt (List.mem_of_mem_dropLast he)) hstrings
  obtain ⟨d, hd, hload⟩ := hwf.saved
  have hlt : d.length < 2 ^ 32 := by
    rw [Script.length_of_save hd hwf.functions_packed]
    exact hsize
  have hlistable := hwf.listable hstrings hcode
  have hnormal := hwf.normalForm_eq hcode
  -- the listing gives back the normal form, which is the script itself
  obtain ⟨text, htext, hprogram⟩ :=
    Listing.exists_disassemble cs' hlistable lineFeed_not_mem_standard
  have hassemble : assemble cs' text = .ok s := by
    have hlines := Listing.assembleLines_of_program? cs' hlistable hprogram
    rw [hnormal] at hlines
    exact hlines
  refine ⟨d, text, hd, hload hlt, htext, hassemble, ?_⟩
  rw [hassemble, Outcome.ok_bind, hd]

theorem assemble_roundTrip_sample :
    assemble .utf8 sampleSource = .ok sampleScript ∧
      sampleScript.containerLength < 2 ^ 32 ∧
      ∃ d text, sampleScript.save = .ok d ∧ Script.load d = .ok sampleScript ∧
        disassemble sampleScript .gbk Cast.standard = .ok text ∧
        assemble .gbk text = .ok sampleScript ∧
        (assemble .gbk text >>= Script.save) = .ok d := by
  have hsize : sampleScript.containerLength < 2 ^ 32 := by decide
  exact ⟨assemble_sampleSource, hsize, assemble_roundTrip assemble_sampleSource hsize⟩

end NovelScript
