import NovelScript.Bytes
import NovelScript.Text

/-!
What a charset makes of the bytes at hand. `Decoded` is one step of a decoder; `decodeSteps` is the
walk over a byte string, which is structural because it counts down the bytes that the current
character still covers. `decodeSteps_cons` takes one step off the front.
-/

namespace NovelScript.Charset

/-- One decoding step: the character, or none for a malformed sequence, and how many bytes after the
first one it covers. -/
structure Decoded where
  char? : Option Char
  more : Nat

namespace Decoded

def char (c : Char) (more : Nat) : Decoded := ⟨some c, more⟩

def malformed (more : Nat) : Decoded := ⟨none, more⟩

def code (n more : Nat) : Decoded := char (Char.ofNat n) more

/-- The character that a table gave, or a malformed sequence that covers `otherwise` bytes. -/
def ofTable (found : Option Char) (more otherwise : Nat) : Decoded :=
  match found with
  | some c => char c more
  | none => malformed otherwise

end Decoded

/-- The characters of a byte string in order, with `none` for every malformed sequence, after `skip`
bytes that belong to the character before. -/
def decodeSteps (step : UInt8 → Bytes → Decoded) : (skip : Nat) → Bytes → List (Option Char)
  | _, [] => []
  | skip + 1, _ :: rest => decodeSteps step skip rest
  | 0, b :: rest =>
    let d := step b rest
    d.char? :: decodeSteps step d.more rest

theorem decodeSteps_skip (step : UInt8 → Bytes → Decoded) (skip : Nat) (bytes : Bytes) :
    decodeSteps step skip bytes = decodeSteps step 0 (bytes.drop skip) := by
  induction bytes generalizing skip with
  | nil => simp [decodeSteps]
  | cons b rest ih =>
    cases skip with
    | zero => rfl
    | succ skip => simpa [decodeSteps] using ih skip

theorem decodeSteps_cons (step : UInt8 → Bytes → Decoded) (b : UInt8) (rest : Bytes) :
    decodeSteps step 0 (b :: rest) =
      (step b rest).char? :: decodeSteps step 0 (rest.drop (step b rest).more) := by
  rw [decodeSteps, decodeSteps_skip]

end NovelScript.Charset
