/-!
Raw bytes and little-endian numbers. A number is written in a fixed count of bytes, the least
significant one first; `LittleEndian.decode_encode` says that it can be read back.
-/

namespace NovelScript

/-- Raw bytes: file contents, code, and strings in the script's own charset. -/
abbrev Bytes := List UInt8

namespace LittleEndian

/-- The `width` lowest base-256 digits of `n`, least significant digit first. -/
def encode : (width n : Nat) → Bytes
  | 0, _ => []
  | width + 1, n => UInt8.ofNat n :: encode width (n / 256)

/-- The number whose base-256 digits are `bytes`, least significant digit first. -/
def decode : Bytes → Nat
  | [] => 0
  | b :: rest => b.toNat + 256 * decode rest

@[simp] theorem length_encode (width n : Nat) : (encode width n).length = width := by
  induction width generalizing n with
  | zero => rfl
  | succ width ih => simp [encode, ih]

theorem decode_encode (width n : Nat) : decode (encode width n) = n % Nat.pow 256 width := by
  induction width generalizing n with
  | zero => simp [encode, decode, Nat.mod_one]
  | succ width ih =>
    have hb : (UInt8.ofNat n).toNat = n % 256 := UInt8.toNat_ofNat'
    rw [encode, decode, ih, hb, Nat.pow_eq, Nat.pow_eq, Nat.pow_succ,
      Nat.mul_comm (256 ^ width) 256, Nat.mod_mul]

theorem decode_lt (bytes : Bytes) : decode bytes < Nat.pow 256 bytes.length := by
  induction bytes with
  | nil => simp [decode]
  | cons b rest ih =>
    have hb := b.toNat_lt
    simp only [decode, List.length_cons, Nat.pow_eq, Nat.pow_succ] at ih ⊢
    omega

end LittleEndian

/-- The length of bytes as a 32-bit word. A length that is no word is cut down to one. -/
def wordLength (bytes : Bytes) : UInt32 := UInt32.ofNat bytes.length

def wordBytes (w : UInt32) : Bytes := LittleEndian.encode 4 w.toNat

def wordOfBytes (bytes : Bytes) : UInt32 := UInt32.ofNat (LittleEndian.decode bytes)

@[simp] theorem length_wordBytes (w : UInt32) : (wordBytes w).length = 4 :=
  LittleEndian.length_encode 4 w.toNat

theorem wordOfBytes_wordBytes (w : UInt32) : wordOfBytes (wordBytes w) = w := by
  apply UInt32.toNat_inj.1
  have hw := w.toNat_lt
  rw [wordOfBytes, wordBytes, LittleEndian.decode_encode, UInt32.toNat_ofNat',
    Nat.pow_eq]
  omega

end NovelScript
