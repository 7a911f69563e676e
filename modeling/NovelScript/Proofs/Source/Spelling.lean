import NovelScript.Proofs.Assembly.Resolution
import NovelScript.Proofs.Source.Numbers

/-!
How numbers are spelled. A *spelling* is a sign, a base and digits, and says by itself which text it
is and which number it stands for. The texts that are read as numbers are the spellings whose
magnitude is not too great (`parse?_eq_some_iff`), and a reader for a range takes exactly the
spellings whose numbers lie in its range (`ReadsRange`).
-/

namespace NovelScript.Number

open Assembly.TwoPass

/-! ### Spellings -/

inductive Base
  | decimal
  | hexadecimal
  deriving DecidableEq, Repr

namespace Base

def radix : Base → Nat
  | decimal => 10
  | hexadecimal => 16

def mark : Base → Text
  | decimal => []
  | hexadecimal => ['0', 'x']

def isDigit : Base → Char → Bool
  | decimal => Numeral.isDecimalDigit
  | hexadecimal => Numeral.isLowerHexDigit

theorem radix_le (b : Base) : b.radix ≤ 16 := by
  cases b <;> decide

theorem isDigit_digitChar {b : Base} (d : Fin b.radix) : b.isDigit (Nat.digitChar d) = true := by
  cases b with
  | decimal => exact Numeral.isDecimalDigit_digitChar d
  | hexadecimal => exact Numeral.isLowerHexDigit_digitChar d

end Base

/-- A number as it is written. There may be any number of leading zeros. -/
structure Spelling where
  negative : Bool
  base : Base
  digits : List (Fin base.radix)
  digits_ne_nil : digits ≠ []
  deriving DecidableEq, Repr

namespace Spelling

def characters (s : Spelling) : Text := s.digits.map fun d : Fin _ => Nat.digitChar d

def body (s : Spelling) : Text := s.base.mark ++ s.characters

def text (s : Spelling) : Text := if s.negative then '-' :: s.body else s.body

def magnitude (s : Spelling) : Nat := Nat.ofDigits s.base.radix (s.digits.reverse.map Fin.val)

def value (s : Spelling) : Int := if s.negative then -(s.magnitude : Int) else s.magnitude

end Spelling

/-! ### Digits -/

theorem Base.toNat_lt_of_isDigit {b : Base} {c : Char} (h : b.isDigit c = true) :
    c.toNat < 128 := by
  have hle {limit : Char} (hc : c ≤ limit) : c.toNat ≤ limit.toNat := hc
  cases b with
  | decimal =>
    rw [isDigit, Numeral.isDecimalDigit, Bool.and_eq_true] at h
    have hnine := hle (of_decide_eq_true h.2)
    exact Nat.lt_of_le_of_lt hnine (by decide)
  | hexadecimal =>
    rw [isDigit, Numeral.isLowerHexDigit, Numeral.isDecimalDigit, Bool.or_eq_true, Bool.and_eq_true,
      Bool.and_eq_true] at h
    rcases h with h | h
    · exact Nat.lt_of_le_of_lt (hle (of_decide_eq_true h.2)) (by decide)
    · exact Nat.lt_of_le_of_lt (hle (of_decide_eq_true h.2)) (by decide)

theorem Base.exists_digitChar {b : Base} {c : Char} (h : b.isDigit c = true) :
    ∃ d : Fin b.radix, Nat.digitChar d = c := by
  have hall : ∀ n : Fin 128, b.isDigit (Char.ofNat n) = true →
      ∃ d : Fin b.radix, Nat.digitChar d = Char.ofNat n := by
    cases b <;> decide
  have hc := hall ⟨c.toNat, toNat_lt_of_isDigit h⟩
  rw [Char.ofNat_toNat] at hc
  exact hc h

theorem Base.exists_digits {b : Base} {t : Text} (h : ∀ c ∈ t, b.isDigit c = true) :
    ∃ digits : List (Fin b.radix), digits.map (fun d : Fin _ => Nat.digitChar d) = t := by
  induction t with
  | nil => exact ⟨[], rfl⟩
  | cons c t ih =>
    obtain ⟨d, rfl⟩ := exists_digitChar (h c List.mem_cons_self)
    obtain ⟨digits, rfl⟩ := ih fun e he => h e (List.mem_cons_of_mem _ he)
    exact ⟨d :: digits, rfl⟩

namespace Spelling

variable (s : Spelling)

theorem characters_ne_nil : s.characters ≠ [] :=
  fun h => s.digits_ne_nil (List.map_eq_nil_iff.1 h)

theorem isDigit_of_mem_characters {c : Char} (h : c ∈ s.characters) : s.base.isDigit c = true := by
  obtain ⟨d, -, rfl⟩ := List.mem_map.1 h
  exact Base.isDigit_digitChar d

theorem value_characters : Numeral.value s.base.radix s.characters = s.magnitude := by
  rw [characters, magnitude]
  induction s.digits using List.reverseRecOn with
  | nil => rfl
  | append_singleton digits d ih =>
    have hdigit : (Numeral.hexDigit? (Nat.digitChar d)).getD 0 = d := by
      rw [Numeral.hexDigit?_digitChar ⟨d, by have := s.base.radix_le; omega⟩]
      rfl
    rw [List.map_append, List.map_singleton, Numeral.value_concat, ih, hdigit, List.reverse_append,
      List.reverse_singleton, List.singleton_append, List.map_cons, Nat.ofDigits_cons]
    exact (Nat.add_comm _ _).trans (congrArg _ (Nat.mul_comm _ _))

end Spelling

/-! ### Reading spellings -/

/-- Digits are read if there are any and they are not too many. -/
theorem magnitude?_eq_some_iff {base : Nat} {isDigit : Char → Bool} {digits : Text} {m : Nat} :
    magnitude? base isDigit digits = some m ↔
      digits ≠ [] ∧ (∀ c ∈ digits, isDigit c = true) ∧ Numeral.value base digits = m ∧
        m ≤ maxMagnitude := by
  constructor
  · intro h
    rw [magnitude?] at h
    split at h
    · cases h
    · rename_i hgood
      rw [not_or, not_not, List.all_eq_true] at hgood
      simp only [Option.ite_none_right_eq_some, Option.some.injEq] at h
      obtain ⟨hle, rfl⟩ := h
      exact ⟨hgood.1, hgood.2, rfl, hle⟩
  · rintro ⟨hne, hdigits, rfl, hle⟩
    exact magnitude?_eq_some hne hdigits hle

/-- What a text without a sign is read as, by its base. -/
theorem unsigned?_mark {b : Base} {t : Text} (h : ∀ c ∈ t, b.isDigit c = true) :
    unsigned? (b.mark ++ t) = magnitude? b.radix b.isDigit t := by
  cases b with
  | decimal =>
    show unsigned? t = _
    rw [unsigned?, after?_mark_of_forall h]
    rfl
  | hexadecimal => rfl

theorem unsigned?_body (s : Spelling) :
    unsigned? s.body = if s.magnitude ≤ maxMagnitude then some s.magnitude else none := by
  have hdigits : ∀ c ∈ s.characters, s.base.isDigit c = true :=
    fun _ => s.isDigit_of_mem_characters
  rw [Spelling.body, unsigned?_mark hdigits]
  split
  · rename_i hle
    exact magnitude?_eq_some_iff.2 ⟨s.characters_ne_nil, hdigits, s.value_characters, hle⟩
  · rename_i hgreat
    rw [Option.eq_none_iff_forall_ne_some]
    intro m hm
    obtain ⟨-, -, hvalue, hle⟩ := magnitude?_eq_some_iff.1 hm
    rw [s.value_characters] at hvalue
    exact hgreat (hvalue ▸ hle)

/-- Whatever is read without a sign is a mark and digits. -/
theorem exists_body_of_unsigned? {t : Text} {m : Nat} (h : unsigned? t = some m) :
    ∃ s : Spelling, s.body = t ∧ s.magnitude = m ∧ m ≤ maxMagnitude := by
  obtain ⟨b, digits, rfl, hread⟩ : ∃ (b : Base) (digits : Text), t = b.mark ++ digits ∧
      magnitude? b.radix b.isDigit digits = some m := by
    rw [unsigned?] at h
    split at h
    · rename_i digits hafter
      exact ⟨.hexadecimal, digits, Text.after?_eq_some_iff.1 hafter, h⟩
    · exact ⟨.decimal, t, rfl, h⟩
  obtain ⟨hne, hdigits, hvalue, hle⟩ := magnitude?_eq_some_iff.1 hread
  obtain ⟨digits, rfl⟩ := Base.exists_digits hdigits
  have hdigits_ne : digits ≠ [] := fun hnil => hne (List.map_eq_nil_iff.2 hnil)
  let s : Spelling := ⟨false, b, digits, hdigits_ne⟩
  exact ⟨s, rfl, s.value_characters.symm.trans hvalue, hle⟩

/-- No spelling without a sign begins with one. -/
theorem after?_minus_body (s : Spelling) : Text.after? ['-'] s.body = none := by
  have hdigits : ∀ c ∈ s.characters, s.base.isDigit c = true :=
    fun _ => s.isDigit_of_mem_characters
  rw [Spelling.body]
  cases hbase : s.base with
  | decimal =>
    rw [hbase] at hdigits
    exact after?_minus_of_forall s.characters_ne_nil hdigits
  | hexadecimal => exact after?_minus_of_ne (by decide)

theorem parse?_minus (t : Text) :
    parse? ('-' :: t) = (unsigned? t).map fun m : Nat => -(m : Int) := by
  show (unsigned? t).map (fun m => -(m : Int)) = _
  cases unsigned? t <;> rfl

theorem parse?_of_after? {t : Text} (h : Text.after? ['-'] t = none) :
    parse? t = (unsigned? t).map fun m : Nat => (m : Int) := by
  rw [parse?, h]
  cases unsigned? t <;> rfl

/-- A spelling is read as its number, unless its magnitude is too great. -/
theorem parse?_text (s : Spelling) :
    parse? s.text = if s.magnitude ≤ maxMagnitude then some s.value else none := by
  rw [Spelling.text, Spelling.value]
  cases s.negative with
  | true =>
    show parse? ('-' :: s.body) = if _ then some (-(s.magnitude : Int)) else none
    rw [parse?_minus, unsigned?_body]
    split <;> rfl
  | false =>
    show parse? s.body = if _ then some (s.magnitude : Int) else none
    rw [parse?_of_after? (after?_minus_body s), unsigned?_body]
    split <;> rfl

/-- The texts that are read as numbers are the spellings whose magnitude is not too great. -/
theorem parse?_eq_some_iff {t : Text} {v : Int} :
    parse? t = some v ↔ ∃ s : Spelling, s.text = t ∧ s.magnitude ≤ maxMagnitude ∧ s.value = v := by
  constructor
  · intro h
    cases hafter : Text.after? ['-'] t with
    | some body =>
      obtain rfl := Text.after?_eq_some_iff.1 hafter
      obtain ⟨m, hm, rfl⟩ := Option.map_eq_some_iff.1 ((parse?_minus body).symm.trans h)
      obtain ⟨s, rfl, rfl, hle⟩ := exists_body_of_unsigned? hm
      exact ⟨{ s with negative := true }, rfl, hle, rfl⟩
    | none =>
      obtain ⟨m, hm, rfl⟩ := Option.map_eq_some_iff.1 ((parse?_of_after? hafter).symm.trans h)
      obtain ⟨s, rfl, rfl, hle⟩ := exists_body_of_unsigned? hm
      exact ⟨{ s with negative := false }, rfl, hle, rfl⟩
  · rintro ⟨s, rfl, hle, rfl⟩
    rw [parse?_text, if_pos hle]

/-! ### Numbers of a range -/

/-- What a reader for the numbers from `least` to `greatest` does with every text. It takes the
spellings of these numbers, and says of each other text what is wrong with it. -/
structure ReadsRange {α : Type} (read : Nat → Text → Except Fault α) (least greatest : Int)
    (ofInt : Int → α) : Prop where
  accepts : ∀ line (s : Spelling), least ≤ s.value → s.value ≤ greatest →
    read line s.text = .ok (ofInt s.value)
  refuses : ∀ line (s : Spelling), s.magnitude ≤ maxMagnitude →
    s.value < least ∨ greatest < s.value →
      read line s.text = .error (.semantic line (.outOfRange s.text least greatest))
  tooGreat : ∀ line (s : Spelling), maxMagnitude < s.magnitude →
    read line s.text = .error (.syntactic line (.notNumber s.text))
  misspelled : ∀ line t, (∀ s : Spelling, s.text ≠ t) →
    read line t = .error (.syntactic line (.notNumber t))

theorem Spelling.magnitude_eq_natAbs (s : Spelling) : s.magnitude = s.value.natAbs := by
  rw [value]
  split <;> omega

theorem expect_of_parse? {line : Nat} {t : Text} {v : Int} (h : parse? t = some v) :
    expect line t = .ok v := by
  rw [expect, h]

theorem expect_of_parse?_eq_none {line : Nat} {t : Text} (h : parse? t = none) :
    expect line t = .error (.syntactic line (.notNumber t)) := by
  rw [expect, h]

/-- Numbers of a range are read by reading any number and then checking the range. -/
theorem readsRange_of_eq {α : Type} {read : Nat → Text → Except Fault α} {least greatest : Int}
    {ofInt : Int → α} (hleast : -maxMagnitude ≤ least) (hgreatest : greatest ≤ maxMagnitude)
    (h : ∀ line t, read line t =
      (expect line t >>= fun n => checkRange line t least greatest n >>= fun n => .ok (ofInt n))) :
    ReadsRange read least greatest ofInt where
  accepts line s hl hg := by
    have hsmall : s.magnitude ≤ maxMagnitude := by
      rw [s.magnitude_eq_natAbs]
      omega
    have hparse : parse? s.text = some s.value := by rw [parse?_text, if_pos hsmall]
    rw [h, expect_of_parse? hparse, Outcome.ok_bind, checkRange, if_neg (by omega),
      Outcome.ok_bind]
  refuses line s hsmall hout := by
    have hparse : parse? s.text = some s.value := by rw [parse?_text, if_pos hsmall]
    rw [h, expect_of_parse? hparse, Outcome.ok_bind, checkRange, if_pos hout, Outcome.error_bind]
  tooGreat line s hgreat := by
    have hparse : parse? s.text = none := by
      rw [parse?_text, if_neg (Nat.not_le.2 hgreat)]
    rw [h, expect_of_parse?_eq_none hparse, Outcome.error_bind]
  misspelled line t ht := by
    have hparse : parse? t = none := by
      rw [Option.eq_none_iff_forall_ne_some]
      intro v hv
      obtain ⟨s, hs, -⟩ := parse?_eq_some_iff.1 hv
      exact ht s hs
    rw [h, expect_of_parse?_eq_none hparse, Outcome.error_bind]

theorem readsRange_word : ReadsRange word (-2 ^ 31) (2 ^ 32 - 1) UInt32.ofInt :=
  readsRange_of_eq (by decide) (by decide) fun _ _ => rfl

theorem readsRange_byte : ReadsRange byte (-2 ^ 7) (2 ^ 8 - 1) UInt8.ofInt :=
  readsRange_of_eq (by decide) (by decide) fun _ _ => rfl

/-! ### Numbers that were written -/

theorem word_signed (line : Nat) (w : UInt32) :
    word line (Numeral.signed w.toInt32.toInt) = .ok w :=
  Outcome.toOption_eq_some_iff.1 ((toOption_word line _).trans (word?_signed w))

theorem word_hex (line : Nat) (w : UInt32) :
    word line ('0' :: 'x' :: Numeral.hex 8 w.toNat) = .ok w :=
  Outcome.toOption_eq_some_iff.1 ((toOption_word line _).trans (word?_hex w))

theorem byte_decimal (line : Nat) (b : UInt8) :
    byte line (Numeral.decimal b.toNat) = .ok b :=
  Outcome.toOption_eq_some_iff.1 ((toOption_byte line _).trans (byte?_decimal b))

theorem byte_hex (line : Nat) (b : UInt8) :
    byte line ('0' :: 'x' :: Numeral.hex 2 b.toNat) = .ok b :=
  Outcome.toOption_eq_some_iff.1 ((toOption_byte line _).trans (byte?_hex b))

/-! ### Main result -/

/-- The texts that are read as numbers are the spellings whose magnitude is below 2 to the 63. Words
and bytes are read from exactly the spellings of numbers that fit them, signed or unsigned, and so
from both forms in which a listing writes them; nothing is cut down to fit. -/
theorem numbers_exact :
    (∀ t v, parse? t = some v ↔
        ∃ s : Spelling, s.text = t ∧ s.magnitude ≤ 2 ^ 63 - 1 ∧ s.value = v) ∧
      ReadsRange word (-2 ^ 31) (2 ^ 32 - 1) UInt32.ofInt ∧
      ReadsRange byte (-2 ^ 7) (2 ^ 8 - 1) UInt8.ofInt ∧
      (∀ line (w : UInt32), (Numeral.hex 8 w.toNat).length = 8 ∧
        word line (Numeral.signed w.toInt32.toInt) = .ok w ∧
        word line ('0' :: 'x' :: Numeral.hex 8 w.toNat) = .ok w) ∧
      ∀ line (b : UInt8), (Numeral.hex 2 b.toNat).length = 2 ∧
        byte line (Numeral.decimal b.toNat) = .ok b ∧
        byte line ('0' :: 'x' :: Numeral.hex 2 b.toNat) = .ok b :=
  ⟨fun _ _ => parse?_eq_some_iff, readsRange_word, readsRange_byte,
    fun line w => ⟨Numeral.length_hex (by decide) w.toNat_lt, word_signed line w, word_hex line w⟩,
    fun line b => ⟨Numeral.length_hex (by decide) b.toNat_lt, byte_decimal line b, byte_hex line b⟩⟩

/-- The greatest number, the least word with leading zeros, one below the least byte, and one above
the greatest number. -/
theorem numbers_exact_atEdges :
    parse? "0x7fffffffffffffff".toList = some 0x7fffffffffffffff ∧
      word 1 "-0x0080000000".toList = .ok 0x80000000 ∧
      byte 1 "-129".toList = .error (.semantic 1 (.outOfRange "-129".toList (-128) 255)) ∧
      word 1 "0x8000000000000000".toList =
        .error (.syntactic 1 (.notNumber "0x8000000000000000".toList)) := by
  obtain ⟨hparse, hword, hbyte, -⟩ := numbers_exact
  refine ⟨(hparse _ _).2 ⟨⟨false, .hexadecimal, (7 :: List.replicate 15 15 : List (Fin 16)),
    List.cons_ne_nil _ _⟩, by decide, by decide, by decide⟩, ?_, ?_, ?_⟩
  · exact hword.accepts 1 ⟨true, .hexadecimal, ([0, 0, 8, 0, 0, 0, 0, 0, 0, 0] : List (Fin 16)),
      List.cons_ne_nil _ _⟩ (by decide) (by decide)
  · exact hbyte.refuses 1 ⟨true, .decimal, ([1, 2, 9] : List (Fin 10)), List.cons_ne_nil _ _⟩
      (by decide) (by decide)
  · exact hword.tooGreat 1 ⟨false, .hexadecimal, (8 :: List.replicate 15 0 : List (Fin 16)),
      List.cons_ne_nil _ _⟩ (by decide)

end NovelScript.Number
