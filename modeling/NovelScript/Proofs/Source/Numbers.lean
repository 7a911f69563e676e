import NovelScript.Proofs.Assembly.TwoPass
import NovelScript.Proofs.Outcome

/-!
Numbers that were written are read back: digits stand for the number they were made of
(`value_toDigits`, `value_hex`), and what a listing writes for a byte, a word, a count or a function
of the engine is what the assembler takes it for.
-/

namespace NovelScript

namespace Numeral

/-! ### Digits -/

theorem hexDigit?_digitChar : ∀ d : Fin 16, hexDigit? (Nat.digitChar d) = some d.val := by decide

theorem isLowerHexDigit_digitChar : ∀ d : Fin 16, isLowerHexDigit (Nat.digitChar d) := by decide

theorem isDecimalDigit_digitChar : ∀ d : Fin 10, isDecimalDigit (Nat.digitChar d) := by decide

/-- Every digit of a number in a base is the character of a number below the base. -/
theorem exists_of_mem_toDigits {base n : Nat} (hbase : 1 < base) {c : Char}
    (h : c ∈ Nat.toDigits base n) : ∃ d < base, c = Nat.digitChar d := by
  induction n using Nat.strongRecOn with
  | ind n ih =>
    by_cases hlt : n < base
    · rw [Nat.toDigits_of_lt_base hlt, List.mem_singleton] at h
      exact ⟨n, hlt, h⟩
    · have hle := Nat.not_lt.1 hlt
      rw [Nat.toDigits_of_base_le hbase hle, List.mem_append, List.mem_singleton] at h
      rcases h with h | h
      · exact ih (n / base) (Nat.div_lt_self (by omega) hbase) h
      · exact ⟨n % base, Nat.mod_lt n (by omega), h⟩

theorem value_concat (base : Nat) (digits : Text) (c : Char) :
    value base (digits ++ [c]) = value base digits * base + (hexDigit? c).getD 0 := by
  rw [value, value, List.foldl_append]
  rfl

theorem value_toDigits {base : Nat} (hbase : 1 < base) (hle : base ≤ 16) (n : Nat) :
    value base (Nat.toDigits base n) = n := by
  have hdigit {d : Nat} (hd : d < base) : (hexDigit? (Nat.digitChar d)).getD 0 = d := by
    rw [hexDigit?_digitChar ⟨d, by omega⟩]
    rfl
  induction n using Nat.strongRecOn with
  | ind n ih =>
    by_cases hlt : n < base
    · have hsingle := value_concat base [] (Nat.digitChar n)
      rw [List.nil_append, hdigit hlt] at hsingle
      rw [Nat.toDigits_of_lt_base hlt, hsingle]
      show 0 * base + n = n
      omega
    · have hge := Nat.not_lt.1 hlt
      rw [Nat.toDigits_of_base_le hbase hge, value_concat,
        ih (n / base) (Nat.div_lt_self (by omega) hbase), hdigit (Nat.mod_lt n (by omega))]
      exact Nat.div_add_mod' n base

theorem value_replicate_append (base k : Nat) (digits : Text) :
    value base (List.replicate k '0' ++ digits) = value base digits := by
  induction k with
  | zero => rfl
  | succ k ih =>
    have hzero : 0 * base + (hexDigit? '0').getD 0 = 0 := by
      rw [Nat.zero_mul]
      rfl
    rw [List.replicate_succ, List.cons_append, value, List.foldl_cons, hzero]
    exact ih

theorem value_hex (width n : Nat) : value 16 (hex width n) = n := by
  rw [hex, value_replicate_append, value_toDigits (by decide) (by decide)]

/-- What holds of the sixteen digits holds of every digit of a number. -/
theorem forall_mem_hex {P : Char → Prop} (h : ∀ d : Fin 16, P (Nat.digitChar d)) {width n : Nat}
    {c : Char} (hc : c ∈ hex width n) : P c := by
  rcases List.mem_append.1 hc with hc | hc
  · rw [List.eq_of_mem_replicate hc]
    exact h 0
  · obtain ⟨d, hd, rfl⟩ := exists_of_mem_toDigits (by decide) hc
    exact h ⟨d, hd⟩

theorem isLowerHexDigit_of_mem_hex {width n : Nat} {c : Char} (h : c ∈ hex width n) :
    isLowerHexDigit c = true :=
  forall_mem_hex (P := fun c => isLowerHexDigit c = true) isLowerHexDigit_digitChar h

theorem hex_ne_nil (width n : Nat) : hex width n ≠ [] := by
  rw [hex]
  intro h
  exact Nat.toDigits_ne_nil (List.append_eq_nil_iff.1 h).2

theorem length_hex {width n : Nat} (hwidth : 0 < width) (h : n < 16 ^ width) :
    (hex width n).length = width := by
  have hle := (Nat.length_toDigits_le_iff (by decide) hwidth).2 h
  rw [hex, List.length_append, List.length_replicate]
  omega

theorem decimal_ne_nil (n : Nat) : decimal n ≠ [] := Nat.toDigits_ne_nil

theorem forall_mem_decimal {P : Char → Prop} (h : ∀ d : Fin 10, P (Nat.digitChar d)) {n : Nat}
    {c : Char} (hc : c ∈ decimal n) : P c := by
  obtain ⟨d, hd, rfl⟩ := exists_of_mem_toDigits (by decide) hc
  exact h ⟨d, hd⟩

theorem isDecimalDigit_of_mem_decimal {n : Nat} {c : Char} (h : c ∈ decimal n) :
    isDecimalDigit c = true :=
  forall_mem_decimal (P := fun c => isDecimalDigit c = true) isDecimalDigit_digitChar h

end Numeral

namespace Number

/-! ### Two's complement -/

@[simp] theorem ofInt_toNat (w : UInt32) : UInt32.ofInt (w.toNat : Int) = w := by
  have hlt := w.toNat_lt
  have hmod : ((w.toNat : Int) % 2 ^ 32).toNat = w.toNat := by omega
  rw [UInt32.ofInt, hmod, UInt32.ofNat_toNat]

@[simp] theorem ofInt_toNat_byte (b : UInt8) : UInt8.ofInt (b.toNat : Int) = b := by
  have hlt := b.toNat_lt
  have hmod : ((b.toNat : Int) % 2 ^ 8).toNat = b.toNat := by omega
  rw [UInt8.ofInt, hmod, UInt8.ofNat_toNat]

/-- The signed value of a word is its unsigned value or less than that by 2 to the 32. -/
theorem toInt_eq (w : UInt32) : w.toInt32.toInt =
    if 2 * w.toNat < 2 ^ 32 then (w.toNat : Int) else (w.toNat : Int) - (2 ^ 32 : Nat) :=
  BitVec.toInt_eq_toNat_cond w.toBitVec

theorem toInt_bounds (w : UInt32) :
    -2147483648 ≤ w.toInt32.toInt ∧ w.toInt32.toInt ≤ 2147483647 := by
  have hlt := w.toNat_lt
  rw [toInt_eq]
  split <;> omega

@[simp] theorem ofInt_toInt (w : UInt32) : UInt32.ofInt w.toInt32.toInt = w := by
  have hlt := w.toNat_lt
  have hmod : (w.toInt32.toInt % 2 ^ 32).toNat = w.toNat := by
    rw [toInt_eq]
    split <;> omega
  rw [UInt32.ofInt, hmod, UInt32.ofNat_toNat]

/-! ### Reading numbers -/

theorem magnitude?_eq_some {base : Nat} {isDigit : Char → Bool} {digits : Text}
    (hne : digits ≠ []) (hdigits : ∀ c ∈ digits, isDigit c = true)
    (hle : Numeral.value base digits ≤ maxMagnitude) :
    magnitude? base isDigit digits = some (Numeral.value base digits) := by
  have hgood : ¬ (digits = [] ∨ ¬ digits.all isDigit) := by
    rw [not_or]
    exact ⟨hne, not_not_intro (List.all_eq_true.2 hdigits)⟩
  rw [magnitude?, if_neg hgood]
  exact if_pos hle

theorem parse?_hex {width n : Nat} (h : n ≤ maxMagnitude) :
    parse? ('0' :: 'x' :: Numeral.hex width n) = some (n : Int) := by
  have hle : Numeral.value 16 (Numeral.hex width n) ≤ maxMagnitude := by
    rw [Numeral.value_hex]
    exact h
  have hmagnitude := magnitude?_eq_some (Numeral.hex_ne_nil width n)
    (fun _ hc => Numeral.isLowerHexDigit_of_mem_hex hc) hle
  rw [Numeral.value_hex] at hmagnitude
  have hunsigned : unsigned? ('0' :: 'x' :: Numeral.hex width n) = some n := hmagnitude
  show (unsigned? ('0' :: 'x' :: Numeral.hex width n)).map (fun m => (m : Int)) = some (n : Int)
  rw [hunsigned]
  rfl

theorem after?_minus_of_ne {c : Char} {t : Text} (h : c ≠ '-') :
    Text.after? ['-'] (c :: t) = none := if_neg (Ne.symm h)

/-- Decimal digits have no sign in front. -/
theorem after?_minus_of_forall {t : Text} (hne : t ≠ [])
    (h : ∀ c ∈ t, Numeral.isDecimalDigit c = true) : Text.after? ['-'] t = none := by
  obtain ⟨c, rest, rfl⟩ := List.exists_cons_of_ne_nil hne
  apply after?_minus_of_ne
  rintro rfl
  exact absurd (h '-' List.mem_cons_self) (by decide)

/-- Decimal digits are not taken for hexadecimal ones. -/
theorem after?_mark_of_forall {t : Text} (h : ∀ c ∈ t, Numeral.isDecimalDigit c = true) :
    Text.after? ['0', 'x'] t = none := by
  rw [Option.eq_none_iff_forall_ne_some]
  intro rest hrest
  rw [Text.after?_eq_some_iff] at hrest
  have hx : 'x' ∈ t := by
    rw [hrest]
    exact List.mem_cons_of_mem _ List.mem_cons_self
  exact absurd (h 'x' hx) (by decide)

theorem unsigned?_decimal {n : Nat} (h : n ≤ maxMagnitude) :
    unsigned? (Numeral.decimal n) = some n := by
  have hvalue : Numeral.value 10 (Numeral.decimal n) = n :=
    Numeral.value_toDigits (by decide) (by decide) n
  have hle : Numeral.value 10 (Numeral.decimal n) ≤ maxMagnitude := by
    rw [hvalue]
    exact h
  have hmagnitude := magnitude?_eq_some (Numeral.decimal_ne_nil n)
    (fun _ hc => Numeral.isDecimalDigit_of_mem_decimal hc) hle
  rw [hvalue] at hmagnitude
  rw [unsigned?, after?_mark_of_forall fun _ hc => Numeral.isDecimalDigit_of_mem_decimal hc]
  exact hmagnitude

theorem parse?_decimal {n : Nat} (h : n ≤ maxMagnitude) :
    parse? (Numeral.decimal n) = some (n : Int) := by
  rw [parse?, after?_minus_of_forall (Numeral.decimal_ne_nil n) fun _ hc =>
    Numeral.isDecimalDigit_of_mem_decimal hc]
  show (unsigned? (Numeral.decimal n)).map (fun m => (m : Int)) = some (n : Int)
  rw [unsigned?_decimal h]
  rfl

theorem parse?_signed {i : Int} (h : i.natAbs ≤ maxMagnitude) :
    parse? (Numeral.signed i) = some i := by
  cases i with
  | ofNat n => exact parse?_decimal h
  | negSucc n =>
    have hdecimal : unsigned? (Numeral.decimal (n + 1)) = some (n + 1) := unsigned?_decimal h
    show (unsigned? (Numeral.decimal (n + 1))).map (fun m => -(m : Int)) = some (Int.negSucc n)
    rw [hdecimal]
    rfl

/-- What begins with neither a digit nor a minus sign is no number. -/
theorem isNumber_eq_false {c : Char} {t : Text} (hminus : c ≠ '-')
    (hdigit : Numeral.isDecimalDigit c = false) : isNumber (c :: t) = false := by
  have hzero : Text.after? ['0', 'x'] (c :: t) = none := by
    apply if_neg
    rintro rfl
    exact nomatch hdigit
  have hmagnitude : magnitude? 10 Numeral.isDecimalDigit (c :: t) = none := by
    refine if_pos (Or.inr ?_)
    rw [List.all_cons, hdigit, Bool.false_and]
    exact Bool.false_ne_true
  rw [isNumber, parse?, after?_minus_of_ne hminus]
  show ((unsigned? (c :: t)).map fun m => (m : Int)).isSome = false
  rw [unsigned?, hzero]
  show ((magnitude? 10 Numeral.isDecimalDigit (c :: t)).map fun m => (m : Int)).isSome = false
  rw [hmagnitude]
  rfl

@[simp] theorem count_decimal (line : Nat) (w : UInt32) :
    count line (Numeral.decimal w.toNat) = .ok w := by
  have hlt := w.toNat_lt
  have hparse : parse? (Numeral.decimal w.toNat) = some (w.toNat : Int) :=
    parse?_decimal (by rw [maxMagnitude]; omega)
  have hrange : ¬ ((w.toNat : Int) < 0 ∨ 4294967295 < (w.toNat : Int)) := by omega
  rw [count, expect, hparse]
  show (checkRange line _ 0 4294967295 (w.toNat : Int) >>= fun n => Except.ok (UInt32.ofInt n)) = _
  rw [checkRange, if_neg hrange, Outcome.ok_bind, ofInt_toNat]

end Number

namespace Assembly.TwoPass

/-! ### Numbers as operands -/

theorem number?_eq_some {least greatest n : Int} {token : Text} (h : Number.parse? token = some n)
    (hleast : least ≤ n) (hgreatest : n ≤ greatest) : number? least greatest token = some n := by
  rw [number?, h]
  exact if_pos (decide_eq_true ⟨hleast, hgreatest⟩)

@[simp] theorem word?_hex (w : UInt32) : word? ('0' :: 'x' :: Numeral.hex 8 w.toNat) = some w := by
  have hlt := w.toNat_lt
  have hparse : Number.parse? ('0' :: 'x' :: Numeral.hex 8 w.toNat) = some (w.toNat : Int) :=
    Number.parse?_hex (by rw [Number.maxMagnitude]; omega)
  rw [word?, number?_eq_some hparse (by omega) (by omega), Option.map_some, Number.ofInt_toNat]

@[simp] theorem word?_signed (w : UInt32) : word? (Numeral.signed w.toInt32.toInt) = some w := by
  obtain ⟨hleast, hgreatest⟩ := Number.toInt_bounds w
  have hparse : Number.parse? (Numeral.signed w.toInt32.toInt) = some w.toInt32.toInt :=
    Number.parse?_signed (by rw [Number.maxMagnitude]; omega)
  rw [word?, number?_eq_some hparse hleast (by omega), Option.map_some, Number.ofInt_toInt]

@[simp] theorem byte?_hex (b : UInt8) : byte? ('0' :: 'x' :: Numeral.hex 2 b.toNat) = some b := by
  have hlt := b.toNat_lt
  have hparse : Number.parse? ('0' :: 'x' :: Numeral.hex 2 b.toNat) = some (b.toNat : Int) :=
    Number.parse?_hex (by rw [Number.maxMagnitude]; omega)
  rw [byte?, number?_eq_some hparse (by omega) (by omega), Option.map_some, Number.ofInt_toNat_byte]

@[simp] theorem byte?_decimal (b : UInt8) : byte? (Numeral.decimal b.toNat) = some b := by
  have hlt := b.toNat_lt
  have hparse : Number.parse? (Numeral.decimal b.toNat) = some (b.toNat : Int) :=
    Number.parse?_decimal (by rw [Number.maxMagnitude]; omega)
  rw [byte?, number?_eq_some hparse (by omega) (by omega), Option.map_some, Number.ofInt_toNat_byte]

@[simp] theorem native?_hex (w : UInt32) :
    native? ("@native".toList ++ Numeral.hex 2 w.toNat) = some w := by
  have hlt := w.toNat_lt
  have hafter : Text.after? "@native".toList ("@native".toList ++ Numeral.hex 2 w.toNat) =
      some (Numeral.hex 2 w.toNat) := Text.after?_eq_some_iff.2 rfl
  have hparse : Number.parse? ('0' :: 'x' :: Numeral.hex 2 w.toNat) = some (w.toNat : Int) :=
    Number.parse?_hex (by rw [Number.maxMagnitude]; omega)
  rw [native?, hafter, Option.bind_some, if_neg (Numeral.hex_ne_nil 2 w.toNat),
    number?_eq_some hparse (by omega) (by omega), Option.map_some, Number.ofInt_toNat]

end Assembly.TwoPass

end NovelScript
