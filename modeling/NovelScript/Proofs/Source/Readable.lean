import NovelScript.Proofs.Association
import NovelScript.Proofs.Charset.Controls
import NovelScript.Proofs.Source.Literals

/-!
Text that stays readable inside of a literal. Bytes are taken apart into characters from the front,
and a character is found at its own bytes: they are the shortest that are one character
(`shortestExact?_cons`), whatever comes behind. A control character that is written as raw bytes
does not take anything along, because its other bytes begin no character. So the literal for the
encoding of a text shows the text (`escape_readable`).
-/

namespace NovelScript.Literal

/-! ### The shortest exact character -/

/-- The character that the first `n` bytes are, if it is written as exactly these. -/
def exactPrefix? (cs : Charset) (bytes : Bytes) (n : Nat) : Option (Char × Nat) :=
  match cs.decode? (bytes.take n) with
  | some [c] => if cs.reproduces [c] (bytes.take n) then some (c, n) else none
  | _ => none

/-- The character at the front of bytes that is found by trying ever longer beginnings, up to four
bytes, and how many bytes it has. -/
def shortestExact? (cs : Charset) (bytes : Bytes) : Option (Char × Nat) :=
  (List.range' 1 (min bytes.length 4)).findSome? (exactPrefix? cs bytes)

variable {cs : Charset} {b : UInt8} {c : Char}

theorem reproduces_singleton_iff {bytes : Bytes} :
    cs.reproduces [c] bytes = true ↔ cs.encodeChar c = some bytes := by
  rw [Charset.reproduces, encode_singleton, beq_iff_eq]

theorem exactPrefix?_eq_some_iff {bytes : Bytes} {n m : Nat} :
    exactPrefix? cs bytes n = some (c, m) ↔
      cs.decode? (bytes.take n) = some [c] ∧ cs.encodeChar c = some (bytes.take n) ∧ n = m := by
  rw [exactPrefix?]
  split
  · rename_i c' hdecode
    rw [Option.ite_none_right_eq_some, reproduces_singleton_iff, hdecode, Option.some.injEq,
      Option.some.injEq, Prod.mk.injEq, List.singleton_inj]
    constructor
    · rintro ⟨hencode, rfl, rfl⟩
      exact ⟨rfl, hencode, rfl⟩
    · rintro ⟨rfl, hencode, rfl⟩
      exact ⟨hencode, rfl, rfl⟩
  · rename_i hother
    exact ⟨nofun, fun h => absurd h.1 (hother c)⟩

theorem exactChar?_eq_some_iff {rest : Bytes} {more : Nat} :
    exactChar? cs b rest = some (c, more) ↔
      cs.step b rest = .char c more ∧ cs.encodeChar c = some (b :: rest.take more) := by
  rw [exactChar?]
  obtain ⟨char?, covered⟩ := cs.step b rest
  cases char? with
  | none => exact ⟨nofun, fun h => nomatch (Charset.Decoded.mk.inj h.1).1⟩
  | some c' =>
    rw [Option.bind_some, Option.ite_none_right_eq_some, Option.some.injEq, Prod.mk.injEq,
      Charset.Decoded.char, Charset.Decoded.mk.injEq, Option.some.injEq]
    constructor
    · rintro ⟨hencode, rfl, rfl⟩
      exact ⟨⟨rfl, rfl⟩, hencode⟩
    · rintro ⟨⟨rfl, rfl⟩, hencode⟩
      exact ⟨hencode, rfl, rfl⟩

/-- The beginnings that are characters are those that a step covers, so there is no more than one.
-/
theorem exactPrefix?_cons {rest : Bytes} {n m : Nat} (h : n ≤ rest.length) :
    exactPrefix? cs (b :: rest) (n + 1) = some (c, m) ↔
      exactChar? cs b rest = some (c, n) ∧ n + 1 = m := by
  rw [exactPrefix?_eq_some_iff, exactChar?_eq_some_iff, List.take_succ_cons]
  have hstep : cs.decode? (b :: rest.take n) = some [c] ↔ cs.step b rest = .char c n := by
    rw [Charset.decode?_eq_singleton_iff]
    constructor
    · rintro ⟨b', front, hcons, hstep⟩
      obtain ⟨rfl, rfl⟩ := List.cons.inj hcons
      have happend := Charset.step_append hstep (rest.drop n)
      rw [List.take_append_drop, List.length_take_of_le h] at happend
      exact happend
    · intro hstep
      obtain ⟨front, back, rfl, rfl, -, hread⟩ := Charset.exists_of_step hstep
      refine ⟨b, front, by rw [List.take_left], ?_⟩
      have hfront := hread []
      rw [List.append_nil] at hfront
      exact hfront
  rw [hstep, and_assoc]

theorem exists_of_shortestExact? {rest : Bytes} {m : Nat}
    (h : shortestExact? cs (b :: rest) = some (c, m)) :
    ∃ more, exactChar? cs b rest = some (c, more) ∧ more + 1 = m := by
  obtain ⟨n, hn, hfirst⟩ := List.exists_of_findSome?_eq_some h
  rw [List.mem_range'_1, List.length_cons] at hn
  obtain ⟨more, rfl⟩ : ∃ more, n = more + 1 := ⟨n - 1, by omega⟩
  exact ⟨more, (exactPrefix?_cons (by omega)).1 hfirst⟩

/-- One step of the decoder finds the same character as the search for the shortest beginning. -/
theorem shortestExact?_cons (cs : Charset) (b : UInt8) (rest : Bytes) :
    shortestExact? cs (b :: rest) =
      (exactChar? cs b rest).map fun (c, more) => (c, more + 1) := by
  cases hexact : exactChar? cs b rest with
  | none =>
    rw [Option.map_none, Option.eq_none_iff_forall_ne_some]
    rintro ⟨c, m⟩ h
    obtain ⟨more, hmore, -⟩ := exists_of_shortestExact? h
    exact nomatch hexact.symm.trans hmore
  | some found =>
    obtain ⟨c, more⟩ := found
    obtain ⟨hstep, -⟩ := exactChar?_eq_some_iff.1 hexact
    obtain ⟨front, back, rfl, rfl, hle, -⟩ := Charset.exists_of_step hstep
    have hlength : front.length ≤ (front ++ back).length := by
      rw [List.length_append]
      omega
    have hfirst := (exactPrefix?_cons hlength).2 ⟨hexact, rfl⟩
    have hmem : front.length + 1 ∈ List.range' 1 (min (b :: (front ++ back)).length 4) := by
      rw [List.mem_range'_1, List.length_cons]
      omega
    have hsome : (shortestExact? cs (b :: (front ++ back))).isSome := by
      rw [shortestExact?, List.isSome_findSome?, List.any_eq_true]
      exact ⟨_, hmem, by rw [hfirst]; rfl⟩
    obtain ⟨⟨c', m⟩, hfound⟩ := Option.isSome_iff_exists.1 hsome
    obtain ⟨more, hmore, rfl⟩ := exists_of_shortestExact? hfound
    obtain ⟨rfl, rfl⟩ := Prod.mk.inj (Option.some.inj (hexact.symm.trans hmore))
    exact hfound

/-! ### Characters that survive the charset -/

/-- The charset has a character, and reads it back from its own bytes. -/
def Survives (cs : Charset) (c : Char) : Prop := (cs.encode [c]).bind cs.decode? = some [c]

instance (cs : Charset) (c : Char) : Decidable (Survives cs c) :=
  inferInstanceAs (Decidable (_ = _))

theorem Survives.exists_bytes (h : Survives cs c) :
    ∃ b front, cs.encodeChar c = some (b :: front) ∧ cs.step b front = .char c front.length := by
  obtain ⟨bytes, hencode, hdecode⟩ := Option.bind_eq_some_iff.1 h
  rw [encode_singleton] at hencode
  obtain ⟨b, front, rfl, hstep⟩ := Charset.decode?_eq_singleton_iff.1 hdecode
  exact ⟨b, front, hencode, hstep⟩

/-- A character is found at its bytes, whatever comes behind. -/
theorem exactChar?_append {front : Bytes} (hencode : cs.encodeChar c = some (b :: front))
    (hstep : cs.step b front = .char c front.length) (rest : Bytes) :
    exactChar? cs b (front ++ rest) = some (c, front.length) := by
  rw [exactChar?_eq_some_iff, List.take_left]
  exact ⟨Charset.step_append hstep rest, hencode⟩

/-! ### What is shown of a character -/

def letters : List (Char × Char) :=
  [('\\', '\\'), ('"', '"'), ('\n', 'n'), ('\r', 'r'), ('\t', 't')]

/-- A character of a text as it stands in the literal: an escape of two characters, the bytes of a
control character in hexadecimal, or the character itself. -/
def shown (cs : Charset) (c : Char) : Text :=
  match letters.lookup c with
  | some letter => ['\\', letter]
  | none =>
    if isControl c then
      ((cs.encodeChar c).getD []).flatMap fun b => '\\' :: 'x' :: Numeral.hex 2 b.toNat
    else [c]

/-- The characters with letters are those that are escaped. None of them is written as raw bytes. -/
theorem letters_cases (c : Char) :
    (∃ letter, letters.lookup c = some letter ∧ escapeChar c = ['\\', letter] ∧
        (isControl c && !isLayout c) = false) ∨
      letters.lookup c = none ∧ escapeChar c = [c] ∧ isLayout c = false := by
  have hletters : ∀ p ∈ letters, escapeChar p.1 = ['\\', p.2] ∧
      (isControl p.1 && !isLayout p.1) = false := by
    simp only [letters, List.forall_mem_cons]
    decide
  cases hlookup : letters.lookup c with
  | some letter => exact .inl ⟨letter, rfl, hletters _ (Association.mem_of_lookup hlookup)⟩
  | none =>
    rw [List.lookup_eq_none_iff] at hlookup
    simp only [letters, List.forall_mem_cons, bne_iff_ne, ne_eq] at hlookup
    obtain ⟨hbackslash, hquote, hfeed, hreturn, htab, -⟩ := hlookup
    refine .inr ⟨rfl, ?_, ?_⟩
    · rw [escapeChar, if_neg hbackslash, if_neg hquote, if_neg hfeed, if_neg hreturn, if_neg htab]
    · simp only [isLayout, hfeed, hreturn, htab, or_self, decide_false]

theorem shown_eq_escapeChar (h : (isControl c && !isLayout c) = false) :
    shown cs c = escapeChar c := by
  rw [shown]
  rcases letters_cases c with ⟨letter, hletter, hescape, -⟩ | ⟨hletter, hescape, hlayout⟩
  · rw [hletter, hescape]
  · rw [hlayout, Bool.not_false, Bool.and_true] at h
    rw [hletter, hescape, h]
    rfl

theorem shown_eq_flatMap {bytes : Bytes} (h : (isControl c && !isLayout c) = true)
    (hencode : cs.encodeChar c = some bytes) : shown cs c = bytes.flatMap escapeByte := by
  rw [shown]
  rcases letters_cases c with ⟨letter, -, -, hplain⟩ | ⟨hletter, -, -⟩
  · exact nomatch hplain.symm.trans h
  · rw [hletter]
    show (if isControl c = true then _ else _) = _
    rw [if_pos (Bool.and_eq_true_iff.1 h).1, hencode]
    rfl

/-! ### Reading on behind a character -/

theorem escapeFrom_skip (cs : Charset) (front rest : Bytes) :
    escapeFrom cs front.length (front ++ rest) = escapeFrom cs 0 rest := by
  induction front with
  | nil => rfl
  | cons b front ih => exact ih

/-- Bytes that begin no character are written as raw bytes, and reading goes on behind them. -/
theorem escapeFrom_raw {front : Bytes} (h : ∀ t ∈ front, ∀ rest, cs.step t rest = .malformed 0)
    (rest : Bytes) :
    escapeFrom cs 0 (front ++ rest) = front.flatMap escapeByte ++ escapeFrom cs 0 rest := by
  induction front with
  | nil => rfl
  | cons t front ih =>
    have hnone : exactChar? cs t (front ++ rest) = none := by
      rw [exactChar?, h t List.mem_cons_self]
      rfl
    rw [List.cons_append, escapeFrom, hnone, List.flatMap_cons, List.append_assoc,
      ← ih fun t' ht' => h t' (List.mem_cons_of_mem t ht')]

/-- The bytes of a character are written as it is shown, and then the rest is read from its start.
-/
theorem escapeFrom_survives {bytes : Bytes} (h : Survives cs c)
    (hencode : cs.encodeChar c = some bytes) (rest : Bytes) :
    escapeFrom cs 0 (bytes ++ rest) = shown cs c ++ escapeFrom cs 0 rest := by
  obtain ⟨b, front, hbytes, hstep⟩ := h.exists_bytes
  obtain rfl := Option.some.inj (hencode.symm.trans hbytes)
  rw [List.cons_append, escapeFrom, exactChar?_append hencode hstep]
  simp only
  split
  · rename_i hraw
    -- reading goes on in the middle of the character, at bytes that begin none
    obtain ⟨b', front', hcons, hfront⟩ :=
      Charset.exists_of_isControl (Bool.and_eq_true_iff.1 hraw).1 hencode
    obtain ⟨rfl, rfl⟩ := List.cons.inj hcons
    rw [shown_eq_flatMap hraw hencode, escapeFrom_raw hfront, List.flatMap_cons, List.append_assoc]
  · rename_i hplain
    rw [shown_eq_escapeChar (Bool.eq_false_iff.2 hplain), escapeFrom_skip]

theorem exists_encode_of_survives {t : Text} (h : ∀ c ∈ t, Survives cs c) :
    ∃ bytes, cs.encode t = some bytes ∧ escape cs bytes = t.flatMap (shown cs) := by
  induction t with
  | nil => exact ⟨[], rfl, rfl⟩
  | cons c t ih =>
    obtain ⟨back, hback, hescape⟩ := ih fun d hd => h d (List.mem_cons_of_mem c hd)
    have hc := h c List.mem_cons_self
    obtain ⟨b, front, hencode, -⟩ := hc.exists_bytes
    refine ⟨b :: front ++ back, ?_, ?_⟩
    · rw [Charset.encode, hencode, hback]
    · rw [escape, escapeFrom_survives hc hencode, List.flatMap_cons, ← hescape]
      rfl

/-! ### Main result -/

/-- No beginning of the bytes of a character is text by itself, so bytes are taken apart at the
shortest beginnings that are one character. Therefore text that survives the charset stays readable:
the literal for its encoding shows every character by itself, in the order of the text. -/
theorem escape_readable (cs : Charset) :
    (∀ c front back, cs.decode? (front ++ back) = some [c] → front ≠ [] → back ≠ [] →
        cs.decode? front = none) ∧
      (∀ b rest, shortestExact? cs (b :: rest) =
        (exactChar? cs b rest).map fun (c, more) => (c, more + 1)) ∧
      ∀ t : Text, (∀ c ∈ t, Survives cs c) →
        ∃ bytes, cs.encode t = some bytes ∧ escape cs bytes = t.flatMap (shown cs) :=
  ⟨fun _ _ _ => Charset.decode?_eq_none, shortestExact?_cons cs,
    fun _ => exists_encode_of_survives⟩

/-- A control character of two bytes between characters of one to four bytes, and escapes. -/
def mixedText : Text := ['a', '\u0081', 'é', '\\', 'あ', '\x01', '\n', '😀']

theorem escape_readable_mixed :
    (Charset.utf8.decode? ([0xe3, 0x81] ++ [0x82]) = some ['あ'] ∧
        Charset.utf8.decode? [0xe3, 0x81] = none) ∧
      (∀ c ∈ mixedText, Survives .utf8 c) ∧
      ∃ bytes, Charset.utf8.encode mixedText = some bytes ∧
        escape .utf8 bytes = "a\\xc2\\x81é\\\\あ\\x01\\n😀".toList := by
  obtain ⟨hfront, -, hreadable⟩ := escape_readable .utf8
  have hwhole : Charset.utf8.decode? ([0xe3, 0x81] ++ [0x82]) = some ['あ'] := by decide +kernel
  have hall : (mixedText.all fun c => Survives .utf8 c) = true := by decide +kernel
  have hsurvives : ∀ c ∈ mixedText, Survives .utf8 c :=
    fun c hc => of_decide_eq_true (List.all_eq_true.1 hall c hc)
  obtain ⟨bytes, hencode, hescape⟩ := hreadable mixedText hsurvives
  refine ⟨⟨hwhole, hfront _ _ _ hwhole (by decide) (by decide)⟩, hsurvives, bytes, hencode,
    hescape.trans ?_⟩
  decide +kernel

end NovelScript.Literal
