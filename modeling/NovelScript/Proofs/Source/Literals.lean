import NovelScript.Proofs.Outcome
import NovelScript.Proofs.Source.Lines
import NovelScript.Proofs.Source.Numbers

/-!
Quoted bytes are read back (`exists_parse_quote`). Nothing about the charsets is used but that they
work character by character: bytes are written as a character only if encoding that character gives
these very bytes. The literal has no control characters (`isControl_escape`), so it does not break
its line (`quote_lossless`).
-/

namespace NovelScript.Literal

/-! ### Escapes read back -/

/-- The two digits of a byte. -/
theorem exists_hexByte? (b : UInt8) :
    ∃ high low, Numeral.hex 2 b.toNat = [high, low] ∧ hexByte? high low = some b := by
  have hlen : (Numeral.hex 2 b.toNat).length = 2 := Numeral.length_hex (by decide) b.toNat_lt
  obtain ⟨high, low, hdigits⟩ : ∃ high low, Numeral.hex 2 b.toNat = [high, low] := by
    generalize Numeral.hex 2 b.toNat = digits at hlen
    match digits, hlen with
    | [high, low], _ => exact ⟨high, low, rfl⟩
  have hdigit {c : Char} (hc : c ∈ Numeral.hex 2 b.toNat) : ∃ d, Numeral.hexDigit? c = some d :=
    Numeral.forall_mem_hex (P := fun c => ∃ d, Numeral.hexDigit? c = some d)
      (fun d => ⟨d.val, Numeral.hexDigit?_digitChar d⟩) hc
  obtain ⟨h, hh⟩ := hdigit (c := high) (by simp [hdigits])
  obtain ⟨l, hl⟩ := hdigit (c := low) (by simp [hdigits])
  have hvalue := Numeral.value_hex 2 b.toNat
  rw [hdigits, Numeral.value, List.foldl_cons, List.foldl_cons, List.foldl_nil, hh, hl] at hvalue
  have hbyte : h * 16 + l = b.toNat := by
    simpa using hvalue
  refine ⟨high, low, hdigits, ?_⟩
  rw [hexByte?, hh, hl]
  show some (UInt8.ofNat (h * 16 + l)) = some b
  rw [hbyte, UInt8.ofNat_toNat]

theorem body_hex {high low : Char} {b : UInt8} (h : hexByte? high low = some b) (rest : Text) :
    body ('\\' :: 'x' :: high :: low :: rest) = (body rest).map (.byte b :: ·) := by
  rw [body, if_neg (by decide), if_pos rfl]
  simp only [if_true, h]

theorem body_escapeByte (b : UInt8) (rest : Text) :
    body (escapeByte b ++ rest) = (body rest).map (.byte b :: ·) := by
  obtain ⟨high, low, hdigits, hbyte⟩ := exists_hexByte? b
  rw [escapeByte, hdigits]
  exact body_hex hbyte rest

theorem body_escaped {letter c : Char} (hletter : letter ≠ 'x') (h : unescape? letter = some c)
    (rest : Text) : body ('\\' :: letter :: rest) = (body rest).map (consChar c) := by
  rw [body.eq_def]
  simp only [if_neg hletter, h]
  rfl

theorem body_plain {c : Char} (hbackslash : c ≠ '\\') (hquote : c ≠ '"') (rest : Text) :
    body (c :: rest) = (body rest).map (consChar c) := by
  rw [body.eq_def]
  simp only [if_neg hquote, if_neg hbackslash]

/-- A character is escaped by a letter that stands for it, or it stands for itself. Control
characters that stand for themselves have no letter. -/
theorem escapeChar_cases (c : Char) :
    (∃ letter, letter ≠ 'x' ∧ isControl letter = false ∧ unescape? letter = some c ∧
        escapeChar c = ['\\', letter]) ∨
      (c ≠ '\\' ∧ c ≠ '"' ∧ isLayout c = false ∧ escapeChar c = [c]) := by
  rw [escapeChar]
  split
  · rename_i hc
    exact .inl ⟨'\\', by decide, by decide, by rw [hc]; rfl, rfl⟩
  split
  · rename_i hc
    exact .inl ⟨'"', by decide, by decide, by rw [hc]; rfl, rfl⟩
  split
  · rename_i hc
    exact .inl ⟨'n', by decide, by decide, by rw [hc]; rfl, rfl⟩
  split
  · rename_i hc
    exact .inl ⟨'r', by decide, by decide, by rw [hc]; rfl, rfl⟩
  split
  · rename_i hc
    exact .inl ⟨'t', by decide, by decide, by rw [hc]; rfl, rfl⟩
  · rename_i hbackslash hquote hfeed hreturn htab
    refine .inr ⟨hbackslash, hquote, ?_, rfl⟩
    simp only [isLayout, hfeed, hreturn, htab, or_self, decide_false]

theorem body_escapeChar (c : Char) (rest : Text) :
    body (escapeChar c ++ rest) = (body rest).map (consChar c) := by
  rcases escapeChar_cases c with ⟨letter, hletter, -, h, heq⟩ | ⟨hbackslash, hquote, -, heq⟩
  · rw [heq]
    exact body_escaped hletter h rest
  · rw [heq]
    exact body_plain hbackslash hquote rest

/-! ### Bytes read back -/

theorem encode_singleton (cs : Charset) (c : Char) : cs.encode [c] = cs.encodeChar c := by
  rw [Charset.encode, Charset.encode]
  cases cs.encodeChar c with
  | none => rfl
  | some front => exact congrArg some (List.append_nil front)

theorem encode_text (cs : Charset) (t : Text) (rest : List Piece) :
    encode cs (.text t :: rest) =
      (cs.encode t).bind fun front => (encode cs rest).map (front ++ ·) := by
  rw [encode]
  cases cs.encode t <;> cases encode cs rest <;> rfl

theorem encode_consChar (cs : Charset) (c : Char) (pieces : List Piece) :
    encode cs (consChar c pieces) =
      (cs.encodeChar c).bind fun front => (encode cs pieces).map (front ++ ·) := by
  match pieces with
  | .text t :: rest =>
    rw [consChar, encode_text, encode_text, Charset.encode]
    cases cs.encodeChar c <;> cases cs.encode t <;> cases encode cs rest <;> simp
  | .byte b :: rest =>
    show encode cs (.text [c] :: .byte b :: rest) = _
    rw [encode_text, encode_singleton]
  | [] =>
    show encode cs [.text [c]] = _
    rw [encode_text, encode_singleton]

theorem encodeChar_of_exactChar? {cs : Charset} {b : UInt8} {rest : Bytes} {c : Char} {more : Nat}
    (h : exactChar? cs b rest = some (c, more)) :
    cs.encodeChar c = some (b :: rest.take more) := by
  obtain ⟨d, -, h⟩ := Option.bind_eq_some_iff.1 h
  split at h
  · rename_i hencode
    obtain ⟨rfl, rfl⟩ := Prod.mk.inj (Option.some.inj h)
    exact hencode
  · exact nomatch h

theorem exists_body_byte {cs : Charset} {b : UInt8} {t : Text} {bytes : Bytes}
    (h : ∃ pieces, body t = .ok pieces ∧ encode cs pieces = some bytes) :
    ∃ pieces, body (escapeByte b ++ t) = .ok pieces ∧ encode cs pieces = some (b :: bytes) := by
  obtain ⟨pieces, hbody, hencode⟩ := h
  refine ⟨.byte b :: pieces, ?_, ?_⟩
  · rw [body_escapeByte, hbody]
    rfl
  · rw [encode, hencode]
    rfl

theorem exists_body_escapeFrom (cs : Charset) (skip : Nat) (bytes : Bytes) :
    ∃ pieces, body (escapeFrom cs skip bytes ++ ['"']) = .ok pieces ∧
      encode cs pieces = some (bytes.drop skip) := by
  induction bytes generalizing skip with
  | nil =>
    refine ⟨[], ?_, ?_⟩
    · cases skip <;> rfl
    · rw [List.drop_nil]
      rfl
  | cons b rest ih =>
    cases skip with
    | succ skip => exact ih skip
    | zero =>
      -- what is written of `b` where no character is read exactly, and for control characters
      have hraw := exists_body_byte (b := b) (ih 0)
      rw [List.drop_zero] at hraw
      rw [escapeFrom, List.drop_zero]
      split
      · rename_i c more hexact
        split
        · rw [List.append_assoc]
          exact hraw
        · obtain ⟨pieces, hbody, hencode⟩ := ih more
          refine ⟨consChar c pieces, ?_, ?_⟩
          · rw [List.append_assoc, body_escapeChar, hbody]
            rfl
          · rw [encode_consChar, encodeChar_of_exactChar? hexact, hencode, Option.bind_some,
              Option.map_some, List.cons_append, List.take_append_drop]
      · rw [List.append_assoc]
        exact hraw

/-- The literal for bytes stands for these bytes. -/
theorem exists_parse_quote (cs : Charset) (bytes : Bytes) :
    ∃ pieces, parse (quote cs bytes) = .ok pieces ∧ encode cs pieces = some bytes :=
  exists_body_escapeFrom cs 0 bytes

/-! ### The characters of a literal -/

/-- Whatever holds of every escape holds of the inside of a literal. Of the control characters only
those with a letter are escaped as characters. -/
theorem escapeFrom_induction {P : Text → Prop} (hnil : P [])
    (happend : ∀ {s t}, P s → P t → P (s ++ t)) (hbyte : ∀ b, P (escapeByte b))
    (hchar : ∀ c, (isControl c && !isLayout c) = false → P (escapeChar c)) (cs : Charset)
    (skip : Nat) (bytes : Bytes) : P (escapeFrom cs skip bytes) := by
  induction bytes generalizing skip with
  | nil => cases skip <;> exact hnil
  | cons b rest ih =>
    cases skip with
    | succ skip => exact ih skip
    | zero =>
      rw [escapeFrom]
      split
      · rename_i c more hexact
        split
        · exact happend (hbyte b) (ih 0)
        · rename_i hwritten
          exact happend (hchar c (Bool.eq_false_iff.2 hwritten)) (ih more)
      · exact happend (hbyte b) (ih 0)

theorem isControl_escapeByte (b : UInt8) : ∀ c ∈ escapeByte b, isControl c = false := by
  intro c hc
  rcases List.mem_cons.1 hc with rfl | hc
  · rfl
  rcases List.mem_cons.1 hc with rfl | hc
  · rfl
  · exact Numeral.forall_mem_hex (P := fun c => isControl c = false) (by decide) hc

theorem isControl_escapeChar {c : Char} (h : (isControl c && !isLayout c) = false) :
    ∀ d ∈ escapeChar c, isControl d = false := by
  rcases escapeChar_cases c with ⟨letter, -, hletter, -, heq⟩ | ⟨-, -, hlayout, heq⟩
  · rw [heq]
    intro d hd
    rcases List.mem_cons.1 hd with rfl | hd
    · rfl
    · rw [List.mem_singleton.1 hd]
      exact hletter
  · rw [heq]
    intro d hd
    rw [List.mem_singleton.1 hd]
    simpa [hlayout] using h

/-- No control character is written in a literal. -/
theorem isControl_escape (cs : Charset) (bytes : Bytes) :
    ∀ c ∈ escape cs bytes, isControl c = false := by
  refine escapeFrom_induction (P := fun t => ∀ c ∈ t, isControl c = false) (by simp) ?_
    isControl_escapeByte (fun _ => isControl_escapeChar) cs 0 bytes
  intro s t hs ht c hc
  exact (List.mem_append.1 hc).elim (hs c) (ht c)

/-- A literal stands on one line. -/
theorem lineFeed_not_mem_quote (cs : Charset) (bytes : Bytes) : '\n' ∉ quote cs bytes := by
  intro h
  rcases List.mem_append.1 h with h | h
  · have hinside : '\n' ∈ escape cs bytes := List.mem_of_ne_of_mem (by decide) h
    exact absurd (isControl_escape cs bytes _ hinside) (by decide)
  · exact absurd h (by decide)

theorem solid_quote (cs : Charset) (bytes : Bytes) : (quote cs bytes).Solid where
  head := ⟨'"', escape cs bytes ++ ['"'], rfl, rfl⟩
  last := ⟨'"' :: escape cs bytes, '"', rfl, rfl⟩

/-! ### Main result -/

/-- Quoting loses nothing: a literal is read back as the bytes that it was written for. It has no
control character inside, and so it stands on one line. -/
theorem quote_lossless (cs : Charset) (bytes : Bytes) :
    (∃ pieces, parse ('"' :: escape cs bytes ++ ['"']) = .ok pieces ∧
        encode cs pieces = some bytes) ∧
      (∀ c ∈ escape cs bytes, isControl c = false) ∧
      Text.lines (quote cs bytes) = [quote cs bytes] :=
  ⟨exists_parse_quote cs bytes, isControl_escape cs bytes,
    Text.lines_of_not_mem (List.cons_ne_nil _ _) (lineFeed_not_mem_quote cs bytes)⟩

end NovelScript.Literal
