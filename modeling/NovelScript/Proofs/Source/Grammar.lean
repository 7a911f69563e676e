import NovelScript.Proofs.Source.Literals
import NovelScript.Source.Declaration

/-!
The grammar of quoted literals. The inside of a literal is a sequence of *items*, each a character
that stands for itself, an escape or the two digits of a raw byte; what an item stands for is an
*atom*, a character or a byte. A text is read as a literal exactly if it spells items (`Spells`),
and then as the pieces into which their atoms fall: a piece for each byte, and one for each run of
characters between bytes (`Divides`).
-/

namespace NovelScript

/-! ### Items -/

structure HexDigit where
  value : Fin 16
  upper : Bool
  deriving DecidableEq, Repr

def HexDigit.char (d : HexDigit) : Char :=
  if d.upper then (Nat.digitChar d.value).toUpper else Nat.digitChar d.value

inductive Escape
  | lineFeed
  | carriageReturn
  | tab
  | quote
  | apostrophe
  | backslash
  deriving DecidableEq, Repr

namespace Escape

def letter : Escape → Char
  | lineFeed => 'n'
  | carriageReturn => 'r'
  | tab => 't'
  | quote => '"'
  | apostrophe => '\x27'
  | backslash => '\\'

def char : Escape → Char
  | lineFeed => '\n'
  | carriageReturn => '\r'
  | tab => '\t'
  | quote => '"'
  | apostrophe => '\x27'
  | backslash => '\\'

end Escape

inductive Item
  | plain (c : Char) (ne_quote : c ≠ '"') (ne_backslash : c ≠ '\\')
  | escape (e : Escape)
  | hex (high low : HexDigit)
  deriving DecidableEq, Repr

inductive Atom
  | char (c : Char)
  | byte (b : UInt8)
  deriving DecidableEq, Repr

namespace Item

def text : Item → Text
  | plain c _ _ => [c]
  | escape e => ['\\', e.letter]
  | hex high low => ['\\', 'x', high.char, low.char]

def atom : Item → Atom
  | plain c _ _ => .char c
  | escape e => .char e.char
  | hex high low => .byte (UInt8.ofNat (high.value * 16 + low.value))

theorem text_ne_nil (item : Item) : item.text ≠ [] := by
  cases item <;> exact List.cons_ne_nil _ _

end Item

/-! ### Pieces -/

namespace Piece

def atoms : Piece → List Atom
  | text t => t.map .char
  | byte b => [.byte b]

def isText : Piece → Bool
  | text _ => true
  | byte _ => false

end Piece

namespace Literal

/-- Pieces have these atoms, in this order. No text is empty, and no two stand side by side, so each
is a whole run of characters. -/
structure Divides (pieces : List Piece) (atoms : List Atom) : Prop where
  atoms_eq : pieces.flatMap Piece.atoms = atoms
  nonempty : .text [] ∉ pieces
  apart : pieces.IsChain fun p q => ¬ (p.isText = true ∧ q.isText = true)

/-- A text consists of these items between double quotes, and of white space behind them. -/
def Spells (text : Text) (items : List Item) : Prop :=
  ∃ space, (∀ c ∈ space, isSpace c = true) ∧
    text = '"' :: items.flatMap Item.text ++ '"' :: space

/-- Puts an atom in front of pieces, a character into the text that comes first. -/
def consAtom : Atom → List Piece → List Piece
  | .char c, pieces => consChar c pieces
  | .byte b, pieces => .byte b :: pieces

def piecesOf (atoms : List Atom) : List Piece := atoms.foldr consAtom []

@[simp] theorem piecesOf_cons (atom : Atom) (atoms : List Atom) :
    piecesOf (atom :: atoms) = consAtom atom (piecesOf atoms) := rfl

theorem Divides.consChar {pieces : List Piece} {atoms : List Atom} (h : Divides pieces atoms)
    (c : Char) : Divides (consChar c pieces) (.char c :: atoms) := by
  obtain ⟨rfl, hnonempty, hapart⟩ := h
  match pieces with
  | [] => exact ⟨rfl, by simp [Literal.consChar], .singleton _⟩
  | .byte b :: rest =>
    refine ⟨rfl, ?_, .cons_cons (by simp [Piece.isText]) hapart⟩
    simpa [Literal.consChar] using hnonempty
  | .text t :: rest =>
    refine ⟨rfl, ?_, ?_⟩
    · rw [Literal.consChar, List.mem_cons, not_or]
      exact ⟨by simp, fun hmem => hnonempty (List.mem_cons_of_mem _ hmem)⟩
    · -- only whether the first piece is a text matters to the next one
      rw [List.isChain_cons] at hapart
      exact List.isChain_cons.2 hapart

theorem Divides.consByte {pieces : List Piece} {atoms : List Atom} (h : Divides pieces atoms)
    (b : UInt8) : Divides (.byte b :: pieces) (.byte b :: atoms) := by
  obtain ⟨rfl, hnonempty, hapart⟩ := h
  refine ⟨rfl, by simpa using hnonempty, List.isChain_cons.2 ⟨?_, hapart⟩⟩
  simp [Piece.isText]

theorem divides_piecesOf (atoms : List Atom) : Divides (piecesOf atoms) atoms := by
  induction atoms with
  | nil => exact ⟨rfl, List.not_mem_nil, .nil⟩
  | cons atom atoms ih =>
    cases atom with
    | char c => exact ih.consChar c
    | byte b => exact ih.consByte b

/-- A run of characters that no text follows is one piece. -/
theorem piecesOf_run {t : Text} (ht : t ≠ []) {atoms : List Atom}
    (h : ∀ p ∈ (piecesOf atoms).head?, p.isText = false) :
    piecesOf (t.map .char ++ atoms) = .text t :: piecesOf atoms := by
  induction t with
  | nil => exact absurd rfl ht
  | cons c t ih =>
    rw [List.map_cons, List.cons_append, piecesOf_cons]
    by_cases hnil : t = []
    · rw [hnil, List.map_nil, List.nil_append]
      match hpieces : piecesOf atoms with
      | [] => rfl
      | .byte b :: rest => rfl
      | .text t :: rest =>
        have hhead := h (.text t) (by rw [hpieces]; rfl)
        exact nomatch hhead
    · rw [ih hnil]
      rfl

/-- Atoms fall into pieces in one way only. -/
theorem Divides.eq_piecesOf {pieces : List Piece} {atoms : List Atom} (h : Divides pieces atoms) :
    pieces = piecesOf atoms := by
  induction pieces generalizing atoms with
  | nil =>
    rw [← h.atoms_eq]
    rfl
  | cons p pieces ih =>
    obtain ⟨rfl, hnonempty, hapart⟩ := h
    rw [List.mem_cons, not_or] at hnonempty
    rw [List.isChain_cons] at hapart
    have hrest : pieces = piecesOf (pieces.flatMap Piece.atoms) := ih ⟨rfl, hnonempty.2, hapart.2⟩
    cases p with
    | byte b => exact congrArg (Piece.byte b :: ·) hrest
    | text t =>
      have ht : t ≠ [] := fun hnil => hnonempty.1 (hnil ▸ rfl)
      have hhead : ∀ q ∈ (piecesOf (pieces.flatMap Piece.atoms)).head?, q.isText = false := by
        rw [← hrest]
        intro q hq
        exact Bool.eq_false_iff.2 fun htext => hapart.1 q hq ⟨rfl, htext⟩
      rw [List.flatMap_cons, Piece.atoms, piecesOf_run ht hhead, ← hrest]

theorem divides_iff {pieces : List Piece} {atoms : List Atom} :
    Divides pieces atoms ↔ pieces = piecesOf atoms := by
  constructor
  · exact Divides.eq_piecesOf
  · rintro rfl
    exact divides_piecesOf atoms

/-! ### Reading an item -/

theorem unescape?_letter (e : Escape) : unescape? e.letter = some e.char := by
  cases e <;> rfl

theorem exists_escape {letter c : Char} (h : unescape? letter = some c) :
    ∃ e : Escape, e.letter = letter := by
  rw [unescape?] at h
  split at h
  · rename_i hletter
    exact ⟨.lineFeed, hletter.symm⟩
  split at h
  · rename_i hletter
    exact ⟨.carriageReturn, hletter.symm⟩
  split at h
  · rename_i hletter
    exact ⟨.tab, hletter.symm⟩
  split at h
  · rename_i hletter
    rcases hletter with rfl | rfl | rfl
    · exact ⟨.quote, rfl⟩
    · exact ⟨.apostrophe, rfl⟩
    · exact ⟨.backslash, rfl⟩
  · cases h

theorem hexDigit?_char (d : HexDigit) : Numeral.hexDigit? d.char = some d.value.val := by
  obtain ⟨value, upper⟩ := d
  revert value upper
  decide

theorem exists_hexDigit {c : Char} {v : Nat} (h : Numeral.hexDigit? c = some v) :
    ∃ d : HexDigit, d.char = c := by
  -- a digit is in one of three ranges, all of them inside of ASCII, which is looked through
  have htable : ∀ n < 128, Numeral.hexDigit? (Char.ofNat n) = none ∨
      ∃ value : Fin 16, ∃ upper : Bool, HexDigit.char ⟨value, upper⟩ = Char.ofNat n := by
    decide +kernel
  have hascii : c.toNat < 128 := by
    have hle {d : Char} (hd : c ≤ d) : c.toNat ≤ d.toNat := hd
    rw [Numeral.hexDigit?] at h
    split at h
    · rename_i hc
      exact Nat.lt_of_le_of_lt (hle hc.2) (by decide)
    split at h
    · rename_i hc
      exact Nat.lt_of_le_of_lt (hle hc.2) (by decide)
    split at h
    · rename_i hc
      exact Nat.lt_of_le_of_lt (hle hc.2) (by decide)
    · exact nomatch h
  rcases htable c.toNat hascii with hnone | ⟨value, upper, hchar⟩
  · rw [Char.ofNat_toNat, h] at hnone
    exact nomatch hnone
  · rw [Char.ofNat_toNat] at hchar
    exact ⟨⟨value, upper⟩, hchar⟩

theorem exists_hex {high low : Char} {b : UInt8} (h : hexByte? high low = some b) :
    ∃ d e : HexDigit, d.char = high ∧ e.char = low := by
  rw [hexByte?] at h
  split at h
  · rename_i hhigh hlow
    obtain ⟨d, hd⟩ := exists_hexDigit hhigh
    obtain ⟨e, he⟩ := exists_hexDigit hlow
    exact ⟨d, e, hd, he⟩
  · cases h

theorem body_item (item : Item) (rest : Text) :
    body (item.text ++ rest) = (body rest).map (consAtom item.atom) := by
  cases item with
  | plain c hquote hbackslash => exact body_plain hbackslash hquote rest
  | escape e =>
    have hletter : e.letter ≠ 'x' := by cases e <;> decide
    exact body_escaped hletter (unescape?_letter e) rest
  | hex high low =>
    have hbyte : hexByte? high.char low.char =
        some (UInt8.ofNat (high.value * 16 + low.value)) := by
      rw [hexByte?, hexDigit?_char, hexDigit?_char]
    exact body_hex hbyte rest

/-- What is read begins with the closing quote or with an item. -/
theorem body_cases {t : Text} {pieces : List Piece} (h : body t = .ok pieces) :
    (∃ space : Text, t = '"' :: space ∧ space.trim = [] ∧ pieces = []) ∨
      ∃ (item : Item) (rest : Text), t = item.text ++ rest := by
  cases t with
  | nil => cases h
  | cons c rest =>
    rw [body.eq_def] at h
    dsimp only at h
    split at h
    · rename_i hquote
      obtain rfl : c = '"' := hquote
      split at h
      · rename_i htrim
        exact .inl ⟨rest, rfl, htrim, (Except.ok.inj h).symm⟩
      · cases h
    rename_i hquote
    right
    split at h
    · rename_i hbackslash
      obtain rfl : c = '\\' := hbackslash
      split at h
      · cases h
      rename_i letter rest
      split at h
      · rename_i hx
        obtain rfl : letter = 'x' := hx
        split at h
        · rename_i high low rest
          split at h
          · rename_i b hbyte
            obtain ⟨d, e, rfl, rfl⟩ := exists_hex hbyte
            exact ⟨.hex d e, rest, rfl⟩
          · cases h
        · cases h
      · split at h
        · rename_i c hescape
          obtain ⟨e, rfl⟩ := exists_escape hescape
          exact ⟨.escape e, rest, rfl⟩
        · cases h
    · rename_i hbackslash
      exact ⟨.plain c hquote hbackslash, rest, rfl⟩

/-! ### Reading a literal -/

theorem body_items (items : List Item) {space : Text} (h : ∀ c ∈ space, isSpace c = true) :
    body (items.flatMap Item.text ++ '"' :: space) = .ok (piecesOf (items.map Item.atom)) := by
  induction items with
  | nil =>
    show body ('"' :: space) = .ok []
    rw [body.eq_def]
    simp only [if_true, Text.trim_of_forall h]
  | cons item items ih =>
    rw [List.flatMap_cons, List.append_assoc, body_item, ih]
    rfl

/-- What is read is spelt by items. Each step leaves a shorter text to read. -/
theorem exists_items {t : Text} {pieces : List Piece} (h : body t = .ok pieces) :
    ∃ (items : List Item) (space : Text), (∀ c ∈ space, isSpace c = true) ∧
      t = items.flatMap Item.text ++ '"' :: space ∧ pieces = piecesOf (items.map Item.atom) := by
  induction hlen : t.length using Nat.strongRecOn generalizing t pieces with
  | ind n ih =>
    rcases body_cases h with ⟨space, rfl, htrim, rfl⟩ | ⟨item, rest, rfl⟩
    · exact ⟨[], space, Text.forall_of_trim htrim, rfl, rfl⟩
    · rw [body_item] at h
      obtain ⟨pieces, hrest, rfl⟩ := Outcome.map_eq_ok_iff.1 h
      have hshort : rest.length < n := by
        have hpos := List.length_pos_iff.2 item.text_ne_nil
        rw [List.length_append] at hlen
        omega
      obtain ⟨items, space, hspace, rfl, rfl⟩ := ih rest.length hshort hrest rfl
      refine ⟨item :: items, space, hspace, ?_, rfl⟩
      rw [List.flatMap_cons, List.append_assoc]

theorem parse_eq_ok_iff {text : Text} {pieces : List Piece} :
    parse text = .ok pieces ↔
      ∃ items, Spells text items ∧ Divides pieces (items.map Item.atom) := by
  constructor
  · intro h
    rw [parse.eq_def] at h
    split at h
    · obtain ⟨items, space, hspace, rfl, rfl⟩ := exists_items h
      exact ⟨items, ⟨space, hspace, rfl⟩, divides_piecesOf _⟩
    · exact nomatch h
  · rintro ⟨items, ⟨space, hspace, rfl⟩, hdivides⟩
    rw [hdivides.eq_piecesOf]
    exact body_items items hspace

theorem exists_pieces_iff {text : Text} :
    (∃ pieces, parse text = .ok pieces) ↔ ∃ items, Spells text items := by
  constructor
  · rintro ⟨pieces, h⟩
    obtain ⟨items, hspells, -⟩ := parse_eq_ok_iff.1 h
    exact ⟨items, hspells⟩
  · rintro ⟨items, hspells⟩
    exact ⟨_, parse_eq_ok_iff.2 ⟨items, hspells, divides_piecesOf _⟩⟩

/-! ### Main result -/

/-- Literals are read by their grammar: a text is accepted if items spell it, and as the pieces into
which their atoms fall. Any other text is refused, where a string is defined and where a name is
given, by a syntax fault at the line in question. -/
theorem parse_grammar (text : Text) (line : Nat) :
    (∀ pieces, parse text = .ok pieces ↔
        ∃ items, Spells text items ∧ Divides pieces (items.map Item.atom)) ∧
      ((∃ pieces, parse text = .ok pieces) ↔ ∃ items, Spells text items) ∧
      ((∀ items, ¬ Spells text items) → ∃ cause, parse text = .error cause ∧ ∀ cs name,
        Declaration.stringBytes cs line name text = .error (.syntactic line cause) ∧
          (text.head? = some '"' →
            Declaration.nameBytes cs line text = .error (.syntactic line cause))) := by
  refine ⟨fun pieces => parse_eq_ok_iff, exists_pieces_iff, fun hnone => ?_⟩
  cases hparse : parse text with
  | ok pieces =>
    obtain ⟨items, hspells⟩ := exists_pieces_iff.1 ⟨pieces, hparse⟩
    exact absurd hspells (hnone items)
  | error cause =>
    refine ⟨cause, rfl, fun cs name => ⟨?_, fun hquote => ?_⟩⟩
    · rw [Declaration.stringBytes, hparse]
    · rw [Declaration.nameBytes, if_pos hquote, hparse]

/-- A literal with every kind of item, and white space behind it. -/
def sampleItems : List Item :=
  [.plain 'a' (by decide) (by decide), .escape .tab, .hex ⟨0xe, false⟩ ⟨0xd, true⟩,
    .hex ⟨0, false⟩ ⟨0xa, false⟩, .plain ';' (by decide) (by decide), .escape .quote]

theorem parse_grammar_sample :
    parse "\"a\\t\\xeD\\x0a;\\\"\" \t".toList =
        .ok [.text ['a', '\t'], .byte 0xed, .byte 0x0a, .text [';', '"']] ∧
      ∃ cause, parse "\"\\x4\"".toList = .error cause ∧
        ∀ cs, Declaration.nameBytes cs 7 "\"\\x4\"".toList = .error (.syntactic 7 cause) := by
  constructor
  · have hspells : Spells "\"a\\t\\xeD\\x0a;\\\"\" \t".toList sampleItems :=
      ⟨[' ', '\t'], by simp [isSpace], by decide +kernel⟩
    exact ((parse_grammar _ 7).1 _).2 ⟨sampleItems, hspells, divides_iff.2 (by decide)⟩
  · have hnone : ∀ items, ¬ Spells "\"\\x4\"".toList items := by
      intro items hspells
      obtain ⟨pieces, hparse⟩ := (parse_grammar _ 7).2.1.2 ⟨items, hspells⟩
      cases hparse
    obtain ⟨cause, hparse, hfault⟩ := (parse_grammar _ 7).2.2 hnone
    exact ⟨cause, hparse, fun cs => (hfault cs []).2 rfl⟩

end Literal

end NovelScript
