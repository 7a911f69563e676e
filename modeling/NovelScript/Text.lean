/-!
Text as a list of characters, with the two character classes that the source language and the
listing use, trimming, and the division of a text into lines.
-/

namespace NovelScript

/-- Text, one entry a character. -/
abbrev Text := List Char

/-- The characters with the property White_Space: the tabs, line ends and blanks of ASCII, and the
blanks and separators beyond it. -/
def isSpace (c : Char) : Bool :=
  let n := c.toNat
  (0x09 ≤ n && n ≤ 0x0d) || n == 0x20 || n == 0x85 || n == 0xa0 || n == 0x1680 ||
    (0x2000 ≤ n && n ≤ 0x200a) || n == 0x2028 || n == 0x2029 || n == 0x202f || n == 0x205f ||
    n == 0x3000

/-- The control characters: the two ranges below the blank and between DEL and the no-break blank.
-/
def isControl (c : Char) : Bool :=
  let n := c.toNat
  n < 0x20 || (0x7f ≤ n && n < 0xa0)

/-- The blank characters that separate words on a source line. -/
def isBlank (c : Char) : Bool := c == ' ' || c == '\t'

theorem isSpace_of_isBlank {c : Char} (h : isBlank c = true) : isSpace c = true := by
  simp only [isBlank, Bool.or_eq_true, beq_iff_eq] at h
  rcases h with rfl | rfl <;> rfl

namespace Text

def trimStart (t : Text) : Text := t.dropWhile isSpace

def trimEnd (t : Text) : Text := (t.reverse.dropWhile isSpace).reverse

def trim (t : Text) : Text := trimEnd (trimStart t)

def dropReturn (t : Text) : Text := if t.getLast? = some '\r' then t.dropLast else t

/-- The lines of a text. A line ends in a line feed, which a carriage return may precede; the last
one may lack its line feed, and then keeps its carriage return. Nothing follows a final line feed.
-/
def lines (t : Text) : List Text :=
  let parts := t.splitOn '\n'
  let last := parts.getLastD []
  parts.dropLast.map dropReturn ++ if last = [] then [] else [last]

def unlines (ls : List Text) : Text := ls.flatMap (· ++ ['\n'])

def splitAtFirst (stop : Char → Bool) : Text → Option (Text × Text)
  | [] => none
  | c :: rest =>
    if stop c then some ([], rest)
    else (splitAtFirst stop rest).map fun (before, after) => (c :: before, after)

def after? : (front t : Text) → Option Text
  | [], t => some t
  | _ :: _, [] => none
  | f :: front, c :: rest => if f = c then after? front rest else none

def asciiLower (t : Text) : Text := t.map Char.toLower

theorem after?_eq_some_iff {front t rest : Text} :
    after? front t = some rest ↔ t = front ++ rest := by
  induction front generalizing t with
  | nil => simp [after?]
  | cons f front ih =>
    cases t with
    | nil => simp [after?]
    | cons c t =>
      by_cases h : f = c
      · simp [after?, h, ih]
      · simp [after?, h, Ne.symm h]

end Text

end NovelScript
