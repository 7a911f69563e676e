import NovelScript.Text

/-!
Numerals: the decimal and hexadecimal digits of a number, and the number that digits stand for.
-/

namespace NovelScript.Numeral

def decimal (n : Nat) : Text := Nat.toDigits 10 n

def signed : Int → Text
  | .ofNat n => decimal n
  | .negSucc n => '-' :: decimal (n + 1)

def hex (width n : Nat) : Text :=
  let digits := Nat.toDigits 16 n
  List.replicate (width - digits.length) '0' ++ digits

def upperHex (width n : Nat) : Text := (hex width n).map Char.toUpper

def hexDigit? (c : Char) : Option Nat :=
  if '0' ≤ c ∧ c ≤ '9' then some (c.toNat - '0'.toNat)
  else if 'a' ≤ c ∧ c ≤ 'f' then some (c.toNat - 'a'.toNat + 10)
  else if 'A' ≤ c ∧ c ≤ 'F' then some (c.toNat - 'A'.toNat + 10)
  else none

/-- The number whose digits in `base` are `digits`, the most significant one first. A character that
is no digit counts as zero. -/
def value (base : Nat) (digits : Text) : Nat :=
  digits.foldl (fun acc c => acc * base + (hexDigit? c).getD 0) 0

def isDecimalDigit (c : Char) : Bool := '0' ≤ c && c ≤ '9'

def isLowerHexDigit (c : Char) : Bool := isDecimalDigit c || ('a' ≤ c && c ≤ 'f')

end NovelScript.Numeral
