import NovelScript.Text.Numeral

/-!
What a plain YAML scalar is taken for: null, a truth value or a number, and a text only if it is
none of these.
-/

namespace NovelScript.Yaml

def isNull (t : Text) : Bool := ["", "~", "null", "Null", "NULL"].any fun s => s.toList = t

def isTruthValue (t : Text) : Bool :=
  ["true", "True", "TRUE", "false", "False", "FALSE"].any fun s => s.toList = t

/-- The text after a sign, if there is one. -/
def unsigned (t : Text) : Text :=
  match t with
  | '+' :: rest => rest
  | '-' :: rest => rest
  | _ => t

def isNegative (t : Text) : Bool := t.head? = some '-'

/-- Digits with a leading zero. They are a text, but other readers may take them for a number. -/
def isZeroPadded (t : Text) : Bool :=
  match unsigned t with
  | '0' :: c :: rest => (c :: rest).all Numeral.isDecimalDigit
  | _ => false

def bases : List (Nat × Text) := [(16, ['0', 'x']), (8, ['0', 'o']), (2, ['0', 'b'])]

/-- Whether a text is an integer in one of `bases` that fits in 128 bits, as a negative number in
two's complement. -/
def isBasedInteger (t : Text) : Bool :=
  bases.any fun (base, sign) =>
    match Text.after? sign (unsigned t) with
    | none => false
    | some digits =>
      !digits.isEmpty && digits.all (fun c => (Numeral.hexDigit? c).any (· < base)) &&
        decide (Numeral.value base digits ≤ if isNegative t then 1 <<< 127 else 1 <<< 128 - 1)

structure Decimal where
  whole : Text
  fraction : Text
  exponent : Int
  deriving Repr

def exponent? : Text → Option Int
  | [] => some 0
  | c :: rest =>
    let digits := unsigned rest
    if (c = 'e' ∨ c = 'E') ∧ digits ≠ [] ∧ digits.all Numeral.isDecimalDigit then
      let n : Int := Numeral.value 10 digits
      some (if isNegative rest then -n else n)
    else none

def Decimal.parse? (t : Text) : Option Decimal :=
  let whole := t.takeWhile Numeral.isDecimalDigit
  let afterWhole := t.dropWhile Numeral.isDecimalDigit
  let (fraction, rest) := match afterWhole with
    | '.' :: rest =>
      (rest.takeWhile Numeral.isDecimalDigit, rest.dropWhile Numeral.isDecimalDigit)
    | _ => ([], afterWhole)
  if whole = [] ∧ fraction = [] then none
  else (exponent? rest).map fun exponent => ⟨whole, fraction, exponent⟩

/-- Whether a decimal number rounds to a finite double: it is less than the midpoint of the greatest
double and the power of two behind it. -/
def Decimal.isFinite (d : Decimal) : Bool :=
  let m := Numeral.value 10 (d.whole ++ d.fraction)
  let e : Int := d.exponent - d.fraction.length
  let bound : Nat := 1 <<< 1024 - 1 <<< 970
  if m = 0 then true
  else if e < 0 then
    -- Below one the scale only matters where the digits are many.
    let digits := d.whole.length + d.fraction.length
    if (digits : Int) ≤ -e then true else decide (m < bound * Nat.pow 10 e.natAbs)
  else if 400 ≤ e then false
  else decide (m * Nat.pow 10 e.natAbs < bound)

def isSpecialFloat (t : Text) : Bool :=
  [".inf", ".Inf", ".INF", "+.inf", "+.Inf", "+.INF", "-.inf", "-.Inf", "-.INF", ".nan", ".NaN",
    ".NAN"].any fun s => s.toList = t

def isFloat (t : Text) : Bool :=
  isSpecialFloat t || (Decimal.parse? (unsigned t)).any Decimal.isFinite

/-- Whether a plain scalar could be taken for something other than a text. -/
def isAmbiguous (t : Text) : Bool :=
  isNull t || isTruthValue t || isZeroPadded t || isBasedInteger t || isFloat t

end NovelScript.Yaml
