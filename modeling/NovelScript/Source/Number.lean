import NovelScript.Fault

/-!
Numbers in source text: decimal or, after `0x`, lower-case hexadecimal, with a minus sign allowed in
front of both.
-/

namespace NovelScript.Number

def maxMagnitude : Nat := 1 <<< 63 - 1

/-- Reads digits of a base, all of which `isDigit` has to hold of. -/
def magnitude? (base : Nat) (isDigit : Char → Bool) (digits : Text) : Option Nat :=
  if digits = [] ∨ ¬ digits.all isDigit then none
  else
    let m := Numeral.value base digits
    if m ≤ maxMagnitude then some m else none

def unsigned? (t : Text) : Option Nat :=
  match Text.after? ['0', 'x'] t with
  | some digits => magnitude? 16 Numeral.isLowerHexDigit digits
  | none => magnitude? 10 Numeral.isDecimalDigit t

def parse? (t : Text) : Option Int :=
  match Text.after? ['-'] t with
  | some body => (unsigned? body).map fun m => -(m : Int)
  | none => (unsigned? t).map fun m => (m : Int)

def isNumber (t : Text) : Bool := (parse? t).isSome

def expect (line : Nat) (token : Text) : Except Fault Int :=
  match parse? token with
  | some n => .ok n
  | none => .error (.syntactic line (.notNumber token))

def checkRange (line : Nat) (token : Text) (least greatest n : Int) : Except Fault Int :=
  if n < least ∨ greatest < n then .error (.semantic line (.outOfRange token least greatest))
  else .ok n

/-- Reads a word, written signed or unsigned. -/
def word (line : Nat) (token : Text) : Except Fault UInt32 := do
  let n ← expect line token
  let n ← checkRange line token (-2147483648) 4294967295 n
  return UInt32.ofInt n

def byte (line : Nat) (token : Text) : Except Fault UInt8 := do
  let n ← expect line token
  let n ← checkRange line token (-128) 255 n
  return UInt8.ofInt n

def count (line : Nat) (token : Text) : Except Fault UInt32 := do
  let n ← expect line token
  let n ← checkRange line token 0 4294967295 n
  return UInt32.ofInt n

/-- Reads the number of a function of the engine: `@native` and hexadecimal digits. -/
def native (line : Nat) (token : Text) : Except Fault UInt32 :=
  let number? := (Text.after? "@native".toList token).bind fun digits =>
    if digits = [] then none else parse? ('0' :: 'x' :: digits)
  match number? with
  | none => .error (.syntactic line (.notNative token))
  | some n => (checkRange line token 0 4294967295 n).map UInt32.ofInt

end NovelScript.Number
