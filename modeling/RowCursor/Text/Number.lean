/-!
# Decimal and hexadecimal numbers as text

Reading is strict: ASCII digits only, no blanks, an optional sign.  The unsigned
form admits a plus sign only, and a numeral to another base no sign at all.
-/

set_option autoImplicit false

namespace RowCursor.Number

/-- The number that a non-empty run of ASCII digits denotes. -/
def digits? (text : List Char) : Option Nat :=
  if text.isEmpty then none
  else text.foldl (fun read char =>
    read.bind fun value =>
      if '0' ≤ char ∧ char ≤ '9' then some (10 * value + (char.toNat - '0'.toNat)) else none)
    (some 0)

/-- An unsigned number, with an optional plus sign, below `bound`. -/
def unsigned? (bound : Nat) (text : String) : Option Nat :=
  let value := match text.toList with
    | '+' :: rest => digits? rest
    | chars => digits? chars
  value.filter (· < bound)

/-- A signed number, with an optional sign, at least `-bound` and below `bound`. -/
def signed? (bound : Nat) (text : String) : Option Int :=
  let value : Option Int := match text.toList with
    | '+' :: rest => (digits? rest).map Int.ofNat
    | '-' :: rest => (digits? rest).map fun value => -Int.ofNat value
    | chars => (digits? chars).map Int.ofNat
  value.filter fun value => -(bound : Int) ≤ value ∧ value < (bound : Int)

/-- The value of a hexadecimal digit. -/
def hexValue? (char : Char) : Option Nat :=
  if char.isDigit then some (char.toNat - '0'.toNat)
  else if 'a' ≤ char ∧ char ≤ 'f' then some (char.toNat - 'a'.toNat + 10)
  else if 'A' ≤ char ∧ char ≤ 'F' then some (char.toNat - 'A'.toNat + 10)
  else none

/-- The number that digits to a base of at most sixteen stand for; no digits stand for
zero. -/
def numeral? (base : Nat) (digits : List Char) : Option Nat :=
  digits.foldlM (fun value char => do
    let digit ← hexValue? char
    if digit < base then some (base * value + digit) else none) 0

/-- The two upper-case hexadecimal digits of a byte. -/
def hexUpper (byte : UInt8) : String :=
  String.ofList [(Nat.digitChar (byte.toNat / 16)).toUpper,
    (Nat.digitChar (byte.toNat % 16)).toUpper]

/-- The two lower-case hexadecimal digits of a byte. -/
def hexLower (byte : UInt8) : String :=
  String.ofList [Nat.digitChar (byte.toNat / 16), Nat.digitChar (byte.toNat % 16)]

end RowCursor.Number
