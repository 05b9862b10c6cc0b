import RowCursor.Text.Number

/-!
# Punycode

A text with few letters or none of ASCII, written in letters, digits and hyphens of ASCII:
first its own ASCII characters and a hyphen behind them, then a number for each other
character, which tells both the character and its place.  A number is written with its
lowest digit first, in base 36; how many values of a digit announce a further digit
depends on the size of the numbers so far.  No number takes more than 32 bits.
-/

set_option autoImplicit false

namespace RowCursor.UrlParser.Punycode

/-- The bound of all numbers. -/
def bound : Nat := UInt32.size

/-- The value of a digit: letters, then decimal digits. -/
def digit? (char : Char) : Option Nat :=
  if 'a' ≤ char ∧ char ≤ 'z' then some (char.toNat - 'a'.toNat)
  else if 'A' ≤ char ∧ char ≤ 'Z' then some (char.toNat - 'A'.toNat)
  else if char.isDigit then some (char.toNat - '0'.toNat + 26)
  else none

/-- The least value of a digit that announces a further one.  `place` is 36 for the
lowest digit and 36 more for each further one. -/
def threshold (place bias : Nat) : Nat := max 1 (min 26 (place - bias))

/-- Read a number onto `value`; `weight` is what the next digit counts. -/
def readNumber? (bias : Nat) :
    (place weight value : Nat) → List Char → Option (Nat × List Char)
  | _, _, _, [] => none
  | place, weight, value, char :: rest =>
    match digit? char with
    | none => none
    | some digit =>
      let value := value + digit * weight
      let least := threshold place bias
      if bound ≤ value then none
      else if digit < least then some (value, rest)
      else if bound ≤ weight * (36 - least) then none
      else readNumber? bias (place + 36) (weight * (36 - least)) value rest

/-- Reading a number takes at least one digit. -/
theorem length_lt_of_readNumber? {bias : Nat} {digits rest : List Char}
    {place weight value read : Nat}
    (h : readNumber? bias place weight value digits = some (read, rest)) :
    rest.length < digits.length := by
  induction digits generalizing place weight value with
  | nil => simp [readNumber?] at h
  | cons char digits ih =>
      rw [readNumber?] at h
      split at h
      · simp at h
      · dsimp only at h
        split at h
        · simp at h
        · split at h
          · simp only [Option.some.injEq, Prod.mk.injEq] at h
            simp [h.2]
          · split at h
            · simp at h
            · exact Nat.lt_succ_of_lt (ih h)

/-- Bring a number below the size at which its digits get wider thresholds. -/
def scale (number place : Nat) : Nat × Nat :=
  if 455 < number then scale (number / 35) (place + 36) else (number, place)
termination_by number
decreasing_by omega

/-- The bias after a number that made the text `count` characters long. -/
def adapt (number count : Nat) (first : Bool) : Nat :=
  let number := if first then number / 700 else number / 2
  let (number, place) := scale (number + number / count) 0
  place + 36 * number / (number + 38)

/-- Insert the characters that the digits tell into a text.  `code` is the last inserted
character and `index` the place behind it. -/
def insertAll? (code index bias : Nat) (text : List Char) (digits : List Char) :
    Option (List Char) :=
  if digits.isEmpty then some text
  else
    match _found : readNumber? bias 36 1 index digits with
    | none => none
    | some (read, rest) =>
      let count := text.length + 1
      let code := code + read / count
      let place := read % count
      if code.isValidChar then
        insertAll? code (place + 1) (adapt (read - index) count (index = 0))
          (text.take place ++ Char.ofNat code :: text.drop place) rest
      else none
termination_by digits.length
decreasing_by exact length_lt_of_readNumber? _found

/-- The text that is written so. -/
def decode? (written : List Char) : Option (List Char) :=
  match written.reverse.span (· ≠ '-') with
  | (_, []) => insertAll? 128 0 72 [] written
  | (digits, _ :: letters) =>
    if letters.isEmpty then none else insertAll? 128 0 72 letters.reverse digits.reverse

end RowCursor.UrlParser.Punycode
