import RowCursor.Text.Number

/-!
# Sets of characters

Sets that are given by a table of code points: hexadecimal numbers between blanks and
line breaks, in ascending order, of which two with a hyphen between them stand for a
range.
-/

set_option autoImplicit false

namespace RowCursor.UrlParser

namespace Table

def words (text : String) : List (List Char) :=
  (text.toList.splitOnP fun char => char = ' ' || char = '\n').filter fun word => !word.isEmpty

/-- The code point that a hexadecimal number stands for. -/
def codePoint (digits : List Char) : Nat := (Number.numeral? 16 digits).getD 0

end Table

/-- A set of characters, as the ends of ranges of code points in ascending order. -/
structure CharSet where
  ranges : List (Nat × Nat)
  deriving DecidableEq, Repr

namespace CharSet

/-- The range that a word of a table stands for. -/
def rangeOfWord (word : List Char) : Nat × Nat :=
  match word.splitOn '-' with
  | [first, last] => (Table.codePoint first, Table.codePoint last)
  | _ => (Table.codePoint word, Table.codePoint word)

def ofText (text : String) : CharSet := ⟨(Table.words text).map rangeOfWord⟩

/-- Whether a character is in a set: whether the first range that does not end before it
begins before it. -/
def contains (set : CharSet) (char : Char) : Bool :=
  match set.ranges.find? fun (_, last) => char.toNat ≤ last with
  | some (first, _) => first ≤ char.toNat
  | none => false

end CharSet

end RowCursor.UrlParser
