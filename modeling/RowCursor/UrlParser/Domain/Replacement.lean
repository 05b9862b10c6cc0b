import RowCursor.UrlParser.CharSet

/-!
# Replacements of characters

A table of replacements has one word for each: the code point, an equals sign and the
code points of what it stands for, with plus signs between them.  Two code points with a
hyphen stand for a run of characters, and with a colon for every second one of a run, each
of which stands for a character as far away as the first.
-/

set_option autoImplicit false

namespace RowCursor.UrlParser.Domain

/-- Characters that stand for others: those from `first` to `last` in steps of `step`. -/
structure Replacement where
  first : Nat
  last : Nat
  step : Nat
  /-- What the first of them stands for. -/
  target : List Nat
  deriving DecidableEq, Repr

namespace Replacement

def ofWord (word : List Char) : Replacement :=
  let source := word.takeWhile (· ≠ '=')
  let target := ((word.drop (source.length + 1)).splitOn '+').map Table.codePoint
  match source.splitOn '-', source.splitOn ':' with
  | [first, last], _ => ⟨Table.codePoint first, Table.codePoint last, 1, target⟩
  | _, [first, last] => ⟨Table.codePoint first, Table.codePoint last, 2, target⟩
  | _, _ => ⟨Table.codePoint source, Table.codePoint source, 1, target⟩

def readTable (text : String) : List Replacement := (Table.words text).map ofWord

def apply (replacement : Replacement) (char : Char) : List Char :=
  replacement.target.map fun code => Char.ofNat (code + (char.toNat - replacement.first))

/-- What a character stands for by a table in ascending order, if it stands for others. -/
def lookUp? (table : List Replacement) (char : Char) : Option (List Char) :=
  match table.find? fun replacement => char.toNat ≤ replacement.last with
  | some replacement =>
    if replacement.first ≤ char.toNat ∧
        (char.toNat - replacement.first) % replacement.step = 0 then
      some (replacement.apply char)
    else none
  | none => none

end Replacement

end RowCursor.UrlParser.Domain
