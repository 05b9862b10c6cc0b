import RowCursor.UrlParser.Domain.Composites
import RowCursor.UrlParser.Domain.Marks

/-!
# Composed text

A character with marks can be written in several ways.  The composed form is the one
that a domain is compared by: the marks in the order of their places, and every character
joined with the marks on it as far as there is a composite for them.  Korean syllables are
composed of their sounds by rule.
-/

set_option autoImplicit false

namespace RowCursor.UrlParser.Domain

/-- The sounds of a Korean syllable. -/
def syllableParts? (char : Char) : Option (List Char) :=
  let index := char.toNat - 0xAC00
  if 0xAC00 ≤ char.toNat ∧ index < 11172 then
    let opening := Char.ofNat (0x1100 + index / 588)
    let vowel := Char.ofNat (0x1161 + index % 588 / 28)
    let closing := Char.ofNat (0x11A7 + index % 28)
    some (if index % 28 = 0 then [opening, vowel] else [opening, vowel, closing])
  else none

/-- The Korean syllable that a sound or a syllable forms with the sound behind it. -/
def syllable? (char next : Char) : Option Char :=
  let opening := char.toNat - 0x1100
  let vowel := next.toNat - 0x1161
  let index := char.toNat - 0xAC00
  let closing := next.toNat - 0x11A7
  if 0x1100 ≤ char.toNat ∧ opening < 19 ∧ 0x1161 ≤ next.toNat ∧ vowel < 21 then
    some (Char.ofNat (0xAC00 + (opening * 21 + vowel) * 28))
  else if 0xAC00 ≤ char.toNat ∧ index < 11172 ∧ index % 28 = 0 ∧ 0x11A7 < next.toNat ∧
      closing < 28 then
    some (Char.ofNat (char.toNat + closing))
  else none

def parts (char : Char) : List Char :=
  match syllableParts? char with
  | some sounds => sounds
  | none => (Replacement.lookUp? composites char).getD [char]

/-- The composite of a character and the mark behind it. -/
def composite? (char mark : Char) : Option Char :=
  match syllable? char mark with
  | some syllable => some syllable
  | none =>
    let target := (parts char ++ [mark]).map Char.toNat
    (composites.find? fun composite => composite.target = target).map fun composite =>
      Char.ofNat composite.first

/-- Put a character before a text whose marks are in order: a mark behind those of a
lower place. -/
def insertMark (char : Char) : List Char → List Char
  | [] => [char]
  | next :: rest =>
    if 0 < markPlace next ∧ markPlace next < markPlace char then next :: insertMark char rest
    else char :: next :: rest

/-- A text with its marks in order, without composites. -/
def decompose (text : List Char) : List Char := (text.flatMap parts).foldr insertMark []

/-- Compose a text without composites whose marks are in order.  `base` is the character
that marks are joined with and `marks` are those on it that it has no composite with. -/
def composeOnto (base : Char) (marks : List Char) : List Char → List Char
  | [] => base :: marks
  | char :: rest =>
    let adjacent := match marks.getLast? with
      | none => true
      | some last => markPlace last < markPlace char
    match if adjacent then composite? base char else none with
    | some composite => composeOnto composite marks rest
    | none =>
      if markPlace char = 0 then base :: marks ++ composeOnto char [] rest
      else composeOnto base (marks ++ [char]) rest

def compose (text : List Char) : List Char :=
  match (decompose text).span fun char => 0 < markPlace char with
  | (marks, []) => marks
  | (marks, base :: rest) => marks ++ composeOnto base [] rest

end RowCursor.UrlParser.Domain
