import RowCursor.UrlParser.Punycode
import RowCursor.UrlParser.Domain.Composition
import RowCursor.UrlParser.Domain.Direction
import RowCursor.UrlParser.Domain.Joining
import RowCursor.UrlParser.Domain.Refused
import RowCursor.UrlParser.Domain.Replacements

/-!
# Labels of domains

A label is what stands between the dots of a domain.  A label of letters beyond ASCII can
be written as such or, behind `xn--`, in Punycode; what is written in Punycode has to be
in the form that the other way of writing would have led to.
-/

set_option autoImplicit false

namespace RowCursor.UrlParser.Domain

/-- What becomes of a character in a domain. -/
inductive Standing where
  | kept
  /-- Another text takes its place, the empty one if it counts for nothing. -/
  | replaced (text : List Char)
  | refused
  deriving DecidableEq, Repr

def standing (char : Char) : Standing :=
  match Replacement.lookUp? replacements char with
  | some text => .replaced text
  | none =>
    if invisible.contains char then .replaced []
    else if refused.contains char then .refused
    else .kept

/-- What a character stands for, unless it is refused. -/
def plainText? (char : Char) : Option (List Char) :=
  match standing char with
  | .kept => some [char]
  | .replaced text => some text
  | .refused => none

def isAscii (char : Char) : Bool := char.toNat < 0x80

/-- The longest label beyond ASCII. -/
def maxLabelLength : Nat := 1000

/-- The longest label in Punycode, without its mark. -/
def maxPunycodeLength : Nat := 2000

/-- The letters of a label that is written in Punycode: at least one beyond ASCII, all of
them kept as they are, and composed. -/
def decodeLabel? (written : List Char) : Option (List Char) :=
  if written.all isAscii ∧ written.getLast?.any (· ≠ '-') ∧
      written.length ≤ maxPunycodeLength then
    (Punycode.decode? written).filter fun text =>
      text.all (standing · = .kept) && compose text = text
  else none

def letters? (label : List Char) : Option (List Char) :=
  match label with
  | 'x' :: 'n' :: '-' :: '-' :: written => decodeLabel? written
  | _ => some label

/-- Whether the letters of a label go together: no mark without a letter before it, and
joiners only where they can be seen. -/
def isWellFormed (letters : List Char) : Bool :=
  letters.all isAscii ||
    (!letters.head?.any isMark && joinersFit [] letters && letters.length ≤ maxLabelLength)

def areLabels (labels : List (List Char)) : Bool :=
  match labels.mapM letters? with
  | none => false
  | some letters =>
    letters.all isWellFormed &&
      (!letters.any (fun label => label.any runsLeft) || letters.all keepsDirection)

end RowCursor.UrlParser.Domain
