import RowCursor.Text.Number

/-!
# Numeric addresses

IPv6 addresses, as they stand in the brackets of a host, and IPv4 addresses in two
forms: the strict one, which may end an IPv6 address, and the loose one of a host,
which has one to four numbers to base ten, eight or sixteen.  The last number of the
loose form fills all the bytes that the numbers before it leave.
-/

set_option autoImplicit false

namespace RowCursor.UrlParser

/-- Whether a text is a decimal number up to 255 without a leading zero. -/
def isIpv4Part (text : List Char) : Bool :=
  match text with
  | [] => false
  | ['0'] => true
  | '0' :: _ => false
  | _ => text.all Char.isDigit && text.length ≤ 3 &&
      text.foldl (fun value digit => 10 * value + (digit.toNat - '0'.toNat)) 0 ≤ 255

def isIpv4Address (text : List Char) : Bool :=
  let parts := text.splitOn '.'
  parts.length == 4 && parts.all isIpv4Part

/-- Whether a text is one to four hexadecimal digits. -/
def isIpv6Group (text : List Char) : Bool :=
  !text.isEmpty && text.length ≤ 4 && text.all fun char => (Number.hexValue? char).isSome

/-- Whether the texts between the colons complete an IPv6 address of which `count`
groups are read.  `compressed` tells that a double colon, which counts as a group,
was read before. -/
def isIpv6Tail (count : Nat) (compressed : Bool) : List (List Char) → Bool
  | [] => false
  | [[]] => compressed || count == 8
  | [] :: rest => count < 8 && !compressed && isIpv6Tail (count + 1) true rest
  | [last] =>
    if isIpv6Group last then count < 8 && (compressed || count + 1 == 8)
    else isIpv4Address last && count ≤ 6 && (compressed || count + 2 == 8)
  | [_, []] => false
  | group :: rest => count < 8 && isIpv6Group group && isIpv6Tail (count + 1) compressed rest

/-- Whether a text is an IPv6 address: eight groups, of which a double colon leaves
out any number and a dotted IPv4 address at the end stands for two. -/
def isIpv6Address (text : List Char) : Bool :=
  match text.splitOn ':' with
  | [] :: [] :: rest => isIpv6Tail 1 true rest
  | [] :: _ => false
  | groups => isIpv6Tail 0 false groups

/-- A number of a loose IPv4 address: hexadecimal behind `0x`, octal behind another
zero, and else decimal. -/
def looseNumber? : List Char → Option Nat
  | [] => none
  | '0' :: 'x' :: digits => Number.numeral? 16 digits
  | '0' :: digit :: digits => Number.numeral? 8 (digit :: digits)
  | digits => Number.numeral? 10 digits

/-- Whether numbers are an IPv4 address in loose form. -/
def isLooseAddress (numbers : List (List Char)) : Bool :=
  match numbers.mapM looseNumber? with
  | none => false
  | some values =>
    values.length ≤ 4 && values.dropLast.all (· ≤ 255) &&
      values.getLast?.any (· < Nat.pow 256 (5 - values.length))

end RowCursor.UrlParser
