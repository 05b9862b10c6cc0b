import RowCursor.Bytes

/-!
# Bytes written with a percent sign

A URL writes a byte that has no place in its text as a percent sign and two
hexadecimal digits.  A percent sign that is followed by anything else stands for
itself.
-/

set_option autoImplicit false

namespace RowCursor.UrlParser.Percent

/-- The value of a hexadecimal digit. -/
def hexDigit? (byte : UInt8) : Option Nat :=
  if 0x30 ≤ byte ∧ byte ≤ 0x39 then some (byte.toNat - 0x30)
  else if 0x41 ≤ byte ∧ byte ≤ 0x46 then some (byte.toNat - 0x41 + 10)
  else if 0x61 ≤ byte ∧ byte ≤ 0x66 then some (byte.toNat - 0x61 + 10)
  else none

/-- Replace every written byte by the byte. -/
def decode : Bytes → Bytes
  | [] => []
  | byte :: rest =>
    if byte = 0x25 then
      match rest with
      | high :: low :: behind =>
        match hexDigit? high, hexDigit? low with
        | some high, some low => UInt8.ofNat (16 * high + low) :: decode behind
        | _, _ => byte :: decode (high :: low :: behind)
      | rest => byte :: decode rest
    else byte :: decode rest

end RowCursor.UrlParser.Percent
