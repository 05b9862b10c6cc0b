/-!
# Quoted text

A text inside double quotes, as diagnostics show it.  Quotes and backslashes are
escaped by a backslash, the four common control characters have letters, any
other ASCII control character is written by its number.  Characters beyond ASCII
stand for themselves.
-/

set_option autoImplicit false

namespace RowCursor.Quoted

/-- How one character is written between the quotes. -/
def encodeChar (char : Char) : List Char :=
  match char with
  | '"' => ['\\', '"']
  | '\\' => ['\\', '\\']
  | '\x00' => ['\\', '0']
  | '\t' => ['\\', 't']
  | '\n' => ['\\', 'n']
  | '\r' => ['\\', 'r']
  | _ =>
    if char.toNat < 0x20 ∨ char.toNat = 0x7F then
      ['\\', 'u', '\x7b'] ++ Nat.toDigits 16 char.toNat ++ ['\x7d']
    else [char]

def encode (text : String) : String :=
  String.ofList ('"' :: text.toList.flatMap encodeChar ++ ['"'])

end RowCursor.Quoted
