import RowCursor.Bytes

/-!
# Text as UTF-8

`encode` writes a text as UTF-8.  Decoding is a machine that is fed one byte at a
time: between characters it is idle, inside a character it knows how many
continuation bytes are missing and which range the next one must lie in.  A byte
outside that range closes the ill-formed part before it and is then read afresh,
so every maximal ill-formed part yields exactly one replacement character.
`decodeLossy` keeps those replacements, `decode?` refuses a text that has any.
-/

set_option autoImplicit false

namespace RowCursor.Utf8

def encode (text : String) : Bytes :=
  text.toList.flatMap String.utf8EncodeChar

/-- What stands for an ill-formed part of a byte string. -/
def replacement : Char := '\uFFFD'

/-- The inside of a character of several bytes. -/
structure Pending where
  /-- The bits of the scalar value read so far. -/
  bits : Nat
  /-- How many more continuation bytes follow after the next one. -/
  further : Nat
  /-- The least byte admitted next. -/
  low : UInt8
  /-- The greatest byte admitted next. -/
  high : UInt8
  deriving DecidableEq, Repr

/-- A byte at the start of a character. -/
inductive Lead where
  | scalar (char : Char)
  | begins (inside : Pending)
  | illFormed
  deriving DecidableEq, Repr

/-- The role of a byte at the start of a character.  The ranges leave out overlong
forms, surrogates and values above the last scalar value. -/
def lead (byte : UInt8) : Lead :=
  if byte < 0x80 then .scalar (Char.ofNat byte.toNat)
  else if byte < 0xC2 then .illFormed
  else if byte < 0xE0 then .begins ⟨byte.toNat - 0xC0, 0, 0x80, 0xBF⟩
  else if byte = 0xE0 then .begins ⟨0, 1, 0xA0, 0xBF⟩
  else if byte = 0xED then .begins ⟨0xD, 1, 0x80, 0x9F⟩
  else if byte < 0xF0 then .begins ⟨byte.toNat - 0xE0, 1, 0x80, 0xBF⟩
  else if byte = 0xF0 then .begins ⟨0, 2, 0x90, 0xBF⟩
  else if byte < 0xF4 then .begins ⟨byte.toNat - 0xF0, 2, 0x80, 0xBF⟩
  else if byte = 0xF4 then .begins ⟨4, 2, 0x80, 0x8F⟩
  else .illFormed

structure Decoder where
  /-- The character that is being read, if any. -/
  inside : Option Pending
  /-- The characters read so far, last one first. -/
  reversed : List Char
  /-- Whether every byte so far was part of a well-formed character. -/
  wellFormed : Bool
  deriving DecidableEq, Repr

namespace Decoder

def start : Decoder := ⟨none, [], true⟩

def push (decoder : Decoder) (char : Char) : Decoder :=
  { decoder with inside := none, reversed := char :: decoder.reversed }

/-- Close an ill-formed part. -/
def replace (decoder : Decoder) : Decoder :=
  { decoder.push replacement with wellFormed := false }

/-- Read a byte between characters. -/
def feedIdle (decoder : Decoder) (byte : UInt8) : Decoder :=
  match lead byte with
  | .scalar char => decoder.push char
  | .begins inside => { decoder with inside := some inside }
  | .illFormed => decoder.replace

def feed (decoder : Decoder) (byte : UInt8) : Decoder :=
  match decoder.inside with
  | none => decoder.feedIdle byte
  | some inside =>
    if inside.low ≤ byte ∧ byte ≤ inside.high then
      let bits := inside.bits * 64 + (byte.toNat - 0x80)
      match inside.further with
      | 0 => decoder.push (Char.ofNat bits)
      | further + 1 => { decoder with inside := some ⟨bits, further, 0x80, 0xBF⟩ }
    else
      decoder.replace.feedIdle byte

/-- Close a character that the end of the bytes cut short. -/
def finish (decoder : Decoder) : Decoder :=
  match decoder.inside with
  | none => decoder
  | some _ => decoder.replace

def text (decoder : Decoder) : String :=
  String.ofList decoder.reversed.reverse

end Decoder

def run (bytes : Bytes) : Decoder :=
  (bytes.foldl Decoder.feed Decoder.start).finish

/-- The text of a byte string, with a replacement character for every maximal
ill-formed part. -/
def decodeLossy (bytes : Bytes) : String :=
  (run bytes).text

/-- The text of a byte string that is well-formed throughout. -/
def decode? (bytes : Bytes) : Option String :=
  let decoder := run bytes
  if decoder.wellFormed then some decoder.text else none

end RowCursor.Utf8
