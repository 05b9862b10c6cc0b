/-!
# Byte strings and little-endian words

Packets, payloads and column values are byte strings.  The protocol writes every
word with its low byte first; `littleEndian` and `ofLittleEndian` convert between
a natural number and a fixed count of such bytes.
-/

set_option autoImplicit false

namespace RowCursor

/-- A byte string, first byte first. -/
abbrev Bytes := List UInt8

/-- The low `width` bytes of `value`, low byte first. -/
def littleEndian : (width : Nat) → (value : Nat) → Bytes
  | 0, _ => []
  | width + 1, value => UInt8.ofNat value :: littleEndian width (value / 256)

/-- The number whose bytes, low byte first, are given. -/
def ofLittleEndian : Bytes → Nat
  | [] => 0
  | byte :: rest => byte.toNat + 256 * ofLittleEndian rest

@[simp]
theorem littleEndian_length (width value : Nat) : (littleEndian width value).length = width := by
  induction width generalizing value with
  | zero => rfl
  | succ width ih => simp [littleEndian, ih]

end RowCursor
