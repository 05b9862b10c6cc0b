import RowCursor.Proofs.Codec.Width

/-!
# The shortest form of a length-encoded integer

A length-encoded integer has four forms, and whatever is read as a number is one of those that
are wide enough for it (`LenencForm.exists_form_of_read`).  The number is written in the
narrowest of them, so any other spelling of it is longer.  What is written for one number is
never the beginning of what is written for another, and it never begins like NULL or like an
error.
-/

set_option autoImplicit false

namespace RowCursor

/-- The forms of a length-encoded integer, the narrowest first. -/
inductive LenencForm where
  | byte
  | word2
  | word3
  | word8
  deriving DecidableEq, Repr

namespace LenencForm

variable {form other : LenencForm} {value : UInt64} {data rest : Bytes}

/-- The least number that the form is too narrow for. -/
def bound : LenencForm → Nat
  | byte => 251
  | word2 => 0x10000
  | word3 => 0x1000000
  | word8 => 0x10000000000000000

/-- The count of bytes that the form takes. -/
def width : LenencForm → Nat
  | byte => 1
  | word2 => 3
  | word3 => 4
  | word8 => 9

def write (value : UInt64) : LenencForm → Bytes
  | byte => [value.toUInt8]
  | word2 => 0xFC :: Write.int2 value.toUInt16
  | word3 => 0xFD :: Write.int3 value.toUInt32
  | word8 => 0xFE :: Write.int8 value

def narrowest (value : UInt64) : LenencForm :=
  if value.toNat < bound byte then byte
  else if value.toNat < bound word2 then word2
  else if value.toNat < bound word3 then word3
  else word8

theorem length_write (form : LenencForm) (value : UInt64) :
    (form.write value).length = form.width := by
  cases form <;> simp [write, width, Write.int2, Write.int3, Write.int8]

theorem eq_of_width_eq (same : form.width = other.width) : form = other := by
  cases form <;> cases other <;> simp_all [width]

/-! ## The form that is written -/

theorem write_narrowest (value : UInt64) :
    (narrowest value).write value = Write.intLenenc value := by
  have short : value < 251 ↔ value.toNat < bound byte := UInt64.lt_iff_toNat_lt
  have two : value < 0x10000 ↔ value.toNat < bound word2 := UInt64.lt_iff_toNat_lt
  have three : value < 0x1000000 ↔ value.toNat < bound word3 := UInt64.lt_iff_toNat_lt
  simp only [Write.intLenenc, narrowest, short, two, three]
  split_ifs <;> rfl

theorem width_narrowest_le (wide : value.toNat < form.bound) :
    (narrowest value).width ≤ form.width := by
  unfold narrowest
  -- Each form narrower than the one chosen has been found too narrow for the value.
  split_ifs with short two three <;> cases form <;> simp only [bound, width] at * <;> omega

/-! ## The forms that are read -/

/-- A byte that announces no wider word, and is not refused, stands for itself. -/
theorem toNat_lt_of_ne {first : UInt8} (word2 : first ≠ 0xFC) (word3 : first ≠ 0xFD)
    (word8 : first ≠ 0xFE) (admitted : ¬ (first = nullMarker ∨ first = 0xFF)) :
    first.toNat < 251 := by
  rw [nullMarker] at admitted
  simp only [ne_eq, ← UInt8.toNat_inj, not_or] at word2 word3 word8 admitted
  have byte := first.toNat_lt
  simp only [UInt8.reduceToNat] at word2 word3 word8 admitted
  omega

theorem exists_form_of_read (read : Read.intLenenc data = .ok (value, rest)) :
    ∃ form, value.toNat < bound form ∧ data = form.write value ++ rest := by
  rw [Read.intLenenc, Read.bind_eq_ok_iff] at read
  obtain ⟨first, behind, taken, read⟩ := read
  obtain rfl := Read.int1_eq_ok_iff.mp taken
  split_ifs at read with isWord2 isWord3 isWord8 refused
  · obtain ⟨word, spelled, rfl⟩ := Read.map_eq_ok_iff.mp read
    obtain rfl := Read.int2_eq_ok_iff.mp spelled
    refine ⟨word2, ?_, ?_⟩
    · rw [UInt16.toNat_toUInt64]
      exact word.toNat_lt
    · rw [isWord2, write, UInt16.toUInt16_toUInt64]
      rfl
  · obtain ⟨word, spelled, rfl⟩ := Read.map_eq_ok_iff.mp read
    obtain ⟨small, rfl⟩ := Read.int3_eq_ok_iff.mp spelled
    refine ⟨word3, ?_, ?_⟩
    · rw [UInt32.toNat_toUInt64]
      exact small
    · rw [isWord3, write, UInt32.toUInt32_toUInt64]
      rfl
  · obtain rfl := Read.int8_eq_ok_iff.mp read
    refine ⟨word8, value.toNat_lt, ?_⟩
    rw [isWord8]
    rfl
  · cases read
  · obtain ⟨rfl, rfl⟩ := Read.pure_eq_ok_iff.mp read
    refine ⟨byte, ?_, ?_⟩
    · rw [UInt8.toNat_toUInt64]
      exact toNat_lt_of_ne isWord2 isWord3 isWord8 refused
    · rw [write, UInt8.toUInt8_toUInt64]
      rfl

end LenencForm

/-! ## What is written stands for itself -/

theorem Read.eq_of_prefix {α : Type} {item : Reader α} {bytes longer : Bytes} {value other : α}
    (reads : Reads item bytes value) (readsLonger : Reads item longer other)
    (within : bytes <+: longer) : value = other := by
  obtain ⟨more, rfl⟩ := within
  have alone := readsLonger []
  rw [List.append_nil, reads more] at alone
  exact (Prod.mk.inj (Except.ok.inj alone)).1

/-- What is written for a number is the shortest of its spellings, and the only one of that
length; it is not the beginning of what is written for another number; and it begins neither
like NULL nor like an error, so where a length may stand it is read as itself. -/
theorem intLenenc_write_is_canonical :
    (∀ (value : UInt64) (bytes : Bytes), Read.intLenenc bytes = .ok (value, []) →
      (Write.intLenenc value).length ≤ bytes.length ∧
        (bytes.length = (Write.intLenenc value).length → bytes = Write.intLenenc value)) ∧
    (∀ value other : UInt64, value ≠ other →
      ¬ Write.intLenenc value <+: Write.intLenenc other) ∧
    ∀ value : UInt64,
      (∃ first tail, Write.intLenenc value = first :: tail ∧ first ≠ 0xFB ∧ first ≠ 0xFF) ∧
        ∀ rest, Read.lenencLength (Write.intLenenc value ++ rest) = .ok (some value, rest) := by
  refine ⟨fun value bytes read => ?_, fun value other apart within => ?_, fun value => ⟨?_, ?_⟩⟩
  · obtain ⟨form, wide, spelled⟩ := LenencForm.exists_form_of_read read
    rw [List.append_nil] at spelled
    subst spelled
    rw [← LenencForm.write_narrowest, LenencForm.length_write, LenencForm.length_write]
    refine ⟨LenencForm.width_narrowest_le wide, fun same => ?_⟩
    rw [← LenencForm.eq_of_width_eq same]
  · exact apart (Read.eq_of_prefix (Read.intLenenc_write value) (Read.intLenenc_write other) within)
  · obtain ⟨first, tail, written, notNull, notError, _⟩ := Read.head_intLenenc_write value
    exact ⟨first, tail, written, notNull, notError⟩
  · exact Read.lenencLength_write value

/-- The least number that is not its own first byte, in the widest form and as it is written. -/
theorem spelling_of_251_in_nine_bytes :
    let wide : Bytes := [0xFE, 0xFB, 0, 0, 0, 0, 0, 0, 0]
    Read.intLenenc wide = .ok (251, []) ∧ Write.intLenenc 251 = [0xFC, 0xFB, 0] ∧
      (Write.intLenenc 251).length ≤ wide.length ∧
      ¬ Write.intLenenc 250 <+: Write.intLenenc 251 := by
  intro wide
  have read : Read.intLenenc wide = .ok (251, []) := rfl
  have apart : (250 : UInt64) ≠ 251 := by decide
  exact ⟨read, rfl, (intLenenc_write_is_canonical.1 251 wide read).1,
    intLenenc_write_is_canonical.2.1 250 251 apart⟩

end RowCursor
