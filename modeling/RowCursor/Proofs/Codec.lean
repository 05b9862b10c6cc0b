import Mathlib.Tactic.SplitIfs
import RowCursor.Codec
import RowCursor.Proofs.Bytes

/-!
# Reading what was written

A reader that succeeds has looked only at the bytes it took: whatever stands behind
them is left as it is (`Read.TakesPrefix`).  A length-encoded integer and a byte
string behind its length are read back as they were written, with any bytes behind
them.  Cut short anywhere, they are not read as anything else: the reader reports that bytes
are missing (`Read.unexpectedEof_of_cut`).
-/

set_option autoImplicit false

namespace RowCursor

namespace Read

variable {α β : Type}

/-! ## Readers take bytes off the front -/

/-- A success depends only on the bytes that were taken off the front. -/
def TakesPrefix (item : Reader α) : Prop :=
  ∀ data value rest, item data = .ok (value, rest) →
    ∃ used, data = used ++ rest ∧ ∀ other, item (used ++ other) = .ok (value, other)

theorem bind_apply (item : Reader α) (next : α → Reader β) (data : Bytes) :
    (item >>= next) data =
      match item data with
      | .ok (value, rest) => next value rest
      | .error error => .error error := by
  simp only [bind, StateT.bind, Except.bind]
  cases item data <;> rfl

theorem takesPrefix_pure (value : α) : TakesPrefix (pure value) := by
  intro data answer rest read
  have same : (value, data) = (answer, rest) := Except.ok.inj read
  cases same
  exact ⟨[], rfl, fun other => rfl⟩

theorem takesPrefix_throw (error : Error) : TakesPrefix (throw error : Reader α) := by
  intro data value rest read
  cases read

theorem takesPrefix_bind {item : Reader α} {next : α → Reader β} (first : TakesPrefix item)
    (later : ∀ value, TakesPrefix (next value)) : TakesPrefix (item >>= next) := by
  intro data value rest read
  rw [bind_apply] at read
  cases taken : item data with
  | error error => simp [taken] at read
  | ok pair =>
      obtain ⟨middle, behind⟩ := pair
      simp only [taken] at read
      obtain ⟨used, dataEq, again⟩ := first data middle behind taken
      obtain ⟨usedLater, behindEq, againLater⟩ := later middle behind value rest read
      refine ⟨used ++ usedLater, ?_, ?_⟩
      · rw [dataEq, behindEq, List.append_assoc]
      · intro other
        rw [bind_apply, List.append_assoc, again]
        exact againLater other

theorem takesPrefix_fixed (width : Nat) : TakesPrefix (fixed width) := by
  intro data value rest read
  rw [fixed_eq] at read
  split at read
  · rename_i enough
    cases read
    refine ⟨data.take width, (List.take_append_drop width data).symm, ?_⟩
    intro other
    have length : (data.take width).length = width := by
      rw [List.length_take]
      omega
    have taken := fixed_append (data.take width) other
    rwa [length] at taken
  · simp at read

theorem takesPrefix_int1 : TakesPrefix int1 := by
  intro data value rest read
  cases data with
  | nil => simp [int1] at read
  | cons byte tail =>
      simp only [int1] at read
      cases read
      exact ⟨[value], rfl, fun other => rfl⟩

/-- A word is read through `fixed`, so every width takes a prefix. -/
theorem takesPrefix_word (width : Nat) (ofBytes : Bytes → α) :
    TakesPrefix (do return ofBytes (← fixed width)) :=
  takesPrefix_bind (takesPrefix_fixed width) fun _ => takesPrefix_pure _

theorem takesPrefix_intLenenc : TakesPrefix intLenenc := by
  refine takesPrefix_bind takesPrefix_int1 fun first => ?_
  split_ifs
  · exact takesPrefix_bind (takesPrefix_word 2 _) fun _ => takesPrefix_pure _
  · exact takesPrefix_bind (takesPrefix_word 3 _) fun _ => takesPrefix_pure _
  · exact takesPrefix_word 8 _
  · exact takesPrefix_throw _
  · exact takesPrefix_pure _

theorem lenencLength_of_marker (rest : Bytes) :
    lenencLength (nullMarker :: rest) = .ok (none, rest) := by
  simp [lenencLength]

theorem lenencLength_of_ne {first : UInt8} (rest : Bytes) (notNull : first ≠ nullMarker) :
    lenencLength (first :: rest) =
      (intLenenc (first :: rest)).map fun (length, behind) => (some length, behind) := by
  simp only [lenencLength, if_neg notNull]
  cases intLenenc (first :: rest) <;> rfl

theorem takesPrefix_lenencLength : TakesPrefix lenencLength := by
  intro data value rest read
  cases data with
  | nil => simp [lenencLength] at read
  | cons first tail =>
      by_cases marker : first = nullMarker
      · subst first
        rw [lenencLength_of_marker] at read
        cases read
        exact ⟨[nullMarker], rfl, lenencLength_of_marker⟩
      · rw [lenencLength_of_ne tail marker] at read
        cases taken : intLenenc (first :: tail) with
        | error error => simp [taken, Except.map] at read
        | ok pair =>
            obtain ⟨length, behind⟩ := pair
            rw [taken] at read
            cases read
            obtain ⟨used, dataEq, again⟩ := takesPrefix_intLenenc _ _ _ taken
            refine ⟨used, dataEq, fun other => ?_⟩
            -- What was taken is not empty, so its first byte is no marker either.
            cases used with
            | nil =>
                have nothing := again []
                simp [intLenenc, bind_apply, int1] at nothing
            | cons head usedTail =>
                have headEq : first = head := (List.cons.inj dataEq).1
                subst head
                rw [List.cons_append, lenencLength_of_ne _ marker, ← List.cons_append, again other]
                rfl

/-- What is left after a success is the end of what was there. -/
theorem suffix_of_takesPrefix {item : Reader α} (takes : TakesPrefix item) {data rest : Bytes}
    {value : α} (read : item data = .ok (value, rest)) : rest <:+ data := by
  obtain ⟨used, dataEq, _⟩ := takes data value rest read
  exact ⟨used, dataEq.symm⟩

theorem takesPrefix_stringLenenc : TakesPrefix stringLenenc :=
  takesPrefix_bind takesPrefix_intLenenc fun _ => takesPrefix_fixed _

theorem takesPrefix_nullableStringLenenc : TakesPrefix nullableStringLenenc := by
  refine takesPrefix_bind takesPrefix_lenencLength fun length => ?_
  cases length with
  | none => exact takesPrefix_pure none
  | some length => exact takesPrefix_bind (takesPrefix_fixed _) fun _ => takesPrefix_pure _

/-! ## Words -/

theorem fixed_littleEndian (width value : Nat) (rest : Bytes) :
    fixed width (littleEndian width value ++ rest) = .ok (littleEndian width value, rest) := by
  have taken := fixed_append (littleEndian width value) rest
  rwa [littleEndian_length] at taken

theorem int1_write (value : UInt8) (rest : Bytes) :
    int1 (Write.int1 value ++ rest) = .ok (value, rest) := rfl

theorem int2_write (value : UInt16) (rest : Bytes) :
    int2 (Write.int2 value ++ rest) = .ok (value, rest) := by
  have small : value.toNat < 2 ^ 16 := value.toNat_lt
  have same : UInt16.ofNat (value.toNat % 256 ^ 2) = value := by
    apply UInt16.toNat_inj.mp
    rw [UInt16.toNat_ofNat']
    omega
  rw [int2, bind_apply, Write.int2, fixed_littleEndian]
  simp only [ofLittleEndian_littleEndian, same]
  rfl

theorem int3_write (value : UInt32) (rest : Bytes) :
    int3 (Write.int3 value ++ rest) = .ok (UInt32.ofNat (value.toNat % 2 ^ 24), rest) := by
  have bytes : (256 : Nat) ^ 3 = 2 ^ 24 := by decide
  rw [int3, bind_apply, Write.int3, fixed_littleEndian]
  simp only [ofLittleEndian_littleEndian, bytes]
  rfl

theorem int4_write (value : UInt32) (rest : Bytes) :
    int4 (Write.int4 value ++ rest) = .ok (value, rest) := by
  have small : value.toNat < 2 ^ 32 := value.toNat_lt
  have same : UInt32.ofNat (value.toNat % 256 ^ 4) = value := by
    apply UInt32.toNat_inj.mp
    rw [UInt32.toNat_ofNat']
    omega
  rw [int4, bind_apply, Write.int4, fixed_littleEndian]
  simp only [ofLittleEndian_littleEndian, same]
  rfl

theorem int8_write (value : UInt64) (rest : Bytes) :
    int8 (Write.int8 value ++ rest) = .ok (value, rest) := by
  have small : value.toNat < 2 ^ 64 := value.toNat_lt
  have same : UInt64.ofNat (value.toNat % 256 ^ 8) = value := by
    apply UInt64.toNat_inj.mp
    rw [UInt64.toNat_ofNat']
    omega
  rw [int8, bind_apply, Write.int8, fixed_littleEndian]
  simp only [ofLittleEndian_littleEndian, same]
  rfl

/-! ## Length-encoded integers -/

theorem intLenenc_short {first : UInt8} (rest : Bytes) (short : first.toNat < 251) :
    intLenenc (first :: rest) = .ok (first.toUInt64, rest) := by
  have notMarker : ∀ marker : UInt8, 251 ≤ marker.toNat → first ≠ marker := by
    intro marker large same
    rw [same] at short
    omega
  rw [intLenenc, bind_apply]
  simp only [int1]
  rw [if_neg (notMarker 0xFC (by decide)), if_neg (notMarker 0xFD (by decide)),
    if_neg (notMarker 0xFE (by decide)), if_neg]
  · rfl
  · rintro (null | error)
    · exact notMarker nullMarker (by decide) null
    · exact notMarker 0xFF (by decide) error

theorem intLenenc_word2 (value : UInt16) (rest : Bytes) :
    intLenenc (0xFC :: (Write.int2 value ++ rest)) = .ok (value.toUInt64, rest) := by
  rw [intLenenc, bind_apply]
  simp only [int1, if_true, bind_apply, int2_write]
  rfl

theorem intLenenc_word3 (value : UInt32) (rest : Bytes) :
    intLenenc (0xFD :: (Write.int3 value ++ rest)) =
      .ok ((UInt32.ofNat (value.toNat % 2 ^ 24)).toUInt64, rest) := by
  rw [intLenenc, bind_apply]
  simp only [int1]
  rw [if_neg (by decide), if_pos trivial, bind_apply, int3_write]
  rfl

theorem intLenenc_word8 (value : UInt64) (rest : Bytes) :
    intLenenc (0xFE :: (Write.int8 value ++ rest)) = .ok (value, rest) := by
  rw [intLenenc, bind_apply]
  simp only [int1]
  rw [if_neg (by decide), if_neg (by decide), if_pos trivial]
  exact int8_write value rest

theorem toNat_toUInt8_of_short {value : UInt64} (short : value < 251) :
    value.toUInt8.toNat = value.toNat := by
  have small : value.toNat < 251 := UInt64.lt_iff_toNat_lt.mp short
  rw [UInt64.toNat_toUInt8]
  omega

theorem intLenenc_write (value : UInt64) (rest : Bytes) :
    intLenenc (Write.intLenenc value ++ rest) = .ok (value, rest) := by
  unfold Write.intLenenc
  split_ifs with short word2 word3
  · have small : value.toNat < 251 := UInt64.lt_iff_toNat_lt.mp short
    have byte := toNat_toUInt8_of_short short
    have same : value.toUInt8.toUInt64 = value := by
      apply UInt64.toNat_inj.mp
      rw [UInt8.toNat_toUInt64, byte]
    rw [List.singleton_append, intLenenc_short rest (by omega), same]
  · have small : value.toNat < 0x10000 := UInt64.lt_iff_toNat_lt.mp word2
    have same : value.toUInt16.toUInt64 = value := by
      apply UInt64.toNat_inj.mp
      rw [UInt16.toNat_toUInt64, UInt64.toNat_toUInt16]
      omega
    rw [List.cons_append, intLenenc_word2, same]
  · have small : value.toNat < 0x1000000 := UInt64.lt_iff_toNat_lt.mp word3
    have same : (UInt32.ofNat (value.toUInt32.toNat % 2 ^ 24)).toUInt64 = value := by
      apply UInt64.toNat_inj.mp
      rw [UInt32.toNat_toUInt64, UInt32.toNat_ofNat', UInt64.toNat_toUInt32]
      omega
    rw [List.cons_append, intLenenc_word3, same]
  · exact intLenenc_word8 value rest

/-- A value that is its own first byte starts with no other byte. -/
theorem toUInt8_ne_of_short {value : UInt64} (short : value < 251) {other : UInt8}
    (apart : value.toNat ≠ other.toNat) : value.toUInt8 ≠ other := by
  intro same
  apply apart
  rw [← same, toNat_toUInt8_of_short short]

/-- No length-encoded integer starts like NULL or like an error, and only zero starts with
zero. -/
theorem head_intLenenc_write (value : UInt64) :
    ∃ first rest, Write.intLenenc value = first :: rest ∧ first ≠ nullMarker ∧ first ≠ 0xFF ∧
      (0 < value.toNat → first ≠ 0x00) := by
  unfold Write.intLenenc
  split_ifs with short
  · have small : value.toNat < 251 := UInt64.lt_iff_toNat_lt.mp short
    have marker : nullMarker.toNat = 251 := rfl
    have error : (0xFF : UInt8).toNat = 255 := rfl
    have zero : (0x00 : UInt8).toNat = 0 := rfl
    refine ⟨value.toUInt8, [], rfl, toUInt8_ne_of_short short (by omega),
      toUInt8_ne_of_short short (by omega), ?_⟩
    intro positive
    exact toUInt8_ne_of_short short (by omega)
  · exact ⟨0xFC, _, rfl, by decide, by decide, fun _ => by decide⟩
  · exact ⟨0xFD, _, rfl, by decide, by decide, fun _ => by decide⟩
  · exact ⟨0xFE, _, rfl, by decide, by decide, fun _ => by decide⟩

/-- The widest form is written only for what has no shorter one. -/
theorem le_of_head_intLenenc {value : UInt64}
    (widest : (Write.intLenenc value).head? = some 0xFE) : 0x1000000 ≤ value.toNat := by
  unfold Write.intLenenc at widest
  split_ifs at widest with short word2 word3
  · have small : value.toNat < 251 := UInt64.lt_iff_toNat_lt.mp short
    have marker : (0xFE : UInt8).toNat = 254 := rfl
    exact absurd (Option.some.inj widest) (toUInt8_ne_of_short short (by omega))
  · exact absurd (Option.some.inj widest) (by decide)
  · exact absurd (Option.some.inj widest) (by decide)
  · exact UInt64.le_iff_toNat_le.mp (UInt64.not_lt.mp word3)

theorem lenencLength_write (value : UInt64) (rest : Bytes) :
    lenencLength (Write.intLenenc value ++ rest) = .ok (some value, rest) := by
  obtain ⟨first, tail, written, notNull, _⟩ := head_intLenenc_write value
  have back := intLenenc_write value rest
  rw [written, List.cons_append] at back ⊢
  rw [lenencLength_of_ne _ notNull, back]
  rfl

/-! ## Byte strings behind their length -/

theorem toNat_length {data : Bytes} (countable : data.length < 2 ^ 63) :
    (UInt64.ofNat data.length).toNat = data.length := by
  rw [UInt64.toNat_ofNat']
  omega

theorem stringLenenc_write {data : Bytes} (countable : data.length < 2 ^ 63) (rest : Bytes) :
    stringLenenc (Write.bytesLenenc data ++ rest) = .ok (data, rest) := by
  rw [stringLenenc, bind_apply, Write.bytesLenenc, List.append_assoc, intLenenc_write]
  simp only [toNat_length countable, fixed_append]

theorem nullableStringLenenc_write {data : Bytes} (countable : data.length < 2 ^ 63)
    (rest : Bytes) :
    nullableStringLenenc (Write.bytesLenenc data ++ rest) = .ok (some data, rest) := by
  rw [nullableStringLenenc, bind_apply, Write.bytesLenenc, List.append_assoc, lenencLength_write]
  simp only [bind_apply, toNat_length countable, fixed_append]
  rfl

/-! ## Data in a row -/

/-- The bytes are read as the value, whatever follows them. -/
def Reads {α : Type} (item : Reader α) (bytes : Bytes) (value : α) : Prop :=
  ∀ rest, item (bytes ++ rest) = .ok (value, rest)

theorem reads_bind {α β : Type} {item : Reader α} {next : α → Reader β} {bytes more : Bytes}
    {value : α} {result : β} (first : Reads item bytes value)
    (later : Reads (next value) more result) : Reads (item >>= next) (bytes ++ more) result := by
  intro rest
  rw [bind_apply, List.append_assoc, first]
  exact later rest

theorem reads_map {α β : Type} {item : Reader α} {bytes : Bytes} {value : α} (make : α → β)
    (reads : Reads item bytes value) :
    Reads (item >>= fun value => pure (make value)) bytes (make value) := by
  intro rest
  rw [bind_apply, reads]
  rfl

theorem reads_nullable {value : Option Bytes} (countable : ∀ data ∈ value, data.length < 2 ^ 63) :
    Reads nullableStringLenenc (Write.nullableBytesLenenc value) value := by
  intro rest
  cases value with
  | none =>
      rw [nullableStringLenenc, bind_apply, Write.nullableBytesLenenc, List.singleton_append,
        lenencLength_of_marker]
      rfl
  | some data => exact nullableStringLenenc_write (countable data rfl) rest

/-! ## Running out of bytes -/

/-- Where more bytes lead to a success, the reader either needs none of them or reports that
bytes are missing. -/
def Waits {α : Type} (item : Reader α) : Prop :=
  ∀ data more value rest, item (data ++ more) = .ok (value, rest) →
    (∃ left, item data = .ok (value, left) ∧ left ++ more = rest) ∨
      item data = .error .unexpectedEof

theorem waits_pure (value : α) : Waits (pure value) := by
  intro data more answer rest read
  have same : (value, data ++ more) = (answer, rest) := Except.ok.inj read
  cases same
  exact Or.inl ⟨data, rfl, rfl⟩

theorem waits_throw (error : Error) : Waits (throw error : Reader α) := by
  intro data more value rest read
  cases read

theorem waits_bind {item : Reader α} {next : α → Reader β} (first : Waits item)
    (later : ∀ value, Waits (next value)) : Waits (item >>= next) := by
  intro data more value rest read
  rw [bind_apply] at read
  cases taken : item (data ++ more) with
  | error error => simp [taken] at read
  | ok pair =>
      obtain ⟨middle, behind⟩ := pair
      simp only [taken] at read
      rcases first data more middle behind taken with ⟨left, early, same⟩ | missing
      · rw [← same] at read
        simp only [bind_apply, early]
        exact later middle left more value rest read
      · right
        rw [bind_apply, missing]

theorem waits_fixed (width : Nat) : Waits (fixed width) := by
  intro data more value rest read
  by_cases enough : width ≤ data.length
  · left
    have further : width ≤ (data ++ more).length := by
      rw [List.length_append]
      omega
    rw [fixed_eq, if_pos further, List.take_append_of_le_length enough,
      List.drop_append_of_le_length enough] at read
    cases read
    exact ⟨data.drop width, by rw [fixed_eq, if_pos enough], rfl⟩
  · right
    rw [fixed_eq, if_neg enough]

theorem waits_int1 : Waits int1 := by
  intro data more value rest read
  cases data with
  | nil => exact Or.inr rfl
  | cons byte tail =>
      left
      simp only [List.cons_append, int1] at read
      cases read
      exact ⟨tail, rfl, rfl⟩

theorem waits_word (width : Nat) (ofBytes : Bytes → α) :
    Waits (do return ofBytes (← fixed width)) :=
  waits_bind (waits_fixed width) fun _ => waits_pure _

theorem waits_intLenenc : Waits intLenenc := by
  refine waits_bind waits_int1 fun first => ?_
  split_ifs
  · exact waits_bind (waits_word 2 _) fun _ => waits_pure _
  · exact waits_bind (waits_word 3 _) fun _ => waits_pure _
  · exact waits_word 8 _
  · exact waits_throw _
  · exact waits_pure _

theorem waits_stringLenenc : Waits stringLenenc :=
  waits_bind waits_intLenenc fun _ => waits_fixed _

theorem waits_lenencLength : Waits lenencLength := by
  intro data more value rest read
  cases data with
  | nil => exact Or.inr rfl
  | cons first tail =>
      rw [List.cons_append] at read
      by_cases marker : first = nullMarker
      · left
        subst first
        rw [lenencLength_of_marker] at read
        cases read
        exact ⟨tail, lenencLength_of_marker tail, rfl⟩
      · rw [lenencLength_of_ne _ marker, ← List.cons_append] at read
        rw [lenencLength_of_ne tail marker]
        cases taken : intLenenc (first :: tail ++ more) with
        | error error =>
            rw [taken] at read
            cases read
        | ok pair =>
            obtain ⟨length, behind⟩ := pair
            rw [taken] at read
            cases read
            rcases waits_intLenenc _ _ _ _ taken with ⟨left, early, same⟩ | missing
            · left
              exact ⟨left, by rw [early]; rfl, same⟩
            · right
              rw [missing]
              rfl

theorem waits_nullableStringLenenc : Waits nullableStringLenenc := by
  refine waits_bind waits_lenencLength fun length => ?_
  cases length with
  | none => exact waits_pure none
  | some length => exact waits_bind (waits_fixed _) fun _ => waits_pure _

/-- What was written and then cut short is not read as anything. -/
theorem unexpectedEof_of_cut {item : Reader α} {bytes part : Bytes} {value : α}
    (waits : Waits item) (reads : Reads item bytes value) (cut : part <+: bytes)
    (short : part ≠ bytes) : item part = .error .unexpectedEof := by
  obtain ⟨more, rfl⟩ := cut
  have whole := reads []
  rw [List.append_nil] at whole
  rcases waits part more value [] whole with ⟨left, _, nothing⟩ | missing
  · -- Nothing is left behind the whole, so nothing was cut off.
    rw [(List.append_eq_nil_iff.mp nothing).2, List.append_nil] at short
    exact absurd rfl short
  · exact missing

end Read

end RowCursor
