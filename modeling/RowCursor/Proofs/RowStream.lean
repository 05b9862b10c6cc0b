import RowCursor.Proofs.Response
import RowCursor.Proofs.Row.TextLayout

/-!
# Rows, ends and errors in one stream

Where a row is due, a server may send an end of the rows or an error instead.  A binary row
has a first byte of its own.  A text row shares its first byte with an end only if its first
value has a length of eight bytes, and then it is longer than any end.  Both forms of the
end say the same about the server's status.
-/

set_option autoImplicit false

namespace RowCursor

variable {capabilities : CapabilityFlags} {value : Option Bytes} {values : List (Option Bytes)}

/-! ## The first byte of a text row -/

/-- No value begins like an error. -/
theorem head_nullableBytesLenenc (value : Option Bytes) :
    ∃ first rest, Write.nullableBytesLenenc value = first :: rest ∧ first ≠ 0xFF := by
  cases value with
  | none => exact ⟨nullMarker, [], rfl, by decide⟩
  | some data =>
      obtain ⟨first, rest, written, _, notError, _⟩ :=
        Read.head_intLenenc_write (UInt64.ofNat data.length)
      refine ⟨first, rest ++ data, ?_, notError⟩
      rw [Write.nullableBytesLenenc, Write.bytesLenenc, written, List.cons_append]

theorem isErrorPacket_textRow (values : List (Option Bytes)) :
    isErrorPacket (textRow values) = false := by
  cases values with
  | nil => rfl
  | cons value later =>
      obtain ⟨first, rest, written, notError⟩ := head_nullableBytesLenenc value
      rw [textRow, List.flatMap_cons, written, isErrorPacket, List.cons_append, List.head?_cons]
      exact beq_eq_false_iff_ne.mpr fun same => notError (Option.some.inj same)

/-- A value that starts like an end is as long as its eight bytes of length are for. -/
theorem length_of_marked_value (countable : Countable value)
    (marked : (Write.nullableBytesLenenc value).head? = some 0xFE) :
    0x1000000 ≤ (Write.nullableBytesLenenc value).length := by
  cases value with
  | none => exact absurd marked (by decide)
  | some data =>
      have prefixed : (Write.intLenenc (UInt64.ofNat data.length)).head? = some 0xFE := by
        obtain ⟨first, rest, written, _⟩ := Read.head_intLenenc_write (UInt64.ofNat data.length)
        rw [Write.nullableBytesLenenc, Write.bytesLenenc, written] at marked
        rwa [written]
      have long := Read.le_of_head_intLenenc prefixed
      rw [Read.toNat_length (countable data rfl)] at long
      rw [Write.nullableBytesLenenc, Write.bytesLenenc, List.length_append]
      omega

theorem length_of_marked_textRow (countable : ∀ value ∈ values, Countable value)
    (marked : (textRow values).head? = some 0xFE) : 0x1000000 ≤ (textRow values).length := by
  cases values with
  | nil => cases marked
  | cons value later =>
      rw [textRow, List.flatMap_cons] at marked ⊢
      have own : (Write.nullableBytesLenenc value).head? = some 0xFE := by
        obtain ⟨first, rest, written, _⟩ := head_nullableBytesLenenc value
        rw [written] at marked
        rwa [written]
      have long := length_of_marked_value (countable value List.mem_cons_self) own
      rw [List.length_append]
      omega

/-- No end is as long as a text row that starts like one. -/
theorem terminatorBound_le (capabilities : CapabilityFlags) :
    terminatorBound capabilities ≤ 0x1000000 := by
  unfold terminatorBound
  split <;> decide

theorem isRowTerminator_textRow (countable : ∀ value ∈ values, Countable value) :
    isRowTerminator (textRow values) capabilities = false := by
  by_cases marked : (textRow values).head? = some 0xFE
  · have long := length_of_marked_textRow countable marked
    have bound := terminatorBound_le capabilities
    have late : ¬ (textRow values).length < terminatorBound capabilities := by omega
    rw [isRowTerminator, decide_eq_false late, Bool.and_false]
  · rw [isRowTerminator, beq_eq_false_iff_ne.mpr marked, Bool.false_and]

/-! ## The status in an end -/

/-- A status word keeps its named bits. -/
theorem StatusFlags.toNat_ofBits (word : UInt16) :
    (StatusFlags.ofBits word).bits.toNat = StatusFlags.table.truncate word.toNat := by
  have mask : StatusFlags.table.mask = StatusFlags.known.toNat := by decide
  rw [StatusFlags.ofBits, UInt16.toNat_and, FlagTable.truncate, mask]

/-! ## The stream -/

theorem isErrorPacket_report (report : ServerReport) : isErrorPacket report.encode = true := rfl

theorem isRowTerminator_report (report : ServerReport) :
    isRowTerminator report.encode capabilities = false := rfl

/-- Each kind of packet in a stream of rows is taken for what it is, and an end is read as
its status whatever its form. -/
theorem row_stream_kinds_apart (capabilities : CapabilityFlags) :
    (∀ values : List (Option Bytes), (∀ value ∈ values, Countable value) →
      isRowTerminator (textRow values) capabilities = false ∧
        isErrorPacket (textRow values) = false) ∧
    (∀ row : Bytes, row.head? = some 0x00 →
      isRowTerminator row capabilities = false ∧ isErrorPacket row = false) ∧
    (∀ report : ServerReport,
      isRowTerminator report.encode capabilities = false ∧ isErrorPacket report.encode = true) ∧
    ∀ terminator : Terminator, terminator.Fits capabilities →
      isRowTerminator terminator.encode capabilities = true ∧
        isErrorPacket terminator.encode = false ∧
        ∃ flags, terminatorStatus terminator.encode capabilities = .ok flags ∧
          flags.bits.toNat = StatusFlags.table.truncate terminator.status.toNat ∧
          ∀ (agreed : CapabilityFlags) (other : Terminator), other.Fits agreed →
            other.status = terminator.status →
              terminatorStatus other.encode agreed = .ok flags := by
  refine ⟨?_, ?_, ?_, ?_⟩
  · intro values countable
    exact ⟨isRowTerminator_textRow countable, isErrorPacket_textRow values⟩
  · intro row marked
    exact ⟨isRowTerminator_of_row marked, isErrorPacket_of_row marked⟩
  · intro report
    exact ⟨isRowTerminator_report report, isErrorPacket_report report⟩
  · intro terminator fits
    have ends := Terminator.terminates fits
    refine ⟨ends.terminator, ends.not_error, .ofBits terminator.status, ends.status_eq,
      StatusFlags.toNat_ofBits terminator.status, ?_⟩
    intro agreed other otherFits same
    rw [← same]
    exact (Terminator.terminates otherFits).status_eq

/-- The shortest value that makes a text row start like an end, and an end that sets every
bit of its status in either form. -/
theorem sixteen_mebibyte_row_is_no_end :
    let old : CapabilityFlags := ⟨0⟩
    let new : CapabilityFlags := ⟨0x01000000⟩
    let values : List (Option Bytes) := [some (List.replicate 0x1000000 0x61)]
    (∀ value ∈ values, Countable value) ∧ (textRow values).head? = some 0xFE ∧
      isRowTerminator (textRow values) new = false ∧
      (Terminator.eof 0 0xFFFF).Fits old ∧ (Terminator.ok 0 0 0xFFFF 0 []).Fits new ∧
      terminatorStatus (Terminator.eof 0 0xFFFF).encode old =
        terminatorStatus (Terminator.ok 0 0 0xFFFF 0 []).encode new := by
  intro old new values
  have countable : ∀ value ∈ values, Countable value := by
    intro value member data present
    rw [List.mem_singleton.mp member, Option.mem_some] at present
    rw [← present, List.length_replicate]
    decide
  have marked : (textRow values).head? = some 0xFE := by
    have prefixed : Write.intLenenc (UInt64.ofNat 0x1000000) =
        [0xFE, 0, 0, 0, 1, 0, 0, 0, 0] := by decide
    rw [textRow, List.flatMap_cons, Write.nullableBytesLenenc, Write.bytesLenenc,
      List.length_replicate, prefixed]
    rfl
  have oldFits : (Terminator.eof 0 0xFFFF).Fits old := by decide
  have newFits : (Terminator.ok 0 0 0xFFFF 0 []).Fits new := by decide
  obtain ⟨rows, _, _, _⟩ := row_stream_kinds_apart new
  obtain ⟨_, _, _, ends⟩ := row_stream_kinds_apart old
  obtain ⟨_, _, flags, status, _, alike⟩ := ends _ oldFits
  exact ⟨countable, marked, (rows values countable).1, oldFits, newFits,
    status.trans (alike new _ newFits rfl).symm⟩

end RowCursor
