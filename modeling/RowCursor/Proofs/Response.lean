import RowCursor.Command
import RowCursor.Proofs.Codec
import RowCursor.Proofs.Text.Utf8

/-!
# What the packets of a response say

A row, an error report and the end of the rows are told apart by their first bytes, and
the end carries the server's status in either of its two forms.  The first packet behind
an execute command is told apart in the same way.
-/

set_option autoImplicit false

namespace RowCursor

variable {capabilities : CapabilityFlags} {payload : Bytes}

/-! ## Rows, reports and ends -/

/-- The payload ends a stream of rows, with this status.  It is shorter than any row that
starts with the same byte. -/
structure Terminates (capabilities : CapabilityFlags) (payload : Bytes) (status : StatusFlags) :
    Prop where
  marked : payload.head? = some 0xFE
  short : payload.length < if capabilities.deprecateEof then 0xFFFFFF else 9
  status_eq : terminatorStatus payload capabilities = .ok status

theorem Terminates.terminator {status : StatusFlags}
    (terminates : Terminates capabilities payload status) :
    isRowTerminator payload capabilities = true := by
  have short : payload.length < terminatorBound capabilities := terminates.short
  simp only [isRowTerminator, terminates.marked, short, decide_true, BEq.rfl, Bool.and_self]

theorem Terminates.not_error {status : StatusFlags}
    (terminates : Terminates capabilities payload status) : isErrorPacket payload = false := by
  simp only [isErrorPacket, terminates.marked]
  rfl

/-- A binary row is neither taken for an error nor for the end of the rows. -/
theorem isErrorPacket_of_row (row : payload.head? = some 0x00) : isErrorPacket payload = false := by
  simp only [isErrorPacket, row]
  rfl

theorem isRowTerminator_of_row (row : payload.head? = some 0x00) :
    isRowTerminator payload capabilities = false := by
  simp only [isRowTerminator, row]
  rfl

theorem isErrorPacket_of_report {report : ServerReport}
    (reported : ServerReport.ofPayload payload = .ok report) : isErrorPacket payload = true := by
  cases payload with
  | nil => cases reported
  | cons first rest =>
      by_cases marker : first = 0xFF
      · rw [marker]
        rfl
      · have refused : ServerReport.ofPayload (first :: rest) = .error .invalidPacket := by
          simp only [ServerReport.ofPayload, ServerReport.read, bind, StateT.bind, Except.bind,
            Read.int1, if_pos marker]
          rfl
        rw [refused] at reported
        cases reported

/-! ## Reports -/

namespace ServerReport

/-- A report as a server sends it, with its state behind a number sign. -/
def encode (report : ServerReport) : Bytes :=
  Write.int1 0xFF ++ (Write.int2 report.code ++ (Write.int1 0x23 ++ Utf8.encode report.state)) ++
    Utf8.encode report.text

/-- The state has five bytes, as five ASCII characters have. -/
def Encodable (report : ServerReport) : Prop := (Utf8.encode report.state).length = 5

instance (report : ServerReport) : Decidable report.Encodable :=
  inferInstanceAs (Decidable (_ = _))

theorem reads_state {state : String} (sized : (Utf8.encode state).length = 5) :
    Read.Reads readState (Write.int1 0x23 ++ Utf8.encode state) state := by
  intro rest
  have taken := Read.fixed_append (Utf8.encode state) rest
  rw [sized] at taken
  simp only [Write.int1, List.cons_append, List.nil_append, readState, taken, Except.map,
    Utf8.decodeLossy_encode]

theorem ofPayload_encode {report : ServerReport} (encodable : report.Encodable) :
    ofPayload report.encode = .ok report := by
  have read : read report.encode = .ok (report, []) := by
    rw [ServerReport.read, encode, List.append_assoc, Read.bind_apply, Read.int1_write]
    simp only
    rw [if_neg (by decide), List.append_assoc, Read.bind_apply, Read.int2_write]
    simp only
    rw [Read.bind_apply, reads_state encodable]
    simp only [Read.bind_apply, Read.rest, Utf8.decodeLossy_encode]
    rfl
  rw [ofPayload, read]
  rfl

end ServerReport

/-! ## The two forms of the end -/

/-- The end of a stream of rows as a server sends it. -/
inductive Terminator where
  | eof (warnings status : UInt16)
  | ok (affectedRows lastInsertId : UInt64) (status warnings : UInt16) (info : Bytes)
  deriving DecidableEq, Repr

namespace Terminator

def status : Terminator → UInt16
  | eof _ status => status
  | ok _ _ status _ _ => status

def encode : Terminator → Bytes
  | eof warnings status => Write.int1 0xFE ++ (Write.int2 warnings ++ Write.int2 status)
  | ok affectedRows lastInsertId status warnings info =>
    Write.int1 0xFE ++ (Write.intLenenc affectedRows ++ (Write.intLenenc lastInsertId ++
      (Write.int2 status ++ Write.int2 warnings))) ++ info

/-- A server sends the form that was agreed on, and keeps it shorter than any row that
starts with the same byte. -/
def Fits (capabilities : CapabilityFlags) : Terminator → Prop
  | eof _ _ => capabilities.deprecateEof = false
  | ok affectedRows lastInsertId status warnings info =>
    capabilities.deprecateEof = true ∧
      (ok affectedRows lastInsertId status warnings info).encode.length < 0xFFFFFF

instance : (terminator : Terminator) → Decidable (terminator.Fits capabilities)
  | eof _ _ => inferInstanceAs (Decidable (capabilities.deprecateEof = false))
  | ok _ _ _ _ _ => inferInstanceAs (Decidable (capabilities.deprecateEof = true ∧ _ < _))

theorem head_encode (terminator : Terminator) : terminator.encode.head? = some 0xFE := by
  cases terminator <;> rfl

theorem ofPayload_eof (warnings status : UInt16) :
    EofReport.ofPayload (eof warnings status).encode = .ok ⟨warnings, status⟩ := by
  have read : Read.Reads EofReport.read (eof warnings status).encode ⟨warnings, status⟩ := by
    unfold EofReport.read
    refine Read.reads_bind (Read.int1_write 0xFE) ?_
    rw [if_neg (by decide)]
    refine Read.reads_bind (Read.int2_write warnings) ?_
    exact Read.reads_map _ (Read.int2_write status)
  have whole := read []
  rw [List.append_nil] at whole
  rw [EofReport.ofPayload, whole]
  rfl

theorem ofPayload_ok (affectedRows lastInsertId : UInt64) (status warnings : UInt16)
    (info : Bytes) :
    OkReport.ofPayload (ok affectedRows lastInsertId status warnings info).encode =
      .ok { affectedRows, lastInsertId, status := .ofBits status, warnings } := by
  have read : Read.Reads OkReport.read
      (Write.int1 0xFE ++ (Write.intLenenc affectedRows ++ (Write.intLenenc lastInsertId ++
        (Write.int2 status ++ Write.int2 warnings))))
      { affectedRows, lastInsertId, status := .ofBits status, warnings } := by
    unfold OkReport.read
    refine Read.reads_bind (Read.int1_write 0xFE) ?_
    rw [if_neg (by decide)]
    refine Read.reads_bind (Read.intLenenc_write affectedRows) ?_
    refine Read.reads_bind (Read.intLenenc_write lastInsertId) ?_
    refine Read.reads_bind (Read.int2_write status) ?_
    exact Read.reads_map _ (Read.int2_write warnings)
  rw [OkReport.ofPayload, encode, read]
  rfl

theorem terminates {terminator : Terminator} (fits : terminator.Fits capabilities) :
    Terminates capabilities terminator.encode (.ofBits terminator.status) := by
  have marked := terminator.head_encode
  cases terminator with
  | eof warnings status =>
      have plain : capabilities.deprecateEof = false := fits
      refine ⟨marked, ?_, ?_⟩
      · simp [plain, encode, Write.int1, Write.int2]
      · rw [terminatorStatus, plain, ofPayload_eof]
        rfl
  | ok affectedRows lastInsertId status warnings info =>
      obtain ⟨deprecated, short⟩ := fits
      refine ⟨marked, ?_, ?_⟩
      · rw [if_pos deprecated]
        exact short
      · rw [terminatorStatus, deprecated, ofPayload_ok]
        rfl

end Terminator

/-! ## The first packet -/

theorem ofPayload_of_okMarker (marker : payload.head? = some 0x00) :
    ExecuteResponse.ofPayload payload = .ok (.ok payload) := by
  cases payload with
  | nil => cases marker
  | cons first tail =>
      have zero : first = 0x00 := Option.some.inj marker
      simp only [ExecuteResponse.ofPayload, if_pos zero]

theorem ofPayload_of_report {report : ServerReport}
    (reported : ServerReport.ofPayload payload = .ok report) :
    ExecuteResponse.ofPayload payload = .error (.server report) := by
  have marker := isErrorPacket_of_report reported
  rw [isErrorPacket, beq_iff_eq] at marker
  have named : Error.ofPayload payload = .server report := by rw [Error.ofPayload, reported]
  cases payload with
  | nil => cases marker
  | cons first tail =>
      have last : first = 0xFF := Option.some.inj marker
      have nonzero : first ≠ 0x00 := by
        rw [last]
        decide
      simp only [ExecuteResponse.ofPayload, if_neg nonzero, if_pos last, named]

theorem ofPayload_count {count : UInt64} (positive : 0 < count.toNat) :
    ExecuteResponse.ofPayload (Write.intLenenc count) = .ok (.resultSet count) := by
  have back := Read.intLenenc_write count []
  obtain ⟨first, tail, written, _, last, nonzero⟩ := Read.head_intLenenc_write count
  rw [List.append_nil] at back
  rw [written] at back ⊢
  simp only [ExecuteResponse.ofPayload, if_neg (nonzero positive), if_neg last, back, Except.map]

end RowCursor
