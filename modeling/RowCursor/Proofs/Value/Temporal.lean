import RowCursor.Proofs.Codec.Width
import RowCursor.Value

/-!
# Dates and times in binary rows

A date or a time is written as its parts, one behind the other, and as many of them as are not
zero.  It is read exactly from what it is written as (`Timestamp.ofBytes_eq_ok_iff`,
`TimeSpan.ofBytes_eq_ok_iff`), and its length alone decides whether it can be read.
-/

set_option autoImplicit false

namespace RowCursor

open Read (Reads Spans bind_eq_ok_iff pure_eq_ok_iff reads_bind reads_map spans_bind spans_map)

variable {data rest : Bytes}

namespace CalendarDate

def encode (date : CalendarDate) : Bytes :=
  Write.int2 date.year ++ (Write.int1 date.month ++ Write.int1 date.day)

theorem length_encode (date : CalendarDate) : date.encode.length = 4 := rfl

theorem spans_read : Spans read 4 := by
  change Spans read (2 + (1 + 1))
  unfold read
  refine spans_bind Read.spans_int2 fun year => ?_
  refine spans_bind Read.spans_int1 fun month => ?_
  exact spans_map _ Read.spans_int1

theorem read_eq_ok_iff {date : CalendarDate} :
    read data = .ok (date, rest) ↔ data = date.encode ++ rest := by
  simp only [read, bind_eq_ok_iff, pure_eq_ok_iff, Read.int1_eq_ok_iff, Read.int2_eq_ok_iff]
  constructor
  · rintro ⟨year, _, rfl, month, _, rfl, day, _, rfl, rfl, rfl⟩
    simp only [encode, List.append_assoc]
  · rintro rfl
    exact ⟨date.year, _, by simp only [encode, List.append_assoc], date.month, _, rfl, date.day, _,
      rfl, rfl, rfl⟩

theorem reads (date : CalendarDate) : Reads read date.encode date :=
  fun _ => read_eq_ok_iff.mpr rfl

end CalendarDate

namespace ClockTime

def encode (clock : ClockTime) : Bytes :=
  Write.int1 clock.hour ++ (Write.int1 clock.minute ++ Write.int1 clock.second)

theorem length_encode (clock : ClockTime) : clock.encode.length = 3 := rfl

theorem spans_read : Spans read 3 := by
  change Spans read (1 + (1 + 1))
  unfold read
  refine spans_bind Read.spans_int1 fun hour => ?_
  refine spans_bind Read.spans_int1 fun minute => ?_
  exact spans_map _ Read.spans_int1

theorem read_eq_ok_iff {clock : ClockTime} :
    read data = .ok (clock, rest) ↔ data = clock.encode ++ rest := by
  simp only [read, bind_eq_ok_iff, pure_eq_ok_iff, Read.int1_eq_ok_iff]
  constructor
  · rintro ⟨hour, _, rfl, minute, _, rfl, second, _, rfl, rfl, rfl⟩
    simp only [encode, List.append_assoc]
  · rintro rfl
    exact ⟨clock.hour, _, by simp only [encode, List.append_assoc], clock.minute, _, rfl,
      clock.second, _, rfl, rfl, rfl⟩

theorem reads (clock : ClockTime) : Reads read clock.encode clock :=
  fun _ => read_eq_ok_iff.mpr rfl

end ClockTime

namespace Timestamp

variable {time : Timestamp}

/-- The parts of a point in time, one behind the other. -/
def encode : Timestamp → Bytes
  | .zero => []
  | .date day => day.encode
  | .seconds day clock => day.encode ++ clock.encode
  | .microseconds day clock microsecond => day.encode ++ (clock.encode ++ Write.int4 microsecond)

/-- How many bytes a point in time can have. -/
def lengths : List Nat := [0, 4, 7, 11]

theorem length_encode_mem (time : Timestamp) : time.encode.length ∈ lengths := by
  cases time with
  | zero => exact List.mem_cons_self
  | date day => simp [encode, lengths, day.length_encode]
  | seconds day clock => simp [encode, lengths, day.length_encode, clock.length_encode]
  | microseconds day clock microsecond =>
      simp [encode, lengths, day.length_encode, clock.length_encode, Write.int4]

theorem spans_date : Spans (do return date (← CalendarDate.read)) 4 :=
  spans_map _ CalendarDate.spans_read

theorem spans_seconds :
    Spans (do return seconds (← CalendarDate.read) (← ClockTime.read)) 7 :=
  spans_bind CalendarDate.spans_read fun _ => spans_map _ ClockTime.spans_read

theorem spans_microseconds :
    Spans (do return microseconds (← CalendarDate.read) (← ClockTime.read) (← Read.int4)) 11 :=
  spans_bind CalendarDate.spans_read fun _ =>
    spans_bind ClockTime.spans_read fun _ => spans_map _ Read.spans_int4

theorem eq_encode_of_ofBytes (read : ofBytes data = .ok time) : data = time.encode := by
  unfold ofBytes at read
  split at read
  · rename_i length
    cases read
    exact List.eq_nil_of_length_eq_zero length
  · rename_i length
    have taken := (spans_date.first_eq_ok_iff length).mp read
    simp only [bind_eq_ok_iff, pure_eq_ok_iff, CalendarDate.read_eq_ok_iff] at taken
    obtain ⟨day, _, rfl, rfl, rfl⟩ := taken
    exact List.append_nil _
  · rename_i length
    have taken := (spans_seconds.first_eq_ok_iff length).mp read
    simp only [bind_eq_ok_iff, pure_eq_ok_iff, CalendarDate.read_eq_ok_iff,
      ClockTime.read_eq_ok_iff] at taken
    obtain ⟨day, _, rfl, clock, _, rfl, rfl, rfl⟩ := taken
    rw [List.append_nil, encode]
  · rename_i length
    have taken := (spans_microseconds.first_eq_ok_iff length).mp read
    simp only [bind_eq_ok_iff, pure_eq_ok_iff, CalendarDate.read_eq_ok_iff,
      ClockTime.read_eq_ok_iff, Read.int4_eq_ok_iff] at taken
    obtain ⟨day, _, rfl, clock, _, rfl, microsecond, _, rfl, rfl, rfl⟩ := taken
    rw [List.append_nil, encode]
  · cases read

theorem ofBytes_encode (time : Timestamp) : ofBytes time.encode = .ok time := by
  cases time with
  | zero => rfl
  | date day => exact Read.first_of_reads (reads_map date day.reads)
  | seconds day clock =>
      have reads : Reads (do return seconds (← CalendarDate.read) (← ClockTime.read)) _ _ :=
        reads_bind day.reads (reads_map _ clock.reads)
      exact Read.first_of_reads reads
  | microseconds day clock microsecond =>
      have reads : Reads
          (do return microseconds (← CalendarDate.read) (← ClockTime.read) (← Read.int4)) _ _ :=
        reads_bind day.reads (reads_bind clock.reads (reads_map _ (Read.int4_write microsecond)))
      exact Read.first_of_reads reads

/-- A point in time is read exactly from what it is written as. -/
theorem ofBytes_eq_ok_iff : ofBytes data = .ok time ↔ data = time.encode := by
  constructor
  · exact eq_encode_of_ofBytes
  · rintro rfl
    exact ofBytes_encode time

theorem exists_ofBytes_iff : (∃ time, ofBytes data = .ok time) ↔ data.length ∈ lengths := by
  constructor
  · rintro ⟨time, read⟩
    rw [eq_encode_of_ofBytes read]
    exact time.length_encode_mem
  · intro admitted
    simp only [lengths, List.mem_cons, List.not_mem_nil, or_false] at admitted
    unfold ofBytes
    rcases admitted with length | length | length | length
    · simp only [length]
      exact ⟨zero, rfl⟩
    · simp only [length]
      exact spans_date.exists_first_iff.mpr (Nat.le_of_eq length.symm)
    · simp only [length]
      exact spans_seconds.exists_first_iff.mpr (Nat.le_of_eq length.symm)
    · simp only [length]
      exact spans_microseconds.exists_first_iff.mpr (Nat.le_of_eq length.symm)

end Timestamp

namespace TimeSpan

variable {span : TimeSpan}

def negative : TimeSpan → Bool
  | .zero => false
  | .seconds negative _ _ => negative
  | .microseconds negative _ _ _ => negative

/-- The parts of a span of time, one behind the other, with this byte for its sign. -/
def encode (sign : UInt8) : TimeSpan → Bytes
  | .zero => []
  | .seconds _ days clock => Write.int1 sign ++ (Write.int4 days ++ clock.encode)
  | .microseconds _ days clock microsecond =>
    Write.int1 sign ++ (Write.int4 days ++ (clock.encode ++ Write.int4 microsecond))

/-- The bytes are the parts of the span; any sign but zero is negative. -/
def SpelledBy (span : TimeSpan) (data : Bytes) : Prop :=
  ∃ sign, data = span.encode sign ∧ span.negative = (sign != 0)

/-- How many bytes a span of time can have. -/
def lengths : List Nat := [0, 8, 12]

theorem SpelledBy.length_mem (spelled : span.SpelledBy data) : data.length ∈ lengths := by
  obtain ⟨sign, rfl, _⟩ := spelled
  cases span with
  | zero => exact List.mem_cons_self
  | seconds negative days clock =>
      simp [encode, lengths, clock.length_encode, Write.int1, Write.int4]
  | microseconds negative days clock microsecond =>
      simp [encode, lengths, clock.length_encode, Write.int1, Write.int4]

theorem readNegative_eq_ok_iff {negative : Bool} :
    readNegative data = .ok (negative, rest) ↔
      ∃ sign, data = Write.int1 sign ++ rest ∧ negative = (sign != 0) := by
  simp only [readNegative, bind_eq_ok_iff, pure_eq_ok_iff, Read.int1_eq_ok_iff]
  constructor
  · rintro ⟨sign, _, rfl, rfl, rfl⟩
    exact ⟨sign, rfl, rfl⟩
  · rintro ⟨sign, rfl, rfl⟩
    exact ⟨sign, rest, rfl, rfl, rfl⟩

theorem reads_negative (sign : UInt8) : Reads readNegative (Write.int1 sign) (sign != 0) :=
  fun _ => readNegative_eq_ok_iff.mpr ⟨sign, rfl, rfl⟩

theorem spans_readNegative : Spans readNegative 1 := spans_map _ Read.spans_int1

theorem spans_seconds :
    Spans (do return seconds (← readNegative) (← Read.int4) (← ClockTime.read)) 8 :=
  spans_bind spans_readNegative fun _ =>
    spans_bind Read.spans_int4 fun _ => spans_map _ ClockTime.spans_read

theorem spans_microseconds :
    Spans (do
      return microseconds (← readNegative) (← Read.int4) (← ClockTime.read) (← Read.int4)) 12 :=
  spans_bind spans_readNegative fun _ =>
    spans_bind Read.spans_int4 fun _ =>
      spans_bind ClockTime.spans_read fun _ => spans_map _ Read.spans_int4

theorem spelledBy_of_ofBytes (read : ofBytes data = .ok span) : span.SpelledBy data := by
  unfold ofBytes at read
  split at read
  · rename_i length
    cases read
    exact ⟨0, List.eq_nil_of_length_eq_zero length, rfl⟩
  · rename_i length
    have taken := (spans_seconds.first_eq_ok_iff length).mp read
    simp only [bind_eq_ok_iff, pure_eq_ok_iff, readNegative_eq_ok_iff, Read.int4_eq_ok_iff,
      ClockTime.read_eq_ok_iff] at taken
    obtain ⟨negative, _, ⟨sign, rfl, signed⟩, days, _, rfl, clock, _, rfl, rfl, rfl⟩ := taken
    exact ⟨sign, by rw [List.append_nil, encode], signed⟩
  · rename_i length
    have taken := (spans_microseconds.first_eq_ok_iff length).mp read
    simp only [bind_eq_ok_iff, pure_eq_ok_iff, readNegative_eq_ok_iff, Read.int4_eq_ok_iff,
      ClockTime.read_eq_ok_iff] at taken
    obtain ⟨negative, _, ⟨sign, rfl, signed⟩, days, _, rfl, clock, _, rfl, microsecond, _, rfl, rfl,
      rfl⟩ := taken
    exact ⟨sign, by rw [List.append_nil, encode], signed⟩
  · cases read

theorem ofBytes_of_spelledBy (spelled : span.SpelledBy data) : ofBytes data = .ok span := by
  obtain ⟨sign, rfl, signed⟩ := spelled
  cases span with
  | zero => rfl
  | seconds negative days clock =>
      cases signed
      have reads : Reads
          (do return seconds (← readNegative) (← Read.int4) (← ClockTime.read)) _ _ :=
        reads_bind (reads_negative sign)
          (reads_bind (Read.int4_write days) (reads_map _ clock.reads))
      exact Read.first_of_reads reads
  | microseconds negative days clock microsecond =>
      cases signed
      have reads : Reads (do
          return microseconds (← readNegative) (← Read.int4) (← ClockTime.read) (← Read.int4))
          _ _ :=
        reads_bind (reads_negative sign) (reads_bind (Read.int4_write days)
          (reads_bind clock.reads (reads_map _ (Read.int4_write microsecond))))
      exact Read.first_of_reads reads

/-- A span of time is read exactly from its parts. -/
theorem ofBytes_eq_ok_iff : ofBytes data = .ok span ↔ span.SpelledBy data :=
  ⟨spelledBy_of_ofBytes, ofBytes_of_spelledBy⟩

theorem exists_ofBytes_iff : (∃ span, ofBytes data = .ok span) ↔ data.length ∈ lengths := by
  constructor
  · rintro ⟨span, read⟩
    exact (spelledBy_of_ofBytes read).length_mem
  · intro admitted
    simp only [lengths, List.mem_cons, List.not_mem_nil, or_false] at admitted
    unfold ofBytes
    rcases admitted with length | length | length
    · simp only [length]
      exact ⟨zero, rfl⟩
    · simp only [length]
      exact spans_seconds.exists_first_iff.mpr (Nat.le_of_eq length.symm)
    · simp only [length]
      exact spans_microseconds.exists_first_iff.mpr (Nat.le_of_eq length.symm)

end TimeSpan

end RowCursor
