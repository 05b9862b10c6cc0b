import Mathlib.Control.Monad.Basic
import RowCursor.Proofs.Value.Temporal

/-!
# Decoding the values of binary rows

The layout of a type and the reader of its values are two tables.  They agree: a type of fixed
width has a reader that takes this width (`exists_reader`), and a type behind a length takes
its bytes as they are, dates and times apart.  Numbers are what their bytes spell, with or
without a sign.
-/

set_option autoImplicit false

namespace RowCursor

open Read (Spans spans_map)

/-! ## Numbers -/

/-- The number that bytes spell in two's complement, low byte first. -/
def twosComplement (bytes : Bytes) : Int :=
  if 2 * ofLittleEndian bytes < 256 ^ bytes.length then ofLittleEndian bytes
  else ofLittleEndian bytes - (256 ^ bytes.length : Nat)

theorem toInt_eq_twosComplement {bits : Nat} {word : BitVec bits} {bytes : Bytes}
    (width : bits = 8 * bytes.length) (same : word.toNat = ofLittleEndian bytes) :
    word.toInt = twosComplement bytes := by
  have range : 2 ^ bits = 256 ^ bytes.length := by
    rw [width, Nat.pow_mul]
  rw [BitVec.toInt_eq_toNat_cond, twosComplement, same, range]

namespace ColumnType

/-- The types whose values are whole numbers. -/
def integers : List ColumnType := [.tiny, .short, .year, .int24, .long, .longLong]

/-- The types whose values are points in time. -/
def moments : List ColumnType := [.date, .dateTime, .timestamp]

/-- How many bytes a value of the type can have, if it is a date or a time. -/
def temporalLengths? : ColumnType → Option (List Nat)
  | .date | .dateTime | .timestamp => some Timestamp.lengths
  | .time => some TimeSpan.lengths
  | _ => none

end ColumnType

namespace Value

variable {α : Type} {column : ColumnDefinition} {kind : ColumnType} {width : Nat} {data : Bytes}

/-- The value is the number that the bytes spell, without a sign or with one. -/
def IsNumber (unsigned : Bool) (bytes : Bytes) : Value → Prop
  | .unsignedInt number => unsigned = true ∧ number.toNat = ofLittleEndian bytes
  | .signedInt number => unsigned = false ∧ number.toInt = twosComplement bytes
  | _ => False

/-- A value that is made of a word is made of the word that the first bytes spell. -/
theorem exists_value_of_word {item : Reader α} {toNat : α → Nat} (make : α → Value)
    (spans : Spans item width)
    (spelled : ∀ {data rest : Bytes} {word : α}, item data = .ok (word, rest) →
      data = littleEndian width (toNat word) ++ rest)
    (toNat_lt : ∀ word, toNat word < 256 ^ width) (enough : width ≤ data.length) :
    ∃ word, ((do return make (← item)) data).map Prod.fst = .ok (make word) ∧
      littleEndian width (toNat word) = data.take width ∧
      toNat word = ofLittleEndian (data.take width) := by
  obtain ⟨word, taken, same, number⟩ := spans.exists_word spelled toNat_lt enough
  refine ⟨word, ?_, same, number⟩
  rw [Read.bind_apply, taken]
  rfl

/-- A word of any width, read as a number. -/
theorem exists_number_of_word {item : Reader α} {bits : Nat} {toBits : α → BitVec bits}
    {asUnsigned : α → UInt64} {asSigned : α → Int64} (unsigned : Bool) (spans : Spans item width)
    (spelled : ∀ {data rest : Bytes} {word : α}, item data = .ok (word, rest) →
      data = littleEndian width (toBits word).toNat ++ rest)
    (bits_eq : bits = 8 * width)
    (toNat_eq : ∀ word, (asUnsigned word).toNat = (toBits word).toNat)
    (toInt_eq : ∀ word, (asSigned word).toInt = (toBits word).toInt)
    (enough : width ≤ data.length) :
    ∃ value, ((do let word ← item; return integer unsigned (asUnsigned word) (asSigned word))
        data).map Prod.fst = .ok value ∧ value.IsNumber unsigned (data.take width) := by
  have small (word : α) : (toBits word).toNat < 256 ^ width := by
    have range : 2 ^ bits = 256 ^ width := by
      rw [bits_eq, Nat.pow_mul]
    rw [← range]
    exact (toBits word).isLt
  obtain ⟨word, read, _, number⟩ := exists_value_of_word
    (fun word => integer unsigned (asUnsigned word) (asSigned word)) spans spelled small enough
  refine ⟨integer unsigned (asUnsigned word) (asSigned word), read, ?_⟩
  cases unsigned with
  | true => exact ⟨rfl, (toNat_eq word).trans number⟩
  | false =>
      refine ⟨rfl, (toInt_eq word).trans (toInt_eq_twosComplement ?_ number)⟩
      rw [List.length_take_of_le enough, bits_eq]

/-- The reader of a type agrees with its layout. -/
theorem exists_reader (known : column.type? = some kind)
    (layout : kind.binaryLength = .fixed width) :
    ∃ item : Reader Value, Spans item width ∧
      ∀ data, ofBinary column data = (item data).map Prod.fst := by
  unfold ofBinary
  rw [known]
  cases kind
  case null =>
    cases layout
    exact ⟨pure null, Read.spans_pure null, fun data => rfl⟩
  case tiny =>
    cases layout
    exact ⟨_, spans_map _ Read.spans_int1, fun data => rfl⟩
  case short | year =>
    cases layout
    exact ⟨_, spans_map _ Read.spans_int2, fun data => rfl⟩
  case int24 | long =>
    cases layout
    exact ⟨_, spans_map _ Read.spans_int4, fun data => rfl⟩
  case longLong =>
    cases layout
    exact ⟨_, spans_map _ Read.spans_int8, fun data => rfl⟩
  case float =>
    cases layout
    exact ⟨_, spans_map _ Read.spans_int4, fun data => rfl⟩
  case double =>
    cases layout
    exact ⟨_, spans_map _ Read.spans_int8, fun data => rfl⟩
  all_goals cases layout

theorem exists_number_of_integer (known : column.type? = some kind)
    (whole : kind ∈ ColumnType.integers) (layout : kind.binaryLength = .fixed width)
    (enough : width ≤ data.length) :
    ∃ value, ofBinary column data = .ok value ∧
      value.IsNumber column.isUnsigned (data.take width) := by
  have word1 {data rest : Bytes} {word : UInt8} (read : Read.int1 data = .ok (word, rest)) :
      data = littleEndian 1 word.toBitVec.toNat ++ rest := by
    rw [Read.int1_eq_ok_iff.mp read]
    simp [Write.int1, littleEndian]
  unfold ofBinary
  rw [known]
  cases kind
  case tiny =>
    cases layout
    exact exists_number_of_word column.isUnsigned Read.spans_int1 word1 rfl (fun _ => rfl)
      (fun word => Int8.toInt_toInt64 word.toInt8) enough
  case short | year =>
    cases layout
    exact exists_number_of_word column.isUnsigned Read.spans_int2 Read.int2_eq_ok_iff.mp rfl
      (fun _ => rfl) (fun word => Int16.toInt_toInt64 word.toInt16) enough
  case int24 | long =>
    cases layout
    exact exists_number_of_word column.isUnsigned Read.spans_int4 Read.int4_eq_ok_iff.mp rfl
      (fun _ => rfl) (fun word => Int32.toInt_toInt64 word.toInt32) enough
  case longLong =>
    cases layout
    exact exists_number_of_word column.isUnsigned Read.spans_int8 Read.int8_eq_ok_iff.mp rfl
      (fun _ => rfl) (fun _ => rfl) enough
  all_goals exact absurd whole (by decide)

/-! ## Floating point numbers -/

theorem exists_bits_of_float (known : column.type? = some .float) (enough : 4 ≤ data.length) :
    ∃ bits, ofBinary column data = .ok (.float bits) ∧ Write.int4 bits = data.take 4 := by
  unfold ofBinary
  rw [known]
  obtain ⟨bits, read, same, _⟩ := exists_value_of_word float Read.spans_int4
    Read.int4_eq_ok_iff.mp UInt32.toNat_lt enough
  exact ⟨bits, read, same⟩

theorem exists_bits_of_double (known : column.type? = some .double) (enough : 8 ≤ data.length) :
    ∃ bits, ofBinary column data = .ok (.double bits) ∧ Write.int8 bits = data.take 8 := by
  unfold ofBinary
  rw [known]
  obtain ⟨bits, read, same, _⟩ := exists_value_of_word double Read.spans_int8
    Read.int8_eq_ok_iff.mp UInt64.toNat_lt enough
  exact ⟨bits, read, same⟩

/-! ## Points in time and spans -/

theorem map_eq_ok_iff {β : Type} {result : Except Error α} {make : α → β} {value : β} :
    result.map make = .ok value ↔ ∃ inner, value = make inner ∧ result = .ok inner := by
  cases result with
  | error error => simp [Except.map]
  | ok inner => simp [Except.map, eq_comm]

/-- A value that is made of another one can be had exactly if the other can. -/
theorem exists_map_iff {β : Type} {result : Except Error α} {make : α → β} :
    (∃ value, result.map make = .ok value) ↔ ∃ inner, result = .ok inner := by
  simp only [map_eq_ok_iff]
  constructor
  · rintro ⟨_, inner, _, done⟩
    exact ⟨inner, done⟩
  · rintro ⟨inner, done⟩
    exact ⟨make inner, inner, rfl, done⟩

theorem ofBinary_of_moment (known : column.type? = some kind) (moment : kind ∈ ColumnType.moments) :
    ofBinary column data = (Timestamp.ofBytes data).map .timestamp := by
  unfold ofBinary
  rw [known]
  cases kind
  case date | dateTime | timestamp => rfl
  all_goals exact absurd moment (by decide)

theorem ofBinary_of_time (known : column.type? = some .time) :
    ofBinary column data = (TimeSpan.ofBytes data).map .time := by
  unfold ofBinary
  rw [known]

theorem exists_temporal_iff (known : column.type? = some kind) {lengths : List Nat}
    (temporal : kind.temporalLengths? = some lengths) :
    (∃ value, ofBinary column data = .ok value) ↔ data.length ∈ lengths := by
  cases kind
  case date | dateTime | timestamp =>
    cases temporal
    rw [ofBinary_of_moment known (by decide), exists_map_iff, Timestamp.exists_ofBytes_iff]
  case time =>
    cases temporal
    rw [ofBinary_of_time known, exists_map_iff, TimeSpan.exists_ofBytes_iff]
  all_goals cases temporal

/-! ## All types -/

theorem ofBinary_of_bytes (known : column.type? = some kind)
    (layout : kind.binaryLength = .lengthEncoded) (formless : kind.temporalLengths? = none) :
    ofBinary column data = .ok (.bytes data) := by
  unfold ofBinary
  rw [known]
  cases kind
  case tiny | short | year | int24 | long | longLong | float | double | null => cases layout
  case date | dateTime | timestamp | time => cases formless
  all_goals simp only [layout]

/-- The values of a column of this type are what their bytes spell, and nothing else. -/
structure DecodesExactly (column : ColumnDefinition) (kind : ColumnType) : Prop where
  /-- A value of fixed width needs as many bytes, and depends on no others. -/
  fixed : ∀ {width}, kind.binaryLength = .fixed width → ∀ data,
    ((∃ value, ofBinary column data = .ok value) ↔ width ≤ data.length) ∧
      ofBinary column (data.take width) = ofBinary column data
  /-- A whole number is the number that the bytes of its width spell. -/
  integer : kind ∈ ColumnType.integers → ∃ width, kind.binaryLength = .fixed width ∧
    ∀ data : Bytes, width ≤ data.length → ∃ value, ofBinary column data = .ok value ∧
      value.IsNumber column.isUnsigned (data.take width)
  /-- A floating point number has the bits that its bytes spell. -/
  float : kind = .float → ∀ data : Bytes, 4 ≤ data.length → ∃ bits,
    ofBinary column data = .ok (.float bits) ∧ Write.int4 bits = data.take 4
  double : kind = .double → ∀ data : Bytes, 8 ≤ data.length → ∃ bits,
    ofBinary column data = .ok (.double bits) ∧ Write.int8 bits = data.take 8
  /-- The length alone decides whether a date or a time can be read. -/
  temporal : ∀ {lengths}, kind.temporalLengths? = some lengths → ∀ data,
    (∃ value, ofBinary column data = .ok value) ↔ data.length ∈ lengths
  /-- What can be read is written as it was found. -/
  moment : kind ∈ ColumnType.moments → ∀ data value, ofBinary column data = .ok value ↔
    ∃ time, value = .timestamp time ∧ data = time.encode
  time : kind = .time → ∀ data value, ofBinary column data = .ok value ↔
    ∃ span, value = .time span ∧ span.SpelledBy data
  /-- Any other value behind a length is its bytes. -/
  bytes : kind.binaryLength = .lengthEncoded → kind.temporalLengths? = none → ∀ data,
    ofBinary column data = .ok (.bytes data)

theorem decodesExactly (known : column.type? = some kind) : DecodesExactly column kind where
  fixed layout data := by
    obtain ⟨item, spans, reads⟩ := exists_reader known layout
    simp only [reads]
    exact ⟨spans.exists_first_iff, spans.first_take data⟩
  integer whole := by
    have layout : ∃ width, kind.binaryLength = .fixed width := by
      cases kind
      case tiny | short | year | int24 | long | longLong => exact ⟨_, rfl⟩
      all_goals exact absurd whole (by decide)
    obtain ⟨width, layout⟩ := layout
    exact ⟨width, layout, fun data enough => exists_number_of_integer known whole layout enough⟩
  float isFloat data enough := exists_bits_of_float (isFloat ▸ known) enough
  double isDouble data enough := exists_bits_of_double (isDouble ▸ known) enough
  temporal lengths data := exists_temporal_iff known lengths
  moment moment data value := by
    rw [ofBinary_of_moment known moment, map_eq_ok_iff]
    simp only [Timestamp.ofBytes_eq_ok_iff]
  time isTime data value := by
    rw [ofBinary_of_time (isTime ▸ known), map_eq_ok_iff]
    simp only [TimeSpan.ofBytes_eq_ok_iff]
  bytes layout formless data := ofBinary_of_bytes known layout formless

/-- Bytes as long as the layout says have a value, unless they are a date or a time of an
unknown length. -/
theorem exists_error_iff (known : column.type? = some kind)
    (stands : kind.binaryLength = .fixed data.length ∨ kind.binaryLength = .lengthEncoded) :
    (∃ error, ofBinary column data = .error error) ↔
      ∃ lengths, kind.temporalLengths? = some lengths ∧ data.length ∉ lengths := by
  have exact := decodesExactly known
  have fails : (∃ error, ofBinary column data = .error error) ↔
      ¬∃ value, ofBinary column data = .ok value := by
    cases ofBinary column data <;> simp
  rw [fails]
  cases temporal : kind.temporalLengths? with
  | some lengths => simp [exact.temporal temporal]
  | none =>
      rcases stands with layout | layout
      · simp [exact.fixed layout]
      · simp [exact.bytes layout temporal]

end Value

end RowCursor
