import RowCursor.Proofs.Text.WellFormed
import RowCursor.Proofs.Value
import RowCursor.ValueFactory

/-!
# Texts and values of one column

The two factories look at different tables: `ValueFactory.texts` at the layout of a column,
`ValueFactory.values` at its type.  Wherever a binary column is admitted as text, this text
is the column's bytes (`texts_eq_some_iff`).  It is also the column's value, but for dates and
times: they stand behind a length like text, and have values of their own.
-/

set_option autoImplicit false

namespace RowCursor.ValueFactory

variable {column : ColumnDefinition} {kind : ColumnType} {data : Bytes} {text : String}

theorem texts_eq_some_iff :
    texts.ofBytes column .binary data = .ok (some text) ↔
      column.binaryLength = .lengthEncoded ∧ data = Utf8.encode text := by
  simp only [texts, true_and]
  by_cases layout : column.binaryLength = .lengthEncoded
  · rw [if_neg (not_not_intro layout), ← Utf8.decode?_eq_some_iff]
    cases Utf8.decode? data <;> simp [layout]
  · rw [if_pos layout]
    simp [layout]

theorem exists_kind_of_lengthEncoded (layout : column.binaryLength = .lengthEncoded) :
    ∃ kind, column.type? = some kind ∧ kind.binaryLength = .lengthEncoded := by
  cases typed : column.type? with
  | none =>
      rw [ColumnDefinition.binaryLength, typed] at layout
      cases layout
  | some kind =>
      rw [ColumnDefinition.binaryLength, typed] at layout
      exact ⟨kind, rfl, layout⟩

/-- A value behind a length is its bytes exactly if it is no date and no time. -/
theorem values_eq_bytes_iff (known : column.type? = some kind)
    (layout : kind.binaryLength = .lengthEncoded) :
    values.ofBytes column .binary data = .ok (.bytes data) ↔ kind.temporalLengths? = none := by
  have exact := Value.decodesExactly known
  change Value.ofBinary column data = .ok (.bytes data) ↔ _
  constructor
  · intro read
    cases kind
    case date | dateTime | timestamp =>
      obtain ⟨time, same, _⟩ := (exact.moment (by decide) data _).mp read
      cases same
    case time =>
      obtain ⟨span, same, _⟩ := (exact.time rfl data _).mp read
      cases same
    all_goals rfl
  · intro formless
    exact exact.bytes layout formless data

/-- A text that is read from a binary column is the column's bytes as UTF-8.  It is also the
column's value, exactly if the column is neither a date nor a time. -/
theorem text_is_value_unless_temporal (column : ColumnDefinition) (data : Bytes) (text : String)
    (read : texts.ofBytes column .binary data = .ok (some text)) :
    Utf8.encode text = data ∧ ∃ kind, column.type? = some kind ∧
      kind.binaryLength = .lengthEncoded ∧
      (values.ofBytes column .binary data = .ok (.bytes (Utf8.encode text)) ↔
        kind.temporalLengths? = none) := by
  obtain ⟨layout, same⟩ := texts_eq_some_iff.mp read
  obtain ⟨kind, known, behind⟩ := exists_kind_of_lengthEncoded layout
  refine ⟨same.symm, kind, known, behind, ?_⟩
  rw [← same]
  exact values_eq_bytes_iff known behind

theorem accented_name_is_its_bytes :
    let column : ColumnDefinition := .ofType .varString
    texts.ofBytes column .binary [0xC3, 0xA9, 0x74, 0xC3, 0xA9] = .ok (some "été") ∧
      values.ofBytes column .binary [0xC3, 0xA9, 0x74, 0xC3, 0xA9] =
        .ok (.bytes (Utf8.encode "été")) := by
  intro column
  have read : texts.ofBytes column .binary [0xC3, 0xA9, 0x74, 0xC3, 0xA9] = .ok (some "été") := by
    decide +kernel
  obtain ⟨_, kind, known, _, same⟩ := text_is_value_unless_temporal column _ _ read
  cases known
  exact ⟨read, same.mpr rfl⟩

/-- The packed time 10:20:30 is handed out as a text of control characters. -/
theorem packed_time_is_handed_out_as_text :
    let column : ColumnDefinition := .ofType .time
    let data : Bytes := [0x00, 0x00, 0x00, 0x00, 0x00, 0x0A, 0x14, 0x1E]
    texts.ofBytes column .binary data = .ok (some "\x00\x00\x00\x00\x00\n\x14\x1E") ∧
      values.ofBytes column .binary data = .ok (.time (.seconds false 0 ⟨10, 20, 30⟩)) ∧
      ∀ bytes, values.ofBytes column .binary data ≠ .ok (.bytes bytes) := by
  intro column data
  have value : values.ofBytes column .binary data =
      .ok (.time (.seconds false 0 ⟨10, 20, 30⟩)) := by decide +kernel
  refine ⟨by decide +kernel, value, fun bytes same => ?_⟩
  rw [value] at same
  cases same

end RowCursor.ValueFactory
