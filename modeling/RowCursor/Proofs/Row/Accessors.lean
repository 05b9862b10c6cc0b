import Mathlib.Control.Monad.Basic
import RowCursor.Proofs.Row.Reads

/-!
# Accessors of one column agree

The value of a column, its length and whether it is NULL are read apart from each other, and
each read decides for itself whether the column is NULL.  Once the value was read, the length
is that of its bytes.  The NULL test says whether there was a value, but for one case: in a
binary row it is the bitmap's bit by design, while a column may be without a value though the
bitmap does not mark it (`NullUnmarked`).

All this holds for any memory of the row, right or wrong, because the three reads search
alike: a column that was found once is found there again (`find_again`).
-/

set_option autoImplicit false

namespace RowCursor.PacketRow

variable {row : PacketRow} {index : Nat} {value : Option Bytes}
  {located : Except Error PacketReader}

/-! ## Finding a column again -/

theorem find_of_seek {offset : Nat} (sought : row.seek index = .ok offset) :
    (find index).answer row = PacketReader.at? row.packet offset ∧
      (find index).after row = { row with found := some (index, offset) } := by
  rw [find, Step.answer_get_bind, Step.after_get_bind, Step.answer_bind, Step.after_bind,
    Step.answer_lift, Step.after_lift, sought]
  exact ⟨Step.answer_lift _ _, Step.after_lift _ _⟩

theorem find_of_lost {error : Error} (lost : row.seek index = .error error) :
    (find index).after row = row := by
  rw [find, Step.after_get_bind, Step.after_bind, Step.answer_lift, Step.after_lift, lost]

theorem le_of_seek {offset : Nat} (sought : row.seek index = .ok offset) (behind : index ≠ 0) :
    offset ≤ row.packet.length := by
  rw [seek, if_neg behind] at sought
  cases placed : PacketReader.at? row.packet (row.nearest index).2 with
  | error error => simp [placed, bind, Except.bind] at sought
  | ok start =>
      cases walked : row.walk (index - (row.nearest index).1) (row.nearest index).1 start with
      | error error => simp [placed, walked, bind, Except.bind] at sought
      | ok reader =>
          simp only [placed, walked, bind, Except.bind, pure, Except.pure, Except.ok.injEq]
            at sought
          rw [PacketReader.at?] at placed
          split at placed
          · cases placed
            rw [← sought]
            exact (standsIn_of_walk (PacketReader.standsIn_drop _ _) walked).position_le
          · cases placed

/-- A search that moved the memory finds the same from there. -/
theorem find_again (row : PacketRow) (index : Nat) :
    ∃ found, (find index).after row = { row with found } ∧
      (find index).answer { row with found } = (find index).answer row := by
  cases sought : row.seek index with
  | error error => exact ⟨row.found, find_of_lost sought, rfl⟩
  | ok offset =>
      obtain ⟨answered, left⟩ := find_of_seek sought
      refine ⟨some (index, offset), left, ?_⟩
      have within : index ≠ 0 → offset ≤ row.packet.length := le_of_seek sought
      have again : seek { row with found := some (index, offset) } index = .ok offset := by
        by_cases first : index = 0
        · rw [seek, if_pos first] at sought ⊢
          exact sought
        · exact seek_remembered rfl (within first) fun zero => absurd zero first
      rw [(find_of_seek again).1, answered]

/-- With this memory the column is found as with the row's own. -/
def FindsAlike (row : PacketRow) (index : Nat) (found : Option (Nat × Nat)) : Prop :=
  (find index).answer { row with found } = (find index).answer row

theorem yields_find_again (row : PacketRow) (index : Nat) :
    row.YieldsWhile (row.FindsAlike index) (find index) ((find index).answer row) := by
  intro found alike
  obtain ⟨later, left, again⟩ := find_again { row with found } index
  exact ⟨alike, later, left, again.trans alike⟩

theorem yields_find_of_sound (sound : CacheSound row) (index : Nat) :
    row.Yields (find index) ((find index).answer row) := by
  have located : (find index).answer row = row.locate index :=
    (row.yields_find index row.found sound).1
  rw [located]
  exact row.yields_find index

theorem yields_of_column {α : Type} {keeps : Option (Nat × Nat) → Prop}
    (finds : row.YieldsWhile keeps (find index) located) (read : RowRead α)
    (own : read.column? = some index) : ∃ result, row.YieldsWhile keeps read.step result := by
  cases read with
  | columnValue index =>
      cases own
      exact ⟨_, yields_columnValue finds⟩
  | isNull index =>
      cases own
      exact ⟨_, yields_isNull finds⟩
  | length index =>
      cases own
      exact ⟨_, yields_length finds⟩
  | getValue factory index =>
      cases own
      exact ⟨_, yields_getValue factory (yields_columnValue finds)⟩
  | toOwned => cases own

/-- The row remembers rightly, or only this column was read. -/
def Undisturbed (row : PacketRow) (index : Nat) (history : List (Sigma RowRead)) : Prop :=
  CacheSound row ∨ ∀ read ∈ history, read.2.column? = some index

theorem exists_found_of_undisturbed {history : List (Sigma RowRead)}
    (undisturbed : row.Undisturbed index history) :
    ∃ keeps found, row.afterReads history = { row with found } ∧ keeps found ∧
      row.YieldsWhile keeps (find index) ((find index).answer row) := by
  rcases undisturbed with sound | own
  · obtain ⟨found, reads, kept⟩ := afterReads_eq sound history
    exact ⟨_, found, reads, kept, yields_find_of_sound sound index⟩
  · have finds := row.yields_find_again index
    obtain ⟨found, reads, kept⟩ := afterReads_with_found
      (fun read member => yields_of_column finds read.2 (own read member)) row.found rfl
    exact ⟨_, found, reads, kept, finds⟩

/-! ## What the accessors answer -/

theorem exists_read {β γ : Type} {item : PacketReader → Except Error γ} {part : γ → β} {answer : β}
    (answered : (located >>= fun reader => (item reader).map part) = .ok answer) :
    ∃ reader read, located = .ok reader ∧ item reader = .ok read ∧ part read = answer := by
  cases located with
  | error error => cases answered
  | ok reader =>
      cases done : item reader with
      | error error => simp [done, bind, Except.bind, Except.map] at answered
      | ok read =>
          simp only [done, bind, Except.bind, Except.map, Except.ok.injEq] at answered
          exact ⟨reader, read, rfl, done, answered⟩

theorem length_of_readFixed {reader : PacketReader} {width : Nat} {read : Bytes × PacketReader}
    (done : reader.readFixed width = .ok read) : read.1.length = width := by
  rw [PacketReader.readFixed, PacketReader.read, Read.fixed_eq] at done
  by_cases enough : width ≤ reader.remaining.length
  · rw [if_pos enough] at done
    cases done
    rw [List.length_take, Nat.min_eq_left enough]
  · rw [if_neg enough] at done
    cases done

theorem of_readLenencBytes {reader behind : PacketReader}
    (read : reader.readLenencBytes = .ok (value, behind)) :
    announcedLength reader = .ok ((value.map List.length).getD 0) ∧
      ∃ first rest, reader.remaining = first :: rest ∧ (first == nullMarker) = value.isNone := by
  obtain ⟨packet, remaining⟩ := reader
  rw [PacketReader.readLenencBytes, PacketReader.read, Read.nullableStringLenenc,
    Read.bind_apply] at read
  rw [announcedLength, PacketReader.readLenenc, PacketReader.read]
  cases remaining with
  | nil => cases read
  | cons first rest =>
      by_cases marker : first = nullMarker
      · subst first
        simp only [Read.lenencLength_of_marker] at read ⊢
        cases read
        exact ⟨rfl, _, _, rfl, rfl⟩
      · simp only [Read.lenencLength_of_ne rest marker] at read ⊢
        cases prefixed : Read.intLenenc (first :: rest) with
        | error error => simp [prefixed, Except.map] at read
        | ok pair =>
            obtain ⟨size, payload⟩ := pair
            simp only [prefixed, Except.map, Read.bind_apply, Read.fixed_eq] at read ⊢
            by_cases enough : size.toNat ≤ payload.length
            · rw [if_pos enough] at read
              cases read
              refine ⟨?_, first, rest, rfl, beq_eq_false_iff_ne.mpr marker⟩
              simp only [Option.map_some, Option.getD_some, List.length_take,
                Nat.min_eq_left enough]
            · rw [if_neg enough] at read
              cases read

/-- The bitmap of a binary row does not mark the column, but it has no value: it is of the
NULL type, or where it was found the NULL marker stands in place of a length. -/
def NullUnmarked (row : PacketRow) (index : Nat) (located : Except Error PacketReader) : Prop :=
  row.encoding = .binary ∧ row.nullFlag index = false ∧
    ∃ column, row.column index = .ok column ∧
      (column.typeId = ColumnType.null.id ∨
        column.binaryLength = .lengthEncoded ∧
          ∃ reader, located = .ok reader ∧ reader.remaining.head? = some nullMarker)

theorem binaryLength_of_nullType {column : ColumnDefinition}
    (nullType : column.typeId = ColumnType.null.id) : column.binaryLength = .fixed 0 := by
  rw [ColumnDefinition.binaryLength, ColumnDefinition.type?, nullType, ColumnType.ofId?_id]
  rfl

theorem nullUnmarked_iff {column : ColumnDefinition} (binary : row.encoding = .binary)
    (known : row.column index = .ok column) :
    row.NullUnmarked index located ↔ row.nullFlag index = false ∧
      (column.typeId = ColumnType.null.id ∨ column.binaryLength = .lengthEncoded ∧
        ∃ reader, located = .ok reader ∧ reader.remaining.head? = some nullMarker) := by
  constructor
  · rintro ⟨_, unmarked, other, same, without⟩
    rw [known] at same
    cases same
    exact ⟨unmarked, without⟩
  · rintro ⟨unmarked, without⟩
    exact ⟨binary, unmarked, column, known, without⟩

theorem text_accessors (text : row.encoding = .text) (allowed : row.checkIndex index = .ok ())
    (answered : row.valueFrom index located = .ok value) :
    row.lengthFrom index located = .ok ((value.map List.length).getD 0) ∧
      row.isNullFrom index located = .ok value.isNone := by
  rw [valueFrom_of_text text allowed] at answered
  obtain ⟨reader, ⟨data, behind⟩, rfl, read, rfl⟩ := exists_read answered
  obtain ⟨announced, first, rest, remaining, null⟩ := of_readLenencBytes read
  constructor
  · rw [lengthFrom, allowed, text]
    exact announced
  · rw [isNullFrom, allowed, text, ← null]
    simp only [bind, Except.bind, remaining]
    rfl

/-- The value is missing in a binary row where its bit is set, and where it is NULL without a
mark. -/
theorem binary_accessors {column : ColumnDefinition} (binary : row.encoding = .binary)
    (known : row.column index = .ok column) (answered : row.valueFrom index located = .ok value) :
    row.lengthFrom index located = .ok ((value.map List.length).getD 0) ∧
      (value = none ↔ row.nullFlag index = true ∨ row.NullUnmarked index located) := by
  rw [valueFrom_of_binary binary known] at answered
  rw [lengthFrom_of_binary binary known, nullUnmarked_iff binary known]
  cases marked : row.nullFlag index with
  | true =>
      rw [if_pos (Or.inl marked)] at answered
      cases answered
      exact ⟨rfl, by simp⟩
  | false =>
      by_cases nullType : column.typeId = ColumnType.null.id
      · rw [if_pos (Or.inr nullType)] at answered
        cases answered
        rw [binaryLength_of_nullType nullType]
        exact ⟨rfl, by simp [nullType]⟩
      · rw [if_neg (by simp [marked, nullType])] at answered
        cases layout : column.binaryLength with
        | fixed width =>
            rw [layout] at answered
            obtain ⟨reader, read, _, done, rfl⟩ := exists_read answered
            simp [nullType, length_of_readFixed done]
        | lengthEncoded =>
            rw [layout] at answered
            obtain ⟨reader, ⟨data, behind⟩, rfl, read, rfl⟩ := exists_read answered
            obtain ⟨announced, first, rest, remaining, null⟩ := of_readLenencBytes read
            refine ⟨announced, ?_⟩
            have begins : first = nullMarker ↔ data = none := by
              rw [← beq_iff_eq, null, Option.isNone_iff_eq_none]
            simp [nullType, remaining, begins]
        | unsupported =>
            rw [layout] at answered
            cases answered

theorem checkIndex_of_answered (answered : row.valueFrom index located = .ok value) :
    row.checkIndex index = .ok () := by
  cases checked : row.checkIndex index with
  | ok nothing => rfl
  | error error => simp [valueFrom, checked, bind, Except.bind] at answered

theorem exists_column_of_checkIndex (binary : row.encoding = .binary)
    (allowed : row.checkIndex index = .ok ()) : ∃ column, row.column index = .ok column := by
  rw [checkIndex, binary] at allowed
  cases known : row.column index with
  | error error => simp [known, Except.map] at allowed
  | ok column => exact ⟨column, rfl⟩

/-- Once a column's value was read, its length is that of the value's bytes, and it is NULL
exactly if there was no value, unless it is NULL without a mark: then it has no value, but does
not count as NULL.  The same value, length and test are answered again after further reads,
with whatever memory the row had, as long as it only reads this column or its memory is
sound. -/
theorem accessors_agree (answered : (columnValue index).answer row = .ok value)
    (history : List (Sigma RowRead)) (undisturbed : row.Undisturbed index history) :
    (columnValue index).answer (row.afterReads history) = .ok value ∧
      (length index).answer (row.afterReads history) =
        .ok ((value.map List.length).getD 0) ∧
      (¬row.NullUnmarked index ((find index).answer row) →
        (isNull index).answer (row.afterReads history) = .ok value.isNone) ∧
      (row.NullUnmarked index ((find index).answer row) →
        value = none ∧ (isNull index).answer (row.afterReads history) = .ok false) := by
  have first : row.valueFrom index ((find index).answer row) = .ok value := by
    rw [← answered]
    exact (yields_columnValue (row.yields_find_again index) row.found rfl).1.symm
  obtain ⟨keeps, found, reads, kept, finds⟩ := exists_found_of_undisturbed undisturbed
  rw [reads, (yields_columnValue finds found kept).1, (yields_length finds found kept).1,
    (yields_isNull finds found kept).1]
  have allowed := checkIndex_of_answered first
  refine ⟨first, ?_⟩
  cases encoding : row.encoding with
  | text =>
      obtain ⟨size, test⟩ := text_accessors encoding allowed first
      refine ⟨size, fun _ => test, ?_⟩
      rintro ⟨binary, _⟩
      rw [encoding] at binary
      cases binary
  | binary =>
      obtain ⟨column, known⟩ := exists_column_of_checkIndex encoding allowed
      obtain ⟨size, missing⟩ := binary_accessors encoding known first
      rw [isNullFrom_of_binary encoding known]
      refine ⟨size, ?_, ?_⟩
      · intro marks
        rw [or_iff_left marks, ← Option.isNone_iff_eq_none] at missing
        rw [Bool.eq_iff_iff.mpr missing]
      · intro unmarked
        have clear := unmarked.2.1
        exact ⟨missing.mpr (Or.inr unmarked), by rw [clear]⟩

/-- The second column is remembered at a wrong place.  It agrees with itself there. -/
theorem stale_column_agrees :
    let row : PacketRow := { binaryRow [0x00, 0x00, 0x01, 0x02, 0x03, 0x04, 0x01, 0x61]
      #[.ofType .tiny, .ofType .string] with found := some (1, 6) }
    let history : List (Sigma RowRead) := [⟨_, .length 1⟩, ⟨_, .columnValue 1⟩]
    row.locate 1 = .ok ⟨row.packet, row.packet.drop 3⟩ ∧
      (columnValue 1).answer row = .ok (some [0x61]) ∧ row.Undisturbed 1 history ∧
      (length 1).answer (row.afterReads history) = .ok 1 ∧
      (isNull 1).answer (row.afterReads history) = .ok false := by
  intro row history
  have answered : (columnValue 1).answer row = .ok (some [0x61]) := by decide +kernel
  have undisturbed : row.Undisturbed 1 history := Or.inr (by decide)
  have found : (find 1).answer row = .ok ⟨row.packet, [0x01, 0x61]⟩ := by decide +kernel
  have known : row.column 1 = .ok (.ofType .string) := rfl
  have marks : ¬row.NullUnmarked 1 ((find 1).answer row) := by
    rw [nullUnmarked_iff rfl known, found]
    rintro ⟨_, nullType | ⟨_, reader, same, head⟩⟩
    · exact absurd nullType (by decide)
    · cases same
      exact absurd head (by decide)
  obtain ⟨_, size, test, _⟩ := accessors_agree answered history undisturbed
  exact ⟨by decide +kernel, answered, undisturbed, size, test marks⟩

/-- In one binary row a column of the NULL type and the NULL marker in place of a text: both are
without a value, and neither counts as NULL. -/
theorem unmarked_columns_are_not_null :
    let columns : Columns := #[.ofType .null, .ofType .varString]
    ∃ row, ofPacketWith? [0x00, 0x00, 0xFB] .binary columns = .ok row ∧
      (columnValue 0).answer row = .ok none ∧ (isNull 0).answer row = .ok false ∧
      (columnValue 1).answer row = .ok none ∧ (isNull 1).answer row = .ok false := by
  intro columns
  exact ⟨binaryRow [0x00, 0x00, 0xFB] columns, BeginsRow.ofPacketWith?_eq (by decide),
    by decide +kernel, by decide +kernel, by decide +kernel, by decide +kernel⟩

end RowCursor.PacketRow
