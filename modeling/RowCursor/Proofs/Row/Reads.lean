import RowCursor.Proofs.Row.Metadata

/-!
# Reads of a row

Each read of a packet row has a plain counterpart that searches without a memory
(`valueAt`, `isNullAt`, `lengthAt`, `decodeAt`, `copy`).  A read of a row answers what
its counterpart says, after any history of reads.
-/

set_option autoImplicit false

namespace RowCursor.PacketRow

variable {α : Type} {row : PacketRow}

/-! ## Reads without a memory -/

section

variable (row : PacketRow) (index : Nat)

/-! What the accessors answer when the search for the column ends like this. -/

def valueFrom (located : Except Error PacketReader) : Except Error (Option Bytes) := do
  row.checkIndex index
  match row.encoding with
  | .text => return (← (← located).readLenencBytes).1
  | .binary =>
    if row.nullFlag index then return none
    let column ← row.column index
    if column.typeId = ColumnType.null.id then return none
    match column.binaryLength with
    | .fixed width => return some (← (← located).readFixed width).1
    | .lengthEncoded => return (← (← located).readLenencBytes).1
    | .unsupported => throw (row.unsupported index)

def isNullFrom (located : Except Error PacketReader) : Except Error Bool := do
  row.checkIndex index
  match row.encoding with
  | .text =>
    match (← located).remaining with
    | first :: _ => return first == nullMarker
    | [] => throw .unexpectedEof
  | .binary => return row.nullFlag index

def lengthFrom (located : Except Error PacketReader) : Except Error Nat := do
  row.checkIndex index
  match row.encoding with
  | .text => announcedLength (← located)
  | .binary =>
    if row.nullFlag index then return 0
    match (← row.column index).binaryLength with
    | .fixed width => return width
    | .lengthEncoded => announcedLength (← located)
    | .unsupported => throw (row.unsupported index)

/-! And when it is made without a memory. -/

def valueAt : Except Error (Option Bytes) := row.valueFrom index (row.locate index)

def isNullAt : Except Error Bool := row.isNullFrom index (row.locate index)

def lengthAt : Except Error Nat := row.lengthFrom index (row.locate index)

end

def decodeAt (row : PacketRow) (factory : ValueFactory α) (index : Nat) : Except Error α := do
  let definition ← row.column index
  match ← row.valueAt index with
  | none => factory.ofNull definition
  | some data => factory.ofBytes definition row.encoding data

def copy (row : PacketRow) : Except Error OwnedRow := do
  let columns ← row.requireColumns
  let values ← (List.range columns.size).mapM row.valueAt
  OwnedRow.ofValues? columns row.encoding values.toArray

section

variable {index : Nat} {located : Except Error PacketReader}

theorem checkIndex_of_column {column : ColumnDefinition} (known : row.column index = .ok column) :
    row.checkIndex index = .ok () := by
  unfold checkIndex
  split
  · rfl
  · rw [known]
    rfl

theorem valueFrom_of_outside {columns : Columns} (attached : row.columns = some columns)
    (outside : columns.size ≤ index) :
    row.valueFrom index located = .error (.badUsage (.columnOutOfRange index columns.size)) := by
  rw [valueFrom, checkIndex_of_attached attached, column_of_outside attached outside]
  rfl

/-- A column of a text row is read where it is found. -/
theorem valueFrom_of_text (text : row.encoding = .text) (allowed : row.checkIndex index = .ok ()) :
    row.valueFrom index located =
      located >>= fun reader => reader.readLenencBytes.map Prod.fst := by
  unfold valueFrom
  rw [text, allowed]
  rfl

/-! In a binary row a column is NULL by its flag or by its type; any other is read where it
is found, by the layout of its type. -/

variable {column : ColumnDefinition}

theorem valueFrom_of_binary (binary : row.encoding = .binary)
    (known : row.column index = .ok column) :
    row.valueFrom index located =
      if row.nullFlag index = true ∨ column.typeId = ColumnType.null.id then .ok none
      else match column.binaryLength with
        | .fixed width => located >>= fun reader =>
            (reader.readFixed width).map fun read => some read.1
        | .lengthEncoded => located >>= fun reader => reader.readLenencBytes.map Prod.fst
        | .unsupported => .error (row.unsupported index) := by
  unfold valueFrom
  rw [binary, checkIndex_of_column known, known]
  simp only [bind, Except.bind]
  cases null : row.nullFlag index with
  | true => simp [pure, Except.pure]
  | false =>
      by_cases nullType : column.typeId = ColumnType.null.id
      · simp [nullType, pure, Except.pure]
      · simp only [Bool.false_eq_true, if_false, nullType, or_self]
        cases column.binaryLength <;> rfl

theorem isNullFrom_of_binary (binary : row.encoding = .binary)
    (known : row.column index = .ok column) :
    row.isNullFrom index located = .ok (row.nullFlag index) := by
  rw [isNullFrom, checkIndex_of_column known, binary]
  rfl

theorem lengthFrom_of_binary (binary : row.encoding = .binary)
    (known : row.column index = .ok column) :
    row.lengthFrom index located =
      if row.nullFlag index = true then .ok 0
      else match column.binaryLength with
        | .fixed width => .ok width
        | .lengthEncoded => located >>= announcedLength
        | .unsupported => .error (row.unsupported index) := by
  unfold lengthFrom
  rw [binary, checkIndex_of_column known, known]
  simp only [bind, Except.bind]
  cases row.nullFlag index with
  | true => simp [pure, Except.pure]
  | false =>
      simp only [Bool.false_eq_true, if_false]
      cases column.binaryLength <;> rfl

end

/-! ## Each read answers like its counterpart -/

section

variable {keeps : Option (Nat × Nat) → Prop} {index : Nat} {located : Except Error PacketReader}

theorem yields_columnValue (finds : row.YieldsWhile keeps (find index) located) :
    row.YieldsWhile keeps (columnValue index) (row.valueFrom index located) := by
  refine yields_get_bind (fun _ => rfl) ?_
  refine yields_bind (yields_lift _) fun _ => ?_
  cases row.encoding with
  | text =>
      refine yields_bind finds fun reader => ?_
      exact yields_bind (yields_lift _) fun read => yields_pure read.1
  | binary =>
      by_cases null : row.nullFlag index = true
      · simp only [null, if_true]
        exact yields_pure none
      · simp only [null]
        refine yields_bind (yields_lift _) fun column => ?_
        by_cases nullType : column.typeId = ColumnType.null.id
        · simp only [nullType, if_true]
          exact yields_pure none
        · simp only [nullType, if_false]
          cases column.binaryLength with
          | fixed width =>
              refine yields_bind finds fun reader => ?_
              exact yields_bind (yields_lift _) fun read => yields_pure (some read.1)
          | lengthEncoded =>
              refine yields_bind finds fun reader => ?_
              exact yields_bind (yields_lift _) fun read => yields_pure read.1
          | unsupported => exact yields_throw _

theorem yields_isNull (finds : row.YieldsWhile keeps (find index) located) :
    row.YieldsWhile keeps (isNull index) (row.isNullFrom index located) := by
  refine yields_get_bind (fun _ => rfl) ?_
  refine yields_bind (yields_lift _) fun _ => ?_
  cases row.encoding with
  | text =>
      refine yields_bind finds fun reader => ?_
      cases reader.remaining with
      | nil => exact yields_throw _
      | cons first rest => exact yields_pure _
  | binary => exact yields_pure _

theorem yields_length (finds : row.YieldsWhile keeps (find index) located) :
    row.YieldsWhile keeps (length index) (row.lengthFrom index located) := by
  refine yields_get_bind (fun _ => rfl) ?_
  refine yields_bind (yields_lift _) fun _ => ?_
  cases row.encoding with
  | text => exact yields_bind finds fun reader => yields_lift _
  | binary =>
      by_cases null : row.nullFlag index = true
      · simp only [null, if_true]
        exact yields_pure 0
      · simp only [null]
        refine yields_bind (yields_lift _) fun column => ?_
        cases column.binaryLength with
        | fixed width => exact yields_pure width
        | lengthEncoded => exact yields_bind finds fun reader => yields_lift _
        | unsupported => exact yields_throw _

theorem yields_getValue (factory : ValueFactory α) {result : Except Error (Option Bytes)}
    (reads : row.YieldsWhile keeps (columnValue index) result) :
    row.YieldsWhile keeps (Row.getValue factory index) (do
      let definition ← row.column index
      match ← result with
      | none => factory.ofNull definition
      | some data => factory.ofBytes definition row.encoding data) := by
  refine yields_get_bind (fun _ => rfl) ?_
  refine yields_bind (yields_lift _) fun definition => ?_
  refine yields_bind reads fun value => ?_
  cases value with
  | none => exact yields_lift _
  | some data => exact yields_lift _

theorem yields_toOwned (row : PacketRow) : row.Yields toOwned row.copy := by
  refine yields_get_bind (fun _ => rfl) ?_
  refine yields_bind (yields_lift _) fun columns => ?_
  have reads (index : Nat) := yields_columnValue (row.yields_find index)
  exact yields_bind (yields_mapM reads _) fun values => yields_lift _

end

end PacketRow

/-! ## Histories of reads -/

/-- A read of a row, by the type of its answer. -/
inductive RowRead : Type → Type 1 where
  | columnValue (index : Nat) : RowRead (Option Bytes)
  | isNull (index : Nat) : RowRead Bool
  | length (index : Nat) : RowRead Nat
  | getValue {α : Type} (factory : ValueFactory α) (index : Nat) : RowRead α
  | toOwned : RowRead OwnedRow

namespace RowRead

variable {α : Type}

/-- The column that is read, if it is one. -/
def column? : RowRead α → Option Nat
  | columnValue index | isNull index | length index | getValue _ index => some index
  | toOwned => none

/-- What the row does for a read. -/
def step : {α : Type} → RowRead α → Step PacketRow α
  | _, columnValue index => PacketRow.columnValue index
  | _, isNull index => PacketRow.isNull index
  | _, length index => PacketRow.length index
  | _, getValue factory index => Row.getValue factory index
  | _, toOwned => PacketRow.toOwned

/-- What the read answers without a memory. -/
def plain : {α : Type} → RowRead α → PacketRow → Except Error α
  | _, columnValue index, row => row.valueAt index
  | _, isNull index, row => row.isNullAt index
  | _, length index, row => row.lengthAt index
  | _, getValue factory index, row => row.decodeAt factory index
  | _, toOwned, row => row.copy

theorem yields (read : RowRead α) (row : PacketRow) : row.Yields read.step (read.plain row) := by
  cases read with
  | columnValue index => exact PacketRow.yields_columnValue (row.yields_find index)
  | isNull index => exact PacketRow.yields_isNull (row.yields_find index)
  | length index => exact PacketRow.yields_length (row.yields_find index)
  | getValue factory index =>
      exact PacketRow.yields_getValue factory (PacketRow.yields_columnValue (row.yields_find index))
  | toOwned => exact row.yields_toOwned

end RowRead

namespace PacketRow

variable {α : Type} {row : PacketRow}

/-- The row after some reads, of whatever outcome. -/
def afterReads (row : PacketRow) (history : List (Sigma RowRead)) : PacketRow :=
  history.foldl (fun row read => read.2.step.after row) row

theorem afterReads_with_found {keeps : Option (Nat × Nat) → Prop} {history : List (Sigma RowRead)}
    (each : ∀ read ∈ history, ∃ result, row.YieldsWhile keeps read.2.step result) :
    ∀ found, keeps found →
      ∃ later, afterReads { row with found } history = { row with found := later } ∧
        keeps later := by
  -- A read may move the memory, so the rest starts from another one.
  induction history with
  | nil =>
      intro found kept
      exact ⟨found, rfl, kept⟩
  | cons read rest ih =>
      intro found kept
      obtain ⟨result, yields⟩ := each read List.mem_cons_self
      obtain ⟨_, middle, left, middleKept⟩ := yields found kept
      have others : ∀ read ∈ rest, ∃ result, row.YieldsWhile keeps read.2.step result :=
        fun read member => each read (List.mem_cons_of_mem _ member)
      obtain ⟨later, behind, laterKept⟩ := ih others middle middleKept
      refine ⟨later, ?_, laterKept⟩
      rw [afterReads, List.foldl_cons, left]
      exact behind

theorem afterReads_eq (sound : CacheSound row) (history : List (Sigma RowRead)) :
    ∃ found, row.afterReads history = { row with found } ∧ CacheSound { row with found } :=
  afterReads_with_found (fun read _ => ⟨_, read.2.yields row⟩) row.found sound

/-- After any reads, a read answers what the packet and the metadata say. -/
theorem answer_afterReads (sound : CacheSound row) (history : List (Sigma RowRead))
    (read : RowRead α) : read.step.answer (row.afterReads history) = read.plain row := by
  obtain ⟨found, reads, laterSound⟩ := afterReads_eq sound history
  rw [reads]
  exact (read.yields row found laterSound).1

/-! ## The memory is invisible -/

/-- After any reads of a fresh row, over any packet, the next read answers as on the
fresh row, and every remembered offset lies in the packet. -/
theorem read_eq_on_fresh_row {packet : Bytes} {encoding : RowEncoding}
    {metadata : Option Columns} {row : PacketRow}
    (made : fresh? packet encoding metadata = .ok row) (history : List (Sigma RowRead)) :
    (∀ (α : Type) (read : RowRead α),
      read.step.answer (row.afterReads history) = read.step.answer row) ∧
    (row.afterReads history).home ≤ packet.length ∧
    ∀ column offset, (row.afterReads history).found = some (column, offset) →
      offset ≤ packet.length := by
  have unread := unread_of_fresh? made
  have sound := unread.cacheSound
  obtain ⟨found, reads, laterSound⟩ := afterReads_eq sound history
  refine ⟨?_, ?_, ?_⟩
  · intro α read
    rw [answer_afterReads sound history read]
    exact (answer_afterReads sound [] read).symm
  · rw [reads]
    exact unread.home_le
  · intro column offset remembered
    rw [reads] at remembered
    rw [← unread.packet_eq]
    exact laterSound.offset_le remembered

/-- A search that fails on a broken length prefix leaves no trace in the answers. -/
theorem value_of_text_row_after_failed_search :
    let packet : Bytes := [0x01, 0x61, 0xFC, 0x01]
    let history : List (Sigma RowRead) := [⟨_, .length 1⟩, ⟨_, .columnValue 2⟩, ⟨_, .isNull 1⟩]
    fresh? packet .text none = .ok (ofText packet) ∧
      (columnValue 0).answer ((ofText packet).afterReads history) =
        (columnValue 0).answer (ofText packet) := by
  intro packet history
  have made : fresh? packet .text none = .ok (ofText packet) := rfl
  exact ⟨made, (read_eq_on_fresh_row made history).1 _ (.columnValue 0)⟩

end PacketRow

end RowCursor
