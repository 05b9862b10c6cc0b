import Mathlib.Control.Monad.Basic
import RowCursor.Proofs.Row.Reads

/-!
# Swapping the metadata of a row

Once the bitmap of a row is decoded, later metadata takes the place of the old and leaves
the memory of the row alone.  The remembered offset was found with the old metadata, so it
is right for the new metadata only if the columns before it take as many bytes as they
did.  Then every read answers as on a fresh row; otherwise a column may be read from the
wrong place.
-/

set_option autoImplicit false

namespace RowCursor.PacketRow

variable {row : PacketRow} {packet : Bytes} {columns old new : Columns}

/-! ## Later metadata -/

theorem setColumns_eq_ok_iff {flags : Array Bool} {after : PacketRow}
    (binary : row.encoding = .binary) (decoded : row.nullFlags = some flags) :
    row.setColumns columns = .ok after ↔
      flags.size = columns.size ∧ after = { row with columns := some columns } := by
  unfold setColumns
  rw [binary, decoded]
  simp only
  split
  · rename_i size
    constructor
    · rintro ⟨⟩
      exact ⟨size, rfl⟩
    · rintro ⟨_, rfl⟩
      rfl
  · rename_i size
    constructor
    · rintro ⟨⟩
    · rintro ⟨same, _⟩
      exact absurd same size

/-! ## Layouts -/

/-- How the values of a column lie, if the metadata has such a column. -/
def layout? (columns : Columns) (index : Nat) : Option BinaryLength :=
  columns[index]?.map ColumnDefinition.binaryLength

/-- The first columns lie alike under both metadata, NULL ones apart. -/
def LieAlike (row : PacketRow) (old new : Columns) (count : Nat) : Prop :=
  ∀ index < count, row.nullFlag index = false → layout? old index = layout? new index

theorem skipColumn_eq_ok_iff {index : Nat} {reader behind : PacketReader}
    (binary : row.encoding = .binary) (attached : row.columns = some columns) :
    row.skipColumn index reader = .ok behind ↔
      (row.nullFlag index = true ∧ reader = behind) ∨
      (row.nullFlag index = false ∧
        ((∃ width, layout? columns index = some (.fixed width) ∧
            reader.skip width = .ok behind) ∨
          (layout? columns index = some .lengthEncoded ∧
            reader.skipLenencBytes = .ok behind))) := by
  unfold skipColumn
  rw [binary]
  cases null : row.nullFlag index with
  | true => simp
  | false =>
      simp only [Bool.false_eq_true, if_false, column, requireColumns, attached, bind,
        Except.bind, layout?]
      cases known : columns[index]? with
      | none => simp [throw, throwThe, MonadExceptOf.throw]
      | some definition =>
          simp only [pure, Except.pure, Option.map_some]
          cases definition.binaryLength <;> simp

theorem skipColumn_of_layout {index : Nat} {reader behind : PacketReader}
    (binary : row.encoding = .binary) (attached : row.columns = some old)
    (alike : row.nullFlag index = false → layout? old index = layout? new index)
    (skipped : row.skipColumn index reader = .ok behind) :
    skipColumn { row with columns := some new } index reader = .ok behind := by
  have remade : encoding { row with columns := some new } = .binary := binary
  apply (skipColumn_eq_ok_iff remade rfl).mpr
  rcases (skipColumn_eq_ok_iff binary attached).mp skipped with null | ⟨holds, passed⟩
  · exact Or.inl null
  · rw [alike holds] at passed
    exact Or.inr ⟨holds, passed⟩

theorem walk_of_layout {count index : Nat} {reader behind : PacketReader}
    (binary : row.encoding = .binary) (attached : row.columns = some old)
    (alike : ∀ offset < count, row.nullFlag (index + offset) = false →
      layout? old (index + offset) = layout? new (index + offset))
    (walked : row.walk count index reader = .ok behind) :
    walk { row with columns := some new } count index reader = .ok behind := by
  induction count generalizing index reader with
  | zero => exact walked
  | succ count ih =>
      rw [walk] at walked ⊢
      cases skipped : row.skipColumn index reader with
      | error error => simp [skipped] at walked
      | ok next =>
          rw [skipped] at walked
          have here : skipColumn { row with columns := some new } index reader = .ok next :=
            skipColumn_of_layout binary attached (alike 0 (Nat.succ_pos _)) skipped
          rw [here]
          refine ih ?_ walked
          intro offset inside
          have later := alike (offset + 1) (Nat.succ_lt_succ inside)
          have same : index + (offset + 1) = index + 1 + offset := by omega
          rwa [same] at later

/-! ## The memory under new metadata -/

theorem CacheSound.with_columns (sound : CacheSound row) (binary : row.encoding = .binary)
    (attached : row.columns = some old)
    (alike : ∀ column offset, row.found = some (column, offset) → row.LieAlike old new column) :
    CacheSound { row with columns := some new } := by
  refine ⟨sound.home_le, ?_⟩
  intro column offset found
  obtain ⟨reader, located, position⟩ := sound.found_eq column offset found
  refine ⟨reader, ?_, position⟩
  have inside : home { row with columns := some new } ≤ row.packet.length := sound.home_le
  rw [locate_eq_walk sound.home_le] at located
  rw [locate_eq_walk inside]
  refine walk_of_layout binary attached ?_ located
  intro index before null
  rw [Nat.zero_add] at null ⊢
  exact alike column offset found index before null

/-- The memory finds every column where the walk from the first column finds it, exactly
if that walk finds the remembered column at the remembered place. -/
theorem seek_eq_iff (inside : row.home ≤ row.packet.length)
    (first : ∀ offset, row.found = some (0, offset) → offset = row.home)
    (offsets : ∀ column offset, row.found = some (column, offset) → offset ≤ row.packet.length) :
    (∀ index, row.seek index = seek { row with found := none } index) ↔
      ∀ column offset, row.found = some (column, offset) →
        seek { row with found := none } column = .ok offset := by
  constructor
  · intro same column offset found
    rw [← same column]
    refine seek_remembered found (offsets column offset found) ?_
    rintro rfl
    exact first offset found
  · intro right index
    have plain : CacheSound { row with found := none } := CacheSound.of_not_found inside rfl
    have sound : CacheSound row := by
      refine ⟨inside, ?_⟩
      intro column offset found
      have walked := right column offset found
      rw [plain.seek_eq column, locate_with_found] at walked
      cases located : row.locate column with
      | error error => simp [located, Except.map] at walked
      | ok reader =>
          rw [located] at walked
          exact ⟨reader, rfl, Except.ok.inj walked⟩
    rw [sound.seek_eq index, plain.seek_eq index]
    exact congrArg _ (row.locate_with_found none index).symm

theorem CacheSound.eq_home (sound : CacheSound row) {offset : Nat}
    (found : row.found = some (0, offset)) : offset = row.home := by
  obtain ⟨reader, located, position⟩ := sound.found_eq 0 offset found
  rw [locate_eq_walk sound.home_le] at located
  cases located
  rw [← position, PacketReader.position_drop sound.home_le]

theorem setColumns_afterReads_binaryRow (new : Columns) (history : List (Sigma RowRead))
    (complete : bitmapHome + NullBitmap.length old.size ≤ packet.length)
    (count : old.size = new.size) :
    ((binaryRow packet old).afterReads history).setColumns new = .ok
      { binaryRow packet new with found := ((binaryRow packet old).afterReads history).found } := by
  have unread : CacheSound (binaryRow packet old) := CacheSound.of_not_found complete rfl
  obtain ⟨found, reads, _⟩ := afterReads_eq unread history
  rw [reads]
  refine (setColumns_eq_ok_iff rfl rfl).mpr ⟨Array.size_ofFn.trans count, ?_⟩
  simp only [binaryRow, count]

/-- Attaching metadata to a row that was read before gives the fresh row with the old
memory.  It finds every column as the fresh row does exactly if the remembered place is
the fresh row's.  If the columns before that place lie alike under both metadata, every
read answers as on the fresh row, after any further reads. -/
theorem reads_after_swap {row swapped : PacketRow}
    (made : ofPacketWith? packet .binary old = .ok row) (history : List (Sigma RowRead))
    (attached : (row.afterReads history).setColumns new = .ok swapped) :
    ∃ fresh, ofPacketWith? packet .binary new = .ok fresh ∧
      swapped = { fresh with found := (row.afterReads history).found } ∧
      ((∀ index, swapped.seek index = fresh.seek index) ↔
        ∀ column offset, (row.afterReads history).found = some (column, offset) →
          fresh.seek column = .ok offset) ∧
      ((∀ column offset, (row.afterReads history).found = some (column, offset) →
          row.LieAlike old new column) →
        ∀ (later : List (Sigma RowRead)) (α : Type) (read : RowRead α),
          read.step.answer (swapped.afterReads later) = read.step.answer fresh) := by
  obtain ⟨⟨starts, complete⟩, rfl⟩ := ofPacketWith?_binary_eq_ok_iff.mp made
  have unread : CacheSound (binaryRow packet old) := CacheSound.of_not_found complete rfl
  obtain ⟨found, reads, sound⟩ := afterReads_eq unread history
  have count : old.size = new.size := by
    rw [reads] at attached
    rw [← ((setColumns_eq_ok_iff rfl rfl).mp attached).1]
    exact Array.size_ofFn.symm
  have swapped_eq := setColumns_afterReads_binaryRow new history complete count
  rw [attached, Except.ok.injEq] at swapped_eq
  -- The bitmap depends only on the count of columns, so the memory is all that is old.
  have old_row : { binaryRow packet old with found, columns := some new } =
      { binaryRow packet new with found } := by
    simp only [binaryRow, count]
  rw [reads] at swapped_eq ⊢
  have begins : bitmapHome + NullBitmap.length new.size ≤ packet.length := by
    rw [← count]
    exact complete
  refine ⟨binaryRow packet new, BeginsRow.ofPacketWith?_eq ⟨starts, begins⟩, swapped_eq, ?_, ?_⟩
  · rw [swapped_eq]
    refine seek_eq_iff begins ?_ ?_
    · intro offset remembered
      rw [sound.eq_home remembered]
      simp only [binaryRow, count]
    · intro column offset remembered
      exact sound.offset_le remembered
  · intro alike later α read
    have kept := sound.with_columns rfl rfl alike
    have plain : CacheSound (binaryRow packet new) := CacheSound.of_not_found begins rfl
    rw [old_row] at kept
    rw [swapped_eq]
    calc read.step.answer (afterReads { binaryRow packet new with found } later)
        = read.plain { binaryRow packet new with found } := answer_afterReads kept later read
      _ = read.step.answer { binaryRow packet new with found } :=
          (answer_afterReads kept [] read).symm
      _ = read.plain (binaryRow packet new) := (read.yields (binaryRow packet new) found kept).1
      _ = read.step.answer (binaryRow packet new) := (answer_afterReads plain [] read).symm

/-- A number gives way to one of the same width, and the column behind it is read on. -/
theorem byte_behind_swapped_number_reads_on :
    let packet : Bytes := [0x00, 0x00, 0x01, 0x02, 0x03, 0x04, 0x05]
    let old : Columns := #[.ofType .long, .ofType .tiny]
    let new : Columns := #[.ofType .float, .ofType .tiny]
    let history : List (Sigma RowRead) := [⟨_, .columnValue 1⟩]
    ofPacketWith? packet .binary old = .ok (binaryRow packet old) ∧
      ∃ swapped, ((binaryRow packet old).afterReads history).setColumns new = .ok swapped ∧
        (∀ column offset, ((binaryRow packet old).afterReads history).found =
          some (column, offset) → (binaryRow packet old).LieAlike old new column) ∧
        (columnValue 1).answer swapped = .ok (some [0x05]) := by
  intro packet old new history
  have complete : bitmapHome + NullBitmap.length old.size ≤ packet.length := by decide
  have made : ofPacketWith? packet .binary old = .ok (binaryRow packet old) :=
    BeginsRow.ofPacketWith?_eq ⟨rfl, complete⟩
  have found : ((binaryRow packet old).afterReads history).found = some (1, 6) := by decide
  have alike : ∀ column offset, ((binaryRow packet old).afterReads history).found =
      some (column, offset) → (binaryRow packet old).LieAlike old new column := by
    intro column offset place
    rw [found] at place
    cases place
    intro index before _
    have zero : index = 0 := by omega
    rw [zero]
    rfl
  have attached := setColumns_afterReads_binaryRow new history complete rfl
  obtain ⟨fresh, remade, _, _, answers⟩ := reads_after_swap made history attached
  have same : fresh = binaryRow packet new := (ofPacketWith?_binary_eq_ok_iff.mp remade).2
  have answered := answers alike [] _ (.columnValue 1)
  rw [same] at answered
  exact ⟨made, _, attached, alike, answered.trans (by decide +kernel)⟩

/-- A wide column was in front when the second column was found.  With a narrow one in its
place, the second column is still read where it was. -/
theorem stale_offset_after_swap :
    let packet : Bytes := [0x00, 0x00, 0x01, 0x02, 0x03, 0x04, 0x05]
    let old : Columns := #[.ofType .long, .ofType .tiny]
    let new : Columns := #[.ofType .tiny, .ofType .tiny]
    let history : List (Sigma RowRead) := [⟨_, .columnValue 1⟩]
    ∃ row swapped fresh, ofPacketWith? packet .binary old = .ok row ∧
      (row.afterReads history).setColumns new = .ok swapped ∧
      ofPacketWith? packet .binary new = .ok fresh ∧
      (columnValue 1).answer swapped = .ok (some [0x05]) ∧
      (columnValue 1).answer fresh = .ok (some [0x02]) := by
  intro packet old new history
  have complete : bitmapHome + NullBitmap.length old.size ≤ packet.length := by decide
  have found : ((binaryRow packet old).afterReads history).found = some (1, 6) := by decide
  have attached := setColumns_afterReads_binaryRow new history complete rfl
  rw [found] at attached
  refine ⟨binaryRow packet old, _, binaryRow packet new, ?_, attached, ?_, ?_, ?_⟩
  · exact BeginsRow.ofPacketWith?_eq ⟨rfl, complete⟩
  · exact BeginsRow.ofPacketWith?_eq ⟨rfl, complete⟩
  · decide +kernel
  · decide +kernel

end RowCursor.PacketRow
