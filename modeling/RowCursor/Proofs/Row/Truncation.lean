import RowCursor.Proofs.Row.BinaryLayout
import RowCursor.Proofs.Row.TextLayout

/-!
# Rows cut short

When only a first part of a row is there, the columns that lie wholly inside it are read as
ever.  Any other column is missing, and never read as something else: the search for it runs
out of bytes in a column before it, or ends at the part of it that is left, and then the read
runs out of bytes (`CutOff.locate_of_missing`).  A NULL column of a binary row takes no bytes,
so the bitmap alone answers for it.
-/

set_option autoImplicit false

namespace RowCursor.PacketRow

variable {row : PacketRow} {pieces : List Bytes} {packet left part : Bytes} {index : Nat}

/-! ## Searching in what is left -/

/-- A first part of something either has all of a piece at its beginning, or ends in it. -/
theorem has_or_breaks {whole piece : Bytes} (cut : part <+: whole) (first : piece <+: whole) :
    piece <+: part ∨ part <+: piece ∧ part ≠ piece := by
  by_cases has : piece <+: part
  · exact Or.inl has
  · refine Or.inr ⟨(List.prefix_or_prefix_of_prefix cut first).resolve_right has, ?_⟩
    rintro rfl
    exact has (List.prefix_refl part)

/-- Cut short anywhere, the piece is not passed over. -/
def RunsOut (row : PacketRow) (index : Nat) (piece : Bytes) : Prop :=
  ∀ packet part, part <+: piece → part ≠ piece →
    row.skipColumn index ⟨packet, part⟩ = .error .unexpectedEof

theorem walk_of_cut
    (skips : ∀ offset (inside : offset < pieces.length),
      row.Skips (index + offset) pieces[offset])
    (runsOut : ∀ offset (inside : offset < pieces.length),
      row.RunsOut (index + offset) pieces[offset])
    (cut : left <+: pieces.flatten) (short : left ≠ pieces.flatten) :
    row.walk pieces.length index ⟨packet, left⟩ = .error .unexpectedEof := by
  induction pieces generalizing index left with
  | nil => exact absurd (List.prefix_nil.mp cut) short
  | cons piece others ih =>
      have same : ∀ offset, index + (offset + 1) = index + 1 + offset := by omega
      rw [List.flatten_cons] at cut short
      rw [List.length_cons, walk]
      -- The cut is in this piece, or the walk passes over it and meets the cut later.
      rcases has_or_breaks cut (List.prefix_append piece _) with ⟨later, rfl⟩ | ⟨inPiece, broken⟩
      · have first : row.Skips index piece := skips 0 (Nat.succ_pos _)
        rw [first]
        apply ih
        · intro offset inside
          rw [← same]
          exact skips (offset + 1) (Nat.succ_lt_succ inside)
        · intro offset inside
          rw [← same]
          exact runsOut (offset + 1) (Nat.succ_lt_succ inside)
        · exact (List.prefix_append_right_inj piece).mp cut
        · rintro rfl
          exact short rfl
      · have first : row.RunsOut index piece := runsOut 0 (Nat.succ_pos _)
        rw [first packet left inPiece broken]

/-- Of the pieces that the row's columns lie in, only this much is left. -/
structure CutOff (row : PacketRow) (pieces : List Bytes) (left : Bytes) : Prop where
  home_le : row.home ≤ row.packet.length
  drop_home : row.packet.drop row.home = left
  cut : left <+: pieces.flatten
  skips : ∀ index (inside : index < pieces.length), row.Skips index pieces[index]
  runsOut : ∀ index (inside : index < pieces.length), row.RunsOut index pieces[index]

theorem CutOff.laidOut (cutOff : row.CutOff pieces left)
    (whole : (pieces.take index).flatten <+: left) :
    ∃ rest, row.LaidOut (pieces.take index) rest ∧ rest <+: (pieces.drop index).flatten := by
  obtain ⟨rest, leftEq⟩ := whole
  refine ⟨rest, ⟨cutOff.home_le, ?_, ?_⟩, ?_⟩
  · rw [cutOff.drop_home, leftEq]
  · intro offset inside
    rw [List.getElem_take]
    exact cutOff.skips offset (Nat.lt_of_lt_of_le inside (List.length_take_le' _ _))
  · have cut := cutOff.cut
    rw [← leftEq, flatten_eq_take_drop pieces index] at cut
    exact (List.prefix_append_right_inj _).mp cut

theorem CutOff.locate_of_whole (cutOff : row.CutOff pieces left) (inside : index < pieces.length)
    (whole : (pieces.take (index + 1)).flatten <+: left) :
    ∃ rest, row.locate index = .ok ⟨row.packet, pieces[index] ++ rest⟩ := by
  obtain ⟨rest, laidOut, _⟩ := cutOff.laidOut whole
  have within : index < (pieces.take (index + 1)).length := by
    rw [List.length_take]
    omega
  have located := laidOut.locate_of_inside within
  rw [List.getElem_take] at located
  exact ⟨_, located⟩

/-- The search for a column that is not wholly there fails, or ends at the part of it that
is left. -/
theorem CutOff.locate_of_missing (cutOff : row.CutOff pieces left)
    (inside : index < pieces.length) (missing : ¬(pieces.take (index + 1)).flatten <+: left) :
    row.locate index = .error .unexpectedEof ∨
      ∃ part, row.locate index = .ok ⟨row.packet, part⟩ ∧ part <+: pieces[index] ∧
        part ≠ pieces[index] := by
  have count : (pieces.take index).length = index := List.length_take_of_le (Nat.le_of_lt inside)
  have first : (pieces.take index).flatten <+: pieces.flatten :=
    ⟨_, (flatten_eq_take_drop pieces index).symm⟩
  rcases has_or_breaks cutOff.cut first with reached | ⟨before, short⟩
  · right
    obtain ⟨part, laidOut, partCut⟩ := cutOff.laidOut reached
    have located := laidOut.locate_eq (Nat.le_of_eq count.symm)
    rw [List.drop_of_length_le (Nat.le_of_eq count), List.flatten_nil, List.nil_append] at located
    have leftEq : left = (pieces.take index).flatten ++ part := by
      rw [← cutOff.drop_home, laidOut.drop_home]
    rw [List.take_succ_eq_append_getElem inside, List.flatten_append, List.flatten_singleton,
      leftEq, List.prefix_append_right_inj] at missing
    rw [List.drop_eq_getElem_cons inside, List.flatten_cons] at partCut
    have broken := (has_or_breaks partCut (List.prefix_append _ _)).resolve_left missing
    exact ⟨part, located, broken⟩
  · left
    have walked : row.walk (pieces.take index).length 0 ⟨row.packet, left⟩ =
        .error .unexpectedEof := by
      refine walk_of_cut ?_ ?_ before short
      · intro offset inTake
        rw [Nat.zero_add, List.getElem_take]
        exact cutOff.skips offset _
      · intro offset inTake
        rw [Nat.zero_add, List.getElem_take]
        exact cutOff.runsOut offset _
    rw [locate_eq_walk cutOff.home_le, cutOff.drop_home]
    rwa [count] at walked

theorem CutOff.read_of_missing {α β : Type} {item : Reader α} {value : α}
    (cutOff : row.CutOff pieces left) (inside : index < pieces.length)
    (missing : ¬(pieces.take (index + 1)).flatten <+: left) (waits : Read.Waits item)
    (reads : Read.Reads item pieces[index] value) (next : α × PacketReader → β) :
    (row.locate index >>= fun reader => (reader.read item).map next) = .error .unexpectedEof := by
  rcases cutOff.locate_of_missing inside missing with failed | ⟨part, located, cut, short⟩
  · rw [failed]
    rfl
  · rw [located]
    change (PacketReader.read ⟨row.packet, part⟩ item).map next = _
    rw [PacketReader.read_of_cut waits reads row.packet cut short]
    rfl

/-! ## Text rows -/

section

variable {value : Option Bytes} {values : List (Option Bytes)} {metadata : Option Columns}

theorem skipLenencBytes_of_cut {bytes : Bytes}
    (reads : Read.Reads Read.nullableStringLenenc bytes value) (packet : Bytes)
    (cut : part <+: bytes) (short : part ≠ bytes) :
    PacketReader.skipLenencBytes ⟨packet, part⟩ = .error .unexpectedEof := by
  rw [PacketReader.skipLenencBytes_eq, PacketReader.readLenencBytes,
    PacketReader.read_of_cut Read.waits_nullableStringLenenc reads packet cut short]
  rfl

theorem runsOut_nullable (text : row.encoding = .text) (countable : Countable value) :
    row.RunsOut index (Write.nullableBytesLenenc value) := by
  intro packet part cut short
  rw [skipColumn, text]
  exact skipLenencBytes_of_cut (Read.reads_nullable countable) packet cut short

theorem valueAt_of_text_cut (countable : ∀ value ∈ values, Countable value)
    (matching : ∀ columns ∈ metadata, columns.size = values.length)
    (cut : part <+: textRow values) (inside : index < values.length) :
    ({ ofText part with columns := metadata } : PacketRow).valueAt index =
      if textRow (values.take (index + 1)) <+: part then .ok values[index]
      else .error .unexpectedEof := by
  have cutOff : ({ ofText part with columns := metadata } : PacketRow).CutOff
      (values.map Write.nullableBytesLenenc) part := by
    refine ⟨Nat.zero_le _, rfl, cut, ?_, ?_⟩
    · intro offset within
      rw [List.getElem_map]
      exact skips_nullable rfl (countable _ (List.getElem_mem _))
    · intro offset within
      rw [List.getElem_map]
      exact runsOut_nullable rfl (countable _ (List.getElem_mem _))
  have allowed : ({ ofText part with columns := metadata } : PacketRow).checkIndex index = .ok () :=
    checkIndex_textRowWith matching inside
  have fits := countable _ (List.getElem_mem inside)
  have piece : index < (values.map Write.nullableBytesLenenc).length := by
    rwa [List.length_map]
  have upTo : ((values.map Write.nullableBytesLenenc).take (index + 1)).flatten =
      textRow (values.take (index + 1)) := by
    rw [← List.map_take, ← List.flatMap_def]
    rfl
  by_cases whole : textRow (values.take (index + 1)) <+: part
  · rw [← upTo] at whole
    obtain ⟨rest, located⟩ := cutOff.locate_of_whole piece whole
    rw [List.getElem_map] at located
    rw [← upTo, if_pos whole]
    exact (text_reads_of_located rfl allowed fits located).1
  · rw [← upTo] at whole
    rw [← upTo, if_neg whole, valueAt, valueFrom_of_text rfl allowed]
    have reads : Read.Reads Read.nullableStringLenenc
        (values.map Write.nullableBytesLenenc)[index] values[index] := by
      rw [List.getElem_map]
      exact Read.reads_nullable fits
    exact cutOff.read_of_missing piece whole Read.waits_nullableStringLenenc reads Prod.fst

end

/-! ## Binary rows -/

section

variable {columns : Columns} {bitmap : Bytes} {cell : Cell} {cells : List Cell}

theorem readFixed_of_cut (packet : Bytes) {data : Bytes} (cut : part <+: data)
    (short : part ≠ data) :
    PacketReader.readFixed ⟨packet, part⟩ data.length = .error .unexpectedEof :=
  PacketReader.read_of_cut (Read.waits_fixed _) (Read.fixed_append data) packet cut short

theorem runsOut_encode (describes : row.Describes index cell) (fits : cell.WellFormed) :
    row.RunsOut index cell.encode := by
  intro packet part cut short
  cases holds : cell.value with
  | none =>
      have nothing : cell.encode = [] := by rw [Cell.encode, holds]
      rw [nothing] at cut short
      exact absurd (List.prefix_nil.mp cut) short
  | some data =>
      unfold skipColumn
      rw [describes.encoding_eq, describes.nullFlag_eq, describes.column_eq, holds]
      obtain ⟨_, ⟨fixed, bytes⟩ | ⟨lengthEncoded, countable, bytes⟩⟩ := fits.layout holds
      · rw [bytes] at cut short
        simp only [fixed, Option.isNone_some, Bool.false_eq_true, if_false, PacketReader.skip,
          readFixed_of_cut packet cut short]
        rfl
      · rw [bytes] at cut short
        simp only [lengthEncoded, Option.isNone_some, Bool.false_eq_true, if_false]
        exact skipLenencBytes_of_cut (Read.nullableStringLenenc_write countable) packet cut short

/-- A NULL column is known by its flag, whatever is left behind the bitmap. -/
theorem valueAt_of_binary_cut (introduces : Introduces columns bitmap cells)
    (fits : ∀ cell ∈ cells, cell.WellFormed) (cut : part <+: cells.flatMap Cell.encode)
    (inside : index < cells.length) :
    (binaryRow (0x00 :: (bitmap ++ part)) columns).valueAt index =
      if cells[index].value = none ∨ (cells.take (index + 1)).flatMap Cell.encode <+: part then
        .ok cells[index].value
      else .error .unexpectedEof := by
  have describes : ∀ offset (within : offset < cells.length),
      (binaryRow (0x00 :: (bitmap ++ part)) columns).Describes offset cells[offset] :=
    fun _ within => describes_of_introduces introduces within part
  have wellFormed : ∀ offset (within : offset < cells.length), cells[offset].WellFormed :=
    fun _ within => fits _ (List.getElem_mem within)
  have cutOff : (binaryRow (0x00 :: (bitmap ++ part)) columns).CutOff
      (cells.map Cell.encode) part := by
    refine ⟨(beginsRow_of_bitmap introduces.length_eq part).2,
      drop_home_of_bitmap introduces.length_eq part, cut, ?_, ?_⟩
    · intro offset within
      rw [List.getElem_map]
      exact skips_encode (describes _ _) (wellFormed _ _)
    · intro offset within
      rw [List.getElem_map]
      exact runsOut_encode (describes _ _) (wellFormed _ _)
  have piece : index < (cells.map Cell.encode).length := by
    rwa [List.length_map]
  have upTo : ((cells.map Cell.encode).take (index + 1)).flatten =
      (cells.take (index + 1)).flatMap Cell.encode := by
    rw [← List.map_take, ← List.flatMap_def]
  have described := describes index inside
  rw [← upTo]
  by_cases whole : ((cells.map Cell.encode).take (index + 1)).flatten <+: part
  · rw [if_pos (Or.inr whole)]
    obtain ⟨rest, located⟩ := cutOff.locate_of_whole piece whole
    rw [List.getElem_map] at located
    exact (reads_of_located described (wellFormed index inside) located).1
  · rw [valueAt, valueFrom_of_binary rfl described.column_eq, described.nullFlag_eq]
    cases holds : cells[index].value with
    | none => rfl
    | some data =>
        obtain ⟨notNull, layout⟩ := (wellFormed index inside).layout holds
        rw [if_neg (by simp [notNull]), if_neg (by simp [whole])]
        rcases layout with ⟨fixed, bytes⟩ | ⟨lengthEncoded, countable, bytes⟩
        · have reads : Read.Reads (Read.fixed data.length) (cells.map Cell.encode)[index] data := by
            rw [List.getElem_map, bytes]
            exact Read.fixed_append data
          rw [fixed]
          exact cutOff.read_of_missing piece whole (Read.waits_fixed _) reads fun read => some read.1
        · have reads : Read.Reads Read.nullableStringLenenc (cells.map Cell.encode)[index]
              (some data) := by
            rw [List.getElem_map, bytes]
            exact Read.nullableStringLenenc_write countable
          rw [lengthEncoded]
          exact cutOff.read_of_missing piece whole Read.waits_nullableStringLenenc reads Prod.fst

theorem setColumns_of_cut_bitmap (short : part.length < bitmapHome + NullBitmap.length columns.size)
    (started : part.head? = some 0x00) :
    ∃ row, ofPacket? part .binary = .ok row ∧ row.setColumns columns = .error .unexpectedEof := by
  cases part with
  | nil => cases started
  | cons first rest =>
      have zero : first = 0x00 := Option.some.inj started
      subst zero
      refine ⟨_, rfl, ?_⟩
      simp only [setColumns]
      rw [decodeBitmap_eq, if_neg (Nat.not_le_of_lt short)]
      rfl

end

/-- The packet of a binary row. -/
def cellRow (bitmap : Bytes) (cells : List Cell) : Bytes :=
  0x00 :: (bitmap ++ cells.flatMap Cell.encode)

theorem cellRow_starts (bitmap : Bytes) (cells : List Cell) :
    cellRow bitmap [] <+: cellRow bitmap cells := by
  refine ⟨cells.flatMap Cell.encode, ?_⟩
  rw [cellRow, cellRow, List.flatMap_nil, List.append_nil, List.cons_append]

/-- Behind the bitmap, a cut goes through the cells. -/
theorem exists_left_of_bitmap {bitmap : Bytes} {cells : List Cell}
    (complete : cellRow bitmap [] <+: part) (cut : part <+: cellRow bitmap cells) :
    ∃ left, part = 0x00 :: (bitmap ++ left) ∧ left <+: cells.flatMap Cell.encode ∧
      ∀ first : List Cell, cellRow bitmap first <+: part ↔ first.flatMap Cell.encode <+: left := by
  obtain ⟨left, rfl⟩ := complete
  have partEq : cellRow bitmap [] ++ left = 0x00 :: (bitmap ++ left) := by
    rw [cellRow, List.flatMap_nil, List.append_nil, List.cons_append]
  rw [partEq] at cut ⊢
  refine ⟨left, rfl, ?_, ?_⟩
  · exact (List.prefix_append_right_inj _).mp (List.cons_prefix_cons.mp cut).2
  · intro first
    rw [cellRow, List.cons_prefix_cons, List.prefix_append_right_inj]
    exact and_iff_right rfl

/-- Of a row that was cut short, a column is read as it was written if it is wholly there, or
if it is a NULL column of a binary row, and otherwise reported as missing, in any order of
reads.  Without its first byte a binary row is not made, and without its whole bitmap no
metadata is attached. -/
theorem cut_row_reads_whole_columns_only :
    (∀ (values : List (Option Bytes)) (metadata : Option Columns) (part : Bytes),
      (∀ value ∈ values, Countable value) →
      (∀ columns ∈ metadata, columns.size = values.length) →
      part <+: textRow values →
      ∃ row, fresh? part .text metadata = .ok row ∧
        ∀ (history : List (Sigma RowRead)) (index : Nat) (inside : index < values.length),
          (columnValue index).answer (row.afterReads history) =
            if textRow (values.take (index + 1)) <+: part then .ok values[index]
            else .error .unexpectedEof) ∧
    ∀ (cells : List Cell) (bitmap part : Bytes),
      (∀ cell ∈ cells, cell.WellFormed) → MarksNulls bitmap cells →
      part <+: cellRow bitmap cells →
      (part = [] → ofPacket? part .binary = .error .unexpectedEof) ∧
      (part ≠ [] → ¬cellRow bitmap [] <+: part →
        ∃ row, ofPacket? part .binary = .ok row ∧
          row.setColumns (cells.map Cell.column).toArray = .error .unexpectedEof) ∧
      (cellRow bitmap [] <+: part →
        ∃ row, ofPacketWith? part .binary (cells.map Cell.column).toArray = .ok row ∧
          ∀ (history : List (Sigma RowRead)) (index : Nat) (inside : index < cells.length),
            (columnValue index).answer (row.afterReads history) =
              if cells[index].value = none ∨ cellRow bitmap (cells.take (index + 1)) <+: part then
                .ok cells[index].value
              else .error .unexpectedEof) := by
  constructor
  · intro values metadata part countable matching cut
    have made := fresh?_text part metadata
    have sound := (unread_of_fresh? made).cacheSound
    refine ⟨_, made, ?_⟩
    intro history index inside
    have value := valueAt_of_text_cut countable matching cut inside
    exact (answer_afterReads sound history (.columnValue index)).trans value
  · intro cells bitmap part fits marks cut
    have introduces := marks.introduces
    refine ⟨?_, ?_, ?_⟩
    · rintro rfl
      rfl
    · intro nonempty incomplete
      obtain ⟨begun, broken⟩ :=
        (has_or_breaks cut (cellRow_starts bitmap cells)).resolve_left incomplete
      have started : part.head? = some 0x00 := by
        obtain rfl | ⟨rest, rfl, _⟩ := List.prefix_cons_iff.mp begun
        · exact absurd rfl nonempty
        · rfl
      have shorter : part.length < (cellRow bitmap []).length :=
        Nat.lt_of_le_of_ne begun.length_le fun same => broken (begun.eq_of_length same)
      apply setColumns_of_cut_bitmap _ started
      rw [cellRow, List.flatMap_nil, List.append_nil, List.length_cons,
        introduces.length_eq] at shorter
      rwa [bitmapHome, Nat.add_comm]
    · intro complete
      obtain ⟨left, rfl, leftCut, reaches⟩ := exists_left_of_bitmap complete cut
      have begins := beginsRow_of_bitmap introduces.length_eq left
      have sound := cacheSound_binaryRow begins
      refine ⟨_, begins.ofPacketWith?_eq, ?_⟩
      intro history index inside
      have value := valueAt_of_binary_cut introduces fits leftCut inside
      simp only [reaches]
      exact (answer_afterReads sound history (.columnValue index)).trans value

/-- A text cut off inside a length prefix, and a binary row inside the second of two numbers
that stand around a NULL. -/
theorem rows_cut_inside_column :
    let values : List (Option Bytes) := [some [0x61], none, some (List.replicate 300 0x62)]
    let part : Bytes := [0x01, 0x61, 0xFB, 0xFC, 0x2C]
    let cells : List Cell := [⟨.ofType .tiny, some [0x07]⟩, ⟨.ofTypeId 0x99, none⟩,
      ⟨.ofType .long, some [1, 2, 3, 4]⟩, ⟨.ofType .string, none⟩]
    let left : Bytes := [0x00, 0x28, 0x07, 1, 2, 3]
    let history : List (Sigma RowRead) := [⟨_, .columnValue 2⟩, ⟨_, .length 1⟩]
    part <+: textRow values ∧ left <+: cellRow [0x28] cells ∧
    (∃ row, fresh? part .text none = .ok row ∧
      (columnValue 1).answer (row.afterReads history) = .ok none ∧
      (columnValue 2).answer (row.afterReads history) = .error .unexpectedEof) ∧
    ofPacket? [] .binary = .error .unexpectedEof ∧
    (∃ row, ofPacket? [0x00] .binary = .ok row ∧
      row.setColumns (cells.map Cell.column).toArray = .error .unexpectedEof) ∧
    ∃ row, ofPacketWith? left .binary (cells.map Cell.column).toArray = .ok row ∧
      (columnValue 0).answer (row.afterReads history) = .ok (some [0x07]) ∧
      (columnValue 2).answer (row.afterReads history) = .error .unexpectedEof ∧
      (columnValue 3).answer (row.afterReads history) = .ok none := by
  intro values part cells left history
  have countable : ∀ value ∈ values, Countable value := by decide +kernel
  have fits : ∀ cell ∈ cells, cell.WellFormed := by decide
  have marks : MarksNulls [0x28] cells := ⟨by decide, by decide⟩
  have textCut : part <+: textRow values := by decide +kernel
  have leftCut : left <+: cellRow [0x28] cells := by decide
  obtain ⟨text, binary⟩ := cut_row_reads_whole_columns_only
  obtain ⟨shortText, textMade, textReads⟩ := text values none part countable
    (by intro columns missing; cases missing) textCut
  obtain ⟨nothing, _, _⟩ := binary cells [0x28] [] fits marks (by decide)
  obtain ⟨_, cutBitmap, _⟩ := binary cells [0x28] [0x00] fits marks (by decide)
  obtain ⟨_, _, behind⟩ := binary cells [0x28] left fits marks leftCut
  obtain ⟨row, made, reads⟩ := behind (by decide)
  have cutText : (columnValue 2).answer (shortText.afterReads history) = .error .unexpectedEof :=
    (textReads history 2 (by decide)).trans (if_neg (by decide +kernel))
  exact ⟨textCut, leftCut, ⟨shortText, textMade, textReads history 1 (by decide), cutText⟩,
    nothing rfl, cutBitmap (by decide) (by decide), row, made, reads history 0 (by decide),
    reads history 2 (by decide), reads history 3 (by decide)⟩

end RowCursor.PacketRow
