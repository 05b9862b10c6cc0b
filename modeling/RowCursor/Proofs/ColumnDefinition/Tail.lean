import Mathlib.Control.Monad.Basic
import RowCursor.Proofs.Codec.Width
import RowCursor.Proofs.ColumnDefinition

/-!
# Two ways to the tail of a column definition

A definition is read from the front of its packet and comes to its tail last; the tail alone
is read off the end of the packet.  Where the packet ends with the tail both read the same
bytes.  But bytes behind the last field are passed over like everywhere else, and then the end
of the packet is no longer the tail.
-/

set_option autoImplicit false

namespace RowCursor

open Read (bind_eq_ok_iff pure_eq_ok_iff exists_suffix_of_bind)

variable {data payload rest : Bytes} {column : ColumnDefinition} {tail : ColumnTail}

/-! ## Tails -/

namespace ColumnTail

/-- The tail says of the column what its definition says. -/
structure Describes (tail : ColumnTail) (column : ColumnDefinition) : Prop where
  charset_eq : tail.charset = column.charset
  columnLength_eq : tail.columnLength = column.columnLength
  typeId_eq : tail.typeId = column.typeId
  flags_eq : tail.flags = column.flags
  decimals_eq : tail.decimals = column.decimals

theorem spans_read : Read.Spans read size := by
  change Read.Spans read (2 + (4 + (1 + (2 + (1 + 2)))))
  unfold read
  refine Read.spans_bind Read.spans_int2 fun charset => ?_
  refine Read.spans_bind Read.spans_int4 fun columnLength => ?_
  refine Read.spans_bind Read.spans_int1 fun typeId => ?_
  refine Read.spans_bind Read.spans_int2 fun flags => ?_
  refine Read.spans_bind Read.spans_int1 fun decimals => ?_
  exact Read.spans_map _ Read.spans_int2

theorem describes_of_read {packet : ColumnPacket}
    (taken : read packet.encodeTail = .ok (tail, rest)) : tail.Describes packet.column := by
  have spelled := packet.reads_tail []
  rw [List.append_nil, taken] at spelled
  cases spelled
  exact ⟨rfl, rfl, rfl, rfl, rfl⟩

/-- What was read as the tail of a column is that tail, with some reserved bytes. -/
theorem Describes.exists_reserved (describes : tail.Describes column)
    (taken : read data = .ok (tail, rest)) :
    ∃ reserved, data = ColumnPacket.encodeTail { column, reserved } ++ rest := by
  simp only [read, bind_eq_ok_iff, pure_eq_ok_iff, Read.int1_eq_ok_iff, Read.int2_eq_ok_iff,
    Read.int4_eq_ok_iff] at taken
  obtain ⟨charset, _, rfl, columnLength, _, rfl, typeId, _, rfl, flags, _, rfl, decimals, _, rfl,
    reserved, _, rfl, rfl, rfl⟩ := taken
  obtain ⟨rfl, rfl, rfl, flagged, rfl⟩ := describes
  refine ⟨reserved, ?_⟩
  simp only [ColumnPacket.encodeTail, ← flagged, ColumnFlags.ofBits, List.append_assoc]

theorem ofPayload_eq (enough : size ≤ payload.length) :
    ofPayload payload = (read (payload.drop (payload.length - size))).map Prod.fst :=
  if_neg (Nat.not_lt.mpr enough)

theorem exists_ofPayload (enough : size ≤ payload.length) :
    ∃ tail, ofPayload payload = .ok tail := by
  rw [ofPayload_eq enough, spans_read.exists_first_iff, List.length_drop]
  omega

theorem read_of_ofPayload (enough : size ≤ payload.length)
    (ends : ofPayload payload = .ok tail) :
    read (payload.drop (payload.length - size)) = .ok (tail, []) := by
  have left : size ≤ (payload.drop (payload.length - size)).length := by
    rw [List.length_drop]
    omega
  obtain ⟨value, taken⟩ := spans_read.exists_read left
  have nothing : (payload.drop (payload.length - size)).drop size = [] := by
    rw [List.drop_eq_nil_iff, List.length_drop]
    omega
  rw [nothing] at taken
  rw [ofPayload_eq enough, taken] at ends
  cases ends
  exact taken

/-- The end of a packet is the tail of a column exactly if the packet ends like that. -/
theorem describes_iff_of_ofPayload (enough : size ≤ payload.length)
    (ends : ofPayload payload = .ok tail) :
    tail.Describes column ↔
      ∃ reserved, ColumnPacket.encodeTail { column, reserved } <:+ payload := by
  have taken := read_of_ofPayload enough ends
  constructor
  · intro describes
    obtain ⟨reserved, spelled⟩ := describes.exists_reserved taken
    rw [List.append_nil] at spelled
    refine ⟨reserved, ?_⟩
    rw [← spelled]
    exact List.drop_suffix _ payload
  · rintro ⟨reserved, suffix⟩
    -- The suffix has the length of a tail, so it is what was read.
    have same : payload.drop (payload.length - size) =
        ColumnPacket.encodeTail { column, reserved } := (List.suffix_iff_eq_drop.mp suffix).symm
    rw [same] at taken
    exact describes_of_read taken

end ColumnTail

/-! ## Definitions -/

namespace ColumnDefinition

theorem takesPrefix_readText : Read.TakesPrefix readText :=
  Read.takesPrefix_bind Read.takesPrefix_stringLenenc fun _ => Read.takesPrefix_pure _

/-- The definition that was read has its tail at the end of the bytes that were taken. -/
theorem exists_tail_of_read (parsed : read payload = .ok (column, rest)) :
    ∃ reserved, ColumnPacket.encodeTail { column, reserved } ++ rest <:+ payload := by
  unfold read at parsed
  obtain ⟨_, afterCatalog, catalog, parsed⟩ :=
    exists_suffix_of_bind Read.takesPrefix_stringLenenc parsed
  obtain ⟨_, afterSchema, schema, parsed⟩ := exists_suffix_of_bind takesPrefix_readText parsed
  obtain ⟨_, afterTable, table, parsed⟩ := exists_suffix_of_bind takesPrefix_readText parsed
  obtain ⟨_, afterOrgTable, orgTable, parsed⟩ := exists_suffix_of_bind takesPrefix_readText parsed
  obtain ⟨_, afterName, name, parsed⟩ := exists_suffix_of_bind takesPrefix_readText parsed
  obtain ⟨_, afterOrgName, orgName, parsed⟩ := exists_suffix_of_bind takesPrefix_readText parsed
  obtain ⟨_, atTail, length, parsed⟩ := exists_suffix_of_bind Read.takesPrefix_intLenenc parsed
  obtain ⟨tail, behind, taken, made⟩ := bind_eq_ok_iff.mp parsed
  obtain ⟨same, rfl⟩ := pure_eq_ok_iff.mp made
  have describes : tail.Describes column := by
    cases same
    exact ⟨rfl, rfl, rfl, rfl, rfl⟩
  obtain ⟨reserved, spelled⟩ := describes.exists_reserved taken
  refine ⟨reserved, ?_⟩
  rw [← spelled]
  exact length.trans <| orgName.trans <| name.trans <| orgTable.trans <| table.trans <|
    schema.trans catalog

/-- Wherever a definition can be read, a tail can be read off the end of the packet.  The two
agree if nothing stands behind the definition, and in general exactly if the packet ends with
bytes that spell the tail of the definition. -/
theorem tails_agree_where_packet_ends (parsed : ofPayload payload = .ok column) :
    ∃ rest tail, read payload = .ok (column, rest) ∧ ColumnTail.ofPayload payload = .ok tail ∧
      (rest = [] → tail.Describes column) ∧
      (tail.Describes column ↔
        ∃ reserved, ColumnPacket.encodeTail { column, reserved } <:+ payload) := by
  obtain ⟨rest, whole⟩ := Read.exists_rest_of_first parsed
  obtain ⟨reserved, suffix⟩ := exists_tail_of_read whole
  have enough : ColumnTail.size ≤ payload.length := by
    have length := suffix.length_le
    rw [List.length_append] at length
    exact Nat.le_trans (Nat.le_add_right _ rest.length) length
  obtain ⟨tail, ends⟩ := ColumnTail.exists_ofPayload enough
  have agree : tail.Describes column ↔ _ := ColumnTail.describes_iff_of_ofPayload enough ends
  refine ⟨rest, tail, whole, ends, ?_, agree⟩
  rintro rfl
  rw [List.append_nil] at suffix
  exact agree.mpr ⟨reserved, suffix⟩

/-- A definition whose tail announces the wrong length.  The packet ends with it all the same. -/
theorem tail_of_wrong_length_agrees :
    let payload : Bytes := [0, 0, 0, 0, 1, 0x61, 0, 0xFC, 0, 1,
      0x3F, 0, 0x0B, 0, 0, 0, 0x03, 0x21, 0, 0, 0xFF, 0xFF]
    let column : ColumnDefinition :=
      { name := "a", columnLength := 11, typeId := 3, flags := ⟨0x21⟩ }
    ofPayload payload = .ok column ∧
      ∃ tail, ColumnTail.ofPayload payload = .ok tail ∧ tail.Describes column := by
  intro payload column
  have parsed : ofPayload payload = .ok column := by decide +kernel
  have whole : read payload = .ok (column, []) := by decide +kernel
  obtain ⟨rest, tail, taken, ends, agree, _⟩ := tails_agree_where_packet_ends parsed
  rw [whole] at taken
  cases taken
  exact ⟨parsed, tail, ends, agree rfl⟩

/-- One byte behind the tail.  The definition is read in front of it; the last twelve bytes
are another tail. -/
theorem byte_behind_tail_shifts_it :
    let payload : Bytes := [0, 0, 0, 0, 0, 0, 0x0C,
      0x3F, 0, 0x0B, 0, 0, 0, 0x03, 0x21, 0, 0, 0, 0, 0xAA]
    ∃ column tail, ofPayload payload = .ok column ∧ ColumnTail.ofPayload payload = .ok tail ∧
      column.typeId = 0x03 ∧ tail.typeId = 0x21 ∧ ¬tail.Describes column := by
  intro payload
  refine ⟨{ columnLength := 11, typeId := 3, flags := ⟨0x21⟩ },
    { charset := 0x0B00, columnLength := 0x03000000, typeId := 0x21, flags := ⟨0⟩, decimals := 0 },
    by decide +kernel, by decide +kernel, rfl, rfl, ?_⟩
  intro describes
  exact absurd describes.typeId_eq (by decide)

end ColumnDefinition

end RowCursor
