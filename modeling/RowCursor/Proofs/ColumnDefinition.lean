import RowCursor.ColumnDefinition.Packet
import RowCursor.Proofs.Codec
import RowCursor.Proofs.Text.Utf8

/-!
# Column definitions on the wire

What a server sends for a column is read as that column: six texts behind their lengths,
of which the first is passed over, the length of the tail, and the tail, whose reserved
bytes are passed over too.  Bytes behind the tail make no difference, and of a packet that is
cut short nothing is read (`whole_definition_reads_back`).
-/

set_option autoImplicit false

namespace RowCursor

open Read (Reads Waits reads_bind reads_map waits_bind waits_pure)

/-- A column definition as a server sends it. -/
structure ColumnPacket where
  catalog : String := "def"
  column : ColumnDefinition
  reserved : UInt16 := 0
  deriving DecidableEq, Repr

namespace ColumnPacket

def tail (packet : ColumnPacket) : ColumnTail where
  charset := packet.column.charset
  columnLength := packet.column.columnLength
  typeId := packet.column.typeId
  flags := packet.column.flags
  decimals := packet.column.decimals

def encodeTail (packet : ColumnPacket) : Bytes :=
  Write.int2 packet.column.charset ++ (Write.int4 packet.column.columnLength ++
    (Write.int1 packet.column.typeId ++ (Write.int2 packet.column.flags.bits ++
      (Write.int1 packet.column.decimals ++ Write.int2 packet.reserved))))

def encode (packet : ColumnPacket) : Bytes :=
  Write.stringLenenc packet.catalog ++ (Write.stringLenenc packet.column.schema ++
    (Write.stringLenenc packet.column.table ++ (Write.stringLenenc packet.column.orgTable ++
      (Write.stringLenenc packet.column.name ++ (Write.stringLenenc packet.column.orgName ++
        (Write.intLenenc (UInt64.ofNat ColumnTail.size) ++ packet.encodeTail))))))

/-- Its texts can be sent behind their lengths. -/
def Encodable (packet : ColumnPacket) : Prop :=
  ∀ text ∈ [packet.catalog, packet.column.schema, packet.column.table, packet.column.orgTable,
    packet.column.name, packet.column.orgName], (Utf8.encode text).length < 2 ^ 63

instance (packet : ColumnPacket) : Decidable packet.Encodable :=
  inferInstanceAs (Decidable (∀ text ∈ [_, _, _, _, _, _], _))

theorem reads_tail (packet : ColumnPacket) :
    Reads ColumnTail.read packet.encodeTail packet.tail := by
  unfold ColumnTail.read encodeTail
  refine reads_bind (Read.int2_write packet.column.charset) ?_
  refine reads_bind (Read.int4_write packet.column.columnLength) ?_
  refine reads_bind (Read.int1_write packet.column.typeId) ?_
  refine reads_bind (Read.int2_write packet.column.flags.bits) ?_
  refine reads_bind (Read.int1_write packet.column.decimals) ?_
  exact reads_map _ (Read.int2_write packet.reserved)

theorem reads_text {text : String} (countable : (Utf8.encode text).length < 2 ^ 63) :
    Reads ColumnDefinition.readText (Write.stringLenenc text) text := by
  intro rest
  rw [ColumnDefinition.readText, Write.stringLenenc, Read.bind_apply,
    Read.stringLenenc_write countable]
  simp only [Utf8.decodeLossy_encode]
  rfl

theorem reads_encode {packet : ColumnPacket} (encodable : packet.Encodable) :
    Reads ColumnDefinition.read packet.encode packet.column := by
  have countable (text : String) := encodable text
  simp only [List.mem_cons, List.not_mem_nil, or_false] at countable
  unfold ColumnDefinition.read encode
  refine reads_bind (Read.stringLenenc_write (countable packet.catalog (by simp))) ?_
  refine reads_bind (reads_text (countable packet.column.schema (by simp))) ?_
  refine reads_bind (reads_text (countable packet.column.table (by simp))) ?_
  refine reads_bind (reads_text (countable packet.column.orgTable (by simp))) ?_
  refine reads_bind (reads_text (countable packet.column.name (by simp))) ?_
  refine reads_bind (reads_text (countable packet.column.orgName (by simp))) ?_
  refine reads_bind (Read.intLenenc_write (UInt64.ofNat ColumnTail.size)) ?_
  exact reads_map _ packet.reads_tail

theorem ofPayload_encode_append {packet : ColumnPacket} (encodable : packet.Encodable)
    (trailing : Bytes) :
    ColumnDefinition.ofPayload (packet.encode ++ trailing) = .ok packet.column := by
  rw [ColumnDefinition.ofPayload, reads_encode encodable]
  rfl

theorem ofPayload_encode {packet : ColumnPacket} (encodable : packet.Encodable) :
    ColumnDefinition.ofPayload packet.encode = .ok packet.column := by
  have read := ofPayload_encode_append encodable []
  rwa [List.append_nil] at read

end ColumnPacket

/-- No length starts like an error, so a report in place of a definition is refused before
its code is read. -/
theorem ColumnDefinition.ofPayload_of_marked {payload : Bytes}
    (marked : payload.head? = some 0xFF) :
    ColumnDefinition.ofPayload payload = .error .invalidPacket := by
  cases payload with
  | nil => cases marked
  | cons first rest =>
      cases marked
      rfl

/-! ## Packets that are cut short -/

theorem ColumnTail.waits_read : Waits ColumnTail.read := by
  unfold ColumnTail.read
  refine waits_bind (Read.waits_word 2 _) fun charset => ?_
  refine waits_bind (Read.waits_word 4 _) fun columnLength => ?_
  refine waits_bind Read.waits_int1 fun typeId => ?_
  refine waits_bind (Read.waits_word 2 _) fun flags => ?_
  refine waits_bind Read.waits_int1 fun decimals => ?_
  exact waits_bind (Read.waits_word 2 _) fun _ => waits_pure _

namespace ColumnDefinition

theorem waits_readText : Waits readText :=
  waits_bind Read.waits_stringLenenc fun _ => waits_pure _

theorem waits_read : Waits read := by
  unfold read
  refine waits_bind Read.waits_stringLenenc fun _ => ?_
  refine waits_bind waits_readText fun schema => ?_
  refine waits_bind waits_readText fun table => ?_
  refine waits_bind waits_readText fun orgTable => ?_
  refine waits_bind waits_readText fun name => ?_
  refine waits_bind waits_readText fun orgName => ?_
  refine waits_bind Read.waits_intLenenc fun _ => ?_
  exact waits_bind ColumnTail.waits_read fun tail => waits_pure _

end ColumnDefinition

/-- The flags of a column are the bits of the word that have a name: all sixteen. -/
theorem ColumnFlags.toNat_ofBits (word : UInt16) :
    (ColumnFlags.ofBits word).bits.toNat = ColumnFlags.table.truncate word.toNat := by
  have mask : ColumnFlags.table.mask = 2 ^ 16 - 1 := by decide
  have small : word.toNat < 2 ^ 16 := word.toNat_lt
  rw [ColumnFlags.ofBits, FlagTable.truncate, mask, Nat.and_two_pow_sub_one_of_lt_two_pow small]

namespace ColumnPacket

/-- The definition that was sent is read back with any bytes behind it, whatever its texts,
type and reserved bytes; its flags are the named ones among the bits that were sent.  Cut
short anywhere, it is not read at all: the reader reports that bytes are missing. -/
theorem whole_definition_reads_back {packet : ColumnPacket} (encodable : packet.Encodable) :
    (∀ trailing : Bytes,
      ColumnDefinition.ofPayload (packet.encode ++ trailing) = .ok packet.column) ∧
    packet.column.flags.bits.toNat =
      ColumnFlags.table.truncate packet.column.flags.bits.toNat ∧
    ∀ part : Bytes, part <+: packet.encode → part ≠ packet.encode →
      ColumnDefinition.ofPayload part = .error .unexpectedEof := by
  refine ⟨ofPayload_encode_append encodable, ColumnFlags.toNat_ofBits _, ?_⟩
  intro part cut short
  have missing := Read.unexpectedEof_of_cut ColumnDefinition.waits_read (reads_encode encodable)
    cut short
  rw [ColumnDefinition.ofPayload, missing]
  rfl

/-- A text beyond ASCII, a type id that no type has, every flag, and reserved bytes that would
mark NULL and an error. -/
theorem unknown_type_reads_back_whole_only :
    let packet : ColumnPacket :=
      { catalog := "é"
        column := { name := "größe", typeId := 0x42, flags := ⟨0xFFFF⟩, decimals := 31 }
        reserved := 0xFFFB }
    packet.Encodable ∧ packet.encode.length = 28 ∧
      ColumnDefinition.ofPayload (packet.encode ++ [0xFB]) = .ok packet.column ∧
      ∀ length < 28, ColumnDefinition.ofPayload (packet.encode.take length) =
        .error .unexpectedEof := by
  intro packet
  have encodable : packet.Encodable := by decide
  have total : packet.encode.length = 28 := by decide
  obtain ⟨back, _, short⟩ := whole_definition_reads_back encodable
  refine ⟨encodable, total, back [0xFB], ?_⟩
  intro length cut
  refine short _ (List.take_prefix length packet.encode) fun same => ?_
  have kept := congrArg List.length same
  rw [List.length_take, total] at kept
  omega

end ColumnPacket

end RowCursor
