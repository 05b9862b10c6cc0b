import RowCursor.Proofs.Codec

/-!
# Data written one after the other

Packets are written as one datum behind the other into one buffer, without any separators.
Every datum is read back by the reader of its kind, which stops where the next datum begins
(`Datum.reads`), so a list of data is read back step by step, up to whatever follows it
(`readAll_writeAll`).
-/

set_option autoImplicit false

namespace RowCursor

/-! ## Kinds of data -/

/-- How a datum is read. -/
inductive DatumKind where
  | int1
  | int2
  | int3
  | int4
  | int8
  | intLenenc
  | stringLenenc
  | nullableStringLenenc
  deriving DecidableEq, Repr

namespace DatumKind

/-- What a reader of this kind yields. -/
def Value : DatumKind → Type
  | int1 => UInt8
  | int2 => UInt16
  | int3 => UInt32
  | int4 => UInt32
  | int8 => UInt64
  | intLenenc => UInt64
  | stringLenenc => Bytes
  | nullableStringLenenc => Option Bytes

def read : (kind : DatumKind) → Reader kind.Value
  | int1 => Read.int1
  | int2 => Read.int2
  | int3 => Read.int3
  | int4 => Read.int4
  | int8 => Read.int8
  | intLenenc => Read.intLenenc
  | stringLenenc => Read.stringLenenc
  | nullableStringLenenc => Read.nullableStringLenenc

end DatumKind

/-- Read data of these kinds, one behind the other. -/
def readAll : List DatumKind → Reader (List (Σ kind : DatumKind, kind.Value))
  | [] => pure []
  | kind :: kinds => do
    let value ← kind.read
    let values ← readAll kinds
    return ⟨kind, value⟩ :: values

/-! ## Data -/

/-- A datum as it is handed to its writer. -/
inductive Datum where
  | int1 (value : UInt8)
  | int2 (value : UInt16)
  | int3 (value : UInt32)
  | int4 (value : UInt32)
  | int8 (value : UInt64)
  | intLenenc (value : UInt64)
  | text (content : String)
  | bytes (data : Bytes)
  | nullableBytes (data : Option Bytes)
  deriving DecidableEq, Repr

namespace Datum

def write : Datum → Bytes
  | int1 value => Write.int1 value
  | int2 value => Write.int2 value
  | int3 value => Write.int3 value
  | int4 value => Write.int4 value
  | int8 value => Write.int8 value
  | intLenenc value => Write.intLenenc value
  | text content => Write.stringLenenc content
  | bytes data => Write.bytesLenenc data
  | nullableBytes data => Write.nullableBytesLenenc data

/-- The kind of reader that the datum is meant for.  A text is read as its bytes. -/
def kind : Datum → DatumKind
  | int1 _ => .int1
  | int2 _ => .int2
  | int3 _ => .int3
  | int4 _ => .int4
  | int8 _ => .int8
  | intLenenc _ => .intLenenc
  | text _ => .stringLenenc
  | bytes _ => .stringLenenc
  | nullableBytes _ => .nullableStringLenenc

/-- What is read back: the datum itself, but of a word of three bytes only the low three. -/
def value : (datum : Datum) → datum.kind.Value
  | int1 word => word
  | int2 word => word
  | int3 word => UInt32.ofNat (word.toNat % 2 ^ 24)
  | int4 word => word
  | int8 word => word
  | intLenenc number => number
  | text content => Utf8.encode content
  | bytes data => data
  | nullableBytes data => data

/-- The bytes that stand behind a length. -/
def body : Datum → Bytes
  | text content => Utf8.encode content
  | bytes data => data
  | nullableBytes data => data.getD []
  | _ => []

/-- A byte string is shorter than memory can hold. -/
def Countable (datum : Datum) : Prop := datum.body.length < 2 ^ 63

instance (datum : Datum) : Decidable datum.Countable := inferInstanceAs (Decidable (_ < _))

/-! ## One datum -/

/-- The reader of its kind reads the datum and stops behind it. -/
theorem reads {datum : Datum} (countable : datum.Countable) :
    Read.Reads datum.kind.read datum.write datum.value := by
  cases datum with
  | int1 value => exact Read.int1_write value
  | int2 value => exact Read.int2_write value
  | int3 value => exact Read.int3_write value
  | int4 value => exact Read.int4_write value
  | int8 value => exact Read.int8_write value
  | intLenenc value => exact Read.intLenenc_write value
  | text content => exact Read.stringLenenc_write countable
  | bytes data => exact Read.stringLenenc_write countable
  | nullableBytes data =>
      refine Read.reads_nullable fun bytes holds => ?_
      rw [holds] at countable
      exact countable

end Datum

/-! ## A list of data -/

/-- The bytes of all data, each behind those before it. -/
def writeAll (data : List Datum) : Bytes := data.flatMap Datum.write

/-- What is read back of all data. -/
def valuesOf (data : List Datum) : List (Σ kind : DatumKind, kind.Value) :=
  data.map fun datum => ⟨datum.kind, datum.value⟩

theorem reads_readAll {data : List Datum} (countable : ∀ datum ∈ data, datum.Countable) :
    Read.Reads (readAll (data.map Datum.kind)) (writeAll data) (valuesOf data) := by
  induction data with
  | nil =>
      intro rest
      rfl
  | cons datum data ih =>
      have first := Datum.reads (countable datum List.mem_cons_self)
      have later := ih fun other member => countable other (List.mem_cons_of_mem _ member)
      exact Read.reads_bind first (Read.reads_map _ later)

/-- Data that were written one after the other are read back in order by the readers of
their kinds, with any bytes behind them: after any number of steps the values so far were
read and the data that are left stand in front, and after the last step only what
follows. -/
theorem readAll_writeAll {data : List Datum} (countable : ∀ datum ∈ data, datum.Countable)
    (trailing : Bytes) :
    readAll (data.map Datum.kind) (writeAll data ++ trailing) =
        .ok (valuesOf data, trailing) ∧
      ∀ steps : Nat, readAll ((data.map Datum.kind).take steps) (writeAll data ++ trailing) =
        .ok ((valuesOf data).take steps, writeAll (data.drop steps) ++ trailing) := by
  refine ⟨reads_readAll countable trailing, ?_⟩
  intro steps
  have early : ∀ datum ∈ data.take steps, datum.Countable := fun datum member =>
    countable datum (List.mem_of_mem_take member)
  have parted : writeAll data = writeAll (data.take steps) ++ writeAll (data.drop steps) := by
    rw [writeAll, writeAll, writeAll, ← List.flatMap_append, List.take_append_drop]
  rw [parted, List.append_assoc, ← List.map_take, valuesOf, ← List.map_take]
  exact reads_readAll early _

/-- Forms of every width, reserved first bytes inside of values, and what is lost of a wide
word, read back one after the other. -/
theorem widths_and_markers_read_back :
    let data : List Datum := [.int3 0xFF000001, .intLenenc 250, .intLenenc 251,
      .nullableBytes none, .text "é", .nullableBytes (some []), .bytes [0xFB, 0xFF],
      .intLenenc 0x1000000]
    (∀ datum ∈ data, datum.Countable) ∧
      readAll (data.map Datum.kind) (writeAll data ++ [0xFC]) =
        .ok ([⟨.int3, (1 : UInt32)⟩, ⟨.intLenenc, (250 : UInt64)⟩, ⟨.intLenenc, (251 : UInt64)⟩,
          ⟨.nullableStringLenenc, (none : Option Bytes)⟩,
          ⟨.stringLenenc, ([0xC3, 0xA9] : Bytes)⟩,
          ⟨.nullableStringLenenc, (some [] : Option Bytes)⟩,
          ⟨.stringLenenc, ([0xFB, 0xFF] : Bytes)⟩, ⟨.intLenenc, (0x1000000 : UInt64)⟩],
          [0xFC]) := by
  intro data
  have countable : ∀ datum ∈ data, datum.Countable := by decide
  exact ⟨countable, (readAll_writeAll countable [0xFC]).1⟩

end RowCursor
