import RowCursor.Proofs.Codec

/-!
# Data of fixed width

Words, and records that are made of words, take a fixed count of bytes.  Such a reader
succeeds on any bytes if there are enough of them, and looks at no others (`Spans`).  What it
answers is the value that is written as just these bytes: a word is read off the front exactly
if the front is that word written (`int2_eq_ok_iff` and its siblings).
-/

set_option autoImplicit false

namespace RowCursor.Read

variable {α β : Type} {data rest : Bytes}

/-! ## Which data are read as a value -/

theorem bind_eq_ok_iff {item : Reader α} {next : α → Reader β} {result : β} :
    (item >>= next) data = .ok (result, rest) ↔
      ∃ value behind, item data = .ok (value, behind) ∧ next value behind = .ok (result, rest) := by
  rw [bind_apply]
  constructor
  · intro read
    cases taken : item data with
    | error error => simp [taken] at read
    | ok pair =>
        rw [taken] at read
        exact ⟨pair.1, pair.2, rfl, read⟩
  · rintro ⟨value, behind, taken, read⟩
    rw [taken]
    exact read

/-- What is read after an item stands at the end of the data. -/
theorem exists_suffix_of_bind {item : Reader α} {next : α → Reader β} {result : β}
    (takes : TakesPrefix item) (read : (item >>= next) data = .ok (result, rest)) :
    ∃ value behind, behind <:+ data ∧ next value behind = .ok (result, rest) := by
  obtain ⟨value, behind, first, later⟩ := bind_eq_ok_iff.mp read
  exact ⟨value, behind, suffix_of_takesPrefix takes first, later⟩

theorem pure_eq_ok_iff {value result : α} :
    (pure value : Reader α) data = .ok (result, rest) ↔ value = result ∧ data = rest := by
  constructor
  · intro read
    have same : (value, data) = (result, rest) := Except.ok.inj read
    exact Prod.mk.inj same
  · rintro ⟨rfl, rfl⟩
    rfl

theorem map_eq_ok_iff {item : Reader α} {make : α → β} {result : β} :
    (item >>= fun value => pure (make value)) data = .ok (result, rest) ↔
      ∃ value, item data = .ok (value, rest) ∧ make value = result := by
  rw [bind_eq_ok_iff]
  constructor
  · rintro ⟨value, behind, taken, made⟩
    obtain ⟨rfl, rfl⟩ := pure_eq_ok_iff.mp made
    exact ⟨value, taken, rfl⟩
  · rintro ⟨value, taken, rfl⟩
    exact ⟨value, rest, taken, rfl⟩

theorem exists_rest_of_first {item : Reader α} {value : α}
    (read : (item data).map Prod.fst = .ok value) : ∃ rest, item data = .ok (value, rest) := by
  cases taken : item data with
  | error error =>
      rw [taken] at read
      cases read
  | ok pair =>
      rw [taken] at read
      cases read
      exact ⟨pair.2, rfl⟩

theorem first_of_reads {item : Reader α} {bytes : Bytes} {value : α}
    (reads : Reads item bytes value) : (item bytes).map Prod.fst = .ok value := by
  have whole := reads []
  rw [List.append_nil] at whole
  rw [whole]
  rfl

theorem fixed_eq_ok_iff {width : Nat} {bytes : Bytes} :
    fixed width data = .ok (bytes, rest) ↔ bytes.length = width ∧ data = bytes ++ rest := by
  constructor
  · intro read
    rw [fixed_eq] at read
    split at read
    · rename_i enough
      cases read
      exact ⟨List.length_take_of_le enough, (List.take_append_drop width data).symm⟩
    · cases read
  · rintro ⟨rfl, rfl⟩
    exact fixed_append bytes rest

theorem int1_eq_ok_iff {value : UInt8} :
    int1 data = .ok (value, rest) ↔ data = Write.int1 value ++ rest := by
  cases data with
  | nil => simp [int1, Write.int1]
  | cons byte tail => simp [int1, Write.int1]

/-- A word is read exactly where it was written, if it is one of its width and the numbers of
that width are told apart. -/
theorem word_eq_ok_iff {ofNat : Nat → α} {toNat : α → Nat} (width : Nat)
    (toNat_ofNat : ∀ number < 256 ^ width, toNat (ofNat number) = number)
    (ofNat_toNat : ∀ word, ofNat (toNat word) = word) {word : α} :
    (do return ofNat (ofLittleEndian (← fixed width)) : Reader α) data = .ok (word, rest) ↔
      toNat word < 256 ^ width ∧ data = littleEndian width (toNat word) ++ rest := by
  rw [map_eq_ok_iff]
  constructor
  · rintro ⟨bytes, taken, rfl⟩
    obtain ⟨rfl, rfl⟩ := fixed_eq_ok_iff.mp taken
    rw [toNat_ofNat _ (ofLittleEndian_lt bytes), littleEndian_ofLittleEndian]
    exact ⟨ofLittleEndian_lt bytes, rfl⟩
  · rintro ⟨small, rfl⟩
    refine ⟨_, fixed_littleEndian width (toNat word) rest, ?_⟩
    rw [ofLittleEndian_littleEndian, Nat.mod_eq_of_lt small, ofNat_toNat]

theorem int2_eq_ok_iff {value : UInt16} :
    int2 data = .ok (value, rest) ↔ data = Write.int2 value ++ rest :=
  (word_eq_ok_iff 2 (fun _ small => UInt16.toNat_ofNat_of_lt' small)
    fun _ => UInt16.ofNat_toNat).trans (and_iff_right value.toNat_lt)

/-- Of a wider word, three bytes hold only what needs no more. -/
theorem int3_eq_ok_iff {value : UInt32} :
    int3 data = .ok (value, rest) ↔ value.toNat < 256 ^ 3 ∧ data = Write.int3 value ++ rest :=
  word_eq_ok_iff 3 (fun _ small => UInt32.toNat_ofNat_of_lt' (Nat.lt_trans small (by decide)))
    fun _ => UInt32.ofNat_toNat

theorem int4_eq_ok_iff {value : UInt32} :
    int4 data = .ok (value, rest) ↔ data = Write.int4 value ++ rest :=
  (word_eq_ok_iff 4 (fun _ small => UInt32.toNat_ofNat_of_lt' small)
    fun _ => UInt32.ofNat_toNat).trans (and_iff_right value.toNat_lt)

theorem int8_eq_ok_iff {value : UInt64} :
    int8 data = .ok (value, rest) ↔ data = Write.int8 value ++ rest :=
  (word_eq_ok_iff 8 (fun _ small => UInt64.toNat_ofNat_of_lt' small)
    fun _ => UInt64.ofNat_toNat).trans (and_iff_right value.toNat_lt)

/-! ## Readers that take a fixed count of bytes -/

/-- The reader takes this many bytes, whatever they are, and reports that bytes are missing
if there are fewer. -/
structure Spans (item : Reader α) (width : Nat) : Prop where
  reads : ∀ bytes : Bytes, bytes.length = width → ∃ value, Reads item bytes value
  short : ∀ data : Bytes, data.length < width → item data = .error .unexpectedEof

theorem spans_pure (value : α) : Spans (pure value) 0 where
  reads bytes empty := by
    cases List.eq_nil_of_length_eq_zero empty
    exact ⟨value, fun rest => rfl⟩
  short data negative := absurd negative (Nat.not_lt_zero _)

theorem spans_fixed (width : Nat) : Spans (fixed width) width where
  reads bytes length := by
    subst length
    exact ⟨bytes, fixed_append bytes⟩
  short data short := by rw [fixed_eq, if_neg (Nat.not_le.mpr short)]

theorem spans_int1 : Spans int1 1 where
  reads bytes length := by
    obtain ⟨byte, rfl⟩ := List.length_eq_one_iff.mp length
    exact ⟨byte, fun rest => rfl⟩
  short data short := by
    cases List.eq_nil_of_length_eq_zero (Nat.lt_one_iff.mp short)
    rfl

theorem spans_bind {item : Reader α} {next : α → Reader β} {width more : Nat}
    (first : Spans item width) (later : ∀ value, Spans (next value) more) :
    Spans (item >>= next) (width + more) where
  reads bytes length := by
    have front : (bytes.take width).length = width := List.length_take_of_le (by omega)
    have back : (bytes.drop width).length = more := by
      rw [List.length_drop]
      omega
    obtain ⟨value, reads⟩ := first.reads _ front
    obtain ⟨result, readsLater⟩ := (later value).reads _ back
    have whole := reads_bind reads readsLater
    rw [List.take_append_drop] at whole
    exact ⟨result, whole⟩
  short data short := by
    rw [bind_apply]
    rcases Nat.lt_or_ge data.length width with cut | enough
    · rw [first.short data cut]
    · obtain ⟨value, reads⟩ := first.reads _ (List.length_take_of_le enough)
      have left : (data.drop width).length < more := by
        rw [List.length_drop]
        omega
      rw [← List.take_append_drop width data, reads]
      exact (later value).short _ left

theorem spans_map {item : Reader α} {width : Nat} (make : α → β) (spans : Spans item width) :
    Spans (item >>= fun value => pure (make value)) width :=
  spans_bind spans fun value => spans_pure (make value)

theorem spans_int2 : Spans int2 2 := spans_map _ (spans_fixed 2)

theorem spans_int3 : Spans int3 3 := spans_map _ (spans_fixed 3)

theorem spans_int4 : Spans int4 4 := spans_map _ (spans_fixed 4)

theorem spans_int8 : Spans int8 8 := spans_map _ (spans_fixed 8)

namespace Spans

variable {item : Reader α} {width : Nat}

theorem exists_read (spans : Spans item width) (enough : width ≤ data.length) :
    ∃ value, item data = .ok (value, data.drop width) := by
  obtain ⟨value, reads⟩ := spans.reads _ (List.length_take_of_le enough)
  refine ⟨value, ?_⟩
  have taken := reads (data.drop width)
  rwa [List.take_append_drop] at taken

/-- Any data that are long enough have a first value. -/
theorem exists_first_iff (spans : Spans item width) :
    (∃ value, (item data).map Prod.fst = .ok value) ↔ width ≤ data.length := by
  constructor
  · rintro ⟨value, read⟩
    rcases Nat.lt_or_ge data.length width with cut | enough
    · rw [spans.short data cut] at read
      cases read
    · exact enough
  · intro enough
    obtain ⟨value, read⟩ := spans.exists_read enough
    exact ⟨value, by rw [read]; rfl⟩

theorem first_eq_ok_iff (spans : Spans item width) (whole : data.length = width) {value : α} :
    (item data).map Prod.fst = .ok value ↔ item data = .ok (value, []) := by
  obtain ⟨first, read⟩ := spans.exists_read (Nat.le_of_eq whole.symm)
  rw [List.drop_of_length_le (Nat.le_of_eq whole)] at read
  rw [read]
  constructor
  · intro same
    cases same
    rfl
  · intro same
    cases same
    rfl

/-- The first value is that of the first bytes. -/
theorem first_take (spans : Spans item width) (data : Bytes) :
    (item (data.take width)).map Prod.fst = (item data).map Prod.fst := by
  rcases Nat.lt_or_ge data.length width with cut | enough
  · rw [List.take_of_length_le (Nat.le_of_lt cut)]
  · obtain ⟨value, reads⟩ := spans.reads _ (List.length_take_of_le enough)
    have alone := reads []
    have whole := reads (data.drop width)
    rw [List.append_nil] at alone
    rw [List.take_append_drop] at whole
    rw [alone, whole]
    rfl

end Spans

/-! ## Words as numbers -/

/-- A reader that takes just the words of its width reads the number that their bytes spell. -/
theorem Spans.exists_word {item : Reader α} {width : Nat} {toNat : α → Nat}
    (spans : Spans item width)
    (spelled : ∀ {data rest : Bytes} {word : α}, item data = .ok (word, rest) →
      data = littleEndian width (toNat word) ++ rest)
    (toNat_lt : ∀ word, toNat word < 256 ^ width) (enough : width ≤ data.length) :
    ∃ word, item data = .ok (word, data.drop width) ∧
      littleEndian width (toNat word) = data.take width ∧
      toNat word = ofLittleEndian (data.take width) := by
  obtain ⟨word, read⟩ := spans.exists_read enough
  have front : littleEndian width (toNat word) = data.take width := by
    have whole : littleEndian width (toNat word) ++ data.drop width =
        data.take width ++ data.drop width := by
      rw [← spelled read, List.take_append_drop]
    exact List.append_cancel_right whole
  refine ⟨word, read, front, ?_⟩
  rw [← front, ofLittleEndian_littleEndian, Nat.mod_eq_of_lt (toNat_lt word)]

end RowCursor.Read
