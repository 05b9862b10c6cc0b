import RowCursor.Proofs.Codec.Sequence
import RowCursor.Proofs.Codec.Width

/-!
# What a failed read says

A reader of the basic data fails for one of two reasons, and its error tells which.  Either
the data break off, and with the right bytes behind them they would be read: then bytes are
missing.  Or no bytes behind them help: then the packet is invalid.  Such a reader never has
to be asked again with more bytes to learn that the data are wrong, and it never calls wrong
what is only cut short.

A length prefix may announce up to `2 ^ 64 - 1` bytes, so the bytes that would help may be more
than any memory holds.
-/

set_option autoImplicit false

namespace RowCursor.Read

variable {α β : Type} {item : Reader α} {next : α → Reader β} {data : Bytes}

def Succeeds (item : Reader α) (data : Bytes) : Prop :=
  ∃ value rest, item data = .ok (value, rest)

/-- A success depends on nothing behind what was taken, and an error tells whether more bytes
would help. -/
structure Diagnoses (item : Reader α) : Prop where
  reads_append : ∀ data value rest, item data = .ok (value, rest) →
    rest <:+ data ∧ ∀ more, item (data ++ more) = .ok (value, rest ++ more)
  unexpectedEof_iff : ∀ data, item data = .error .unexpectedEof ↔
    ¬ Succeeds item data ∧ ∃ more, Succeeds item (data ++ more)
  invalidPacket_iff : ∀ data, item data = .error .invalidPacket ↔
    ∀ more, ¬ Succeeds item (data ++ more)

/-- A failure is either put down to an invalid packet, or mended by more bytes. -/
def Mendable (item : Reader α) : Prop :=
  ∀ data error, item data = .error error →
    error = .invalidPacket ∨ error = .unexpectedEof ∧ ∃ more, Succeeds item (data ++ more)

theorem not_succeeds_of_error {error : Error} (failed : item data = .error error) :
    ¬ Succeeds item data := by
  rintro ⟨value, rest, read⟩
  rw [failed] at read
  cases read

theorem exists_error_of_not_succeeds (fails : ¬ Succeeds item data) :
    ∃ error, item data = .error error := by
  cases read : item data with
  | error error => exact ⟨error, rfl⟩
  | ok pair => exact absurd ⟨pair.1, pair.2, read⟩ fails

/-! ## From the errors of a reader to what they mean -/

/-- A reader that waits for bytes does not fail otherwise where more of them help. -/
theorem Waits.succeeds_or_unexpectedEof (waits : Waits item) {more : Bytes}
    (later : Succeeds item (data ++ more)) :
    Succeeds item data ∨ item data = .error .unexpectedEof := by
  obtain ⟨value, rest, read⟩ := later
  rcases waits data more value rest read with ⟨left, early, _⟩ | missing
  · exact Or.inl ⟨value, left, early⟩
  · exact Or.inr missing

theorem diagnoses (takes : TakesPrefix item) (waits : Waits item) (mendable : Mendable item) :
    Diagnoses item where
  reads_append data value rest read := by
    obtain ⟨used, rfl, again⟩ := takes data value rest read
    refine ⟨List.suffix_append used rest, fun more => ?_⟩
    rw [List.append_assoc]
    exact again (rest ++ more)
  unexpectedEof_iff data := by
    constructor
    · intro failed
      rcases mendable data _ failed with invalid | ⟨_, mended⟩
      · cases invalid
      · exact ⟨not_succeeds_of_error failed, mended⟩
    · rintro ⟨fails, more, later⟩
      exact (waits.succeeds_or_unexpectedEof later).resolve_left fails
  invalidPacket_iff data := by
    constructor
    · intro failed more later
      rcases waits.succeeds_or_unexpectedEof later with early | missing
      · exact not_succeeds_of_error failed early
      · rw [failed] at missing
        cases missing
    · intro hopeless
      have fails : ¬ Succeeds item data := by
        have now := hopeless []
        rwa [List.append_nil] at now
      obtain ⟨error, failed⟩ := exists_error_of_not_succeeds fails
      rcases mendable data error failed with invalid | ⟨_, more, mended⟩
      · rw [failed, invalid]
      · exact absurd mended (hopeless more)

/-! ## Readers whose failures more bytes may mend -/

theorem mendable_invalidPacket : Mendable (throw .invalidPacket : Reader α) := by
  intro data error failed
  cases failed
  exact Or.inl rfl

namespace Spans

variable {width : Nat}

theorem succeeds (spans : Spans item width) (enough : width ≤ data.length) :
    Succeeds item data := by
  obtain ⟨value, read⟩ := spans.exists_read enough
  exact ⟨value, data.drop width, read⟩

/-- Any bytes do, if there are enough of them. -/
theorem mendable (spans : Spans item width) : Mendable item := by
  intro data error failed
  rcases Nat.lt_or_ge data.length width with short | enough
  · rw [spans.short data short] at failed
    cases failed
    refine Or.inr ⟨rfl, List.replicate width 0, spans.succeeds ?_⟩
    rw [List.length_append, List.length_replicate]
    exact Nat.le_add_left width data.length
  · exact absurd (spans.succeeds enough) (not_succeeds_of_error failed)

theorem exists_succeeds (spans : Spans item width) : ∃ data, Succeeds item data :=
  ⟨List.replicate width 0, spans.succeeds (Nat.le_of_eq List.length_replicate.symm)⟩

end Spans

theorem mendable_bind (takes : TakesPrefix item) (first : Mendable item)
    (later : ∀ value, Mendable (next value))
    (mended : ∀ data, item data = .error .unexpectedEof →
      ∃ more, Succeeds (item >>= next) (data ++ more)) : Mendable (item >>= next) := by
  intro data error failed
  rw [bind_apply] at failed
  cases taken : item data with
  | error cause =>
      rw [taken] at failed
      cases failed
      rcases first data error taken with invalid | ⟨rfl, _⟩
      · exact Or.inl invalid
      · exact Or.inr ⟨rfl, mended data taken⟩
  | ok pair =>
      obtain ⟨value, rest⟩ := pair
      rw [taken] at failed
      rcases later value rest error failed with invalid | ⟨missing, more, result, left, read⟩
      · exact Or.inl invalid
      · obtain ⟨used, rfl, again⟩ := takes _ _ _ taken
        refine Or.inr ⟨missing, more, result, left, ?_⟩
        rw [bind_apply, List.append_assoc, again]
        exact read

/-- Where the second of two reads can succeed at all, what mends the first mends both: of the
bytes that do, those that the first takes are followed by the second's. -/
theorem mendable_bind_of_possible (takes : TakesPrefix item) (first : Mendable item)
    (later : ∀ value, Mendable (next value))
    (possible : ∀ value, ∃ data, Succeeds (next value) data) : Mendable (item >>= next) := by
  refine mendable_bind takes first later fun data failed => ?_
  rcases first data _ failed with invalid | ⟨_, more, value, rest, mended⟩
  · cases invalid
  · obtain ⟨used, parted, again⟩ := takes _ _ _ mended
    obtain ⟨behind, result, left, read⟩ := possible value
    rcases List.append_eq_append_iff.mp parted with ⟨missing, rfl, _⟩ | ⟨unread, rfl, _⟩
    · refine ⟨missing ++ behind, result, left, ?_⟩
      rw [bind_apply, ← List.append_assoc, again]
      exact read
    · -- What the first takes stands in the data already, so it did not fail on them.
      rw [again] at failed
      cases failed

/-- Two of the first bytes are refused whatever follows, so it is not every second read that
can succeed; but a missing first byte can be one that stands for itself. -/
theorem mendable_intLenenc : Mendable intLenenc := by
  refine mendable_bind takesPrefix_int1 spans_int1.mendable (fun first => ?_) ?_
  · split_ifs
    · exact (spans_map _ spans_int2).mendable
    · exact (spans_map _ spans_int3).mendable
    · exact spans_int8.mendable
    · exact mendable_invalidPacket
    · exact (spans_pure _).mendable
  · intro data failed
    cases data with
    | nil => exact ⟨[0], 0, [], rfl⟩
    | cons byte rest => cases failed

theorem mendable_lenencLength : Mendable lenencLength := by
  intro data error failed
  cases data with
  | nil =>
      cases failed
      exact Or.inr ⟨rfl, [nullMarker], none, [], lenencLength_of_marker []⟩
  | cons first tail =>
      by_cases marker : first = nullMarker
      · subst first
        rw [lenencLength_of_marker] at failed
        cases failed
      · rw [lenencLength_of_ne tail marker] at failed
        cases taken : intLenenc (first :: tail) with
        | ok pair =>
            rw [taken] at failed
            cases failed
        | error cause =>
            rw [taken] at failed
            cases failed
            rcases mendable_intLenenc _ _ taken with invalid | ⟨missing, more, length, rest, read⟩
            · exact Or.inl invalid
            · refine Or.inr ⟨missing, more, some length, rest, ?_⟩
              rw [List.cons_append] at read ⊢
              rw [lenencLength_of_ne _ marker, read]
              rfl

theorem mendable_stringLenenc : Mendable stringLenenc :=
  mendable_bind_of_possible takesPrefix_intLenenc mendable_intLenenc
    (fun length => (spans_fixed length.toNat).mendable)
    fun length => (spans_fixed length.toNat).exists_succeeds

theorem mendable_nullableStringLenenc : Mendable nullableStringLenenc := by
  refine mendable_bind_of_possible takesPrefix_lenencLength mendable_lenencLength
    (fun length => ?_) fun length => ?_
  · cases length with
    | none => exact (spans_pure none).mendable
    | some length => exact (spans_map _ (spans_fixed length.toNat)).mendable
  · cases length with
    | none => exact (spans_pure none).exists_succeeds
    | some length => exact (spans_map _ (spans_fixed length.toNat)).exists_succeeds

/-! ## The readers of the basic data -/

theorem diagnoses_kind (kind : DatumKind) : Diagnoses kind.read := by
  cases kind with
  | int1 => exact diagnoses takesPrefix_int1 waits_int1 spans_int1.mendable
  | int2 => exact diagnoses (takesPrefix_word 2 _) (waits_word 2 _) spans_int2.mendable
  | int3 => exact diagnoses (takesPrefix_word 3 _) (waits_word 3 _) spans_int3.mendable
  | int4 => exact diagnoses (takesPrefix_word 4 _) (waits_word 4 _) spans_int4.mendable
  | int8 => exact diagnoses (takesPrefix_word 8 _) (waits_word 8 _) spans_int8.mendable
  | intLenenc => exact diagnoses takesPrefix_intLenenc waits_intLenenc mendable_intLenenc
  | stringLenenc =>
      exact diagnoses takesPrefix_stringLenenc waits_stringLenenc mendable_stringLenenc
  | nullableStringLenenc =>
      exact diagnoses takesPrefix_nullableStringLenenc waits_nullableStringLenenc
        mendable_nullableStringLenenc

/-- Every reader of the basic data tells data that break off from data that are wrong: words of
any width, length-encoded integers and strings behind a length, a length prefix by itself, and
a fixed count of bytes. -/
theorem basic_readers_diagnose :
    (∀ kind : DatumKind, Diagnoses kind.read) ∧ Diagnoses lenencLength ∧
      ∀ width, Diagnoses (fixed width) := by
  refine ⟨diagnoses_kind, ?_, fun width => ?_⟩
  · exact diagnoses takesPrefix_lenencLength waits_lenencLength mendable_lenencLength
  · exact diagnoses (takesPrefix_fixed width) (waits_fixed width) (spans_fixed width).mendable

end RowCursor.Read
