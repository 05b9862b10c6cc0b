import RowCursor.Proofs.Cursor.FailedFetch

/-!
# Where a cursor stands

An open cursor stands before the first row, on a row or behind the last one, or its result
is empty (`Place`).  What it answers about itself fits one place only, except when the end
was reached without a row and the server had not announced it: then the cursor is behind
the last row and still says that it is before the first (`standsAt_iff`).  A row is known to
be the last one once no other follows, unless that was learnt from an empty batch
(`isLast_iff_of_known`).

Both rest on what every open cursor keeps (`Placed`), and that on one rule for all such
properties (`Reachable.keeps`).
-/

set_option autoImplicit false

namespace RowCursor.ResultCursor

variable {cursor later : ResultCursor} {columns : Columns}

/-! ## What every open cursor keeps -/

/-- What holds of a created cursor and is kept by a new batch, by the move to the next row
and by the end, holds of every open cursor. -/
theorem Reachable.keeps {Holds : ResultCursor → Prop}
    (created : ∀ statementId columns options, Holds (create statementId columns options))
    (withBatch : ∀ (cursor : ResultCursor) batch last, cursor.Regular → Holds cursor →
      cursor.hasNextKnown? = none → Holds (cursor.withBatch batch last))
    (advance : ∀ cursor : ResultCursor, Holds cursor → cursor.hasNextKnown? = some true →
      Holds cursor.advance)
    (finish : ∀ cursor : ResultCursor, Holds cursor → cursor.hasNextKnown? = some false →
      Holds cursor.finish)
    (reached : cursor.Reachable) (opened : cursor.columns = some columns) : Holds cursor := by
  -- A question leaves the cursor alone or brings a batch.
  have asking : ∀ {σ : Type} [RowSession σ] {cursor : ResultCursor} (session : σ),
      cursor.Regular → cursor.columns = some columns → Holds cursor →
        Holds (hasNext.after (cursor, session)).1 := by
    intro σ _ cursor session regular opened holds
    have outcome := hasNext_outcome regular opened session
    unfold Step.after
    generalize hasNext (cursor, session) = result at outcome ⊢
    cases outcome with
    | known answer known => exact holds
    | fetched batch after needed fetched => exact withBatch _ batch _ regular holds needed
    | failed error after needed failed => exact holds
  induction reached with
  | created statementId columns options => exact created statementId columns options
  | closed _ _ => cases opened
  | asked session reached ih =>
      have before := (continues_hasNext _ session).columns_eq columns opened
      exact asking session (reached.regular before) before (ih before)
  | @moved σ _ cursor session reached ih =>
      have before := (continues_next _ session).columns_eq columns opened
      have regular := reached.regular before
      have behind := asking session regular before (ih before)
      have outcome := next_outcome regular before session
      unfold Step.after at opened ⊢
      generalize next (cursor, session) = result at outcome opened ⊢
      cases outcome with
      | failed error after needed failed => exact ih before
      | ended later after asked =>
          rw [Step.after, asked] at behind
          exact finish later behind (hasNextKnown?_of_hasNext regular before asked)
      | handed later after row asked found =>
          rw [Step.after, asked] at behind
          exact advance later behind (hasNextKnown?_of_hasNext regular before asked)
      | refused later after error asked found =>
          rw [Step.after, asked] at behind
          exact advance later behind (hasNextKnown?_of_hasNext regular before asked)

/-- What the flags and counts of an open cursor say about each other. -/
structure Placed (cursor : ResultCursor) : Prop where
  batchTaken_le_taken : cursor.batchTaken ≤ cursor.taken
  /-- An empty batch was not asked for in vain, and the first one was announced or not. -/
  of_batch_eq_empty : cursor.batch = some #[] →
    cursor.maxRowsReached = false ∧ (cursor.taken = 0 → cursor.isEmpty = cursor.lastRowFetched)
  of_isAfterLast : cursor.isAfterLast = true →
    cursor.isEmpty = false ∧ cursor.hasNextKnown? = some false

theorem Placed.withBatch (regular : cursor.Regular) (placed : cursor.Placed)
    (needed : cursor.hasNextKnown? = none) (batch : Array PacketRow) (last : Bool) :
    (cursor.withBatch batch last).Placed := by
  obtain ⟨unlimited, before⟩ := of_hasNextKnown?_eq_none needed
  refine ⟨Nat.zero_le _, ?_, ?_⟩
  · intro empty
    refine ⟨unlimited, ?_⟩
    intro nothing
    have arrived : batch = #[] := Option.some.inj empty
    rcases before with first | ⟨old, present, nonempty, used, _⟩
    · have more := (regular.of_batch_eq_none first).1
      have full := regular.isEmpty_eq_false needed
      cases last <;> simp [ResultCursor.withBatch, first, arrived, more, full]
    · -- A batch with rows was used up, so some row was passed.
      have rows : 0 < old.size := Array.size_pos_iff.mpr (Array.isEmpty_eq_false_iff.mp nonempty)
      have passed := placed.batchTaken_le_taken
      simp only [ResultCursor.withBatch] at nothing
      omega
  · intro behind
    have known := (placed.of_isAfterLast behind).2
    rw [needed] at known
    cases known

theorem Placed.advance (placed : cursor.Placed) (more : cursor.hasNextKnown? = some true) :
    cursor.advance.Placed := by
  obtain ⟨_, batch, present, room⟩ := of_hasNextKnown?_eq_true more
  refine ⟨Nat.succ_le_succ placed.batchTaken_le_taken, ?_, ?_⟩
  · intro empty
    have none : batch = #[] := Option.some.inj (present.symm.trans empty)
    rw [none] at room
    exact absurd room (Nat.not_lt_zero _)
  · intro behind
    have known := (placed.of_isAfterLast behind).2
    rw [more] at known
    cases known

theorem Placed.finish (placed : cursor.Placed) (ended : cursor.hasNextKnown? = some false) :
    cursor.finish.Placed := by
  refine ⟨placed.batchTaken_le_taken, placed.of_batch_eq_empty, ?_⟩
  intro behind
  refine ⟨?_, ended⟩
  simp only [ResultCursor.finish, Bool.or_eq_true, Bool.not_eq_true'] at behind
  rcases behind with already | full
  · exact (placed.of_isAfterLast already).1
  · exact full

theorem Reachable.placed (reached : cursor.Reachable) (opened : cursor.columns = some columns) :
    cursor.Placed := by
  refine reached.keeps ?_ ?_ ?_ ?_ opened
  · intro statementId columns options
    refine ⟨Nat.le_refl 0, ?_, ?_⟩
    · intro empty
      cases empty
    · intro behind
      cases behind
  · intro cursor batch last regular placed needed
    exact placed.withBatch regular needed batch last
  · intro cursor placed more
    exact placed.advance more
  · intro cursor placed ended
    exact placed.finish ended

/-! ## Places -/

/-- The places of an open cursor. -/
inductive Place where
  | emptyResult
  | beforeFirst
  | onRow
  | afterLast

/-- The cursor answers that it stands at the place. -/
def StandsAt (cursor : ResultCursor) : Place → Prop
  | .emptyResult => cursor.isEmpty = true
  | .beforeFirst => cursor.isBeforeFirst = true
  | .onRow => 1 ≤ cursor.currentRowNumber
  | .afterLast => cursor.isAfterLast = true

/-- The place that the flags and the count give, the end before the beginning. -/
def place (cursor : ResultCursor) : Place :=
  if cursor.isEmpty then .emptyResult
  else if cursor.isAfterLast then .afterLast
  else if cursor.taken = 0 then .beforeFirst
  else .onRow

/-- The end was reached, no row was passed, and yet the result is not marked as empty. -/
def EndedWithoutRow (cursor : ResultCursor) : Prop :=
  cursor.isAfterLast = true ∧ cursor.taken = 0

theorem currentRowNumber_of_open (opened : cursor.isClosed = false) :
    cursor.currentRowNumber = if cursor.isAfterLast then 0 else cursor.taken := by
  simp [currentRowNumber, opened]

/-- A cursor says that it is at its place, and besides at most that it is before the first
row. -/
theorem standsAt_iff (regular : cursor.Regular) (placed : cursor.Placed)
    (opened : cursor.isClosed = false) (place : Place) :
    cursor.StandsAt place ↔
      place = cursor.place ∨ place = .beforeFirst ∧ cursor.EndedWithoutRow := by
  have numbered := currentRowNumber_of_open opened
  cases empty : cursor.isEmpty with
  | true =>
      -- Nothing was passed, and the end is not marked.
      have nothing := (regular.of_isEmpty empty).2
      have open_ : cursor.isAfterLast = false := by
        cases behind : cursor.isAfterLast with
        | false => rfl
        | true =>
            have full := (placed.of_isAfterLast behind).1
            rw [empty] at full
            cases full
      cases place <;>
        simp [StandsAt, ResultCursor.place, EndedWithoutRow, isBeforeFirst, numbered, empty, nothing,
          open_]
  | false =>
      cases behind : cursor.isAfterLast with
      | true =>
          cases place <;>
            simp [StandsAt, ResultCursor.place, EndedWithoutRow, isBeforeFirst, numbered, empty,
              behind]
      | false =>
          by_cases nothing : cursor.taken = 0
          · cases place <;>
              simp [StandsAt, ResultCursor.place, EndedWithoutRow, isBeforeFirst, numbered, empty,
                behind, nothing]
          · have passed : 1 ≤ cursor.taken := Nat.one_le_iff_ne_zero.mpr nothing
            cases place <;>
              simp [StandsAt, ResultCursor.place, EndedWithoutRow, isBeforeFirst, numbered, empty,
                behind, nothing, passed]

theorem EndedWithoutRow.place_eq (placed : cursor.Placed) (ended : cursor.EndedWithoutRow) :
    cursor.place = .afterLast := by
  have full := (placed.of_isAfterLast ended.1).1
  simp [ResultCursor.place, full, ended.1]

/-- No row was admitted, or the first batch came empty and was not announced as the last. -/
theorem EndedWithoutRow.cause (placed : cursor.Placed)
    (opened : cursor.columns = some columns) (ended : cursor.EndedWithoutRow) :
    cursor.options.maxRows = some 0 ∨
      cursor.batch = some #[] ∧ cursor.lastRowFetched = false := by
  obtain ⟨behind, nothing⟩ := ended
  obtain ⟨full, known⟩ := placed.of_isAfterLast behind
  rcases of_hasNextKnown?_eq_false opened known with limited | ⟨batch, present, used, _⟩
  · left
    unfold maxRowsReached at limited
    split at limited
    · rename_i limit bound
      have zero : limit = 0 := by simpa [nothing] using limited
      rw [bound, zero]
    · cases limited
  · right
    have passed := placed.batchTaken_le_taken
    have none : batch = #[] := Array.size_eq_zero_iff.mp (by omega)
    rw [none] at present
    have told := (placed.of_batch_eq_empty present).2 nothing
    exact ⟨present, told.symm.trans full⟩

/-- Every open cursor says of one place only that it stands there, except that one which
came to the end without a row, and not because of an announced empty result, says it of two:
behind the last row and before the first. -/
theorem one_place_unless_ended_without_row (reached : cursor.Reachable)
    (opened : cursor.isClosed = false) :
    ((∃! place, cursor.StandsAt place) ↔ ¬cursor.EndedWithoutRow) ∧
      (cursor.EndedWithoutRow →
        (∀ place, cursor.StandsAt place ↔ place = .afterLast ∨ place = .beforeFirst) ∧
          (cursor.options.maxRows = some 0 ∨
            cursor.batch = some #[] ∧ cursor.lastRowFetched = false)) := by
  obtain ⟨columns, present⟩ := exists_columns opened
  have regular := reached.regular present
  have placed := reached.placed present
  have stands := standsAt_iff regular placed opened
  have both : cursor.EndedWithoutRow →
      ∀ place, cursor.StandsAt place ↔ place = .afterLast ∨ place = .beforeFirst := by
    intro ended place
    rw [stands, ended.place_eq placed, and_iff_left ended]
  refine ⟨⟨?_, ?_⟩, ?_⟩
  · rintro ⟨place, _, only⟩ ended
    have last := only .afterLast ((both ended _).mpr (.inl rfl))
    have first := only .beforeFirst ((both ended _).mpr (.inr rfl))
    rw [← first] at last
    cases last
  · intro going
    refine ⟨cursor.place, (stands _).mpr (.inl rfl), ?_⟩
    intro other said
    rcases (stands other).mp said with same | ⟨_, ended⟩
    · exact same
    · exact absurd ended going
  · intro ended
    exact ⟨both ended, ended.cause placed present⟩

/-- A row with one byte was handed out; it is all that was asked for. -/
theorem first_row_is_one_place :
    let server : ScriptedServer := { replies := [.deliver [[0x00, 0x00, 5]] none none] }
    let cursor := (next.after (create 7 #[.ofType .tiny] {}, server)).1
    cursor.Reachable ∧ cursor.isClosed = false ∧ cursor.StandsAt .onRow ∧
      ∃! place, cursor.StandsAt place := by
  intro server cursor
  have reached : cursor.Reachable := .moved server (.created 7 #[.ofType .tiny] {})
  have opened : cursor.isClosed = false := by decide +kernel
  have passed : cursor.taken = 1 := by decide +kernel
  have number : cursor.currentRowNumber = 1 := by decide +kernel
  refine ⟨reached, opened, Nat.le_of_eq number.symm, ?_⟩
  refine (one_place_unless_ended_without_row reached opened).1.mpr ?_
  rintro ⟨_, nothing⟩
  rw [passed] at nothing
  cases nothing

/-- The first batch comes empty, without a word that it is the last. -/
theorem unannounced_empty_result_is_at_both_ends :
    let server : ScriptedServer := { replies := [.deliver [] none none] }
    let cursor := (next.after (create 7 #[.ofType .tiny] {}, server)).1
    cursor.Reachable ∧ cursor.isClosed = false ∧ cursor.StandsAt .beforeFirst ∧
      cursor.StandsAt .afterLast ∧ ¬∃! place, cursor.StandsAt place := by
  intro server cursor
  have reached : cursor.Reachable := .moved server (.created 7 #[.ofType .tiny] {})
  have opened : cursor.isClosed = false := by decide +kernel
  have first : cursor.isBeforeFirst = true := by decide +kernel
  have last : cursor.isAfterLast = true := by decide +kernel
  refine ⟨reached, opened, first, last, ?_⟩
  rintro ⟨place, _, only⟩
  have same : Place.beforeFirst = .afterLast :=
    (only .beforeFirst first).trans (only .afterLast last).symm
  cases same

/-! ## The last row -/

theorem hasRows_eq (cursor : ResultCursor) :
    cursor.hasRows = true ↔ ∃ batch, cursor.batch = some batch ∧ batch ≠ #[] := by
  unfold hasRows
  cases cursor.batch with
  | none => simp
  | some batch => simp

/-- On a row, and with the answer of `hasNext` known, the row is known to be the last one
exactly if no other follows and the last batch was not empty. -/
theorem isLast_iff_of_known {more : Bool} (regular : cursor.Regular) (placed : cursor.Placed)
    (opened : cursor.columns = some columns) (standing : 1 ≤ cursor.currentRowNumber)
    (known : cursor.hasNextKnown? = some more) :
    cursor.isLast = true ↔ more = false ∧ cursor.hasRows = true := by
  rw [currentRowNumber_of_open (isClosed_eq_false opened)] at standing
  have before : cursor.isAfterLast = false := by
    cases behind : cursor.isAfterLast with
    | false => rfl
    | true => simp [behind] at standing
  have passed : cursor.taken ≠ 0 := by
    simp only [before, Bool.false_eq_true, if_false] at standing
    omega
  rw [hasRows_eq]
  cases more with
  | true =>
      obtain ⟨unlimited, batch, present, room⟩ := of_hasNextKnown?_eq_true known
      have inside : cursor.batchTaken ≠ batch.size := Nat.ne_of_lt room
      simp [isLast, before, passed, unlimited, present, inside]
  | false =>
      rcases of_hasNextKnown?_eq_false opened known with limited | ⟨batch, present, used, ended⟩
      · -- A limit that was reached is not reached by an empty batch.
        have rows : ∃ batch, cursor.batch = some batch ∧ batch ≠ #[] := by
          cases present : cursor.batch with
          | none => exact absurd (regular.of_batch_eq_none present).2.2 passed
          | some batch =>
              refine ⟨batch, rfl, ?_⟩
              rintro rfl
              have unlimited := (placed.of_batch_eq_empty present).1
              rw [limited] at unlimited
              cases unlimited
        simp [isLast, before, passed, limited, rows]
      · have bound := regular.batchTaken_le
        rw [present, Option.getD_some] at bound
        have whole : cursor.batchTaken = batch.size := Nat.le_antisymm bound used
        by_cases empty : batch = #[]
        · have unlimited := (placed.of_batch_eq_empty (empty ▸ present)).1
          simp [isLast, before, passed, unlimited, present, whole, empty]
        · have last : cursor.lastRowFetched = true := ended.resolve_left empty
          simp [isLast, before, passed, present, whole, empty, last]

section

variable {σ : Type} [RowSession σ]

/-- Once a question on a row was answered, the cursor still stands on that row, and knows it
to be the last one exactly if no other follows and the last batch was not empty. -/
theorem isLast_iff_after_question {session after : σ} {more : Bool} (reached : cursor.Reachable)
    (opened : cursor.isClosed = false) (standing : 1 ≤ cursor.currentRowNumber)
    (asked : hasNext (cursor, session) = .ok more (later, after)) :
    later.currentRowNumber = cursor.currentRowNumber ∧
      (later.isLast = true ↔ more = false ∧ later.hasRows = true) := by
  obtain ⟨columns, present⟩ := exists_columns opened
  have regular := reached.regular present
  have number := currentRowNumber_of_hasNext asked
  have reading : later.columns = some columns := (columns_of_hasNext asked).trans present
  have behind := reached.of_hasNext asked
  have known := hasNextKnown?_of_hasNext regular present asked
  refine ⟨number, ?_⟩
  exact isLast_iff_of_known (behind.regular reading) (behind.placed reading) reading
    (number ▸ standing) known

/-- The only row arrives together with the news that it is the last. -/
theorem announced_row_is_last :
    let server : ScriptedServer := { replies := [.deliver [[0x00, 0x00, 5]] (some true) none] }
    let state := next.after (create 7 #[.ofType .tiny] {}, server)
    state.1.Reachable ∧ state.1.isClosed = false ∧ 1 ≤ state.1.currentRowNumber ∧
      hasNext state = .ok false state ∧ state.1.isLast = true := by
  intro server state
  have reached : state.1.Reachable := .moved server (.created 7 #[.ofType .tiny] {})
  have opened : state.1.isClosed = false := by decide +kernel
  have standing : 1 ≤ state.1.currentRowNumber := by decide +kernel
  have known : state.1.hasNextKnown? = some false := by decide +kernel
  have rows : state.1.hasRows = true := by decide +kernel
  have asked : hasNext state = .ok false state := hasNext_of_known known
  refine ⟨reached, opened, standing, asked, ?_⟩
  exact (isLast_iff_after_question reached opened standing asked).2.mpr ⟨rfl, rows⟩

/-- That the only row was the last one is learnt from an empty batch. -/
theorem row_before_empty_batch_is_not_last :
    let server : ScriptedServer :=
      { replies := [.deliver [[0x00, 0x00, 5]] none none, .deliver [] (some true) none] }
    let state := next.after (create 7 #[.ofType .tiny] {}, server)
    let later := (hasNext.after state).1
    state.1.Reachable ∧ state.1.isClosed = false ∧ 1 ≤ state.1.currentRowNumber ∧
      hasNext.answer state = .ok false ∧ later.currentRowNumber = 1 ∧ later.isLast = false := by
  intro server state later
  refine ⟨.moved server (.created 7 #[.ofType .tiny] {}), ?_⟩
  decide +kernel

end

end RowCursor.ResultCursor
