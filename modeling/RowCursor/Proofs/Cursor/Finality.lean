import RowCursor.Proofs.Cursor.Delivery
import RowCursor.Proofs.Cursor.Lifetime

/-!
# The end of a cursor is final

A cursor comes to its end in several ways: the limit is reached, a batch came empty, the
last batch is used up, or the cursor is closed.  In each of them its answer is known
without a fetch, and no later call changes that.  What a call does then is one step
(`Progress.known_move`); the two properties that such steps keep, that no row is left
(`Progress.Over`) and that nothing is fetched (`Progress.Settled`), hold for the rest of
the lifetime.
-/

set_option autoImplicit false

namespace RowCursor

namespace ResultCursor

variable {cursor : ResultCursor}

/-- The cursor is closed, or the last row of the result has arrived. -/
def FetchesNoMore (cursor : ResultCursor) : Prop :=
  cursor.isClosed = true ∨ cursor.lastRowFetched = true ∧ cursor.batch ≠ none

theorem FetchesNoMore.known (settled : cursor.FetchesNoMore) : cursor.hasNextKnown? ≠ none := by
  intro needed
  rcases settled with closed | ⟨last, present⟩
  · rw [hasNextKnown?_of_closed closed] at needed
    cases needed
  · obtain ⟨_, nothing | ⟨_, _, _, _, more⟩⟩ := of_hasNextKnown?_eq_none needed
    · exact present nothing
    · rw [last] at more
      cases more

end ResultCursor

namespace Progress

open ResultCursor

section

variable {σ : Type} [RowSession σ] {progress first later : Progress σ}

/-! ## Calls that do not fetch -/

theorem hasNext_of_known (known : progress.cursor.hasNextKnown? ≠ none) :
    progress.hasNext = progress := by
  obtain ⟨answer, known⟩ := Option.ne_none_iff_exists'.mp known
  exact hasNext_of_ok (ResultCursor.hasNext_of_known known)

/-- What `next` does to a consumer's progress if no fetch is needed. -/
inductive KnownMove (progress : Progress σ) : Prop where
  | closed (closed : progress.cursor.isClosed = true) (ended : Bool)
      (same : progress.next = { progress with ended })
  | finished (opened : progress.cursor.isClosed = false)
      (known : progress.cursor.hasNextKnown? = some false)
      (same : progress.next = { progress with cursor := progress.cursor.finish, ended := true })
  | advanced (opened : progress.cursor.isClosed = false)
      (known : progress.cursor.hasNextKnown? = some true) (handed : List PacketRow)
      (same : progress.next = { progress with cursor := progress.cursor.advance, handed })

theorem known_move (known : progress.cursor.hasNextKnown? ≠ none) : KnownMove progress := by
  by_cases closed : progress.cursor.isClosed = true
  · by_cases nothing : progress.cursor.taken = 0
    · refine .closed closed true ?_
      simp only [next, ResultCursor.next, if_pos closed, if_pos nothing]
    · refine .closed closed progress.ended ?_
      simp only [next, ResultCursor.next, if_pos closed, if_neg nothing]
  · have opened := Bool.eq_false_iff.mpr closed
    obtain ⟨columns, present⟩ := exists_columns opened
    obtain ⟨answer, known⟩ := Option.ne_none_iff_exists'.mp known
    have asked : ResultCursor.hasNext (progress.cursor, progress.session) =
        .ok answer (progress.cursor, progress.session) := ResultCursor.hasNext_of_known known
    cases answer with
    | false =>
        refine .finished opened known ?_
        simp only [next, next_of_end present asked]
    | true =>
        have moved := next_of_more present asked
        cases found : progress.cursor.batchRow progress.cursor.batchTaken with
        | ok row =>
            refine .advanced opened known (progress.handed ++ [row]) ?_
            simp only [next, moved, found]
        | error error =>
            refine .advanced opened known progress.handed ?_
            simp only [next, moved, found]

/-! ## No row is left -/

/-- Asked here, `hasNext` and `next` answer that no row is left, except that `next` is
refused on a closed cursor that had handed out a row. -/
def Finished (progress : Progress σ) : Prop :=
  ResultCursor.hasNext.answer (progress.cursor, progress.session) = .ok false ∧
    ResultCursor.next.answer (progress.cursor, progress.session) =
      if progress.cursor.isClosed && !progress.handed.isEmpty then .error .resultSetClosed
      else .ok none

/-- Since the first moment no row was left, and later calls changed nothing but where the
cursor says that it stands. -/
structure Over (first later : Progress σ) : Prop where
  known : later.cursor.hasNextKnown? = some false
  isClosed_eq : first.cursor.isClosed = true → later.cursor.isClosed = true
  taken_eq : later.cursor.taken = first.cursor.taken
  handed_eq : later.handed = first.handed
  session_eq : later.session = first.session

omit [RowSession σ] in
theorem Over.refl (known : first.cursor.hasNextKnown? = some false) : Over first first :=
  ⟨known, id, rfl, rfl, rfl⟩

theorem Over.of_moves (still : Over first progress) (moves : Moves progress later) :
    Over first later := by
  have answered : progress.cursor.hasNextKnown? ≠ none := by simp [still.known]
  cases moves with
  | stays => exact still
  | hasNext =>
      rw [hasNext_of_known answered]
      exact still
  | next =>
      cases known_move answered with
      | closed closed ended same =>
          rw [same]
          exact { still with }
      | finished opened known same =>
          rw [same]
          exact { still with }
      | advanced opened known handed same =>
          rw [still.known] at known
          cases known

omit [RowSession σ] in
theorem Over.close (still : Over first later) : Over first later.close :=
  { still with known := hasNextKnown?_of_closed rfl, isClosed_eq := fun _ => rfl }

theorem over_lifetime (known : first.cursor.hasNextKnown? = some false)
    (calls : List OwnerCall) : ∀ later ∈ first.lifetime calls, Over first later :=
  forall_mem_lifetime (.refl known) (fun _ _ moves still => still.of_moves moves)
    (fun _ still => still.close) calls

theorem Over.finished (still : Over first later)
    (counted : first.cursor.taken = first.handed.length) : later.Finished := by
  have asked : ResultCursor.hasNext (later.cursor, later.session) =
      .ok false (later.cursor, later.session) := ResultCursor.hasNext_of_known still.known
  refine ⟨by rw [Step.answer, asked], ?_⟩
  cases closed : later.cursor.isClosed with
  | true =>
      have taken : later.cursor.taken = later.handed.length := by
        rw [still.taken_eq, counted, still.handed_eq]
      simp only [Step.answer, ResultCursor.next, closed, taken, if_true, Bool.true_and]
      cases later.handed <;> rfl
  | false =>
      obtain ⟨columns, opened⟩ := exists_columns closed
      rw [Step.answer, next_of_end opened asked]
      rfl

/-! ## Nothing is fetched -/

/-- Since the first moment nothing was to be fetched, and the session was left alone. -/
structure Settled (first later : Progress σ) : Prop where
  fetchesNoMore : later.cursor.FetchesNoMore
  session_eq : later.session = first.session

theorem Settled.of_moves (settled : Settled first progress) (moves : Moves progress later) :
    Settled first later := by
  have answered := settled.fetchesNoMore.known
  cases moves with
  | stays => exact settled
  | hasNext =>
      rw [hasNext_of_known answered]
      exact settled
  | next =>
      -- A step of the cursor through its last batch touches neither flag nor batch.
      cases known_move answered with
      | closed closed ended same =>
          rw [same]
          exact ⟨settled.fetchesNoMore, settled.session_eq⟩
      | finished opened known same =>
          rw [same]
          exact ⟨settled.fetchesNoMore, settled.session_eq⟩
      | advanced opened known handed same =>
          rw [same]
          exact ⟨settled.fetchesNoMore, settled.session_eq⟩

theorem settled_lifetime (fetchesNoMore : first.cursor.FetchesNoMore) (calls : List OwnerCall) :
    ∀ later ∈ first.lifetime calls, Settled first later :=
  forall_mem_lifetime ⟨fetchesNoMore, rfl⟩ (fun _ _ moves settled => settled.of_moves moves)
    (fun _ settled => ⟨.inl rfl, settled.session_eq⟩) calls

end

/-! ## Every moment -/

section

variable {σ : Type} [RowSession σ] {columns : Columns} {options : CursorOptions}
  {progress after : Progress (Recorded σ)}

/-- A fetch succeeded between the two moments, and its end told that the last row was
sent. -/
def FetchedLast (before after : Progress (Recorded σ)) : Prop :=
  after.session.batches ≠ before.session.batches ∧ RowSession.lastRowSent after.session = true

theorem Sound.fetchesNoMore_hasNext (sound : progress.Sound columns options)
    (fetched : FetchedLast progress progress.hasNext) :
    progress.hasNext.cursor.FetchesNoMore := by
  obtain ⟨arrived, last⟩ := fetched
  cases hasNext_move sound.regular sound.opened with
  | known answer known same =>
      rw [same] at arrived
      exact absurd rfl arrived
  | fetched batch after needed fetched same =>
      rw [same] at last ⊢
      refine .inr ⟨?_, Option.some_ne_none batch⟩
      simp only [ResultCursor.withBatch, last, Bool.or_true]
  | failed error after needed failed same =>
      rw [same] at arrived
      exact absurd (fetchBatch_record_of_error failed).2 arrived

/-- What holds at every moment of a lifetime. -/
inductive Consistent (columns : Columns) (options : CursorOptions)
    (progress : Progress (Recorded σ)) : Prop where
  | opened (sound : progress.Sound columns options)
  | closed (closed : progress.cursor.isClosed = true)
      (counted : progress.cursor.taken = progress.handed.length)

namespace Consistent

omit [RowSession σ] in
theorem counted (consistent : progress.Consistent columns options) :
    progress.cursor.taken = progress.handed.length := by
  cases consistent with
  | opened sound => exact sound.taken_eq
  | closed closed counted => exact counted

theorem of_moves (carry : RowsCarry σ) (moves : Moves progress after)
    (consistent : progress.Consistent columns options) : after.Consistent columns options := by
  cases consistent with
  | opened sound => exact .opened (sound.of_moves carry moves)
  | closed closed counted =>
      have still := (Over.refl (hasNextKnown?_of_closed closed)).of_moves moves
      exact .closed (still.isClosed_eq closed) (by rw [still.taken_eq, counted, still.handed_eq])

omit [RowSession σ] in
theorem close (consistent : progress.Consistent columns options) :
    progress.close.Consistent columns options :=
  .closed rfl consistent.counted

/-- A question that is answered in the negative is answered for good. -/
theorem known_of_hasNext (consistent : progress.Consistent columns options)
    (asked : ResultCursor.hasNext.answer (progress.cursor, progress.session) = .ok false) :
    progress.hasNext.cursor.hasNextKnown? = some false := by
  cases consistent with
  | closed closed counted =>
      have known := hasNextKnown?_of_closed closed
      rw [Progress.hasNext_of_known (by simp [known])]
      exact known
  | opened sound =>
      have asked := Step.eq_ok_of_answer asked
      rw [hasNext_of_ok asked]
      exact hasNextKnown?_of_hasNext sound.regular sound.opened asked

/-- A move to the next row that finds none finds none for good. -/
theorem known_of_next (carry : RowsCarry σ) (consistent : progress.Consistent columns options)
    (moved : ResultCursor.next.answer (progress.cursor, progress.session) = .ok none) :
    progress.next.cursor.hasNextKnown? = some false := by
  cases consistent with
  | closed closed counted =>
      exact ((Over.refl (hasNextKnown?_of_closed closed)).of_moves .next).known
  | opened sound =>
      have moved := Step.eq_ok_of_answer moved
      have ended : progress.next.ended = true := by simp only [Progress.next, moved]
      exact (sound.next carry).of_ended ended

/-- A fetch that was told of the last row is the last one. -/
theorem fetchesNoMore_of_fetchedLast (carry : RowsCarry σ)
    (consistent : progress.Consistent columns options) (moves : Moves progress after)
    (fetched : FetchedLast progress after) : after.cursor.FetchesNoMore := by
  cases consistent with
  | closed closed counted =>
      have still := (Over.refl (hasNextKnown?_of_closed closed)).of_moves moves
      exact .inl (still.isClosed_eq closed)
  | opened sound =>
      cases moves with
      | stays => exact absurd rfl fetched.1
      | hasNext => exact sound.fetchesNoMore_hasNext fetched
      | next =>
          have asked : FetchedLast progress progress.hasNext := by
            rw [FetchedLast, ← sound.session_next]
            exact fetched
          have behind := sound.fetchesNoMore_hasNext asked
          cases sound.next_move carry with
          | failed error between needed failed moved same =>
              rw [FetchedLast, same] at fetched
              exact absurd (fetchBatch_record_of_error failed).2 fetched.1
          | ended finished moved same =>
              rw [same]
              exact behind
          | handed row more found moved same =>
              rw [same]
              exact behind

end Consistent

theorem consistent_lifetime (carry : RowsCarry σ) (statementId : UInt32) (columns : Columns)
    (options : CursorOptions) (session : σ) (calls : List OwnerCall) :
    ∀ moment ∈ (start statementId columns options (Recorded.ofSession session)).lifetime calls,
      Consistent columns options moment :=
  forall_mem_lifetime (.opened (sound_start statementId columns options session))
    (fun _ _ moves consistent => consistent.of_moves carry moves)
    (fun _ consistent => consistent.close) calls

/-- Whatever the session does and whatever is called, closing included: the record does not
change the lifetime; once a question or a move found no row left, every later one finds none,
and once a fetch was told of the last row, or the cursor is closed, or no row was left, the
session is left alone for good.  A closed cursor refuses to move exactly if a row had been
handed out. -/
theorem lifetime_ends_for_good (carry : RowsCarry σ) (statementId : UInt32)
    (columns : Columns) (options : CursorOptions) (session : σ) (calls : List OwnerCall) :
    let run := (start statementId columns options (Recorded.ofSession session)).lifetime calls
    run.map withoutRecord = (start statementId columns options session).lifetime calls ∧
    ∀ moment ∈ run, ∀ further : List OwnerCall,
      (ResultCursor.hasNext.answer (moment.cursor, moment.session) = .ok false →
        ∀ later ∈ moment.hasNext.lifetime further,
          later.Finished ∧ later.session = moment.hasNext.session) ∧
      (ResultCursor.next.answer (moment.cursor, moment.session) = .ok none →
        ∀ later ∈ moment.next.lifetime further,
          later.Finished ∧ later.session = moment.next.session) ∧
      (∀ after, Moves moment after → FetchedLast moment after →
        ∀ later ∈ after.lifetime further, later.session = after.session) ∧
      ∀ later ∈ moment.close.lifetime further,
        later.Finished ∧ later.session = moment.session ∧ later.cursor.isClosed = true ∧
          later.handed = moment.handed := by
  intro run
  have consistent : ∀ moment ∈ run, Consistent columns options moment :=
    forall_mem_lifetime (.opened (sound_start statementId columns options session))
      (fun _ _ moves consistent => consistent.of_moves carry moves)
      (fun _ consistent => consistent.close) calls
  refine ⟨withoutRecord_lifetime _ calls, ?_⟩
  intro moment member further
  have here := consistent moment member
  refine ⟨?_, ?_, ?_, ?_⟩
  · intro asked later reached
    have still := over_lifetime (here.known_of_hasNext asked) further later reached
    exact ⟨still.finished (here.of_moves carry .hasNext).counted, still.session_eq⟩
  · intro moved later reached
    have still := over_lifetime (here.known_of_next carry moved) further later reached
    exact ⟨still.finished (here.of_moves carry .next).counted, still.session_eq⟩
  · intro after moves fetched later reached
    have last := here.fetchesNoMore_of_fetchedLast carry moves fetched
    exact (settled_lifetime last further later reached).session_eq
  · intro later reached
    have still := over_lifetime (hasNextKnown?_of_closed rfl) further later reached
    exact ⟨still.finished here.close.counted, still.session_eq, still.isClosed_eq rfl,
      still.handed_eq⟩

/-- A batch with a row, and an empty one that ends the result.  The cursor is read to its
end and closed twice. -/
theorem row_read_and_closed_twice :
    let server : ScriptedServer :=
      { replies := [.deliver [[0x00, 0x00]] none none, .deliver [] (some true) none] }
    let first := (start 7 #[] {} (Recorded.ofSession server)).next
    RowsCarry ScriptedServer ∧ FetchedLast first first.next ∧
      ResultCursor.next.answer (first.cursor, first.session) = .ok none ∧
      (∀ later ∈ first.next.lifetime [.consume .hasNext, .close, .consume .next, .close],
        later.Finished ∧ later.session = first.next.session) ∧
      ∀ later ∈ first.close.lifetime [.consume .next, .close],
        ResultCursor.next.answer (later.cursor, later.session) = .error .resultSetClosed := by
  intro server first
  have carry : RowsCarry ScriptedServer := ScriptedServer.rowsCarry
  have ends := (lifetime_ends_for_good carry 7 #[] {} server [.consume .next]).2 first
    (.tail _ (.head _))
  have fetched : FetchedLast first first.next := by
    constructor <;> decide +kernel
  have drained : ResultCursor.next.answer (first.cursor, first.session) = .ok none := by
    decide +kernel
  refine ⟨carry, fetched, drained, (ends _).2.1 drained, ?_⟩
  intro later reached
  obtain ⟨⟨_, refused⟩, _, closed, same⟩ := (ends _).2.2.2 later reached
  have handed : first.handed.isEmpty = false := by decide +kernel
  rw [refused, closed, same, handed]
  rfl

end

end Progress

end RowCursor
