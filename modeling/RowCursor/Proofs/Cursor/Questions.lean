import RowCursor.Proofs.Cursor.FailedMove
import RowCursor.Proofs.Cursor.Finality
import RowCursor.Proofs.Cursor.Sharing

/-!
# Questions are not noticed

A question fetches what the move behind it would fetch.  Once it was answered, a second
question and the move behind it need no fetch, and the move comes out as if there had been
no question (`next_of_asked`).  By induction on the run, a consumer who puts in questions
before moves sees what it would see without them (`AskingRun.performAll_eq`).
-/

set_option autoImplicit false

namespace RowCursor

namespace ResultCursor

section

variable {σ : Type} [RowSession σ] {cursor later : ResultCursor} {session after : σ}
  {more : Bool}

/-! ## Behind a question -/

theorem hasNextKnown?_of_asked (reached : cursor.Reachable)
    (asked : hasNext (cursor, session) = .ok more (later, after)) :
    later.hasNextKnown? = some more := by
  cases closed : cursor.isClosed with
  | true =>
      have known := hasNextKnown?_of_closed closed
      rw [hasNext_of_known known] at asked
      cases asked
      exact known
  | false =>
      obtain ⟨columns, opened⟩ := exists_columns closed
      exact hasNextKnown?_of_hasNext (reached.regular opened) opened asked

theorem hasNext_of_asked (reached : cursor.Reachable)
    (asked : hasNext (cursor, session) = .ok more (later, after)) :
    hasNext (later, after) = .ok more (later, after) :=
  hasNext_of_known (hasNextKnown?_of_asked reached asked)

/-- The move behind a question comes out as it would without the question. -/
theorem next_of_asked (reached : cursor.Reachable)
    (asked : hasNext (cursor, session) = .ok more (later, after)) :
    next (later, after) = next (cursor, session) := by
  cases closed : cursor.isClosed with
  | true =>
      rw [hasNext_of_known (hasNextKnown?_of_closed closed)] at asked
      cases asked
      rfl
  | false =>
      obtain ⟨columns, opened⟩ := exists_columns closed
      have reading : later.columns = some columns := (columns_of_hasNext asked).trans opened
      have again := hasNext_of_asked reached asked
      cases more with
      | false => rw [next_of_end reading again, next_of_end opened asked]
      | true => rw [next_of_more reading again, next_of_more opened asked]

/-- If the rows in hand carry the metadata, those behind a question do. -/
theorem carries_of_hasNext {columns : Columns} (carry : RowsCarry σ) (regular : cursor.Regular)
    (opened : cursor.columns = some columns)
    (inHand : ∀ row ∈ cursor.batch.getD #[], row.Carries columns)
    (asked : hasNext (cursor, session) = .ok more (later, after)) :
    ∀ row ∈ later.batch.getD #[], row.Carries columns := by
  have outcome := hasNext_outcome regular opened session
  rw [asked] at outcome
  cases outcome with
  | known _ known => exact inHand
  | fetched batch _ needed fetched => exact fetchBatch_carries carry fetched

/-- The row that a question announces takes the metadata, if the rows in hand and those of
the session do. -/
theorem exists_row_of_announced (carry : RowsCarry σ) (reached : cursor.Reachable)
    (inHand : ∀ columns, cursor.columns = some columns →
      ∀ row ∈ cursor.batch.getD #[], row.Carries columns)
    (asked : hasNext (cursor, session) = .ok true (later, after)) :
    ∃ row, next.answer (cursor, session) = .ok (some row) := by
  cases closed : cursor.isClosed with
  | true =>
      rw [hasNext_of_known (hasNextKnown?_of_closed closed)] at asked
      cases asked
  | false =>
      obtain ⟨columns, opened⟩ := exists_columns closed
      have regular := reached.regular opened
      obtain ⟨row, reaches, found⟩ := exists_reached_of_asked regular opened asked
      have carries := carries_of_hasNext carry regular opened (inHand columns opened) asked
      rw [PacketRow.setColumns_of_carries (carries row reaches.mem)] at found
      refine ⟨row, ?_⟩
      rw [Step.answer, next_of_more opened asked]
      simp only [found]

/-- A cursor without a next row tells so, and refuses if it is closed and has passed a row. -/
theorem answer_next_of_end (known : cursor.hasNextKnown? = some false) :
    next.answer (cursor, session) =
      if cursor.isClosed && cursor.taken != 0 then .error .resultSetClosed else .ok none := by
  cases closed : cursor.isClosed with
  | true =>
      by_cases nothing : cursor.taken = 0
      · simp [Step.answer, next, closed, nothing]
      · simp [Step.answer, next, closed, nothing]
  | false =>
      obtain ⟨columns, opened⟩ := exists_columns closed
      rw [Step.answer, next_of_end opened (hasNext_of_known known)]
      rfl

/-- A move that needs no fetch leaves the session alone. -/
theorem session_next_of_known (known : cursor.hasNextKnown? = some more) (session : σ) :
    (next.after (cursor, session)).2 = session := by
  cases closed : cursor.isClosed with
  | true =>
      by_cases nothing : cursor.taken = 0
      · simp [Step.after, next, closed, nothing]
      · simp [Step.after, next, closed, nothing]
  | false =>
      obtain ⟨columns, opened⟩ := exists_columns closed
      rw [session_next opened, Step.after, hasNext_of_known known]

/-! ## Questions put into a run -/

/-- The calls are made one after the other. -/
def performAll (state : ResultCursor × σ) :
    List SharedCall → List CallAnswer × (ResultCursor × σ)
  | [] => ([], state)
  | call :: calls =>
    let (answer, between) := perform state call
    let (answers, last) := performAll between calls
    (answer :: answers, last)

/-- A run of a consumer who also asks before some of its moves, as often as it likes, and is
answered.  Listed are its own calls with what they answer; the questions are not. -/
inductive AskingRun : ResultCursor × σ → List (SharedCall × CallAnswer) →
    ResultCursor × σ → Prop where
  | done (state : ResultCursor × σ) : AskingRun state [] state
  | own {state last : ResultCursor × σ} {seen : List (SharedCall × CallAnswer)}
      (call : SharedCall) (rest : AskingRun (perform state call).2 seen last) :
      AskingRun state ((call, (perform state call).1) :: seen) last
  | question {state later last : ResultCursor × σ} {seen : List (SharedCall × CallAnswer)}
      {more : Bool} {answer : CallAnswer} (asked : hasNext state = .ok more later)
      (rest : AskingRun later ((.next, answer) :: seen) last) :
      AskingRun state ((.next, answer) :: seen) last

theorem Reachable.perform {state : ResultCursor × σ} (reached : state.1.Reachable)
    (call : SharedCall) : (perform state call).2.1.Reachable := by
  cases call with
  | hasNext => exact .asked state.2 reached
  | next => exact .moved state.2 reached
  | close => exact .closed reached

/-- Without the questions, the same calls answer the same and lead to the same end. -/
theorem AskingRun.performAll_eq {state last : ResultCursor × σ}
    {seen : List (SharedCall × CallAnswer)} (reached : state.1.Reachable)
    (run : AskingRun state seen last) :
    performAll state (seen.map Prod.fst) = (seen.map Prod.snd, last) := by
  induction run with
  | done state => rfl
  | own call rest ih =>
      have later := ih (reached.perform call)
      simp only [List.map_cons, performAll, later]
  | @question state later last seen more answer asked rest ih =>
      have without := ih (reached.of_hasNext asked)
      have same : ResultCursor.perform state .next = ResultCursor.perform later .next := by
        have moved : next later = next state := next_of_asked reached asked
        simp only [ResultCursor.perform, Step.answer, Step.after, moved]
      simp only [List.map_cons, performAll] at without ⊢
      rw [same]
      exact without

end

end ResultCursor

namespace Progress

open ResultCursor

variable {σ : Type} [RowSession σ] {columns : Columns} {options : CursorOptions}
  {progress : Progress (Recorded σ)}

omit [RowSession σ] in
theorem Consistent.carries (consistent : progress.Consistent columns options)
    {attached : Columns} (opened : progress.cursor.columns = some attached) :
    ∀ row ∈ progress.cursor.batch.getD #[], row.Carries attached := by
  cases consistent with
  | opened sound =>
      have same : columns = attached := Option.some.inj (sound.opened.symm.trans opened)
      rw [← same]
      exact sound.carries
  | closed closed counted =>
      rw [isClosed_eq_false opened] at closed
      cases closed

/-- Whatever was called before, and over whatever session the cursor goes on: behind a
question that was answered, the same question is answered alike and changes nothing, and a
move leaves the session alone, finds a row exactly if one was announced, and comes out as it
would have without the question.  So a consumer who puts in questions before moves sees what
it would see without them. -/
theorem questions_go_unnoticed (carry : RowsCarry σ) (statementId : UInt32)
    (columns : Columns) (options : CursorOptions) (session : σ) (calls : List OwnerCall) :
    let run := (start statementId columns options (Recorded.ofSession session)).lifetime calls
    run.map withoutRecord = (start statementId columns options session).lifetime calls ∧
    ∀ moment ∈ run, ∀ (τ : Type) [RowSession τ], RowsCarry τ → ∀ current : Recorded τ,
      let state := (moment.cursor, current)
      (∀ more later, ResultCursor.hasNext state = .ok more later →
        ResultCursor.hasNext later = .ok more later ∧
        (ResultCursor.next.after later).2 = later.2 ∧
        (more = true → ∃ row, ResultCursor.next.answer later = .ok (some row)) ∧
        (more = false → ResultCursor.next.answer later =
          if moment.cursor.isClosed && !moment.handed.isEmpty then .error .resultSetClosed
          else .ok none) ∧
        ResultCursor.next later = ResultCursor.next state) ∧
      ∀ seen last, AskingRun state seen last →
        performAll state (seen.map Prod.fst) = (seen.map Prod.snd, last) := by
  intro run
  refine ⟨withoutRecord_lifetime _ calls, ?_⟩
  intro moment member τ _ goesOn current state
  have here := consistent_lifetime carry statementId columns options session calls moment member
  have reached := reachable_lifetime statementId columns options (Recorded.ofSession session)
    calls moment member
  refine ⟨?_, fun seen last asking => asking.performAll_eq reached⟩
  rintro more ⟨later, after⟩ asked
  have known := hasNextKnown?_of_asked reached asked
  have same := next_of_asked reached asked
  refine ⟨ResultCursor.hasNext_of_known known, session_next_of_known known after, ?_, ?_, same⟩
  · rintro rfl
    rw [Step.answer, same]
    exact exists_row_of_announced goesOn.recorded reached (fun _ opened => here.carries opened)
      asked
  · rintro rfl
    have closed : later.isClosed = moment.cursor.isClosed :=
      congrArg Option.isNone (columns_of_hasNext asked)
    have passed : (later.taken != 0) = !moment.handed.isEmpty := by
      rw [taken_of_hasNext asked, here.counted]
      cases moment.handed <;> rfl
    rw [answer_next_of_end known, closed, passed]

/-- A question before the only row, and one before the end, which is an empty batch. -/
theorem questions_before_row_and_before_end :
    let server : ScriptedServer :=
      { replies := [.deliver [[0x00, 0x00, 5]] none none, .deliver [] (some true) none] }
    let state := (create 7 #[.ofType .tiny] {}, Recorded.ofSession server)
    let told := ResultCursor.hasNext.after state
    let moved := ResultCursor.next.after told
    let ended := ResultCursor.hasNext.after moved
    RowsCarry ScriptedServer ∧ ResultCursor.hasNext.answer state = .ok true ∧ moved.2 = told.2 ∧
      ResultCursor.hasNext.answer moved = .ok false ∧
      performAll state [.next, .next] =
        ([.row (ResultCursor.next.answer told), .row (ResultCursor.next.answer ended)],
          ResultCursor.next.after ended) := by
  intro server state told moved ended
  have carry : RowsCarry ScriptedServer := ScriptedServer.rowsCarry
  have first : ResultCursor.hasNext.answer state = .ok true := by decide +kernel
  have second : ResultCursor.hasNext.answer moved = .ok false := by decide +kernel
  have unnoticed := (questions_go_unnoticed carry 7 #[.ofType .tiny] {} server []).2 _
    List.mem_cons_self ScriptedServer carry (.ofSession server)
  have asking : AskingRun state [(.next, .row (ResultCursor.next.answer told)),
      (.next, .row (ResultCursor.next.answer ended))] (ResultCursor.next.after ended) :=
    .question (Step.eq_ok_of_answer first)
      (.own .next (.question (Step.eq_ok_of_answer second) (.own .next (.done _))))
  obtain ⟨_, silent, _⟩ := unnoticed.1 true told (Step.eq_ok_of_answer first)
  exact ⟨carry, first, silent, second, unnoticed.2 _ _ asking⟩

end Progress

end RowCursor
