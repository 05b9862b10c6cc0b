import Mathlib.Logic.Function.Basic
import RowCursor.Proofs.Cursor.Simulation
import RowCursor.Proofs.Session.Statements

/-!
# Cursors that share a session

Several cursors, each on a statement of its own, are called in any order over one server.
A call drains the batch that it fetches and takes in what is told about the last row before
it returns, so nothing of it is left for the next one.  A call of another cursor is
therefore not noticed (`Sharing.SeenAlike.call_other`), and a cursor's own call comes out as
it would without the others (`Sharing.SeenAlike.call_own`).  By induction on the calls, each
cursor is served as if it were alone.
-/

set_option autoImplicit false

namespace RowCursor

open ResultCursor (Told FetchesAlike SameCursor)
open StatementServer (FetchedFor SameFor)

/-! ## Calls -/

/-- A call of a cursor that others may share the session with. -/
inductive SharedCall where
  | hasNext
  | next
  | close
  deriving DecidableEq, Repr

/-- What a call answers; closing answers nothing. -/
inductive CallAnswer where
  | available (answer : Except Error Bool)
  | row (answer : Except Error (Option PacketRow))
  | closed

namespace ResultCursor

section

variable {σ : Type} [RowSession σ] {cursor : ResultCursor}

/-- What the call answers, failures included, and what it leaves behind. -/
def perform (state : ResultCursor × σ) : SharedCall → CallAnswer × (ResultCursor × σ)
  | .hasNext => (.available (hasNext.answer state), hasNext.after state)
  | .next => (.row (next.answer state), next.after state)
  | .close => (.closed, (state.1.close, state.2))

theorem FetchesAlike.perform {related : σ → σ → Prop} {left right : σ}
    (fetches : FetchesAlike related cursor left right) (same : related left right)
    (call : SharedCall) :
    (ResultCursor.perform (cursor, left) call).1 =
        (ResultCursor.perform (cursor, right) call).1 ∧
      SameCursor related (ResultCursor.perform (cursor, left) call).2
        (ResultCursor.perform (cursor, right) call).2 := by
  cases call with
  | hasNext =>
      have alike := fetches.hasNext same
      exact ⟨congrArg CallAnswer.available alike.answer_eq, alike.after⟩
  | next =>
      have alike := fetches.next same
      exact ⟨congrArg CallAnswer.row alike.answer_eq, alike.after⟩
  | close => exact ⟨rfl, .mk cursor.close same⟩

/-- What holds of the session and still holds behind the next fetch, holds behind a call. -/
theorem perform_keeps {holds : σ → Prop} {session : σ} (before : holds session)
    (fetches : ∀ columns, cursor.columns = some columns →
      holds ((cursor.fetchBatch columns).after session)) (call : SharedCall) :
    holds (perform (cursor, session) call).2.2 := by
  -- A session is related to itself if the property holds of it.
  have alike : FetchesAlike (fun left _ => holds left) cursor session session := by
    intro columns opened
    exact .refl ⟨fetches columns opened, rfl⟩
  exact (alike.perform before call).2.2

/-! ## What a call does to the cursor -/

theorem continues_perform (cursor : ResultCursor) (session : σ) (call : SharedCall) :
    cursor.Continues (perform (cursor, session) call).2.1 := by
  cases call with
  | hasNext => exact continues_hasNext cursor session
  | next => exact continues_next cursor session
  | close =>
      refine ⟨rfl, ?_⟩
      intro columns opened
      cases opened

end

end ResultCursor

/-! ## Sharing -/

/-- Cursors over one server. -/
structure Sharing (ι : Type) where
  cursors : ι → ResultCursor
  server : StatementServer

namespace Sharing

variable {ι : Type} [DecidableEq ι] {sharing left right : Sharing ι} {who other : ι}

def statementOf (sharing : Sharing ι) (who : ι) : UInt32 := (sharing.cursors who).statementId

/-- One of the cursors is called. -/
def call (sharing : Sharing ι) (who : ι) (call : SharedCall) : CallAnswer × Sharing ι :=
  let (answer, cursor, server) := ResultCursor.perform (sharing.cursors who, sharing.server) call
  (answer, { cursors := Function.update sharing.cursors who cursor, server })

/-- The cursors are called one after the other. -/
def run (sharing : Sharing ι) : List (ι × SharedCall) → List (ι × CallAnswer) × Sharing ι
  | [] => ([], sharing)
  | (who, call) :: calls =>
    let (answer, later) := sharing.call who call
    let (answers, last) := later.run calls
    ((who, answer) :: answers, last)

/-! ## Between two calls -/

/-- The statements are distinct, no batch is half read, and what waits for a cursor that
still fetches is well-formed. -/
structure Sound (sharing : Sharing ι) : Prop where
  distinct : Function.Injective sharing.statementOf
  drained : sharing.server.delivery.queue = []
  wellFormed : ∀ who columns, (sharing.cursors who).columns = some columns →
    sharing.server.WellFormed (sharing.statementOf who) columns

theorem answer_call (sharing : Sharing ι) (who : ι) (call : SharedCall) :
    (sharing.call who call).1 =
      (ResultCursor.perform (sharing.cursors who, sharing.server) call).1 := rfl

theorem server_call (sharing : Sharing ι) (who : ι) (call : SharedCall) :
    (sharing.call who call).2.server =
      (ResultCursor.perform (sharing.cursors who, sharing.server) call).2.2 := rfl

theorem cursors_call_self (sharing : Sharing ι) (who : ι) (call : SharedCall) :
    (sharing.call who call).2.cursors who =
      (ResultCursor.perform (sharing.cursors who, sharing.server) call).2.1 :=
  Function.update_self ..

theorem cursors_call_of_ne (sharing : Sharing ι) (apart : who ≠ other) (call : SharedCall) :
    (sharing.call other call).2.cursors who = sharing.cursors who :=
  Function.update_of_ne apart ..

theorem continues_call (sharing : Sharing ι) (who other : ι) (call : SharedCall) :
    (sharing.cursors who).Continues ((sharing.call other call).2.cursors who) := by
  by_cases same : who = other
  · rw [same, cursors_call_self]
    exact ResultCursor.continues_perform _ _ call
  · rw [cursors_call_of_ne sharing same]
    exact .refl _

theorem statementOf_call (sharing : Sharing ι) (other : ι) (call : SharedCall) :
    (sharing.call other call).2.statementOf = sharing.statementOf := by
  funext who
  exact (continues_call sharing who other call).statementId_eq

/-- A call is at most a fetch for the statement of its cursor. -/
theorem Sound.fetchedFor (sound : sharing.Sound) (who : ι) (call : SharedCall) :
    FetchedFor (sharing.statementOf who) sharing.server (sharing.call who call).2.server := by
  apply ResultCursor.perform_keeps (.unchanged sound.drained)
  intro columns opened
  exact StatementServer.fetchedFor_fetchBatch sound.drained (sound.wellFormed who columns opened)

theorem Sound.call (sound : sharing.Sound) (who : ι) (call : SharedCall) :
    (sharing.call who call).2.Sound := by
  have fetched := sound.fetchedFor who call
  refine ⟨?_, fetched.drained, ?_⟩
  · rw [statementOf_call]
    exact sound.distinct
  · intro other columns opened packet waiting
    rw [statementOf_call] at waiting
    have before := (continues_call sharing other who call).columns_eq columns opened
    exact sound.wellFormed other columns before packet
      (fetched.pending_subset (sharing.statementOf other) waiting)

theorem statementOf_run (sharing : Sharing ι) (calls : List (ι × SharedCall)) :
    (sharing.run calls).2.statementOf = sharing.statementOf := by
  induction calls generalizing sharing with
  | nil => rfl
  | cons first calls ih =>
      obtain ⟨who, call⟩ := first
      exact (ih (sharing.call who call).2).trans (statementOf_call sharing who call)

/-! ## What one cursor sees -/

/-- The cursor cannot tell what happened on the left from what happened on the right. -/
structure SeenAlike (who : ι) (left right : Sharing ι) : Prop where
  cursor_eq : left.cursors who = right.cursors who
  server_alike : SameFor (left.statementOf who) left.server right.server

/-- A call of another cursor is not noticed. -/
theorem SeenAlike.call_other (seen : SeenAlike who left right) (sound : left.Sound)
    (apart : who ≠ other) (call : SharedCall) :
    SeenAlike who (left.call other call).2 right := by
  have elsewhere : left.statementOf who ≠ left.statementOf other := by
    intro same
    exact apart (sound.distinct same)
  refine ⟨?_, ?_⟩
  · rw [cursors_call_of_ne left apart]
    exact seen.cursor_eq
  · rw [statementOf_call]
    exact seen.server_alike.fetchedFor (sound.fetchedFor other call) elsewhere

/-- The cursor's own call comes out alike. -/
theorem SeenAlike.call_own (seen : SeenAlike who left right) (sound : left.Sound)
    (call : SharedCall) :
    (left.call who call).1 = (right.call who call).1 ∧
      SeenAlike who (left.call who call).2 (right.call who call).2 := by
  have fetches : FetchesAlike (SameFor (left.statementOf who)) (left.cursors who) left.server
      right.server := by
    intro columns opened
    exact seen.server_alike.fetchBatch (sound.wellFormed who columns opened)
  obtain ⟨answers, cursors, servers⟩ := fetches.perform seen.server_alike call
  refine ⟨?_, ?_, ?_⟩
  · rw [answer_call, answer_call, ← seen.cursor_eq]
    exact answers
  · rw [cursors_call_self, cursors_call_self, ← seen.cursor_eq]
    exact cursors
  · rw [statementOf_call, server_call, server_call, ← seen.cursor_eq]
    exact servers

/-! ## A whole run -/

/-- The calls of one cursor. -/
def ownCalls (who : ι) (calls : List (ι × SharedCall)) : List (ι × SharedCall) :=
  calls.filter fun call => call.1 = who

/-- The answers to the calls of one cursor. -/
def ownAnswers (who : ι) (answers : List (ι × CallAnswer)) : List (ι × CallAnswer) :=
  answers.filter fun answer => answer.1 = who

theorem SeenAlike.run (seen : SeenAlike who left right) (sound : left.Sound)
    (calls : List (ι × SharedCall)) :
    ownAnswers who (left.run calls).1 = (right.run (ownCalls who calls)).1 ∧
      SeenAlike who (left.run calls).2 (right.run (ownCalls who calls)).2 := by
  induction calls generalizing left right with
  | nil => exact ⟨rfl, seen⟩
  | cons first calls ih =>
      obtain ⟨caller, call⟩ := first
      by_cases own : caller = who
      · subst own
        obtain ⟨answer, later⟩ := seen.call_own sound call
        obtain ⟨answers, last⟩ := ih later (sound.call caller call)
        have calls_eq : ownCalls caller ((caller, call) :: calls) =
            (caller, call) :: ownCalls caller calls :=
          List.filter_cons_of_pos (decide_eq_true rfl)
        rw [calls_eq]
        refine ⟨?_, last⟩
        have head : ownAnswers caller (left.run ((caller, call) :: calls)).1 =
            (caller, (left.call caller call).1) ::
              ownAnswers caller ((left.call caller call).2.run calls).1 :=
          List.filter_cons_of_pos (decide_eq_true rfl)
        rw [head, answer, answers]
        rfl
      · have later := seen.call_other sound (Ne.symm own) call
        obtain ⟨answers, last⟩ := ih later (sound.call caller call)
        have calls_eq : ownCalls who ((caller, call) :: calls) = ownCalls who calls :=
          List.filter_cons_of_neg (by simpa using own)
        rw [calls_eq]
        refine ⟨?_, last⟩
        have tail : ownAnswers who (left.run ((caller, call) :: calls)).1 =
            ownAnswers who ((left.call caller call).2.run calls).1 :=
          List.filter_cons_of_neg (by simpa using own)
        rw [tail, answers]

/-- Each cursor is served as if it were alone: its answers, the commands for its statement
and the cursor in the end are those of a run in which the others are not called. -/
theorem run_eq_alone (sound : sharing.Sound) (calls : List (ι × SharedCall)) (who : ι) :
    let together := sharing.run calls
    let alone := sharing.run (ownCalls who calls)
    ownAnswers who together.1 = alone.1 ∧
      together.2.server.commandsFor (sharing.statementOf who) =
        alone.2.server.commandsFor (sharing.statementOf who) ∧
      together.2.cursors who = alone.2.cursors who := by
  have seen : SeenAlike who sharing sharing := ⟨rfl, .refl sound.drained⟩
  obtain ⟨answers, last⟩ := seen.run sound calls
  have commands := last.server_alike.commands_eq
  rw [statementOf_run] at commands
  exact ⟨answers, commands, last.cursor_eq⟩

/-- One cursor is closed before its last row, while the other one fetches row by row. -/
theorem closed_beside_row_by_row :
    let columns : Columns := #[.ofType .tiny]
    let sharing : Sharing Bool := {
      cursors := fun who =>
        if who then .create 1 columns { fetchSize := .rows 2 }
        else .create 2 columns { fetchSize := .rowByRow }
      server := {
        pending := fun statementId =>
          if statementId = 1 then [[0x00, 0x00, 7], [0x00, 0x04], [0x00, 0x00, 8]]
          else if statementId = 2 then [[0x00, 0x00, 9], [0x00, 0x00, 6]]
          else [] } }
    let calls : List (Bool × SharedCall) := [(true, .next), (false, .next), (true, .hasNext),
      (false, .next), (true, .close), (false, .hasNext), (true, .next)]
    sharing.Sound ∧ ownCalls false calls = [(false, .next), (false, .next), (false, .hasNext)] ∧
      ownAnswers false (sharing.run calls).1 =
        (sharing.run [(false, .next), (false, .next), (false, .hasNext)]).1 := by
  intro columns sharing calls
  have sound : sharing.Sound := by
    refine ⟨?_, rfl, ?_⟩
    · intro who other same
      cases who <;> cases other <;> first | rfl | exact absurd same (by decide)
    · intro who columns opened packet waiting
      cases who <;>
        · cases opened
          revert packet
          decide
  exact ⟨sound, rfl, (run_eq_alone sound calls false).1⟩

end Sharing

end RowCursor
