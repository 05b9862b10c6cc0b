import Mathlib.Data.List.Forall2
import Mathlib.Data.List.Range
import RowCursor.Proofs.Cursor.Recording

/-!
# How far a consumer has come

A consumer calls `hasNext`, `next` and visits with a limit, in any order.  Its progress
is the cursor and the session, the rows that it was handed and whether it was told the
end.  `Progress.trail` lists every moment of a run, those between two rows of a visit
included.  A visit is nothing but calls of `next` (`Progress.forEach_step`).  Over two
sessions that no fetch tells apart, the runs are the same (`Progress.SameProgress.trail`).
-/

set_option autoImplicit false

namespace RowCursor

open ResultCursor (Indistinct SameCursor indistinct_withoutRecord)

/-- What a consumer of a cursor has. -/
structure Progress (σ : Type) where
  cursor : ResultCursor
  session : σ
  /-- The rows that were handed out, oldest first. -/
  handed : List PacketRow := []
  /-- Some call of `next` answered that no row is left. -/
  ended : Bool := false

/-- A call of a consumer.  A visit starts from a state of its own. -/
inductive CursorCall : Type 1 where
  | hasNext
  | next
  | forEach {τ : Type} (visit : PacketRow → Step τ Unit) (visited : τ) (limit : Nat)

/-- A visitor that also notes the rows that it is given, those that it fails on
included. -/
def noting {τ : Type} (visit : PacketRow → Step τ Unit) :
    PacketRow → Step (τ × List PacketRow) Unit := fun row (visited, handed) =>
  match visit row visited with
  | .ok () visited => .ok () (visited, handed ++ [row])
  | .error error visited => .error error (visited, handed ++ [row])

namespace Progress

/-- A consumer that was just given an open cursor. -/
def start {σ : Type} (statementId : UInt32) (columns : Columns) (options : CursorOptions)
    (session : σ) : Progress σ :=
  { cursor := .create statementId columns options, session }

variable {σ : Type} [RowSession σ]

def hasNext (progress : Progress σ) : Progress σ :=
  let (cursor, session) := ResultCursor.hasNext.after (progress.cursor, progress.session)
  { progress with cursor, session }

def next (progress : Progress σ) : Progress σ :=
  match ResultCursor.next (progress.cursor, progress.session) with
  | .ok (some row) (cursor, session) =>
    { progress with cursor, session, handed := progress.handed ++ [row] }
  | .ok none (cursor, session) => { progress with cursor, session, ended := true }
  | .error _ (cursor, session) => { progress with cursor, session }

def forEach {τ : Type} (visit : PacketRow → Step τ Unit) (visited : τ) (limit : Nat)
    (progress : Progress σ) : Progress σ :=
  match ResultCursor.forEachUpTo (noting visit) limit
      ((progress.cursor, progress.session), (visited, progress.handed)) with
  | .ok ended ((cursor, session), (_, handed)) =>
    { cursor, session, handed, ended := progress.ended || ended }
  | .error _ ((cursor, session), (_, handed)) =>
    { cursor, session, handed, ended := progress.ended }

def perform (progress : Progress σ) : CursorCall → Progress σ
  | .hasNext => progress.hasNext
  | .next => progress.next
  | .forEach visit visited limit => progress.forEach visit visited limit

/-- The moments that a call passes: before the call, and between two rows of a visit. -/
def moments (progress : Progress σ) : CursorCall → List (Progress σ)
  | .hasNext => [progress]
  | .next => [progress]
  | .forEach visit visited limit =>
    (List.range limit).map fun passed => progress.forEach visit visited passed

def trail (progress : Progress σ) : List CursorCall → List (Progress σ)
  | [] => [progress]
  | call :: calls => progress.moments call ++ (progress.perform call).trail calls

/-! ## What a question does -/

theorem hasNext_of_ok {progress : Progress σ} {answer : Bool} {later : ResultCursor} {after : σ}
    (asked : ResultCursor.hasNext (progress.cursor, progress.session) =
      .ok answer (later, after)) :
    progress.hasNext = { progress with cursor := later, session := after } := by
  simp only [hasNext, Step.after, asked]

theorem hasNext_of_error {progress : Progress σ} {error : Error} {later : ResultCursor}
    {after : σ}
    (asked : ResultCursor.hasNext (progress.cursor, progress.session) =
      .error error (later, after)) :
    progress.hasNext = { progress with cursor := later, session := after } := by
  simp only [hasNext, Step.after, asked]

theorem next_state (progress : Progress σ) :
    (progress.next.cursor, progress.next.session) =
      ResultCursor.next.after (progress.cursor, progress.session) := by
  unfold next Step.after
  cases ResultCursor.next (progress.cursor, progress.session) with
  | error error state => rfl
  | ok row state => cases row <;> rfl

/-- What `hasNext` does to a consumer's progress. -/
inductive HasNextMove (columns : Columns) (progress : Progress σ) : Prop where
  | known (answer : Bool) (known : progress.cursor.hasNextKnown? = some answer)
      (same : progress.hasNext = progress)
  | fetched (batch : Array PacketRow) (after : σ)
      (needed : progress.cursor.hasNextKnown? = none)
      (fetched : progress.cursor.fetchBatch columns progress.session = .ok batch after)
      (same : progress.hasNext = { progress with
        cursor := progress.cursor.withBatch batch (RowSession.lastRowSent after)
        session := after })
  | failed (error : Error) (after : σ) (needed : progress.cursor.hasNextKnown? = none)
      (failed : progress.cursor.fetchBatch columns progress.session = .error error after)
      (same : progress.hasNext = { progress with session := after })

theorem hasNext_move {columns : Columns} {progress : Progress σ}
    (regular : progress.cursor.Regular) (opened : progress.cursor.columns = some columns) :
    HasNextMove columns progress := by
  have outcome := ResultCursor.hasNext_outcome regular opened progress.session
  cases asked : ResultCursor.hasNext (progress.cursor, progress.session) with
  | error error state =>
      obtain ⟨later, after⟩ := state
      rw [asked] at outcome
      cases outcome with
      | failed source _ needed failed =>
          exact .failed source after needed failed (hasNext_of_error asked)
  | ok answer state =>
      obtain ⟨later, after⟩ := state
      rw [asked] at outcome
      cases outcome with
      | known _ known => exact .known answer known (hasNext_of_ok asked)
      | fetched batch _ needed fetched =>
          exact .fetched batch after needed fetched (hasNext_of_ok asked)

/-! ## A visit is a run of `next` -/

theorem forEach_zero {τ : Type} (visit : PacketRow → Step τ Unit) (visited : τ)
    (progress : Progress σ) : progress.forEach visit visited 0 = progress := by
  simp only [forEach, ResultCursor.forEachUpTo, Bool.or_false]

/-- A visit first calls `next`; then it goes on, unless it is over. -/
theorem forEach_succ {τ : Type} (visit : PacketRow → Step τ Unit) (visited : τ)
    (progress : Progress σ) :
    (∀ limit, progress.forEach visit visited (limit + 1) = progress.next) ∨
      ∃ seen, ∀ limit, progress.forEach visit visited (limit + 1) =
        progress.next.forEach visit seen limit := by
  cases moved : ResultCursor.next (progress.cursor, progress.session) with
  | error error state =>
      left
      intro limit
      simp only [forEach, next, ResultCursor.forEachUpTo, moved]
  | ok row state =>
      cases row with
      | none =>
          left
          intro limit
          simp only [forEach, next, ResultCursor.forEachUpTo, moved, Bool.or_true]
      | some row =>
          cases shown : visit row visited with
          | error error seen =>
              left
              intro limit
              simp only [forEach, next, ResultCursor.forEachUpTo, moved, noting, shown]
          | ok done seen =>
              right
              refine ⟨seen, ?_⟩
              intro limit
              simp only [forEach, next, ResultCursor.forEachUpTo, moved, noting, shown]

theorem forEach_one {τ : Type} (visit : PacketRow → Step τ Unit) (visited : τ)
    (progress : Progress σ) : progress.forEach visit visited 1 = progress.next := by
  rcases progress.forEach_succ visit visited with finished | ⟨seen, goes⟩
  · exact finished 0
  · rw [goes 0, forEach_zero]

/-- A higher limit makes a visit call `next` once more, unless it was over. -/
theorem forEach_step {τ : Type} (visit : PacketRow → Step τ Unit) (visited : τ) (limit : Nat)
    (progress : Progress σ) :
    progress.forEach visit visited (limit + 1) = progress.forEach visit visited limit ∨
      progress.forEach visit visited (limit + 1) =
        (progress.forEach visit visited limit).next := by
  induction limit generalizing visited progress with
  | zero =>
      right
      rw [forEach_zero, forEach_one]
  | succ limit ih =>
      rcases progress.forEach_succ visit visited with finished | ⟨seen, goes⟩
      · left
        rw [finished, finished]
      · rw [goes, goes]
        exact ih seen progress.next

/-! ## From one moment to the next -/

/-- What may happen from one moment of a run to the next. -/
inductive Moves (progress : Progress σ) : Progress σ → Prop where
  | stays : Moves progress progress
  | hasNext : Moves progress progress.hasNext
  | next : Moves progress progress.next

theorem isChain_moments (progress : Progress σ) (call : CursorCall) :
    (progress.moments call ++ [progress.perform call]).IsChain Moves := by
  cases call with
  | hasNext => exact List.isChain_pair.mpr .hasNext
  | next => exact List.isChain_pair.mpr .next
  | forEach visit visited limit =>
      have whole : progress.moments (.forEach visit visited limit) ++
          [progress.perform (.forEach visit visited limit)] =
            (List.range (limit + 1)).map fun passed => progress.forEach visit visited passed := by
        rw [List.range_succ, List.map_append]
        rfl
      rw [whole, List.isChain_map, List.isChain_range_succ]
      intro passed _
      rcases progress.forEach_step visit visited passed with same | further
      · rw [same]
        exact .stays
      · rw [further]
        exact .next

theorem trail_eq_cons (progress : Progress σ) (calls : List CursorCall) :
    ∃ later, progress.trail calls = progress :: later := by
  induction calls generalizing progress with
  | nil => exact ⟨[], rfl⟩
  | cons call calls ih =>
      cases call with
      | hasNext => exact ⟨_, rfl⟩
      | next => exact ⟨_, rfl⟩
      | forEach visit visited limit =>
          cases limit with
          | zero =>
              obtain ⟨later, begins⟩ := ih progress
              refine ⟨later, ?_⟩
              rw [trail, perform, forEach_zero, begins]
              rfl
          | succ limit =>
              rw [trail, moments, List.range_succ_eq_map, List.map_cons, forEach_zero]
              exact ⟨_, rfl⟩

theorem isChain_trail (progress : Progress σ) (calls : List CursorCall) :
    (progress.trail calls).IsChain Moves := by
  induction calls generalizing progress with
  | nil => exact List.isChain_singleton _
  | cons call calls ih =>
      have rest := ih (progress.perform call)
      obtain ⟨later, begins⟩ := (progress.perform call).trail_eq_cons calls
      rw [begins] at rest
      rw [trail, begins, List.append_cons]
      exact (isChain_moments progress call).append_overlap rest (List.cons_ne_nil _ _)

/-- A property that every move keeps holds at every moment of a run. -/
theorem forall_mem_trail {Holds : Progress σ → Prop} {progress : Progress σ}
    (initial : Holds progress)
    (kept : ∀ ⦃before after : Progress σ⦄, Moves before after → Holds before → Holds after)
    (calls : List CursorCall) : ∀ moment ∈ progress.trail calls, Holds moment := by
  refine (isChain_trail progress calls).induction Holds _ kept ?_
  intro nonempty
  obtain ⟨later, begins⟩ := progress.trail_eq_cons calls
  simp only [begins, List.head_cons]
  exact initial

/-! ## The same calls over two sessions -/

section

variable {τ : Type} {related : σ → τ → Prop} {left : Progress σ} {right : Progress τ}

/-- The same progress over related sessions. -/
structure SameProgress (related : σ → τ → Prop) (left : Progress σ) (right : Progress τ) :
    Prop where
  cursor_eq : left.cursor = right.cursor
  session : related left.session right.session
  handed_eq : left.handed = right.handed
  ended_eq : left.ended = right.ended

/-- Asked here, the two answer alike. -/
def AnswersAlike [RowSession τ] (left : Progress σ) (right : Progress τ) : Prop :=
  ResultCursor.hasNext.answer (left.cursor, left.session) =
      ResultCursor.hasNext.answer (right.cursor, right.session) ∧
    ResultCursor.next.answer (left.cursor, left.session) =
      ResultCursor.next.answer (right.cursor, right.session)

namespace SameProgress

omit [RowSession σ] in
theorem sameCursor (same : SameProgress related left right) :
    SameCursor related (left.cursor, left.session) (right.cursor, right.session) :=
  ⟨same.cursor_eq, same.session⟩

variable [RowSession τ]

theorem answersAlike (indistinct : Indistinct related) (same : SameProgress related left right) :
    AnswersAlike left right :=
  ⟨(indistinct.hasNext same.sameCursor).answer_eq, (indistinct.next same.sameCursor).answer_eq⟩

theorem hasNext (indistinct : Indistinct related) (same : SameProgress related left right) :
    SameProgress related left.hasNext right.hasNext := by
  obtain ⟨cursors, sessions⟩ := (indistinct.hasNext same.sameCursor).after
  exact ⟨cursors, sessions, same.handed_eq, same.ended_eq⟩

theorem next (indistinct : Indistinct related) (same : SameProgress related left right) :
    SameProgress related left.next right.next := by
  have moved := indistinct.next same.sameCursor
  unfold Progress.next
  generalize ResultCursor.next (left.cursor, left.session) = one at moved ⊢
  generalize ResultCursor.next (right.cursor, right.session) = two at moved ⊢
  cases moved with
  | error error behind => exact ⟨behind.1, behind.2, same.handed_eq, same.ended_eq⟩
  | ok row behind =>
      cases row with
      | none => exact ⟨behind.1, behind.2, same.handed_eq, rfl⟩
      | some row =>
          refine ⟨behind.1, behind.2, ?_, same.ended_eq⟩
          simp only [same.handed_eq]

theorem forEach {υ : Type} (indistinct : Indistinct related) (visit : PacketRow → Step υ Unit)
    (visited : υ) (limit : Nat) (same : SameProgress related left right) :
    SameProgress related (left.forEach visit visited limit)
      (right.forEach visit visited limit) := by
  have shown := indistinct.forEachUpTo (noting visit) limit same.sameCursor
    (visited, left.handed)
  unfold Progress.forEach
  rw [← same.handed_eq]
  generalize ResultCursor.forEachUpTo (noting visit) limit
    ((left.cursor, left.session), (visited, left.handed)) = one at shown ⊢
  generalize ResultCursor.forEachUpTo (noting visit) limit
    ((right.cursor, right.session), (visited, left.handed)) = two at shown ⊢
  cases shown with
  | ok ended behind =>
      obtain ⟨behind, noted⟩ := behind
      refine ⟨behind.1, behind.2, congrArg Prod.snd noted, ?_⟩
      simp only [same.ended_eq]
  | error error behind =>
      obtain ⟨behind, noted⟩ := behind
      exact ⟨behind.1, behind.2, congrArg Prod.snd noted, same.ended_eq⟩

theorem perform (indistinct : Indistinct related) (same : SameProgress related left right)
    (call : CursorCall) : SameProgress related (left.perform call) (right.perform call) := by
  cases call with
  | hasNext => exact same.hasNext indistinct
  | next => exact same.next indistinct
  | forEach visit visited limit => exact same.forEach indistinct visit visited limit

theorem moments (indistinct : Indistinct related) (same : SameProgress related left right)
    (call : CursorCall) :
    List.Forall₂ (SameProgress related) (left.moments call) (right.moments call) := by
  cases call with
  | hasNext => exact .cons same .nil
  | next => exact .cons same .nil
  | forEach visit visited limit =>
      simp only [Progress.moments, List.forall₂_map_left_iff, List.forall₂_map_right_iff,
        List.forall₂_same]
      intro passed _
      exact same.forEach indistinct visit visited passed

theorem trail (indistinct : Indistinct related) (same : SameProgress related left right)
    (calls : List CursorCall) :
    List.Forall₂ (SameProgress related) (left.trail calls) (right.trail calls) := by
  induction calls generalizing left right with
  | nil => exact .cons same .nil
  | cons call calls ih =>
      exact List.rel_append (same.moments indistinct call) (ih (same.perform indistinct call))

end SameProgress

end

/-! ## The record is invisible -/

/-- The progress over the session alone. -/
def withoutRecord (progress : Progress (Recorded σ)) : Progress σ :=
  { progress with session := progress.session.session }

omit [RowSession σ] in
theorem sameProgress_withoutRecord_iff {progress : Progress (Recorded σ)} {plain : Progress σ} :
    SameProgress (fun recorded session => recorded.session = session) progress plain ↔
      progress.withoutRecord = plain := by
  constructor
  · rintro ⟨cursors, sessions, handed, ended⟩
    simp only [withoutRecord, cursors, sessions, handed, ended]
  · rintro rfl
    exact ⟨rfl, rfl, rfl, rfl⟩

omit [RowSession σ] in
theorem map_withoutRecord_eq {run : List (Progress (Recorded σ))} {plain : List (Progress σ)}
    (same : List.Forall₂ (SameProgress fun recorded session => recorded.session = session) run
      plain) : run.map withoutRecord = plain := by
  rw [← List.forall₂_eq_eq_eq, List.forall₂_map_left_iff]
  exact same.imp fun _ _ => sameProgress_withoutRecord_iff.mp

theorem withoutRecord_next (progress : Progress (Recorded σ)) :
    progress.next.withoutRecord = progress.withoutRecord.next :=
  sameProgress_withoutRecord_iff.mp
    ((sameProgress_withoutRecord_iff.mpr rfl).next indistinct_withoutRecord)

theorem withoutRecord_trail (progress : Progress (Recorded σ)) (calls : List CursorCall) :
    (progress.trail calls).map withoutRecord = progress.withoutRecord.trail calls :=
  map_withoutRecord_eq
    ((sameProgress_withoutRecord_iff.mpr rfl).trail indistinct_withoutRecord calls)

end Progress

end RowCursor
