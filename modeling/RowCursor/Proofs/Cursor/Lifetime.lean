import RowCursor.Proofs.Cursor.Progress

/-!
# The lifetime of a cursor

The owner of a cursor consumes its rows and may close it, at any time and more than once.
`Progress.lifetime` lists every moment of such a run, those between two rows of a visit
included.  What every move and every closing keeps, holds at all of them
(`Progress.forall_mem_lifetime`).
-/

set_option autoImplicit false

namespace RowCursor

open ResultCursor (Indistinct indistinct_withoutRecord)

/-- A call of the owner of a cursor. -/
inductive OwnerCall : Type 1 where
  | consume (call : CursorCall)
  | close

namespace Progress

variable {σ : Type}

def close (progress : Progress σ) : Progress σ :=
  { progress with cursor := progress.cursor.close }

variable [RowSession σ]

def serve (progress : Progress σ) : OwnerCall → Progress σ
  | .consume call => progress.perform call
  | .close => progress.close

/-- The moments that a call passes. -/
def passed (progress : Progress σ) : OwnerCall → List (Progress σ)
  | .consume call => progress.moments call
  | .close => [progress]

def lifetime (progress : Progress σ) : List OwnerCall → List (Progress σ)
  | [] => [progress]
  | call :: calls => progress.passed call ++ (progress.serve call).lifetime calls

/-- What may happen from one moment of a lifetime to the next. -/
inductive Passes (progress : Progress σ) : Progress σ → Prop where
  | moves {after : Progress σ} (moves : Moves progress after) : Passes progress after
  | close : Passes progress progress.close

theorem isChain_passed (progress : Progress σ) (call : OwnerCall) :
    (progress.passed call ++ [progress.serve call]).IsChain Passes := by
  cases call with
  | consume call => exact (isChain_moments progress call).imp fun _ _ => .moves
  | close => exact List.isChain_pair.mpr .close

theorem lifetime_eq_cons (progress : Progress σ) (calls : List OwnerCall) :
    ∃ later, progress.lifetime calls = progress :: later := by
  induction calls generalizing progress with
  | nil => exact ⟨[], rfl⟩
  | cons call calls ih =>
      cases call with
      | close => exact ⟨_, rfl⟩
      | consume call =>
          obtain ⟨rest, goesOn⟩ := ih (progress.perform call)
          obtain ⟨later, begins⟩ := progress.trail_eq_cons [call]
          refine ⟨later ++ rest, ?_⟩
          rw [← List.cons_append, ← begins, lifetime, serve, goesOn, List.append_cons]
          rfl

theorem isChain_lifetime (progress : Progress σ) (calls : List OwnerCall) :
    (progress.lifetime calls).IsChain Passes := by
  induction calls generalizing progress with
  | nil => exact List.isChain_singleton _
  | cons call calls ih =>
      have rest := ih (progress.serve call)
      obtain ⟨later, begins⟩ := (progress.serve call).lifetime_eq_cons calls
      rw [begins] at rest
      rw [lifetime, begins, List.append_cons]
      exact (isChain_passed progress call).append_overlap rest (List.cons_ne_nil _ _)

/-- A property that every move and every closing keeps holds at every moment of a
lifetime. -/
theorem forall_mem_lifetime {Holds : Progress σ → Prop} {progress : Progress σ}
    (initial : Holds progress)
    (kept : ∀ ⦃before after : Progress σ⦄, Moves before after → Holds before → Holds after)
    (closes : ∀ ⦃before : Progress σ⦄, Holds before → Holds before.close)
    (calls : List OwnerCall) : ∀ moment ∈ progress.lifetime calls, Holds moment := by
  refine (isChain_lifetime progress calls).induction Holds _ ?_ ?_
  · intro before after passes holds
    cases passes with
    | moves moves => exact kept moves holds
    | close => exact closes holds
  · intro nonempty
    obtain ⟨later, begins⟩ := progress.lifetime_eq_cons calls
    simp only [begins, List.head_cons]
    exact initial

theorem SameProgress.lifetime {τ : Type} [RowSession τ] {related : σ → τ → Prop}
    {left : Progress σ} {right : Progress τ} (indistinct : Indistinct related)
    (same : SameProgress related left right) (calls : List OwnerCall) :
    List.Forall₂ (SameProgress related) (left.lifetime calls) (right.lifetime calls) := by
  induction calls generalizing left right with
  | nil => exact .cons same .nil
  | cons call calls ih =>
      cases call with
      | consume call =>
          exact List.rel_append (same.moments indistinct call) (ih (same.perform indistinct call))
      | close =>
          have closed : SameProgress related left.close right.close :=
            ⟨congrArg ResultCursor.close same.cursor_eq, same.session, same.handed_eq,
              same.ended_eq⟩
          exact .cons same (ih closed)

theorem withoutRecord_lifetime (progress : Progress (Recorded σ)) (calls : List OwnerCall) :
    (progress.lifetime calls).map withoutRecord = progress.withoutRecord.lifetime calls :=
  map_withoutRecord_eq
    ((sameProgress_withoutRecord_iff.mpr rfl).lifetime indistinct_withoutRecord calls)

end Progress

end RowCursor
