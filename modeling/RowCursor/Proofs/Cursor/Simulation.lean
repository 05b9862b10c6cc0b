import RowCursor.Proofs.Cursor.Steps

/-!
# One cursor over two sessions

Of its session a cursor sees what a fetch brings and, behind it, what was told about the
last row.  If the next fetch comes out alike from two sessions, so does every call.
-/

set_option autoImplicit false

namespace RowCursor.ResultCursor

open Step (Alike Respects)

section

variable {σ τ : Type} {related : σ → τ → Prop} {left : σ} {right : τ}

/-- The same cursor over related sessions. -/
def SameCursor (related : σ → τ → Prop) (left : ResultCursor × σ) (right : ResultCursor × τ) :
    Prop :=
  left.1 = right.1 ∧ related left.2 right.2

theorem SameCursor.mk (cursor : ResultCursor) (same : related left right) :
    SameCursor related (cursor, left) (cursor, right) := ⟨rfl, same⟩

variable [RowSession σ] [RowSession τ] {cursor : ResultCursor}

/-- The sessions are related, and told the same about the last row. -/
def Told (related : σ → τ → Prop) (left : σ) (right : τ) : Prop :=
  related left right ∧ RowSession.lastRowSent left = RowSession.lastRowSent right

/-- The next fetch, if the cursor still fetches, comes out alike. -/
def FetchesAlike (related : σ → τ → Prop) (cursor : ResultCursor) (left : σ) (right : τ) : Prop :=
  ∀ columns, cursor.columns = some columns →
    Alike (Told related) (cursor.fetchBatch columns left) (cursor.fetchBatch columns right)

theorem FetchesAlike.fetchMore (fetches : FetchesAlike related cursor left right)
    (same : related left right) :
    Alike related (cursor.fetchMore left) (cursor.fetchMore right) := by
  unfold ResultCursor.fetchMore
  by_cases last : cursor.lastRowFetched = true
  · rw [if_pos last, if_pos last]
    exact .ok cursor same
  · rw [if_neg last, if_neg last]
    cases opened : cursor.columns with
    | none => exact .error .resultSetClosed same
    | some columns =>
        have fetched := fetches columns opened
        simp only
        generalize cursor.fetchBatch columns left = one at fetched ⊢
        generalize cursor.fetchBatch columns right = two at fetched ⊢
        cases fetched with
        | ok batch told =>
            obtain ⟨same, told⟩ := told
            simp only [told]
            exact .ok _ same
        | error error told => exact .error _ told.1

theorem FetchesAlike.hasNext (fetches : FetchesAlike related cursor left right)
    (same : related left right) :
    Alike (SameCursor related) (hasNext (cursor, left)) (hasNext (cursor, right)) := by
  simp only [ResultCursor.hasNext]
  cases cursor.hasNextKnown? with
  | some answer => exact .ok answer (.mk cursor same)
  | none =>
      have fetched := fetches.fetchMore same
      simp only
      generalize cursor.fetchMore left = one at fetched ⊢
      generalize cursor.fetchMore right = two at fetched ⊢
      cases fetched with
      | ok later same => exact .ok later.hasRows (.mk later same)
      | error error same => exact .error error (.mk cursor same)

theorem FetchesAlike.next (fetches : FetchesAlike related cursor left right)
    (same : related left right) :
    Alike (SameCursor related) (next (cursor, left)) (next (cursor, right)) := by
  simp only [ResultCursor.next]
  by_cases closed : cursor.isClosed = true
  · rw [if_pos closed, if_pos closed]
    by_cases nothing : cursor.taken = 0
    · rw [if_pos nothing, if_pos nothing]
      exact .ok none (.mk cursor same)
    · rw [if_neg nothing, if_neg nothing]
      exact .error .resultSetClosed (.mk cursor same)
  · rw [if_neg closed, if_neg closed]
    have asked := fetches.hasNext same
    generalize ResultCursor.hasNext (cursor, left) = one at asked ⊢
    generalize ResultCursor.hasNext (cursor, right) = two at asked ⊢
    cases asked with
    | error error same => exact .error error same
    | @ok more before after same =>
        obtain ⟨later, before⟩ := before
        obtain ⟨other, after⟩ := after
        obtain ⟨sameCursor, same⟩ := same
        cases sameCursor
        cases more with
        | false => exact .ok none (.mk later.finish same)
        | true =>
            simp only
            cases later.batchRow later.batchTaken with
            | ok row => exact .ok (some row) (.mk later.advance same)
            | error error => exact .error error (.mk later.advance same)

/-! ## A whole visit -/

/-- No fetch tells related sessions apart, whatever the cursor. -/
def Indistinct (related : σ → τ → Prop) : Prop :=
  ∀ cursor left right, related left right → FetchesAlike related cursor left right

theorem Indistinct.hasNext (indistinct : Indistinct related) {before : ResultCursor × σ}
    {after : ResultCursor × τ} (same : SameCursor related before after) :
    Alike (SameCursor related) (hasNext before) (hasNext after) := by
  obtain ⟨cursor, left⟩ := before
  obtain ⟨other, right⟩ := after
  obtain ⟨sameCursor, same⟩ := same
  cases sameCursor
  exact (indistinct cursor left right same).hasNext same

theorem Indistinct.next (indistinct : Indistinct related) {before : ResultCursor × σ}
    {after : ResultCursor × τ} (same : SameCursor related before after) :
    Alike (SameCursor related) (next before) (next after) := by
  obtain ⟨cursor, left⟩ := before
  obtain ⟨other, right⟩ := after
  obtain ⟨sameCursor, same⟩ := same
  cases sameCursor
  exact (indistinct cursor left right same).next same

theorem Indistinct.forEachUpTo (indistinct : Indistinct related) {υ : Type}
    (visit : PacketRow → Step υ Unit) (limit : Nat) {before : ResultCursor × σ}
    {after : ResultCursor × τ} (same : SameCursor related before after) (visited : υ) :
    Alike (fun one other => SameCursor related one.1 other.1 ∧ one.2 = other.2)
      (forEachUpTo visit limit (before, visited)) (forEachUpTo visit limit (after, visited)) := by
  induction limit generalizing before after visited with
  | zero => exact .ok false ⟨same, rfl⟩
  | succ limit ih =>
      have moved := indistinct.next same
      simp only [ResultCursor.forEachUpTo]
      generalize ResultCursor.next before = one at moved ⊢
      generalize ResultCursor.next after = two at moved ⊢
      cases moved with
      | error error same => exact .error error ⟨same, rfl⟩
      | ok row same =>
          cases row with
          | none => exact .ok true ⟨same, rfl⟩
          | some row =>
              simp only
              cases visit row visited with
              | error error visited => exact .error error ⟨same, rfl⟩
              | ok done visited => exact ih same visited

/-! ## Steps that respect a relation -/

theorem respects_readBatch {related : σ → σ → Prop} {columns : Columns}
    (receives : Respects related (RowSession.nextRow columns .binary : Step σ _))
    (rows : Array PacketRow) :
    Respects related (RowSession.readBatch columns rows : Step σ _) := by
  intro left right same
  rw [Step.agreesAt_iff_alike]
  fun_induction RowSession.readBatch columns rows left generalizing right with
  | case1 rows left row behind received ih =>
      obtain ⟨other, otherReceived, same⟩ := (receives left right same).exists_ok received
      rw [readBatch_of_row otherReceived]
      exact ih other same
  | case2 rows left behind received =>
      obtain ⟨other, otherReceived, same⟩ := (receives left right same).exists_ok received
      rw [readBatch_of_end otherReceived]
      exact .ok rows same
  | case3 rows left error behind received =>
      obtain ⟨other, otherReceived, same⟩ := (receives left right same).exists_error received
      rw [readBatch_of_error otherReceived]
      exact .error error same

/-- Sessions that are told apart neither by sending nor by receiving are told apart by no
fetch. -/
theorem indistinct_of_respects {related : σ → σ → Prop}
    (sends : ∀ command, Respects related (RowSession.sendCommand command : Step σ Unit))
    (receives : ∀ columns, Respects related (RowSession.nextRow columns .binary : Step σ _))
    (told : ∀ left right, related left right →
      RowSession.lastRowSent left = RowSession.lastRowSent right) : Indistinct related := by
  intro cursor left right same columns _
  have fetches : Respects related (cursor.fetchBatch columns : Step σ _) :=
    (sends _).bind fun _ => respects_readBatch (receives columns) #[]
  refine (Step.agreesAt_iff_alike.mp (fetches left right same)).imp ?_
  intro before after same
  exact ⟨same, told before after same⟩

end

end RowCursor.ResultCursor
