import RowCursor.PacketRow
import RowCursor.Proofs.PacketReader
import RowCursor.Proofs.Step

/-!
# The seek cache of a row

A packet row remembers the column it found last.  `locate` is the search without a
memory: the walk from the first column.  As long as the memory agrees with that walk
(`CacheSound`), a search that starts from it ends where the whole walk ends, and fails
as the whole walk fails.  So every read of a row yields what the packet and the
metadata say (`Yields`), and leaves a memory that agrees again.
-/

set_option autoImplicit false

namespace RowCursor.PacketRow

variable {α β : Type} {row : PacketRow}

/-! ## Searching without a memory -/

/-- The reader at a column, found by walking from the first column. -/
def locate (row : PacketRow) (index : Nat) : Except Error PacketReader := do
  row.walk index 0 (← PacketReader.at? row.packet row.home)

theorem walk_add (row : PacketRow) (first count index : Nat) (reader : PacketReader) :
    row.walk (first + count) index reader =
      row.walk first index reader >>= row.walk count (index + first) := by
  induction first generalizing index reader with
  | zero =>
      rw [Nat.zero_add, Nat.add_zero]
      rfl
  | succ first ih =>
      rw [Nat.succ_add, walk, walk]
      cases row.skipColumn index reader with
      | error error => rfl
      | ok behind =>
          simp only [ih, Nat.add_assoc, Nat.add_comm 1 first]

theorem walk_with_found (row : PacketRow) (found : Option (Nat × Nat)) (count index : Nat)
    (reader : PacketReader) :
    walk { row with found } count index reader = row.walk count index reader := by
  induction count generalizing index reader with
  | zero => rfl
  | succ count ih =>
      have skip : skipColumn { row with found } index reader = row.skipColumn index reader := rfl
      rw [walk, walk, skip]
      cases row.skipColumn index reader with
      | error error => rfl
      | ok behind => exact ih (index + 1) behind

theorem locate_with_found (row : PacketRow) (found : Option (Nat × Nat)) (index : Nat) :
    locate { row with found } index = row.locate index := by
  unfold locate
  cases PacketReader.at? row.packet row.home with
  | error error => rfl
  | ok start => exact row.walk_with_found found index 0 start

theorem standsIn_of_skipColumn {packet : Bytes} {index : Nat} {reader behind : PacketReader}
    (stands : reader.StandsIn packet) (skipped : row.skipColumn index reader = .ok behind) :
    behind.StandsIn packet := by
  unfold skipColumn at skipped
  split at skipped
  · exact PacketReader.standsIn_of_skipLenencBytes stands skipped
  · split at skipped
    · cases skipped
      exact stands
    · split at skipped
      · simp at skipped
      · split at skipped
        · exact PacketReader.standsIn_of_skip stands skipped
        · exact PacketReader.standsIn_of_skipLenencBytes stands skipped
        · simp at skipped

theorem standsIn_of_walk {packet : Bytes} {count index : Nat} {reader behind : PacketReader}
    (stands : reader.StandsIn packet) (walked : row.walk count index reader = .ok behind) :
    behind.StandsIn packet := by
  induction count generalizing index reader with
  | zero =>
      cases walked
      exact stands
  | succ count ih =>
      rw [walk] at walked
      cases skipped : row.skipColumn index reader with
      | error error => simp [skipped] at walked
      | ok next =>
          simp only [skipped] at walked
          exact ih (standsIn_of_skipColumn stands skipped) walked

theorem locate_eq_walk (inside : row.home ≤ row.packet.length) (index : Nat) :
    row.locate index = row.walk index 0 ⟨row.packet, row.packet.drop row.home⟩ := by
  rw [locate, PacketReader.at?_of_le inside]
  rfl

theorem standsIn_of_locate (inside : row.home ≤ row.packet.length) {index : Nat}
    {reader : PacketReader} (located : row.locate index = .ok reader) :
    reader.StandsIn row.packet := by
  rw [locate_eq_walk inside] at located
  exact standsIn_of_walk (PacketReader.standsIn_drop row.packet row.home) located

theorem locate_add (row : PacketRow) (first count : Nat) :
    row.locate (first + count) = row.locate first >>= row.walk count first := by
  unfold locate
  cases PacketReader.at? row.packet row.home with
  | error error => rfl
  | ok start =>
      have split := row.walk_add first count 0 start
      rw [Nat.zero_add] at split
      exact split

/-! ## Searching with a memory -/

/-- The first column begins in the packet, and the column that was found last begins
where the walk from the first column reaches it. -/
structure CacheSound (row : PacketRow) : Prop where
  home_le : row.home ≤ row.packet.length
  found_eq : ∀ column offset, row.found = some (column, offset) →
    ∃ reader, row.locate column = .ok reader ∧ reader.position = offset

theorem CacheSound.of_not_found (inside : row.home ≤ row.packet.length)
    (nothing : row.found = none) : CacheSound row := by
  refine ⟨inside, ?_⟩
  intro column offset found
  rw [nothing] at found
  cases found

theorem CacheSound.offset_le (sound : CacheSound row) {column offset : Nat}
    (found : row.found = some (column, offset)) : offset ≤ row.packet.length := by
  obtain ⟨reader, located, position⟩ := sound.found_eq column offset found
  rw [← position]
  exact (standsIn_of_locate sound.home_le located).position_le

theorem CacheSound.nearest_eq (sound : CacheSound row) (index : Nat) :
    ∃ column offset reader, row.nearest index = (column, offset) ∧ column ≤ index ∧
      row.locate column = .ok reader ∧ PacketReader.at? row.packet offset = .ok reader := by
  have start : row.locate 0 = .ok ⟨row.packet, row.packet.drop row.home⟩ :=
    locate_eq_walk sound.home_le 0
  have atHome := PacketReader.at?_of_le sound.home_le
  unfold nearest
  cases found : row.found with
  | none => exact ⟨0, row.home, _, rfl, Nat.zero_le _, start, atHome⟩
  | some place =>
      obtain ⟨column, offset⟩ := place
      by_cases before : column ≤ index
      · obtain ⟨reader, located, position⟩ := sound.found_eq column offset found
        have stands := standsIn_of_locate sound.home_le located
        refine ⟨column, offset, reader, if_pos before, before, located, ?_⟩
        rw [← position]
        exact stands.at?_position
      · exact ⟨0, row.home, _, if_neg before, Nat.zero_le _, start, atHome⟩

/-- The search for the remembered column itself answers with the remembered place. -/
theorem seek_remembered {index offset : Nat} (found : row.found = some (index, offset))
    (within : offset ≤ row.packet.length) (first : index = 0 → offset = row.home) :
    row.seek index = .ok offset := by
  unfold seek
  by_cases zero : index = 0
  · rw [if_pos zero, first zero]
  · have nearest : row.nearest index = (index, offset) := by
      unfold PacketRow.nearest
      rw [found]
      exact if_pos (Nat.le_refl index)
    rw [if_neg zero, nearest]
    simp only [PacketReader.at?_of_le within, Nat.sub_self, walk, bind, Except.bind, pure,
      Except.pure, PacketReader.position_drop within]

/-- A search from the memory ends where the walk from the first column ends, and fails
as that walk fails. -/
theorem CacheSound.seek_eq (sound : CacheSound row) (index : Nat) :
    row.seek index = (row.locate index).map PacketReader.position := by
  unfold seek
  by_cases first : index = 0
  · subst index
    rw [if_pos rfl, locate_eq_walk sound.home_le]
    simp only [walk, Except.map, PacketReader.position_drop sound.home_le]
  · obtain ⟨column, offset, reader, nearest, before, located, placed⟩ := sound.nearest_eq index
    -- The walk to the column goes by way of the place where the search starts.
    have whole : column + (index - column) = index := Nat.add_sub_of_le before
    have search : row.locate index = row.walk (index - column) column reader := by
      have split := row.locate_add column (index - column)
      rw [whole, located] at split
      exact split
    rw [if_neg first, nearest]
    simp only [placed, search, bind, Except.bind]
    cases row.walk (index - column) column reader <;> rfl

/-! ## What a read yields -/

/-- While the row's memory is one of these, the step answers `result`, and changes nothing but
the memory, which stays one of them. -/
def YieldsWhile (row : PacketRow) (keeps : Option (Nat × Nat) → Prop) (step : Step PacketRow α)
    (result : Except Error α) : Prop :=
  ∀ found, keeps found →
    step.answer { row with found } = result ∧
      ∃ later, step.after { row with found } = { row with found := later } ∧ keeps later

/-- Whatever sound memory the row has, the step answers `result`, and changes nothing
but the memory, which stays sound. -/
def Yields (row : PacketRow) (step : Step PacketRow α) (result : Except Error α) : Prop :=
  row.YieldsWhile (fun found => CacheSound { row with found }) step result

section

variable {keeps : Option (Nat × Nat) → Prop}

theorem yields_lift (result : Except Error α) :
    row.YieldsWhile keeps (Step.lift result) result := by
  intro found kept
  exact ⟨Step.answer_lift _ _, found, Step.after_lift _ _, kept⟩

theorem yields_pure (value : α) : row.YieldsWhile keeps (pure value) (.ok value) := by
  intro found kept
  exact ⟨rfl, found, rfl, kept⟩

theorem yields_throw (error : Error) :
    row.YieldsWhile keeps (throw error : Step PacketRow α) (.error error) := by
  intro found kept
  exact ⟨rfl, found, rfl, kept⟩

theorem yields_bind {step : Step PacketRow α} {next : α → Step PacketRow β}
    {result : Except Error α} {later : α → Except Error β}
    (first : row.YieldsWhile keeps step result)
    (rest : ∀ value, row.YieldsWhile keeps (next value) (later value)) :
    row.YieldsWhile keeps (step >>= next) (result >>= later) := by
  intro found kept
  obtain ⟨answered, middle, left, middleKept⟩ := first found kept
  rw [Step.answer_bind, Step.after_bind, answered, left]
  cases result with
  | error error => exact ⟨rfl, middle, rfl, middleKept⟩
  | ok value => exact rest value middle middleKept

theorem yields_get_bind {next : PacketRow → Step PacketRow α} {result : Except Error α}
    (blind : ∀ found, next { row with found } = next row)
    (rest : row.YieldsWhile keeps (next row) result) :
    row.YieldsWhile keeps (get >>= next) result := by
  intro found kept
  rw [Step.answer_get_bind, Step.after_get_bind, blind]
  exact rest found kept

theorem yields_mapM {step : Nat → Step PacketRow α} {result : Nat → Except Error α}
    (each : ∀ index, row.YieldsWhile keeps (step index) (result index)) (indices : List Nat) :
    row.YieldsWhile keeps (indices.mapM step) (indices.mapM result) := by
  induction indices with
  | nil => exact yields_pure []
  | cons index rest ih =>
      rw [List.mapM_cons, List.mapM_cons]
      refine yields_bind (each index) fun value => ?_
      exact yields_bind ih fun values => yields_pure (value :: values)

end

theorem yields_find (index : Nat) : row.Yields (find index) (row.locate index) := by
  intro found sound
  have seek := sound.seek_eq index
  have inside : row.home ≤ row.packet.length := sound.home_le
  rw [locate_with_found] at seek
  rw [find, Step.answer_get_bind, Step.after_get_bind, Step.answer_bind, Step.after_bind,
    Step.answer_lift, Step.after_lift, seek]
  cases search : row.locate index with
  | error error => exact ⟨rfl, found, rfl, sound⟩
  | ok reader =>
      have stands := standsIn_of_locate inside search
      refine ⟨?_, some (index, reader.position), ?_, sound.home_le, ?_⟩
      · change (Step.lift (PacketReader.at? row.packet reader.position)).answer _ = _
        rw [Step.answer_lift]
        exact stands.at?_position
      · exact Step.after_lift _ _
      · intro column offset place
        cases place
        rw [locate_with_found]
        exact ⟨reader, search, rfl⟩

end RowCursor.PacketRow
