import RowCursor.Proofs.Cursor.Delivery
import RowCursor.Proofs.Session.Paging

/-!
# A cursor over a paging server

Between two fetches the rows that arrived and the rows that are pending make up the
result (`Paging.Served`), and the cursor knows of the end what the server told
(`Paging.Kept`).  Both are kept by every `next`, failed fetches included.  The count of
rows that arrived is fixed by the count of fetches: every fetch but the last is full.
-/

set_option autoImplicit false

namespace RowCursor

/-! ## How many rows a fetch asks for -/

namespace CursorOptions

/-- As many of the rows as the options admit. -/
def limited {α : Type} (options : CursorOptions) (rows : List α) : List α :=
  match options.maxRows with
  | some limit => rows.take limit
  | none => rows

/-- The count of rows to ask for when this many were handed out. -/
def fetchCount (options : CursorOptions) (handed : Nat) : Nat :=
  match options.maxRows with
  | some limit => min options.rowsPerFetch.toNat (limit - handed)
  | none => options.rowsPerFetch.toNat

theorem lt_length_limited {α : Type} {options : CursorOptions} {rows : List α} {delivered : Nat}
    (unlimited : ∀ limit, options.maxRows = some limit → delivered < limit)
    (more : delivered < rows.length) : delivered < (options.limited rows).length := by
  unfold limited
  cases bounded : options.maxRows with
  | none => exact more
  | some limit =>
      rw [List.length_take]
      exact Nat.lt_min.mpr ⟨unlimited limit bounded, more⟩

theorem eq_limited {α : Type} {options : CursorOptions} {rows handed : List α}
    (front : handed <+: rows)
    (below : ∀ limit, options.maxRows = some limit → handed.length ≤ limit)
    (finished : handed = rows ∨ ∃ limit, options.maxRows = some limit ∧ limit ≤ handed.length) :
    handed = options.limited rows := by
  unfold limited
  rcases finished with whole | ⟨limit, bounded, reached⟩
  · cases bounded : options.maxRows with
    | none => exact whole
    | some limit =>
        have few := below limit bounded
        rw [whole] at few
        rw [whole]
        exact (List.take_of_length_le few).symm
  · have few := below limit bounded
    rw [bounded]
    have length_eq : handed.length = limit := by omega
    rw [← length_eq]
    exact List.prefix_iff_eq_take.mp front

/-- One more fetch delivers a full batch, or all that is admitted. -/
theorem add_fetchCount {α : Type} {options : CursorOptions} {rows : List α}
    {delivered fetches : Nat}
    (unlimited : ∀ limit, options.maxRows = some limit → delivered < limit)
    (count : delivered =
      min (fetches * options.rowsPerFetch.toNat) (options.limited rows).length) :
    delivered + min (options.fetchCount delivered) (rows.length - delivered) =
      min ((fetches + 1) * options.rowsPerFetch.toNat) (options.limited rows).length := by
  -- The product stays whole: all cases are about sums and minima of it.
  rw [Nat.succ_mul]
  unfold fetchCount
  unfold limited at count ⊢
  cases bounded : options.maxRows with
  | none =>
      simp only [bounded] at count ⊢
      omega
  | some limit =>
      have below := unlimited limit bounded
      simp only [bounded, List.length_take] at count ⊢
      omega

end CursorOptions

theorem toNat_min (left right : UInt32) :
    (min left right).toNat = min left.toNat right.toNat := by
  show (if left ≤ right then left else right).toNat = _
  split
  · rename_i below
    rw [Nat.min_eq_left (UInt32.le_iff_toNat_le.mp below)]
  · rename_i above
    rw [UInt32.le_iff_toNat_le] at above
    rw [Nat.min_eq_right (by omega)]

theorem toNat_max (left right : UInt32) :
    (max left right).toNat = max left.toNat right.toNat := by
  show (if left ≤ right then right else left).toNat = _
  split
  · rename_i below
    rw [Nat.max_eq_right (UInt32.le_iff_toNat_le.mp below)]
  · rename_i above
    rw [UInt32.le_iff_toNat_le] at above
    rw [Nat.max_eq_left (by omega)]

namespace ResultCursor

variable {cursor : ResultCursor}

theorem taken_lt_of_maxRowsReached (unlimited : cursor.maxRowsReached = false) (limit : Nat)
    (bounded : cursor.options.maxRows = some limit) : cursor.taken < limit := by
  simpa [maxRowsReached, bounded] using unlimited

theorem of_maxRowsReached (reached : cursor.maxRowsReached = true) :
    ∃ limit, cursor.options.maxRows = some limit ∧ limit ≤ cursor.taken := by
  cases bounded : cursor.options.maxRows with
  | none => simp [maxRowsReached, bounded] at reached
  | some limit => exact ⟨limit, rfl, by simpa [maxRowsReached, bounded] using reached⟩

/-- The clamps to 32 bits and to one row at least do not change the count. -/
theorem toNat_rowsToRequest (paged : 1 ≤ cursor.options.rowsPerFetch.toNat)
    (unlimited : cursor.maxRowsReached = false) :
    cursor.rowsToRequest.toNat = cursor.options.fetchCount cursor.taken ∧
      1 ≤ cursor.rowsToRequest.toNat := by
  have below := taken_lt_of_maxRowsReached unlimited
  unfold rowsToRequest CursorOptions.fetchCount
  cases bounded : cursor.options.maxRows with
  | none => exact ⟨rfl, paged⟩
  | some limit =>
      have positive : 1 ≤ limit - cursor.taken := Nat.sub_pos_of_lt (below limit bounded)
      simp only
      split
      · rename_i small
        have same : (UInt32.ofNat (limit - cursor.taken)).toNat = limit - cursor.taken :=
          UInt32.toNat_ofNat_of_lt' small
        have least : 1 ≤ min cursor.options.rowsPerFetch.toNat (limit - cursor.taken) :=
          Nat.le_min.mpr ⟨paged, positive⟩
        rw [toNat_max, toNat_min, same]
        exact ⟨Nat.max_eq_left least, Nat.le_trans least (Nat.le_max_left _ _)⟩
      · rename_i large
        have size := cursor.options.rowsPerFetch.toNat_lt_size
        rw [Nat.min_eq_left (by omega)]
        exact ⟨rfl, paged⟩

end ResultCursor

/-! ## What the server has delivered -/

/-- A cursor over a paging server whose rows are well-formed. -/
structure Paging where
  statementId : UInt32
  columns : Columns
  options : CursorOptions
  packets : List Bytes
  rows : List PacketRow
  failing : List Nat
  withholdLast : Bool
  size_pos : 1 ≤ options.rowsPerFetch.toNat
  reads : ReadsAs columns packets rows

namespace Paging

variable {paging : Paging}

def size (paging : Paging) : Nat := paging.options.rowsPerFetch.toNat

def wanted (paging : Paging) : List PacketRow := paging.options.limited paging.rows

def server (paging : Paging) : PagingServer :=
  { pending := paging.packets, failing := paging.failing, withholdLast := paging.withholdLast }

/-- The server between two fetches. -/
structure Served (paging : Paging) (recorded : Recorded PagingServer) : Prop where
  failing_eq : recorded.session.failing = paging.failing
  withholdLast_eq : recorded.session.withholdLast = paging.withholdLast
  queue_eq : recorded.session.delivery.queue = []
  answered_eq : recorded.session.delivery.commands.length = recorded.batches.length
  pending : ∃ later, ReadsAs paging.columns recorded.session.pending later ∧
    recorded.batches.flatten ++ later = paging.rows
  count_eq : recorded.batches.flatten.length =
    min (recorded.batches.length * paging.size) paging.wanted.length
  /-- No fetch but the first is made when nothing is left. -/
  of_withholdLast : paging.withholdLast = false → recorded.batches.length ≤ 1 ∨
    (recorded.batches.length - 1) * paging.size < paging.wanted.length

theorem toNat_rowsToRequest {cursor : ResultCursor}
    (options_eq : cursor.options = paging.options) (unlimited : cursor.maxRowsReached = false) :
    cursor.rowsToRequest.toNat = paging.options.fetchCount cursor.taken ∧
      1 ≤ cursor.rowsToRequest.toNat := by
  rw [← options_eq]
  refine ResultCursor.toNat_rowsToRequest ?_ unlimited
  rw [options_eq]
  exact paging.size_pos

theorem served_server (paging : Paging) : paging.Served (Recorded.ofSession paging.server) where
  failing_eq := rfl
  withholdLast_eq := rfl
  queue_eq := rfl
  answered_eq := rfl
  pending := ⟨paging.rows, paging.reads, rfl⟩
  count_eq := by simp [Recorded.ofSession]
  of_withholdLast := fun _ => .inl (Nat.zero_le 1)

section

variable {recorded after : Recorded PagingServer} {cursor : ResultCursor}

/-- A fetch fails only at a chosen ordinal, and leaves all rows where they are. -/
theorem Served.of_failed (served : paging.Served recorded) {error : Error}
    (failed : cursor.fetchBatch paging.columns recorded = .error error after) :
    paging.Served after ∧ recorded.session.ordinal ∈ paging.failing ∧
      after.session = { recorded.session with ordinal := recorded.session.ordinal + 1 } := by
  have plain := ResultCursor.withoutRecord_fetchBatch cursor paging.columns recorded
  obtain ⟨later, reads, whole⟩ := served.pending
  rw [failed] at plain
  by_cases fails : recorded.session.ordinal ∈ recorded.session.failing
  · rw [PagingServer.fetchBatch_of_failing cursor paging.columns fails] at plain
    obtain ⟨_, same⟩ := EStateM.Result.error.inj plain
    have batches := (ResultCursor.fetchBatch_record_of_error failed).2
    rw [served.failing_eq] at fails
    refine ⟨?_, fails, same⟩
    obtain ⟨failing, withheld, queue, answered, pending, count, needed⟩ := served
    constructor <;> simpa only [same, batches]
  · rw [PagingServer.fetchBatch_of_served cursor fails served.queue_eq reads] at plain
    cases plain

/-- A fetch that succeeds takes the next rows, as many as it asks for. -/
theorem Served.fetched (served : paging.Served recorded) {batch : Array PacketRow}
    (fetched : cursor.fetchBatch paging.columns recorded = .ok batch after) :
    ∃ later, ReadsAs paging.columns recorded.session.pending later ∧
      recorded.batches.flatten ++ later = paging.rows ∧
      batch = (later.take cursor.rowsToRequest.toNat).toArray ∧
      after.batches = recorded.batches ++ [later.take cursor.rowsToRequest.toNat] ∧
      after.session =
        recorded.session.served cursor.fetchCommand cursor.rowsToRequest.toNat := by
  have plain := ResultCursor.withoutRecord_fetchBatch cursor paging.columns recorded
  obtain ⟨later, reads, whole⟩ := served.pending
  rw [fetched] at plain
  by_cases fails : recorded.session.ordinal ∈ recorded.session.failing
  · rw [PagingServer.fetchBatch_of_failing cursor paging.columns fails] at plain
    cases plain
  · rw [PagingServer.fetchBatch_of_served cursor fails served.queue_eq reads] at plain
    obtain ⟨arrived, same⟩ := EStateM.Result.ok.inj plain
    have batches := (ResultCursor.fetchBatch_record fetched).2
    rw [arrived] at batches
    exact ⟨later, reads, whole, arrived, batches, same⟩

theorem Served.of_fetched (served : paging.Served recorded) {batch : Array PacketRow}
    (options_eq : cursor.options = paging.options) (unlimited : cursor.maxRowsReached = false)
    (taken_eq : cursor.taken = recorded.batches.flatten.length)
    (more : recorded.batches ≠ [] → paging.withholdLast = false → recorded.session.pending ≠ [])
    (fetched : cursor.fetchBatch paging.columns recorded = .ok batch after) :
    paging.Served after := by
  obtain ⟨later, reads, whole, _, batches, same⟩ := served.fetched fetched
  have asked := (toNat_rowsToRequest options_eq unlimited).1
  have below := ResultCursor.taken_lt_of_maxRowsReached unlimited
  rw [taken_eq] at asked
  rw [options_eq, taken_eq] at below
  have left : later.length = paging.rows.length - recorded.batches.flatten.length := by
    rw [← whole, List.length_append, Nat.add_sub_cancel_left]
  refine {
    failing_eq := ?_
    withholdLast_eq := ?_
    queue_eq := ?_
    answered_eq := ?_
    pending := ?_
    count_eq := ?_
    of_withholdLast := ?_ }
  · rw [same]
    exact served.failing_eq
  · rw [same]
    exact served.withholdLast_eq
  · rw [same]
    rfl
  · rw [same, batches, List.length_append, ← served.answered_eq]
    simp only [PagingServer.served, List.length_append, List.length_singleton]
  · refine ⟨later.drop cursor.rowsToRequest.toNat, ?_, ?_⟩
    · rw [same]
      exact reads.drop cursor.rowsToRequest.toNat
    · rw [batches, List.flatten_append, List.flatten_singleton, List.append_assoc,
        List.take_append_drop]
      exact whole
  · rw [batches, List.flatten_append, List.flatten_singleton, List.length_append,
      List.length_append, List.length_take, asked, left]
    exact CursorOptions.add_fetchCount below served.count_eq
  · intro announced
    rw [batches, List.length_append, List.length_singleton, Nat.add_sub_cancel]
    by_cases first : recorded.batches = []
    · left
      simp [first]
    · -- Rows were pending and more were admitted, so the batches so far were full.
      right
      have pending := more first announced
      have room : 0 < later.length := by
        rw [← reads.length_eq]
        exact List.length_pos_iff.mpr pending
      have short : recorded.batches.flatten.length < paging.wanted.length :=
        CursorOptions.lt_length_limited below (by omega)
      have count := served.count_eq
      omega

theorem Served.lastRowSent_iff (served : paging.Served recorded) {batch : Array PacketRow}
    (fetched : cursor.fetchBatch paging.columns recorded = .ok batch after) :
    RowSession.lastRowSent after = true ↔
      after.session.pending = [] ∧ paging.withholdLast = false := by
  obtain ⟨_, _, _, _, _, same⟩ := served.fetched fetched
  show after.session.delivery.lastRowSent = true ↔ _
  rw [same, ← served.withholdLast_eq]
  simp [PagingServer.served]

/-- An empty batch means that nothing was pending. -/
theorem Served.pending_of_isEmpty (served : paging.Served recorded)
    (asked : 1 ≤ cursor.rowsToRequest.toNat)
    (fetched : cursor.fetchBatch paging.columns recorded = .ok #[] after) :
    after.session.pending = [] := by
  obtain ⟨later, reads, _, arrived, _, same⟩ := served.fetched fetched
  have none : later.take cursor.rowsToRequest.toNat = [] := congrArg Array.toList arrived.symm
  have nothing : later = [] := by
    rcases List.take_eq_nil_iff.mp none with zero | nothing
    · omega
    · exact nothing
  have pending : recorded.session.pending = [] := by
    rw [← List.length_eq_zero_iff, reads.length_eq, nothing, List.length_nil]
  rw [same]
  simp only [PagingServer.served, pending, List.drop_nil]

end

/-! ## What the cursor knows of the server -/

/-- A consumer of the server between two calls. -/
structure Kept (paging : Paging) (progress : Progress (Recorded PagingServer)) : Prop where
  sound : progress.Sound paging.columns paging.options
  statementId_eq : progress.cursor.statementId = paging.statementId
  served : paging.Served progress.session
  batch_eq_none_iff : progress.cursor.batch = none ↔ progress.session.batches = []
  lastRowFetched_iff : progress.cursor.lastRowFetched = true ↔
    progress.session.batches ≠ [] ∧ progress.session.session.pending = [] ∧
      paging.withholdLast = false
  pending_of_isEmpty : progress.cursor.batch = some #[] → progress.session.session.pending = []

/-- A consumer before its first call. -/
def consumer (paging : Paging) : Progress (Recorded PagingServer) :=
  .start paging.statementId paging.columns paging.options (Recorded.ofSession paging.server)

theorem kept_consumer (paging : Paging) : paging.Kept paging.consumer where
  sound := Progress.sound_start paging.statementId paging.columns paging.options paging.server
  statementId_eq := rfl
  served := paging.served_server
  batch_eq_none_iff := ⟨fun _ => rfl, fun _ => rfl⟩
  lastRowFetched_iff := by
    refine ⟨?_, ?_⟩
    · intro last
      cases last
    · intro told
      exact absurd rfl told.1
  pending_of_isEmpty := by
    intro present
    cases present

section

variable {progress : Progress (Recorded PagingServer)}

theorem Kept.of_failed (kept : paging.Kept progress) {error : Error}
    {after : Recorded PagingServer}
    (failed : progress.cursor.fetchBatch paging.columns progress.session = .error error after) :
    paging.Kept { progress with session := after } := by
  obtain ⟨served, _, same⟩ := kept.served.of_failed failed
  have batches := (ResultCursor.fetchBatch_record_of_error failed).2
  refine {
    sound := kept.sound.of_batches_eq batches
    statementId_eq := kept.statementId_eq
    served := served
    batch_eq_none_iff := ?_
    lastRowFetched_iff := ?_
    pending_of_isEmpty := ?_ }
  · rw [batches]
    exact kept.batch_eq_none_iff
  · rw [batches, same]
    exact kept.lastRowFetched_iff
  · rw [same]
    exact kept.pending_of_isEmpty

theorem Kept.withBatch (kept : paging.Kept progress) {batch : Array PacketRow}
    {after : Recorded PagingServer} (needed : progress.cursor.hasNextKnown? = none)
    (fetched : progress.cursor.fetchBatch paging.columns progress.session = .ok batch after) :
    paging.Kept { progress with
      cursor := progress.cursor.withBatch batch (RowSession.lastRowSent after)
      session := after } := by
  have sound := kept.sound
  have unlimited := (ResultCursor.of_hasNextKnown?_eq_none needed).1
  have open_ := sound.regular.lastRowFetched_eq_false needed
  have drained : progress.cursor.taken = progress.session.batches.flatten.length := by
    rw [sound.taken_eq, sound.handed_eq needed]
  -- Had the server nothing left, it would have told, and no fetch would be needed.
  have more : progress.session.batches ≠ [] → paging.withholdLast = false →
      progress.session.session.pending ≠ [] := by
    intro some announced none
    have last := kept.lastRowFetched_iff.mpr ⟨some, none, announced⟩
    rw [open_] at last
    cases last
  have batches := (ResultCursor.fetchBatch_record fetched).2
  have last := kept.served.lastRowSent_iff fetched
  refine {
    sound := sound.withBatch PagingServer.rowsCarry needed fetched _
    statementId_eq := kept.statementId_eq
    served := kept.served.of_fetched sound.options_eq unlimited drained more fetched
    batch_eq_none_iff := ?_
    lastRowFetched_iff := ?_
    pending_of_isEmpty := ?_ }
  · simp [ResultCursor.withBatch, batches]
  · simp only [ResultCursor.withBatch, open_, Bool.false_or]
    rw [last, batches]
    simp
  · intro empty
    obtain ⟨rfl⟩ := Option.some.inj empty
    exact kept.served.pending_of_isEmpty (toNat_rowsToRequest sound.options_eq unlimited).2
      fetched

theorem Kept.hasNext (kept : paging.Kept progress) : paging.Kept progress.hasNext := by
  cases Progress.hasNext_move kept.sound.regular kept.sound.opened with
  | known answer known same =>
      rw [same]
      exact kept
  | fetched batch after needed fetched same =>
      rw [same]
      exact kept.withBatch needed fetched
  | failed error after needed failed same =>
      rw [same]
      exact kept.of_failed failed

theorem Kept.next (kept : paging.Kept progress) : paging.Kept progress.next := by
  have asked := kept.hasNext
  have sound := kept.sound.next PagingServer.rowsCarry
  cases kept.sound.next_move PagingServer.rowsCarry with
  | failed error after needed failed moved same =>
      rw [same]
      exact kept.of_failed failed
  | ended finished moved same =>
      rw [same] at sound ⊢
      exact { asked with sound := sound }
  | handed row more found moved same =>
      rw [same] at sound ⊢
      exact { asked with sound := sound }

/-! ## The end -/

theorem Kept.handed_prefix (kept : paging.Kept progress) : progress.handed <+: paging.rows := by
  obtain ⟨later, _, whole⟩ := kept.served.pending
  rw [← whole, ← kept.sound.delivered, List.append_assoc]
  exact List.prefix_append _ _

/-- Once nothing is pending and nothing waits, every row was handed out. -/
theorem Kept.handed_eq_rows (kept : paging.Kept progress)
    (nothing : progress.session.session.pending = []) (used : progress.waiting = []) :
    progress.handed = paging.rows := by
  obtain ⟨later, reads, whole⟩ := kept.served.pending
  have none : later = [] := by
    rw [← List.length_eq_zero_iff, ← reads.length_eq, nothing, List.length_nil]
  rw [← whole, ← kept.sound.delivered, used, none, List.append_nil, List.append_nil]

theorem Kept.handed_eq_wanted (kept : paging.Kept progress)
    (finished : progress.cursor.hasNextKnown? = some false) : progress.handed = paging.wanted := by
  have sound := kept.sound
  refine CursorOptions.eq_limited kept.handed_prefix sound.length_le ?_
  rcases ResultCursor.of_hasNextKnown?_eq_false sound.opened finished with
    reached | ⟨batch, present, used, why⟩
  · right
    obtain ⟨limit, bounded, le⟩ := ResultCursor.of_maxRowsReached reached
    rw [sound.options_eq] at bounded
    rw [sound.taken_eq] at le
    exact ⟨limit, bounded, le⟩
  · left
    refine kept.handed_eq_rows ?_ ?_
    · rcases why with rfl | last
      · exact kept.pending_of_isEmpty present
      · exact (kept.lastRowFetched_iff.mp last).2.1
    · rw [Progress.waiting, present, Option.getD_some, List.drop_eq_nil_iff]
      exact used

/-- The count that lies between one batch too few and enough batches. -/
theorem eq_max_div {count size total : Nat} (size_pos : 1 ≤ size) (count_pos : 1 ≤ count)
    (enough : total ≤ count * size) (needed : count ≤ 1 ∨ (count - 1) * size < total) :
    count = max 1 ((total + size - 1) / size) := by
  rcases needed with one | more
  · have same : count = 1 := by omega
    rw [same, Nat.one_mul] at enough
    have few : (total + size - 1) / size < 2 := by
      rw [Nat.div_lt_iff_lt_mul size_pos]
      omega
    omega
  · obtain ⟨before, rfl⟩ : ∃ before, count = before + 1 := ⟨count - 1, by omega⟩
    rw [Nat.add_sub_cancel] at more
    have exact_ : (total + size - 1) / size = before + 1 := by
      rw [Nat.succ_mul] at enough
      refine Nat.div_eq_of_lt_le ?_ ?_
      · rw [Nat.succ_mul]
        omega
      · rw [Nat.succ_mul, Nat.succ_mul]
        omega
    omega

theorem Kept.answered_eq (kept : paging.Kept progress)
    (finished : progress.cursor.hasNextKnown? = some false) (announced : paging.withholdLast = false)
    (some_ : paging.options.maxRows ≠ some 0) :
    progress.session.session.delivery.commands.length =
      max 1 ((paging.wanted.length + paging.size - 1) / paging.size) := by
  have sound := kept.sound
  have count := kept.served.count_eq
  have arrived : paging.wanted.length ≤ progress.session.batches.flatten.length := by
    rw [← kept.handed_eq_wanted finished, ← sound.delivered, List.length_append]
    exact Nat.le_add_right _ _
  have fetched : progress.session.batches ≠ [] := by
    rcases ResultCursor.of_hasNextKnown?_eq_false sound.opened finished with
      reached | ⟨batch, present, _⟩
    · -- A limit that is reached before any batch is zero.
      intro none
      obtain ⟨limit, bounded, le⟩ := ResultCursor.of_maxRowsReached reached
      have delivered := congrArg List.length sound.delivered
      rw [none, List.flatten_nil, List.length_append, List.length_nil] at delivered
      have zero : limit = 0 := by
        rw [sound.taken_eq] at le
        omega
      rw [sound.options_eq, zero] at bounded
      exact some_ bounded
    · intro none
      rw [kept.batch_eq_none_iff.mpr none] at present
      cases present
  rw [kept.served.answered_eq]
  refine eq_max_div paging.size_pos (List.length_pos_iff.mpr fetched) ?_
    (kept.served.of_withholdLast announced)
  omega

end

end Paging

end RowCursor
