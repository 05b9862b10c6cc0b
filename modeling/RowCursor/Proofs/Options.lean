import RowCursor.Options
import RowCursor.Proofs.Bytes
import RowCursor.Proofs.Text.Number

/-!
# The last parameter of each name counts

Options are read from query parameters one after the other.  They are refused at the first
parameter that is not admitted (`Refused` says why), whatever comes behind it.  If all are
admitted, every option is what the last parameter of its name says, so only the order of
parameters of one name matters.
-/

set_option autoImplicit false

namespace RowCursor

/-! ## Fetch sizes -/

namespace FetchSize

/-- The fetch size that a number stands for. -/
inductive Means : Int → FetchSize → Prop where
  | unset : Means 0 .unset
  | rowByRow : Means (-2147483648) .rowByRow
  | rows (count : UInt32) (positive : count ≠ 0) : Means count.toNat (.rows count)

/-- The numbers that stand for a fetch size. -/
def InRange (number : Int) : Prop := number = -2147483648 ∨ 0 ≤ number ∧ number < 4294967296

variable {number : Int} {size : FetchSize} {cause : ConfigError}

theorem toNat_ne_zero {count : UInt32} (positive : count ≠ 0) : count.toNat ≠ 0 :=
  fun zero => positive (UInt32.toNat_inj.mp zero)

theorem Means.inRange (means : Means number size) : InRange number := by
  unfold InRange
  cases means with
  | unset => omega
  | rowByRow => omega
  | rows count positive =>
      have small : count.toNat < 4294967296 := count.toNat_lt
      omega

theorem Means.ofNumber_eq (means : Means number size) : ofNumber number = .ok size := by
  cases means with
  | unset => rfl
  | rowByRow => rfl
  | rows count positive =>
      have small : count.toNat < 4294967296 := count.toNat_lt
      have some := toNat_ne_zero positive
      unfold ofNumber rowByRowNumber
      rw [if_neg (by omega), if_neg (by omega), if_neg (by omega), if_pos (by omega),
        Int.toNat_natCast, UInt32.ofNat_toNat]

theorem Means.unique {other : FetchSize} (means : Means number size)
    (again : Means number other) : size = other :=
  Except.ok.inj (means.ofNumber_eq.symm.trans again.ofNumber_eq)

theorem exists_means (inRange : InRange number) : ∃ size, Means number size := by
  rcases inRange with rfl | ⟨low, high⟩
  · exact ⟨_, .rowByRow⟩
  · obtain ⟨count, rfl⟩ := Int.eq_ofNat_of_zero_le low
    have same : (UInt32.ofNat count).toNat = count :=
      UInt32.toNat_ofNat_of_lt (Int.ofNat_lt.mp high)
    by_cases zero : count = 0
    · rw [zero]
      exact ⟨_, .unset⟩
    · have positive : UInt32.ofNat count ≠ 0 := by
        intro none
        rw [none] at same
        exact zero same.symm
      have means := Means.rows _ positive
      rw [same] at means
      exact ⟨_, means⟩

theorem ofNumber_of_negative (below : number < 0) (other : number ≠ -2147483648) :
    ofNumber number = .error (.negativeFetchSize number) := by
  unfold ofNumber rowByRowNumber
  rw [if_neg (Int.ne_of_lt below), if_neg other, if_pos below]

theorem ofNumber_of_large (above : 4294967296 ≤ number) :
    ofNumber number = .error (.fetchSizeTooLarge number) := by
  unfold ofNumber rowByRowNumber
  rw [if_neg (by omega), if_neg (by omega), if_neg (by omega), if_neg (by omega)]

end FetchSize

namespace CursorOptions

/-! ## One parameter -/

/-- The names of the fetch sizes, of the result and of the statement. -/
def sizeNames : List String := ["fetch_size", "statement_fetch_size"]

def limitName : String := "max_rows"

/-- The text spells a number that stands for the fetch size. -/
def SizeText (text : String) (size : FetchSize) : Prop :=
  ∃ number, Number.Signed text.toList number ∧ FetchSize.Means number size

/-- The text spells the limit, or zero for none. -/
def LimitText (text : String) (limit : Option Nat) : Prop :=
  ∃ number, Number.Unsigned text.toList number ∧ number < UInt64.size ∧
    limit = if number = 0 then none else some number

/-- A parameter with a known name and a value in its range. -/
inductive Admitted : String × String → Prop where
  | size {name text : String} {number : Int} (known : name ∈ sizeNames)
      (spelled : Number.Signed text.toList number) (inRange : FetchSize.InRange number) :
      Admitted (name, text)
  | limit {text : String} {number : Nat} (spelled : Number.Unsigned text.toList number)
      (inRange : number < UInt64.size) : Admitted (limitName, text)

/-- The range of the integers that a parameter may spell at all. -/
def Representable (number : Int) : Prop :=
  -9223372036854775808 ≤ number ∧ number < 9223372036854775808

/-- Why a parameter is refused. -/
inductive Refused : String × String → ConfigError → Prop where
  | unknown {name text : String} (noSize : name ∉ sizeNames) (noLimit : name ≠ limitName) :
      Refused (name, text) (.unknownParameter name)
  | noInteger {name text : String} (known : name ∈ sizeNames)
      (none : ∀ number, Number.Signed text.toList number → ¬Representable number) :
      Refused (name, text) (.badInteger text name)
  | negative {name text : String} {number : Int} (known : name ∈ sizeNames)
      (spelled : Number.Signed text.toList number) (representable : Representable number)
      (below : number < 0) (other : number ≠ -2147483648) :
      Refused (name, text) (.negativeFetchSize number)
  | tooLarge {name text : String} {number : Int} (known : name ∈ sizeNames)
      (spelled : Number.Signed text.toList number) (representable : Representable number)
      (above : 4294967296 ≤ number) :
      Refused (name, text) (.fetchSizeTooLarge number)
  | noUnsigned {text : String}
      (none : ∀ number, Number.Unsigned text.toList number → UInt64.size ≤ number) :
      Refused (limitName, text) (.badUnsigned text limitName)

/-- What an admitted parameter does to the options. -/
inductive Applied (options : CursorOptions) : String × String → CursorOptions → Prop where
  | fetchSize {text : String} {fetchSize : FetchSize} (spelled : SizeText text fetchSize) :
      Applied options ("fetch_size", text) { options with fetchSize }
  | statementFetchSize {text : String} {statementFetchSize : FetchSize}
      (spelled : SizeText text statementFetchSize) :
      Applied options ("statement_fetch_size", text) { options with statementFetchSize }
  | maxRows {text : String} {maxRows : Option Nat} (spelled : LimitText text maxRows) :
      Applied options ("max_rows", text) { options with maxRows }

variable {options later : CursorOptions} {pair : String × String} {text name : String}
  {cause : ConfigError}

theorem readFetchSize_of_spelled {number : Int} (spelled : Number.Signed text.toList number)
    (representable : Representable number) (name : String) :
    readFetchSize name text = FetchSize.ofNumber number := by
  have read : Number.signed? 0x8000000000000000 text = some number :=
    Number.signed?_eq_some_iff.mpr ⟨spelled, representable⟩
  simp only [readFetchSize, read]

theorem readFetchSize_of_none
    (none : ∀ number, Number.Signed text.toList number → ¬Representable number) (name : String) :
    readFetchSize name text = .error (.badInteger text name) := by
  have read : Number.signed? 0x8000000000000000 text = Option.none := by
    rw [Option.eq_none_iff_forall_ne_some]
    intro number read
    obtain ⟨spelled, representable⟩ := Number.signed?_eq_some_iff.mp read
    exact none number spelled representable
  simp only [readFetchSize, read]

theorem representable_of_inRange {number : Int} (inRange : FetchSize.InRange number) :
    Representable number := by
  unfold FetchSize.InRange at inRange
  unfold Representable
  omega

theorem SizeText.readFetchSize_eq {size : FetchSize} (spelled : SizeText text size)
    (name : String) : readFetchSize name text = .ok size := by
  obtain ⟨number, spelled, means⟩ := spelled
  rw [readFetchSize_of_spelled spelled (representable_of_inRange means.inRange), means.ofNumber_eq]

theorem readMaxRows_of_spelled {number : Nat} (spelled : Number.Unsigned text.toList number)
    (inRange : number < UInt64.size) (name : String) :
    readMaxRows name text = .ok (if number = 0 then none else some number) := by
  have read : Number.unsigned? UInt64.size text = some number :=
    Number.unsigned?_eq_some_iff.mpr ⟨spelled, inRange⟩
  simp only [readMaxRows, read]

theorem readMaxRows_of_none
    (none : ∀ number, Number.Unsigned text.toList number → UInt64.size ≤ number)
    (name : String) : readMaxRows name text = .error (.badUnsigned text name) := by
  have read : Number.unsigned? UInt64.size text = Option.none := by
    rw [Option.eq_none_iff_forall_ne_some]
    intro number read
    obtain ⟨spelled, small⟩ := Number.unsigned?_eq_some_iff.mp read
    exact Nat.not_le_of_lt small (none number spelled)
  simp only [readMaxRows, read]

theorem Applied.apply_eq (applied : Applied options pair later) :
    apply options pair = .ok later := by
  cases applied with
  | fetchSize spelled => simp [apply, spelled.readFetchSize_eq, Except.map]
  | statementFetchSize spelled => simp [apply, spelled.readFetchSize_eq, Except.map]
  | maxRows spelled =>
      obtain ⟨number, spelled, inRange, rfl⟩ := spelled
      simp [apply, readMaxRows_of_spelled spelled inRange, Except.map]

theorem mem_sizeNames_iff :
    name ∈ sizeNames ↔ name = "fetch_size" ∨ name = "statement_fetch_size" := by
  simp [sizeNames]

theorem apply_of_size_error (known : name ∈ sizeNames)
    (refused : readFetchSize name text = .error cause) :
    apply options (name, text) = .error cause := by
  rcases mem_sizeNames_iff.mp known with rfl | rfl
  · simp [apply, refused, Except.map]
  · simp [apply, refused, Except.map]

theorem Refused.apply_eq (refused : Refused pair cause) (options : CursorOptions) :
    apply options pair = .error cause := by
  cases refused with
  | unknown noSize noLimit =>
      simp only [mem_sizeNames_iff, not_or] at noSize
      simp only [limitName] at noLimit
      simp [apply, noSize, noLimit]
  | noInteger known none => exact apply_of_size_error known (readFetchSize_of_none none _)
  | negative known spelled representable below other =>
      refine apply_of_size_error known ?_
      rw [readFetchSize_of_spelled spelled representable,
        FetchSize.ofNumber_of_negative below other]
  | tooLarge known spelled representable above =>
      refine apply_of_size_error known ?_
      rw [readFetchSize_of_spelled spelled representable, FetchSize.ofNumber_of_large above]
  | noUnsigned none => simp [apply, limitName, readMaxRows_of_none none, Except.map]

theorem Admitted.exists_applied (admitted : Admitted pair) (options : CursorOptions) :
    ∃ later, Applied options pair later := by
  cases admitted with
  | @size name text number known spelled inRange =>
      obtain ⟨size, means⟩ := FetchSize.exists_means inRange
      rcases mem_sizeNames_iff.mp known with rfl | rfl
      · exact ⟨_, .fetchSize ⟨number, spelled, means⟩⟩
      · exact ⟨_, .statementFetchSize ⟨number, spelled, means⟩⟩
  | limit spelled inRange => exact ⟨_, .maxRows ⟨_, spelled, inRange, rfl⟩⟩

theorem Applied.admitted (applied : Applied options pair later) : Admitted pair := by
  cases applied with
  | fetchSize spelled =>
      obtain ⟨number, spelled, means⟩ := spelled
      exact .size (by decide) spelled means.inRange
  | statementFetchSize spelled =>
      obtain ⟨number, spelled, means⟩ := spelled
      exact .size (by decide) spelled means.inRange
  | maxRows spelled =>
      obtain ⟨number, spelled, inRange, _⟩ := spelled
      exact .limit spelled inRange

/-- A parameter is admitted, or there is a reason to refuse it. -/
theorem admitted_or_refused (pair : String × String) :
    Admitted pair ∨ ∃ cause, Refused pair cause := by
  obtain ⟨name, text⟩ := pair
  by_cases size : name ∈ sizeNames
  · by_cases integer : ∃ number, Number.Signed text.toList number ∧ Representable number
    · obtain ⟨number, spelled, representable⟩ := integer
      by_cases inRange : FetchSize.InRange number
      · exact .inl (.size size spelled inRange)
      · right
        unfold FetchSize.InRange at inRange
        by_cases below : number < 0
        · exact ⟨_, .negative size spelled representable below (by omega)⟩
        · exact ⟨_, .tooLarge size spelled representable (by omega)⟩
    · exact .inr ⟨_, .noInteger size fun number spelled representable =>
        integer ⟨number, spelled, representable⟩⟩
  · by_cases limit : name = limitName
    · subst limit
      by_cases unsigned : ∃ number, Number.Unsigned text.toList number ∧ number < UInt64.size
      · obtain ⟨number, spelled, inRange⟩ := unsigned
        exact .inl (.limit spelled inRange)
      · exact .inr ⟨_, .noUnsigned fun number spelled =>
          Nat.le_of_not_lt fun inRange => unsigned ⟨number, spelled, inRange⟩⟩
    · exact .inr ⟨_, .unknown size limit⟩

theorem apply_eq_ok_iff : apply options pair = .ok later ↔ Applied options pair later := by
  refine ⟨fun read => ?_, Applied.apply_eq⟩
  rcases admitted_or_refused pair with admitted | ⟨cause, refused⟩
  · obtain ⟨other, applied⟩ := admitted.exists_applied options
    rw [applied.apply_eq] at read
    cases read
    exact applied
  · rw [refused.apply_eq] at read
    cases read

theorem apply_eq_error_iff : apply options pair = .error cause ↔ Refused pair cause := by
  refine ⟨fun read => ?_, fun refused => refused.apply_eq options⟩
  rcases admitted_or_refused pair with admitted | ⟨other, refused⟩
  · obtain ⟨later, applied⟩ := admitted.exists_applied options
    rw [applied.apply_eq] at read
    cases read
  · rw [refused.apply_eq] at read
    cases read
    exact refused

/-! ## All parameters -/

variable {pairs : List (String × String)} {final : CursorOptions}

/-- Whatever the options are so far, reading goes on to the end exactly if all parameters are
admitted. -/
theorem exists_foldlM_iff (options : CursorOptions) :
    (∃ final, pairs.foldlM apply options = .ok final) ↔ ∀ pair ∈ pairs, Admitted pair := by
  induction pairs generalizing options with
  | nil => simp [pure, Except.pure]
  | cons pair pairs ih =>
      rw [List.forall_mem_cons, List.foldlM_cons]
      constructor
      · rintro ⟨final, read⟩
        cases applied : apply options pair with
        | error cause =>
            rw [applied] at read
            cases read
        | ok between =>
            rw [applied] at read
            exact ⟨(apply_eq_ok_iff.mp applied).admitted, (ih between).mp ⟨final, read⟩⟩
      · rintro ⟨first, others⟩
        obtain ⟨between, applied⟩ := first.exists_applied options
        rw [applied.apply_eq]
        exact (ih between).mpr others

/-- Reading stops at the first parameter that is refused. -/
theorem foldlM_eq_error_iff (options : CursorOptions) :
    pairs.foldlM apply options = .error cause ↔ ∃ front pair back,
      pairs = front ++ pair :: back ∧ (∀ earlier ∈ front, Admitted earlier) ∧
        Refused pair cause := by
  induction pairs generalizing options with
  | nil => simp [pure, Except.pure]
  | cons pair pairs ih =>
      rw [List.foldlM_cons]
      constructor
      · intro read
        cases applied : apply options pair with
        | error other =>
            rw [applied] at read
            cases read
            exact ⟨[], pair, pairs, rfl, by simp, apply_eq_error_iff.mp applied⟩
        | ok between =>
            rw [applied] at read
            obtain ⟨front, bad, back, rfl, earlier, refused⟩ := (ih between).mp read
            refine ⟨pair :: front, bad, back, rfl, ?_, refused⟩
            rw [List.forall_mem_cons]
            exact ⟨(apply_eq_ok_iff.mp applied).admitted, earlier⟩
      · rintro ⟨front, bad, back, same, earlier, refused⟩
        cases front with
        | nil =>
            cases same
            rw [refused.apply_eq]
            rfl
        | cons first front =>
            cases same
            rw [List.forall_mem_cons] at earlier
            obtain ⟨between, applied⟩ := earlier.1.exists_applied options
            rw [applied.apply_eq]
            exact (ih between).mpr ⟨front, bad, back, rfl, earlier.2, refused⟩

/-- The text of the last parameter with a name. -/
def lastText? (name : String) (pairs : List (String × String)) : Option String :=
  ((pairs.filter fun pair => pair.1 = name).getLast?).map Prod.snd

theorem lastText?_cons (name : String) (pair : String × String) (pairs : List (String × String)) :
    lastText? name (pair :: pairs) =
      (lastText? name pairs).or (if pair.1 = name then some pair.2 else none) := by
  unfold lastText?
  by_cases named : pair.1 = name
  · rw [List.filter_cons_of_pos (by simpa using named), List.getLast?_cons, if_pos named]
    cases (pairs.filter fun pair => pair.1 = name).getLast? <;> rfl
  · rw [List.filter_cons_of_neg (by simpa using named), if_neg named, Option.or_none]

/-- The value is what the text means; without a text it is the initial one. -/
def Settles {β : Type} (Means : String → β → Prop) (initial : β) : Option String → β → Prop
  | some text, value => Means text value
  | none, value => value = initial

/-- A field that only parameters of one name set ends as the last of them says. -/
theorem settles_of_foldlM {β : Type} {Means : String → β → Prop} {field : CursorOptions → β}
    (step : ∀ {options pair later}, Applied options pair later →
      Settles Means (field options) (if pair.1 = name then some pair.2 else none) (field later))
    (read : pairs.foldlM apply options = .ok final) :
    Settles Means (field options) (lastText? name pairs) (field final) := by
  induction pairs generalizing options with
  | nil =>
      cases read
      rfl
  | cons pair pairs ih =>
      rw [List.foldlM_cons] at read
      cases applied : apply options pair with
      | error cause =>
          rw [applied] at read
          cases read
      | ok between =>
          rw [applied] at read
          have rest := ih read
          have first := step (apply_eq_ok_iff.mp applied)
          rw [lastText?_cons]
          cases last : lastText? name pairs with
          | some text =>
              rw [last] at rest
              exact rest
          | none =>
              -- What the first parameter left is not changed by the others.
              rw [last] at rest
              have same : field final = field between := rest
              rw [Option.none_or, same]
              exact first

/-! ## The options read -/

theorem SizeText.unique {size other : FetchSize} (spelled : SizeText text size)
    (again : SizeText text other) : size = other := by
  obtain ⟨number, spelled, means⟩ := spelled
  obtain ⟨same, spelledAgain, meansAgain⟩ := again
  rw [spelledAgain.unique spelled] at meansAgain
  exact means.unique meansAgain

theorem LimitText.unique {limit other : Option Nat} (spelled : LimitText text limit)
    (again : LimitText text other) : limit = other := by
  obtain ⟨number, spelled, _, rfl⟩ := spelled
  obtain ⟨same, spelledAgain, _, rfl⟩ := again
  rw [spelled.unique spelledAgain]

theorem Settles.unique {β : Type} {Means : String → β → Prop} {initial value other : β}
    {last : Option String} (settles : Settles Means initial last value)
    (again : Settles Means initial last other)
    (unique : ∀ text value other, Means text value → Means text other → value = other) :
    value = other := by
  cases last with
  | some text => exact unique text value other settles again
  | none => exact settles.trans again.symm

/-- Every option is what the last parameter of its name says, and otherwise the default. -/
structure Reads (pairs : List (String × String)) (options : CursorOptions) : Prop where
  fetchSize : Settles SizeText .unset (lastText? "fetch_size" pairs) options.fetchSize
  statementFetchSize :
    Settles SizeText .unset (lastText? "statement_fetch_size" pairs) options.statementFetchSize
  maxRows : Settles LimitText none (lastText? "max_rows" pairs) options.maxRows

theorem reads_of_ofParameters (read : ofParameters pairs = .ok options) :
    Reads pairs options := by
  refine ⟨settles_of_foldlM ?_ read, settles_of_foldlM ?_ read, settles_of_foldlM ?_ read⟩
  · intro options pair later applied
    cases applied with
    | fetchSize spelled => exact spelled
    | statementFetchSize spelled => rfl
    | maxRows spelled => rfl
  · intro options pair later applied
    cases applied with
    | fetchSize spelled => rfl
    | statementFetchSize spelled => exact spelled
    | maxRows spelled => rfl
  · intro options pair later applied
    cases applied with
    | fetchSize spelled => rfl
    | statementFetchSize spelled => rfl
    | maxRows spelled => exact spelled

theorem Reads.unique {other : CursorOptions} (reads : Reads pairs options)
    (again : Reads pairs other) : options = other := by
  have fetchSize := reads.fetchSize.unique again.fetchSize fun _ _ _ => SizeText.unique
  have statementFetchSize :=
    reads.statementFetchSize.unique again.statementFetchSize fun _ _ _ => SizeText.unique
  have maxRows := reads.maxRows.unique again.maxRows fun _ _ _ => LimitText.unique
  cases options
  cases other
  simp only at fetchSize statementFetchSize maxRows
  rw [fetchSize, statementFetchSize, maxRows]

/-- No fetch size that is read asks for no row. -/
theorem Settles.count?_ne_zero {last : Option String} {size : FetchSize}
    (settles : Settles SizeText .unset last size) : size.count? ≠ some 0 := by
  cases last with
  | none =>
      have unset : size = .unset := settles
      rw [unset]
      decide
  | some text =>
      obtain ⟨number, _, means⟩ := settles
      cases means with
      | unset => decide
      | rowByRow => decide
      | rows count positive =>
          intro zero
          exact positive (Option.some.inj zero)

theorem Settles.limit_ne_zero {last : Option String} {limit : Option Nat}
    (settles : Settles LimitText none last limit) : limit ≠ some 0 := by
  cases last with
  | none =>
      have unlimited : limit = none := settles
      rw [unlimited]
      decide
  | some text =>
      obtain ⟨number, _, _, rfl⟩ := settles
      split
      · decide
      · rename_i positive
        intro zero
        exact positive (Option.some.inj zero)

theorem one_le_of_ne_zero {count : UInt32} (positive : count ≠ 0) : 1 ≤ count := by
  have some := FetchSize.toNat_ne_zero positive
  rw [UInt32.le_iff_toNat_le]
  exact Nat.one_le_iff_ne_zero.mpr some

theorem Reads.one_le_rowsPerFetch (reads : Reads pairs options) : 1 ≤ options.rowsPerFetch := by
  have result := reads.fetchSize.count?_ne_zero
  have statement := reads.statementFetchSize.count?_ne_zero
  have usable : ∀ size : FetchSize, size.count? ≠ some 0 → 1 ≤ size.count?.getD 1 := by
    intro size nonzero
    cases counted : size.count? with
    | none => decide
    | some count =>
        rw [Option.getD_some]
        refine one_le_of_ne_zero fun zero => nonzero ?_
        rw [counted, zero]
  unfold rowsPerFetch
  cases set : options.fetchSize with
  | unset => exact usable _ statement
  | rows count =>
      rw [set] at result
      exact usable _ result
  | rowByRow => exact usable .rowByRow (by decide)

/-- The lists have the same parameters of each name, in the same order. -/
def SameOfEachName (pairs other : List (String × String)) : Prop :=
  ∀ name, pairs.filter (fun pair => pair.1 = name) = other.filter fun pair => pair.1 = name

theorem SameOfEachName.lastText?_eq {other : List (String × String)}
    (same : SameOfEachName pairs other) (name : String) :
    lastText? name pairs = lastText? name other := by
  rw [lastText?, same name]
  rfl

theorem SameOfEachName.mem {other : List (String × String)} (same : SameOfEachName pairs other)
    (member : pair ∈ other) : pair ∈ pairs := by
  have among : pair ∈ other.filter fun named => named.1 = pair.1 := by simpa using member
  rw [← same] at among
  exact (List.mem_filter.mp among).1

/-- Options that are read are read as well from the same parameters in another order, if those
of each name keep theirs. -/
theorem ofParameters_of_sameOfEachName {other : List (String × String)}
    (same : SameOfEachName pairs other) (read : ofParameters pairs = .ok options) :
    ofParameters other = .ok options := by
  have admitted := (exists_foldlM_iff _).mp ⟨options, read⟩
  obtain ⟨final, again⟩ := (exists_foldlM_iff {}).mpr fun pair member =>
    admitted pair (same.mem member)
  have reads := reads_of_ofParameters read
  have readsAgain : Reads pairs final := by
    obtain ⟨fetchSize, statementFetchSize, maxRows⟩ := reads_of_ofParameters again
    rw [← same.lastText?_eq] at fetchSize statementFetchSize maxRows
    exact ⟨fetchSize, statementFetchSize, maxRows⟩
  rw [reads.unique readsAgain]
  exact again

/-- Reading the options of a URL, and of a text in which any parser finds it.  They are read
exactly if every parameter is admitted, and refused for the first that is not, even if a later
one would replace it.  Options that are read
are what the last parameter of each name says, ask for at least one row and have no limit of
zero, and come out the same when parameters of different names change places. -/
theorem last_of_each_name_counts (url : Url) (mysql : url.scheme = "mysql") :
    let outcome := (ofUrl url).mapError Error.badConfig
    (∀ parse text, parse text = .ok url → ofText parse text = outcome) ∧
    ((∃ options, outcome = .ok options) ↔ ∀ pair ∈ url.query, Admitted pair) ∧
    (∀ error, outcome = .error error ↔ ∃ front pair back cause,
      url.query = front ++ pair :: back ∧ (∀ earlier ∈ front, Admitted earlier) ∧
        Refused pair cause ∧ error = .badConfig cause) ∧
    ∀ options, outcome = .ok options →
      Reads url.query options ∧ 1 ≤ options.rowsPerFetch ∧ options.maxRows ≠ some 0 ∧
      ∀ other : Url, other.scheme = "mysql" → SameOfEachName url.query other.query →
        ofUrl other = .ok options := by
  intro outcome
  have pairs : ofUrl url = ofParameters url.query := if_pos mysql
  have read : ∀ options, outcome = .ok options ↔ ofParameters url.query = .ok options := by
    intro options
    simp only [outcome, pairs]
    cases ofParameters url.query <;> simp [Except.mapError]
  have refused : ∀ error, outcome = .error error ↔
      ∃ cause, ofParameters url.query = .error cause ∧ error = .badConfig cause := by
    intro error
    simp only [outcome, pairs]
    cases ofParameters url.query <;> simp [Except.mapError, eq_comm]
  refine ⟨?_, ?_, ?_, ?_⟩
  · intro parse text parsed
    simp only [ofText, parsed, outcome]
  · simp only [read]
    exact exists_foldlM_iff {}
  · intro error
    rw [refused]
    constructor
    · rintro ⟨cause, failed, rfl⟩
      obtain ⟨front, pair, back, same, earlier, why⟩ := (foldlM_eq_error_iff {}).mp failed
      exact ⟨front, pair, back, cause, same, earlier, why, rfl⟩
    · rintro ⟨front, pair, back, cause, same, earlier, why, rfl⟩
      exact ⟨cause, (foldlM_eq_error_iff {}).mpr ⟨front, pair, back, same, earlier, why⟩, rfl⟩
  · intro options succeeded
    have given := (read options).mp succeeded
    have reads := reads_of_ofParameters given
    refine ⟨reads, reads.one_le_rowsPerFetch, reads.maxRows.limit_ne_zero, ?_⟩
    intro other otherMysql same
    have otherPairs : ofUrl other = ofParameters other.query := if_pos otherMysql
    rw [otherPairs]
    exact ofParameters_of_sameOfEachName same given

/-- A parser that knows one URL. -/
def knowing (text : String) (url : Url) (other : String) : Except UrlError Url :=
  if other = text then .ok url else .error ⟨"relative URL without a base"⟩

/-- A fetch size that a later one replaces, and a limit that is no number although a good one
follows. -/
theorem replaced_size_and_unreadable_limit :
    let text := "mysql://db/?fetch_size=100&max_rows=%2B5&fetch_size=-2147483648"
    let url : Url := ⟨"mysql",
      [("fetch_size", "100"), ("max_rows", "+5"), ("fetch_size", "-2147483648")]⟩
    let unreadable : Url := ⟨"mysql", [("max_rows", "x"), ("max_rows", "1")]⟩
    url.scheme = "mysql" ∧ knowing text url text = .ok url ∧
      ofText (knowing text url) text = .ok { fetchSize := .rowByRow, maxRows := some 5 } ∧
      (∀ pair ∈ url.query, Admitted pair) ∧ unreadable.scheme = "mysql" ∧
      (ofUrl unreadable).mapError Error.badConfig =
        .error (.badConfig (.badUnsigned "x" "max_rows")) := by
  intro text url unreadable
  have parsed : knowing text url text = .ok url := if_pos rfl
  have outcome : (ofUrl url).mapError Error.badConfig =
      .ok { fetchSize := .rowByRow, maxRows := some 5 } := by decide +kernel
  obtain ⟨ofTexts, admitted, _, _⟩ := last_of_each_name_counts url rfl
  obtain ⟨_, _, refused, _⟩ := last_of_each_name_counts unreadable rfl
  have noNumeral : ∀ number, Number.Unsigned "x".toList number → UInt64.size ≤ number := by
    intro number spelled
    cases spelled with
    | plain numeral => exact absurd numeral.head_isDigit (by decide)
  refine ⟨rfl, parsed, (ofTexts _ text parsed).trans outcome, admitted.mp ⟨_, outcome⟩, rfl, ?_⟩
  exact (refused _).mpr ⟨[], _, _, _, rfl, by simp, .noUnsigned noNumeral, rfl⟩

end CursorOptions

end RowCursor
