import RowCursor.Step

/-!
# What a step answers and what it leaves behind

A step is taken apart into its answer and the state after it, whether it succeeds or
fails.  The laws give both for the ways in which steps are put together.
-/

set_option autoImplicit false

namespace RowCursor.Step

variable {σ α β : Type}

/-- What a step answers. -/
def answer (step : Step σ α) (state : σ) : Except Error α :=
  match step state with
  | .ok value _ => .ok value
  | .error error _ => .error error

/-- The state that a step leaves behind. -/
def after (step : Step σ α) (state : σ) : σ :=
  match step state with
  | .ok _ state => state
  | .error _ state => state

/-- The result of a step with the state seen through `view`. -/
def mapState {τ : Type} (view : σ → τ) : EStateM.Result Error σ α → EStateM.Result Error τ α
  | .ok value state => .ok value (view state)
  | .error error state => .error error (view state)

theorem after_of_mapState {τ : Type} {view : σ → τ} {step : Step σ α} {other : Step τ α}
    {before : σ} {start : τ} (same : mapState view (step before) = other start) :
    view (step.after before) = other.after start := by
  unfold after
  rw [← same]
  cases step before <;> rfl

theorem eq_ok_of_answer {step : Step σ α} {before : σ} {value : α}
    (answered : step.answer before = .ok value) : step before = .ok value (step.after before) := by
  unfold answer at answered
  unfold after
  cases ran : step before with
  | ok other after =>
      rw [ran] at answered
      cases answered
      rfl
  | error error after =>
      rw [ran] at answered
      cases answered

theorem eq_error_of_answer {step : Step σ α} {before : σ} {error : Error}
    (answered : step.answer before = .error error) :
    step before = .error error (step.after before) := by
  unfold answer at answered
  unfold after
  cases ran : step before with
  | ok value after =>
      rw [ran] at answered
      cases answered
  | error other after =>
      rw [ran] at answered
      cases answered
      rfl

/-! ## Steps without effect -/

@[simp]
theorem answer_pure (value : α) (state : σ) :
    answer (pure value : Step σ α) state = .ok value := rfl

@[simp]
theorem after_pure (value : α) (state : σ) :
    after (pure value : Step σ α) state = state := rfl

@[simp]
theorem answer_throw (error : Error) (state : σ) :
    answer (throw error : Step σ α) state = .error error := rfl

@[simp]
theorem after_throw (error : Error) (state : σ) :
    after (throw error : Step σ α) state = state := rfl

@[simp]
theorem answer_lift (result : Except Error α) (state : σ) :
    (lift result).answer state = result := by
  cases result <;> rfl

@[simp]
theorem after_lift (result : Except Error α) (state : σ) :
    (lift result).after state = state := by
  cases result <;> rfl

theorem get_apply (state : σ) : (get : Step σ σ) state = .ok state state := rfl

/-! ## Steps in sequence -/

theorem answer_bind (step : Step σ α) (next : α → Step σ β) (state : σ) :
    answer (step >>= next) state =
      step.answer state >>= fun value => (next value).answer (step.after state) := by
  simp only [answer, after, bind, EStateM.bind]
  cases step state <;> rfl

theorem after_bind (step : Step σ α) (next : α → Step σ β) (state : σ) :
    after (step >>= next) state =
      match step.answer state with
      | .ok value => (next value).after (step.after state)
      | .error _ => step.after state := by
  simp only [answer, after, bind, EStateM.bind]
  cases step state <;> rfl

@[simp]
theorem answer_get_bind (next : σ → Step σ β) (state : σ) :
    answer (get >>= next) state = (next state).answer state := rfl

@[simp]
theorem after_get_bind (next : σ → Step σ β) (state : σ) :
    after (get >>= next) state = (next state).after state := rfl

@[simp]
theorem answer_set_bind (fresh : σ) (next : PUnit → Step σ β) (state : σ) :
    answer (set fresh >>= next) state = (next ⟨⟩).answer fresh := rfl

@[simp]
theorem after_set_bind (fresh : σ) (next : PUnit → Step σ β) (state : σ) :
    after (set fresh >>= next) state = (next ⟨⟩).after fresh := rfl

/-! ## What a step ends in -/

/-- The step answers `outcome`, and what it leaves behind has the property `post`. -/
structure Ends (step : Step σ α) (before : σ) (outcome : Except Error α) (post : σ → Prop) :
    Prop where
  answer_eq : step.answer before = outcome
  holds : post (step.after before)

namespace Ends

variable {before : σ} {post middle : σ → Prop}

theorem pure (value : α) (holds : post before) : Ends (Pure.pure value) before (.ok value) post :=
  ⟨rfl, holds⟩

theorem throw (error : Error) (holds : post before) :
    Ends (MonadExcept.throw error : Step σ α) before (.error error) post :=
  ⟨rfl, holds⟩

theorem lift (result : Except Error α) (holds : post before) :
    Ends (Step.lift result) before result post := by
  refine ⟨answer_lift result before, ?_⟩
  rw [after_lift]
  exact holds

theorem bind {step : Step σ α} {next : α → Step σ β} {value : α} {outcome : Except Error β}
    (first : Ends step before (.ok value) middle)
    (later : ∀ between, middle between → Ends (next value) between outcome post) :
    Ends (step >>= next) before outcome post := by
  have second := later (step.after before) first.holds
  constructor
  · rw [answer_bind, first.answer_eq]
    exact second.answer_eq
  · rw [after_bind, first.answer_eq]
    exact second.holds

theorem get_bind {next : σ → Step σ α} {outcome : Except Error α}
    (later : Ends (next before) before outcome post) : Ends (get >>= next) before outcome post :=
  ⟨later.answer_eq, later.holds⟩

theorem bind_error {step : Step σ α} {next : α → Step σ β} {error : Error}
    (first : Ends step before (.error error) post) :
    Ends (step >>= next) before (.error error) post := by
  constructor
  · rw [answer_bind, first.answer_eq]
    rfl
  · rw [after_bind, first.answer_eq]
    exact first.holds

theorem of_ok {step : Step σ α} {value : α} {after : σ} (ran : step before = .ok value after)
    (holds : post after) : Ends step before (.ok value) post := by
  constructor
  · rw [Step.answer, ran]
  · rw [Step.after, ran]
    exact holds

theorem of_eq {step other : Step σ α} {between : σ} {outcome : Except Error α}
    (same : step before = other between) (ends : Ends other between outcome post) :
    Ends step before outcome post := by
  constructor
  · rw [Step.answer, same]
    exact ends.answer_eq
  · rw [Step.after, same]
    exact ends.holds

theorem exists_ok {step : Step σ α} {value : α} (ends : Ends step before (.ok value) post) :
    ∃ after, step before = .ok value after ∧ post after :=
  ⟨_, eq_ok_of_answer ends.answer_eq, ends.holds⟩

end Ends

/-! ## Two runs side by side -/

/-- The runs end alike and leave related states behind. -/
inductive Alike {τ : Type} (related : σ → τ → Prop) :
    EStateM.Result Error σ α → EStateM.Result Error τ α → Prop where
  | ok (value : α) {left : σ} {right : τ} (same : related left right) :
      Alike related (.ok value left) (.ok value right)
  | error (error : Error) {left : σ} {right : τ} (same : related left right) :
      Alike related (.error error left) (.error error right)

namespace Alike

variable {τ : Type} {related : σ → τ → Prop}

theorem answer_eq {step : Step σ α} {other : Step τ α} {left : σ} {right : τ}
    (alike : Alike related (step left) (other right)) :
    step.answer left = other.answer right := by
  unfold answer
  generalize step left = one at alike
  generalize other right = two at alike
  cases alike <;> rfl

theorem after {step : Step σ α} {other : Step τ α} {left : σ} {right : τ}
    (alike : Alike related (step left) (other right)) :
    related (step.after left) (other.after right) := by
  unfold Step.after
  generalize step left = one at alike
  generalize other right = two at alike
  cases alike with
  | ok value same => exact same
  | error error same => exact same

theorem imp {other : σ → τ → Prop} {left : EStateM.Result Error σ α}
    {right : EStateM.Result Error τ α} (alike : Alike related left right)
    (weaker : ∀ before after, related before after → other before after) :
    Alike other left right := by
  cases alike with
  | ok value same => exact .ok value (weaker _ _ same)
  | error error same => exact .error error (weaker _ _ same)

/-- A run ends like itself. -/
theorem refl {related : σ → σ → Prop} {step : Step σ α} {state : σ}
    (same : related (step.after state) (step.after state)) :
    Alike related (step state) (step state) := by
  unfold Step.after at same
  cases ran : step state with
  | ok value after =>
      rw [ran] at same
      exact .ok value same
  | error error after =>
      rw [ran] at same
      exact .error error same

theorem of_mapState {view : σ → τ} (left : EStateM.Result Error σ α) :
    Alike (fun before after => view before = after) left (mapState view left) := by
  cases left with
  | ok value state => exact .ok value rfl
  | error error state => exact .error error rfl

theorem mapState_eq {view : σ → τ} {left : EStateM.Result Error σ α}
    {right : EStateM.Result Error τ α}
    (alike : Alike (fun before after => view before = after) left right) :
    mapState view left = right := by
  cases alike with
  | ok value same => rw [mapState, same]
  | error error same => rw [mapState, same]

end Alike

/-! ## What a step leaves as it is -/

/-- Whether it succeeds or fails, the step leaves alone what `view` shows of the state. -/
def Keeps {τ : Type} (view : σ → τ) (step : Step σ α) : Prop :=
  ∀ state, view (step.after state) = view state

namespace Keeps

variable {τ : Type} {view : σ → τ}

theorem pure (value : α) : Keeps view (Pure.pure value : Step σ α) := fun _ => rfl

theorem throw (error : Error) : Keeps view (MonadExcept.throw error : Step σ α) := fun _ => rfl

theorem lift (result : Except Error α) : Keeps view (Step.lift result) := by
  intro state
  rw [after_lift]

theorem modify {change : σ → σ} (kept : ∀ state, view (change state) = view state) :
    Keeps view (modify change : Step σ PUnit) := kept

theorem after_bind {next : α → Step σ β} (later : ∀ value, Keeps view (next value))
    (step : Step σ α) (state : σ) : view ((step >>= next).after state) = view (step.after state) := by
  rw [Step.after_bind]
  cases step.answer state with
  | ok value => exact later value (step.after state)
  | error error => rfl

theorem bind {step : Step σ α} {next : α → Step σ β} (first : Keeps view step)
    (later : ∀ value, Keeps view (next value)) : Keeps view (step >>= next) := by
  intro state
  rw [after_bind later step state, first state]

theorem get_bind {next : σ → Step σ β} (later : ∀ state, Keeps view (next state)) :
    Keeps view (get >>= next) := fun state => later state state

theorem mapM {γ : Type} {step : γ → Step σ α} (each : ∀ item, Keeps view (step item))
    (items : List γ) : Keeps view (items.mapM step) := by
  induction items with
  | nil => exact Keeps.pure []
  | cons item items ih =>
      rw [List.mapM_cons]
      exact Keeps.bind (each item) fun value => Keeps.bind ih fun values => Keeps.pure _

theorem ite {condition : Prop} [Decidable condition] {yes no : Step σ α}
    (whenTrue : Keeps view yes) (whenFalse : Keeps view no) :
    Keeps view (if condition then yes else no) := by
  by_cases holds : condition
  · rw [if_pos holds]
    exact whenTrue
  · rw [if_neg holds]
    exact whenFalse

theorem of_ok {step : Step σ α} {before after : σ} {value : α} (keeps : Keeps view step)
    (ran : step before = .ok value after) : view after = view before := by
  have kept := keeps before
  rw [Step.after, ran] at kept
  exact kept

theorem of_error {step : Step σ α} {before after : σ} {error : Error} (keeps : Keeps view step)
    (failed : step before = .error error after) : view after = view before := by
  have kept := keeps before
  rw [Step.after, failed] at kept
  exact kept

end Keeps

/-! ## What a step does not see -/

/-- From two states the step answers alike and leaves related states behind. -/
def AgreesAt (related : σ → σ → Prop) (step : Step σ α) (left right : σ) : Prop :=
  step.answer left = step.answer right ∧ related (step.after left) (step.after right)

/-- From related states the step answers alike and leaves related states behind. -/
def Respects (related : σ → σ → Prop) (step : Step σ α) : Prop :=
  ∀ left right, related left right → AgreesAt related step left right

variable {related : σ → σ → Prop}

theorem agreesAt_iff_alike {step : Step σ α} {left right : σ} :
    AgreesAt related step left right ↔ Alike related (step left) (step right) := by
  constructor
  · rintro ⟨answers, same⟩
    unfold answer at answers
    unfold Step.after at same
    generalize step left = one at answers same ⊢
    generalize step right = two at answers same ⊢
    cases one <;> cases two <;> cases answers
    · exact .ok _ same
    · exact .error _ same
  · intro alike
    exact ⟨alike.answer_eq, alike.after⟩

theorem AgreesAt.of_ok {step : Step σ α} {left right after other : σ} (value : α)
    (ran : step left = .ok value after) (otherRan : step right = .ok value other)
    (same : related after other) : AgreesAt related step left right := by
  rw [agreesAt_iff_alike, ran, otherRan]
  exact .ok value same

theorem AgreesAt.of_error {step : Step σ α} {left right after other : σ} (error : Error)
    (failed : step left = .error error after) (otherFailed : step right = .error error other)
    (same : related after other) : AgreesAt related step left right := by
  rw [agreesAt_iff_alike, failed, otherFailed]
  exact .error error same

theorem AgreesAt.cases {step : Step σ α} {left right : σ} (agrees : AgreesAt related step left right) :
    (∃ value after other, step left = .ok value after ∧ step right = .ok value other ∧
      related after other) ∨
    (∃ error after other, step left = .error error after ∧ step right = .error error other ∧
      related after other) := by
  have alike := agreesAt_iff_alike.mp agrees
  generalize step left = one at alike ⊢
  generalize step right = two at alike ⊢
  cases alike with
  | ok value same => exact Or.inl ⟨value, _, _, rfl, rfl, same⟩
  | error error same => exact Or.inr ⟨error, _, _, rfl, rfl, same⟩

theorem AgreesAt.exists_ok {step : Step σ α} {left right after : σ} {value : α}
    (agrees : AgreesAt related step left right) (ran : step left = .ok value after) :
    ∃ other, step right = .ok value other ∧ related after other := by
  have alike := agreesAt_iff_alike.mp agrees
  rw [ran] at alike
  generalize step right = result at alike ⊢
  cases alike with
  | ok _ same => exact ⟨_, rfl, same⟩

theorem AgreesAt.exists_error {step : Step σ α} {left right after : σ} {error : Error}
    (agrees : AgreesAt related step left right) (failed : step left = .error error after) :
    ∃ other, step right = .error error other ∧ related after other := by
  have alike := agreesAt_iff_alike.mp agrees
  rw [failed] at alike
  generalize step right = result at alike ⊢
  cases alike with
  | error _ same => exact ⟨_, rfl, same⟩

/-- The second step need only be looked at where the first one leads. -/
theorem AgreesAt.bind {step : Step σ α} {next : α → Step σ β} {left right : σ}
    (first : AgreesAt related step left right)
    (later : ∀ value after other, step left = .ok value after → related after other →
      AgreesAt related (next value) after other) :
    AgreesAt related (step >>= next) left right := by
  rcases first.cases with ⟨value, after, other, ran, otherRan, same⟩ |
    ⟨error, after, other, failed, otherFailed, same⟩
  · have agrees := later value after other ran same
    simp only [AgreesAt, answer, Step.after, Bind.bind, EStateM.bind, ran, otherRan] at agrees ⊢
    exact agrees
  · refine of_error error ?_ ?_ same
    · simp only [Bind.bind, EStateM.bind, failed]
    · simp only [Bind.bind, EStateM.bind, otherFailed]

namespace Respects

theorem pure (value : α) : Respects related (Pure.pure value : Step σ α) :=
  fun _ _ same => ⟨rfl, same⟩

theorem throw (error : Error) : Respects related (MonadExcept.throw error : Step σ α) :=
  fun _ _ same => ⟨rfl, same⟩

theorem lift (result : Except Error α) : Respects related (Step.lift result) := by
  intro left right same
  simp only [AgreesAt, answer_lift, after_lift]
  exact ⟨trivial, same⟩

theorem bind {step : Step σ α} {next : α → Step σ β} (first : Respects related step)
    (later : ∀ value, Respects related (next value)) : Respects related (step >>= next) := by
  intro left right same
  exact (first left right same).bind fun value after other _ related =>
    later value after other related

theorem get_bind {next : σ → Step σ β}
    (seen : ∀ left right, related left right → next left = next right)
    (later : ∀ state, Respects related (next state)) : Respects related (get >>= next) := by
  intro left right same
  simp only [AgreesAt, answer_get_bind, after_get_bind, seen left right same]
  exact later right left right same

theorem modify {change : σ → σ}
    (kept : ∀ left right, related left right → related (change left) (change right)) :
    Respects related (modify change : Step σ PUnit) :=
  fun left right same => ⟨rfl, kept left right same⟩

/-- What a step leaves as it is stays the same on both sides. -/
theorem with_kept {τ : Type} {view : σ → τ} {step : Step σ α} (respects : Respects related step)
    (kept : Keeps view step) :
    Respects (fun left right => related left right ∧ view left = view right) step := by
  rintro left right ⟨same, views⟩
  obtain ⟨answers, behind⟩ := respects left right same
  refine ⟨answers, behind, ?_⟩
  rw [kept, kept, views]

theorem ite {condition : Prop} [Decidable condition] {yes no : Step σ α}
    (whenTrue : Respects related yes) (whenFalse : Respects related no) :
    Respects related (if condition then yes else no) := by
  by_cases holds : condition
  · rw [if_pos holds]
    exact whenTrue
  · rw [if_neg holds]
    exact whenFalse

end Respects

end RowCursor.Step
