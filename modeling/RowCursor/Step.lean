import RowCursor.Error

/-!
# Steps over a state

A step over a state may fail; the state that a failing step leaves behind is kept.
Reading a row fills its seek cache, a session sends and receives, a cursor moves:
each is a step over its own state.
-/

set_option autoImplicit false

namespace RowCursor

/-- A step over a state of type `σ` that answers an `α` or fails. -/
abbrev Step (σ α : Type) := EStateM Error σ α

namespace Step

variable {σ α : Type}

/-- A step that leaves the state alone. -/
def lift (result : Except Error α) : Step σ α := fun state =>
  match result with
  | .ok value => .ok value state
  | .error error => .error error state

/-- The result of a step as a value, whether it succeeds or fails. -/
def attempt (step : Step σ α) : Step σ (Except Error α) := fun state =>
  match step state with
  | .ok value state => .ok (.ok value) state
  | .error error state => .ok (.error error) state

end Step

end RowCursor
