import RowCursor.Proofs.Row.SeekCache

/-!
# Rows in pieces

The columns of a row lie one behind the other, each in a piece of its own that may be
empty.  If passing over a column takes its piece off the front, the search for a column
ends where its piece begins, and the search for the column behind the last one at whatever
is left.
-/

set_option autoImplicit false

namespace RowCursor.PacketRow

variable {row : PacketRow} {pieces : List Bytes} {packet rest : Bytes} {index : Nat}

theorem flatten_eq_take_drop (pieces : List Bytes) (index : Nat) :
    pieces.flatten = (pieces.take index).flatten ++ (pieces.drop index).flatten := by
  rw [← List.flatten_append, List.take_append_drop]

/-- Passing over the column takes this piece off the front, whatever stands behind it. -/
def Skips (row : PacketRow) (index : Nat) (piece : Bytes) : Prop :=
  ∀ packet rest, row.skipColumn index ⟨packet, piece ++ rest⟩ = .ok ⟨packet, rest⟩

theorem walk_of_skips (skips : ∀ offset (inside : offset < pieces.length),
      row.Skips (index + offset) pieces[offset]) :
    row.walk pieces.length index ⟨packet, pieces.flatten ++ rest⟩ = .ok ⟨packet, rest⟩ := by
  induction pieces generalizing index with
  | nil => rfl
  | cons piece others ih =>
      have first : row.Skips index piece := skips 0 (Nat.succ_pos _)
      rw [List.length_cons, walk, List.flatten_cons, List.append_assoc, first]
      apply ih
      intro offset inside
      have later : row.Skips (index + (offset + 1)) others[offset] :=
        skips (offset + 1) (Nat.succ_lt_succ inside)
      have same : index + (offset + 1) = index + 1 + offset := by omega
      rwa [same] at later

/-- The row begins with these pieces, one for every column from the first one on. -/
structure LaidOut (row : PacketRow) (pieces : List Bytes) (rest : Bytes) : Prop where
  home_le : row.home ≤ row.packet.length
  drop_home : row.packet.drop row.home = pieces.flatten ++ rest
  skips : ∀ index (inside : index < pieces.length), row.Skips index pieces[index]

theorem LaidOut.locate_eq (laidOut : row.LaidOut pieces rest) (within : index ≤ pieces.length) :
    row.locate index = .ok ⟨row.packet, (pieces.drop index).flatten ++ rest⟩ := by
  have bytes : pieces.flatten ++ rest =
      (pieces.take index).flatten ++ ((pieces.drop index).flatten ++ rest) := by
    rw [← List.append_assoc, ← flatten_eq_take_drop]
  have count : (pieces.take index).length = index := List.length_take_of_le within
  -- The search walks over exactly the pieces before this column.
  have walked : row.walk (pieces.take index).length 0 ⟨row.packet,
        (pieces.take index).flatten ++ ((pieces.drop index).flatten ++ rest)⟩ =
      .ok ⟨row.packet, (pieces.drop index).flatten ++ rest⟩ := by
    apply walk_of_skips
    intro offset before
    rw [Nat.zero_add, List.getElem_take]
    exact laidOut.skips offset (by omega)
  rw [locate_eq_walk laidOut.home_le, laidOut.drop_home, bytes]
  rwa [count] at walked

theorem LaidOut.locate_of_inside (laidOut : row.LaidOut pieces rest)
    (inside : index < pieces.length) :
    row.locate index =
      .ok ⟨row.packet, pieces[index] ++ ((pieces.drop (index + 1)).flatten ++ rest)⟩ := by
  rw [laidOut.locate_eq (Nat.le_of_lt inside), List.drop_eq_getElem_cons inside,
    List.flatten_cons, List.append_assoc]

end RowCursor.PacketRow
