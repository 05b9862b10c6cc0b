import Mathlib.Data.List.Induction
import Mathlib.Data.Nat.Digits.Defs
import RowCursor.Text.Number

/-!
# What a decimal number spells

A numeral is a run of ASCII digits, read in base ten.  The strict readers accept exactly the
numerals with the signs that they admit, and answer the value if it is within their bounds.
-/

set_option autoImplicit false

namespace RowCursor.Number

/-! ## Digits -/

def IsDigit (char : Char) : Prop := '0' ≤ char ∧ char ≤ '9'

instance (char : Char) : Decidable (IsDigit char) :=
  inferInstanceAs (Decidable ('0' ≤ char ∧ char ≤ '9'))

def digitValue (char : Char) : Nat := char.toNat - '0'.toNat

/-- The number that digits stand for in base ten; no digits stand for zero. -/
def valueOf (text : List Char) : Nat := Nat.ofDigits 10 (text.map digitValue).reverse

/-- The text is a run of digits that spells the value. -/
structure Numeral (text : List Char) (value : Nat) : Prop where
  nonempty : text ≠ []
  digits : ∀ char ∈ text, IsDigit char
  value_eq : value = valueOf text

theorem valueOf_append_digit (text : List Char) (char : Char) :
    valueOf (text ++ [char]) = 10 * valueOf text + digitValue char := by
  rw [valueOf, List.map_append, List.reverse_append, List.map_singleton, List.reverse_singleton,
    List.singleton_append, Nat.ofDigits_cons, Nat.add_comm]
  rfl

/-- Read on behind a run of digits. -/
def readDigit (read : Option Nat) (char : Char) : Option Nat :=
  read.bind fun value => if IsDigit char then some (10 * value + digitValue char) else none

theorem readDigit_eq_some_iff {read : Option Nat} {char : Char} {value : Nat} :
    readDigit read char = some value ↔
      ∃ front, read = some front ∧ IsDigit char ∧ value = 10 * front + digitValue char := by
  cases read with
  | none => simp [readDigit]
  | some front => simp [readDigit, eq_comm]

theorem foldl_readDigit_eq_some_iff {text : List Char} {value : Nat} :
    text.foldl readDigit (some 0) = some value ↔
      (∀ char ∈ text, IsDigit char) ∧ value = valueOf text := by
  induction text using List.reverseRecOn generalizing value with
  | nil => simp [valueOf, eq_comm]
  | append_singleton text char ih =>
      rw [List.foldl_append, List.foldl_cons, List.foldl_nil, readDigit_eq_some_iff,
        valueOf_append_digit, List.forall_mem_append, List.forall_mem_singleton]
      constructor
      · rintro ⟨front, read, last, rfl⟩
        obtain ⟨digits, rfl⟩ := ih.mp read
        exact ⟨⟨digits, last⟩, rfl⟩
      · rintro ⟨⟨digits, last⟩, rfl⟩
        exact ⟨_, ih.mpr ⟨digits, rfl⟩, last, rfl⟩

theorem digits?_eq (text : List Char) :
    digits? text = if text.isEmpty then none else text.foldl readDigit (some 0) := rfl

theorem digits?_eq_some_iff {text : List Char} {value : Nat} :
    digits? text = some value ↔ Numeral text value := by
  rw [digits?_eq]
  constructor
  · intro read
    split at read
    · cases read
    · rename_i nonempty
      obtain ⟨digits, value_eq⟩ := foldl_readDigit_eq_some_iff.mp read
      exact ⟨by simpa using nonempty, digits, value_eq⟩
  · rintro ⟨nonempty, digits, value_eq⟩
    rw [if_neg (by simpa using nonempty)]
    exact foldl_readDigit_eq_some_iff.mpr ⟨digits, value_eq⟩

/-! ## Signs -/

/-- A numeral, with a plus sign or without. -/
inductive Unsigned : List Char → Nat → Prop where
  | plain {text : List Char} {value : Nat} (numeral : Numeral text value) : Unsigned text value
  | plus {text : List Char} {value : Nat} (numeral : Numeral text value) :
      Unsigned ('+' :: text) value

/-- A numeral, with a sign or without. -/
inductive Signed : List Char → Int → Prop where
  | unsigned {text : List Char} {value : Nat} (spelled : Unsigned text value) :
      Signed text value
  | minus {text : List Char} {value : Nat} (numeral : Numeral text value) :
      Signed ('-' :: text) (-value)

theorem Numeral.head_isDigit {char : Char} {text : List Char} {value : Nat}
    (numeral : Numeral (char :: text) value) : IsDigit char :=
  numeral.digits char List.mem_cons_self

theorem Numeral.unique {text : List Char} {value other : Nat} (numeral : Numeral text value)
    (again : Numeral text other) : value = other :=
  numeral.value_eq.trans again.value_eq.symm

theorem not_numeral_plus {text : List Char} {value : Nat} : ¬Numeral ('+' :: text) value :=
  fun numeral => absurd numeral.head_isDigit (by decide)

theorem not_numeral_minus {text : List Char} {value : Nat} : ¬Numeral ('-' :: text) value :=
  fun numeral => absurd numeral.head_isDigit (by decide)

theorem Unsigned.unique {text : List Char} {value other : Nat} (spelled : Unsigned text value)
    (again : Unsigned text other) : value = other := by
  cases spelled with
  | plain numeral =>
      cases again with
      | plain other => exact numeral.unique other
      | plus other => exact absurd numeral not_numeral_plus
  | plus numeral =>
      cases again with
      | plain other => exact absurd other not_numeral_plus
      | plus other => exact numeral.unique other

theorem not_unsigned_minus {text : List Char} {value : Nat} : ¬Unsigned ('-' :: text) value := by
  intro spelled
  cases spelled with
  | plain numeral => exact not_numeral_minus numeral

theorem Signed.unique {text : List Char} {value other : Int} (spelled : Signed text value)
    (again : Signed text other) : value = other := by
  cases spelled with
  | unsigned spelled =>
      cases again with
      | unsigned other => rw [spelled.unique other]
      | minus other => exact absurd spelled not_unsigned_minus
  | minus numeral =>
      cases again with
      | unsigned other => exact absurd other not_unsigned_minus
      | minus other => rw [numeral.unique other]

theorem unsigned?_eq_some_iff {bound : Nat} {text : String} {value : Nat} :
    unsigned? bound text = some value ↔ Unsigned text.toList value ∧ value < bound := by
  simp only [unsigned?, Option.filter_eq_some_iff, decide_eq_true_eq]
  refine and_congr_left fun _ => ?_
  generalize text.toList = chars
  split
  · rename_i rest
    rw [digits?_eq_some_iff]
    constructor
    · exact .plus
    · intro spelled
      cases spelled with
      | plain numeral => exact absurd numeral not_numeral_plus
      | plus numeral => exact numeral
  · rename_i noPlus
    rw [digits?_eq_some_iff]
    constructor
    · exact .plain
    · intro spelled
      cases spelled with
      | plain numeral => exact numeral
      | plus numeral => exact absurd rfl (noPlus _)

theorem signed?_eq_some_iff {bound : Nat} {text : String} {value : Int} :
    signed? bound text = some value ↔
      Signed text.toList value ∧ -(bound : Int) ≤ value ∧ value < bound := by
  simp only [signed?, Option.filter_eq_some_iff, decide_eq_true_eq]
  refine and_congr_left fun _ => ?_
  generalize text.toList = chars
  split
  · rename_i rest
    rw [Option.map_eq_some_iff]
    constructor
    · rintro ⟨number, read, rfl⟩
      exact .unsigned (.plus (digits?_eq_some_iff.mp read))
    · intro spelled
      cases spelled with
      | unsigned spelled =>
          cases spelled with
          | plain numeral => exact absurd numeral not_numeral_plus
          | plus numeral => exact ⟨_, digits?_eq_some_iff.mpr numeral, rfl⟩
  · rename_i rest
    rw [Option.map_eq_some_iff]
    constructor
    · rintro ⟨number, read, rfl⟩
      exact .minus (digits?_eq_some_iff.mp read)
    · intro spelled
      cases spelled with
      | unsigned spelled => exact absurd spelled not_unsigned_minus
      | minus numeral => exact ⟨_, digits?_eq_some_iff.mpr numeral, rfl⟩
  · rename_i noPlus noMinus
    rw [Option.map_eq_some_iff]
    constructor
    · rintro ⟨number, read, rfl⟩
      exact .unsigned (.plain (digits?_eq_some_iff.mp read))
    · intro spelled
      cases spelled with
      | unsigned spelled =>
          cases spelled with
          | plain numeral => exact ⟨_, digits?_eq_some_iff.mpr numeral, rfl⟩
          | plus numeral => exact absurd rfl (noPlus _)
      | minus numeral => exact absurd rfl (noMinus _)

end RowCursor.Number
