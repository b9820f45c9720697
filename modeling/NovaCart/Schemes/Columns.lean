import Mathlib

/-! The columns that an update writes.

    A row is loaded, edited and written back. The update names the columns whose value changed; the others keep
    what another transaction may have put there since. -/

namespace Schemes

variable {α : Type} [DecidableEq α]

/-- The column as it is written: the edited value, or whatever it is by now if that is the loaded one. -/
def column (loaded edited current : α) : α := if edited = loaded then current else edited

theorem column_self {loaded edited : α} (h : edited = loaded) (current : α) : column loaded edited current = current :=
  if_pos h

theorem column_of_ne {loaded edited : α} (h : edited ≠ loaded) (current : α) : column loaded edited current = edited :=
  if_neg h

/-- Nobody else wrote the column, so it is as edited. -/
theorem column_loaded (loaded edited : α) : column loaded edited loaded = edited := by
  by_cases h : edited = loaded
  · rw [column_self h, h]
  · exact column_of_ne h loaded

theorem column_cases (loaded edited current : α) :
    column loaded edited current = current ∨ column loaded edited current = edited := by
  by_cases h : edited = loaded
  · exact .inl (column_self h current)
  · exact .inr (column_of_ne h current)

end Schemes
