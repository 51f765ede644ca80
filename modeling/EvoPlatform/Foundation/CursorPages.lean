import Mathlib.Data.List.Nodup
import Mathlib.Data.List.Basic

/-!
# Pages after a cursor

A listing is read page by page, each page from the row after the one that the
last page ended with.  When no two rows have one key, nothing is missed and
nothing is read twice.
-/

namespace EvoPlatform

variable {α κ : Type} [DecidableEq κ] (key : α → κ)

/-- Some rows, and whether there are more. -/
structure CursorPage (α : Type) where
  rows : List α
  hasMore : Bool

/-- The rows after the one with the key of the cursor, or all. -/
def rowsAfter (rows : List α) : Option κ → List α
  | none => rows
  | some cursor => (rows.dropWhile fun row => key row ≠ cursor).tail

/-- The page after a cursor. -/
def pageAfter (limit : Nat) (rows : List α) (cursor : Option κ) :
    CursorPage α where
  rows := (rowsAfter key rows cursor).take limit
  hasMore := limit < (rowsAfter key rows cursor).length

variable {key}

/-- After the last row that was read comes the rest. -/
theorem rowsAfter_getLast
    (read rest : List α)
    (nodup : ((read ++ rest).map key).Nodup) :
    rowsAfter key (read ++ rest) (read.getLast?.map key) = rest := by
  obtain rfl | ⟨earlier, last, rfl⟩ := read.eq_nil_or_concat'
  · rfl
  · have new : ∀ row ∈ earlier, (decide (key row ≠ key last)) = true := by
      intro row present
      rw [decide_eq_true_eq]
      rw [List.append_assoc, List.map_append, List.nodup_append] at nodup
      exact nodup.2.2 _ (List.mem_map_of_mem present) _ List.mem_cons_self
    rw [List.getLast?_concat, Option.map_some, rowsAfter, List.append_assoc,
      List.dropWhile_append_of_pos new]
    simp

end EvoPlatform
