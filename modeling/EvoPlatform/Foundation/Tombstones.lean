import EvoPlatform.Foundation.Transition

/-!
# Tombstones and their collection

A source keeps a deleted row as a tombstone, so that a reader who follows the
versions is told of the deletion.  Tombstones are purged up to a horizon, and a
reader whose cursor has not reached the horizon has to start over.  A deletion
is missed at a cursor when following the versions from there no longer tells
of it: the tombstone lies behind the cursor, or it has been purged and the
cursor is not behind the horizon.
-/

namespace EvoPlatform

variable {κ : Type}

/-- A source of versioned rows whose tombstones are purged. -/
structure PurgedSource (κ : Type) where
  /-- The version of a stored row, and whether it is a tombstone. -/
  stored : κ → Option (Nat × Bool)
  /-- The row was deleted for good. -/
  purged : κ → Prop
  horizon : Nat

namespace PurgedSource

/-- The row is stored as a tombstone whose version does not exceed `bound`. -/
def BuriedBy (source : PurgedSource κ) (bound : Nat) (key : κ) : Prop :=
  ∃ version, source.stored key = some (version, true) ∧ version ≤ bound

/-- A reader at the cursor is never told that the row is deleted. -/
def Missed (source : PurgedSource κ) (key : κ) (cursor : Nat) : Prop :=
  source.BuriedBy cursor key ∨ source.purged key ∧ source.horizon ≤ cursor

/-- The row is deleted, whether its tombstone is still there or not. -/
def Gone (source : PurgedSource κ) (key : κ) : Prop :=
  (∃ version, source.stored key = some (version, true)) ∨ source.purged key

/-- Rows have been written since: a row that is not newer than `bound` is as it
was, and nothing was purged. -/
structure Rewritten (bound : Nat) (before after : PurgedSource κ) : Prop where
  old : ∀ key row, after.stored key = some row → row.1 ≤ bound →
    before.stored key = some row
  purged : ∀ key, after.purged key → before.purged key
  horizon : after.horizon = before.horizon

/-- Tombstones up to `bound` have been purged, and the horizon was raised to
it. -/
structure Purges (bound : Nat) (before after : PurgedSource κ) : Prop where
  raised : before.horizon ≤ bound
  horizon : after.horizon = bound
  kept : ∀ key row, after.stored key = some row → before.stored key = some row
  purged : ∀ key, after.purged key →
    before.purged key ∨ before.BuriedBy bound key

variable {before after source : PurgedSource κ} {key : κ}
  {cursor later bound : Nat}

/-- A reader who has read on has missed no less. -/
theorem Missed.mono
    (missed : source.Missed key cursor)
    (le : cursor ≤ later) :
    source.Missed key later := by
  rcases missed with ⟨version, stored, behind⟩ | ⟨purged, reached⟩
  · exact Or.inl ⟨version, stored, behind.trans le⟩
  · exact Or.inr ⟨purged, reached.trans le⟩

theorem Missed.gone
    (missed : source.Missed key cursor) :
    source.Gone key := by
  rcases missed with ⟨version, stored, _⟩ | ⟨purged, _⟩
  · exact Or.inl ⟨version, stored⟩
  · exact Or.inr purged

/-- Writers draw versions beyond the cursor of every reader. -/
theorem Rewritten.missed
    (rewritten : Rewritten bound before after)
    (le : cursor ≤ bound)
    (missed : after.Missed key cursor) :
    before.Missed key cursor := by
  rcases missed with ⟨version, stored, behind⟩ | ⟨purged, reached⟩
  · exact Or.inl
      ⟨version, rewritten.old key _ stored (behind.trans le), behind⟩
  · exact Or.inr ⟨rewritten.purged key purged, rewritten.horizon ▸ reached⟩

/-- A collection makes no reader miss a deletion: a cursor that has reached the
new horizon is past all tombstones that went. -/
theorem Purges.missed
    (purges : Purges bound before after)
    (missed : after.Missed key cursor) :
    before.Missed key cursor := by
  rcases missed with ⟨version, stored, behind⟩ | ⟨purged, reached⟩
  · exact Or.inl ⟨version, purges.kept key _ stored, behind⟩
  · rw [purges.horizon] at reached
    rcases purges.purged key purged with already | ⟨version, stored, collected⟩
    · exact Or.inr ⟨already, purges.raised.trans reached⟩
    · exact Or.inl ⟨version, stored, collected.trans reached⟩

/-! ## What a reader is told -/

/-- A reader who tracks some rows is about to move to the cursor, and holds a
page that buries some of them: the other deletions are not missed. -/
def Informed (source : PurgedSource κ) (tracks buries : κ → Prop)
    (cursor : Nat) : Prop :=
  ∀ key, tracks key → source.Missed key cursor → buries key

namespace Informed

variable {tracks tracks' buries buries' : κ → Prop}

/-- The source is written to. -/
theorem rewritten
    (informed : Informed before tracks buries cursor)
    (rewritten : Rewritten bound before after)
    (le : cursor ≤ bound) :
    Informed after tracks buries cursor :=
  fun key tracked missed => informed key tracked (rewritten.missed le missed)

/-- Tombstones are collected. -/
theorem collected
    (informed : Informed before tracks buries cursor)
    (purges : Purges bound before after) :
    Informed after tracks buries cursor :=
  fun key tracked missed => informed key tracked (purges.missed missed)

/-- The reader tracks other rows, of which the new ones are not deleted. -/
theorem retrack
    (informed : Informed source tracks buries cursor)
    (retracked : ∀ key, tracks' key → tracks key ∨ ¬source.Gone key) :
    Informed source tracks' buries cursor := by
  intro key tracked missed
  rcases retracked key tracked with before | alive
  · exact informed key before missed
  · exact absurd missed.gone alive

/-- The reader works in its page: it no longer tracks what the page buries. -/
theorem worksIn
    (informed : Informed source tracks buries cursor)
    (worked : ∀ key, tracks' key → tracks key ∧ ¬buries key) :
    Informed source tracks' buries' cursor := by
  intro key tracked missed
  obtain ⟨before, unburied⟩ := worked key tracked
  exact absurd (informed key before missed) unburied

/-- A reader that could move on can stay. -/
theorem stay
    (informed : Informed source tracks buries cursor)
    {lower : Nat}
    (le : lower ≤ cursor) :
    Informed source tracks buries lower :=
  fun key tracked missed => informed key tracked (missed.mono le)

/-- A reader that tracks nothing. -/
theorem of_nothing
    (nothing : ∀ key, ¬tracks key) :
    Informed source tracks buries cursor :=
  fun key tracked => absurd tracked (nothing key)

end Informed

end PurgedSource
end EvoPlatform
