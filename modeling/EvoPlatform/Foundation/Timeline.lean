import EvoPlatform.Foundation.Transition

/-!
# A value over time

A value that changes at instants, with the values it had before.  At the instant
of a change it has both values.
-/

namespace EvoPlatform

/-- A value, since when it has been there, and the earlier ones, latest first. -/
structure Timeline (α : Type) where
  current : α
  since : Nat
  past : List (Nat × α)

namespace Timeline

variable {α : Type} {property : α → Prop}

/-- A value that was always there. -/
def always (value : α) : Timeline α := ⟨value, 0, []⟩

/-- The value changes. -/
def change (line : Timeline α) (now : Nat) (value : α) : Timeline α where
  current := value
  since := now
  past := (line.since, line.current) :: line.past

/-- One of the values that follow each other, latest first, had a property at
an instant. -/
def heldIn (property : α → Prop) (instant : Nat) : List (Nat × α) → Prop
  | [] => False
  | (since, value) :: earlier =>
      (since ≤ instant ∧ property value) ∨
        (instant ≤ since ∧ heldIn property instant earlier)

/-- The value had a property at an instant. -/
def Held (line : Timeline α) (property : α → Prop) (instant : Nat) : Prop :=
  heldIn property instant ((line.since, line.current) :: line.past)

/-- The current value is there now. -/
theorem held_now
    {line : Timeline α}
    {now : Nat}
    (later : line.since ≤ now)
    (holds : property line.current) :
    line.Held property now :=
  Or.inl ⟨later, holds⟩

/-- A later change does not undo what was. -/
theorem Held.change
    {line : Timeline α}
    {instant now : Nat}
    (held : line.Held property instant)
    (before : instant ≤ now)
    (value : α) :
    (line.change now value).Held property instant :=
  Or.inr ⟨before, held⟩

end Timeline
end EvoPlatform
