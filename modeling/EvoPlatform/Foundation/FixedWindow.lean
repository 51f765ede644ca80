import Mathlib.Data.Nat.Basic
import Mathlib.Order.MinMax
import Mathlib.Order.Lattice

/-!
# Budgets by fixed windows

A window is opened by the first charge that finds none open, and stays open for
a fixed time.  A limiter that charges every attempt and one that charges only
what it grants have the same windows, and grant the same, as long as every
attempt that the first one has room for is granted.
-/

namespace EvoPlatform

/-- How often a window was charged, and until when it is open. -/
structure FixedWindow where
  count : Nat
  resetAt : Nat
  deriving DecidableEq

namespace FixedWindow

variable (width now : Nat)

/-- What was charged to the window that is open, if one is. -/
def spent : Option FixedWindow → Nat
  | none => 0
  | some window => if window.resetAt < now then 0 else window.count

/-- Charge the window that is open, or open one. -/
def charge : Option FixedWindow → FixedWindow
  | none => { count := 1, resetAt := now + width }
  | some window =>
      if window.resetAt < now then { count := 1, resetAt := now + width }
      else { window with count := window.count + 1 }

/-- The window after charges at these times. -/
def ofTimes (times : List Nat) : Option FixedWindow :=
  times.foldl (fun window now => some (charge width now window)) none

@[simp] theorem ofTimes_nil : ofTimes width [] = none := rfl

@[simp] theorem ofTimes_append_singleton (times : List Nat) :
    ofTimes width (times ++ [now]) =
      some (charge width now (ofTimes width times)) := by
  rw [ofTimes, List.foldl_append]
  rfl

/-- A charge adds one to what is spent. -/
theorem spent_charge (window : Option FixedWindow) :
    spent now (some (charge width now window)) = spent now window + 1 := by
  have stillOpen : ¬ now + width < now := by omega
  cases window with
  | none => simp [spent, charge, stillOpen]
  | some window =>
      by_cases closed : window.resetAt < now
      · simp [spent, charge, closed, stillOpen]
      · simp [spent, charge, closed]

/-- A window that has granted up to a limit what another was charged with. -/
inductive Tracks (limit : Nat) :
    Option FixedWindow → Option FixedWindow → Prop
  | unopened : Tracks limit none none
  | opened (granted charged resetAt : Nat)
      (upToLimit : granted = min charged limit) :
      Tracks limit (some ⟨granted, resetAt⟩) (some ⟨charged, resetAt⟩)

namespace Tracks

variable {limit : Nat} {granted charged : Option FixedWindow}

theorem spent_eq (tracks : Tracks limit granted charged) :
    spent now granted = min (spent now charged) limit := by
  cases tracks with
  | unopened => simp [spent]
  | opened granted charged resetAt upToLimit =>
      by_cases closed : resetAt < now
      · simp [spent, closed]
      · simp [spent, closed, upToLimit]

/-- Both have room, or neither. -/
theorem spent_lt_iff (tracks : Tracks limit granted charged) :
    spent now granted < limit ↔ spent now charged < limit := by
  rw [tracks.spent_eq]
  omega

/-- What there is room for is charged to both. -/
theorem charge_both (tracks : Tracks limit granted charged)
    (room : spent now charged < limit) :
    Tracks limit (some (charge width now granted))
      (some (charge width now charged)) := by
  cases tracks with
  | unopened =>
      simp only [spent] at room
      exact .opened 1 1 _ (by omega)
  | opened granted charged resetAt upToLimit =>
      by_cases closed : resetAt < now
      · simp only [spent, closed, if_true] at room
        simp only [charge, closed, if_true]
        exact .opened 1 1 _ (by omega)
      · simp only [spent, closed, if_false] at room
        simp only [charge, closed, if_false]
        exact .opened _ _ _ (by omega)

/-- What there is no room for leaves the windows alike. -/
theorem charge_refused (tracks : Tracks limit granted charged)
    (positive : 0 < limit)
    (full : limit ≤ spent now charged) :
    Tracks limit granted (some (charge width now charged)) := by
  cases tracks with
  | unopened =>
      simp only [spent] at full
      omega
  | opened granted charged resetAt upToLimit =>
      by_cases closed : resetAt < now
      · simp only [spent, closed, if_true] at full
        omega
      · simp only [spent, closed, if_false] at full
        simp only [charge, closed, if_false]
        exact .opened _ _ _ (by omega)

end Tracks

/-- Where there is no room, a charge takes none: not while the window is open,
and not afterwards. -/
theorem sub_spent_charge_of_full
    {limit : Nat}
    {window : Option FixedWindow}
    (positive : 0 < limit)
    (full : limit ≤ spent now window)
    (later : Nat) :
    limit - spent later (some (charge width now window)) =
      limit - spent later window := by
  cases window with
  | none =>
      simp only [spent] at full
      omega
  | some window =>
      by_cases closed : window.resetAt < now
      · simp only [spent, closed, if_true] at full
        omega
      · simp only [spent, closed, if_false] at full
        simp only [spent, charge, closed, if_false]
        split <;> omega

end FixedWindow

end EvoPlatform
