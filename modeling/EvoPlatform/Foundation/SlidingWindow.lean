import EvoPlatform.Foundation.Responses
import Mathlib.Algebra.Order.Group.Int
import Mathlib.Algebra.Order.Group.Unbundled.Basic

/-!
# Sliding windows

A log of instants, in order, and how many of them lie in the window of a given
width that ends at an instant.  If every instant found less than a limit of the
earlier ones in its own window, no window ever holds more than the limit.  The
log may be cut at any instant whose window is over.  For windows that are closed
at both ends, what a new instant may find is exactly what the limit asks for.
-/

namespace EvoPlatform

/-- How many of the instants lie in the window that ends at the given one. -/
def inWindow (width instant : Int) (log : List Int) : Nat :=
  log.countP fun time => instant - width < time ∧ time ≤ instant

/-- The log without what has left the window that ends at the given instant. -/
def stillIn (width instant : Int) (log : List Int) : List Int :=
  log.filter fun time => instant - width < time

variable {width : Int} {limit : Nat} {log : List Int}

@[simp] theorem inWindow_nil (width instant : Int) :
    inWindow width instant [] = 0 := rfl

theorem inWindow_append_singleton (width instant : Int) (log : List Int)
    (time : Int) :
    inWindow width instant (log ++ [time]) =
      inWindow width instant log +
        if instant - width < time ∧ time ≤ instant then 1 else 0 := by
  simp [inWindow, List.countP_append, List.countP_singleton]

/-- When nothing lies ahead, what has not left the window is in it. -/
theorem length_stillIn
    {instant : Int}
    (past : ∀ time ∈ log, time ≤ instant) :
    (stillIn width instant log).length = inWindow width instant log := by
  rw [stillIn, inWindow, ← List.countP_eq_length_filter]
  refine List.countP_congr fun time present => ?_
  simp [past time present]

theorem stillIn_append (width instant : Int) (first second : List Int) :
    stillIn width instant (first ++ second) =
      stillIn width instant first ++ stillIn width instant second :=
  List.filter_append first second

/-- Nothing is in the window if and only if all is over. -/
theorem stillIn_eq_nil_iff {instant : Int} :
    stillIn width instant log = [] ↔ ∀ time ∈ log, time ≤ instant - width := by
  simp [stillIn, List.filter_eq_nil_iff]

/-- What has left a wider window, or left the window earlier, is not missed. -/
theorem stillIn_stillIn
    {narrower : Int}
    (narrow : narrower ≤ width)
    {instant later : Int}
    (notEarlier : instant ≤ later) :
    stillIn narrower later (stillIn width instant log) =
      stillIn narrower later log := by
  rw [stillIn, stillIn, List.filter_filter]
  refine List.filter_congr fun time _ => ?_
  simp only [Bool.and_eq_left_iff_imp, decide_eq_true_eq]
  omega

/-- A later window over a log in the past holds no more than the one that ends
at an instant which it covers. -/
theorem inWindow_le_of_covers
    {instant time : Int}
    (past : ∀ earlier ∈ log, earlier ≤ time)
    (covers : time ≤ instant) :
    inWindow width instant log ≤ inWindow width time log := by
  refine List.countP_mono_left fun earlier present => ?_
  have before := past earlier present
  simp only [decide_eq_true_eq]
  omega

/-- A log each instant of which found less than the limit in its window. -/
inductive Admitted (width : Int) (limit : Nat) : List Int → Prop
  | nil : Admitted width limit []
  | snoc {log : List Int} {time : Int} :
      Admitted width limit log →
      (∀ earlier ∈ log, earlier ≤ time) →
      inWindow width time log < limit →
      Admitted width limit (log ++ [time])

/-- No window of such a log holds more than the limit. -/
theorem Admitted.inWindow_le
    (admitted : Admitted width limit log)
    (instant : Int) :
    inWindow width instant log ≤ limit := by
  induction admitted with
  | nil => exact Nat.zero_le limit
  | @snoc log time _ past room inductionHypothesis =>
      rw [inWindow_append_singleton]
      split
      · rename_i covered
        have before := @inWindow_le_of_covers width log _ _ past covered.2
        omega
      · exact inductionHypothesis

/-! ## A limiter -/

/-- Admit an instant that finds less than the limit in its window. -/
def grant (width : Int) (limit : Nat) (log : List Int) (instant : Int) :
    List Int × Bool :=
  if limit ≤ (stillIn width instant log).length then (log, false)
  else (log ++ [instant], true)

/-- An instant that is admitted keeps every window within the limit. -/
theorem Admitted.grant
    (admitted : Admitted width limit log)
    {instant : Int}
    (past : ∀ time ∈ log, time ≤ instant) :
    Admitted width limit (EvoPlatform.grant width limit log instant).1 := by
  unfold EvoPlatform.grant
  split
  · exact admitted
  · rename_i room
    rw [length_stillIn past, not_le] at room
    exact .snoc admitted past room

/-- Nothing that is admitted lies ahead. -/
theorem past_grant
    {instant : Int}
    (past : ∀ time ∈ log, time ≤ instant) :
    ∀ time ∈ (grant width limit log instant).1, time ≤ instant := by
  intro time present
  unfold grant at present
  split at present
  · exact past time present
  · rcases List.mem_append.mp present with earlier | new
    · exact past time earlier
    · exact (List.mem_singleton.mp new).le

/-- The instants that were answered with true. -/
def granted (times : List Int) (given : List Bool) : List Int :=
  ((times.zip given).filter Prod.snd).map Prod.fst

theorem granted_append
    {first second : List Int}
    {given others : List Bool}
    (length : first.length = given.length) :
    granted (first ++ second) (given ++ others) =
      granted first given ++ granted second others := by
  rw [granted, List.zip_append length, List.filter_append, List.map_append]
  rfl

theorem mem_of_mem_granted
    {times : List Int}
    {given : List Bool}
    {time : Int}
    (present : time ∈ granted times given) :
    time ∈ times := by
  obtain ⟨entry, listed, rfl⟩ := List.mem_map.mp present
  exact (List.of_mem_zip (List.mem_of_mem_filter listed)).1

/-- Instants that were all answered with true were all granted. -/
theorem granted_replicate_true (count : Nat) (instant : Int) :
    granted (List.replicate count instant) (List.replicate count true) =
      List.replicate count instant := by
  simp [granted]

/-- The log of the limiter is what it granted. -/
theorem after_grant (width : Int) (limit : Nat) (log times : List Int) :
    after (grant width limit) log times =
      log ++ granted times (answers (grant width limit) log times) := by
  induction times generalizing log with
  | nil => simp [granted, answers]
  | cons time times inductionHypothesis =>
      rw [after_cons, inductionHypothesis, answers]
      by_cases full : limit ≤ (stillIn width time log).length
      · simp [grant, full, granted]
      · simp [grant, full, granted]

/-- A limiter that is asked in order keeps every window within the limit. -/
theorem Admitted.after
    (admitted : Admitted width limit log)
    {times : List Int}
    (ordered : times.Pairwise (· ≤ ·))
    (past : ∀ time ∈ times, ∀ earlier ∈ log, earlier ≤ time) :
    Admitted width limit
      (EvoPlatform.after (EvoPlatform.grant width limit) log times) := by
  induction times generalizing log with
  | nil => exact admitted
  | cons time times inductionHypothesis =>
      obtain ⟨first, rest⟩ := List.pairwise_cons.mp ordered
      have before := past time List.mem_cons_self
      refine inductionHypothesis (admitted.grant before) rest ?_
      intro later present earlier stored
      exact (past_grant before earlier stored).trans (first later present)

/-- Asked again and again at one instant, a limiter grants up to the limit. -/
theorem answers_grant_replicate
    {instant : Int}
    (positive : 0 < width) :
    ∀ {count earlier : Nat}, earlier + count ≤ limit →
      answers (grant width limit) (List.replicate earlier instant)
        (List.replicate count instant) = List.replicate count true
  | 0, _, _ => rfl
  | count + 1, earlier, room => by
      have still : stillIn width instant (List.replicate earlier instant) =
          List.replicate earlier instant := by
        simp [stillIn, positive]
      have admitted : grant width limit (List.replicate earlier instant)
          instant = (List.replicate (earlier + 1) instant, true) := by
        rw [grant, still, List.length_replicate, if_neg (by omega),
          List.replicate_succ']
      rw [List.replicate_succ, answers, admitted]
      exact congrArg (true :: ·) (answers_grant_replicate positive (by omega))

/-- Instants further apart than a width do not share a window of it. -/
theorem countP_le_one_of_apart
    (apart : log.Pairwise fun earlier later => width < later - earlier)
    (instant : Int) :
    (log.countP fun time => instant - width ≤ time ∧ time ≤ instant) ≤ 1 := by
  induction log with
  | nil => exact Nat.zero_le 1
  | cons first log inductionHypothesis =>
      obtain ⟨gaps, rest⟩ := List.pairwise_cons.mp apart
      rw [List.countP_cons]
      split
      · rename_i here
        have none : log.countP (fun time =>
            instant - width ≤ time ∧ time ≤ instant) = 0 := by
          rw [List.countP_eq_zero]
          intro time present
          have gap := gaps time present
          simp only [decide_eq_true_eq] at here ⊢
          omega
        rw [none]
      · exact inductionHypothesis rest

/-! ## Windows closed at both ends -/

section Closed

variable {τ : Type} [AddCommGroup τ] [LinearOrder τ]

/-- How many of the instants lie in the closed window from the given one on. -/
def spanned (width start : τ) (log : List τ) : Nat :=
  log.countP fun time => start ≤ time ∧ time ≤ start + width

/-- How many of the instants are at most a width back. -/
def recent (width now : τ) (log : List τ) : Nat :=
  log.countP fun time => now - width ≤ time

variable [IsOrderedAddMonoid τ]

/-- A new instant keeps every closed window within one more than a limit if and
only if it finds no more than the limit at most a width back. -/
theorem spanned_snoc_iff
    {width time : τ}
    {log : List τ}
    {limit : Nat}
    (past : ∀ earlier ∈ log, earlier ≤ time)
    (within : ∀ start, spanned width start log ≤ limit + 1) :
    (∀ start, spanned width start (log ++ [time]) ≤ limit + 1) ↔
      recent width time log ≤ limit := by
  constructor
  · intro stillWithin
    rcases lt_or_ge width 0 with negative | nonneg
    · have empty : recent width time log = 0 := by
        refine List.countP_eq_zero.mpr fun earlier present => ?_
        have behind : earlier + width < time :=
          (add_le_add (past earlier present) le_rfl).trans_lt
            (add_lt_of_neg_right time negative)
        simpa using behind
      rw [empty]
      exact Nat.zero_le limit
    · have ending := stillWithin (time - width)
      have same : spanned width (time - width) log = recent width time log := by
        refine List.countP_congr fun earlier present => ?_
        simp [past earlier present]
      rw [spanned, List.countP_append, ← spanned, same] at ending
      simpa [nonneg] using ending
  · intro few start
    rw [spanned, List.countP_append, ← spanned]
    by_cases covered : start ≤ time ∧ time ≤ start + width
    · have fewer : spanned width start log ≤ recent width time log := by
        refine List.countP_mono_left fun earlier _ => ?_
        simp only [decide_eq_true_eq]
        exact fun inside =>
          (sub_le_iff_le_add.mpr covered.2).trans inside.1
      have one : [time].countP (fun time =>
          decide (start ≤ time ∧ time ≤ start + width)) = 1 := by
        simp [covered]
      rw [one]
      exact Nat.succ_le_succ (fewer.trans few)
    · have none : [time].countP (fun time =>
          decide (start ≤ time ∧ time ≤ start + width)) = 0 := by
        simpa using covered
      rw [none]
      exact within start

end Closed

end EvoPlatform
