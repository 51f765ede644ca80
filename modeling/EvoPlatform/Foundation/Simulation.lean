import EvoPlatform.Foundation.Pool

/-!
# One system follows another

A relation between the states of two systems, such that whatever the one does in
a step the other does in some steps, carries every run of the one over to the
other.  Which steps answer which step is recorded, so that more than the last
state can be said of the run that was found.
-/

namespace EvoPlatform

variable {σ ε τ η : Type}

/-- Runs of the one system are followed by runs of the other. -/
theorem Run.followed
    {step : σ → ε → Option σ}
    {admissible : σ → ε → Prop}
    {other : τ → η → Option τ}
    {allowed : τ → η → Prop}
    {related : σ → τ → Prop}
    {matched : ε → List η → Prop}
    (followed : ∀ state twin event next, related state twin →
      admissible state event → step state event = some next →
      ∃ events after, Run other allowed twin events after ∧
        matched event events ∧ related next after)
    {start final : σ}
    {events : List ε}
    (run : Run step admissible start events final)
    {twin : τ}
    (initially : related start twin) :
    ∃ parts after, Run other allowed twin parts.flatten after ∧
      List.Forall₂ matched events parts ∧ related final after := by
  induction run generalizing twin with
  | nil state => exact ⟨[], twin, .nil twin, .nil, initially⟩
  | @cons state next final event events isAdmissible stepped _
      inductionHypothesis =>
      obtain ⟨first, middle, firstRun, firstMatched, stillRelated⟩ :=
        followed state twin event next initially isAdmissible stepped
      obtain ⟨parts, after, rest, restMatched, relatedAfter⟩ :=
        inductionHypothesis stillRelated
      exact ⟨first :: parts, after, firstRun.append rest,
        .cons firstMatched restMatched, relatedAfter⟩

/-- A single step is a run. -/
theorem Run.single
    {step : σ → ε → Option σ}
    {admissible : σ → ε → Prop}
    {state next : σ}
    {event : ε}
    (allowed : admissible state event)
    (stepped : step state event = some next) :
    Run step admissible state [event] next :=
  .cons allowed stepped (.nil next)

/-! ## Lists that correspond -/

section Lists

variable {α β : Type} {corresponds : α → β → Prop}

/-- What stands in one list has a counterpart at the same place. -/
theorem exists_of_forall₂
    {left : List α}
    {right : List β}
    (all : List.Forall₂ corresponds left right)
    {index : Nat}
    {item : α}
    (present : left[index]? = some item) :
    ∃ twin, right[index]? = some twin ∧ corresponds item twin := by
  induction all generalizing index with
  | nil => simp at present
  | @cons first second left right here _ inductionHypothesis =>
      cases index with
      | zero =>
          simp only [List.getElem?_cons_zero, Option.some.injEq] at present
          exact ⟨second, by simp, present ▸ here⟩
      | succ index =>
          rw [List.getElem?_cons_succ] at present ⊢
          exact inductionHypothesis present

/-- Two items that correspond replace two others. -/
theorem forall₂_set
    {left : List α}
    {right : List β}
    (all : List.Forall₂ corresponds left right)
    (index : Nat)
    {item : α}
    {twin : β}
    (here : corresponds item twin) :
    List.Forall₂ corresponds (left.set index item) (right.set index twin) := by
  induction all generalizing index with
  | nil => exact .nil
  | cons first rest inductionHypothesis =>
      cases index with
      | zero => exact .cons here rest
      | succ index => exact .cons first (inductionHypothesis index)

/-- Two items that correspond are added. -/
theorem forall₂_append_singleton
    {left : List α}
    {right : List β}
    (all : List.Forall₂ corresponds left right)
    {item : α}
    {twin : β}
    (here : corresponds item twin) :
    List.Forall₂ corresponds (left ++ [item]) (right ++ [twin]) :=
  List.rel_append all (.cons here .nil)

/-- Searches by what corresponding items have in common find items that
correspond, or nothing. -/
theorem find?_of_forall₂
    {wanted : α → Bool}
    {alike : β → Bool}
    (same : ∀ item twin, corresponds item twin → wanted item = alike twin)
    {left : List α}
    {right : List β}
    (all : List.Forall₂ corresponds left right) :
    Option.Rel corresponds (left.find? wanted) (right.find? alike) := by
  induction all with
  | nil => exact .none
  | @cons item twin left right here _ inductionHypothesis =>
      cases isWanted : wanted item with
      | true =>
          rw [List.find?_cons_of_pos isWanted,
            List.find?_cons_of_pos (same item twin here ▸ isWanted)]
          exact .some here
      | false =>
          have others := same item twin here
          rw [isWanted] at others
          rw [List.find?_cons_of_neg (by simp [isWanted]),
            List.find?_cons_of_neg (by simp [← others])]
          exact inductionHypothesis

end Lists

end EvoPlatform
