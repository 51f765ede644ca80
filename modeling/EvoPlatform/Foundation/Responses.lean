import EvoPlatform.Foundation.Transition

/-!
# Machines that answer each input

A machine moves to a new state with each input and answers it.  Two machines
whose states stay related, and which answer related states alike, answer every
sequence of inputs alike that meets the condition under which they do.
-/

namespace EvoPlatform

variable {σ ρ ι ο : Type}

/-- The state after a sequence of inputs. -/
def after (step : σ → ι → σ × ο) (start : σ) (inputs : List ι) : σ :=
  inputs.foldl (fun state input => (step state input).1) start

/-- The answers to a sequence of inputs. -/
def answers (step : σ → ι → σ × ο) : σ → List ι → List ο
  | _, [] => []
  | state, input :: inputs =>
      (step state input).2 :: answers step (step state input).1 inputs

@[simp] theorem after_nil (step : σ → ι → σ × ο) (start : σ) :
    after step start [] = start := rfl

@[simp] theorem after_cons (step : σ → ι → σ × ο) (start : σ) (input : ι)
    (inputs : List ι) :
    after step start (input :: inputs) =
      after step (step start input).1 inputs := rfl

theorem after_append (step : σ → ι → σ × ο) (start : σ)
    (first second : List ι) :
    after step start (first ++ second) =
      after step (after step start first) second :=
  List.foldl_append

theorem answers_append (step : σ → ι → σ × ο) (start : σ)
    (first second : List ι) :
    answers step start (first ++ second) =
      answers step start first ++
        answers step (after step start first) second := by
  induction first generalizing start with
  | nil => rfl
  | cons input first inductionHypothesis =>
      rw [List.cons_append, answers, answers, inductionHypothesis]
      rfl

theorem length_answers (step : σ → ι → σ × ο) (start : σ)
    (inputs : List ι) :
    (answers step start inputs).length = inputs.length := by
  induction inputs generalizing start with
  | nil => rfl
  | cons input inputs inductionHypothesis =>
      rw [answers, List.length_cons, inductionHypothesis, List.length_cons]

/-- A condition holds of every input and the state that it comes to. -/
def MeetsThroughout (step : σ → ι → σ × ο) (condition : σ → ι → Prop) :
    σ → List ι → Prop
  | _, [] => True
  | state, input :: inputs =>
      condition state input ∧
        MeetsThroughout step condition (step state input).1 inputs

/-- What holds of every input, whatever the state, holds throughout. -/
theorem MeetsThroughout.of_forall
    {step : σ → ι → σ × ο}
    {condition : σ → ι → Prop}
    {inputs : List ι}
    (holds : ∀ input ∈ inputs, ∀ state, condition state input)
    (start : σ) :
    MeetsThroughout step condition start inputs := by
  induction inputs generalizing start with
  | nil => trivial
  | cons input inputs inductionHypothesis =>
      refine ⟨holds input (by simp) start, ?_⟩
      exact inductionHypothesis
        (fun later present => holds later (by simp [present])) _

/-- Related machines answer alike and stay related, as long as the condition is
met that they need for it. -/
theorem answers_eq_of_related
    {left : σ → ι → σ × ο}
    {right : ρ → ι → ρ × ο}
    (related : σ → ρ → Prop)
    (condition : σ → ι → Prop)
    (inputs : List ι)
    (kept : ∀ first second, ∀ input ∈ inputs, related first second →
      condition first input →
        (left first input).2 = (right second input).2 ∧
          related (left first input).1 (right second input).1)
    {first : σ}
    {second : ρ}
    (meets : MeetsThroughout left condition first inputs)
    (initially : related first second) :
    answers left first inputs = answers right second inputs ∧
      related (after left first inputs) (after right second inputs) := by
  induction inputs generalizing first second with
  | nil => exact ⟨rfl, initially⟩
  | cons input inputs inductionHypothesis =>
      obtain ⟨met, meets⟩ := meets
      obtain ⟨sameAnswer, stillRelated⟩ :=
        kept first second input (by simp) initially met
      obtain ⟨sameAnswers, relatedAfter⟩ := inductionHypothesis
        (fun first second later present =>
          kept first second later (by simp [present]))
        meets stillRelated
      exact ⟨congrArg₂ List.cons sameAnswer sameAnswers, relatedAfter⟩

/-- What holds at the start and is kept by every input that comes in order holds
in the end. -/
theorem after_invariant
    (step : σ → ι → σ × ο)
    (follows : ι → ι → Prop)
    (holds : σ → ι → Prop)
    (kept : ∀ state last input, holds state last → follows last input →
      holds (step state input).1 input)
    {start : σ}
    {first : ι}
    (initially : holds start first)
    {inputs : List ι}
    (inOrder : List.IsChain follows (first :: inputs)) :
    holds (after step start inputs) ((first :: inputs).getLast (by simp)) := by
  induction inputs generalizing start first with
  | nil => exact initially
  | cons input inputs inductionHypothesis =>
      obtain ⟨next, rest⟩ := List.isChain_cons_cons.mp inOrder
      rw [after_cons, List.getLast_cons (by simp)]
      exact inductionHypothesis (kept start first input initially next) rest

end EvoPlatform
