import EvoPlatform.Foundation.Table

/-!
# Runs of a partial step function

A system is given by a deterministic step function that may refuse an event.
Nondeterminism (which party acts, what the network does, what the clock reads)
is carried by the events.  A run records that every one of its steps was
admissible in the state it started from, so one notion covers both the runs of
the system and the runs that satisfy a side condition at each step.
-/

namespace EvoPlatform

variable {σ ε : Type}

/-- A run of `step` each of whose events is admissible where it happens. -/
inductive Run
    (step : σ → ε → Option σ)
    (admissible : σ → ε → Prop) : σ → List ε → σ → Prop
  | nil (state : σ) : Run step admissible state [] state
  | cons {state next final : σ} {event : ε} {events : List ε} :
      admissible state event →
      step state event = some next →
      Run step admissible next events final →
      Run step admissible state (event :: events) final

namespace Run

variable {step : σ → ε → Option σ} {admissible : σ → ε → Prop}

/-- What holds at the start and is kept by every admissible step holds at the
end of a run. -/
theorem invariant
    (holds : σ → Prop)
    (kept : ∀ state event next,
      holds state → admissible state event →
        step state event = some next → holds next)
    {start final : σ}
    {events : List ε}
    (run : Run step admissible start events final)
    (initially : holds start) :
    holds final := by
  induction run with
  | nil state => exact initially
  | cons allowed stepped _ inductionHypothesis =>
      exact inductionHypothesis (kept _ _ _ initially allowed stepped)

/-- A weaker side condition admits the same runs. -/
theorem mono
    {weaker : σ → ε → Prop}
    (implied : ∀ state event, admissible state event → weaker state event)
    {start final : σ}
    {events : List ε}
    (run : Run step admissible start events final) :
    Run step weaker start events final := by
  induction run with
  | nil state => exact .nil state
  | cons allowed stepped _ inductionHypothesis =>
      exact .cons (implied _ _ allowed) stepped inductionHypothesis

/-- Runs compose. -/
theorem append
    {start middle final : σ}
    {first second : List ε}
    (left : Run step admissible start first middle)
    (right : Run step admissible middle second final) :
    Run step admissible start (first ++ second) final := by
  induction left with
  | nil state => exact right
  | cons allowed stepped _ inductionHypothesis =>
      exact .cons allowed stepped (inductionHypothesis right)

/-- A condition on the steps is exactly what a property of the states asks for,
when it keeps an invariant with the property, and the property needs it where
the invariant holds: the steps of a run meet the condition if and only if every
state of the run has the property. -/
theorem meets_iff_throughout
    {condition : σ → ε → Prop}
    {invariant property : σ → Prop}
    (implies : ∀ state, invariant state → property state)
    (kept : ∀ state event next, invariant state → admissible state event →
      condition state event → step state event = some next → invariant next)
    (needed : ∀ state event next, invariant state → admissible state event →
      step state event = some next → property next → condition state event)
    {start final : σ}
    {events : List ε}
    (run : Run step admissible start events final)
    (initially : invariant start) :
    Run step (fun state event => admissible state event ∧
        condition state event) start events final ↔
      ∀ handled reached, handled <+: events →
        Run step admissible start handled reached → property reached := by
  induction run with
  | nil state =>
      constructor
      · intro _ handled reached isPrefix before
        obtain rfl := List.prefix_nil.mp isPrefix
        cases before
        exact implies state initially
      · intro _
        exact .nil state
  | @cons state next final event events allowed stepped rest
      inductionHypothesis =>
      constructor
      · intro conditioned handled reached isPrefix before
        cases conditioned with
        | cons conditions again others =>
            obtain rfl := Option.some.inj (stepped.symm.trans again)
            have nowHolds :=
              kept state event next initially allowed conditions.2 stepped
            cases before with
            | nil => exact implies state initially
            | cons _ sameStep before =>
                obtain ⟨same, restPrefix⟩ := List.cons_prefix_cons.mp isPrefix
                subst same
                obtain rfl := Option.some.inj (stepped.symm.trans sameStep)
                exact (inductionHypothesis nowHolds).mp others _ reached
                  restPrefix before
      · intro throughout
        have reachesNext : property next :=
          throughout [event] next (List.cons_prefix_cons.mpr
            ⟨rfl, List.nil_prefix⟩) (.cons allowed stepped (.nil next))
        have meets :=
          needed state event next initially allowed stepped reachesNext
        have nowHolds := kept state event next initially allowed meets stepped
        refine .cons ⟨allowed, meets⟩ stepped
          ((inductionHypothesis nowHolds).mpr ?_)
        intro handled reached isPrefix before
        exact throughout (event :: handled) reached
          (List.cons_prefix_cons.mpr ⟨rfl, isPrefix⟩)
          (.cons allowed stepped before)

/-- The first step of a run is admissible, and the rest is a run from where it
leads. -/
theorem cons_iff
    {state next final : σ}
    {event : ε}
    {events : List ε}
    (stepped : step state event = some next) :
    Run step admissible state (event :: events) final ↔
      admissible state event ∧ Run step admissible next events final := by
  constructor
  · intro run
    cases run with
    | cons allowed again rest =>
        obtain rfl := Option.some.inj (stepped.symm.trans again)
        exact ⟨allowed, rest⟩
  · rintro ⟨allowed, rest⟩
    exact .cons allowed stepped rest

end Run

/-- What holds at the start of a sequence of events and after each of them. -/
def Throughout (step : σ → ε → σ) (holds : σ → Prop) (start : σ)
    (events : List ε) : Prop :=
  ∀ handled, handled <+: events → holds (handled.foldl step start)

namespace Throughout

variable {step : σ → ε → σ} {holds : σ → Prop}

theorem nil_iff {start : σ} :
    Throughout step holds start [] ↔ holds start := by
  constructor
  · intro throughout
    exact throughout [] List.prefix_rfl
  · intro initially handled isPrefix
    rw [List.prefix_nil.mp isPrefix]
    exact initially

/-- An event is followed by the rest of the sequence from where it leads. -/
theorem cons_iff {start : σ} {event : ε} {events : List ε} :
    Throughout step holds start (event :: events) ↔
      holds start ∧ Throughout step holds (step start event) events := by
  constructor
  · intro throughout
    refine ⟨throughout [] List.nil_prefix, ?_⟩
    intro handled isPrefix
    exact throughout (event :: handled)
      (List.cons_prefix_cons.mpr ⟨rfl, isPrefix⟩)
  · rintro ⟨initially, rest⟩ handled isPrefix
    cases handled with
    | nil => exact initially
    | cons first handled =>
        obtain ⟨rfl, restPrefix⟩ := List.cons_prefix_cons.mp isPrefix
        exact rest handled restPrefix

/-- A weaker property holds as long. -/
theorem mono {weaker : σ → Prop} {start : σ} {events : List ε}
    (implied : ∀ state, holds state → weaker state)
    (throughout : Throughout step holds start events) :
    Throughout step weaker start events :=
  fun handled isPrefix => implied _ (throughout handled isPrefix)

/-- The start of a sequence is among its states. -/
theorem initially {start : σ} {events : List ε}
    (throughout : Throughout step holds start events) : holds start :=
  throughout [] List.nil_prefix

end Throughout

/-- Each event of a sequence is met where it happens. -/
def EachStep (step : σ → ε → σ) (met : σ → ε → Prop) (start : σ)
    (events : List ε) : Prop :=
  ∀ handled event, handled ++ [event] <+: events →
    met (handled.foldl step start) event

namespace EachStep

variable {step : σ → ε → σ} {met : σ → ε → Prop}

theorem nil {start : σ} : EachStep step met start [] := by
  intro handled event isPrefix
  simp at isPrefix

theorem cons_iff {start : σ} {event : ε} {events : List ε} :
    EachStep step met start (event :: events) ↔
      met start event ∧ EachStep step met (step start event) events := by
  constructor
  · intro each
    refine ⟨each [] event (by simp), ?_⟩
    intro handled other isPrefix
    exact each (event :: handled) other
      (List.cons_prefix_cons.mpr ⟨rfl, isPrefix⟩)
  · rintro ⟨first, rest⟩ handled other isPrefix
    cases handled with
    | nil =>
        obtain ⟨rfl, -⟩ := List.cons_prefix_cons.mp isPrefix
        exact first
    | cons head handled =>
        obtain ⟨rfl, restPrefix⟩ := List.cons_prefix_cons.mp isPrefix
        exact rest handled other restPrefix

theorem append_iff {start : σ} {first second : List ε} :
    EachStep step met start (first ++ second) ↔
      EachStep step met start first ∧
        EachStep step met (first.foldl step start) second := by
  induction first generalizing start with
  | nil => exact (and_iff_right nil).symm
  | cons event first inductionHypothesis =>
      rw [List.cons_append, cons_iff, cons_iff, inductionHypothesis,
        List.foldl_cons, and_assoc]

/-- What every state meets of some events is met in each step of them. -/
theorem of_forall {start : σ} {events : List ε}
    (meets : ∀ state, ∀ event ∈ events, met state event) :
    EachStep step met start events := by
  intro handled event isPrefix
  exact meets _ event (isPrefix.subset (by simp))

/-- A weaker condition is met as well. -/
theorem mono {weaker : σ → ε → Prop} {start : σ} {events : List ε}
    (implied : ∀ state event, met state event → weaker state event)
    (each : EachStep step met start events) :
    EachStep step weaker start events :=
  fun handled event isPrefix => implied _ _ (each handled event isPrefix)

/-- Where an invariant holds two conditions on a step are the same, and a step
that meets them keeps it: all steps meet the one if and only if all meet the
other. -/
theorem iff_of_invariant
    {invariant : σ → Prop}
    {condition : σ → ε → Prop}
    (same : ∀ state event, invariant state →
      (met state event ↔ condition state event))
    (kept : ∀ state event, invariant state → condition state event →
      invariant (step state event))
    {start : σ}
    {events : List ε}
    (initially : invariant start) :
    EachStep step met start events ↔ EachStep step condition start events := by
  induction events generalizing start with
  | nil => exact ⟨fun _ => nil, fun _ => nil⟩
  | cons event events inductionHypothesis =>
      rw [cons_iff, cons_iff, same start event initially]
      exact and_congr_right fun meets =>
        inductionHypothesis (kept start event initially meets)

end EachStep

/-- Execute events in order, stopping without a result at an event that is
disabled or fails the check. -/
def execute
    (step : σ → ε → Option σ)
    (check : σ → ε → Bool) : σ → List ε → Option σ
  | state, [] => some state
  | state, event :: events =>
      if check state event then
        (step state event).bind fun next => execute step check next events
      else none

/-- An execution that passes its checks is a run. -/
theorem Run.of_execute
    {step : σ → ε → Option σ}
    {admissible : σ → ε → Prop}
    {check : σ → ε → Bool}
    (sound : ∀ state event, check state event = true → admissible state event)
    {start final : σ}
    {events : List ε}
    (executed : execute step check start events = some final) :
    Run step admissible start events final := by
  induction events generalizing start with
  | nil =>
      simp only [execute, Option.some.injEq] at executed
      exact executed ▸ .nil start
  | cons event events inductionHypothesis =>
      by_cases passed : check start event = true
      · simp only [execute, passed, if_true, Option.bind_eq_some_iff] at executed
        obtain ⟨next, stepped, rest⟩ := executed
        exact .cons (sound start event passed) stepped
          (inductionHypothesis rest)
      · simp [execute, passed] at executed

/-- An execution whose end can be tested is a run to such an end. -/
theorem Run.exists_of_execute
    (step : σ → ε → Option σ)
    {admissible : σ → ε → Prop}
    (check : σ → ε → Bool)
    (sound : ∀ state event, check state event = true → admissible state event)
    (start : σ)
    (events : List ε)
    (test : σ → Bool)
    (executed : (execute step check start events).any test = true) :
    ∃ final, Run step admissible start events final ∧ test final = true := by
  obtain ⟨final, ends, passed⟩ := (Option.any_eq_true _ _).mp executed
  exact ⟨final, Run.of_execute sound ends, passed⟩

end EvoPlatform
