import EvoPlatform.Foundation.Transition

/-!
# Calls in parallel on shared data

Any number of calls work on shared data, one statement at a time and in any
order.  A record beside the pool notes what the calls have done; no call reads
it.  What holds of the data, and of each call where it stands, is kept by a run
when a call that moves on keeps it for itself and for every other call.
-/

namespace EvoPlatform

variable {δ ρ ι φ γ : Type}

/-- The code of a call: where a request begins, what the statement that a call
waits for does to the shared data and to the call, and where a call stands that
is given up. -/
structure Program (δ ρ ι φ : Type) where
  begins : ρ → φ
  step : ι → δ → φ → δ × φ
  abandoned : φ → φ

/-- The shared data, and where each call stands. -/
structure Pool (δ φ : Type) where
  data : δ
  calls : List φ

/-- What happens in a pool. -/
inductive PoolEvent (ρ ι : Type)
  | start (request : ρ)
  | advance (index : Nat) (input : ι)
  /-- A call is given up before its next statement. -/
  | abandon (index : Nat)

namespace Pool

/-- Replace one call. -/
def setCall (pool : Pool δ φ) (index : Nat) (call : φ) : Pool δ φ :=
  { pool with calls := pool.calls.set index call }

/-- After one call is replaced, a call is that one or stands where it stood. -/
theorem of_getElem?_setCall
    {pool : Pool δ φ}
    {index other : Nat}
    {call bystander : φ}
    (present : (pool.setCall index call).calls[other]? = some bystander) :
    (other = index ∧ bystander = call) ∨
      (other ≠ index ∧ pool.calls[other]? = some bystander) := by
  simp only [setCall, List.getElem?_set] at present
  by_cases same : index = other
  · subst same
    rw [if_pos rfl] at present
    split at present
    · exact Or.inl ⟨rfl, (Option.some.inj present).symm⟩
    · contradiction
  · rw [if_neg same] at present
    exact Or.inr ⟨Ne.symm same, present⟩

/-- After a call is added, a call is that one or was there before. -/
theorem of_getElem?_append
    {calls : List φ}
    {call bystander : φ}
    {other : Nat}
    (present : (calls ++ [call])[other]? = some bystander) :
    (other = calls.length ∧ bystander = call) ∨
      calls[other]? = some bystander := by
  rw [List.getElem?_append] at present
  split at present
  · exact Or.inr present
  · obtain ⟨atZero, isCall⟩ := List.getElem?_eq_some_iff.mp present
    simp only [List.length_singleton] at atZero
    simp only [List.getElem_singleton] at isCall
    exact Or.inl ⟨by omega, isCall.symm⟩

/-- Replacing a call by itself changes nothing. -/
theorem setCall_same
    {pool : Pool δ φ}
    {index : Nat}
    {call : φ}
    (present : pool.calls[index]? = some call) :
    pool.setCall index call = pool := by
  obtain ⟨inRange, isCall⟩ := List.getElem?_eq_some_iff.mp present
  subst isCall
  simp [setCall]

/-- At most one call has not ended. -/
def Alone (ended : φ → Bool) (calls : List φ) : Prop :=
  ∀ (left right : Nat) (leftCall rightCall : φ),
    calls[left]? = some leftCall → calls[right]? = some rightCall →
      ended leftCall = false → ended rightCall = false → left = right

section Alone

variable {ended : φ → Bool} {pool : Pool δ φ} {index : Nat} {call : φ}

theorem Alone.othersEnded
    (alone : Alone ended pool.calls)
    (present : pool.calls[index]? = some call)
    (goes : ended call = false)
    {other : Nat}
    {bystander : φ}
    (apart : other ≠ index)
    (found : pool.calls[other]? = some bystander) :
    ended bystander = true := by
  by_contra otherGoes
  exact apart (alone other index bystander call found present
    (Bool.eq_false_iff.mpr otherGoes) goes)

/-- A call is added to calls that have ended. -/
theorem alone_append
    {calls : List φ}
    (allEnded : ∀ call ∈ calls, ended call = true)
    (added : φ) :
    Alone ended (calls ++ [added]) := by
  have isAdded : ∀ (index : Nat) (call : φ),
      (calls ++ [added])[index]? = some call → ended call = false →
        index = calls.length := by
    intro index call present goes
    rcases of_getElem?_append present with ⟨isLast, _⟩ | before
    · exact isLast
    · rw [allEnded call (List.mem_of_getElem? before)] at goes
      contradiction
  intro left right leftCall rightCall leftPresent rightPresent leftGoes
    rightGoes
  rw [isAdded left leftCall leftPresent leftGoes,
    isAdded right rightCall rightPresent rightGoes]

/-- A call moves on when all others have ended. -/
theorem alone_setCall
    (othersEnded : ∀ (other : Nat) (bystander : φ), other ≠ index →
      pool.calls[other]? = some bystander → ended bystander = true) :
    Alone ended (pool.setCall index call).calls := by
  have isMover : ∀ (other : Nat) (bystander : φ),
      (pool.setCall index call).calls[other]? = some bystander →
        ended bystander = false → other = index := by
    intro other bystander present goes
    rcases of_getElem?_setCall present with ⟨same, _⟩ | ⟨apart, before⟩
    · exact same
    · rw [othersEnded other bystander apart before] at goes
      contradiction
  intro left right leftCall rightCall leftPresent rightPresent leftGoes
    rightGoes
  rw [isMover left leftCall leftPresent leftGoes,
    isMover right rightCall rightPresent rightGoes]

/-- A call ends. -/
theorem Alone.setCall
    (alone : Alone ended pool.calls)
    (isEnded : ended call = true) :
    Alone ended (pool.setCall index call).calls := by
  have unended : ∀ (other : Nat) (bystander : φ),
      (pool.setCall index call).calls[other]? = some bystander →
        ended bystander = false → pool.calls[other]? = some bystander := by
    intro other bystander present goes
    rcases of_getElem?_setCall present with ⟨_, rfl⟩ | ⟨_, before⟩
    · rw [isEnded] at goes
      contradiction
    · exact before
  intro left right leftCall rightCall leftPresent rightPresent leftGoes
    rightGoes
  exact alone left right leftCall rightCall
    (unended left leftCall leftPresent leftGoes)
    (unended right rightCall rightPresent rightGoes) leftGoes rightGoes

end Alone

end Pool

namespace Program

variable (program : Program δ ρ ι φ)

/-- A call that has the data to itself, after a statement for each input. -/
def alone (data : δ) (call : φ) (inputs : List ι) : δ × φ :=
  inputs.foldl (fun state input => program.step input state.1 state.2)
    (data, call)

/-- What every statement does to the data is done by all of them, provided that
the call keeps to what allows it. -/
theorem alone_related
    {program : Program δ ρ ι φ}
    {allowed : δ → φ → Prop}
    {related : δ → δ → Prop}
    (refl : ∀ data, related data data)
    (trans : ∀ before middle after, related before middle →
      related middle after → related before after)
    (stepped : ∀ input data call, allowed data call →
      related data (program.step input data call).1 ∧
        allowed (program.step input data call).1
          (program.step input data call).2)
    (inputs : List ι)
    {data : δ}
    {call : φ}
    (initially : allowed data call) :
    related data (program.alone data call inputs).1 := by
  induction inputs generalizing data call with
  | nil => exact refl data
  | cons input inputs inductionHypothesis =>
      obtain ⟨first, stillAllowed⟩ := stepped input data call initially
      exact trans _ _ _ first (inductionHypothesis stillAllowed)

/-- One event in a pool. -/
def poolStep (pool : Pool δ φ) : PoolEvent ρ ι → Option (Pool δ φ)
  | .start request =>
      some { pool with calls := pool.calls ++ [program.begins request] }
  | .advance index input =>
      pool.calls[index]?.map fun call =>
        let stepped := program.step input pool.data call
        { pool with data := stepped.1 }.setCall index stepped.2
  | .abandon index =>
      pool.calls[index]?.map fun call =>
        pool.setCall index (program.abandoned call)

/-- What a record notes of an event. -/
def note (observe : γ → Nat → ι → δ → φ → γ) (pool : Pool δ φ) (record : γ) :
    PoolEvent ρ ι → γ
  | .advance index input =>
      match pool.calls[index]? with
      | some call => observe record index input pool.data call
      | none => record
  | _ => record

/-- One event in a pool with a record beside it. -/
def watch (observe : γ → Nat → ι → δ → φ → γ) :
    Pool δ φ × γ → PoolEvent ρ ι → Option (Pool δ φ × γ)
  | (pool, record), event =>
      (program.poolStep pool event).map fun next =>
        (next, note observe pool record event)

section Watch

variable {program} {observe : γ → Nat → ι → δ → φ → γ}

/-- Every run of a pool can be watched. -/
theorem watched
    {start final : Pool δ φ}
    {admissible : Pool δ φ → PoolEvent ρ ι → Prop}
    {events : List (PoolEvent ρ ι)}
    (run : Run program.poolStep admissible start events final)
    (record : γ) :
    ∃ noted, Run (program.watch observe)
      (fun state event => admissible state.1 event)
      (start, record) events (final, noted) := by
  induction run generalizing record with
  | nil state => exact ⟨record, .nil _⟩
  | @cons state next final event events allowed stepped _ inductionHypothesis =>
      obtain ⟨noted, rest⟩ :=
        inductionHypothesis (note observe state record event)
      refine ⟨noted, .cons allowed ?_ rest⟩
      simp [watch, stepped]

/-- What holds of the data, and of every call where it stands. -/
structure Holds (shared : δ → γ → Prop) (each : δ → γ → Nat → φ → Prop)
    (state : Pool δ φ × γ) : Prop where
  ofData : shared state.1.data state.2
  ofCall : ∀ index call, state.1.calls[index]? = some call →
    each state.1.data state.2 index call

variable {shared : δ → γ → Prop} {each : δ → γ → Nat → φ → Prop}
  {admissible : Pool δ φ × γ → PoolEvent ρ ι → Prop}

/-- What holds of the data and of every call is kept by a run, when a call that
moves on keeps it for itself and does not interfere with the others. -/
theorem always
    (begun : ∀ pool record request, Holds shared each (pool, record) →
      admissible (pool, record) (.start request) →
        each pool.data record pool.calls.length (program.begins request))
    (advanced : ∀ pool record index input call,
      Holds shared each (pool, record) →
      admissible (pool, record) (.advance index input) →
      pool.calls[index]? = some call →
        shared (program.step input pool.data call).1
            (observe record index input pool.data call) ∧
          each (program.step input pool.data call).1
            (observe record index input pool.data call) index
            (program.step input pool.data call).2 ∧
          ∀ other bystander, other ≠ index →
            pool.calls[other]? = some bystander →
              each (program.step input pool.data call).1
                (observe record index input pool.data call) other bystander)
    (abandoned : ∀ data record index call, shared data record →
      each data record index call →
        each data record index (program.abandoned call))
    {start final : Pool δ φ × γ}
    {events : List (PoolEvent ρ ι)}
    (run : Run (program.watch observe) admissible start events final)
    (initially : Holds shared each start) :
    Holds shared each final := by
  apply run.invariant (Holds shared each) _ initially
  rintro ⟨pool, record⟩ event next holds allowed stepped
  simp only [watch, Option.map_eq_some_iff] at stepped
  obtain ⟨moved, poolStepped, rfl⟩ := stepped
  cases event with
  | start request =>
      simp only [poolStep, Option.some.injEq] at poolStepped
      subst poolStepped
      refine ⟨holds.ofData, ?_⟩
      intro other bystander present
      rcases Pool.of_getElem?_append present with ⟨rfl, rfl⟩ | before
      · exact begun pool record request holds allowed
      · exact holds.ofCall other bystander before
  | advance index input =>
      simp only [poolStep, Option.map_eq_some_iff] at poolStepped
      obtain ⟨call, present, rfl⟩ := poolStepped
      obtain ⟨ofData, ofMover, ofOthers⟩ :=
        advanced pool record index input call holds allowed present
      have noted : note observe pool record (.advance index input : PoolEvent ρ ι) =
          observe record index input pool.data call := by
        simp [note, present]
      rw [noted]
      refine ⟨ofData, ?_⟩
      intro other bystander found
      rcases Pool.of_getElem?_setCall found with ⟨rfl, rfl⟩ | ⟨apart, before⟩
      · exact ofMover
      · exact ofOthers other bystander apart before
  | abandon index =>
      simp only [poolStep, Option.map_eq_some_iff] at poolStepped
      obtain ⟨call, present, rfl⟩ := poolStepped
      refine ⟨holds.ofData, ?_⟩
      intro other bystander found
      rcases Pool.of_getElem?_setCall found with ⟨rfl, rfl⟩ | ⟨_, before⟩
      · exact abandoned pool.data record other call holds.ofData
          (holds.ofCall other call present)
      · exact holds.ofCall other bystander before

/-- Calls made one after the other: what holds of the data and of every call,
and at most one call has not ended. -/
structure InTurn (ended : φ → Bool) (shared : δ → γ → Prop)
    (each : δ → γ → φ → Prop) (state : Pool δ φ × γ) : Prop where
  ofData : shared state.1.data state.2
  ofCall : ∀ (index : Nat) (call : φ), state.1.calls[index]? = some call →
    each state.1.data state.2 call
  alone : Pool.Alone ended state.1.calls

/-- A call that moves on while all others have ended has to keep what holds for
itself only, provided that an ended call stays as it is and is not disturbed
any more. -/
theorem inTurn
    {ended : φ → Bool}
    {each : δ → γ → φ → Prop}
    (waits : ∀ state request, admissible state (.start request) →
      ∀ call ∈ state.1.calls, ended call = true)
    (rests : ∀ record index input data call, ended call = true →
      program.step input data call = (data, call) ∧
        observe record index input data call = record)
    (undisturbed : ∀ data record after noted call, ended call = true →
      each data record call → each after noted call)
    (begun : ∀ pool record request, InTurn ended shared each (pool, record) →
      admissible (pool, record) (.start request) →
        each pool.data record (program.begins request))
    (advanced : ∀ (pool : Pool δ φ) (record : γ) (index : Nat) (input : ι)
      (call : φ), InTurn ended shared each (pool, record) →
      admissible (pool, record) (.advance index input) →
      pool.calls[index]? = some call →
        shared (program.step input pool.data call).1
            (observe record index input pool.data call) ∧
          each (program.step input pool.data call).1
            (observe record index input pool.data call)
            (program.step input pool.data call).2)
    (abandoned : ∀ data record call, each data record call →
      ended (program.abandoned call) = true ∧
        each data record (program.abandoned call))
    {start final : Pool δ φ × γ}
    {events : List (PoolEvent ρ ι)}
    (run : Run (program.watch observe) admissible start events final)
    (initially : InTurn ended shared each start) :
    InTurn ended shared each final := by
  apply run.invariant (InTurn ended shared each) _ initially
  rintro ⟨pool, record⟩ event next holds allowed stepped
  simp only [watch, Option.map_eq_some_iff] at stepped
  obtain ⟨moved, poolStepped, rfl⟩ := stepped
  cases event with
  | start request =>
      simp only [poolStep, Option.some.injEq] at poolStepped
      subst poolStepped
      refine ⟨holds.ofData, ?_,
        Pool.alone_append (waits (pool, record) request allowed) _⟩
      intro index call present
      rcases Pool.of_getElem?_append present with ⟨rfl, rfl⟩ | before
      · exact begun pool record request holds allowed
      · exact holds.ofCall index call before
  | advance index input =>
      simp only [poolStep, Option.map_eq_some_iff] at poolStepped
      obtain ⟨call, present, rfl⟩ := poolStepped
      have noted : note observe pool record (.advance index input : PoolEvent ρ ι) =
          observe record index input pool.data call := by
        simp [note, present]
      rw [noted]
      by_cases callEnded : ended call = true
      · obtain ⟨same, unnoted⟩ :=
          rests record index input pool.data call callEnded
        have unmoved : pool.setCall index call = pool :=
          Pool.setCall_same present
        rw [unnoted]
        simp only [same, unmoved]
        exact holds
      · have goes : ended call = false := Bool.eq_false_iff.mpr callEnded
        obtain ⟨ofData, ofMover⟩ :=
          advanced pool record index input call holds allowed present
        refine ⟨ofData, ?_, Pool.alone_setCall fun other bystander apart found =>
          holds.alone.othersEnded present goes apart found⟩
        intro other bystander found
        rcases Pool.of_getElem?_setCall found with ⟨rfl, rfl⟩ | ⟨apart, before⟩
        · exact ofMover
        · exact undisturbed _ _ _ _ bystander
            (holds.alone.othersEnded present goes apart before)
            (holds.ofCall other bystander before)
  | abandon index =>
      simp only [poolStep, Option.map_eq_some_iff] at poolStepped
      obtain ⟨call, present, rfl⟩ := poolStepped
      obtain ⟨isEnded, still⟩ := abandoned pool.data record call
        (holds.ofCall index call present)
      refine ⟨holds.ofData, ?_, holds.alone.setCall isEnded⟩
      intro other bystander found
      rcases Pool.of_getElem?_setCall found with ⟨rfl, rfl⟩ | ⟨_, before⟩
      · exact still
      · exact holds.ofCall other bystander before

end Watch

/-- What holds of the data, and of every call wherever it is in the pool. -/
structure Kept (shared : δ → Prop) (each : δ → φ → Prop) (pool : Pool δ φ) :
    Prop where
  ofData : shared pool.data
  ofCall : ∀ call ∈ pool.calls, each pool.data call

/-- What holds of the data and of every call is kept by a run, without a record
beside it. -/
theorem keeps
    {program : Program δ ρ ι φ}
    {shared : δ → Prop}
    {each : δ → φ → Prop}
    {admissible : Pool δ φ → PoolEvent ρ ι → Prop}
    (begun : ∀ pool request, admissible pool (.start request) →
      each pool.data (program.begins request))
    (advanced : ∀ pool index input call, shared pool.data →
      each pool.data call → call ∈ pool.calls →
      admissible pool (.advance index input) →
      pool.calls[index]? = some call →
        shared (program.step input pool.data call).1 ∧
          each (program.step input pool.data call).1
            (program.step input pool.data call).2 ∧
          ∀ bystander ∈ pool.calls, each pool.data bystander →
            each (program.step input pool.data call).1 bystander)
    (abandoned : ∀ data call, each data call →
      each data (program.abandoned call))
    {data : δ}
    {final : Pool δ φ}
    {events : List (PoolEvent ρ ι)}
    (run : Run program.poolStep admissible ⟨data, []⟩ events final)
    (initially : shared data) :
    Kept shared each final := by
  obtain ⟨noted, watched⟩ : ∃ noted,
      Run (program.watch fun (_ : Unit) _ _ _ _ => ())
        (fun state event => admissible state.1 event) (⟨data, []⟩, ()) events
        (final, noted) :=
    watched run ()
  have holds : Holds (fun data (_ : Unit) => shared data)
      (fun data _ _ call => each data call) (final, noted) := by
    apply always _ _ _ watched
    · refine ⟨initially, ?_⟩
      intro index call present
      simp at present
    · intro pool _ request _ allowed
      exact begun pool request allowed
    · intro pool _ index input call holds allowed present
      obtain ⟨ofData, ofMover, ofOthers⟩ :=
        advanced pool index input call holds.ofData
          (holds.ofCall index call present) (List.mem_of_getElem? present)
          allowed present
      refine ⟨ofData, ofMover, ?_⟩
      intro other bystander _ found
      exact ofOthers bystander (List.mem_of_getElem? found)
        (holds.ofCall other bystander found)
    · intro data _ index call _ before
      exact abandoned data call before
  refine ⟨holds.ofData, ?_⟩
  intro call present
  obtain ⟨index, found⟩ := List.mem_iff_getElem?.mp present
  exact holds.ofCall index call found

end Program
end EvoPlatform
