import EvoPlatform.Foundation.Responses
import EvoPlatform.Foundation.SlidingWindow
import Mathlib.Data.List.Induction

/-!
# The rate limiter of the app template

`rateLimit` keeps the hits of all keys in one map, which it sweeps once the map
is large, with the cutoff of whoever calls.  A key is answered as if it were
alone, whatever comes next, as long as no sweep removes hits that are still in
the window of their own key.
-/

namespace EvoPlatform
namespace Template

/-- An entry of `buckets`. -/
structure Bucket where
  key : String
  hits : List Int
  deriving DecidableEq

abbrev Buckets := Table Bucket.key

/-- What is stored under a key, or nothing. -/
def Buckets.hitsOf (buckets : Buckets) (key : String) : List Int :=
  ((buckets.find? key).map Bucket.hits).getD []

/-- `rateLimit` at the reading `now` of `Date.now()`. -/
def rateLimit (buckets : Buckets) (key : String) (max : Nat)
    (windowMs now : Int) : Buckets × Bool :=
  let cutoff := now - windowMs
  let hits := (buckets.hitsOf key).filter fun t => cutoff < t
  if max ≤ hits.length then (buckets.put ⟨key, hits⟩, false)
  else
    let stored := buckets.put ⟨key, hits ++ [now]⟩
    (if 10000 < stored.rows.length then
        stored.eraseWhere fun bucket => bucket.hits.all fun t => t ≤ cutoff
      else stored,
      true)

/-- What each key is used with. -/
structure Limits where
  max : String → Nat
  windowMs : String → Int

structure Call where
  key : String
  /-- `Date.now()`. -/
  now : Int
  deriving DecidableEq

variable (limits : Limits)

/-- A call on a key, with what the key is used with. -/
def Limits.call (buckets : Buckets) (call : Call) : Buckets × Bool :=
  rateLimit buckets call.key (limits.max call.key) (limits.windowMs call.key)
    call.now

/-! ## What a key sees -/

/-- The calls on a key. -/
def callsOn (key : String) (calls : List Call) : List Call :=
  calls.filter fun call => call.key = key

/-- The answers to the calls on a key, among all calls. -/
def Limits.answersOn (key : String) (buckets : Buckets) (calls : List Call) :
    List Bool :=
  ((calls.zip (answers limits.call buckets calls)).filter
    fun entry => entry.1.key = key).map Prod.snd

/-- When calls on a key were accepted, from an empty map on. -/
def Limits.acceptedAt (key : String) (calls : List Call) : List Int :=
  granted ((callsOn key calls).map Call.now)
    (limits.answersOn key .empty calls)

/-- A key is answered as it is when no other key is in use, and no window of it
holds more than its maximum of accepted calls. -/
def Limits.Independent (key : String) (calls : List Call) : Prop :=
  limits.answersOn key .empty calls =
      answers limits.call .empty (callsOn key calls) ∧
    ∀ instant,
      inWindow (limits.windowMs key) instant (limits.acceptedAt key calls) ≤
        limits.max key

/-- The readings of the clock do not decrease. -/
def Timely (calls : List Call) : Prop :=
  calls.Pairwise fun earlier later => earlier.now ≤ later.now

/-! ## What a sweep removes -/

/-- The hits of a key that are in the window of the key. -/
def Limits.live (buckets : Buckets) (key : String) (now : Int) : List Int :=
  stillIn (limits.windowMs key) now (buckets.hitsOf key)

/-- A call sweeps the map: it is accepted, and the map is large with it. -/
def Limits.Sweeps (buckets : Buckets) (call : Call) : Prop :=
  (limits.live buckets call.key call.now).length < limits.max call.key ∧
    10000 < (buckets.put ⟨call.key, []⟩).rows.length

instance (buckets : Buckets) (call : Call) :
    Decidable (limits.Sweeps buckets call) :=
  inferInstanceAs (Decidable (_ ∧ _))

/-- A call does not sweep away hits of a key that are still in its window: such
a key has a hit in the window of the caller as well. -/
def Limits.Spares (key : String) (buckets : Buckets) (call : Call) : Prop :=
  limits.Sweeps buckets call → call.key ≠ key →
    limits.live buckets key call.now ≠ [] →
      ∃ t ∈ buckets.hitsOf key, call.now - limits.windowMs call.key < t

/-- A call sweeps away no hits that are still in the window of their key. -/
def Limits.SparesAll (buckets : Buckets) (call : Call) : Prop :=
  ∀ key, limits.Spares key buckets call

variable {limits : Limits} {key : String} {buckets : Buckets}

@[simp] theorem hitsOf_empty (key : String) :
    Buckets.hitsOf .empty key = [] := rfl

theorem hitsOf_of_new (new : key ∉ buckets.rows.map Bucket.key) :
    buckets.hitsOf key = [] := by
  have absent : buckets.find? key = none := by
    refine List.find?_eq_none.mpr fun bucket stored same => new ?_
    exact List.mem_map.mpr ⟨bucket, stored, of_decide_eq_true same⟩
  rw [Buckets.hitsOf, absent]
  rfl

@[simp] theorem hitsOf_put (bucket : Bucket) :
    (Buckets.hitsOf (buckets.put bucket) key) =
      if key = bucket.key then bucket.hits else buckets.hitsOf key := by
  unfold Buckets.hitsOf
  rw [Table.find?_put]
  split
  · rfl
  · rfl

/-- A bucket that is swept was of no use to the caller. -/
theorem hitsOf_eraseWhere (doomed : Bucket → Bool) :
    Buckets.hitsOf (buckets.eraseWhere doomed) key =
      if doomed ⟨key, buckets.hitsOf key⟩ then [] else buckets.hitsOf key := by
  unfold Buckets.hitsOf
  rw [Table.find?_eraseWhere]
  cases found : buckets.find? key with
  | none => simp
  | some bucket =>
      have same : bucket = ⟨key, bucket.hits⟩ := by
        rw [← buckets.key_of_find? found]
      cases swept : doomed bucket with
      | false => simp [Option.filter_some, swept, ← same]
      | true => simp [Option.filter_some, swept, ← same]

/-- How large the map gets does not depend on what is stored. -/
theorem length_put (hits others : List Int) :
    (buckets.put ⟨key, hits⟩).rows.length =
      (buckets.put ⟨key, others⟩).rows.length := by
  have sameLength : ∀ rows : List Bucket,
      (putRow Bucket.key ⟨key, hits⟩ rows).length =
        (putRow Bucket.key ⟨key, others⟩ rows).length := by
    intro rows
    induction rows with
    | nil => rfl
    | cons bucket rows inductionHypothesis =>
        by_cases same : bucket.key = key
        · rw [putRow_of_eq same, putRow_of_eq same]
          rfl
        · rw [putRow_of_ne same, putRow_of_ne same]
          exact congrArg Nat.succ inductionHypothesis
  exact sameLength buckets.rows

/-- What a call answers, and what it leaves in the map. -/
theorem call_eq (call : Call) :
    limits.call buckets call =
      if limits.max call.key ≤
          (limits.live buckets call.key call.now).length then
        (buckets.put ⟨call.key, limits.live buckets call.key call.now⟩, false)
      else
        (if 10000 < (buckets.put ⟨call.key, []⟩).rows.length then
            (buckets.put ⟨call.key,
                limits.live buckets call.key call.now ++ [call.now]⟩).eraseWhere
              fun bucket =>
                bucket.hits.all fun t => t ≤ call.now - limits.windowMs call.key
          else buckets.put ⟨call.key,
            limits.live buckets call.key call.now ++ [call.now]⟩,
          true) := by
  rw [length_put [] (limits.live buckets call.key call.now ++ [call.now])]
  rfl

/-! ## One call -/

/-- What the map holds of a key, as far as it is in the window, is what the key
was granted. -/
def Limits.Agrees (limits : Limits) (key : String) (buckets : Buckets)
    (log : List Int) (now : Int) : Prop :=
  limits.live buckets key now = stillIn (limits.windowMs key) now log

theorem Limits.Agrees.later
    {log : List Int}
    {now later : Int}
    (agrees : limits.Agrees key buckets log now)
    (notEarlier : now ≤ later) :
    limits.Agrees key buckets log later := by
  have cut := congrArg (stillIn (limits.windowMs key) later) agrees
  rw [Limits.live, stillIn_stillIn le_rfl notEarlier,
    stillIn_stillIn le_rfl notEarlier] at cut
  exact cut

/-- The caller loses no hit in its window to its own sweep. -/
theorem stillIn_swept (width now : Int) (hits : List Int) :
    stillIn width now
        (if (hits.all fun t => t ≤ now - width) = true then [] else hits) =
      stillIn width now hits := by
  split
  · rename_i ended
    have none : stillIn width now hits = [] :=
      stillIn_eq_nil_iff.mpr (by simpa using ended)
    rw [none]
    rfl
  · rfl

/-- A call is answered by what its key was granted. -/
theorem agrees_own
    {log : List Int}
    {call : Call}
    (agrees : limits.Agrees call.key buckets log call.now) :
    (limits.call buckets call).2 =
        (grant (limits.windowMs call.key) (limits.max call.key) log
          call.now).2 ∧
      limits.Agrees call.key (limits.call buckets call).1
        (grant (limits.windowMs call.key) (limits.max call.key) log
          call.now).1 call.now := by
  rw [call_eq, agrees, grant]
  by_cases full : limits.max call.key ≤
      (stillIn (limits.windowMs call.key) call.now log).length
  · rw [if_pos full, if_pos full]
    refine ⟨rfl, ?_⟩
    rw [Limits.Agrees, Limits.live, hitsOf_put, if_pos rfl,
      stillIn_stillIn le_rfl le_rfl]
  · rw [if_neg full, if_neg full]
    refine ⟨rfl, ?_⟩
    have kept : stillIn (limits.windowMs call.key) call.now
        (stillIn (limits.windowMs call.key) call.now log ++ [call.now]) =
        stillIn (limits.windowMs call.key) call.now (log ++ [call.now]) := by
      rw [stillIn_append, stillIn_append, stillIn_stillIn le_rfl le_rfl]
    rw [Limits.Agrees, Limits.live, ← kept]
    by_cases large : 10000 < (buckets.put ⟨call.key, []⟩).rows.length
    · rw [if_pos large, hitsOf_eraseWhere, hitsOf_put, if_pos rfl]
      exact stillIn_swept _ _ _
    · rw [if_neg large, hitsOf_put, if_pos rfl]

/-- What a call leaves in the map for another key. -/
theorem hitsOf_call_other
    {call : Call}
    (other : call.key ≠ key) :
    Buckets.hitsOf (limits.call buckets call).1 key =
      if limits.Sweeps buckets call ∧ ∀ t ∈ buckets.hitsOf key,
          t ≤ call.now - limits.windowMs call.key then []
      else buckets.hitsOf key := by
  rw [call_eq]
  by_cases full : limits.max call.key ≤
      (limits.live buckets call.key call.now).length
  · rw [if_pos full, hitsOf_put, if_neg (Ne.symm other)]
    simp [Limits.Sweeps, not_lt.mpr full]
  · rw [if_neg full]
    by_cases large : 10000 < (buckets.put ⟨call.key, []⟩).rows.length
    · rw [if_pos large, hitsOf_eraseWhere, hitsOf_put, if_neg (Ne.symm other)]
      simp [Limits.Sweeps, not_le.mp full, large]
    · rw [if_neg large, hitsOf_put, if_neg (Ne.symm other)]
      simp [Limits.Sweeps, large]

/-- A call that spares another key leaves it what it was granted. -/
theorem agrees_other
    {log : List Int}
    {call : Call}
    (other : call.key ≠ key)
    (spares : limits.Spares key buckets call)
    (agrees : limits.Agrees key buckets log call.now) :
    limits.Agrees key (limits.call buckets call).1 log call.now := by
  rw [Limits.Agrees, Limits.live, hitsOf_call_other other]
  split
  · rename_i swept
    have gone : limits.live buckets key call.now = [] := by
      by_contra live
      obtain ⟨t, present, recent⟩ := spares swept.1 other live
      exact absurd (swept.2 t present) (not_le.mpr recent)
    rw [← agrees, gone]
    rfl
  · exact agrees

/-! ## All calls -/

theorem answersOn_cons (call : Call) (calls : List Call) :
    limits.answersOn key buckets (call :: calls) =
      if call.key = key then
        (limits.call buckets call).2 ::
          limits.answersOn key (limits.call buckets call).1 calls
      else limits.answersOn key (limits.call buckets call).1 calls := by
  by_cases own : call.key = key
  · simp [Limits.answersOn, answers, own]
  · simp [Limits.answersOn, answers, own]

theorem callsOn_cons (call : Call) (calls : List Call) :
    callsOn key (call :: calls) =
      if call.key = key then call :: callsOn key calls
      else callsOn key calls := by
  simp [callsOn, List.filter_cons]

/-- A key that is spared by all calls is answered by what it was granted. -/
theorem answersOn_eq
    {calls : List Call}
    (timely : Timely calls)
    {log : List Int}
    {since : Int}
    (notEarlier : ∀ call ∈ calls, since ≤ call.now)
    (agrees : limits.Agrees key buckets log since)
    (spared : EachStep (fun buckets call => (limits.call buckets call).1)
      (limits.Spares key) buckets calls) :
    limits.answersOn key buckets calls =
        answers (grant (limits.windowMs key) (limits.max key)) log
          ((callsOn key calls).map Call.now) ∧
      ∀ now, since ≤ now → (∀ call ∈ calls, call.now ≤ now) →
        limits.Agrees key (after limits.call buckets calls)
          (after (grant (limits.windowMs key) (limits.max key)) log
            ((callsOn key calls).map Call.now)) now := by
  induction calls generalizing buckets log since with
  | nil => exact ⟨rfl, fun now later _ => agrees.later later⟩
  | cons call calls inductionHypothesis =>
      obtain ⟨following, ordered⟩ := List.pairwise_cons.mp timely
      obtain ⟨spares, others⟩ := EachStep.cons_iff.mp spared
      have agreesNow := agrees.later (notEarlier call List.mem_cons_self)
      rw [answersOn_cons, callsOn_cons]
      by_cases own : call.key = key
      · subst own
        obtain ⟨sameAnswer, stillAgrees⟩ := agrees_own agreesNow
        obtain ⟨sameAnswers, finallyAgrees⟩ :=
          inductionHypothesis ordered following stillAgrees others
        rw [if_pos rfl, if_pos rfl]
        refine ⟨?_, fun now _ ends => ?_⟩
        · rw [List.map_cons, answers, sameAnswer, sameAnswers]
        · exact finallyAgrees now (ends call List.mem_cons_self)
            fun later present => ends later (List.mem_cons_of_mem _ present)
      · obtain ⟨sameAnswers, finallyAgrees⟩ :=
          inductionHypothesis ordered following
            (agrees_other own spares agreesNow) others
        rw [if_neg own, if_neg own]
        exact ⟨sameAnswers, fun now _ ends =>
          finallyAgrees now (ends call List.mem_cons_self)
            fun later present => ends later (List.mem_cons_of_mem _ present)⟩

theorem answersOn_append (first second : List Call) :
    limits.answersOn key buckets (first ++ second) =
      limits.answersOn key buckets first ++
        limits.answersOn key (after limits.call buckets first) second := by
  rw [Limits.answersOn, answers_append,
    List.zip_append (length_answers _ _ _).symm, List.filter_append,
    List.map_append]
  rfl

/-- When all calls are on one key, all answers are. -/
theorem answersOn_of_forall
    {calls : List Call}
    (own : ∀ call ∈ calls, call.key = key) :
    limits.answersOn key buckets calls = answers limits.call buckets calls := by
  induction calls generalizing buckets with
  | nil => rfl
  | cons call calls inductionHypothesis =>
      rw [answersOn_cons, if_pos (own call List.mem_cons_self), answers,
        inductionHypothesis fun later present =>
          own later (List.mem_cons_of_mem _ present)]

theorem key_of_mem_callsOn
    {calls : List Call}
    {call : Call}
    (present : call ∈ callsOn key calls) :
    call.key = key := by
  simpa using (List.mem_filter.mp present).2

/-- A call on a key does not count as sweeping the key away. -/
theorem each_spares_own
    {calls : List Call}
    (own : ∀ call ∈ calls, call.key = key) :
    EachStep (fun buckets call => (limits.call buckets call).1)
      (limits.Spares key) buckets calls :=
  .of_forall fun _ call present _ other => absurd (own call present) other

/-- Calls that are in order have one that is not later than any. -/
theorem Timely.exists_since
    {calls : List Call}
    (timely : Timely calls) :
    ∃ since, ∀ call ∈ calls, since ≤ call.now := by
  cases calls with
  | nil => exact ⟨0, by simp⟩
  | cons first calls =>
      refine ⟨first.now, ?_⟩
      rintro call (_ | ⟨_, present⟩)
      · exact le_rfl
      · exact (List.pairwise_cons.mp timely).1 call present

/-- Nothing was granted that the map does not know of. -/
theorem agrees_empty
    (unknown : buckets.hitsOf key = [])
    (now : Int) :
    limits.Agrees key buckets [] now := by
  rw [Limits.Agrees, Limits.live, unknown]

/-- What a key is granted when it is spared: what its own limiter grants. -/
theorem acceptedAt_eq
    {calls : List Call}
    (timely : Timely calls)
    (spared : EachStep (fun buckets call => (limits.call buckets call).1)
      (limits.Spares key) .empty calls) :
    limits.acceptedAt key calls =
      after (grant (limits.windowMs key) (limits.max key)) []
        ((callsOn key calls).map Call.now) := by
  obtain ⟨since, notEarlier⟩ := timely.exists_since
  obtain ⟨sameAnswers, -⟩ :=
    answersOn_eq timely notEarlier (agrees_empty (hitsOf_empty key) since) spared
  rw [after_grant, Limits.acceptedAt, sameAnswers, List.nil_append]

/-- A key that is spared by all calls is independent. -/
theorem independent_of_spared
    {calls : List Call}
    (timely : Timely calls)
    (spared : EachStep (fun buckets call => (limits.call buckets call).1)
      (limits.Spares key) .empty calls) :
    limits.Independent key calls := by
  obtain ⟨since, notEarlier⟩ := timely.exists_since
  constructor
  · have alone : Timely (callsOn key calls) := timely.filter _
    have twice : callsOn key (callsOn key calls) = callsOn key calls := by
      simp [callsOn]
    obtain ⟨among, -⟩ :=
      answersOn_eq timely notEarlier (agrees_empty (hitsOf_empty key) since) spared
    obtain ⟨single, -⟩ :=
      answersOn_eq alone (fun call present =>
          notEarlier call (List.mem_of_mem_filter present))
        (agrees_empty (hitsOf_empty key) since)
        (each_spares_own fun _ => key_of_mem_callsOn)
    rw [among, ← answersOn_of_forall fun _ => key_of_mem_callsOn, single,
      twice]
  · intro instant
    rw [acceptedAt_eq timely spared]
    refine (Admitted.after .nil ?_ (by simp)).inWindow_le instant
    exact List.pairwise_map.mpr (timely.filter _)

theorem callsOn_append (first second : List Call) :
    callsOn key (first ++ second) = callsOn key first ++ callsOn key second :=
  List.filter_append first second

theorem length_answersOn (calls : List Call) :
    (limits.answersOn key buckets calls).length =
      (callsOn key calls).length := by
  induction calls generalizing buckets with
  | nil => rfl
  | cons call calls inductionHypothesis =>
      rw [answersOn_cons, callsOn_cons]
      split
      · rw [List.length_cons, inductionHypothesis, List.length_cons]
      · exact inductionHypothesis

theorem acceptedAt_append (first second : List Call) :
    limits.acceptedAt key (first ++ second) =
      limits.acceptedAt key first ++
        granted ((callsOn key second).map Call.now)
          (limits.answersOn key (after limits.call .empty first) second) := by
  rw [Limits.acceptedAt, answersOn_append, callsOn_append, List.map_append,
    granted_append (by rw [List.length_map, length_answersOn])]
  rfl

/-- Nothing is accepted later than all calls. -/
theorem acceptedAt_past
    {calls : List Call}
    {now : Int}
    (past : ∀ call ∈ calls, call.now ≤ now) :
    ∀ time ∈ limits.acceptedAt key calls, time ≤ now := by
  intro time present
  obtain ⟨call, listed, rfl⟩ := List.mem_map.mp (mem_of_mem_granted present)
  exact past call (List.mem_of_mem_filter listed)

/-- The calls that a key can make at one instant until its maximum. -/
def Limits.burst (limits : Limits) (key : String) (now : Int) : List Call :=
  List.replicate (limits.max key) ⟨key, now⟩

theorem key_of_mem_burst
    {now : Int}
    {call : Call}
    (present : call ∈ limits.burst key now) :
    call = ⟨key, now⟩ :=
  List.eq_of_mem_replicate present

/-- A key that the map knows nothing of is granted its maximum at once. -/
theorem granted_burst
    (unknown : buckets.hitsOf key = [])
    (positive : 0 < limits.windowMs key)
    (now : Int) :
    granted ((callsOn key (limits.burst key now)).map Call.now)
        (limits.answersOn key buckets (limits.burst key now)) =
      List.replicate (limits.max key) now := by
  have times : (callsOn key (limits.burst key now)).map Call.now =
      List.replicate (limits.max key) now := by
    simp [callsOn, Limits.burst]
  have timely : Timely (limits.burst key now) :=
    List.pairwise_replicate.mpr (.inr le_rfl)
  obtain ⟨sameAnswers, -⟩ :=
    answersOn_eq timely
      (fun call present => (key_of_mem_burst present ▸ le_rfl))
      (agrees_empty unknown now)
      (each_spares_own fun call present => key_of_mem_burst present ▸ rfl)
  have allTrue : answers (grant (limits.windowMs key) (limits.max key))
      (List.replicate 0 now) (List.replicate (limits.max key) now) =
      List.replicate (limits.max key) true :=
    answers_grant_replicate positive (Nat.zero_add _).le
  rw [List.replicate_zero] at allTrue
  rw [sameAnswers, times, allTrue, granted_replicate_true]

/-- A key that lost hits still in its window is granted its maximum over again,
which is more than its maximum. -/
theorem exceeds_of_swept
    {handled : List Call}
    {call : Call}
    (timely : Timely (handled ++ [call]))
    (spared : EachStep (fun buckets call => (limits.call buckets call).1)
      (limits.Spares key) .empty handled)
    (swept : ¬ limits.Spares key (after limits.call .empty handled) call) :
    limits.max key <
      inWindow (limits.windowMs key) call.now
        (limits.acceptedAt key
          (handled ++ [call] ++ limits.burst key call.now)) := by
  simp only [Limits.Spares, not_forall, not_exists, not_and, not_lt] at swept
  obtain ⟨sweeps, other, live, ended⟩ := swept
  obtain ⟨ordered, -, past⟩ := List.pairwise_append.mp timely
  replace past : ∀ earlier ∈ handled, earlier.now ≤ call.now :=
    fun earlier present => past earlier present call (List.mem_singleton.mpr rfl)
  obtain ⟨since, notEarlier⟩ := timely.exists_since
  obtain ⟨-, finallyAgrees⟩ :=
    answersOn_eq ordered
      (fun earlier present => notEarlier earlier (List.mem_append_left _ present))
      (agrees_empty (hitsOf_empty key) since) spared
  have agrees := finallyAgrees call.now (notEarlier call (by simp)) past
  rw [← acceptedAt_eq ordered spared] at agrees
  have before : ∀ time ∈ limits.acceptedAt key handled, time ≤ call.now :=
    acceptedAt_past past
  -- Something that was accepted is still in the window.
  rw [agrees] at live
  obtain ⟨time, recent⟩ := List.exists_mem_of_ne_nil _ live
  have one : 0 < inWindow (limits.windowMs key) call.now
      (limits.acceptedAt key handled) := by
    rw [← length_stillIn before]
    exact List.length_pos_of_ne_nil live
  have positive : 0 < limits.windowMs key := by
    have inside := List.mem_filter.mp recent
    have notLater := before time inside.1
    have recently := of_decide_eq_true inside.2
    omega
  have unknown : Buckets.hitsOf
      (after limits.call .empty (handled ++ [call])) key = [] := by
    rw [after_append, after_cons, after_nil, hitsOf_call_other other,
      if_pos ⟨sweeps, ended⟩]
  have none : callsOn key [call] = [] := by
    simp [callsOn, other]
  rw [acceptedAt_append, acceptedAt_append, none, List.map_nil,
    granted_burst unknown positive, inWindow, List.countP_append,
    List.countP_append]
  have all : (List.replicate (limits.max key) call.now).countP (fun time =>
      decide (call.now - limits.windowMs key < time ∧ time ≤ call.now)) =
      limits.max key := by
    simp [List.countP_replicate, positive]
  rw [all]
  rw [inWindow] at one
  omega

/-! ## Every run -/

/-- Each key is independent, whatever calls it goes on with. -/
def Limits.IndependentFrom (limits : Limits) (handled : List Call) : Prop :=
  ∀ (key : String) (times : List Int),
    Timely (handled ++ times.map (Call.mk key)) →
      limits.Independent key (handled ++ times.map (Call.mk key))

/-- No sweep of a run removes hits that are still in the window of their key,
if and only if at every point of the run each key is answered, whatever calls
it goes on with, as if it were alone, and within its maximum. -/
theorem independent_iff_no_live_hit_swept
    (limits : Limits)
    (calls : List Call)
    (timely : Timely calls) :
    EachStep (fun buckets call => (limits.call buckets call).1)
        limits.SparesAll .empty calls ↔
      ∀ handled, handled <+: calls → limits.IndependentFrom handled := by
  constructor
  · rintro spared handled ⟨others, rfl⟩ key times inOrder
    refine independent_of_spared inOrder (EachStep.append_iff.mpr ⟨?_, ?_⟩)
    · exact (EachStep.append_iff.mp spared).1.mono
        fun _ _ sparesAll => sparesAll key
    · refine each_spares_own fun call present => ?_
      obtain ⟨time, -, rfl⟩ := List.mem_map.mp present
      rfl
  · intro independent
    induction calls using List.reverseRecOn with
    | nil => exact .nil
    | append_singleton handled call inductionHypothesis =>
        have earlier := inductionHypothesis (List.pairwise_append.mp timely).1
          fun before isPrefix => independent before
            (isPrefix.trans (List.prefix_append _ _))
        refine EachStep.append_iff.mpr
          ⟨earlier, EachStep.cons_iff.mpr ⟨?_, .nil⟩⟩
        intro key
        by_contra swept
        have exceeds := exceeds_of_swept timely
          (earlier.mono fun _ _ sparesAll => sparesAll key) swept
        have asCalls : limits.burst key call.now =
            (List.replicate (limits.max key) call.now).map (Call.mk key) := by
          simp [Limits.burst]
        rw [asCalls] at exceeds
        have inOrder : Timely (handled ++ [call] ++
            (List.replicate (limits.max key) call.now).map (Call.mk key)) := by
          refine List.pairwise_append.mpr ⟨timely, ?_, ?_⟩
          · simp [List.pairwise_replicate]
          · intro before present later listed
            obtain ⟨time, repeated, rfl⟩ := List.mem_map.mp listed
            rw [List.eq_of_mem_replicate repeated]
            rcases List.mem_append.mp present with old | last
            · exact (List.pairwise_append.mp timely).2.2 before old call
                (List.mem_singleton.mpr rfl)
            · exact (List.mem_singleton.mp last ▸ le_rfl)
        have within :=
          (independent _ List.prefix_rfl key _ inOrder).2 call.now
        omega

/-! ## A map that is not large -/

/-- A map with less than ten thousand keys is not swept. -/
theorem not_sweeps_of_few
    (few : buckets.rows.length < 10000)
    (call : Call) :
    ¬ limits.Sweeps buckets call := by
  rintro ⟨-, large⟩
  have grows := length_putRow_le Bucket.key ⟨call.key, []⟩ buckets.rows
  have same : (buckets.put ⟨call.key, []⟩).rows.length =
      (putRow Bucket.key ⟨call.key, []⟩ buckets.rows).length := rfl
  omega

theorem length_call_le (call : Call) :
    (limits.call buckets call).1.rows.length ≤ buckets.rows.length + 1 := by
  rw [call_eq]
  split
  · exact length_putRow_le _ _ _
  · split
    · exact (List.length_filter_le _ _).trans (length_putRow_le _ _ _)
    · exact length_putRow_le _ _ _

/-- A run of few calls sweeps nothing away. -/
theorem each_spares_of_few
    {calls : List Call}
    (few : buckets.rows.length + calls.length ≤ 10000) :
    EachStep (fun buckets call => (limits.call buckets call).1)
      limits.SparesAll buckets calls := by
  induction calls generalizing buckets with
  | nil => exact .nil
  | cons call calls inductionHypothesis =>
      rw [List.length_cons] at few
      refine EachStep.cons_iff.mpr ⟨fun key sweeps => ?_, ?_⟩
      · exact absurd sweeps (not_sweeps_of_few (by omega) call)
      · have grows := @length_call_le limits buckets call
        exact inductionHypothesis (by omega)

/-- Few calls on other keys leave a key what is stored of it. -/
theorem hitsOf_after_others
    {calls : List Call}
    (others : ∀ call ∈ calls, call.key ≠ key)
    (few : buckets.rows.length + calls.length ≤ 10000) :
    Buckets.hitsOf (after limits.call buckets calls) key =
      buckets.hitsOf key := by
  induction calls generalizing buckets with
  | nil => rfl
  | cons call calls inductionHypothesis =>
      rw [List.length_cons] at few
      have grows := @length_call_le limits buckets call
      rw [after_cons, inductionHypothesis
          (fun later present => others later (List.mem_cons_of_mem _ present))
          (by omega),
        hitsOf_call_other (others call List.mem_cons_self),
        if_neg fun swept => not_sweeps_of_few (by omega) call swept.1]

/-- A call on a new key appends the key. -/
theorem keys_call_of_new
    {call : Call}
    (new : call.key ∉ buckets.rows.map Bucket.key)
    (few : buckets.rows.length < 10000) :
    (limits.call buckets call).1.rows.map Bucket.key =
      buckets.rows.map Bucket.key ++ [call.key] := by
  have appended : ∀ hits, (buckets.put ⟨call.key, hits⟩).rows =
      buckets.rows ++ [⟨call.key, hits⟩] :=
    fun hits => putRow_of_new new
  have small : ¬ 10000 < (buckets.put ⟨call.key, []⟩).rows.length := by
    rw [appended, List.length_append, List.length_singleton]
    omega
  rw [call_eq, if_neg small]
  split
  · rw [appended, List.map_append, List.map_singleton]
  · rw [appended, List.map_append, List.map_singleton]

/-- Few calls on new keys append the keys. -/
theorem keys_after_of_new
    {calls : List Call}
    (new : (buckets.rows.map Bucket.key ++ calls.map Call.key).Nodup)
    (few : buckets.rows.length + calls.length ≤ 10000) :
    (after limits.call buckets calls).rows.map Bucket.key =
      buckets.rows.map Bucket.key ++ calls.map Call.key := by
  induction calls generalizing buckets with
  | nil => exact (List.append_nil _).symm
  | cons call calls inductionHypothesis =>
      rw [List.length_cons] at few
      have fresh : call.key ∉ buckets.rows.map Bucket.key := by
        intro present
        exact (List.nodup_append.mp new).2.2 _ present _
          List.mem_cons_self rfl
      have grows := @length_call_le limits buckets call
      have keys := @keys_call_of_new limits _ _ fresh (by omega)
      have regrouped : buckets.rows.map Bucket.key ++
          (call :: calls).map Call.key =
          (limits.call buckets call).1.rows.map Bucket.key ++
            calls.map Call.key := by
        rw [keys, List.append_assoc]
        rfl
      rw [regrouped] at new ⊢
      rw [after_cons]
      exact inductionHypothesis new (by omega)

/-! ## A flood of other keys -/

/-- One address that asked for a password reset, and visitors that are watched
for a minute only. -/
def floodedLimits : Limits where
  max _ := 1
  windowMs key := if key = "pwreset:ada@b.c" then 900000 else 60000

/-- The key of a visitor. -/
def visitor (number : Nat) : String :=
  String.ofList (List.replicate number 'v')

/-- A reset is asked for, and then ten thousand visitors come, a minute later,
the last of which has the map swept. -/
def flood (visitors : Nat) : List Call :=
  ⟨"pwreset:ada@b.c", 0⟩ ::
    (List.range visitors).map fun number => ⟨visitor number, 60000⟩

/-- The reset is asked for again. -/
def floodedCalls : List Call :=
  flood 10000 ++ [⟨"pwreset:ada@b.c", 60000⟩]

theorem visitor_injective : Function.Injective visitor := by
  intro left right same
  have lengths := congrArg (fun key => key.toList.length) same
  simpa [visitor] using lengths

theorem visitor_ne (number : Nat) : visitor number ≠ "pwreset:ada@b.c" := by
  intro same
  have listed : 'p' ∈ (visitor number).toList := by
    rw [same]
    decide
  rw [visitor, String.toList_ofList] at listed
  exact absurd (List.eq_of_mem_replicate listed) (by decide)

/-- Keys that are all used with one window are always spared. -/
theorem each_spares_of_one_window
    (width : Int)
    (same : ∀ key, limits.windowMs key = width)
    (calls : List Call) :
    EachStep (fun buckets call => (limits.call buckets call).1)
      limits.SparesAll .empty calls := by
  refine .of_forall fun buckets call _ key _ _ live => ?_
  obtain ⟨t, recent⟩ := List.exists_mem_of_ne_nil _ live
  have inside := List.mem_filter.mp recent
  refine ⟨t, inside.1, ?_⟩
  rw [same call.key, ← same key]
  exact of_decide_eq_true inside.2

theorem timely_flood (visitors : Nat) : Timely (flood visitors) := by
  refine List.pairwise_cons.mpr ⟨?_, ?_⟩
  · intro call present
    obtain ⟨number, -, rfl⟩ := List.mem_map.mp present
    exact (by decide : (0 : Int) ≤ 60000)
  · exact List.pairwise_map.mpr (List.pairwise_of_forall fun _ _ => le_rfl)

theorem nodup_flood (visitors : Nat) :
    ((flood visitors).map Call.key).Nodup := by
  rw [flood, List.map_cons, List.map_map]
  refine List.nodup_cons.mpr ⟨?_, ?_⟩
  · intro present
    obtain ⟨number, -, same⟩ := List.mem_map.mp present
    exact visitor_ne number same
  · exact List.nodup_range.map visitor_injective

theorem length_flood (visitors : Nat) :
    (flood visitors).length = visitors + 1 := by
  simp [flood]

/-- What is stored of the reset during a flood. -/
theorem hitsOf_reset
    {visitors : Nat}
    (few : visitors + 1 ≤ 10000) :
    Buckets.hitsOf (after floodedLimits.call .empty (flood visitors))
      "pwreset:ada@b.c" = [0] := by
  rw [flood, after_cons, hitsOf_after_others]
  · rfl
  · intro call present
    obtain ⟨number, -, rfl⟩ := List.mem_map.mp present
    exact visitor_ne number
  · rw [List.length_map, List.length_range, Nat.add_comm]
    exact few

/-- A visitor that has not come yet is not known. -/
theorem visitor_new
    {visitors : Nat}
    (few : visitors + 1 ≤ 10000) :
    visitor visitors ∉
      (after floodedLimits.call .empty (flood visitors)).rows.map
        Bucket.key := by
  have keys := @keys_after_of_new floodedLimits .empty (flood visitors)
    (nodup_flood visitors) (by rw [length_flood]; exact (Nat.zero_add _).trans_le few)
  rw [keys]
  intro present
  rcases List.mem_cons.mp present with reset | earlier
  · exact visitor_ne visitors reset
  · rw [List.map_map] at earlier
    obtain ⟨number, listed, same⟩ := List.mem_map.mp earlier
    exact absurd (List.mem_range.mp listed)
      (visitor_injective same ▸ lt_irrefl visitors)

/-- The last visitor of a flood has the reset forgotten. -/
theorem flood_swept
    {visitors : Nat}
    (many : visitors + 1 = 10000) :
    ¬ floodedLimits.Spares "pwreset:ada@b.c"
      (after floodedLimits.call .empty (flood visitors))
      ⟨visitor visitors, 60000⟩ := by
  intro spares
  have new := visitor_new many.le
  have stored := hitsOf_reset many.le
  have keys := @keys_after_of_new floodedLimits .empty (flood visitors)
    (nodup_flood visitors) (by rw [length_flood, many]; exact le_rfl)
  have sweeps : floodedLimits.Sweeps
      (after floodedLimits.call .empty (flood visitors))
      ⟨visitor visitors, 60000⟩ := by
    constructor
    · have unknown : Buckets.hitsOf
          (after floodedLimits.call .empty (flood visitors))
          (visitor visitors) = [] := hitsOf_of_new new
      rw [Limits.live, unknown]
      exact Nat.one_pos
    · have size := congrArg List.length keys
      rw [List.length_map, List.length_append, List.length_map, List.length_map,
        length_flood, many] at size
      have appended : putRow Bucket.key ⟨visitor visitors, []⟩
          (after floodedLimits.call .empty (flood visitors)).rows =
          _ ++ [⟨visitor visitors, []⟩] := putRow_of_new new
      have grown := congrArg List.length appended
      rw [List.length_append, size] at grown
      exact grown.ge
  have live : floodedLimits.live
      (after floodedLimits.call .empty (flood visitors)) "pwreset:ada@b.c"
      60000 ≠ [] := by
    rw [Limits.live, stored]
    decide
  obtain ⟨time, present, recent⟩ := spares sweeps (visitor_ne visitors) live
  rw [stored, List.mem_singleton] at present
  have width : floodedLimits.windowMs (visitor visitors) = 60000 :=
    if_neg (visitor_ne visitors)
  rw [present] at recent
  simp only [width] at recent
  exact absurd recent (by decide)

theorem flood_succ (visitors : Nat) :
    flood (visitors + 1) = flood visitors ++ [⟨visitor visitors, 60000⟩] := by
  rw [flood, List.range_succ, List.map_append]
  rfl

/-- The flooded key is accepted once more than its maximum. -/
theorem flood_exceeds
    {visitors : Nat}
    (many : visitors + 1 = 10000) :
    ¬ floodedLimits.Independent "pwreset:ada@b.c"
      (flood (visitors + 1) ++ [⟨"pwreset:ada@b.c", 60000⟩]) := by
  intro independent
  have few : (Table.empty : Buckets).rows.length + (flood visitors).length ≤
      10000 := by
    rw [length_flood, many]
    exact le_rfl
  have spared := (each_spares_of_few few).mono fun _ _ (sparesAll :
    floodedLimits.SparesAll _ _) => sparesAll "pwreset:ada@b.c"
  have timely := flood_succ visitors ▸ timely_flood (visitors + 1)
  have exceeds := exceeds_of_swept timely spared (flood_swept many)
  rw [← flood_succ] at exceeds
  exact absurd exceeds (not_lt.mpr (independent.2 60000))

theorem timely_flood_append (visitors : Nat) :
    Timely (flood visitors ++ [⟨"pwreset:ada@b.c", 60000⟩]) := by
  refine List.pairwise_append.mpr
    ⟨timely_flood visitors, List.pairwise_singleton _ _, ?_⟩
  intro call present last listed
  rw [List.mem_singleton.mp listed]
  rcases List.mem_cons.mp present with reset | visiting
  · rw [reset]
    exact (by decide : (0 : Int) ≤ 60000)
  · obtain ⟨number, -, rfl⟩ := List.mem_map.mp visiting
    exact le_rfl

/-- A reset that is limited to one in fifteen minutes is accepted again after
one minute, although the visitors have keys of their own. -/
theorem floodedCalls_not_independent :
    Timely floodedCalls ∧
      ¬ floodedLimits.Independent "pwreset:ada@b.c" floodedCalls :=
  ⟨timely_flood_append 10000, @flood_exceeds 9999 rfl⟩

/-- With one visitor the reset is answered as if it were alone. -/
theorem visited_independent :
    floodedLimits.IndependentFrom
      [⟨"pwreset:ada@b.c", 0⟩, ⟨"v", 60000⟩, ⟨"pwreset:ada@b.c", 60000⟩] :=
  (independent_iff_no_live_hit_swept floodedLimits
      [⟨"pwreset:ada@b.c", 0⟩, ⟨"v", 60000⟩, ⟨"pwreset:ada@b.c", 60000⟩]
      (by simp [Timely])).mp
    (each_spares_of_few (by decide)) _ List.prefix_rfl

end Template
end EvoPlatform
