import EvoPlatform.Foundation.SlidingWindow
import EvoPlatform.Sdk.Refresh

/-!
# A flood of forged key ids

Calls for keys that overlap.  A call decides whether to fetch when it is made,
and goes on when its fetch is over; in between, others are made and others go
on.  The timers of the cache only know of refreshes that came through.
-/

namespace EvoPlatform
namespace Sdk

/-- How far a request for the key set has come. -/
inductive Outcome (τ : Type)
  | underWay
  | failed
  /-- The keys were stored at an instant. -/
  | stored (fetched : τ)

/-- A request for the key set, with the id it is made for. -/
structure KeyRequest (τ : Type) where
  kid : String
  startedAt : τ
  outcome : Outcome τ

/-- A cache as its callers see it. -/
structure KeyCache (γ τ : Type) where
  new : γ
  /-- Is there a key for the id? -/
  holds : γ → String → Bool
  /-- Does a call fetch? -/
  fetches : γ → String → τ → Bool
  /-- What a call does from its answer on, and whether its refresh came
  through. -/
  goOn : γ → String → JwksAnswer → τ → τ → γ × Bool
  /-- The ids of the keys that are read from an answer. -/
  ids : JwksAnswer → List String
  /-- Are the keys fresh and is the cache quiet? -/
  atRest : γ → τ → Bool

/-- What happens to a cache. -/
inductive FloodEvent (τ : Type)
  | call (kid : String) (now : τ)
  /-- The fetch of a request is over, and its call goes on. -/
  | returned (index : Nat) (answer : JwksAnswer) (fetched missed : τ)

/-- A cache, the requests it has made, and the last reading of the clock. -/
structure Flood (γ τ : Type) where
  cache : γ
  requests : List (KeyRequest τ)
  clock : τ

/-- When the requests were started. -/
def Flood.starts {γ τ : Type} (state : Flood γ τ) : List τ :=
  state.requests.map KeyRequest.startedAt

/-- When a request comes back, nothing has been started. -/
theorem starts_set
    {γ τ : Type}
    {state : Flood γ τ}
    {index : Nat}
    {kid : String}
    {startedAt : τ}
    {outcome other : Outcome τ}
    (isThere : state.requests[index]? = some ⟨kid, startedAt, other⟩) :
    (state.requests.set index ⟨kid, startedAt, outcome⟩).map
      KeyRequest.startedAt = state.starts := by
  have same : state.starts[index]? = some startedAt := by
    simp [Flood.starts, isThere]
  obtain ⟨bound, isStart⟩ := List.getElem?_eq_some_iff.mp same
  rw [List.map_set]
  change state.starts.set index startedAt = state.starts
  rw [← isStart, List.set_getElem_self]

section Floods

variable {γ τ : Type} [LinearOrder τ] {client : KeyCache γ τ}
  {state : Flood γ τ}

/-- The kids that are asked for are none that an answer holds. -/
def KeyCache.Forged (client : KeyCache γ τ) (published : String → Prop) :
    FloodEvent τ → Prop
  | .call kid _ => ¬ published kid
  | .returned _ answer _ _ => ∀ kid ∈ client.ids answer, published kid

/-- One event.  The clock does not go back. -/
def KeyCache.step (client : KeyCache γ τ) (state : Flood γ τ) :
    FloodEvent τ → Option (Flood γ τ)
  | .call kid now =>
      if state.clock ≤ now then
        some
          { state with
            clock := now
            requests :=
              if client.fetches state.cache kid now then
                state.requests ++ [⟨kid, now, .underWay⟩]
              else state.requests }
      else none
  | .returned index answer fetched missed =>
      if state.clock ≤ fetched ∧ fetched ≤ missed then
        match state.requests[index]? with
        | some ⟨kid, startedAt, .underWay⟩ =>
            let after := client.goOn state.cache kid answer fetched missed
            let outcome := if after.2 then Outcome.stored fetched else .failed
            some
              { cache := after.1
                clock := missed
                requests := state.requests.set index ⟨kid, startedAt, outcome⟩ }
        | _ => none
      else none

/-- What an event does. -/
theorem KeyCache.step_cases
    {event : FloodEvent τ}
    {next : Flood γ τ}
    (stepped : client.step state event = some next) :
    (∃ kid now, event = .call kid now ∧ state.clock ≤ now ∧
      next = ⟨state.cache,
        if client.fetches state.cache kid now then
          state.requests ++ [⟨kid, now, .underWay⟩]
        else state.requests, now⟩) ∨
    (∃ index answer fetched missed kid startedAt,
      event = .returned index answer fetched missed ∧
      (state.clock ≤ fetched ∧ fetched ≤ missed) ∧
      state.requests[index]? = some ⟨kid, startedAt, .underWay⟩ ∧
      next = ⟨(client.goOn state.cache kid answer fetched missed).1,
        state.requests.set index ⟨kid, startedAt,
          if (client.goOn state.cache kid answer fetched missed).2 then
            .stored fetched
          else .failed⟩, missed⟩) := by
  cases event with
  | call kid now =>
      simp only [step, Option.ite_none_right_eq_some, Option.some.injEq]
        at stepped
      exact .inl ⟨kid, now, rfl, stepped.1, stepped.2.symm⟩
  | returned index answer fetched missed =>
      simp only [step, Option.ite_none_right_eq_some] at stepped
      obtain ⟨inOrder, stepped⟩ := stepped
      split at stepped
      · rename_i kid startedAt isUnderWay
        exact .inr ⟨index, answer, fetched, missed, kid, startedAt, rfl,
          inOrder, isUnderWay, (Option.some.inj stepped).symm⟩
      · contradiction

variable [AddCommGroup τ]

/-- A request that has left the cache without keys that are still fresh. -/
def KeyRequest.unserved (ttl now : τ) (request : KeyRequest τ) : Bool :=
  match request.outcome with
  | .underWay => true
  | .failed => true
  | .stored fetched => ttl < now - fetched

/-- A call finds the cache at rest, or at most one recent request that is under
way, has failed, or the keys of which have expired. -/
def KeyCache.Spread (client : KeyCache γ τ) (ttl interval : τ)
    (state : Flood γ τ) : FloodEvent τ → Prop
  | .call _ now =>
      client.atRest state.cache now = true ∨
        recent interval now ((state.requests.filter
          (KeyRequest.unserved ttl now)).map KeyRequest.startedAt) ≤ 1
  | .returned .. => True

/-! ## The timers -/

/-- How the timers of a cache follow its refreshes, for ids that no answer
holds. -/
structure KeyCache.Lawful (client : KeyCache γ τ) (ttl interval : τ) :
    Prop where
  holds_new : ∀ kid, client.holds client.new kid = false
  fetches_unknown : ∀ cache kid now, client.holds cache kid = false →
    client.fetches cache kid now = !client.atRest cache now
  holds_goOn : ∀ cache kid answer fetched missed other,
    client.holds (client.goOn cache kid answer fetched missed).1 other = true →
      other ∈ client.ids answer ∨ client.holds cache other = true
  atRest_failed : ∀ cache kid answer fetched missed,
    (client.goOn cache kid answer fetched missed).2 = false →
      ∀ now, client.atRest (client.goOn cache kid answer fetched missed).1 now =
        client.atRest cache now
  atRest_stored : ∀ cache kid answer fetched missed,
    (client.goOn cache kid answer fetched missed).2 = true →
      kid ∉ client.ids answer →
        ∀ now, client.atRest (client.goOn cache kid answer fetched missed).1
            now = true ↔
          now - fetched ≤ ttl ∧ now - missed ≤ interval

/-- What holds of a cache that has only been asked for forged ids. -/
structure KeyCache.Flooded (client : KeyCache γ τ) (published : String → Prop)
    (ttl interval : τ) (state : Flood γ τ) : Prop where
  bounded : ∀ start, spanned interval start state.starts ≤ 2
  known : ∀ kid, client.holds state.cache kid = true → published kid
  forged : ∀ request ∈ state.requests, ¬ published request.kid
  past : ∀ request ∈ state.requests, request.startedAt ≤ state.clock
  /-- A recent request that came through has set both timers. -/
  rests : ∀ request ∈ state.requests, ∀ fetched,
    request.outcome = .stored fetched → fetched ≤ state.clock ∧
      ∀ now, now - fetched ≤ ttl → now - request.startedAt ≤ interval →
        client.atRest state.cache now = true

variable {published : String → Prop} {ttl interval : τ}

theorem KeyCache.Lawful.flooded_new
    (lawful : client.Lawful ttl interval)
    (clock : τ) :
    client.Flooded published ttl interval ⟨client.new, [], clock⟩ := by
  refine ⟨fun _ => Nat.zero_le 2, ?_, nofun, nofun, nofun⟩
  intro kid holds
  rw [lawful.holds_new kid] at holds
  contradiction

/-- A forged call fetches unless the cache is at rest. -/
theorem KeyCache.Lawful.fetches_forged
    (lawful : client.Lawful ttl interval)
    (flooded : client.Flooded published ttl interval state)
    {kid : String}
    (forged : ¬ published kid)
    (now : τ) :
    client.fetches state.cache kid now = !client.atRest state.cache now := by
  apply lawful.fetches_unknown
  rw [← Bool.not_eq_true]
  exact mt (flooded.known kid) forged

/-- A call that keeps the bound keeps the rest. -/
theorem KeyCache.Flooded.call
    (flooded : client.Flooded published ttl interval state)
    {kid : String}
    (forged : ¬ published kid)
    {now : τ}
    (notEarlier : state.clock ≤ now)
    (bounded : ∀ start, spanned interval start
      ((if client.fetches state.cache kid now
        then state.requests ++ [⟨kid, now, .underWay⟩]
        else state.requests).map KeyRequest.startedAt) ≤ 2) :
    client.Flooded published ttl interval
      ⟨state.cache,
        if client.fetches state.cache kid now then
          state.requests ++ [⟨kid, now, .underWay⟩]
        else state.requests, now⟩ := by
  have isThere : ∀ request ∈ (if client.fetches state.cache kid now then
      state.requests ++ [⟨kid, now, .underWay⟩] else state.requests),
        request ∈ state.requests ∨ request = ⟨kid, now, .underWay⟩ := by
    intro request present
    split at present
    · simpa using present
    · exact .inl present
  refine ⟨bounded, flooded.known, ?_, ?_, ?_⟩
  · intro request present
    rcases isThere request present with earlier | rfl
    · exact flooded.forged request earlier
    · exact forged
  · intro request present
    rcases isThere request present with earlier | rfl
    · exact (flooded.past request earlier).trans notEarlier
    · exact le_rfl
  · intro request present fetched came
    rcases isThere request present with earlier | rfl
    · obtain ⟨before, rests⟩ := flooded.rests request earlier fetched came
      exact ⟨before.trans notEarlier, rests⟩
    · contradiction

variable [IsOrderedAddMonoid τ]

/-- Where the cache is not at rest, every recent request has left it so. -/
theorem KeyCache.Flooded.recent_unserved
    (flooded : client.Flooded published ttl interval state)
    {now : τ}
    (restless : client.atRest state.cache now = false) :
    recent interval now ((state.requests.filter
      (KeyRequest.unserved ttl now)).map KeyRequest.startedAt) =
        recent interval now state.starts := by
  rw [recent, recent, Flood.starts, List.countP_map, List.countP_map,
    List.countP_filter]
  refine List.countP_congr fun request present => ?_
  simp only [Function.comp_apply, Bool.and_eq_true, decide_eq_true_eq,
    and_iff_left_iff_imp]
  intro isRecent
  cases came : request.outcome with
  | underWay => simp [KeyRequest.unserved, came]
  | failed => simp [KeyRequest.unserved, came]
  | stored fetched =>
      simp only [KeyRequest.unserved, came, decide_eq_true_eq]
      by_contra fresh
      have atRest := (flooded.rests request present fetched came).2 now
        (not_lt.mp fresh) (sub_le_comm.mp isRecent)
      rw [restless] at atRest
      contradiction

/-- A call keeps the requests within two an interval if and only if it finds
few that have left the cache restless. -/
theorem KeyCache.Lawful.bounded_call_iff
    (lawful : client.Lawful ttl interval)
    (flooded : client.Flooded published ttl interval state)
    {kid : String}
    (forged : ¬ published kid)
    {now : τ}
    (notEarlier : state.clock ≤ now) :
    (∀ start, spanned interval start ((if client.fetches state.cache kid now
        then state.requests ++ [⟨kid, now, .underWay⟩]
        else state.requests).map KeyRequest.startedAt) ≤ 2) ↔
      client.Spread ttl interval state (.call kid now) := by
  rw [lawful.fetches_forged flooded forged, Spread]
  cases atRest : client.atRest state.cache now with
  | true =>
      simp only [Bool.not_true, Bool.false_eq_true, if_false, true_or, iff_true]
      exact flooded.bounded
  | false =>
      have past : ∀ start ∈ state.starts, start ≤ now := by
        intro start isStart
        obtain ⟨request, present, rfl⟩ := List.mem_map.mp isStart
        exact (flooded.past request present).trans notEarlier
      simp only [Bool.not_false, if_true, List.map_append, List.map_singleton,
        Bool.false_eq_true, false_or, flooded.recent_unserved atRest]
      exact spanned_snoc_iff past flooded.bounded

/-- A request that comes back keeps everything. -/
theorem KeyCache.Lawful.flooded_returned
    (lawful : client.Lawful ttl interval)
    (flooded : client.Flooded published ttl interval state)
    {index : Nat}
    {kid : String}
    {startedAt : τ}
    (isUnderWay : state.requests[index]? = some ⟨kid, startedAt, .underWay⟩)
    {answer : JwksAnswer}
    (isPublished : ∀ kid ∈ client.ids answer, published kid)
    {fetched missed : τ}
    (notEarlier : state.clock ≤ fetched)
    (inOrder : fetched ≤ missed) :
    client.Flooded published ttl interval
      ⟨(client.goOn state.cache kid answer fetched missed).1,
        state.requests.set index ⟨kid, startedAt,
          if (client.goOn state.cache kid answer fetched missed).2 then
            .stored fetched
          else .failed⟩, missed⟩ := by
  have present := List.mem_of_getElem? isUnderWay
  have forged := flooded.forged _ present
  have started := flooded.past _ present
  have unknown : kid ∉ client.ids answer :=
    fun isId => forged (isPublished kid isId)
  have goesOn : state.clock ≤ missed := notEarlier.trans inOrder
  refine ⟨?_, ?_, ?_, ?_, ?_⟩
  · intro start
    change spanned interval start (List.map _ (List.set ..)) ≤ 2
    rw [starts_set isUnderWay]
    exact flooded.bounded start
  · intro other holds
    rcases lawful.holds_goOn _ _ _ _ _ _ holds with isId | before
    · exact isPublished other isId
    · exact flooded.known other before
  · intro request isThere
    rcases List.mem_or_eq_of_mem_set isThere with earlier | rfl
    · exact flooded.forged request earlier
    · exact forged
  · intro request isThere
    rcases List.mem_or_eq_of_mem_set isThere with earlier | rfl
    · exact (flooded.past request earlier).trans goesOn
    · exact started.trans goesOn
  · intro request isThere instant came
    cases through : (client.goOn state.cache kid answer fetched missed).2 with
    | false =>
        rw [through] at isThere
        rcases List.mem_or_eq_of_mem_set isThere with earlier | rfl
        · obtain ⟨before, rests⟩ := flooded.rests request earlier instant came
          refine ⟨before.trans goesOn, fun now => ?_⟩
          rw [lawful.atRest_failed _ _ _ _ _ through]
          exact rests now
        · contradiction
    | true =>
        have rests := lawful.atRest_stored _ _ _ _ _ through unknown
        have bounds : instant ≤ fetched ∧ request.startedAt ≤ missed := by
          rw [through] at isThere
          rcases List.mem_or_eq_of_mem_set isThere with earlier | rfl
          · exact ⟨(flooded.rests request earlier instant came).1.trans
              notEarlier, (flooded.past request earlier).trans goesOn⟩
          · cases came
            exact ⟨le_rfl, started.trans goesOn⟩
        refine ⟨bounds.1.trans inOrder, fun now fresh isRecent => ?_⟩
        refine (rests now).mpr ⟨?_, ?_⟩
        · exact (sub_le_sub_left bounds.1 now).trans fresh
        · exact (sub_le_sub_left bounds.2 now).trans isRecent

/-! ## All floods -/

variable (client published) in
/-- A new cache is asked for forged ids. -/
def KeyCache.FloodRun (clock : τ) (events : List (FloodEvent τ))
    (final : Flood γ τ) : Prop :=
  Run client.step (fun _ event => client.Forged published event)
    ⟨client.new, [], clock⟩ events final

variable (client published ttl interval) in
/-- Each call finds the cache at rest, or few requests that have left it
restless. -/
def KeyCache.SpreadRun (clock : τ) (events : List (FloodEvent τ))
    (final : Flood γ τ) : Prop :=
  Run client.step (fun state event => client.Forged published event ∧
      client.Spread ttl interval state event)
    ⟨client.new, [], clock⟩ events final

variable (client published interval) in
/-- No interval ever sees more than two requests. -/
def KeyCache.BoundedThroughout (clock : τ) (events : List (FloodEvent τ)) :
    Prop :=
  ∀ handled reached, handled <+: events →
    client.FloodRun published clock handled reached →
      ∀ start, spanned interval start reached.starts ≤ 2

/-- The requests of a flood keep within two an interval in every state if and
only if the calls are spread. -/
theorem KeyCache.Lawful.bounded_iff
    (lawful : client.Lawful ttl interval)
    {clock : τ}
    {events : List (FloodEvent τ)}
    {final : Flood γ τ}
    (run : client.FloodRun published clock events final) :
    client.SpreadRun published ttl interval clock events final ↔
      client.BoundedThroughout published interval clock events := by
  refine Run.meets_iff_throughout
    (fun _ (flooded : client.Flooded published ttl interval _) =>
      flooded.bounded) ?_ ?_ run (lawful.flooded_new clock)
  · intro state event next flooded forged spread stepped
    rcases client.step_cases stepped with
      ⟨kid, now, rfl, notEarlier, rfl⟩ |
      ⟨index, answer, fetched, missed, kid, startedAt, rfl, ⟨before, inOrder⟩,
        isUnderWay, rfl⟩
    · exact flooded.call forged notEarlier
        ((lawful.bounded_call_iff flooded forged notEarlier).mpr spread)
    · exact lawful.flooded_returned flooded isUnderWay forged before inOrder
  · intro state event next flooded forged stepped bounded
    rcases client.step_cases stepped with
      ⟨kid, now, rfl, notEarlier, rfl⟩ |
      ⟨index, answer, fetched, missed, kid, startedAt, rfl, -, -, -⟩
    · exact (lawful.bounded_call_iff flooded forged notEarlier).mp bounded
    · trivial

end Floods

/-! ## The two SDKs -/

/-- The texts that are the ids of the keys that are read from an answer, up to
where it breaks off. -/
def idsRead {α : Type} (read : JsonValue → ReadKey α)
    (items : JsonValue → Option (List JsonValue)) : JwksAnswer → List String
  | .response _ (some body) =>
      (readUpTo read ((items body).getD [])).filterMap fun entry =>
        entry.1.text?
  | _ => []

/-- An id under which a key is found after an answer is one of its ids. -/
theorem mem_idsRead
    {α : Type}
    {read : JsonValue → ReadKey α}
    {items : JsonValue → Option (List JsonValue)}
    (status : Nat)
    {body : JsonValue}
    {kid : String}
    (holds : ((goThrough read (items body)).1.get kid).isSome = true) :
    kid ∈ idsRead read items (.response status (some body)) := by
  revert holds
  simp only [idsRead]
  cases items body with
  | none => exact fun holds => nomatch holds
  | some list =>
      intro holds
      rw [goThrough, KeyMap.get, under_refill_empty, Option.isSome_iff_exists]
        at holds
      obtain ⟨key, isKey⟩ := holds
      obtain ⟨first, last, split, -⟩ := List.lookup_eq_some_iff.mp isKey
      have present : (.string kid, key) ∈ (readUpTo read list).reverse := by
        simp [split]
      exact List.mem_filterMap.mpr
        ⟨(.string kid, key), List.mem_reverse.mp present, rfl⟩

section Clients

variable {τ κ : Type} [AddCommGroup τ]

/-- A miss after a refresh is noted, and nothing else changes. -/
theorem NodeCache.answer_missed
    (env : NodeEnv τ)
    {pems : KeyMap String}
    {kid : String}
    (missing : ∀ pem, pems.get kid ≠ some pem)
    (fetchedAt lastMissAt missed : τ) :
    ((⟨pems, fetchedAt, lastMissAt⟩ : NodeCache τ).answer env kid true
      missed).1 = ⟨pems, fetchedAt, env.epoch + missed⟩ := by
  simp [answer, Option.eq_none_iff_forall_ne_some.mpr missing]

theorem NodeCache.pems_answer (cache : NodeCache τ) (env : NodeEnv τ)
    (kid : String) (refreshed : Bool) (missed : τ) :
    (cache.answer env kid refreshed missed).1.pems = cache.pems := by
  unfold answer
  split
  · rfl
  · cases refreshed <;> rfl

/-- A miss after a refresh is noted, and nothing else changes. -/
theorem PythonCache.answer_missed
    (env : PythonEnv κ τ)
    {keys : KeyMap κ}
    {kid : String}
    (missing : ∀ key, keys.get kid ≠ some key)
    (fetchedAt lastMissAt : Option τ)
    (missed : τ) :
    ((⟨keys, fetchedAt, lastMissAt⟩ : PythonCache κ τ).answer env kid true
      missed).1 = ⟨keys, fetchedAt, some (env.epoch + missed)⟩ := by
  simp [answer, Option.eq_none_iff_forall_ne_some.mpr missing]

theorem PythonCache.keys_answer (cache : PythonCache κ τ)
    (env : PythonEnv κ τ) (kid : String) (refreshed : Bool)
    (missed : τ) :
    (cache.answer env kid refreshed missed).1.keys = cache.keys := by
  unfold answer
  split
  · rfl
  · cases refreshed <;> rfl

variable [LinearOrder τ]

/-- The Node cache: `getPem` up to `refresh`, and `getPem` from there on. -/
def nodeClient (env : NodeEnv τ) : KeyCache (NodeCache τ) τ where
  new := .new
  holds cache kid := (cache.pems.get kid).isSome
  fetches := NodeCache.fetches env
  goOn cache kid answer fetched missed :=
    match cache.refresh env answer fetched with
    | (after, .error _) => (after, false)
    | (after, .ok ()) => ((after.answer env kid true missed).1, true)
  ids := idsRead (nodeRead env.createPublicKey) nodeItems
  atRest cache now :=
    env.epoch + now - cache.fetchedAt ≤ env.ttlMs &&
      env.epoch + now - cache.lastMissAt ≤ env.minRefreshMs

/-- The Python cache: `get_key` up to `refresh`, and `get_key` from there on. -/
def pythonClient (env : PythonEnv κ τ) :
    KeyCache (PythonCache κ τ) τ where
  new := .new
  holds cache kid := (cache.keys.get kid).isSome
  fetches := PythonCache.fetches env
  goOn cache kid answer fetched missed :=
    match cache.refresh env answer fetched with
    | (after, .error _) => (after, false)
    | (after, .ok ()) => ((after.answer env kid true missed).1, true)
  ids := idsRead (pythonRead env.fromJwk) pythonItems
  atRest cache now :=
    cache.fetchedAt.any (fun fetchedAt =>
      env.epoch + now - fetchedAt ≤ env.ttl) &&
    cache.lastMissAt.any fun lastMissAt =>
      env.epoch + now - lastMissAt ≤ env.minRefresh

theorem nodeClient_lawful (env : NodeEnv τ) :
    (nodeClient env).Lawful env.ttlMs env.minRefreshMs := by
  refine ⟨fun _ => rfl, ?_, ?_, ?_, ?_⟩
  · intro cache kid now unknown
    have none : (cache.pems.get kid).isNone = true := by
      rw [← Option.not_isSome, Bool.not_eq_true']
      exact unknown
    simp only [nodeClient, NodeCache.fetches, none, Bool.true_and,
      Bool.not_and, ← decide_not, not_le]
  · intro cache kid answer fetched missed other holds
    rcases cache.refresh_cases env fetched answer with
      ⟨error, fails⟩ | ⟨status, body, rfl, ⟨-, stores⟩ | ⟨-, breaks⟩⟩
    · simp only [nodeClient, fails] at holds
      exact .inr holds
    · simp only [nodeClient, stores, NodeCache.pems_answer] at holds
      exact .inl (mem_idsRead status holds)
    · simp only [nodeClient, breaks] at holds
      exact .inl (mem_idsRead status holds)
  · intro cache kid answer fetched missed failed now
    rcases cache.refresh_cases env fetched answer with
      ⟨error, fails⟩ | ⟨status, body, rfl, ⟨-, stores⟩ | ⟨-, breaks⟩⟩
    · simp only [nodeClient, fails]
    · simp only [nodeClient, stores] at failed
      contradiction
    · simp only [nodeClient, breaks]
  · intro cache kid answer fetched missed through unknown now
    rcases cache.refresh_cases env fetched answer with
      ⟨error, fails⟩ | ⟨status, body, rfl, ⟨-, stores⟩ | ⟨-, breaks⟩⟩
    · simp only [nodeClient, fails] at through
      contradiction
    · have missing : ∀ pem, (goThrough (nodeRead env.createPublicKey)
          (nodeItems body)).1.get kid ≠ some pem := by
        intro pem found
        exact unknown
          (mem_idsRead status (Option.isSome_of_eq_some found))
      simp only [nodeClient, stores, NodeCache.answer_missed env missing,
        add_sub_add_left_eq_sub, Bool.and_eq_true, decide_eq_true_eq]
    · simp only [nodeClient, breaks] at through
      contradiction

theorem pythonClient_lawful (env : PythonEnv κ τ) :
    (pythonClient env).Lawful env.ttl env.minRefresh := by
  refine ⟨fun _ => rfl, ?_, ?_, ?_, ?_⟩
  · intro cache kid now unknown
    have none : (cache.keys.get kid).isNone = true := by
      rw [← Option.not_isSome, Bool.not_eq_true']
      exact unknown
    have stale : (cache.fetchedAt.all fun fetchedAt =>
        env.ttl < env.epoch + now - fetchedAt) =
          !(cache.fetchedAt.any fun fetchedAt =>
            env.epoch + now - fetchedAt ≤ env.ttl) := by
      cases cache.fetchedAt with
      | none => rfl
      | some fetchedAt => simp [← not_le]
    simp only [pythonClient, PythonCache.fetches, none, stale, Bool.true_and,
      Bool.not_and]
  · intro cache kid answer fetched missed other holds
    rcases cache.refresh_cases env fetched answer with
      ⟨error, fails⟩ | ⟨status, body, rfl, ⟨-, stores⟩ | ⟨-, breaks⟩⟩
    · simp only [pythonClient, fails] at holds
      exact .inr holds
    · simp only [pythonClient, stores, PythonCache.keys_answer] at holds
      exact .inl (mem_idsRead status holds)
    · simp only [pythonClient, breaks] at holds
      exact .inl (mem_idsRead status holds)
  · intro cache kid answer fetched missed failed now
    rcases cache.refresh_cases env fetched answer with
      ⟨error, fails⟩ | ⟨status, body, rfl, ⟨-, stores⟩ | ⟨-, breaks⟩⟩
    · simp only [pythonClient, fails]
    · simp only [pythonClient, stores] at failed
      contradiction
    · simp only [pythonClient, breaks]
  · intro cache kid answer fetched missed through unknown now
    rcases cache.refresh_cases env fetched answer with
      ⟨error, fails⟩ | ⟨status, body, rfl, ⟨-, stores⟩ | ⟨-, breaks⟩⟩
    · simp only [pythonClient, fails] at through
      contradiction
    · have missing : ∀ key, (goThrough (pythonRead env.fromJwk)
          (pythonItems body)).1.get kid ≠ some key := by
        intro key found
        exact unknown
          (mem_idsRead status (Option.isSome_of_eq_some found))
      simp only [pythonClient, stores, PythonCache.answer_missed env missing,
        Option.any_some, add_sub_add_left_eq_sub, Bool.and_eq_true,
        decide_eq_true_eq]
    · simp only [pythonClient, breaks] at through
      contradiction

variable [IsOrderedAddMonoid τ]

/-- For every flood of calls for forged ids, with any overlaps and outcomes: no
interval sees more than two requests if and only if each call finds the cache at
rest, or at most one recent request that is under way, has failed, or the keys
of which have expired. -/
theorem floodedRequests_iff
    (nodeEnv : NodeEnv τ)
    (pythonEnv : PythonEnv κ τ)
    (published : String → Prop)
    (clock : τ)
    (events : List (FloodEvent τ)) :
    (∀ final, (nodeClient nodeEnv).FloodRun published clock events final →
      ((nodeClient nodeEnv).SpreadRun published nodeEnv.ttlMs
          nodeEnv.minRefreshMs clock events final ↔
        (nodeClient nodeEnv).BoundedThroughout published nodeEnv.minRefreshMs
          clock events)) ∧
    (∀ final, (pythonClient pythonEnv).FloodRun published clock events final →
      ((pythonClient pythonEnv).SpreadRun published pythonEnv.ttl
          pythonEnv.minRefresh clock events final ↔
        (pythonClient pythonEnv).BoundedThroughout published
          pythonEnv.minRefresh clock events)) :=
  ⟨fun _ run => (nodeClient_lawful nodeEnv).bounded_iff run,
    fun _ run => (pythonClient_lawful pythonEnv).bounded_iff run⟩

end Clients

/-- The SDKs as they are set up by default, on clocks that read milliseconds. -/
def nodeDefaults : NodeEnv Int :=
  ⟨modulusOf, 1754000000000, 600000, 30000⟩

def pythonDefaults : PythonEnv String Int :=
  ⟨modulusOf, 81000, 600000, 30000⟩

instance {γ τ : Type} (client : KeyCache γ τ) (published : String → Prop)
    [DecidablePred published] (event : FloodEvent τ) :
    Decidable (client.Forged published event) :=
  match event with
  | .call kid _ => inferInstanceAs (Decidable (¬ published kid))
  | .returned _ answer _ _ =>
      inferInstanceAs (Decidable (∀ kid ∈ client.ids answer, published kid))

/-- Events that can happen one after the other are a run. -/
theorem KeyCache.floodRun_exists
    {γ : Type}
    (client : KeyCache γ Int)
    (published : String → Prop)
    [DecidablePred published]
    (events : List (FloodEvent Int))
    (test : Flood γ Int → Bool)
    (executed : (execute client.step
      (fun _ event => decide (client.Forged published event))
      ⟨client.new, [], 0⟩ events).any test = true) :
    ∃ final, client.FloodRun published 0 events final ∧ test final = true :=
  Run.exists_of_execute client.step _ (fun _ _ => of_decide_eq_true) _ events
    test executed

/-- The one id that is published. -/
abbrev IsReal (kid : String) : Prop := kid = "real"

/-- A forged id, the key set without it, and forged ids again. -/
def quietFlood : List (FloodEvent Int) :=
  let keySet := JwksAnswer.keySet [publishedKey "real" "n1"]
  [.call "forged-1" 0, .returned 0 keySet 40 41, .call "forged-2" 50,
    .call "forged-3" 29000]

theorem floodedRequests_quiet :
    (∃ final, (nodeClient nodeDefaults).FloodRun IsReal 0 quietFlood final ∧
      ((nodeClient nodeDefaults).SpreadRun IsReal 600000 30000 0 quietFlood
          final ↔
        (nodeClient nodeDefaults).BoundedThroughout IsReal 30000 0
          quietFlood)) ∧
    ∃ final, (pythonClient pythonDefaults).FloodRun IsReal 0 quietFlood final ∧
      ((pythonClient pythonDefaults).SpreadRun IsReal 600000 30000 0 quietFlood
          final ↔
        (pythonClient pythonDefaults).BoundedThroughout IsReal 30000 0
          quietFlood) := by
  have holds :=
    floodedRequests_iff nodeDefaults pythonDefaults IsReal 0 quietFlood
  obtain ⟨nodeFinal, nodeRun, -⟩ := (nodeClient nodeDefaults).floodRun_exists
    IsReal quietFlood (fun _ => true) (by decide +kernel)
  obtain ⟨pythonFinal, pythonRun, -⟩ :=
    (pythonClient pythonDefaults).floodRun_exists IsReal quietFlood
      (fun _ => true) (by decide +kernel)
  exact ⟨⟨nodeFinal, nodeRun, holds.1 nodeFinal nodeRun⟩,
    ⟨pythonFinal, pythonRun, holds.2 pythonFinal pythonRun⟩⟩

/-- Three calls at once. -/
def callsAtOnce : List (FloodEvent Int) :=
  [.call "forged-1" 0, .call "forged-2" 0, .call "forged-3" 0]

/-- Three calls one after the other while the platform cannot be reached. -/
def callsInVain : List (FloodEvent Int) :=
  [.call "forged-1" 0, .returned 0 (.networkFailure "refused") 10 10,
    .call "forged-2" 20, .returned 1 (.networkFailure "refused") 30 30,
    .call "forged-3" 40]

/-- The flood starts three requests within an interval, with both SDKs. -/
def StartsThree (events : List (FloodEvent Int)) : Prop :=
  (∃ final, (nodeClient nodeDefaults).FloodRun IsReal 0 events final ∧
    spanned 30000 0 final.starts = 3) ∧
  ∃ final, (pythonClient pythonDefaults).FloodRun IsReal 0 events final ∧
    spanned 30000 0 final.starts = 3

/-- Either flood is too much for a new cache. -/
theorem floodedRequests_three :
    StartsThree callsAtOnce ∧ StartsThree callsInVain := by
  have node (events : List (FloodEvent Int)) :=
    (nodeClient nodeDefaults).floodRun_exists IsReal events
      fun final => decide (spanned 30000 0 final.starts = 3)
  have python (events : List (FloodEvent Int)) :=
    (pythonClient pythonDefaults).floodRun_exists IsReal events
      fun final => decide (spanned 30000 0 final.starts = 3)
  simp only [decide_eq_true_eq] at node python
  constructor
  · exact ⟨node _ (by decide +kernel), python _ (by decide +kernel)⟩
  · exact ⟨node _ (by decide +kernel), python _ (by decide +kernel)⟩

end Sdk
end EvoPlatform
