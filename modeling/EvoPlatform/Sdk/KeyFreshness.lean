import EvoPlatform.Sdk.CachesAlike

/-!
# How fresh the keys are

The platform publishes a key set at every instant.  A cache that has missed a key
keeps quiet for an interval, and one that has fetched keeps its keys for their
time to live; so a key that has been published for longer than the interval is
accepted, and one that was withdrawn longer ago than the time to live is not.
-/

namespace EvoPlatform
namespace Sdk

variable {τ : Type}

/-- An id is published when a key carries it. -/
def Publishes (keys : List JsonValue) (kid : String) : Prop :=
  ∃ members, .object members ∈ keys ∧ idText members = some kid

/-! ## Filling the cache -/

/-- A key that the parser takes, as a text that is not empty. -/
def WellFormed (createPublicKey : JsonValue → Option String)
    (item : JsonValue) : Prop :=
  ∃ members, item = .object members ∧
    ∃ pem, createPublicKey item = some pem ∧ pem ≠ ""

/-- When the parser takes every key, the filled map holds what it held and what
the key set publishes. -/
theorem refill_of_wellFormed
    {createPublicKey : JsonValue → Option String}
    (keys : List JsonValue)
    (wellFormed : ∀ item ∈ keys, WellFormed createPublicKey item)
    {pems : KeyMap String}
    (proper : Proper pems) :
    (refill (nodeRead createPublicKey) pems keys).2 = true ∧
      Proper (refill (nodeRead createPublicKey) pems keys).1 ∧
      ∀ kid, ((refill (nodeRead createPublicKey) pems keys).1.get
          kid).isSome = true ↔
        (pems.get kid).isSome = true ∨ Publishes keys kid := by
  induction keys generalizing pems with
  | nil => exact ⟨rfl, proper, fun kid => by simp [refill, Publishes]⟩
  | cons item rest inductionHypothesis =>
      obtain ⟨members, rfl, pem, parsed, text⟩ := wellFormed item (by simp)
      have goesOn : (nodeRead createPublicKey (.object members)).throws =
          false := by
        rw [throws_nodeRead, parsed]
        exact Bool.and_false _
      have keptProper :
          Proper ((nodeRead createPublicKey (.object members)).keep pems) := by
        apply proper.keep
        intro read stored
        rw [parsed] at stored
        exact Option.some.inj stored ▸ text
      obtain ⟨finished, filledProper, holds⟩ := inductionHypothesis
        (fun other present => wellFormed other (by simp [present])) keptProper
      rw [refill_cons, goesOn]
      refine ⟨finished, filledProper, ?_⟩
      intro kid
      have published : Publishes (.object members :: rest) kid ↔
          idText members = some kid ∨ Publishes rest kid := by
        simp [Publishes, or_and_right, exists_or]
      rw [if_neg Bool.false_ne_true, holds kid, ReadKey.isSome_get_keep,
        text?_nodeRead, parsed, published]
      simp only [Option.isSome_some, if_true, Bool.or_eq_true,
        decide_eq_true_eq]
      tauto

section Fresh

variable [AddCommGroup τ] [LinearOrder τ]

/-- A lookup whose fetch succeeds, takes no time, and gets the key set that is
published at that moment. -/
def lookupOf (published : τ → List JsonValue) (call : τ × String) :
    Lookup τ :=
  ⟨call.2, call.1, call.1, call.1, .keySet (published call.1)⟩

variable (env : NodeEnv τ) (published : τ → List JsonValue)

/-- One call of `getPem`. -/
def callStep (cache : NodeCache τ) (call : τ × String) :
    NodeCache τ × Seen :=
  cache.look env (lookupOf published call)

/-- The cache holds what was published at its last fetch, which is not before its
last miss; the instants are those of the platform. -/
structure Mirrors (cache : NodeCache τ) (now : τ) : Prop where
  fetched : ∃ fetch ≤ now, cache.fetchedAt = env.epoch + fetch ∧
    (∀ kid, (cache.pems.get kid).isSome = true ↔
      Publishes (published fetch) kid) ∧
    (cache.lastMissAt = 0 ∨
      ∃ miss ≤ fetch, cache.lastMissAt = env.epoch + miss)
  proper : Proper cache.pems

variable {env published} {cache : NodeCache τ} {now later : τ} {kid : String}

theorem Mirrors.mono
    (mirrors : Mirrors env published cache now)
    (notEarlier : now ≤ later) :
    Mirrors env published cache later := by
  obtain ⟨⟨fetch, before, rest⟩, proper⟩ := mirrors
  exact ⟨⟨fetch, before.trans notEarlier, rest⟩, proper⟩

/-- An answer keeps what the cache holds; a miss is only noted right after a
fetch. -/
theorem Mirrors.answer
    (mirrors : Mirrors env published cache now)
    (refreshed : Bool)
    (justFetched : refreshed = true → cache.fetchedAt = env.epoch + now) :
    Mirrors env published (cache.answer env kid refreshed now).1 now ∧
      ((cache.answer env kid refreshed now).2.isOk = true ↔
        (cache.pems.get kid).isSome = true) := by
  simp only [NodeCache.answer]
  cases held : cache.pems.get kid with
  | some pem =>
      have text := mirrors.proper kid pem held
      simp only [Option.filter, text, ne_eq, not_false_eq_true, decide_true,
        if_true]
      exact ⟨mirrors, iff_of_true rfl rfl⟩
  | none =>
      refine ⟨?_, iff_of_false Bool.false_ne_true Bool.false_ne_true⟩
      cases refreshed with
      | false => exact mirrors
      | true =>
          obtain ⟨⟨fetch, before, isFetch, holds, _⟩, proper⟩ := mirrors
          have isNow : fetch = now :=
            add_left_cancel (isFetch.symm.trans (justFetched rfl))
          exact ⟨⟨fetch, before, isFetch, holds,
            Or.inr ⟨now, isNow.ge, rfl⟩⟩, proper⟩

variable (wellFormed : ∀ instant, ∀ item ∈ published instant,
  WellFormed env.createPublicKey item)
include wellFormed

/-- A fetch brings the cache up to date. -/
theorem mirrors_refresh
    (missesBefore : cache.lastMissAt = 0 ∨
      ∃ miss ≤ now, cache.lastMissAt = env.epoch + miss) :
    ∃ refreshed, cache.refresh env (.keySet (published now)) now =
        (refreshed, .ok ()) ∧
      Mirrors env published refreshed now ∧
      refreshed.fetchedAt = env.epoch + now ∧
      ∀ kid, (refreshed.pems.get kid).isSome = true ↔
        Publishes (published now) kid := by
  obtain ⟨finished, proper, holds⟩ :=
    refill_of_wellFormed (published now) (wellFormed now) proper_empty
  have holdsPublished : ∀ kid, ((refill (nodeRead env.createPublicKey)
      Table.empty (published now)).1.get kid).isSome = true ↔
        Publishes (published now) kid := by
    intro kid
    rw [holds kid]
    simp
  have success : statusOk 200 = true := rfl
  have isList : nodeItems (.object [("keys", .array (published now))]) =
      some (published now) := rfl
  simp only [NodeCache.refresh, JwksAnswer.keySet, success, isList, goThrough,
    finished, Bool.not_true, Bool.false_eq_true, if_false, if_true]
  exact ⟨_, rfl, ⟨⟨now, le_rfl, rfl, holdsPublished, missesBefore⟩, proper⟩,
    rfl, holdsPublished⟩

/-- A call that fetches accepts exactly what is published. -/
theorem callStep_of_fetches
    (missesBefore : cache.lastMissAt = 0 ∨
      ∃ miss ≤ now, cache.lastMissAt = env.epoch + miss)
    (fetches : cache.fetches env kid now = true) :
    Mirrors env published (callStep env published cache (now, kid)).1 now ∧
      ((callStep env published cache (now, kid)).2.accepts = true ↔
        Publishes (published now) kid) := by
  obtain ⟨refreshed, ran, mirrors, justFetched, holds⟩ :=
    mirrors_refresh wellFormed missesBefore
  simp only [callStep, lookupOf, NodeCache.look, NodeCache.getPem, fetches,
    if_true, ran]
  rw [← holds kid]
  exact mirrors.answer true fun _ => justFetched

omit wellFormed in
/-- A call that does not fetch accepts exactly what the cache holds. -/
theorem callStep_of_not_fetches
    (mirrors : Mirrors env published cache now)
    (fetches : cache.fetches env kid now = false) :
    Mirrors env published (callStep env published cache (now, kid)).1 now ∧
      ((callStep env published cache (now, kid)).2.accepts = true ↔
        (cache.pems.get kid).isSome = true) := by
  simp only [callStep, lookupOf, NodeCache.look, NodeCache.getPem, fetches,
    Bool.false_eq_true, if_false]
  exact mirrors.answer false fun absurd => by contradiction

/-- A call keeps the cache a mirror. -/
theorem Mirrors.callStep
    (mirrors : Mirrors env published cache now)
    (notEarlier : now ≤ later) :
    Mirrors env published (callStep env published cache (later, kid)).1
      later := by
  have still := mirrors.mono notEarlier
  cases fetches : cache.fetches env kid later with
  | false => exact (callStep_of_not_fetches still fetches).1
  | true =>
      apply (callStep_of_fetches wellFormed _ fetches).1
      obtain ⟨fetch, before, _, _, misses⟩ := still.fetched
      refine misses.imp_right ?_
      rintro ⟨miss, missed, isMiss⟩
      exact ⟨miss, missed.trans before, isMiss⟩

/-- After some calls the cache mirrors what was published. -/
theorem mirrors_after
    {first : τ × String}
    {rest : List (τ × String)}
    (inOrder : (first :: rest).Pairwise fun earlier later =>
      earlier.1 ≤ later.1)
    (pastTtl : env.ttlMs < env.epoch + first.1)
    (notEarlier : ∀ call ∈ first :: rest, call.1 ≤ now) :
    Mirrors env published
      (after (callStep env published) .new (first :: rest)) now := by
  have stale : NodeCache.new.fetches env first.2 first.1 = true := by
    simp [NodeCache.fetches, NodeCache.new, pastTtl]
  have afterFirst := (callStep_of_fetches wellFormed (Or.inl rfl) stale).1
  have kept := after_invariant (callStep env published)
    (fun earlier later => earlier.1 ≤ later.1)
    (fun cache call => Mirrors env published cache call.1)
    (fun cache last call mirrors follows => mirrors.callStep wellFormed follows)
    afterFirst inOrder.isChain
  exact kept.mono (notEarlier _ (List.getLast_mem _))

end Fresh

/-- In every history of calls of `getPem`, from an instant on at which the clock
is past both intervals, and with any ids among them: a key that has been
published for longer than `minRefreshMs` is accepted, and a key that was
withdrawn longer ago than `ttlMs`, and not published since, is rejected. -/
theorem keys_fresh
    [AddCommGroup τ] [LinearOrder τ] [IsOrderedAddMonoid τ]
    (env : NodeEnv τ)
    (published : τ → List JsonValue)
    (wellFormed : ∀ instant, ∀ item ∈ published instant,
      WellFormed env.createPublicKey item)
    (earlier : List (τ × String))
    (now : τ)
    (kid : String)
    (inOrder : (earlier ++ [(now, kid)]).Pairwise fun before behind =>
      before.1 ≤ behind.1)
    (late : ∀ first ∈ (earlier ++ [(now, kid)]).head?,
      env.ttlMs < env.epoch + first.1 ∧
        env.minRefreshMs < env.epoch + first.1) :
    let cache := after (callStep env published) .new earlier
    let accepted := (callStep env published cache (now, kid)).2.accepts
    (∀ since ≤ now, env.minRefreshMs < now - since →
        (∀ instant, since ≤ instant → instant ≤ now →
          Publishes (published instant) kid) →
        accepted = true) ∧
      ∀ gone ≤ now, env.ttlMs < now - gone →
        (∀ instant, gone ≤ instant → instant ≤ now →
          ¬ Publishes (published instant) kid) →
        accepted = false := by
  intro cache accepted
  have outcome : (cache.fetches env kid now = true ∧
      (accepted = true ↔ Publishes (published now) kid)) ∨
        Mirrors env published cache now ∧ cache.fetches env kid now = false ∧
          (accepted = true ↔ (cache.pems.get kid).isSome = true) ∧
          env.minRefreshMs < env.epoch + now := by
    cases earlier with
    | nil =>
        have stale : cache.fetches env kid now = true := by
          simp [cache, NodeCache.fetches, NodeCache.new, (late _ rfl).1]
        exact Or.inl ⟨stale,
          (callStep_of_fetches wellFormed (Or.inl rfl) stale).2⟩
    | cons first rest =>
        obtain ⟨ordered, _, before⟩ := List.pairwise_append.mp inOrder
        have notEarlier : ∀ call ∈ first :: rest, call.1 ≤ now :=
          fun call present => before call present (now, kid) (by simp)
        obtain ⟨pastTtl, pastInterval⟩ := late first rfl
        have mirrors : Mirrors env published cache now :=
          mirrors_after wellFormed ordered pastTtl notEarlier
        cases fetches : cache.fetches env kid now with
        | false =>
            refine Or.inr ⟨mirrors, rfl,
              (callStep_of_not_fetches mirrors fetches).2, ?_⟩
            exact pastInterval.trans_le
              (add_le_add_right (notEarlier first (by simp)) _)
        | true =>
            obtain ⟨fetch, fetchedBefore, _, _, misses⟩ := mirrors.fetched
            refine Or.inl ⟨rfl, (callStep_of_fetches wellFormed ?_ fetches).2⟩
            refine misses.imp_right ?_
            rintro ⟨miss, missed, isMiss⟩
            exact ⟨miss, missed.trans fetchedBefore, isMiss⟩
  constructor
  · intro since notLater longEnough continuously
    rcases outcome with ⟨_, accepts⟩ | ⟨mirrors, quiet, accepts, pastInterval⟩
    · exact accepts.mpr (continuously now notLater le_rfl)
    · rw [accepts]
      by_contra unknown
      -- The call keeps quiet, so the last miss is recent, and the fetch that
      -- came with it has already found the key.
      obtain ⟨fetch, before, _, holds, misses⟩ := mirrors.fetched
      simp only [NodeCache.fetches, Bool.or_eq_false_iff, Bool.and_eq_false_iff,
        decide_eq_false_iff_not, not_lt] at quiet
      have recent : env.epoch + now - cache.lastMissAt ≤ env.minRefreshMs := by
        refine quiet.2.resolve_left ?_
        simpa using unknown
      rcases misses with never | ⟨miss, missed, isMiss⟩
      · rw [never, sub_zero] at recent
        exact absurd pastInterval recent.not_gt
      · rw [isMiss, add_sub_add_left_eq_sub] at recent
        have fromSince : since ≤ miss :=
          ((sub_lt_sub_iff_left now).mp
            (recent.trans_lt longEnough)).le
        exact unknown ((holds kid).mpr
          (continuously fetch (fromSince.trans missed) before))
  · intro gone notLater longAgo notSince
    rw [← Bool.not_eq_true]
    rcases outcome with ⟨_, accepts⟩ | ⟨mirrors, quiet, accepts, _⟩
    · rw [accepts]
      exact notSince now notLater le_rfl
    · rw [accepts]
      obtain ⟨fetch, before, isFetch, holds, _⟩ := mirrors.fetched
      simp only [NodeCache.fetches, Bool.or_eq_false_iff,
        decide_eq_false_iff_not, not_lt] at quiet
      have recent := quiet.1
      rw [isFetch, add_sub_add_left_eq_sub] at recent
      have fromGone : gone ≤ fetch :=
        ((sub_lt_sub_iff_left now).mp (recent.trans_lt longAgo)).le
      rw [holds kid]
      exact notSince fetch fromGone before

/-- The platform rotates its key at 1000000. -/
def rotating (instant : Int) : List JsonValue :=
  if instant < 1000000 then [publishedKey "k1" "n1"]
  else [publishedKey "k2" "n2"]

/-- A forged id has been looked up right before the rotation, and the new key is
accepted soon after it; the old key is rejected in the end. -/
theorem keys_fresh_rotated :
    let env : NodeEnv Int := ⟨pemOf, 1754000000000, 600000, 30000⟩
    let soon := [(0, "k1"), (999990, "forged")]
    let late := soon ++ [(1030001, "k2")]
    (callStep env rotating (after (callStep env rotating) .new soon)
        (1030001, "k2")).2.accepts = true ∧
      (callStep env rotating (after (callStep env rotating) .new late)
        (1600001, "k1")).2.accepts = false := by
  intro env soon late
  have wellFormed : ∀ instant, ∀ item ∈ rotating instant,
      WellFormed env.createPublicKey item := by
    intro instant item present
    unfold rotating at present
    split at present <;>
    · rw [List.mem_singleton.mp present]
      exact ⟨_, rfl, _, rfl, by decide⟩
  constructor
  · apply (keys_fresh env rotating wellFormed soon 1030001 "k2" (by simp [soon])
      (by simp [soon, env])).1 1000000 (by decide) (by decide)
    intro instant after _
    refine ⟨[("kid", .string "k2"), ("n", .string "n2")], ?_, by decide⟩
    rw [rotating, if_neg after.not_gt]
    exact List.mem_singleton_self _
  · apply (keys_fresh env rotating wellFormed late 1600001 "k1"
      (by simp [late, soon]) (by simp [late, soon, env])).2 1000000 (by decide)
      (by decide)
    rintro instant after _ ⟨members, present, isNamed⟩
    rw [rotating, if_neg after.not_gt, List.mem_singleton] at present
    obtain rfl := JsonValue.object.inj present
    exact absurd isNamed (by decide)

end Sdk
end EvoPlatform
