import EvoPlatform.Sdk.CachesAlike

/-!
# Refreshes that fail

Both SDKs clear the keys once the body is read, and then go through the key set;
so what throws on the way leaves the keys that came before it.
-/

namespace EvoPlatform
namespace Sdk

variable {τ κ : Type}

/-- The cache holds what it held. -/
structure NodeCache.Same (before after : NodeCache τ) : Prop where
  pems : ∀ id, after.pems.under id = before.pems.under id
  fetchedAt : after.fetchedAt = before.fetchedAt
  lastMissAt : after.lastMissAt = before.lastMissAt

structure PythonCache.Same (before after : PythonCache κ τ) : Prop where
  keys : ∀ id, after.keys.under id = before.keys.under id
  fetchedAt : after.fetchedAt = before.fetchedAt
  lastMissAt : after.lastMissAt = before.lastMissAt

/-- The keys of a body up to the place where going through it throws, if there
is such a place. -/
def torso {α : Type} (read : JsonValue → ReadKey α) :
    Option (List JsonValue) → Option (List (JsonValue × α))
  | none => some []
  | some items =>
      if breaksOff read items then some (readUpTo read items) else none

/-- If going through the accepted body throws, the keys before that place are
those of the cache. -/
def KeptBy {α : Type} (held : KeyMap α)
    (torso : Option (List (JsonValue × α))) : Prop :=
  ∀ keys, torso = some keys → ∀ id, held.under id = keys.reverse.lookup id

section Torsos

variable {α : Type} {read : JsonValue → ReadKey α} {held : KeyMap α}

theorem keptBy_torso (items : Option (List JsonValue)) :
    KeptBy held (torso read items) ↔
      ((goThrough read items).2 = false →
        ∀ id, (goThrough read items).1.under id = held.under id) := by
  cases items with
  | none =>
      simp only [KeptBy, torso, goThrough, Option.some.injEq, forall_eq',
        true_imp_iff]
      exact forall_congr' fun id => eq_comm
  | some items =>
      simp only [goThrough, under_refill_empty, KeptBy, torso]
      rw [refill_eq, Bool.not_eq_false']
      cases breaksOff read items with
      | false => simp
      | true =>
          simp only [if_true, Option.some.injEq, forall_eq', true_imp_iff]
          exact forall_congr' fun id => eq_comm

end Torsos

variable [AddCommGroup τ]

/-- A refresh of the Node cache that throws leaves the cache as it was, unless
it is the loop over the body that throws and the keys before are others. -/
theorem NodeCache.same_refresh_iff
    (env : NodeEnv τ)
    (cache : NodeCache τ)
    (answer : JwksAnswer)
    (fetched : τ) :
    ((cache.refresh env answer fetched).2.isOk = false →
        cache.Same (cache.refresh env answer fetched).1) ↔
      ∀ status body, answer = .response status (some body) →
        statusOk status →
          KeptBy cache.pems
            (torso (nodeRead env.createPublicKey) (nodeItems body)) := by
  have unchanged : cache.Same cache := ⟨fun _ => rfl, rfl, rfl⟩
  cases answer with
  | networkFailure reason =>
      exact iff_of_true (fun _ => unchanged) (by rintro _ _ ⟨⟩)
  | response status body =>
      cases success : statusOk status with
      | false =>
          rw [cache.refresh_of_failed env fetched success]
          refine iff_of_true (fun _ => unchanged) ?_
          rintro _ _ ⟨⟩ accepted
          rw [success] at accepted
          contradiction
      | true =>
          cases body with
          | none =>
              rw [cache.refresh_of_noJson env fetched success]
              exact iff_of_true (fun _ => unchanged) (by rintro _ _ ⟨⟩)
          | some body =>
              have loop : ((cache.refresh env
                  (.response status (some body)) fetched).2.isOk = false →
                    cache.Same (cache.refresh env
                      (.response status (some body)) fetched).1) ↔
                  KeptBy cache.pems
                    (torso (nodeRead env.createPublicKey) (nodeItems body)) := by
                rw [keptBy_torso, cache.refresh_of_json env fetched success]
                cases (goThrough (nodeRead env.createPublicKey)
                  (nodeItems body)).2 with
                | true => simp [Except.isOk, Except.toBool]
                | false =>
                    simp only [Bool.false_eq_true, if_false]
                    exact ⟨fun same _ => (same rfl).pems,
                      fun kept _ => ⟨kept trivial, rfl, rfl⟩⟩
              rw [loop]
              constructor
              · rintro kept _ _ ⟨⟩ _
                exact kept
              · intro kept
                exact kept status body rfl success

/-- The same for the Python cache. -/
theorem PythonCache.same_refresh_iff
    (env : PythonEnv κ τ)
    (cache : PythonCache κ τ)
    (answer : JwksAnswer)
    (fetched : τ) :
    ((cache.refresh env answer fetched).2.isOk = false →
        cache.Same (cache.refresh env answer fetched).1) ↔
      ∀ body, answer = .response 200 (some body) →
        KeptBy cache.keys (torso (pythonRead env.fromJwk) (pythonItems body)) := by
  have unchanged : cache.Same cache := ⟨fun _ => rfl, rfl, rfl⟩
  cases answer with
  | networkFailure reason => exact iff_of_true (fun _ => unchanged) nofun
  | response status body =>
      by_cases success : status = 200
      · subst success
        cases body with
        | none => exact iff_of_true (fun _ => unchanged) nofun
        | some body =>
            simp only [JwksAnswer.response.injEq, true_and, Option.some.injEq,
              forall_eq', keptBy_torso, cache.refresh_of_json env fetched]
            cases (goThrough (pythonRead env.fromJwk) (pythonItems body)).2 with
            | true => simp [Except.isOk, Except.toBool]
            | false =>
                simp only [Bool.false_eq_true, if_false]
                exact ⟨fun same _ => (same rfl).keys,
                  fun kept _ => ⟨kept trivial, rfl, rfl⟩⟩
      · rw [cache.refresh_of_failed env fetched success]
        refine iff_of_true (fun _ => unchanged) ?_
        rintro _ ⟨⟩
        contradiction

/-! ## Lookups after a failed refresh -/

variable [LinearOrder τ]

/-- A cache that holds what it held fetches and answers as it did. -/
structure NodeCache.Untouched (env : NodeEnv τ)
    (before after : NodeCache τ) : Prop where
  same : before.Same after
  fetches : ∀ kid now, after.fetches env kid now = before.fetches env kid now
  answers : ∀ kid refreshed missed,
    (after.answer env kid refreshed missed).2 =
      (before.answer env kid refreshed missed).2

structure PythonCache.Untouched (env : PythonEnv κ τ)
    (before after : PythonCache κ τ) : Prop where
  same : before.Same after
  fetches : ∀ kid now, after.fetches env kid now = before.fetches env kid now
  answers : ∀ kid refreshed missed,
    (after.answer env kid refreshed missed).2 =
      (before.answer env kid refreshed missed).2

theorem NodeCache.untouched_iff (env : NodeEnv τ)
    (before after : NodeCache τ) :
    before.Untouched env after ↔ before.Same after := by
  refine ⟨Untouched.same, fun same => ⟨same, ?_, ?_⟩⟩
  · intro kid now
    simp only [fetches, KeyMap.get, same.pems, same.fetchedAt, same.lastMissAt]
  · intro kid refreshed missed
    simp only [answer, KeyMap.get, same.pems]
    split <;> rfl

theorem PythonCache.untouched_iff (env : PythonEnv κ τ)
    (before after : PythonCache κ τ) :
    before.Untouched env after ↔ before.Same after := by
  refine ⟨Untouched.same, fun same => ⟨same, ?_, ?_⟩⟩
  · intro kid now
    simp only [fetches, KeyMap.get, same.keys, same.fetchedAt, same.lastMissAt]
  · intro kid refreshed missed
    simp only [answer, KeyMap.get, same.keys]
    split <;> rfl

/-- A refresh that throws leaves the cache as it was, with the lookups that
follow, if and only if it is not the loop over an accepted body that throws, or
the keys before that place are the ones the cache held. -/
theorem failedRefresh_untouched_iff
    (nodeEnv : NodeEnv τ)
    (pythonEnv : PythonEnv κ τ)
    (node : NodeCache τ)
    (python : PythonCache κ τ)
    (answer : JwksAnswer)
    (fetched : τ) :
    (((node.refresh nodeEnv answer fetched).2.isOk = false →
        node.Untouched nodeEnv (node.refresh nodeEnv answer fetched).1) ↔
      ∀ status body, answer = .response status (some body) →
        statusOk status →
          KeptBy node.pems
            (torso (nodeRead nodeEnv.createPublicKey) (nodeItems body))) ∧
    (((python.refresh pythonEnv answer fetched).2.isOk = false →
        python.Untouched pythonEnv
          (python.refresh pythonEnv answer fetched).1) ↔
      ∀ body, answer = .response 200 (some body) →
        KeptBy python.keys
          (torso (pythonRead pythonEnv.fromJwk) (pythonItems body))) := by
  rw [NodeCache.untouched_iff, PythonCache.untouched_iff]
  exact ⟨node.same_refresh_iff nodeEnv answer fetched,
    python.same_refresh_iff pythonEnv answer fetched⟩

/-- A key with a modulus, and one without. -/
def halfKeySet : JwksAnswer :=
  .keySet [publishedKey "new" "n2", .object [("kid", .string "broken")]]

/-- A key set with a malformed key at its end: the refresh throws, and the key
that verified is gone, on a cache that counts as fetched just now. -/
theorem failedRefresh_losesKeys :
    let node : NodeCache Int := ⟨Table.empty.put (.string "old", "n1"), 1000, 0⟩
    let nodeEnv : NodeEnv Int := ⟨modulusOf, 0, 600, 30⟩
    let python : PythonCache String Int :=
      ⟨Table.empty.put (.string "old", "n1"), some 1000, none⟩
    let pythonEnv : PythonEnv String Int := ⟨modulusOf, 0, 600, 30⟩
    let nodeAfter := node.refresh nodeEnv halfKeySet 1001
    let pythonAfter := python.refresh pythonEnv halfKeySet 1001
    (nodeAfter.2.isOk = false ∧ pythonAfter.2.isOk = false) ∧
      (node.pems.get "old" = some "n1" ∧
        nodeAfter.1.pems.get "old" = none) ∧
      python.keys.get "old" = some "n1" ∧
        pythonAfter.1.keys.get "old" = none := by
  decide +kernel

end Sdk
end EvoPlatform
