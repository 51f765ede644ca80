import EvoPlatform.Sdk.KeySets
import Mathlib.Algebra.Order.Group.Basic

/-!
# The key caches of the two SDKs

`JwksCache` of the Node SDK and of the Python SDK, for lookups made one after the
other.  A lookup carries what its clock readings are and what a fetch would meet.
Instants are those of one clock; the clock of the Node SDK reads them from an
epoch on, and the Python SDK only ever subtracts two of its own readings.
-/

namespace EvoPlatform
namespace Sdk

/-- Why a lookup throws. -/
inductive LookupError
  /-- What `fetch`, the parser or the loop over the keys has thrown. -/
  | raised
  | tokenError (message : String)
  deriving DecidableEq

/-- A lookup: its first reading of the clock, the reading after a fetch, and the
one after a miss; and the answer that a fetch would get. -/
structure Lookup (τ : Type) where
  kid : String
  now : τ
  fetched : τ
  missed : τ
  answer : JwksAnswer

/-- What can be seen of a lookup. -/
structure Seen where
  fetches : Bool
  accepts : Bool
  deriving DecidableEq

section Caches

variable {τ κ : Type} [AddCommGroup τ]

/-! ## Node -/

/-- `JwksCache` of the Node SDK. -/
structure NodeCache (τ : Type) where
  pems : KeyMap String
  fetchedAt : τ
  lastMissAt : τ

/-- A new cache. -/
def NodeCache.new : NodeCache τ := ⟨Table.empty, 0, 0⟩

/-- How the Node SDK is set up, and what it takes from its surroundings. -/
structure NodeEnv (τ : Type) where
  /-- `createPublicKey`, with the export to PEM. -/
  createPublicKey : JsonValue → Option String
  /-- `Date.now()` at the instant zero. -/
  epoch : τ
  ttlMs : τ
  minRefreshMs : τ

/-- `res.ok`. -/
def statusOk (status : Nat) : Bool :=
  decide (200 ≤ status ∧ status ≤ 299)

namespace NodeCache

variable (env : NodeEnv τ)

/-- `refresh`. -/
def refresh (cache : NodeCache τ) (answer : JwksAnswer) (fetched : τ) :
    NodeCache τ × Except LookupError Unit :=
  match answer with
  | .networkFailure _ => (cache, .error .raised)
  | .response status body =>
      if !statusOk status then
        (cache, .error (.tokenError
          ("JWKS fetch failed with status " ++ toString status)))
      else
        match body with
        | none => (cache, .error .raised)
        | some body =>
            let filled :=
              goThrough (nodeRead env.createPublicKey) (nodeItems body)
            if filled.2 then
              ({ cache with
                  pems := filled.1
                  fetchedAt := env.epoch + fetched },
                .ok ())
            else ({ cache with pems := filled.1 }, .error .raised)

section Refreshes

variable (cache : NodeCache τ) {status : Nat} (fetched : τ)

theorem refresh_of_failed
    (failed : statusOk status = false)
    (body : Option JsonValue) :
    cache.refresh env (.response status body) fetched =
      (cache, .error (.tokenError
        ("JWKS fetch failed with status " ++ toString status))) := by
  simp [refresh, failed]

theorem refresh_of_noJson (success : statusOk status = true) :
    cache.refresh env (.response status none) fetched =
      (cache, .error .raised) := by
  simp [refresh, success]

theorem refresh_of_json
    (success : statusOk status = true)
    (body : JsonValue) :
    cache.refresh env (.response status (some body)) fetched =
      if (goThrough (nodeRead env.createPublicKey) (nodeItems body)).2 then
        (⟨(goThrough (nodeRead env.createPublicKey) (nodeItems body)).1,
          env.epoch + fetched, cache.lastMissAt⟩, .ok ())
      else
        (⟨(goThrough (nodeRead env.createPublicKey) (nodeItems body)).1,
          cache.fetchedAt, cache.lastMissAt⟩, .error .raised) := by
  simp only [refresh, success, Bool.not_true, Bool.false_eq_true, if_false]

/-- What a refresh does. -/
theorem refresh_cases (answer : JwksAnswer) :
    (∃ error, cache.refresh env answer fetched = (cache, .error error)) ∨
    ∃ status body, answer = .response status (some body) ∧
      ((goThrough (nodeRead env.createPublicKey) (nodeItems body)).2 = true ∧
          cache.refresh env answer fetched =
            (⟨(goThrough (nodeRead env.createPublicKey) (nodeItems body)).1,
              env.epoch + fetched, cache.lastMissAt⟩, .ok ()) ∨
        (goThrough (nodeRead env.createPublicKey) (nodeItems body)).2 =
            false ∧
          cache.refresh env answer fetched =
            (⟨(goThrough (nodeRead env.createPublicKey) (nodeItems body)).1,
              cache.fetchedAt, cache.lastMissAt⟩, .error .raised)) := by
  cases answer with
  | networkFailure reason => exact .inl ⟨_, rfl⟩
  | response status body =>
      cases accepted : statusOk status with
      | false => exact .inl ⟨_, cache.refresh_of_failed env fetched accepted _⟩
      | true =>
          cases body with
          | none => exact .inl ⟨_, cache.refresh_of_noJson env fetched accepted⟩
          | some body =>
              refine .inr ⟨status, body, rfl, ?_⟩
              rw [cache.refresh_of_json env fetched accepted]
              cases (goThrough (nodeRead env.createPublicKey)
                (nodeItems body)).2 with
              | true => exact .inl ⟨rfl, rfl⟩
              | false => exact .inr ⟨rfl, rfl⟩

end Refreshes

/-- `getPem` once the cache is up to date; `if (!pem)` holds of an empty text,
too. -/
def answer (cache : NodeCache τ) (kid : String) (refreshed : Bool)
    (missed : τ) : NodeCache τ × Except LookupError String :=
  match (cache.pems.get kid).filter fun pem => pem ≠ "" with
  | some pem => (cache, .ok pem)
  | none =>
      (if refreshed then { cache with lastMissAt := env.epoch + missed }
        else cache,
        .error (.tokenError ("Unknown signing key: " ++ kid)))

variable [LinearOrder τ]

/-- Does `getPem` fetch? -/
def fetches (cache : NodeCache τ) (kid : String) (now : τ) : Bool :=
  let stale := decide (env.ttlMs < env.epoch + now - cache.fetchedAt)
  let unknown := (cache.pems.get kid).isNone
  stale || (unknown &&
    decide (env.minRefreshMs < env.epoch + now - cache.lastMissAt))

/-- `getPem`. -/
def getPem (cache : NodeCache τ) (lookup : Lookup τ) :
    NodeCache τ × Except LookupError String :=
  if cache.fetches env lookup.kid lookup.now then
    match cache.refresh env lookup.answer lookup.fetched with
    | (after, .error error) => (after, .error error)
    | (after, .ok ()) => after.answer env lookup.kid true lookup.missed
  else cache.answer env lookup.kid false lookup.missed

/-- A lookup, as it can be seen. -/
def look (cache : NodeCache τ) (lookup : Lookup τ) : NodeCache τ × Seen :=
  let looked := cache.getPem env lookup
  (looked.1, ⟨cache.fetches env lookup.kid lookup.now, looked.2.isOk⟩)

end NodeCache

/-! ## Python -/

/-- `JwksCache` of the Python SDK. -/
structure PythonCache (κ τ : Type) where
  keys : KeyMap κ
  fetchedAt : Option τ
  lastMissAt : Option τ

/-- A new cache. -/
def PythonCache.new : PythonCache κ τ := ⟨Table.empty, none, none⟩

/-- How the Python SDK is set up, and what it takes from its surroundings. -/
structure PythonEnv (κ τ : Type) where
  /-- `RSAAlgorithm.from_jwk`. -/
  fromJwk : JsonValue → Option κ
  /-- `time.monotonic()` at the instant zero. -/
  epoch : τ
  ttl : τ
  minRefresh : τ

namespace PythonCache

variable (env : PythonEnv κ τ)

/-- `refresh`. -/
def refresh (cache : PythonCache κ τ) (answer : JwksAnswer) (fetched : τ) :
    PythonCache κ τ × Except LookupError Unit :=
  match answer with
  | .networkFailure reason =>
      (cache, .error (.tokenError ("JWKS fetch failed: " ++ reason)))
  | .response status body =>
      if status ≠ 200 then
        (cache, .error (.tokenError
          ("JWKS fetch failed with status " ++ toString status)))
      else
        match body with
        | none => (cache, .error .raised)
        | some body =>
            let filled := goThrough (pythonRead env.fromJwk) (pythonItems body)
            if filled.2 then
              ({ cache with
                  keys := filled.1
                  fetchedAt := some (env.epoch + fetched) },
                .ok ())
            else ({ cache with keys := filled.1 }, .error .raised)

section Refreshes

variable (cache : PythonCache κ τ) (fetched : τ)

theorem refresh_of_failed
    {status : Nat}
    (failed : status ≠ 200)
    (body : Option JsonValue) :
    cache.refresh env (.response status body) fetched =
      (cache, .error (.tokenError
        ("JWKS fetch failed with status " ++ toString status))) := by
  simp [refresh, failed]

theorem refresh_of_json (body : JsonValue) :
    cache.refresh env (.response 200 (some body)) fetched =
      if (goThrough (pythonRead env.fromJwk) (pythonItems body)).2 then
        (⟨(goThrough (pythonRead env.fromJwk) (pythonItems body)).1,
          some (env.epoch + fetched), cache.lastMissAt⟩, .ok ())
      else
        (⟨(goThrough (pythonRead env.fromJwk) (pythonItems body)).1,
          cache.fetchedAt, cache.lastMissAt⟩, .error .raised) := by
  simp only [refresh, ne_eq, not_true, if_false]

/-- What a refresh does. -/
theorem refresh_cases (answer : JwksAnswer) :
    (∃ error, cache.refresh env answer fetched = (cache, .error error)) ∨
    ∃ status body, answer = .response status (some body) ∧
      ((goThrough (pythonRead env.fromJwk) (pythonItems body)).2 = true ∧
          cache.refresh env answer fetched =
            (⟨(goThrough (pythonRead env.fromJwk) (pythonItems body)).1,
              some (env.epoch + fetched), cache.lastMissAt⟩, .ok ()) ∨
        (goThrough (pythonRead env.fromJwk) (pythonItems body)).2 = false ∧
          cache.refresh env answer fetched =
            (⟨(goThrough (pythonRead env.fromJwk) (pythonItems body)).1,
              cache.fetchedAt, cache.lastMissAt⟩, .error .raised)) := by
  cases answer with
  | networkFailure reason => exact .inl ⟨_, rfl⟩
  | response status body =>
      by_cases accepted : status = 200
      · subst accepted
        cases body with
        | none => exact .inl ⟨_, rfl⟩
        | some body =>
            refine .inr ⟨200, body, rfl, ?_⟩
            rw [cache.refresh_of_json env fetched]
            cases (goThrough (pythonRead env.fromJwk) (pythonItems body)).2
              with
            | true => exact .inl ⟨rfl, rfl⟩
            | false => exact .inr ⟨rfl, rfl⟩
      · exact .inl ⟨_, cache.refresh_of_failed env fetched accepted body⟩

end Refreshes

/-- `get_key` once the cache is up to date. -/
def answer (cache : PythonCache κ τ) (kid : String) (refreshed : Bool)
    (missed : τ) : PythonCache κ τ × Except LookupError κ :=
  match cache.keys.get kid with
  | some key => (cache, .ok key)
  | none =>
      (if refreshed then
          { cache with lastMissAt := some (env.epoch + missed) }
        else cache,
        .error (.tokenError ("Unknown signing key: " ++ kid)))

variable [LinearOrder τ]

/-- Does `get_key` fetch? -/
def fetches (cache : PythonCache κ τ) (kid : String) (now : τ) : Bool :=
  -- A cache that has never fetched is stale, one that has never missed is not
  -- quiet.
  let stale := cache.fetchedAt.all fun fetchedAt =>
    env.ttl < env.epoch + now - fetchedAt
  let unknown := (cache.keys.get kid).isNone
  let quiet := cache.lastMissAt.any fun lastMissAt =>
    env.epoch + now - lastMissAt ≤ env.minRefresh
  stale || (unknown && !quiet)

/-- `get_key`. -/
def getKey (cache : PythonCache κ τ) (lookup : Lookup τ) :
    PythonCache κ τ × Except LookupError κ :=
  if cache.fetches env lookup.kid lookup.now then
    match cache.refresh env lookup.answer lookup.fetched with
    | (after, .error error) => (after, .error error)
    | (after, .ok ()) => after.answer env lookup.kid true lookup.missed
  else cache.answer env lookup.kid false lookup.missed

/-- A lookup, as it can be seen. -/
def look (cache : PythonCache κ τ) (lookup : Lookup τ) :
    PythonCache κ τ × Seen :=
  let looked := cache.getKey env lookup
  (looked.1, ⟨cache.fetches env lookup.kid lookup.now, looked.2.isOk⟩)

end PythonCache

end Caches

end Sdk
end EvoPlatform
