import EvoPlatform.Foundation.Responses
import EvoPlatform.Sdk.JwksCache
import Mathlib.Algebra.Order.Group.Int
import Mathlib.Tactic.Abel

/-!
# When the two key caches behave alike

The Node SDK writes zero where the Python SDK writes `None`, and asks whether an
interval has passed where the Python SDK asks whether it has not.  Where the
clock of the Node SDK is past both intervals this makes no difference; but the
loops over the key set do not throw at the same items.  As long as they do, the
two caches stay in step.
-/

namespace EvoPlatform
namespace Sdk

variable {τ κ : Type}

/-! ## Lookups in order -/

section Order

variable [LinearOrder τ]

/-- The readings of a lookup do not go back. -/
def Lookup.Ordered (lookup : Lookup τ) : Prop :=
  lookup.now ≤ lookup.fetched ∧ lookup.fetched ≤ lookup.missed

/-- The lookups are made one after the other. -/
def InOrder (lookups : List (Lookup τ)) : Prop :=
  (∀ lookup ∈ lookups, lookup.Ordered) ∧
    lookups.IsChain fun earlier later => earlier.missed ≤ later.now

theorem InOrder.first_le
    {first : Lookup τ}
    {rest : List (Lookup τ)}
    (inOrder : InOrder (first :: rest)) :
    ∀ lookup ∈ first :: rest, first.now ≤ lookup.now := by
  obtain ⟨ordered, chain⟩ := inOrder
  induction rest generalizing first with
  | nil =>
      intro lookup present
      rw [List.mem_singleton.mp present]
  | cons second rest inductionHypothesis =>
      obtain ⟨next, chain⟩ := List.isChain_cons_cons.mp chain
      obtain ⟨fetched, missed⟩ := ordered first (by simp)
      intro lookup present
      rcases List.mem_cons.mp present with rfl | later
      · exact le_rfl
      · have fromSecond := inductionHypothesis
          (fun other isLater => ordered other (by simp [isLater])) chain
          lookup later
        exact (fetched.trans (missed.trans next)).trans fromSecond

end Order

/-! ## Key sets that are read alike -/

/-- The two parsers accept the same keys; a key is an object. -/
def AcceptSame (createPublicKey : JsonValue → Option String)
    (fromJwk : JsonValue → Option κ) : Prop :=
  ∀ members, (createPublicKey (.object members)).isSome =
    (fromJwk (.object members)).isSome

/-- What a fetch may meet: no answer, an error status, or a list of keys. -/
inductive JwksAnswer.Foreseen : JwksAnswer → Prop
  | networkFailure (reason : String) : Foreseen (.networkFailure reason)
  | httpError (status : Nat) (body : Option JsonValue)
      (failed : statusOk status = false) : Foreseen (.response status body)
  | keyList (members : List (String × JsonValue)) (items : List JsonValue)
      (isList : members.lookup "keys" = some (.array items)) :
      Foreseen (.response 200 (some (.object members)))

/-- The two loops treat an item alike.  What is neither an object nor null is
passed over by the one and throws in the other; a list or an object as an id
throws in Python unless it is empty, when it counts as no id. -/
def ReadAlike (accepted : JsonValue → Bool) : JsonValue → Prop
  | .null => True
  | .object members =>
      match members.lookup "kid" with
      | some (.array ids) => accepted (.object members) = ids.isEmpty
      | some (.object ids) => accepted (.object members) = ids.isEmpty
      | _ => True
  | _ => False

/-- Both loops end at an item: it is null, or a key with an id that the parser
refuses. -/
def EndsBoth (accepted : JsonValue → Bool) : JsonValue → Prop
  | .null => True
  | .object members =>
      (members.lookup "kid").any JsonValue.pythonTruthy = true ∧
        accepted (.object members) = false
  | _ => False

/-- The two loops treat the items alike up to where both end. -/
def Concordant (accepted : JsonValue → Bool) : List JsonValue → Prop
  | [] => True
  | item :: rest =>
      ReadAlike accepted item ∧
        (EndsBoth accepted item ∨ Concordant accepted rest)

/-- The key set of an answer, if it has one, is concordant. -/
def JwksAnswer.Concordant (accepted : JsonValue → Bool)
    (answer : JwksAnswer) : Prop :=
  ∀ members items, answer = .response 200 (some (.object members)) →
    members.lookup "keys" = some (.array items) →
      Sdk.Concordant accepted items

theorem JwksAnswer.concordant_keySet (accepted : JsonValue → Bool)
    (keys : List JsonValue) :
    (keySet keys).Concordant accepted ↔ Sdk.Concordant accepted keys := by
  constructor
  · intro concordant
    exact concordant _ keys rfl rfl
  · rintro concordant _ _ ⟨⟩ ⟨⟩
    exact concordant

section Turns

variable {createPublicKey : JsonValue → Option String}
  {fromJwk : JsonValue → Option κ}

/-- The loops treat an item alike when both throw or neither does. -/
theorem readAlike_iff
    (sameKeys : AcceptSame createPublicKey fromJwk)
    (item : JsonValue) :
    ReadAlike (fun item => (createPublicKey item).isSome) item ↔
      (nodeRead createPublicKey item).throws =
        (pythonRead fromJwk item).throws := by
  cases item with
  | null => exact iff_of_true trivial rfl
  | bool value => exact iff_of_false id Bool.false_ne_true
  | number value => exact iff_of_false id Bool.false_ne_true
  | string value => exact iff_of_false id Bool.false_ne_true
  | array items => exact iff_of_false id Bool.false_ne_true
  | object members =>
      rw [throws_nodeRead, throws_pythonRead, ← Option.not_isSome,
        ← Option.not_isSome, ← sameKeys]
      simp only [ReadAlike]
      cases members.lookup "kid" with
      | none => simp
      | some kid =>
          cases (createPublicKey (.object members)).isSome <;>
            cases kid <;>
            simp [JsonValue.jsTruthy, JsonValue.pythonTruthy, JsonValue.dictKey]

/-- Both loops throw at null, and where the parser refuses a key with an id. -/
theorem endsBoth_iff
    (sameKeys : AcceptSame createPublicKey fromJwk)
    (item : JsonValue) :
    EndsBoth (fun item => (createPublicKey item).isSome) item ↔
      (nodeRead createPublicKey item).throws = true ∧
        (pythonRead fromJwk item).throws = true := by
  cases item with
  | null => exact iff_of_true trivial ⟨rfl, rfl⟩
  | bool value => exact iff_of_false id (by simp [nodeRead])
  | number value => exact iff_of_false id (by simp [nodeRead])
  | string value => exact iff_of_false id (by simp [nodeRead])
  | array items => exact iff_of_false id (by simp [nodeRead])
  | object members =>
      rw [throws_nodeRead, throws_pythonRead, ← Option.not_isSome,
        ← Option.not_isSome, ← sameKeys]
      simp only [EndsBoth]
      cases members.lookup "kid" with
      | none => simp
      | some kid =>
          cases (createPublicKey (.object members)).isSome <;>
            cases kid <;>
            simp [JsonValue.jsTruthy, JsonValue.pythonTruthy, JsonValue.dictKey]

/-- A key is kept under the same text. -/
theorem text?_read
    (sameKeys : AcceptSame createPublicKey fromJwk)
    (item : JsonValue) :
    (nodeRead createPublicKey item).text? =
      (pythonRead fromJwk item).text? := by
  cases item with
  | null => rfl
  | bool value => rfl
  | number value => rfl
  | string value => rfl
  | array items => rfl
  | object members => rw [text?_nodeRead, text?_pythonRead, sameKeys]

end Turns

/-! ## The key maps -/

/-- The two maps hold keys for the same texts. -/
def SameKids (pems : KeyMap String) (keys : KeyMap κ) : Prop :=
  ∀ kid, (pems.get kid).isSome = (keys.get kid).isSome

/-- No key of the Node SDK is the empty text. -/
def Proper (pems : KeyMap String) : Prop :=
  ∀ kid pem, pems.get kid = some pem → pem ≠ ""

theorem proper_empty : Proper Table.empty :=
  fun kid pem found => by contradiction

/-- A key that is read is no empty text. -/
theorem Proper.keep
    {createPublicKey : JsonValue → Option String}
    {item : JsonValue}
    (pemText : ∀ pem, createPublicKey item = some pem → pem ≠ "")
    {pems : KeyMap String}
    (proper : Proper pems) :
    Proper ((nodeRead createPublicKey item).keep pems) := by
  cases isRead : nodeRead createPublicKey item with
  | passedOver => exact proper
  | raises => exact proper
  | stores id read =>
      intro kid pem found
      rw [ReadKey.keep, get_put] at found
      split at found
      · obtain rfl := Option.some.inj found
        exact pemText read (eq_some_of_nodeRead isRead)
      · exact proper kid pem found

/-- Two parsers that accept the same keys fill two maps alike from a concordant
key set. -/
theorem refill_alike
    {createPublicKey : JsonValue → Option String}
    {fromJwk : JsonValue → Option κ}
    (sameKeys : AcceptSame createPublicKey fromJwk)
    (pemText : ∀ item pem, createPublicKey item = some pem → pem ≠ "")
    {items : List JsonValue}
    (concordant : Concordant (fun item => (createPublicKey item).isSome) items)
    {pems : KeyMap String}
    {keys : KeyMap κ}
    (sameKids : SameKids pems keys)
    (proper : Proper pems) :
    (refill (nodeRead createPublicKey) pems items).2 =
        (refill (pythonRead fromJwk) keys items).2 ∧
      SameKids (refill (nodeRead createPublicKey) pems items).1
        (refill (pythonRead fromJwk) keys items).1 ∧
      Proper (refill (nodeRead createPublicKey) pems items).1 := by
  induction items generalizing pems keys with
  | nil => exact ⟨rfl, sameKids, proper⟩
  | cons item rest inductionHypothesis =>
      obtain ⟨readAlike, goesOn⟩ := concordant
      rw [readAlike_iff sameKeys] at readAlike
      rw [endsBoth_iff sameKeys] at goesOn
      rw [refill_cons, refill_cons, ← readAlike]
      cases throws : (nodeRead createPublicKey item).throws with
      | true => exact ⟨rfl, sameKids, proper⟩
      | false =>
          refine inductionHypothesis (goesOn.resolve_left ?_) ?_
            (proper.keep (pemText item))
          · rw [throws]
            exact fun ends => Bool.false_ne_true ends.1
          · intro kid
            rw [ReadKey.isSome_get_keep, ReadKey.isSome_get_keep,
              text?_read sameKeys, sameKids kid]

/-! ## In step -/

section Step

variable [AddCommGroup τ]

/-- A reading of the Node SDK, with zero for none, and one of the Python SDK. -/
def SameReading (nodeEpoch pythonEpoch nodeReading : τ) : Option τ → Prop
  | none => nodeReading = 0
  | some reading => nodeReading - nodeEpoch = reading - pythonEpoch

/-- The two caches are in step. -/
structure Alike (nodeEpoch pythonEpoch : τ) (node : NodeCache τ)
    (python : PythonCache κ τ) : Prop where
  sameKids : SameKids node.pems python.keys
  proper : Proper node.pems
  fetchedAt : SameReading nodeEpoch pythonEpoch node.fetchedAt python.fetchedAt
  lastMissAt :
    SameReading nodeEpoch pythonEpoch node.lastMissAt python.lastMissAt

theorem alike_new (nodeEpoch pythonEpoch : τ) :
    Alike nodeEpoch pythonEpoch NodeCache.new
      (PythonCache.new : PythonCache κ τ) := by
  refine ⟨fun _ => rfl, ?_, rfl, rfl⟩
  intro kid pem found
  contradiction

/-- The time since a reading is the same on both clocks. -/
theorem SameReading.elapsed
    {nodeEpoch pythonEpoch nodeReading reading : τ}
    (same : SameReading nodeEpoch pythonEpoch nodeReading (some reading))
    (now : τ) :
    nodeEpoch + now - nodeReading = pythonEpoch + now - reading := by
  have isSame : nodeReading - nodeEpoch = reading - pythonEpoch := same
  calc
    nodeEpoch + now - nodeReading = now - (nodeReading - nodeEpoch) := by abel
    _ = now - (reading - pythonEpoch) := by rw [isSame]
    _ = pythonEpoch + now - reading := by abel

variable {nodeEnv : NodeEnv τ} {pythonEnv : PythonEnv κ τ}
  {node : NodeCache τ} {python : PythonCache κ τ}

/-- Two caches in step refresh alike from a concordant answer. -/
theorem Alike.refresh
    (alike : Alike nodeEnv.epoch pythonEnv.epoch node python)
    (sameKeys : AcceptSame nodeEnv.createPublicKey pythonEnv.fromJwk)
    (pemText : ∀ item pem, nodeEnv.createPublicKey item = some pem → pem ≠ "")
    {answer : JwksAnswer}
    (foreseen : answer.Foreseen)
    (concordant :
      answer.Concordant fun item => (nodeEnv.createPublicKey item).isSome)
    (fetched : τ) :
    (node.refresh nodeEnv answer fetched).2.isOk =
        (python.refresh pythonEnv answer fetched).2.isOk ∧
      Alike nodeEnv.epoch pythonEnv.epoch
        (node.refresh nodeEnv answer fetched).1
        (python.refresh pythonEnv answer fetched).1 := by
  cases foreseen with
  | networkFailure reason => exact ⟨rfl, alike⟩
  | httpError status body failed =>
      have differs : status ≠ 200 := by
        rintro rfl
        contradiction
      rw [node.refresh_of_failed nodeEnv fetched failed,
        python.refresh_of_failed pythonEnv fetched differs]
      exact ⟨rfl, alike⟩
  | keyList members items isList =>
      have noKeys : SameKids (Table.empty : KeyMap String)
          (Table.empty : KeyMap κ) := fun _ => rfl
      obtain ⟨sameEnd, sameKids, proper⟩ :=
        refill_alike sameKeys pemText (concordant members items rfl isList)
          noKeys proper_empty
      have success : statusOk 200 = true := rfl
      rw [node.refresh_of_json nodeEnv fetched success,
        python.refresh_of_json pythonEnv fetched]
      simp only [nodeItems, pythonItems, isList, goThrough, sameEnd]
      split
      · refine ⟨rfl, sameKids, proper, ?_, alike.lastMissAt⟩
        simp [SameReading]
      · exact ⟨rfl, sameKids, proper, alike.fetchedAt, alike.lastMissAt⟩

/-- Two caches in step, brought up to date, answer alike. -/
theorem Alike.answer
    (alike : Alike nodeEnv.epoch pythonEnv.epoch node python)
    (kid : String)
    (refreshed : Bool)
    (missed : τ) :
    (node.answer nodeEnv kid refreshed missed).2.isOk =
        (python.answer pythonEnv kid refreshed missed).2.isOk ∧
      Alike nodeEnv.epoch pythonEnv.epoch
        (node.answer nodeEnv kid refreshed missed).1
        (python.answer pythonEnv kid refreshed missed).1 := by
  have same := alike.sameKids kid
  simp only [NodeCache.answer, PythonCache.answer]
  cases held : python.keys.get kid with
  | none =>
      rw [held, Option.isSome_none, Option.isSome_eq_false_iff,
        Option.isNone_iff_eq_none] at same
      rw [same]
      cases refreshed with
      | false => exact ⟨rfl, alike⟩
      | true =>
          refine ⟨rfl, alike.sameKids, alike.proper, alike.fetchedAt, ?_⟩
          simp [SameReading]
  | some key =>
      rw [held, Option.isSome_some, Option.isSome_iff_exists] at same
      obtain ⟨pem, found⟩ := same
      have text : (some pem : Option String).filter (fun pem => pem ≠ "") =
          some pem := by
        simp [alike.proper kid pem found]
      rw [found, text]
      exact ⟨rfl, alike⟩

variable [LinearOrder τ]

/-- An interval has passed on the one clock when it has on the other; on the
clock that is past the interval, zero is as good as never. -/
theorem SameReading.passed
    {nodeEpoch pythonEpoch nodeReading interval now : τ}
    {last : Option τ}
    (same : SameReading nodeEpoch pythonEpoch nodeReading last)
    (past : interval < nodeEpoch + now) :
    decide (interval < nodeEpoch + now - nodeReading) =
      last.all fun reading => interval < pythonEpoch + now - reading := by
  cases last with
  | none =>
      have never : nodeReading = 0 := same
      simp [never, past]
  | some reading => simp [same.elapsed now]

/-- The two caches fetch at the same lookups. -/
theorem Alike.fetches
    (alike : Alike nodeEnv.epoch pythonEnv.epoch node python)
    (sameTtl : nodeEnv.ttlMs = pythonEnv.ttl)
    (sameInterval : nodeEnv.minRefreshMs = pythonEnv.minRefresh)
    (kid : String)
    {now : τ}
    (pastTtl : nodeEnv.ttlMs < nodeEnv.epoch + now)
    (pastInterval : nodeEnv.minRefreshMs < nodeEnv.epoch + now) :
    node.fetches nodeEnv kid now = python.fetches pythonEnv kid now := by
  have sameUnknown : (node.pems.get kid).isNone =
      (python.keys.get kid).isNone := by
    rw [← Option.not_isSome, ← Option.not_isSome, alike.sameKids kid]
  have sameStale := alike.fetchedAt.passed pastTtl
  have sameQuiet := alike.lastMissAt.passed pastInterval
  have notQuiet : ∀ last : Option τ,
      (last.all fun reading =>
        pythonEnv.minRefresh < pythonEnv.epoch + now - reading) =
          !(last.any fun reading =>
            pythonEnv.epoch + now - reading ≤ pythonEnv.minRefresh) := by
    intro last
    cases last with
    | none => rfl
    | some reading => simp [← not_le]
  rw [sameTtl] at sameStale
  rw [sameInterval, notQuiet] at sameQuiet
  simp only [NodeCache.fetches, PythonCache.fetches, sameTtl, sameInterval,
    sameUnknown, sameStale, sameQuiet]

/-- Two caches in step look up alike, when what is fetched is concordant. -/
theorem Alike.look
    (alike : Alike nodeEnv.epoch pythonEnv.epoch node python)
    (sameKeys : AcceptSame nodeEnv.createPublicKey pythonEnv.fromJwk)
    (pemText : ∀ item pem, nodeEnv.createPublicKey item = some pem → pem ≠ "")
    (sameTtl : nodeEnv.ttlMs = pythonEnv.ttl)
    (sameInterval : nodeEnv.minRefreshMs = pythonEnv.minRefresh)
    {lookup : Lookup τ}
    (pastTtl : nodeEnv.ttlMs < nodeEnv.epoch + lookup.now)
    (pastInterval : nodeEnv.minRefreshMs < nodeEnv.epoch + lookup.now)
    (foreseen : lookup.answer.Foreseen)
    (concordant : node.fetches nodeEnv lookup.kid lookup.now = true →
      lookup.answer.Concordant
        fun item => (nodeEnv.createPublicKey item).isSome) :
    (node.look nodeEnv lookup).2 = (python.look pythonEnv lookup).2 ∧
      Alike nodeEnv.epoch pythonEnv.epoch (node.look nodeEnv lookup).1
        (python.look pythonEnv lookup).1 := by
  have sameFetches := alike.fetches sameTtl sameInterval lookup.kid pastTtl
    pastInterval
  simp only [NodeCache.look, PythonCache.look, NodeCache.getPem,
    PythonCache.getKey, sameFetches]
  cases fetches : python.fetches pythonEnv lookup.kid lookup.now with
  | false =>
      obtain ⟨sameAnswer, still⟩ :=
        alike.answer lookup.kid false lookup.missed
      exact ⟨congrArg (Seen.mk false) sameAnswer, still⟩
  | true =>
      obtain ⟨sameEnd, refreshed⟩ :=
        alike.refresh sameKeys pemText foreseen
          (concordant (sameFetches.trans fetches)) lookup.fetched
      revert sameEnd refreshed
      rcases node.refresh nodeEnv lookup.answer lookup.fetched with
        ⟨nodeAfter, _ | _⟩ <;>
      rcases python.refresh pythonEnv lookup.answer lookup.fetched with
        ⟨pythonAfter, _ | _⟩ <;>
      intro sameEnd refreshed
      · exact ⟨rfl, refreshed⟩
      · contradiction
      · contradiction
      · obtain ⟨sameAnswer, still⟩ :=
          refreshed.answer lookup.kid true lookup.missed
        exact ⟨congrArg (Seen.mk true) sameAnswer, still⟩

end Step

/-- For every time to live and interval, and every sequence of lookups from an
instant on at which the clock of the Node SDK is past both, in which every key
set that is fetched is concordant: the two caches fetch at the same lookups,
accept at the same lookups, and hold keys for the same ids afterwards. -/
theorem caches_alike
    [AddCommGroup τ] [LinearOrder τ] [IsOrderedAddMonoid τ]
    (createPublicKey : JsonValue → Option String)
    (fromJwk : JsonValue → Option κ)
    (sameKeys : AcceptSame createPublicKey fromJwk)
    (pemText : ∀ item pem, createPublicKey item = some pem → pem ≠ "")
    (nodeEpoch pythonEpoch ttl minRefresh : τ)
    (lookups : List (Lookup τ))
    (inOrder : InOrder lookups)
    (late : ∀ first ∈ lookups.head?, ttl < nodeEpoch + first.now ∧
      minRefresh < nodeEpoch + first.now)
    (foreseen : ∀ lookup ∈ lookups, lookup.answer.Foreseen) :
    let nodeEnv : NodeEnv τ := ⟨createPublicKey, nodeEpoch, ttl, minRefresh⟩
    let nodeLook := NodeCache.look nodeEnv
    let pythonLook := PythonCache.look ⟨fromJwk, pythonEpoch, ttl, minRefresh⟩
    MeetsThroughout nodeLook
        (fun cache lookup =>
          cache.fetches nodeEnv lookup.kid lookup.now = true →
            lookup.answer.Concordant fun item => (createPublicKey item).isSome)
        .new lookups →
      answers nodeLook .new lookups = answers pythonLook .new lookups ∧
        ∀ kid, ((after nodeLook .new lookups).pems.get kid).isSome =
          ((after pythonLook .new lookups).keys.get kid).isSome := by
  intro nodeEnv nodeLook pythonLook concordant
  have allLate : ∀ lookup ∈ lookups, ttl < nodeEpoch + lookup.now ∧
      minRefresh < nodeEpoch + lookup.now := by
    intro lookup present
    cases lookups with
    | nil => contradiction
    | cons first rest =>
        have notEarlier := add_le_add_right (inOrder.first_le lookup present)
          nodeEpoch
        obtain ⟨pastTtl, pastInterval⟩ := late first rfl
        exact ⟨pastTtl.trans_le notEarlier, pastInterval.trans_le notEarlier⟩
  have kept : ∀ (node : NodeCache τ) (python : PythonCache κ τ),
      ∀ lookup ∈ lookups, Alike nodeEpoch pythonEpoch node python →
        (node.fetches nodeEnv lookup.kid lookup.now = true →
          lookup.answer.Concordant
            fun item => (createPublicKey item).isSome) →
          (nodeLook node lookup).2 = (pythonLook python lookup).2 ∧
            Alike nodeEpoch pythonEpoch (nodeLook node lookup).1
              (pythonLook python lookup).1 := by
    intro node python lookup present alike fetchesConcordant
    let pythonEnv : PythonEnv κ τ := ⟨fromJwk, pythonEpoch, ttl, minRefresh⟩
    have inStep : Alike nodeEnv.epoch pythonEnv.epoch node python := alike
    obtain ⟨pastTtl, pastInterval⟩ := allLate lookup present
    exact inStep.look sameKeys pemText rfl rfl pastTtl pastInterval
      (foreseen lookup present) fetchesConcordant
  obtain ⟨sameAnswers, alike⟩ := answers_eq_of_related
    (Alike nodeEpoch pythonEpoch) _ lookups kept concordant
    (alike_new nodeEpoch pythonEpoch)
  exact ⟨sameAnswers, alike.sameKids⟩

/-- The modulus of a key, if it has one. -/
def modulusOf : JsonValue → Option String
  | .object members => (members.lookup "n").bind JsonValue.text?
  | _ => none

/-- The text of a well-formed key, of which only the modulus matters. -/
def pemOf (item : JsonValue) : Option String :=
  (modulusOf item).map fun modulus => "-----BEGIN PUBLIC KEY-----" ++ modulus

theorem acceptSame_pemOf : AcceptSame pemOf modulusOf :=
  fun _ => Option.isSome_map

theorem pemOf_ne_empty
    (item : JsonValue)
    (pem : String)
    (parsed : pemOf item = some pem) :
    pem ≠ "" := by
  obtain ⟨modulus, _, rfl⟩ := Option.map_eq_some_iff.mp parsed
  simp

/-- A key as the endpoint publishes it. -/
def publishedKey (kid modulus : String) : JsonValue :=
  .object [("kid", .string kid), ("n", .string modulus)]

/-- A lookup that takes no time. -/
def lookupAt (now : Int) (kid : String) (answer : JwksAnswer) : Lookup Int :=
  ⟨kid, now, now, now, answer⟩

/-- A key, a forged id twice, a network failure, and a key set the last key of
which is malformed. -/
def demoLookups : List (Lookup Int) :=
  [lookupAt 0 "k1"
      (.keySet [publishedKey "k1" "n1", .object [("n", .string "n0")]]),
    lookupAt 5 "forged" (.keySet [publishedKey "k1" "n1"]),
    lookupAt 9 "forged" (.keySet [publishedKey "k1" "n1"]),
    lookupAt 700000 "k1" (.networkFailure "timed out"),
    lookupAt 700001 "k2"
      (.keySet [publishedKey "k2" "n2", .object [("kid", .string "k3")],
        .number 42]),
    lookupAt 700002 "k1" (.response 503 none)]

/-- The two caches behave alike in these lookups. -/
theorem caches_alike_demo :
    let nodeLook := NodeCache.look ⟨pemOf, 1754000000000, 600000, 30000⟩
    let pythonLook := PythonCache.look ⟨modulusOf, 81, 600000, 30000⟩
    answers nodeLook .new demoLookups = answers pythonLook .new demoLookups ∧
      ∀ kid, ((after nodeLook .new demoLookups).pems.get kid).isSome =
        ((after pythonLook .new demoLookups).keys.get kid).isSome := by
  refine caches_alike pemOf modulusOf acceptSame_pemOf pemOf_ne_empty
    1754000000000 81 600000 30000 demoLookups ?_ ?_ ?_ ?_
  · constructor
    · simp [demoLookups, lookupAt, Lookup.Ordered]
    · simp [demoLookups, lookupAt]
  · simp [demoLookups, lookupAt]
  · simp only [demoLookups, lookupAt, List.forall_mem_cons]
    exact ⟨.keyList _ _ rfl, .keyList _ _ rfl, .keyList _ _ rfl,
      .networkFailure _, .keyList _ _ rfl, .httpError _ _ rfl, nofun⟩
  · apply MeetsThroughout.of_forall
    simp only [demoLookups, lookupAt, List.forall_mem_cons,
      JwksAnswer.concordant_keySet]
    simp [JwksAnswer.Concordant, Concordant, ReadAlike, EndsBoth, publishedKey,
      JsonValue.pythonTruthy, modulusOf, pemOf, List.lookup_cons]

/-- A number before the key, an empty list as the id of a key that is refused,
and a list as the id of one that is accepted. -/
def discordantSets : List (List JsonValue) :=
  [[.number 42, publishedKey "k1" "n1"],
    [.object [("kid", .array [])], publishedKey "k1" "n1"],
    [.object [("kid", .array [.string "k0"]), ("n", .string "n0")],
      publishedKey "k1" "n1"]]

/-- From each of these key sets new caches differ, although their parsers accept
the same keys: one SDK accepts the key at the end, and the other has thrown. -/
theorem caches_differ :
    let nodeLook := NodeCache.look ⟨pemOf, 1754000000000, 600000, 30000⟩
    let pythonLook := PythonCache.look ⟨modulusOf, 81, 600000, 30000⟩
    AcceptSame pemOf modulusOf ∧
      ∀ items ∈ discordantSets,
        (JwksAnswer.keySet items).Foreseen ∧
          let lookups := [lookupAt 0 "k1" (.keySet items)]
          InOrder lookups ∧
            answers nodeLook .new lookups ≠ answers pythonLook .new lookups ∧
            ((after nodeLook .new lookups).pems.get "k1").isSome ≠
              ((after pythonLook .new lookups).keys.get "k1").isSome := by
  intro nodeLook pythonLook
  refine ⟨acceptSame_pemOf, fun items present => ⟨.keyList _ _ rfl, ?_, ?_⟩⟩
  · simp [InOrder, lookupAt, Lookup.Ordered]
  · revert items
    decide +kernel

end Sdk
end EvoPlatform
