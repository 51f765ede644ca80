import EvoPlatform.Sync.Semantics

/-!
# The sync endpoint

`POST` checks the request and runs the batch and the pull in one transaction.
The transaction commits only when its code runs to the end; otherwise it is
rolled back and the request is answered with status 500.
-/

namespace EvoPlatform
namespace Sync

/-- What a client gets back from `POST`. -/
inductive SyncReply
  | ok (response : SyncResponse)
  | error (status : Nat)
  deriving DecidableEq

/-- `tx.syncGcHorizon.findUnique`, a statement like any other. -/
def findHorizon : BatchM (Option Nat) := fun state =>
  if state.aborted then .error .aborted state
  else .ok state.db.horizon state

/-- `pullChanges` with its statements. -/
def pull (tenantId : String) (cursor limit : Nat) : BatchM PullResult :=
  fun state =>
    if state.aborted then .error .aborted state
    else .ok (pullChanges state.db tenantId cursor limit) state

/-- `gc && clientCursor > BigInt(0) && clientCursor < gc.horizon`. -/
def behindHorizon (horizon : Option Nat) (cursor : Nat) : Bool :=
  horizon.any fun bound => 0 < cursor && cursor < bound

/-- The callback of `prisma.$transaction`. -/
def syncTransaction (engine : Engine) (tenantId : String)
    (request : SyncRequest) : BatchM (ApplyResult × Option PullResult) := do
  applyMutations engine tenantId request.mutations
  let state ← get
  let apply : ApplyResult := ⟨state.applied, state.rejected⟩
  let gc ← findHorizon
  if behindHorizon gc request.cursor then
    return (apply, none)
  else
    let pulled ← pull tenantId request.cursor
      (effectiveLimit request.pullLimit)
    return (apply, some pulled)

/-- The body of a successful answer. -/
def SyncRequest.respond (request : SyncRequest) (apply : ApplyResult) :
    Option PullResult → SyncResponse
  | none =>
      { applied := apply.applied
        rejected := apply.rejected
        projects := []
        tasks := []
        cursor := request.cursor
        hasMore := false
        resyncRequired := true }
  | some pulled =>
      { applied := apply.applied
        rejected := apply.rejected
        projects := pulled.projects
        tasks := pulled.tasks
        cursor := pulled.cursor
        hasMore := pulled.hasMore
        resyncRequired := false }

/-- `POST` for a session of the tenant. -/
def POST (engine : Engine) (tenantId : String) (db : Db)
    (request : SyncRequest) : Db × SyncReply :=
  if !requestSchema request then (db, .error 400)
  else
    match syncTransaction engine tenantId request (BatchState.begin db) with
    | .ok (apply, pulled) state =>
        (state.db, .ok (request.respond apply pulled))
    | .error _ _ => (db, .error 500)

/-! ## What a request does -/

section Requests

variable {engine : Engine} {tenantId : String} {db : Db}
  {request : SyncRequest}

/-- The batch of a request, from a fresh transaction. -/
def settled (engine : Engine) (tenantId : String) (db : Db)
    (request : SyncRequest) : BatchState :=
  settleBatch engine tenantId request.mutations (BatchState.begin db)

/-- The pull of a request that has settled, unless its cursor is too old. -/
def SyncRequest.pulled (request : SyncRequest) (tenantId : String) (db : Db) :
    Option PullResult :=
  if behindHorizon db.horizon request.cursor then none
  else some (pullChanges db tenantId request.cursor
    (effectiveLimit request.pullLimit))

@[simp] theorem aborted_settleBatch
    (mutations : List SyncMutation) (state : BatchState) :
    (settleBatch engine tenantId mutations state).aborted =
      state.aborted := by
  induction mutations generalizing state with
  | nil => rfl
  | cons m mutations inductionHypothesis => simp [inductionHypothesis]

/-- A request that fails the schema changes nothing. -/
theorem POST_of_invalid
    (invalid : requestSchema request = false) :
    POST engine tenantId db request = (db, .error 400) := by
  simp [POST, invalid]

/-- A request whose statements are carried out commits its batch and answers
from the state the batch leaves. -/
theorem POST_of_accepted
    (valid : requestSchema request = true)
    (accepted : batchRefused engine tenantId request.mutations db = false) :
    POST engine tenantId db request =
      ((settled engine tenantId db request).db,
        .ok (request.respond
          ⟨(settled engine tenantId db request).applied,
            (settled engine tenantId db request).rejected⟩
          (request.pulled tenantId
            (settled engine tenantId db request).db))) := by
  have ran : applyMutations engine tenantId request.mutations
      (BatchState.begin db) = .ok () (settled engine tenantId db request) :=
    applyMutations_of_accepted engine tenantId request.mutations rfl accepted
  have notAborted : (settled engine tenantId db request).aborted = false := by
    simp [settled, BatchState.begin]
  have transaction : syncTransaction engine tenantId request
      (BatchState.begin db) =
        .ok (⟨(settled engine tenantId db request).applied,
            (settled engine tenantId db request).rejected⟩,
          request.pulled tenantId (settled engine tenantId db request).db)
          (settled engine tenantId db request) := by
    rw [syncTransaction, bind_of_ok ran, bind_get]
    simp only [bind, EStateM.bind, findHorizon, notAborted,
      Bool.false_eq_true, if_false, SyncRequest.pulled]
    split <;> simp [pure, EStateM.pure, pull, notAborted, EStateM.bind]
  simp only [POST, valid, Bool.not_true, Bool.false_eq_true, if_false,
    transaction]

/-- A request one of whose statements is refused is rolled back as a whole. -/
theorem POST_of_refused
    (valid : requestSchema request = true)
    (refusal : batchRefused engine tenantId request.mutations db = true) :
    POST engine tenantId db request = (db, .error 500) := by
  have fresh : (BatchState.begin db).aborted = false := rfl
  obtain ⟨final, ran, isAborted⟩ := applyMutations_of_refused engine tenantId
    request.mutations fresh refusal
  have transaction : syncTransaction engine tenantId request
      (BatchState.begin db) = .error .aborted final := by
    rw [syncTransaction, bind_of_ok ran, bind_get]
    simp [bind, EStateM.bind, findHorizon, isAborted]
  simp only [POST, valid, Bool.not_true, Bool.false_eq_true, if_false,
    transaction]

/-- A request that is not answered with success has changed nothing. -/
theorem POST_of_error
    {status : Nat}
    (failed : (POST engine tenantId db request).2 = .error status) :
    (POST engine tenantId db request).1 = db := by
  cases valid : requestSchema request with
  | false => rw [POST_of_invalid valid]
  | true =>
      cases refusal : batchRefused engine tenantId request.mutations db with
      | true => rw [POST_of_refused valid refusal]
      | false =>
          rw [POST_of_accepted valid refusal] at failed
          contradiction

/-- A request that is answered with success has settled its batch. -/
theorem POST_of_ok
    {data : SyncResponse}
    (succeeded : (POST engine tenantId db request).2 = .ok data) :
    (POST engine tenantId db request).1 =
      (settled engine tenantId db request).db := by
  cases valid : requestSchema request with
  | false =>
      rw [POST_of_invalid valid] at succeeded
      contradiction
  | true =>
      cases refusal : batchRefused engine tenantId request.mutations db with
      | true =>
          rw [POST_of_refused valid refusal] at succeeded
          contradiction
      | false => rw [POST_of_accepted valid refusal]

end Requests

end Sync
end EvoPlatform
