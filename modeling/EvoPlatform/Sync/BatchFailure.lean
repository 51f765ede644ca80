import EvoPlatform.Sync.Endpoint

/-!
# Refused statements inside a batch

The loop over a batch catches the failure of each mutation by itself, but all
of them share one transaction.  `Isolated` says what the catch is for: a refused
mutation is rejected and the others fare as if it had not been sent.  The
endpoint meets it exactly when the database refuses nothing.
-/

namespace EvoPlatform
namespace Sync

/-- The texts a statement carries to the database. -/
def Statement.texts : Statement → List String
  | .findProject id => [id]
  | .upsertProject id tenantId fields =>
      [id, tenantId, fields.name, fields.description.getD "", fields.status]
  | .tombstoneProject id => [id]
  | .createStub id tenantId => [id, tenantId]
  | .findTask id => [id]
  | .upsertTask id tenantId projectId fields =>
      [id, tenantId, projectId, fields.title]
  | .tombstoneTask id => [id]

/-- An engine whose database refuses text that contains U+0000 and nothing
else. -/
def Engine.refusingNul (now : Nat) : Engine where
  now := now
  clock := id
  refuses := fun _ statement =>
    statement.texts.any fun text => text.toList.contains (Char.ofNat 0)

section Batches

variable (engine : Engine) (tenantId : String)

/-- The mutations whose statements the database refuses, when each of them is
passed over. -/
def refusedOnes : List SyncMutation → Db → List SyncMutation
  | [], _ => []
  | m :: mutations, db =>
      if refused engine tenantId m db then m :: refusedOnes mutations db
      else refusedOnes mutations (mutate engine tenantId m db).1

/-- The batch without them. -/
def carriedOutOnes : List SyncMutation → Db → List SyncMutation
  | [], _ => []
  | m :: mutations, db =>
      if refused engine tenantId m db then carriedOutOnes mutations db
      else m :: carriedOutOnes mutations (mutate engine tenantId m db).1

/-- Nothing is passed over in a batch without a refusal. -/
theorem refusedOnes_of_accepted
    (mutations : List SyncMutation) {db : Db}
    (accepted : batchRefused engine tenantId mutations db = false) :
    refusedOnes engine tenantId mutations db = [] ∧
      carriedOutOnes engine tenantId mutations db = mutations := by
  induction mutations generalizing db with
  | nil => exact ⟨rfl, rfl⟩
  | cons m mutations inductionHypothesis =>
      simp only [batchRefused, Bool.or_eq_false_iff] at accepted
      obtain ⟨noneRefused, allCarriedOut⟩ := inductionHypothesis accepted.2
      constructor
      · simpa [refusedOnes, accepted.1] using noneRefused
      · simpa [carriedOutOnes, accepted.1] using allCarriedOut

end Batches

/-- The request succeeds, its refused mutations are rejected, and the others
have the effect and the answers they have without the refused ones. -/
def Isolated (engine : Engine) (tenantId : String) (db : Db)
    (request : SyncRequest) : Prop :=
  ∃ answer alone : SyncResponse,
    (POST engine tenantId db request).2 = .ok answer ∧
    POST engine tenantId db { request with
        mutations := carriedOutOnes engine tenantId request.mutations db } =
      ((POST engine tenantId db request).1, .ok alone) ∧
    answer.applied = alone.applied ∧
    ∃ refusals : List (Int × RejectReason),
      refusals.map Prod.fst =
        (refusedOnes engine tenantId request.mutations db).map
          SyncMutation.seq ∧
      answer.rejected.Perm (alone.rejected ++ refusals)

/-- A valid request isolates its refused mutations exactly when it has none:
the first refusal aborts the transaction that the whole batch and the pull
share. -/
theorem isolated_iff_nothing_refused
    {engine : Engine} {tenantId : String} {db : Db} {request : SyncRequest}
    (valid : requestSchema request = true) :
    Isolated engine tenantId db request ↔
      batchRefused engine tenantId request.mutations db = false := by
  constructor
  · rintro ⟨answer, alone, succeeded, _⟩
    cases refusal : batchRefused engine tenantId request.mutations db with
    | false => rfl
    | true =>
        rw [POST_of_refused valid refusal] at succeeded
        contradiction
  · intro accepted
    obtain ⟨noneRefused, allCarriedOut⟩ :=
      refusedOnes_of_accepted engine tenantId request.mutations accepted
    have answered := POST_of_accepted valid accepted
    unfold Isolated
    rw [allCarriedOut, noneRefused, answered]
    exact ⟨_, _, rfl, rfl, rfl, [], rfl, by simp⟩

/-- A batch with one bad name among good mutations. -/
def poisonedRequest : SyncRequest where
  v := 2
  clientId := "browser"
  cursor := 0
  pullLimit := none
  mutations :=
    [⟨1, .project, .upsert, "p",
        some (ProjectData.payload ⟨"Garden", none, "Active"⟩)⟩,
      ⟨2, .project, .upsert, "q",
        some (ProjectData.payload
          ⟨String.ofList [Char.ofNat 0], none, "Active"⟩)⟩,
      ⟨3, .task, .upsert, "p::1",
        some (TaskData.payload ⟨"p", "Weed", false⟩)⟩]

/-- The schema accepts the poisoned batch, and the database refuses only the
second of its mutations, but the whole request fails. -/
theorem poisonedRequest_not_isolated :
    requestSchema poisonedRequest = true ∧
      (refusedOnes (Engine.refusingNul 0) "tenant-a"
        poisonedRequest.mutations Db.initial).map SyncMutation.seq = [2] ∧
      POST (Engine.refusingNul 0) "tenant-a" Db.initial poisonedRequest =
        (Db.initial, .error 500) ∧
      ¬Isolated (Engine.refusingNul 0) "tenant-a" Db.initial
        poisonedRequest := by
  have fails : POST (Engine.refusingNul 0) "tenant-a" Db.initial
      poisonedRequest = (Db.initial, .error 500) :=
    POST_of_refused (by decide) (by decide)
  refine ⟨by decide, by decide, fails, ?_⟩
  rintro ⟨answer, alone, succeeded, _⟩
  rw [fails] at succeeded
  contradiction

/-- Without the bad name the batch goes through. -/
theorem isolated_iff_nothing_refused_carriedOut :
    Isolated (Engine.refusingNul 0) "tenant-a" Db.initial
      { poisonedRequest with
        mutations := carriedOutOnes (Engine.refusingNul 0) "tenant-a"
          poisonedRequest.mutations Db.initial } :=
  (isolated_iff_nothing_refused (by decide)).mpr (by decide)

end Sync
end EvoPlatform
