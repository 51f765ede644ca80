import EvoPlatform.Sync.Collection

/-!
# The server as a source with a horizon

Requests write rows beyond every cursor, and a collection purges tombstones: the
two ways in which the rows of a tenant change.  A page brings rows that are
stored, and buries those whose tombstones lie between its two cursors.
-/

namespace EvoPlatform
namespace Sync

open Offline PurgedSource

/-! ## The server as a source -/

/-- The rows of the tenant and what was deleted for good. -/
def sourceOf (tenantId : String) (db : Db) (collected : RowKey → Bool) :
    PurgedSource RowKey where
  stored := db.stored tenantId
  purged key := db.stored tenantId key = none ∧ collected key = true
  horizon := db.horizon.getD 0

section Source

variable {tenantId : String} {before after : Db} {collected : RowKey → Bool}
  {key : RowKey}

/-- Requests leave the rows that are not newer, and delete none for good. -/
theorem stored_of_movesOn
    (moves : DbMovesOn tenantId before after)
    {row : Nat × Bool}
    (found : after.stored tenantId key = some row)
    (old : row.1 ≤ before.seq) :
    before.stored tenantId key = some row := by
  obtain ⟨table, id⟩ := key
  cases table with
  | project =>
      obtain ⟨project, stored, rfl⟩ := Option.map_eq_some_iff.mp found
      exact Option.map_eq_some_iff.mpr
        ⟨project, moves.projects.old id project stored old, rfl⟩
  | task =>
      obtain ⟨task, stored, rfl⟩ := Option.map_eq_some_iff.mp found
      exact Option.map_eq_some_iff.mpr
        ⟨task, moves.tasks.old id task stored old, rfl⟩

theorem stored_none_of_movesOn
    (moves : DbMovesOn tenantId before after)
    (gone : after.stored tenantId key = none) :
    before.stored tenantId key = none := by
  obtain ⟨table, id⟩ := key
  cases table with
  | project =>
      exact Option.map_eq_none_iff.mpr
        (moves.projects.kept id (Option.map_eq_none_iff.mp gone))
  | task =>
      exact Option.map_eq_none_iff.mpr
        (moves.tasks.kept id (Option.map_eq_none_iff.mp gone))

theorem OwnWrites.horizon
    {clock : Nat → Nat} {writer : String} {db written : Db}
    (writes : OwnWrites clock writer db written) :
    written.horizon = db.horizon := by
  induction writes with
  | refl => rfl
  | tail _ write inductionHypothesis =>
      cases write <;> exact inductionHypothesis

/-- A request of any tenant writes rows. -/
theorem rewritten_POST (engine : Engine) (writer : String) (db : Db)
    (request : SyncRequest) :
    Rewritten db.seq (sourceOf tenantId db collected)
      (sourceOf tenantId (POST engine writer db request).1 collected) where
  old := fun _ _ found old =>
    stored_of_movesOn (POST_movesOn engine writer tenantId db request) found old
  purged := fun _ purged =>
    ⟨stored_none_of_movesOn (POST_movesOn engine writer tenantId db request)
      purged.1, purged.2⟩
  horizon := congrArg (Option.getD · 0)
    (POST_ownWrites engine writer db request).horizon

/-- A collection deletes rows and changes none. -/
theorem stored_collect
    {bound : Nat} {row : Nat × Bool}
    (found : (before.collect bound).stored tenantId key = some row) :
    before.stored tenantId key = some row := by
  obtain ⟨table, id⟩ := key
  cases table with
  | project =>
      obtain ⟨project, stored, rfl⟩ := Option.map_eq_some_iff.mp found
      rw [Db.ownProject_eq_some_iff, Db.collect, Table.find?_eraseWhere,
        Option.filter_eq_some_iff] at stored
      exact Option.map_eq_some_iff.mpr ⟨project,
        (Db.ownProject_eq_some_iff _ _ _ _).mpr ⟨stored.1.1, stored.2⟩, rfl⟩
  | task =>
      obtain ⟨task, stored, rfl⟩ := Option.map_eq_some_iff.mp found
      rw [Db.ownTask_eq_some_iff, Db.collect, Table.find?_eraseWhere,
        Option.filter_eq_some_iff] at stored
      exact Option.map_eq_some_iff.mpr ⟨task,
        (Db.ownTask_eq_some_iff _ _ _ _).mpr ⟨stored.1.1, stored.2⟩, rfl⟩

/-- Where no row is deleted for good, nothing is collected. -/
theorem collectedBy_eq
    (kept : ∀ key, after.stored tenantId key = none →
      before.stored tenantId key = none) :
    collectedBy tenantId before after collected = collected := by
  funext key
  cases gone : after.stored tenantId key with
  | some row => simp [collectedBy, gone]
  | none => simp [collectedBy, gone, kept key gone]

/-- A row that a collection deletes is a tombstone. -/
theorem buried_of_collect
    {bound : Nat} {row : Nat × Bool}
    (tombstones : before.collectsTombstones bound = true)
    (stored : before.stored tenantId key = some row)
    (gone : (before.collect bound).stored tenantId key = none) :
    row.2 = true ∧ row.1 ≤ bound := by
  obtain ⟨table, id⟩ := key
  cases table with
  | project =>
      obtain ⟨project, found, rfl⟩ := Option.map_eq_some_iff.mp stored
      obtain ⟨present, own⟩ := (Db.ownProject_eq_some_iff _ _ _ _).mp found
      have erased := Option.map_eq_none_iff.mp gone
      rw [Db.ownProject, Db.collect, Table.find?_eraseWhere, present]
        at erased
      simpa [Option.filter_some, collects, own, Option.isSome_iff_ne_none]
        using erased
  | task =>
      obtain ⟨task, found, rfl⟩ := Option.map_eq_some_iff.mp stored
      obtain ⟨present, own⟩ := (Db.ownTask_eq_some_iff _ _ _ _).mp found
      have erased := Option.map_eq_none_iff.mp gone
      rw [Db.ownTask, Db.collect, Table.find?_eraseWhere, present] at erased
      have goes : before.collectsTask bound task = true := by
        simpa [Option.filter_some, own] using erased
      have isTombstone := List.all_eq_true.mp tombstones task
        (Table.mem_of_find? _ present)
      simpa [goes, collects] using isTombstone

/-- A collection that raises the horizon. -/
theorem purges_collect
    {bound : Nat}
    (raised : before.horizon.getD 0 ≤ bound)
    (tombstones : before.collectsTombstones bound = true) :
    Purges bound (sourceOf tenantId before collected)
      (sourceOf tenantId (before.collect bound)
        (collectedBy tenantId before (before.collect bound) collected)) where
  raised := raised
  horizon := rfl
  kept := fun _ _ found => stored_collect found
  purged := by
    rintro key ⟨gone, isCollected⟩
    cases stored : before.stored tenantId key with
    | none =>
        simp only [collectedBy, stored, Option.isSome_none, Bool.false_and,
          Bool.or_false] at isCollected
        exact Or.inl ⟨stored, isCollected⟩
    | some row =>
        have buried := buried_of_collect tombstones stored gone
        exact Or.inr ⟨row.1, buried.1 ▸ stored, buried.2⟩

end Source

/-! ## Working in a page -/

/-- A page without rows brings and buries nothing. -/
@[simp] theorem SyncResponse.brings_empty (data : SyncResponse) (key : RowKey) :
    ({ data with projects := [], tasks := [] } : SyncResponse).brings key =
      false := by
  obtain ⟨table, id⟩ := key
  cases table <;> rfl

@[simp] theorem SyncResponse.buries_empty (data : SyncResponse) (key : RowKey) :
    ({ data with projects := [], tasks := [] } : SyncResponse).buries key =
      false := by
  obtain ⟨table, id⟩ := key
  cases table <;> rfl

theorem mem_heldRows_iff {db : TenantDatabase} {key : RowKey} :
    key ∈ heldRows db ↔ holdsRow db key = true := by
  have stored : ∀ {α : Type} {keyOf : α → String} (table : Table keyOf)
      (id : String), (table.find? id).isSome = true ↔
        ∃ row ∈ table.rows, keyOf row = id := by
    intro α keyOf table id
    simp only [Option.isSome_iff_exists, Table.find?_eq_some_iff]
  obtain ⟨table, id⟩ := key
  cases table <;> simp [heldRows, holdsRow, stored]

/-- Only tombstones are delivered for a row that the page does not bring. -/
theorem display_of_not_brought
    {data : SyncResponse} {id : String}
    (notBrought : data.brings (.project, id) = false) :
    ∀ p ∈ data.projects, p.id = id → p.display = none := by
  intro p member keyed
  have buried := List.any_eq_false.mp notBrought p member
  simp only [keyed, decide_true, Bool.true_and, Option.isNone_iff_eq_none]
    at buried
  exact if_pos (Option.isSome_iff_ne_none.mpr buried)

theorem displayTask_of_not_brought
    {data : SyncResponse} {id : String}
    (notBrought : data.brings (.task, id) = false) :
    ∀ t ∈ data.tasks, t.id = id → t.display = none := by
  intro t member keyed
  have buried := List.any_eq_false.mp notBrought t member
  simp only [keyed, decide_true, Bool.true_and, Option.isNone_iff_eq_none]
    at buried
  exact if_pos (Option.isSome_iff_ne_none.mpr buried)

section Apply

variable {db : TenantDatabase} {data : SyncResponse} {id : String}

/-- A project that a page leaves without bringing it was there before and is
not on the page, unless it has a pending mutation. -/
theorem project_of_applied
    (free : db.outbox.hasPending .project id = false)
    (notBrought : data.brings (.project, id) = false)
    (held : ((applyChanges db data).projects.find? id).isSome = true) :
    (db.projects.find? id).isSome = true ∧
      ∀ p ∈ data.projects, p.id ≠ id := by
  have kept : ∀ (state : TenantDatabase) (p : ServerProject),
      state.outbox.hasPending .project id = false →
        (applyProject state p).outbox.hasPending .project id = false := by
    intro state p waits
    rw [(sameMeta_applyProject state p).outbox]
    exact waits
  rw [applyChanges, projects_foldl_applyTask] at held
  refine shown_of_foldl projectsOf ServerProject.id ServerProject.display
    kept ?_ ?_ data.projects free (display_of_not_brought notBrought) held
  · intro state p _ different
    rw [projectsOf, find?_applyProject, if_neg (by simp [different.symm])]
    rfl
  · intro state p waits same
    rw [projectsOf, find?_applyProject, if_pos ⟨same.symm, waits⟩]

/-- The same of a task, which may also go with its project. -/
theorem task_of_applied
    (free : db.outbox.hasPending .task id = false)
    (notBrought : data.brings (.task, id) = false)
    (held : ((applyChanges db data).tasks.find? id).isSome = true) :
    (db.tasks.find? id).isSome = true ∧ ∀ t ∈ data.tasks, t.id ≠ id := by
  have stillFree : (data.projects.foldl applyProject db).outbox.hasPending
      .task id = false := by
    rw [outbox_foldl_applyProject]
    exact free
  have kept : ∀ (state : TenantDatabase) (t : ServerTask),
      state.outbox.hasPending .task id = false →
        (applyTask state t).outbox.hasPending .task id = false := by
    intro state t waits
    rw [(sameMeta_applyTask state t).outbox]
    exact waits
  have worked : (tasksOf (data.projects.foldl applyProject db) id).isSome =
      true ∧ ∀ t ∈ data.tasks, t.id ≠ id := by
    refine shown_of_foldl tasksOf ServerTask.id ServerTask.display kept ?_ ?_
      data.tasks stillFree (displayTask_of_not_brought notBrought) held
    · intro state t _ different
      rw [find?_applyTask, if_neg (by simp [different.symm])]
    · intro state t waits same
      rw [find?_applyTask, if_pos ⟨same.symm, waits⟩]
  refine ⟨?_, worked.2⟩
  have left := worked.1
  rw [tasksOf, find?_tasks_foldl_applyProject] at left
  exact Option.isSome_of_isSome_filter _ _ left

/-- A row that is still there after a page that does not bring it was there
before, and what shadowed its tombstone is a pending mutation. -/
theorem held_of_applied
    {key : RowKey}
    (notBrought : data.brings key = false)
    (held : holdsRow (applyChanges db data) key = true) :
    holdsRow db key = true ∧
      (data.buries key = true → db.outbox.hasPending key.1 key.2 = true) := by
  obtain ⟨table, id⟩ := key
  cases pending : db.outbox.hasPending table id with
  | true =>
      refine ⟨?_, fun _ => rfl⟩
      cases table with
      | project =>
          rw [holdsRow, find?_projects_applyChanges_of_pending db pending]
            at held
          exact held
      | task =>
          rw [holdsRow, find?_tasks_applyChanges_of_pending db pending] at held
          exact Option.isSome_of_isSome_filter _ _ held
  | false =>
      cases table with
      | project =>
          obtain ⟨before, absent⟩ := project_of_applied pending notBrought held
          refine ⟨before, fun buried => ?_⟩
          simp only [SyncResponse.buries, Bool.and_eq_true, List.any_eq_true,
            decide_eq_true_eq] at buried
          obtain ⟨_, p, member, keyed⟩ := buried
          exact absurd keyed (absent p member)
      | task =>
          obtain ⟨before, absent⟩ := task_of_applied pending notBrought held
          refine ⟨before, fun buried => ?_⟩
          simp only [SyncResponse.buries, Bool.and_eq_true, List.any_eq_true,
            decide_eq_true_eq] at buried
          obtain ⟨_, t, member, keyed⟩ := buried
          exact absurd keyed (absent t member)

end Apply

/-! ## What a page tells -/

section Answers

variable {engine : Engine} {tenantId : String} {db : Db}
  {request : SyncRequest} {data : SyncResponse} {key : RowKey}

/-- What a page brings is stored, and not deleted. -/
theorem Answers.stored_of_brings
    (answers : Answers engine tenantId db request data)
    (brought : data.brings key = true) :
    ∃ version, (POST engine tenantId db request).1.stored tenantId key =
      some (version, false) := by
  obtain ⟨table, id⟩ := key
  cases table with
  | project =>
      obtain ⟨p, member, alive⟩ := List.any_eq_true.mp brought
      simp only [Bool.and_eq_true, decide_eq_true_eq, Option.isNone_iff_eq_none]
        at alive
      obtain ⟨project, found, _, same⟩ := answers.project_of_mem member
      have notDead : project.deletedAt = none :=
        (congrArg ServerProject.deletedAt same).trans alive.2
      refine ⟨project.rowVersion, ?_⟩
      rw [Db.stored, ← alive.1, found, Option.map_some, notDead]
      rfl
  | task =>
      obtain ⟨t, member, alive⟩ := List.any_eq_true.mp brought
      simp only [Bool.and_eq_true, decide_eq_true_eq, Option.isNone_iff_eq_none]
        at alive
      obtain ⟨task, found, _, same⟩ := answers.task_of_mem member
      have notDead : task.deletedAt = none :=
        (congrArg ServerTask.deletedAt same).trans alive.2
      refine ⟨task.rowVersion, ?_⟩
      rw [Db.stored, ← alive.1, found, Option.map_some, notDead]
      rfl

/-- A page buries the rows whose tombstones lie between the two cursors. -/
theorem Answers.buries_of_stored
    (answers : Answers engine tenantId db request data)
    {version : Nat}
    (stored : (POST engine tenantId db request).1.stored tenantId key =
      some (version, true))
    (above : request.cursor < version)
    (upTo : version ≤ data.cursor) :
    data.buries key = true := by
  have notBrought : data.brings key = false := by
    by_contra brought
    obtain ⟨_, alive⟩ :=
      answers.stored_of_brings (Bool.not_eq_false _ ▸ brought)
    rw [stored] at alive
    simp at alive
  obtain ⟨table, id⟩ := key
  simp only [SyncResponse.buries, notBrought, Bool.not_false, Bool.true_and]
  cases table with
  | project =>
      obtain ⟨project, found, same⟩ := Option.map_eq_some_iff.mp stored
      simp only [Prod.mk.injEq] at same
      obtain ⟨member, keyed⟩ := answers.covers_projects.complete id project
        found (same.1 ▸ above) (same.1 ▸ upTo)
      exact List.any_eq_true.mpr ⟨_, member, by simp [keyed]⟩
  | task =>
      obtain ⟨task, found, same⟩ := Option.map_eq_some_iff.mp stored
      simp only [Prod.mk.injEq] at same
      obtain ⟨member, keyed⟩ := answers.covers_tasks.complete id task
        found (same.1 ▸ above) (same.1 ▸ upTo)
      exact List.any_eq_true.mpr ⟨_, member, by simp [keyed]⟩

/-- A request that is answered was carried out. -/
theorem accepted_of_ok
    (succeeded : (POST engine tenantId db request).2 = .ok data) :
    requestSchema request = true ∧
      batchRefused engine tenantId request.mutations db = false := by
  cases valid : requestSchema request with
  | false =>
      rw [POST_of_invalid valid] at succeeded
      contradiction
  | true =>
      refine ⟨rfl, ?_⟩
      by_contra refusal
      rw [POST_of_refused valid (Bool.not_eq_false _ ▸ refusal)] at succeeded
      contradiction

/-- A cursor that is not behind the horizon, although it is past 0. -/
theorem horizon_le_of_ahead
    {horizon : Option Nat} {cursor : Nat}
    (positive : 0 < cursor)
    (ahead : behindHorizon horizon cursor = false) :
    horizon.getD 0 ≤ cursor := by
  cases horizon with
  | none => exact Nat.zero_le _
  | some bound => simpa [behindHorizon, positive] using ahead

end Answers

/-! ## The steps -/

/-- An event in which the loop of the client moves. -/
def PairingEvent.moves : PairingEvent → Bool
  | .start | .drain | .deliver | .lose | .proceed | .fail => true
  | _ => false

/-- A step: the data layer writes, the loop of the client moves, a request is
served, or tombstones are collected. -/
inductive PairingSteps (tenantId : String) (pairing : Pairing) :
    PairingEvent → Pairing → Prop
  | edit (event : Edit) (calls : Calls) :
      PairingSteps tenantId pairing (.edit event)
        ⟨pairing.db, pairing.peer.wrote event.write calls⟩
  | move (event : PairingEvent) (peer : Peer) :
      event.moves = true → PeerMoves pairing.peer peer →
      PairingSteps tenantId pairing event ⟨pairing.db, peer⟩
  | serve (engine : Engine) (loop : Nat) (snapshot : DrainSnapshot)
      (request : SyncRequest) :
      pairing.peer.client.phase = .awaiting loop snapshot request →
      PairingSteps tenantId pairing (.serve engine)
        ⟨(POST engine tenantId pairing.db request).1,
          pairing.peer.served engine tenantId pairing.db request⟩
  | other (arrival : Arrival) :
      PairingSteps tenantId pairing (.other arrival)
        ⟨(POST arrival.engine arrival.tenantId pairing.db arrival.request).1,
          pairing.peer⟩
  | collect (bound : Nat) :
      pairing.db.horizon.getD 0 ≤ bound →
      pairing.db.collectsTombstones bound = true →
      PairingSteps tenantId pairing (.collect bound)
        ⟨pairing.db.collect bound, pairing.peer⟩

theorem pairingSteps_of_step
    {tenantId : String} {pairing next : Pairing} {event : PairingEvent}
    (stepped : pairing.step tenantId event = some next) :
    PairingSteps tenantId pairing event next := by
  cases event with
  | edit event =>
      simp only [Pairing.step, Option.map_eq_some_iff] at stepped
      obtain ⟨peer, ran, rfl⟩ := stepped
      obtain ⟨⟨db, calls, phase⟩, edited, rfl⟩ := Peer.step_eq ran
      obtain ⟨written, samePhase⟩ := step_edit edited
      change db = _ at written
      change phase = _ at samePhase
      subst written samePhase
      exact .edit event calls
  | start =>
      simp only [Pairing.step, Option.map_eq_some_iff] at stepped
      obtain ⟨peer, ran, rfl⟩ := stepped
      exact .move _ _ rfl (moves_of_start ran)
  | drain =>
      simp only [Pairing.step, Option.map_eq_some_iff] at stepped
      obtain ⟨peer, ran, rfl⟩ := stepped
      exact .move _ _ rfl (moves_of_drain ran)
  | serve engine =>
      simp only [Pairing.step] at stepped
      split at stepped
      · rename_i loop snapshot request awaiting _
        simp only [Option.some.injEq] at stepped
        exact stepped ▸ .serve engine loop snapshot request awaiting
      · contradiction
  | deliver =>
      simp only [Pairing.step, Option.bind_eq_some_iff,
        Option.map_eq_some_iff] at stepped
      obtain ⟨reply, waiting, peer, ran, rfl⟩ := stepped
      exact .move _ _ rfl (moves_of_deliver waiting ran)
  | lose =>
      simp only [Pairing.step, Option.map_eq_some_iff] at stepped
      obtain ⟨peer, ran, rfl⟩ := stepped
      exact .move _ _ rfl (moves_of_lose ran)
  | proceed =>
      simp only [Pairing.step, Option.map_eq_some_iff] at stepped
      obtain ⟨peer, ran, rfl⟩ := stepped
      exact .move _ _ rfl (moves_of_proceed ran)
  | fail =>
      simp only [Pairing.step, Option.map_eq_some_iff] at stepped
      obtain ⟨peer, ran, rfl⟩ := stepped
      exact .move _ _ rfl (moves_of_fail ran)
  | other arrival =>
      simp only [Pairing.step, serve, Option.map_some,
        Option.some.injEq] at stepped
      exact stepped ▸ .other arrival
  | collect bound =>
      simp only [Pairing.step] at stepped
      split at stepped
      · rename_i allowed
        simp only [Option.some.injEq] at stepped
        exact stepped ▸ .collect bound allowed.1 allowed.2
      · contradiction

end Sync
end EvoPlatform
