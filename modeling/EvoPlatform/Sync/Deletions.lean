import EvoPlatform.Sync.Shadows

/-!
# Deleted projects

The server tombstones a deleted project and leaves its tasks alone, whereas a
client drops the tasks together with the project.  The two come to the same as
long as a deletion reaches the server only when the project has no live task
left.  This module says what then holds of the server and of each client.
-/

namespace EvoPlatform
namespace Sync

open Offline

/-! ## The server -/

/-- The project into which an upsert of a task writes. -/
def Db.targetOf (db : Db) (m : SyncMutation) : Option Project :=
  match db.tasks.find? m.id with
  | some stored => db.projects.find? stored.projectId
  | none => (textArgument (m.field "projectId")).bind db.projects.find?

/-- A deletion of a project meets no live task of it, and no task is written into
a deleted project. -/
def leavesNoOrphan (db : Db) (m : SyncMutation) : Bool :=
  match m.table, m.op with
  | .project, .delete => db.tasks.rows.all fun task =>
      task.projectId ≠ m.id || task.deletedAt.isSome
  | .task, .upsert => (db.targetOf m).all fun project =>
      project.deletedAt.isNone
  | _, _ => true

/-- A server on which live tasks belong to live projects of their tenant. -/
structure Orderly (tenantId : String) (db : Db) : Prop where
  consistent : TenantConsistent db
  noOrphan : ∀ task ∈ db.tasks.rows, task.tenantId = tenantId →
    task.deletedAt = none →
      ∀ project, db.projects.find? task.projectId = some project →
        project.deletedAt = none

theorem Orderly.initial (tenantId : String) : Orderly tenantId Db.initial :=
  ⟨by simp [TenantConsistent, Db.initial, Table.empty],
    by simp [Db.initial, Table.empty]⟩

/-- The tasks of a project up to a cursor are deleted. -/
def Emptied (tenantId : String) (db : Db) (projectId : String) (cursor : Nat) :
    Prop :=
  ∀ id task, db.ownTask tenantId id = some task → task.projectId = projectId →
    task.rowVersion ≤ cursor → task.deletedAt.isSome = true

theorem Emptied.moveOn
    {tenantId : String} {db after : Db} {projectId : String} {cursor : Nat}
    (emptied : Emptied tenantId db projectId cursor)
    (moves : DbMovesOn tenantId db after)
    (le : cursor ≤ db.seq) :
    Emptied tenantId after projectId cursor :=
  fun id task found placed upTo =>
    emptied id task (moves.tasks.old id task found (upTo.trans le)) placed upTo

section Server

variable {engine : Engine} {tenantId : String} {db : Db}

/-- The tasks of a deleted project are deleted. -/
theorem Orderly.emptied
    (orderly : Orderly tenantId db)
    {project : Project}
    (found : db.projects.find? project.id = some project)
    (gone : project.deletedAt.isSome = true)
    (cursor : Nat) :
    Emptied tenantId db project.id cursor := by
  intro id task present placed _
  obtain ⟨stored, own⟩ := (Db.ownTask_eq_some_iff _ _ _ _).mp present
  cases live : task.deletedAt with
  | some time => rfl
  | none =>
      have := orderly.noOrphan task (Table.mem_of_find? _ stored) own live
        project (placed ▸ found)
      simp [this] at gone

/-- A project that is found after `ensureProject` was there or is live. -/
theorem Db.find?_ensureProject
    {clock : Nat → Nat} {id other : String} {project : Project}
    (found : (db.ensureProject clock id tenantId).projects.find? other =
      some project) :
    db.projects.find? other = some project ∨
      db.projects.find? other = none ∧ project.deletedAt = none := by
  unfold Db.ensureProject at found
  split at found
  · exact Or.inl found
  · rename_i absent
    rw [Db.projects_find?_putProject] at found
    split at found
    · rename_i same
      cases found
      exact Or.inr ⟨same ▸ Option.not_isSome_iff_eq_none.mp absent, rfl⟩
    · exact Or.inl found

/-- The server stays orderly. -/
theorem Orderly.mutate
    {m : SyncMutation}
    (orderly : Orderly tenantId db)
    (safe : leavesNoOrphan db m = true)
    (applied : (mutate engine tenantId m db).2 = .applied) :
    Orderly tenantId (mutate engine tenantId m db).1 := by
  have mutates := mutate_mutates engine tenantId m db
  have consistent := mutates.ownWrites.tenantConsistent orderly.consistent
  refine ⟨consistent, ?_⟩
  rw [applied] at mutates
  generalize (Sync.mutate engine tenantId m db).1 = written at mutates ⊢
  cases mutates with
  | projectUpserted fields _ _ _ _ =>
      intro task present own live project found
      rw [Db.projects_find?_putProject] at found
      split at found
      · cases found
        exact upsertedProject_deletedAt m.id tenantId fields
      · exact orderly.noOrphan task present own live project found
  | projectDeleted stored table op found own _ =>
      intro task present taskOwn live project parent
      rw [Db.projects_find?_putProject] at parent
      split at parent
      · rename_i placed
        have sameId : stored.id = m.id := db.projects.key_of_find? found
        simp only [leavesNoOrphan, table, op, List.all_eq_true] at safe
        have := safe task present
        simp [placed, sameId, live] at this
      · exact orderly.noOrphan task present taskOwn live project parent
  | projectGone table op gone => exact orderly.noOrphan
  | taskUpserted projectId fields base parent table op named _ isBase _ _ =>
      subst isBase
      intro task present own live project found
      rw [Db.putTask, Table.mem_put_iff] at present
      rcases present with rfl | ⟨old, _⟩
      · change (db.ensureProject engine.clock projectId tenantId).projects.find?
          (Db.upsertedTask _ m.id tenantId projectId fields).projectId =
            some project at found
        rcases Db.find?_ensureProject found with stored | ⟨_, isLive⟩
        · have target : db.targetOf m = some project := by
            unfold Db.targetOf
            unfold Db.upsertedTask at stored
            rw [Db.tasks_ensureProject] at stored
            cases before : db.tasks.find? m.id with
            | none => simpa [before, named, textArgument] using stored
            | some task => simpa [before] using stored
          simpa [leavesNoOrphan, table, op, target] using safe
        · exact isLive
      · rw [Db.tasks_ensureProject] at old
        rcases Db.find?_ensureProject found with stored | ⟨absent, isLive⟩
        · exact orderly.noOrphan task old own live project stored
        · exact isLive
  | taskDeleted stored parent _ _ _ _ _ =>
      intro task present own live project found
      rw [Db.putTask, Table.mem_put_iff] at present
      rcases present with rfl | ⟨old, _⟩
      · simp at live
      · exact orderly.noOrphan task old own live project found
  | taskGone _ _ _ => exact orderly.noOrphan

/-- An applied deletion of a project has emptied it. -/
theorem emptied_mutate
    {m : SyncMutation}
    (safe : leavesNoOrphan db m = true)
    (applied : (mutate engine tenantId m db).2 = .applied)
    (table : m.table = .project)
    (op : m.op = .delete)
    (cursor : Nat) :
    Emptied tenantId (mutate engine tenantId m db).1 m.id cursor := by
  have sameTasks : (mutate engine tenantId m db).1.tasks = db.tasks := by
    have mutates := mutate_mutates engine tenantId m db
    rw [applied] at mutates
    generalize (Sync.mutate engine tenantId m db).1 = written at mutates ⊢
    cases mutates with
    | projectUpserted => rfl
    | projectDeleted => rfl
    | projectGone => rfl
    | taskUpserted _ _ _ _ isTask =>
        rw [table] at isTask
        contradiction
    | taskDeleted _ _ isTask =>
        rw [table] at isTask
        contradiction
    | taskGone => rfl
  intro id task found placed _
  obtain ⟨stored, _⟩ := (Db.ownTask_eq_some_iff _ _ _ _).mp found
  rw [sameTasks] at stored
  simp only [leavesNoOrphan, table, op, List.all_eq_true] at safe
  simpa [placed] using safe task (Table.mem_of_find? _ stored)

variable {request : SyncRequest}

/-- A request without rejections keeps the server orderly, and the projects it
deletes are empty. -/
theorem Answers.deletions
    {data : SyncResponse}
    (answers : Answers engine tenantId db request data)
    (noRejection : data.rejected = [])
    (safe : batchAll leavesNoOrphan engine tenantId request.mutations db =
      true)
    (orderly : Orderly tenantId db)
    (upTo : request.cursor ≤ db.seq) :
    Orderly tenantId (POST engine tenantId db request).1 ∧
      ∀ m ∈ request.mutations, m.table = .project → m.op = .delete →
        Emptied tenantId (POST engine tenantId db request).1 m.id
          request.cursor := by
  have batch := answers.batch noRejection leavesNoOrphan
    (fun db => Orderly tenantId db ∧ request.cursor ≤ db.seq)
    (fun db m => m.table = .project → m.op = .delete →
      Emptied tenantId db m.id request.cursor)
    (fun db m holds passed applied =>
      ⟨⟨holds.1.mutate passed applied,
          holds.2.trans (mutate_movesOn engine tenantId m db).seq_le⟩,
        fun table op => emptied_mutate passed applied table op _⟩)
    (fun db _ later holds emptied table op =>
      (emptied table op).moveOn (mutate_movesOn engine tenantId later db)
        holds.2)
    safe ⟨orderly, upTo⟩
  exact ⟨batch.1.1, batch.2⟩

/-- The writes of another tenant keep the server orderly. -/
theorem Orderly.foreign
    {clock : Nat → Nat} {writer : String} {written : Db}
    (orderly : Orderly tenantId db)
    (writes : OwnWrites clock writer db written)
    (other : writer ≠ tenantId) :
    Orderly tenantId written := by
  have unchanged := writes.foreignUnchanged
  refine ⟨writes.tenantConsistent orderly.consistent, ?_⟩
  intro task present own live project parent
  have wasPresent := (unchanged.tasks task
    (own.trans_ne other.symm)).mp present
  obtain ⟨stored, found⟩ := Option.isSome_iff_exists.mp
    (db.taskParent task wasPresent)
  have storedPresent := db.projects.mem_of_find? found
  have storedOwn := orderly.consistent task wasPresent stored storedPresent
    (db.projects.key_of_find? found)
  have stays := (unchanged.projects stored
    (storedOwn.symm.trans own |>.trans_ne other.symm)).mpr storedPresent
  have same : stored = project := by
    have refound := written.projects.find?_of_mem stays
    rw [db.projects.key_of_find? found, parent] at refound
    exact (Option.some.inj refound).symm
  exact same ▸ orderly.noOrphan task wasPresent own live stored found

end Server

/-! ## The clients -/

/-- A project whose deletion is queued has nothing else queued. -/
def DeletesLast (outbox : Outbox) : Prop :=
  ∀ deletion ∈ outbox.entries, deletion.table = .project →
    deletion.op = .delete →
      ∀ m ∈ outbox.entries, m.table = .project → m.rowId = deletion.rowId →
        m.op = .delete

theorem DeletesLast.subset
    {outbox smaller : Outbox}
    (deletes : DeletesLast outbox)
    (fewer : ∀ m ∈ smaller.entries, m ∈ outbox.entries) :
    DeletesLast smaller :=
  fun deletion queued table op m member =>
    deletes deletion (fewer _ queued) table op m (fewer _ member)

/-- Queue a mutation other than the upsert of a project whose deletion is
queued. -/
theorem DeletesLast.enqueue
    {outbox : Outbox} {table : SyncTable} {rowId : String} {op : SyncOp}
    {data : Option JsonObject}
    (deletes : DeletesLast outbox)
    (kept : table = .project → op = .upsert → ∀ m ∈ outbox.entries,
      m.table = .project → m.rowId = rowId → m.op ≠ .delete)
    (alone : table = .project → op = .delete → ∀ m ∈ outbox.entries,
      m.table = .project → m.rowId ≠ rowId) :
    DeletesLast (outbox.enqueue table rowId op data) := by
  intro deletion queued isProject isDelete m member table' same
  rw [Outbox.entries_enqueue, List.mem_append, List.mem_singleton]
    at queued member
  rcases queued with old | rfl
  · rcases member with mOld | rfl
    · exact deletes deletion old isProject isDelete m mOld table' same
    · cases op with
      | delete => rfl
      | upsert =>
          exact absurd isDelete (kept table' rfl deletion old isProject same.symm)
  · rcases member with mOld | rfl
    · exact absurd same (alone isProject isDelete m mOld table')
    · exact isDelete

theorem DeletesLast.enqueue_task
    {outbox : Outbox} {rowId : String} {op : SyncOp} {data : Option JsonObject}
    (deletes : DeletesLast outbox) :
    DeletesLast (outbox.enqueue .task rowId op data) := by
  refine deletes.enqueue (fun isProject => ?_) fun isProject => ?_
  · cases isProject
  · cases isProject

/-- A write of the data layer, other than of a project whose deletion is
queued. -/
theorem DeletesLast.write
    {db : TenantDatabase}
    (deletes : DeletesLast db.outbox)
    (write : LocalWrite)
    (kept : ∀ project, write = .project project → ∀ m ∈ db.outbox.entries,
      m.table = .project → m.rowId = project.id → m.op ≠ .delete) :
    DeletesLast (db.write write).outbox := by
  cases write with
  | nothing => exact deletes
  | project project =>
      refine deletes.enqueue (fun _ _ => kept project rfl) fun _ isDelete => ?_
      cases isDelete
  | task task => exact deletes.enqueue_task
  | deleteProject id =>
      refine DeletesLast.enqueue
        (deletes.subset fun m => List.mem_of_mem_filter)
        (fun _ isUpsert => ?_) ?_
      · cases isUpsert
      rintro _ _ m queued _ rfl
      have purged : Outbox.purges m.rowId m = true := by simp [Outbox.purges]
      have := (List.mem_filter.mp queued).2
      simp [purged] at this
  | deleteTask id => exact deletes.enqueue_task

/-- What holds of every peer of an orderly server. -/
structure Deletes (tenantId : String) (server : Db) (peer : Peer) : Prop where
  queued : DeletesLast peer.client.db.outbox
  taken : peer.sending = true → DeletesLast peer.taken
  /-- The projects it has deleted are empty. -/
  sent : peer.sending = true → peer.answer?.isSome = true →
    ∀ sent, IsLast peer.taken.entries sent → sent.table = .project →
      sent.op = .delete →
        Emptied tenantId server sent.rowId peer.client.db.cursor
  /-- The projects it is told to drop are empty. -/
  pulled : ∀ data, peer.answer? = some data →
    ∀ p ∈ data.projects, p.deletedAt.isSome = true →
      Emptied tenantId server p.id peer.client.db.cursor

namespace Deletes

variable {tenantId : String} {server after : Db} {peer next : Peer}

/-- Outside of an iteration only the outbox matters. -/
theorem of_ended
    (ended : peer.client.phase.ended = true)
    (queued : DeletesLast peer.client.db.outbox) :
    Deletes tenantId server peer := by
  obtain ⟨notSending, noAnswer, -⟩ := Peer.quiet_of_ended ended
  exact ⟨queued, fun sending => absurd sending notSending,
    fun sending => absurd sending notSending, by simp [noAnswer]⟩

/-- The server may move on. -/
theorem moveOn
    (deletes : Deletes tenantId server peer)
    (proper : Proper server peer)
    (moves : DbMovesOn tenantId server after) :
    Deletes tenantId after peer :=
  { deletes with
    sent := fun sending answered sent isLast table op =>
      (deletes.sent sending answered sent isLast table op).moveOn moves
        proper.cursor_le
    pulled := fun data answered p member gone =>
      (deletes.pulled data answered p member gone).moveOn moves
        proper.cursor_le }

/-- The data layer writes. -/
theorem wrote
    (deletes : Deletes tenantId server peer)
    (write : LocalWrite) (calls : Calls)
    (kept : ∀ project, write = .project project →
      ∀ m ∈ peer.client.db.outbox.entries, m.table = .project →
        m.rowId = project.id → m.op ≠ .delete) :
    Deletes tenantId server (peer.wrote write calls) where
  queued := deletes.queued.write write kept
  taken := deletes.taken
  sent := by
    intro sending answered sent isLast table op
    simpa [Peer.wrote] using
      deletes.sent sending answered sent isLast table op
  pulled := by
    intro data answered p member gone
    simpa [Peer.wrote] using deletes.pulled data answered p member gone

/-- A move of the loop. -/
theorem move
    (deletes : Deletes tenantId server peer)
    (proper : Proper server peer)
    (moves : PeerMoves peer next) :
    Deletes tenantId server next := by
  cases moves with
  | started idle => exact .of_ended rfl deletes.queued
  | sent loop draining =>
      have noReply := proper.noReply (by simp [draining])
      exact ⟨deletes.queued, fun _ => deletes.queued,
        by simp [Peer.answer?, noReply], by simp [Peer.answer?, noReply]⟩
  | stopped => exact .of_ended rfl deletes.queued
  | gaveUp loop draining => exact .of_ended rfl deletes.queued
  | resyncing loop snapshot request data awaiting replied resync =>
      have answered : peer.answer? = some data := by
        simp [Peer.answer?, awaiting, replied]
      rw [(proper.answer data answered).2.1] at resync
      contradiction
  | answered loop snapshot request data awaiting replied noResync =>
      have answered : peer.answer? = some data := by
        simp [Peer.answer?, awaiting, replied]
      have sending : peer.sending = true := by
        simp [Peer.sending, awaiting]
      refine ⟨deletes.queued, fun _ => deletes.taken sending,
        fun _ _ => deletes.sent sending (by simp [answered]), ?_⟩
      rintro _ ⟨⟩
      exact deletes.pulled data answered
  | wiped loop resyncing => exact absurd resyncing (proper.notResyncing loop)
  | cleared loop snapshot data clearing =>
      have answered : peer.answer? = some data := by
        simp [Peer.answer?, clearing]
      refine ⟨deletes.queued.subset fun m => List.mem_of_mem_filter,
        by simp [Peer.sending], by simp [Peer.sending], ?_⟩
      rintro _ ⟨⟩
      exact deletes.pulled data answered
  | dropped loop snapshot data dropping =>
      have answered : peer.answer? = some data := by
        simp [Peer.answer?, dropping]
      refine ⟨deletes.queued.subset fun m => List.mem_of_mem_filter,
        by simp [Peer.sending], by simp [Peer.sending], ?_⟩
      rintro _ ⟨⟩
      exact deletes.pulled data answered
  | applied loop data applying =>
      exact ⟨by simpa using deletes.queued, by simp [Peer.sending],
        by simp [Peer.sending], by simp [Peer.answer?]⟩
  | continued loop data settledAt advancing isNone =>
      exact .of_ended rfl deletes.queued
  | finished loop data advancing last => exact .of_ended rfl deletes.queued

/-- The request of the peer is served. -/
theorem served
    {engine : Engine} {loop : Nat} {snapshot : DrainSnapshot}
    {request : SyncRequest}
    (deletes : Deletes tenantId server peer)
    (proper : Proper server peer)
    (uncollected : Uncollected server)
    (orderly : Orderly tenantId server)
    (awaiting : peer.client.phase = .awaiting loop snapshot request)
    (noRejection : ∀ data, (POST engine tenantId server request).2 = .ok data →
      data.rejected = [])
    (safe : batchAll leavesNoOrphan engine tenantId request.mutations server =
      true) :
    Orderly tenantId (POST engine tenantId server request).1 ∧
      Deletes tenantId (POST engine tenantId server request).1
        (peer.served engine tenantId server request) := by
  have moves := POST_movesOn engine tenantId tenantId server request
  have sending : peer.sending = true := by simp [Peer.sending, awaiting]
  obtain ⟨_, sent, sameCursor⟩ := proper.awaiting _ _ _ awaiting
  cases replied : (POST engine tenantId server request).2 with
  | error status =>
      have noAnswer :
          (peer.served engine tenantId server request).answer? = none := by
        simp [Peer.answer?, Peer.served, awaiting, replied]
      rw [POST_of_error replied]
      exact ⟨orderly, deletes.queued, deletes.taken, by simp [noAnswer],
        by simp [noAnswer]⟩
  | ok data =>
      have answered :
          (peer.served engine tenantId server request).answer? = some data := by
        simp [Peer.answer?, Peer.served, awaiting, replied]
      have answers := answers_of_succeeded uncollected replied
      obtain ⟨kept, emptied⟩ := answers.deletions (noRejection data replied) safe
        orderly (sameCursor ▸ proper.cursor_le)
      refine ⟨kept, deletes.queued, deletes.taken, ?_, ?_⟩
      · intro _ _ deletion isLast table op
        have member : sentMutation deletion ∈ request.mutations := by
          rw [sent]
          exact List.mem_map.mpr
            ⟨deletion, mem_toSend_iff_isLast.mpr isLast, rfl⟩
        have := emptied _ member table op
        rwa [sameCursor] at this
      · intro other isAnswer p member gone
        rw [answered] at isAnswer
        cases isAnswer
        obtain ⟨project, found, _, rfl⟩ := answers.project_of_mem member
        obtain ⟨stored, _⟩ := (Db.ownProject_eq_some_iff _ _ _ _).mp found
        exact kept.emptied stored gone _

end Deletes

/-! ## Runs without orphans -/

/-- No deletion of a project is served while the project has a live task, and no
task is written into a deleted project. -/
def servesNoOrphan (tenantId : String) (system : System) :
    SystemEvent → Bool
  | .serve index engine =>
      match (system.peers index).client.phase with
      | .awaiting _ _ request =>
          batchAll leavesNoOrphan engine tenantId request.mutations system.db
      | _ => true
  | _ => true

/-- No project is written while its deletion is queued. -/
def restoresNothing (system : System) : SystemEvent → Bool
  | .edit index event =>
      match event.write with
      | .project project =>
          (system.peers index).client.db.outbox.entries.all fun m =>
            m.table = .task || m.rowId ≠ project.id || m.op = .upsert
      | _ => true
  | _ => true

theorem kept_of_restoresNothing
    {system : System} {index : Nat} {event : Edit} {project : LocalProject}
    (restores : restoresNothing system (.edit index event) = true)
    (writes : event.write = .project project) :
    ∀ m ∈ (system.peers index).client.db.outbox.entries,
      m.table = .project → m.rowId = project.id → m.op ≠ .delete := by
  intro m member table row op
  simp only [restoresNothing, writes, List.all_eq_true] at restores
  simpa [table, row, op] using restores m member

end Sync
end EvoPlatform
