import EvoPlatform.Sync.Replication

/-!
# Shadowed replicas

The two tables are replicated in the same way, and `Kind` is what they have in
common.  `Shadows` ties the replica of one table to the server: outside of the
rows with a queued write the replica is in sync up to the cursor.  A write leaves
the outbox only after the server has applied it, and then the row lies beyond
the cursor or is gone on both sides.
-/

namespace EvoPlatform
namespace Sync

open Offline

/-- How one of the tables is replicated. -/
structure Kind (ρ ω β : Type) where
  table : SyncTable
  /-- The rows of a tenant on the server. -/
  rows : Db → String → String → Option ρ
  version : ρ → Nat
  wire : ρ → ω
  keyOf : ω → String
  /-- The local row that a delivered one calls for. -/
  display : ω → Option β
  page : SyncResponse → List ω
  /-- The local rows. -/
  rowsOf : Table LocalProject.id → Table LocalTask.id → String → Option β
  movesOn : ∀ {tenantId : String} {before after : Db},
    DbMovesOn tenantId before after →
      MovesOn version before.seq (rows before tenantId) (rows after tenantId)
  covers : ∀ {engine : Engine} {tenantId : String} {db : Db}
    {request : SyncRequest} {data : SyncResponse},
    Answers engine tenantId db request data →
      Covers version wire keyOf
        (rows (POST engine tenantId db request).1 tenantId)
        (page data) request.cursor data.cursor
  le_cursor : ∀ {engine : Engine} {tenantId : String} {db : Db}
    {request : SyncRequest} {data : SyncResponse},
    Answers engine tenantId db request data → data.hasMore = false →
      ∀ {id : String} {row : ρ},
        rows (POST engine tenantId db request).1 tenantId id = some row →
          version row ≤ data.cursor

/-- The local row that a delivered project calls for. -/
def ServerProject.display (p : ServerProject) : Option LocalProject :=
  if p.deletedAt.isSome then none
  else some ⟨p.id, p.name, p.description, p.status, p.updatedAt⟩

/-- The local row that a delivered task calls for. -/
def ServerTask.display (t : ServerTask) : Option LocalTask :=
  if t.deletedAt.isSome then none
  else some ⟨t.id, t.projectId, t.title, t.done, t.updatedAt⟩

/-- A stored project is shown when it is live. -/
theorem Project.display_eq_some_iff
    {project : Project} {shown : LocalProject} :
    project.wire.display = some shown ↔
      project.deletedAt = none ∧ shown = ⟨project.id, project.name,
        project.description, project.status, project.updatedAt⟩ := by
  cases deleted : project.deletedAt <;>
    simp [ServerProject.display, Project.wire, deleted, eq_comm]

/-- A stored task is shown when it is live. -/
theorem Task.display_eq_some_iff
    {task : Task} {shown : LocalTask} :
    task.wire.display = some shown ↔
      task.deletedAt = none ∧ shown = ⟨task.id, task.projectId, task.title,
        task.done, task.updatedAt⟩ := by
  cases deleted : task.deletedAt <;>
    simp [ServerTask.display, Task.wire, deleted, eq_comm]

/-- The replication of projects. -/
def projectKind : Kind Project ServerProject LocalProject where
  table := .project
  rows := Db.ownProject
  version := Project.rowVersion
  wire := Project.wire
  keyOf := ServerProject.id
  display := ServerProject.display
  page := SyncResponse.projects
  rowsOf := fun projects _ id => projects.find? id
  movesOn := DbMovesOn.projects
  covers := Answers.covers_projects
  le_cursor := Answers.projects_le_cursor

/-- The replication of tasks. -/
def taskKind : Kind Task ServerTask LocalTask where
  table := .task
  rows := Db.ownTask
  version := Task.rowVersion
  wire := Task.wire
  keyOf := ServerTask.id
  display := ServerTask.display
  page := SyncResponse.tasks
  rowsOf := fun _ tasks id => tasks.find? id
  movesOn := DbMovesOn.tasks
  covers := Answers.covers_tasks
  le_cursor := Answers.tasks_le_cursor

section Shadows

variable {ρ ω β : Type} (kind : Kind ρ ω β) (tenantId : String)
  (excused : Outbox → ρ → Prop)

/-- The rows of the table in a local database. -/
def Kind.replica (db : TenantDatabase) : String → Option β :=
  kind.rowsOf db.projects db.tasks

/-- The replica of a table is in sync with the server up to a cursor. -/
def Kind.SyncedUpTo (server : Db) (db : TenantDatabase) (cursor : Nat) :
    Prop :=
  Synced kind.version (fun row => kind.display (kind.wire row))
    (kind.rows server tenantId) (kind.replica db)
    (fun id => db.outbox.hasPending kind.table id = true)
    (excused db.outbox) cursor

/-- The mutation may leave the outbox: its row lies beyond the cursor, or the
mutation is a delete and there is nothing to show for its row. -/
def Kind.Settles (server : Db) (cursor : Nat) (m : SyncMutation) : Prop :=
  m.table = kind.table →
    (kind.rows server tenantId m.id = none → m.op = .delete) ∧
      ∀ row, kind.rows server tenantId m.id = some row →
        kind.version row ≤ cursor →
          m.op = .delete ∧ kind.display (kind.wire row) = none

/-- Between two iterations: the replica is in sync up to the cursor, and a row
whose last queued mutation is a delete is gone from it. -/
structure Kind.Faithful (server : Db) (db : TenantDatabase) : Prop where
  synced : kind.SyncedUpTo tenantId excused server db db.cursor
  lastDelete : ∀ m, IsLast db.outbox.entries m → m.table = kind.table →
    m.op = .delete → kind.replica db m.rowId = none

/-- What ties the replica of a table to the server. -/
structure Shadows (server : Db) (peer : Peer) : Prop where
  synced : kind.SyncedUpTo tenantId excused server peer.client.db
    peer.client.db.cursor
  /-- A row whose last queued mutation is a delete is gone locally. -/
  lastDelete : ∀ m, IsLast peer.client.db.outbox.entries m →
    m.table = kind.table → m.op = .delete →
      kind.replica peer.client.db m.rowId = none
  /-- The same for what was sent, unless the row was written since. -/
  sentDelete : peer.sending = true →
    ∀ sent, IsLast peer.taken.entries sent → sent.table = kind.table →
      sent.op = .delete →
        (∃ m ∈ peer.client.db.outbox.entries, peer.taken.nextSeq ≤ m.seq ∧
          m.table = kind.table ∧ m.rowId = sent.rowId) ∨
        kind.replica peer.client.db sent.rowId = none
  /-- What was sent may leave the outbox once it is answered. -/
  settled : peer.sending = true → peer.answer?.isSome = true →
    ∀ sent, IsLast peer.taken.entries sent →
      kind.Settles tenantId server peer.client.db.cursor (sentMutation sent)
  covers : ∀ data, peer.answer? = some data →
    Covers kind.version kind.wire kind.keyOf (kind.rows server tenantId)
      (kind.page data) peer.client.db.cursor data.cursor
  /-- The last answer leaves nothing beyond its cursor. -/
  ahead : ∀ data, peer.answer? = some data ∨ peer.advancing? = some data →
    data.hasMore = false →
      ∀ id row, kind.rows server tenantId id = some row →
        kind.version row ≤ peer.servedAt → kind.version row ≤ data.cursor
  /-- The replica is ready for the cursor to move. -/
  advanced : ∀ data, peer.advancing? = some data →
    kind.SyncedUpTo tenantId excused server peer.client.db data.cursor
  atHead : ∀ settled, peer.settledAt = some settled →
    ∀ id row, kind.rows server tenantId id = some row →
      kind.version row ≤ settled →
        kind.version row ≤ peer.client.db.cursor

variable {kind tenantId excused}

/-- A settled mutation stays settled while the server moves on. -/
theorem Kind.Settles.moveOn
    {server after : Db} {cursor : Nat} {m : SyncMutation}
    (settles : kind.Settles tenantId server cursor m)
    (moves : DbMovesOn tenantId server after)
    (le : cursor ≤ server.seq) :
    kind.Settles tenantId after cursor m := by
  intro table
  obtain ⟨gone, found⟩ := settles table
  exact ⟨fun absent => gone ((kind.movesOn moves).kept _ absent),
    fun row present upTo => found row
      ((kind.movesOn moves).old _ row present (upTo.trans le)) upTo⟩

/-- An answer without rejections settles what it was sent, when every applied
mutation settles. -/
theorem Kind.settles_of_answers
    (kind : Kind ρ ω β)
    {engine : Engine} {db : Db} {request : SyncRequest} {data : SyncResponse}
    (answers : Answers engine tenantId db request data)
    (noRejection : data.rejected = [])
    (upTo : request.cursor ≤ db.seq)
    (settles : ∀ db m, request.cursor ≤ db.seq →
      (mutate engine tenantId m db).2 = .applied →
        kind.Settles tenantId (mutate engine tenantId m db).1 request.cursor m) :
    ∀ m ∈ request.mutations,
      kind.Settles tenantId (POST engine tenantId db request).1
        request.cursor m := by
  refine (answers.batch noRejection (fun _ _ => true)
    (fun db => request.cursor ≤ db.seq)
    (fun db m => kind.Settles tenantId db request.cursor m) ?_ ?_
    (batchAll_true _ _) upTo).2
  · intro db m drawn _ applied
    exact ⟨drawn.trans (mutate_movesOn engine tenantId m db).seq_le,
      settles db m drawn applied⟩
  · intro db m later drawn settled
    exact settled.moveOn (mutate_movesOn engine tenantId later db) drawn

namespace Shadows

variable {server after : Db} {peer next : Peer}

/-- The server may move on. -/
theorem moveOn
    (shadows : Shadows kind tenantId excused server peer)
    (ordered : Ordered server peer)
    (moves : DbMovesOn tenantId server after) :
    Shadows kind tenantId excused after peer where
  synced := shadows.synced.moveOn (kind.movesOn moves) ordered.cursor_le
  lastDelete := shadows.lastDelete
  sentDelete := shadows.sentDelete
  settled := fun sending answered sent isLast =>
    (shadows.settled sending answered sent isLast).moveOn moves
      ordered.cursor_le
  covers := fun data answered =>
    (shadows.covers data answered).moveOn (kind.movesOn moves) ordered.cursor_le
      (ordered.answer data answered).2.2
  ahead := fun data holding last id row found upTo =>
    shadows.ahead data holding last id row
      ((kind.movesOn moves).old id row found (upTo.trans ordered.servedAt)) upTo
  advanced := fun data advancing =>
    (shadows.advanced data advancing).moveOn (kind.movesOn moves)
      (ordered.advancing data advancing).2
  atHead := fun settled found id row present upTo =>
    shadows.atHead settled found id row
      ((kind.movesOn moves).old id row present
        (upTo.trans (ordered.settledAt settled found))) upTo

/-- Outside of an iteration only the replica and the outbox matter. -/
theorem of_ended
    (ended : peer.client.phase.ended = true)
    (synced : kind.SyncedUpTo tenantId excused server peer.client.db
      peer.client.db.cursor)
    (lastDelete : ∀ m, IsLast peer.client.db.outbox.entries m →
      m.table = kind.table → m.op = .delete →
        kind.replica peer.client.db m.rowId = none)
    (atHead : ∀ settled, peer.settledAt = some settled →
      ∀ id row, kind.rows server tenantId id = some row →
        kind.version row ≤ settled →
          kind.version row ≤ peer.client.db.cursor) :
    Shadows kind tenantId excused server peer := by
  obtain ⟨notSending, noAnswer, notAdvancing⟩ := Peer.quiet_of_ended ended
  exact ⟨synced, lastDelete, fun sending => absurd sending notSending,
    fun sending => absurd sending notSending, by simp [noAnswer],
    by simp [noAnswer, notAdvancing], by simp [notAdvancing], atHead⟩

/-- A peer that was never used shows nothing, as the server does. -/
theorem fresh
    (clientId : String)
    (noRows : ∀ id, kind.rows Db.initial tenantId id = none)
    (noLocalRows : ∀ id,
      kind.replica (TenantDatabase.empty clientId) id = none) :
    Shadows kind tenantId excused Db.initial (Peer.fresh clientId) := by
  refine .of_ended rfl ⟨fun id _ _ => noLocalRows id, ?_⟩ ?_
    (by simp [Peer.fresh])
  · intro id row _ found
    rw [noRows] at found
    contradiction
  · intro m isLast
    exact absurd isLast.1 (List.not_mem_nil)

/-- The request of the peer is served. -/
theorem served
    {engine : Engine} {loop : Nat} {snapshot : DrainSnapshot}
    {request : SyncRequest}
    (shadows : Shadows kind tenantId excused server peer)
    (ordered : Ordered server peer)
    (uncollected : Uncollected server)
    (awaiting : peer.client.phase = .awaiting loop snapshot request)
    (sent : request.mutations =
      peer.taken.snapshotForDrain.toSend.map sentMutation)
    (sameCursor : request.cursor = peer.client.db.cursor)
    (settles : ∀ data, (POST engine tenantId server request).2 = .ok data →
      ∀ m ∈ request.mutations,
        kind.Settles tenantId (POST engine tenantId server request).1
          request.cursor m) :
    Shadows kind tenantId excused (POST engine tenantId server request).1
      (peer.served engine tenantId server request) := by
  have moves := POST_movesOn engine tenantId tenantId server request
  have moved := shadows.moveOn ordered moves
  have sending : peer.sending = true := by simp [Peer.sending, awaiting]
  have answers : ∀ data,
      (peer.served engine tenantId server request).answer? = some data →
        (POST engine tenantId server request).2 = .ok data ∧
          Answers engine tenantId server request data := by
    intro data answered
    have success := Peer.succeeded_of_answered awaiting answered
    exact ⟨success, answers_of_succeeded uncollected success⟩
  refine ⟨moved.synced, moved.lastDelete, fun _ => moved.sentDelete sending,
    ?_, ?_, ?_, ?_, moved.atHead⟩
  · intro _ answered m isLast
    obtain ⟨data, found⟩ := Option.isSome_iff_exists.mp answered
    have member : sentMutation m ∈ request.mutations := by
      rw [sent]
      exact List.mem_map.mpr ⟨m, mem_toSend_iff_isLast.mpr isLast, rfl⟩
    have := settles data (answers data found).1 _ member
    rwa [sameCursor] at this
  · intro data answered
    have := kind.covers (answers data answered).2
    rwa [sameCursor] at this
  · intro data holding last id row found _
    rcases holding with answered | advancing
    · exact kind.le_cursor (answers data answered).2 last found
    · simp [Peer.advancing?, Peer.served, awaiting] at advancing
  · intro data advancing
    simp [Peer.advancing?, Peer.served, awaiting] at advancing

/-- A write of the data layer was queued for the row. -/
def Fresh (kind : Kind ρ ω β) (before after : TenantDatabase) (id : String) :
    Prop :=
  ∃ m ∈ after.outbox.entries, before.outbox.nextSeq ≤ m.seq ∧
    m.table = kind.table ∧ m.rowId = id

/-- The data layer writes. -/
theorem wrote
    {write : LocalWrite} {calls : Calls}
    (shadows : Shadows kind tenantId excused server peer)
    (nextSeq : peer.sending = true →
      peer.taken.nextSeq ≤ peer.client.db.outbox.nextSeq)
    (synced : ∀ cursor, kind.SyncedUpTo tenantId excused server
        peer.client.db cursor →
      kind.SyncedUpTo tenantId excused server (peer.client.db.write write)
        cursor)
    (lastDelete : ∀ m,
      IsLast (peer.client.db.write write).outbox.entries m →
        m.table = kind.table → m.op = .delete →
          kind.replica (peer.client.db.write write) m.rowId = none)
    (emptied : ∀ id, kind.replica peer.client.db id = none →
      Fresh kind peer.client.db (peer.client.db.write write) id ∨
        kind.replica (peer.client.db.write write) id = none)
    (dropped : ∀ m ∈ peer.client.db.outbox.entries, m.table = kind.table →
      m ∈ (peer.client.db.write write).outbox.entries ∨
        Fresh kind peer.client.db (peer.client.db.write write) m.rowId ∨
          kind.replica (peer.client.db.write write) m.rowId = none) :
    Shadows kind tenantId excused server (peer.wrote write calls) where
  synced := by
    have := synced _ shadows.synced
    simpa [Peer.wrote] using this
  lastDelete := lastDelete
  sentDelete := by
    intro sending sent isLast table op
    have newer : ∀ id,
        Fresh kind peer.client.db (peer.client.db.write write) id →
          ∃ m ∈ (peer.client.db.write write).outbox.entries,
            peer.taken.nextSeq ≤ m.seq ∧ m.table = kind.table ∧
              m.rowId = id := by
      rintro id ⟨m, member, new, sameTable, sameRow⟩
      exact ⟨m, member, (nextSeq sending).trans new, sameTable, sameRow⟩
    rcases shadows.sentDelete sending sent isLast table op with
      ⟨m, member, new, sameTable, sameRow⟩ | gone
    · rcases dropped m member sameTable with stays | fresh | gone
      · exact Or.inl ⟨m, stays, new, sameTable, sameRow⟩
      · exact Or.inl (newer _ (sameRow ▸ fresh))
      · exact Or.inr (sameRow ▸ gone)
    · exact (emptied _ gone).imp_left (newer _)
  settled := by
    intro sending answered sent isLast
    simpa [Peer.wrote] using shadows.settled sending answered sent isLast
  covers := by
    intro data answered
    simpa [Peer.wrote] using shadows.covers data answered
  ahead := shadows.ahead
  advanced := fun data advancing => synced _ (shadows.advanced data advancing)
  atHead := by simpa [Peer.wrote] using shadows.atHead

/-- The data layer queues a write of the other table. -/
theorem wrote_other
    {write : LocalWrite} {calls : Calls} {table : SyncTable} {rowId : String}
    {op : SyncOp} {payload : Option JsonObject}
    (shadows : Shadows kind tenantId excused server peer)
    (nextSeq : peer.sending = true →
      peer.taken.nextSeq ≤ peer.client.db.outbox.nextSeq)
    (queued : (peer.client.db.write write).outbox =
      peer.client.db.outbox.enqueue table rowId op payload)
    (other : table ≠ kind.table)
    (sameReplica : kind.replica (peer.client.db.write write) =
      kind.replica peer.client.db)
    (excuses : ∀ row, excused peer.client.db.outbox row →
      excused (peer.client.db.write write).outbox row) :
    Shadows kind tenantId excused server (peer.wrote write calls) := by
  refine shadows.wrote nextSeq ?_ ?_ ?_ ?_
  · intro cursor synced
    refine Synced.write synced (fun id free => ⟨fun pending => free ?_, ?_⟩)
      excuses
    · rw [queued, Outbox.hasPending_enqueue]
      exact Or.inl pending
    · rw [sameReplica]
  · intro m isLast isTable isDelete
    rw [sameReplica]
    rw [queued] at isLast
    rcases isLast_enqueue isLast with rfl | ⟨wasLast, _⟩
    · exact absurd isTable other
    · exact shadows.lastDelete m wasLast isTable isDelete
  · intro id gone
    rw [sameReplica]
    exact Or.inr gone
  · intro m member _
    rw [queued, Outbox.entries_enqueue]
    exact Or.inl (List.mem_append_left _ member)

/-- The data layer queues a write of one row. -/
theorem wrote_row
    {write : LocalWrite} {calls : Calls} {rowId : String}
    {op : SyncOp} {payload : Option JsonObject}
    (shadows : Shadows kind tenantId excused server peer)
    (nextSeq : peer.sending = true →
      peer.taken.nextSeq ≤ peer.client.db.outbox.nextSeq)
    (queued : (peer.client.db.write write).outbox =
      peer.client.db.outbox.enqueue kind.table rowId op payload)
    (elsewhere : ∀ id, id ≠ rowId →
      kind.replica (peer.client.db.write write) id =
        kind.replica peer.client.db id)
    (deleted : op = .delete →
      kind.replica (peer.client.db.write write) rowId = none)
    (excuses : ∀ row, excused peer.client.db.outbox row →
      excused (peer.client.db.write write).outbox row) :
    Shadows kind tenantId excused server (peer.wrote write calls) := by
  refine shadows.wrote nextSeq ?_ ?_ ?_ ?_
  · intro cursor synced
    refine Synced.write synced (fun id free => ?_) excuses
    rw [queued, Outbox.hasPending_enqueue, not_or] at free
    exact ⟨free.1, elsewhere id fun same => free.2 ⟨rfl, same.symm⟩⟩
  · intro m isLast isTable isDelete
    rw [queued] at isLast
    rcases isLast_enqueue isLast with rfl | ⟨wasLast, different⟩
    · exact deleted isDelete
    · rw [elsewhere m.rowId fun same => different ⟨isTable, same⟩]
      exact shadows.lastDelete m wasLast isTable isDelete
  · intro id gone
    rcases eq_or_ne id rowId with rfl | different
    · refine Or.inl ⟨⟨_, kind.table, id, op, payload⟩, ?_, le_rfl, rfl, rfl⟩
      rw [queued, Outbox.entries_enqueue]
      simp
    · exact Or.inr ((elsewhere id different).trans gone)
  · intro m member _
    rw [queued, Outbox.entries_enqueue]
    exact Or.inl (List.mem_append_left _ member)

/-- The applied mutations leave the outbox. -/
theorem synced_cleared
    {loop : Nat} {snapshot : DrainSnapshot} {data : SyncResponse}
    (shadows : Shadows kind tenantId excused server peer)
    (proper : Proper server peer)
    (clearing : peer.client.phase = .clearing loop snapshot data)
    (excuses : ∀ id row, kind.rows server tenantId id = some row →
      kind.version row ≤ peer.client.db.cursor →
        excused peer.client.db.outbox row →
          excused (peer.client.db.outbox.deleteApplied snapshot data.applied)
              row ∨
            kind.display (kind.wire row) = none) :
    kind.SyncedUpTo tenantId excused server
      { peer.client.db with
        outbox := peer.client.db.outbox.deleteApplied snapshot data.applied }
      peer.client.db.cursor := by
  have sending : peer.sending = true := by simp [Peer.sending, clearing]
  have answered : peer.answer? = some data := by
    simp [Peer.answer?, clearing]
  obtain rfl := proper.clearing _ _ _ clearing
  have remaining := mem_deleteApplied_iff (proper.covered sending)
    (proper.applied sending data answered)
  refine Synced.settle shadows.synced ?_ excuses
  intro id wasPending notPending
  rw [Outbox.hasPending_iff] at wasPending
  obtain ⟨m, member, table, rowId⟩ := wasPending
  -- Whatever was queued for the row was seen by the snapshot.
  have older : ∀ other ∈ peer.client.db.outbox.entries,
      other.table = kind.table → other.rowId = id →
        other.seq < peer.taken.nextSeq := by
    intro other present sameTable sameRow
    by_contra newer
    refine notPending ((Outbox.hasPending_iff _ _ _).mpr
      ⟨other, (remaining other).mpr ⟨present, Nat.not_lt.mp newer⟩,
        sameTable, sameRow⟩)
  have seen := proper.covered sending m member (older m member table rowId)
  obtain ⟨sent, isLast, sameTable, sameRow⟩ := exists_isLast seen
  have settles := shadows.settled sending (by simp [answered]) sent isLast
    (sameTable.trans table)
  have isRow : sent.rowId = id := sameRow.trans rowId
  change (kind.rows server tenantId sent.rowId = none → sent.op = .delete) ∧
    ∀ row, kind.rows server tenantId sent.rowId = some row →
      kind.version row ≤ peer.client.db.cursor →
        sent.op = .delete ∧ kind.display (kind.wire row) = none at settles
  rw [isRow] at settles
  have gone : sent.op = .delete → kind.replica peer.client.db id = none := by
    intro op
    rcases shadows.sentDelete sending sent isLast (sameTable.trans table) op with
      ⟨other, present, newer, otherTable, otherRow⟩ | none
    · have := older other present otherTable (otherRow.trans isRow)
      omega
    · exact isRow ▸ none
  refine ⟨fun absent => gone (settles.1 absent), fun row found upTo => ?_⟩
  obtain ⟨op, nothing⟩ := settles.2 row found upTo
  exact (gone op).trans nothing.symm

/-- How the pulled changes are worked into the replica of a table. -/
structure WorksIn (kind : Kind ρ ω β) (tenantId : String) (server : Db)
    (db : TenantDatabase) (data : SyncResponse) : Prop where
  delivered : ∀ id row, ¬db.outbox.hasPending kind.table id = true →
    kind.wire row ∈ kind.page data → kind.keyOf (kind.wire row) = id →
      (∀ other ∈ kind.page data, kind.keyOf other = id →
        other = kind.wire row) →
        kind.replica (applyChanges db data) id = kind.display (kind.wire row)
  untouched : ∀ id, ¬db.outbox.hasPending kind.table id = true →
    (∀ other ∈ kind.page data, kind.keyOf other ≠ id) →
      (∀ row, kind.rows server tenantId id = some row →
        kind.version row ≤ db.cursor) →
        kind.replica (applyChanges db data) id = kind.replica db id
  emptied : ∀ id, db.outbox.hasPending kind.table id = true →
    kind.replica db id = none → kind.replica (applyChanges db data) id = none

/-- A move of the loop, when each transaction on the replica leaves it
faithful. -/
theorem moved
    (shadows : Shadows kind tenantId excused server peer)
    (ordered : Ordered server peer)
    (noReply : (∀ loop snapshot request,
      peer.client.phase ≠ .awaiting loop snapshot request) →
        peer.reply = none)
    (clearing : ∀ loop snapshot data,
      peer.client.phase = .clearing loop snapshot data →
        kind.Faithful tenantId excused server { peer.client.db with
          outbox :=
            peer.client.db.outbox.deleteApplied snapshot data.applied })
    (dropping : ∀ loop snapshot data,
      peer.client.phase = .dropping loop snapshot data →
        kind.Faithful tenantId excused server { peer.client.db with
          outbox :=
            peer.client.db.outbox.dropRejected snapshot data.rejected })
    (applying : ∀ loop data, peer.client.phase = .applying loop data →
      kind.SyncedUpTo tenantId excused server
          (applyChanges peer.client.db data) data.cursor ∧
        ∀ id, peer.client.db.outbox.hasPending kind.table id = true →
          kind.replica peer.client.db id = none →
            kind.replica (applyChanges peer.client.db data) id = none)
    (moves : PeerMoves peer next) :
    Shadows kind tenantId excused server next := by
  cases moves with
  | started idle =>
      exact .of_ended rfl shadows.synced shadows.lastDelete (by simp)
  | sent loop draining =>
      have noReply := noReply (by simp [draining])
      refine ⟨shadows.synced, shadows.lastDelete, ?_,
        by simp [Peer.answer?, noReply], by simp [Peer.answer?, noReply],
        by simp [Peer.answer?, Peer.advancing?, noReply],
        by simp [Peer.advancing?], shadows.atHead⟩
      intro _ sent isLast table op
      exact Or.inr (shadows.lastDelete sent isLast table op)
  | stopped =>
      exact .of_ended rfl shadows.synced shadows.lastDelete shadows.atHead
  | gaveUp loop draining =>
      exact .of_ended rfl shadows.synced shadows.lastDelete shadows.atHead
  | resyncing loop snapshot request data awaiting replied resync =>
      have answered : peer.answer? = some data := by
        simp [Peer.answer?, awaiting, replied]
      rw [(ordered.answer data answered).1] at resync
      contradiction
  | answered loop snapshot request data awaiting replied noResync =>
      have answered : peer.answer? = some data := by
        simp [Peer.answer?, awaiting, replied]
      have sending : peer.sending = true := by
        simp [Peer.sending, awaiting]
      refine ⟨shadows.synced, shadows.lastDelete,
        fun _ => shadows.sentDelete sending,
        fun _ _ => shadows.settled sending (by simp [answered]), ?_, ?_,
        by simp [Peer.advancing?], shadows.atHead⟩
      · rintro _ ⟨⟩
        exact shadows.covers data answered
      · intro other holding
        simp only [Peer.answer?, Peer.advancing?, Option.some.injEq,
          reduceCtorEq, or_false] at holding
        exact holding ▸ shadows.ahead data (Or.inl answered)
  | wiped loop resyncing => exact absurd resyncing (ordered.notResyncing loop)
  | cleared loop snapshot data here =>
      have answered : peer.answer? = some data := by
        simp [Peer.answer?, here]
      have cleared := clearing loop snapshot data here
      refine ⟨cleared.synced, cleared.lastDelete, by simp [Peer.sending],
        by simp [Peer.sending], ?_, ?_, by simp [Peer.advancing?],
        shadows.atHead⟩
      · rintro _ ⟨⟩
        exact shadows.covers data answered
      · intro other holding
        simp only [Peer.answer?, Peer.advancing?, Option.some.injEq,
          reduceCtorEq, or_false] at holding
        exact holding ▸ shadows.ahead data (Or.inl answered)
  | dropped loop snapshot data here =>
      have answered : peer.answer? = some data := by
        simp [Peer.answer?, here]
      have dropped := dropping loop snapshot data here
      refine ⟨dropped.synced, dropped.lastDelete, by simp [Peer.sending],
        by simp [Peer.sending], ?_, ?_, by simp [Peer.advancing?],
        shadows.atHead⟩
      · rintro _ ⟨⟩
        exact shadows.covers data answered
      · intro other holding
        simp only [Peer.answer?, Peer.advancing?, Option.some.injEq,
          reduceCtorEq, or_false] at holding
        exact holding ▸ shadows.ahead data (Or.inl answered)
  | applied loop data here =>
      have answered : peer.answer? = some data := by
        simp [Peer.answer?, here]
      obtain ⟨synced, emptied⟩ := applying loop data here
      refine ⟨?_, ?_, by simp [Peer.sending], by simp [Peer.sending],
        by simp [Peer.answer?], ?_, ?_, by simpa using shadows.atHead⟩
      · have upTo := (ordered.answer data answered).2.1
        rw [cursor_applyChanges]
        exact Synced.mono synced upTo
      · intro m isLast table op
        rw [outbox_applyChanges] at isLast
        refine emptied m.rowId ?_ (shadows.lastDelete m isLast table op)
        exact (Outbox.hasPending_iff _ _ _).mpr ⟨m, isLast.1, table, rfl⟩
      · intro other holding
        simp only [Peer.answer?, Peer.advancing?, Option.some.injEq,
          reduceCtorEq, false_or] at holding
        exact holding ▸ shadows.ahead data (Or.inl answered)
      · rintro _ ⟨⟩
        exact synced
  | continued loop data settledAt advancing isNone =>
      have advances : peer.advancing? = some data := by
        simp [Peer.advancing?, advancing]
      exact .of_ended rfl (shadows.advanced data advances) shadows.lastDelete
        (by simp [isNone])
  | finished loop data advancing last =>
      have advances : peer.advancing? = some data := by
        simp [Peer.advancing?, advancing]
      refine .of_ended rfl (shadows.advanced data advances) shadows.lastDelete ?_
      rintro _ ⟨⟩ id row found upTo
      exact shadows.ahead data (Or.inr advances) last id row found upTo

/-- A move of the loop of a peer whose mutations are never rejected. -/
theorem move
    (shadows : Shadows kind tenantId excused server peer)
    (proper : Proper server peer)
    (moves : PeerMoves peer next)
    (excuses : ∀ loop snapshot data,
      peer.client.phase = .clearing loop snapshot data →
        ∀ id row, kind.rows server tenantId id = some row →
          kind.version row ≤ peer.client.db.cursor →
            excused peer.client.db.outbox row →
              excused
                  (peer.client.db.outbox.deleteApplied snapshot data.applied)
                  row ∨
                kind.display (kind.wire row) = none)
    (worksIn : ∀ loop data, peer.client.phase = .applying loop data →
      WorksIn kind tenantId server peer.client.db data) :
    Shadows kind tenantId excused server next := by
  refine shadows.moved proper.ordered proper.noReply ?_ ?_ ?_ moves
  · intro loop snapshot data clearing
    have answered : peer.answer? = some data := by
      simp [Peer.answer?, clearing]
    have sending : peer.sending = true := by simp [Peer.sending, clearing]
    refine ⟨synced_cleared shadows proper clearing
      (excuses loop snapshot data clearing), fun m isLast => ?_⟩
    obtain rfl := proper.clearing _ _ _ clearing
    exact shadows.lastDelete m (isLast_of_newer (mem_deleteApplied_iff
      (proper.covered sending) (proper.applied sending data answered)) isLast)
  · intro loop snapshot data dropping
    have answered : peer.answer? = some data := by
      simp [Peer.answer?, dropping]
    rw [(proper.answer data answered).1, Outbox.dropRejected_nil]
    exact ⟨shadows.synced, shadows.lastDelete⟩
  · intro loop data applying
    have answered : peer.answer? = some data := by
      simp [Peer.answer?, applying]
    have works := worksIn loop data applying
    refine ⟨?_, works.emptied⟩
    unfold Kind.SyncedUpTo
    rw [outbox_applyChanges]
    exact Synced.page shadows.synced (shadows.covers data answered)
      works.delivered works.untouched

end Shadows

end Shadows

end Sync
end EvoPlatform
