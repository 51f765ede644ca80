import EvoPlatform.Offline.TenantDb
import EvoPlatform.Sync.Endpoint

/-!
# The sync client

`syncOnce` as a state machine.  A phase is a point at which the loop waits: for
its next transaction on the local database, before which edits of the data layer
may come in, or for the answer to its request.
-/

namespace EvoPlatform
namespace Sync

open Offline

def MAX_PULL_LOOPS : Nat := 50

/-- Where `syncOnce` stands; the number counts the iterations of its loop. -/
inductive Phase
  /-- No sync is under way. -/
  | idle
  /-- At the head of the loop. -/
  | draining (loop : Nat)
  /-- The request is under way. -/
  | awaiting (loop : Nat) (snapshot : DrainSnapshot) (request : SyncRequest)
  /-- The local tables are about to be wiped. -/
  | resyncing (loop : Nat)
  /-- The applied mutations are about to be deleted. -/
  | clearing (loop : Nat) (snapshot : DrainSnapshot) (data : SyncResponse)
  /-- The rejected mutations are about to be dropped. -/
  | dropping (loop : Nat) (snapshot : DrainSnapshot) (data : SyncResponse)
  /-- The pulled changes are about to be applied. -/
  | applying (loop : Nat) (data : SyncResponse)
  /-- The cursor is about to be set. -/
  | advancing (loop : Nat) (data : SyncResponse)

/-- A client of a tenant. -/
structure Client where
  db : TenantDatabase
  calls : Calls
  phase : Phase

/-- A client that was never used. -/
def Client.fresh (clientId : String) : Client :=
  ⟨.empty clientId, ⟨[], []⟩, .idle⟩

/-- A queued mutation as it is sent. -/
def sentMutation (m : OutboxMutation) : SyncMutation :=
  ⟨m.seq, m.table, m.op, m.rowId, m.data⟩

/-- The body of the request. -/
def requestBody (db : TenantDatabase) (snapshot : DrainSnapshot) :
    SyncRequest where
  v := 2
  clientId := db.clientId
  cursor := db.cursor
  pullLimit := none
  mutations := snapshot.toSend.map sentMutation

/-! ## Pulled changes -/

/-- Apply one pulled project, unless a local write shadows it. -/
def applyProject (db : TenantDatabase) (p : ServerProject) : TenantDatabase :=
  if db.outbox.hasPending .project p.id then db
  else if p.deletedAt.isSome then
    { db with
      projects := db.projects.erase p.id
      tasks := db.tasks.eraseWhere fun task => task.projectId = p.id }
  else
    { db with
      projects := db.projects.put
        ⟨p.id, p.name, p.description, p.status, p.updatedAt⟩ }

/-- Apply one pulled task, unless a local write shadows it. -/
def applyTask (db : TenantDatabase) (t : ServerTask) : TenantDatabase :=
  if db.outbox.hasPending .task t.id then db
  else if t.deletedAt.isSome then { db with tasks := db.tasks.erase t.id }
  else
    { db with
      tasks := db.tasks.put
        ⟨t.id, t.projectId, t.title, t.done, t.updatedAt⟩ }

/-- Apply the pulled changes, projects first. -/
def applyChanges (db : TenantDatabase) (data : SyncResponse) :
    TenantDatabase :=
  data.tasks.foldl applyTask (data.projects.foldl applyProject db)

/-- What applying pulled changes leaves alone. -/
structure SameMeta (before after : TenantDatabase) : Prop where
  outbox : after.outbox = before.outbox
  cursor : after.cursor = before.cursor

theorem sameMeta_applyProject (db : TenantDatabase) (p : ServerProject) :
    SameMeta db (applyProject db p) := by
  unfold applyProject
  split_ifs <;> exact ⟨rfl, rfl⟩

theorem sameMeta_applyTask (db : TenantDatabase) (t : ServerTask) :
    SameMeta db (applyTask db t) := by
  unfold applyTask
  split_ifs <;> exact ⟨rfl, rfl⟩

/-- Folding steps that leave something alone leaves it alone. -/
theorem sameMeta_foldl {α : Type}
    {step : TenantDatabase → α → TenantDatabase}
    (kept : ∀ db pulled, SameMeta db (step db pulled))
    (page : List α) (db : TenantDatabase) :
    SameMeta db (page.foldl step db) := by
  induction page generalizing db with
  | nil => exact ⟨rfl, rfl⟩
  | cons pulled page inductionHypothesis =>
      have first := kept db pulled
      have rest := inductionHypothesis (step db pulled)
      exact ⟨rest.outbox.trans first.outbox, rest.cursor.trans first.cursor⟩

theorem sameMeta_applyChanges
    (db : TenantDatabase) (data : SyncResponse) :
    SameMeta db (applyChanges db data) := by
  have first := sameMeta_foldl sameMeta_applyProject data.projects db
  have second := sameMeta_foldl sameMeta_applyTask data.tasks
    (data.projects.foldl applyProject db)
  exact ⟨second.outbox.trans first.outbox, second.cursor.trans first.cursor⟩

@[simp] theorem outbox_applyChanges
    (db : TenantDatabase) (data : SyncResponse) :
    (applyChanges db data).outbox = db.outbox :=
  (sameMeta_applyChanges db data).outbox

@[simp] theorem cursor_applyChanges
    (db : TenantDatabase) (data : SyncResponse) :
    (applyChanges db data).cursor = db.cursor :=
  (sameMeta_applyChanges db data).cursor

/-- Wipe the replica; the outbox survives. -/
def wipe (db : TenantDatabase) : TenantDatabase :=
  { db with projects := Table.empty, tasks := Table.empty, cursor := 0 }

/-! ## The loop -/

/-- What can happen to a client. -/
inductive ClientEvent
  /-- The data layer is used. -/
  | edit (event : Edit)
  /-- `syncOnce` is called. -/
  | start
  /-- The loop takes a snapshot and sends its request. -/
  | drain
  /-- The answer arrives, or the network fails. -/
  | receive (reply : Option SyncReply)
  /-- The next transaction of the iteration runs. -/
  | proceed
  /-- An exception ends the sync. -/
  | fail

/-- Where the loop goes with an answer. -/
def Phase.answered (loop : Nat) (snapshot : DrainSnapshot) :
    Option SyncReply → Phase
  | none => .idle
  | some (.error _) => .idle
  | some (.ok data) =>
      if data.resyncRequired then .resyncing loop
      else .clearing loop snapshot data

/-- The next transaction of an iteration on the local database, and the phase
after it. -/
def Phase.transaction (db : TenantDatabase) :
    Phase → Option (TenantDatabase × Phase)
  | .idle => none
  | .draining _ => none
  | .awaiting _ _ _ => none
  | .resyncing loop => some (wipe db, .draining (loop + 1))
  | .clearing loop snapshot data =>
      some ({ db with outbox := db.outbox.deleteApplied snapshot data.applied },
        .dropping loop snapshot data)
  | .dropping loop snapshot data =>
      some ({ db with outbox := db.outbox.dropRejected snapshot data.rejected },
        .applying loop data)
  | .applying loop data => some (applyChanges db data, .advancing loop data)
  | .advancing loop data =>
      some ({ db with cursor := data.cursor },
        if data.hasMore then .draining (loop + 1) else .idle)

/-- One step of a client. -/
def Client.step (client : Client) : ClientEvent → Option Client
  | .edit event =>
      (Offline.edit client.db client.calls event).map fun edited =>
        { client with db := edited.1, calls := edited.2 }
  | .start =>
      match client.phase with
      | .idle => some { client with phase := .draining 0 }
      | _ => none
  | .drain =>
      match client.phase with
      | .draining loop =>
          if loop < MAX_PULL_LOOPS then
            let snapshot := client.db.outbox.snapshotForDrain
            some { client with
              phase := .awaiting loop snapshot
                (requestBody client.db snapshot) }
          else some { client with phase := .idle }
      | _ => none
  | .receive reply =>
      match client.phase with
      | .awaiting loop snapshot _ =>
          some { client with phase := Phase.answered loop snapshot reply }
      | _ => none
  | .proceed =>
      (client.phase.transaction client.db).map fun next =>
        { client with db := next.1, phase := next.2 }
  | .fail => some { client with phase := .idle }

/-! ## What a step does -/

section Steps

variable {client next : Client}

theorem step_edit
    {event : Edit}
    (stepped : client.step (.edit event) = some next) :
    next.db = client.db.write event.write ∧ next.phase = client.phase := by
  simp only [Client.step, Option.map_eq_some_iff] at stepped
  obtain ⟨edited, ran, rfl⟩ := stepped
  exact ⟨edit_write ran, rfl⟩

theorem step_drain
    (stepped : client.step .drain = some next) :
    next.db = client.db ∧ ∃ loop, client.phase = .draining loop ∧
      (next.phase = .awaiting loop client.db.outbox.snapshotForDrain
          (requestBody client.db client.db.outbox.snapshotForDrain) ∨
        next.phase = .idle) := by
  simp only [Client.step] at stepped
  split at stepped
  · rename_i loop atHead
    split at stepped
    · simp only [Option.some.injEq] at stepped
      subst stepped
      exact ⟨rfl, loop, atHead, Or.inl rfl⟩
    · simp only [Option.some.injEq] at stepped
      subst stepped
      exact ⟨rfl, loop, atHead, Or.inr rfl⟩
  · contradiction

theorem step_receive
    {reply : Option SyncReply}
    (stepped : client.step (.receive reply) = some next) :
    next.db = client.db ∧ ∃ loop snapshot request,
      client.phase = .awaiting loop snapshot request ∧
        next.phase = Phase.answered loop snapshot reply := by
  simp only [Client.step] at stepped
  split at stepped
  · rename_i loop snapshot request waiting
    simp only [Option.some.injEq] at stepped
    subst stepped
    exact ⟨rfl, loop, snapshot, request, waiting, rfl⟩
  · contradiction

theorem step_proceed
    (stepped : client.step .proceed = some next) :
    client.phase.transaction client.db = some (next.db, next.phase) := by
  simp only [Client.step, Option.map_eq_some_iff] at stepped
  obtain ⟨ran, found, rfl⟩ := stepped
  exact found

end Steps

end Sync
end EvoPlatform
