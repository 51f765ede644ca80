import EvoPlatform.Foundation.Tombstones
import EvoPlatform.Sync.PendingRows

/-!
# Collecting tombstones

One client of a tenant and its server, while every other request may come in at
any time.  Nothing in the program deletes a tombstone yet; a collection is taken
to delete exactly the tombstones up to a bound and to raise the horizon to it, in
one transaction.
-/

namespace EvoPlatform
namespace Sync

open Offline

/-- A row of either table. -/
abbrev RowKey := SyncTable × String

/-! ## The server -/

/-- A tombstone that a collection up to `bound` deletes. -/
def collects (bound : Nat) (deletedAt : Option Nat) (rowVersion : Nat) : Bool :=
  deletedAt.isSome && rowVersion ≤ bound

namespace Db

/-- The version of a stored row of the tenant, and whether it is a
tombstone. -/
def stored (db : Db) (tenantId : String) : RowKey → Option (Nat × Bool)
  | (.project, id) => (db.ownProject tenantId id).map fun project =>
      (project.rowVersion, project.deletedAt.isSome)
  | (.task, id) => (db.ownTask tenantId id).map fun task =>
      (task.rowVersion, task.deletedAt.isSome)

/-- A task goes when it is collected or, by the foreign key, its project is. -/
def collectsTask (db : Db) (bound : Nat) (task : Task) : Bool :=
  collects bound task.deletedAt task.rowVersion ||
    (db.projects.find? task.projectId).any fun project =>
      collects bound project.deletedAt project.rowVersion

/-- The foreign key takes nothing along that is not collected anyway. -/
def collectsTombstones (db : Db) (bound : Nat) : Bool :=
  db.tasks.rows.all fun task => !db.collectsTask bound task ||
    collects bound task.deletedAt task.rowVersion

/-- Delete the tombstones up to `bound` and raise the horizon to it. -/
def collect (db : Db) (bound : Nat) : Db where
  projects := db.projects.eraseWhere fun project =>
    collects bound project.deletedAt project.rowVersion
  tasks := db.tasks.eraseWhere (db.collectsTask bound)
  seq := db.seq
  horizon := some bound
  projectsStamped := db.projectsStamped.subset fun _ => List.mem_of_mem_filter
  tasksStamped := db.tasksStamped.subset fun _ => List.mem_of_mem_filter
  taskParent := by
    intro task present
    obtain ⟨stored, stays⟩ := List.mem_filter.mp present
    obtain ⟨project, found⟩ :=
      Option.isSome_iff_exists.mp (db.taskParent task stored)
    simp only [collectsTask, found, Option.any_some, Bool.not_or,
      Bool.and_eq_true] at stays
    rw [Table.find?_eraseWhere, found]
    simp only [Option.filter_some, stays.2, if_true, Option.isSome_some]

end Db

/-- The rows of the tenant that were deleted for good, after a step from one
database to another. -/
def collectedBy (tenantId : String) (before after : Db)
    (collected : RowKey → Bool) (key : RowKey) : Bool :=
  collected key || (before.stored tenantId key).isSome &&
    (after.stored tenantId key).isNone

/-! ## The client -/

/-- The replica has a row. -/
def holdsRow (db : TenantDatabase) : RowKey → Bool
  | (.project, id) => (db.projects.find? id).isSome
  | (.task, id) => (db.tasks.find? id).isSome

/-- The rows of the replica. -/
def heldRows (db : TenantDatabase) : List RowKey :=
  db.projects.rows.map (fun project => (.project, project.id)) ++
    db.tasks.rows.map fun task => (.task, task.id)

namespace SyncResponse

/-- The page has a row that is not deleted. -/
def brings (data : SyncResponse) : RowKey → Bool
  | (.project, id) => data.projects.any fun p => p.id = id && p.deletedAt.isNone
  | (.task, id) => data.tasks.any fun t => t.id = id && t.deletedAt.isNone

/-- The page has the tombstone of a row, and only that. -/
def buries (data : SyncResponse) (key : RowKey) : Bool :=
  !data.brings key && match key with
    | (.project, id) => data.projects.any fun p => decide (p.id = id)
    | (.task, id) => data.tasks.any fun t => decide (t.id = id)

end SyncResponse

namespace Peer

variable (peer : Peer)

/-- The answer in the hands of the client, on the way included, while its cursor
has not been stored; once it has been worked in, only the cursor counts. -/
def hand : Option SyncResponse :=
  match peer.client.phase, peer.reply with
  | .awaiting _ _ _, some (.ok data) =>
      if data.resyncRequired then none else some data
  | .clearing _ _ data, _ => some data
  | .dropping _ _ data, _ => some data
  | .applying _ data, _ => some data
  | .advancing _ data, _ => some { data with projects := [], tasks := [] }
  | _, _ => none

/-- The next transaction ends the sync as idle. -/
def finishes : Bool :=
  match peer.client.phase with
  | .advancing _ data => !data.hasMore
  | _ => false

end Peer

/-! ## The system -/

/-- A client and its server. -/
structure Pairing where
  db : Db
  peer : Peer

/-- What can happen. -/
inductive PairingEvent
  /-- The data layer of the client is used. -/
  | edit (event : Edit)
  /-- The client begins to sync. -/
  | start
  /-- The client takes a snapshot and sends its request. -/
  | drain
  /-- The request of the client is served. -/
  | serve (engine : Engine)
  /-- The answer arrives. -/
  | deliver
  /-- The request or its answer is lost. -/
  | lose
  /-- The client runs its next transaction. -/
  | proceed
  /-- The sync of the client is cut off. -/
  | fail
  /-- Another request is served, of any client of any tenant. -/
  | other (arrival : Arrival)
  /-- Tombstones are collected up to a bound. -/
  | collect (bound : Nat)

/-- One step of the client and its server. -/
def Pairing.step (tenantId : String) (pairing : Pairing) :
    PairingEvent → Option Pairing
  | .edit event =>
      (pairing.peer.step (.edit event)).map fun peer =>
        { pairing with peer := peer }
  | .start =>
      (pairing.peer.step .start).map fun peer =>
        { pairing with peer := { peer with settledAt := none } }
  | .drain =>
      (pairing.peer.step .drain).map fun peer =>
        { pairing with
          peer := { peer with taken := pairing.peer.client.db.outbox } }
  | .serve engine =>
      match pairing.peer.client.phase, pairing.peer.reply with
      | .awaiting _ _ request, none =>
          some ⟨(POST engine tenantId pairing.db request).1,
            pairing.peer.served engine tenantId pairing.db request⟩
      | _, _ => none
  | .deliver =>
      pairing.peer.reply.bind fun reply =>
        (pairing.peer.step (.receive (some reply))).map fun peer =>
          { pairing with peer := { peer with reply := none } }
  | .lose =>
      (pairing.peer.step (.receive none)).map fun peer =>
        { pairing with peer := { peer with reply := none } }
  | .proceed =>
      (pairing.peer.step .proceed).map fun peer =>
        { pairing with
          peer := { peer with settledAt := pairing.peer.settles } }
  | .fail =>
      (pairing.peer.step .fail).map fun peer =>
        { pairing with peer := { peer with reply := none } }
  | .other arrival =>
      (serve pairing.db arrival).map fun db => { pairing with db := db }
  | .collect bound =>
      if pairing.db.horizon.getD 0 ≤ bound ∧
          pairing.db.collectsTombstones bound = true then
        some { pairing with db := pairing.db.collect bound }
      else none

/-- A client and its server with their history. -/
structure Chronicle where
  now : Pairing
  /-- The rows of the tenant that were deleted for good at some time. -/
  collected : RowKey → Bool
  /-- The rows that the client holds on its own account: it wrote them, or kept
  them, when the server had deleted them. -/
  retained : RowKey → Bool
  /-- The rows that were deleted for good since the last request of the client
  was served. -/
  late : RowKey → Bool

namespace Chronicle

variable (tenantId : String) (state : Chronicle)

/-- The row has been deleted for good and not been created again. -/
def purged (key : RowKey) : Bool :=
  (state.now.db.stored tenantId key).isNone && state.collected key

/-- The row is deleted, for good or not. -/
def gone (key : RowKey) : Bool :=
  ((state.now.db.stored tenantId key).map Prod.snd).getD (state.collected key)

/-- The replica has the row from the server. -/
def tracks (key : RowKey) : Bool :=
  holdsRow state.now.peer.client.db key && !state.retained key

/-- What the client holds on its own account after a transaction: when that
works in a page, no row that the page brings, and every row that the page buries
in vain. -/
def keeps (next : Pairing) (key : RowKey) : Bool :=
  match state.now.peer.client.phase, next.peer.client.phase with
  | .applying _ data, .advancing _ _ =>
      state.retained key && !data.brings key ||
        data.buries key &&
          state.now.peer.client.db.outbox.hasPending key.1 key.2
  | _, _ => state.retained key

/-- What the client holds on its own account after a step: also a row that it
writes while the row is deleted on the server. -/
def retains (event : PairingEvent) (next : Pairing) (key : RowKey) : Bool :=
  match event with
  | .edit _ =>
      if holdsRow state.now.peer.client.db key then state.retained key
      else state.gone tenantId key
  | _ => state.keeps next key

/-- What was deleted for good since a request of the client was served. -/
def lateAfter (event : PairingEvent) (next : Pairing) : RowKey → Bool :=
  match event with
  | .serve _ => fun _ => false
  | _ => collectedBy tenantId state.now.db next.db state.late

/-- One step, with its history. -/
def step (event : PairingEvent) : Option Chronicle :=
  (state.now.step tenantId event).map fun next =>
    { now := next
      collected :=
        collectedBy tenantId state.now.db next.db state.collected
      retained := state.retains tenantId event next
      late := state.lateAfter tenantId event next }

/-- A client that was never used begins, whatever the server holds. -/
def begin (clientId : String) (db : Db) (collected : RowKey → Bool) :
    Chronicle :=
  ⟨⟨db, Peer.fresh clientId⟩, collected, fun _ => false, fun _ => false⟩

/-! ## Requests with cursor 0 -/

/-- No request with cursor 0 is carried out while the replica has a row from the
server that has been deleted for good. -/
def startsClean (engine : Engine) (request : SyncRequest) : Bool :=
  request.cursor ≠ 0 || !requestSchema request ||
    batchRefused engine tenantId request.mutations state.now.db ||
      (heldRows state.now.peer.client.db).all fun key =>
        !state.tracks key || !state.purged tenantId key

/-- The condition on a step: the server exempts cursor 0 from the horizon. -/
def heard : PairingEvent → Bool
  | .serve engine =>
      match state.now.peer.client.phase with
      | .awaiting _ _ request => state.startsClean tenantId engine request
      | _ => true
  | _ => true

end Chronicle

end Sync
end EvoPlatform
