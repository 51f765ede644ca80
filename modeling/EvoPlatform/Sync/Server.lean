import EvoPlatform.Sync.Database

/-!
# The sync server

`applyMutations` and `pullChanges` as they run inside one database transaction.
A statement may be refused by the database, which aborts the transaction: every
later statement of it then fails as well.  Errors the client library raises by
itself, before a statement is sent, leave the transaction intact.  The loop over
the batch catches both kinds, one mutation at a time.
-/

namespace EvoPlatform
namespace Sync

/-- The statements that applying a mutation can send. -/
inductive Statement
  | findProject (id : String)
  | upsertProject (id tenantId : String) (fields : ProjectFields)
  | tombstoneProject (id : String)
  | createStub (id tenantId : String)
  | findTask (id : String)
  | upsertTask (id tenantId projectId : String) (fields : TaskFields)
  | tombstoneTask (id : String)
  deriving DecidableEq

/-- What a transaction takes from its surroundings. -/
structure Engine where
  /-- `new Date()` at the start of `applyMutations`. -/
  now : Nat
  /-- The time of the write that draws a given sequence value. -/
  clock : Nat → Nat
  /-- The statements the database refuses, in the state they meet. -/
  refuses : Db → Statement → Bool

/-- An engine whose database refuses no statement. -/
def Engine.obliging (now : Nat) : Engine := ⟨now, id, fun _ _ => false⟩

/-- Why a database call throws. -/
inductive DbError
  /-- Raised by the client library: bad arguments, or no row to update. -/
  | client
  /-- Refused by the database. -/
  | refused
  /-- Sent into a transaction that is already aborted. -/
  | aborted
  deriving DecidableEq

/-- The transaction together with the answers collected so far. -/
structure BatchState where
  db : Db
  aborted : Bool
  applied : List Int
  rejected : List (Int × RejectReason)

/-- Start a transaction. -/
def BatchState.begin (db : Db) : BatchState := ⟨db, false, [], []⟩

/-- Code that runs inside the transaction; a throw keeps what was done. -/
abbrev BatchM := EStateM DbError BatchState

/-- `applied.push(m.seq)`. -/
def accept (m : SyncMutation) : BatchM Unit := fun state =>
  .ok () { state with applied := state.applied ++ [m.seq] }

/-- `rejected.push({ seq: m.seq, reason })`. -/
def reject (m : SyncMutation) (reason : RejectReason) : BatchM Unit :=
  fun state => .ok () { state with rejected := state.rejected ++ [(m.seq, reason)] }

variable (engine : Engine)

/-- Send a statement.  This decides only whether it is carried out. -/
def send (statement : Statement) : BatchM Unit := fun state =>
  if state.aborted then .error .aborted state
  else if engine.refuses state.db statement then
    .error .refused { state with aborted := true }
  else .ok () state

/-- The effect of a write statement; without a result the database has refused
it by a constraint. -/
def write (effect : Db → Option Db) : BatchM Unit := fun state =>
  match effect state.db with
  | some db => .ok () { state with db := db }
  | none => .error .refused { state with aborted := true }

/-- `tx.project.findUnique`. -/
def findProject (id : String) : BatchM (Option Project) := do
  send engine (.findProject id)
  return (← get).db.projects.find? id

/-- `tx.project.upsert`. -/
def upsertProject (id tenantId : String) (fields : ProjectFields) :
    BatchM Unit := do
  send engine (.upsertProject id tenantId fields)
  write fun db => some (db.upsertProject engine.clock id tenantId fields)

/-- `tx.project.update` of `deletedAt`. -/
def tombstoneProject (id : String) : BatchM Unit := do
  send engine (.tombstoneProject id)
  write fun db => db.tombstoneProject engine.clock id engine.now

/-- `tx.project.create` of a stub. -/
def createStub (id tenantId : String) : BatchM Unit := do
  send engine (.createStub id tenantId)
  write fun db => db.createStub engine.clock id tenantId

/-- `tx.task.findUnique`. -/
def findTask (id : String) : BatchM (Option Task) := do
  send engine (.findTask id)
  return (← get).db.tasks.find? id

/-- `tx.task.upsert`. -/
def upsertTask (id tenantId projectId : String) (fields : TaskFields) :
    BatchM Unit := do
  send engine (.upsertTask id tenantId projectId fields)
  write fun db => db.upsertTask engine.clock id tenantId projectId fields

/-- `tx.task.update` of `deletedAt`. -/
def tombstoneTask (id : String) : BatchM Unit := do
  send engine (.tombstoneTask id)
  write fun db => db.tombstoneTask engine.clock id engine.now

/-- The client library accepts only a string for a text argument. -/
def textArgument : Option Json → Option String
  | some (.string text) => some text
  | _ => none

/-- `data.description ?? null`, which must be a string or null. -/
def descriptionArgument : Option Json → Option (Option String)
  | none => some none
  | some .null => some none
  | some (.string text) => some (some text)
  | some _ => none

/-- The columns of a project upsert, when the client library accepts them. -/
def SyncMutation.projectFields (m : SyncMutation) : Option ProjectFields := do
  let name ← textArgument (m.field "name")
  let description ← descriptionArgument (m.field "description")
  let status ← textArgument (m.field "status")
  return ⟨name, description, status⟩

/-- The columns of a task upsert, when the client library accepts them. -/
def SyncMutation.taskFields (m : SyncMutation) : Option TaskFields := do
  let title ← textArgument (m.field "title")
  return ⟨title, truthy (m.field "done")⟩

/-- Arguments checked by the client library before a statement is sent. -/
def validated {α : Type} (argument : Option α) : BatchM α := fun state =>
  match argument with
  | some value => .ok value state
  | none => .error .client state

/-- `existing && existing.tenantId !== tenantId`. -/
def foreignProject (tenantId : String) (existing : Option Project) : Bool :=
  existing.any fun project => project.tenantId ≠ tenantId

/-- `existing && existing.tenantId !== tenantId`. -/
def foreignTask (tenantId : String) (existing : Option Task) : Bool :=
  existing.any fun task => task.tenantId ≠ tenantId

/-- `table: "project", op: "upsert"`. -/
def applyProjectUpsert (tenantId : String) (m : SyncMutation) :
    BatchM Unit := do
  if !truthy (m.field "name") || !isString (m.field "status") then
    reject m .invalid
  else
    let existing ← findProject engine m.id
    if foreignProject tenantId existing then
      reject m .idConflict
    else
      let fields ← validated m.projectFields
      upsertProject engine m.id tenantId fields
      accept m

/-- `table: "project", op: "delete"`: a tombstone, or nothing to do. -/
def applyProjectDelete (tenantId : String) (m : SyncMutation) :
    BatchM Unit := do
  let existing ← findProject engine m.id
  if foreignProject tenantId existing then
    reject m .idConflict
  else
    if existing.any fun project => project.deletedAt.isNone then
      tombstoneProject engine m.id
      accept m
    else
      accept m

/-- The end of a task upsert, once its project exists. -/
def applyTaskWrite (tenantId : String) (m : SyncMutation)
    (projectId : String) : BatchM Unit := do
  let existing ← findTask engine m.id
  if foreignTask tenantId existing then
    reject m .idConflict
  else
    let fields ← validated m.taskFields
    upsertTask engine m.id tenantId projectId fields
    accept m

/-- `table: "task", op: "upsert"`, with a stub for a missing project. -/
def applyTaskUpsert (tenantId : String) (m : SyncMutation) :
    BatchM Unit := do
  if !truthy (m.field "projectId") || !truthy (m.field "title") then
    reject m .invalid
  else
    let projectId ← validated (textArgument (m.field "projectId"))
    let parent ← findProject engine projectId
    if foreignProject tenantId parent then
      reject m .idConflict
    else if parent.isNone then
      createStub engine projectId tenantId
      applyTaskWrite engine tenantId m projectId
    else
      applyTaskWrite engine tenantId m projectId

/-- `table: "task", op: "delete"`. -/
def applyTaskDelete (tenantId : String) (m : SyncMutation) :
    BatchM Unit := do
  let existing ← findTask engine m.id
  if foreignTask tenantId existing then
    reject m .idConflict
  else
    if existing.any fun task => task.deletedAt.isNone then
      tombstoneTask engine m.id
      accept m
    else
      accept m

/-- The body of the `try` block. -/
def applyMutation (tenantId : String) (m : SyncMutation) : BatchM Unit :=
  match m.table, m.op with
  | .project, .upsert => applyProjectUpsert engine tenantId m
  | .project, .delete => applyProjectDelete engine tenantId m
  | .task, .upsert => applyTaskUpsert engine tenantId m
  | .task, .delete => applyTaskDelete engine tenantId m

/-- One iteration of the loop: a throw is answered as invalid. -/
def iteration (tenantId : String) (m : SyncMutation) : BatchM Unit :=
  tryCatch (applyMutation engine tenantId m) fun _ => reject m .invalid

/-- `applyMutations`. -/
def applyMutations (tenantId : String) (mutations : List SyncMutation) :
    BatchM Unit :=
  mutations.forM (iteration engine tenantId)

/-- The answers of `applyMutations`. -/
structure ApplyResult where
  applied : List Int
  rejected : List (Int × RejectReason)

/-- The answers of `pullChanges`. -/
structure PullResult where
  projects : List ServerProject
  tasks : List ServerTask
  cursor : Nat
  hasMore : Bool
  deriving DecidableEq

/-- The wire form of a project row. -/
def Project.wire (project : Project) : ServerProject where
  id := project.id
  name := project.name
  description := project.description
  status := project.status
  deletedAt := project.deletedAt
  rowVersion := project.rowVersion
  updatedAt := project.updatedAt

/-- The wire form of a task row. -/
def Task.wire (task : Task) : ServerTask where
  id := task.id
  projectId := task.projectId
  title := task.title
  done := task.done
  deletedAt := task.deletedAt
  rowVersion := task.rowVersion
  updatedAt := task.updatedAt

/-- `tx.project.findMany`. -/
def Db.projectPage (db : Db) (tenantId : String) (cursor limit : Nat) :
    List Project :=
  pageAbove Project.rowVersion
    (db.projects.rows.filter fun project => project.tenantId = tenantId)
    cursor limit

/-- `tx.task.findMany`. -/
def Db.taskPage (db : Db) (tenantId : String) (cursor limit : Nat) :
    List Task :=
  pageAbove Task.rowVersion
    (db.tasks.rows.filter fun task => task.tenantId = tenantId)
    cursor limit

/-- `pullChanges`. -/
def pullChanges (db : Db) (tenantId : String) (cursor limit : Nat) :
    PullResult :=
  let projects := db.projectPage tenantId cursor limit
  let tasks := db.taskPage tenantId cursor limit
  let prjTruncated := projects.length = limit
  let tskTruncated := tasks.length = limit
  let hasMore := decide (prjTruncated ∨ tskTruncated)
  let maxPrj := lastVersion Project.rowVersion projects cursor
  let maxTsk := lastVersion Task.rowVersion tasks cursor
  let next :=
    if ¬hasMore then if maxPrj > maxTsk then maxPrj else maxTsk
    else if prjTruncated ∧ tskTruncated then
      if maxPrj < maxTsk then maxPrj else maxTsk
    else if prjTruncated then maxPrj else maxTsk
  { projects := projects.map Project.wire
    tasks := tasks.map Task.wire
    cursor := if next < cursor then cursor else next
    hasMore := hasMore }

end Sync
end EvoPlatform
