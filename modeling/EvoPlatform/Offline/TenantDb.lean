import EvoPlatform.Offline.Outbox

/-!
# The local database and its data layer

Every operation of the data layer writes the local tables and queues a mutation
in one transaction.  Renaming a project and toggling a task read their row
before that transaction, so a call of either is held between its two parts and
other operations may come in between.
-/

namespace EvoPlatform
namespace Offline

open Sync

/-- A row of the local `projects` table. -/
structure LocalProject where
  id : String
  name : String
  description : Option String
  status : String
  updatedAt : Nat
  deriving DecidableEq

/-- A row of the local `tasks` table. -/
structure LocalTask where
  id : String
  projectId : String
  title : String
  done : Bool
  updatedAt : Nat
  deriving DecidableEq

/-- The local database of a tenant; the cursor and the client id are rows of its
`meta` table. -/
structure TenantDatabase where
  projects : Table LocalProject.id
  tasks : Table LocalTask.id
  outbox : Outbox
  cursor : Nat
  clientId : String

namespace TenantDatabase

/-- A new local database. -/
def empty (clientId : String) : TenantDatabase :=
  ⟨Table.empty, Table.empty, Outbox.empty, 0, clientId⟩

variable (db : TenantDatabase)

/-- Write a project and queue its upsert. -/
def writeProject (project : LocalProject) : TenantDatabase :=
  { db with
    projects := db.projects.put project
    outbox := db.outbox.enqueue .project project.id .upsert
      (some (ProjectData.payload
        ⟨project.name, project.description, project.status⟩)) }

/-- Write a task and queue its upsert. -/
def writeTask (task : LocalTask) : TenantDatabase :=
  { db with
    tasks := db.tasks.put task
    outbox := db.outbox.enqueue .task task.id .upsert
      (some (TaskData.payload ⟨task.projectId, task.title, task.done⟩)) }

/-- `createProject`, with the id it draws. -/
def createProject (id name : String) (now : Nat) : TenantDatabase :=
  db.writeProject ⟨id, name, none, "Active", now⟩

/-- The transaction of `renameProject`. -/
def commitRename (existing : LocalProject) (name : String) (now : Nat) :
    TenantDatabase :=
  db.writeProject { existing with name := name, updatedAt := now }

/-- `deleteProject`. -/
def deleteProject (id : String) : TenantDatabase :=
  { db with
    projects := db.projects.erase id
    tasks := db.tasks.eraseWhere fun task => task.projectId = id
    outbox := (db.outbox.purgeForProject id).enqueue .project id .delete none }

/-- `addTask`, with the random part of the id it draws. -/
def addTask (projectId uuid title : String) (now : Nat) : TenantDatabase :=
  db.writeTask ⟨projectId ++ "::" ++ uuid, projectId, title, false, now⟩

/-- The transaction of `toggleTask`. -/
def commitToggle (task : LocalTask) (now : Nat) : TenantDatabase :=
  db.writeTask { task with done := !task.done, updatedAt := now }

/-- `deleteTask`. -/
def deleteTask (id : String) : TenantDatabase :=
  { db with
    tasks := db.tasks.erase id
    outbox := db.outbox.enqueue .task id .delete none }

end TenantDatabase

/-- Calls of the data layer that have read their row. -/
structure Calls where
  renames : List (LocalProject × String)
  toggles : List LocalTask

/-- What the data layer can do next. -/
inductive Edit
  | createProject (id name : String) (now : Nat)
  /-- `renameProject` reads the project. -/
  | renameProject (id name : String)
  /-- A call of `renameProject` writes. -/
  | commitRename (call : LocalProject × String) (now : Nat)
  | deleteProject (id : String)
  | addTask (projectId uuid title : String) (now : Nat)
  /-- `toggleTask` reads the task. -/
  | toggleTask (id : String)
  /-- A call of `toggleTask` writes. -/
  | commitToggle (call : LocalTask) (now : Nat)
  | deleteTask (id : String)

/-- One step of the data layer; only a call that has read can write. -/
def edit (db : TenantDatabase) (calls : Calls) :
    Edit → Option (TenantDatabase × Calls)
  | .createProject id name now => some (db.createProject id name now, calls)
  | .renameProject id name =>
      some (db, match db.projects.find? id with
        | none => calls
        | some existing =>
            { calls with renames := calls.renames ++ [(existing, name)] })
  | .commitRename call now =>
      if call ∈ calls.renames then
        some (db.commitRename call.1 call.2 now,
          { calls with renames := calls.renames.erase call })
      else none
  | .deleteProject id => some (db.deleteProject id, calls)
  | .addTask projectId uuid title now =>
      some (db.addTask projectId uuid title now, calls)
  | .toggleTask id =>
      some (db, match db.tasks.find? id with
        | none => calls
        | some task => { calls with toggles := calls.toggles ++ [task] })
  | .commitToggle call now =>
      if call ∈ calls.toggles then
        some (db.commitToggle call now,
          { calls with toggles := calls.toggles.erase call })
      else none
  | .deleteTask id => some (db.deleteTask id, calls)

/-! ## The writes behind the edits -/

/-- The writes of the data layer, each of them one transaction. -/
inductive LocalWrite
  | nothing
  | project (project : LocalProject)
  | task (task : LocalTask)
  | deleteProject (id : String)
  | deleteTask (id : String)

/-- Carry out a write. -/
def TenantDatabase.write (db : TenantDatabase) : LocalWrite → TenantDatabase
  | .nothing => db
  | .project project => db.writeProject project
  | .task task => db.writeTask task
  | .deleteProject id => db.deleteProject id
  | .deleteTask id => db.deleteTask id

/-- The deletion of a project leaves the mutations it does not purge, and queues
itself. -/
theorem mem_entries_deleteProject
    (db : TenantDatabase) (id : String) (m : OutboxMutation) :
    m ∈ (db.write (.deleteProject id)).outbox.entries ↔
      m ∈ db.outbox.entries ∧ Outbox.purges id m = false ∨
        m = ⟨db.outbox.nextSeq, .project, id, .delete, none⟩ := by
  simp [TenantDatabase.write, TenantDatabase.deleteProject,
    Outbox.purgeForProject]

/-- The write that an edit makes. -/
def Edit.write : Edit → LocalWrite
  | .createProject id name now => .project ⟨id, name, none, "Active", now⟩
  | .renameProject _ _ => .nothing
  | .commitRename call now =>
      .project { call.1 with name := call.2, updatedAt := now }
  | .deleteProject id => .deleteProject id
  | .addTask projectId uuid title now =>
      .task ⟨projectId ++ "::" ++ uuid, projectId, title, false, now⟩
  | .toggleTask _ => .nothing
  | .commitToggle call now =>
      .task { call with done := !call.done, updatedAt := now }
  | .deleteTask id => .deleteTask id

/-- An edit does its write and nothing else to the local database. -/
theorem edit_write
    {db next : TenantDatabase} {calls nextCalls : Calls} {event : Edit}
    (edited : edit db calls event = some (next, nextCalls)) :
    next = db.write event.write := by
  cases event <;> simp only [edit] at edited
  case commitRename call now =>
    split at edited
    · simp only [Option.some.injEq, Prod.mk.injEq] at edited
      exact edited.1.symm
    · contradiction
  case commitToggle call now =>
    split at edited
    · simp only [Option.some.injEq, Prod.mk.injEq] at edited
      exact edited.1.symm
    · contradiction
  all_goals
    simp only [Option.some.injEq, Prod.mk.injEq] at edited
    exact edited.1.symm

end Offline
end EvoPlatform
