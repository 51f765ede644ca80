import EvoPlatform.Sync.Protocol

/-!
# The synced tables in the database

Projects and tasks are keyed tables stamped from one sequence: the row-version
trigger draws a fresh value on every insert and update of either table.  The
state of the database carries what PostgreSQL enforces, namely the primary
keys, the stamps and the foreign key from a task to its project.
-/

namespace EvoPlatform
namespace Sync

/-- A row of the `Project` table. -/
structure Project where
  id : String
  tenantId : String
  name : String
  description : Option String
  status : String
  deletedAt : Option Nat
  rowVersion : Nat
  updatedAt : Nat
  deriving DecidableEq

/-- A row of the `Task` table. -/
structure Task where
  id : String
  tenantId : String
  projectId : String
  title : String
  done : Bool
  deletedAt : Option Nat
  rowVersion : Nat
  updatedAt : Nat
  deriving DecidableEq

/-- The columns a project upsert sets, apart from `deletedAt: null`. -/
structure ProjectFields where
  name : String
  description : Option String
  status : String
  deriving DecidableEq

/-- The columns a task upsert sets, apart from `deletedAt: null`. -/
structure TaskFields where
  title : String
  done : Bool
  deriving DecidableEq

/-- The synced part of the database. -/
structure Db where
  projects : Table Project.id
  tasks : Table Task.id
  /-- Last value drawn from `sync_row_version_seq`. -/
  seq : Nat
  /-- The row of `SyncGcHorizon`, when it exists. -/
  horizon : Option Nat
  projectsStamped : Stamped Project.rowVersion projects.rows seq
  tasksStamped : Stamped Task.rowVersion tasks.rows seq
  /-- `Task_projectId_fkey`. -/
  taskParent : ∀ task ∈ tasks.rows,
    (projects.find? task.projectId).isSome = true

namespace Db

/-- The database right after the migrations. -/
def initial : Db where
  projects := Table.empty
  tasks := Table.empty
  seq := 0
  horizon := some 0
  projectsStamped := Stamped.nil _ _
  tasksStamped := Stamped.nil _ _
  taskParent := by simp [Table.empty]

section Writes

-- `clock n` is the time at which the write that draws `n` is made.
variable (clock : Nat → Nat)

/-- Insert or update a project; the trigger stamps the row. -/
def putProject (db : Db) (project : Project) : Db where
  projects := db.projects.put
    { project with rowVersion := db.seq + 1, updatedAt := clock (db.seq + 1) }
  tasks := db.tasks
  seq := db.seq + 1
  horizon := db.horizon
  projectsStamped := db.projectsStamped.put rfl
  tasksStamped := db.tasksStamped.mono (Nat.le_succ _)
  taskParent := by
    intro task present
    rw [Table.find?_put]
    split
    · rfl
    · exact db.taskParent task present

/-- Insert or update a task of an existing project; the trigger stamps the
row. -/
def putTask
    (db : Db)
    (task : Task)
    (parent : (db.projects.find? task.projectId).isSome = true) : Db where
  projects := db.projects
  tasks := db.tasks.put
    { task with rowVersion := db.seq + 1, updatedAt := clock (db.seq + 1) }
  seq := db.seq + 1
  horizon := db.horizon
  projectsStamped := db.projectsStamped.mono (Nat.le_succ _)
  tasksStamped := db.tasksStamped.put rfl
  taskParent := by
    intro other present
    rw [Table.mem_put_iff] at present
    obtain rfl | ⟨old, _⟩ := present
    · exact parent
    · exact db.taskParent other old

@[simp] theorem projects_find?_putProject
    (db : Db) (project : Project) (id : String) :
    (db.putProject clock project).projects.find? id =
      if id = project.id then
        some { project with
          rowVersion := db.seq + 1, updatedAt := clock (db.seq + 1) }
      else db.projects.find? id :=
  Table.find?_put _ _ _

@[simp] theorem tasks_putProject (db : Db) (project : Project) :
    (db.putProject clock project).tasks = db.tasks := rfl

@[simp] theorem seq_putProject (db : Db) (project : Project) :
    (db.putProject clock project).seq = db.seq + 1 := rfl

@[simp] theorem horizon_putProject (db : Db) (project : Project) :
    (db.putProject clock project).horizon = db.horizon := rfl

@[simp] theorem projects_putTask (db : Db) (task : Task) (parent) :
    (db.putTask clock task parent).projects = db.projects := rfl

@[simp] theorem tasks_find?_putTask
    (db : Db) (task : Task) (parent) (id : String) :
    (db.putTask clock task parent).tasks.find? id =
      if id = task.id then
        some { task with
          rowVersion := db.seq + 1, updatedAt := clock (db.seq + 1) }
      else db.tasks.find? id :=
  Table.find?_put _ _ _

@[simp] theorem seq_putTask (db : Db) (task : Task) (parent) :
    (db.putTask clock task parent).seq = db.seq + 1 := rfl

@[simp] theorem horizon_putTask (db : Db) (task : Task) (parent) :
    (db.putTask clock task parent).horizon = db.horizon := rfl

/-- The row `project.upsert` leaves: the stored row with the columns updated,
or a new one. -/
def upsertedProject
    (db : Db) (id tenantId : String) (fields : ProjectFields) : Project :=
  match db.projects.find? id with
  | some project =>
      { project with
        name := fields.name
        description := fields.description
        status := fields.status
        deletedAt := none }
  | none =>
      { id := id
        tenantId := tenantId
        name := fields.name
        description := fields.description
        status := fields.status
        deletedAt := none
        rowVersion := 0
        updatedAt := 0 }

/-- `project.upsert`. -/
def upsertProject
    (db : Db) (id tenantId : String) (fields : ProjectFields) : Db :=
  db.putProject clock (db.upsertedProject id tenantId fields)

/-- `project.update` of `deletedAt`, on a row that exists. -/
def tombstoneProject (db : Db) (id : String) (now : Nat) : Option Db :=
  (db.projects.find? id).map fun project =>
    db.putProject clock { project with deletedAt := some now }

/-- The row that stands in for a project that was never pushed. -/
def stubProject (id tenantId : String) : Project where
  id := id
  tenantId := tenantId
  name := id
  description := none
  status := "Active"
  deletedAt := none
  rowVersion := 0
  updatedAt := 0

/-- `project.create` of a stub, refused when the id is taken. -/
def createStub (db : Db) (id tenantId : String) : Option Db :=
  match db.projects.find? id with
  | some _ => none
  | none => some (db.putProject clock (stubProject id tenantId))

/-- Insert or update a task, which the foreign key refuses when its project
does not exist. -/
def writeTask (db : Db) (task : Task) : Option Db :=
  if parent : (db.projects.find? task.projectId).isSome = true then
    some (db.putTask clock task parent)
  else none

/-- The row `task.upsert` leaves: the stored row with the columns updated, or a
new one. -/
def upsertedTask
    (db : Db) (id tenantId projectId : String) (fields : TaskFields) : Task :=
  match db.tasks.find? id with
  | some task =>
      { task with
        title := fields.title
        done := fields.done
        deletedAt := none }
  | none =>
      { id := id
        tenantId := tenantId
        projectId := projectId
        title := fields.title
        done := fields.done
        deletedAt := none
        rowVersion := 0
        updatedAt := 0 }

/-- `task.upsert`. -/
def upsertTask
    (db : Db) (id tenantId projectId : String) (fields : TaskFields) :
    Option Db :=
  db.writeTask clock (db.upsertedTask id tenantId projectId fields)

/-- `task.update` of `deletedAt`, on a row that exists. -/
def tombstoneTask (db : Db) (id : String) (now : Nat) : Option Db :=
  (db.tasks.find? id).bind fun task =>
    db.writeTask clock { task with deletedAt := some now }

end Writes

end Db

/-! ## Rows that belong to one tenant -/

/-- The project with this id, when it belongs to the tenant. -/
def Db.ownProject (db : Db) (tenantId id : String) : Option Project :=
  (db.projects.find? id).filter fun project => project.tenantId = tenantId

/-- The task with this id, when it belongs to the tenant. -/
def Db.ownTask (db : Db) (tenantId id : String) : Option Task :=
  (db.tasks.find? id).filter fun task => task.tenantId = tenantId

theorem Db.ownProject_eq_some_iff
    (db : Db) (tenantId id : String) (project : Project) :
    db.ownProject tenantId id = some project ↔
      db.projects.find? id = some project ∧ project.tenantId = tenantId := by
  simp [Db.ownProject, Option.filter_eq_some_iff]

theorem Db.ownTask_eq_some_iff
    (db : Db) (tenantId id : String) (task : Task) :
    db.ownTask tenantId id = some task ↔
      db.tasks.find? id = some task ∧ task.tenantId = tenantId := by
  simp [Db.ownTask, Option.filter_eq_some_iff]

end Sync
end EvoPlatform
