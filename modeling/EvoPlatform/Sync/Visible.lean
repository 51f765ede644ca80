import EvoPlatform.Sync.Effects
import EvoPlatform.Sync.Endpoint

/-!
# What a batch does to one row

What clients see of the tables, without stamps and times, changes row by row.
A mutation takes a turn at a row, and what the turn leaves depends only on what
was seen of that row and on which rows belong to other tenants, which no
mutation of the tenant changes.  A batch is followed at a row as the sequence of
its turns.
-/

namespace EvoPlatform
namespace Sync

/-- What clients see of a project. -/
structure SeenProject where
  tenantId : String
  name : String
  description : Option String
  status : String
  live : Bool
  deriving DecidableEq

/-- What clients see of a task. -/
structure SeenTask where
  tenantId : String
  projectId : String
  title : String
  done : Bool
  live : Bool
  deriving DecidableEq

def Project.seen (project : Project) : SeenProject where
  tenantId := project.tenantId
  name := project.name
  description := project.description
  status := project.status
  live := project.deletedAt.isNone

def Task.seen (task : Task) : SeenTask where
  tenantId := task.tenantId
  projectId := task.projectId
  title := task.title
  done := task.done
  live := task.deletedAt.isNone

namespace Db

variable (db : Db)

def seenProject (id : String) : Option SeenProject :=
  (db.projects.find? id).map Project.seen

def seenTask (id : String) : Option SeenTask :=
  (db.tasks.find? id).map Task.seen

/-- The project ids that belong to other tenants. -/
def foreignProjects (tenantId id : String) : Bool :=
  foreignProject tenantId (db.projects.find? id)

/-- The task ids that belong to other tenants. -/
def foreignTasks (tenantId id : String) : Bool :=
  foreignTask tenantId (db.tasks.find? id)

theorem foreignProjects_eq_seen (tenantId id : String) :
    db.foreignProjects tenantId id =
      (db.seenProject id).any fun seen => seen.tenantId ≠ tenantId := by
  cases found : db.projects.find? id with
  | none => simp [foreignProjects, foreignProject, seenProject, found]
  | some project =>
      simp [foreignProjects, foreignProject, seenProject, found, Project.seen]

theorem foreignTasks_eq_seen (tenantId id : String) :
    db.foreignTasks tenantId id =
      (db.seenTask id).any fun seen => seen.tenantId ≠ tenantId := by
  cases found : db.tasks.find? id with
  | none => simp [foreignTasks, foreignTask, seenTask, found]
  | some task => simp [foreignTasks, foreignTask, seenTask, found, Task.seen]

theorem seenProject_putProject (clock : Nat → Nat) (project : Project)
    (id : String) :
    (db.putProject clock project).seenProject id =
      if id = project.id then some project.seen else db.seenProject id := by
  unfold seenProject
  rw [projects_find?_putProject]
  split <;> rfl

@[simp] theorem seenTask_putProject (clock : Nat → Nat) (project : Project)
    (id : String) :
    (db.putProject clock project).seenTask id = db.seenTask id := rfl

theorem seenTask_putTask (clock : Nat → Nat) (task : Task) (parent)
    (id : String) :
    (db.putTask clock task parent).seenTask id =
      if id = task.id then some task.seen else db.seenTask id := by
  unfold seenTask
  rw [tasks_find?_putTask]
  split <;> rfl

@[simp] theorem seenProject_putTask (clock : Nat → Nat) (task : Task) (parent)
    (id : String) :
    (db.putTask clock task parent).seenProject id = db.seenProject id := rfl

end Db

/-! ## Turns at a project -/

/-- What a mutation does at a project. -/
inductive ProjectTurn
  | leave
  | upsert (fields : ProjectFields)
  | delete
  /-- A stub stands in for it, if it is missing. -/
  | stand
  deriving DecidableEq

namespace ProjectTurn

variable (tenantId id : String)

/-- What clients see after a turn. -/
def take : ProjectTurn → Option SeenProject → Option SeenProject
  | .leave, seen => seen
  | .upsert fields, none =>
      some ⟨tenantId, fields.name, fields.description, fields.status, true⟩
  | .upsert fields, some seen =>
      if seen.tenantId = tenantId then
        some ⟨tenantId, fields.name, fields.description, fields.status, true⟩
      else some seen
  | .delete, none => none
  | .delete, some seen =>
      if seen.tenantId = tenantId then some { seen with live := false }
      else some seen
  | .stand, none => some ⟨tenantId, id, none, "Active", true⟩
  | .stand, some seen => some seen

/-- No turn changes whether a project belongs to another tenant. -/
theorem foreign_take (turn : ProjectTurn) (seen : Option SeenProject) :
    ((turn.take tenantId id seen).any fun after => after.tenantId ≠ tenantId) =
      seen.any fun before => before.tenantId ≠ tenantId := by
  cases seen with
  | none => cases turn <;> simp [take]
  | some seen =>
      by_cases own : seen.tenantId = tenantId
      · cases turn <;> simp [take, own]
      · cases turn <;> simp [take, own]

end ProjectTurn

/-- The project that a task upsert needs, unless it is rejected before it is
looked up. -/
def SyncMutation.parent (m : SyncMutation) : Option String :=
  if invalidTaskUpsert m then none else textArgument (m.field "projectId")

/-- The turn of a mutation at a project. -/
def SyncMutation.projectTurn (m : SyncMutation) (id : String) : ProjectTurn :=
  match m.table, m.op with
  | .project, .upsert =>
      if m.id = id ∧ invalidProjectUpsert m = false then
        (m.projectFields.map ProjectTurn.upsert).getD .leave
      else .leave
  | .project, .delete => if m.id = id then .delete else .leave
  | .task, .upsert => if m.parent = some id then .stand else .leave
  | .task, .delete => .leave

/-! ## Turns at a task -/

/-- What a mutation does at a task. -/
inductive TaskTurn
  | leave
  | upsert (projectId : String) (fields : TaskFields)
  | delete
  deriving DecidableEq

namespace TaskTurn

variable (tenantId : String)

/-- What clients see after a turn; a task keeps its project. -/
def take : TaskTurn → Option SeenTask → Option SeenTask
  | .leave, seen => seen
  | .upsert projectId fields, none =>
      some ⟨tenantId, projectId, fields.title, fields.done, true⟩
  | .upsert _ fields, some seen =>
      if seen.tenantId = tenantId then
        some { seen with
          title := fields.title, done := fields.done, live := true }
      else some seen
  | .delete, none => none
  | .delete, some seen =>
      if seen.tenantId = tenantId then some { seen with live := false }
      else some seen

/-- No turn changes whether a task belongs to another tenant. -/
theorem foreign_take (turn : TaskTurn) (seen : Option SeenTask) :
    ((turn.take tenantId seen).any fun after => after.tenantId ≠ tenantId) =
      seen.any fun before => before.tenantId ≠ tenantId := by
  cases seen with
  | none => cases turn <;> simp [take]
  | some seen =>
      by_cases own : seen.tenantId = tenantId
      · cases turn <;> simp [take, own]
      · cases turn <;> simp [take, own]

end TaskTurn

/-- The turn of a mutation at a task; upserts into projects of other tenants are
rejected. -/
def SyncMutation.taskTurn (foreign : String → Bool) (m : SyncMutation)
    (id : String) : TaskTurn :=
  match m.table, m.op with
  | .task, .upsert =>
      if m.id = id then
        match m.parent, m.taskFields with
        | some projectId, some fields =>
            if foreign projectId then .leave else .upsert projectId fields
        | _, _ => .leave
      else .leave
  | .task, .delete => if m.id = id then .delete else .leave
  | .project, _ => .leave

/-- The answer to a mutation, by the rows that belong to other tenants. -/
def SyncMutation.verdict (foreignProjects foreignTasks : String → Bool)
    (m : SyncMutation) : Verdict :=
  match m.table, m.op with
  | .project, .upsert =>
      if invalidProjectUpsert m then .rejected .invalid
      else if foreignProjects m.id then .rejected .idConflict
      else if m.projectFields.isNone then .rejected .invalid
      else .applied
  | .project, .delete =>
      if foreignProjects m.id then .rejected .idConflict else .applied
  | .task, .upsert =>
      match m.parent with
      | none => .rejected .invalid
      | some projectId =>
          if foreignProjects projectId then .rejected .idConflict
          else if foreignTasks m.id then .rejected .idConflict
          else if m.taskFields.isNone then .rejected .invalid
          else .applied
  | .task, .delete =>
      if foreignTasks m.id then .rejected .idConflict else .applied

/-! ## One mutation -/

section Mutations

variable (engine : Engine) (tenantId : String) (m : SyncMutation) (db : Db)

/-- An effect takes the turns of its mutation and gives its answer. -/
structure TakesTurns (effect : Db × Verdict) : Prop where
  project : ∀ id, effect.1.seenProject id =
    (m.projectTurn id).take tenantId id (db.seenProject id)
  task : ∀ id, effect.1.seenTask id =
    (m.taskTurn (db.foreignProjects tenantId) id).take tenantId
      (db.seenTask id)
  verdict : effect.2 = m.verdict (db.foreignProjects tenantId)
    (db.foreignTasks tenantId)

variable {tenantId db}

/-- What is seen of a project that belongs to another tenant stays. -/
theorem ProjectTurn.take_of_foreign
    {id : String}
    (foreign : db.foreignProjects tenantId id = true)
    (turn : ProjectTurn) :
    turn.take tenantId id (db.seenProject id) = db.seenProject id := by
  rw [Db.foreignProjects_eq_seen] at foreign
  cases seen : db.seenProject id with
  | none => simp [seen] at foreign
  | some project =>
      have notOwn : project.tenantId ≠ tenantId := by simpa [seen] using foreign
      cases turn <;> simp [ProjectTurn.take, notOwn]

theorem TaskTurn.take_of_foreign
    {id : String}
    (foreign : db.foreignTasks tenantId id = true)
    (turn : TaskTurn) :
    turn.take tenantId (db.seenTask id) = db.seenTask id := by
  rw [Db.foreignTasks_eq_seen] at foreign
  cases seen : db.seenTask id with
  | none => simp [seen] at foreign
  | some task =>
      have notOwn : task.tenantId ≠ tenantId := by simpa [seen] using foreign
      cases turn <;> simp [TaskTurn.take, notOwn]

variable (tenantId db)

/-- What a project upsert leaves is what its turn leaves. -/
theorem seenProject_upsertProject
    {clock : Nat → Nat}
    {rowId : String}
    (own : db.foreignProjects tenantId rowId = false)
    (fields : ProjectFields) :
    (db.upsertProject clock rowId tenantId fields).seenProject rowId =
      (ProjectTurn.upsert fields).take tenantId rowId
        (db.seenProject rowId) := by
  unfold Db.upsertProject Db.upsertedProject
  cases found : db.projects.find? rowId with
  | none =>
      simp [Db.seenProject, found, Project.seen, ProjectTurn.take]
  | some stored =>
      have isRow : stored.id = rowId := db.projects.key_of_find? found
      have isOwn : stored.tenantId = tenantId := by
        simpa [Db.foreignProjects, foreignProject, found] using own
      simp [Db.seenProject, found, Project.seen, ProjectTurn.take, isRow,
        isOwn]

theorem seenProject_upsertProject_of_ne
    {clock : Nat → Nat}
    {rowId id : String}
    (other : id ≠ rowId)
    (fields : ProjectFields) :
    (db.upsertProject clock rowId tenantId fields).seenProject id =
      db.seenProject id := by
  unfold Db.upsertProject
  have isRow : (db.upsertedProject rowId tenantId fields).id = rowId := by
    unfold Db.upsertedProject
    cases found : db.projects.find? rowId with
    | none => rfl
    | some stored =>
        have isRow : stored.id = rowId := db.projects.key_of_find? found
        exact isRow
  rw [Db.seenProject_putProject, isRow, if_neg other]

theorem projectUpsertEffect_eq :
    projectUpsertEffect engine tenantId m db =
      if invalidProjectUpsert m then (db, .rejected .invalid)
      else if db.foreignProjects tenantId m.id then (db, .rejected .idConflict)
      else
        match m.projectFields with
        | none => (db, .rejected .invalid)
        | some fields =>
            (db.upsertProject engine.clock m.id tenantId fields, .applied) :=
  rfl

theorem projectUpsertEffect_takesTurns
    (table : m.table = .project) (op : m.op = .upsert) :
    TakesTurns tenantId m db (projectUpsertEffect engine tenantId m db) := by
  have noTask (id : String) :
      m.taskTurn (db.foreignProjects tenantId) id = .leave := by
    simp [SyncMutation.taskTurn, table]
  have turnIs (id : String) : m.projectTurn id =
      if m.id = id ∧ invalidProjectUpsert m = false then
        (m.projectFields.map ProjectTurn.upsert).getD .leave
      else .leave := by
    simp [SyncMutation.projectTurn, table, op]
  have verdictIs : m.verdict (db.foreignProjects tenantId)
      (db.foreignTasks tenantId) =
      if invalidProjectUpsert m then .rejected .invalid
      else if db.foreignProjects tenantId m.id then .rejected .idConflict
      else if m.projectFields.isNone then .rejected .invalid
      else .applied := by
    simp [SyncMutation.verdict, table, op]
  rw [projectUpsertEffect_eq]
  by_cases invalid : invalidProjectUpsert m = true
  · rw [if_pos invalid]
    exact ⟨fun id => by simp [turnIs, invalid, ProjectTurn.take],
      fun id => by simp [noTask, TaskTurn.take], by simp [verdictIs, invalid]⟩
  rw [if_neg invalid]
  by_cases foreign : db.foreignProjects tenantId m.id = true
  · rw [if_pos foreign]
    refine ⟨fun id => ?_, fun id => by simp [noTask, TaskTurn.take],
      by simp [verdictIs, invalid, foreign]⟩
    by_cases here : m.id = id
    · subst here
      exact (ProjectTurn.take_of_foreign foreign _).symm
    · simp [turnIs, here, ProjectTurn.take]
  rw [if_neg foreign]
  cases fields : m.projectFields with
  | none =>
      exact ⟨fun id => by simp [turnIs, fields, ProjectTurn.take],
        fun id => by simp [noTask, TaskTurn.take],
        by simp [verdictIs, invalid, foreign, fields]⟩
  | some columns =>
      have isOwn : db.foreignProjects tenantId m.id = false :=
        Bool.eq_false_iff.mpr foreign
      refine ⟨fun id => ?_, fun id => ?_,
        by simp [verdictIs, invalid, foreign, fields]⟩
      · by_cases here : m.id = id
        · subst here
          rw [seenProject_upsertProject tenantId db isOwn]
          simp [turnIs, invalid, fields]
        · rw [seenProject_upsertProject_of_ne tenantId db (Ne.symm here)]
          simp [turnIs, here, ProjectTurn.take]
      · simp [noTask, TaskTurn.take, Db.upsertProject]

theorem projectDeleteEffect_takesTurns
    (table : m.table = .project) (op : m.op = .delete) :
    TakesTurns tenantId m db (projectDeleteEffect engine tenantId m db) := by
  have noTask (id : String) :
      m.taskTurn (db.foreignProjects tenantId) id = .leave := by
    simp [SyncMutation.taskTurn, table]
  have turnIs (id : String) : m.projectTurn id =
      if m.id = id then .delete else .leave := by
    simp [SyncMutation.projectTurn, table, op]
  have verdictIs : m.verdict (db.foreignProjects tenantId)
      (db.foreignTasks tenantId) =
      if db.foreignProjects tenantId m.id then .rejected .idConflict
      else .applied := by
    simp [SyncMutation.verdict, table, op]
  -- Where nothing is written, the row is one that a deletion leaves.
  have unwritten (verdict : Verdict)
      (stays : ProjectTurn.delete.take tenantId m.id (db.seenProject m.id) =
        db.seenProject m.id)
      (answer : verdict = m.verdict (db.foreignProjects tenantId)
        (db.foreignTasks tenantId)) :
      TakesTurns tenantId m db (db, verdict) := by
    refine ⟨fun id => ?_, fun id => by simp [noTask, TaskTurn.take], answer⟩
    by_cases here : m.id = id
    · subst here
      simp [turnIs, stays]
    · simp [turnIs, here, ProjectTurn.take]
  unfold projectDeleteEffect
  cases found : db.projects.find? m.id with
  | none =>
      refine unwritten _ (by simp [Db.seenProject, found, ProjectTurn.take]) ?_
      simp [verdictIs, Db.foreignProjects, foreignProject, found]
  | some stored =>
      by_cases own : stored.tenantId = tenantId
      · by_cases gone : stored.deletedAt.isSome = true
        · have isDead : stored.deletedAt.isNone = false := by
            simpa using gone
          simp only [ne_eq, own, not_true, if_false, gone, if_true]
          refine unwritten _ (by
            simp [Db.seenProject, found, ProjectTurn.take, Project.seen, own,
              isDead]) ?_
          simp [verdictIs, Db.foreignProjects, foreignProject, found, own]
        · simp only [ne_eq, own, not_true, if_false, gone, Bool.false_eq_true]
          have isRow : stored.id = m.id := db.projects.key_of_find? found
          refine ⟨fun id => ?_, fun id => by simp [noTask, TaskTurn.take], by
            simp [verdictIs, Db.foreignProjects, foreignProject, found, own]⟩
          rw [Db.seenProject_putProject]
          by_cases here : m.id = id
          · subst here
            simp [turnIs, isRow, Db.seenProject, found, Project.seen,
              ProjectTurn.take, own]
          · simp [turnIs, isRow, here, Ne.symm here, ProjectTurn.take]
      · simp only [ne_eq, own, not_false_eq_true, if_true]
        refine unwritten _ (by
          simp [Db.seenProject, found, ProjectTurn.take, Project.seen, own]) ?_
        simp [verdictIs, Db.foreignProjects, foreignProject, found, own]

/-- A missing project is stood in for, and nothing else is seen to change. -/
theorem seenProject_ensureProject
    (clock : Nat → Nat)
    (projectId id : String) :
    (db.ensureProject clock projectId tenantId).seenProject id =
      if id = projectId then
        ProjectTurn.stand.take tenantId id (db.seenProject id)
      else db.seenProject id := by
  unfold Db.ensureProject
  cases found : db.projects.find? projectId with
  | none =>
      rw [if_neg (by simp), Db.seenProject_putProject]
      by_cases here : id = projectId
      · subst here
        simp [Db.stubProject, Db.seenProject, found, Project.seen,
          ProjectTurn.take]
      · simp [Db.stubProject, here]
  | some stored =>
      rw [if_pos (by simp)]
      by_cases here : id = projectId
      · subst here
        simp [Db.seenProject, found, ProjectTurn.take]
      · simp [here]

@[simp] theorem seenTask_ensureProject
    (clock : Nat → Nat)
    (projectId id : String) :
    (db.ensureProject clock projectId tenantId).seenTask id =
      db.seenTask id := by
  rw [Db.seenTask, Db.tasks_ensureProject, Db.seenTask]

/-- A task upsert into a project that exists is carried out, and leaves what its
turn leaves. -/
theorem upsertTask_of_parent
    (clock : Nat → Nat)
    {rowId projectId : String}
    (parent : (db.projects.find? projectId).isSome = true)
    (own : db.foreignTasks tenantId rowId = false)
    (fields : TaskFields) :
    ∃ written, db.upsertTask clock rowId tenantId projectId fields =
        some written ∧
      (∀ id, written.seenProject id = db.seenProject id) ∧
      ∀ id, written.seenTask id =
        if id = rowId then
          (TaskTurn.upsert projectId fields).take tenantId (db.seenTask id)
        else db.seenTask id := by
  unfold Db.upsertTask Db.upsertedTask Db.writeTask
  cases found : db.tasks.find? rowId with
  | none =>
      refine ⟨_, dif_pos parent, fun id => rfl, fun id => ?_⟩
      rw [Db.seenTask_putTask]
      by_cases here : id = rowId
      · subst here
        simp [Db.seenTask, found, Task.seen, TaskTurn.take]
      · simp [here]
  | some stored =>
      have isRow : stored.id = rowId := db.tasks.key_of_find? found
      have isOwn : stored.tenantId = tenantId := by
        simpa [Db.foreignTasks, foreignTask, found] using own
      refine ⟨_, dif_pos (db.taskParent stored (db.tasks.mem_of_find? found)),
        fun id => rfl, fun id => ?_⟩
      rw [Db.seenTask_putTask]
      by_cases here : id = rowId
      · subst here
        simp [Db.seenTask, found, Task.seen, TaskTurn.take, isRow, isOwn]
      · simp [here, isRow]

section TaskUpserts

variable (table : m.table = .task) (op : m.op = .upsert)
include table op

theorem projectTurn_of_taskUpsert (id : String) :
    m.projectTurn id = if m.parent = some id then .stand else .leave := by
  simp [SyncMutation.projectTurn, table, op]

theorem taskTurn_of_taskUpsert (foreign : String → Bool) (id : String) :
    m.taskTurn foreign id =
      if m.id = id then
        match m.parent, m.taskFields with
        | some projectId, some fields =>
            if foreign projectId then .leave else .upsert projectId fields
        | _, _ => .leave
      else .leave := by
  simp [SyncMutation.taskTurn, table, op]

theorem verdict_of_taskUpsert (foreignProjects foreignTasks : String → Bool) :
    m.verdict foreignProjects foreignTasks =
      match m.parent with
      | none => .rejected .invalid
      | some projectId =>
          if foreignProjects projectId then .rejected .idConflict
          else if foreignTasks m.id then .rejected .idConflict
          else if m.taskFields.isNone then .rejected .invalid
          else .applied := by
  simp [SyncMutation.verdict, table, op]

omit table op in
theorem taskUpsertEffect_eq :
    taskUpsertEffect engine tenantId m db =
      match m.parent with
      | none => (db, .rejected .invalid)
      | some projectId =>
          if db.foreignProjects tenantId projectId then
            (db, .rejected .idConflict)
          else
            taskWriteEffect engine tenantId m
              (db.ensureProject engine.clock projectId tenantId)
              projectId := by
  unfold taskUpsertEffect SyncMutation.parent
  by_cases invalid : invalidTaskUpsert m = true
  · simp [invalid]
  · simp only [invalid, Bool.false_eq_true, if_false]
    cases textArgument (m.field "projectId") <;> rfl

/-- Where no task is written, at most the stub was. -/
theorem takesTurns_of_unwritten
    {base : Db} {verdict : Verdict}
    (baseProject : ∀ id, base.seenProject id =
      (m.projectTurn id).take tenantId id (db.seenProject id))
    (baseTask : ∀ id, base.seenTask id = db.seenTask id)
    (stays : (m.taskTurn (db.foreignProjects tenantId) m.id).take tenantId
      (db.seenTask m.id) = db.seenTask m.id)
    (answer : verdict = m.verdict (db.foreignProjects tenantId)
      (db.foreignTasks tenantId)) :
    TakesTurns tenantId m db (base, verdict) := by
  refine ⟨baseProject, fun id => (baseTask id).trans ?_, answer⟩
  by_cases here : m.id = id
  · subst here
    exact stays.symm
  · simp [taskTurn_of_taskUpsert m table op, here, TaskTurn.take]

omit table op in
theorem taskWriteEffect_eq (base : Db) (projectId : String) :
    taskWriteEffect engine tenantId m base projectId =
      if base.foreignTasks tenantId m.id then (base, .rejected .idConflict)
      else
        match m.taskFields with
        | none => (base, .rejected .invalid)
        | some fields =>
            match base.upsertTask engine.clock m.id tenantId projectId
              fields with
            | none => (base, .rejected .invalid)
            | some written => (written, .applied) :=
  rfl

/-- The project stands, and the task is written or not. -/
theorem taskWriteEffect_takesTurns
    {projectId : String}
    (needs : m.parent = some projectId)
    (own : db.foreignProjects tenantId projectId = false) :
    TakesTurns tenantId m db (taskWriteEffect engine tenantId m
      (db.ensureProject engine.clock projectId tenantId) projectId) := by
  have turnIs := taskTurn_of_taskUpsert m table op (db.foreignProjects tenantId)
  have verdictIs := verdict_of_taskUpsert m table op
    (db.foreignProjects tenantId) (db.foreignTasks tenantId)
  let base := db.ensureProject engine.clock projectId tenantId
  have baseProject (id : String) : base.seenProject id =
      (m.projectTurn id).take tenantId id (db.seenProject id) := by
    rw [seenProject_ensureProject, projectTurn_of_taskUpsert m table op, needs]
    by_cases here : id = projectId
    · simp [here]
    · simp [here, Ne.symm here, ProjectTurn.take]
  have baseTask (id : String) : base.seenTask id = db.seenTask id :=
    seenTask_ensureProject tenantId db engine.clock projectId id
  have parent : (base.projects.find? projectId).isSome = true := by
    have stands := seenProject_ensureProject tenantId db engine.clock
      projectId projectId
    rw [if_pos rfl] at stands
    have seen : (base.seenProject projectId).isSome = true := by
      rw [stands]
      cases db.seenProject projectId <;> rfl
    simpa [Db.seenProject] using seen
  have sameForeign : base.foreignTasks tenantId m.id =
      db.foreignTasks tenantId m.id := by
    rw [Db.foreignTasks_eq_seen, baseTask, Db.foreignTasks_eq_seen]
  have unwritten := @takesTurns_of_unwritten tenantId m db table op base
  change TakesTurns tenantId m db (taskWriteEffect engine tenantId m base
    projectId)
  rw [taskWriteEffect_eq, sameForeign]
  by_cases foreignRow : db.foreignTasks tenantId m.id = true
  · rw [if_pos foreignRow]
    exact unwritten baseProject baseTask (TaskTurn.take_of_foreign foreignRow _)
      (by simp [verdictIs, needs, own, foreignRow])
  rw [if_neg foreignRow]
  cases fields : m.taskFields with
  | none =>
      exact unwritten baseProject baseTask
        (by simp [turnIs, needs, fields, TaskTurn.take])
        (by simp [verdictIs, needs, own, foreignRow, fields])
  | some columns =>
      have ownRow : base.foreignTasks tenantId m.id = false :=
        sameForeign.trans (Bool.eq_false_iff.mpr foreignRow)
      obtain ⟨written, isWritten, seenProjects, seenTasks⟩ :=
        upsertTask_of_parent tenantId base engine.clock parent ownRow columns
      simp only [isWritten]
      refine ⟨fun id => (seenProjects id).trans (baseProject id),
        fun id => (seenTasks id).trans ?_,
        by simp [verdictIs, needs, own, foreignRow, fields]⟩
      rw [baseTask]
      by_cases here : m.id = id
      · simp [turnIs, here, needs, fields, own]
      · simp [turnIs, here, Ne.symm here, TaskTurn.take]

theorem taskUpsertEffect_takesTurns :
    TakesTurns tenantId m db (taskUpsertEffect engine tenantId m db) := by
  have projectTurnIs := projectTurn_of_taskUpsert m table op
  have turnIs := taskTurn_of_taskUpsert m table op (db.foreignProjects tenantId)
  have verdictIs := verdict_of_taskUpsert m table op
    (db.foreignProjects tenantId) (db.foreignTasks tenantId)
  rw [taskUpsertEffect_eq]
  cases needs : m.parent with
  | none =>
      exact ⟨fun id => by simp [projectTurnIs, needs, ProjectTurn.take],
        fun id => by simp [turnIs, needs, TaskTurn.take],
        by simp [verdictIs, needs]⟩
  | some projectId =>
      dsimp only
      by_cases foreign : db.foreignProjects tenantId projectId = true
      · rw [if_pos foreign]
        refine ⟨fun id => ?_, fun id => ?_, by simp [verdictIs, needs, foreign]⟩
        · by_cases here : projectId = id
          · subst here
            exact (ProjectTurn.take_of_foreign foreign _).symm
          · simp [projectTurnIs, needs, here, ProjectTurn.take]
        · by_cases here : m.id = id
          · cases fields : m.taskFields <;>
              simp [turnIs, needs, here, fields, foreign, TaskTurn.take]
          · simp [turnIs, here, TaskTurn.take]
      · rw [if_neg foreign]
        exact taskWriteEffect_takesTurns engine tenantId m db table op needs
          (Bool.eq_false_iff.mpr foreign)

end TaskUpserts

theorem taskDeleteEffect_takesTurns
    (table : m.table = .task) (op : m.op = .delete) :
    TakesTurns tenantId m db (taskDeleteEffect engine tenantId m db) := by
  have noProject (id : String) : m.projectTurn id = .leave := by
    simp [SyncMutation.projectTurn, table, op]
  have turnIs (id : String) : m.taskTurn (db.foreignProjects tenantId) id =
      if m.id = id then .delete else .leave := by
    simp [SyncMutation.taskTurn, table, op]
  have verdictIs : m.verdict (db.foreignProjects tenantId)
      (db.foreignTasks tenantId) =
      if db.foreignTasks tenantId m.id then .rejected .idConflict
      else .applied := by
    simp [SyncMutation.verdict, table, op]
  have unwritten (verdict : Verdict)
      (stays : TaskTurn.delete.take tenantId (db.seenTask m.id) =
        db.seenTask m.id)
      (answer : verdict = m.verdict (db.foreignProjects tenantId)
        (db.foreignTasks tenantId)) :
      TakesTurns tenantId m db (db, verdict) := by
    refine ⟨fun id => by simp [noProject, ProjectTurn.take], fun id => ?_,
      answer⟩
    by_cases here : m.id = id
    · subst here
      simp [turnIs, stays]
    · simp [turnIs, here, TaskTurn.take]
  unfold taskDeleteEffect
  cases found : db.tasks.find? m.id with
  | none =>
      refine unwritten _ (by simp [Db.seenTask, found, TaskTurn.take]) ?_
      simp [verdictIs, Db.foreignTasks, foreignTask, found]
  | some stored =>
      have parent := db.taskParent stored (db.tasks.mem_of_find? found)
      have writes : db.tombstoneTask engine.clock m.id engine.now =
          some (db.putTask engine.clock
            { stored with deletedAt := some engine.now } parent) := by
        simp [Db.tombstoneTask, Db.writeTask, found, parent]
      by_cases own : stored.tenantId = tenantId
      · by_cases gone : stored.deletedAt.isSome = true
        · have isDead : stored.deletedAt.isNone = false := by
            simpa using gone
          simp only [ne_eq, own, not_true, if_false, gone, if_true]
          refine unwritten _ (by
            simp [Db.seenTask, found, TaskTurn.take, Task.seen, own,
              isDead]) ?_
          simp [verdictIs, Db.foreignTasks, foreignTask, found, own]
        · simp only [ne_eq, own, not_true, if_false, gone, Bool.false_eq_true,
            writes]
          have isRow : stored.id = m.id := db.tasks.key_of_find? found
          refine ⟨fun id => by simp [noProject, ProjectTurn.take],
            fun id => ?_, by
              simp [verdictIs, Db.foreignTasks, foreignTask, found, own]⟩
          rw [Db.seenTask_putTask]
          by_cases here : m.id = id
          · subst here
            simp [turnIs, isRow, Db.seenTask, found, Task.seen,
              TaskTurn.take, own]
          · simp [turnIs, isRow, here, Ne.symm here, TaskTurn.take]
      · simp only [ne_eq, own, not_false_eq_true, if_true]
        refine unwritten _ (by
          simp [Db.seenTask, found, TaskTurn.take, Task.seen, own]) ?_
        simp [verdictIs, Db.foreignTasks, foreignTask, found, own]

/-- A mutation takes its turns. -/
theorem mutate_takesTurns :
    TakesTurns tenantId m db (mutate engine tenantId m db) := by
  unfold mutate
  split
  · rename_i table op
    exact projectUpsertEffect_takesTurns engine tenantId m db table op
  · rename_i table op
    exact projectDeleteEffect_takesTurns engine tenantId m db table op
  · rename_i table op
    exact taskUpsertEffect_takesTurns engine tenantId m db table op
  · rename_i table op
    exact taskDeleteEffect_takesTurns engine tenantId m db table op

/-- Which rows belong to other tenants does not change. -/
@[simp] theorem foreignProjects_mutate :
    (mutate engine tenantId m db).1.foreignProjects tenantId =
      db.foreignProjects tenantId := by
  funext id
  rw [Db.foreignProjects_eq_seen, Db.foreignProjects_eq_seen,
    (mutate_takesTurns engine tenantId m db).project,
    ProjectTurn.foreign_take]

@[simp] theorem foreignTasks_mutate :
    (mutate engine tenantId m db).1.foreignTasks tenantId =
      db.foreignTasks tenantId := by
  funext id
  rw [Db.foreignTasks_eq_seen, Db.foreignTasks_eq_seen,
    (mutate_takesTurns engine tenantId m db).task, TaskTurn.foreign_take]

end Mutations

/-! ## A batch -/

namespace ProjectTurn

/-- Turns one after the other. -/
def takeAll (tenantId id : String) (turns : List ProjectTurn)
    (seen : Option SeenProject) : Option SeenProject :=
  turns.foldl (fun seen turn => turn.take tenantId id seen) seen

@[simp] theorem takeAll_nil (tenantId id : String)
    (seen : Option SeenProject) :
    takeAll tenantId id [] seen = seen := rfl

@[simp] theorem takeAll_cons (tenantId id : String) (turn : ProjectTurn)
    (turns : List ProjectTurn) (seen : Option SeenProject) :
    takeAll tenantId id (turn :: turns) seen =
      takeAll tenantId id turns (turn.take tenantId id seen) := rfl

@[simp] theorem takeAll_append (tenantId id : String)
    (first second : List ProjectTurn) (seen : Option SeenProject) :
    takeAll tenantId id (first ++ second) seen =
      takeAll tenantId id second (takeAll tenantId id first seen) :=
  List.foldl_append

end ProjectTurn

namespace TaskTurn

/-- Turns one after the other. -/
def takeAll (tenantId : String) (turns : List TaskTurn)
    (seen : Option SeenTask) : Option SeenTask :=
  turns.foldl (fun seen turn => turn.take tenantId seen) seen

@[simp] theorem takeAll_nil (tenantId : String) (seen : Option SeenTask) :
    takeAll tenantId [] seen = seen := rfl

@[simp] theorem takeAll_cons (tenantId : String) (turn : TaskTurn)
    (turns : List TaskTurn) (seen : Option SeenTask) :
    takeAll tenantId (turn :: turns) seen =
      takeAll tenantId turns (turn.take tenantId seen) := rfl

@[simp] theorem takeAll_append (tenantId : String)
    (first second : List TaskTurn) (seen : Option SeenTask) :
    takeAll tenantId (first ++ second) seen =
      takeAll tenantId second (takeAll tenantId first seen) :=
  List.foldl_append

end TaskTurn

section Batches

variable (engine : Engine) (tenantId : String) (batch : List SyncMutation)
  (state : BatchState)

/-- A batch takes its turns at every row. -/
structure BatchTakesTurns (after : BatchState) : Prop where
  project : ∀ id, after.db.seenProject id =
    ProjectTurn.takeAll tenantId id (batch.map fun m => m.projectTurn id)
      (state.db.seenProject id)
  task : ∀ id, after.db.seenTask id =
    TaskTurn.takeAll tenantId
      (batch.map fun m => m.taskTurn (state.db.foreignProjects tenantId) id)
      (state.db.seenTask id)
  foreignProjects : after.db.foreignProjects tenantId =
    state.db.foreignProjects tenantId
  foreignTasks : after.db.foreignTasks tenantId =
    state.db.foreignTasks tenantId
  applied : after.applied = state.applied ++
    batch.filterMap fun m =>
      match m.verdict (state.db.foreignProjects tenantId)
          (state.db.foreignTasks tenantId) with
      | .applied => some m.seq
      | .rejected _ => none
  rejected : after.rejected = state.rejected ++
    batch.filterMap fun m =>
      match m.verdict (state.db.foreignProjects tenantId)
          (state.db.foreignTasks tenantId) with
      | .applied => none
      | .rejected reason => some (m.seq, reason)

theorem settleBatch_takesTurns :
    BatchTakesTurns tenantId batch state
      (settleBatch engine tenantId batch state) := by
  induction batch generalizing state with
  | nil =>
      exact ⟨fun _ => rfl, fun _ => rfl, rfl, rfl, (List.append_nil _).symm,
        (List.append_nil _).symm⟩
  | cons m batch inductionHypothesis =>
      let next := state.settle m (mutate engine tenantId m state.db)
      have turns := mutate_takesTurns engine tenantId m state.db
      have rest := inductionHypothesis next
      have nextDb : next.db = (mutate engine tenantId m state.db).1 :=
        BatchState.db_settle _ _ _
      have sameProjects : next.db.foreignProjects tenantId =
          state.db.foreignProjects tenantId := by
        rw [nextDb, foreignProjects_mutate]
      have sameTasks : next.db.foreignTasks tenantId =
          state.db.foreignTasks tenantId := by
        rw [nextDb, foreignTasks_mutate]
      change BatchTakesTurns tenantId (m :: batch) state
        (settleBatch engine tenantId batch next)
      constructor
      · intro id
        rw [rest.project, nextDb, turns.project, List.map_cons,
          ProjectTurn.takeAll_cons]
      · intro id
        rw [rest.task, sameProjects, nextDb, turns.task, List.map_cons,
          TaskTurn.takeAll_cons]
      · exact rest.foreignProjects.trans sameProjects
      · exact rest.foreignTasks.trans sameTasks
      · rw [rest.applied, sameProjects, sameTasks, List.filterMap_cons,
          ← turns.verdict]
        cases answer : (mutate engine tenantId m state.db).2 <;>
          simp [next, BatchState.settle, BatchState.answer, answer]
      · rw [rest.rejected, sameProjects, sameTasks, List.filterMap_cons,
          ← turns.verdict]
        cases answer : (mutate engine tenantId m state.db).2 <;>
          simp [next, BatchState.settle, BatchState.answer, answer]

/-- A batch that is applied, every statement of it carried out. -/
structure Pushed (engine : Engine) (tenantId : String)
    (batch : List SyncMutation) (db : Db) (after : BatchState) : Prop where
  carriedOut : batchRefused engine tenantId batch db = false
  ran : applyMutations engine tenantId batch (BatchState.begin db) =
    .ok () after

variable {engine tenantId batch} {db : Db} {after : BatchState}

theorem Pushed.eq_settleBatch
    (pushed : Pushed engine tenantId batch db after) :
    after = settleBatch engine tenantId batch (BatchState.begin db) := by
  have ran := pushed.ran
  rw [applyMutations_of_accepted engine tenantId batch rfl pushed.carriedOut]
    at ran
  injection ran with _ isSettled
  exact isSettled.symm

theorem Pushed.takesTurns
    (pushed : Pushed engine tenantId batch db after) :
    BatchTakesTurns tenantId batch (BatchState.begin db) after :=
  pushed.eq_settleBatch ▸
    settleBatch_takesTurns engine tenantId batch (BatchState.begin db)

theorem pushed_settleBatch
    (carriedOut : batchRefused engine tenantId batch db = false) :
    Pushed engine tenantId batch db
      (settleBatch engine tenantId batch (BatchState.begin db)) :=
  ⟨carriedOut, applyMutations_of_accepted engine tenantId batch rfl carriedOut⟩

end Batches

/-- Clients see the same rows. -/
structure SameSeen (left right : Db) : Prop where
  project : ∀ id, left.seenProject id = right.seenProject id
  task : ∀ id, left.seenTask id = right.seenTask id

end Sync
end EvoPlatform
