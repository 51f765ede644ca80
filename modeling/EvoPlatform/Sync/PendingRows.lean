import EvoPlatform.Sync.ProjectReplica
import EvoPlatform.Sync.TaskReplica

/-!
# Rows with pending writes

A pulled row is skipped while a mutation of it is queued.  A pulled tombstone of
a project also takes the tasks of the project along, without asking whether any
of them has a queued mutation of its own.
-/

namespace EvoPlatform
namespace Sync

open Offline

/-- A page deletes a project, which no queued write shadows. -/
def deletesProject (outbox : Outbox) (page : List ServerProject)
    (projectId : String) : Bool :=
  page.any fun p => p.id = projectId && p.deletedAt.isSome &&
    !outbox.hasPending .project p.id

/-- Every row with a pending mutation is as it was: not overwritten, not deleted
and not created. -/
structure PendingKept (before after : TenantDatabase) : Prop where
  projects : ∀ id, before.outbox.hasPending .project id = true →
    after.projects.find? id = before.projects.find? id
  tasks : ∀ id, before.outbox.hasPending .task id = true →
    after.tasks.find? id = before.tasks.find? id

section Page

variable (db : TenantDatabase) {id : String}

/-! ## The projects of a page -/

theorem outbox_foldl_applyProject (page : List ServerProject) :
    (page.foldl applyProject db).outbox = db.outbox :=
  (sameMeta_foldl sameMeta_applyProject page db).outbox

/-- A project with a pending mutation is skipped. -/
theorem find?_foldl_applyProject_of_pending
    (pending : db.outbox.hasPending .project id = true)
    (page : List ServerProject) :
    (page.foldl applyProject db).projects.find? id =
      db.projects.find? id := by
  induction page generalizing db with
  | nil => rfl
  | cons p page inductionHypothesis =>
      have stillPending :
          (applyProject db p).outbox.hasPending .project id = true := by
        rw [(sameMeta_applyProject db p).outbox]
        exact pending
      rw [List.foldl_cons, inductionHypothesis _ stillPending,
        find?_applyProject, if_neg]
      rintro ⟨_, free⟩
      rw [pending] at free
      contradiction

/-- The tasks that one pulled project leaves. -/
theorem find?_tasks_applyProject (p : ServerProject) :
    (applyProject db p).tasks.find? id =
      (db.tasks.find? id).filter fun task =>
        !deletesProject db.outbox [p] task.projectId := by
  unfold applyProject deletesProject
  split_ifs with pending gone
  · cases found : db.tasks.find? id <;> simp [pending, Option.filter]
  · simp [pending, gone, eq_comm]
  · cases found : db.tasks.find? id <;> simp [gone, Option.filter]

/-- The tasks that the projects of a page leave. -/
theorem find?_tasks_foldl_applyProject (page : List ServerProject) :
    (page.foldl applyProject db).tasks.find? id =
      (db.tasks.find? id).filter fun task =>
        !deletesProject db.outbox page task.projectId := by
  induction page generalizing db with
  | nil =>
      rw [List.foldl_nil]
      cases db.tasks.find? id <;> rfl
  | cons p page inductionHypothesis =>
      rw [List.foldl_cons, inductionHypothesis, find?_tasks_applyProject,
        (sameMeta_applyProject db p).outbox, Option.filter_filter]
      congr 1
      funext task
      simp [deletesProject]

/-! ## The tasks of a page -/

/-- A task with a pending mutation is skipped. -/
theorem find?_foldl_applyTask_of_pending
    (pending : db.outbox.hasPending .task id = true)
    (page : List ServerTask) :
    (page.foldl applyTask db).tasks.find? id = db.tasks.find? id := by
  induction page generalizing db with
  | nil => rfl
  | cons t page inductionHypothesis =>
      have stillPending :
          (applyTask db t).outbox.hasPending .task id = true := by
        rw [(sameMeta_applyTask db t).outbox]
        exact pending
      have skipped := find?_applyTask db t id
      unfold tasksOf at skipped
      rw [List.foldl_cons, inductionHypothesis _ stillPending, skipped, if_neg]
      rintro ⟨_, free⟩
      rw [pending] at free
      contradiction

/-! ## A page -/

/-- What a page does to a project with a pending mutation. -/
theorem find?_projects_applyChanges_of_pending
    (pending : db.outbox.hasPending .project id = true)
    (data : SyncResponse) :
    (applyChanges db data).projects.find? id = db.projects.find? id := by
  rw [applyChanges, projects_foldl_applyTask]
  exact find?_foldl_applyProject_of_pending db pending data.projects

/-- What a page does to a task with a pending mutation. -/
theorem find?_tasks_applyChanges_of_pending
    (pending : db.outbox.hasPending .task id = true)
    (data : SyncResponse) :
    (applyChanges db data).tasks.find? id =
      (db.tasks.find? id).filter fun task =>
        !deletesProject db.outbox data.projects task.projectId := by
  have stillPending : (data.projects.foldl applyProject db).outbox.hasPending
      .task id = true := by
    rw [outbox_foldl_applyProject]
    exact pending
  rw [applyChanges, find?_foldl_applyTask_of_pending _ stillPending,
    find?_tasks_foldl_applyProject]

end Page

/-- A page keeps every row with a pending mutation exactly when it deletes no
project, unshadowed, to which a task with a pending mutation belongs. -/
theorem pendingKept_applyChanges_iff
    (db : TenantDatabase)
    (data : SyncResponse) :
    PendingKept db (applyChanges db data) ↔
      ∀ task ∈ db.tasks.rows, db.outbox.hasPending .task task.id = true →
        deletesProject db.outbox data.projects task.projectId = false := by
  constructor
  · intro kept task present pending
    have found := Table.find?_of_mem db.tasks present
    have stays := kept.tasks task.id pending
    rw [find?_tasks_applyChanges_of_pending db pending, found,
      Option.filter_eq_some_iff] at stays
    simpa using stays.2
  · intro spared
    refine ⟨?_, ?_⟩
    · intro id pending
      exact find?_projects_applyChanges_of_pending db pending data
    · intro id pending
      rw [find?_tasks_applyChanges_of_pending db pending]
      cases found : db.tasks.find? id with
      | none => rfl
      | some task =>
          have sameId := db.tasks.key_of_find? found
          have isSpared := spared task (db.tasks.mem_of_find? found)
            (sameId ▸ pending)
          simp [isSpared]

/-! ## A tombstone over a pending task -/

/-- The task "t" of the project "p" has just been toggled. -/
def toggledTask : TenantDatabase :=
  { TenantDatabase.empty "browser" with
    projects := Table.empty.put ⟨"p", "Garden", none, "Active", 1⟩
    tasks := Table.empty.put ⟨"t", "p", "Weed", false, 1⟩ }.commitToggle
      ⟨"t", "p", "Weed", false, 1⟩ 2

/-- Another client has deleted the project "p". -/
def projectGone : SyncResponse where
  applied := []
  rejected := []
  projects := [⟨"p", "Garden", none, "Active", some 3, 7, 3⟩]
  tasks := []
  cursor := 7
  hasMore := false
  resyncRequired := false

/-- The toggled task is still queued, and its row is gone. -/
theorem tombstone_removes_pendingTask :
    toggledTask.outbox.hasPending .task "t" = true ∧
      toggledTask.tasks.find? "t" = some ⟨"t", "p", "Weed", true, 2⟩ ∧
      (applyChanges toggledTask projectGone).tasks.find? "t" = none ∧
      ¬ PendingKept toggledTask (applyChanges toggledTask projectGone) := by
  have pending : toggledTask.outbox.hasPending .task "t" = true := by decide
  have before : toggledTask.tasks.find? "t" =
      some ⟨"t", "p", "Weed", true, 2⟩ := by decide
  have after : (applyChanges toggledTask projectGone).tasks.find? "t" =
      none := by decide
  refine ⟨pending, before, after, ?_⟩
  intro kept
  have stays := kept.tasks "t" pending
  rw [before, after] at stays
  contradiction

end Sync
end EvoPlatform
