import EvoPlatform.Sync.Deletions

/-!
# Agreement of tasks

As long as nothing is rejected and projects are deleted only once they are empty,
every client that has pulled everything and has an empty outbox holds the live
tasks of its tenant, and so any two of them agree.
-/

namespace EvoPlatform
namespace Sync

open Offline

/-! ## Served mutations of tasks -/

section Served

variable {engine : Engine} {tenantId : String}

/-- An applied mutation of a task settles. -/
theorem mutate_settles_task
    {cursor : Nat} {m : SyncMutation} {db : Db}
    (upTo : cursor ≤ db.seq)
    (applied : (mutate engine tenantId m db).2 = .applied) :
    taskKind.Settles tenantId (mutate engine tenantId m db).1 cursor m := by
  have mutates := mutate_mutates engine tenantId m db
  rw [applied] at mutates
  generalize (mutate engine tenantId m db).1 = written at mutates ⊢
  intro table
  change m.table = .task at table
  change (written.ownTask tenantId m.id = none → m.op = .delete) ∧
    ∀ row, written.ownTask tenantId m.id = some row →
      row.rowVersion ≤ cursor →
        m.op = .delete ∧ row.wire.display = none
  cases mutates with
  | projectUpserted _ isProject =>
      rw [table] at isProject
      contradiction
  | projectDeleted _ isProject =>
      rw [table] at isProject
      contradiction
  | projectGone isProject =>
      rw [table] at isProject
      contradiction
  | taskUpserted projectId fields base parent _ op _ _ isBase _ own =>
      have drawn : cursor ≤ base.seq := by
        have writes : OwnWrites engine.clock tenantId db base :=
          isBase ▸ ensureProject_ownWrites projectId
        exact upTo.trans (writes.movesOn tenantId).seq_le
      have baseOwn : ∀ stored, base.tasks.find? m.id = some stored →
          stored.tenantId = tenantId := by
        rw [isBase, Db.tasks_ensureProject]
        exact own
      have found : (base.putTask engine.clock
          (base.upsertedTask m.id tenantId projectId fields)
            parent).ownTask tenantId m.id =
              some { base.upsertedTask m.id tenantId projectId fields with
                rowVersion := base.seq + 1
                updatedAt := engine.clock (base.seq + 1) } := by
        rw [Db.ownTask_eq_some_iff, Db.tasks_find?_putTask,
          if_pos (upsertedTask_id m.id tenantId projectId fields).symm]
        exact ⟨rfl, upsertedTask_tenantId baseOwn⟩
      rw [found]
      refine ⟨by simp, ?_⟩
      rintro _ ⟨⟩ old
      change base.seq + 1 ≤ cursor at old
      omega
  | taskDeleted stored parent _ op found own live =>
      have sameId : stored.id = m.id := db.tasks.key_of_find? found
      have written : (db.putTask engine.clock { stored with
          deletedAt := some engine.now } parent).ownTask tenantId m.id =
            some { stored with
              deletedAt := some engine.now
              rowVersion := db.seq + 1
              updatedAt := engine.clock (db.seq + 1) } := by
        rw [Db.ownTask_eq_some_iff, Db.tasks_find?_putTask,
          if_pos sameId.symm]
        exact ⟨rfl, own⟩
      rw [written]
      refine ⟨by simp, ?_⟩
      rintro _ ⟨⟩ old
      change db.seq + 1 ≤ cursor at old
      omega
  | taskGone _ op gone =>
      refine ⟨fun _ => op, fun row found _ => ⟨op, ?_⟩⟩
      obtain ⟨stored, _⟩ := (db.ownTask_eq_some_iff _ _ _).mp found
      have dead : row.wire.deletedAt.isSome = true := (gone row stored).2
      simp [ServerTask.display, dead]

end Served

/-! ## Pulled tasks -/

/-- The rows of the local table of tasks, by id. -/
def tasksOf (db : TenantDatabase) (id : String) : Option LocalTask :=
  db.tasks.find? id

/-- A pulled task is shown unless a queued write shadows it. -/
theorem find?_applyTask
    (db : TenantDatabase) (t : ServerTask) (id : String) :
    tasksOf (applyTask db t) id =
      if id = t.id ∧ db.outbox.hasPending .task id = false then t.display
      else tasksOf db id := by
  unfold tasksOf applyTask ServerTask.display
  cases pending : db.outbox.hasPending .task t.id with
  | true =>
      rw [if_pos rfl, if_neg]
      rintro ⟨rfl, free⟩
      rw [pending] at free
      contradiction
  | false =>
      rw [if_neg (by simp)]
      rcases eq_or_ne id t.id with rfl | different
      · split_ifs <;> simp_all
      · split_ifs <;> simp_all

/-- A pulled project takes its tasks along when it is deleted. -/
theorem tasksOf_applyProject
    (db : TenantDatabase) (p : ServerProject) (id : String) :
    tasksOf (applyProject db p) id = tasksOf db id ∨
      tasksOf (applyProject db p) id = none ∧ p.deletedAt.isSome = true ∧
        ∃ task, tasksOf db id = some task ∧ task.projectId = p.id := by
  unfold applyProject
  split_ifs with pending gone
  · exact Or.inl rfl
  · have erased : tasksOf { db with
          projects := db.projects.erase p.id
          tasks := db.tasks.eraseWhere fun task => task.projectId = p.id } id =
        (tasksOf db id).filter fun task => task.projectId ≠ p.id := by
      simp [tasksOf]
    rw [erased]
    cases held : tasksOf db id with
    | none => exact Or.inl rfl
    | some task =>
        rcases eq_or_ne task.projectId p.id with placed | elsewhere
        · exact Or.inr ⟨by simp [placed], gone, task, rfl, placed⟩
        · exact Or.inl (by simp [elsewhere])
  · exact Or.inl rfl

theorem tasksOf_applyProject_of_none
    {db : TenantDatabase} {id : String}
    (absent : tasksOf db id = none) (p : ServerProject) :
    tasksOf (applyProject db p) id = none := by
  rcases tasksOf_applyProject db p id with same | ⟨none, _⟩
  · rw [same, absent]
  · exact none

/-- A task is excused while the deletion of its project is queued. -/
def ProjectGoes (outbox : Outbox) (task : Task) : Prop :=
  ∃ m ∈ outbox.entries, m.table = .project ∧ m.rowId = task.projectId ∧
    m.op = .delete

/-- A shown task is a live one of the server. -/
theorem own_of_shown
    {tenantId : String} {server : Db} {db : TenantDatabase} {id : String}
    {shown : LocalTask}
    (synced : taskKind.SyncedUpTo tenantId ProjectGoes server db db.cursor)
    (free : ¬db.outbox.hasPending .task id = true)
    (upTo : ∀ task, server.ownTask tenantId id = some task →
      task.rowVersion ≤ db.cursor)
    (held : tasksOf db id = some shown) :
    ∃ task, server.ownTask tenantId id = some task ∧
      task.projectId = shown.projectId ∧ task.deletedAt = none := by
  cases found : server.ownTask tenantId id with
  | none =>
      have gone : tasksOf db id = none := synced.absent id free found
      rw [held] at gone
      contradiction
  | some task =>
      have current : tasksOf db id = task.wire.display ∨
          tasksOf db id = none ∧ ProjectGoes db.outbox task :=
        synced.current id task free found (upTo task found)
      rw [held] at current
      rcases current with shows | ⟨lacking, _⟩
      · obtain ⟨live, rfl⟩ := Task.display_eq_some_iff.mp shows.symm
        exact ⟨task, rfl, rfl, live⟩
      · contradiction

section Page

variable {db : TenantDatabase} {data : SyncResponse} {id : String}

/-- A task that is not shown is not shown after pulled projects. -/
theorem tasksOf_foldl_applyProject_of_none
    (absent : tasksOf db id = none) (page : List ServerProject) :
    tasksOf (page.foldl applyProject db) id = none :=
  List.foldlRecOn page applyProject
    (motive := fun state => tasksOf state id = none) absent
    fun _ gone p _ => tasksOf_applyProject_of_none gone p

theorem hasPending_applyTask (id : String) (waits : Bool)
    (state : TenantDatabase) (t : ServerTask)
    (waited : state.outbox.hasPending .task id = waits) :
    (applyTask state t).outbox.hasPending .task id = waits := by
  rw [(sameMeta_applyTask state t).outbox]
  exact waited

theorem tasksOf_applyTask_of_ne
    (state : TenantDatabase) (t : ServerTask) (different : t.id ≠ id) :
    tasksOf (applyTask state t) id = tasksOf state id := by
  rw [find?_applyTask, if_neg (by simp [different.symm])]

/-- What is pulled about a task is shown, when the page is of one mind. -/
theorem tasksOf_applyChanges_of_mem
    {t : ServerTask}
    (free : ¬db.outbox.hasPending .task id = true)
    (member : t ∈ data.tasks)
    (keyed : t.id = id)
    (agreed : ∀ other ∈ data.tasks, other.id = id → other = t) :
    tasksOf (applyChanges db data) id = t.display := by
  have before := sameMeta_foldl sameMeta_applyProject data.projects db
  refine foldl_delivered tasksOf ServerTask.id ServerTask.display
    (hasPending_applyTask id false)
    (fun state t _ => tasksOf_applyTask_of_ne state t) ?_ data.tasks
    (before.outbox ▸ Bool.not_eq_true _ ▸ free) ?_
    (Or.inr ⟨t, member, keyed⟩)
  · rintro state t waits rfl
    rw [find?_applyTask, if_pos ⟨rfl, waits⟩]
  · intro other onPage same
    exact congrArg ServerTask.display (agreed other onPage same)

/-- Of a task that is not pulled only the pulled projects decide. -/
theorem tasksOf_applyChanges_of_not_mem
    (free : ¬db.outbox.hasPending .task id = true)
    (absent : ∀ other ∈ data.tasks, other.id ≠ id) :
    tasksOf (applyChanges db data) id =
      tasksOf (data.projects.foldl applyProject db) id :=
  have before := sameMeta_foldl sameMeta_applyProject data.projects db
  foldl_untouched tasksOf ServerTask.id
    (hasPending_applyTask id false)
    (fun state t _ => tasksOf_applyTask_of_ne state t) data.tasks
    (before.outbox ▸ Bool.not_eq_true _ ▸ free) absent

/-- A pull does not bring back a task with a queued write. -/
theorem tasksOf_applyChanges_of_none
    (pending : db.outbox.hasPending .task id = true)
    (gone : tasksOf db id = none) :
    tasksOf (applyChanges db data) id = none := by
  have before := sameMeta_foldl sameMeta_applyProject data.projects db
  have held : ∀ state : TenantDatabase,
      state.outbox.hasPending .task id = true ∧ tasksOf state id = none →
        ∀ t ∈ data.tasks,
          (applyTask state t).outbox.hasPending .task id = true ∧
            tasksOf (applyTask state t) id = none := by
    rintro state ⟨waits, none⟩ t _
    refine ⟨hasPending_applyTask id true state t waits, ?_⟩
    rw [find?_applyTask, if_neg (by simp [waits])]
    exact none
  exact (List.foldlRecOn data.tasks applyTask
    (motive := fun state => state.outbox.hasPending .task id = true ∧
      tasksOf state id = none)
    ⟨before.outbox.symm ▸ pending,
      tasksOf_foldl_applyProject_of_none gone data.projects⟩ held).2

end Page

/-- Pulled tasks are worked in: what a deleted project takes along was not shown
by then. -/
theorem worksIn_tasks
    {tenantId : String} {server : Db} {db : TenantDatabase}
    {data : SyncResponse}
    (synced : taskKind.SyncedUpTo tenantId ProjectGoes server db db.cursor)
    (emptied : ∀ p ∈ data.projects, p.deletedAt.isSome = true →
      Emptied tenantId server p.id db.cursor) :
    Shadows.WorksIn taskKind tenantId server db data := by
  refine ⟨fun id row free member keyed agreed =>
    tasksOf_applyChanges_of_mem free member keyed agreed, ?_,
    fun id pending gone => tasksOf_applyChanges_of_none pending gone⟩
  intro id free absent upTo
  refine (tasksOf_applyChanges_of_not_mem free absent).trans ?_
  change _ = tasksOf db id
  cases held : tasksOf db id with
  | none => exact tasksOf_foldl_applyProject_of_none held data.projects
  | some task =>
      obtain ⟨row, found, placed, live⟩ := own_of_shown synced free upTo held
      have elsewhere : ∀ p ∈ data.projects, p.deletedAt.isSome = true →
          task.projectId ≠ p.id := by
        intro p onPage gone same
        have dead := emptied p onPage gone id row found (placed.trans same)
          (upTo row found)
        simp [live] at dead
      exact List.foldlRecOn data.projects applyProject
        (motive := fun state => tasksOf state id = some task) held
        fun state shown p onPage => by
          rcases tasksOf_applyProject state p id with same | dropped
          · exact same.trans shown
          · obtain ⟨_, gone, other, found, placed⟩ := dropped
            rw [shown] at found
            cases found
            exact absurd placed (elsewhere p onPage gone)

/-! ## Answered deletions -/

/-- A deletion leaves the outbox only when its project is empty. -/
theorem excuses_cleared
    {tenantId : String} {server : Db} {peer : Peer}
    {loop : Nat} {snapshot : DrainSnapshot} {data : SyncResponse}
    (deletes : Deletes tenantId server peer)
    (proper : Proper server peer)
    (clearing : peer.client.phase = .clearing loop snapshot data)
    {id : String} {task : Task}
    (found : server.ownTask tenantId id = some task)
    (upTo : task.rowVersion ≤ peer.client.db.cursor)
    (excused : ProjectGoes peer.client.db.outbox task) :
    ProjectGoes (peer.client.db.outbox.deleteApplied snapshot data.applied)
        task ∨
      task.wire.display = none := by
  have sending : peer.sending = true := by simp [Peer.sending, clearing]
  have answered : peer.answer? = some data := by
    simp [Peer.answer?, clearing]
  obtain rfl := proper.clearing _ _ _ clearing
  have remaining := mem_deleteApplied_iff (proper.covered sending)
    (proper.applied sending data answered)
  obtain ⟨m, queued, table, row, op⟩ := excused
  rcases Nat.lt_or_ge m.seq peer.taken.nextSeq with old | new
  · have seen := proper.covered sending m queued old
    obtain ⟨sent, isLast, sameTable, sameRow⟩ := exists_isLast seen
    have isDelete := deletes.taken sending m seen table op sent isLast.1
      (sameTable.trans table) sameRow
    have dead := deletes.sent sending (by simp [answered]) sent isLast
      (sameTable.trans table) isDelete id task found
      (row.symm.trans sameRow.symm) upTo
    have gone : task.wire.deletedAt.isSome = true := dead
    exact Or.inr (by simp [ServerTask.display, gone])
  · exact Or.inl ⟨m, (remaining m).mpr ⟨queued, new⟩, table, row, op⟩

/-! ## Writes of the data layer -/

/-- A deletion of a project purges no queued write of a task of another project:
neither the local nor the stored row of a purged task is in one. -/
def purgesOwnTasks (tenantId : String) (system : System) : SystemEvent → Bool
  | .edit index event =>
      match event.write with
      | .deleteProject id =>
          let db := (system.peers index).client.db
          db.outbox.entries.all fun m =>
            m.table = .project || !Outbox.purges id m ||
              (db.tasks.find? m.rowId).all (fun task => task.projectId = id) &&
                (system.db.ownTask tenantId m.rowId).all fun task =>
                  task.projectId = id
      | _ => true
  | _ => true

theorem tasks_of_purgesOwnTasks
    {tenantId : String} {system : System} {index : Nat} {event : Edit}
    {id : String}
    (ownTasks : purgesOwnTasks tenantId system (.edit index event) = true)
    (deletes : event.write = .deleteProject id) :
    ∀ m ∈ (system.peers index).client.db.outbox.entries,
      m.table = .task → Outbox.purges id m = true →
        (∀ shown, (system.peers index).client.db.tasks.find? m.rowId =
          some shown → shown.projectId = id) ∧
        ∀ task, system.db.ownTask tenantId m.rowId = some task →
          task.projectId = id := by
  intro m member table purged
  simp only [purgesOwnTasks, deletes, List.all_eq_true] at ownTasks
  simpa [table, purged, Option.all_eq_true] using ownTasks m member

section Writes

variable {tenantId : String} {server : Db} {peer : Peer} {calls : Calls}

theorem ProjectGoes.enqueue
    {outbox : Outbox} {task : Task}
    (goes : ProjectGoes outbox task)
    (table : SyncTable) (rowId : String) (op : SyncOp)
    (data : Option JsonObject) :
    ProjectGoes (outbox.enqueue table rowId op data) task := by
  obtain ⟨m, queued, facts⟩ := goes
  refine ⟨m, ?_, facts⟩
  rw [Outbox.entries_enqueue]
  exact List.mem_append_left _ queued

section Deletion

variable {db : TenantDatabase} {id taskId : String}

/-- The tasks of a project that is deleted locally are excused. -/
theorem projectGoes_deleteProject
    {task : Task}
    (placed : task.projectId = id) :
    ProjectGoes (db.write (.deleteProject id)).outbox task :=
  ⟨⟨db.outbox.nextSeq, .project, id, .delete, none⟩,
    (mem_entries_deleteProject db id _).mpr (Or.inr rfl), rfl, placed.symm, rfl⟩

/-- Excused tasks stay excused when no other project is purged. -/
theorem ProjectGoes.deleteProject
    {task : Task}
    (goes : ProjectGoes db.outbox task)
    (onlyItself : ∀ m ∈ db.outbox.entries, m.table = .project →
      Outbox.purges id m = true → m.rowId = id) :
    ProjectGoes (db.write (.deleteProject id)).outbox task := by
  obtain ⟨m, member, table, row, op⟩ := goes
  cases purged : Outbox.purges id m with
  | true =>
      exact projectGoes_deleteProject
        (row.symm.trans (onlyItself m member table purged))
  | false =>
      exact ⟨m, (mem_entries_deleteProject db id m).mpr
        (Or.inl ⟨member, purged⟩), table, row, op⟩

/-- The local tasks after the deletion of a project. -/
theorem tasksOf_deleteProject (db : TenantDatabase) (id taskId : String) :
    tasksOf (db.write (.deleteProject id)) taskId =
      (tasksOf db taskId).filter fun task => task.projectId ≠ id := by
  refine (Table.find?_eraseWhere _ _ _).trans ?_
  simp [tasksOf]

theorem tasksOf_deleteProject_of_none
    (absent : tasksOf db taskId = none) :
    tasksOf (db.write (.deleteProject id)) taskId = none := by
  rw [tasksOf_deleteProject, absent]
  rfl

/-- A task without queued writes had none, or they are purged. -/
theorem purged_of_not_pending
    (free : ¬(db.write (.deleteProject id)).outbox.hasPending .task taskId =
      true) :
    ¬db.outbox.hasPending .task taskId = true ∨
      ∃ m ∈ db.outbox.entries, m.table = .task ∧ m.rowId = taskId ∧
        Outbox.purges id m = true := by
  rw [or_iff_not_imp_left, not_not, Outbox.hasPending_iff]
  rintro ⟨m, member, table, row⟩
  refine ⟨m, member, table, row, ?_⟩
  by_contra spared
  refine free ((Outbox.hasPending_iff _ _ _).mpr ⟨m, ?_, table, row⟩)
  exact (mem_entries_deleteProject db id m).mpr
    (Or.inl ⟨member, by simpa using spared⟩)

/-- A shown task stays shown, or its project is deleted. -/
theorem tasksOf_deleteProject_of_shown
    {task : Task}
    (shows : tasksOf db taskId = task.wire.display) :
    tasksOf (db.write (.deleteProject id)) taskId = task.wire.display ∨
      tasksOf (db.write (.deleteProject id)) taskId = none ∧
        ProjectGoes (db.write (.deleteProject id)).outbox task := by
  cases held : tasksOf db taskId with
  | none =>
      rw [← shows, held]
      exact Or.inl (tasksOf_deleteProject_of_none held)
  | some shown =>
      obtain ⟨_, isShown⟩ :=
        Task.display_eq_some_iff.mp (shows.symm.trans held)
      rw [tasksOf_deleteProject, ← shows, held]
      rcases eq_or_ne shown.projectId id with placed | elsewhere
      · refine Or.inr ⟨by simp [placed], projectGoes_deleteProject ?_⟩
        rw [isShown] at placed
        exact placed
      · exact Or.inl (by simp [elsewhere])

end Deletion

/-- The deletion of a project that purges only its own writes and those of its
tasks. -/
theorem wrote_deleteProject_tasks
    {id : String}
    (shadows : Shadows taskKind tenantId ProjectGoes server peer)
    (nextSeq : peer.sending = true →
      peer.taken.nextSeq ≤ peer.client.db.outbox.nextSeq)
    (onlyItself : ∀ m ∈ peer.client.db.outbox.entries, m.table = .project →
      Outbox.purges id m = true → m.rowId = id)
    (ownTasks : ∀ m ∈ peer.client.db.outbox.entries, m.table = .task →
      Outbox.purges id m = true →
        (∀ shown, tasksOf peer.client.db m.rowId = some shown →
          shown.projectId = id) ∧
        ∀ task, server.ownTask tenantId m.rowId = some task →
          task.projectId = id) :
    Shadows taskKind tenantId ProjectGoes server
      (peer.wrote (.deleteProject id) calls) := by
  -- A task whose writes are purged is dropped with its project.
  have dropped : ∀ m ∈ peer.client.db.outbox.entries, m.table = .task →
      Outbox.purges id m = true →
        tasksOf (peer.client.db.write (.deleteProject id)) m.rowId = none := by
    intro m member table purged
    rw [tasksOf_deleteProject]
    cases held : tasksOf peer.client.db m.rowId with
    | none => rfl
    | some shown => simp [(ownTasks m member table purged).1 shown held]
  refine shadows.wrote nextSeq ?_ ?_ ?_ ?_
  · intro cursor synced
    constructor
    · intro taskId free gone
      rcases purged_of_not_pending free with
        wasFree | ⟨m, member, table, rfl, purged⟩
      · exact tasksOf_deleteProject_of_none (synced.absent taskId wasFree gone)
      · exact dropped m member table purged
    · intro taskId task free found upTo
      rcases purged_of_not_pending free with
        wasFree | ⟨m, member, table, rfl, purged⟩
      · rcases synced.current taskId task wasFree found upTo with
          shows | ⟨lacking, excused⟩
        · exact tasksOf_deleteProject_of_shown shows
        · exact Or.inr ⟨tasksOf_deleteProject_of_none lacking,
            excused.deleteProject onlyItself⟩
      · exact Or.inr ⟨dropped m member table purged, projectGoes_deleteProject
          ((ownTasks m member table purged).2 task found)⟩
  · intro m isLast table op
    have entries : (peer.client.db.write (.deleteProject id)).outbox =
        (peer.client.db.outbox.purgeForProject id).enqueue .project id .delete
          none := rfl
    rw [entries] at isLast
    rcases isLast_enqueue isLast with rfl | ⟨wasLast, _⟩
    · contradiction
    · exact tasksOf_deleteProject_of_none (shadows.lastDelete m
        (isLast_of_deleteWhere (fun _ _ => purges_congr) wasLast) table op)
  · exact fun taskId gone => Or.inr (tasksOf_deleteProject_of_none gone)
  · intro m member table
    cases purged : Outbox.purges id m with
    | true => exact Or.inr (Or.inr (dropped m member table purged))
    | false =>
        exact Or.inl ((mem_entries_deleteProject _ id m).mpr
          (Or.inl ⟨member, purged⟩))

/-- The data layer writes. -/
theorem wrote_tasks
    (write : LocalWrite)
    (shadows : Shadows taskKind tenantId ProjectGoes server peer)
    (nextSeq : peer.sending = true →
      peer.taken.nextSeq ≤ peer.client.db.outbox.nextSeq)
    (onlyItself : ∀ id, write = .deleteProject id →
      ∀ m ∈ peer.client.db.outbox.entries, m.table = .project →
        Outbox.purges id m = true → m.rowId = id)
    (ownTasks : ∀ id, write = .deleteProject id →
      ∀ m ∈ peer.client.db.outbox.entries, m.table = .task →
        Outbox.purges id m = true →
          (∀ shown, tasksOf peer.client.db m.rowId = some shown →
            shown.projectId = id) ∧
          ∀ task, server.ownTask tenantId m.rowId = some task →
            task.projectId = id) :
    Shadows taskKind tenantId ProjectGoes server (peer.wrote write calls) := by
  cases write with
  | nothing =>
      exact shadows.wrote nextSeq (fun _ => id) shadows.lastDelete
        (fun _ => Or.inr) (fun _ member _ => Or.inl member)
  | project project =>
      exact shadows.wrote_other nextSeq rfl (by simp [taskKind]) rfl
        (fun _ goes => goes.enqueue _ _ _ _)
  | task task =>
      refine shadows.wrote_row nextSeq rfl ?_ (by simp)
        (fun _ goes => goes.enqueue _ _ _ _)
      intro other different
      exact (Table.find?_put _ _ _).trans (if_neg different)
  | deleteProject id =>
      exact wrote_deleteProject_tasks shadows nextSeq (onlyItself id rfl)
        (ownTasks id rfl)
  | deleteTask taskId =>
      refine shadows.wrote_row nextSeq rfl ?_ (fun _ => ?_)
        (fun _ goes => goes.enqueue _ _ _ _)
      · intro other different
        exact (Table.find?_erase _ _ _).trans (if_neg different)
      · exact (Table.find?_erase _ _ _).trans (if_pos rfl)

end Writes

/-! ## Runs -/

/-- A project is deleted on the server only when it is empty, no task is written
into a deleted one, no project is written while its deletion is queued, and
deletions purge nothing of other projects. -/
def deletesEmptied (tenantId : String) (system : System) (event : SystemEvent) :
    Bool :=
  servesNoOrphan tenantId system event && restoresNothing system event &&
    purgesOnlyItself system event && purgesOwnTasks tenantId system event

theorem deletesEmptied_iff
    (tenantId : String) (system : System) (event : SystemEvent) :
    deletesEmptied tenantId system event = true ↔
      servesNoOrphan tenantId system event = true ∧
        restoresNothing system event = true ∧
        purgesOnlyItself system event = true ∧
        purgesOwnTasks tenantId system event = true := by
  simp [deletesEmptied, and_assoc]

section Runs

variable {tenantId : String} {clientIds : Nat → String}
  {events : List SystemEvent} {system : System}

/-- The server is orderly and every peer shadows its tasks, in every run in which
nothing is rejected and only empty projects are deleted. -/
theorem tasks_upheld
    (run : Run (System.step tenantId)
      (fun system event => rejectsNothing tenantId system event = true ∧
        deletesEmptied tenantId system event = true)
      (System.initial clientIds) events system) :
    Upheld (Orderly tenantId)
      (fun server peer => Shadows taskKind tenantId ProjectGoes server peer ∧
        Deletes tenantId server peer) system := by
  refine upheld_of_run (fun _ _ allowed => allowed.1)
    ⟨.initial tenantId, ?_⟩ ?_ ?_ ?_ ?_ ?_ run
  · intro clientId
    refine ⟨.fresh clientId (fun _ => rfl) (fun _ => rfl), .of_ended rfl ?_⟩
    exact fun m queued => absurd queued (List.not_mem_nil)
  · exact fun server after peer proper holds moves =>
      ⟨holds.1.moveOn proper.ordered moves, holds.2.moveOn proper moves⟩
  · intro system index event calls allowed _ proper holds
    obtain ⟨_, restores, onlyItself, ownTasks⟩ :=
      (deletesEmptied_iff _ _ _).mp allowed.2
    refine ⟨wrote_tasks event.write holds.1 proper.nextSeq ?_ ?_,
      holds.2.wrote event.write calls ?_⟩
    · exact fun id deletes =>
        purges_self_of_purgesOnlyItself onlyItself deletes
    · exact fun id deletes => tasks_of_purgesOwnTasks ownTasks deletes
    · exact fun project writes => kept_of_restoresNothing restores writes
  · intro server peer next _ proper holds moves
    refine ⟨holds.1.move proper moves ?_ ?_, holds.2.move proper moves⟩
    · intro loop snapshot data clearing id task found upTo excused
      exact excuses_cleared holds.2 proper clearing found upTo excused
    · intro loop data applying
      have answered : peer.answer? = some data := by
        simp [Peer.answer?, applying]
      exact worksIn_tasks holds.1.synced (holds.2.pulled data answered)
  · intro system index engine loop snapshot request allowed uncollected orderly
      proper holds awaiting
    have noRejection := rejected_of_rejectsNothing allowed.1 awaiting
    have safe := ((deletesEmptied_iff _ _ _).mp allowed.2).1
    simp only [servesNoOrphan, awaiting] at safe
    obtain ⟨kept, deletes⟩ := holds.2.served proper uncollected orderly awaiting
      noRejection safe
    obtain ⟨_, sent, sameCursor⟩ := proper.awaiting _ _ _ awaiting
    refine ⟨kept, holds.1.served proper.ordered uncollected awaiting sent
      sameCursor ?_, deletes⟩
    intro data succeeded
    exact taskKind.settles_of_answers
      (answers_of_succeeded uncollected succeeded) (noRejection data succeeded)
      (sameCursor ▸ proper.cursor_le) fun _ _ => mutate_settles_task
  · intro server arrival other orderly
    exact orderly.foreign (POST_ownWrites _ _ _ _) other

/-- The cursor of a client has passed every task of the tenant. -/
def AtHead (tenantId : String) (system : System) (index : Nat) : Prop :=
  ∀ task ∈ system.db.tasks.rows, task.tenantId = tenantId →
    task.rowVersion ≤ (system.peers index).client.db.cursor

/-- A client is at the head when its last sync ended with nothing more to pull
and no task was written since that sync was served. -/
theorem atHead_of_settled
    (run : Run (System.step tenantId)
      (fun system event => rejectsNothing tenantId system event = true ∧
        deletesEmptied tenantId system event = true)
      (System.initial clientIds) events system)
    {index settled : Nat}
    (synced : (system.peers index).settledAt = some settled)
    (unwritten : ∀ task ∈ system.db.tasks.rows, task.tenantId = tenantId →
      task.rowVersion ≤ settled) :
    AtHead tenantId system index := by
  intro task present own
  have found : system.db.ownTask tenantId task.id = some task :=
    (Db.ownTask_eq_some_iff _ _ _ _).mpr ⟨Table.find?_of_mem _ present, own⟩
  exact ((tasks_upheld run).holds index).1.atHead settled synced _ _ found
    (unwritten task present own)

/-- A client at the head with an empty outbox shows the live tasks. -/
theorem find?_tasks_of_atHead
    (run : Run (System.step tenantId)
      (fun system event => rejectsNothing tenantId system event = true ∧
        deletesEmptied tenantId system event = true)
      (System.initial clientIds) events system)
    {index : Nat}
    (drained : (system.peers index).client.db.outbox.entries = [])
    (atHead : AtHead tenantId system index)
    (id : String) :
    (system.peers index).client.db.tasks.find? id =
      (system.db.ownTask tenantId id).bind fun task => task.wire.display := by
  have synced := ((tasks_upheld run).holds index).1.synced
  have free : ¬(system.peers index).client.db.outbox.hasPending taskKind.table
      id = true := by
    simp [Outbox.hasPending, drained]
  cases found : system.db.ownTask tenantId id with
  | none => exact synced.absent id free found
  | some task =>
      obtain ⟨stored, own⟩ := (Db.ownTask_eq_some_iff _ _ _ _).mp found
      have upTo := atHead task (Table.mem_of_find? _ stored) own
      rcases synced.current id task free found upTo with shows | lacking
      · exact shows
      · obtain ⟨_, m, queued, _⟩ := lacking
        rw [drained] at queued
        exact absurd queued (List.not_mem_nil)

/-- In every run in which nothing is rejected and only empty projects are
deleted, two clients at the head with empty outboxes have the same tasks, and
none of a deleted project. -/
theorem tasks_agree
    (run : Run (System.step tenantId)
      (fun system event => rejectsNothing tenantId system event = true ∧
        deletesEmptied tenantId system event = true)
      (System.initial clientIds) events system)
    {first second : Nat}
    (firstDrained : (system.peers first).client.db.outbox.entries = [])
    (secondDrained : (system.peers second).client.db.outbox.entries = [])
    (firstAtHead : AtHead tenantId system first)
    (secondAtHead : AtHead tenantId system second) :
    (∀ id, (system.peers first).client.db.tasks.find? id =
        (system.peers second).client.db.tasks.find? id) ∧
      ∀ project ∈ system.db.projects.rows, project.tenantId = tenantId →
        project.deletedAt.isSome = true →
          (∀ task ∈ (system.peers first).client.db.tasks.rows,
            task.projectId ≠ project.id) ∧
          ∀ task ∈ (system.peers second).client.db.tasks.rows,
            task.projectId ≠ project.id := by
  have ofFirst := find?_tasks_of_atHead run firstDrained firstAtHead
  have ofSecond := find?_tasks_of_atHead run secondDrained secondAtHead
  refine ⟨fun id => (ofFirst id).trans (ofSecond id).symm, ?_⟩
  intro project present _ gone
  have orderly := (tasks_upheld run).sound
  have absent : ∀ db : TenantDatabase,
      (∀ id, db.tasks.find? id =
        (system.db.ownTask tenantId id).bind fun task => task.wire.display) →
      ∀ task ∈ db.tasks.rows, task.projectId ≠ project.id := by
    intro db shows task shown placed
    have held := (shows task.id).symm.trans (Table.find?_of_mem _ shown)
    obtain ⟨stored, found, displayed⟩ := Option.bind_eq_some_iff.mp held
    obtain ⟨live, rfl⟩ := Task.display_eq_some_iff.mp displayed
    have dead := orderly.emptied (Table.find?_of_mem _ present) gone
      stored.rowVersion _ stored found placed le_rfl
    simp [live] at dead
  exact ⟨absent _ ofFirst, absent _ ofSecond⟩

end Runs

/-- A client with an empty outbox whose cursor has passed every task. -/
def drainedAtHead (index : Nat) (system : System) : Bool :=
  (system.peers index).client.db.outbox.entries = [] &&
    system.db.tasks.rows.all fun task =>
      task.rowVersion ≤ (system.peers index).client.db.cursor

theorem atHead_of_drainedAtHead
    {index : Nat} {system : System}
    (drained : drainedAtHead index system = true)
    (tenantId : String) :
    (system.peers index).client.db.outbox.entries = [] ∧
      AtHead tenantId system index := by
  simp only [drainedAtHead, Bool.and_eq_true, decide_eq_true_eq,
    List.all_eq_true] at drained
  exact ⟨drained.1, fun task present _ => drained.2 task present⟩

/-- A client empties a project before it deletes it, and another one starts from
nothing. -/
theorem tasks_agree_emptied :
    ∃ system : System,
      system.db.projects.rows.length = 2 ∧
      (system.peers 0).client.db.tasks.rows.length = 1 ∧
      ∀ id, (system.peers 0).client.db.tasks.find? id =
        (system.peers 1).client.db.tasks.find? id := by
  obtain ⟨system, run, ended⟩ := Run.exists_of_execute (System.step "tenant-a")
    (fun system event => rejectsNothing "tenant-a" system event &&
      deletesEmptied "tenant-a" system event)
    (fun _ _ passed => Bool.and_eq_true_iff.mp passed)
    (System.initial fun _ => "browser")
    (.edit 0 (.addTask "p" "t" "Weed" 1) ::
      .edit 0 (.addTask "q" "t" "Sow" 1) :: wholeSync 0 2 ++
        .edit 0 (.deleteTask "p::t") :: wholeSync 0 3 ++
          .edit 0 (.deleteProject "p") :: wholeSync 0 4 ++ wholeSync 1 5)
    (fun system => drainedAtHead 0 system && drainedAtHead 1 system &&
      system.db.projects.rows.length = 2 &&
      (system.peers 0).client.db.tasks.rows.length = 1) (by decide +kernel)
  simp only [Bool.and_eq_true, decide_eq_true_eq] at ended
  obtain ⟨⟨⟨first, second⟩, two⟩, one⟩ := ended
  have atFirst := atHead_of_drainedAtHead first "tenant-a"
  have atSecond := atHead_of_drainedAtHead second "tenant-a"
  exact ⟨system, two, one,
    (tasks_agree run atFirst.1 atSecond.1 atFirst.2 atSecond.2).1⟩

/-! ## A deletion that leaves the tasks behind -/

/-- A client deletes a project with a task, and another one starts from
nothing. -/
def orphanedTask : List SystemEvent :=
  .edit 0 (.createProject "p" "Garden" 1) ::
    .edit 0 (.addTask "p" "t" "Weed" 1) :: wholeSync 0 2 ++
      .edit 0 (.deleteProject "p") :: wholeSync 0 3 ++ wholeSync 1 4

/-- Nothing is rejected and no tombstone is collected, and still only the second
client holds a task, one of the deleted project. -/
theorem orphanedTask_disagrees :
    ∃ system : System,
      Run (System.step "tenant-a")
        (fun system event => rejectsNothing "tenant-a" system event = true)
        (System.initial fun _ => "browser") orphanedTask system ∧
      ((system.peers 0).client.db.outbox.entries = [] ∧
        AtHead "tenant-a" system 0) ∧
      ((system.peers 1).client.db.outbox.entries = [] ∧
        AtHead "tenant-a" system 1) ∧
      (system.db.projects.rows.map fun project =>
        (project.id, project.deletedAt)) = [("p", some 3)] ∧
      (system.peers 0).client.db.tasks.rows = [] ∧
      (system.peers 1).client.db.tasks.rows =
        [⟨"p::t", "p", "Weed", false, 2⟩] := by
  obtain ⟨system, run, ended⟩ := Run.exists_of_execute (System.step "tenant-a")
    (rejectsNothing "tenant-a") (fun _ _ passed => passed)
    (System.initial fun _ => "browser") orphanedTask
    (fun system => drainedAtHead 0 system && drainedAtHead 1 system &&
      (system.db.projects.rows.map fun project =>
        (project.id, project.deletedAt)) = [("p", some 3)] &&
      (system.peers 0).client.db.tasks.rows = [] &&
      (system.peers 1).client.db.tasks.rows =
        [⟨"p::t", "p", "Weed", false, 2⟩]) (by decide +kernel)
  simp only [Bool.and_eq_true, decide_eq_true_eq] at ended
  obtain ⟨⟨⟨⟨first, second⟩, deleted⟩, nothing⟩, orphan⟩ := ended
  exact ⟨system, run, atHead_of_drainedAtHead first _,
    atHead_of_drainedAtHead second _, deleted, nothing, orphan⟩

end Sync
end EvoPlatform
