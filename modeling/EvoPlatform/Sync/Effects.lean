import EvoPlatform.Sync.Semantics

/-!
# The cases of a mutation

`mutate_mutates` lists everything one mutation can do, with the guards under
which it does it.  Arguments about batches go through this list and through
`OwnWrite`, the writes a tenant can make at all.
-/

namespace EvoPlatform
namespace Sync

/-- Everything one mutation can do. -/
inductive Mutates (engine : Engine) (tenantId : String) (m : SyncMutation)
    (db : Db) : Db → Verdict → Prop
  | rejected (reason : RejectReason) :
      Mutates engine tenantId m db db (.rejected reason)
  | rejectedWithStub (projectId : String) (reason : RejectReason) :
      db.projects.find? projectId = none →
      Mutates engine tenantId m db
        (db.putProject engine.clock (Db.stubProject projectId tenantId))
        (.rejected reason)
  | projectUpserted (fields : ProjectFields) :
      m.table = .project → m.op = .upsert →
      m.projectFields = some fields →
      (∀ stored, db.projects.find? m.id = some stored →
        stored.tenantId = tenantId) →
      Mutates engine tenantId m db
        (db.putProject engine.clock
          (db.upsertedProject m.id tenantId fields)) .applied
  | projectDeleted (stored : Project) :
      m.table = .project → m.op = .delete →
      db.projects.find? m.id = some stored →
      stored.tenantId = tenantId →
      stored.deletedAt = none →
      Mutates engine tenantId m db
        (db.putProject engine.clock
          { stored with deletedAt := some engine.now }) .applied
  | projectGone :
      m.table = .project → m.op = .delete →
      (∀ stored, db.projects.find? m.id = some stored →
        stored.tenantId = tenantId ∧ stored.deletedAt.isSome = true) →
      Mutates engine tenantId m db db .applied
  | taskUpserted (projectId : String) (fields : TaskFields) (base : Db)
      (parent : (base.projects.find?
        (base.upsertedTask m.id tenantId projectId fields).projectId).isSome =
          true) :
      m.table = .task → m.op = .upsert →
      m.field "projectId" = some (.string projectId) →
      m.taskFields = some fields →
      base = db.ensureProject engine.clock projectId tenantId →
      (∀ stored, db.projects.find? projectId = some stored →
        stored.tenantId = tenantId) →
      (∀ stored, db.tasks.find? m.id = some stored →
        stored.tenantId = tenantId) →
      Mutates engine tenantId m db
        (base.putTask engine.clock
          (base.upsertedTask m.id tenantId projectId fields) parent) .applied
  | taskDeleted (stored : Task)
      (parent : (db.projects.find? stored.projectId).isSome = true) :
      m.table = .task → m.op = .delete →
      db.tasks.find? m.id = some stored →
      stored.tenantId = tenantId →
      stored.deletedAt = none →
      Mutates engine tenantId m db
        (db.putTask engine.clock
          { stored with deletedAt := some engine.now } parent) .applied
  | taskGone :
      m.table = .task → m.op = .delete →
      (∀ stored, db.tasks.find? m.id = some stored →
        stored.tenantId = tenantId ∧ stored.deletedAt.isSome = true) →
      Mutates engine tenantId m db db .applied

section Cases

variable (engine : Engine) (tenantId : String) (m : SyncMutation) (db : Db)

/-- Not foreign means absent or owned. -/
theorem foreignProject_eq_false
    {existing : Option Project}
    (own : ¬foreignProject tenantId existing = true) :
    ∀ stored, existing = some stored → stored.tenantId = tenantId := by
  rintro stored rfl
  simpa [foreignProject] using own

theorem foreignTask_eq_false
    {existing : Option Task}
    (own : ¬foreignTask tenantId existing = true) :
    ∀ stored, existing = some stored → stored.tenantId = tenantId := by
  rintro stored rfl
  simpa [foreignTask] using own

@[simp] theorem Db.tasks_ensureProject (clock : Nat → Nat) (id : String) :
    (db.ensureProject clock id tenantId).tasks = db.tasks := by
  unfold Db.ensureProject
  split <;> rfl

theorem projectUpsertEffect_mutates
    (table : m.table = .project) (op : m.op = .upsert) :
    Mutates engine tenantId m db
      (projectUpsertEffect engine tenantId m db).1
      (projectUpsertEffect engine tenantId m db).2 := by
  unfold projectUpsertEffect
  split
  · exact .rejected .invalid
  split
  · exact .rejected .idConflict
  rename_i own
  cases fields : m.projectFields with
  | none => exact .rejected .invalid
  | some columns =>
      exact .projectUpserted columns table op fields
        (foreignProject_eq_false tenantId own)

theorem projectDeleteEffect_mutates
    (table : m.table = .project) (op : m.op = .delete) :
    Mutates engine tenantId m db
      (projectDeleteEffect engine tenantId m db).1
      (projectDeleteEffect engine tenantId m db).2 := by
  unfold projectDeleteEffect
  cases found : db.projects.find? m.id with
  | none => exact .projectGone table op (by simp [found])
  | some stored =>
      by_cases own : stored.tenantId = tenantId
      · subst own
        by_cases gone : stored.deletedAt.isSome = true
        · simp only [ne_eq, not_true, if_false, gone, if_true]
          exact .projectGone table op (by simp [found, gone])
        · have live : stored.deletedAt = none := by simpa using gone
          simp only [ne_eq, not_true, if_false, gone, Bool.false_eq_true]
          exact .projectDeleted stored table op found rfl live
      · simp only [ne_eq, own, not_false_eq_true, if_true]
        exact .rejected .idConflict

theorem taskUpsertEffect_mutates
    (table : m.table = .task) (op : m.op = .upsert) :
    Mutates engine tenantId m db
      (taskUpsertEffect engine tenantId m db).1
      (taskUpsertEffect engine tenantId m db).2 := by
  unfold taskUpsertEffect
  split
  · exact .rejected .invalid
  cases argument : textArgument (m.field "projectId") with
  | none => exact .rejected .invalid
  | some projectId =>
      have named : m.field "projectId" = some (.string projectId) := by
        unfold textArgument at argument
        split at argument
        · simp_all
        · simp at argument
      by_cases foreign :
          foreignProject tenantId (db.projects.find? projectId) = true
      · simp only [foreign, if_true]
        exact .rejected .idConflict
      simp only [foreign, Bool.false_eq_true, if_false]
      -- A rejection after this point leaves the stub, if one was written.
      have rejectedAfterStub : ∀ reason, Mutates engine tenantId m db
          (db.ensureProject engine.clock projectId tenantId)
          (.rejected reason) := by
        intro reason
        cases parent : db.projects.find? projectId with
        | none =>
            simpa [Db.ensureProject, parent] using
              Mutates.rejectedWithStub projectId reason parent
        | some stored =>
            simpa [Db.ensureProject, parent] using Mutates.rejected reason
      unfold taskWriteEffect
      split
      · exact rejectedAfterStub .idConflict
      rename_i own
      cases fields : m.taskFields with
      | none => exact rejectedAfterStub .invalid
      | some columns =>
          dsimp only
          unfold Db.upsertTask Db.writeTask
          split
          · rename_i unwritten
            exact rejectedAfterStub .invalid
          · rename_i written writes
            split at writes
            · rename_i parent
              simp only [Option.some.injEq] at writes
              subst writes
              rw [Db.tasks_ensureProject] at own
              exact .taskUpserted projectId columns _ parent table op named
                fields rfl (foreignProject_eq_false tenantId foreign)
                (foreignTask_eq_false tenantId own)
            · simp at writes

theorem taskDeleteEffect_mutates
    (table : m.table = .task) (op : m.op = .delete) :
    Mutates engine tenantId m db
      (taskDeleteEffect engine tenantId m db).1
      (taskDeleteEffect engine tenantId m db).2 := by
  unfold taskDeleteEffect
  cases found : db.tasks.find? m.id with
  | none => exact .taskGone table op (by simp [found])
  | some stored =>
      have parent := db.taskParent stored (db.tasks.mem_of_find? found)
      have writes : db.tombstoneTask engine.clock m.id engine.now =
          some (db.putTask engine.clock
            { stored with deletedAt := some engine.now } parent) := by
        simp [Db.tombstoneTask, Db.writeTask, found, parent]
      by_cases own : stored.tenantId = tenantId
      · subst own
        by_cases gone : stored.deletedAt.isSome = true
        · simp only [ne_eq, not_true, if_false, gone, if_true]
          exact .taskGone table op (by simp [found, gone])
        · have live : stored.deletedAt = none := by simpa using gone
          simp only [ne_eq, not_true, if_false, gone, Bool.false_eq_true,
            writes]
          exact .taskDeleted stored parent table op found rfl live
      · simp only [ne_eq, own, not_false_eq_true, if_true]
        exact .rejected .idConflict

/-- A mutation does one of the listed things. -/
theorem mutate_mutates :
    Mutates engine tenantId m db (mutate engine tenantId m db).1
      (mutate engine tenantId m db).2 := by
  unfold mutate
  split
  · rename_i table op
    exact projectUpsertEffect_mutates engine tenantId m db table op
  · rename_i table op
    exact projectDeleteEffect_mutates engine tenantId m db table op
  · rename_i table op
    exact taskUpsertEffect_mutates engine tenantId m db table op
  · rename_i table op
    exact taskDeleteEffect_mutates engine tenantId m db table op

end Cases

end Sync
end EvoPlatform
