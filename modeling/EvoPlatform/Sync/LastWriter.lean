import EvoPlatform.Sync.Isolation

/-!
# Arrival-order last-writer-wins

The history of a row is the log of the mutations that named it, in the order in
which the server applied them.  The columns of a row are those of the last
applied upsert, and its tombstone is decided by the last mutation applied while
the row existed.  `Follows` states this for one row, and every iteration of the
server's loop keeps it for every row of both tables.
-/

namespace EvoPlatform
namespace Sync

/-- A row with this id is stored. -/
def Db.has (db : Db) (table : SyncTable) (id : String) : Bool :=
  match table with
  | .project => (db.projects.find? id).isSome
  | .task => (db.tasks.find? id).isSome

/-- One mutation in the log of the server. -/
structure Entry where
  mutation : SyncMutation
  /-- The mutation was answered in `applied`. -/
  applied : Bool
  /-- The row it names existed right afterwards. -/
  present : Bool
  deriving DecidableEq

namespace Entry

variable (table : SyncTable) (id : String)

/-- An applied mutation of the row. -/
def names (entry : Entry) : Bool :=
  entry.applied && entry.mutation.table = table && entry.mutation.id = id

/-- An applied upsert of the row. -/
def upserts (entry : Entry) : Bool :=
  entry.names table id && entry.mutation.op = .upsert

/-- A mutation applied to the row while it existed. -/
def touches (entry : Entry) : Bool :=
  entry.names table id && entry.present

theorem names_iff (entry : Entry) :
    entry.names table id = true ↔
      entry.applied = true ∧ entry.mutation.table = table ∧
        entry.mutation.id = id := by
  simp only [names, Bool.and_eq_true, decide_eq_true_eq, and_assoc]

end Entry

/-- The last mutation of a log with the given property. -/
def lastWhere (property : Entry → Bool) (log : List Entry) :
    Option SyncMutation :=
  (log.filter property).getLast?.map Entry.mutation

@[simp] theorem lastWhere_nil (property : Entry → Bool) :
    lastWhere property [] = none := rfl

@[simp] theorem lastWhere_concat
    (property : Entry → Bool) (log : List Entry) (entry : Entry) :
    lastWhere property (log ++ [entry]) =
      if property entry then some entry.mutation
      else lastWhere property log := by
  unfold lastWhere
  rw [List.filter_append]
  cases holds : property entry with
  | true => simp [holds]
  | false => simp [holds]

/-- The last applied upsert of a row. -/
def lastUpsert (table : SyncTable) (id : String) : List Entry → Option SyncMutation :=
  lastWhere (Entry.upserts table id)

/-- The last mutation applied to a row while it existed. -/
def lastTouch (table : SyncTable) (id : String) : List Entry → Option SyncMutation :=
  lastWhere (Entry.touches table id)

/-! ## The log of a run -/

/-- The log of a batch: one entry for each iteration of the loop. -/
def logBatch (engine : Engine) (tenantId : String) :
    List SyncMutation → BatchState → List Entry
  | [], _ => []
  | m :: mutations, state =>
      match iteration engine tenantId m state with
      | .ok () next =>
          ⟨m, next.applied ≠ state.applied, next.db.has m.table m.id⟩ ::
            logBatch engine tenantId mutations next
      | .error _ _ => []

/-- A batch pushed by a client of some tenant. -/
structure Batch where
  engine : Engine
  tenantId : String
  mutations : List SyncMutation

/-- The database together with the log of what was pushed to it. -/
structure History where
  db : Db
  log : List Entry

/-- Push one batch. -/
def push (history : History) (batch : Batch) : Option History :=
  match applyMutations batch.engine batch.tenantId batch.mutations
      (BatchState.begin history.db) with
  | .ok () final =>
      some ⟨final.db, history.log ++ logBatch batch.engine batch.tenantId
        batch.mutations (BatchState.begin history.db)⟩
  | .error _ _ => none

/-- No statement of the batch fails. -/
def CarriedOut (history : History) (batch : Batch) : Prop :=
  batchRefused batch.engine batch.tenantId batch.mutations history.db = false

/-! ## One row against its history -/

/-- The columns a project upsert sets. -/
def Project.fields (project : Project) : ProjectFields :=
  ⟨project.name, project.description, project.status⟩

/-- The columns a task upsert sets. -/
def Task.fields (task : Task) : TaskFields := ⟨task.title, task.done⟩

/-- How the rows of a table read: their columns, their tombstone, the columns a
mutation asks for, and those of a stub, when the table has stubs. -/
structure Reading (α φ : Type) where
  table : SyncTable
  fields : α → φ
  deletedAt : α → Option Nat
  asked : SyncMutation → Option φ
  stub : String → Option φ

def projectReading : Reading Project ProjectFields where
  table := .project
  fields := Project.fields
  deletedAt := Project.deletedAt
  asked := SyncMutation.projectFields
  stub := fun id => some (Db.stubProject id "").fields

def taskReading : Reading Task TaskFields where
  table := .task
  fields := Task.fields
  deletedAt := Task.deletedAt
  asked := SyncMutation.taskFields
  stub := fun _ => none

variable {α φ : Type} {reading : Reading α φ} {id : String}
  {start current next : Option α} {log : List Entry} {entry : Entry}

/-- The row with this id, which was `start` before the log, stands as the log
says. -/
structure Follows (reading : Reading α φ) (id : String)
    (start : Option α) (log : List Entry) (current : Option α) : Prop where
  /-- The last applied upsert decides the columns. -/
  fields : ∀ row, current = some row →
    some (reading.fields row) =
      match lastUpsert reading.table id log with
      | some m => reading.asked m
      | none => (start.map reading.fields).or (reading.stub id)
  /-- The last mutation that met the row decides the tombstone. -/
  deleted : ∀ row, current = some row →
    (reading.deletedAt row).isSome =
      match lastTouch reading.table id log with
      | some m => decide (m.op = .delete)
      | none => start.any fun stored => (reading.deletedAt stored).isSome
  /-- A row that no applied mutation names is as it was. -/
  unnamed : (∀ entry ∈ log, entry.names reading.table id = false) →
    ∀ stored, start = some stored → current = some stored
  /-- A row that is absent always was. -/
  absent : current = none →
    start = none ∧ lastUpsert reading.table id log = none ∧
      lastTouch reading.table id log = none

namespace Follows

theorem nil (reading : Reading α φ) (id : String) (start : Option α) :
    Follows reading id start [] start := by
  refine ⟨?_, ?_, ?_, ?_⟩
  · rintro row rfl
    rfl
  · rintro row rfl
    rfl
  · exact fun _ stored found => found
  · exact fun gone => ⟨gone, rfl, rfl⟩

/-- A mutation that is not applied to the row leaves it. -/
theorem other
    (follows : Follows reading id start log current)
    (unnamed : entry.names reading.table id = false) :
    Follows reading id start (log ++ [entry]) current := by
  have noUpsert : entry.upserts reading.table id = false := by
    simp [Entry.upserts, unnamed]
  have noTouch : entry.touches reading.table id = false := by
    simp [Entry.touches, unnamed]
  refine ⟨?_, ?_, ?_, ?_⟩
  · simpa [lastUpsert, noUpsert] using follows.fields
  · simpa [lastTouch, noTouch] using follows.deleted
  · intro none stored found
    exact follows.unnamed
      (fun other member => none other (by simp [member])) stored found
  · simpa [lastUpsert, lastTouch, noUpsert, noTouch] using follows.absent

/-- A stub appears for a row that was absent. -/
theorem stub
    (follows : Follows reading id start log none)
    {row : α}
    (stubFields : reading.stub id = some (reading.fields row))
    (live : reading.deletedAt row = none) :
    Follows reading id start log (some row) := by
  obtain ⟨rfl, noUpsert, noTouch⟩ := follows.absent rfl
  refine ⟨?_, ?_, by simp, by simp⟩
  · rintro written ⟨⟩
    simp [noUpsert, stubFields]
  · rintro written ⟨⟩
    simp [noTouch, live]

/-- An applied upsert sets the columns and clears the tombstone. -/
theorem upsert
    (named : entry.names reading.table id = true)
    (op : entry.mutation.op = .upsert)
    (present : entry.present = true)
    {row : α}
    (asked : reading.asked entry.mutation = some (reading.fields row))
    (live : reading.deletedAt row = none) :
    Follows reading id start (log ++ [entry]) (some row) := by
  refine ⟨?_, ?_, ?_, by simp⟩
  · rintro written ⟨⟩
    simp [lastUpsert, Entry.upserts, named, op, asked]
  · rintro written ⟨⟩
    simp [lastTouch, Entry.touches, named, op, present, live]
  · intro none
    have := none entry (by simp)
    rw [named] at this
    contradiction

/-- An applied delete sets the tombstone and keeps the columns. -/
theorem delete
    {stored row : α}
    (follows : Follows reading id start log (some stored))
    (named : entry.names reading.table id = true)
    (op : entry.mutation.op = .delete)
    (present : entry.present = true)
    (sameFields : reading.fields row = reading.fields stored)
    (dead : (reading.deletedAt row).isSome = true) :
    Follows reading id start (log ++ [entry]) (some row) := by
  refine ⟨?_, ?_, ?_, by simp⟩
  · rintro written ⟨⟩
    rw [sameFields]
    simpa [lastUpsert, Entry.upserts, op] using follows.fields stored rfl
  · rintro written ⟨⟩
    simp [lastTouch, Entry.touches, named, op, present, dead]
  · intro none
    have := none entry (by simp)
    rw [named] at this
    contradiction

/-- Deleting a row that does not exist does nothing. -/
theorem deleteAbsent
    (follows : Follows reading id start log none)
    (op : entry.mutation.op = .delete)
    (missing : entry.present = false) :
    Follows reading id start (log ++ [entry]) none := by
  obtain ⟨rfl, noUpsert, noTouch⟩ := follows.absent rfl
  refine ⟨by simp, by simp, by simp, fun _ => ⟨rfl, ?_, ?_⟩⟩
  · simpa [lastUpsert, Entry.upserts, op] using noUpsert
  · simpa [lastTouch, Entry.touches, missing] using noTouch

end Follows

/-! ## One mutation against every row -/

section Rows

variable {engine : Engine} {tenantId : String} {m : SyncMutation}
  {db written : Db} {verdict : Verdict}

/-- What the log says about a mutation. -/
def entryOf (m : SyncMutation) (verdict : Verdict) (db : Db) : Entry :=
  ⟨m, verdict = .applied, db.has m.table m.id⟩

theorem names_entryOf
    (table : SyncTable) (id : String) :
    (entryOf m verdict written).names table id = true ↔
      verdict = .applied ∧ m.table = table ∧ m.id = id := by
  rw [Entry.names_iff]
  simp [entryOf]

theorem not_names_of_table
    {table : SyncTable} (otherTable : m.table ≠ table) :
    (entryOf m verdict written).names table id = false := by
  simp [entryOf, Entry.names, otherTable]

theorem not_names_of_id
    {table : SyncTable} (otherId : m.id ≠ id) :
    (entryOf m verdict written).names table id = false := by
  simp [entryOf, Entry.names, otherId]

theorem not_names_of_rejected
    {table : SyncTable} {reason : RejectReason} :
    (entryOf m (.rejected reason) written).names table id = false := by
  simp [entryOf, Entry.names]

/-- Writing a stub for a free id keeps every project in step with the log. -/
theorem Follows.putStub
    {start : Option Project}
    {projectId : String}
    (free : db.projects.find? projectId = none)
    (follows : Follows projectReading id start log (db.projects.find? id)) :
    Follows projectReading id start log
      ((db.putProject engine.clock
        (Db.stubProject projectId tenantId)).projects.find? id) := by
  rw [Db.projects_find?_putProject]
  split
  · rename_i same
    change id = projectId at same
    subst same
    rw [free] at follows
    exact follows.stub rfl rfl
  · exact follows

theorem upsertedProject_fields (fields : ProjectFields) :
    (db.upsertedProject id tenantId fields).fields = fields := by
  unfold Db.upsertedProject
  cases db.projects.find? id <;> rfl

theorem upsertedTask_fields (projectId : String) (fields : TaskFields) :
    (db.upsertedTask id tenantId projectId fields).fields = fields := by
  unfold Db.upsertedTask
  cases db.tasks.find? id <;> rfl

/-- A mutation keeps every project in step with the log. -/
theorem Mutates.follows_project
    {start : Option Project}
    (mutates : Mutates engine tenantId m db written verdict)
    (follows : Follows projectReading id start log (db.projects.find? id)) :
    Follows projectReading id start (log ++ [entryOf m verdict written])
      (written.projects.find? id) := by
  cases mutates with
  | rejected reason => exact follows.other not_names_of_rejected
  | rejectedWithStub projectId reason free =>
      exact (follows.putStub free).other not_names_of_rejected
  | projectUpserted fields table op columns own =>
      rw [Db.projects_find?_putProject, upsertedProject_id]
      split
      · rename_i same
        subst same
        refine Follows.upsert ?_ op ?_ ?_ ?_
        · exact (names_entryOf _ _).mpr ⟨rfl, table, rfl⟩
        · simp [entryOf, Db.has, table, upsertedProject_id]
        · exact columns.trans
            (congrArg some (upsertedProject_fields fields).symm)
        · exact upsertedProject_deletedAt _ _ fields
      · rename_i different
        exact follows.other (not_names_of_id (Ne.symm different))
  | projectDeleted stored table op found own live =>
      have sameId : stored.id = m.id := db.projects.key_of_find? found
      rw [Db.projects_find?_putProject]
      split
      · rename_i same
        change id = stored.id at same
        obtain rfl : id = m.id := same.trans sameId
        rw [found] at follows
        refine follows.delete ?_ op ?_ rfl rfl
        · exact (names_entryOf _ _).mpr ⟨rfl, table, rfl⟩
        · simp [entryOf, Db.has, table, sameId]
      · rename_i different
        refine follows.other (not_names_of_id fun same => different ?_)
        exact same.symm.trans sameId.symm
  | projectGone table op gone =>
      by_cases same : m.id = id
      · subst same
        cases found : db.projects.find? m.id with
        | none =>
            rw [found] at follows
            exact follows.deleteAbsent op (by simp [entryOf, Db.has, table, found])
        | some stored =>
            rw [found] at follows
            refine follows.delete ?_ op ?_ rfl (gone stored found).2
            · exact (names_entryOf _ _).mpr ⟨rfl, table, rfl⟩
            · simp [entryOf, Db.has, table, found]
      · exact follows.other (not_names_of_id same)
  | taskUpserted projectId fields base parent table op named columns ensured
      projectOwn taskOwn =>
      refine Follows.other ?_ (not_names_of_table (by simp [table, projectReading]))
      subst ensured
      rw [Db.projects_putTask]
      unfold Db.ensureProject
      split
      · exact follows
      · rename_i free
        exact follows.putStub (by simpa using free)
  | taskDeleted stored parent table op found own live =>
      exact follows.other (not_names_of_table (by simp [table, projectReading]))
  | taskGone table op gone =>
      exact follows.other (not_names_of_table (by simp [table, projectReading]))

/-- A mutation keeps every task in step with the log. -/
theorem Mutates.follows_task
    {start : Option Task}
    (mutates : Mutates engine tenantId m db written verdict)
    (follows : Follows taskReading id start log (db.tasks.find? id)) :
    Follows taskReading id start (log ++ [entryOf m verdict written])
      (written.tasks.find? id) := by
  cases mutates with
  | rejected reason => exact follows.other not_names_of_rejected
  | rejectedWithStub projectId reason free =>
      exact follows.other not_names_of_rejected
  | projectUpserted fields table op columns own =>
      exact follows.other (not_names_of_table (by simp [table, taskReading]))
  | projectDeleted stored table op found own live =>
      exact follows.other (not_names_of_table (by simp [table, taskReading]))
  | projectGone table op gone =>
      exact follows.other (not_names_of_table (by simp [table, taskReading]))
  | taskUpserted projectId fields base parent table op named columns ensured
      projectOwn taskOwn =>
      subst ensured
      rw [Db.tasks_find?_putTask, upsertedTask_id, Db.tasks_ensureProject]
      split
      · rename_i same
        subst same
        refine Follows.upsert ?_ op ?_ ?_ ?_
        · exact (names_entryOf _ _).mpr ⟨rfl, table, rfl⟩
        · simp [entryOf, Db.has, table, upsertedTask_id]
        · exact columns.trans
            (congrArg some (upsertedTask_fields projectId fields).symm)
        · exact upsertedTask_deletedAt _ _ projectId fields
      · rename_i different
        exact follows.other (not_names_of_id (Ne.symm different))
  | taskDeleted stored parent table op found own live =>
      have sameId : stored.id = m.id := db.tasks.key_of_find? found
      rw [Db.tasks_find?_putTask]
      split
      · rename_i same
        change id = stored.id at same
        obtain rfl : id = m.id := same.trans sameId
        rw [found] at follows
        refine follows.delete ?_ op ?_ rfl rfl
        · exact (names_entryOf _ _).mpr ⟨rfl, table, rfl⟩
        · simp [entryOf, Db.has, table, sameId]
      · rename_i different
        refine follows.other (not_names_of_id fun same => different ?_)
        exact same.symm.trans sameId.symm
  | taskGone table op gone =>
      by_cases same : m.id = id
      · subst same
        cases found : db.tasks.find? m.id with
        | none =>
            rw [found] at follows
            exact follows.deleteAbsent op (by simp [entryOf, Db.has, table, found])
        | some stored =>
            rw [found] at follows
            refine follows.delete ?_ op ?_ rfl (gone stored found).2
            · exact (names_entryOf _ _).mpr ⟨rfl, table, rfl⟩
            · simp [entryOf, Db.has, table, found]
      · exact follows.other (not_names_of_id same)

end Rows

/-! ## Runs of batches -/

/-- Every row of both tables stands as the log says. -/
structure InStep (start : Db) (history : History) : Prop where
  projects : ∀ id, Follows projectReading id (start.projects.find? id)
    history.log (history.db.projects.find? id)
  tasks : ∀ id, Follows taskReading id (start.tasks.find? id)
    history.log (history.db.tasks.find? id)

/-- A settled mutation logs its verdict. -/
theorem logBatch_cons
    {engine : Engine} {tenantId : String}
    {m : SyncMutation} {mutations : List SyncMutation} {state : BatchState}
    (notAborted : state.aborted = false)
    (accepted : refused engine tenantId m state.db = false) :
    logBatch engine tenantId (m :: mutations) state =
      entryOf m (mutate engine tenantId m state.db).2
          (mutate engine tenantId m state.db).1 ::
        logBatch engine tenantId mutations
          (state.settle m (mutate engine tenantId m state.db)) := by
  rw [logBatch, iteration_of_accepted notAborted accepted]
  have recorded :
      (state.settle m (mutate engine tenantId m state.db)).applied ≠
        state.applied ↔ (mutate engine tenantId m state.db).2 = .applied := by
    unfold BatchState.settle
    cases (mutate engine tenantId m state.db).2 <;> simp [BatchState.answer]
  simp [entryOf, recorded]

/-- A batch keeps every row in step with the log. -/
theorem InStep.batch
    {start : Db} {engine : Engine} {tenantId : String}
    (mutations : List SyncMutation)
    {state : BatchState} {log : List Entry}
    (notAborted : state.aborted = false)
    (accepted : batchRefused engine tenantId mutations state.db = false)
    (inStep : InStep start ⟨state.db, log⟩) :
    InStep start ⟨(settleBatch engine tenantId mutations state).db,
      log ++ logBatch engine tenantId mutations state⟩ := by
  induction mutations generalizing state log with
  | nil => simpa [logBatch] using inStep
  | cons m mutations inductionHypothesis =>
      simp only [batchRefused, Bool.or_eq_false_iff] at accepted
      rw [logBatch_cons notAborted accepted.1, settleBatch_cons,
        List.append_cons]
      have mutates := mutate_mutates engine tenantId m state.db
      apply inductionHypothesis
      · simpa using notAborted
      · simpa using accepted.2
      · rw [BatchState.db_settle]
        exact ⟨fun id => mutates.follows_project (inStep.projects id),
          fun id => mutates.follows_task (inStep.tasks id)⟩

/-- A run of batches keeps every row in step with the log. -/
theorem inStep_of_run
    {batches : List Batch} {start : Db} {final : History}
    (run : Run push CarriedOut ⟨start, []⟩ batches final) :
    InStep start final := by
  refine run.invariant (InStep start) ?_
    ⟨fun id => .nil _ _ _, fun id => .nil _ _ _⟩
  intro history batch next inStep carriedOut pushed
  have fresh : (BatchState.begin history.db).aborted = false := rfl
  rw [push, applyMutations_of_accepted batch.engine batch.tenantId
    batch.mutations fresh carriedOut] at pushed
  simp only [Option.some.injEq] at pushed
  exact pushed ▸ InStep.batch batch.mutations fresh carriedOut inStep

/-- Arrival order decides: after any run of batches of any tenants, every row of
both tables stands as the log of applied mutations says. -/
theorem last_applied_writer_wins
    {batches : List Batch} {start : Db} {final : History}
    (run : Run push CarriedOut ⟨start, []⟩ batches final) :
    (∀ id, Follows projectReading id (start.projects.find? id)
      final.log (final.db.projects.find? id)) ∧
    ∀ id, Follows taskReading id (start.tasks.find? id)
      final.log (final.db.tasks.find? id) :=
  ⟨(inStep_of_run run).projects, (inStep_of_run run).tasks⟩

/-- A push of one tenant between whose mutations another tenant's arrive. -/
theorem last_applied_writer_wins_twoTenants :
    ∃ final : History, final.log.length = 3 ∧
      (∀ id, Follows projectReading id none
        final.log (final.db.projects.find? id)) ∧
      ∀ id, Follows taskReading id none
        final.log (final.db.tasks.find? id) := by
  have run : Run push CarriedOut ⟨Db.initial, []⟩
      [⟨Engine.obliging 0, "tenant-a", firstPush.mutations⟩,
        ⟨Engine.obliging 1, "tenant-b",
          [⟨1, .project, .delete, "p", none⟩]⟩] _ :=
    .cons rfl rfl (.cons rfl rfl (.nil _))
  exact ⟨_, rfl, last_applied_writer_wins run⟩

end Sync
end EvoPlatform
