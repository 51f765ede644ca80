import EvoPlatform.Sync.Effects
import EvoPlatform.Sync.Endpoint

/-!
# Tenant isolation

Whatever a batch names, and wherever the database refuses one of its
statements, the writes of a tenant are insertions of rows of its own and updates
of rows it owns.  Such writes leave the rows of every other tenant alone and
keep each task in the tenant of its project.
-/

namespace EvoPlatform
namespace Sync

/-- A write that one tenant may make. -/
inductive OwnWrite (clock : Nat → Nat) (tenantId : String) : Db → Db → Prop
  | project (db : Db) (project : Project) :
      project.tenantId = tenantId →
      (∀ stored, db.projects.find? project.id = some stored →
        stored.tenantId = tenantId) →
      OwnWrite clock tenantId db (db.putProject clock project)
  | task (db : Db) (task : Task)
      (parent : (db.projects.find? task.projectId).isSome = true) :
      task.tenantId = tenantId →
      (∀ stored, db.tasks.find? task.id = some stored →
        stored.tenantId = tenantId) →
      ((∃ stored, db.tasks.find? task.id = some stored ∧
          stored.projectId = task.projectId) ∨
        ∀ stored, db.projects.find? task.projectId = some stored →
          stored.tenantId = tenantId) →
      OwnWrite clock tenantId db (db.putTask clock task parent)

/-- Any number of writes of one tenant. -/
abbrev OwnWrites (clock : Nat → Nat) (tenantId : String) : Db → Db → Prop :=
  Relation.ReflTransGen (OwnWrite clock tenantId)

/-! ## Every write of a batch is an own write -/

section Batches

variable {engine : Engine} {tenantId : String} {m : SyncMutation} {db : Db}

/-- A stub is only written for an id that is free. -/
theorem ensureProject_ownWrites (id : String) :
    OwnWrites engine.clock tenantId db
      (db.ensureProject engine.clock id tenantId) := by
  unfold Db.ensureProject
  split
  · exact .refl
  · rename_i absent
    refine .single (.project db _ rfl ?_)
    intro stored found
    change db.projects.find? id = some stored at found
    simp [found] at absent

/-- Every row of an ensured project belongs to the tenant. -/
theorem ensureProject_own
    {clock : Nat → Nat} {id : String}
    (own : ∀ stored, db.projects.find? id = some stored →
      stored.tenantId = tenantId) :
    ∀ stored, (db.ensureProject clock id tenantId).projects.find? id =
      some stored → stored.tenantId = tenantId := by
  intro stored found
  unfold Db.ensureProject at found
  split at found
  · exact own stored found
  · simp only [Db.projects_find?_putProject, Db.stubProject, if_true,
      Option.some.injEq] at found
    exact found ▸ rfl

/-- The row of a project upsert belongs to the tenant. -/
theorem upsertedProject_tenantId
    {fields : ProjectFields} {id : String}
    (own : ∀ stored, db.projects.find? id = some stored →
      stored.tenantId = tenantId) :
    (db.upsertedProject id tenantId fields).tenantId = tenantId := by
  unfold Db.upsertedProject
  cases found : db.projects.find? id with
  | none => rfl
  | some stored => exact own stored found

theorem upsertedProject_id (id tenantId : String) (fields : ProjectFields) :
    (db.upsertedProject id tenantId fields).id = id := by
  unfold Db.upsertedProject
  cases found : db.projects.find? id with
  | none => rfl
  | some stored =>
      have sameId : stored.id = id := db.projects.key_of_find? found
      exact sameId

theorem upsertedProject_deletedAt
    (id tenantId : String) (fields : ProjectFields) :
    (db.upsertedProject id tenantId fields).deletedAt = none := by
  unfold Db.upsertedProject
  cases db.projects.find? id <;> rfl

/-- The row of a task upsert belongs to the tenant. -/
theorem upsertedTask_tenantId
    {fields : TaskFields} {id projectId : String}
    (own : ∀ stored, db.tasks.find? id = some stored →
      stored.tenantId = tenantId) :
    (db.upsertedTask id tenantId projectId fields).tenantId = tenantId := by
  unfold Db.upsertedTask
  cases found : db.tasks.find? id with
  | none => rfl
  | some stored => exact own stored found

theorem upsertedTask_id
    (id tenantId projectId : String) (fields : TaskFields) :
    (db.upsertedTask id tenantId projectId fields).id = id := by
  unfold Db.upsertedTask
  cases found : db.tasks.find? id with
  | none => rfl
  | some stored =>
      have sameId : stored.id = id := db.tasks.key_of_find? found
      exact sameId

theorem upsertedTask_deletedAt
    (id tenantId projectId : String) (fields : TaskFields) :
    (db.upsertedTask id tenantId projectId fields).deletedAt = none := by
  unfold Db.upsertedTask
  cases db.tasks.find? id <;> rfl

/-- A mutation makes own writes only. -/
theorem Mutates.ownWrites
    {written : Db} {verdict : Verdict}
    (mutates : Mutates engine tenantId m db written verdict) :
    OwnWrites engine.clock tenantId db written := by
  cases mutates with
  | rejected => exact .refl
  | rejectedWithStub projectId reason absent =>
      refine .single (.project db _ rfl ?_)
      intro stored found
      simp [Db.stubProject, absent] at found
  | projectUpserted fields table op columns own =>
      refine .single (.project db _ (upsertedProject_tenantId own) ?_)
      rwa [upsertedProject_id]
  | projectDeleted stored table op found own live =>
      refine .single (.project db _ own ?_)
      intro other otherFound
      rw [db.projects.key_of_find? found, found] at otherFound
      exact Option.some.inj otherFound ▸ own
  | projectGone => exact .refl
  | taskUpserted projectId fields base parent table op named columns ensured
      projectOwn taskOwn =>
      subst ensured
      refine (ensureProject_ownWrites projectId).tail
        (.task _ _ parent (upsertedTask_tenantId ?_) ?_ ?_)
      · rwa [Db.tasks_ensureProject]
      · rwa [upsertedTask_id, Db.tasks_ensureProject]
      · rw [upsertedTask_id, Db.tasks_ensureProject]
        unfold Db.upsertedTask
        rw [Db.tasks_ensureProject]
        cases found : db.tasks.find? m.id with
        | none => exact Or.inr (ensureProject_own projectOwn)
        | some stored => exact Or.inl ⟨stored, rfl, rfl⟩
  | taskDeleted stored parent table op found own live =>
      refine .single (.task db { stored with deletedAt := some engine.now }
        parent own ?_ (Or.inl ⟨stored, ?_, rfl⟩))
      · intro other otherFound
        rw [db.tasks.key_of_find? found, found] at otherFound
        exact Option.some.inj otherFound ▸ own
      · rw [db.tasks.key_of_find? found, found]
  | taskGone => exact .refl

/-- An iteration makes own writes only, also when it is refused half-way. -/
theorem Iterates.ownWrites
    {state next : BatchState}
    (iterates : Iterates engine tenantId m state next) :
    OwnWrites engine.clock tenantId state.db next.db := by
  cases iterates with
  | settled notAborted accepted =>
      rw [BatchState.db_settle]
      exact (mutate_mutates engine tenantId m state.db).ownWrites
  | refused written notAborted refusal stub =>
      rw [BatchState.db_answer]
      obtain rfl | ⟨projectId, rfl⟩ := stub
      · exact .refl
      · exact ensureProject_ownWrites projectId
  | aborted isAborted =>
      rw [BatchState.db_answer]

/-- A batch makes own writes only. -/
theorem applyMutations_ownWrites
    (engine : Engine) (tenantId : String)
    (mutations : List SyncMutation) (state : BatchState) :
    ∃ final, applyMutations engine tenantId mutations state = .ok () final ∧
      OwnWrites engine.clock tenantId state.db final.db :=
  applyMutations_invariant engine tenantId
    (fun _ reached => OwnWrites engine.clock tenantId state.db reached.db)
    (fun _ _ _ _ held iterates => held.trans iterates.ownWrites)
    mutations state .refl

/-- A request makes own writes only. -/
theorem POST_ownWrites
    (engine : Engine) (tenantId : String) (db : Db) (request : SyncRequest) :
    OwnWrites engine.clock tenantId db
      (POST engine tenantId db request).1 := by
  cases valid : requestSchema request with
  | false =>
      rw [POST_of_invalid valid]
  | true =>
      cases refusal : batchRefused engine tenantId request.mutations db with
      | true =>
          rw [POST_of_refused valid refusal]
      | false =>
          rw [POST_of_accepted valid refusal]
          obtain ⟨final, ran, writes⟩ := applyMutations_ownWrites engine
            tenantId request.mutations (BatchState.begin db)
          have fresh : (BatchState.begin db).aborted = false := rfl
          rw [applyMutations_of_accepted engine tenantId request.mutations
            fresh refusal] at ran
          injection ran with _ same
          change OwnWrites engine.clock tenantId db (settleBatch engine
            tenantId request.mutations (BatchState.begin db)).db
          rw [same]
          exact writes

end Batches

/-! ## What own writes keep -/

/-- The rows of the other tenants are the same. -/
structure ForeignUnchanged (tenantId : String) (before after : Db) : Prop where
  projects : ∀ project : Project, project.tenantId ≠ tenantId →
    (project ∈ after.projects.rows ↔ project ∈ before.projects.rows)
  tasks : ∀ task : Task, task.tenantId ≠ tenantId →
    (task ∈ after.tasks.rows ↔ task ∈ before.tasks.rows)

/-- Every task belongs to the tenant of its project. -/
def TenantConsistent (db : Db) : Prop :=
  ∀ task ∈ db.tasks.rows, ∀ project ∈ db.projects.rows,
    project.id = task.projectId → task.tenantId = project.tenantId

instance (db : Db) : Decidable (TenantConsistent db) :=
  inferInstanceAs (Decidable (∀ task ∈ db.tasks.rows,
    ∀ project ∈ db.projects.rows, _ → _))

theorem ForeignUnchanged.refl (tenantId : String) (db : Db) :
    ForeignUnchanged tenantId db db :=
  ⟨fun _ _ => Iff.rfl, fun _ _ => Iff.rfl⟩

theorem ForeignUnchanged.trans
    {tenantId : String} {first second third : Db}
    (left : ForeignUnchanged tenantId first second)
    (right : ForeignUnchanged tenantId second third) :
    ForeignUnchanged tenantId first third :=
  ⟨fun project foreign =>
      (right.projects project foreign).trans (left.projects project foreign),
    fun task foreign =>
      (right.tasks task foreign).trans (left.tasks task foreign)⟩

/-- Replacing an own row by an own row leaves the foreign rows of a table. -/
theorem mem_put_iff_of_foreign {α : Type} {key tenantOf : α → String}
    {table : Table key} {row foreign : α} {tenantId : String}
    (rowOwn : tenantOf row = tenantId)
    (storedOwn : ∀ stored, table.find? (key row) = some stored →
      tenantOf stored = tenantId)
    (notOwn : tenantOf foreign ≠ tenantId) :
    foreign ∈ (table.put row).rows ↔ foreign ∈ table.rows := by
  rw [table.mem_put_iff]
  constructor
  · rintro (rfl | ⟨present, _⟩)
    · exact absurd rowOwn notOwn
    · exact present
  · intro present
    refine Or.inr ⟨present, fun sameKey => notOwn ?_⟩
    exact storedOwn foreign (sameKey ▸ table.find?_of_mem present)

variable {clock : Nat → Nat} {tenantId : String} {db written : Db}

theorem OwnWrite.foreignUnchanged
    (write : OwnWrite clock tenantId db written) :
    ForeignUnchanged tenantId db written := by
  cases write with
  | project project own storedOwn =>
      exact ⟨fun foreign notOwn =>
          mem_put_iff_of_foreign own storedOwn notOwn,
        fun _ _ => Iff.rfl⟩
  | task task parent own storedOwn placed =>
      exact ⟨fun _ _ => Iff.rfl,
        fun foreign notOwn => mem_put_iff_of_foreign own storedOwn notOwn⟩

theorem OwnWrite.tenantConsistent
    (write : OwnWrite clock tenantId db written)
    (consistent : TenantConsistent db) :
    TenantConsistent written := by
  cases write with
  | project project own storedOwn =>
      intro task taskPresent other otherPresent parentOf
      rw [Db.putProject, Table.mem_put_iff] at otherPresent
      obtain rfl | ⟨otherStored, _⟩ := otherPresent
      · -- The parent of the task was rewritten; it was own before.
        obtain ⟨stored, found⟩ := Option.isSome_iff_exists.mp
          (db.taskParent task taskPresent)
        have storedTenant := storedOwn stored (parentOf ▸ found)
        have := consistent task taskPresent stored
          (db.projects.mem_of_find? found) (db.projects.key_of_find? found)
        exact this.trans (storedTenant.trans own.symm)
      · exact consistent task taskPresent other otherStored parentOf
  | task task parent own storedOwn placed =>
      intro other otherPresent project projectPresent parentOf
      rw [Db.putTask, Table.mem_put_iff] at otherPresent
      obtain rfl | ⟨otherStored, _⟩ := otherPresent
      · change project.id = task.projectId at parentOf
        change task.tenantId = project.tenantId
        have projectFound : db.projects.find? task.projectId =
            some project := by
          rw [← parentOf]
          exact db.projects.find?_of_mem projectPresent
        obtain ⟨stored, found, sameParent⟩ | projectOwn := placed
        · have := consistent stored (db.tasks.mem_of_find? found) project
            projectPresent (parentOf.trans sameParent.symm)
          exact own.trans ((storedOwn stored found).symm.trans this)
        · exact own.trans (projectOwn project projectFound).symm
      · exact consistent other otherStored project projectPresent parentOf

theorem OwnWrites.foreignUnchanged
    (writes : OwnWrites clock tenantId db written) :
    ForeignUnchanged tenantId db written := by
  induction writes with
  | refl => exact .refl tenantId db
  | tail _ write inductionHypothesis =>
      exact inductionHypothesis.trans write.foreignUnchanged

theorem OwnWrites.tenantConsistent
    (writes : OwnWrites clock tenantId db written)
    (consistent : TenantConsistent db) :
    TenantConsistent written := by
  induction writes with
  | refl => exact consistent
  | tail _ write inductionHypothesis =>
      exact write.tenantConsistent inductionHypothesis

/-! ## Sync requests of any tenants -/

/-- A sync request as it reaches the server: its tenant comes from the
session. -/
structure Arrival where
  engine : Engine
  tenantId : String
  request : SyncRequest

/-- Serve one request; no request is ever refused service. -/
def serve (db : Db) (arrival : Arrival) : Option Db :=
  some (POST arrival.engine arrival.tenantId db arrival.request).1

/-- The delivered rows are rows of the tenant. -/
structure DeliversOwn (tenantId : String) (db : Db) (pulled : PullResult) :
    Prop where
  projects : ∀ delivered ∈ pulled.projects, ∃ project ∈ db.projects.rows,
    project.tenantId = tenantId ∧ project.wire = delivered
  tasks : ∀ delivered ∈ pulled.tasks, ∃ task ∈ db.tasks.rows,
    task.tenantId = tenantId ∧ task.wire = delivered

theorem pullChanges_deliversOwn
    (db : Db) (tenantId : String) (cursor limit : Nat) :
    DeliversOwn tenantId db (pullChanges db tenantId cursor limit) := by
  constructor
  · intro delivered member
    obtain ⟨project, onPage, same⟩ := List.mem_map.mp member
    have stored := (mem_of_mem_pageAbove onPage).1
    simp only [List.mem_filter, decide_eq_true_eq] at stored
    exact ⟨project, stored.1, stored.2, same⟩
  · intro delivered member
    obtain ⟨task, onPage, same⟩ := List.mem_map.mp member
    have stored := (mem_of_mem_pageAbove onPage).1
    simp only [List.mem_filter, decide_eq_true_eq] at stored
    exact ⟨task, stored.1, stored.2, same⟩

/-- Requests of any tenants keep every task in the tenant of its project. -/
theorem tenantConsistent_of_requests
    {arrivals : List Arrival} {start final : Db}
    (run : Run serve (fun _ _ => True) start arrivals final)
    (consistent : TenantConsistent start) :
    TenantConsistent final := by
  refine run.invariant TenantConsistent ?_ consistent
  intro db arrival next held _ served
  simp only [serve, Option.some.injEq] at served
  rw [← served]
  exact (POST_ownWrites arrival.engine arrival.tenantId db
    arrival.request).tenantConsistent held

/-- In every state that sync requests of any tenants reach from a consistent
one, a batch of a tenant leaves the rows of all others unchanged and the state
consistent, at every point of the batch and whatever the database refuses, and
a pull of the tenant delivers its own rows only. -/
theorem sync_isolates_tenants
    {arrivals : List Arrival} {start db : Db}
    (run : Run serve (fun _ _ => True) start arrivals db)
    (consistent : TenantConsistent start)
    (engine : Engine)
    (tenantId : String)
    (mutations : List SyncMutation)
    (cursor limit : Nat) :
    (∃ final, applyMutations engine tenantId mutations (BatchState.begin db) =
        .ok () final ∧
      ForeignUnchanged tenantId db final.db ∧ TenantConsistent final.db) ∧
    DeliversOwn tenantId db (pullChanges db tenantId cursor limit) := by
  have reached := tenantConsistent_of_requests run consistent
  obtain ⟨final, ran, writes⟩ := applyMutations_ownWrites engine tenantId
    mutations (BatchState.begin db)
  exact ⟨⟨final, ran, writes.foreignUnchanged,
      writes.tenantConsistent reached⟩,
    pullChanges_deliversOwn db tenantId cursor limit⟩

/-- A first push: a project and a task of it. -/
def firstPush : SyncRequest where
  v := 2
  clientId := "browser"
  cursor := 0
  pullLimit := none
  mutations :=
    [⟨1, .project, .upsert, "p",
        some (ProjectData.payload ⟨"Garden", none, "Active"⟩)⟩,
      ⟨2, .task, .upsert, "p::1",
        some (TaskData.payload ⟨"p", "Weed", false⟩)⟩]

/-- The database after the first push of `tenant-a`. -/
def pushedDb : Db :=
  (POST (Engine.obliging 0) "tenant-a" Db.initial firstPush).1

/-- Pushing the same ids for another tenant leaves the rows of the first. -/
theorem sync_isolates_tenants_firstPush :
    (∃ final, applyMutations (Engine.obliging 0) "tenant-b"
        firstPush.mutations (BatchState.begin pushedDb) = .ok () final ∧
      ForeignUnchanged "tenant-b" pushedDb final.db ∧
      TenantConsistent final.db) ∧
    DeliversOwn "tenant-b" pushedDb
      (pullChanges pushedDb "tenant-b" 0 1) := by
  have run : Run serve (fun _ _ => True) Db.initial
      [⟨Engine.obliging 0, "tenant-a", firstPush⟩] pushedDb :=
    .cons trivial rfl (.nil pushedDb)
  exact sync_isolates_tenants run (by decide) (Engine.obliging 0) "tenant-b"
    firstPush.mutations 0 1

end Sync
end EvoPlatform
