import EvoPlatform.Sync.Retry

/-!
# What rejected mutations leave

A task upsert makes a stub of its missing project before the task itself is
looked up.  If the task is then rejected, the stub stays.  Every other rejection
leaves the tables as they were.
-/

namespace EvoPlatform
namespace Sync

/-! ## One mutation -/

/-- A task upsert that is rejected although its project may be used: the task
belongs to another tenant, or its title is not a string. -/
def SyncMutation.RejectedIn (tenantId : String) (db : Db) (m : SyncMutation)
    (projectId : String) : Prop :=
  m.StandsIn projectId ∧
    (db.foreignTasks tenantId m.id = true ∨ m.taskFields = none)

/-- The mutation brings a project into being, if it is missing. -/
def SyncMutation.Creates (m : SyncMutation) (projectId : String) : Prop :=
  m.StandsIn projectId ∨
    m.table = .project ∧ m.op = .upsert ∧ m.id = projectId ∧
      invalidProjectUpsert m = false ∧ m.projectFields.isSome = true

section Mutations

variable {engine : Engine} {tenantId : String} {db : Db} {m : SyncMutation}
  {projectId : String}

theorem creates_iff_projectTurn :
    m.Creates projectId ↔
      m.projectTurn projectId = .stand ∨
        ∃ fields, m.projectTurn projectId = .upsert fields := by
  rw [projectTurn_eq_stand_iff]
  refine or_congr_right ?_
  unfold SyncMutation.projectTurn
  cases m.table <;> cases m.op
  · by_cases goes : m.id = projectId ∧ invalidProjectUpsert m = false
    · cases m.projectFields <;> simp [goes]
    · simp only [goes, if_false, reduceCtorEq, exists_false, iff_false]
      rintro ⟨-, -, isRow, valid, -⟩
      exact goes ⟨isRow, valid⟩
  · by_cases here : m.id = projectId <;> simp [here]
  · by_cases needs : m.parent = some projectId <;> simp [needs]
  · simp

/-- A project that is missing is missing after a turn that does not create
it. -/
theorem take_eq_none_iff (seen : Option SeenProject) :
    (m.projectTurn projectId).take tenantId projectId seen = none ↔
      seen = none ∧ ¬ m.Creates projectId := by
  rw [creates_iff_projectTurn]
  cases seen with
  | none => cases m.projectTurn projectId <;> simp [ProjectTurn.take]
  | some seen =>
      by_cases own : seen.tenantId = tenantId
      · cases m.projectTurn projectId <;> simp [ProjectTurn.take, own]
      · cases m.projectTurn projectId <;> simp [ProjectTurn.take, own]

theorem seenProject_eq_none_iff :
    db.seenProject projectId = none ↔ db.projects.find? projectId = none := by
  simp [Db.seenProject]

/-- A missing project does not belong to another tenant. -/
theorem foreignProjects_of_missing
    (missing : db.projects.find? projectId = none) :
    db.foreignProjects tenantId projectId = false := by
  simp [Db.foreignProjects, foreignProject, missing]

/-- A mutation that is rejected in a project that is missing leaves a stub. -/
theorem mutate_of_rejectedIn
    (missing : db.projects.find? projectId = none)
    (rejected : m.RejectedIn tenantId db projectId) :
    (mutate engine tenantId m db).2 ≠ .applied ∧
      (mutate engine tenantId m db).1 ≠ db := by
  obtain ⟨stands, foreign⟩ := rejected
  obtain ⟨isTask, isUpsert, needs⟩ := stands
  have turns := mutate_takesTurns engine tenantId m db
  constructor
  · rw [turns.verdict]
    rcases foreign with foreign | noFields
    · simp [SyncMutation.verdict, isTask, isUpsert, needs,
        foreignProjects_of_missing missing, foreign]
    · by_cases foreign : db.foreignTasks tenantId m.id = true
      · simp [SyncMutation.verdict, isTask, isUpsert, needs,
          foreignProjects_of_missing missing, foreign]
      · simp [SyncMutation.verdict, isTask, isUpsert, needs,
          foreignProjects_of_missing missing, foreign, noFields]
  · intro unchanged
    have stays := turns.project projectId
    rw [unchanged, eq_comm, seenProject_eq_none_iff.mpr missing,
      take_eq_none_iff] at stays
    exact stays.2 (Or.inl ⟨isTask, isUpsert, needs⟩)

/-- Every other mutation that is rejected changes nothing. -/
theorem mutate_of_rejected
    (rejected : (mutate engine tenantId m db).2 ≠ .applied)
    (elsewhere : ∀ projectId, db.projects.find? projectId = none →
      ¬ m.RejectedIn tenantId db projectId) :
    (mutate engine tenantId m db).1 = db := by
  have turns := mutate_takesTurns engine tenantId m db
  have cases := mutate_mutates engine tenantId m db
  generalize mutate engine tenantId m db = effect at rejected turns cases
  obtain ⟨after, answer⟩ := effect
  cases cases with
  | rejected reason => rfl
  | rejectedWithStub projectId reason missing =>
      -- The project turned up, so the mutation is one that creates it.
      have created : m.Creates projectId := by
        by_contra notCreated
        have stays : (m.projectTurn projectId).take tenantId projectId
            (db.seenProject projectId) = none :=
          (take_eq_none_iff _).mpr
            ⟨seenProject_eq_none_iff.mpr missing, notCreated⟩
        have stub := Db.seenProject_putProject db engine.clock
          (Db.stubProject projectId tenantId) projectId
        have isRow : projectId = (Db.stubProject projectId tenantId).id := rfl
        rw [if_pos isRow] at stub
        exact absurd (stub.symm.trans ((turns.project projectId).trans stays))
          (Option.some_ne_none _)
      refine absurd ?_ (elsewhere projectId missing)
      have notForeign : db.foreignProjects tenantId projectId = false :=
        foreignProjects_of_missing missing
      have answered := turns.verdict
      rcases created with stands |
        ⟨isProject, isUpsert, isRow, valid, hasFields⟩
      · refine ⟨stands, ?_⟩
        obtain ⟨isTask, isUpsert, needs⟩ := stands
        by_contra neither
        rw [not_or, Bool.not_eq_true] at neither
        simp [SyncMutation.verdict, isTask, isUpsert, needs, notForeign,
          neither.1, neither.2] at answered
      · simp [SyncMutation.verdict, isProject, isUpsert, isRow, valid,
          notForeign, Option.isNone_eq_false_iff.mpr hasFields] at answered
  | projectUpserted => exact absurd rfl rejected
  | projectDeleted => exact absurd rfl rejected
  | projectGone => rfl
  | taskUpserted => exact absurd rfl rejected
  | taskDeleted => exact absurd rfl rejected
  | taskGone => rfl

end Mutations

/-! ## Batches without their rejected mutations -/

/-- The mutations of a batch that are reported as applied, by the answer that
each of them gets in its turn. -/
def accepted (engine : Engine) (tenantId : String) :
    List SyncMutation → Db → List SyncMutation
  | [], _ => []
  | m :: batch, db =>
      match mutate engine tenantId m db with
      | (after, .applied) => m :: accepted engine tenantId batch after
      | (after, .rejected _) => accepted engine tenantId batch after

/-- After the batch the tables are the same as after its accepted mutations
alone. -/
def RejectedChangeNothing (engine : Engine) (tenantId : String)
    (batch : List SyncMutation) (db : Db) : Prop :=
  ∃ after without, Pushed engine tenantId batch db after ∧
    Pushed engine tenantId (accepted engine tenantId batch db) db without ∧
    without.db = after.db

/-- A mutation of the batch is rejected in a project that has no row, neither
before the batch nor by the mutations before it. -/
def RejectedInMissing (tenantId : String) (batch : List SyncMutation)
    (db : Db) : Prop :=
  ∃ before m after projectId, batch = before ++ m :: after ∧
    m.RejectedIn tenantId db projectId ∧
    db.projects.find? projectId = none ∧
    ∀ other ∈ before, ¬ other.Creates projectId

section Batches

variable {engine : Engine} {tenantId : String} {db : Db}
  {batch : List SyncMutation}

/-- What a batch leaves in the tables. -/
def leaves (engine : Engine) (tenantId : String) (batch : List SyncMutation)
    (db : Db) : Db :=
  batch.foldl (fun db m => (mutate engine tenantId m db).1) db

theorem db_settleBatch (state : BatchState) :
    (settleBatch engine tenantId batch state).db =
      leaves engine tenantId batch state.db := by
  induction batch generalizing state with
  | nil => rfl
  | cons m batch inductionHypothesis =>
      rw [settleBatch_cons, inductionHypothesis, BatchState.db_settle]
      rfl

/-- The accepted mutations are carried out and leave what the batch leaves. -/
def AcceptedSuffice (engine : Engine) (tenantId : String)
    (batch : List SyncMutation) (db : Db) : Prop :=
  batchRefused engine tenantId (accepted engine tenantId batch db) db = false ∧
    leaves engine tenantId (accepted engine tenantId batch db) db =
      leaves engine tenantId batch db

theorem rejectedChangeNothing_iff
    (carriedOut : batchRefused engine tenantId batch db = false) :
    RejectedChangeNothing engine tenantId batch db ↔
      AcceptedSuffice engine tenantId batch db := by
  constructor
  · rintro ⟨after, without, pushed, alone, same⟩
    refine ⟨alone.carriedOut, ?_⟩
    rwa [alone.eq_settleBatch, pushed.eq_settleBatch, db_settleBatch,
      db_settleBatch] at same
  · rintro ⟨aloneCarriedOut, same⟩
    refine ⟨_, _, pushed_settleBatch carriedOut,
      pushed_settleBatch aloneCarriedOut, ?_⟩
    rwa [db_settleBatch, db_settleBatch]

/-- A missing project is missing after the first mutation, unless that creates
it. -/
theorem rejectedInMissing_cons {m : SyncMutation} :
    RejectedInMissing tenantId (m :: batch) db ↔
      (∃ projectId, m.RejectedIn tenantId db projectId ∧
        db.projects.find? projectId = none) ∨
      RejectedInMissing tenantId batch (mutate engine tenantId m db).1 := by
  have missingAfter (projectId : String) :
      (mutate engine tenantId m db).1.projects.find? projectId = none ↔
        db.projects.find? projectId = none ∧ ¬ m.Creates projectId := by
    rw [← seenProject_eq_none_iff,
      (mutate_takesTurns engine tenantId m db).project, take_eq_none_iff,
      seenProject_eq_none_iff]
  have rejectedAfter (other : SyncMutation) (projectId : String) :
      other.RejectedIn tenantId (mutate engine tenantId m db).1 projectId ↔
        other.RejectedIn tenantId db projectId := by
    unfold SyncMutation.RejectedIn
    rw [foreignTasks_mutate]
  constructor
  · rintro ⟨before, other, after, projectId, split, rejected, missing,
      notCreated⟩
    cases before with
    | nil =>
        obtain ⟨rfl, rfl⟩ := List.cons.inj split
        exact Or.inl ⟨projectId, rejected, missing⟩
    | cons first before =>
        obtain ⟨rfl, rfl⟩ := List.cons.inj split
        refine Or.inr ⟨before, other, after, projectId, rfl,
          (rejectedAfter other projectId).mpr rejected,
          (missingAfter projectId).mpr ⟨missing, notCreated _ (by simp)⟩, ?_⟩
        exact fun earlier member =>
          notCreated earlier (List.mem_cons_of_mem _ member)
  · rintro (⟨projectId, rejected, missing⟩ |
      ⟨before, other, after, projectId, rfl, rejected, missing, notCreated⟩)
    · exact ⟨[], m, batch, projectId, rfl, rejected, missing, nofun⟩
    · obtain ⟨missingBefore, passes⟩ := (missingAfter projectId).mp missing
      refine ⟨m :: before, other, after, projectId, rfl,
        (rejectedAfter other projectId).mp rejected, missingBefore, ?_⟩
      intro earlier member
      rcases List.mem_cons.mp member with rfl | member
      · exact passes
      · exact notCreated earlier member

/-- What follows an accepted mutation suffices if and only if it does from what
that mutation leaves. -/
theorem acceptedSuffice_cons_of_applied
    {m : SyncMutation}
    (accepts : refused engine tenantId m db = false)
    (applied : (mutate engine tenantId m db).2 = .applied) :
    AcceptedSuffice engine tenantId (m :: batch) db ↔
      AcceptedSuffice engine tenantId batch
        (mutate engine tenantId m db).1 := by
  have keeps : accepted engine tenantId (m :: batch) db =
      m :: accepted engine tenantId batch (mutate engine tenantId m db).1 := by
    rw [accepted]
    rcases effect : mutate engine tenantId m db with ⟨after, answer⟩
    rw [effect] at applied
    cases applied
    rfl
  rw [AcceptedSuffice, AcceptedSuffice, keeps, batchRefused, accepts,
    Bool.false_or]
  exact Iff.rfl

theorem accepted_cons_of_rejected
    {m : SyncMutation}
    (rejected : (mutate engine tenantId m db).2 ≠ .applied) :
    accepted engine tenantId (m :: batch) db =
      accepted engine tenantId batch (mutate engine tenantId m db).1 := by
  rw [accepted]
  rcases effect : mutate engine tenantId m db with ⟨after, answer⟩
  rw [effect] at rejected
  cases answer with
  | applied => exact absurd rfl rejected
  | rejected reason => rfl

/-- The database carries out what it carries out of a longer batch. -/
theorem batchRefused_of_longer
    {handled : List SyncMutation}
    (isPrefix : handled <+: batch)
    (carriedOut : batchRefused engine tenantId batch db = false) :
    batchRefused engine tenantId handled db = false := by
  induction handled generalizing batch db with
  | nil => rfl
  | cons m handled inductionHypothesis =>
      obtain ⟨rest, rfl⟩ := isPrefix
      rw [List.cons_append, batchRefused, Bool.or_eq_false_iff] at carriedOut
      rw [batchRefused, carriedOut.1, Bool.false_or]
      exact inductionHypothesis (List.prefix_append _ _) carriedOut.2

/-- A rejected mutation that changes nothing may be left out. -/
theorem acceptedSuffice_cons_of_rejected
    {m : SyncMutation}
    (rejected : (mutate engine tenantId m db).2 ≠ .applied)
    (unchanged : (mutate engine tenantId m db).1 = db) :
    AcceptedSuffice engine tenantId (m :: batch) db ↔
      AcceptedSuffice engine tenantId batch db := by
  have leavesSame : leaves engine tenantId (m :: batch) db =
      leaves engine tenantId batch db := by
    change leaves engine tenantId batch (mutate engine tenantId m db).1 = _
    rw [unchanged]
  rw [AcceptedSuffice, AcceptedSuffice, accepted_cons_of_rejected rejected,
    unchanged, leavesSame]

/-- A first mutation is accepted, or rejected without effect, or rejected in a
project that is missing. -/
theorem acceptedSuffice_prefixes_iff
    (carriedOut : batchRefused engine tenantId batch db = false) :
    (∀ handled, handled <+: batch →
      AcceptedSuffice engine tenantId handled db) ↔
      ¬ RejectedInMissing tenantId batch db := by
  induction batch generalizing db with
  | nil =>
      refine iff_of_true ?_ ?_
      · intro handled isPrefix
        obtain rfl := List.prefix_nil.mp isPrefix
        exact ⟨rfl, rfl⟩
      · rintro ⟨before, m, after, projectId, split, -⟩
        simp at split
  | cons m batch inductionHypothesis =>
      rw [batchRefused, Bool.or_eq_false_iff] at carriedOut
      obtain ⟨accepts, restCarriedOut⟩ := carriedOut
      have onRest := inductionHypothesis restCarriedOut
      have atFirst : RejectedInMissing tenantId (m :: batch) db ↔
          (∃ projectId, m.RejectedIn tenantId db projectId ∧
            db.projects.find? projectId = none) ∨
          RejectedInMissing tenantId batch (mutate engine tenantId m db).1 :=
        rejectedInMissing_cons
      rw [atFirst, not_or, ← onRest]
      have onPrefixes (holds : List SyncMutation → Prop) :
          (∀ handled, handled <+: m :: batch → holds handled) ↔
            holds [] ∧ ∀ handled, handled <+: batch → holds (m :: handled) := by
        constructor
        · exact fun all => ⟨all [] (List.nil_prefix), fun handled isPrefix =>
            all (m :: handled) ((List.prefix_cons_inj m).mpr isPrefix)⟩
        · rintro ⟨atNil, atCons⟩ handled isPrefix
          cases handled with
          | nil => exact atNil
          | cons first handled =>
              obtain ⟨rfl, shorter⟩ := List.cons_prefix_cons.mp isPrefix
              exact atCons handled shorter
      rw [onPrefixes, and_iff_right ⟨rfl, rfl⟩]
      by_cases applied : (mutate engine tenantId m db).2 = .applied
      · have notRejected : ¬ ∃ projectId, m.RejectedIn tenantId db projectId ∧
            db.projects.find? projectId = none := by
          rintro ⟨projectId, rejected, missing⟩
          exact (mutate_of_rejectedIn missing rejected).1 applied
        simp only [acceptedSuffice_cons_of_applied accepts applied,
          notRejected, not_false_eq_true, true_and]
      by_cases stays : (mutate engine tenantId m db).1 = db
      · have notRejected : ¬ ∃ projectId, m.RejectedIn tenantId db projectId ∧
            db.projects.find? projectId = none := by
          rintro ⟨projectId, rejected, missing⟩
          exact (mutate_of_rejectedIn missing rejected).2 stays
        simp only [acceptedSuffice_cons_of_rejected applied stays, stays,
          notRejected, not_false_eq_true, true_and]
      · refine iff_of_false (fun allSuffice => stays ?_)
          (fun nothing => stays ?_)
        · have alone := (allSuffice [] List.nil_prefix).2
          rw [accepted_cons_of_rejected applied] at alone
          exact alone.symm
        · exact mutate_of_rejected applied fun projectId missing rejected =>
            nothing.1 ⟨projectId, rejected, missing⟩

end Batches

/-- Up to every mutation of a batch, the rejected ones have changed nothing, if
and only if none of them is rejected in a project that has no row. -/
theorem rejectedChangeNothing_prefixes_iff
    {engine : Engine}
    {tenantId : String}
    {db : Db}
    {batch : List SyncMutation}
    (carriedOut : batchRefused engine tenantId batch db = false) :
    (∀ handled, handled <+: batch →
      RejectedChangeNothing engine tenantId handled db) ↔
      ¬ RejectedInMissing tenantId batch db := by
  rw [← acceptedSuffice_prefixes_iff carriedOut]
  refine forall₂_congr fun handled isPrefix => ?_
  exact rejectedChangeNothing_iff (batchRefused_of_longer isPrefix carriedOut)

/-- A task without a title, and a project that is renamed. -/
def emptyTitle : List SyncMutation :=
  [⟨1, .task, .upsert, "prj_1::0", some (TaskData.payload
      { projectId := "prj_1", title := "", done := false })⟩,
    ⟨2, .project, .upsert, "prj_1", some (ProjectData.payload
      { name := "Garden", description := none, status := "Active" })⟩]

theorem rejectedChangeNothing_emptyTitle :
    (∀ handled, handled <+: emptyTitle →
      RejectedChangeNothing (Engine.obliging 0) "tenant-a" handled
        Db.initial) ↔
      ¬ RejectedInMissing "tenant-a" emptyTitle Db.initial :=
  rejectedChangeNothing_prefixes_iff (by decide +kernel)

/-- A task whose title is a number. -/
def numberedTitle : List SyncMutation :=
  [⟨1, .task, .upsert, "prj_1::0", some
    [("projectId", .string "prj_1"), ("title", .number 5)]⟩]

/-- The task is rejected, and the project that it asks for is there
afterwards. -/
theorem rejected_leavesStub :
    (∃ after, Pushed (Engine.obliging 0) "tenant-a" numberedTitle Db.initial
        after ∧ after.rejected = [(1, .invalid)] ∧
      after.db.seenProject "prj_1" =
        some ⟨"tenant-a", "prj_1", none, "Active", true⟩) ∧
      ¬ RejectedChangeNothing (Engine.obliging 0) "tenant-a" numberedTitle
        Db.initial := by
  refine ⟨⟨_, pushed_settleBatch (by decide +kernel), by decide +kernel,
    by decide +kernel⟩, ?_⟩
  rintro ⟨after, without, pushed, alone, same⟩
  rw [pushed.eq_settleBatch, alone.eq_settleBatch] at same
  exact absurd (congrArg (fun db => db.seenProject "prj_1") same)
    (by decide +kernel)

end Sync
end EvoPlatform
