import EvoPlatform.Sync.System

/-!
# What an answered request has done

When a request is answered without a rejection, each of its mutations was
applied, and the page is the pull from the state after the last of them.  A
property that every applied mutation establishes for itself, and that later
writes keep, then holds of all of them in that state.
-/

namespace EvoPlatform
namespace Sync

section Batches

variable {engine : Engine} {tenantId : String}

/-- Check every mutation of a batch in the state it meets. -/
def batchAll (check : Db → SyncMutation → Bool) (engine : Engine)
    (tenantId : String) : List SyncMutation → Db → Bool
  | [], _ => true
  | m :: mutations, db =>
      check db m &&
        batchAll check engine tenantId mutations (mutate engine tenantId m db).1

/-- A check that always passes. -/
theorem batchAll_true (mutations : List SyncMutation) (db : Db) :
    batchAll (fun _ _ => true) engine tenantId mutations db = true := by
  induction mutations generalizing db with
  | nil => rfl
  | cons m mutations inductionHypothesis =>
      simp [batchAll, inductionHypothesis]

theorem rejected_settle_ne_nil
    {state : BatchState} (m : SyncMutation) (effect : Db × Verdict)
    (rejected : state.rejected ≠ []) :
    (state.settle m effect).rejected ≠ [] := by
  obtain ⟨db, verdict⟩ := effect
  cases verdict with
  | applied => exact rejected
  | rejected reason => simp [BatchState.settle, BatchState.answer]

/-- Rejections stay. -/
theorem rejected_settleBatch_ne_nil
    (mutations : List SyncMutation) {state : BatchState}
    (rejected : state.rejected ≠ []) :
    (settleBatch engine tenantId mutations state).rejected ≠ [] := by
  induction mutations generalizing state with
  | nil => exact rejected
  | cons m mutations inductionHypothesis =>
      rw [settleBatch_cons]
      exact inductionHypothesis (rejected_settle_ne_nil m _ rejected)

/-- The rule for batches without a rejection: an invariant of the database, and
a property that each mutation establishes for itself and the later ones keep. -/
theorem settleBatch_rule
    (check : Db → SyncMutation → Bool)
    (holds : Db → Prop)
    (done : Db → SyncMutation → Prop)
    (kept : ∀ db m, holds db → check db m = true →
      (mutate engine tenantId m db).2 = .applied →
        holds (mutate engine tenantId m db).1 ∧
          done (mutate engine tenantId m db).1 m)
    (stable : ∀ db m later, holds db → done db m →
      done (mutate engine tenantId later db).1 m)
    (mutations : List SyncMutation)
    {state : BatchState}
    (checked : batchAll check engine tenantId mutations state.db = true)
    (initially : holds state.db)
    (noRejection : (settleBatch engine tenantId mutations state).rejected =
      []) :
    holds (settleBatch engine tenantId mutations state).db ∧
      (∀ m, done state.db m →
        done (settleBatch engine tenantId mutations state).db m) ∧
      ∀ m ∈ mutations,
        done (settleBatch engine tenantId mutations state).db m := by
  induction mutations generalizing state with
  | nil => exact ⟨initially, fun _ held => held, by simp⟩
  | cons m mutations inductionHypothesis =>
      simp only [batchAll, Bool.and_eq_true] at checked
      rw [settleBatch_cons] at noRejection ⊢
      have applied : (mutate engine tenantId m state.db).2 = .applied := by
        cases verdict : (mutate engine tenantId m state.db).2 with
        | applied => rfl
        | rejected reason =>
            refine absurd noRejection (rejected_settleBatch_ne_nil _ ?_)
            simp [BatchState.settle, verdict, BatchState.answer]
      obtain ⟨holdsNext, doneNext⟩ := kept state.db m initially checked.1 applied
      obtain ⟨holdsFinally, keptFinally, doneFinally⟩ :=
        inductionHypothesis (by simpa using checked.2) (by simpa using holdsNext)
          noRejection
      rw [BatchState.db_settle] at keptFinally
      refine ⟨holdsFinally, fun earlier held => ?_, ?_⟩
      · exact keptFinally earlier (stable state.db earlier m initially held)
      · intro other member
        rcases List.mem_cons.mp member with rfl | later
        · exact keptFinally _ doneNext
        · exact doneFinally other later

end Batches

/-! ## Successful answers -/

/-- The horizon is where the migration put it: no tombstone has been
collected. -/
def Uncollected (db : Db) : Prop := db.horizon = some 0

theorem OwnWrites.uncollected
    {clock : Nat → Nat} {writer : String} {db written : Db}
    (writes : OwnWrites clock writer db written)
    (uncollected : Uncollected db) :
    Uncollected written := by
  induction writes with
  | refl => exact uncollected
  | tail _ write inductionHypothesis =>
      cases write <;> exact inductionHypothesis

section Answers

variable {engine : Engine} {tenantId : String} {db : Db}
  {request : SyncRequest} {data : SyncResponse}

/-- The pull behind an answer. -/
def SyncRequest.pulledFrom (request : SyncRequest) (tenantId : String)
    (db : Db) : PullResult :=
  pullChanges db tenantId request.cursor (effectiveLimit request.pullLimit)

/-- A successful answer reports the batch and the pull that follows it. -/
structure Answers (engine : Engine) (tenantId : String) (db : Db)
    (request : SyncRequest) (data : SyncResponse) : Prop where
  committed : (POST engine tenantId db request).1 =
    (settled engine tenantId db request).db
  rejected : data.rejected = (settled engine tenantId db request).rejected
  noResync : data.resyncRequired = false
  projects : data.projects = (request.pulledFrom tenantId
    (POST engine tenantId db request).1).projects
  tasks : data.tasks = (request.pulledFrom tenantId
    (POST engine tenantId db request).1).tasks
  cursor : data.cursor = (request.pulledFrom tenantId
    (POST engine tenantId db request).1).cursor
  hasMore : data.hasMore = (request.pulledFrom tenantId
    (POST engine tenantId db request).1).hasMore

/-- An answer that demands no resync reports the batch and the pull, and the
cursor was not behind the horizon. -/
theorem answers_of_noResync
    (succeeded : (POST engine tenantId db request).2 = .ok data)
    (noResync : data.resyncRequired = false) :
    Answers engine tenantId db request data ∧
      behindHorizon (POST engine tenantId db request).1.horizon
        request.cursor = false := by
  cases valid : requestSchema request with
  | false =>
      rw [POST_of_invalid valid] at succeeded
      contradiction
  | true =>
      cases refusal : batchRefused engine tenantId request.mutations db with
      | true =>
          rw [POST_of_refused valid refusal] at succeeded
          contradiction
      | false =>
          have answered := POST_of_accepted valid refusal
          have final := congrArg Prod.fst answered
          rw [answered] at succeeded
          cases behind : behindHorizon
              (settled engine tenantId db request).db.horizon
              request.cursor with
          | true =>
              have noPull : request.pulled tenantId
                  (settled engine tenantId db request).db = none := by
                simp [SyncRequest.pulled, behind]
              rw [noPull] at succeeded
              injection succeeded with same
              rw [← same] at noResync
              contradiction
          | false =>
              have ahead : request.pulled tenantId
                  (settled engine tenantId db request).db =
                    some (request.pulledFrom tenantId
                      (settled engine tenantId db request).db) := by
                simp [SyncRequest.pulled, SyncRequest.pulledFrom, behind]
              rw [ahead] at succeeded
              injection succeeded with same
              refine ⟨⟨final, ?_, ?_, ?_, ?_, ?_, ?_⟩, by rw [final]; exact behind⟩
              <;> first | rw [final, ← same] | rw [← same]
              all_goals rfl

/-- Before anything was collected, every successful answer is one of these. -/
theorem answers_of_succeeded
    (uncollected : Uncollected db)
    (succeeded : (POST engine tenantId db request).2 = .ok data) :
    Answers engine tenantId db request data := by
  have stillUncollected : (POST engine tenantId db request).1.horizon =
      some 0 :=
    (POST_ownWrites engine tenantId db request).uncollected uncollected
  cases valid : requestSchema request with
  | false =>
      rw [POST_of_invalid valid] at succeeded
      contradiction
  | true =>
      cases refusal : batchRefused engine tenantId request.mutations db with
      | true =>
          rw [POST_of_refused valid refusal] at succeeded
          contradiction
      | false =>
          refine (answers_of_noResync succeeded ?_).1
          rw [POST_of_accepted valid refusal] at succeeded stillUncollected
          change (settled engine tenantId db request).db.horizon = some 0
            at stillUncollected
          injection succeeded with same
          rw [← same]
          simp [SyncRequest.pulled, SyncRequest.respond, behindHorizon,
            stillUncollected]

/-- The batch rule for a request that is answered without a rejection. -/
theorem Answers.batch
    (answers : Answers engine tenantId db request data)
    (noRejection : data.rejected = [])
    (check : Db → SyncMutation → Bool)
    (holds : Db → Prop)
    (done : Db → SyncMutation → Prop)
    (kept : ∀ db m, holds db → check db m = true →
      (mutate engine tenantId m db).2 = .applied →
        holds (mutate engine tenantId m db).1 ∧
          done (mutate engine tenantId m db).1 m)
    (stable : ∀ db m later, holds db → done db m →
      done (mutate engine tenantId later db).1 m)
    (checked : batchAll check engine tenantId request.mutations db = true)
    (initially : holds db) :
    holds (POST engine tenantId db request).1 ∧
      ∀ m ∈ request.mutations,
        done (POST engine tenantId db request).1 m := by
  rw [answers.committed]
  obtain ⟨holdsFinally, _, all⟩ := settleBatch_rule check holds done kept stable
    request.mutations checked initially (answers.rejected.symm.trans noRejection)
  exact ⟨holdsFinally, all⟩

/-- A delivered project is an own one as it is stored. -/
theorem Answers.project_of_mem
    (answers : Answers engine tenantId db request data)
    {delivered : ServerProject}
    (member : delivered ∈ data.projects) :
    ∃ project,
      (POST engine tenantId db request).1.ownProject tenantId delivered.id =
          some project ∧
        request.cursor < project.rowVersion ∧ project.wire = delivered := by
  rw [answers.projects] at member
  obtain ⟨project, onPage, rfl⟩ := List.mem_map.mp member
  obtain ⟨stored, above⟩ := mem_of_mem_pageAbove onPage
  simp only [List.mem_filter, decide_eq_true_eq] at stored
  exact ⟨project, (Db.ownProject_eq_some_iff _ _ _ _).mpr
    ⟨Table.find?_of_mem _ stored.1, stored.2⟩, above, rfl⟩

/-- The page of an answer covers the projects between the two cursors. -/
theorem Answers.covers_projects
    (answers : Answers engine tenantId db request data) :
    Covers Project.rowVersion Project.wire ServerProject.id
      ((POST engine tenantId db request).1.ownProject tenantId)
      data.projects request.cursor data.cursor := by
  constructor
  · intro id project found above upTo
    obtain ⟨stored, own⟩ := (Db.ownProject_eq_some_iff _ _ _ _).mp found
    have keyed : project.id = id := Table.key_of_find? _ stored
    rw [answers.cursor] at upTo
    rw [answers.projects]
    exact ⟨mem_projects_pullChanges (Table.mem_of_find? _ stored) own above upTo,
      keyed⟩
  · intro delivered member
    obtain ⟨project, found, above, same⟩ := answers.project_of_mem member
    exact ⟨project, found, above, fun _ => same⟩

/-- A delivered task is an own one as it is stored. -/
theorem Answers.task_of_mem
    (answers : Answers engine tenantId db request data)
    {delivered : ServerTask}
    (member : delivered ∈ data.tasks) :
    ∃ task,
      (POST engine tenantId db request).1.ownTask tenantId delivered.id =
          some task ∧
        request.cursor < task.rowVersion ∧ task.wire = delivered := by
  rw [answers.tasks] at member
  obtain ⟨task, onPage, rfl⟩ := List.mem_map.mp member
  obtain ⟨stored, above⟩ := mem_of_mem_pageAbove onPage
  simp only [List.mem_filter, decide_eq_true_eq] at stored
  exact ⟨task, (Db.ownTask_eq_some_iff _ _ _ _).mpr
    ⟨Table.find?_of_mem _ stored.1, stored.2⟩, above, rfl⟩

/-- The page of an answer covers the tasks between the two cursors. -/
theorem Answers.covers_tasks
    (answers : Answers engine tenantId db request data) :
    Covers Task.rowVersion Task.wire ServerTask.id
      ((POST engine tenantId db request).1.ownTask tenantId)
      data.tasks request.cursor data.cursor := by
  constructor
  · intro id task found above upTo
    obtain ⟨stored, own⟩ := (Db.ownTask_eq_some_iff _ _ _ _).mp found
    have keyed : task.id = id := Table.key_of_find? _ stored
    rw [answers.cursor] at upTo
    rw [answers.tasks]
    exact ⟨mem_tasks_pullChanges (Table.mem_of_find? _ stored) own above upTo,
      keyed⟩
  · intro delivered member
    obtain ⟨task, found, above, same⟩ := answers.task_of_mem member
    exact ⟨task, found, above, fun _ => same⟩

theorem Answers.cursor_le
    (answers : Answers engine tenantId db request data) :
    request.cursor ≤ data.cursor := by
  rw [answers.cursor]
  exact cursor_le_cursor_pullChanges

/-- The returned cursor has been drawn from the sequence if the sent one was. -/
theorem Answers.cursor_le_seq
    (answers : Answers engine tenantId db request data)
    (sent : request.cursor ≤ db.seq) :
    data.cursor ≤ (POST engine tenantId db request).1.seq := by
  have grown := (POST_movesOn engine tenantId tenantId db request).seq_le
  rw [answers.cursor]
  rcases cursor_pullChanges_eq_or_le (POST engine tenantId db request).1
    tenantId request.cursor (effectiveLimit request.pullLimit) with
      same | drawn
  · exact (same.le.trans sent).trans grown
  · exact drawn

/-- A last answer leaves no own project beyond its cursor. -/
theorem Answers.projects_le_cursor
    (answers : Answers engine tenantId db request data)
    (last : data.hasMore = false)
    {id : String} {project : Project}
    (found : (POST engine tenantId db request).1.ownProject tenantId id =
      some project) :
    project.rowVersion ≤ data.cursor := by
  obtain ⟨stored, own⟩ := (Db.ownProject_eq_some_iff _ _ _ _).mp found
  rw [answers.hasMore] at last
  rcases Nat.lt_or_ge request.cursor project.rowVersion with new | old
  · rw [answers.cursor]
    exact project_le_cursor_of_last last (Table.mem_of_find? _ stored) own new
  · exact old.trans answers.cursor_le

/-- A last answer leaves no own task beyond its cursor. -/
theorem Answers.tasks_le_cursor
    (answers : Answers engine tenantId db request data)
    (last : data.hasMore = false)
    {id : String} {task : Task}
    (found : (POST engine tenantId db request).1.ownTask tenantId id =
      some task) :
    task.rowVersion ≤ data.cursor := by
  obtain ⟨stored, own⟩ := (Db.ownTask_eq_some_iff _ _ _ _).mp found
  rw [answers.hasMore] at last
  rcases Nat.lt_or_ge request.cursor task.rowVersion with new | old
  · rw [answers.cursor]
    exact task_le_cursor_of_last last (Table.mem_of_find? _ stored) own new
  · exact old.trans answers.cursor_le

end Answers

end Sync
end EvoPlatform
