import EvoPlatform.Sync.Visible

/-!
# Applying a batch again

A client that has lost the answer sends the same batch once more.  A batch has
at most one mutation for each row, so at every row the second round takes turns
that the first has taken.  A round can undo what the first has left only where a
project that did not exist was to be deleted before a task of the batch made a
stub of it.
-/

namespace EvoPlatform
namespace Sync

/-! ## Rounds at a row -/

namespace ProjectTurn

variable {tenantId id : String} {turns : List ProjectTurn}

/-- A turn that a mutation of another row can take. -/
def quiet : ProjectTurn → Bool
  | .leave => true
  | .stand => true
  | _ => false

/-- Quiet turns leave a project that exists. -/
theorem takeAll_quiet_some
    (allQuiet : ∀ turn ∈ turns, turn.quiet = true)
    (seen : SeenProject) :
    takeAll tenantId id turns (some seen) = some seen := by
  induction turns with
  | nil => rfl
  | cons turn turns inductionHypothesis =>
      have first := allQuiet turn (by simp)
      have rest := inductionHypothesis fun other member =>
        allQuiet other (by simp [member])
      cases turn <;> simp_all [quiet, take]

/-- Quiet turns make at most a stub. -/
theorem takeAll_quiet_none
    (allQuiet : ∀ turn ∈ turns, turn.quiet = true) :
    takeAll tenantId id turns none =
      if .stand ∈ turns then some ⟨tenantId, id, none, "Active", true⟩
      else none := by
  induction turns with
  | nil => rfl
  | cons turn turns inductionHypothesis =>
      have others := fun other member =>
        allQuiet other (List.mem_cons_of_mem turn member)
      have first := allQuiet turn (by simp)
      cases turn with
      | leave => simpa [take] using inductionHypothesis others
      | stand => simp [take, takeAll_quiet_some others]
      | upsert fields => cases first
      | delete => cases first

/-- Quiet turns change nothing the second time. -/
theorem takeAll_quiet_twice
    (allQuiet : ∀ turn ∈ turns, turn.quiet = true)
    (seen : Option SeenProject) :
    takeAll tenantId id turns (takeAll tenantId id turns seen) =
      takeAll tenantId id turns seen := by
  cases seen with
  | none =>
      rw [takeAll_quiet_none allQuiet]
      split
      · exact takeAll_quiet_some allQuiet _
      · rename_i noStub
        rw [takeAll_quiet_none allQuiet, if_neg noStub]
  | some seen =>
      rw [takeAll_quiet_some allQuiet, takeAll_quiet_some allQuiet]

section OneTurn

variable {before after : List ProjectTurn} {seen : Option SeenProject}
  (quietBefore : ∀ turn ∈ before, turn.quiet = true)
  (quietAfter : ∀ turn ∈ after, turn.quiet = true)

include quietBefore quietAfter

/-- An upsert among quiet turns changes nothing the second time. -/
theorem takeAll_upsert_twice (fields : ProjectFields) :
    takeAll tenantId id (before ++ .upsert fields :: after)
        (takeAll tenantId id (before ++ .upsert fields :: after) seen) =
      takeAll tenantId id (before ++ .upsert fields :: after) seen := by
  have lands (start : Option SeenProject) : ∃ left,
      takeAll tenantId id (before ++ .upsert fields :: after) start =
        some left ∧ (ProjectTurn.upsert fields).take tenantId id (some left) =
          some left := by
    cases reached : takeAll tenantId id before start with
    | none =>
        refine ⟨⟨tenantId, fields.name, fields.description, fields.status,
          true⟩, ?_, by simp [take]⟩
        simp [reached, take, takeAll_quiet_some quietAfter]
    | some middle =>
        by_cases own : middle.tenantId = tenantId
        · refine ⟨⟨tenantId, fields.name, fields.description, fields.status,
            true⟩, ?_, by simp [take]⟩
          simp [reached, take, own, takeAll_quiet_some quietAfter]
        · refine ⟨middle, ?_, by simp [take, own]⟩
          simp [reached, take, own, takeAll_quiet_some quietAfter]
  obtain ⟨left, isLeft, stays⟩ := lands seen
  rw [isLeft, takeAll_append, takeAll_quiet_some quietBefore, takeAll_cons,
    stays, takeAll_quiet_some quietAfter]

/-- A deletion among quiet turns changes something the second time exactly if
only a turn after it makes a stub. -/
theorem takeAll_delete_twice_iff :
    takeAll tenantId id (before ++ .delete :: after)
        (takeAll tenantId id (before ++ .delete :: after) seen) =
      takeAll tenantId id (before ++ .delete :: after) seen ↔
    ¬ (seen = none ∧ .stand ∉ before ∧ .stand ∈ after) := by
  cases seen with
  | some seen =>
      by_cases own : seen.tenantId = tenantId
      · simp [takeAll_quiet_some quietBefore, takeAll_quiet_some quietAfter,
          take, own]
      · simp [takeAll_quiet_some quietBefore, takeAll_quiet_some quietAfter,
          take, own]
  | none =>
      by_cases standsBefore : .stand ∈ before
      · simp [takeAll_quiet_none quietBefore, takeAll_quiet_some quietBefore,
          takeAll_quiet_some quietAfter, take, standsBefore]
      · by_cases standsAfter : .stand ∈ after
        · simp [takeAll_quiet_none quietBefore, takeAll_quiet_none quietAfter,
            takeAll_quiet_some quietBefore, takeAll_quiet_some quietAfter, take,
            standsBefore, standsAfter]
        · simp [takeAll_quiet_none quietBefore, takeAll_quiet_none quietAfter,
            take, standsBefore, standsAfter]

end OneTurn

end ProjectTurn

namespace TaskTurn

variable {tenantId : String}

/-- A turn at a task changes nothing the second time. -/
theorem take_take (turn : TaskTurn) (seen : Option SeenTask) :
    turn.take tenantId (turn.take tenantId seen) = turn.take tenantId seen := by
  cases seen with
  | none => cases turn <;> simp [take]
  | some seen =>
      by_cases own : seen.tenantId = tenantId
      · cases turn <;> simp [take, own]
      · cases turn <;> simp [take, own]

end TaskTurn

/-! ## The turns of a batch -/

/-- A mutation makes a stub of a project that is missing. -/
def SyncMutation.StandsIn (m : SyncMutation) (id : String) : Prop :=
  m.table = .task ∧ m.op = .upsert ∧ m.parent = some id

/-- At most one mutation for each row. -/
def Coalesced (batch : List SyncMutation) : Prop :=
  (batch.map fun m => (m.table, m.id)).Nodup

/-- A project that does not exist is deleted before the first task of the batch
that makes a stub of it. -/
def DeletedBeforeStub (db : Db) (batch : List SyncMutation) : Prop :=
  ∃ before d after, batch = before ++ d :: after ∧
    d.table = .project ∧ d.op = .delete ∧
    db.projects.find? d.id = none ∧
    (∀ m ∈ before, ¬ m.StandsIn d.id) ∧ ∃ m ∈ after, m.StandsIn d.id

section Turns

variable {m : SyncMutation} {id : String}

theorem projectTurn_eq_stand_iff :
    m.projectTurn id = .stand ↔ m.StandsIn id := by
  unfold SyncMutation.projectTurn SyncMutation.StandsIn
  cases m.table <;> cases m.op
  · by_cases goes : m.id = id ∧ invalidProjectUpsert m = false
    · cases m.projectFields <;> simp [goes]
    · simp [goes]
  · by_cases here : m.id = id <;> simp [here]
  · by_cases needs : m.parent = some id <;> simp [needs]
  · simp

theorem projectTurn_quiet
    (otherRow : ¬ (m.table = .project ∧ m.id = id)) :
    (m.projectTurn id).quiet = true := by
  unfold SyncMutation.projectTurn
  cases table : m.table <;> cases m.op
  · have elsewhere : m.id ≠ id := fun here => otherRow ⟨table, here⟩
    simp [elsewhere, ProjectTurn.quiet]
  · have elsewhere : m.id ≠ id := fun here => otherRow ⟨table, here⟩
    simp [elsewhere, ProjectTurn.quiet]
  · by_cases needs : m.parent = some id <;> simp [needs, ProjectTurn.quiet]
  · rfl

theorem taskTurn_eq_leave
    {foreign : String → Bool}
    (otherRow : ¬ (m.table = .task ∧ m.id = id)) :
    m.taskTurn foreign id = .leave := by
  unfold SyncMutation.taskTurn
  cases table : m.table <;> cases m.op
  · rfl
  · rfl
  · have elsewhere : m.id ≠ id := fun here => otherRow ⟨table, here⟩
    simp [elsewhere]
  · have elsewhere : m.id ≠ id := fun here => otherRow ⟨table, here⟩
    simp [elsewhere]

/-- A turn at a project that is not quiet is that of an upsert or of a deletion
of the project. -/
theorem projectTurn_cases (m : SyncMutation) (id : String) :
    (m.projectTurn id).quiet = true ∨
      (∃ fields, m.projectTurn id = .upsert fields) ∨
      m.projectTurn id = .delete ∧ m.table = .project ∧ m.op = .delete ∧
        m.id = id := by
  unfold SyncMutation.projectTurn
  cases m.table <;> cases m.op
  · by_cases goes : m.id = id ∧ invalidProjectUpsert m = false
    · cases m.projectFields <;> simp [goes, ProjectTurn.quiet]
    · simp [goes, ProjectTurn.quiet]
  · by_cases here : m.id = id <;> simp [here, ProjectTurn.quiet]
  · by_cases needs : m.parent = some id <;> simp [needs, ProjectTurn.quiet]
  · exact Or.inl rfl

variable {before after : List SyncMutation}

/-- Around a mutation of a row a coalesced batch has only mutations of other
rows. -/
theorem Coalesced.otherRows
    (coalesced : Coalesced (before ++ m :: after))
    {other : SyncMutation}
    (member : other ∈ before ∨ other ∈ after) :
    ¬ (other.table = m.table ∧ other.id = m.id) := by
  rintro ⟨sameTable, sameId⟩
  rw [Coalesced, List.map_append, List.map_cons, List.nodup_middle,
    List.nodup_cons, ← List.map_append] at coalesced
  exact coalesced.1 (List.mem_map.mpr
    ⟨other, List.mem_append.mpr member, Prod.ext sameTable sameId⟩)

/-- The turns of a coalesced batch at a task are at most one turn. -/
theorem Coalesced.taskTurns
    {batch : List SyncMutation}
    (coalesced : Coalesced batch)
    (tenantId : String)
    (foreign : String → Bool)
    (id : String) :
    ∃ turn : TaskTurn, ∀ seen,
      TaskTurn.takeAll tenantId (batch.map fun m => m.taskTurn foreign id)
        seen = turn.take tenantId seen := by
  have passes (others : List SyncMutation)
      (elsewhere : ∀ m ∈ others, ¬ (m.table = .task ∧ m.id = id))
      (seen : Option SeenTask) :
      TaskTurn.takeAll tenantId (others.map fun m => m.taskTurn foreign id)
        seen = seen := by
    induction others with
    | nil => rfl
    | cons m others inductionHypothesis =>
        rw [List.map_cons, TaskTurn.takeAll_cons,
          taskTurn_eq_leave (elsewhere m (by simp))]
        exact inductionHypothesis fun other member =>
          elsewhere other (List.mem_cons_of_mem m member)
  by_cases touched : ∃ m ∈ batch, m.table = .task ∧ m.id = id
  · obtain ⟨m, present, isTask, isRow⟩ := touched
    obtain ⟨before, after, rfl⟩ := List.append_of_mem present
    refine ⟨m.taskTurn foreign id, fun seen => ?_⟩
    have elsewhere {other : SyncMutation}
        (member : other ∈ before ∨ other ∈ after) :
        ¬ (other.table = .task ∧ other.id = id) :=
      fun same => coalesced.otherRows member
        ⟨same.1.trans isTask.symm, same.2.trans isRow.symm⟩
    rw [List.map_append, List.map_cons, TaskTurn.takeAll_append,
      passes before (fun _ member => elsewhere (Or.inl member)),
      TaskTurn.takeAll_cons,
      passes after (fun _ member => elsewhere (Or.inr member))]
  · refine ⟨.leave, fun seen => passes batch (fun m present same => ?_) seen⟩
    exact touched ⟨m, present, same⟩

/-- At a project a coalesced batch changes nothing the second time, unless the
project is deleted before a stub is made of it. -/
theorem Coalesced.projectTurns_twice_iff
    {batch : List SyncMutation}
    (coalesced : Coalesced batch)
    (tenantId : String)
    {id : String}
    {turns : List ProjectTurn}
    (areTurns : turns = batch.map fun m => m.projectTurn id)
    (seen : Option SeenProject) :
    ProjectTurn.takeAll tenantId id turns
        (ProjectTurn.takeAll tenantId id turns seen) =
      ProjectTurn.takeAll tenantId id turns seen ↔
    ¬ ∃ before d after, batch = before ++ d :: after ∧
      d.table = .project ∧ d.op = .delete ∧ d.id = id ∧ seen = none ∧
      (∀ m ∈ before, ¬ m.StandsIn id) ∧ ∃ m ∈ after, m.StandsIn id := by
  have quietElsewhere (others : List SyncMutation)
      (elsewhere : ∀ m ∈ others, ¬ (m.table = .project ∧ m.id = id)) :
      ∀ turn ∈ others.map fun m => m.projectTurn id, turn.quiet = true := by
    intro turn member
    obtain ⟨m, present, rfl⟩ := List.mem_map.mp member
    exact projectTurn_quiet (elsewhere m present)
  by_cases touched : ∃ m ∈ batch, m.table = .project ∧ m.id = id
  · obtain ⟨m, present, isProject, isRow⟩ := touched
    obtain ⟨before, after, rfl⟩ := List.append_of_mem present
    have elsewhere {other : SyncMutation}
        (member : other ∈ before ∨ other ∈ after) :
        ¬ (other.table = .project ∧ other.id = id) :=
      fun same => coalesced.otherRows member
        ⟨same.1.trans isProject.symm, same.2.trans isRow.symm⟩
    have quietBefore := quietElsewhere before
      fun _ member => elsewhere (Or.inl member)
    have quietAfter := quietElsewhere after
      fun _ member => elsewhere (Or.inr member)
    have turnsAre : turns = before.map (fun m => m.projectTurn id) ++
        m.projectTurn id :: after.map fun m => m.projectTurn id := by
      simp [areTurns]
    -- A deletion of the row is this mutation, where it stands.
    have onlyOne {first rest : List SyncMutation} {d : SyncMutation}
        (split : before ++ m :: after = first ++ d :: rest)
        (dProject : d.table = .project) (dRow : d.id = id) :
        before = first ∧ m = d ∧ after = rest :=
      (List.append_cons_inj_of_notMem
        (fun member => elsewhere (Or.inl member) ⟨dProject, dRow⟩)
        (fun member => elsewhere (Or.inr member) ⟨dProject, dRow⟩)).mp split
    rcases projectTurn_cases m id with isQuiet | ⟨fields, isUpsert⟩ |
      ⟨isDelete, -, isOp, -⟩
    · refine iff_of_true (ProjectTurn.takeAll_quiet_twice ?_ seen) ?_
      · intro turn member
        rw [turnsAre] at member
        rcases List.mem_append.mp member with inBefore | inRest
        · exact quietBefore turn inBefore
        · rcases List.mem_cons.mp inRest with rfl | inAfter
          · exact isQuiet
          · exact quietAfter turn inAfter
      · rintro ⟨first, d, rest, split, dProject, dOp, dRow, -⟩
        obtain ⟨-, rfl, -⟩ := onlyOne split dProject dRow
        simp [SyncMutation.projectTurn, dProject, dOp, dRow,
          ProjectTurn.quiet] at isQuiet
    · rw [turnsAre, isUpsert]
      refine iff_of_true
        (ProjectTurn.takeAll_upsert_twice quietBefore quietAfter fields) ?_
      rintro ⟨first, d, rest, split, dProject, dOp, dRow, -⟩
      obtain ⟨-, rfl, -⟩ := onlyOne split dProject dRow
      simp [SyncMutation.projectTurn, dProject, dOp, dRow] at isUpsert
    · have standsIn (others : List SyncMutation) :
          ProjectTurn.stand ∈ others.map (fun m => m.projectTurn id) ↔
            ∃ m ∈ others, m.StandsIn id := by
        simp only [List.mem_map, projectTurn_eq_stand_iff]
      rw [turnsAre, isDelete,
        ProjectTurn.takeAll_delete_twice_iff quietBefore quietAfter,
        standsIn, standsIn, not_iff_not]
      constructor
      · rintro ⟨missing, noneBefore, someAfter⟩
        exact ⟨before, m, after, rfl, isProject, isOp, isRow, missing,
          fun other member stands => noneBefore ⟨other, member, stands⟩,
          someAfter⟩
      · rintro ⟨first, d, rest, split, dProject, dOp, dRow, missing,
          noneBefore, someAfter⟩
        obtain ⟨rfl, -, rfl⟩ := onlyOne split dProject dRow
        refine ⟨missing, ?_, someAfter⟩
        rintro ⟨other, member, stands⟩
        exact noneBefore other member stands
  · rw [areTurns]
    refine iff_of_true (ProjectTurn.takeAll_quiet_twice
      (quietElsewhere batch fun m present same => touched ⟨m, present, same⟩)
      seen) ?_
    rintro ⟨first, d, rest, rfl, dProject, -, dRow, -⟩
    exact touched ⟨d, by simp, dProject, dRow⟩

end Turns

/-! ## The whole batch -/

/-- The batch is answered as before, and clients see what they saw. -/
structure SameOutcome (once twice : BatchState) : Prop where
  applied : twice.applied = once.applied
  rejected : twice.rejected = once.rejected
  seen : SameSeen twice.db once.db

/-- A coalesced batch that is applied again is answered as before and leaves
what it left, if and only if it does not delete a project that did not exist
before the first of its tasks that makes a stub of it. -/
theorem retry_sameOutcome_iff
    {first second : Engine}
    {tenantId : String}
    {db : Db}
    {batch : List SyncMutation}
    {once twice : BatchState}
    (coalesced : Coalesced batch)
    (pushed : Pushed first tenantId batch db once)
    (again : Pushed second tenantId batch once.db twice) :
    SameOutcome once twice ↔ ¬ DeletedBeforeStub db batch := by
  have turns := pushed.takesTurns
  have turnsAgain := again.takesTurns
  have sameAnswers : twice.applied = once.applied ∧
      twice.rejected = once.rejected := by
    rw [turnsAgain.applied, turnsAgain.rejected, turns.applied, turns.rejected]
    simp only [BatchState.begin, turns.foreignProjects, turns.foreignTasks,
      and_self]
  have sameTasks (id : String) :
      twice.db.seenTask id = once.db.seenTask id := by
    obtain ⟨turn, takesOne⟩ := coalesced.taskTurns tenantId
      (db.foreignProjects tenantId) id
    rw [turnsAgain.task, turns.task]
    simp only [BatchState.begin, turns.foreignProjects]
    rw [takesOne, turns.task]
    simp only [BatchState.begin]
    rw [takesOne, TaskTurn.take_take]
  have sameProject (id : String) :
      twice.db.seenProject id = once.db.seenProject id ↔
        ¬ ∃ before d after, batch = before ++ d :: after ∧
          d.table = .project ∧ d.op = .delete ∧ d.id = id ∧
          db.seenProject id = none ∧ (∀ m ∈ before, ¬ m.StandsIn id) ∧
          ∃ m ∈ after, m.StandsIn id := by
    rw [turnsAgain.project]
    simp only [BatchState.begin]
    rw [turns.project]
    exact coalesced.projectTurns_twice_iff tenantId rfl (db.seenProject id)
  constructor
  · rintro same ⟨before, d, after, split, isProject, isOp, missing, noneBefore,
      someAfter⟩
    refine (sameProject d.id).mp (same.seen.project d.id) ⟨before, d, after,
      split, isProject, isOp, rfl, ?_, noneBefore, someAfter⟩
    simp [Db.seenProject, missing]
  · intro kept
    refine ⟨sameAnswers.1, sameAnswers.2, ⟨fun id => ?_, sameTasks⟩⟩
    refine (sameProject id).mpr ?_
    rintro ⟨before, d, after, split, isProject, isOp, rfl, missing, noneBefore,
      someAfter⟩
    exact kept ⟨before, d, after, split, isProject, isOp,
      by simpa [Db.seenProject] using missing, noneBefore, someAfter⟩

/-- A task is renamed and its project is deleted, in one batch. -/
def renameThenDelete : List SyncMutation :=
  [⟨3, .task, .upsert, "prj_1::0", some (TaskData.payload
      { projectId := "prj_1", title := "Buy bread", done := false })⟩,
    ⟨4, .project, .delete, "prj_1", none⟩]

theorem retry_sameOutcome_renameThenDelete :
    ∃ once twice,
      Pushed (Engine.obliging 0) "tenant-a" renameThenDelete Db.initial once ∧
      Pushed (Engine.obliging 1) "tenant-a" renameThenDelete once.db twice ∧
      (SameOutcome once twice ↔
        ¬ DeletedBeforeStub Db.initial renameThenDelete) := by
  have coalesced : Coalesced renameThenDelete := by
    simp [Coalesced, renameThenDelete]
  have pushed : Pushed (Engine.obliging 0) "tenant-a" renameThenDelete
      Db.initial _ :=
    pushed_settleBatch (by decide +kernel)
  exact ⟨_, _, pushed, pushed_settleBatch (by decide +kernel),
    retry_sameOutcome_iff coalesced pushed
      (pushed_settleBatch (by decide +kernel))⟩

/-- A project that was never pushed is deleted, and a task is added to it
through a view that still shows it. -/
def deleteThenAdd : List SyncMutation :=
  [⟨2, .project, .delete, "prj_1", none⟩,
    ⟨3, .task, .upsert, "prj_1::0", some (TaskData.payload
      { projectId := "prj_1", title := "Buy milk", done := false })⟩]

/-- The first time the project comes into being after its deletion, the second
time it is deleted. -/
theorem retry_deletesStub :
    ∃ once twice, Coalesced deleteThenAdd ∧
      Pushed (Engine.obliging 0) "tenant-a" deleteThenAdd Db.initial once ∧
      Pushed (Engine.obliging 1) "tenant-a" deleteThenAdd once.db twice ∧
      once.db.seenProject "prj_1" =
        some ⟨"tenant-a", "prj_1", none, "Active", true⟩ ∧
      twice.db.seenProject "prj_1" =
        some ⟨"tenant-a", "prj_1", none, "Active", false⟩ ∧
      ¬ SameOutcome once twice := by
  refine ⟨_, _, by simp [Coalesced, deleteThenAdd],
    pushed_settleBatch (by decide +kernel),
    pushed_settleBatch (by decide +kernel), by decide +kernel,
    by decide +kernel, ?_⟩
  intro same
  exact absurd (same.seen.project "prj_1") (by decide +kernel)

end Sync
end EvoPlatform
