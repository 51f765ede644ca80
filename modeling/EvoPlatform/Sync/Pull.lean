import EvoPlatform.Sync.Isolation

/-!
# Gap-free pulls

The two tables share one cursor and are cut off independently.  A page may cut
off either table, and then the cursor stops at the last row of that table, so
nothing between two pages is skipped.  Between the pages other requests rewrite
rows, which moves these to versions above every cursor handed out so far.
-/

namespace EvoPlatform
namespace Sync

/-! ## One page -/

section Page

variable {db : Db} {tenantId : String} {cursor limit : Nat}

/-- Neither maximum falls behind the cursor. -/
theorem cursor_le_maxPrj :
    cursor ≤ lastVersion Project.rowVersion
      (db.projectPage tenantId cursor limit) cursor :=
  cursor_le_lastVersion _ _ _

theorem cursor_le_maxTsk :
    cursor ≤ lastVersion Task.rowVersion
      (db.taskPage tenantId cursor limit) cursor :=
  cursor_le_lastVersion _ _ _

/-- The returned cursor is one of the two maxima. -/
theorem cursor_pullChanges
    (db : Db) (tenantId : String) (cursor limit : Nat) :
    (pullChanges db tenantId cursor limit).cursor =
        lastVersion Project.rowVersion
          (db.projectPage tenantId cursor limit) cursor ∨
      (pullChanges db tenantId cursor limit).cursor =
        lastVersion Task.rowVersion
          (db.taskPage tenantId cursor limit) cursor := by
  have projectsAhead : cursor ≤ lastVersion Project.rowVersion
    (db.projectPage tenantId cursor limit) cursor := cursor_le_maxPrj
  have tasksAhead : cursor ≤ lastVersion Task.rowVersion
    (db.taskPage tenantId cursor limit) cursor := cursor_le_maxTsk
  simp only [pullChanges]
  split_ifs <;> omega

/-- A cut-off project page caps the cursor. -/
theorem cursor_pullChanges_le_maxPrj
    (prjTruncated : (db.projectPage tenantId cursor limit).length = limit) :
    (pullChanges db tenantId cursor limit).cursor ≤
      lastVersion Project.rowVersion
        (db.projectPage tenantId cursor limit) cursor := by
  have projectsAhead : cursor ≤ lastVersion Project.rowVersion
    (db.projectPage tenantId cursor limit) cursor := cursor_le_maxPrj
  simp only [pullChanges, prjTruncated, true_or, decide_true, not_true,
    if_false, true_and]
  split_ifs <;> omega

/-- A cut-off task page caps the cursor. -/
theorem cursor_pullChanges_le_maxTsk
    (tskTruncated : (db.taskPage tenantId cursor limit).length = limit) :
    (pullChanges db tenantId cursor limit).cursor ≤
      lastVersion Task.rowVersion
        (db.taskPage tenantId cursor limit) cursor := by
  have tasksAhead : cursor ≤ lastVersion Task.rowVersion
    (db.taskPage tenantId cursor limit) cursor := cursor_le_maxTsk
  simp only [pullChanges, tskTruncated, or_true, decide_true, not_true,
    if_false, and_true]
  split_ifs <;> omega

theorem hasMore_pullChanges :
    (pullChanges db tenantId cursor limit).hasMore = true ↔
      (db.projectPage tenantId cursor limit).length = limit ∨
        (db.taskPage tenantId cursor limit).length = limit := by
  simp [pullChanges]

/-- The returned cursor never falls behind. -/
theorem cursor_le_cursor_pullChanges :
    cursor ≤ (pullChanges db tenantId cursor limit).cursor := by
  rcases cursor_pullChanges db tenantId cursor limit with equal | equal <;>
    rw [equal]
  · exact cursor_le_maxPrj
  · exact cursor_le_maxTsk

/-- The returned cursor is the given one or has been drawn from the
sequence. -/
theorem cursor_pullChanges_eq_or_le
    (db : Db) (tenantId : String) (cursor limit : Nat) :
    (pullChanges db tenantId cursor limit).cursor = cursor ∨
      (pullChanges db tenantId cursor limit).cursor ≤ db.seq := by
  rcases cursor_pullChanges db tenantId cursor limit with equal | equal <;>
    rw [equal]
  · rcases lastVersion_eq_or_mem Project.rowVersion _ cursor limit with
      same | ⟨project, present, reached⟩
    · exact Or.inl same
    · refine Or.inr (reached.le.trans ?_)
      exact db.projectsStamped.le project (List.mem_filter.mp present).1
  · rcases lastVersion_eq_or_mem Task.rowVersion _ cursor limit with
      same | ⟨task, present, reached⟩
    · exact Or.inl same
    · refine Or.inr (reached.le.trans ?_)
      exact db.tasksStamped.le task (List.mem_filter.mp present).1

/-- A page with more to come moves the cursor. -/
theorem cursor_lt_cursor_pullChanges
    (limitPositive : 0 < limit)
    (hasMore : (pullChanges db tenantId cursor limit).hasMore = true) :
    cursor < (pullChanges db tenantId cursor limit).cursor := by
  have projectsAhead : cursor ≤ lastVersion Project.rowVersion
    (db.projectPage tenantId cursor limit) cursor := cursor_le_maxPrj
  have projectsMove : (db.projectPage tenantId cursor limit).length = limit →
      cursor < lastVersion Project.rowVersion
        (db.projectPage tenantId cursor limit) cursor :=
    fun full => cursor_lt_lastVersion (full.symm ▸ limitPositive)
  have tasksMove : (db.taskPage tenantId cursor limit).length = limit →
      cursor < lastVersion Task.rowVersion
        (db.taskPage tenantId cursor limit) cursor :=
    fun full => cursor_lt_lastVersion (full.symm ▸ limitPositive)
  rw [hasMore_pullChanges] at hasMore
  simp only [pullChanges, hasMore, decide_true, not_true, if_false]
  split_ifs <;> omega

/-- Every own project between the two cursors is on the page. -/
theorem mem_projects_pullChanges
    {project : Project}
    (present : project ∈ db.projects.rows)
    (own : project.tenantId = tenantId)
    (above : cursor < project.rowVersion)
    (upTo : project.rowVersion ≤
      (pullChanges db tenantId cursor limit).cursor) :
    project.wire ∈ (pullChanges db tenantId cursor limit).projects := by
  refine List.mem_map.mpr ⟨project, ?_, rfl⟩
  refine mem_pageAbove_of_le_bound ?_ cursor_pullChanges_le_maxPrj ?_ above upTo
  · intro left leftPresent right rightPresent
    exact db.projectsStamped.injective left (List.mem_filter.mp leftPresent).1
      right (List.mem_filter.mp rightPresent).1
  · simpa using ⟨present, own⟩

/-- Every own task between the two cursors is on the page. -/
theorem mem_tasks_pullChanges
    {task : Task}
    (present : task ∈ db.tasks.rows)
    (own : task.tenantId = tenantId)
    (above : cursor < task.rowVersion)
    (upTo : task.rowVersion ≤
      (pullChanges db tenantId cursor limit).cursor) :
    task.wire ∈ (pullChanges db tenantId cursor limit).tasks := by
  refine List.mem_map.mpr ⟨task, ?_, rfl⟩
  refine mem_pageAbove_of_le_bound ?_ cursor_pullChanges_le_maxTsk ?_ above upTo
  · intro left leftPresent right rightPresent
    exact db.tasksStamped.injective left (List.mem_filter.mp leftPresent).1
      right (List.mem_filter.mp rightPresent).1
  · simpa using ⟨present, own⟩

/-- A last page is cut off in neither table, and moves the cursor past both. -/
theorem cursor_pullChanges_of_last
    (last : (pullChanges db tenantId cursor limit).hasMore = false) :
    lastVersion Project.rowVersion
        (db.projectPage tenantId cursor limit) cursor ≤
      (pullChanges db tenantId cursor limit).cursor ∧
    lastVersion Task.rowVersion
        (db.taskPage tenantId cursor limit) cursor ≤
      (pullChanges db tenantId cursor limit).cursor := by
  simp only [pullChanges, decide_eq_false_iff_not] at last ⊢
  simp only [last, decide_false, Bool.false_eq_true, not_false_eq_true, if_true]
  split_ifs <;> omega

/-- A last page moves the cursor past every own project. -/
theorem project_le_cursor_of_last
    (last : (pullChanges db tenantId cursor limit).hasMore = false)
    {project : Project}
    (present : project ∈ db.projects.rows)
    (own : project.tenantId = tenantId)
    (above : cursor < project.rowVersion) :
    project.rowVersion ≤ (pullChanges db tenantId cursor limit).cursor := by
  have notFull : (db.projectPage tenantId cursor limit).length ≠ limit := by
    intro full
    rw [hasMore_pullChanges.mpr (Or.inl full)] at last
    contradiction
  have onPage : project ∈ db.projectPage tenantId cursor limit :=
    mem_pageAbove_of_not_full notFull (by simpa using ⟨present, own⟩) above
  exact (version_le_lastVersion onPage).trans
    (cursor_pullChanges_of_last last).1

/-- A last page moves the cursor past every own task. -/
theorem task_le_cursor_of_last
    (last : (pullChanges db tenantId cursor limit).hasMore = false)
    {task : Task}
    (present : task ∈ db.tasks.rows)
    (own : task.tenantId = tenantId)
    (above : cursor < task.rowVersion) :
    task.rowVersion ≤ (pullChanges db tenantId cursor limit).cursor := by
  have notFull : (db.taskPage tenantId cursor limit).length ≠ limit := by
    intro full
    rw [hasMore_pullChanges.mpr (Or.inr full)] at last
    contradiction
  have onPage : task ∈ db.taskPage tenantId cursor limit :=
    mem_pageAbove_of_not_full notFull (by simpa using ⟨present, own⟩) above
  exact (version_le_lastVersion onPage).trans
    (cursor_pullChanges_of_last last).2

end Page

/-! ## Writes between two pages -/

/-- A later state of the database: whatever was rewritten since has a version
that the sequence had not reached. -/
structure Later (before after : Db) : Prop where
  seq_le : before.seq ≤ after.seq
  projects : ∀ project ∈ after.projects.rows,
    project.rowVersion ≤ before.seq → project ∈ before.projects.rows
  tasks : ∀ task ∈ after.tasks.rows,
    task.rowVersion ≤ before.seq → task ∈ before.tasks.rows

theorem Later.refl (db : Db) : Later db db :=
  ⟨le_rfl, fun _ present _ => present, fun _ present _ => present⟩

theorem Later.trans
    {first second third : Db}
    (left : Later first second)
    (right : Later second third) :
    Later first third where
  seq_le := left.seq_le.trans right.seq_le
  projects := by
    intro project present old
    exact left.projects project
      (right.projects project present (old.trans left.seq_le)) old
  tasks := by
    intro task present old
    exact left.tasks task
      (right.tasks task present (old.trans left.seq_le)) old

/-- A write stamps its row above everything before it. -/
theorem OwnWrite.later
    {clock : Nat → Nat} {tenantId : String} {db written : Db}
    (write : OwnWrite clock tenantId db written) :
    Later db written := by
  cases write with
  | project project own storedOwn =>
      refine ⟨Nat.le_succ _, ?_, fun _ present _ => present⟩
      intro other present old
      rw [Db.putProject, Table.mem_put_iff] at present
      obtain rfl | ⟨stored, _⟩ := present
      · exact absurd old (Nat.not_succ_le_self _)
      · exact stored
  | task task parent own storedOwn placed =>
      refine ⟨Nat.le_succ _, fun _ present _ => present, ?_⟩
      intro other present old
      rw [Db.putTask, Table.mem_put_iff] at present
      obtain rfl | ⟨stored, _⟩ := present
      · exact absurd old (Nat.not_succ_le_self _)
      · exact stored

theorem OwnWrites.later
    {clock : Nat → Nat} {tenantId : String} {db written : Db}
    (writes : OwnWrites clock tenantId db written) :
    Later db written := by
  induction writes with
  | refl => exact .refl db
  | tail _ write inductionHypothesis =>
      exact inductionHypothesis.trans write.later

/-! ## A pull in several pages -/

/-- What can happen while a client of the tenant pulls. -/
inductive PullEvent
  /-- A sync request of any client of any tenant. -/
  | request (arrival : Arrival)
  /-- The next page. -/
  | page (limit : Nat)

/-- A pull under way. -/
structure PullSession where
  db : Db
  cursor : Nat
  pages : List PullResult

/-- The next page is read from the current database at the cursor of the page
before. -/
def PullSession.step (tenantId : String) (session : PullSession) :
    PullEvent → Option PullSession
  | .request arrival =>
      (serve session.db arrival).map fun db => { session with db := db }
  | .page limit =>
      let pulled := pullChanges session.db tenantId session.cursor limit
      if 0 < limit then
        some { session with
          cursor := pulled.cursor
          pages := session.pages ++ [pulled] }
      else none

/-- Everything between the first cursor and the current one has been delivered
as it stands now. -/
structure Delivered (tenantId : String) (first : Nat)
    (session : PullSession) : Prop where
  /-- The cursor is the first one until it has been drawn from the sequence. -/
  cursor : session.cursor = first ∨ session.cursor ≤ session.db.seq
  projects : ∀ project ∈ session.db.projects.rows,
    project.tenantId = tenantId → first < project.rowVersion →
      project.rowVersion ≤ session.cursor →
        ∃ pulled ∈ session.pages, project.wire ∈ pulled.projects
  tasks : ∀ task ∈ session.db.tasks.rows,
    task.tenantId = tenantId → first < task.rowVersion →
      task.rowVersion ≤ session.cursor →
        ∃ pulled ∈ session.pages, task.wire ∈ pulled.tasks

/-- A row that another request rewrites leaves the delivered range. -/
theorem Delivered.later
    {tenantId : String} {first : Nat} {session : PullSession} {db : Db}
    (delivered : Delivered tenantId first session)
    (later : Later session.db db) :
    Delivered tenantId first { session with db := db } := by
  refine ⟨?_, ?_, ?_⟩
  · exact delivered.cursor.imp_right fun le => le.trans later.seq_le
  · intro project present own above upTo
    refine delivered.projects project ?_ own above upTo
    apply later.projects project present
    rcases delivered.cursor with same | le
    · change project.rowVersion ≤ session.cursor at upTo
      omega
    · exact upTo.trans le
  · intro task present own above upTo
    refine delivered.tasks task ?_ own above upTo
    apply later.tasks task present
    rcases delivered.cursor with same | le
    · change task.rowVersion ≤ session.cursor at upTo
      omega
    · exact upTo.trans le

/-- A page extends the delivered range to its cursor. -/
theorem Delivered.page
    {tenantId : String} {first : Nat} {session : PullSession}
    (delivered : Delivered tenantId first session)
    (limit : Nat) :
    Delivered tenantId first
      { session with
        cursor :=
          (pullChanges session.db tenantId session.cursor limit).cursor
        pages := session.pages ++
          [pullChanges session.db tenantId session.cursor limit] } := by
  refine ⟨?_, ?_, ?_⟩
  · rcases cursor_pullChanges_eq_or_le session.db tenantId
      session.cursor limit with same | le
    · rw [same]
      exact delivered.cursor
    · exact Or.inr le
  · intro project present own above upTo
    rcases Nat.lt_or_ge session.cursor project.rowVersion with new | old
    · exact ⟨_, by simp, mem_projects_pullChanges present own new upTo⟩
    · obtain ⟨pulled, member, found⟩ :=
        delivered.projects project present own above old
      exact ⟨pulled, by simp [member], found⟩
  · intro task present own above upTo
    rcases Nat.lt_or_ge session.cursor task.rowVersion with new | old
    · exact ⟨_, by simp, mem_tasks_pullChanges present own new upTo⟩
    · obtain ⟨pulled, member, found⟩ :=
        delivered.tasks task present own above old
      exact ⟨pulled, by simp [member], found⟩

theorem delivered_of_run
    {tenantId : String} {first : Nat} {start : Db}
    {events : List PullEvent} {session : PullSession}
    (run : Run (PullSession.step tenantId) (fun _ _ => True)
      ⟨start, first, []⟩ events session) :
    Delivered tenantId first session := by
  refine run.invariant (Delivered tenantId first) ?_ ⟨Or.inl rfl, ?_, ?_⟩
  · intro session event next delivered _ stepped
    cases event with
    | request arrival =>
        simp only [PullSession.step, serve, Option.map_some,
          Option.some.injEq] at stepped
        exact stepped ▸ delivered.later (POST_ownWrites arrival.engine
          arrival.tenantId session.db arrival.request).later
    | page limit =>
        simp only [PullSession.step] at stepped
        split at stepped
        · simp only [Option.some.injEq] at stepped
          exact stepped ▸ delivered.page limit
        · contradiction
  · intro project _ _ above upTo
    exact absurd upTo (Nat.not_le.mpr above)
  · intro task _ _ above upTo
    exact absurd upTo (Nat.not_le.mpr above)

/-- A pull has no gap: whatever other requests do between its pages, the next
page is complete up to the cursor it returns, moves the cursor while there is
more, and when it is the last, every row above the first cursor has been
delivered as it now stands. -/
theorem pull_is_gap_free
    {tenantId : String} {first : Nat} {start : Db}
    {events : List PullEvent} {session : PullSession}
    (run : Run (PullSession.step tenantId) (fun _ _ => True)
      ⟨start, first, []⟩ events session)
    {limit : Nat}
    (limitPositive : 0 < limit) :
    let pulled := pullChanges session.db tenantId session.cursor limit
    (∀ project ∈ session.db.projects.rows, project.tenantId = tenantId →
      session.cursor < project.rowVersion →
        project.rowVersion ≤ pulled.cursor →
          project.wire ∈ pulled.projects) ∧
    (∀ task ∈ session.db.tasks.rows, task.tenantId = tenantId →
      session.cursor < task.rowVersion → task.rowVersion ≤ pulled.cursor →
        task.wire ∈ pulled.tasks) ∧
    (pulled.hasMore = true → session.cursor < pulled.cursor) ∧
    (pulled.hasMore = false →
      (∀ project ∈ session.db.projects.rows, project.tenantId = tenantId →
        first < project.rowVersion →
          ∃ page ∈ session.pages ++ [pulled], project.wire ∈ page.projects) ∧
      ∀ task ∈ session.db.tasks.rows, task.tenantId = tenantId →
        first < task.rowVersion →
          ∃ page ∈ session.pages ++ [pulled], task.wire ∈ page.tasks) := by
  intro pulled
  have delivered := delivered_of_run run
  refine ⟨fun project => mem_projects_pullChanges,
    fun task => mem_tasks_pullChanges,
    cursor_lt_cursor_pullChanges limitPositive, fun last => ⟨?_, ?_⟩⟩
  · intro project present own above
    rcases Nat.lt_or_ge session.cursor project.rowVersion with new | old
    · exact ⟨pulled, by simp, mem_projects_pullChanges present own new
          (project_le_cursor_of_last last present own new)⟩
    · obtain ⟨page, member, found⟩ :=
        delivered.projects project present own above old
      exact ⟨page, by simp [member], found⟩
  · intro task present own above
    rcases Nat.lt_or_ge session.cursor task.rowVersion with new | old
    · exact ⟨pulled, by simp, mem_tasks_pullChanges present own new
          (task_le_cursor_of_last last present own new)⟩
    · obtain ⟨page, member, found⟩ :=
        delivered.tasks task present own above old
      exact ⟨page, by simp [member], found⟩

/-- A pull in pages of one row, while another client pushes again. -/
theorem pull_is_gap_free_rewritten :
    ∃ session : PullSession, session.pages.length = 1 ∧
      let pulled := pullChanges session.db "tenant-a" session.cursor 3
      pulled.hasMore = false ∧
      ∀ project ∈ session.db.projects.rows,
        project.tenantId = "tenant-a" → 0 < project.rowVersion →
          ∃ page ∈ session.pages ++ [pulled],
            project.wire ∈ page.projects := by
  have run : Run (PullSession.step "tenant-a") (fun _ _ => True)
      ⟨pushedDb, 0, []⟩
      [.page 1, .request ⟨Engine.obliging 1, "tenant-a", firstPush⟩] _ :=
    .cons trivial rfl (.cons trivial rfl (.nil _))
  have gapFree := pull_is_gap_free run (show 0 < 3 by decide)
  refine ⟨_, ?_, ?_, (gapFree.2.2.2 rfl).1⟩ <;> rfl

end Sync
end EvoPlatform
