import EvoPlatform.Sync.Shadows

/-!
# Convergence of projects

As long as nothing is rejected and no deletion of a project purges a queued write
of another one, a client with an empty outbox that has pulled to the head holds
exactly the live projects of its tenant.
-/

namespace EvoPlatform
namespace Sync

open Offline

/-! ## Served mutations of projects -/

section Served

variable {engine : Engine} {tenantId : String}

/-- An applied mutation of a project settles. -/
theorem mutate_settles_project
    {cursor : Nat} {m : SyncMutation} {db : Db}
    (upTo : cursor ≤ db.seq)
    (applied : (mutate engine tenantId m db).2 = .applied) :
    projectKind.Settles tenantId (mutate engine tenantId m db).1 cursor m := by
  have mutates := mutate_mutates engine tenantId m db
  rw [applied] at mutates
  generalize (mutate engine tenantId m db).1 = written at mutates ⊢
  intro table
  change m.table = .project at table
  change (written.ownProject tenantId m.id = none → m.op = .delete) ∧
    ∀ row, written.ownProject tenantId m.id = some row →
      row.rowVersion ≤ cursor →
        m.op = .delete ∧ row.wire.display = none
  cases mutates with
  | projectUpserted fields _ op columns own =>
      have found : (db.putProject engine.clock
          (db.upsertedProject m.id tenantId fields)).ownProject tenantId m.id =
            some { db.upsertedProject m.id tenantId fields with
              rowVersion := db.seq + 1
              updatedAt := engine.clock (db.seq + 1) } := by
        rw [Db.ownProject_eq_some_iff, Db.projects_find?_putProject,
          if_pos (upsertedProject_id m.id tenantId fields).symm]
        exact ⟨rfl, upsertedProject_tenantId own⟩
      rw [found]
      refine ⟨by simp, ?_⟩
      rintro _ ⟨⟩ old
      change db.seq + 1 ≤ cursor at old
      omega
  | projectDeleted stored _ op found own live =>
      have sameId : stored.id = m.id := db.projects.key_of_find? found
      have written : (db.putProject engine.clock { stored with
          deletedAt := some engine.now }).ownProject tenantId m.id =
            some { stored with
              deletedAt := some engine.now
              rowVersion := db.seq + 1
              updatedAt := engine.clock (db.seq + 1) } := by
        rw [Db.ownProject_eq_some_iff, Db.projects_find?_putProject,
          if_pos sameId.symm]
        exact ⟨rfl, own⟩
      rw [written]
      refine ⟨by simp, ?_⟩
      rintro _ ⟨⟩ old
      change db.seq + 1 ≤ cursor at old
      omega
  | projectGone _ op gone =>
      refine ⟨fun _ => op, fun row found _ => ⟨op, ?_⟩⟩
      obtain ⟨stored, _⟩ := (db.ownProject_eq_some_iff _ _ _).mp found
      have dead : row.wire.deletedAt.isSome = true := (gone row stored).2
      simp [ServerProject.display, dead]
  | taskUpserted projectId fields base parent isTask =>
      rw [table] at isTask
      contradiction
  | taskDeleted stored parent isTask =>
      rw [table] at isTask
      contradiction
  | taskGone isTask =>
      rw [table] at isTask
      contradiction

end Served

/-! ## Pulled projects -/

theorem projects_applyTask (db : TenantDatabase) (t : ServerTask) :
    (applyTask db t).projects = db.projects := by
  unfold applyTask
  split_ifs <;> rfl

theorem projects_foldl_applyTask
    (page : List ServerTask) (db : TenantDatabase) :
    (page.foldl applyTask db).projects = db.projects := by
  induction page generalizing db with
  | nil => rfl
  | cons t page inductionHypothesis =>
      rw [List.foldl_cons, inductionHypothesis, projects_applyTask]

/-- A pulled project is shown unless a queued write shadows it. -/
theorem find?_applyProject
    (db : TenantDatabase) (p : ServerProject) (id : String) :
    (applyProject db p).projects.find? id =
      if id = p.id ∧ db.outbox.hasPending .project id = false then p.display
      else db.projects.find? id := by
  unfold applyProject ServerProject.display
  cases pending : db.outbox.hasPending .project p.id with
  | true =>
      rw [if_pos rfl, if_neg]
      rintro ⟨rfl, free⟩
      rw [pending] at free
      contradiction
  | false =>
      rw [if_neg (by simp)]
      rcases eq_or_ne id p.id with rfl | different
      · split_ifs <;> simp_all
      · split_ifs <;> simp_all

/-- The rows of the local table of projects, by id. -/
def projectsOf (db : TenantDatabase) (id : String) : Option LocalProject :=
  db.projects.find? id

/-- Pulled projects are worked in. -/
theorem worksIn_projects
    (tenantId : String) (server : Db) (db : TenantDatabase)
    (data : SyncResponse) :
    Shadows.WorksIn projectKind tenantId server db data := by
  have only : ∀ id, projectKind.replica (applyChanges db data) id =
      projectsOf (data.projects.foldl applyProject db) id := by
    intro id
    change (applyChanges db data).projects.find? id = _
    rw [applyChanges, projects_foldl_applyTask]
    rfl
  have kept : ∀ (id : String) (waits : Bool) (state : TenantDatabase)
      (p : ServerProject), state.outbox.hasPending .project id = waits →
        (applyProject state p).outbox.hasPending .project id = waits := by
    intro id waits state p before
    rw [(sameMeta_applyProject state p).outbox]
    exact before
  have other : ∀ (id : String) (state : TenantDatabase) (p : ServerProject),
      p.id ≠ id → projectsOf (applyProject state p) id =
        projectsOf state id := by
    intro id state p different
    rw [projectsOf, find?_applyProject, if_neg (by simp [different.symm])]
    rfl
  refine ⟨?_, ?_, ?_⟩
  · intro id row free member keyed agreed
    rw [only]
    refine foldl_delivered projectsOf ServerProject.id ServerProject.display
      (kept id false) (fun state p _ => other id state p) ?_ data.projects
      (Bool.not_eq_true _ ▸ free) ?_ (Or.inr ⟨_, member, keyed⟩)
    · rintro state p waits rfl
      rw [projectsOf, find?_applyProject, if_pos ⟨rfl, waits⟩]
    · intro p onPage same
      exact congrArg ServerProject.display (agreed p onPage same)
  · intro id free absent _
    rw [only]
    exact foldl_untouched projectsOf ServerProject.id (kept id false)
      (fun state p _ => other id state p) data.projects
      (Bool.not_eq_true _ ▸ free) absent
  · intro id pending gone
    rw [only]
    have held : ∀ state : TenantDatabase,
        state.outbox.hasPending .project id = true ∧
            projectsOf state id = none →
          ∀ p ∈ data.projects,
            (applyProject state p).outbox.hasPending .project id = true ∧
              projectsOf (applyProject state p) id = none := by
      rintro state ⟨waits, none⟩ p _
      refine ⟨kept id true state p waits, ?_⟩
      rw [projectsOf, find?_applyProject, if_neg (by simp [waits])]
      exact none
    exact (List.foldlRecOn data.projects applyProject
      (motive := fun state => state.outbox.hasPending .project id = true ∧
        projectsOf state id = none) ⟨pending, gone⟩ held).2

/-! ## Writes of the data layer -/

/-- No project is excused: the replica shows all of them. -/
abbrev NoExcuse : Outbox → Project → Prop := fun _ _ => False

section Writes

variable {tenantId : String} {server : Db} {peer : Peer} {calls : Calls}

/-- The deletion of a project that purges only its own writes. -/
theorem wrote_deleteProject
    {id : String}
    (shadows : Shadows projectKind tenantId NoExcuse server peer)
    (nextSeq : peer.sending = true →
      peer.taken.nextSeq ≤ peer.client.db.outbox.nextSeq)
    (onlyItself : ∀ m ∈ peer.client.db.outbox.entries, m.table = .project →
      Outbox.purges id m = true → m.rowId = id) :
    Shadows projectKind tenantId NoExcuse server
      (peer.wrote (.deleteProject id) calls) := by
  have entries : (peer.client.db.write (.deleteProject id)).outbox =
      (peer.client.db.outbox.purgeForProject id).enqueue .project id .delete
        none := rfl
  have replica : ∀ other,
      projectKind.replica (peer.client.db.write (.deleteProject id)) other =
        if other = id then none
        else projectKind.replica peer.client.db other :=
    fun other => Table.find?_erase _ _ _
  -- A queued write of another project is not purged.
  have kept : ∀ m ∈ peer.client.db.outbox.entries, m.table = .project →
      m.rowId ≠ id → m ∈ (peer.client.db.outbox.purgeForProject id).entries := by
    intro m member table different
    refine List.mem_filter.mpr ⟨member, ?_⟩
    rw [Bool.not_eq_true']
    exact Bool.eq_false_iff.mpr fun purged =>
      different (onlyItself m member table purged)
  have fresh : Shadows.Fresh projectKind peer.client.db
      (peer.client.db.write (.deleteProject id)) id := by
    refine ⟨⟨peer.client.db.outbox.nextSeq, .project, id, .delete, none⟩, ?_,
      le_rfl, rfl, rfl⟩
    rw [entries, Outbox.entries_enqueue]
    exact List.mem_append_right _ (List.mem_singleton.mpr rfl)
  refine shadows.wrote nextSeq ?_ ?_ ?_ ?_
  · intro cursor synced
    refine Synced.write synced (fun other free => ?_) (fun _ => False.elim)
    rw [entries, Outbox.hasPending_enqueue, not_or] at free
    have different : other ≠ id := fun same => free.2 ⟨rfl, same.symm⟩
    refine ⟨fun pending => free.1 ?_, by rw [replica, if_neg different]⟩
    obtain ⟨m, member, table, row⟩ := (Outbox.hasPending_iff _ _ _).mp pending
    exact (Outbox.hasPending_iff _ _ _).mpr
      ⟨m, kept m member table (row ▸ different), table, row⟩
  · intro m isLast table op
    rw [replica]
    rw [entries] at isLast
    rcases isLast_enqueue isLast with rfl | ⟨wasLast, different⟩
    · simp
    · rw [if_neg fun same => different ⟨table, same⟩]
      exact shadows.lastDelete m (isLast_of_deleteWhere
        (fun _ _ => purges_congr) wasLast) table op
  · intro other gone
    rw [replica, gone]
    exact Or.inr (ite_self none)
  · intro m member table
    rcases eq_or_ne m.rowId id with same | different
    · exact Or.inr (Or.inl (same ▸ fresh))
    · left
      rw [entries, Outbox.entries_enqueue]
      exact List.mem_append_left _ (kept m member table different)

/-- The data layer writes. -/
theorem wrote_projects
    (write : LocalWrite)
    (shadows : Shadows projectKind tenantId NoExcuse server peer)
    (nextSeq : peer.sending = true →
      peer.taken.nextSeq ≤ peer.client.db.outbox.nextSeq)
    (onlyItself : ∀ id, write = .deleteProject id →
      ∀ m ∈ peer.client.db.outbox.entries, m.table = .project →
        Outbox.purges id m = true → m.rowId = id) :
    Shadows projectKind tenantId NoExcuse server (peer.wrote write calls) := by
  cases write with
  | nothing =>
      exact shadows.wrote nextSeq (fun _ => id) shadows.lastDelete
        (fun _ => Or.inr) (fun _ member _ => Or.inl member)
  | project project =>
      refine shadows.wrote_row nextSeq rfl ?_ (by simp) (fun _ => id)
      intro other different
      exact (Table.find?_put _ _ _).trans (if_neg different)
  | task task =>
      exact shadows.wrote_other nextSeq rfl (by simp [projectKind]) rfl
        (fun _ => id)
  | deleteProject id =>
      exact wrote_deleteProject shadows nextSeq (onlyItself id rfl)
  | deleteTask taskId =>
      exact shadows.wrote_other nextSeq rfl (by simp [projectKind]) rfl
        (fun _ => id)

end Writes

/-! ## Runs -/

/-- Every peer shadows the projects in every run in which nothing is rejected and
deletions purge only themselves. -/
theorem projects_upheld
    {tenantId : String} {clientIds : Nat → String}
    {events : List SystemEvent} {system : System}
    (run : Run (System.step tenantId)
      (fun system event => rejectsNothing tenantId system event = true ∧
        purgesOnlyItself system event = true)
      (System.initial clientIds) events system) :
    Upheld (fun _ => True) (Shadows projectKind tenantId NoExcuse) system := by
  refine upheld_of_run (fun _ _ allowed => allowed.1) ⟨trivial, ?_⟩ ?_ ?_ ?_ ?_
    (fun _ _ _ _ => trivial) run
  · intro clientId
    exact .fresh clientId (fun _ => rfl) (fun _ => rfl)
  · exact fun server after peer proper shadows moves =>
      shadows.moveOn proper.ordered moves
  · intro system index event calls allowed _ proper shadows
    exact wrote_projects event.write shadows proper.nextSeq fun id deletes =>
      purges_self_of_purgesOnlyItself allowed.2 deletes
  · intro server peer next _ proper shadows moves
    exact shadows.move proper moves (fun _ _ _ _ _ _ _ _ => False.elim)
      (fun _ data _ => worksIn_projects tenantId server peer.client.db data)
  · intro system index engine loop snapshot request allowed uncollected _ proper
      shadows awaiting
    obtain ⟨_, sent, sameCursor⟩ := proper.awaiting _ _ _ awaiting
    refine ⟨trivial, shadows.served proper.ordered uncollected awaiting sent
      sameCursor ?_⟩
    intro data succeeded
    exact projectKind.settles_of_answers
      (answers_of_succeeded uncollected succeeded)
      (rejected_of_rejectsNothing allowed.1 awaiting data succeeded)
      (sameCursor ▸ proper.cursor_le) fun _ _ => mutate_settles_project

/-- The rows of the local table of projects, as the user sees them. -/
def shownProjects (db : TenantDatabase) :
    Set (String × String × Option String × String) :=
  { row | ∃ project ∈ db.projects.rows,
    row = (project.id, project.name, project.description, project.status) }

/-- The live projects of a tenant. -/
def liveProjects (db : Db) (tenantId : String) :
    Set (String × String × Option String × String) :=
  { row | ∃ project ∈ db.projects.rows, project.tenantId = tenantId ∧
    project.deletedAt = none ∧
      row = (project.id, project.name, project.description, project.status) }

/-- In every run in which nothing is rejected and deletions purge only
themselves, a client whose outbox is empty and whose last sync ended with nothing
more to pull holds exactly the live projects of its tenant, as long as no project
of the tenant was written since that sync was served. -/
theorem projects_converge
    {tenantId : String} {clientIds : Nat → String}
    {events : List SystemEvent} {system : System}
    (run : Run (System.step tenantId)
      (fun system event => rejectsNothing tenantId system event = true ∧
        purgesOnlyItself system event = true)
      (System.initial clientIds) events system)
    {index settled : Nat}
    (drained : (system.peers index).client.db.outbox.entries = [])
    (synced : (system.peers index).settledAt = some settled)
    (unwritten : ∀ project ∈ system.db.projects.rows,
      project.tenantId = tenantId → project.rowVersion ≤ settled) :
    shownProjects (system.peers index).client.db =
      liveProjects system.db tenantId := by
  have shadows := (projects_upheld run).holds index
  have free : ∀ id, ¬(system.peers index).client.db.outbox.hasPending
      projectKind.table id = true := by
    simp [Outbox.hasPending, drained]
  have current : ∀ id project,
      system.db.ownProject tenantId id = some project →
        (system.peers index).client.db.projects.find? id =
          project.wire.display := by
    intro id project found
    obtain ⟨stored, own⟩ := (Db.ownProject_eq_some_iff _ _ _ _).mp found
    have upTo := shadows.atHead settled synced id project found
      (unwritten project (Table.mem_of_find? _ stored) own)
    exact (shadows.synced.current id project (free id) found upTo).resolve_right
      fun lacking => lacking.2
  ext row
  constructor
  · rintro ⟨shown, present, rfl⟩
    have held := Table.find?_of_mem _ present
    cases found : system.db.ownProject tenantId shown.id with
    | none =>
        have gone : (system.peers index).client.db.projects.find? shown.id =
            none := shadows.synced.absent shown.id (free _) found
        rw [gone] at held
        contradiction
    | some project =>
        obtain ⟨stored, own⟩ := (Db.ownProject_eq_some_iff _ _ _ _).mp found
        rw [current _ _ found, Project.display_eq_some_iff] at held
        obtain ⟨live, rfl⟩ := held
        exact ⟨project, Table.mem_of_find? _ stored, own, live, rfl⟩
  · rintro ⟨project, present, own, live, rfl⟩
    have found : system.db.ownProject tenantId project.id = some project :=
      (Db.ownProject_eq_some_iff _ _ _ _).mpr
        ⟨Table.find?_of_mem _ present, own⟩
    have held := (current _ _ found).trans
      (Project.display_eq_some_iff.mpr ⟨live, rfl⟩)
    exact ⟨_, Table.mem_of_find? _ held, rfl⟩

/-- A client whose outbox is empty, which has pulled everything, and which shows
exactly the given projects. -/
def showsOnly (projects : List LocalProject) (system : System) : Bool :=
  (system.peers 0).client.db.outbox.entries = [] &&
    (system.peers 0).settledAt = some system.db.seq &&
    (system.peers 0).client.db.projects.rows = projects

theorem showsOnly_iff (projects : List LocalProject) (system : System) :
    showsOnly projects system = true ↔
      (system.peers 0).client.db.outbox.entries = [] ∧
        (system.peers 0).settledAt = some system.db.seq ∧
        (system.peers 0).client.db.projects.rows = projects := by
  simp [showsOnly, and_assoc]

/-- A client creates a project and syncs. -/
theorem projects_converge_created :
    ∃ system : System, ("p", "Garden", none, "Active") ∈
      liveProjects system.db "tenant-a" := by
  obtain ⟨system, run, shows⟩ := Run.exists_of_execute (System.step "tenant-a")
    (fun system event => rejectsNothing "tenant-a" system event &&
      purgesOnlyItself system event)
    (fun _ _ passed => Bool.and_eq_true_iff.mp passed)
    (System.initial fun _ => "browser")
    (.edit 0 (.createProject "p" "Garden" 1) :: wholeSync 0 2)
    (showsOnly [⟨"p", "Garden", none, "Active", 1⟩]) (by decide +kernel)
  obtain ⟨drained, synced, rows⟩ := (showsOnly_iff _ _).mp shows
  have converged := projects_converge run drained synced
    fun project present _ =>
      system.db.projectsStamped.le project present
  refine ⟨system, converged ▸ ⟨⟨"p", "Garden", none, "Active", 1⟩, ?_, rfl⟩⟩
  rw [rows]
  exact List.mem_singleton.mpr rfl

/-! ## A purge that reaches too far -/

/-- The project "q::x", once pulled, is renamed; the deletion of the project "q"
purges the queued rename, which looks like one of its tasks. -/
def purgedRename : List SystemEvent :=
  .edit 0 (.addTask "q::x" "t" "Weed" 1) :: wholeSync 0 2 ++
    [.edit 0 (.renameProject "q::x" "Herbs"),
      .edit 0 (.commitRename
        (⟨"q::x", "q::x", none, "Active", 1⟩, "Herbs") 3),
      .edit 0 (.deleteProject "q")] ++ wholeSync 0 4

/-- Nothing is rejected and no tombstone is collected, and still the client does
not hold the projects of its tenant. -/
theorem purgedRename_diverges :
    ∃ system settled,
      Run (System.step "tenant-a")
        (fun system event => rejectsNothing "tenant-a" system event = true)
        (System.initial fun _ => "browser") purgedRename system ∧
      (system.peers 0).client.db.outbox.entries = [] ∧
      (system.peers 0).settledAt = some settled ∧
      (∀ project ∈ system.db.projects.rows, project.rowVersion ≤ settled) ∧
      shownProjects (system.peers 0).client.db ≠
        liveProjects system.db "tenant-a" := by
  obtain ⟨system, run, ended⟩ := Run.exists_of_execute (System.step "tenant-a")
    (rejectsNothing "tenant-a") (fun _ _ passed => passed)
    (System.initial fun _ => "browser") purgedRename
    (fun system => showsOnly [⟨"q::x", "Herbs", none, "Active", 3⟩] system &&
      system.db.projects.rows.all fun project => project.name = "q::x")
    (by decide +kernel)
  obtain ⟨shows, stored⟩ := Bool.and_eq_true_iff.mp ended
  obtain ⟨drained, synced, rows⟩ := (showsOnly_iff _ _).mp shows
  refine ⟨system, system.db.seq, run, drained, synced,
    system.db.projectsStamped.le, fun same => ?_⟩
  have shown : ("q::x", "Herbs", none, "Active") ∈
      shownProjects (system.peers 0).client.db :=
    ⟨⟨"q::x", "Herbs", none, "Active", 3⟩, by simp [rows], rfl⟩
  rw [same] at shown
  obtain ⟨project, present, _, _, row⟩ := shown
  have name : project.name = "q::x" := by
    simpa using List.all_eq_true.mp stored project present
  rw [name] at row
  simp at row

end Sync
end EvoPlatform
