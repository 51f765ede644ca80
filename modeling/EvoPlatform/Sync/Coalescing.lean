import EvoPlatform.Foundation.LastPerKey
import EvoPlatform.Sync.Client
import EvoPlatform.Sync.Rejections

/-!
# Coalescing

A drain sends the last mutation of each row instead of the whole outbox.  At
most rows this leaves the same on the server.  What is not sent is missed in two
ways: a mutation that the server would accept may be followed by one that it
rejects, and a task that is deleted again would have made a stub of its project.
-/

namespace EvoPlatform
namespace Sync

open Offline

/-! ## What turns come to -/

/-- A live project with the given fields. -/
def ProjectFields.shown (fields : ProjectFields) (tenantId : String) :
    SeenProject :=
  ⟨tenantId, fields.name, fields.description, fields.status, true⟩

namespace ProjectTurn

variable {tenantId id : String} {turns : List ProjectTurn}

/-- The last turn that upserts or deletes the project. -/
def decisive (turns : List ProjectTurn) : Option ProjectTurn :=
  lastPassing (fun turn => !turn.quiet) turns

/-- The turns leave a stub where there is no project: the first of them that
creates it makes a stub, and no deletion follows. -/
def stubs : List ProjectTurn → Bool
  | [] => false
  | .leave :: turns => stubs turns
  | .delete :: turns => stubs turns
  | .upsert _ :: _ => false
  | .stand :: turns => .delete ∉ turns

theorem decisive_cases (turns : List ProjectTurn) :
    decisive turns = none ∨
      (∃ fields, decisive turns = some (.upsert fields)) ∨
      decisive turns = some .delete := by
  cases isLast : decisive turns with
  | none => exact Or.inl rfl
  | some turn =>
      have loud := (lastPassing_eq_some isLast).2
      cases turn with
      | leave => cases loud
      | stand => cases loud
      | upsert fields => exact Or.inr (Or.inl ⟨fields, rfl⟩)
      | delete => exact Or.inr (Or.inr rfl)

@[simp] theorem decisive_cons_leave (turns : List ProjectTurn) :
    decisive (.leave :: turns) = decisive turns :=
  lastPassing_cons_of_neg _ rfl turns

@[simp] theorem decisive_cons_stand (turns : List ProjectTurn) :
    decisive (.stand :: turns) = decisive turns :=
  lastPassing_cons_of_neg _ rfl turns

@[simp] theorem decisive_cons_upsert (fields : ProjectFields)
    (turns : List ProjectTurn) :
    decisive (.upsert fields :: turns) =
      (decisive turns).or (some (.upsert fields)) := by
  unfold decisive
  exact lastPassing_cons_of_pos _ rfl turns

@[simp] theorem decisive_cons_delete (turns : List ProjectTurn) :
    decisive (.delete :: turns) = (decisive turns).or (some .delete) := by
  unfold decisive
  exact lastPassing_cons_of_pos _ rfl turns

/-- What is shown in the end of a project that is there. -/
theorem shown_takeAll_some
    (seen : SeenProject)
    (own : seen.tenantId = tenantId) :
    (takeAll tenantId id turns (some seen)).filter SeenProject.live =
      match decisive turns with
      | some (.upsert fields) => some (fields.shown tenantId)
      | some .delete => none
      | _ => (some seen).filter SeenProject.live := by
  induction turns generalizing seen with
  | nil => rfl
  | cons turn turns inductionHypothesis =>
      rw [takeAll_cons]
      cases turn with
      | leave =>
          rw [decisive_cons_leave]
          exact inductionHypothesis seen own
      | stand =>
          rw [decisive_cons_stand]
          exact inductionHypothesis seen own
      | upsert fields =>
          have taken : (upsert fields).take tenantId id (some seen) =
              some (fields.shown tenantId) := if_pos own
          have rest := inductionHypothesis (fields.shown tenantId) rfl
          rw [taken, rest, decisive_cons_upsert]
          rcases decisive_cases turns with isNone | ⟨later, isUpsert⟩ | isDelete
          · rw [isNone]
            rfl
          · rw [isUpsert]
            rfl
          · rw [isDelete]
            rfl
      | delete =>
          have taken : delete.take tenantId id (some seen) =
              some { seen with live := false } := if_pos own
          have rest := inductionHypothesis { seen with live := false } own
          rw [taken, rest, decisive_cons_delete]
          rcases decisive_cases turns with isNone | ⟨later, isUpsert⟩ | isDelete
          · rw [isNone]
            rfl
          · rw [isUpsert]
            rfl
          · rw [isDelete]
            rfl

/-- What is shown in the end of a project that was missing. -/
theorem shown_takeAll_none (turns : List ProjectTurn) :
    (takeAll tenantId id turns none).filter SeenProject.live =
      match decisive turns with
      | some (.upsert fields) => some (fields.shown tenantId)
      | _ =>
          if stubs turns then some ⟨tenantId, id, none, "Active", true⟩
          else none := by
  induction turns with
  | nil => rfl
  | cons turn turns inductionHypothesis =>
      rw [takeAll_cons]
      cases turn with
      | leave =>
          rw [decisive_cons_leave]
          exact inductionHypothesis
      | delete =>
          change (takeAll tenantId id turns none).filter _ = _
          rw [inductionHypothesis, decisive_cons_delete]
          rcases decisive_cases turns with isNone | ⟨later, isUpsert⟩ | isDelete
          · rw [isNone]
            rfl
          · rw [isUpsert]
            rfl
          · rw [isDelete]
            rfl
      | upsert fields =>
          have rest : (takeAll tenantId id turns
              (some (fields.shown tenantId))).filter SeenProject.live = _ :=
            shown_takeAll_some _ rfl
          rw [decisive_cons_upsert]
          refine rest.trans ?_
          rcases decisive_cases turns with isNone | ⟨later, isUpsert⟩ | isDelete
          · rw [isNone]
            rfl
          · rw [isUpsert]
            rfl
          · rw [isDelete]
            rfl
      | stand =>
          have rest : (takeAll tenantId id turns (some
              ⟨tenantId, id, none, "Active", true⟩)).filter
                SeenProject.live = _ := shown_takeAll_some _ rfl
          rw [decisive_cons_stand]
          refine rest.trans ?_
          rcases decisive_cases turns with isNone | ⟨later, isUpsert⟩ | isDelete
          · have noDelete : ProjectTurn.delete ∉ turns := fun member =>
              absurd (lastPassing_eq_none_iff.mp isNone _ member) (by decide)
            rw [isNone]
            simp [stubs, noDelete]
          · rw [isUpsert]
          · have deletes := (lastPassing_eq_some isDelete).1
            rw [isDelete]
            simp [stubs, deletes]

/-- Without an upsert a stub is left if some turn makes one and no such turn is
followed by a deletion. -/
theorem stubs_iff
    {α : Type} {turn : α → ProjectTurn} {stamp : α → Nat} {items : List α}
    (ascending : items.Pairwise fun left right => stamp left < stamp right)
    (noUpsert : ∀ item ∈ items, ∀ fields, turn item ≠ .upsert fields) :
    stubs (items.map turn) = true ↔
      (∃ item ∈ items, turn item = .stand) ∧
        ∀ item ∈ items, ∀ other ∈ items, turn item = .stand →
          turn other = .delete → stamp other < stamp item := by
  induction items with
  | nil => simp [stubs]
  | cons first items inductionHypothesis =>
      obtain ⟨before, rest⟩ := List.pairwise_cons.mp ascending
      have onRest := inductionHypothesis rest fun item member =>
        noUpsert item (List.mem_cons_of_mem first member)
      -- Two items of the whole list are on the rest, or the first is one.
      cases isFirst : turn first with
      | upsert fields =>
          exact absurd isFirst (noUpsert first List.mem_cons_self fields)
      | leave => simpa [stubs, isFirst] using onRest
      | delete =>
          have later : ∀ item ∈ items, turn item = .stand →
              stamp first < stamp item := fun item member _ =>
            before item member
          simp only [List.map_cons, isFirst, stubs, onRest, List.mem_cons,
            exists_eq_or_imp, forall_eq_or_imp, reduceCtorEq, false_or,
            false_imp_iff, implies_true, true_and, true_imp_iff]
          exact and_congr_right fun _ => ⟨fun ordered item member =>
            ⟨later item member, ordered item member⟩,
            fun ordered item member => (ordered item member).2⟩
      | stand =>
          simp only [List.map_cons, isFirst, stubs, decide_eq_true_eq,
            List.mem_map, not_exists, not_and]
          constructor
          · intro noDelete
            refine ⟨⟨first, List.mem_cons_self, isFirst⟩, ?_⟩
            intro item _ other member _ deletes
            rcases List.mem_cons.mp member with rfl | inRest
            · rw [isFirst] at deletes
              cases deletes
            · exact absurd deletes (noDelete other inRest)
          · rintro ⟨-, ordered⟩ other member deletes
            have early := ordered first List.mem_cons_self other
              (List.mem_cons_of_mem first member) isFirst deletes
            exact absurd (before other member) (Nat.lt_asymm early)

end ProjectTurn

namespace TaskTurn

variable {tenantId : String} {turns : List TaskTurn}

/-- The last turn that upserts or deletes the task. -/
def decisive (turns : List TaskTurn) : Option TaskTurn :=
  lastPassing (fun turn => turn ≠ .leave) turns

/-- The project that the first upsert names. -/
def home : List TaskTurn → Option String
  | [] => none
  | .leave :: turns => home turns
  | .delete :: turns => home turns
  | .upsert projectId _ :: _ => some projectId

theorem decisive_cases (turns : List TaskTurn) :
    decisive turns = none ∨
      (∃ projectId fields, decisive turns = some (.upsert projectId fields)) ∨
      decisive turns = some .delete := by
  cases isLast : decisive turns with
  | none => exact Or.inl rfl
  | some turn =>
      have loud := (lastPassing_eq_some isLast).2
      cases turn with
      | leave => simp at loud
      | upsert projectId fields => exact Or.inr (Or.inl ⟨_, _, rfl⟩)
      | delete => exact Or.inr (Or.inr rfl)

@[simp] theorem decisive_cons_leave (turns : List TaskTurn) :
    decisive (.leave :: turns) = decisive turns :=
  lastPassing_cons_of_neg _ rfl turns

@[simp] theorem decisive_cons_upsert (projectId : String) (fields : TaskFields)
    (turns : List TaskTurn) :
    decisive (.upsert projectId fields :: turns) =
      (decisive turns).or (some (.upsert projectId fields)) := by
  unfold decisive
  exact lastPassing_cons_of_pos _ rfl turns

@[simp] theorem decisive_cons_delete (turns : List TaskTurn) :
    decisive (.delete :: turns) = (decisive turns).or (some .delete) := by
  unfold decisive
  exact lastPassing_cons_of_pos _ rfl turns

/-- What is shown in the end of a task that is there. -/
theorem shown_takeAll_some
    (seen : SeenTask)
    (own : seen.tenantId = tenantId) :
    (takeAll tenantId turns (some seen)).filter SeenTask.live =
      match decisive turns with
      | some (.upsert _ fields) => some { seen with
          title := fields.title
          done := fields.done
          live := true }
      | some .delete => none
      | _ => (some seen).filter SeenTask.live := by
  induction turns generalizing seen with
  | nil => rfl
  | cons turn turns inductionHypothesis =>
      rw [takeAll_cons]
      cases turn with
      | leave =>
          rw [decisive_cons_leave]
          exact inductionHypothesis seen own
      | upsert projectId fields =>
          have taken : (upsert projectId fields).take tenantId (some seen) =
              some { seen with
                title := fields.title
                done := fields.done
                live := true } := if_pos own
          have rest := inductionHypothesis { seen with
            title := fields.title
            done := fields.done
            live := true } own
          rw [taken, rest, decisive_cons_upsert]
          rcases decisive_cases turns with
            isNone | ⟨_, later, isUpsert⟩ | isDelete
          · rw [isNone]
            rfl
          · rw [isUpsert]
            rfl
          · rw [isDelete]
            rfl
      | delete =>
          have taken : delete.take tenantId (some seen) =
              some { seen with live := false } := if_pos own
          have rest := inductionHypothesis { seen with live := false } own
          rw [taken, rest, decisive_cons_delete]
          rcases decisive_cases turns with
            isNone | ⟨_, later, isUpsert⟩ | isDelete
          · rw [isNone]
            rfl
          · rw [isUpsert]
            rfl
          · rw [isDelete]
            rfl

/-- What is shown in the end of a task that was missing. -/
theorem shown_takeAll_none (turns : List TaskTurn) :
    (takeAll tenantId turns none).filter SeenTask.live =
      match decisive turns with
      | some (.upsert projectId fields) => some ⟨tenantId,
          (home turns).getD projectId, fields.title, fields.done, true⟩
      | _ => none := by
  induction turns with
  | nil => rfl
  | cons turn turns inductionHypothesis =>
      rw [takeAll_cons]
      cases turn with
      | leave =>
          rw [decisive_cons_leave]
          exact inductionHypothesis
      | delete =>
          change (takeAll tenantId turns none).filter _ = _
          rw [inductionHypothesis, decisive_cons_delete]
          rcases decisive_cases turns with
            isNone | ⟨_, later, isUpsert⟩ | isDelete
          · rw [isNone]
            rfl
          · rw [isUpsert]
            rfl
          · rw [isDelete]
            rfl
      | upsert projectId fields =>
          have rest : (takeAll tenantId turns (some
              ⟨tenantId, projectId, fields.title, fields.done,
                true⟩)).filter SeenTask.live = _ := shown_takeAll_some _ rfl
          rw [decisive_cons_upsert]
          refine rest.trans ?_
          rcases decisive_cases turns with
            isNone | ⟨_, later, isUpsert⟩ | isDelete
          · rw [isNone]
            rfl
          · rw [isUpsert]
            rfl
          · rw [isDelete]
            rfl

/-- Turns that end in an upsert name a project. -/
theorem home_of_decisive
    {projectId : String} {fields : TaskFields}
    (isUpsert : decisive turns = some (.upsert projectId fields)) :
    ∃ first, home turns = some first := by
  have member := (lastPassing_eq_some isUpsert).1
  clear isUpsert
  induction turns with
  | nil => cases member
  | cons turn turns inductionHypothesis =>
      cases turn with
      | upsert first fields => exact ⟨first, rfl⟩
      | leave =>
          exact inductionHypothesis ((List.mem_cons.mp member).resolve_left
            (by simp))
      | delete =>
          exact inductionHypothesis ((List.mem_cons.mp member).resolve_left
            (by simp))

/-- Turns that change nothing name no project. -/
theorem home_filter (turns : List TaskTurn) :
    home (turns.filter fun turn => turn ≠ .leave) = home turns := by
  induction turns with
  | nil => rfl
  | cons turn turns inductionHypothesis =>
      cases turn with
      | leave => exact inductionHypothesis
      | upsert projectId fields => rfl
      | delete => exact inductionHypothesis

end TaskTurn

/-! ## What a drain sends -/

theorem mem_lastPerKey_iff_isLast
    {entries : List OutboxMutation} {m : OutboxMutation}
    (ascending : entries.Pairwise fun left right => left.seq < right.seq) :
    m ∈ lastPerKey OutboxMutation.rowKey entries ↔ IsLast entries m := by
  rw [mem_lastPerKey_iff _ ascending, IsLast]
  refine and_congr_right fun _ => forall_congr' fun other =>
    imp_congr_right fun _ => ?_
  rw [OutboxMutation.rowKey, OutboxMutation.rowKey, rowKeyOf_inj, and_imp]

/-- A drain sends the last entry of each row. -/
theorem toSend_eq_lastPerKey (outbox : Outbox) :
    outbox.snapshotForDrain.toSend =
      lastPerKey OutboxMutation.rowKey outbox.entries := by
  have sentOnce : outbox.snapshotForDrain.toSend.Pairwise
      fun left right => left.seq ≠ right.seq :=
    List.pairwise_map.mp nodup_seq_toSend
  have sorted : outbox.snapshotForDrain.toSend.Pairwise
      fun left right => left.seq ≤ right.seq := by
    have : Std.Total fun left right : OutboxMutation =>
        left.seq ≤ right.seq :=
      ⟨fun left right => Nat.le_total _ _⟩
    have : IsTrans OutboxMutation fun left right => left.seq ≤ right.seq :=
      ⟨fun _ _ _ => Nat.le_trans⟩
    exact List.pairwise_insertionSort _ _
  have ascending : outbox.snapshotForDrain.toSend.Pairwise
      fun left right => left.seq < right.seq :=
    (sorted.and sentOnce).imp fun both => Nat.lt_of_le_of_ne both.1 both.2
  have : Std.Irrefl fun left right : OutboxMutation => left.seq < right.seq :=
    ⟨fun _ => Nat.lt_irrefl _⟩
  have : Std.Antisymm fun left right : OutboxMutation =>
      left.seq < right.seq :=
    ⟨fun _ _ less more => absurd less (Nat.lt_asymm more)⟩
  refine ascending.eq_of_mem_iff
    (outbox.ascending.sublist (lastPerKey_sublist _ _)) fun m => ?_
  rw [mem_toSend_iff_isLast, mem_lastPerKey_iff_isLast outbox.ascending]

/-- Every mutation is pushed in a batch of its own, one after the other. -/
inductive PushedEach (tenantId : String) : List SyncMutation → Db → Db → Prop
  | nil (db : Db) : PushedEach tenantId [] db db
  | cons {engine : Engine} {m : SyncMutation} {batch : List SyncMutation}
      {db after : Db} {state : BatchState} :
      Pushed engine tenantId [m] db state →
      PushedEach tenantId batch state.db after →
      PushedEach tenantId (m :: batch) db after

/-- Clients see the same live rows. -/
structure SameLive (left right : Db) : Prop where
  project : ∀ id, (left.seenProject id).filter SeenProject.live =
    (right.seenProject id).filter SeenProject.live
  task : ∀ id, (left.seenTask id).filter SeenTask.live =
    (right.seenTask id).filter SeenTask.live

section Turns

variable {tenantId : String} {db : Db}

/-- Mutations pushed one by one take their turns. -/
theorem PushedEach.takesTurns
    {batch : List SyncMutation} {after : Db}
    (each : PushedEach tenantId batch db after) :
    (∀ id, after.seenProject id = ProjectTurn.takeAll tenantId id
      (batch.map fun m => m.projectTurn id) (db.seenProject id)) ∧
    ∀ id, after.seenTask id = TaskTurn.takeAll tenantId
      (batch.map fun m => m.taskTurn (db.foreignProjects tenantId) id)
      (db.seenTask id) := by
  induction each with
  | nil db => exact ⟨fun _ => rfl, fun _ => rfl⟩
  | cons pushed rest inductionHypothesis =>
      have turns := pushed.takesTurns
      obtain ⟨projects, tasks⟩ := inductionHypothesis
      refine ⟨fun id => ?_, fun id => ?_⟩
      · rw [projects, turns.project]
        rfl
      · rw [tasks, turns.task, turns.foreignProjects]
        rfl

/-- The turns of queued mutations at a project. -/
def projectTurnsAt (id : String) (entries : List OutboxMutation) :
    List ProjectTurn :=
  entries.map fun m => (sentMutation m).projectTurn id

/-- The turns of queued mutations at a task. -/
def taskTurnsAt (foreign : String → Bool) (id : String)
    (entries : List OutboxMutation) : List TaskTurn :=
  entries.map fun m => (sentMutation m).taskTurn foreign id

/-- The last queued mutation of a row is rejected. -/
def RejectsLast (tenantId : String) (db : Db) (entries : List OutboxMutation)
    (table : SyncTable) (id : String) : Prop :=
  ∃ m, lastOf OutboxMutation.rowKey (rowKeyOf table id) entries = some m ∧
    (sentMutation m).verdict (db.foreignProjects tenantId)
      (db.foreignTasks tenantId) ≠ .applied

/-- A mutation of a project that may be written is rejected if and only if it
has no effect there. -/
theorem projectTurn_quiet_iff
    {m : SyncMutation}
    (table : m.table = .project)
    (own : db.foreignProjects tenantId m.id = false)
    (foreignTasks : String → Bool) :
    (m.projectTurn m.id).quiet = true ↔
      m.verdict (db.foreignProjects tenantId) foreignTasks ≠ .applied := by
  unfold SyncMutation.projectTurn SyncMutation.verdict
  cases m.op with
  | delete => simp [table, own, ProjectTurn.quiet]
  | upsert =>
      cases invalidProjectUpsert m <;> cases m.projectFields <;>
        simp [table, own, ProjectTurn.quiet]

/-- The same for a task. -/
theorem taskTurn_leave_iff
    {m : SyncMutation}
    (table : m.table = .task)
    (own : db.foreignTasks tenantId m.id = false) :
    m.taskTurn (db.foreignProjects tenantId) m.id = .leave ↔
      m.verdict (db.foreignProjects tenantId) (db.foreignTasks tenantId) ≠
        .applied := by
  unfold SyncMutation.taskTurn SyncMutation.verdict
  cases m.op with
  | delete => simp [table, own]
  | upsert =>
      cases parent : m.parent with
      | none => simp [table]
      | some projectId =>
          cases foreign : db.foreignProjects tenantId projectId <;>
            cases m.taskFields <;> simp [table, own, foreign]

section Rows

variable {foreign : String → Bool} {id : String} {m : OutboxMutation}

/-- Only mutations of the row take a turn at a project that is not quiet. -/
theorem rowKey_of_projectTurn
    (loud : (!((sentMutation m).projectTurn id).quiet) = true) :
    m.rowKey = rowKeyOf .project id := by
  by_contra otherRow
  have quiet : ((sentMutation m).projectTurn id).quiet = true :=
    projectTurn_quiet fun same => otherRow (rowKeyOf_inj.mpr same)
  simp [quiet] at loud

theorem rowKey_of_taskTurn
    (loud : decide ((sentMutation m).taskTurn foreign id ≠ .leave) = true) :
    m.rowKey = rowKeyOf .task id := by
  by_contra otherRow
  have leaves : (sentMutation m).taskTurn foreign id = .leave :=
    taskTurn_eq_leave fun same => otherRow (rowKeyOf_inj.mpr same)
  simp [leaves] at loud

end Rows

variable {entries : List OutboxMutation} {id : String}

/-- What is sent comes to the same at a project as the whole outbox, unless the
last mutation of the project is rejected. -/
theorem decisive_projectTurnsAt
    (own : db.foreignProjects tenantId id = false) :
    (RejectsLast tenantId db entries .project id →
      ProjectTurn.decisive (projectTurnsAt id
        (lastPerKey OutboxMutation.rowKey entries)) = none) ∧
    (¬ RejectsLast tenantId db entries .project id →
      ProjectTurn.decisive (projectTurnsAt id
          (lastPerKey OutboxMutation.rowKey entries)) =
        ProjectTurn.decisive (projectTurnsAt id entries)) := by
  have ofRow := fun m (_ : m ∈ entries) => @rowKey_of_projectTurn id m
  unfold ProjectTurn.decisive projectTurnsAt
  rw [lastPassing_map, lastPassing_map, lastPassing_lastPerKey _ entries ofRow]
  cases isLast : lastOf OutboxMutation.rowKey (rowKeyOf .project id)
      entries with
  | none =>
      refine ⟨fun _ => rfl, fun _ => ?_⟩
      rw [lastPassing_of_lastOf_none _ ofRow isLast]
      rfl
  | some m =>
      obtain ⟨table, rfl⟩ : m.table = .project ∧ m.rowId = id :=
        rowKeyOf_inj.mp (of_decide_eq_true (lastPassing_eq_some isLast).2)
      have quietIff : ((sentMutation m).projectTurn m.rowId).quiet = true ↔ _ :=
        projectTurn_quiet_iff table own (db.foreignTasks tenantId)
      have rejected : RejectsLast tenantId db entries .project m.rowId ↔
          ((sentMutation m).projectTurn m.rowId).quiet = true := by
        simp [quietIff, RejectsLast, isLast]
      rw [rejected]
      constructor
      · intro quiet
        simp [quiet, Option.filter]
      · intro loud
        rw [Bool.not_eq_true] at loud
        rw [lastPassing_of_lastOf _ ofRow isLast (by simp [loud])]
        simp [loud, Option.filter]

/-- The same for a task. -/
theorem decisive_taskTurnsAt
    (own : db.foreignTasks tenantId id = false) :
    (RejectsLast tenantId db entries .task id →
      TaskTurn.decisive (taskTurnsAt (db.foreignProjects tenantId) id
        (lastPerKey OutboxMutation.rowKey entries)) = none) ∧
    (¬ RejectsLast tenantId db entries .task id →
      TaskTurn.decisive (taskTurnsAt (db.foreignProjects tenantId) id
          (lastPerKey OutboxMutation.rowKey entries)) =
        TaskTurn.decisive (taskTurnsAt (db.foreignProjects tenantId) id
          entries)) := by
  have ofRow := fun m (_ : m ∈ entries) =>
    @rowKey_of_taskTurn (db.foreignProjects tenantId) id m
  unfold TaskTurn.decisive taskTurnsAt
  rw [lastPassing_map, lastPassing_map, lastPassing_lastPerKey _ entries ofRow]
  cases isLast : lastOf OutboxMutation.rowKey (rowKeyOf .task id) entries with
  | none =>
      refine ⟨fun _ => rfl, fun _ => ?_⟩
      rw [lastPassing_of_lastOf_none _ ofRow isLast]
      rfl
  | some m =>
      obtain ⟨table, rfl⟩ : m.table = .task ∧ m.rowId = id :=
        rowKeyOf_inj.mp (of_decide_eq_true (lastPassing_eq_some isLast).2)
      have leaveIff : (sentMutation m).taskTurn (db.foreignProjects tenantId)
          m.rowId = .leave ↔ _ := taskTurn_leave_iff table own
      have rejected : RejectsLast tenantId db entries .task m.rowId ↔
          (sentMutation m).taskTurn (db.foreignProjects tenantId) m.rowId =
            .leave := by
        simp [leaveIff, RejectsLast, isLast]
      rw [rejected]
      constructor
      · intro leaves
        simp [leaves, Option.filter]
      · intro loud
        rw [lastPassing_of_lastOf _ ofRow isLast (by simp [loud])]
        simp [loud, Option.filter]

/-- An upsert of a project that is sent is its only mutation. -/
theorem decisive_of_upsert_mem
    {fields : ProjectFields}
    (upserted : .upsert fields ∈ projectTurnsAt id
      (lastPerKey OutboxMutation.rowKey entries)) :
    ProjectTurn.decisive (projectTurnsAt id
      (lastPerKey OutboxMutation.rowKey entries)) = some (.upsert fields) := by
  have ofRow := fun m (_ : m ∈ entries) => @rowKey_of_projectTurn id m
  obtain ⟨m, member, upserts⟩ := List.mem_map.mp upserted
  have loud : m ∈ (lastPerKey OutboxMutation.rowKey entries).filter
      fun m => !((sentMutation m).projectTurn id).quiet :=
    List.mem_filter.mpr ⟨member, by rw [upserts]; rfl⟩
  rw [filter_test_lastPerKey _ entries ofRow, Option.mem_toList] at loud
  rw [ProjectTurn.decisive, projectTurnsAt, lastPassing_map,
    lastPassing_lastPerKey _ entries ofRow, loud, Option.map_some, upserts]

/-- Only one mutation that is sent is about the task. -/
theorem filter_taskTurnsAt (foreign : String → Bool) :
    (taskTurnsAt foreign id (lastPerKey OutboxMutation.rowKey entries)).filter
        (fun turn => turn ≠ .leave) =
      (TaskTurn.decisive (taskTurnsAt foreign id
        (lastPerKey OutboxMutation.rowKey entries))).toList := by
  have ofRow := fun m (_ : m ∈ entries) => @rowKey_of_taskTurn foreign id m
  unfold TaskTurn.decisive taskTurnsAt
  rw [lastPassing_map, lastPassing_lastPerKey _ entries ofRow, List.filter_map]
  refine (congrArg (List.map _)
    (filter_test_lastPerKey _ entries ofRow)).trans ?_
  cases (lastOf OutboxMutation.rowKey (rowKeyOf .task id) entries).filter
    fun m => decide ((sentMutation m).taskTurn foreign id ≠ .leave) <;> rfl

/-- So the project that it names is the only one. -/
theorem home_taskTurnsAt
    {foreign : String → Bool} {projectId : String} {fields : TaskFields}
    (isUpsert : TaskTurn.decisive (taskTurnsAt foreign id
      (lastPerKey OutboxMutation.rowKey entries)) =
        some (.upsert projectId fields)) :
    TaskTurn.home (taskTurnsAt foreign id
      (lastPerKey OutboxMutation.rowKey entries)) = some projectId := by
  rw [← TaskTurn.home_filter, filter_taskTurnsAt, isUpsert]
  rfl

end Turns

/-! ## Where coalescing is safe -/

section Safety

variable (tenantId : String) (db : Db) (entries : List OutboxMutation)
  (id : String)

/-- A stub is left of a project that is not upserted: it has a task whose last
queued mutation is an upsert, and a deletion that is the last mutation of the
project comes before all of these. -/
def LeavesStub : Prop :=
  (∃ m, IsLast entries m ∧ (sentMutation m).projectTurn id = .stand) ∧
    ∀ m d, IsLast entries m → IsLast entries d →
      (sentMutation m).projectTurn id = .stand →
      (sentMutation d).projectTurn id = .delete → d.seq < m.seq

/-- Coalescing does not show at a project.  If its last queued mutation is
rejected, the last one that is not asks for what the server has.  A project that
the server does not have and that is not upserted in the end is left a stub by
the last mutations of its tasks if and only if the whole outbox leaves one. -/
def ProjectCoalesces : Prop :=
  match db.seenProject id, ProjectTurn.decisive (projectTurnsAt id entries) with
  | some seen, some (.upsert fields) =>
      RejectsLast tenantId db entries .project id →
        seen = fields.shown tenantId
  | some seen, some .delete =>
      RejectsLast tenantId db entries .project id → seen.live = false
  | some _, _ => True
  | none, some (.upsert fields) =>
      RejectsLast tenantId db entries .project id →
        LeavesStub entries id ∧ fields = ⟨id, none, "Active"⟩
  | none, _ =>
      ProjectTurn.stubs (projectTurnsAt id entries) = true ↔
        LeavesStub entries id

/-- Coalescing does not show at a task.  If its last queued mutation is rejected,
the last one that is not asks for what the server has.  The first and the last
upsert of a task that the server does not have name one project. -/
def TaskCoalesces : Prop :=
  match db.seenTask id, TaskTurn.decisive
      (taskTurnsAt (db.foreignProjects tenantId) id entries) with
  | some seen, some (.upsert _ fields) =>
      RejectsLast tenantId db entries .task id →
        seen.title = fields.title ∧ seen.done = fields.done ∧ seen.live = true
  | some seen, some .delete =>
      RejectsLast tenantId db entries .task id → seen.live = false
  | none, some (.upsert projectId _) =>
      ¬ RejectsLast tenantId db entries .task id ∧
        TaskTurn.home (taskTurnsAt (db.foreignProjects tenantId) id entries) =
          some projectId
  | _, _ => True

/-- Coalescing does not show at any row that the tenant may write. -/
structure CoalescesSafely : Prop where
  project : ∀ id, db.foreignProjects tenantId id = false →
    ProjectCoalesces tenantId db entries id
  task : ∀ id, db.foreignTasks tenantId id = false →
    TaskCoalesces tenantId db entries id

end Safety

section Coalescing

variable {tenantId : String} {db : Db} {entries : List OutboxMutation}
  {id : String}

/-- A live project is a stub if it has the fields of one. -/
theorem stub_eq_shown_iff {fields : ProjectFields} :
    some (⟨tenantId, id, none, "Active", true⟩ : SeenProject) =
        some (fields.shown tenantId) ↔
      fields = ⟨id, none, "Active"⟩ := by
  obtain ⟨name, description, status⟩ := fields
  simp only [ProjectFields.shown, Option.some.injEq, SeenProject.mk.injEq,
    ProjectFields.mk.injEq, and_true, true_and]
  constructor
  · rintro ⟨rfl, rfl, rfl⟩
    exact ⟨rfl, rfl, rfl⟩
  · rintro ⟨rfl, rfl, rfl⟩
    exact ⟨rfl, rfl, rfl⟩

theorem stub_eq_iff {left right : Bool} {stub : SeenProject} :
    ((if left then some stub else none) = if right then some stub else none) ↔
      (right = true ↔ left = true) := by
  cases left <;> cases right <;> simp

/-- What is sent leaves a stub of a project that it does not upsert. -/
theorem stubs_iff_leavesStub
    (ascending : entries.Pairwise fun left right => left.seq < right.seq)
    (notUpserted : ∀ fields, ProjectTurn.decisive (projectTurnsAt id
      (lastPerKey OutboxMutation.rowKey entries)) ≠ some (.upsert fields)) :
    ProjectTurn.stubs (projectTurnsAt id
        (lastPerKey OutboxMutation.rowKey entries)) = true ↔
      LeavesStub entries id := by
  have isLast (m : OutboxMutation) :
      m ∈ lastPerKey OutboxMutation.rowKey entries ↔ IsLast entries m :=
    mem_lastPerKey_iff_isLast ascending
  have noUpsert : ∀ m ∈ lastPerKey OutboxMutation.rowKey entries, ∀ fields,
      (sentMutation m).projectTurn id ≠ .upsert fields :=
    fun m member fields upserts => notUpserted fields
      (decisive_of_upsert_mem (List.mem_map.mpr ⟨m, member, upserts⟩))
  have sorted := ascending.sublist
    (lastPerKey_sublist OutboxMutation.rowKey entries)
  rw [projectTurnsAt, ProjectTurn.stubs_iff sorted noUpsert, LeavesStub]
  simp only [isLast]
  refine and_congr_right fun _ => ?_
  constructor
  · intro ordered m d mLast dLast
    exact ordered m mLast d dLast
  · intro ordered m mLast d dLast
    exact ordered m d mLast dLast

/-- What is sent and the whole outbox show the same of a project that the server
does not have. -/
theorem projectCoalesces_iff_of_missing
    (ascending : entries.Pairwise fun left right => left.seq < right.seq)
    (own : db.foreignProjects tenantId id = false)
    (missing : db.seenProject id = none) :
    (ProjectTurn.takeAll tenantId id (projectTurnsAt id
        (lastPerKey OutboxMutation.rowKey entries)) none).filter
        SeenProject.live =
      (ProjectTurn.takeAll tenantId id (projectTurnsAt id entries)
        none).filter SeenProject.live ↔
    ProjectCoalesces tenantId db entries id := by
  obtain ⟨dropped, kept⟩ := @decisive_projectTurnsAt tenantId db entries id own
  unfold ProjectCoalesces
  rw [missing]
  have leaves := @stubs_iff_leavesStub entries id ascending
  rw [ProjectTurn.shown_takeAll_none, ProjectTurn.shown_takeAll_none]
  by_cases rejected : RejectsLast tenantId db entries .project id
  · rw [dropped rejected] at leaves ⊢
    have leaves := leaves fun fields same => by cases same
    rcases ProjectTurn.decisive_cases (projectTurnsAt id entries) with
      isNone | ⟨fields, isUpsert⟩ | isDelete
    · rw [isNone]
      simp only [← leaves]
      exact stub_eq_iff
    · rw [isUpsert]
      simp only [← leaves]
      cases ProjectTurn.stubs (projectTurnsAt id
        (lastPerKey OutboxMutation.rowKey entries)) with
      | false => simp [rejected]
      | true =>
          refine stub_eq_shown_iff.trans ⟨fun same _ => ⟨rfl, same⟩, ?_⟩
          exact fun safe => (safe rejected).2
    · rw [isDelete]
      simp only [← leaves]
      exact stub_eq_iff
  · rw [kept rejected] at leaves ⊢
    rcases ProjectTurn.decisive_cases (projectTurnsAt id entries) with
      isNone | ⟨fields, isUpsert⟩ | isDelete
    · rw [isNone] at leaves ⊢
      have leaves := leaves fun fields same => by cases same
      simp only [← leaves]
      exact stub_eq_iff
    · rw [isUpsert]
      exact iff_of_true rfl fun rejects => absurd rejects rejected
    · rw [isDelete] at leaves ⊢
      have leaves := leaves fun fields same => by cases same
      simp only [← leaves]
      exact stub_eq_iff

/-- The same for a project that the server has. -/
theorem projectCoalesces_iff_of_seen
    {seen : SeenProject}
    (own : db.foreignProjects tenantId id = false)
    (found : db.seenProject id = some seen) :
    (ProjectTurn.takeAll tenantId id (projectTurnsAt id
        (lastPerKey OutboxMutation.rowKey entries)) (some seen)).filter
        SeenProject.live =
      (ProjectTurn.takeAll tenantId id (projectTurnsAt id entries)
        (some seen)).filter SeenProject.live ↔
    ProjectCoalesces tenantId db entries id := by
  obtain ⟨dropped, kept⟩ := @decisive_projectTurnsAt tenantId db entries id own
  unfold ProjectCoalesces
  rw [Db.foreignProjects_eq_seen] at own
  rw [found]
  have isOwn : seen.tenantId = tenantId := by simpa [found] using own
  rw [ProjectTurn.shown_takeAll_some seen isOwn,
    ProjectTurn.shown_takeAll_some seen isOwn]
  by_cases rejected : RejectsLast tenantId db entries .project id
  · rw [dropped rejected]
    rcases ProjectTurn.decisive_cases (projectTurnsAt id entries) with
      isNone | ⟨fields, isUpsert⟩ | isDelete
    · rw [isNone]
      exact iff_of_true rfl trivial
    · rw [isUpsert]
      cases live : seen.live with
      | false =>
          have different : seen ≠ fields.shown tenantId := by
            rintro rfl
            cases live
          simp [rejected, live, different, Option.filter]
      | true => simp [rejected, live, Option.filter]
    · rw [isDelete]
      cases live : seen.live <;> simp [rejected, live, Option.filter]
  · rw [kept rejected]
    rcases ProjectTurn.decisive_cases (projectTurnsAt id entries) with
      isNone | ⟨fields, isUpsert⟩ | isDelete
    · rw [isNone]
      exact iff_of_true rfl trivial
    · rw [isUpsert]
      exact iff_of_true rfl fun rejects => absurd rejects rejected
    · rw [isDelete]
      exact iff_of_true rfl fun rejects => absurd rejects rejected

/-- What is sent and the whole outbox show the same project. -/
theorem projectCoalesces_iff
    (ascending : entries.Pairwise fun left right => left.seq < right.seq)
    (own : db.foreignProjects tenantId id = false) :
    (ProjectTurn.takeAll tenantId id (projectTurnsAt id
        (lastPerKey OutboxMutation.rowKey entries))
        (db.seenProject id)).filter SeenProject.live =
      (ProjectTurn.takeAll tenantId id (projectTurnsAt id entries)
        (db.seenProject id)).filter SeenProject.live ↔
    ProjectCoalesces tenantId db entries id := by
  cases found : db.seenProject id with
  | none => exact projectCoalesces_iff_of_missing ascending own found
  | some seen => exact projectCoalesces_iff_of_seen own found

/-- What is sent and the whole outbox show the same of a task that the server
does not have. -/
theorem taskCoalesces_iff_of_missing
    (own : db.foreignTasks tenantId id = false)
    (missing : db.seenTask id = none) :
    (TaskTurn.takeAll tenantId (taskTurnsAt (db.foreignProjects tenantId) id
        (lastPerKey OutboxMutation.rowKey entries)) none).filter
        SeenTask.live =
      (TaskTurn.takeAll tenantId (taskTurnsAt (db.foreignProjects tenantId) id
        entries) none).filter SeenTask.live ↔
    TaskCoalesces tenantId db entries id := by
  obtain ⟨dropped, kept⟩ := @decisive_taskTurnsAt tenantId db entries id own
  unfold TaskCoalesces
  rw [missing]
  rw [TaskTurn.shown_takeAll_none, TaskTurn.shown_takeAll_none]
  by_cases rejected : RejectsLast tenantId db entries .task id
  · rw [dropped rejected]
    rcases TaskTurn.decisive_cases (taskTurnsAt
      (db.foreignProjects tenantId) id entries) with
      isNone | ⟨projectId, fields, isUpsert⟩ | isDelete
    · rw [isNone]
      exact iff_of_true rfl trivial
    · rw [isUpsert]
      exact iff_of_false (by simp) fun safe => safe.1 rejected
    · rw [isDelete]
      exact iff_of_true rfl trivial
  · have sent := kept rejected
    rw [sent]
    rcases TaskTurn.decisive_cases (taskTurnsAt
      (db.foreignProjects tenantId) id entries) with
      isNone | ⟨projectId, fields, isUpsert⟩ | isDelete
    · rw [isNone]
      exact iff_of_true rfl trivial
    · obtain ⟨first, isFirst⟩ := TaskTurn.home_of_decisive isUpsert
      rw [isUpsert, home_taskTurnsAt (sent.trans isUpsert), isFirst]
      simp [rejected, eq_comm]
    · rw [isDelete]
      exact iff_of_true rfl trivial

/-- The same for a task that the server has. -/
theorem taskCoalesces_iff_of_seen
    {seen : SeenTask}
    (own : db.foreignTasks tenantId id = false)
    (found : db.seenTask id = some seen) :
    (TaskTurn.takeAll tenantId (taskTurnsAt (db.foreignProjects tenantId) id
        (lastPerKey OutboxMutation.rowKey entries)) (some seen)).filter
        SeenTask.live =
      (TaskTurn.takeAll tenantId (taskTurnsAt (db.foreignProjects tenantId) id
        entries) (some seen)).filter SeenTask.live ↔
    TaskCoalesces tenantId db entries id := by
  obtain ⟨dropped, kept⟩ := @decisive_taskTurnsAt tenantId db entries id own
  unfold TaskCoalesces
  rw [Db.foreignTasks_eq_seen] at own
  rw [found]
  have isOwn : seen.tenantId = tenantId := by simpa [found] using own
  rw [TaskTurn.shown_takeAll_some seen isOwn,
    TaskTurn.shown_takeAll_some seen isOwn]
  by_cases rejected : RejectsLast tenantId db entries .task id
  · rw [dropped rejected]
    rcases TaskTurn.decisive_cases (taskTurnsAt
      (db.foreignProjects tenantId) id entries) with
      isNone | ⟨projectId, fields, isUpsert⟩ | isDelete
    · rw [isNone]
      exact iff_of_true rfl trivial
    · rw [isUpsert]
      obtain ⟨owner, parent, title, done, live⟩ := seen
      cases live <;> simp [rejected, Option.filter]
    · rw [isDelete]
      cases live : seen.live <;> simp [rejected, live, Option.filter]
  · rw [kept rejected]
    rcases TaskTurn.decisive_cases (taskTurnsAt
      (db.foreignProjects tenantId) id entries) with
      isNone | ⟨projectId, fields, isUpsert⟩ | isDelete
    · rw [isNone]
      exact iff_of_true rfl trivial
    · rw [isUpsert]
      exact iff_of_true rfl fun rejects => absurd rejects rejected
    · rw [isDelete]
      exact iff_of_true rfl fun rejects => absurd rejects rejected

/-- What is sent and the whole outbox show the same task. -/
theorem taskCoalesces_iff
    (own : db.foreignTasks tenantId id = false) :
    (TaskTurn.takeAll tenantId (taskTurnsAt (db.foreignProjects tenantId) id
        (lastPerKey OutboxMutation.rowKey entries))
        (db.seenTask id)).filter SeenTask.live =
      (TaskTurn.takeAll tenantId (taskTurnsAt (db.foreignProjects tenantId) id
        entries) (db.seenTask id)).filter SeenTask.live ↔
    TaskCoalesces tenantId db entries id := by
  cases found : db.seenTask id with
  | none => exact taskCoalesces_iff_of_missing own found
  | some seen => exact taskCoalesces_iff_of_seen own found

end Coalescing

/-! ## The whole outbox -/

section Drains

variable {tenantId : String} {db : Db}

/-- Turns leave a project of another tenant alone. -/
theorem ProjectTurn.takeAll_of_foreign
    {id : String}
    (foreign : db.foreignProjects tenantId id = true)
    (turns : List ProjectTurn) :
    ProjectTurn.takeAll tenantId id turns (db.seenProject id) =
      db.seenProject id := by
  induction turns with
  | nil => rfl
  | cons turn turns inductionHypothesis =>
      rw [takeAll_cons, take_of_foreign foreign, inductionHypothesis]

theorem TaskTurn.takeAll_of_foreign
    {id : String}
    (foreign : db.foreignTasks tenantId id = true)
    (turns : List TaskTurn) :
    TaskTurn.takeAll tenantId turns (db.seenTask id) = db.seenTask id := by
  induction turns with
  | nil => rfl
  | cons turn turns inductionHypothesis =>
      rw [takeAll_cons, take_of_foreign foreign, inductionHypothesis]

/-- A batch that is carried out can be pushed one by one. -/
theorem pushedEach_of_carriedOut
    (engine : Engine) {batch : List SyncMutation}
    (carriedOut : batchRefused engine tenantId batch db = false) :
    PushedEach tenantId batch db (leaves engine tenantId batch db) := by
  induction batch generalizing db with
  | nil => exact .nil db
  | cons m batch inductionHypothesis =>
      rw [batchRefused, Bool.or_eq_false_iff] at carriedOut
      have first : Pushed engine tenantId [m] db _ :=
        pushed_settleBatch (by rw [batchRefused, carriedOut.1]; rfl)
      have rest := inductionHypothesis carriedOut.2
      refine .cons first ?_
      rw [db_settleBatch]
      exact rest

/-- For every outbox and every state of the server, pushing what a drain sends
leaves the same live rows as pushing the whole outbox one by one, if and only if
coalescing shows at no row. -/
theorem coalescing_sameLive_iff
    {engine : Engine}
    {outbox : Outbox}
    {once : BatchState}
    {oneByOne : Db}
    (pushed : Pushed engine tenantId
      (outbox.snapshotForDrain.toSend.map sentMutation) db once)
    (each : PushedEach tenantId (outbox.entries.map sentMutation) db oneByOne) :
    SameLive once.db oneByOne ↔ CoalescesSafely tenantId db outbox.entries := by
  have turns := pushed.takesTurns
  rw [toSend_eq_lastPerKey] at turns
  have sentProject (id : String) : once.db.seenProject id =
      ProjectTurn.takeAll tenantId id (projectTurnsAt id
        (lastPerKey OutboxMutation.rowKey outbox.entries))
        (db.seenProject id) := by
    rw [turns.project, List.map_map]
    rfl
  have sentTask (id : String) : once.db.seenTask id =
      TaskTurn.takeAll tenantId (taskTurnsAt (db.foreignProjects tenantId) id
        (lastPerKey OutboxMutation.rowKey outbox.entries))
        (db.seenTask id) := by
    rw [turns.task, List.map_map]
    rfl
  have eachProject (id : String) : oneByOne.seenProject id =
      ProjectTurn.takeAll tenantId id (projectTurnsAt id outbox.entries)
        (db.seenProject id) := by
    rw [each.takesTurns.1, List.map_map]
    rfl
  have eachTask (id : String) : oneByOne.seenTask id =
      TaskTurn.takeAll tenantId (taskTurnsAt (db.foreignProjects tenantId) id
        outbox.entries) (db.seenTask id) := by
    rw [each.takesTurns.2, List.map_map]
    rfl
  constructor
  · intro same
    refine ⟨fun id own => ?_, fun id own => ?_⟩
    · have sameProject := same.project id
      rw [sentProject, eachProject] at sameProject
      exact (projectCoalesces_iff outbox.ascending own).mp sameProject
    · have sameTask := same.task id
      rw [sentTask, eachTask] at sameTask
      exact (taskCoalesces_iff own).mp sameTask
  · intro safe
    refine ⟨fun id => ?_, fun id => ?_⟩
    · rw [sentProject, eachProject]
      cases own : db.foreignProjects tenantId id with
      | true =>
          rw [ProjectTurn.takeAll_of_foreign own,
            ProjectTurn.takeAll_of_foreign own]
      | false =>
          exact (projectCoalesces_iff outbox.ascending own).mpr
            (safe.project id own)
    · rw [sentTask, eachTask]
      cases own : db.foreignTasks tenantId id with
      | true =>
          rw [TaskTurn.takeAll_of_foreign own, TaskTurn.takeAll_of_foreign own]
      | false => exact (taskCoalesces_iff own).mpr (safe.task id own)

end Drains

/-- An outbox with a project, a task in it, and the task again once it is
done. -/
def gardening : Outbox :=
  (((TenantDatabase.empty "browser").createProject "p" "Garden" 0).addTask
    "p" "0" "Weed" 1).commitToggle ⟨"p::0", "p", "Weed", false, 1⟩ 2 |>.outbox

theorem coalescing_sameLive_gardening :
    ∃ once oneByOne,
      Pushed (Engine.obliging 3) "tenant-a"
        (gardening.snapshotForDrain.toSend.map sentMutation) Db.initial once ∧
      PushedEach "tenant-a" (gardening.entries.map sentMutation) Db.initial
        oneByOne ∧
      (SameLive once.db oneByOne ↔
        CoalescesSafely "tenant-a" Db.initial gardening.entries) := by
  have pushed : Pushed (Engine.obliging 3) "tenant-a"
      (gardening.snapshotForDrain.toSend.map sentMutation) Db.initial _ :=
    pushed_settleBatch (by decide +kernel)
  have each : PushedEach "tenant-a" (gardening.entries.map sentMutation)
      Db.initial _ :=
    pushedEach_of_carriedOut (Engine.obliging 3) (by decide +kernel)
  exact ⟨_, _, pushed, each, coalescing_sameLive_iff pushed each⟩

/-- A project is created and, before any sync, renamed to nothing. -/
def createThenEmpty : List ClientEvent :=
  [.edit (.createProject "p" "Garden" 0), .edit (.renameProject "p" ""),
    .edit (.commitRename (⟨"p", "Garden", none, "Active", 0⟩, "") 1)]

/-- The drain sends the rename alone.  It is rejected, and the project never
comes to the server, which would have accepted it. -/
theorem coalescing_dropsCreate :
    ∃ client once oneByOne,
      Run Client.step (fun _ _ => True) (Client.fresh "browser")
        createThenEmpty client ∧
      Pushed (Engine.obliging 2) "tenant-a"
        (client.db.outbox.snapshotForDrain.toSend.map sentMutation) Db.initial
        once ∧
      PushedEach "tenant-a" (client.db.outbox.entries.map sentMutation)
        Db.initial oneByOne ∧
      once.db.seenProject "p" = none ∧
      oneByOne.seenProject "p" =
        some ⟨"tenant-a", "Garden", none, "Active", true⟩ ∧
      ¬ SameLive once.db oneByOne := by
  refine ⟨_, _, _, .cons trivial rfl (.cons trivial rfl
    (.cons trivial rfl (.nil _))), pushed_settleBatch (by decide +kernel),
    pushedEach_of_carriedOut (Engine.obliging 2) (by decide +kernel),
    by decide +kernel, by decide +kernel, ?_⟩
  intro same
  exact absurd (same.project "p") (by decide +kernel)

end Sync
end EvoPlatform
