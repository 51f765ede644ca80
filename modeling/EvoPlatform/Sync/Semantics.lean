import EvoPlatform.Sync.Server

/-!
# What one mutation does

`mutate` gives the effect and the answer of one mutation as a pure function of
the database, and `statements` the statements it sends, each with the state it
meets.  As long as the database carries these out, an iteration of the server's
loop computes `mutate`.  Once it refuses one of them, this and every later
mutation of the transaction is answered as invalid.
-/

namespace EvoPlatform
namespace Sync

/-- The answer to one mutation. -/
inductive Verdict
  | applied
  | rejected (reason : RejectReason)
  deriving DecidableEq

/-- Record the answer to a mutation. -/
def BatchState.answer (state : BatchState) (m : SyncMutation) :
    Verdict → BatchState
  | .applied => { state with applied := state.applied ++ [m.seq] }
  | .rejected reason =>
      { state with rejected := state.rejected ++ [(m.seq, reason)] }

@[simp] theorem BatchState.db_answer
    (state : BatchState) (m : SyncMutation) (verdict : Verdict) :
    (state.answer m verdict).db = state.db := by
  cases verdict <;> rfl

@[simp] theorem BatchState.aborted_answer
    (state : BatchState) (m : SyncMutation) (verdict : Verdict) :
    (state.answer m verdict).aborted = state.aborted := by
  cases verdict <;> rfl

section Effects

variable (engine : Engine) (tenantId : String) (m : SyncMutation) (db : Db)

/-- The schema does not check the payload, so the loop does. -/
def invalidProjectUpsert : Bool :=
  !truthy (m.field "name") || !isString (m.field "status")

/-- The schema does not check the payload, so the loop does. -/
def invalidTaskUpsert : Bool :=
  !truthy (m.field "projectId") || !truthy (m.field "title")

/-- The effect of a project upsert. -/
def projectUpsertEffect : Db × Verdict :=
  if invalidProjectUpsert m then (db, .rejected .invalid)
  else if foreignProject tenantId (db.projects.find? m.id) then
    (db, .rejected .idConflict)
  else
    match m.projectFields with
    | none => (db, .rejected .invalid)
    | some fields =>
        (db.upsertProject engine.clock m.id tenantId fields, .applied)

/-- The effect of a project delete. -/
def projectDeleteEffect : Db × Verdict :=
  match db.projects.find? m.id with
  | none => (db, .applied)
  | some project =>
      if project.tenantId ≠ tenantId then (db, .rejected .idConflict)
      else if project.deletedAt.isSome then (db, .applied)
      else
        (db.putProject engine.clock
          { project with deletedAt := some engine.now }, .applied)

/-- The database once the project of a task exists. -/
def Db.ensureProject (clock : Nat → Nat) (db : Db) (id tenantId : String) :
    Db :=
  if (db.projects.find? id).isSome then db
  else db.putProject clock (Db.stubProject id tenantId)

/-- The effect of a task upsert once its project exists. -/
def taskWriteEffect (projectId : String) : Db × Verdict :=
  if foreignTask tenantId (db.tasks.find? m.id) then
    (db, .rejected .idConflict)
  else
    match m.taskFields with
    | none => (db, .rejected .invalid)
    | some fields =>
        match db.upsertTask engine.clock m.id tenantId projectId fields with
        | none => (db, .rejected .invalid)
        | some written => (written, .applied)

/-- The effect of a task upsert. -/
def taskUpsertEffect : Db × Verdict :=
  if invalidTaskUpsert m then (db, .rejected .invalid)
  else
    match textArgument (m.field "projectId") with
    | none => (db, .rejected .invalid)
    | some projectId =>
        if foreignProject tenantId (db.projects.find? projectId) then
          (db, .rejected .idConflict)
        else
          taskWriteEffect engine tenantId m
            (db.ensureProject engine.clock projectId tenantId) projectId

/-- The effect of a task delete. -/
def taskDeleteEffect : Db × Verdict :=
  match db.tasks.find? m.id with
  | none => (db, .applied)
  | some task =>
      if task.tenantId ≠ tenantId then (db, .rejected .idConflict)
      else if task.deletedAt.isSome then (db, .applied)
      else
        match db.tombstoneTask engine.clock m.id engine.now with
        | none => (db, .rejected .invalid)
        | some written => (written, .applied)

/-- The effect and the answer of one mutation. -/
def mutate : Db × Verdict :=
  match m.table, m.op with
  | .project, .upsert => projectUpsertEffect engine tenantId m db
  | .project, .delete => projectDeleteEffect engine tenantId m db
  | .task, .upsert => taskUpsertEffect engine tenantId m db
  | .task, .delete => taskDeleteEffect engine tenantId m db

/-- The statements of a project upsert. -/
def projectUpsertStatements : List (Db × Statement) :=
  if invalidProjectUpsert m then []
  else
    (db, .findProject m.id) ::
      if foreignProject tenantId (db.projects.find? m.id) then []
      else
        match m.projectFields with
        | none => []
        | some fields => [(db, .upsertProject m.id tenantId fields)]

/-- The statements of a project delete. -/
def projectDeleteStatements : List (Db × Statement) :=
  (db, .findProject m.id) ::
    if (db.projects.find? m.id).any fun project =>
        project.tenantId = tenantId && project.deletedAt.isNone then
      [(db, .tombstoneProject m.id)]
    else []

/-- The statements of a task upsert once its project exists. -/
def taskWriteStatements (projectId : String) : List (Db × Statement) :=
  (db, .findTask m.id) ::
    if foreignTask tenantId (db.tasks.find? m.id) then []
    else
      match m.taskFields with
      | none => []
      | some fields => [(db, .upsertTask m.id tenantId projectId fields)]

/-- The statements of a task upsert. -/
def taskUpsertStatements : List (Db × Statement) :=
  if invalidTaskUpsert m then []
  else
    match textArgument (m.field "projectId") with
    | none => []
    | some projectId =>
        (db, .findProject projectId) ::
          if foreignProject tenantId (db.projects.find? projectId) then []
          else
            (if (db.projects.find? projectId).isSome then []
              else [(db, .createStub projectId tenantId)]) ++
            taskWriteStatements tenantId m
              (db.ensureProject engine.clock projectId tenantId) projectId

/-- The statements of a task delete. -/
def taskDeleteStatements : List (Db × Statement) :=
  (db, .findTask m.id) ::
    if (db.tasks.find? m.id).any fun task =>
        task.tenantId = tenantId && task.deletedAt.isNone then
      [(db, .tombstoneTask m.id)]
    else []

/-- The statements one mutation sends when the database carries them out, each
with the state it meets. -/
def statements : List (Db × Statement) :=
  match m.table, m.op with
  | .project, .upsert => projectUpsertStatements tenantId m db
  | .project, .delete => projectDeleteStatements tenantId m db
  | .task, .upsert => taskUpsertStatements engine tenantId m db
  | .task, .delete => taskDeleteStatements tenantId m db

/-- The database refuses one of the statements of the mutation. -/
def refused : Bool :=
  (statements engine tenantId m db).any fun sent =>
    engine.refuses sent.1 sent.2

end Effects

/-! ## Running database calls -/

section Running

variable {engine : Engine} {tenantId : String} {m : SyncMutation}
  {state : BatchState}

/-- A bind whose first part succeeds. -/
theorem bind_of_ok {α β : Type}
    {first : BatchM α} {second : α → BatchM β}
    {value : α} {next : BatchState}
    (succeeds : first state = .ok value next) :
    (first >>= second) state = second value next := by
  simp only [bind, EStateM.bind, succeeds]

/-- A bind whose first part throws. -/
theorem bind_of_error {α β : Type}
    {first : BatchM α} {second : α → BatchM β}
    {error : DbError} {next : BatchState}
    (throws : first state = .error error next) :
    (first >>= second) state = .error error next := by
  simp only [bind, EStateM.bind, throws]

/-- Reading the state leaves it as it is. -/
theorem bind_get {α : Type} {next : BatchState → BatchM α} :
    (get >>= next) state = next state state :=
  rfl

/-- The loop catches a throw and answers the mutation as invalid. -/
theorem iteration_of_error
    {error : DbError} {next : BatchState}
    (throws : applyMutation engine tenantId m state = .error error next) :
    iteration engine tenantId m state =
      .ok () (next.answer m (.rejected .invalid)) := by
  simp only [iteration, tryCatch, tryCatchThe, MonadExceptOf.tryCatch,
    EStateM.tryCatch, throws]
  rfl

theorem iteration_of_ok
    {next : BatchState}
    (succeeds : applyMutation engine tenantId m state = .ok () next) :
    iteration engine tenantId m state = .ok () next := by
  simp only [iteration, tryCatch, tryCatchThe, MonadExceptOf.tryCatch,
    EStateM.tryCatch, succeeds]

/-- A statement the database carries out. -/
theorem send_of_accepted
    {statement : Statement}
    (notAborted : state.aborted = false)
    (accepted : engine.refuses state.db statement = false) :
    send engine statement state = .ok () state := by
  simp [send, notAborted, accepted]

/-- A statement the database refuses. -/
theorem send_of_refused
    {statement : Statement}
    (notAborted : state.aborted = false)
    (refusal : engine.refuses state.db statement = true) :
    send engine statement state =
      .error .refused { state with aborted := true } := by
  simp [send, notAborted, refusal]

/-- Nothing is carried out in an aborted transaction. -/
theorem send_of_aborted
    {statement : Statement}
    (isAborted : state.aborted = true) :
    send engine statement state = .error .aborted state := by
  simp [send, isAborted]

theorem findProject_eq_of_send
    {id : String}
    (sent : send engine (.findProject id) state = .ok () state) :
    findProject engine id state =
      .ok (state.db.projects.find? id) state := by
  rw [findProject, bind_of_ok sent]
  rfl

theorem findTask_eq_of_send
    {id : String}
    (sent : send engine (.findTask id) state = .ok () state) :
    findTask engine id state = .ok (state.db.tasks.find? id) state := by
  rw [findTask, bind_of_ok sent]
  rfl

/-- Arguments the client library accepts. -/
theorem validated_some {α : Type} (value : α) :
    validated (some value) state = .ok value state := rfl

/-- Arguments the client library refuses. -/
theorem validated_none {α : Type} :
    validated (none : Option α) state = .error .client state := rfl

/-! ## Iterations the database carries out -/

/-- The state after a mutation that the database carries out. -/
def BatchState.settle (state : BatchState) (m : SyncMutation)
    (effect : Db × Verdict) : BatchState :=
  { state with db := effect.1 }.answer m effect.2

/-- What the `try` block may do to realize an effect: run to its end, or throw
in the client library after the writes of a mutation answered as invalid. -/
def Realizes (body : BatchM Unit) (state : BatchState) (m : SyncMutation)
    (effect : Db × Verdict) : Prop :=
  body state = .ok () (state.settle m effect) ∨
    body state = .error .client { state with db := effect.1 } ∧
      effect.2 = .rejected .invalid

/-- A prefix that only moves the state may be dropped. -/
theorem Realizes.bind {α : Type}
    {first : BatchM α} {second : α → BatchM Unit}
    {value : α} {effect : Db × Verdict}
    (succeeds : first state = .ok value state)
    (realizes : Realizes (second value) state m effect) :
    Realizes (first >>= second) state m effect := by
  unfold Realizes
  rw [bind_of_ok succeeds]
  exact realizes

/-- A prefix that writes hands the rest the database it leaves. -/
theorem Realizes.bind_write
    {first : BatchM Unit} {second : Unit → BatchM Unit}
    (db : Db) {effect : Db × Verdict}
    (succeeds : first state = .ok () { state with db := db })
    (realizes : Realizes (second ()) { state with db := db } m effect) :
    Realizes (first >>= second) state m effect := by
  unfold Realizes
  rw [bind_of_ok succeeds]
  exact realizes

theorem realizes_reject (reason : RejectReason) :
    Realizes (reject m reason) state m (state.db, .rejected reason) :=
  Or.inl rfl

theorem realizes_accept :
    Realizes (accept m) state m (state.db, .applied) :=
  Or.inl rfl

/-- A write the database carries out, followed by the answer. -/
theorem realizes_write_accept
    {call : BatchM Unit} {db : Db}
    (written : call state = .ok () { state with db := db }) :
    Realizes (call >>= fun _ => accept m) state m (db, .applied) :=
  Realizes.bind_write db written (Or.inl rfl)

theorem realizes_validated_none {α : Type}
    {second : α → BatchM Unit} :
    Realizes (validated none >>= second) state m
      (state.db, .rejected .invalid) :=
  Or.inr ⟨bind_of_error validated_none, rfl⟩

/-- A project upsert realizes its effect. -/
theorem applyProjectUpsert_realizes
    (notAborted : state.aborted = false)
    (accepted : ∀ sent ∈ projectUpsertStatements tenantId m state.db,
      engine.refuses sent.1 sent.2 = false) :
    Realizes (applyProjectUpsert engine tenantId m) state m
      (projectUpsertEffect engine tenantId m state.db) := by
  unfold applyProjectUpsert projectUpsertEffect
  unfold projectUpsertStatements at accepted
  change Realizes (if invalidProjectUpsert m then _ else _) _ _ _
  by_cases invalid : invalidProjectUpsert m = true
  · simp only [invalid, if_true]
    exact realizes_reject .invalid
  simp only [invalid, Bool.false_eq_true, if_false, List.mem_cons,
    forall_eq_or_imp] at accepted ⊢
  refine Realizes.bind (findProject_eq_of_send
    (send_of_accepted notAborted accepted.1)) ?_
  by_cases foreign :
      foreignProject tenantId (state.db.projects.find? m.id) = true
  · simp only [foreign, if_true]
    exact realizes_reject .idConflict
  simp only [foreign, Bool.false_eq_true, if_false] at accepted ⊢
  cases fields : m.projectFields with
  | none => exact realizes_validated_none
  | some columns =>
      simp only [fields, List.mem_singleton, forall_eq] at accepted
      refine Realizes.bind (validated_some columns) ?_
      apply realizes_write_accept
      rw [upsertProject, bind_of_ok (send_of_accepted notAborted accepted.2)]
      rfl

/-- A project delete realizes its effect. -/
theorem applyProjectDelete_realizes
    (notAborted : state.aborted = false)
    (accepted : ∀ sent ∈ projectDeleteStatements tenantId m state.db,
      engine.refuses sent.1 sent.2 = false) :
    Realizes (applyProjectDelete engine tenantId m) state m
      (projectDeleteEffect engine tenantId m state.db) := by
  unfold applyProjectDelete projectDeleteEffect
  simp only [projectDeleteStatements, List.mem_cons, forall_eq_or_imp]
    at accepted
  refine Realizes.bind (findProject_eq_of_send
    (send_of_accepted notAborted accepted.1)) ?_
  cases found : state.db.projects.find? m.id with
  | none => exact realizes_accept
  | some project =>
      by_cases foreign : project.tenantId ≠ tenantId
      · simp only [foreignProject, Option.any_some, foreign, decide_true,
          if_true, not_false_eq_true, ne_eq]
        exact realizes_reject .idConflict
      have own : decide (project.tenantId = tenantId) = true :=
        decide_eq_true (not_not.mp foreign)
      simp only [found, Option.any_some, own, Bool.true_and] at accepted
      simp only [foreignProject, Option.any_some, foreign, decide_false,
        Bool.false_eq_true, if_false]
      by_cases deleted : project.deletedAt.isSome = true
      · simp only [Option.isNone_eq_false_iff.mpr deleted, deleted, if_true,
          Bool.false_eq_true, if_false]
        exact realizes_accept
      · have live : project.deletedAt.isNone = true := by simpa using deleted
        simp only [live, if_true, List.mem_singleton, forall_eq] at accepted
        simp only [live, deleted, if_true, Bool.false_eq_true, if_false]
        apply realizes_write_accept
        rw [tombstoneProject,
          bind_of_ok (send_of_accepted notAborted accepted.2)]
        simp [write, Db.tombstoneProject, found]

/-- A task of a project that exists can be written. -/
theorem Db.upsertTask_isSome
    (clock : Nat → Nat) (db : Db) (id tenantId projectId : String)
    (fields : TaskFields)
    (parent : (db.projects.find? projectId).isSome = true) :
    (db.upsertTask clock id tenantId projectId fields).isSome = true := by
  have written : (db.projects.find?
      (db.upsertedTask id tenantId projectId fields).projectId).isSome =
        true := by
    unfold Db.upsertedTask
    cases found : db.tasks.find? id with
    | none => exact parent
    | some task => exact db.taskParent task (db.tasks.mem_of_find? found)
  simp [Db.upsertTask, Db.writeTask, written]

/-- A stored task can be written again. -/
theorem Db.tombstoneTask_isSome
    (clock : Nat → Nat) (now : Nat) {db : Db} {id : String} {task : Task}
    (found : db.tasks.find? id = some task) :
    (db.tombstoneTask clock id now).isSome = true := by
  have written := db.taskParent task (db.tasks.mem_of_find? found)
  simp [Db.tombstoneTask, Db.writeTask, found, written]

/-- The project exists once it is ensured. -/
theorem Db.ensureProject_isSome
    (clock : Nat → Nat) (db : Db) (id tenantId : String) :
    ((db.ensureProject clock id tenantId).projects.find? id).isSome = true := by
  unfold Db.ensureProject
  split
  · assumption
  · simp [Db.stubProject]

/-- The end of a task upsert realizes its effect. -/
theorem applyTaskWrite_realizes
    {projectId : String}
    (parent : (state.db.projects.find? projectId).isSome = true)
    (notAborted : state.aborted = false)
    (accepted : ∀ sent ∈ taskWriteStatements tenantId m state.db projectId,
      engine.refuses sent.1 sent.2 = false) :
    Realizes (applyTaskWrite engine tenantId m projectId) state m
      (taskWriteEffect engine tenantId m state.db projectId) := by
  unfold applyTaskWrite taskWriteEffect
  simp only [taskWriteStatements, List.mem_cons, forall_eq_or_imp] at accepted
  refine Realizes.bind (findTask_eq_of_send
    (send_of_accepted notAborted accepted.1)) ?_
  by_cases foreign :
      foreignTask tenantId (state.db.tasks.find? m.id) = true
  · simp only [foreign, if_true]
    exact realizes_reject .idConflict
  simp only [foreign, Bool.false_eq_true, if_false] at accepted ⊢
  cases fields : m.taskFields with
  | none => exact realizes_validated_none
  | some columns =>
      simp only [fields, List.mem_singleton, forall_eq] at accepted
      obtain ⟨written, writes⟩ := Option.isSome_iff_exists.mp
        (Db.upsertTask_isSome engine.clock state.db m.id tenantId projectId
          columns parent)
      refine Realizes.bind (validated_some columns) ?_
      simp only [writes]
      apply realizes_write_accept
      rw [upsertTask, bind_of_ok (send_of_accepted notAborted accepted.2)]
      simp [write, writes]

/-- A task upsert realizes its effect. -/
theorem applyTaskUpsert_realizes
    (notAborted : state.aborted = false)
    (accepted : ∀ sent ∈ taskUpsertStatements engine tenantId m state.db,
      engine.refuses sent.1 sent.2 = false) :
    Realizes (applyTaskUpsert engine tenantId m) state m
      (taskUpsertEffect engine tenantId m state.db) := by
  unfold applyTaskUpsert taskUpsertEffect
  unfold taskUpsertStatements at accepted
  change Realizes (if invalidTaskUpsert m then _ else _) _ _ _
  by_cases invalid : invalidTaskUpsert m = true
  · simp only [invalid, if_true]
    exact realizes_reject .invalid
  simp only [invalid, Bool.false_eq_true, if_false] at accepted ⊢
  cases argument : textArgument (m.field "projectId") with
  | none => exact realizes_validated_none
  | some projectId =>
      refine Realizes.bind (validated_some projectId) ?_
      simp only [argument, List.mem_cons, forall_eq_or_imp] at accepted
      refine Realizes.bind (findProject_eq_of_send
        (send_of_accepted notAborted accepted.1)) ?_
      by_cases foreign : foreignProject tenantId
          (state.db.projects.find? projectId) = true
      · simp only [foreign, if_true]
        exact realizes_reject .idConflict
      simp only [foreign, Bool.false_eq_true, if_false] at accepted ⊢
      cases parent : state.db.projects.find? projectId with
      | some project =>
          have parentExists :
              (state.db.projects.find? projectId).isSome = true := by
            simp [parent]
          simp only [Option.isNone_some, Bool.false_eq_true, if_false,
            Db.ensureProject, parentExists, if_true]
          apply applyTaskWrite_realizes parentExists notAborted
          simpa [Db.ensureProject, parent] using accepted.2
      | none =>
          -- The stub is written first; the rest meets the database with it.
          have ensured := Db.ensureProject_isSome engine.clock state.db
            projectId tenantId
          simp only [parent, Option.isSome_none, Bool.false_eq_true, if_false,
            List.mem_append, List.mem_singleton] at accepted
          simp only [Option.isNone_none, if_true]
          refine Realizes.bind_write
            (state.db.ensureProject engine.clock projectId tenantId) ?_ ?_
          · rw [createStub, bind_of_ok (send_of_accepted notAborted
              (accepted.2 _ (Or.inl rfl)))]
            simp [write, Db.createStub, Db.ensureProject, parent]
          · exact applyTaskWrite_realizes ensured notAborted
              fun sent member => accepted.2 sent (Or.inr member)

/-- A task delete realizes its effect. -/
theorem applyTaskDelete_realizes
    (notAborted : state.aborted = false)
    (accepted : ∀ sent ∈ taskDeleteStatements tenantId m state.db,
      engine.refuses sent.1 sent.2 = false) :
    Realizes (applyTaskDelete engine tenantId m) state m
      (taskDeleteEffect engine tenantId m state.db) := by
  unfold applyTaskDelete taskDeleteEffect
  simp only [taskDeleteStatements, List.mem_cons, forall_eq_or_imp] at accepted
  refine Realizes.bind (findTask_eq_of_send
    (send_of_accepted notAborted accepted.1)) ?_
  cases found : state.db.tasks.find? m.id with
  | none => exact realizes_accept
  | some task =>
      by_cases foreign : task.tenantId ≠ tenantId
      · simp only [foreignTask, Option.any_some, foreign, decide_true,
          if_true, not_false_eq_true, ne_eq]
        exact realizes_reject .idConflict
      have own : decide (task.tenantId = tenantId) = true :=
        decide_eq_true (not_not.mp foreign)
      simp only [found, Option.any_some, own, Bool.true_and] at accepted
      simp only [foreignTask, Option.any_some, foreign, decide_false,
        Bool.false_eq_true, if_false]
      by_cases deleted : task.deletedAt.isSome = true
      · simp only [Option.isNone_eq_false_iff.mpr deleted, deleted, if_true,
          Bool.false_eq_true, if_false]
        exact realizes_accept
      · have live : task.deletedAt.isNone = true := by simpa using deleted
        obtain ⟨written, writes⟩ := Option.isSome_iff_exists.mp
          (Db.tombstoneTask_isSome engine.clock engine.now found)
        simp only [live, if_true, List.mem_singleton, forall_eq] at accepted
        simp only [live, deleted, if_true, Bool.false_eq_true, if_false, writes]
        apply realizes_write_accept
        rw [tombstoneTask,
          bind_of_ok (send_of_accepted notAborted accepted.2)]
        simp [write, writes]

/-- A mutation whose statements are carried out has its effect and its
answer. -/
theorem iteration_of_accepted
    (notAborted : state.aborted = false)
    (accepted : refused engine tenantId m state.db = false) :
    iteration engine tenantId m state =
      .ok () (state.settle m (mutate engine tenantId m state.db)) := by
  have carriedOut : ∀ sent ∈ statements engine tenantId m state.db,
      engine.refuses sent.1 sent.2 = false := by
    simpa [refused] using accepted
  have realizes : Realizes (applyMutation engine tenantId m) state m
      (mutate engine tenantId m state.db) := by
    unfold applyMutation mutate
    unfold statements at carriedOut
    cases table : m.table <;> cases op : m.op <;>
      simp only [table, op] at carriedOut ⊢
    · exact applyProjectUpsert_realizes notAborted carriedOut
    · exact applyProjectDelete_realizes notAborted carriedOut
    · exact applyTaskUpsert_realizes notAborted carriedOut
    · exact applyTaskDelete_realizes notAborted carriedOut
  obtain succeeds | ⟨throws, verdict⟩ := realizes
  · exact iteration_of_ok succeeds
  · rw [iteration_of_error throws, BatchState.settle, verdict]

/-! ## Iterations the database refuses -/

/-- The body throws and leaves the transaction aborted over `db`. -/
def Aborts (body : BatchM Unit) (state : BatchState) (db : Db) : Prop :=
  ∃ error, body state = .error error { state with db := db, aborted := true }

theorem Aborts.bind {α : Type}
    {first : BatchM α} {second : α → BatchM Unit}
    {value : α} {db : Db}
    (succeeds : first state = .ok value state)
    (aborts : Aborts (second value) state db) :
    Aborts (first >>= second) state db := by
  obtain ⟨error, throws⟩ := aborts
  exact ⟨error, by rw [bind_of_ok succeeds, throws]⟩

/-- The first statement of a call is refused. -/
theorem aborts_of_send {α : Type}
    {statement : Statement} {rest : Unit → BatchM α}
    {second : α → BatchM Unit}
    (notAborted : state.aborted = false)
    (refusal : engine.refuses state.db statement = true) :
    Aborts ((send engine statement >>= rest) >>= second) state state.db :=
  ⟨.refused, bind_of_error
    (bind_of_error (send_of_refused notAborted refusal))⟩

/-- Every statement sent into an aborted transaction throws. -/
theorem aborts_of_aborted {α : Type}
    {statement : Statement} {rest : Unit → BatchM α}
    {second : α → BatchM Unit}
    (isAborted : state.aborted = true) :
    ((send engine statement >>= rest) >>= second) state =
      .error .aborted state :=
  bind_of_error (bind_of_error (send_of_aborted isAborted))

theorem applyProjectUpsert_aborts
    (notAborted : state.aborted = false)
    (refusal : (projectUpsertStatements tenantId m state.db).any
      (fun sent => engine.refuses sent.1 sent.2) = true) :
    Aborts (applyProjectUpsert engine tenantId m) state state.db := by
  unfold applyProjectUpsert
  unfold projectUpsertStatements at refusal
  change Aborts (if invalidProjectUpsert m then _ else _) _ _
  by_cases invalid : invalidProjectUpsert m = true
  · simp [invalid] at refusal
  simp only [invalid, Bool.false_eq_true, if_false, List.any_cons,
    Bool.or_eq_true] at refusal ⊢
  by_cases first : engine.refuses state.db (.findProject m.id) = true
  · exact aborts_of_send notAborted first
  refine Aborts.bind (findProject_eq_of_send
    (send_of_accepted notAborted (Bool.not_eq_true _ ▸ first))) ?_
  by_cases foreign :
      foreignProject tenantId (state.db.projects.find? m.id) = true
  · simp [foreign, first] at refusal
  simp only [foreign, Bool.false_eq_true, if_false, first, false_or]
    at refusal ⊢
  cases fields : m.projectFields with
  | none => simp [fields] at refusal
  | some columns =>
      simp only [fields, List.any_cons, List.any_nil, Bool.or_false] at refusal
      exact Aborts.bind (validated_some columns)
        (aborts_of_send notAborted refusal)

theorem applyProjectDelete_aborts
    (notAborted : state.aborted = false)
    (refusal : (projectDeleteStatements tenantId m state.db).any
      (fun sent => engine.refuses sent.1 sent.2) = true) :
    Aborts (applyProjectDelete engine tenantId m) state state.db := by
  unfold applyProjectDelete
  simp only [projectDeleteStatements, List.any_cons, Bool.or_eq_true]
    at refusal
  by_cases first : engine.refuses state.db (.findProject m.id) = true
  · exact aborts_of_send notAborted first
  refine Aborts.bind (findProject_eq_of_send
    (send_of_accepted notAborted (Bool.not_eq_true _ ▸ first))) ?_
  cases found : state.db.projects.find? m.id with
  | none => simp [found, first] at refusal
  | some project =>
      simp only [found, first, Option.any_some, Bool.false_eq_true,
        false_or] at refusal
      by_cases live : (decide (project.tenantId = tenantId) &&
          project.deletedAt.isNone) = true
      · simp only [live, if_true, List.any_cons, List.any_nil,
          Bool.or_false] at refusal
        simp only [Bool.and_eq_true, decide_eq_true_eq] at live
        simp only [foreignProject, Option.any_some, live, ne_eq, not_true,
          decide_false, Bool.false_eq_true, if_false, if_true]
        exact aborts_of_send notAborted refusal
      · simp [live] at refusal

theorem applyTaskDelete_aborts
    (notAborted : state.aborted = false)
    (refusal : (taskDeleteStatements tenantId m state.db).any
      (fun sent => engine.refuses sent.1 sent.2) = true) :
    Aborts (applyTaskDelete engine tenantId m) state state.db := by
  unfold applyTaskDelete
  simp only [taskDeleteStatements, List.any_cons, Bool.or_eq_true] at refusal
  by_cases first : engine.refuses state.db (.findTask m.id) = true
  · exact aborts_of_send notAborted first
  refine Aborts.bind (findTask_eq_of_send
    (send_of_accepted notAborted (Bool.not_eq_true _ ▸ first))) ?_
  cases found : state.db.tasks.find? m.id with
  | none => simp [found, first] at refusal
  | some task =>
      simp only [found, first, Option.any_some, Bool.false_eq_true,
        false_or] at refusal
      by_cases live : (decide (task.tenantId = tenantId) &&
          task.deletedAt.isNone) = true
      · simp only [live, if_true, List.any_cons, List.any_nil,
          Bool.or_false] at refusal
        simp only [Bool.and_eq_true, decide_eq_true_eq] at live
        simp only [foreignTask, Option.any_some, live, ne_eq, not_true,
          decide_false, Bool.false_eq_true, if_false, if_true]
        exact aborts_of_send notAborted refusal
      · simp [live] at refusal

theorem applyTaskWrite_aborts
    {projectId : String}
    (notAborted : state.aborted = false)
    (refusal : (taskWriteStatements tenantId m state.db projectId).any
      (fun sent => engine.refuses sent.1 sent.2) = true) :
    Aborts (applyTaskWrite engine tenantId m projectId) state state.db := by
  unfold applyTaskWrite
  simp only [taskWriteStatements, List.any_cons, Bool.or_eq_true] at refusal
  by_cases first : engine.refuses state.db (.findTask m.id) = true
  · exact aborts_of_send notAborted first
  refine Aborts.bind (findTask_eq_of_send
    (send_of_accepted notAborted (Bool.not_eq_true _ ▸ first))) ?_
  by_cases foreign :
      foreignTask tenantId (state.db.tasks.find? m.id) = true
  · simp [foreign, first] at refusal
  simp only [foreign, Bool.false_eq_true, if_false, first, false_or]
    at refusal ⊢
  cases fields : m.taskFields with
  | none => simp [fields] at refusal
  | some columns =>
      simp only [fields, List.any_cons, List.any_nil, Bool.or_false] at refusal
      exact Aborts.bind (validated_some columns)
        (aborts_of_send notAborted refusal)

/-- A refused task upsert may have left the stub of its project. -/
theorem applyTaskUpsert_aborts
    (notAborted : state.aborted = false)
    (refusal : (taskUpsertStatements engine tenantId m state.db).any
      (fun sent => engine.refuses sent.1 sent.2) = true) :
    Aborts (applyTaskUpsert engine tenantId m) state state.db ∨
      ∃ projectId, Aborts (applyTaskUpsert engine tenantId m) state
        (state.db.ensureProject engine.clock projectId tenantId) := by
  unfold applyTaskUpsert
  unfold taskUpsertStatements at refusal
  change Aborts (if invalidTaskUpsert m then _ else _) _ _ ∨
    ∃ projectId, Aborts (if invalidTaskUpsert m then _ else _) _ _
  by_cases invalid : invalidTaskUpsert m = true
  · simp [invalid] at refusal
  simp only [invalid, Bool.false_eq_true, if_false] at refusal ⊢
  cases argument : textArgument (m.field "projectId") with
  | none => simp [argument] at refusal
  | some projectId =>
      simp only [argument, List.any_cons, Bool.or_eq_true] at refusal
      by_cases first :
          engine.refuses state.db (.findProject projectId) = true
      · exact Or.inl (Aborts.bind (validated_some projectId)
          (aborts_of_send notAborted first))
      have lookup := findProject_eq_of_send
        (send_of_accepted notAborted (Bool.not_eq_true _ ▸ first))
      by_cases foreign : foreignProject tenantId
          (state.db.projects.find? projectId) = true
      · simp [foreign, first] at refusal
      simp only [foreign, Bool.false_eq_true, if_false, first, false_or,
        List.any_append, Bool.or_eq_true] at refusal
      cases parent : state.db.projects.find? projectId with
      | some project =>
          rw [parent] at foreign
          left
          refine Aborts.bind (validated_some projectId)
            (Aborts.bind lookup ?_)
          simp only [parent, foreign, Bool.false_eq_true, if_false,
            Option.isNone_some]
          apply applyTaskWrite_aborts notAborted
          simpa [parent, Db.ensureProject] using refusal
      | none =>
          simp only [parent, Option.isSome_none, Bool.false_eq_true, if_false,
            List.any_cons, List.any_nil, Bool.or_false] at refusal
          rw [parent] at foreign
          by_cases second :
              engine.refuses state.db (.createStub projectId tenantId) = true
          · left
            refine Aborts.bind (validated_some projectId)
              (Aborts.bind lookup ?_)
            simp only [parent, foreign, Bool.false_eq_true, if_false,
              Option.isNone_none, if_true]
            exact aborts_of_send notAborted second
          · right
            refine ⟨projectId, Aborts.bind (validated_some projectId)
              (Aborts.bind lookup ?_)⟩
            simp only [parent, foreign, Bool.false_eq_true, if_false,
              Option.isNone_none, if_true]
            have created : createStub engine projectId tenantId state =
                .ok () { state with
                  db := state.db.ensureProject engine.clock projectId
                    tenantId } := by
              rw [createStub, bind_of_ok (send_of_accepted notAborted
                (Bool.not_eq_true _ ▸ second))]
              simp [write, Db.createStub, Db.ensureProject, parent]
            obtain ⟨error, throws⟩ : Aborts
                (applyTaskWrite engine tenantId m projectId)
                { state with
                  db := state.db.ensureProject engine.clock projectId
                    tenantId } _ :=
              applyTaskWrite_aborts notAborted (refusal.resolve_left second)
            exact ⟨error, by rw [bind_of_ok created, throws]⟩

/-- A mutation one of whose statements is refused is answered as invalid and
leaves the transaction aborted; what it wrote is at most a stub. -/
theorem iteration_of_refused
    (notAborted : state.aborted = false)
    (refusal : refused engine tenantId m state.db = true) :
    ∃ db, (db = state.db ∨
        ∃ projectId, db =
          state.db.ensureProject engine.clock projectId tenantId) ∧
      iteration engine tenantId m state =
        .ok () (BatchState.answer { state with db := db, aborted := true } m
          (.rejected .invalid)) := by
  have aborts : Aborts (applyMutation engine tenantId m) state state.db ∨
      ∃ projectId, Aborts (applyMutation engine tenantId m) state
        (state.db.ensureProject engine.clock projectId tenantId) := by
    unfold applyMutation
    unfold refused statements at refusal
    cases table : m.table <;> cases op : m.op <;>
      simp only [table, op] at refusal ⊢
    · exact Or.inl (applyProjectUpsert_aborts notAborted refusal)
    · exact Or.inl (applyProjectDelete_aborts notAborted refusal)
    · exact applyTaskUpsert_aborts notAborted refusal
    · exact Or.inl (applyTaskDelete_aborts notAborted refusal)
  obtain ⟨error, throws⟩ | ⟨projectId, error, throws⟩ := aborts
  · exact ⟨state.db, Or.inl rfl, iteration_of_error throws⟩
  · exact ⟨_, Or.inr ⟨projectId, rfl⟩, iteration_of_error throws⟩

/-- In an aborted transaction every mutation is answered as invalid. -/
theorem iteration_of_aborted
    (isAborted : state.aborted = true) :
    iteration engine tenantId m state =
      .ok () (state.answer m (.rejected .invalid)) := by
  have outcome : applyMutation engine tenantId m state =
        .ok () (state.answer m (.rejected .invalid)) ∨
      ∃ error, applyMutation engine tenantId m state =
        .error error state := by
    unfold applyMutation
    cases m.table <;> cases m.op
    · by_cases invalid : invalidProjectUpsert m = true
      · left
        change (if invalidProjectUpsert m then _ else _ : BatchM Unit) _ = _
        rw [if_pos invalid]
        rfl
      · right
        refine ⟨.aborted, ?_⟩
        change (if invalidProjectUpsert m then _ else _ : BatchM Unit) _ = _
        rw [if_neg invalid]
        exact aborts_of_aborted isAborted
    · exact Or.inr ⟨.aborted, aborts_of_aborted isAborted⟩
    · by_cases invalid : invalidTaskUpsert m = true
      · left
        change (if invalidTaskUpsert m then _ else _ : BatchM Unit) _ = _
        rw [if_pos invalid]
        rfl
      · right
        cases argument : textArgument (m.field "projectId") with
        | none =>
            refine ⟨.client, ?_⟩
            change (if invalidTaskUpsert m then _ else _ : BatchM Unit) _ = _
            rw [if_neg invalid, argument]
            exact bind_of_error validated_none
        | some projectId =>
            refine ⟨.aborted, ?_⟩
            change (if invalidTaskUpsert m then _ else _ : BatchM Unit) _ = _
            rw [if_neg invalid, argument, bind_of_ok (validated_some projectId)]
            exact aborts_of_aborted isAborted
    · exact Or.inr ⟨.aborted, aborts_of_aborted isAborted⟩
  obtain succeeds | ⟨error, throws⟩ := outcome
  · exact iteration_of_ok succeeds
  · exact iteration_of_error throws

end Running

/-! ## Whole batches -/

section Batches

variable (engine : Engine) (tenantId : String)

/-- The batch when the database carries out every statement. -/
def settleBatch (mutations : List SyncMutation) (state : BatchState) :
    BatchState :=
  mutations.foldl
    (fun state m => state.settle m (mutate engine tenantId m state.db)) state

/-- The database refuses a statement of the batch. -/
def batchRefused : List SyncMutation → Db → Bool
  | [], _ => false
  | m :: mutations, db =>
      refused engine tenantId m db ||
        batchRefused mutations (mutate engine tenantId m db).1

@[simp] theorem BatchState.db_settle
    (state : BatchState) (m : SyncMutation) (effect : Db × Verdict) :
    (state.settle m effect).db = effect.1 := by
  simp [BatchState.settle]

@[simp] theorem BatchState.aborted_settle
    (state : BatchState) (m : SyncMutation) (effect : Db × Verdict) :
    (state.settle m effect).aborted = state.aborted := by
  simp [BatchState.settle]

@[simp] theorem settleBatch_nil (state : BatchState) :
    settleBatch engine tenantId [] state = state := rfl

@[simp] theorem settleBatch_cons
    (m : SyncMutation) (mutations : List SyncMutation) (state : BatchState) :
    settleBatch engine tenantId (m :: mutations) state =
      settleBatch engine tenantId mutations
        (state.settle m (mutate engine tenantId m state.db)) := rfl

@[simp] theorem applyMutations_nil (state : BatchState) :
    applyMutations engine tenantId [] state = .ok () state := rfl

/-- The loop runs one iteration and goes on. -/
theorem applyMutations_cons
    {m : SyncMutation} {mutations : List SyncMutation}
    {state next : BatchState}
    (iterated : iteration engine tenantId m state = .ok () next) :
    applyMutations engine tenantId (m :: mutations) state =
      applyMutations engine tenantId mutations next := by
  change (iteration engine tenantId m >>=
    fun _ => applyMutations engine tenantId mutations) state = _
  exact bind_of_ok iterated

/-- What an iteration does to any state. -/
inductive Iterates (m : SyncMutation) (state : BatchState) :
    BatchState → Prop
  | settled :
      state.aborted = false →
      refused engine tenantId m state.db = false →
      Iterates m state (state.settle m (mutate engine tenantId m state.db))
  | refused (db : Db) :
      state.aborted = false →
      Sync.refused engine tenantId m state.db = true →
      (db = state.db ∨ ∃ projectId,
        db = state.db.ensureProject engine.clock projectId tenantId) →
      Iterates m state
        (BatchState.answer { state with db := db, aborted := true } m
          (.rejected .invalid))
  | aborted :
      state.aborted = true →
      Iterates m state (state.answer m (.rejected .invalid))

/-- An iteration never throws, and is one of these cases. -/
theorem iteration_iterates (m : SyncMutation) (state : BatchState) :
    ∃ next, iteration engine tenantId m state = .ok () next ∧
      Iterates engine tenantId m state next := by
  cases isAborted : state.aborted with
  | true =>
      exact ⟨_, iteration_of_aborted isAborted, .aborted isAborted⟩
  | false =>
      cases refusal : refused engine tenantId m state.db with
      | false =>
          exact ⟨_, iteration_of_accepted isAborted refusal,
            .settled isAborted refusal⟩
      | true =>
          obtain ⟨db, stub, iterated⟩ := iteration_of_refused isAborted refusal
          exact ⟨_, iterated, .refused db isAborted refusal stub⟩

/-- The loop rule: what every iteration keeps holds after the batch. -/
theorem applyMutations_invariant
    (holds : List SyncMutation → BatchState → Prop)
    (kept : ∀ processed m state next,
      holds processed state → Iterates engine tenantId m state next →
        holds (processed ++ [m]) next)
    (mutations : List SyncMutation)
    (state : BatchState)
    (initially : holds [] state) :
    ∃ final, applyMutations engine tenantId mutations state = .ok () final ∧
      holds mutations final := by
  suffices general : ∀ processed state, holds processed state →
      ∃ final, applyMutations engine tenantId mutations state = .ok () final ∧
        holds (processed ++ mutations) final from
    general [] state initially
  induction mutations with
  | nil =>
      intro processed state held
      exact ⟨state, rfl, by simpa using held⟩
  | cons m mutations inductionHypothesis =>
      intro processed state held
      obtain ⟨next, iterated, step⟩ :=
        iteration_iterates engine tenantId m state
      obtain ⟨final, rest, heldFinally⟩ := inductionHypothesis
        (processed ++ [m]) next (kept processed m state next held step)
      refine ⟨final, ?_, by simpa using heldFinally⟩
      rw [applyMutations_cons engine tenantId iterated, rest]

/-- A batch that the database carries out has the effects and answers of its
mutations, one after another. -/
theorem applyMutations_of_accepted
    (mutations : List SyncMutation)
    {state : BatchState}
    (notAborted : state.aborted = false)
    (accepted : batchRefused engine tenantId mutations state.db = false) :
    applyMutations engine tenantId mutations state =
      .ok () (settleBatch engine tenantId mutations state) := by
  induction mutations generalizing state with
  | nil => rfl
  | cons m mutations inductionHypothesis =>
      simp only [batchRefused, Bool.or_eq_false_iff] at accepted
      rw [applyMutations_cons engine tenantId
        (iteration_of_accepted notAborted accepted.1)]
      apply inductionHypothesis
      · simpa using notAborted
      · simpa using accepted.2

/-- An aborted transaction stays aborted. -/
theorem applyMutations_of_aborted
    (mutations : List SyncMutation)
    {state : BatchState}
    (isAborted : state.aborted = true) :
    ∃ final, applyMutations engine tenantId mutations state = .ok () final ∧
      final.aborted = true := by
  induction mutations generalizing state with
  | nil => exact ⟨state, rfl, isAborted⟩
  | cons m mutations inductionHypothesis =>
      rw [applyMutations_cons engine tenantId (iteration_of_aborted isAborted)]
      apply inductionHypothesis
      simpa using isAborted

/-- A refused statement leaves the whole transaction aborted. -/
theorem applyMutations_of_refused
    (mutations : List SyncMutation)
    {state : BatchState}
    (notAborted : state.aborted = false)
    (refusal : batchRefused engine tenantId mutations state.db = true) :
    ∃ final, applyMutations engine tenantId mutations state = .ok () final ∧
      final.aborted = true := by
  induction mutations generalizing state with
  | nil => simp [batchRefused] at refusal
  | cons m mutations inductionHypothesis =>
      cases first : refused engine tenantId m state.db with
      | true =>
          obtain ⟨db, _, iterated⟩ := iteration_of_refused notAborted first
          rw [applyMutations_cons engine tenantId iterated]
          exact applyMutations_of_aborted engine tenantId mutations (by simp)
      | false =>
          rw [applyMutations_cons engine tenantId
            (iteration_of_accepted notAborted first)]
          apply inductionHypothesis
          · simpa using notAborted
          · simpa [batchRefused, first] using refusal

end Batches

end Sync
end EvoPlatform
