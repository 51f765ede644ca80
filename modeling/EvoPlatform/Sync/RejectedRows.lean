import EvoPlatform.Sync.ProjectReplica
import EvoPlatform.Sync.Snapshots
import EvoPlatform.Sync.TaskReplica
import EvoPlatform.Sync.Visible

/-!
# Rows of rejected mutations

A rejected mutation leaves the outbox together with everything else that the
snapshot has seen of its row, and the local row stays as it was written.  It is
put right by a pull that comes later only if the server has a row beyond the
cursor; and the row of a rejected deletion is right already, as it is not there.
-/

namespace EvoPlatform
namespace Sync

open Offline

/-! ## Removals -/

section Removal

variable {taken outbox : Outbox} {answered : OutboxMutation → Bool}

/-- An entry that is removed was seen by the snapshot, and what the snapshot has
seen of its row is removed with it. -/
theorem isLast_of_removed
    {m : OutboxMutation}
    (covered : ∀ m ∈ outbox.entries, m.seq < taken.nextSeq →
      m ∈ taken.entries)
    (present : m ∈ outbox.entries)
    (removed : m ∉ (outbox.bulkDelete
      (taken.snapshotForDrain.seqsOf answered)).entries) :
    (∃ sent, IsLast taken.entries sent ∧ sent.table = m.table ∧
      sent.rowId = m.rowId) ∧
    ∀ other ∈ taken.entries, other.table = m.table → other.rowId = m.rowId →
      other ∉ (outbox.bulkDelete
        (taken.snapshotForDrain.seqsOf answered)).entries := by
  have isRemoved : m.seq ∈ taken.snapshotForDrain.seqsOf answered := by
    by_contra kept
    refine removed (List.mem_filter.mpr ⟨present, ?_⟩)
    simpa using kept
  obtain ⟨sent, isSent, isAnswered, seen, wasThere, sameKey, same⟩ :=
    mem_seqsOf_snapshotForDrain.mp isRemoved
  have sawIt := covered m present (same ▸ taken.bounded seen wasThere)
  obtain rfl := taken.seq_injective wasThere sawIt same
  have sameRow := rowKeyOf_inj.mp sameKey
  refine ⟨⟨sent, mem_toSend_iff_isLast.mp isSent, sameRow.1.symm,
    sameRow.2.symm⟩, fun other sawOther table rowId kept => ?_⟩
  have otherRemoved : other.seq ∈ taken.snapshotForDrain.seqsOf answered :=
    mem_seqsOf_snapshotForDrain.mpr ⟨sent, isSent, isAnswered, other, sawOther,
      rowKeyOf_inj.mpr ⟨table.trans sameRow.1, rowId.trans sameRow.2⟩, rfl⟩
  have := (List.mem_filter.mp kept).2
  simp [otherRemoved] at this

/-- A removal leaves the last mutations of the other rows. -/
theorem isLast_of_bulkDelete
    {m : OutboxMutation}
    (covered : ∀ m ∈ outbox.entries, m.seq < taken.nextSeq →
      m ∈ taken.entries)
    (isLast : IsLast (outbox.bulkDelete
      (taken.snapshotForDrain.seqsOf answered)).entries m) :
    IsLast outbox.entries m := by
  have present := mem_of_mem_bulkDelete isLast.1
  refine ⟨present, fun other there table rowId => ?_⟩
  by_contra newer
  -- The later one was removed, and then so was this one.
  have removed : other ∉ (outbox.bulkDelete
      (taken.snapshotForDrain.seqsOf answered)).entries :=
    fun kept => newer (isLast.2 other kept table rowId)
  have old := seen_of_removed there removed
  have seen := covered m present ((Nat.not_le.mp newer).trans old)
  exact (isLast_of_removed covered there removed).2 m seen table.symm
    rowId.symm isLast.1

end Removal

/-! ## Shadows while rejected mutations are dropped -/

/-- A peer that is dropping rejected mutations, at the removal before that. -/
def Peer.rewound (peer : Peer) : Peer :=
  match peer.client.phase with
  | .dropping loop snapshot data =>
      { peer with
        client := { peer.client with phase := .clearing loop snapshot data } }
  | _ => peer

section Rewound

variable {server : Db} {peer : Peer}

theorem rewound_of_ne
    (elsewhere : ∀ loop snapshot data,
      peer.client.phase ≠ .dropping loop snapshot data) :
    peer.rewound = peer := by
  unfold Peer.rewound
  split
  · rename_i here
    exact absurd here (elsewhere _ _ _)
  · rfl

theorem rewound_of_dropping
    {loop : Nat} {snapshot : DrainSnapshot} {data : SyncResponse}
    (dropping : peer.client.phase = .dropping loop snapshot data) :
    peer.rewound = { peer with
      client := { peer.client with phase := .clearing loop snapshot data } }
    := by
  unfold Peer.rewound
  rw [dropping]

theorem db_rewound : peer.rewound.client.db = peer.client.db := by
  unfold Peer.rewound
  split <;> rfl

theorem taken_rewound : peer.rewound.taken = peer.taken := by
  unfold Peer.rewound
  split <;> rfl

theorem settledAt_rewound : peer.rewound.settledAt = peer.settledAt := by
  unfold Peer.rewound
  split <;> rfl

theorem rewound_wrote (write : LocalWrite) (calls : Calls) :
    (peer.wrote write calls).rewound = peer.rewound.wrote write calls := by
  cases phase : peer.client.phase <;>
    simp [Peer.rewound, Peer.wrote, phase]

/-- A peer with a snapshot under way holds on to it. -/
theorem holding_of_sending_rewound
    (sending : peer.rewound.sending = true) :
    peer.holding = true := by
  cases phase : peer.client.phase <;>
    simp_all [Peer.rewound, Peer.sending, Peer.holding]

theorem Ordered.rewound
    (ordered : Ordered server peer) :
    Ordered server peer.rewound := by
  unfold Peer.rewound
  split
  · rename_i loop snapshot data dropping
    refine ⟨ordered.cursor_le, ?_, by simp [Peer.advancing?], by simp,
      ordered.servedAt, ordered.settledAt⟩
    rintro _ ⟨⟩
    exact ordered.answer data (by simp [Peer.answer?, dropping])
  · exact ordered

end Rewound

/-- A peer after a removal. -/
def Peer.removed (peer : Peer) (answered : OutboxMutation → Bool) : Peer :=
  { peer with
    client := { peer.client with
      db := { peer.client.db with
        outbox := peer.client.db.outbox.bulkDelete
          (peer.taken.snapshotForDrain.seqsOf answered) } } }

theorem removed_of_clearing
    {peer : Peer} {answered : OutboxMutation → Bool} {loop : Nat}
    {snapshot : DrainSnapshot} {data : SyncResponse}
    (clearing : peer.client.phase = .clearing loop snapshot data) :
    peer.removed answered = { peer with
      client := { peer.client with
        db := { peer.client.db with
          outbox := peer.client.db.outbox.bulkDelete
            (peer.taken.snapshotForDrain.seqsOf answered) }
        phase := .clearing loop snapshot data } } := by
  rw [← clearing]
  rfl

namespace Shadows

variable {ρ ω β : Type} {kind : Kind ρ ω β} {tenantId : String}
  {excused : Outbox → ρ → Prop} {server : Db} {peer : Peer} {loop : Nat}
  {snapshot : DrainSnapshot} {data : SyncResponse}

/-- Any removal of what the snapshot has seen keeps the shadows, as all of it may
leave the outbox. -/
theorem removed
    (shadows : Shadows kind tenantId excused server peer)
    (answered : OutboxMutation → Bool)
    (clearing : peer.client.phase = .clearing loop snapshot data)
    (covered : ∀ m ∈ peer.client.db.outbox.entries,
      m.seq < peer.taken.nextSeq → m ∈ peer.taken.entries)
    (excuses : ∀ before after row, excused before row → excused after row) :
    Shadows kind tenantId excused server (peer.removed answered) := by
  have sending : peer.sending = true := by simp [Peer.sending, clearing]
  have isAnswered : peer.answer?.isSome = true := by
    simp [Peer.answer?, clearing]
  -- What was queued since the snapshot stays.
  have stays : ∀ m ∈ peer.client.db.outbox.entries,
      peer.taken.nextSeq ≤ m.seq →
        m ∈ (peer.removed answered).client.db.outbox.entries := by
    intro m present newer
    by_contra gone
    have := seen_of_removed present gone
    omega
  refine ⟨?_, ?_, ?_, ?_, shadows.covers, shadows.ahead, ?_, shadows.atHead⟩
  · refine Synced.settle shadows.synced ?_
      (fun _ row _ _ excuse => Or.inl (excuses _ _ row excuse))
    intro id wasPending notPending
    rw [Outbox.hasPending_iff] at wasPending notPending
    obtain ⟨m, present, table, rowId⟩ := wasPending
    have gone : m ∉ (peer.removed answered).client.db.outbox.entries :=
      fun kept => notPending ⟨m, kept, table, rowId⟩
    obtain ⟨sent, isLast, sameTable, sameRow⟩ :=
      (isLast_of_removed covered present gone).1
    have isRow : sent.rowId = id := sameRow.trans rowId
    have settles := shadows.settled sending isAnswered sent isLast
      (sameTable.trans table)
    change (kind.rows server tenantId sent.rowId = none → sent.op = .delete) ∧
      ∀ row, kind.rows server tenantId sent.rowId = some row →
        kind.version row ≤ peer.client.db.cursor →
          sent.op = .delete ∧ kind.display (kind.wire row) = none at settles
    rw [isRow] at settles
    have absent : sent.op = .delete →
        kind.replica peer.client.db id = none := by
      intro op
      rcases shadows.sentDelete sending sent isLast (sameTable.trans table)
        op with ⟨other, there, newer, otherTable, otherRow⟩ | none
      · exact absurd ⟨other, stays other there newer, otherTable,
          otherRow.trans isRow⟩ notPending
      · exact isRow ▸ none
    refine ⟨fun missing => absent (settles.1 missing), ?_⟩
    intro row found upTo
    obtain ⟨op, nothing⟩ := settles.2 row found upTo
    exact (absent op).trans nothing.symm
  · exact fun m isLast =>
      shadows.lastDelete m (isLast_of_bulkDelete covered isLast)
  · intro _ sent isLast table op
    refine (shadows.sentDelete sending sent isLast table op).imp_left ?_
    rintro ⟨m, present, newer, facts⟩
    exact ⟨m, stays m present newer, newer, facts⟩
  · exact fun _ _ => shadows.settled sending isAnswered
  · intro other advancing
    simp [Peer.advancing?, Peer.removed, clearing] at advancing

/-- Once nothing is left to remove the pull is worked in. -/
theorem toApplying
    (shadows : Shadows kind tenantId excused server peer)
    (clearing : peer.client.phase = .clearing loop snapshot data) :
    Shadows kind tenantId excused server
      { peer with client := { peer.client with phase := .applying loop data } }
    := by
  have answered : peer.answer? = some data := by
    simp [Peer.answer?, clearing]
  refine ⟨shadows.synced, shadows.lastDelete, by simp [Peer.sending],
    by simp [Peer.sending], ?_, ?_, by simp [Peer.advancing?], shadows.atHead⟩
  · rintro _ ⟨⟩
    exact shadows.covers data answered
  · intro other holding
    simp only [Peer.answer?, Peer.advancing?, Option.some.injEq, reduceCtorEq,
      or_false] at holding
    exact holding ▸ shadows.ahead data (Or.inl answered)

/-- Pages are worked in, and bring back no row with a queued write. -/
def Pages (kind : Kind ρ ω β) (tenantId : String)
    (excused : Outbox → ρ → Prop) : Prop :=
  ∀ server db (data : SyncResponse),
    kind.SyncedUpTo tenantId excused server db db.cursor →
      Covers kind.version kind.wire kind.keyOf (kind.rows server tenantId)
        (kind.page data) db.cursor data.cursor →
        kind.SyncedUpTo tenantId excused server (applyChanges db data)
            data.cursor ∧
          ∀ id, db.outbox.hasPending kind.table id = true →
            kind.replica db id = none →
              kind.replica (applyChanges db data) id = none

/-- A move of the loop, whatever it removes. -/
theorem move_rewound
    {next : Peer}
    (shadows : Shadows kind tenantId excused server peer.rewound)
    (tracks : Tracks peer)
    (ordered : Ordered server peer)
    (excuses : ∀ before after row, excused before row → excused after row)
    (pages : Pages kind tenantId excused)
    (moves : PeerMoves peer next) :
    Shadows kind tenantId excused server next.rewound := by
  have ordinary : (∀ loop snapshot data,
      peer.client.phase ≠ .dropping loop snapshot data) →
        (∀ loop snapshot data,
          peer.client.phase ≠ .clearing loop snapshot data) →
          (∀ loop snapshot data,
            next.client.phase ≠ .dropping loop snapshot data) →
            Shadows kind tenantId excused server next.rewound := by
    intro notDropping notClearing nextNotDropping
    rw [rewound_of_ne notDropping] at shadows
    rw [rewound_of_ne nextNotDropping]
    refine shadows.moved ordered tracks.noReply
      (fun loop snapshot data here => absurd here (notClearing _ _ _))
      (fun loop snapshot data here => absurd here (notDropping _ _ _)) ?_ moves
    intro loop data applying
    exact pages _ _ _ shadows.synced
      (shadows.covers data (by simp [Peer.answer?, applying]))
  cases moves with
  | started idle => exact ordinary (by simp [idle]) (by simp [idle]) (by simp)
  | sent loop draining =>
      exact ordinary (by simp [draining]) (by simp [draining]) (by simp)
  | stopped =>
      have synced := shadows.synced
      have lastDelete := shadows.lastDelete
      have atHead := shadows.atHead
      rw [db_rewound] at synced lastDelete atHead
      rw [settledAt_rewound] at atHead
      exact .of_ended rfl synced lastDelete atHead
  | gaveUp loop draining =>
      exact ordinary (by simp [draining]) (by simp [draining]) (by simp)
  | resyncing loop snapshot request data awaiting replied resync =>
      exact ordinary (by simp [awaiting]) (by simp [awaiting]) (by simp)
  | answered loop snapshot request data awaiting replied noResync =>
      exact ordinary (by simp [awaiting]) (by simp [awaiting]) (by simp)
  | wiped loop resyncing =>
      exact ordinary (by simp [resyncing]) (by simp [resyncing]) (by simp)
  | cleared loop snapshot data clearing =>
      have holding : peer.holding = true := by simp [Peer.holding, clearing]
      rw [rewound_of_ne (by simp [clearing])] at shadows
      have removed := shadows.removed
        (fun m => data.applied.contains m.seq) clearing
        (tracks.covered holding) excuses
      obtain rfl := tracks.clearing _ _ _ clearing
      rw [removed_of_clearing clearing] at removed
      exact removed
  | dropped loop snapshot data dropping =>
      have holding : peer.holding = true := by simp [Peer.holding, dropping]
      rw [rewound_of_dropping dropping] at shadows
      have removed := (shadows.removed
        (fun m => (data.rejected.map Prod.fst).contains m.seq) rfl
        (tracks.covered holding) excuses).toApplying rfl
      obtain rfl := tracks.dropping _ _ _ dropping
      exact removed
  | applied loop data applying =>
      exact ordinary (by simp [applying]) (by simp [applying]) (by simp)
  | continued loop data settledAt advancing isNone =>
      exact ordinary (by simp [advancing]) (by simp [advancing]) (by simp)
  | finished loop data advancing last =>
      exact ordinary (by simp [advancing]) (by simp [advancing]) (by simp)

end Shadows

/-! ## Served mutations -/

section Served

variable {ρ ω β : Type} {engine : Engine} {tenantId : String} {cursor : Nat}

/-- A mutation leaves the local row right, whatever the answer to it: it is
applied, or it is a deletion, or the server has a project beyond the cursor. -/
def SyncMutation.leavesRight (tenantId : String) (db : Db) (cursor : Nat)
    (m : SyncMutation) : Bool :=
  m.verdict (db.foreignProjects tenantId) (db.foreignTasks tenantId) =
      .applied ||
    m.op = .delete ||
    m.table = .project && (db.ownProject tenantId m.id).any fun project =>
      cursor < project.rowVersion

theorem ownProject_of_foreign
    {db : Db} {id : String}
    (foreign : db.foreignProjects tenantId id = true) :
    db.ownProject tenantId id = none := by
  rw [Option.eq_none_iff_forall_not_mem]
  intro project own
  obtain ⟨found, isOwn⟩ := (Db.ownProject_eq_some_iff _ _ _ _).mp own
  simp [Db.foreignProjects, foreignProject, found, isOwn] at foreign

theorem ownTask_of_foreign
    {db : Db} {id : String}
    (foreign : db.foreignTasks tenantId id = true) :
    db.ownTask tenantId id = none := by
  rw [Option.eq_none_iff_forall_not_mem]
  intro task own
  obtain ⟨found, isOwn⟩ := (Db.ownTask_eq_some_iff _ _ _ _).mp own
  simp [Db.foreignTasks, foreignTask, found, isOwn] at foreign

/-- Only deletions of rows of other tenants are rejected. -/
theorem foreign_of_rejected_delete
    {foreignProjects foreignTasks : String → Bool} {m : SyncMutation}
    (op : m.op = .delete)
    (rejected : m.verdict foreignProjects foreignTasks ≠ .applied) :
    match m.table with
    | .project => foreignProjects m.id = true
    | .task => foreignTasks m.id = true := by
  unfold SyncMutation.verdict at rejected
  cases table : m.table <;> simpa [table, op] using rejected

variable {db : Db} {m : SyncMutation}

/-- A rejected mutation that leaves a project right may leave the outbox. -/
theorem settles_project_of_leavesRight
    (right : m.leavesRight tenantId db cursor = true)
    (rejected : m.verdict (db.foreignProjects tenantId)
      (db.foreignTasks tenantId) ≠ .applied) :
    projectKind.Settles tenantId db cursor m := by
  intro table
  change m.table = .project at table
  change (db.ownProject tenantId m.id = none → m.op = .delete) ∧
    ∀ row, db.ownProject tenantId m.id = some row →
      row.rowVersion ≤ cursor → m.op = .delete ∧ row.wire.display = none
  cases op : m.op with
  | delete =>
      have foreign := foreign_of_rejected_delete op rejected
      rw [table] at foreign
      rw [ownProject_of_foreign foreign]
      exact ⟨fun _ => rfl, nofun⟩
  | upsert =>
      simp only [SyncMutation.leavesRight, rejected, table, op, decide_false,
        decide_true, Bool.false_or, Bool.true_and, reduceCtorEq] at right
      obtain ⟨project, own, beyond⟩ := (Option.any_eq_true _ _).mp right
      rw [own]
      refine ⟨nofun, ?_⟩
      rintro _ ⟨⟩ upTo
      rw [decide_eq_true_eq] at beyond
      omega

/-- A rejected mutation that leaves a task right is the deletion of a task of
another tenant. -/
theorem foreignTasks_of_leavesRight
    (table : m.table = .task)
    (right : m.leavesRight tenantId db cursor = true)
    (rejected : m.verdict (db.foreignProjects tenantId)
      (db.foreignTasks tenantId) ≠ .applied) :
    m.op = .delete ∧ db.foreignTasks tenantId m.id = true := by
  have op : m.op = .delete := by
    simpa [SyncMutation.leavesRight, rejected, table] using right
  have foreign := foreign_of_rejected_delete op rejected
  rw [table] at foreign
  exact ⟨op, foreign⟩

theorem settles_task_of_leavesRight
    (right : m.leavesRight tenantId db cursor = true)
    (rejected : m.verdict (db.foreignProjects tenantId)
      (db.foreignTasks tenantId) ≠ .applied) :
    taskKind.Settles tenantId db cursor m := by
  intro table
  obtain ⟨op, foreign⟩ := foreignTasks_of_leavesRight table right rejected
  change (db.ownTask tenantId m.id = none → m.op = .delete) ∧
    ∀ row, db.ownTask tenantId m.id = some row →
      row.rowVersion ≤ cursor → m.op = .delete ∧ row.wire.display = none
  rw [ownTask_of_foreign foreign]
  exact ⟨fun _ => op, nofun⟩

/-- A mutation settles in a batch when it does as soon as it is applied and,
where it is rejected, did so before. -/
theorem Kind.settles_settleBatch
    (kind : Kind ρ ω β)
    (applied : ∀ db m, cursor ≤ db.seq →
      (mutate engine tenantId m db).2 = .applied →
        kind.Settles tenantId (mutate engine tenantId m db).1 cursor m)
    (batch : List SyncMutation) {state : BatchState}
    (upTo : cursor ≤ state.db.seq)
    (rejected : ∀ m ∈ batch,
      m.verdict (state.db.foreignProjects tenantId)
          (state.db.foreignTasks tenantId) ≠ .applied →
        kind.Settles tenantId state.db cursor m) :
    (∀ m, kind.Settles tenantId state.db cursor m →
      kind.Settles tenantId (settleBatch engine tenantId batch state).db cursor
        m) ∧
    ∀ m ∈ batch,
      kind.Settles tenantId (settleBatch engine tenantId batch state).db cursor
        m := by
  induction batch generalizing state with
  | nil => exact ⟨fun _ settles => settles, nofun⟩
  | cons m batch inductionHypothesis =>
      have moves := mutate_movesOn engine tenantId m state.db
      have verdict := (mutate_takesTurns engine tenantId m state.db).verdict
      have nextDb := BatchState.db_settle state m
        (mutate engine tenantId m state.db)
      generalize isNext : state.settle m (mutate engine tenantId m state.db) =
        next at nextDb
      have nextUpTo : cursor ≤ next.db.seq := by
        rw [nextDb]
        exact upTo.trans moves.seq_le
      have nextRejected : ∀ other ∈ batch,
          other.verdict (next.db.foreignProjects tenantId)
              (next.db.foreignTasks tenantId) ≠ .applied →
            kind.Settles tenantId next.db cursor other := by
        rw [nextDb, foreignProjects_mutate, foreignTasks_mutate]
        intro other member isRejected
        exact (rejected other (List.mem_cons_of_mem _ member)
          isRejected).moveOn moves upTo
      obtain ⟨stays, rest⟩ := inductionHypothesis nextUpTo nextRejected
      rw [nextDb] at stays
      rw [settleBatch_cons, isNext]
      refine ⟨fun other settles => stays other (settles.moveOn moves upTo),
        fun other member => ?_⟩
      rcases List.mem_cons.mp member with rfl | later
      · refine stays other ?_
        by_cases isApplied : (mutate engine tenantId other state.db).2 =
            .applied
        · exact applied state.db other upTo isApplied
        · exact (rejected other (List.mem_cons_self)
            (verdict ▸ isApplied)).moveOn moves upTo
      · exact rest other later

end Served

/-! ## Pages and writes -/

theorem pages_projects (tenantId : String) :
    Shadows.Pages projectKind tenantId NoExcuse := by
  intro server db data synced covers
  have works := worksIn_projects tenantId server db data
  refine ⟨?_, works.emptied⟩
  unfold Kind.SyncedUpTo
  rw [outbox_applyChanges]
  exact Synced.page synced covers works.delivered works.untouched

/-- Any task is excused: the replica may lack it, but shows no other. -/
abbrev AnyExcuse : Outbox → Task → Prop := fun _ _ => True

theorem pages_tasks (tenantId : String) :
    Shadows.Pages taskKind tenantId AnyExcuse := by
  intro server db data synced covers
  refine ⟨?_, fun id pending gone =>
    tasksOf_applyChanges_of_none pending gone⟩
  unfold Kind.SyncedUpTo
  rw [outbox_applyChanges]
  -- The pulled projects may take tasks along before the pulled tasks come in.
  have lost : ∀ id, tasksOf (data.projects.foldl applyProject db) id =
      tasksOf db id ∨
        tasksOf (data.projects.foldl applyProject db) id = none := by
    intro id
    refine List.foldlRecOn data.projects applyProject
      (motive := fun state => tasksOf state id = tasksOf db id ∨
        tasksOf state id = none) (Or.inl rfl) fun state held p _ => ?_
    rcases held with same | none
    · rcases tasksOf_applyProject state p id with stays | ⟨none, _⟩
      · exact Or.inl (stays.trans same)
      · exact Or.inr none
    · exact Or.inr (tasksOf_applyProject_of_none none p)
  refine Synced.page (synced.lose lost fun _ => trivial) covers ?_ ?_
  · intro id row free member keyed agreed
    exact tasksOf_applyChanges_of_mem free member keyed agreed
  · intro id free absent _
    exact tasksOf_applyChanges_of_not_mem free absent

section Writes

variable {tenantId : String} {server : Db} {peer : Peer} {calls : Calls}

/-- The data layer writes, and drops no queued write of a task that stays. -/
theorem wrote_anyTasks
    (write : LocalWrite)
    (shadows : Shadows taskKind tenantId AnyExcuse server peer)
    (nextSeq : peer.sending = true →
      peer.taken.nextSeq ≤ peer.client.db.outbox.nextSeq)
    (dropsOwn : ∀ id, write = .deleteProject id →
      ∀ m ∈ peer.client.db.outbox.entries, m.table = .task →
        Outbox.purges id m = true →
          tasksOf (peer.client.db.write (.deleteProject id)) m.rowId = none) :
    Shadows taskKind tenantId AnyExcuse server (peer.wrote write calls) := by
  cases write with
  | nothing =>
      exact shadows.wrote nextSeq (fun _ => id) shadows.lastDelete
        (fun _ => Or.inr) (fun _ member _ => Or.inl member)
  | project project =>
      exact shadows.wrote_other nextSeq rfl (by simp [taskKind]) rfl
        (fun _ => id)
  | task task =>
      refine shadows.wrote_row nextSeq rfl ?_ (by simp) (fun _ => id)
      intro other different
      exact (Table.find?_put _ _ _).trans (if_neg different)
  | deleteTask taskId =>
      refine shadows.wrote_row nextSeq rfl ?_ (fun _ => ?_) (fun _ => id)
      · intro other different
        exact (Table.find?_erase _ _ _).trans (if_neg different)
      · exact (Table.find?_erase _ _ _).trans (if_pos rfl)
  | deleteProject id =>
      have dropped := dropsOwn id rfl
      refine shadows.wrote nextSeq ?_ ?_ ?_ ?_
      · intro cursor synced
        constructor
        · intro taskId free gone
          rcases purged_of_not_pending free with
            wasFree | ⟨m, member, table, rfl, purged⟩
          · exact tasksOf_deleteProject_of_none
              (synced.absent taskId wasFree gone)
          · exact dropped m member table purged
        · intro taskId task free found upTo
          rcases purged_of_not_pending free with
            wasFree | ⟨m, member, table, rfl, purged⟩
          · rcases synced.current taskId task wasFree found upTo with
              shows | ⟨lacking, _⟩
            · exact (tasksOf_deleteProject_of_shown shows).imp_right
                fun lacking => ⟨lacking.1, trivial⟩
            · exact Or.inr ⟨tasksOf_deleteProject_of_none lacking, trivial⟩
          · exact Or.inr ⟨dropped m member table purged, trivial⟩
      · intro m isLast table op
        rcases isLast_enqueue isLast with rfl | ⟨wasLast, _⟩
        · contradiction
        · exact tasksOf_deleteProject_of_none (shadows.lastDelete m
            (isLast_of_deleteWhere (fun _ _ => purges_congr) wasLast) table op)
      · exact fun taskId gone => Or.inr (tasksOf_deleteProject_of_none gone)
      · intro m member table
        cases purged : Outbox.purges id m with
        | true => exact Or.inr (Or.inr (dropped m member table purged))
        | false =>
            exact Or.inl ((mem_entries_deleteProject _ id m).mpr
              (Or.inl ⟨member, purged⟩))

end Writes

/-! ## Runs -/

/-- Every rejected mutation of a served request of the client leaves its row
right, and the deletions of its data layer drop no queued write of a project or
task that they leave in place. -/
def leavesRowsRight (tenantId : String) (index : Nat) (system : System) :
    SystemEvent → Bool
  | .serve other engine => other ≠ index ||
      match (system.peers index).client.phase with
      | .awaiting _ _ request =>
          !requestSchema request ||
            batchRefused engine tenantId request.mutations system.db ||
            request.mutations.all fun m =>
              m.leavesRight tenantId system.db request.cursor
      | _ => true
  | .edit other event => other ≠ index ||
      match event.write with
      | .deleteProject id =>
          let db := (system.peers index).client.db
          db.outbox.entries.all fun m => !Outbox.purges id m ||
            match m.table with
            | .project => m.rowId = id
            | .task => (db.tasks.find? m.rowId).all fun task =>
                task.projectId = id
      | _ => true
  | _ => true

/-- A client whose rows are right, wherever it stands in its loop. -/
structure RowsRight (tenantId : String) (server : Db) (peer : Peer) : Prop where
  uncollected : Uncollected server
  ordered : Ordered server peer
  projects : Shadows projectKind tenantId NoExcuse server peer.rewound
  tasks : Shadows taskKind tenantId AnyExcuse server peer.rewound

section Runs

variable {tenantId : String} {index : Nat}

theorem leavesRight_of_leavesRowsRight
    {system : System} {engine : Engine} {loop : Nat} {snapshot : DrainSnapshot}
    {request : SyncRequest} {data : SyncResponse}
    (right : leavesRowsRight tenantId index system (.serve index engine) = true)
    (awaiting : (system.peers index).client.phase =
      .awaiting loop snapshot request)
    (succeeded : (POST engine tenantId system.db request).2 = .ok data) :
    ∀ m ∈ request.mutations,
      m.leavesRight tenantId system.db request.cursor = true := by
  have valid : requestSchema request = true := by
    by_contra invalid
    rw [POST_of_invalid (Bool.eq_false_iff.mpr invalid)] at succeeded
    contradiction
  have accepted : batchRefused engine tenantId request.mutations system.db =
      false := by
    by_contra refused
    rw [POST_of_refused valid (Bool.eq_true_of_not_eq_false refused)]
      at succeeded
    contradiction
  simpa [leavesRowsRight, awaiting, valid, accepted] using right

section Deletions

variable {system : System} {event : Edit} {id : String}

theorem purges_of_leavesRowsRight
    (right : leavesRowsRight tenantId index system (.edit index event) = true)
    (deletes : event.write = .deleteProject id) :
    ∀ m ∈ (system.peers index).client.db.outbox.entries,
      Outbox.purges id m = true →
        match m.table with
        | .project => m.rowId = id
        | .task => ∀ task,
            tasksOf (system.peers index).client.db m.rowId = some task →
              task.projectId = id := by
  intro m member purged
  simp only [leavesRowsRight, deletes, ne_eq, not_true, decide_false,
    Bool.false_or, List.all_eq_true] at right
  have kept := right m member
  cases table : m.table with
  | project => simpa [purged, table] using kept
  | task =>
      change ∀ task, (system.peers index).client.db.tasks.find? m.rowId =
        some task → task.projectId = id
      simpa [purged, table, Option.all_eq_true] using kept

end Deletions

section Steps

variable {server after : Db} {peer next : Peer}

namespace RowsRight

theorem moveOn
    (right : RowsRight tenantId server peer)
    (moves : DbMovesOn tenantId server after)
    (uncollected : Uncollected after) :
    RowsRight tenantId after peer :=
  ⟨uncollected, right.ordered.moveOn moves.seq_le,
    right.projects.moveOn right.ordered.rewound moves,
    right.tasks.moveOn right.ordered.rewound moves⟩

/-- A request of any tenant is served. -/
theorem afterPOST
    (right : RowsRight tenantId server peer)
    (engine : Engine) (writer : String) (request : SyncRequest) :
    RowsRight tenantId (POST engine writer server request).1 peer :=
  right.moveOn (POST_movesOn engine writer tenantId server request)
    ((POST_ownWrites engine writer server request).uncollected
      right.uncollected)

/-- The data layer writes. -/
theorem wrote
    {write : LocalWrite} {calls : Calls}
    (right : RowsRight tenantId server peer)
    (tracks : Tracks peer)
    (purges : ∀ id, write = .deleteProject id →
      ∀ m ∈ peer.client.db.outbox.entries, Outbox.purges id m = true →
        match m.table with
        | .project => m.rowId = id
        | .task => ∀ task, tasksOf peer.client.db m.rowId = some task →
            task.projectId = id) :
    RowsRight tenantId server (peer.wrote write calls) := by
  have nextSeq : peer.rewound.sending = true →
      peer.rewound.taken.nextSeq ≤
        peer.rewound.client.db.outbox.nextSeq := by
    intro sending
    rw [db_rewound, taken_rewound]
    exact tracks.nextSeq (holding_of_sending_rewound sending)
  refine ⟨right.uncollected, right.ordered.wrote write calls, ?_, ?_⟩
  · rw [rewound_wrote]
    refine wrote_projects write right.projects nextSeq ?_
    rw [db_rewound]
    intro id deletes m member table purged
    have own := purges id deletes m member purged
    rwa [table] at own
  · rw [rewound_wrote]
    refine wrote_anyTasks write right.tasks nextSeq ?_
    rw [db_rewound]
    intro id deletes m member table purged
    have own := purges id deletes m member purged
    rw [table] at own
    rw [tasksOf_deleteProject]
    cases held : tasksOf peer.client.db m.rowId with
    | none => rfl
    | some task => simp [own task held]

/-- A move of the loop. -/
theorem move
    (right : RowsRight tenantId server peer)
    (tracks : Tracks peer)
    (moves : PeerMoves peer next) :
    RowsRight tenantId server next :=
  ⟨right.uncollected, right.ordered.move tracks.noReply moves,
    right.projects.move_rewound tracks right.ordered (fun _ _ _ => id)
      (pages_projects tenantId) moves,
    right.tasks.move_rewound tracks right.ordered (fun _ _ _ => id)
      (pages_tasks tenantId) moves⟩

/-- The request of the client is served. -/
theorem served
    {engine : Engine} {loop : Nat} {snapshot : DrainSnapshot}
    {request : SyncRequest}
    (right : RowsRight tenantId server peer)
    (tracks : Tracks peer)
    (awaiting : peer.client.phase = .awaiting loop snapshot request)
    (leaves : ∀ data, (POST engine tenantId server request).2 = .ok data →
      ∀ m ∈ request.mutations,
        m.leavesRight tenantId server request.cursor = true) :
    RowsRight tenantId (POST engine tenantId server request).1
      (peer.served engine tenantId server request) := by
  obtain ⟨_, sent, sameCursor⟩ := tracks.awaiting _ _ _ awaiting
  have upTo : request.cursor ≤ (BatchState.begin server).db.seq :=
    sameCursor ▸ right.ordered.cursor_le
  have elsewhere : peer.rewound = peer := rewound_of_ne (by simp [awaiting])
  have stillElsewhere : (peer.served engine tenantId server request).rewound =
      peer.served engine tenantId server request :=
    rewound_of_ne (by simp [Peer.served, awaiting])
  have uncollected := (POST_ownWrites engine tenantId server
    request).uncollected right.uncollected
  obtain ⟨_, ordered, projects, tasks⟩ := right
  rw [elsewhere] at projects tasks
  refine ⟨uncollected, ordered.served ‹_› awaiting sameCursor, ?_, ?_⟩
  · rw [stillElsewhere]
    refine projects.served ordered ‹_› awaiting sent sameCursor ?_
    intro data succeeded
    rw [POST_of_ok succeeded]
    have atBegin : ∀ m ∈ request.mutations,
        m.verdict (server.foreignProjects tenantId)
            (server.foreignTasks tenantId) ≠ .applied →
          projectKind.Settles tenantId server request.cursor m :=
      fun m member =>
        settles_project_of_leavesRight (leaves data succeeded m member)
    exact (projectKind.settles_settleBatch
      (fun _ _ => mutate_settles_project) request.mutations upTo atBegin).2
  · rw [stillElsewhere]
    refine tasks.served ordered ‹_› awaiting sent sameCursor ?_
    intro data succeeded
    rw [POST_of_ok succeeded]
    have atBegin : ∀ m ∈ request.mutations,
        m.verdict (server.foreignProjects tenantId)
            (server.foreignTasks tenantId) ≠ .applied →
          taskKind.Settles tenantId server request.cursor m :=
      fun m member =>
        settles_task_of_leavesRight (leaves data succeeded m member)
    exact (taskKind.settles_settleBatch
      (fun _ _ => mutate_settles_task) request.mutations upTo atBegin).2

end RowsRight

end Steps

/-- The rows of a client are right in every run whose steps leave them so. -/
theorem rowsRight_of_run
    {start system : System} {events : List SystemEvent}
    (run : Run (System.step tenantId)
      (fun system event => leavesRowsRight tenantId index system event = true)
      start events system)
    (tracks : Tracks (start.peers index))
    (initially : RowsRight tenantId start.db (start.peers index)) :
    Tracks (system.peers index) ∧
      RowsRight tenantId system.db (system.peers index) := by
  refine peer_of_run (RowsRight tenantId) ?_ ?_ ?_ ?_ ?_ run tracks initially
  · intro system event calls allowed tracks right
    exact right.wrote tracks fun id deletes =>
      purges_of_leavesRowsRight allowed deletes
  · exact fun server peer next tracks right moves => right.move tracks moves
  · intro system engine loop snapshot request allowed tracks right awaiting _
    exact right.served tracks awaiting fun data succeeded =>
      leavesRight_of_leavesRowsRight allowed awaiting succeeded
  · exact fun system other engine loop snapshot request _ _ _ right =>
      right.afterPOST engine tenantId request
  · exact fun server peer arrival _ right =>
      right.afterPOST arrival.engine arrival.tenantId arrival.request

/-- The mutations of a client that are rejected when its request is served. -/
def rejectedOf (tenantId : String) (index : Nat) (engine : Engine)
    (system : System) : List SyncMutation :=
  match (system.peers index).client.phase with
  | .awaiting _ _ request =>
      match (POST engine tenantId system.db request).2 with
      | .ok data => request.mutations.filter fun m =>
          (data.rejected.map Prod.fst).contains m.seq
      | .error _ => []
  | _ => []

/-- What is rejected is a sent mutation that its own row or payload rejects. -/
theorem verdict_of_mem_rejectedOf
    {system : System} {engine : Engine} {m : SyncMutation}
    (tracks : Tracks (system.peers index))
    (uncollected : Uncollected system.db)
    (rejected : m ∈ rejectedOf tenantId index engine system) :
    ∃ loop snapshot request data,
      (system.peers index).client.phase = .awaiting loop snapshot request ∧
      (POST engine tenantId system.db request).2 = .ok data ∧
      m ∈ request.mutations ∧
      m.verdict (system.db.foreignProjects tenantId)
        (system.db.foreignTasks tenantId) ≠ .applied := by
  unfold rejectedOf at rejected
  split at rejected
  · rename_i loop snapshot request awaiting
    split at rejected
    · rename_i data succeeded
      obtain ⟨member, answered⟩ := List.mem_filter.mp rejected
      refine ⟨loop, snapshot, request, data, awaiting, succeeded, member, ?_⟩
      obtain ⟨⟨seq, reason⟩, inData, sameSeq⟩ := List.mem_map.mp
        (List.contains_iff_mem.mp answered)
      have turns := settleBatch_takesTurns engine tenantId request.mutations
        (BatchState.begin system.db)
      rw [(answers_of_succeeded uncollected succeeded).rejected] at inData
      change _ ∈ (settleBatch engine tenantId request.mutations
        (BatchState.begin system.db)).rejected at inData
      rw [turns.rejected] at inData
      obtain ⟨other, otherSent, otherAnswer⟩ := List.mem_filterMap.mp
        ((List.mem_append.mp inData).resolve_left (List.not_mem_nil))
      -- The answer is to this mutation, as no other has its number.
      have isOther : other.seq = m.seq := by
        split at otherAnswer
        · contradiction
        · simp only [Option.some.injEq, Prod.mk.injEq] at otherAnswer
          exact otherAnswer.1.trans sameSeq
      obtain ⟨_, sent, _⟩ := tracks.awaiting _ _ _ awaiting
      rw [sent] at otherSent member
      obtain ⟨left, leftSent, rfl⟩ := List.mem_map.mp otherSent
      obtain ⟨right, rightSent, rfl⟩ := List.mem_map.mp member
      have same := (system.peers index).taken.seq_injective
        (mem_toSend_iff_isLast.mp leftSent).1
        (mem_toSend_iff_isLast.mp rightSent).1 (Int.ofNat_inj.mp isOther)
      subst same
      intro isApplied
      rw [show (BatchState.begin system.db).db = system.db from rfl,
        isApplied] at otherAnswer
      contradiction
    · exact absurd rejected (List.not_mem_nil)
  · exact absurd rejected (List.not_mem_nil)

/-- A task of another tenant stays one. -/
theorem foreignTasks_of_movesOn
    {db after : Db} {id : String}
    (moves : ∀ owner, DbMovesOn owner db after)
    (foreign : db.foreignTasks tenantId id = true) :
    after.foreignTasks tenantId id = true := by
  cases found : db.tasks.find? id with
  | none => simp [Db.foreignTasks, foreignTask, found] at foreign
  | some task =>
      have notOwn : task.tenantId ≠ tenantId := by
        simpa [Db.foreignTasks, foreignTask, found] using foreign
      have owned : db.ownTask task.tenantId id = some task :=
        (Db.ownTask_eq_some_iff _ _ _ _).mpr ⟨found, rfl⟩
      cases now : after.ownTask task.tenantId id with
      | none =>
          rw [(moves task.tenantId).tasks.kept id now] at owned
          contradiction
      | some stored =>
          obtain ⟨present, same⟩ := (Db.ownTask_eq_some_iff _ _ _ _).mp now
          simpa [Db.foreignTasks, foreignTask, present, same] using notOwn

theorem foreignTasks_of_run
    {admissible : System → SystemEvent → Prop} {start system : System}
    {events : List SystemEvent} {id : String}
    (run : Run (System.step tenantId) admissible start events system)
    (foreign : start.db.foreignTasks tenantId id = true) :
    system.db.foreignTasks tenantId id = true := by
  refine run.invariant
    (fun system => system.db.foreignTasks tenantId id = true) ?_ foreign
  intro system event next foreign _ stepped
  cases steps_of_step stepped with
  | edit other event calls => exact foreign
  | move event other peer moves => exact foreign
  | serve other engine loop snapshot request awaiting noReply =>
      exact foreignTasks_of_movesOn
        (fun owner => POST_movesOn engine tenantId owner system.db request)
        foreign
  | foreign arrival notOwn =>
      exact foreignTasks_of_movesOn (fun owner => POST_movesOn arrival.engine
        arrival.tenantId owner system.db arrival.request) foreign

/-- The local row is the live row of the tenant, and there is none where the
tenant has none. -/
def RowIsLive (tenantId : String) (server : Db) (db : TenantDatabase)
    (table : SyncTable) (id : String) : Prop :=
  match table with
  | .project => db.projects.find? id =
      (server.ownProject tenantId id).bind fun project => project.wire.display
  | .task => db.tasks.find? id =
      (server.ownTask tenantId id).bind fun task => task.wire.display

/-- No row of the tenant was written since the sequence had the given value. -/
structure WrittenUpTo (tenantId : String) (server : Db) (seq : Nat) : Prop where
  projects : ∀ project ∈ server.projects.rows, project.tenantId = tenantId →
    project.rowVersion ≤ seq
  tasks : ∀ task ∈ server.tasks.rows, task.tenantId = tenantId →
    task.rowVersion ≤ seq

/-- In every run that leaves the rows of a client right: when its outbox is empty
and it has pulled to the head, every row that a rejected mutation of it was about
is the live row of its tenant, or is missing because the tenant has none. -/
theorem rejectedRows_areLive
    {clientIds : Nat → String} {before later : List SystemEvent}
    {served system : System} {engine : Engine} {m : SyncMutation}
    {settled : Nat}
    (untilServed : Run (System.step tenantId)
      (fun system event => leavesRowsRight tenantId index system event = true)
      (System.initial clientIds) before served)
    (rejected : m ∈ rejectedOf tenantId index engine served)
    (run : Run (System.step tenantId)
      (fun system event => leavesRowsRight tenantId index system event = true)
      served (.serve index engine :: later) system)
    (drained : (system.peers index).client.db.outbox.entries = [])
    (synced : (system.peers index).settledAt = some settled)
    (pulled : WrittenUpTo tenantId system.db settled) :
    RowIsLive tenantId system.db (system.peers index).client.db m.table
      m.id := by
  have fresh : RowsRight tenantId (System.initial clientIds).db
      ((System.initial clientIds).peers index) :=
    ⟨rfl, .of_ended rfl le_rfl le_rfl (by simp [System.initial, Peer.fresh]),
      .fresh _ (fun _ => rfl) (fun _ => rfl),
      .fresh _ (fun _ => rfl) (fun _ => rfl)⟩
  obtain ⟨tracksServed, rightServed⟩ :=
    rowsRight_of_run untilServed (.of_released rfl rfl) fresh
  obtain ⟨_, right⟩ := rowsRight_of_run run tracksServed rightServed
  have free : ∀ table id,
      ¬(system.peers index).client.db.outbox.hasPending table id = true := by
    simp [Outbox.hasPending, drained]
  have projects := right.projects.synced
  have tasks := right.tasks.synced
  have atHead := right.projects.atHead
  rw [db_rewound] at projects tasks atHead
  rw [settledAt_rewound] at atHead
  cases table : m.table with
  | project =>
      change (system.peers index).client.db.projects.find? m.id = _
      cases found : system.db.ownProject tenantId m.id with
      | none => exact projects.absent m.id (free _ _) found
      | some project =>
          obtain ⟨stored, own⟩ := (Db.ownProject_eq_some_iff _ _ _ _).mp found
          have upTo := atHead settled synced m.id project found
            (pulled.projects project (Table.mem_of_find? _ stored) own)
          exact (projects.current m.id project (free _ _) found
            upTo).resolve_right fun lacking => lacking.2
  | task =>
      obtain ⟨_, _, request, data, awaiting, succeeded, member, isRejected⟩ :=
        verdict_of_mem_rejectedOf tracksServed rightServed.uncollected rejected
      have leaves : m.leavesRight tenantId served.db request.cursor = true := by
        cases run with
        | cons allowed _ _ =>
            exact leavesRight_of_leavesRowsRight allowed awaiting succeeded m
              member
      obtain ⟨_, foreign⟩ :=
        foreignTasks_of_leavesRight table leaves isRejected
      have none := ownTask_of_foreign (foreignTasks_of_run run foreign)
      change (system.peers index).client.db.tasks.find? m.id = _
      rw [none]
      exact tasks.absent m.id (free _ _) none

end Runs

/-- The rest of a sync of one iteration once the request is sent. -/
def restOfSync (index : Nat) : List SystemEvent :=
  [.deliver index, .proceed index, .proceed index, .proceed index,
    .proceed index]

/-- One client renames a project to nothing after another one has renamed it. -/
def staleRename : List SystemEvent :=
  .edit 0 (.createProject "p" "Garden" 1) :: wholeSync 0 2 ++ wholeSync 1 3 ++
    [.edit 1 (.renameProject "p" "Herbs"),
      .edit 1 (.commitRename
        (⟨"p", "Garden", none, "Active", 1⟩, "Herbs") 4)] ++ wholeSync 1 4 ++
    [.edit 0 (.renameProject "p" ""),
      .edit 0 (.commitRename (⟨"p", "Garden", none, "Active", 1⟩, "") 5),
      .start 0, .drain 0]

/-- The mutation that it sends. -/
def emptyRename : SyncMutation :=
  ⟨2, .project, .upsert, "p",
    some (ProjectData.payload ⟨"", none, "Active"⟩)⟩

/-- A client has synced to the head and shows the project "p" under a name, and
the server has it under another. -/
def showsAtHead (shown : LocalProject) (stored : String) (system : System) :
    Bool :=
  (system.peers 0).client.db.outbox.entries = [] &&
    (system.peers 0).settledAt = some system.db.seq &&
    (system.peers 0).client.db.projects.find? "p" = some shown &&
    (system.db.ownProject "tenant-a" "p").map Project.name = some stored

/-- The empty rename is rejected, and the rest of the sync passes a test. -/
def rejectsRename (check : System → SystemEvent → Bool) (test : System → Bool)
    (system : System) : Bool :=
  emptyRename ∈ rejectedOf "tenant-a" 0 (Engine.obliging 5) system &&
    (execute (System.step "tenant-a") check system
      (.serve 0 (Engine.obliging 5) :: restOfSync 0)).any test

theorem writtenUpTo_seq (tenantId : String) (db : Db) :
    WrittenUpTo tenantId db db.seq :=
  ⟨fun project present _ => db.projectsStamped.le project present,
    fun task present _ => db.tasksStamped.le task present⟩

/-- The first client then shows the name that the other one gave. -/
theorem rejectedRows_areLive_staleRename :
    ∃ system : System,
      (system.peers 0).client.db.projects.find? "p" =
        some ⟨"p", "Herbs", none, "Active", 2⟩ ∧
      RowIsLive "tenant-a" system.db (system.peers 0).client.db .project
        "p" := by
  obtain ⟨served, untilServed, sends⟩ := Run.exists_of_execute
    (System.step "tenant-a") (leavesRowsRight "tenant-a" 0)
    (fun _ _ passed => passed) (System.initial fun _ => "browser") staleRename
    (rejectsRename (leavesRowsRight "tenant-a" 0)
      (showsAtHead ⟨"p", "Herbs", none, "Active", 2⟩ "Herbs"))
    (by decide +kernel)
  obtain ⟨rejected, ends⟩ := Bool.and_eq_true_iff.mp sends
  obtain ⟨system, run, shows⟩ := Run.exists_of_execute
    (System.step "tenant-a") (leavesRowsRight "tenant-a" 0)
    (fun _ _ passed => passed) served
    (.serve 0 (Engine.obliging 5) :: restOfSync 0) _ ends
  simp only [showsAtHead, Bool.and_eq_true, decide_eq_true_eq] at shows
  obtain ⟨⟨⟨drained, synced⟩, renamed⟩, _⟩ := shows
  exact ⟨system, renamed, rejectedRows_areLive untilServed
    (of_decide_eq_true rejected) run drained synced (writtenUpTo_seq _ _)⟩

/-! ## A rejected rename -/

/-- A client renames a project to nothing and syncs. -/
def renameToNothing : List SystemEvent :=
  .edit 0 (.createProject "p" "Garden" 1) :: wholeSync 0 2 ++
    [.edit 0 (.renameProject "p" ""),
      .edit 0 (.commitRename (⟨"p", "Garden", none, "Active", 1⟩, "") 3),
      .start 0, .drain 0]

/-- The rename is rejected and dropped, the cursor has passed the project, and
the client keeps showing an empty name. -/
theorem rejectedRows_renameToNothing :
    ∃ served system settled,
      Run (System.step "tenant-a") (fun _ _ => True)
        (System.initial fun _ => "browser") renameToNothing served ∧
      emptyRename ∈ rejectedOf "tenant-a" 0 (Engine.obliging 5) served ∧
      Run (System.step "tenant-a") (fun _ _ => True) served
        (.serve 0 (Engine.obliging 5) :: restOfSync 0) system ∧
      (system.peers 0).client.db.outbox.entries = [] ∧
      (system.peers 0).settledAt = some settled ∧
      WrittenUpTo "tenant-a" system.db settled ∧
      ¬ RowIsLive "tenant-a" system.db (system.peers 0).client.db .project
        "p" := by
  obtain ⟨served, untilServed, sends⟩ := Run.exists_of_execute
    (System.step "tenant-a") (fun _ _ => true) (fun _ _ _ => trivial)
    (System.initial fun _ => "browser") renameToNothing
    (rejectsRename (fun _ _ => true)
      (showsAtHead ⟨"p", "", none, "Active", 3⟩ "Garden"))
    (by decide +kernel)
  obtain ⟨rejected, ends⟩ := Bool.and_eq_true_iff.mp sends
  obtain ⟨system, run, shows⟩ := Run.exists_of_execute
    (System.step "tenant-a") (fun _ _ => true) (fun _ _ _ => trivial) served
    (.serve 0 (Engine.obliging 5) :: restOfSync 0) _ ends
  simp only [showsAtHead, Bool.and_eq_true, decide_eq_true_eq] at shows
  obtain ⟨⟨⟨drained, synced⟩, shown⟩, stored⟩ := shows
  refine ⟨served, system, system.db.seq, untilServed,
    of_decide_eq_true rejected, run, drained, synced, writtenUpTo_seq _ _,
    fun live => ?_⟩
  obtain ⟨project, own, name⟩ := Option.map_eq_some_iff.mp stored
  change (system.peers 0).client.db.projects.find? "p" =
    (system.db.ownProject "tenant-a" "p").bind _ at live
  rw [shown, own, Option.bind_some, eq_comm,
    Project.display_eq_some_iff] at live
  have emptyName : "" = project.name := congrArg LocalProject.name live.2
  rw [name] at emptyName
  simp at emptyName

end Sync
end EvoPlatform
