import EvoPlatform.Sync.Retry
import EvoPlatform.Sync.Snapshots

/-!
# Deleted projects and stubs

The last deletion of a project is queued until the server has tombstoned it, and
nothing that is queued before it brings the project back.  A task that is
written later, through a view that still shows the project, does so where the
server has no row of the project: it gets a stub.
-/

namespace EvoPlatform
namespace Sync

open Offline

/-! ## A batch without upserts of the project -/

/-- The mutation deletes the project. -/
def SyncMutation.Deletes (m : SyncMutation) (id : String) : Prop :=
  m.table = .project ∧ m.op = .delete ∧ m.id = id

instance decidableDeletes (m : SyncMutation) (id : String) :
    Decidable (m.Deletes id) :=
  inferInstanceAs (Decidable (_ ∧ _ ∧ _))

instance decidableStandsIn (m : SyncMutation) (id : String) :
    Decidable (m.StandsIn id) :=
  inferInstanceAs (Decidable (_ ∧ _ ∧ _))

/-- A task of the batch makes a stub of the project, if that is missing, and no
later mutation of the batch deletes it. -/
def leavesStub (id : String) : List SyncMutation → Bool
  | [] => false
  | m :: batch =>
      decide (m.StandsIn id) &&
          (batch.all fun later => !decide (later.Deletes id)) ||
        leavesStub id batch

/-- Clients of the tenant see no live project. -/
def Hidden (tenantId : String) (seen : Option SeenProject) : Prop :=
  ∀ project, seen = some project → project.tenantId = tenantId →
    project.live = false

/-- The tenant has no live project with this id. -/
def Gone (tenantId : String) (db : Db) (id : String) : Prop :=
  ∀ project, db.ownProject tenantId id = some project →
    project.deletedAt.isSome = true

section Batches

variable {tenantId id : String}

theorem gone_iff_hidden {db : Db} :
    Gone tenantId db id ↔ Hidden tenantId (db.seenProject id) := by
  unfold Gone Hidden Db.seenProject
  constructor
  · intro gone seen isSeen own
    obtain ⟨project, found, rfl⟩ := Option.map_eq_some_iff.mp isSeen
    have dead := gone project ((db.ownProject_eq_some_iff _ _ _).mpr
      ⟨found, own⟩)
    simpa [Project.seen] using dead
  · intro hidden project found
    obtain ⟨stored, own⟩ := (db.ownProject_eq_some_iff _ _ _).mp found
    have dead := hidden project.seen (by rw [stored]; rfl) own
    simpa [Project.seen] using dead

theorem projectTurn_of_deletes
    {m : SyncMutation}
    (deletes : m.Deletes id) :
    m.projectTurn id = .delete := by
  obtain ⟨isProject, isDelete, isRow⟩ := deletes
  simp [SyncMutation.projectTurn, isProject, isDelete, isRow]

/-- Once the project has a row, no turn but an upsert shows it. -/
theorem hidden_takeAll_some
    {batch : List SyncMutation} {seen : SeenProject}
    (noUpsert : ∀ m ∈ batch, ∀ fields, m.projectTurn id ≠ .upsert fields)
    (hidden : Hidden tenantId (some seen) ∨ ∃ m ∈ batch, m.Deletes id) :
    Hidden tenantId (ProjectTurn.takeAll tenantId id
      (batch.map fun m => m.projectTurn id) (some seen)) := by
  induction batch generalizing seen with
  | nil => simpa using hidden
  | cons m batch inductionHypothesis =>
      have others := fun other member =>
        noUpsert other (List.mem_cons_of_mem m member)
      rw [List.map_cons, ProjectTurn.takeAll_cons]
      have stays (isQuiet : (m.projectTurn id).quiet = true) :
          Hidden tenantId (ProjectTurn.takeAll tenantId id
            (batch.map fun m => m.projectTurn id) (some seen)) := by
        refine inductionHypothesis others (hidden.imp_right ?_)
        rintro ⟨deletion, member, deletes⟩
        rcases List.mem_cons.mp member with rfl | later
        · rw [projectTurn_of_deletes deletes] at isQuiet
          cases isQuiet
        · exact ⟨deletion, later, deletes⟩
      cases turn : m.projectTurn id with
      | leave => exact stays (by rw [turn]; rfl)
      | stand => exact stays (by rw [turn]; rfl)
      | upsert fields => exact absurd turn (noUpsert m (by simp) fields)
      | delete =>
          by_cases own : seen.tenantId = tenantId
          · simp only [ProjectTurn.take, own, if_true]
            refine inductionHypothesis others (Or.inl ?_)
            rintro _ ⟨⟩ _
            rfl
          · simp only [ProjectTurn.take, own, if_false]
            refine inductionHypothesis others (Or.inl ?_)
            rintro _ ⟨⟩ isOwn
            exact absurd isOwn own

/-- A batch that does not upsert the project hides it, if it was hidden or is
deleted, and if no stub of it stays. -/
theorem hidden_takeAll
    {batch : List SyncMutation} {seen : Option SeenProject}
    (noUpsert : ∀ m ∈ batch, ∀ fields, m.projectTurn id ≠ .upsert fields)
    (noStub : seen = none → leavesStub id batch = false)
    (hidden : Hidden tenantId seen ∨ ∃ m ∈ batch, m.Deletes id) :
    Hidden tenantId (ProjectTurn.takeAll tenantId id
      (batch.map fun m => m.projectTurn id) seen) := by
  cases seen with
  | some seen => exact hidden_takeAll_some noUpsert hidden
  | none =>
      replace noStub := noStub rfl
      clear hidden
      induction batch with
      | nil => rintro _ ⟨⟩
      | cons m batch inductionHypothesis =>
          have others := fun other member =>
            noUpsert other (List.mem_cons_of_mem m member)
          rw [leavesStub, Bool.or_eq_false_iff] at noStub
          rw [List.map_cons, ProjectTurn.takeAll_cons]
          cases turn : m.projectTurn id with
          | leave => exact inductionHypothesis others noStub.2
          | delete => exact inductionHypothesis others noStub.2
          | upsert fields => exact absurd turn (noUpsert m (by simp) fields)
          | stand =>
              have stands := projectTurn_eq_stand_iff.mp turn
              have deleted : ∃ later ∈ batch, later.Deletes id := by
                simpa [stands] using noStub.1
              exact hidden_takeAll_some others (Or.inr deleted)

/-- A served batch that does not upsert the project leaves it gone, if it was
gone or is deleted, and if no stub of it stays. -/
theorem gone_POST
    {engine : Engine} {db : Db} {request : SyncRequest} {data : SyncResponse}
    (succeeded : (POST engine tenantId db request).2 = .ok data)
    (noUpsert : ∀ m ∈ request.mutations, ∀ fields,
      m.projectTurn id ≠ .upsert fields)
    (noStub : db.projects.find? id = none →
      leavesStub id request.mutations = false)
    (gone : Gone tenantId db id ∨ ∃ m ∈ request.mutations, m.Deletes id) :
    Gone tenantId (POST engine tenantId db request).1 id := by
  have turns := settleBatch_takesTurns engine tenantId request.mutations
    (BatchState.begin db)
  rw [gone_iff_hidden, POST_of_ok succeeded, settled, turns.project]
  refine hidden_takeAll noUpsert (fun missing => noStub ?_)
    (gone.imp_left gone_iff_hidden.mp)
  simpa [BatchState.begin, Db.seenProject] using missing

/-- A request of another tenant leaves it gone. -/
theorem Gone.foreign
    {clock : Nat → Nat} {writer : String} {db written : Db}
    (gone : Gone tenantId db id)
    (writes : OwnWrites clock writer db written)
    (other : writer ≠ tenantId) :
    Gone tenantId written id := by
  intro project found
  obtain ⟨stored, own⟩ := (written.ownProject_eq_some_iff _ _ _).mp found
  have wasStored := (writes.foreignUnchanged.projects project
    (own.trans_ne other.symm)).mp (written.projects.mem_of_find? stored)
  have isRow : project.id = id := written.projects.key_of_find? stored
  exact gone project ((db.ownProject_eq_some_iff _ _ _).mpr
    ⟨isRow ▸ db.projects.find?_of_mem wasStored, own⟩)

end Batches

/-! ## The client -/

/-- The entry is about the project itself. -/
def About (projectId : String) (m : OutboxMutation) : Prop :=
  m.table = .project ∧ m.rowId = projectId

instance decidableAbout (projectId : String) (m : OutboxMutation) :
    Decidable (About projectId m) :=
  inferInstanceAs (Decidable (_ ∧ _))

/-- Only deletions of the project are queued. -/
def OnlyDeletes (projectId : String) (entries : List OutboxMutation) : Prop :=
  ∀ m ∈ entries, About projectId m → m.op = .delete

/-- Nothing that the client sends upserts the project. -/
theorem OnlyDeletes.noUpsert
    {projectId : String} {taken : Outbox}
    (onlyDeletes : OnlyDeletes projectId taken.entries) :
    ∀ m ∈ taken.snapshotForDrain.toSend.map sentMutation, ∀ fields,
      m.projectTurn projectId ≠ .upsert fields := by
  intro m member fields isUpsert
  obtain ⟨sent, isSent, rfl⟩ := List.mem_map.mp member
  have present := (mem_toSend_iff_isLast.mp isSent).1
  unfold SyncMutation.projectTurn at isUpsert
  cases table : sent.table <;> cases op : sent.op <;>
    simp only [sentMutation, table, op] at isUpsert
  · by_cases here : sent.rowId = projectId
    · rw [onlyDeletes sent present ⟨table, here⟩] at op
      cases op
    · simp [here] at isUpsert
  · split at isUpsert <;> cases isUpsert
  · split at isUpsert <;> cases isUpsert
  · cases isUpsert

/-- After its last deletion a project is gone from the server or its deletion is
queued; what the last snapshot has seen of it is its deletion. -/
structure StaysDeleted (tenantId projectId : String) (server : Db)
    (peer : Peer) : Prop where
  onlyDeletes : OnlyDeletes projectId peer.client.db.outbox.entries
  unique : ∀ left ∈ peer.client.db.outbox.entries, About projectId left →
    ∀ right ∈ peer.client.db.outbox.entries, About projectId right →
      left = right
  gone : (∀ m ∈ peer.client.db.outbox.entries, ¬ About projectId m) →
    Gone tenantId server projectId ∧
      ((∃ loop snapshot request,
        peer.client.phase = .awaiting loop snapshot request) →
        peer.reply = none → OnlyDeletes projectId peer.taken.entries)
  seen : peer.holding = true →
    (∃ m ∈ peer.client.db.outbox.entries, About projectId m ∧
      m.seq < peer.taken.nextSeq) →
        OnlyDeletes projectId peer.taken.entries
  answered : peer.holding = true → peer.answer?.isSome = true →
    (∃ m ∈ peer.client.db.outbox.entries, About projectId m ∧
      m.seq < peer.taken.nextSeq) →
        Gone tenantId server projectId

section Client

variable {tenantId projectId : String} {server : Db} {peer next : Peer}

/-- Right after the deletion it is queued behind everything else. -/
theorem StaysDeleted.deleted
    (tracks : Tracks peer) (calls : Calls) :
    StaysDeleted tenantId projectId server
      (peer.wrote (.deleteProject projectId) calls) := by
  have only : ∀ m ∈ (peer.client.db.write
      (.deleteProject projectId)).outbox.entries, About projectId m →
        m = ⟨peer.client.db.outbox.nextSeq, .project, projectId, .delete,
          none⟩ := by
    intro m member about
    rcases (mem_entries_deleteProject _ _ _).mp member with ⟨_, kept⟩ | isNew
    · simp [Outbox.purges, about.2] at kept
    · exact isNew
  have unseen (holding : peer.holding = true) :
      ¬ ∃ m ∈ (peer.client.db.write
        (.deleteProject projectId)).outbox.entries, About projectId m ∧
          m.seq < peer.taken.nextSeq := by
    rintro ⟨m, member, about, old⟩
    have newer := tracks.nextSeq holding
    rw [only m member about] at old
    exact Nat.not_lt.mpr newer old
  refine ⟨fun m member about => by rw [only m member about], ?_, ?_,
    fun holding seen => absurd seen (unseen holding),
    fun holding _ seen => absurd seen (unseen holding)⟩
  · intro left leftMember leftAbout right rightMember rightAbout
    rw [only left leftMember leftAbout, only right rightMember rightAbout]
  · intro nothing
    exact absurd ⟨rfl, rfl⟩ (nothing _ ((mem_entries_deleteProject _ _ _).mpr
      (Or.inr rfl)))

/-- A write that leaves the entries of the project. -/
theorem StaysDeleted.wrote
    {write : LocalWrite} {calls : Calls}
    (stays : StaysDeleted tenantId projectId server peer)
    (same : ∀ m, About projectId m →
      (m ∈ (peer.client.db.write write).outbox.entries ↔
        m ∈ peer.client.db.outbox.entries)) :
    StaysDeleted tenantId projectId server (peer.wrote write calls) where
  onlyDeletes := fun m member about =>
    stays.onlyDeletes m ((same m about).mp member) about
  unique := fun left leftMember leftAbout right rightMember rightAbout =>
    stays.unique left ((same left leftAbout).mp leftMember) leftAbout right
      ((same right rightAbout).mp rightMember) rightAbout
  gone := fun nothing => stays.gone fun m member about =>
    nothing m ((same m about).mpr member) about
  seen := by
    rintro holding ⟨m, member, about, old⟩
    exact stays.seen holding ⟨m, (same m about).mp member, about, old⟩
  answered := by
    rintro holding isAnswered ⟨m, member, about, old⟩
    exact stays.answered holding isAnswered
      ⟨m, (same m about).mp member, about, old⟩

/-- A removal of what a snapshot has seen removes the deletion only when the
project is gone. -/
theorem StaysDeleted.removed
    {outbox : Outbox} {answered : OutboxMutation → Bool}
    (stays : StaysDeleted tenantId projectId server peer)
    (holding : peer.holding = true)
    (isAnswered : peer.answer?.isSome = true)
    (isRemoved : outbox = peer.client.db.outbox.bulkDelete
      (peer.taken.snapshotForDrain.seqsOf answered))
    (nothing : ∀ m ∈ outbox.entries, ¬ About projectId m) :
    Gone tenantId server projectId := by
  by_cases before : ∃ m ∈ peer.client.db.outbox.entries, About projectId m
  · obtain ⟨m, member, about⟩ := before
    refine stays.answered holding isAnswered ⟨m, member, about, ?_⟩
    have gone : m ∉ (peer.client.db.outbox.bulkDelete
        (peer.taken.snapshotForDrain.seqsOf answered)).entries :=
      fun kept => nothing m (isRemoved ▸ kept) about
    exact seen_of_removed member gone
  · exact (stays.gone fun m member about => before ⟨m, member, about⟩).1

/-- A move of the loop. -/
theorem StaysDeleted.move
    (stays : StaysDeleted tenantId projectId server peer)
    (tracks : Tracks peer)
    (moves : PeerMoves peer next) :
    StaysDeleted tenantId projectId server next := by
  -- Outside of an iteration only the outbox matters.
  have released {other : Peer}
      (sameOutbox : other.client.db.outbox = peer.client.db.outbox)
      (notHolding : other.holding = false) :
      StaysDeleted tenantId projectId server other := by
    refine ⟨sameOutbox ▸ stays.onlyDeletes, sameOutbox ▸ stays.unique,
      fun nothing => ⟨(stays.gone (sameOutbox ▸ nothing)).1, ?_⟩,
      by simp [notHolding], by simp [notHolding]⟩
    rintro ⟨loop, snapshot, request, awaiting⟩
    simp [Peer.holding, awaiting] at notHolding
  cases moves with
  | started idle => exact released rfl rfl
  | sent loop draining =>
      have noReply := tracks.noReply (by simp [draining])
      refine ⟨stays.onlyDeletes, stays.unique,
        fun nothing => ⟨(stays.gone nothing).1, fun _ _ => stays.onlyDeletes⟩,
        fun _ _ => stays.onlyDeletes, ?_⟩
      intro _ isAnswered
      simp [Peer.answer?, noReply] at isAnswered
  | stopped => exact released rfl rfl
  | gaveUp loop draining => exact released rfl rfl
  | resyncing loop snapshot request data awaiting replied resync =>
      exact released rfl rfl
  | answered loop snapshot request data awaiting replied noResync =>
      have holding : peer.holding = true := by simp [Peer.holding, awaiting]
      have isAnswered : peer.answer?.isSome = true := by
        simp [Peer.answer?, awaiting, replied]
      refine ⟨stays.onlyDeletes, stays.unique,
        fun nothing => ⟨(stays.gone nothing).1, ?_⟩,
        fun _ => stays.seen holding,
        fun _ _ => stays.answered holding isAnswered⟩
      rintro ⟨_, _, _, ⟨⟩⟩
  | wiped loop resyncing => exact released rfl rfl
  | cleared loop snapshot data clearing =>
      have holding : peer.holding = true := by simp [Peer.holding, clearing]
      have isAnswered : peer.answer?.isSome = true := by
        simp [Peer.answer?, clearing]
      obtain rfl := tracks.clearing _ _ _ clearing
      refine ⟨?_, ?_, fun nothing => ⟨stays.removed holding isAnswered rfl
        nothing, ?_⟩, ?_, ?_⟩
      · exact fun m member => stays.onlyDeletes m (mem_of_mem_bulkDelete member)
      · exact fun left leftMember leftAbout right rightMember =>
          stays.unique left (mem_of_mem_bulkDelete leftMember) leftAbout right
            (mem_of_mem_bulkDelete rightMember)
      · rintro ⟨_, _, _, ⟨⟩⟩
      · rintro _ ⟨m, member, about, old⟩
        exact stays.seen holding ⟨m, mem_of_mem_bulkDelete member, about, old⟩
      · rintro _ _ ⟨m, member, about, old⟩
        exact stays.answered holding isAnswered
          ⟨m, mem_of_mem_bulkDelete member, about, old⟩
  | dropped loop snapshot data dropping =>
      have holding : peer.holding = true := by simp [Peer.holding, dropping]
      have isAnswered : peer.answer?.isSome = true := by
        simp [Peer.answer?, dropping]
      obtain rfl := tracks.dropping _ _ _ dropping
      refine ⟨?_, ?_, fun nothing => ⟨stays.removed holding isAnswered rfl
        nothing, ?_⟩, by simp [Peer.holding], by simp [Peer.holding]⟩
      · exact fun m member => stays.onlyDeletes m (mem_of_mem_bulkDelete member)
      · exact fun left leftMember leftAbout right rightMember =>
          stays.unique left (mem_of_mem_bulkDelete leftMember) leftAbout right
            (mem_of_mem_bulkDelete rightMember)
      · rintro ⟨_, _, _, ⟨⟩⟩
  | applied loop data applying =>
      exact released (outbox_applyChanges _ _) rfl
  | continued loop data settledAt advancing isNone => exact released rfl rfl
  | finished loop data advancing last => exact released rfl rfl

/-- The request of the client is served. -/
theorem StaysDeleted.served
    {engine : Engine} {loop : Nat} {snapshot : DrainSnapshot}
    {request : SyncRequest}
    (stays : StaysDeleted tenantId projectId server peer)
    (tracks : Tracks peer)
    (awaiting : peer.client.phase = .awaiting loop snapshot request)
    (noReply : peer.reply = none)
    (noStub : server.projects.find? projectId = none →
      leavesStub projectId request.mutations = true →
        ∃ m ∈ peer.client.db.outbox.entries, About projectId m ∧
          ∀ sent ∈ request.mutations, sent.seq < m.seq) :
    StaysDeleted tenantId projectId (POST engine tenantId server request).1
      (peer.served engine tenantId server request) := by
  have holding : peer.holding = true := by simp [Peer.holding, awaiting]
  obtain ⟨_, isSent, _⟩ := tracks.awaiting _ _ _ awaiting
  have noUpsert (onlyDeletes : OnlyDeletes projectId peer.taken.entries) :
      ∀ m ∈ request.mutations, ∀ fields,
        m.projectTurn projectId ≠ .upsert fields :=
    isSent ▸ onlyDeletes.noUpsert
  refine ⟨stays.onlyDeletes, stays.unique, fun nothing => ⟨?_, ?_⟩,
    fun _ => stays.seen holding, ?_⟩
  · -- No deletion is queued, so the batch may not leave a stub.
    obtain ⟨gone, onlyDeletes⟩ := stays.gone nothing
    cases reply : (POST engine tenantId server request).2 with
    | error status => rwa [POST_of_error reply]
    | ok data =>
        refine gone_POST reply
          (noUpsert (onlyDeletes ⟨_, _, _, awaiting⟩ noReply)) ?_ (Or.inl gone)
        intro missing
        rw [Bool.eq_false_iff]
        intro stub
        obtain ⟨m, member, about, -⟩ := noStub missing stub
        exact nothing m member about
  · intro _ isNone
    simp [Peer.served] at isNone
  · -- The deletion that the snapshot has seen is sent, and none is behind it.
    rintro _ isAnswered ⟨m, member, about, old⟩
    obtain ⟨data, answered⟩ := Option.isSome_iff_exists.mp isAnswered
    have onlyDeletes := stays.seen holding ⟨m, member, about, old⟩
    have taken := tracks.covered holding m member old
    obtain ⟨last, isLast, sameTable, sameRow⟩ := exists_isLast taken
    have lastAbout : About projectId last :=
      ⟨sameTable.trans about.1, sameRow.trans about.2⟩
    have lastSent : sentMutation last ∈ request.mutations := by
      rw [isSent]
      exact List.mem_map.mpr ⟨last, mem_toSend_iff_isLast.mpr isLast, rfl⟩
    have succeeded := Peer.succeeded_of_answered awaiting answered
    refine gone_POST succeeded (noUpsert onlyDeletes) ?_
      (Or.inr ⟨sentMutation last, lastSent, lastAbout.1,
        onlyDeletes last isLast.1 lastAbout, lastAbout.2⟩)
    intro missing
    rw [Bool.eq_false_iff]
    intro stub
    obtain ⟨behind, queued, behindAbout, isBehind⟩ := noStub missing stub
    obtain rfl := stays.unique behind queued behindAbout m member about
    have newer := isBehind _ lastSent
    have older := isLast.2 behind taken sameTable.symm sameRow.symm
    simp only [sentMutation, Int.ofNat_lt] at newer
    omega

/-- A request of another tenant is served. -/
theorem StaysDeleted.foreign
    {clock : Nat → Nat} {writer : String} {written : Db}
    (stays : StaysDeleted tenantId projectId server peer)
    (writes : OwnWrites clock writer server written)
    (other : writer ≠ tenantId) :
    StaysDeleted tenantId projectId written peer :=
  { stays with
    gone := fun nothing =>
      have facts := stays.gone nothing
      ⟨facts.1.foreign writes other, facts.2⟩
    answered := fun holding isAnswered seen =>
      (stays.answered holding isAnswered seen).foreign writes other }

end Client

/-! ## Runs -/

/-- An event of this client, or of another tenant. -/
def ofClient (index : Nat) : SystemEvent → Bool
  | .edit other _ => other = index
  | .start other => other = index
  | .drain other => other = index
  | .serve other _ => other = index
  | .deliver other => other = index
  | .lose other => other = index
  | .proceed other => other = index
  | .fail other => other = index
  | .foreign _ => true

/-- No operation on the project itself takes effect. -/
def sparesProject (projectId : String) : SystemEvent → Bool
  | .edit _ event =>
      match event.write with
      | .project project => project.id ≠ projectId
      | .deleteProject id => id ≠ projectId
      | _ => true
  | _ => true

/-- The deletion of another project does not purge the queued deletion of this
one, and no request is served that leaves a stub of it, unless its deletion is
queued behind the request. -/
def keepsDeletion (projectId : String) (index : Nat) (system : System) :
    SystemEvent → Bool
  | .edit _ event =>
      match event.write with
      | .deleteProject id =>
          (system.peers index).client.db.outbox.entries.all fun m =>
            !decide (About projectId m) || !Outbox.purges id m
      | _ => true
  | .serve _ _ =>
      match (system.peers index).client.phase with
      | .awaiting _ _ request =>
          (system.db.projects.find? projectId).isSome ||
            !leavesStub projectId request.mutations ||
            (system.peers index).client.db.outbox.entries.any fun m =>
              decide (About projectId m) &&
                request.mutations.all fun sent => sent.seq < m.seq
      | _ => true
  | _ => true

section Runs

variable {tenantId projectId : String} {index : Nat} {system : System}

/-- The entries of the project stay. -/
theorem entries_of_keepsDeletion
    {event : Edit}
    (spares : sparesProject projectId (.edit index event) = true)
    (keeps : keepsDeletion projectId index system (.edit index event) = true)
    (m : OutboxMutation)
    (about : About projectId m) :
    m ∈ ((system.peers index).client.db.write
        event.write).outbox.entries ↔
      m ∈ (system.peers index).client.db.outbox.entries := by
  -- Whatever is queued is about something else.
  have queued {table : SyncTable} {rowId : String} {op : SyncOp}
      {data : Option JsonObject} (outbox : Outbox)
      (other : ¬ (table = .project ∧ rowId = projectId)) :
      m ∈ (outbox.enqueue table rowId op data).entries ↔
        m ∈ outbox.entries := by
    rw [Outbox.entries_enqueue, List.mem_append, List.mem_singleton,
      or_iff_left]
    rintro rfl
    exact other about
  cases write : event.write with
  | nothing => exact Iff.rfl
  | project project =>
      refine queued _ fun same => ?_
      simp [sparesProject, write, same.2] at spares
  | task task => exact queued _ (by simp)
  | deleteTask id => exact queued _ (by simp)
  | deleteProject id =>
      simp only [sparesProject, write, decide_eq_true_eq] at spares
      simp only [keepsDeletion, write, List.all_eq_true, Bool.or_eq_true,
        Bool.not_eq_true', decide_eq_false_iff_not] at keeps
      refine (queued _ fun same => spares same.2).trans ?_
      rw [Outbox.purgeForProject, Outbox.entries_deleteWhere, List.mem_filter]
      refine and_iff_left_of_imp fun present => ?_
      simpa using (keeps m present).resolve_left (not_not.mpr about)

/-- In every run of a single client, from any state of the server and of the
client, a project stays deleted once its last deletion has left the outbox, if
no deletion of another project purges that deletion and no request is served
that leaves a stub of the project behind it. -/
theorem deletedProject_staysDeleted
    {start opened deleted : System}
    {earlier later : List SystemEvent}
    (idle : (start.peers index).client.phase = .idle)
    (noReply : (start.peers index).reply = none)
    (before : Run (System.step tenantId)
      (fun _ event => ofClient index event = true) start earlier opened)
    (deletes : opened.step tenantId (.edit index (.deleteProject projectId)) =
      some deleted)
    (after : Run (System.step tenantId)
      (fun system event => ofClient index event = true ∧
        sparesProject projectId event = true ∧
        keepsDeletion projectId index system event = true)
      deleted later system)
    (drained : (system.peers index).client.db.outbox.entries = []) :
    Gone tenantId system.db projectId := by
  have released : (start.peers index).holding = false := by
    simp [Peer.holding, idle]
  have tracksOpened : Tracks (opened.peers index) :=
    (peer_of_run (fun _ _ => True) (fun _ _ _ _ _ _ => trivial)
      (fun _ _ _ _ _ _ => trivial) (fun _ _ _ _ _ _ _ _ _ _ => trivial)
      (fun _ _ _ _ _ _ _ _ _ _ => trivial) (fun _ _ _ _ _ => trivial) before
      (.of_released released noReply) trivial).1
  obtain ⟨calls, isDeleted⟩ : ∃ calls, deleted = opened.set index
      ((opened.peers index).wrote (.deleteProject projectId) calls) := by
    simp only [System.step, Option.map_eq_some_iff] at deletes
    obtain ⟨peer, ran, rfl⟩ := deletes
    obtain ⟨⟨db, calls, phase⟩, edited, rfl⟩ := Peer.step_eq ran
    obtain ⟨written, samePhase⟩ := step_edit edited
    change db = _ at written
    change phase = _ at samePhase
    subst written samePhase
    exact ⟨calls, rfl⟩
  have here : deleted.peers index =
      (opened.peers index).wrote (.deleteProject projectId) calls := by
    rw [isDeleted]
    exact Function.update_self _ _ _
  have stays : StaysDeleted tenantId projectId system.db
      (system.peers index) := by
    refine (peer_of_run (StaysDeleted tenantId projectId) ?_ ?_ ?_ ?_ ?_ after
      (here ▸ tracksOpened.wrote _ calls)
      (here ▸ StaysDeleted.deleted tracksOpened calls)).2
    · intro system event calls allowed tracks stays
      exact stays.wrote (entries_of_keepsDeletion allowed.2.1 allowed.2.2)
    · intro server peer next tracks stays moves
      exact stays.move tracks moves
    · intro system engine loop snapshot request allowed tracks stays awaiting
        noReply
      refine stays.served tracks awaiting noReply fun missing stub => ?_
      simpa [keepsDeletion, awaiting, missing, stub] using allowed.2.2
    · intro system other engine loop snapshot request different allowed
      exact absurd allowed.1 (by simpa [ofClient] using different)
    · intro server peer arrival other stays
      exact stays.foreign (POST_ownWrites _ _ _ _) other
  refine (stays.gone fun m member => ?_).1
  rw [drained] at member
  exact absurd member List.not_mem_nil

end Runs

/-- A synced client without queued writes, and the project as the server has
it. -/
def drainedWith (projectId : String) (live : Bool) (system : System) : Bool :=
  (system.peers 0).client.db.outbox.entries = [] &&
    (system.peers 0).settledAt = some system.db.seq &&
    (system.db.ownProject "tenant-a" projectId).any fun project =>
      project.deletedAt.isNone = live

theorem drainedWith_iff
    (projectId : String) (live : Bool) (system : System) :
    drainedWith projectId live system = true ↔
      (system.peers 0).client.db.outbox.entries = [] ∧
        (system.peers 0).settledAt = some system.db.seq ∧
        (system.db.ownProject "tenant-a" projectId).any
          (fun project => project.deletedAt.isNone = live) = true := by
  simp [drainedWith, and_assoc]

/-- The server has a project, which the client has not touched. -/
def gardenPushed : System where
  db := (settleBatch (Engine.obliging 0) "tenant-a"
    [⟨1, .project, .upsert, "p", some (ProjectData.payload
      ⟨"Garden", none, "Active"⟩)⟩] (BatchState.begin Db.initial)).db
  peers := fun _ => Peer.fresh "browser"

theorem deletedProject_staysDeleted_pushed :
    ∃ system : System, (system.peers 0).settledAt = some system.db.seq ∧
      (system.db.ownProject "tenant-a" "p").isSome = true ∧
      Gone "tenant-a" system.db "p" := by
  obtain ⟨system, after, ended⟩ := Run.exists_of_execute
    (System.step "tenant-a")
    (fun system event => ofClient 0 event && sparesProject "p" event &&
      keepsDeletion "p" 0 system event)
    (fun _ _ passed => by simpa [and_assoc] using passed)
    (gardenPushed.set 0
      ((gardenPushed.peers 0).wrote (.deleteProject "p") ⟨[], []⟩))
    (.edit 0 (.addTask "p" "t" "Weed" 1) :: wholeSync 0 2)
    (drainedWith "p" false) (by decide +kernel)
  obtain ⟨drained, synced, shows⟩ := (drainedWith_iff _ _ _).mp ended
  exact ⟨system, synced, Option.isSome_of_any shows,
    deletedProject_staysDeleted rfl rfl (.nil gardenPushed) rfl after drained⟩

/-- A project that was never pushed is deleted, and a task is added to it
through a view that still shows it. -/
def unpushedDeletion : List SystemEvent :=
  [.edit 0 (.createProject "p" "Garden" 1), .edit 0 (.deleteProject "p"),
    .edit 0 (.addTask "p" "t" "Weed" 2)] ++ wholeSync 0 3

/-- The project comes into being with the task, after its deletion. -/
theorem deletedProject_comesBack :
    ∃ system,
      Run (System.step "tenant-a") (fun _ event => ofClient 0 event = true)
        (System.initial fun _ => "browser") unpushedDeletion system ∧
      (system.peers 0).client.db.outbox.entries = [] ∧
      (system.peers 0).settledAt = some system.db.seq ∧
      ¬ Gone "tenant-a" system.db "p" := by
  obtain ⟨system, run, ended⟩ := Run.exists_of_execute (System.step "tenant-a")
    (fun _ event => ofClient 0 event) (fun _ _ passed => passed)
    (System.initial fun _ => "browser") unpushedDeletion
    (drainedWith "p" true) (by decide +kernel)
  obtain ⟨drained, synced, shows⟩ := (drainedWith_iff _ _ _).mp ended
  refine ⟨system, run, drained, synced, fun gone => ?_⟩
  obtain ⟨project, found, live⟩ := (Option.any_eq_true _ _).mp shows
  have dead := gone project found
  simp [Option.isSome_iff_ne_none] at dead live
  exact dead live

end Sync
end EvoPlatform
