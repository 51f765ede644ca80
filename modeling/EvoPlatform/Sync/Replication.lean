import EvoPlatform.Sync.Drain
import EvoPlatform.Sync.Served

/-!
# The replicas of a tenant

What ties a client to the server at every point of its loop.  `Proper` is about
cursors and snapshots and is the same for both tables.  `Shadows` is about one
table: its replica is in sync with the server up to the cursor, except where
the outbox holds a write, and the two places at which a write leaves the outbox
or the cursor moves are prepared by what the client holds in its hands then.
-/

namespace EvoPlatform
namespace Sync

open Offline

/-! ## Where a peer stands -/

namespace Peer

variable (peer : Peer)

/-- A snapshot is under way that has not been removed from the outbox. -/
def sending : Bool :=
  match peer.client.phase with
  | .awaiting _ _ _ => true
  | .clearing _ _ _ => true
  | _ => false

/-- The answer that is on its way or has not been worked in. -/
def answer? : Option SyncResponse :=
  match peer.client.phase, peer.reply with
  | .awaiting _ _ _, some (.ok data) => some data
  | .clearing _ _ data, _ => some data
  | .dropping _ _ data, _ => some data
  | .applying _ data, _ => some data
  | _, _ => none

/-- The answer to whose cursor the client is about to move. -/
def advancing? : Option SyncResponse :=
  match peer.client.phase with
  | .advancing _ data => some data
  | _ => none

/-- Outside of an iteration nothing is sent, answered or worked in. -/
theorem quiet_of_ended
    {peer : Peer}
    (ended : peer.client.phase.ended = true) :
    peer.sending ≠ true ∧ peer.answer? = none ∧ peer.advancing? = none := by
  unfold sending answer? advancing?
  cases phase : peer.client.phase <;> simp [phase, Phase.ended] at ended ⊢

end Peer

/-- What holds of every peer of a tenant whose mutations are never rejected and
whose tombstones are never collected. -/
structure Proper (server : Db) (peer : Peer) : Prop where
  cursor_le : peer.client.db.cursor ≤ server.seq
  awaiting : ∀ loop snapshot request,
    peer.client.phase = .awaiting loop snapshot request →
      snapshot = peer.taken.snapshotForDrain ∧
        request.mutations =
          peer.taken.snapshotForDrain.toSend.map sentMutation ∧
        request.cursor = peer.client.db.cursor
  clearing : ∀ loop snapshot data,
    peer.client.phase = .clearing loop snapshot data →
      snapshot = peer.taken.snapshotForDrain
  /-- Answers reach only clients that wait for one. -/
  noReply : (∀ loop snapshot request,
    peer.client.phase ≠ .awaiting loop snapshot request) → peer.reply = none
  /-- What is older than the snapshot was seen by it. -/
  covered : peer.sending = true →
    ∀ m ∈ peer.client.db.outbox.entries, m.seq < peer.taken.nextSeq →
      m ∈ peer.taken.entries
  nextSeq : peer.sending = true →
    peer.taken.nextSeq ≤ peer.client.db.outbox.nextSeq
  answer : ∀ data, peer.answer? = some data →
    data.rejected = [] ∧ data.resyncRequired = false ∧
      peer.client.db.cursor ≤ data.cursor ∧ data.cursor ≤ server.seq
  applied : peer.sending = true → ∀ data, peer.answer? = some data →
    ∀ sent ∈ peer.taken.snapshotForDrain.toSend,
      (sent.seq : Int) ∈ data.applied
  advancing : ∀ data, peer.advancing? = some data →
    peer.client.db.cursor ≤ data.cursor ∧ data.cursor ≤ server.seq
  notResyncing : ∀ loop, peer.client.phase ≠ .resyncing loop
  servedAt : peer.servedAt ≤ server.seq
  settledAt : ∀ settled, peer.settledAt = some settled → settled ≤ server.seq

namespace Proper

variable {server after : Db} {peer next : Peer}

/-- Outside of an iteration there is little to say. -/
theorem of_ended
    (ended : peer.client.phase.ended = true)
    (noReply : peer.reply = none)
    (cursor_le : peer.client.db.cursor ≤ server.seq)
    (servedAt : peer.servedAt ≤ server.seq)
    (settledAt : ∀ settled, peer.settledAt = some settled →
      settled ≤ server.seq) :
    Proper server peer := by
  obtain ⟨notSending, noAnswer, notAdvancing⟩ := Peer.quiet_of_ended ended
  refine ⟨cursor_le, ?_, ?_, fun _ => noReply,
    fun sending => absurd sending notSending,
    fun sending => absurd sending notSending, by simp [noAnswer],
    fun sending => absurd sending notSending, by simp [notAdvancing], ?_,
    servedAt, settledAt⟩
  · intro loop snapshot request awaiting
    simp [awaiting, Phase.ended] at ended
  · intro loop snapshot data clearing
    simp [clearing, Phase.ended] at ended
  · intro loop resyncing
    simp [resyncing, Phase.ended] at ended

/-- The server may move on. -/
theorem moveOn
    (proper : Proper server peer)
    (grown : server.seq ≤ after.seq) :
    Proper after peer :=
  { proper with
    cursor_le := proper.cursor_le.trans grown
    answer := fun data answered =>
      have facts := proper.answer data answered
      ⟨facts.1, facts.2.1, facts.2.2.1, facts.2.2.2.trans grown⟩
    advancing := fun data advancing =>
      have facts := proper.advancing data advancing
      ⟨facts.1, facts.2.trans grown⟩
    servedAt := proper.servedAt.trans grown
    settledAt := fun settled found =>
      (proper.settledAt settled found).trans grown }

end Proper

/-- A write of the data layer queues under new numbers. -/
theorem mem_entries_write
    {db : TenantDatabase} {write : LocalWrite} {m : OutboxMutation}
    (member : m ∈ (db.write write).outbox.entries) :
    m ∈ db.outbox.entries ∨ db.outbox.nextSeq ≤ m.seq := by
  have queued : ∀ (outbox : Outbox) (table : SyncTable) (rowId : String)
      (op : SyncOp) (data : Option JsonObject),
      m ∈ (outbox.enqueue table rowId op data).entries →
        m ∈ outbox.entries ∨ outbox.nextSeq ≤ m.seq := by
    intro outbox table rowId op data present
    rcases List.mem_append.mp present with old | new
    · exact Or.inl old
    · exact Or.inr ((List.mem_singleton.mp new) ▸ le_rfl)
  cases write with
  | nothing => exact Or.inl member
  | project project => exact queued _ _ _ _ _ member
  | task task => exact queued _ _ _ _ _ member
  | deleteProject id =>
      exact (queued _ _ _ _ _ member).imp_left List.mem_of_mem_filter
  | deleteTask id => exact queued _ _ _ _ _ member

theorem nextSeq_le_write (db : TenantDatabase) (write : LocalWrite) :
    db.outbox.nextSeq ≤ (db.write write).outbox.nextSeq := by
  cases write with
  | nothing => exact le_rfl
  | project project => exact Nat.le_succ _
  | task task => exact Nat.le_succ _
  | deleteProject id => exact Nat.le_succ _
  | deleteTask id => exact Nat.le_succ _

@[simp] theorem cursor_write (db : TenantDatabase) (write : LocalWrite) :
    (db.write write).cursor = db.cursor := by
  cases write <;> rfl

/-- The peer after a write of its data layer. -/
def Peer.wrote (peer : Peer) (write : LocalWrite) (calls : Calls) : Peer :=
  { peer with
    client := ⟨peer.client.db.write write, calls, peer.client.phase⟩ }

namespace Proper

variable {server : Db} {peer next : Peer}

theorem wrote
    (proper : Proper server peer) (write : LocalWrite) (calls : Calls) :
    Proper server (peer.wrote write calls) where
  cursor_le := by simpa [Peer.wrote] using proper.cursor_le
  awaiting := by simpa [Peer.wrote] using proper.awaiting
  clearing := proper.clearing
  noReply := proper.noReply
  covered := by
    intro sending m member old
    rcases mem_entries_write member with stays | new
    · exact proper.covered sending m stays old
    · have := proper.nextSeq sending
      change m.seq < peer.taken.nextSeq at old
      omega
  nextSeq := fun sending =>
    (proper.nextSeq sending).trans (nextSeq_le_write _ _)
  answer := by
    intro data answered
    simpa [Peer.wrote] using proper.answer data answered
  applied := proper.applied
  advancing := by
    intro data advancing
    simpa [Peer.wrote] using proper.advancing data advancing
  notResyncing := proper.notResyncing
  servedAt := proper.servedAt
  settledAt := proper.settledAt

/-- A move of the loop. -/
theorem move
    (proper : Proper server peer)
    (moves : PeerMoves peer next) :
    Proper server next := by
  cases moves with
  | started idle =>
      exact .of_ended rfl (proper.noReply (by simp [idle])) proper.cursor_le
        proper.servedAt (by simp)
  | sent loop draining =>
      have noReply := proper.noReply (by simp [draining])
      refine ⟨proper.cursor_le, ?_, by simp, by simp, fun _ _ member _ => member,
        fun _ => le_rfl, by simp [Peer.answer?, noReply],
        by simp [Peer.answer?, noReply], by simp [Peer.advancing?], by simp,
        proper.servedAt, proper.settledAt⟩
      rintro _ _ _ ⟨⟩
      exact ⟨rfl, rfl, rfl⟩
  | stopped =>
      exact .of_ended rfl rfl proper.cursor_le proper.servedAt proper.settledAt
  | gaveUp loop draining =>
      exact .of_ended rfl (proper.noReply (by simp [draining]))
        proper.cursor_le proper.servedAt proper.settledAt
  | resyncing loop snapshot request data awaiting replied resync =>
      have answered : peer.answer? = some data := by
        simp [Peer.answer?, awaiting, replied]
      rw [(proper.answer data answered).2.1] at resync
      contradiction
  | answered loop snapshot request data awaiting replied noResync =>
      have answered : peer.answer? = some data := by
        simp [Peer.answer?, awaiting, replied]
      have sending : peer.sending = true := by
        simp [Peer.sending, awaiting]
      refine ⟨proper.cursor_le, by simp, ?_, fun _ => rfl,
        fun _ => proper.covered sending, fun _ => proper.nextSeq sending, ?_, ?_,
        by simp [Peer.advancing?], by simp, proper.servedAt, proper.settledAt⟩
      · rintro _ _ _ ⟨⟩
        exact (proper.awaiting _ _ _ awaiting).1
      · rintro _ ⟨⟩
        exact proper.answer data answered
      · rintro _ _ ⟨⟩
        exact proper.applied sending data answered
  | wiped loop resyncing => exact absurd resyncing (proper.notResyncing loop)
  | cleared loop snapshot data clearing =>
      have answered : peer.answer? = some data := by
        simp [Peer.answer?, clearing]
      refine ⟨proper.cursor_le, by simp, by simp,
        fun _ => proper.noReply (by simp [clearing]), by simp [Peer.sending],
        by simp [Peer.sending], ?_, by simp [Peer.sending],
        by simp [Peer.advancing?], by simp, proper.servedAt,
        proper.settledAt⟩
      rintro _ ⟨⟩
      exact proper.answer data answered
  | dropped loop snapshot data dropping =>
      have answered : peer.answer? = some data := by
        simp [Peer.answer?, dropping]
      refine ⟨proper.cursor_le, by simp, by simp,
        fun _ => proper.noReply (by simp [dropping]), by simp [Peer.sending],
        by simp [Peer.sending], ?_, by simp [Peer.sending],
        by simp [Peer.advancing?], by simp, proper.servedAt,
        proper.settledAt⟩
      rintro _ ⟨⟩
      exact proper.answer data answered
  | applied loop data applying =>
      have answered : peer.answer? = some data := by
        simp [Peer.answer?, applying]
      have facts := proper.answer data answered
      refine ⟨by simpa using proper.cursor_le, by simp, by simp,
        fun _ => proper.noReply (by simp [applying]), by simp [Peer.sending],
        by simp [Peer.sending], by simp [Peer.answer?], by simp [Peer.sending],
        ?_, by simp, proper.servedAt, proper.settledAt⟩
      rintro _ ⟨⟩
      simpa using facts.2.2
  | continued loop data settledAt advancing isNone =>
      have advances : peer.advancing? = some data := by
        simp [Peer.advancing?, advancing]
      exact .of_ended rfl (proper.noReply (by simp [advancing]))
        (proper.advancing data advances).2 proper.servedAt (by simp [isNone])
  | finished loop data advancing last =>
      have advances : peer.advancing? = some data := by
        simp [Peer.advancing?, advancing]
      refine .of_ended rfl (proper.noReply (by simp [advancing]))
        (proper.advancing data advances).2 proper.servedAt ?_
      rintro _ ⟨⟩
      exact proper.servedAt

end Proper

/-- The peer after its request was served. -/
def Peer.served (peer : Peer) (engine : Engine) (tenantId : String) (db : Db)
    (request : SyncRequest) : Peer :=
  { peer with
    reply := some (POST engine tenantId db request).2
    servedAt := (POST engine tenantId db request).1.seq }

/-- What a served peer takes for an answer is one. -/
theorem Peer.succeeded_of_answered
    {tenantId : String} {server : Db} {peer : Peer} {engine : Engine}
    {loop : Nat} {snapshot : DrainSnapshot} {request : SyncRequest}
    {data : SyncResponse}
    (awaiting : peer.client.phase = .awaiting loop snapshot request)
    (answered : (peer.served engine tenantId server request).answer? =
      some data) :
    (POST engine tenantId server request).2 = .ok data := by
  simp only [Peer.answer?, Peer.served, awaiting] at answered
  split at answered
  · rename_i replied
    cases answered
    exact Option.some.inj replied
  all_goals simp_all

/-- A served peer has the answers to what it sent. -/
theorem Proper.served
    {tenantId : String} {server : Db} {peer : Peer} {engine : Engine}
    {loop : Nat} {snapshot : DrainSnapshot} {request : SyncRequest}
    (proper : Proper server peer)
    (uncollected : Uncollected server)
    (awaiting : peer.client.phase = .awaiting loop snapshot request)
    (noRejection : ∀ data, (POST engine tenantId server request).2 = .ok data →
      data.rejected = []) :
    Proper (POST engine tenantId server request).1
      (peer.served engine tenantId server request) := by
  have grown := (POST_movesOn engine tenantId tenantId server request).seq_le
  have sending : peer.sending = true := by simp [Peer.sending, awaiting]
  obtain ⟨_, sent, sameCursor⟩ := proper.awaiting _ _ _ awaiting
  refine ⟨proper.cursor_le.trans grown, proper.awaiting, proper.clearing, ?_,
    fun _ => proper.covered sending, fun _ => proper.nextSeq sending, ?_, ?_,
    ?_, proper.notResyncing, le_rfl, ?_⟩
  · intro elsewhere
    exact absurd awaiting (elsewhere _ _ _)
  · intro data answered
    have success := Peer.succeeded_of_answered awaiting answered
    have answers := answers_of_succeeded uncollected success
    refine ⟨noRejection data success, answers.noResync, ?_, ?_⟩
    · exact sameCursor ▸ answers.cursor_le
    · exact answers.cursor_le_seq (sameCursor ▸ proper.cursor_le)
  · intro _ data answered m isSent
    have success := Peer.succeeded_of_answered awaiting answered
    have all := answeredSeqs_POST success
    have none := noRejection data success
    rw [SyncResponse.answeredSeqs, none, List.map_nil, List.append_nil, sent,
      List.map_map] at all
    exact all.mem_iff.mpr (List.mem_map.mpr ⟨m, isSent, rfl⟩)
  · intro data advancing
    simp [Peer.advancing?, Peer.served, awaiting] at advancing
  · intro settled found
    exact (proper.settledAt settled found).trans grown

/-! ## Cursors -/

/-- The cursors of a peer run behind the sequence, whatever is rejected, and no
resync is demanded. -/
structure Ordered (server : Db) (peer : Peer) : Prop where
  cursor_le : peer.client.db.cursor ≤ server.seq
  answer : ∀ data, peer.answer? = some data →
    data.resyncRequired = false ∧ peer.client.db.cursor ≤ data.cursor ∧
      data.cursor ≤ server.seq
  advancing : ∀ data, peer.advancing? = some data →
    peer.client.db.cursor ≤ data.cursor ∧ data.cursor ≤ server.seq
  notResyncing : ∀ loop, peer.client.phase ≠ .resyncing loop
  servedAt : peer.servedAt ≤ server.seq
  settledAt : ∀ settled, peer.settledAt = some settled → settled ≤ server.seq

theorem Proper.ordered
    {server : Db} {peer : Peer}
    (proper : Proper server peer) :
    Ordered server peer :=
  ⟨proper.cursor_le, fun data answered => (proper.answer data answered).2,
    proper.advancing, proper.notResyncing, proper.servedAt, proper.settledAt⟩

namespace Ordered

variable {server after : Db} {peer next : Peer}

/-- Outside of an iteration only three cursors matter. -/
theorem of_ended
    (ended : peer.client.phase.ended = true)
    (cursor_le : peer.client.db.cursor ≤ server.seq)
    (servedAt : peer.servedAt ≤ server.seq)
    (settledAt : ∀ settled, peer.settledAt = some settled →
      settled ≤ server.seq) :
    Ordered server peer := by
  obtain ⟨-, noAnswer, notAdvancing⟩ := Peer.quiet_of_ended ended
  refine ⟨cursor_le, by simp [noAnswer], by simp [notAdvancing], ?_, servedAt,
    settledAt⟩
  intro loop resyncing
  simp [resyncing, Phase.ended] at ended

/-- The server may move on. -/
theorem moveOn
    (ordered : Ordered server peer)
    (grown : server.seq ≤ after.seq) :
    Ordered after peer where
  cursor_le := ordered.cursor_le.trans grown
  answer := fun data answered =>
    have facts := ordered.answer data answered
    ⟨facts.1, facts.2.1, facts.2.2.trans grown⟩
  advancing := fun data advancing =>
    have facts := ordered.advancing data advancing
    ⟨facts.1, facts.2.trans grown⟩
  notResyncing := ordered.notResyncing
  servedAt := ordered.servedAt.trans grown
  settledAt := fun settled found =>
    (ordered.settledAt settled found).trans grown

theorem wrote
    (ordered : Ordered server peer) (write : LocalWrite) (calls : Calls) :
    Ordered server (peer.wrote write calls) where
  cursor_le := by simpa [Peer.wrote] using ordered.cursor_le
  answer := by
    intro data answered
    simpa [Peer.wrote] using ordered.answer data answered
  advancing := by
    intro data advancing
    simpa [Peer.wrote] using ordered.advancing data advancing
  notResyncing := ordered.notResyncing
  servedAt := ordered.servedAt
  settledAt := ordered.settledAt

/-- A move of the loop. -/
theorem move
    (ordered : Ordered server peer)
    (noReply : (∀ loop snapshot request,
      peer.client.phase ≠ .awaiting loop snapshot request) →
        peer.reply = none)
    (moves : PeerMoves peer next) :
    Ordered server next := by
  cases moves with
  | started idle =>
      exact .of_ended rfl ordered.cursor_le ordered.servedAt (by simp)
  | sent loop draining =>
      have noReply := noReply (by simp [draining])
      exact ⟨ordered.cursor_le, by simp [Peer.answer?, noReply],
        by simp [Peer.advancing?], by simp, ordered.servedAt,
        ordered.settledAt⟩
  | stopped =>
      exact .of_ended rfl ordered.cursor_le ordered.servedAt ordered.settledAt
  | gaveUp loop draining =>
      exact .of_ended rfl ordered.cursor_le ordered.servedAt ordered.settledAt
  | resyncing loop snapshot request data awaiting replied resync =>
      have answered : peer.answer? = some data := by
        simp [Peer.answer?, awaiting, replied]
      rw [(ordered.answer data answered).1] at resync
      contradiction
  | answered loop snapshot request data awaiting replied noResync =>
      have answered : peer.answer? = some data := by
        simp [Peer.answer?, awaiting, replied]
      refine ⟨ordered.cursor_le, ?_, by simp [Peer.advancing?], by simp,
        ordered.servedAt, ordered.settledAt⟩
      rintro _ ⟨⟩
      exact ordered.answer data answered
  | wiped loop resyncing => exact absurd resyncing (ordered.notResyncing loop)
  | cleared loop snapshot data clearing =>
      have answered : peer.answer? = some data := by
        simp [Peer.answer?, clearing]
      refine ⟨ordered.cursor_le, ?_, by simp [Peer.advancing?], by simp,
        ordered.servedAt, ordered.settledAt⟩
      rintro _ ⟨⟩
      exact ordered.answer data answered
  | dropped loop snapshot data dropping =>
      have answered : peer.answer? = some data := by
        simp [Peer.answer?, dropping]
      refine ⟨ordered.cursor_le, ?_, by simp [Peer.advancing?], by simp,
        ordered.servedAt, ordered.settledAt⟩
      rintro _ ⟨⟩
      exact ordered.answer data answered
  | applied loop data applying =>
      have answered : peer.answer? = some data := by
        simp [Peer.answer?, applying]
      refine ⟨by simpa using ordered.cursor_le, by simp [Peer.answer?], ?_,
        by simp, ordered.servedAt, ordered.settledAt⟩
      rintro _ ⟨⟩
      simpa using (ordered.answer data answered).2
  | continued loop data settledAt advancing isNone =>
      have advances : peer.advancing? = some data := by
        simp [Peer.advancing?, advancing]
      exact .of_ended rfl (ordered.advancing data advances).2 ordered.servedAt
        (by simp [isNone])
  | finished loop data advancing last =>
      have advances : peer.advancing? = some data := by
        simp [Peer.advancing?, advancing]
      refine .of_ended rfl (ordered.advancing data advances).2
        ordered.servedAt ?_
      rintro _ ⟨⟩
      exact ordered.servedAt

/-- The request of the peer is served. -/
theorem served
    {tenantId : String} {engine : Engine} {loop : Nat}
    {snapshot : DrainSnapshot} {request : SyncRequest}
    (ordered : Ordered server peer)
    (uncollected : Uncollected server)
    (awaiting : peer.client.phase = .awaiting loop snapshot request)
    (sameCursor : request.cursor = peer.client.db.cursor) :
    Ordered (POST engine tenantId server request).1
      (peer.served engine tenantId server request) := by
  have grown := (POST_movesOn engine tenantId tenantId server request).seq_le
  refine ⟨ordered.cursor_le.trans grown, ?_, ?_, ordered.notResyncing, le_rfl,
    fun settled found => (ordered.settledAt settled found).trans grown⟩
  · intro data answered
    have answers := answers_of_succeeded uncollected
      (Peer.succeeded_of_answered awaiting answered)
    refine ⟨answers.noResync, ?_, ?_⟩
    · exact sameCursor ▸ answers.cursor_le
    · exact answers.cursor_le_seq (sameCursor ▸ ordered.cursor_le)
  · intro data advancing
    simp [Peer.advancing?, Peer.served, awaiting] at advancing

end Ordered

/-! ## Runs of the system -/

/-- No mutation of the served request is rejected. -/
def rejectsNothing (tenantId : String) (system : System) :
    SystemEvent → Bool
  | .serve index engine =>
      match (system.peers index).client.phase with
      | .awaiting _ _ request =>
          match (POST engine tenantId system.db request).2 with
          | .ok data => data.rejected.isEmpty
          | .error _ => true
      | _ => true
  | _ => true

theorem rejected_of_rejectsNothing
    {tenantId : String} {system : System} {index : Nat} {engine : Engine}
    {loop : Nat} {snapshot : DrainSnapshot} {request : SyncRequest}
    (nothing : rejectsNothing tenantId system (.serve index engine) = true)
    (awaiting : (system.peers index).client.phase =
      .awaiting loop snapshot request) :
    ∀ data, (POST engine tenantId system.db request).2 = .ok data →
      data.rejected = [] := by
  intro data succeeded
  simpa [rejectsNothing, awaiting, succeeded] using nothing

/-- A deletion of a project purges no queued write of another project. -/
def purgesOnlyItself (system : System) : SystemEvent → Bool
  | .edit index event =>
      match event.write with
      | .deleteProject id =>
          (system.peers index).client.db.outbox.entries.all fun m =>
            m.table = .task || m.rowId = id || !Outbox.purges id m
      | _ => true
  | _ => true

theorem purges_self_of_purgesOnlyItself
    {system : System} {index : Nat} {event : Edit} {id : String}
    (onlyItself : purgesOnlyItself system (.edit index event) = true)
    (deletes : event.write = .deleteProject id) :
    ∀ m ∈ (system.peers index).client.db.outbox.entries,
      m.table = .project → Outbox.purges id m = true → m.rowId = id := by
  intro m member table purged
  simp only [purgesOnlyItself, deletes, List.all_eq_true] at onlyItself
  simpa [table, purged] using onlyItself m member

/-- What holds of the server and of each of its peers. -/
structure Upheld (sound : Db → Prop) (holds : Db → Peer → Prop)
    (system : System) : Prop where
  uncollected : Uncollected system.db
  sound : sound system.db
  proper : ∀ index, Proper system.db (system.peers index)
  holds : ∀ index, holds system.db (system.peers index)

/-- Replacing one peer. -/
theorem Upheld.set
    {sound : Db → Prop} {holds : Db → Peer → Prop} {system : System}
    {index : Nat} {peer : Peer}
    (upheld : Upheld sound holds system)
    (proper : Proper system.db peer)
    (held : holds system.db peer) :
    Upheld sound holds (system.set index peer) where
  uncollected := upheld.uncollected
  sound := upheld.sound
  proper := by
    intro other
    rcases eq_or_ne other index with rfl | different
    · simpa [System.set] using proper
    · simpa [System.set, Function.update_of_ne different]
        using upheld.proper other
  holds := by
    intro other
    rcases eq_or_ne other index with rfl | different
    · simpa [System.set] using held
    · simpa [System.set, Function.update_of_ne different]
        using upheld.holds other

/-- The server moves on under its peers. -/
theorem Upheld.moveOn
    {sound : Db → Prop} {holds : Db → Peer → Prop} {system : System}
    {tenantId : String} {db : Db}
    (upheld : Upheld sound holds system)
    (moves : DbMovesOn tenantId system.db db)
    (uncollected : Uncollected db)
    (soundAfter : sound db)
    (stable : ∀ server after peer, Proper server peer → holds server peer →
      DbMovesOn tenantId server after → holds after peer) :
    Upheld sound holds { system with db := db } where
  uncollected := uncollected
  sound := soundAfter
  proper := fun index => (upheld.proper index).moveOn moves.seq_le
  holds := fun index =>
    stable _ _ _ (upheld.proper index) (upheld.holds index) moves

/-- The invariant rule of the system: what a peer's own steps keep, and the
service of its request establishes, holds of all peers in every run. -/
theorem upheld_of_run
    {tenantId : String}
    {admissible : System → SystemEvent → Prop}
    {sound : Db → Prop}
    {holds : Db → Peer → Prop}
    (accepted : ∀ system event, admissible system event →
      rejectsNothing tenantId system event = true)
    (initially : sound Db.initial ∧
      ∀ clientId, holds Db.initial (Peer.fresh clientId))
    (stable : ∀ server after peer, Proper server peer → holds server peer →
      DbMovesOn tenantId server after → holds after peer)
    (wrote : ∀ system index event calls,
      admissible system (.edit index event) → sound system.db →
        Proper system.db (system.peers index) →
          holds system.db (system.peers index) →
            holds system.db ((system.peers index).wrote event.write calls))
    (moved : ∀ server peer next, sound server → Proper server peer →
      holds server peer → PeerMoves peer next → holds server next)
    (served : ∀ system index engine loop snapshot request,
      admissible system (.serve index engine) → Uncollected system.db →
        sound system.db → Proper system.db (system.peers index) →
          holds system.db (system.peers index) →
            (system.peers index).client.phase =
                .awaiting loop snapshot request →
              sound (POST engine tenantId system.db request).1 ∧
                holds (POST engine tenantId system.db request).1
                  ((system.peers index).served engine tenantId system.db
                    request))
    (foreign : ∀ server (arrival : Arrival), arrival.tenantId ≠ tenantId →
      sound server →
        sound (POST arrival.engine arrival.tenantId server arrival.request).1)
    {clientIds : Nat → String} {events : List SystemEvent} {system : System}
    (run : Run (System.step tenantId) admissible (System.initial clientIds)
      events system) :
    Upheld sound holds system := by
  refine run.invariant (Upheld sound holds) ?_ ?_
  · intro system event next upheld allowed stepped
    cases steps_of_step stepped with
    | edit index event calls =>
        exact upheld.set ((upheld.proper index).wrote event.write calls)
          (wrote system index event calls allowed upheld.sound
            (upheld.proper index) (upheld.holds index))
    | move event index peer moves =>
        exact upheld.set ((upheld.proper index).move moves)
          (moved _ _ _ upheld.sound (upheld.proper index) (upheld.holds index)
            moves)
    | serve index engine loop snapshot request awaiting noReply =>
        have moves := POST_movesOn engine tenantId tenantId system.db request
        have uncollected := (POST_ownWrites engine tenantId system.db
          request).uncollected upheld.uncollected
        obtain ⟨soundAfter, held⟩ := served system index engine loop snapshot
          request allowed upheld.uncollected upheld.sound (upheld.proper index)
          (upheld.holds index) awaiting
        have proper := (upheld.proper index).served upheld.uncollected awaiting
          (rejected_of_rejectsNothing (accepted _ _ allowed) awaiting)
        exact (upheld.moveOn moves uncollected soundAfter stable).set proper held
    | foreign arrival other =>
        have writes := POST_ownWrites arrival.engine arrival.tenantId system.db
          arrival.request
        exact upheld.moveOn (writes.movesOn tenantId)
          (writes.uncollected upheld.uncollected)
          (foreign system.db arrival other upheld.sound) stable
  · exact ⟨rfl, initially.1, fun index => .of_ended rfl rfl le_rfl le_rfl
      (by simp [System.initial, Peer.fresh]), fun index => initially.2 _⟩

end Sync
end EvoPlatform
