import EvoPlatform.Foundation.Replica
import EvoPlatform.Sync.Client
import EvoPlatform.Sync.Pull

/-!
# The server and its clients

All clients of one tenant, each with at most one request under way, together
with the server.  A request that reaches the server is served in one
transaction, and its answer is on the way until it is delivered or lost; a
request may be lost before that.  Requests of other tenants come in at any time.
-/

namespace EvoPlatform
namespace Sync

open Offline

/-- A client with its end of the network. -/
structure Peer where
  client : Client
  /-- The answer on its way to the client. -/
  reply : Option SyncReply
  /-- History: the outbox of which its last snapshot was taken. -/
  taken : Outbox
  /-- History: the sequence right after its last request was served. -/
  servedAt : Nat
  /-- History: the value of `servedAt` with which its last sync ended, when that
  ended with nothing more to pull. -/
  settledAt : Option Nat

/-- A peer that was never used. -/
def Peer.fresh (clientId : String) : Peer :=
  ⟨Client.fresh clientId, none, Outbox.empty, 0, none⟩

/-- The server and the clients of one tenant. -/
structure System where
  db : Db
  peers : Nat → Peer

/-- Nothing has happened yet. -/
def System.initial (clientIds : Nat → String) : System :=
  ⟨Db.initial, fun index => Peer.fresh (clientIds index)⟩

/-- What can happen. -/
inductive SystemEvent
  /-- The data layer of a client is used. -/
  | edit (index : Nat) (event : Edit)
  /-- A client begins to sync. -/
  | start (index : Nat)
  /-- A client takes a snapshot and sends its request. -/
  | drain (index : Nat)
  /-- The request of a client is served. -/
  | serve (index : Nat) (engine : Engine)
  /-- The answer arrives. -/
  | deliver (index : Nat)
  /-- The request or its answer is lost. -/
  | lose (index : Nat)
  /-- A client runs its next transaction. -/
  | proceed (index : Nat)
  /-- An exception ends the sync of a client. -/
  | fail (index : Nat)
  /-- A request of another tenant is served. -/
  | foreign (arrival : Arrival)

/-- What a peer does in an event of its own. -/
def Peer.step (peer : Peer) (event : ClientEvent) : Option Peer :=
  (peer.client.step event).map fun client => { peer with client := client }

/-- A sync that ends with nothing more to pull. -/
def Peer.settles (peer : Peer) : Option Nat :=
  match peer.client.phase with
  | .advancing _ data => if data.hasMore then none else some peer.servedAt
  | _ => peer.settledAt

/-- Replace a peer. -/
def System.set (system : System) (index : Nat) (peer : Peer) : System :=
  { system with peers := Function.update system.peers index peer }

/-- One step of the system. -/
def System.step (tenantId : String) (system : System) :
    SystemEvent → Option System
  | .edit index event =>
      ((system.peers index).step (.edit event)).map (system.set index)
  | .start index =>
      ((system.peers index).step .start).map fun peer =>
        system.set index { peer with settledAt := none }
  | .drain index =>
      ((system.peers index).step .drain).map fun peer =>
        system.set index
          { peer with taken := (system.peers index).client.db.outbox }
  | .serve index engine =>
      match (system.peers index).client.phase, (system.peers index).reply with
      | .awaiting _ _ request, none =>
          let served := POST engine tenantId system.db request
          some ({ system with db := served.1 }.set index
            { system.peers index with
              reply := some served.2
              servedAt := served.1.seq })
      | _, _ => none
  | .deliver index =>
      (system.peers index).reply.bind fun reply =>
        ((system.peers index).step (.receive (some reply))).map fun peer =>
          system.set index { peer with reply := none }
  | .lose index =>
      ((system.peers index).step (.receive none)).map fun peer =>
        system.set index { peer with reply := none }
  | .proceed index =>
      ((system.peers index).step .proceed).map fun peer =>
        system.set index
          { peer with settledAt := (system.peers index).settles }
  | .fail index =>
      ((system.peers index).step .fail).map fun peer =>
        system.set index { peer with reply := none }
  | .foreign arrival =>
      if arrival.tenantId ≠ tenantId then
        (serve system.db arrival).map fun db => { system with db := db }
      else none

/-- A sync of one iteration that nothing interrupts. -/
def wholeSync (index now : Nat) : List SystemEvent :=
  [.start index, .drain index, .serve index (Engine.obliging now),
    .deliver index, .proceed index, .proceed index, .proceed index,
    .proceed index]

@[simp] theorem System.db_set (system : System) (index : Nat) (peer : Peer) :
    (system.set index peer).db = system.db := rfl

/-! ## The moves of a peer -/

/-- What the loop of a peer can do, and where. -/
inductive PeerMoves (peer : Peer) : Peer → Prop
  /-- A sync begins. -/
  | started :
      peer.client.phase = .idle →
      PeerMoves peer { peer with
        client := { peer.client with phase := .draining 0 }
        settledAt := none }
  /-- A snapshot is taken and sent. -/
  | sent (loop : Nat) :
      peer.client.phase = .draining loop →
      PeerMoves peer { peer with
        client := { peer.client with
          phase := .awaiting loop peer.client.db.outbox.snapshotForDrain
            (requestBody peer.client.db
              peer.client.db.outbox.snapshotForDrain) }
        taken := peer.client.db.outbox }
  /-- A sync ends without result. -/
  | stopped :
      PeerMoves peer { peer with
        client := { peer.client with phase := .idle }
        reply := none }
  /-- A sync has looped too often. -/
  | gaveUp (loop : Nat) :
      peer.client.phase = .draining loop →
      PeerMoves peer { peer with
        client := { peer.client with phase := .idle }
        taken := peer.client.db.outbox }
  /-- The server demands a resync. -/
  | resyncing (loop : Nat) (snapshot : DrainSnapshot) (request : SyncRequest)
      (data : SyncResponse) :
      peer.client.phase = .awaiting loop snapshot request →
      peer.reply = some (.ok data) → data.resyncRequired = true →
      PeerMoves peer { peer with
        client := { peer.client with phase := .resyncing loop }
        reply := none }
  /-- The answer is taken up. -/
  | answered (loop : Nat) (snapshot : DrainSnapshot) (request : SyncRequest)
      (data : SyncResponse) :
      peer.client.phase = .awaiting loop snapshot request →
      peer.reply = some (.ok data) → data.resyncRequired = false →
      PeerMoves peer { peer with
        client := { peer.client with phase := .clearing loop snapshot data }
        reply := none }
  /-- The replica is wiped. -/
  | wiped (loop : Nat) :
      peer.client.phase = .resyncing loop →
      PeerMoves peer { peer with
        client := { peer.client with
          db := wipe peer.client.db
          phase := .draining (loop + 1) } }
  /-- The applied mutations are deleted. -/
  | cleared (loop : Nat) (snapshot : DrainSnapshot) (data : SyncResponse) :
      peer.client.phase = .clearing loop snapshot data →
      PeerMoves peer { peer with
        client := { peer.client with
          db := { peer.client.db with
            outbox :=
              peer.client.db.outbox.deleteApplied snapshot data.applied }
          phase := .dropping loop snapshot data } }
  /-- The rejected mutations are dropped. -/
  | dropped (loop : Nat) (snapshot : DrainSnapshot) (data : SyncResponse) :
      peer.client.phase = .dropping loop snapshot data →
      PeerMoves peer { peer with
        client := { peer.client with
          db := { peer.client.db with
            outbox :=
              peer.client.db.outbox.dropRejected snapshot data.rejected }
          phase := .applying loop data } }
  /-- The pulled changes are applied. -/
  | applied (loop : Nat) (data : SyncResponse) :
      peer.client.phase = .applying loop data →
      PeerMoves peer { peer with
        client := { peer.client with
          db := applyChanges peer.client.db data
          phase := .advancing loop data } }
  /-- The cursor moves, and there is more to pull. -/
  | continued (loop : Nat) (data : SyncResponse) (settledAt : Option Nat) :
      peer.client.phase = .advancing loop data → settledAt = none →
      PeerMoves peer { peer with
        client := { peer.client with
          db := { peer.client.db with cursor := data.cursor }
          phase := .draining (loop + 1) }
        settledAt := settledAt }
  /-- The cursor moves for the last time. -/
  | finished (loop : Nat) (data : SyncResponse) :
      peer.client.phase = .advancing loop data → data.hasMore = false →
      PeerMoves peer { peer with
        client := { peer.client with
          db := { peer.client.db with cursor := data.cursor }
          phase := .idle }
        settledAt := some peer.servedAt }

/-- A step of the system: the data layer of a peer writes, the loop of a peer
moves, or the server serves a peer or another tenant. -/
inductive Steps (tenantId : String) (system : System) :
    SystemEvent → System → Prop
  | edit (index : Nat) (event : Edit) (calls : Calls) :
      Steps tenantId system (.edit index event)
        (system.set index { system.peers index with
          client := ⟨(system.peers index).client.db.write event.write, calls,
            (system.peers index).client.phase⟩ })
  | move (event : SystemEvent) (index : Nat) (peer : Peer) :
      PeerMoves (system.peers index) peer →
      Steps tenantId system event (system.set index peer)
  | serve (index : Nat) (engine : Engine) (loop : Nat)
      (snapshot : DrainSnapshot) (request : SyncRequest) :
      (system.peers index).client.phase = .awaiting loop snapshot request →
      (system.peers index).reply = none →
      Steps tenantId system (.serve index engine)
        ({ system with
            db := (POST engine tenantId system.db request).1 }.set index
          { system.peers index with
            reply := some (POST engine tenantId system.db request).2
            servedAt := (POST engine tenantId system.db request).1.seq })
  | foreign (arrival : Arrival) :
      arrival.tenantId ≠ tenantId →
      Steps tenantId system (.foreign arrival)
        { system with
          db := (POST arrival.engine arrival.tenantId system.db
            arrival.request).1 }

section Moves

variable {peer next : Peer}

theorem Peer.step_eq
    {event : ClientEvent}
    (stepped : peer.step event = some next) :
    ∃ client, peer.client.step event = some client ∧
      next = { peer with client := client } := by
  simp only [Peer.step, Option.map_eq_some_iff] at stepped
  obtain ⟨client, ran, rfl⟩ := stepped
  exact ⟨client, ran, rfl⟩

theorem moves_of_start
    (stepped : peer.step .start = some next) :
    PeerMoves peer { next with settledAt := none } := by
  obtain ⟨client, ran, rfl⟩ := Peer.step_eq stepped
  simp only [Client.step] at ran
  split at ran
  · rename_i idle
    simp only [Option.some.injEq] at ran
    exact ran ▸ .started idle
  · contradiction

theorem moves_of_drain
    (stepped : peer.step .drain = some next) :
    PeerMoves peer { next with taken := peer.client.db.outbox } := by
  obtain ⟨client, ran, rfl⟩ := Peer.step_eq stepped
  simp only [Client.step] at ran
  split at ran
  · rename_i loop atHead
    split at ran
    · simp only [Option.some.injEq] at ran
      exact ran ▸ .sent loop atHead
    · simp only [Option.some.injEq] at ran
      exact ran ▸ .gaveUp loop atHead
  · contradiction

theorem moves_of_deliver
    {reply : SyncReply}
    (waiting : peer.reply = some reply)
    (stepped : peer.step (.receive (some reply)) = some next) :
    PeerMoves peer { next with reply := none } := by
  obtain ⟨client, ran, rfl⟩ := Peer.step_eq stepped
  simp only [Client.step] at ran
  split at ran
  · rename_i loop snapshot request awaiting
    simp only [Option.some.injEq] at ran
    subst ran
    cases reply with
    | error status => exact .stopped
    | ok data =>
        cases resync : data.resyncRequired with
        | true =>
            have phase : Phase.answered loop snapshot (some (.ok data)) =
                .resyncing loop := by simp [Phase.answered, resync]
            rw [phase]
            exact .resyncing loop snapshot request data awaiting waiting resync
        | false =>
            have phase : Phase.answered loop snapshot (some (.ok data)) =
                .clearing loop snapshot data := by
              simp [Phase.answered, resync]
            rw [phase]
            exact .answered loop snapshot request data awaiting waiting resync
  · contradiction

theorem moves_of_lose
    (stepped : peer.step (.receive none) = some next) :
    PeerMoves peer { next with reply := none } := by
  obtain ⟨client, ran, rfl⟩ := Peer.step_eq stepped
  simp only [Client.step] at ran
  split at ran
  · simp only [Option.some.injEq] at ran
    exact ran ▸ .stopped
  · contradiction

theorem moves_of_proceed
    (stepped : peer.step .proceed = some next) :
    PeerMoves peer { next with settledAt := peer.settles } := by
  obtain ⟨client, ran, rfl⟩ := Peer.step_eq stepped
  have transaction := step_proceed ran
  obtain ⟨db, calls, phase⟩ := client
  have sameCalls : calls = peer.client.calls := by
    simp only [Client.step, Option.map_eq_some_iff] at ran
    obtain ⟨_, _, same⟩ := ran
    exact (congrArg Client.calls same).symm
  subst sameCalls
  have resting : ∀ here : Phase, peer.client.phase = here →
      (∀ loop data, here ≠ .advancing loop data) →
        peer.settles = peer.settledAt := by
    rintro _ rfl elsewhere
    unfold Peer.settles
    split
    · rename_i loop data advancing
      exact absurd advancing (elsewhere loop data)
    · rfl
  cases here : peer.client.phase with
  | idle => simp [here, Phase.transaction] at transaction
  | draining loop => simp [here, Phase.transaction] at transaction
  | awaiting loop snapshot request =>
      simp [here, Phase.transaction] at transaction
  | resyncing loop =>
      simp only [here, Phase.transaction, Option.some.injEq, Prod.mk.injEq]
        at transaction
      obtain ⟨rfl, rfl⟩ := transaction
      rw [resting _ here (by simp)]
      exact .wiped loop here
  | clearing loop snapshot data =>
      simp only [here, Phase.transaction, Option.some.injEq, Prod.mk.injEq]
        at transaction
      obtain ⟨rfl, rfl⟩ := transaction
      rw [resting _ here (by simp)]
      exact .cleared loop snapshot data here
  | dropping loop snapshot data =>
      simp only [here, Phase.transaction, Option.some.injEq, Prod.mk.injEq]
        at transaction
      obtain ⟨rfl, rfl⟩ := transaction
      rw [resting _ here (by simp)]
      exact .dropped loop snapshot data here
  | applying loop data =>
      simp only [here, Phase.transaction, Option.some.injEq, Prod.mk.injEq]
        at transaction
      obtain ⟨rfl, rfl⟩ := transaction
      rw [resting _ here (by simp)]
      exact .applied loop data here
  | advancing loop data =>
      simp only [here, Phase.transaction, Option.some.injEq, Prod.mk.injEq]
        at transaction
      obtain ⟨rfl, rfl⟩ := transaction
      simp only [Peer.settles, here]
      cases more : data.hasMore with
      | true => exact .continued loop data none here rfl
      | false => exact .finished loop data here more

theorem moves_of_fail
    (stepped : peer.step .fail = some next) :
    PeerMoves peer { next with reply := none } := by
  obtain ⟨client, ran, rfl⟩ := Peer.step_eq stepped
  simp only [Client.step, Option.some.injEq] at ran
  exact ran ▸ .stopped

end Moves

/-- Every step is one of these. -/
theorem steps_of_step
    {tenantId : String} {system next : System} {event : SystemEvent}
    (stepped : system.step tenantId event = some next) :
    Steps tenantId system event next := by
  cases event with
  | edit index event =>
      simp only [System.step, Option.map_eq_some_iff] at stepped
      obtain ⟨peer, ran, rfl⟩ := stepped
      obtain ⟨⟨db, calls, phase⟩, edited, rfl⟩ := Peer.step_eq ran
      obtain ⟨written, samePhase⟩ := step_edit edited
      change db = _ at written
      change phase = _ at samePhase
      subst written samePhase
      exact .edit index event calls
  | start index =>
      simp only [System.step, Option.map_eq_some_iff] at stepped
      obtain ⟨peer, ran, rfl⟩ := stepped
      exact .move _ index _ (moves_of_start ran)
  | drain index =>
      simp only [System.step, Option.map_eq_some_iff] at stepped
      obtain ⟨peer, ran, rfl⟩ := stepped
      exact .move _ index _ (moves_of_drain ran)
  | serve index engine =>
      simp only [System.step] at stepped
      split at stepped
      · rename_i loop snapshot request waiting noReply
        simp only [Option.some.injEq] at stepped
        exact stepped ▸ .serve index engine loop snapshot request waiting noReply
      · contradiction
  | deliver index =>
      simp only [System.step, Option.bind_eq_some_iff,
        Option.map_eq_some_iff] at stepped
      obtain ⟨reply, waiting, peer, ran, rfl⟩ := stepped
      exact .move _ index _ (moves_of_deliver waiting ran)
  | lose index =>
      simp only [System.step, Option.map_eq_some_iff] at stepped
      obtain ⟨peer, ran, rfl⟩ := stepped
      exact .move _ index _ (moves_of_lose ran)
  | proceed index =>
      simp only [System.step, Option.map_eq_some_iff] at stepped
      obtain ⟨peer, ran, rfl⟩ := stepped
      exact .move _ index _ (moves_of_proceed ran)
  | fail index =>
      simp only [System.step, Option.map_eq_some_iff] at stepped
      obtain ⟨peer, ran, rfl⟩ := stepped
      exact .move _ index _ (moves_of_fail ran)
  | foreign arrival =>
      simp only [System.step] at stepped
      split at stepped
      · rename_i other
        simp only [serve, Option.map_some, Option.some.injEq] at stepped
        exact stepped ▸ .foreign arrival other
      · contradiction

/-! ## The database moves on -/

/-- What any request does to the rows of one tenant. -/
structure DbMovesOn (tenantId : String) (before after : Db) : Prop where
  seq_le : before.seq ≤ after.seq
  projects : MovesOn Project.rowVersion before.seq
    (before.ownProject tenantId) (after.ownProject tenantId)
  tasks : MovesOn Task.rowVersion before.seq
    (before.ownTask tenantId) (after.ownTask tenantId)

namespace DbMovesOn

variable {tenantId : String}

theorem refl (db : Db) : DbMovesOn tenantId db db :=
  ⟨le_rfl, .refl _ _ _, .refl _ _ _⟩

theorem trans
    {first second third : Db}
    (left : DbMovesOn tenantId first second)
    (right : DbMovesOn tenantId second third) :
    DbMovesOn tenantId first third where
  seq_le := left.seq_le.trans right.seq_le
  projects :=
    ⟨fun id row found old => left.projects.old id row
        (right.projects.old id row found (old.trans left.seq_le)) old,
      fun id gone => left.projects.kept id (right.projects.kept id gone)⟩
  tasks :=
    ⟨fun id row found old => left.tasks.old id row
        (right.tasks.old id row found (old.trans left.seq_le)) old,
      fun id gone => left.tasks.kept id (right.tasks.kept id gone)⟩

end DbMovesOn

/-- A write of any tenant moves the database on. -/
theorem OwnWrite.movesOn
    {clock : Nat → Nat} {writer : String} {db written : Db}
    (write : OwnWrite clock writer db written)
    (tenantId : String) :
    DbMovesOn tenantId db written := by
  cases write with
  | project project own storedOwn =>
      refine ⟨Nat.le_succ _, ⟨?_, ?_⟩, .refl _ _ _⟩
      · intro id row found old
        rw [Db.ownProject_eq_some_iff, Db.projects_find?_putProject] at found
        split at found
        · obtain ⟨same, _⟩ := found
          cases same
          exact absurd old (Nat.not_succ_le_self _)
        · exact (db.ownProject_eq_some_iff _ _ _).mpr found
      · intro id gone
        cases before : db.ownProject tenantId id with
        | none => rfl
        | some stored =>
            obtain ⟨found, storedTenant⟩ :=
              (db.ownProject_eq_some_iff _ _ _).mp before
            unfold Db.ownProject at gone
            rw [Db.projects_find?_putProject] at gone
            split at gone
            · rename_i same
              subst same
              have := (storedOwn stored found).symm.trans storedTenant
              simp [own, this] at gone
            · rw [found] at gone
              simp [storedTenant] at gone
  | task task parent own storedOwn placed =>
      refine ⟨Nat.le_succ _, .refl _ _ _, ⟨?_, ?_⟩⟩
      · intro id row found old
        rw [Db.ownTask_eq_some_iff, Db.tasks_find?_putTask] at found
        split at found
        · obtain ⟨same, _⟩ := found
          cases same
          exact absurd old (Nat.not_succ_le_self _)
        · exact (db.ownTask_eq_some_iff _ _ _).mpr found
      · intro id gone
        cases before : db.ownTask tenantId id with
        | none => rfl
        | some stored =>
            obtain ⟨found, storedTenant⟩ :=
              (db.ownTask_eq_some_iff _ _ _).mp before
            unfold Db.ownTask at gone
            rw [Db.tasks_find?_putTask] at gone
            split at gone
            · rename_i same
              subst same
              have := (storedOwn stored found).symm.trans storedTenant
              simp [own, this] at gone
            · rw [found] at gone
              simp [storedTenant] at gone

theorem OwnWrites.movesOn
    {clock : Nat → Nat} {writer : String} {db written : Db}
    (writes : OwnWrites clock writer db written)
    (tenantId : String) :
    DbMovesOn tenantId db written := by
  induction writes with
  | refl => exact .refl db
  | tail _ write inductionHypothesis =>
      exact inductionHypothesis.trans (write.movesOn tenantId)

/-- A mutation moves the database on. -/
theorem mutate_movesOn (engine : Engine) (tenantId : String)
    (m : SyncMutation) (db : Db) :
    DbMovesOn tenantId db (mutate engine tenantId m db).1 :=
  (mutate_mutates engine tenantId m db).ownWrites.movesOn tenantId

/-- A request of any tenant moves the database on. -/
theorem POST_movesOn
    (engine : Engine) (writer tenantId : String) (db : Db)
    (request : SyncRequest) :
    DbMovesOn tenantId db (POST engine writer db request).1 :=
  (POST_ownWrites engine writer db request).movesOn tenantId

end Sync
end EvoPlatform
