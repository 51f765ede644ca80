import EvoPlatform.Sync.Replication

/-!
# Snapshots on their way

What ties a peer to the outbox of which its last snapshot was taken, whatever is
rejected and whatever was collected: the request under way sends that snapshot,
and until both removals are over an entry is one that the snapshot has seen or
one that was queued after it.
-/

namespace EvoPlatform
namespace Sync

open Offline

/-- The entries that the last snapshot has seen are still to be removed, in
whole or in part. -/
def Peer.holding (peer : Peer) : Bool :=
  match peer.client.phase with
  | .awaiting _ _ _ => true
  | .clearing _ _ _ => true
  | .dropping _ _ _ => true
  | _ => false

/-- What holds of every peer in every run. -/
structure Tracks (peer : Peer) : Prop where
  awaiting : ∀ loop snapshot request,
    peer.client.phase = .awaiting loop snapshot request →
      snapshot = peer.taken.snapshotForDrain ∧
        request.mutations =
          peer.taken.snapshotForDrain.toSend.map sentMutation ∧
        request.cursor = peer.client.db.cursor
  clearing : ∀ loop snapshot data,
    peer.client.phase = .clearing loop snapshot data →
      snapshot = peer.taken.snapshotForDrain
  dropping : ∀ loop snapshot data,
    peer.client.phase = .dropping loop snapshot data →
      snapshot = peer.taken.snapshotForDrain
  /-- Answers reach only clients that wait for one. -/
  noReply : (∀ loop snapshot request,
    peer.client.phase ≠ .awaiting loop snapshot request) → peer.reply = none
  /-- What is older than the snapshot was seen by it. -/
  covered : peer.holding = true →
    ∀ m ∈ peer.client.db.outbox.entries, m.seq < peer.taken.nextSeq →
      m ∈ peer.taken.entries
  nextSeq : peer.holding = true →
    peer.taken.nextSeq ≤ peer.client.db.outbox.nextSeq

/-- What a removal deletes was seen by the snapshot. -/
theorem seen_of_removed
    {taken outbox : Outbox} {answered : OutboxMutation → Bool}
    {m : OutboxMutation}
    (present : m ∈ outbox.entries)
    (removed : m ∉ (outbox.bulkDelete
      (taken.snapshotForDrain.seqsOf answered)).entries) :
    m.seq < taken.nextSeq := by
  have isRemoved : m.seq ∈ taken.snapshotForDrain.seqsOf answered := by
    by_contra kept
    refine removed (List.mem_filter.mpr ⟨present, ?_⟩)
    simpa using kept
  obtain ⟨_, _, _, seen, wasThere, _, same⟩ :=
    mem_seqsOf_snapshotForDrain.mp isRemoved
  exact same ▸ taken.bounded seen wasThere

theorem mem_of_mem_bulkDelete
    {outbox : Outbox} {seqs : List Nat} {m : OutboxMutation}
    (member : m ∈ (outbox.bulkDelete seqs).entries) :
    m ∈ outbox.entries :=
  List.mem_of_mem_filter member

namespace Tracks

variable {peer next : Peer}

/-- Without a snapshot under way there is little to say. -/
theorem of_released
    (released : peer.holding = false)
    (noReply : peer.reply = none) :
    Tracks peer := by
  have notHolding : peer.holding ≠ true := by simp [released]
  refine ⟨?_, ?_, ?_, fun _ => noReply,
    fun holding => absurd holding notHolding,
    fun holding => absurd holding notHolding⟩
  · intro loop snapshot request here
    simp [Peer.holding, here] at released
  · intro loop snapshot data here
    simp [Peer.holding, here] at released
  · intro loop snapshot data here
    simp [Peer.holding, here] at released

theorem wrote
    (tracks : Tracks peer) (write : LocalWrite) (calls : Calls) :
    Tracks (peer.wrote write calls) where
  awaiting := by simpa [Peer.wrote] using tracks.awaiting
  clearing := tracks.clearing
  dropping := tracks.dropping
  noReply := tracks.noReply
  covered := by
    intro holding m member old
    rcases mem_entries_write member with stays | new
    · exact tracks.covered holding m stays old
    · have := tracks.nextSeq holding
      change m.seq < peer.taken.nextSeq at old
      omega
  nextSeq := fun holding =>
    (tracks.nextSeq holding).trans (nextSeq_le_write _ _)

/-- The request of a peer is served. -/
theorem served
    {engine : Engine} {tenantId : String} {db : Db}
    {loop : Nat} {snapshot : DrainSnapshot} {request : SyncRequest}
    (tracks : Tracks peer)
    (awaiting : peer.client.phase = .awaiting loop snapshot request) :
    Tracks (peer.served engine tenantId db request) where
  awaiting := tracks.awaiting
  clearing := tracks.clearing
  dropping := tracks.dropping
  noReply := fun elsewhere => absurd awaiting (elsewhere _ _ _)
  covered := tracks.covered
  nextSeq := tracks.nextSeq

/-- A move of the loop. -/
theorem move
    (tracks : Tracks peer)
    (moves : PeerMoves peer next) :
    Tracks next := by
  cases moves with
  | started idle => exact .of_released rfl (tracks.noReply (by simp [idle]))
  | sent loop draining =>
      have noReply := tracks.noReply (by simp [draining])
      refine ⟨?_, nofun, nofun, fun _ => noReply, fun _ _ member _ => member,
        fun _ => le_rfl⟩
      rintro _ _ _ ⟨⟩
      exact ⟨rfl, rfl, rfl⟩
  | stopped => exact .of_released rfl rfl
  | gaveUp loop draining =>
      exact .of_released rfl (tracks.noReply (by simp [draining]))
  | resyncing loop snapshot request data awaiting replied resync =>
      exact .of_released rfl rfl
  | answered loop snapshot request data awaiting replied noResync =>
      have holding : peer.holding = true := by simp [Peer.holding, awaiting]
      refine ⟨nofun, ?_, nofun, fun _ => rfl, fun _ => tracks.covered holding,
        fun _ => tracks.nextSeq holding⟩
      rintro _ _ _ ⟨⟩
      exact (tracks.awaiting _ _ _ awaiting).1
  | wiped loop resyncing =>
      exact .of_released rfl (tracks.noReply (by simp [resyncing]))
  | cleared loop snapshot data clearing =>
      have holding : peer.holding = true := by simp [Peer.holding, clearing]
      refine ⟨nofun, nofun, ?_, fun _ => tracks.noReply (by simp [clearing]),
        ?_, fun _ => tracks.nextSeq holding⟩
      · rintro _ _ _ ⟨⟩
        exact tracks.clearing _ _ _ clearing
      · intro _ m member old
        exact tracks.covered holding m (mem_of_mem_bulkDelete member) old
  | dropped loop snapshot data dropping =>
      exact .of_released rfl (tracks.noReply (by simp [dropping]))
  | applied loop data applying =>
      exact .of_released rfl (tracks.noReply (by simp [applying]))
  | continued loop data settledAt advancing isNone =>
      exact .of_released rfl (tracks.noReply (by simp [advancing]))
  | finished loop data advancing last =>
      exact .of_released rfl (tracks.noReply (by simp [advancing]))

end Tracks

/-! ## Runs -/

/-- The rule for one peer in a run of the system: what its own steps, the
service of its request, and the requests of others keep, holds of it in every
state. -/
theorem peer_of_run
    {tenantId : String} {index : Nat}
    {admissible : System → SystemEvent → Prop}
    (holds : Db → Peer → Prop)
    (wrote : ∀ system event calls, admissible system (.edit index event) →
      Tracks (system.peers index) → holds system.db (system.peers index) →
        holds system.db ((system.peers index).wrote event.write calls))
    (moved : ∀ server peer next, Tracks peer → holds server peer →
      PeerMoves peer next → holds server next)
    (served : ∀ system engine loop snapshot request,
      admissible system (.serve index engine) →
        Tracks (system.peers index) → holds system.db (system.peers index) →
          (system.peers index).client.phase =
              .awaiting loop snapshot request →
            (system.peers index).reply = none →
              holds (POST engine tenantId system.db request).1
                ((system.peers index).served engine tenantId system.db request))
    (others : ∀ system other engine loop snapshot request, other ≠ index →
      admissible system (.serve other engine) →
        (system.peers other).client.phase = .awaiting loop snapshot request →
          holds system.db (system.peers index) →
            holds (POST engine tenantId system.db request).1
              (system.peers index))
    (foreign : ∀ server peer (arrival : Arrival), arrival.tenantId ≠ tenantId →
      holds server peer →
        holds (POST arrival.engine arrival.tenantId server arrival.request).1
          peer)
    {start system : System} {events : List SystemEvent}
    (run : Run (System.step tenantId) admissible start events system)
    (tracks : Tracks (start.peers index))
    (initially : holds start.db (start.peers index)) :
    Tracks (system.peers index) ∧ holds system.db (system.peers index) := by
  refine run.invariant (fun system => Tracks (system.peers index) ∧
    holds system.db (system.peers index)) ?_ ⟨tracks, initially⟩
  rintro system event next ⟨tracks, held⟩ allowed stepped
  -- A step of another peer leaves this one.
  have elsewhere {other : Nat} {peer : Peer} (different : other ≠ index) :
      (system.set other peer).peers index = system.peers index :=
    Function.update_of_ne different.symm _ _
  have here (peer : Peer) : (system.set index peer).peers index = peer :=
    Function.update_self _ _ _
  cases steps_of_step stepped with
  | edit other event calls =>
      rcases eq_or_ne other index with rfl | different
      · rw [here]
        exact ⟨tracks.wrote event.write calls,
          wrote system event calls allowed tracks held⟩
      · rw [elsewhere different]
        exact ⟨tracks, held⟩
  | move event other peer moves =>
      rcases eq_or_ne other index with rfl | different
      · rw [here]
        exact ⟨tracks.move moves, moved _ _ _ tracks held moves⟩
      · rw [elsewhere different]
        exact ⟨tracks, held⟩
  | serve other engine loop snapshot request awaiting noReply =>
      rcases eq_or_ne other index with rfl | different
      · simp only [System.set, Function.update_self]
        exact ⟨tracks.served awaiting, served system engine loop snapshot
          request allowed tracks held awaiting noReply⟩
      · simp only [System.set, Function.update_of_ne different.symm]
        exact ⟨tracks, others system other engine loop snapshot request
          different allowed awaiting held⟩
  | foreign arrival notOwn =>
      exact ⟨tracks, foreign system.db _ arrival notOwn held⟩

end Sync
end EvoPlatform
