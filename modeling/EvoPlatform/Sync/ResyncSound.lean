import EvoPlatform.Sync.CollectedSource

/-!
# Resync soundness

Whatever the replica has from the server, the client will hear of its deletion:
the tombstone lies beyond the cursor, or it was purged and the cursor is behind
the horizon, so that the server demands a resync.  The same holds of the cursor
that the client is about to store, except for what the page in its hands buries.
The relation survives every step but the few at which a deletion is missed.
-/

namespace EvoPlatform
namespace Sync

open Offline PurgedSource

/-! ## The invariant -/

namespace Chronicle

/-- The rows of the tenant on the server, with what was collected. -/
def source (tenantId : String) (state : Chronicle) : PurgedSource RowKey :=
  sourceOf tenantId state.now.db state.collected

/-- The rows that the replica has from the server or the page brings. -/
def awaits (state : Chronicle) (data : SyncResponse) (key : RowKey) : Prop :=
  state.tracks key = true ∨ data.brings key = true

/-- The answer in the hands of the client.  None of the rows was deleted for good
when it was read, and of the other deletions the client hears later. -/
structure Handed (tenantId : String) (state : Chronicle) (data : SyncResponse) :
    Prop where
  behind : state.now.peer.client.db.cursor ≤ data.cursor
  drawn : data.cursor ≤ state.now.db.seq
  informed : Informed (state.source tenantId) (state.awaits data)
    (fun key => data.buries key = true) data.cursor
  late : ∀ key, state.awaits data key → (state.source tenantId).purged key →
    state.late key = true

/-- Whatever the replica has from the server, or is about to get, the client will
hear of its deletion. -/
structure Sound (tenantId : String) (state : Chronicle) : Prop where
  cursor_le : state.now.peer.client.db.cursor ≤ state.now.db.seq
  awaiting : ∀ loop snapshot request,
    state.now.peer.client.phase = .awaiting loop snapshot request →
      request.cursor = state.now.peer.client.db.cursor
  /-- Answers reach only clients that wait for one. -/
  noReply : (∀ loop snapshot request,
    state.now.peer.client.phase ≠ .awaiting loop snapshot request) →
      state.now.peer.reply = none
  /-- From the stored cursor on. -/
  stored : Informed (state.source tenantId) (fun key => state.tracks key = true)
    (fun _ => False) state.now.peer.client.db.cursor
  /-- From the cursor in the hands of the client on. -/
  hand : ∀ data, state.now.peer.hand = some data → state.Handed tenantId data

variable {tenantId : String} {state : Chronicle}

theorem purged_iff {key : RowKey} :
    state.purged tenantId key = true ↔ (state.source tenantId).purged key := by
  simp [purged, source, sourceOf]

theorem gone_iff {key : RowKey} :
    state.gone tenantId key = true ↔ (state.source tenantId).Gone key := by
  unfold gone Gone source sourceOf
  cases found : state.now.db.stored tenantId key with
  | none => simp [found]
  | some row =>
      obtain ⟨version, dead⟩ := row
      simp [found]

/-- A client that was never used has nothing. -/
theorem Sound.begin (clientId : String) (db : Db) (collected : RowKey → Bool) :
    Sound tenantId (begin clientId db collected) where
  cursor_le := Nat.zero_le _
  awaiting := by
    rintro _ _ _ ⟨⟩
  noReply := fun _ => rfl
  stored := .of_nothing fun key => by
    obtain ⟨table, id⟩ := key
    cases table <;> simp [tracks, Chronicle.begin, Peer.fresh, Client.fresh,
      TenantDatabase.empty, holdsRow]
  hand := by
    rintro _ ⟨⟩

/-- The history of a step that leaves the database. -/
theorem collectedBy_self (db : Db) (collected : RowKey → Bool) :
    collectedBy tenantId db db collected = collected :=
  collectedBy_eq fun _ gone => gone

/-- Only a page that is worked in changes what the client holds on its own
account. -/
theorem keeps_eq {next : Pairing}
    (elsewhere : ∀ loop data loop' data',
      state.now.peer.client.phase = .applying loop data →
        next.peer.client.phase ≠ .advancing loop' data') :
    state.keeps next = state.retained := by
  funext key
  unfold keeps
  split
  · rename_i applying advancing
    exact absurd advancing (elsewhere _ _ _ _ applying)
  · rfl

theorem keeps_same (db : Db) :
    state.keeps ⟨db, state.now.peer⟩ = state.retained :=
  keeps_eq fun _ _ _ _ applying => by simp [applying]

/-! ## The loop of the client -/

namespace Sound

/-- The loop moves, and neither the replica nor what comes next changes. -/
theorem keep
    (sound : Sound tenantId state)
    {peer : Peer}
    (sameRows : ∀ key, holdsRow peer.client.db key =
      holdsRow state.now.peer.client.db key)
    (sameCursor : peer.client.db.cursor = state.now.peer.client.db.cursor)
    (awaiting : ∀ loop snapshot request,
      peer.client.phase = .awaiting loop snapshot request →
        request.cursor = peer.client.db.cursor)
    (noReply : (∀ loop snapshot request,
      peer.client.phase ≠ .awaiting loop snapshot request) →
        peer.reply = none)
    (hand : ∀ data, peer.hand = some data → state.now.peer.hand = some data) :
    Sound tenantId { state with now := ⟨state.now.db, peer⟩ } where
  cursor_le := sameCursor ▸ sound.cursor_le
  awaiting := awaiting
  noReply := noReply
  stored := by
    change Informed _ _ _ peer.client.db.cursor
    rw [sameCursor]
    refine sound.stored.retrack fun key tracked => Or.inl ?_
    rwa [tracks, sameRows] at tracked
  hand := by
    intro data holds
    have handed := sound.hand data (hand data holds)
    have sameAwaits : ∀ key,
        ({ state with now := ⟨state.now.db, peer⟩ } : Chronicle).awaits data
          key → state.awaits data key := by
      rintro key (tracked | brought)
      · rw [tracks, sameRows] at tracked
        exact Or.inl tracked
      · exact Or.inr brought
    exact ⟨sameCursor ▸ handed.behind, handed.drawn,
      handed.informed.retrack fun key awaited => Or.inl (sameAwaits key awaited),
      fun key awaited => handed.late key (sameAwaits key awaited)⟩

/-- The data layer writes: a row that it puts in the replica is not deleted, or
the client holds it on its own account. -/
theorem wrote
    (sound : Sound tenantId state)
    (write : LocalWrite)
    (calls : Calls) :
    Sound tenantId { state with
      now := ⟨state.now.db, state.now.peer.wrote write calls⟩
      retained := fun key =>
        if holdsRow state.now.peer.client.db key then state.retained key
        else state.gone tenantId key } := by
  have retracked : ∀ key,
      (holdsRow (state.now.peer.client.db.write write) key &&
        !(if holdsRow state.now.peer.client.db key then state.retained key
          else state.gone tenantId key)) = true →
        state.tracks key = true ∨ ¬(state.source tenantId).Gone key := by
    intro key tracked
    cases before : holdsRow state.now.peer.client.db key with
    | true =>
        simp only [before, if_true, Bool.and_eq_true] at tracked
        exact Or.inl (by simp [tracks, before, tracked.2])
    | false =>
        simp only [before, Bool.false_eq_true, if_false, Bool.and_eq_true,
          Bool.not_eq_true'] at tracked
        exact Or.inr fun isGone => by
          rw [← gone_iff, tracked.2] at isGone
          contradiction
  refine ⟨?_, ?_, sound.noReply, ?_, ?_⟩
  · exact (cursor_write _ _).symm ▸ sound.cursor_le
  · intro loop snapshot request awaits
    exact (sound.awaiting loop snapshot request awaits).trans
      (cursor_write _ _).symm
  · change Informed _ _ _ (state.now.peer.client.db.write write).cursor
    rw [cursor_write]
    exact sound.stored.retrack retracked
  · intro data holds
    have handed := sound.hand data holds
    refine ⟨(cursor_write _ _).symm ▸ handed.behind, handed.drawn,
      handed.informed.retrack ?_, ?_⟩
    · rintro key (tracked | brought)
      · exact (retracked key tracked).imp_left Or.inl
      · exact Or.inl (Or.inr brought)
    · rintro key (tracked | brought) purged
      · rcases retracked key tracked with before | alive
        · exact handed.late key (Or.inl before) purged
        · exact absurd (Or.inr purged) alive
      · exact handed.late key (Or.inr brought) purged

/-- The replica is wiped. -/
theorem wiped
    (sound : Sound tenantId state)
    {loop : Nat}
    (resyncing : state.now.peer.client.phase = .resyncing loop) :
    Sound tenantId { state with
      now := ⟨state.now.db, { state.now.peer with
        client := { state.now.peer.client with
          db := wipe state.now.peer.client.db
          phase := .draining (loop + 1) } }⟩ } where
  cursor_le := Nat.zero_le _
  awaiting := by
    rintro _ _ _ ⟨⟩
  noReply := fun _ => sound.noReply (by simp [resyncing])
  stored := .of_nothing fun key => by
    obtain ⟨table, id⟩ := key
    cases table <;> simp [tracks, wipe, holdsRow]
  hand := by
    rintro _ ⟨⟩

/-- The page is worked in: what it buries is gone, or the client holds it on its
own account. -/
theorem applied
    (sound : Sound tenantId state)
    {loop : Nat} {data : SyncResponse}
    (applying : state.now.peer.client.phase = .applying loop data) :
    Sound tenantId { state with
      now := ⟨state.now.db, { state.now.peer with
        client := { state.now.peer.client with
          db := applyChanges state.now.peer.client.db data
          phase := .advancing loop data } }⟩
      retained := fun key => state.retained key && !data.brings key ||
        data.buries key &&
          state.now.peer.client.db.outbox.hasPending key.1 key.2 } := by
  have handed := sound.hand data (by simp [Peer.hand, applying])
  have worked : ∀ key,
      (holdsRow (applyChanges state.now.peer.client.db data) key &&
        !(state.retained key && !data.brings key || data.buries key &&
          state.now.peer.client.db.outbox.hasPending key.1 key.2)) = true →
        state.awaits data key ∧ ¬data.buries key = true := by
    intro key tracked
    simp only [Bool.and_eq_true, Bool.not_eq_true', Bool.or_eq_false_iff,
      Bool.and_eq_false_iff] at tracked
    obtain ⟨held, notRetained, notShadowed⟩ := tracked
    cases brought : data.brings key with
    | true => exact ⟨Or.inr brought, by simp [SyncResponse.buries, brought]⟩
    | false =>
        obtain ⟨before, shadowed⟩ := held_of_applied brought held
        simp only [brought, Bool.not_false, Bool.true_eq_false, or_false]
          at notRetained
        refine ⟨Or.inl (by simp [tracks, before, notRetained]), ?_⟩
        intro buried
        simp [buried, shadowed buried] at notShadowed
  have afterwards : Informed _ _ (fun _ => False) data.cursor :=
    handed.informed.worksIn worked
  refine ⟨?_, by rintro _ _ _ ⟨⟩, fun _ => sound.noReply (by simp [applying]),
    ?_, ?_⟩
  · exact (cursor_applyChanges _ _).symm ▸ sound.cursor_le
  · change Informed _ _ _ (applyChanges _ data).cursor
    rw [cursor_applyChanges]
    exact afterwards.stay handed.behind
  · rintro _ ⟨⟩
    refine ⟨(cursor_applyChanges _ _).symm ▸ handed.behind, handed.drawn,
      (handed.informed.worksIn worked).retrack ?_, ?_⟩
    · rintro key (tracked | brought)
      · exact Or.inl tracked
      · simp at brought
    · rintro key (tracked | brought)
      · exact handed.late key (worked key tracked).1
      · simp at brought

/-- The cursor is stored. -/
theorem advanced
    (sound : Sound tenantId state)
    {loop : Nat} {data : SyncResponse} {phase : Phase}
    (settledAt : Option Nat)
    (advancing : state.now.peer.client.phase = .advancing loop data)
    (ended : phase.ended = true) :
    Sound tenantId { state with
      now := ⟨state.now.db, { state.now.peer with
        client := { state.now.peer.client with
          db := { state.now.peer.client.db with cursor := data.cursor }
          phase := phase }
        settledAt := settledAt }⟩ } := by
  have handed := sound.hand
    { data with projects := [], tasks := [] } (by simp [Peer.hand, advancing])
  refine ⟨handed.drawn, ?_, fun _ => sound.noReply (by simp [advancing]), ?_, ?_⟩
  · rintro _ _ _ awaits
    change phase = _ at awaits
    simp [awaits, Phase.ended] at ended
  · exact handed.informed.worksIn fun key tracked => ⟨Or.inl tracked, by simp⟩
  · intro next holds
    cases phase <;> simp [Peer.hand, Phase.ended] at holds ended

/-- A move of the loop. -/
theorem move
    (sound : Sound tenantId state)
    {peer : Peer}
    (moves : PeerMoves state.now.peer peer) :
    Sound tenantId { state with
      now := ⟨state.now.db, peer⟩
      retained := state.keeps ⟨state.now.db, peer⟩ } := by
  cases moves with
  | started idle =>
      rw [keeps_eq (by simp)]
      exact sound.keep (fun _ => rfl) rfl (by simp)
        (fun _ => sound.noReply (by simp [idle])) (by simp [Peer.hand])
  | sent loop draining =>
      rw [keeps_eq (by simp)]
      have noReply := sound.noReply (by simp [draining])
      refine sound.keep (fun _ => rfl) rfl ?_ (by simp)
        (by simp [Peer.hand, noReply])
      rintro _ _ _ ⟨⟩
      rfl
  | stopped =>
      rw [keeps_eq (by simp)]
      exact sound.keep (fun _ => rfl) rfl (by simp) (fun _ => rfl)
        (by simp [Peer.hand])
  | gaveUp loop draining =>
      rw [keeps_eq (by simp)]
      exact sound.keep (fun _ => rfl) rfl (by simp)
        (fun _ => sound.noReply (by simp [draining])) (by simp [Peer.hand])
  | resyncing loop snapshot request data awaiting replied resync =>
      rw [keeps_eq (by simp)]
      exact sound.keep (fun _ => rfl) rfl (by simp) (fun _ => rfl)
        (by simp [Peer.hand])
  | answered loop snapshot request data awaiting replied noResync =>
      rw [keeps_eq (by simp)]
      exact sound.keep (fun _ => rfl) rfl (by simp) (fun _ => rfl)
        (by simp [Peer.hand, awaiting, replied, noResync])
  | wiped loop resyncing =>
      rw [keeps_eq (by simp)]
      exact sound.wiped resyncing
  | cleared loop snapshot data clearing =>
      rw [keeps_eq (by simp)]
      exact sound.keep (fun key => by cases key; rfl) rfl (by simp)
        (fun _ => sound.noReply (by simp [clearing]))
        (by simp [Peer.hand, clearing])
  | dropped loop snapshot data dropping =>
      rw [keeps_eq (by simp)]
      exact sound.keep (fun key => by cases key; rfl) rfl (by simp)
        (fun _ => sound.noReply (by simp [dropping]))
        (by simp [Peer.hand, dropping])
  | applied loop data applying =>
      have worked : state.keeps ⟨state.now.db, { state.now.peer with
          client := { state.now.peer.client with
            db := applyChanges state.now.peer.client.db data
            phase := .advancing loop data } }⟩ =
          fun key => state.retained key && !data.brings key ||
            data.buries key &&
              state.now.peer.client.db.outbox.hasPending key.1 key.2 := by
        funext key
        simp [Chronicle.keeps, applying]
      rw [worked]
      exact sound.applied applying
  | continued loop data settledAt advancing isNone =>
      rw [keeps_eq (by simp)]
      exact sound.advanced settledAt advancing rfl
  | finished loop data advancing last =>
      rw [keeps_eq (by simp)]
      exact sound.advanced _ advancing rfl

end Sound

/-! ## The server -/

section Server

variable {engine : Engine} {loop : Nat} {snapshot : DrainSnapshot}
  {request : SyncRequest} {data : SyncResponse}

/-- Nothing that the client has from the server is deleted for good when its
request is answered without demanding a resync. -/
theorem Sound.not_purged_of_served
    (sound : Sound tenantId state)
    (awaiting : state.now.peer.client.phase = .awaiting loop snapshot request)
    (clean : state.startsClean tenantId engine request = true)
    (succeeded : (POST engine tenantId state.now.db request).2 = .ok data)
    (noResync : data.resyncRequired = false)
    {key : RowKey}
    (tracked : state.tracks key = true) :
    ¬(state.source tenantId).purged key := by
  intro purged
  rcases Nat.eq_zero_or_pos request.cursor with zero | positive
  · obtain ⟨valid, accepted⟩ := accepted_of_ok succeeded
    simp only [startsClean, zero, ne_eq, not_true, decide_false, valid, accepted,
      Bool.not_true, Bool.false_or, List.all_eq_true] at clean
    have held := (Bool.and_eq_true_iff.mp tracked).1
    have isClean := clean key (mem_heldRows_iff.mpr held)
    simp [tracked, purged_iff.mpr purged] at isClean
  · have ahead := (answers_of_noResync succeeded noResync).2
    rw [(POST_ownWrites engine tenantId _ request).horizon] at ahead
    refine sound.stored key tracked (Or.inr ⟨purged, ?_⟩)
    rw [← sound.awaiting _ _ _ awaiting]
    exact horizon_le_of_ahead positive ahead

/-- A request is served that is not the client's own. -/
theorem Sound.written
    (sound : Sound tenantId state)
    (engine : Engine)
    (writer : String)
    (request : SyncRequest) :
    Sound tenantId { state with
      now := ⟨(POST engine writer state.now.db request).1,
        state.now.peer⟩ } where
  cursor_le := sound.cursor_le.trans
    (POST_movesOn engine writer tenantId _ request).seq_le
  awaiting := sound.awaiting
  noReply := sound.noReply
  stored := sound.stored.rewritten (rewritten_POST engine writer _ request)
    sound.cursor_le
  hand := by
    intro data holds
    have handed := sound.hand data holds
    have rewritten : Rewritten state.now.db.seq (state.source tenantId)
        (sourceOf tenantId (POST engine writer state.now.db request).1
          state.collected) :=
      rewritten_POST engine writer state.now.db request
    exact ⟨handed.behind, handed.drawn.trans
        (POST_movesOn engine writer tenantId _ request).seq_le,
      handed.informed.rewritten rewritten handed.drawn,
      fun key awaited purged =>
        handed.late key awaited (rewritten.purged key purged)⟩

/-- The request of the client is served. -/
theorem Sound.served
    (sound : Sound tenantId state)
    (awaiting : state.now.peer.client.phase = .awaiting loop snapshot request)
    (clean : state.startsClean tenantId engine request = true) :
    Sound tenantId { state with
      now := ⟨(POST engine tenantId state.now.db request).1,
        state.now.peer.served engine tenantId state.now.db request⟩
      late := fun _ => false } := by
  have written := sound.written engine tenantId request
  have sentCursor := sound.awaiting _ _ _ awaiting
  refine ⟨written.cursor_le, sound.awaiting,
    fun elsewhere => absurd awaiting (elsewhere _ _ _), written.stored, ?_⟩
  intro data holds
  obtain ⟨succeeded, noResync⟩ :
      (POST engine tenantId state.now.db request).2 = .ok data ∧
        data.resyncRequired = false := by
    cases reply : (POST engine tenantId state.now.db request).2 with
    | error status =>
        simp [Peer.hand, Peer.served, awaiting, reply] at holds
    | ok answer =>
        simp only [Peer.hand, Peer.served, awaiting, reply,
          Option.ite_none_left_eq_some, Option.some.injEq,
          Bool.not_eq_true] at holds
        exact ⟨congrArg _ holds.2, holds.2 ▸ holds.1⟩
  have answers := (answers_of_noResync succeeded noResync).1
  have alive : ∀ key, state.awaits data key →
      ¬(sourceOf tenantId (POST engine tenantId state.now.db request).1
        state.collected).purged key := by
    rintro key (tracked | brought) purged
    · exact sound.not_purged_of_served awaiting clean succeeded noResync tracked
        ((rewritten_POST engine tenantId _ request).purged key purged)
    · obtain ⟨version, stored⟩ := answers.stored_of_brings brought
      rw [purged.1] at stored
      contradiction
  refine ⟨sentCursor ▸ answers.cursor_le,
    answers.cursor_le_seq (sentCursor ▸ sound.cursor_le), ?_, ?_⟩
  · rintro key tracked (⟨version, stored, behind⟩ | ⟨purged, _⟩)
    · rcases Nat.lt_or_ge request.cursor version with above | old
      · exact answers.buries_of_stored stored above behind
      · rcases tracked with held | brought
        · exact absurd (Or.inl ⟨version, stored, sentCursor ▸ old⟩)
            (written.stored key held)
        · obtain ⟨_, live⟩ := answers.stored_of_brings brought
          rw [show (POST engine tenantId state.now.db request).1.stored
            tenantId key = _ from stored] at live
          simp at live
    · exact absurd purged (alive key tracked)
  · exact fun key tracked purged => absurd purged (alive key tracked)

/-- Tombstones are collected. -/
theorem Sound.collected
    (sound : Sound tenantId state)
    {bound : Nat}
    (raised : state.now.db.horizon.getD 0 ≤ bound)
    (tombstones : state.now.db.collectsTombstones bound = true) :
    Sound tenantId { state with
      now := ⟨state.now.db.collect bound, state.now.peer⟩
      collected := collectedBy tenantId state.now.db
        (state.now.db.collect bound) state.collected
      late := collectedBy tenantId state.now.db
        (state.now.db.collect bound) state.late } where
  cursor_le := sound.cursor_le
  awaiting := sound.awaiting
  noReply := sound.noReply
  stored := sound.stored.collected (purges_collect raised tombstones)
  hand := by
    intro data holds
    have handed := sound.hand data holds
    refine ⟨handed.behind, handed.drawn,
      handed.informed.collected (purges_collect raised tombstones), ?_⟩
    rintro key awaited ⟨gone, isCollected⟩
    change collectedBy _ _ _ _ _ = true at isCollected
    change collectedBy _ _ _ _ _ = true
    have nowGone : (state.now.db.collect bound).stored tenantId key = none :=
      gone
    cases before : state.now.db.stored tenantId key with
    | some row => simp [collectedBy, before, nowGone]
    | none =>
        simp only [collectedBy, before, Option.isSome_none, Bool.false_and,
          Bool.or_false] at isCollected ⊢
        exact handed.late key awaited ⟨before, isCollected⟩

end Server

/-! ## Runs -/

/-- A step at which no deletion is missed. -/
theorem Sound.step
    (sound : Sound tenantId state)
    {event : PairingEvent} {next : Chronicle}
    (heard : state.heard tenantId event = true)
    (stepped : state.step tenantId event = some next) :
    Sound tenantId next := by
  simp only [Chronicle.step, Option.map_eq_some_iff] at stepped
  obtain ⟨now, ran, rfl⟩ := stepped
  cases pairingSteps_of_step ran with
  | edit event calls =>
      change Sound tenantId ⟨_, collectedBy _ state.now.db state.now.db _, _,
        collectedBy _ state.now.db state.now.db _⟩
      rw [collectedBy_self, collectedBy_self]
      exact sound.wrote event.write calls
  | move _ peer isMove moves =>
      have keeps : state.retains tenantId event ⟨state.now.db, peer⟩ =
          state.keeps ⟨state.now.db, peer⟩ := by
        cases event <;> first | rfl | simp [PairingEvent.moves] at isMove
      have late : state.lateAfter tenantId event ⟨state.now.db, peer⟩ =
          state.late := by
        rw [← collectedBy_self state.now.db state.late]
        cases event <;> first | rfl | simp [PairingEvent.moves] at isMove
      rw [collectedBy_self, keeps, late]
      exact sound.move moves
  | serve engine loop snapshot request awaiting =>
      change Sound tenantId ⟨_, collectedBy _ _ _ _,
        state.keeps ⟨_, state.now.peer.served engine tenantId _ request⟩, _⟩
      rw [collectedBy_eq fun key => stored_none_of_movesOn
          (POST_movesOn engine tenantId tenantId _ request),
        keeps_eq fun _ _ _ _ applying => by simp [awaiting] at applying]
      simp only [Chronicle.heard, awaiting] at heard
      exact sound.served awaiting heard
  | other arrival =>
      have collects : ∀ collected, collectedBy tenantId state.now.db
          (POST arrival.engine arrival.tenantId state.now.db
            arrival.request).1 collected = collected :=
        fun _ => collectedBy_eq fun _ => stored_none_of_movesOn
          (POST_movesOn arrival.engine arrival.tenantId tenantId _
            arrival.request)
      change Sound tenantId ⟨_, collectedBy _ _ _ _,
        state.keeps ⟨_, state.now.peer⟩, collectedBy _ _ _ _⟩
      rw [keeps_same, collects, collects]
      exact sound.written arrival.engine arrival.tenantId arrival.request
  | collect bound raised tombstones =>
      change Sound tenantId ⟨_, _, state.keeps ⟨_, state.now.peer⟩, _⟩
      rw [keeps_same]
      exact sound.collected raised tombstones

/-- What holds before the next transaction of a run. -/
theorem Sound.of_run
    {clientId : String} {db : Db} {collected : RowKey → Bool}
    {events : List PairingEvent}
    (run : Run (Chronicle.step tenantId)
      (fun state event => state.heard tenantId event = true)
      (Chronicle.begin clientId db collected) events state) :
    Sound tenantId state :=
  run.invariant (Sound tenantId)
    (fun _ _ _ sound heard stepped => sound.step heard stepped)
    (.begin clientId db collected)

/-- The transaction that ends a sync stores the cursor, and that is all. -/
theorem ended_of_finishes
    {ended : Chronicle}
    (finishes : state.now.peer.finishes = true)
    (stepped : state.step tenantId .proceed = some ended) :
    (∃ data, state.now.peer.hand = some data) ∧
      ended.source tenantId = state.source tenantId ∧
      ended.retained = state.retained ∧ ended.late = state.late ∧
      ∀ key, holdsRow ended.now.peer.client.db key =
        holdsRow state.now.peer.client.db key := by
  cases phase : state.now.peer.client.phase with
  | advancing loop data =>
      simp only [step, Pairing.step, Peer.step, Client.step, phase,
        Phase.transaction, Option.map_some, Option.some.injEq] at stepped
      subst stepped
      refine ⟨⟨_, by rw [Peer.hand, phase]⟩, ?_, ?_, ?_, ?_⟩
      · exact congrArg (sourceOf tenantId state.now.db)
          (collectedBy_self _ _)
      · exact keeps_eq fun _ _ _ _ applying => by simp [phase] at applying
      · exact collectedBy_self _ _
      · intro key
        cases key
        rfl
  | _ => simp [Peer.finishes, phase] at finishes

end Chronicle

/-- Resync soundness.  In a run in which no request with cursor 0 is carried out
over rows that were deleted for good, every row of the replica that is deleted
for good when a sync ends idle is one that the client holds on its own account,
or was deleted only after the server had read the last page. -/
theorem resync_sound
    {tenantId clientId : String} {db : Db} {collected : RowKey → Bool}
    {events : List PairingEvent} {state ended : Chronicle}
    (run : Run (Chronicle.step tenantId)
      (fun state event => state.heard tenantId event = true)
      (Chronicle.begin clientId db collected) events state)
    (finishes : state.now.peer.finishes = true)
    (stepped : state.step tenantId .proceed = some ended) :
    ∀ key, holdsRow ended.now.peer.client.db key = true →
      ended.purged tenantId key = true →
        ended.retained key = true ∨ ended.late key = true := by
  intro key held purged
  obtain ⟨⟨data, holds⟩, sameSource, sameRetained, sameLate, sameRows⟩ :=
    Chronicle.ended_of_finishes finishes stepped
  rw [sameRows] at held
  rw [Chronicle.purged_iff, sameSource] at purged
  rw [sameRetained, sameLate]
  have handed := (Chronicle.Sound.of_run run).hand data holds
  cases retained : state.retained key with
  | true => exact Or.inl rfl
  | false =>
      have tracked : state.tracks key = true := by
        simp [Chronicle.tracks, held, retained]
      exact Or.inr (handed.late key (Or.inl tracked) purged)

/-- Another client of the tenant creates or deletes a project. -/
def phoneSends (op : SyncOp) (id : String) : PairingEvent :=
  .other ⟨Engine.obliging 5, "tenant-a",
    ⟨2, "phone", 0, none, [⟨1, .project, op, id,
      some (ProjectData.payload ⟨"Garden", none, "Active"⟩)⟩]⟩⟩

/-- The client sends its request, which is served, and takes up the answer. -/
def asks : List PairingEvent :=
  [.drain, .serve (Engine.obliging 6), .deliver]

/-- A sync of one iteration up to its last transaction. -/
def syncs : List PairingEvent :=
  .start :: asks ++ [.proceed, .proceed, .proceed]

/-- A client that was never used, and a server after its migrations. -/
def unused : Chronicle :=
  Chronicle.begin "browser" Db.initial fun _ => false

/-- The project "p" is synced, deleted and collected, so the client resyncs. -/
def collectedProject : List PairingEvent :=
  phoneSends .upsert "p" :: syncs ++
    [.proceed, phoneSends .delete "p", phoneSends .upsert "q", .collect 3,
      .start] ++ asks ++ .proceed :: asks ++ [.proceed, .proceed, .proceed]

/-- The client resyncs, and only the other project is left. -/
theorem resync_sound_collectedProject :
    ∃ ended : Chronicle, ended.purged "tenant-a" (.project, "p") = true ∧
      holdsRow ended.now.peer.client.db (.project, "q") = true ∧
      ∀ key, holdsRow ended.now.peer.client.db key = true →
        ended.purged "tenant-a" key = true →
          ended.retained key = true ∨ ended.late key = true := by
  obtain ⟨state, run, passed⟩ := Run.exists_of_execute
    (Chronicle.step "tenant-a")
    (fun state event => state.heard "tenant-a" event)
    (fun _ _ heard => heard) unused collectedProject
    (fun state => state.now.peer.finishes &&
      (state.step "tenant-a" .proceed).any fun ended =>
        ended.purged "tenant-a" (.project, "p") &&
          holdsRow ended.now.peer.client.db (.project, "q"))
    (by decide +kernel)
  obtain ⟨finishes, reaches⟩ := Bool.and_eq_true_iff.mp passed
  obtain ⟨ended, stepped, left⟩ := (Option.any_eq_true _ _).mp reaches
  obtain ⟨isPurged, isHeld⟩ := Bool.and_eq_true_iff.mp left
  exact ⟨ended, isPurged, isHeld, resync_sound run finishes stepped⟩

/-- The events lead up to the end of a sync after which the replica has a row
that was deleted for good. -/
def KeepsPurged (events : List PairingEvent) : Prop :=
  ∃ state ended, Run (Chronicle.step "tenant-a") (fun _ _ => True) unused events
      state ∧ state.now.peer.finishes = true ∧
    state.step "tenant-a" .proceed = some ended ∧
    ∃ key, holdsRow ended.now.peer.client.db key = true ∧
      ended.purged "tenant-a" key = true

/-- The next transaction ends a sync with the project "p", which was deleted for
good. -/
def endsWithProject (state : Chronicle) : Bool :=
  state.now.peer.finishes && (state.step "tenant-a" .proceed).any fun ended =>
    holdsRow ended.now.peer.client.db (.project, "p") &&
      ended.purged "tenant-a" (.project, "p")

theorem keepsPurged_of_executed (events : List PairingEvent)
    (executed : (execute (Chronicle.step "tenant-a") (fun _ _ => true) unused
      events).any endsWithProject = true) :
    KeepsPurged events := by
  obtain ⟨state, run, passed⟩ : ∃ state, Run (Chronicle.step "tenant-a")
      (fun _ _ => True) unused events state ∧ endsWithProject state = true :=
    Run.exists_of_execute _ _ (fun _ _ _ => trivial) unused events _ executed
  obtain ⟨finishes, reaches⟩ := Bool.and_eq_true_iff.mp passed
  obtain ⟨ended, stepped, left⟩ := (Option.any_eq_true _ _).mp reaches
  exact ⟨state, ended, run, finishes, stepped, (.project, "p"),
    Bool.and_eq_true_iff.mp left⟩

/-- The project "p" is deleted and collected while the last answer is on its
way. -/
def collectedLate : List PairingEvent :=
  phoneSends .upsert "p" :: syncs ++
    [.proceed, .start, .drain, .serve (Engine.obliging 6),
      phoneSends .delete "p", .collect 2, .deliver, .proceed, .proceed,
      .proceed]

/-- A call of `renameProject` has read the project "p" before the replica is
wiped, and writes it after the next snapshot. -/
def renamedLate : List PairingEvent :=
  phoneSends .upsert "p" :: syncs ++
    [.proceed, phoneSends .delete "p", .collect 2, .start] ++ asks ++
    [.edit (.renameProject "p" "Yard"), .proceed, .drain,
      .edit (.commitRename (⟨"p", "Garden", none, "Active", 1⟩, "Yard") 9),
      .serve (Engine.obliging 6), .deliver, .proceed, .proceed, .proceed]

/-- The first sync is cut off between its page and its cursor, and the project
"p" is deleted and collected before the next one. -/
def cutOffFirst : List PairingEvent :=
  phoneSends .upsert "p" :: syncs ++
    [.fail, phoneSends .delete "p", .collect 2] ++ syncs

/-- A row that was deleted for good can be left by a collection after the last
page was read, by a write of the client, and by a first sync that was cut
off. -/
theorem replicas_keepPurged :
    KeepsPurged collectedLate ∧ KeepsPurged renamedLate ∧
      KeepsPurged cutOffFirst := by
  refine ⟨?_, ?_, ?_⟩ <;>
    exact keepsPurged_of_executed _ (by decide +kernel)

end Sync
end EvoPlatform
