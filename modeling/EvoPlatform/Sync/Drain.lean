import EvoPlatform.Sync.Client
import Mathlib.Data.Int.Cast.Lemmas

/-!
# No write is lost by a drain

The server answers by sequence number and the client removes by row.  Both sides
fit together because a snapshot sends one mutation of each row it has seen and
the server answers each of them once, in whatever way its mutation ends.
-/

namespace EvoPlatform
namespace Sync

open Offline

/-! ## Every mutation is answered once -/

/-- The sequence numbers answered so far. -/
def BatchState.answeredSeqs (state : BatchState) : List Int :=
  state.applied ++ state.rejected.map Prod.fst

/-- An answer is one answer. -/
theorem answeredSeqs_answer
    (state : BatchState) (m : SyncMutation) (verdict : Verdict) :
    (state.answer m verdict).answeredSeqs.Perm
      (state.answeredSeqs ++ [m.seq]) := by
  cases verdict with
  | applied =>
      simp only [BatchState.answer, BatchState.answeredSeqs,
        List.append_assoc]
      exact List.perm_append_comm.append_left state.applied
  | rejected reason =>
      simp [BatchState.answer, BatchState.answeredSeqs]

/-- An iteration answers its mutation once, however it ends. -/
theorem Iterates.answeredSeqs
    {engine : Engine} {tenantId : String} {m : SyncMutation}
    {state next : BatchState}
    (iterates : Iterates engine tenantId m state next) :
    next.answeredSeqs.Perm (state.answeredSeqs ++ [m.seq]) := by
  cases iterates with
  | settled notAborted accepted => exact answeredSeqs_answer _ m _
  | refused db notAborted refusal stub => exact answeredSeqs_answer _ m _
  | aborted isAborted => exact answeredSeqs_answer _ m _

/-- A batch answers each of its mutations once. -/
theorem answeredSeqs_applyMutations
    (engine : Engine) (tenantId : String)
    (mutations : List SyncMutation) (db : Db) :
    ∃ final, applyMutations engine tenantId mutations (BatchState.begin db) =
        .ok () final ∧
      final.answeredSeqs.Perm (mutations.map SyncMutation.seq) := by
  refine applyMutations_invariant engine tenantId
    (fun processed state =>
      state.answeredSeqs.Perm (processed.map SyncMutation.seq))
    ?_ mutations (BatchState.begin db) (List.Perm.refl [])
  intro processed m state next held iterates
  rw [List.map_append]
  exact iterates.answeredSeqs.trans (held.append_right [m.seq])

/-- The sequence numbers a response answers. -/
def SyncResponse.answeredSeqs (data : SyncResponse) : List Int :=
  data.applied ++ data.rejected.map Prod.fst

/-- A successful response answers each mutation of the request once. -/
theorem answeredSeqs_POST
    {engine : Engine} {tenantId : String} {db : Db} {request : SyncRequest}
    {data : SyncResponse}
    (succeeded : (POST engine tenantId db request).2 = .ok data) :
    data.answeredSeqs.Perm (request.mutations.map SyncMutation.seq) := by
  cases valid : requestSchema request with
  | false =>
      rw [POST_of_invalid valid] at succeeded
      contradiction
  | true =>
      cases refusal : batchRefused engine tenantId request.mutations db with
      | true =>
          rw [POST_of_refused valid refusal] at succeeded
          contradiction
      | false =>
          rw [POST_of_accepted valid refusal] at succeeded
          obtain ⟨final, ran, answered⟩ := answeredSeqs_applyMutations engine
            tenantId request.mutations db
          have fresh : (BatchState.begin db).aborted = false := rfl
          rw [applyMutations_of_accepted engine tenantId request.mutations
            fresh refusal] at ran
          injection ran with _ same
          subst same
          have responded : data.answeredSeqs =
              (settled engine tenantId db request).answeredSeqs := by
            injection succeeded with equal
            rw [← equal]
            cases request.pulled tenantId
              (settled engine tenantId db request).db <;> rfl
          rw [responded]
          exact answered

/-! ## Removal by row -/

section Removal

variable {outbox taken : Outbox} {queued : List OutboxMutation}
  {answered : OutboxMutation → Bool}

/-- Removing what a snapshot has seen leaves what was queued after it. -/
theorem entries_bulkDelete_seqsOf
    {kept : List OutboxMutation}
    (entries : outbox.entries = kept ++ queued)
    (later : ∀ m ∈ queued, taken.nextSeq ≤ m.seq) :
    (outbox.bulkDelete (taken.snapshotForDrain.seqsOf answered)).entries =
      (kept.filter fun m =>
        !(taken.snapshotForDrain.seqsOf answered).contains m.seq) ++
          queued := by
  rw [Outbox.bulkDelete, Outbox.entries_deleteWhere, entries,
    List.filter_append]
  congr 1
  rw [List.filter_eq_self]
  intro m isQueued
  simp only [Bool.not_eq_eq_eq_not, Bool.not_true, decide_eq_false_iff_not,
    List.elem_eq_mem]
  intro member
  obtain ⟨sent, _, _, seen, present, _, same⟩ :=
    mem_seqsOf_snapshotForDrain.mp member
  have old := taken.bounded seen present
  have new := later m isQueued
  omega

/-- Nothing that the snapshot has seen outlives both removals. -/
theorem filter_answered_eq_nil
    {data : SyncResponse}
    (answeredAll : data.answeredSeqs.Perm
      (taken.snapshotForDrain.toSend.map fun m => (m.seq : Int))) :
    (taken.entries.filter fun m =>
        !(taken.snapshotForDrain.seqsOf fun sent =>
          data.applied.contains sent.seq).contains m.seq).filter
      (fun m => !(taken.snapshotForDrain.seqsOf fun sent =>
          (data.rejected.map Prod.fst).contains sent.seq).contains m.seq) =
      [] := by
  rw [List.filter_filter, List.filter_eq_nil_iff]
  intro m present
  obtain ⟨sent, isSent, sameRow⟩ := exists_sent_of_mem present
  have isAnswered : (sent.seq : Int) ∈ data.answeredSeqs :=
    answeredAll.mem_iff.mpr (List.mem_map.mpr ⟨sent, isSent, rfl⟩)
  simp only [List.contains_eq_mem, Bool.and_eq_true, Bool.not_eq_true',
    decide_eq_false_iff_not]
  rintro ⟨notRejected, notApplied⟩
  rcases List.mem_append.mp isAnswered with applied | rejected
  · refine notApplied (mem_seqsOf_snapshotForDrain.mpr ⟨sent, isSent, ?_,
      m, present, sameRow.symm, rfl⟩)
    simpa using applied
  · refine notRejected (mem_seqsOf_snapshotForDrain.mpr ⟨sent, isSent, ?_,
      m, present, sameRow.symm, rfl⟩)
    simpa using rejected

end Removal

/-! ## One iteration of the loop -/

/-- An iteration under way, with what was queued since its snapshot and the
reply it got. -/
structure Iteration where
  client : Client
  queued : List OutboxMutation
  reply : Option (Option SyncReply)

/-- What an event appends to the outbox. -/
def queuedBy (event : ClientEvent) (before after : Client) :
    List OutboxMutation :=
  match event with
  | .edit _ => after.db.outbox.entries.drop before.db.outbox.entries.length
  | _ => []

/-- What an event tells about the reply. -/
def replyOf (event : ClientEvent) (known : Option (Option SyncReply)) :
    Option (Option SyncReply) :=
  match event with
  | .receive reply => some reply
  | _ => known

/-- A step of the client, recorded. -/
def Iteration.step (iteration : Iteration) (event : ClientEvent) :
    Option Iteration :=
  (iteration.client.step event).map fun next =>
    { client := next
      queued := iteration.queued ++ queuedBy event iteration.client next
      reply := replyOf event iteration.reply }

/-- The rest of one iteration: edits that queue, any reply, and a successful one
only from the server for the request that was sent. -/
def DuringIteration (iteration : Iteration) : ClientEvent → Prop
  | .edit event => ∀ id, event.write ≠ .deleteProject id
  | .receive (some (.ok data)) =>
      ∃ loop snapshot request,
        iteration.client.phase = .awaiting loop snapshot request ∧
          ∃ engine tenantId db,
            (POST engine tenantId db request).2 = .ok data
  | .receive _ => True
  | .proceed => True
  | .start => False
  | .drain => False
  | .fail => False

/-- Edits that do not delete a project only append to the outbox. -/
theorem entries_write_of_queues
    (db : TenantDatabase) {write : LocalWrite}
    (queues : ∀ id, write ≠ .deleteProject id) :
    ∃ appended, (db.write write).outbox.entries =
        db.outbox.entries ++ appended ∧
      db.outbox.nextSeq ≤ (db.write write).outbox.nextSeq ∧
      ∀ m ∈ appended, db.outbox.nextSeq ≤ m.seq := by
  cases write with
  | nothing => exact ⟨[], by simp [TenantDatabase.write], le_rfl, by simp⟩
  | project project =>
      exact ⟨_, rfl, Nat.le_succ _, fun m member =>
        (List.mem_singleton.mp member) ▸ le_rfl⟩
  | task task =>
      exact ⟨_, rfl, Nat.le_succ _, fun m member =>
        (List.mem_singleton.mp member) ▸ le_rfl⟩
  | deleteProject id => exact absurd rfl (queues id)
  | deleteTask id =>
      exact ⟨_, rfl, Nat.le_succ _, fun m member =>
        (List.mem_singleton.mp member) ▸ le_rfl⟩

/-- The response answers what the snapshot sent, each mutation once. -/
def AnswersOnce (taken : Outbox) (data : SyncResponse) : Prop :=
  data.answeredSeqs.Perm
    (taken.snapshotForDrain.toSend.map fun m => (m.seq : Int))

/-- The entries of the snapshot that are left after `deleteApplied`. -/
def leftByApplied (taken : Outbox) (data : SyncResponse) :
    List OutboxMutation :=
  taken.entries.filter fun m =>
    !(taken.snapshotForDrain.seqsOf fun sent =>
      data.applied.contains sent.seq).contains m.seq

/-- An iteration is over. -/
def Phase.ended : Phase → Bool
  | .idle => true
  | .draining _ => true
  | _ => false

/-- What is left, in each phase and after each reply, of the entries that the
snapshot has seen. -/
inductive Leaves (taken : Outbox) :
    Phase → Option (Option SyncReply) → List OutboxMutation → Prop
  | awaiting (loop : Nat) (request : SyncRequest) :
      request.mutations = taken.snapshotForDrain.toSend.map sentMutation →
      Leaves taken (.awaiting loop taken.snapshotForDrain request) none
        taken.entries
  | resyncing (loop : Nat) (data : SyncResponse) :
      data.resyncRequired = true →
      Leaves taken (.resyncing loop) (some (some (.ok data))) taken.entries
  | clearing (loop : Nat) (data : SyncResponse) :
      data.resyncRequired = false → AnswersOnce taken data →
      Leaves taken (.clearing loop taken.snapshotForDrain data)
        (some (some (.ok data))) taken.entries
  | dropping (loop : Nat) (data : SyncResponse) :
      data.resyncRequired = false → AnswersOnce taken data →
      Leaves taken (.dropping loop taken.snapshotForDrain data)
        (some (some (.ok data))) (leftByApplied taken data)
  | applying (loop : Nat) (data : SyncResponse) :
      data.resyncRequired = false → AnswersOnce taken data →
      Leaves taken (.applying loop data) (some (some (.ok data))) []
  | advancing (loop : Nat) (data : SyncResponse) :
      data.resyncRequired = false → AnswersOnce taken data →
      Leaves taken (.advancing loop data) (some (some (.ok data))) []
  | drained (phase : Phase) (data : SyncResponse) :
      phase.ended = true →
      data.resyncRequired = false → AnswersOnce taken data →
      Leaves taken phase (some (some (.ok data))) []
  | kept (phase : Phase) (reply : Option SyncReply) :
      phase.ended = true →
      (∀ data, reply = some (.ok data) → data.resyncRequired = true) →
      Leaves taken phase (some reply) taken.entries

/-- A transaction of the iteration removes nothing that was queued since the
snapshot. -/
theorem Leaves.transaction
    {taken : Outbox} {phase nextPhase : Phase}
    {reply : Option (Option SyncReply)}
    {left queued : List OutboxMutation} {db next : TenantDatabase}
    (leaves : Leaves taken phase reply left)
    (entries : db.outbox.entries = left ++ queued)
    (later : ∀ m ∈ queued, taken.nextSeq ≤ m.seq)
    (ran : phase.transaction db = some (next, nextPhase)) :
    next.outbox.nextSeq = db.outbox.nextSeq ∧
      ∃ left, Leaves taken nextPhase reply left ∧
        next.outbox.entries = left ++ queued := by
  cases leaves with
  | awaiting loop request sent => simp [Phase.transaction] at ran
  | resyncing loop data resync =>
      simp only [Phase.transaction, Option.some.injEq, Prod.mk.injEq] at ran
      obtain ⟨rfl, rfl⟩ := ran
      refine ⟨rfl, _, .kept _ _ rfl ?_, entries⟩
      rintro _ ⟨⟩
      exact resync
  | clearing loop data noResync once =>
      simp only [Phase.transaction, Option.some.injEq, Prod.mk.injEq] at ran
      obtain ⟨rfl, rfl⟩ := ran
      exact ⟨rfl, _, .dropping loop data noResync once,
        entries_bulkDelete_seqsOf entries later⟩
  | dropping loop data noResync once =>
      simp only [Phase.transaction, Option.some.injEq, Prod.mk.injEq] at ran
      obtain ⟨rfl, rfl⟩ := ran
      refine ⟨rfl, [], .applying loop data noResync once, ?_⟩
      rw [← filter_answered_eq_nil once]
      exact entries_bulkDelete_seqsOf entries later
  | applying loop data noResync once =>
      simp only [Phase.transaction, Option.some.injEq, Prod.mk.injEq] at ran
      obtain ⟨rfl, rfl⟩ := ran
      rw [outbox_applyChanges]
      exact ⟨rfl, [], .advancing loop data noResync once, entries⟩
  | advancing loop data noResync once =>
      simp only [Phase.transaction, Option.some.injEq, Prod.mk.injEq] at ran
      obtain ⟨rfl, rfl⟩ := ran
      refine ⟨rfl, [], .drained _ data ?_ noResync once, entries⟩
      cases data.hasMore <;> rfl
  | drained _ data ended noResync once =>
      cases phase <;> simp [Phase.ended, Phase.transaction] at ended ran
  | kept _ reply ended unsuccessful =>
      cases phase <;> simp [Phase.ended, Phase.transaction] at ended ran

/-- What every step of an iteration keeps. -/
structure Draining (taken : Outbox) (iteration : Iteration) : Prop where
  /-- What was queued since the snapshot has later sequence numbers. -/
  later : ∀ m ∈ iteration.queued, taken.nextSeq ≤ m.seq
  /-- The key generator only moves forward. -/
  nextSeq : taken.nextSeq ≤ iteration.client.db.outbox.nextSeq
  /-- The outbox is what the snapshot has left and what was queued since. -/
  entries : ∃ left,
    Leaves taken iteration.client.phase iteration.reply left ∧
      iteration.client.db.outbox.entries = left ++ iteration.queued

namespace Draining

variable {taken : Outbox} {iteration next : Iteration}

/-- An edit that queues. -/
theorem edit
    (draining : Draining taken iteration)
    {event : Edit}
    (queues : ∀ id, event.write ≠ .deleteProject id)
    (stepped : iteration.step (.edit event) = some next) :
    Draining taken next := by
  simp only [Iteration.step, Option.map_eq_some_iff] at stepped
  obtain ⟨client, ran, rfl⟩ := stepped
  obtain ⟨written, samePhase⟩ := step_edit ran
  obtain ⟨left, leaves, entries⟩ := draining.entries
  obtain ⟨appended, grown, forward, appendedLater⟩ :=
    entries_write_of_queues iteration.client.db queues
  have queued : queuedBy (.edit event) iteration.client client = appended := by
    simp [queuedBy, written, grown]
  refine ⟨?_, ?_, left, ?_, ?_⟩
  · intro m member
    rw [queued] at member
    rcases List.mem_append.mp member with old | new
    · exact draining.later m old
    · exact draining.nextSeq.trans (appendedLater m new)
  · rw [written]
    exact draining.nextSeq.trans forward
  · rw [samePhase]
    exact leaves
  · rw [queued, written, grown, entries, List.append_assoc]

/-- The reply arrives. -/
theorem receive
    (draining : Draining taken iteration)
    {reply : Option SyncReply}
    (admissible : DuringIteration iteration (.receive reply))
    (stepped : iteration.step (.receive reply) = some next) :
    Draining taken next := by
  simp only [Iteration.step, Option.map_eq_some_iff] at stepped
  obtain ⟨client, ran, rfl⟩ := stepped
  obtain ⟨sameDb, loop, snapshot, request, waiting, nextPhase⟩ :=
    step_receive ran
  obtain ⟨left, leaves, entries⟩ := draining.entries
  rw [waiting] at leaves
  generalize iteration.reply = known at leaves
  cases leaves with
  | drained _ _ ended => simp [Phase.ended] at ended
  | kept _ _ ended => simp [Phase.ended] at ended
  | awaiting loop request sent =>
      refine ⟨by simpa [queuedBy] using draining.later,
        by simpa [sameDb] using draining.nextSeq, taken.entries, ?_,
        by simpa [sameDb, queuedBy] using entries⟩
      change Leaves taken client.phase (some reply) taken.entries
      rw [nextPhase]
      match reply with
      | none => exact .kept _ _ rfl (by simp)
      | some (.error status) => exact .kept _ _ rfl (by simp)
      | some (.ok data) =>
          simp only [Phase.answered]
          split
          · rename_i resync
            exact .resyncing loop data resync
          · rename_i noResync
            refine .clearing loop data (by simpa using noResync) ?_
            obtain ⟨_, _, _, sameWaiting, engine, tenantId, db, succeeded⟩ :=
              admissible
            rw [waiting] at sameWaiting
            cases sameWaiting
            have answered := answeredSeqs_POST succeeded
            rw [sent, List.map_map] at answered
            exact answered

/-- The next transaction of the iteration. -/
theorem proceed
    (draining : Draining taken iteration)
    (stepped : iteration.step .proceed = some next) :
    Draining taken next := by
  simp only [Iteration.step, Option.map_eq_some_iff] at stepped
  obtain ⟨client, ran, rfl⟩ := stepped
  obtain ⟨left, leaves, entries⟩ := draining.entries
  obtain ⟨sameSeq, nextLeft, nextLeaves, nextEntries⟩ :=
    leaves.transaction entries draining.later (step_proceed ran)
  refine ⟨by simpa [queuedBy] using draining.later, ?_, nextLeft, nextLeaves,
    by simpa [queuedBy] using nextEntries⟩
  rw [sameSeq]
  exact draining.nextSeq

end Draining

/-- Every run of an iteration stays within what its snapshot has left. -/
theorem draining_of_run
    {client taken : Client} {loop : Nat} {snapshot : DrainSnapshot}
    {request : SyncRequest}
    (drained : client.step .drain = some taken)
    (sent : taken.phase = .awaiting loop snapshot request)
    {events : List ClientEvent} {final : Iteration}
    (run : Run Iteration.step DuringIteration ⟨taken, [], none⟩ events
      final) :
    Draining client.db.outbox final := by
  refine run.invariant (Draining client.db.outbox) ?_ ?_
  · intro iteration event next draining admissible stepped
    cases event with
    | edit event => exact draining.edit admissible stepped
    | receive reply => exact draining.receive admissible stepped
    | proceed => exact draining.proceed stepped
    | start => exact admissible.elim
    | drain => exact admissible.elim
    | fail => exact admissible.elim
  · obtain ⟨sameDb, _, _, waiting | idle⟩ := step_drain drained
    · refine ⟨by simp, sameDb ▸ le_rfl, client.db.outbox.entries, ?_,
        by simp [sameDb]⟩
      change Leaves _ taken.phase _ _
      rw [waiting]
      exact .awaiting _ _ rfl
    · rw [idle] at sent
      contradiction

/-- A drain loses no write.  Once a successful answer to what the snapshot sent
has been worked in, the outbox is what was queued since the snapshot, in order,
and the answer names every sent sequence number exactly once.  After a network
failure, an error or a demand to resync, the outbox also has everything it had
before. -/
theorem drain_loses_no_write
    {client taken : Client} {loop : Nat} {snapshot : DrainSnapshot}
    {request : SyncRequest}
    (drained : client.step .drain = some taken)
    (sent : taken.phase = .awaiting loop snapshot request)
    {events : List ClientEvent} {final : Iteration}
    (run : Run Iteration.step DuringIteration ⟨taken, [], none⟩ events final)
    (ended : final.client.phase.ended = true) :
    (∀ data, final.reply = some (some (.ok data)) →
      data.resyncRequired = false →
        final.client.db.outbox.entries = final.queued ∧
        data.answeredSeqs.Perm (request.mutations.map SyncMutation.seq) ∧
        (request.mutations.map SyncMutation.seq).Nodup) ∧
    ((∀ data, final.reply = some (some (.ok data)) →
      data.resyncRequired = true) →
        final.client.db.outbox.entries =
          client.db.outbox.entries ++ final.queued) := by
  have seqs : request.mutations.map SyncMutation.seq =
      client.db.outbox.snapshotForDrain.toSend.map
        fun m => (m.seq : Int) := by
    obtain ⟨_, _, _, waiting | idle⟩ := step_drain drained
    · rw [sent] at waiting
      cases waiting
      simp [requestBody, sentMutation]
    · rw [idle] at sent
      contradiction
  have distinct : (request.mutations.map SyncMutation.seq).Nodup := by
    rw [seqs]
    have natural : (client.db.outbox.snapshotForDrain.toSend.map
      OutboxMutation.seq).Nodup := nodup_seq_toSend
    simpa [Function.comp_def] using natural.map Nat.cast_injective
  obtain ⟨left, leaves, entries⟩ := (draining_of_run drained sent run).entries
  rw [entries]
  generalize final.client.phase = phase at leaves ended
  generalize final.reply = reply at leaves ⊢
  cases leaves with
  | drained _ data _ noResync once =>
      refine ⟨?_, fun unsuccessful => ?_⟩
      · rintro _ ⟨⟩ _
        exact ⟨rfl, seqs ▸ once, distinct⟩
      · rw [unsuccessful data rfl] at noResync
        contradiction
  | kept _ reply _ unsuccessful =>
      refine ⟨?_, fun _ => rfl⟩
      rintro data ⟨⟩ noResync
      rw [unsuccessful data rfl] at noResync
      contradiction
  | awaiting => contradiction
  | resyncing => contradiction
  | clearing => contradiction
  | dropping => contradiction
  | applying => contradiction
  | advancing => contradiction

/-- A client with one queued project, at the head of the loop. -/
def draftingClient : Client :=
  { Client.fresh "browser" with
    db := (TenantDatabase.empty "browser").createProject "p" "Garden" 0
    phase := .draining 0 }

/-- The request it sends. -/
def draftingRequest : SyncRequest :=
  requestBody draftingClient.db draftingClient.db.outbox.snapshotForDrain

/-- The same client with its request under way. -/
def sendingClient : Client :=
  { draftingClient with
    phase := .awaiting 0 draftingClient.db.outbox.snapshotForDrain
      draftingRequest }

/-- A task added while the request is under way outlives the drain. -/
theorem drain_loses_no_write_midFlight :
    ∃ final : Iteration, final.queued.length = 1 ∧
      final.client.db.outbox.entries = final.queued := by
  have drained : draftingClient.step .drain = some sendingClient := rfl
  have run : Run Iteration.step DuringIteration ⟨sendingClient, [], none⟩
      [.edit (.addTask "p" "1" "Weed" 1),
        .receive (some (POST (Engine.obliging 2) "tenant-a" Db.initial
          draftingRequest).2),
        .proceed, .proceed, .proceed, .proceed] _ :=
    .cons (fun _ => nofun) rfl
      (.cons ⟨_, _, _, rfl, Engine.obliging 2, "tenant-a", Db.initial, rfl⟩ rfl
        (.cons trivial rfl (.cons trivial rfl
          (.cons trivial rfl (.cons trivial rfl (.nil _))))))
  have loses := drain_loses_no_write drained rfl run rfl
  exact ⟨_, rfl, (loses.1 _ rfl rfl).1⟩

end Sync
end EvoPlatform
