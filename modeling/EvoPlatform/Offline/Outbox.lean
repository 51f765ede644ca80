import EvoPlatform.Sync.Protocol
import Mathlib.Data.List.Induction

/-!
# The outbox

Every local write appends a mutation, and only a drain or the deletion of a
project removes one.  A drain sends the last mutation of each row and, once it
is answered, removes everything it saw of that row.  Sequence numbers come from
the auto-increment key of the object store, so they ascend and are never used
again.
-/

namespace EvoPlatform
namespace Offline

open Sync

/-- A row of the `outbox` table. -/
structure OutboxMutation where
  seq : Nat
  table : SyncTable
  rowId : String
  op : SyncOp
  data : Option JsonObject
  deriving DecidableEq

/-- The `outbox` table, in key order. -/
@[ext] structure Outbox where
  entries : List OutboxMutation
  /-- The key generator of the object store. -/
  nextSeq : Nat
  ascending : entries.Pairwise fun left right => left.seq < right.seq
  bounded : ∀ m ∈ entries, m.seq < nextSeq

/-- The name of a table on the wire. -/
def tableName : SyncTable → String
  | .project => "project"
  | .task => "task"

/-- The key of a row across both tables. -/
def rowKeyOf (table : SyncTable) (rowId : String) : String :=
  tableName table ++ ":" ++ rowId

def OutboxMutation.rowKey (m : OutboxMutation) : String :=
  rowKeyOf m.table m.rowId

/-- `text.startsWith(start)`. -/
def startsWith (text start : String) : Bool :=
  start.toList.isPrefixOf text.toList

/-- Different rows have different keys. -/
theorem rowKeyOf_inj
    {table other : SyncTable} {rowId otherId : String} :
    rowKeyOf table rowId = rowKeyOf other otherId ↔
      table = other ∧ rowId = otherId := by
  constructor
  · intro same
    have characters := congrArg String.toList same
    cases table <;> cases other <;>
      simp [rowKeyOf, tableName, String.toList_append] at characters
    · exact ⟨rfl, String.toList_inj.mp characters⟩
    · exact ⟨rfl, String.toList_inj.mp characters⟩
  · rintro ⟨rfl, rfl⟩
    rfl

namespace Outbox

variable (outbox : Outbox)

/-- An outbox in which nothing was ever queued. -/
def empty : Outbox := ⟨[], 1, List.Pairwise.nil, by simp⟩

/-- `enqueue`. -/
def enqueue (table : SyncTable) (rowId : String) (op : SyncOp)
    (data : Option JsonObject) : Outbox where
  entries := outbox.entries ++ [⟨outbox.nextSeq, table, rowId, op, data⟩]
  nextSeq := outbox.nextSeq + 1
  ascending := by
    rw [List.pairwise_append]
    refine ⟨outbox.ascending, by simp, ?_⟩
    intro m present queued isQueued
    rw [List.mem_singleton.mp isQueued]
    exact outbox.bounded m present
  bounded := by
    intro m present
    rcases List.mem_append.mp present with old | queued
    · exact Nat.lt_succ_of_lt (outbox.bounded m old)
    · rw [List.mem_singleton.mp queued]
      exact Nat.lt_succ_self _

/-- Delete the mutations that satisfy a predicate. -/
def deleteWhere (doomed : OutboxMutation → Bool) : Outbox where
  entries := outbox.entries.filter fun m => !doomed m
  nextSeq := outbox.nextSeq
  ascending := outbox.ascending.sublist List.filter_sublist
  bounded := fun m present =>
    outbox.bounded m (List.mem_of_mem_filter present)

/-- What `purgeForProject` deletes. -/
def purges (projectId : String) (m : OutboxMutation) : Bool :=
  m.rowId = projectId || startsWith m.rowId (projectId ++ "::")

/-- `purgeForProject`. -/
def purgeForProject (projectId : String) : Outbox :=
  outbox.deleteWhere (purges projectId)

/-- `db.outbox.bulkDelete`. -/
def bulkDelete (seqs : List Nat) : Outbox :=
  outbox.deleteWhere fun m => seqs.contains m.seq

/-- `hasPending`. -/
def hasPending (table : SyncTable) (rowId : String) : Bool :=
  outbox.entries.any fun m => m.table = table && m.rowId = rowId

@[simp] theorem entries_enqueue
    (table : SyncTable) (rowId : String) (op : SyncOp)
    (data : Option JsonObject) :
    (outbox.enqueue table rowId op data).entries =
      outbox.entries ++ [⟨outbox.nextSeq, table, rowId, op, data⟩] := rfl

@[simp] theorem nextSeq_enqueue
    (table : SyncTable) (rowId : String) (op : SyncOp)
    (data : Option JsonObject) :
    (outbox.enqueue table rowId op data).nextSeq = outbox.nextSeq + 1 := rfl

@[simp] theorem entries_deleteWhere (doomed : OutboxMutation → Bool) :
    (outbox.deleteWhere doomed).entries =
      outbox.entries.filter fun m => !doomed m := rfl

@[simp] theorem nextSeq_deleteWhere (doomed : OutboxMutation → Bool) :
    (outbox.deleteWhere doomed).nextSeq = outbox.nextSeq := rfl

theorem hasPending_iff (table : SyncTable) (rowId : String) :
    outbox.hasPending table rowId = true ↔
      ∃ m ∈ outbox.entries, m.table = table ∧ m.rowId = rowId := by
  simp [hasPending]

theorem hasPending_enqueue
    {table searched : SyncTable} {rowId id : String}
    {op : SyncOp} {data : Option JsonObject} :
    (outbox.enqueue table rowId op data).hasPending searched id = true ↔
      outbox.hasPending searched id = true ∨ table = searched ∧ rowId = id := by
  simp [hasPending]

/-- Distinct entries have distinct sequence numbers. -/
theorem seq_injective
    {left right : OutboxMutation}
    (leftPresent : left ∈ outbox.entries)
    (rightPresent : right ∈ outbox.entries)
    (same : left.seq = right.seq) :
    left = right := by
  have distinct : (outbox.entries.map OutboxMutation.seq).Nodup := by
    rw [List.Nodup, List.pairwise_map]
    exact outbox.ascending.imp fun less => Nat.ne_of_lt less
  exact List.inj_on_of_nodup_map distinct leftPresent rightPresent same

end Outbox

/-! ## Snapshots -/

/-- A map from row keys, in insertion order. -/
abbrev RowMap (α : Type) := Table (Prod.fst : String × α → String)

/-- `map.get(key)`. -/
def RowMap.get {α : Type} (map : RowMap α) (key : String) : Option α :=
  (map.find? key).map Prod.snd

/-- What a drain has seen of the outbox. -/
structure DrainSnapshot where
  /-- The last mutation of each row, ascending. -/
  toSend : List OutboxMutation
  /-- Every sequence number seen, by row. -/
  seqsByRow : RowMap (List Nat)

/-- `latest` after the loop over the entries. -/
def latestOf (entries : List OutboxMutation) : RowMap OutboxMutation :=
  entries.foldl (fun latest m => latest.put (m.rowKey, m)) Table.empty

/-- `seqsByRow` after the loop over the entries. -/
def seqsByRowOf (entries : List OutboxMutation) : RowMap (List Nat) :=
  entries.foldl
    (fun seqsByRow m => seqsByRow.put
      (m.rowKey, (RowMap.get seqsByRow m.rowKey).getD [] ++ [m.seq]))
    Table.empty

/-- `snapshotForDrain`. -/
def Outbox.snapshotForDrain (outbox : Outbox) : DrainSnapshot where
  toSend := ((latestOf outbox.entries).rows.map Prod.snd).insertionSort
    fun left right => left.seq ≤ right.seq
  seqsByRow := seqsByRowOf outbox.entries

/-- The entries of one row. -/
def ofRow (key : String) (entries : List OutboxMutation) :
    List OutboxMutation :=
  entries.filter fun m => m.rowKey = key

theorem ofRow_concat
    (key : String) (entries : List OutboxMutation) (m : OutboxMutation) :
    ofRow key (entries ++ [m]) =
      if m.rowKey = key then ofRow key entries ++ [m]
      else ofRow key entries := by
  unfold ofRow
  rw [List.filter_append]
  split
  · rename_i same
    simp [same]
  · rename_i different
    simp [different]

/-- `latest` holds the last entry of each row. -/
theorem find?_latestOf (entries : List OutboxMutation) (key : String) :
    (latestOf entries).find? key =
      (ofRow key entries).getLast?.map fun m => (key, m) := by
  induction entries using List.reverseRecOn with
  | nil => rfl
  | append_singleton entries m inductionHypothesis =>
      have step : latestOf (entries ++ [m]) =
          (latestOf entries).put (m.rowKey, m) := by
        simp [latestOf]
      rw [step, Table.find?_put, ofRow_concat, inductionHypothesis]
      by_cases same : key = m.rowKey
      · simp [same]
      · simp [same, Ne.symm same]

/-- `seqsByRow` holds the sequence numbers of each row. -/
theorem get_seqsByRowOf (entries : List OutboxMutation) (key : String) :
    (RowMap.get (seqsByRowOf entries) key).getD [] =
      (ofRow key entries).map OutboxMutation.seq := by
  induction entries using List.reverseRecOn with
  | nil => rfl
  | append_singleton entries m inductionHypothesis =>
      have step : seqsByRowOf (entries ++ [m]) =
          (seqsByRowOf entries).put (m.rowKey,
            (RowMap.get (seqsByRowOf entries) m.rowKey).getD [] ++
              [m.seq]) := by
        simp [seqsByRowOf]
      rw [step, RowMap.get, Table.find?_put, ofRow_concat]
      by_cases same : key = m.rowKey
      · subst same
        simp [inductionHypothesis]
      · simpa [same, Ne.symm same, RowMap.get] using inductionHypothesis

section Snapshots

variable {outbox : Outbox} {m : OutboxMutation}

/-- What is sent is the last entry of its row. -/
theorem mem_toSend_iff :
    m ∈ outbox.snapshotForDrain.toSend ↔
      (ofRow m.rowKey outbox.entries).getLast? = some m := by
  rw [Outbox.snapshotForDrain, List.mem_insertionSort, List.mem_map]
  constructor
  · rintro ⟨⟨key, sent⟩, member, rfl⟩
    have found := (latestOf outbox.entries).find?_of_mem member
    rw [find?_latestOf] at found
    obtain ⟨last, isLast, same⟩ := Option.map_eq_some_iff.mp found
    obtain rfl : last = sent := congrArg Prod.snd same
    have keyed := List.mem_of_getLast? isLast
    simp only [ofRow, List.mem_filter, decide_eq_true_eq] at keyed
    change (ofRow last.rowKey outbox.entries).getLast? = some last
    rw [keyed.2, isLast]
  · intro isLast
    refine ⟨(m.rowKey, m), ?_, rfl⟩
    apply (latestOf outbox.entries).mem_of_find?
    rw [find?_latestOf, isLast]
    rfl

/-- Every row with an entry is sent. -/
theorem exists_sent_of_mem
    (present : m ∈ outbox.entries) :
    ∃ sent ∈ outbox.snapshotForDrain.toSend, sent.rowKey = m.rowKey := by
  have nonempty : ofRow m.rowKey outbox.entries ≠ [] := by
    intro nothing
    have : m ∈ ofRow m.rowKey outbox.entries := by
      simpa [ofRow] using present
    simp [nothing] at this
  obtain ⟨last, isLast⟩ : ∃ last,
      (ofRow m.rowKey outbox.entries).getLast? = some last :=
    ⟨_, List.getLast?_eq_some_getLast nonempty⟩
  have keyed := List.mem_of_getLast? isLast
  simp only [ofRow, List.mem_filter, decide_eq_true_eq] at keyed
  refine ⟨last, mem_toSend_iff.mpr ?_, keyed.2⟩
  rw [keyed.2, isLast]

/-- The sequence numbers that are sent are pairwise distinct. -/
theorem nodup_seq_toSend :
    (outbox.snapshotForDrain.toSend.map OutboxMutation.seq).Nodup := by
  have keysDistinct := (latestOf outbox.entries).keysNodup
  have keyed : ∀ row ∈ (latestOf outbox.entries).rows,
      row.1 = row.2.rowKey ∧ row.2 ∈ outbox.entries := by
    intro row member
    have found := (latestOf outbox.entries).find?_of_mem member
    rw [find?_latestOf] at found
    obtain ⟨last, isLast, same⟩ := Option.map_eq_some_iff.mp found
    have present := List.mem_of_getLast? isLast
    simp only [ofRow, List.mem_filter, decide_eq_true_eq] at present
    rw [← same]
    exact ⟨present.2.symm, present.1⟩
  have sorted := List.perm_insertionSort
    (fun left right : OutboxMutation => left.seq ≤ right.seq)
    ((latestOf outbox.entries).rows.map Prod.snd)
  refine (sorted.map OutboxMutation.seq).nodup_iff.mpr ?_
  rw [List.map_map]
  refine List.Nodup.map_on ?_ (List.Nodup.of_map _ keysDistinct)
  intro left leftMember right rightMember same
  have sameEntry := outbox.seq_injective (keyed left leftMember).2
    (keyed right rightMember).2 same
  refine Prod.ext ?_ sameEntry
  rw [(keyed left leftMember).1, (keyed right rightMember).1, sameEntry]

end Snapshots

/-- The last mutation of its row. -/
def IsLast (entries : List OutboxMutation) (m : OutboxMutation) : Prop :=
  m ∈ entries ∧ ∀ other ∈ entries, other.table = m.table →
    other.rowId = m.rowId → other.seq ≤ m.seq

/-- A snapshot sends the last mutation of each row. -/
theorem mem_toSend_iff_isLast
    {outbox : Outbox} {m : OutboxMutation} :
    m ∈ outbox.snapshotForDrain.toSend ↔ IsLast outbox.entries m := by
  have memberOf : ∀ other, other ∈ ofRow m.rowKey outbox.entries ↔
      other ∈ outbox.entries ∧ other.table = m.table ∧
        other.rowId = m.rowId := by
    intro other
    simp [ofRow, OutboxMutation.rowKey, rowKeyOf_inj]
  have ascending : (ofRow m.rowKey outbox.entries).Pairwise
      fun left right => left.seq < right.seq :=
    outbox.ascending.sublist List.filter_sublist
  rw [mem_toSend_iff]
  obtain nothing | ⟨earlier, last, split⟩ :=
    (ofRow m.rowKey outbox.entries).eq_nil_or_concat'
  · rw [nothing]
    refine ⟨nofun, fun isLast => ?_⟩
    have := (memberOf m).mpr ⟨isLast.1, rfl, rfl⟩
    simp [nothing] at this
  · rw [split, List.getLast?_concat, Option.some.injEq]
    rw [split, List.pairwise_append] at ascending
    constructor
    · rintro rfl
      have present := (memberOf last).mp (by simp [split])
      refine ⟨present.1, fun other member sameTable sameRow => ?_⟩
      have found := (memberOf other).mpr ⟨member, sameTable, sameRow⟩
      rw [split] at found
      rcases List.mem_append.mp found with before | final
      · exact (ascending.2.2 other before last (by simp)).le
      · rw [List.mem_singleton.mp final]
    · intro isLast
      have lastPresent := (memberOf last).mp (by simp [split])
      have upper := isLast.2 last lastPresent.1 lastPresent.2.1
        lastPresent.2.2
      have found := (memberOf m).mpr ⟨isLast.1, rfl, rfl⟩
      rw [split] at found
      rcases List.mem_append.mp found with before | final
      · have := ascending.2.2 m before last (by simp)
        omega
      · exact (List.mem_singleton.mp final).symm

/-- Every row with an entry has a last one. -/
theorem exists_isLast
    {outbox : Outbox} {m : OutboxMutation}
    (present : m ∈ outbox.entries) :
    ∃ last, IsLast outbox.entries last ∧ last.table = m.table ∧
      last.rowId = m.rowId := by
  obtain ⟨last, sent, sameRow⟩ := exists_sent_of_mem present
  exact ⟨last, mem_toSend_iff_isLast.mp sent, rowKeyOf_inj.mp sameRow⟩

/-- Queuing makes a mutation the last of its row and leaves the other rows. -/
theorem isLast_enqueue
    {outbox : Outbox} {table : SyncTable} {rowId : String} {op : SyncOp}
    {data : Option JsonObject} {m : OutboxMutation}
    (isLast : IsLast (outbox.enqueue table rowId op data).entries m) :
    m = ⟨outbox.nextSeq, table, rowId, op, data⟩ ∨
      IsLast outbox.entries m ∧ ¬(m.table = table ∧ m.rowId = rowId) := by
  rw [Outbox.entries_enqueue] at isLast
  rcases List.mem_append.mp isLast.1 with old | new
  · refine Or.inr ⟨⟨old, fun other member =>
      isLast.2 other (List.mem_append_left _ member)⟩, ?_⟩
    rintro ⟨sameTable, sameRow⟩
    have newer := isLast.2 ⟨outbox.nextSeq, table, rowId, op, data⟩
      (by simp) sameTable.symm sameRow.symm
    have older := outbox.bounded m old
    exact Nat.not_lt.mpr newer older
  · exact Or.inl (List.mem_singleton.mp new)

/-- Deleting whole rows leaves the last mutations of the others. -/
theorem isLast_of_deleteWhere
    {outbox : Outbox} {doomed : OutboxMutation → Bool} {m : OutboxMutation}
    (byRow : ∀ left right : OutboxMutation, left.rowId = right.rowId →
      doomed left = doomed right)
    (isLast : IsLast (outbox.deleteWhere doomed).entries m) :
    IsLast outbox.entries m := by
  simp only [IsLast, Outbox.entries_deleteWhere, List.mem_filter,
    Bool.not_eq_true'] at isLast
  refine ⟨isLast.1.1, fun other member sameTable sameRow => ?_⟩
  exact isLast.2 other ⟨member, (byRow other m sameRow).trans isLast.1.2⟩
    sameTable sameRow

/-- A project is purged by rows. -/
theorem purges_congr
    {projectId : String} {left right : OutboxMutation}
    (sameRow : left.rowId = right.rowId) :
    Outbox.purges projectId left = Outbox.purges projectId right := by
  rw [Outbox.purges, Outbox.purges, sameRow]

/-- Deleting what is older than a mark leaves the last mutations. -/
theorem isLast_of_newer
    {outbox : Outbox} {mark : Nat} {entries : List OutboxMutation}
    {m : OutboxMutation}
    (newer : ∀ other, other ∈ entries ↔
      other ∈ outbox.entries ∧ mark ≤ other.seq)
    (isLast : IsLast entries m) :
    IsLast outbox.entries m := by
  have present := (newer m).mp isLast.1
  refine ⟨present.1, fun other member sameTable sameRow => ?_⟩
  rcases Nat.lt_or_ge other.seq mark with old | new
  · exact old.le.trans present.2
  · exact isLast.2 other ((newer other).mpr ⟨member, new⟩) sameTable sameRow

/-! ## Removing what was answered -/

/-- The sequence numbers behind the sent mutations that satisfy a predicate. -/
def DrainSnapshot.seqsOf (snapshot : DrainSnapshot)
    (answered : OutboxMutation → Bool) : List Nat :=
  (snapshot.toSend.filter answered).flatMap fun m =>
    (RowMap.get snapshot.seqsByRow m.rowKey).getD []

/-- `deleteApplied`. -/
def Outbox.deleteApplied (outbox : Outbox) (snapshot : DrainSnapshot)
    (appliedSeqs : List Int) : Outbox :=
  outbox.bulkDelete (snapshot.seqsOf fun m => appliedSeqs.contains m.seq)

/-- The removal of rejected mutations in `syncOnce`. -/
def Outbox.dropRejected (outbox : Outbox) (snapshot : DrainSnapshot)
    (rejected : List (Int × RejectReason)) : Outbox :=
  outbox.bulkDelete
    (snapshot.seqsOf fun m => (rejected.map Prod.fst).contains m.seq)

/-- Without rejections nothing is dropped. -/
@[simp] theorem Outbox.dropRejected_nil
    (outbox : Outbox) (snapshot : DrainSnapshot) :
    outbox.dropRejected snapshot [] = outbox := by
  have nothing : snapshot.seqsOf (fun m =>
      (([] : List (Int × RejectReason)).map Prod.fst).contains m.seq) = [] := by
    simp [DrainSnapshot.seqsOf]
  ext1
  · rw [Outbox.dropRejected, nothing]
    simp [Outbox.bulkDelete]
  · rfl

/-- The sequence numbers behind answered rows are those of the entries of these
rows at the time of the snapshot. -/
theorem mem_seqsOf_snapshotForDrain
    {outbox : Outbox} {answered : OutboxMutation → Bool} {seq : Nat} :
    seq ∈ outbox.snapshotForDrain.seqsOf answered ↔
      ∃ sent ∈ outbox.snapshotForDrain.toSend, answered sent = true ∧
        ∃ m ∈ outbox.entries, m.rowKey = sent.rowKey ∧ m.seq = seq := by
  simp only [DrainSnapshot.seqsOf, List.mem_flatMap, List.mem_filter]
  constructor
  · rintro ⟨sent, ⟨isSent, isAnswered⟩, member⟩
    change seq ∈ (RowMap.get (seqsByRowOf outbox.entries) sent.rowKey).getD []
      at member
    rw [get_seqsByRowOf] at member
    obtain ⟨m, present, same⟩ := List.mem_map.mp member
    simp only [ofRow, List.mem_filter, decide_eq_true_eq] at present
    exact ⟨sent, isSent, isAnswered, m, present.1, present.2, same⟩
  · rintro ⟨sent, isSent, isAnswered, m, present, sameRow, same⟩
    refine ⟨sent, ⟨isSent, isAnswered⟩, ?_⟩
    change seq ∈ (RowMap.get (seqsByRowOf outbox.entries) sent.rowKey).getD []
    rw [get_seqsByRowOf]
    refine List.mem_map.mpr ⟨m, ?_, same⟩
    simpa [ofRow] using ⟨present, sameRow⟩

/-- When everything sent was applied, only what was queued since the snapshot is
left. -/
theorem mem_deleteApplied_iff
    {outbox taken : Outbox} {appliedSeqs : List Int}
    (covered : ∀ m ∈ outbox.entries, m.seq < taken.nextSeq →
      m ∈ taken.entries)
    (allApplied : ∀ sent ∈ taken.snapshotForDrain.toSend,
      (sent.seq : Int) ∈ appliedSeqs)
    (m : OutboxMutation) :
    m ∈ (outbox.deleteApplied taken.snapshotForDrain appliedSeqs).entries ↔
      m ∈ outbox.entries ∧ taken.nextSeq ≤ m.seq := by
  rw [Outbox.deleteApplied, Outbox.bulkDelete, Outbox.entries_deleteWhere,
    List.mem_filter]
  refine and_congr_right fun present => ?_
  simp only [List.contains_eq_mem, Bool.not_eq_true', decide_eq_false_iff_not]
  rw [mem_seqsOf_snapshotForDrain]
  constructor
  · intro kept
    by_contra older
    have seen := covered m present (Nat.not_le.mp older)
    obtain ⟨sent, isSent, sameRow⟩ := exists_sent_of_mem seen
    exact kept ⟨sent, isSent, by simpa using allApplied sent isSent, m, seen,
      sameRow.symm, rfl⟩
  · rintro newer ⟨sent, _, _, seen, wasThere, _, same⟩
    have := taken.bounded seen wasThere
    omega

end Offline
end EvoPlatform
