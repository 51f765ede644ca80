import Mathlib.Data.List.Pairwise
import Mathlib.Data.List.Nodup
import Mathlib.Order.Nat
import Mathlib.Tactic.Common

/-!
# Keyed tables

A table is a finite list of rows whose keys are pairwise distinct.  Writing a
row replaces the row with the same key in place and appends it otherwise, which
is the behaviour of a primary-key upsert, of an object store and of an
insertion-ordered map.  Lookup is characterized after each kind of write, so
that later arguments never look at the list again.
-/

namespace EvoPlatform

/-- Replace the row with the key of `row`, or append `row`. -/
def putRow {α κ : Type} [DecidableEq κ] (key : α → κ) (row : α) : List α → List α
  | [] => [row]
  | other :: rest =>
      if key other = key row then row :: rest
      else other :: putRow key row rest

section Rows

variable {α κ : Type} [DecidableEq κ] {key : α → κ} {row other : α}
  {rest : List α}

theorem putRow_nil : putRow key row [] = [row] := rfl

theorem putRow_of_eq (same : key other = key row) :
    putRow key row (other :: rest) = row :: rest :=
  if_pos same

theorem putRow_of_ne (different : key other ≠ key row) :
    putRow key row (other :: rest) = other :: putRow key row rest :=
  if_neg different

end Rows

/-- The keys after a write are the old keys and the written one. -/
theorem mem_map_key_putRow {α κ : Type} [DecidableEq κ]
    (key : α → κ)
    (row : α)
    (rows : List α)
    (searched : κ) :
    searched ∈ (putRow key row rows).map key ↔
      searched = key row ∨ searched ∈ rows.map key := by
  induction rows with
  | nil => simp [putRow_nil]
  | cons other rest inductionHypothesis =>
      by_cases same : key other = key row
      · simp [putRow_of_eq same, same]
      · rw [putRow_of_ne same, List.map_cons, List.map_cons, List.mem_cons,
          List.mem_cons, inductionHypothesis]
        tauto

/-- Writing a row keeps the keys pairwise distinct. -/
theorem nodup_map_key_putRow {α κ : Type} [DecidableEq κ]
    (key : α → κ)
    (row : α)
    (rows : List α)
    (nodup : (rows.map key).Nodup) :
    ((putRow key row rows).map key).Nodup := by
  induction rows with
  | nil => exact List.nodup_singleton _
  | cons other rest inductionHypothesis =>
      obtain ⟨otherAbsent, restNodup⟩ := List.nodup_cons.mp nodup
      by_cases same : key other = key row
      · rw [putRow_of_eq same, List.map_cons]
        exact List.nodup_cons.mpr ⟨same ▸ otherAbsent, restNodup⟩
      · rw [putRow_of_ne same, List.map_cons]
        refine List.nodup_cons.mpr ⟨?_, inductionHypothesis restNodup⟩
        rw [mem_map_key_putRow]
        rintro (equal | present)
        · exact same equal
        · exact otherAbsent present

/-- A write adds at most one row. -/
theorem length_putRow_le {α κ : Type} [DecidableEq κ]
    (key : α → κ)
    (row : α)
    (rows : List α) :
    (putRow key row rows).length ≤ rows.length + 1 := by
  induction rows with
  | nil => exact le_rfl
  | cons other rest inductionHypothesis =>
      by_cases same : key other = key row
      · rw [putRow_of_eq same]
        exact Nat.le_succ _
      · rw [putRow_of_ne same]
        exact Nat.succ_le_succ inductionHypothesis

/-- A row with a new key is appended. -/
theorem putRow_of_new {α κ : Type} [DecidableEq κ]
    {key : α → κ}
    {row : α}
    {rows : List α}
    (new : key row ∉ rows.map key) :
    putRow key row rows = rows ++ [row] := by
  induction rows with
  | nil => rfl
  | cons other rest inductionHypothesis =>
      rw [List.map_cons, List.mem_cons, not_or] at new
      rw [putRow_of_ne (Ne.symm new.1), inductionHypothesis new.2]
      rfl

/-- Looking up a key after a write. -/
theorem find?_putRow {α κ : Type} [DecidableEq κ]
    (key : α → κ)
    (row : α)
    (rows : List α)
    (searched : κ) :
    (putRow key row rows).find? (fun other => key other = searched) =
      if searched = key row then some row
      else rows.find? (fun other => key other = searched) := by
  induction rows with
  | nil =>
      by_cases same : searched = key row
      · simp [putRow_nil, same]
      · simp [putRow_nil, same, Ne.symm same]
  | cons other rest inductionHypothesis =>
      by_cases replaced : key other = key row
      · by_cases same : searched = key row
        · simp [putRow_of_eq replaced, same]
        · simp [putRow_of_eq replaced, replaced, same, Ne.symm same]
      · by_cases found : key other = searched
        · subst found
          simp [putRow_of_ne replaced, replaced]
        · simpa [putRow_of_ne replaced, found] using inductionHypothesis

/-- Rows with pairwise distinct keys, in insertion order. -/
structure Table {α κ : Type} (key : α → κ) where
  /-- The stored rows. -/
  rows : List α
  /-- The key is a primary key. -/
  keysNodup : (rows.map key).Nodup

namespace Table

variable {α κ : Type} [DecidableEq κ] {key : α → κ}

/-- The table without rows. -/
def empty : Table key := ⟨[], List.nodup_nil⟩

/-- The row stored under a key. -/
def find? (table : Table key) (searched : κ) : Option α :=
  table.rows.find? fun row => key row = searched

/-- Insert a row, or replace the one with its key. -/
def put (table : Table key) (row : α) : Table key :=
  ⟨putRow key row table.rows,
    nodup_map_key_putRow key row table.rows table.keysNodup⟩

/-- Delete every row that satisfies the predicate. -/
def eraseWhere (table : Table key) (doomed : α → Bool) : Table key :=
  ⟨table.rows.filter fun row => !doomed row,
    table.keysNodup.sublist (List.filter_sublist.map key)⟩

/-- Delete the row stored under a key. -/
def erase (table : Table key) (erased : κ) : Table key :=
  table.eraseWhere fun row => key row = erased

/-- Change every row, but no key. -/
def mapRows (table : Table key) (change : α → α)
    (sameKey : ∀ row, key (change row) = key row) : Table key where
  rows := table.rows.map change
  keysNodup := by
    have same : key ∘ change = key := by
      funext row
      exact sameKey row
    rw [List.map_map, same]
    exact table.keysNodup

@[simp] theorem find?_empty (searched : κ) :
    (empty : Table key).find? searched = none := rfl

/-- Lookup finds exactly the stored rows. -/
theorem find?_eq_some_iff
    (table : Table key)
    (searched : κ)
    (row : α) :
    table.find? searched = some row ↔
      row ∈ table.rows ∧ key row = searched := by
  constructor
  · intro found
    exact ⟨List.mem_of_find?_eq_some found,
      by simpa using List.find?_some found⟩
  · rintro ⟨present, rfl⟩
    cases found : table.find? (key row) with
    | none =>
        have absent := List.find?_eq_none.mp found row present
        simp at absent
    | some other =>
        have otherPresent := List.mem_of_find?_eq_some found
        have sameKey : key other = key row := by
          simpa using List.find?_some found
        rw [List.inj_on_of_nodup_map table.keysNodup
          otherPresent present sameKey]

/-- A stored row is what its key looks up. -/
theorem find?_of_mem
    (table : Table key)
    {row : α}
    (present : row ∈ table.rows) :
    table.find? (key row) = some row :=
  (table.find?_eq_some_iff (key row) row).mpr ⟨present, rfl⟩

theorem mem_iff_find?
    (table : Table key)
    (row : α) :
    row ∈ table.rows ↔ table.find? (key row) = some row := by
  rw [find?_eq_some_iff]
  exact (and_iff_left rfl).symm

/-- A row that was looked up is stored. -/
theorem mem_of_find?
    (table : Table key)
    {searched : κ}
    {row : α}
    (found : table.find? searched = some row) :
    row ∈ table.rows :=
  ((table.find?_eq_some_iff searched row).mp found).1

/-- A row that was looked up has the searched key. -/
theorem key_of_find?
    (table : Table key)
    {searched : κ}
    {row : α}
    (found : table.find? searched = some row) :
    key row = searched :=
  ((table.find?_eq_some_iff searched row).mp found).2

@[simp] theorem find?_put
    (table : Table key)
    (row : α)
    (searched : κ) :
    (table.put row).find? searched =
      if searched = key row then some row else table.find? searched :=
  find?_putRow key row table.rows searched

/-- Membership after a write: the written row, and the rows with other keys. -/
theorem mem_put_iff
    (table : Table key)
    (row other : α) :
    other ∈ (table.put row).rows ↔
      other = row ∨ (other ∈ table.rows ∧ key other ≠ key row) := by
  have stored := (table.put row).find?_eq_some_iff (key other) other
  have storedBefore := table.find?_eq_some_iff (key other) other
  simp only [and_true] at stored storedBefore
  rw [← stored, ← storedBefore, find?_put]
  by_cases same : key other = key row
  · simp only [same, if_true, Option.some.injEq, ne_eq, not_true, and_false,
      or_false]
    exact eq_comm
  · have different : other ≠ row := fun equal => same (equal ▸ rfl)
    simp [same, different]

@[simp] theorem find?_eraseWhere
    (table : Table key)
    (doomed : α → Bool)
    (searched : κ) :
    (table.eraseWhere doomed).find? searched =
      (table.find? searched).filter fun row => !doomed row := by
  ext row
  rw [find?_eq_some_iff]
  simp only [eraseWhere, List.mem_filter, Option.filter_eq_some_iff,
    find?_eq_some_iff]
  tauto

@[simp] theorem find?_erase
    (table : Table key)
    (erased searched : κ) :
    (table.erase erased).find? searched =
      if searched = erased then none else table.find? searched := by
  rw [erase, find?_eraseWhere]
  cases found : table.find? searched with
  | none => simp
  | some row =>
      have sameKey := table.key_of_find? found
      by_cases same : searched = erased
      · simp [sameKey, same]
      · simp [sameKey, same]

@[simp] theorem find?_mapRows
    (table : Table key)
    {change : α → α}
    (sameKey : ∀ row, key (change row) = key row)
    (searched : κ) :
    (table.mapRows change sameKey).find? searched =
      (table.find? searched).map change := by
  have same : (fun row => decide (key row = searched)) ∘ change =
      fun row => decide (key row = searched) := by
    funext row
    simp [sameKey]
  simp only [find?, mapRows, List.find?_map, same]

/-! ## What every row meets -/

/-- Every row meets a condition. -/
def Every (condition : α → Prop) (table : Table key) : Prop :=
  ∀ row ∈ table.rows, condition row

omit [DecidableEq κ] in
theorem every_empty (condition : α → Prop) :
    (Table.empty : Table key).Every condition := by
  intro row present
  exact absurd present List.not_mem_nil

omit [DecidableEq κ] in
theorem every_singleton {condition : α → Prop} {row : α}
    {nodup : ([row].map key).Nodup} (holds : condition row) :
    (⟨[row], nodup⟩ : Table key).Every condition := by
  intro other present
  rwa [List.mem_singleton.mp present]

/-- A condition on every row has to be met by a row that is written. -/
theorem Every.put
    {condition : α → Prop}
    {table : Table key}
    (every : table.Every condition)
    {row : α}
    (meets : condition row) :
    (table.put row).Every condition := by
  intro other present
  rcases (table.mem_put_iff row other).mp present with rfl | ⟨old, _⟩
  · exact meets
  · exact every other old

omit [DecidableEq κ] in
theorem Every.eraseWhere
    {condition : α → Prop}
    {table : Table key}
    (every : table.Every condition)
    (doomed : α → Bool) :
    (table.eraseWhere doomed).Every condition := by
  intro row present
  exact every row (List.mem_of_mem_filter present)

/-! ## Unique nullable columns -/

/-- No two rows share a value of a nullable column. -/
def Unique {β : Type} (column : α → Option β) (table : Table key) : Prop :=
  ∀ left ∈ table.rows, ∀ right ∈ table.rows, ∀ value,
    column left = some value → column right = some value → left = right

omit [DecidableEq κ] in
theorem unique_empty {β : Type} (column : α → Option β) :
    (empty : Table key).Unique column :=
  fun _ present => absurd present List.not_mem_nil

/-- The first row with a value in a nullable column. -/
def findBy {β : Type} [DecidableEq β] (column : α → Option β)
    (table : Table key) (value : β) : Option α :=
  table.rows.find? fun row => column row = some value

/-- A row with another key holds the value that `row` has in a column. -/
def HeldElsewhere {β : Type} (column : α → Option β) (table : Table key)
    (row : α) : Prop :=
  ∃ other ∈ table.rows,
    key other ≠ key row ∧ (column row).isSome ∧ column other = column row

instance {β : Type} [DecidableEq β] (column : α → Option β)
    (table : Table key) (row : α) :
    Decidable (HeldElsewhere column table row) :=
  inferInstanceAs (Decidable (∃ other ∈ table.rows, _ ∧ _ ∧ _))

omit [DecidableEq κ] in
/-- A column without repeated values is unique. -/
theorem unique_of_nodup {β : Type}
    {column : α → Option β}
    {table : Table key}
    (nodup : (table.rows.filterMap column).Nodup) :
    table.Unique column := by
  intro left leftPresent right rightPresent value leftHolds rightHolds
  by_contra different
  let Apart (left right : α) : Prop :=
    ∀ value, column left = some value →
      ∀ other, column right = some other → value ≠ other
  have symmetric : Std.Symm Apart :=
    ⟨fun _ _ apart other otherHolds value valueHolds =>
      (apart value valueHolds other otherHolds).symm⟩
  have pairwise : table.rows.Pairwise Apart :=
    List.pairwise_filterMap.mp nodup
  exact pairwise.forall leftPresent rightPresent different
    value leftHolds value rightHolds rfl

omit [DecidableEq κ] in
/-- A unique column looks up exactly the row with the value. -/
theorem Unique.findBy_eq_some_iff {β : Type} [DecidableEq β]
    {column : α → Option β}
    {table : Table key}
    (unique : table.Unique column)
    (value : β)
    (row : α) :
    table.findBy column value = some row ↔
      row ∈ table.rows ∧ column row = some value := by
  constructor
  · intro found
    exact ⟨List.mem_of_find?_eq_some found,
      by simpa using List.find?_some found⟩
  · rintro ⟨present, holds⟩
    cases found : table.findBy column value with
    | none =>
        have absent := List.find?_eq_none.mp found row present
        simp [holds] at absent
    | some other =>
        have otherHolds : column other = some value := by
          simpa using List.find?_some found
        rw [unique other (List.mem_of_find?_eq_some found) row present value
          otherHolds holds]

omit [DecidableEq κ] in
/-- A row that a column looks up is stored, with the value. -/
theorem mem_of_findBy {β : Type} [DecidableEq β]
    {column : α → Option β}
    {table : Table key}
    {value : β}
    {row : α}
    (found : table.findBy column value = some row) :
    row ∈ table.rows ∧ column row = some value :=
  ⟨List.mem_of_find?_eq_some found, by simpa using List.find?_some found⟩

omit [DecidableEq κ] in
/-- A value that a column does not look up is in no row. -/
theorem findBy_eq_none_iff {β : Type} [DecidableEq β]
    {column : α → Option β}
    {table : Table key}
    {value : β} :
    table.findBy column value = none ↔
      ∀ row ∈ table.rows, column row ≠ some value := by
  simp [findBy, List.find?_eq_none]

/-- Writing a row whose value no other row holds keeps a column unique. -/
theorem Unique.put {β : Type}
    {column : α → Option β}
    {table : Table key}
    (unique : table.Unique column)
    (row : α)
    (free : ¬ HeldElsewhere column table row) :
    (table.put row).Unique column := by
  have unheld : ∀ other ∈ table.rows, key other ≠ key row → ∀ value,
      column row = some value → column other ≠ some value := by
    intro other present different value holds otherHolds
    exact free ⟨other, present, different, by simp [holds],
      otherHolds.trans holds.symm⟩
  intro left leftPresent right rightPresent value leftHolds rightHolds
  rcases (table.mem_put_iff row left).mp leftPresent with
    rfl | ⟨leftOld, leftDifferent⟩
  · rcases (table.mem_put_iff left right).mp rightPresent with
      rfl | ⟨rightOld, rightDifferent⟩
    · rfl
    · exact absurd rightHolds
        (unheld right rightOld rightDifferent value leftHolds)
  · rcases (table.mem_put_iff row right).mp rightPresent with
      rfl | ⟨rightOld, rightDifferent⟩
    · exact absurd leftHolds
        (unheld left leftOld leftDifferent value rightHolds)
    · exact unique left leftOld right rightOld value leftHolds rightHolds

omit [DecidableEq κ] in
/-- Deleting rows keeps a column unique. -/
theorem Unique.eraseWhere {β : Type}
    {column : α → Option β}
    {table : Table key}
    (unique : table.Unique column)
    (doomed : α → Bool) :
    (table.eraseWhere doomed).Unique column := by
  intro left leftPresent right rightPresent
  exact unique left (List.mem_of_mem_filter leftPresent)
    right (List.mem_of_mem_filter rightPresent)

omit [DecidableEq κ] in
/-- A column that no change touches stays unique. -/
theorem Unique.mapRows {β : Type}
    {column : α → Option β}
    {table : Table key}
    (unique : table.Unique column)
    (change : α → α)
    (sameKey : ∀ row, key (change row) = key row)
    (sameValue : ∀ row, column (change row) = column row) :
    (table.mapRows change sameKey).Unique column := by
  intro left leftPresent right rightPresent value leftHolds rightHolds
  obtain ⟨leftOld, leftStored, rfl⟩ := List.mem_map.mp leftPresent
  obtain ⟨rightOld, rightStored, rfl⟩ := List.mem_map.mp rightPresent
  rw [sameValue] at leftHolds rightHolds
  rw [unique leftOld leftStored rightOld rightStored value leftHolds
    rightHolds]

omit [DecidableEq κ] in
/-- A row whose own value is unchanged is in nobody's way. -/
theorem Unique.not_heldElsewhere {β : Type}
    {column : α → Option β}
    {table : Table key}
    (unique : table.Unique column)
    {stored row : α}
    (present : stored ∈ table.rows)
    (sameKey : key row = key stored)
    (sameValue : column row = column stored) :
    ¬ HeldElsewhere column table row := by
  rintro ⟨other, otherPresent, different, holds, otherHolds⟩
  obtain ⟨value, rowHolds⟩ := Option.isSome_iff_exists.mp holds
  have same := unique other otherPresent stored present value
    (otherHolds.trans rowHolds) (sameValue.symm.trans rowHolds)
  exact different (same ▸ sameKey.symm)

end Table
end EvoPlatform
