import EvoPlatform.Foundation.Table
import Mathlib.Algebra.BigOperators.Group.List.Basic
import Mathlib.Algebra.Ring.Int.Defs

/-!
# Tallies

Totals by key, in the order in which the keys come up, and sheets of them: a
tally for each key of another kind.  A tally made of entries has, at each key,
the sum of the amounts that were entered there, and a sheet of tallies adds up to
the tally of the same entries without the other key.
-/

namespace EvoPlatform

/-- A total for each of some keys. -/
abbrev Tally (κ : Type) := Table (Prod.fst : κ × Int → κ)

/-- The sum over the rows after a write: one row may be replaced. -/
theorem sum_map_putRow {α κ : Type} [DecidableEq κ]
    (key : α → κ)
    (value : α → Int)
    (row : α)
    (rows : List α) :
    ((putRow key row rows).map value).sum =
      (rows.map value).sum + value row -
        ((rows.find? fun other => key other = key row).map value).getD 0 := by
  induction rows with
  | nil => simp [putRow_nil]
  | cons other rest inductionHypothesis =>
      by_cases replaced : key other = key row
      · simp only [putRow_of_eq replaced, replaced, List.map_cons,
          List.sum_cons, List.find?_cons_of_pos, decide_true, Option.map_some,
          Option.getD_some]
        omega
      · simp only [putRow_of_ne replaced, replaced, List.map_cons,
          List.sum_cons, List.find?_cons, decide_false, inductionHypothesis]
        omega

variable {κ ν α : Type} [DecidableEq κ] [DecidableEq ν]

namespace Tally

/-- The total at a key, if there is one. -/
def figure? (tally : Tally κ) (key : κ) : Option Int :=
  (tally.find? key).map Prod.snd

/-- The total at a key, or zero. -/
def figure (tally : Tally κ) (key : κ) : Int := (tally.figure? key).getD 0

/-- Add an amount at a key. -/
def add (tally : Tally κ) (key : κ) (amount : Int) : Tally κ :=
  tally.put (key, tally.figure key + amount)

/-- The keys that have a total. -/
def keys (tally : Tally κ) : List κ := tally.rows.map Prod.fst

@[simp] theorem figure_empty (key : κ) :
    figure Table.empty key = 0 := rfl

omit [DecidableEq κ] in
@[simp] theorem keys_empty : keys (Table.empty : Tally κ) = [] := rfl

theorem figure?_put (tally : Tally κ) (key searched : κ) (amount : Int) :
    figure? (tally.put (key, amount)) searched =
      if searched = key then some amount else tally.figure? searched := by
  simp only [figure?, Table.find?_put]
  split <;> rfl

theorem figure_add (tally : Tally κ) (key searched : κ) (amount : Int) :
    (tally.add key amount).figure searched =
      tally.figure searched + if searched = key then amount else 0 := by
  rw [figure, add, figure?_put]
  split
  · rename_i same
    rw [same, Option.getD_some]
  · rw [add_zero, figure]

theorem mem_keys_put (tally : Tally κ) (key searched : κ) (amount : Int) :
    searched ∈ keys (tally.put (key, amount)) ↔
      searched = key ∨ searched ∈ tally.keys :=
  mem_map_key_putRow Prod.fst (key, amount) tally.rows searched

theorem mem_keys_add (tally : Tally κ) (key searched : κ) (amount : Int) :
    searched ∈ (tally.add key amount).keys ↔
      searched = key ∨ searched ∈ tally.keys :=
  tally.mem_keys_put key searched _

omit [DecidableEq κ] in
theorem nodup_keys (tally : Tally κ) : tally.keys.Nodup := tally.keysNodup

/-- A key has a total if and only if it is among the keys. -/
theorem isSome_figure? (tally : Tally κ) (key : κ) :
    (tally.figure? key).isSome = true ↔ key ∈ tally.keys := by
  simp [figure?, Table.find?, keys]

/-- Add up entries by their keys. -/
def enter (key : α → κ) (amount : α → Int) (tally : Tally κ)
    (entries : List α) : Tally κ :=
  entries.foldl (fun tally entry => tally.add (key entry) (amount entry)) tally

/-- The total at a key is the sum of what was entered there. -/
theorem figure_enter (key : α → κ) (amount : α → Int) (tally : Tally κ)
    (entries : List α) (searched : κ) :
    (tally.enter key amount entries).figure searched =
      tally.figure searched +
        ((entries.filter fun entry => key entry = searched).map amount).sum := by
  induction entries generalizing tally with
  | nil => simp [enter]
  | cons entry entries inductionHypothesis =>
      have rest := inductionHypothesis (tally.add (key entry) (amount entry))
      rw [enter, List.foldl_cons, ← enter, rest, figure_add]
      by_cases same : key entry = searched
      · simp [same, add_assoc]
      · simp [same, Ne.symm same]

/-- The keys are those that something was entered at. -/
theorem mem_keys_enter (key : α → κ) (amount : α → Int) (tally : Tally κ)
    (entries : List α) (searched : κ) :
    searched ∈ (tally.enter key amount entries).keys ↔
      searched ∈ tally.keys ∨ ∃ entry ∈ entries, key entry = searched := by
  induction entries generalizing tally with
  | nil => simp [enter]
  | cons entry entries inductionHypothesis =>
      have rest := inductionHypothesis (tally.add (key entry) (amount entry))
      rw [enter, List.foldl_cons, ← enter, rest, mem_keys_add]
      simp only [List.mem_cons, exists_eq_or_imp]
      tauto

/-- Set the total at the key of each row, where no key comes up twice. -/
theorem figure?_foldl_put (value : α → Int) (key : α → κ) (rows : List α)
    (nodup : (rows.map key).Nodup) (tally : Tally κ) (searched : κ) :
    figure? (rows.foldl (fun tally row => tally.put (key row, value row)) tally)
        searched =
      ((rows.find? fun row => key row = searched).map value).or
        (tally.figure? searched) := by
  induction rows generalizing tally with
  | nil => rfl
  | cons row rows inductionHypothesis =>
      obtain ⟨fresh, nodup⟩ := List.nodup_cons.mp nodup
      rw [List.foldl_cons, inductionHypothesis nodup, figure?_put]
      by_cases same : key row = searched
      · subst same
        have none : rows.find? (fun other => key other = key row) = none := by
          rw [List.find?_eq_none]
          intro other present
          simp only [decide_eq_true_eq]
          exact fun equal => fresh (equal ▸ List.mem_map_of_mem present)
        simp [none]
      · simp [same, Ne.symm same]

/-- Set the total at the key of each row, unless there is one. -/
theorem figure?_foldl_put_absent (value : α → Int) (key : α → κ)
    (rows : List α) (tally : Tally κ) (searched : κ) :
    figure? (rows.foldl (fun tally row =>
        if key row ∈ Tally.keys tally then tally
        else tally.put (key row, value row)) tally) searched =
      (tally.figure? searched).or
        ((rows.find? fun row => key row = searched).map value) := by
  induction rows generalizing tally with
  | nil => exact Option.or_none.symm
  | cons row rows inductionHypothesis =>
      rw [List.foldl_cons, inductionHypothesis]
      by_cases same : key row = searched
      · subst same
        by_cases present : key row ∈ tally.keys
        · obtain ⟨amount, isAmount⟩ := Option.isSome_iff_exists.mp
            ((tally.isSome_figure? (key row)).mpr present)
          simp [present, isAmount]
        · have absent : tally.figure? (key row) = none := by
            rwa [← isSome_figure?, Option.not_isSome_iff_eq_none] at present
          simp [present, figure?_put, absent]
      · split
        · simp [same]
        · simp [same, figure?_put, Ne.symm same]

end Tally

/-! ## Sheets -/

/-- A tally for each of some keys. -/
abbrev Sheet (κ ν : Type) [DecidableEq ν] :=
  Table (Prod.fst : κ × Tally ν → κ)

namespace Sheet

/-- The tally at a key, if there is one. -/
def tally? (sheet : Sheet κ ν) (key : κ) : Option (Tally ν) :=
  (sheet.find? key).map Prod.snd

/-- The tally at a key, or the empty one. -/
def tally (sheet : Sheet κ ν) (key : κ) : Tally ν :=
  (sheet.tally? key).getD Table.empty

/-- Add an amount at a key and a key of its tally. -/
def add (sheet : Sheet κ ν) (key : κ) (inner : ν) (amount : Int) :
    Sheet κ ν :=
  sheet.put (key, (sheet.tally key).add inner amount)

/-- The keys that have a tally. -/
def keys (sheet : Sheet κ ν) : List κ := sheet.rows.map Prod.fst

/-- What the tallies add up to. -/
def total (sheet : Sheet κ ν) (inner : ν) : Int :=
  (sheet.rows.map fun row => row.2.figure inner).sum

@[simp] theorem tally_empty (key : κ) :
    tally (Table.empty : Sheet κ ν) key = Table.empty := rfl

omit [DecidableEq κ] in
@[simp] theorem keys_empty : keys (Table.empty : Sheet κ ν) = [] := rfl

omit [DecidableEq κ] in
@[simp] theorem total_empty (inner : ν) :
    total (Table.empty : Sheet κ ν) inner = 0 := rfl

omit [DecidableEq κ] in
theorem nodup_keys (sheet : Sheet κ ν) : sheet.keys.Nodup := sheet.keysNodup

theorem tally_add (sheet : Sheet κ ν) (key searched : κ) (inner : ν)
    (amount : Int) :
    (sheet.add key inner amount).tally searched =
      if searched = key then (sheet.tally key).add inner amount
      else sheet.tally searched := by
  simp only [tally, tally?, add, Table.find?_put]
  split <;> rfl

theorem mem_keys_add (sheet : Sheet κ ν) (key searched : κ) (inner : ν)
    (amount : Int) :
    searched ∈ (sheet.add key inner amount).keys ↔
      searched = key ∨ searched ∈ sheet.keys :=
  mem_map_key_putRow Prod.fst _ sheet.rows searched

/-- An amount that is added to a sheet is added to its total. -/
theorem total_add (sheet : Sheet κ ν) (key : κ) (inner searched : ν)
    (amount : Int) :
    (sheet.add key inner amount).total searched =
      sheet.total searched + if searched = inner then amount else 0 := by
  have before : ((sheet.rows.find? fun row => row.1 = key).map
      fun row => row.2.figure searched).getD 0 =
        (sheet.tally key).figure searched := by
    rw [tally, tally?, Table.find?]
    cases sheet.rows.find? fun row => row.1 = key <;> rfl
  rw [total, add, Table.put, sum_map_putRow, before, Tally.figure_add, total]
  omega

/-- Add up entries by both of their keys. -/
def enter (key : α → κ) (inner : α → ν) (amount : α → Int)
    (sheet : Sheet κ ν) (entries : List α) : Sheet κ ν :=
  entries.foldl (fun sheet entry =>
    sheet.add (key entry) (inner entry) (amount entry)) sheet

/-- A sheet adds up to what was entered. -/
theorem total_enter (key : α → κ) (inner : α → ν) (amount : α → Int)
    (sheet : Sheet κ ν) (entries : List α) (searched : ν) :
    (sheet.enter key inner amount entries).total searched =
      sheet.total searched +
        ((entries.filter fun entry => inner entry = searched).map
          amount).sum := by
  induction entries generalizing sheet with
  | nil => simp [enter]
  | cons entry entries inductionHypothesis =>
      have rest := inductionHypothesis
        (sheet.add (key entry) (inner entry) (amount entry))
      rw [enter, List.foldl_cons, ← enter, rest, total_add]
      by_cases same : inner entry = searched
      · simp [same, add_assoc]
      · simp [same, Ne.symm same]

/-- The figure at a key and a key of its tally is the sum of what was entered at
both. -/
theorem figure_enter (key : α → κ) (inner : α → ν) (amount : α → Int)
    (sheet : Sheet κ ν) (entries : List α) (searched : κ) (other : ν) :
    ((sheet.enter key inner amount entries).tally searched).figure other =
      (sheet.tally searched).figure other +
        ((entries.filter fun entry =>
          key entry = searched ∧ inner entry = other).map amount).sum := by
  induction entries generalizing sheet with
  | nil => simp [enter]
  | cons entry entries inductionHypothesis =>
      have rest := inductionHypothesis
        (sheet.add (key entry) (inner entry) (amount entry))
      rw [enter, List.foldl_cons, ← enter, rest, tally_add]
      by_cases same : key entry = searched
      · by_cases sameInner : inner entry = other
        · simp [same, sameInner, Tally.figure_add, add_assoc]
        · simp [same, sameInner, Ne.symm sameInner, Tally.figure_add]
      · simp [same, Ne.symm same]

theorem mem_keys_enter (key : α → κ) (inner : α → ν) (amount : α → Int)
    (sheet : Sheet κ ν) (entries : List α) (searched : κ) :
    searched ∈ (sheet.enter key inner amount entries).keys ↔
      searched ∈ sheet.keys ∨ ∃ entry ∈ entries, key entry = searched := by
  induction entries generalizing sheet with
  | nil => simp [enter]
  | cons entry entries inductionHypothesis =>
      have rest := inductionHypothesis
        (sheet.add (key entry) (inner entry) (amount entry))
      rw [enter, List.foldl_cons, ← enter, rest, mem_keys_add]
      simp only [List.mem_cons, exists_eq_or_imp]
      tauto

/-- The row of a key holds its tally. -/
theorem tally_of_mem {sheet : Sheet κ ν} {row : κ × Tally ν}
    (present : row ∈ sheet.rows) : sheet.tally row.1 = row.2 := by
  rw [tally, tally?, sheet.find?_of_mem present, Option.map_some,
    Option.getD_some]

theorem tally_of_not_mem {sheet : Sheet κ ν} {key : κ}
    (absent : key ∉ sheet.keys) : sheet.tally key = Table.empty := by
  have none : sheet.find? key = none := by
    rw [Table.find?, List.find?_eq_none]
    intro row present
    simp only [decide_eq_true_eq]
    exact fun same => absent (same ▸ List.mem_map_of_mem present)
  rw [tally, tally?, none, Option.map_none, Option.getD_none]

/-- A sheet adds up over any keys among which are its own, each once. -/
theorem sum_tallies (sheet : Sheet κ ν) {keys : List κ} (nodup : keys.Nodup)
    (among : ∀ key ∈ sheet.keys, key ∈ keys) (inner : ν) :
    (keys.map fun key => (sheet.tally key).figure inner).sum =
      sheet.total inner := by
  have own : (keys.filter fun key => key ∈ sheet.keys).Perm sheet.keys := by
    rw [List.perm_ext_iff_of_nodup (nodup.filter _) sheet.nodup_keys]
    intro key
    simpa using among key
  have others : ((keys.filter fun key => !decide (key ∈ sheet.keys)).map
      fun key => (sheet.tally key).figure inner).sum = 0 := by
    refine List.sum_eq_zero fun figure present => ?_
    obtain ⟨key, isKey, rfl⟩ := List.mem_map.mp present
    have absent : key ∉ sheet.keys := by simpa using (List.mem_filter.mp isKey).2
    rw [tally_of_not_mem absent, Tally.figure_empty]
  have total : sheet.total inner =
      (sheet.keys.map fun key => (sheet.tally key).figure inner).sum := by
    rw [Sheet.total, Sheet.keys, List.map_map]
    refine congrArg List.sum (List.map_congr_left fun row present => ?_)
    simp only [Function.comp_apply, tally_of_mem present]
  have split := (List.filter_append_perm
    (fun key => decide (key ∈ sheet.keys)) keys).map
      fun key => (sheet.tally key).figure inner
  rw [← split.sum_eq, List.map_append, List.sum_append, others, add_zero, total]
  exact (own.map _).sum_eq

end Sheet

end EvoPlatform
