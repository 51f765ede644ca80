import EvoPlatform.Foundation.Transition
import Mathlib.Data.List.Sort

/-!
# Ascending pages over versioned rows

A page is the first `limit` rows above a cursor in ascending order of their
version.  A page that is not full holds everything above its cursor.  A full
page is complete up to the version of its last row, provided no two rows carry
the same version.
-/

namespace EvoPlatform

variable {α : Type} (version : α → Nat)

/-- The first `limit` rows above `cursor`, in ascending order of version. -/
def pageAbove (rows : List α) (cursor limit : Nat) : List α :=
  ((rows.filter fun row => cursor < version row).insertionSort
    fun left right => version left ≤ version right).take limit

/-- The version of the last row of a page, or the cursor of an empty one. -/
def lastVersion (page : List α) (cursor : Nat) : Nat :=
  (page.getLast?.map version).getD cursor

/-- Rows with equal versions are equal. -/
def VersionsInjective (rows : List α) : Prop :=
  ∀ left ∈ rows, ∀ right ∈ rows, version left = version right → left = right

variable {version}

/-- A page lists rows above its cursor. -/
theorem mem_of_mem_pageAbove
    {rows : List α}
    {cursor limit : Nat}
    {row : α}
    (onPage : row ∈ pageAbove version rows cursor limit) :
    row ∈ rows ∧ cursor < version row := by
  have sorted := List.mem_of_mem_take onPage
  rw [List.mem_insertionSort] at sorted
  simpa using sorted

/-- The versions of a page ascend. -/
theorem pairwise_pageAbove
    (rows : List α)
    (cursor limit : Nat) :
    (pageAbove version rows cursor limit).Pairwise
      fun left right => version left ≤ version right := by
  have total : Std.Total fun left right : α => version left ≤ version right :=
    ⟨fun left right => Nat.le_total (version left) (version right)⟩
  have transitive : IsTrans α fun left right => version left ≤ version right :=
    ⟨fun _ _ _ => Nat.le_trans⟩
  exact (List.pairwise_insertionSort _ _).sublist (List.take_sublist _ _)

/-- A page that is not full holds every row above the cursor. -/
theorem mem_pageAbove_of_not_full
    {rows : List α}
    {cursor limit : Nat}
    (notFull : (pageAbove version rows cursor limit).length ≠ limit)
    {row : α}
    (present : row ∈ rows)
    (above : cursor < version row) :
    row ∈ pageAbove version rows cursor limit := by
  unfold pageAbove at notFull ⊢
  rw [List.take_of_length_le]
  · rw [List.mem_insertionSort]
    simpa using ⟨present, above⟩
  · simp only [List.length_take] at notFull
    omega

/-- The last version bounds the whole page. -/
theorem version_le_lastVersion
    {rows : List α}
    {cursor limit : Nat}
    {row : α}
    (onPage : row ∈ pageAbove version rows cursor limit) :
    version row ≤
      lastVersion version (pageAbove version rows cursor limit) cursor := by
  have ascending : (pageAbove version rows cursor limit).Pairwise
      fun left right => version left ≤ version right :=
    pairwise_pageAbove rows cursor limit
  generalize pageAbove version rows cursor limit = page at onPage ascending
  obtain rfl | ⟨initial, last, rfl⟩ := page.eq_nil_or_concat'
  · simp at onPage
  · simp only [lastVersion, List.getLast?_concat, Option.map_some,
      Option.getD_some]
    rw [List.pairwise_append] at ascending
    rcases List.mem_append.mp onPage with earlier | final
    · exact ascending.2.2 row earlier last (by simp)
    · simp only [List.mem_singleton] at final
      exact final ▸ le_rfl

/-- Every row above the cursor and up to the last version is on the page. -/
theorem mem_pageAbove_of_le_lastVersion
    {rows : List α}
    (injective : VersionsInjective version rows)
    {cursor limit : Nat}
    {row : α}
    (present : row ∈ rows)
    (above : cursor < version row)
    (upTo : version row ≤
      lastVersion version (pageAbove version rows cursor limit) cursor) :
    row ∈ pageAbove version rows cursor limit := by
  have total : Std.Total fun left right : α => version left ≤ version right :=
    ⟨fun left right => Nat.le_total (version left) (version right)⟩
  have transitive : IsTrans α fun left right => version left ≤ version right :=
    ⟨fun _ _ _ => Nat.le_trans⟩
  let sorted := (rows.filter fun row => cursor < version row).insertionSort
    fun left right => version left ≤ version right
  have ascending : sorted.Pairwise
      fun left right => version left ≤ version right :=
    List.pairwise_insertionSort _ _
  have rowSorted : row ∈ sorted := by
    rw [List.mem_insertionSort]
    simpa using ⟨present, above⟩
  have inRows : ∀ other ∈ sorted, other ∈ rows := by
    intro other member
    rw [List.mem_insertionSort] at member
    exact (List.mem_filter.mp member).1
  change version row ≤ lastVersion version (sorted.take limit) cursor at upTo
  change row ∈ sorted.take limit
  rw [← List.take_append_drop limit sorted] at rowSorted ascending
  rcases List.mem_append.mp rowSorted with taken | dropped
  · exact taken
  · -- A dropped row lies at or above the last taken one, so it is that row.
    obtain nil | ⟨initial, last, split⟩ :=
      (sorted.take limit).eq_nil_or_concat'
    · simp only [lastVersion, nil, List.getLast?_nil, Option.map_none,
        Option.getD_none] at upTo
      omega
    · have lastTaken : last ∈ sorted.take limit := by simp [split]
      have upper : version row ≤ version last := by
        simpa [lastVersion, split] using upTo
      have lower : version last ≤ version row :=
        (List.pairwise_append.mp ascending).2.2 last lastTaken row dropped
      have equal : row = last := injective row present last
        (inRows last (List.mem_of_mem_take lastTaken))
        (Nat.le_antisymm upper lower)
      exact equal ▸ lastTaken

/-- A bound that a full page caps at its last version is safe to advance to:
the page holds every row above the cursor and up to the bound. -/
theorem mem_pageAbove_of_le_bound
    {rows : List α}
    (injective : VersionsInjective version rows)
    {cursor limit bound : Nat}
    (capped : (pageAbove version rows cursor limit).length = limit →
      bound ≤
        lastVersion version (pageAbove version rows cursor limit) cursor)
    {row : α}
    (present : row ∈ rows)
    (above : cursor < version row)
    (upTo : version row ≤ bound) :
    row ∈ pageAbove version rows cursor limit := by
  rcases eq_or_ne (pageAbove version rows cursor limit).length limit with
    full | notFull
  · exact mem_pageAbove_of_le_lastVersion injective present above
      (upTo.trans (capped full))
  · exact mem_pageAbove_of_not_full notFull present above

/-- A page never moves the last version below the cursor. -/
theorem cursor_le_lastVersion
    (rows : List α)
    (cursor limit : Nat) :
    cursor ≤
      lastVersion version (pageAbove version rows cursor limit) cursor := by
  unfold lastVersion
  cases last : (pageAbove version rows cursor limit).getLast? with
  | none => simp
  | some row =>
      have onPage := List.mem_of_getLast? last
      simpa using Nat.le_of_lt (mem_of_mem_pageAbove onPage).2

/-- A nonempty page moves the last version above the cursor. -/
theorem cursor_lt_lastVersion
    {rows : List α}
    {cursor limit : Nat}
    (nonempty : 0 < (pageAbove version rows cursor limit).length) :
    cursor <
      lastVersion version (pageAbove version rows cursor limit) cursor := by
  obtain ⟨row, onPage⟩ := List.exists_mem_of_length_pos nonempty
  exact Nat.lt_of_lt_of_le (mem_of_mem_pageAbove onPage).2
    (version_le_lastVersion onPage)

/-- The last version is the cursor or the version of a row. -/
theorem lastVersion_eq_or_mem
    (version : α → Nat)
    (rows : List α)
    (cursor limit : Nat) :
    lastVersion version (pageAbove version rows cursor limit) cursor = cursor ∨
      ∃ row ∈ rows,
        lastVersion version (pageAbove version rows cursor limit) cursor =
          version row := by
  unfold lastVersion
  cases last : (pageAbove version rows cursor limit).getLast? with
  | none => exact Or.inl rfl
  | some row =>
      have onPage := List.mem_of_getLast? last
      exact Or.inr ⟨row, (mem_of_mem_pageAbove onPage).1, rfl⟩

/-! ## Tables stamped from one sequence -/

/-- Every version was drawn from a sequence that has reached `bound`, and no
two rows carry the same one. -/
structure Stamped
    (version : α → Nat)
    (rows : List α)
    (bound : Nat) : Prop where
  /-- No version is ahead of the sequence. -/
  le : ∀ row ∈ rows, version row ≤ bound
  /-- The sequence never repeats a value. -/
  injective : VersionsInjective version rows

theorem Stamped.nil (version : α → Nat) (bound : Nat) :
    Stamped version [] bound :=
  ⟨by simp, by simp [VersionsInjective]⟩

/-- The sequence may advance without a write. -/
theorem Stamped.mono
    {rows : List α}
    {bound larger : Nat}
    (stamped : Stamped version rows bound)
    (le : bound ≤ larger) :
    Stamped version rows larger :=
  ⟨fun row present => (stamped.le row present).trans le, stamped.injective⟩

/-- Deleting rows keeps the stamps of the others. -/
theorem Stamped.subset
    {rows fewer : List α}
    {bound : Nat}
    (stamped : Stamped version rows bound)
    (kept : fewer ⊆ rows) :
    Stamped version fewer bound :=
  ⟨fun row present => stamped.le row (kept present),
    fun left leftPresent right rightPresent =>
      stamped.injective left (kept leftPresent) right (kept rightPresent)⟩

/-- Writing a row with the next value of the sequence keeps the stamps. -/
theorem Stamped.put {κ : Type} [DecidableEq κ]
    {key : α → κ}
    {table : Table key}
    {bound : Nat}
    (stamped : Stamped version table.rows bound)
    {row : α}
    (fresh : version row = bound + 1) :
    Stamped version (table.put row).rows (bound + 1) := by
  constructor
  · intro other present
    rw [table.mem_put_iff] at present
    obtain rfl | ⟨old, _⟩ := present
    · exact fresh.le
    · exact Nat.le_succ_of_le (stamped.le other old)
  · intro left leftPresent right rightPresent equal
    rw [table.mem_put_iff] at leftPresent rightPresent
    obtain rfl | ⟨leftOld, _⟩ := leftPresent <;>
      obtain rfl | ⟨rightOld, _⟩ := rightPresent
    · rfl
    · have := stamped.le right rightOld
      omega
    · have := stamped.le left leftOld
      omega
    · exact stamped.injective left leftOld right rightOld equal

end EvoPlatform
