import Mathlib.Data.List.Basic
import Mathlib.Data.List.Sort

/-!
# The last item of each key

A log of items, each with a key, is thinned out to the last item of every key,
which keep their order.  Seen from one key the log becomes the last item of that
key.
-/

namespace EvoPlatform

variable {α β κ : Type}

/-! ## The last item that passes a test -/

/-- The last item that passes a test. -/
def lastPassing (test : α → Bool) (items : List α) : Option α :=
  (items.filter test).getLast?

section LastPassing

variable {test : α → Bool}

@[simp] theorem lastPassing_nil : lastPassing test [] = none := rfl

theorem lastPassing_cons (item : α) (items : List α) :
    lastPassing test (item :: items) =
      (lastPassing test items).or (if test item then some item else none) := by
  unfold lastPassing
  by_cases passes : test item = true
  · rw [List.filter_cons_of_pos passes, List.getLast?_cons, if_pos passes]
    cases (items.filter test).getLast? <;> rfl
  · rw [List.filter_cons_of_neg passes, if_neg passes, Option.or_none]

theorem lastPassing_eq_some
    {items : List α} {item : α}
    (isLast : lastPassing test items = some item) :
    item ∈ items ∧ test item = true :=
  List.mem_filter.mp (List.mem_of_getLast? isLast)

theorem lastPassing_eq_none_iff {items : List α} :
    lastPassing test items = none ↔ ∀ item ∈ items, test item = false := by
  simp [lastPassing]

/-- An item that does not pass the test does not matter. -/
theorem lastPassing_cons_of_neg
    (item : α) (fails : test item = false) (items : List α) :
    lastPassing test (item :: items) = lastPassing test items := by
  rw [lastPassing_cons, fails]
  exact Option.or_none

/-- An item that passes the test is the last unless another one follows. -/
theorem lastPassing_cons_of_pos
    (item : α) (passes : test item = true) (items : List α) :
    lastPassing test (item :: items) =
      (lastPassing test items).or (some item) := by
  rw [lastPassing_cons, if_pos passes]

theorem lastPassing_map (f : β → α) (items : List β) :
    lastPassing test (items.map f) =
      (lastPassing (fun item => test (f item)) items).map f := by
  unfold lastPassing
  rw [List.filter_map, List.getLast?_map]
  rfl

end LastPassing

/-! ## The last item of each key -/

variable [DecidableEq κ] (key : α → κ)

/-- The last item of each key, in order. -/
def lastPerKey : List α → List α
  | [] => []
  | item :: items =>
      if key item ∈ items.map key then lastPerKey items
      else item :: lastPerKey items

/-- The last item of a key. -/
def lastOf (sought : κ) (items : List α) : Option α :=
  lastPassing (fun item => key item = sought) items

theorem lastPerKey_sublist (items : List α) :
    (lastPerKey key items).Sublist items := by
  induction items with
  | nil => exact List.Sublist.refl []
  | cons item items inductionHypothesis =>
      rw [lastPerKey]
      split
      · exact inductionHypothesis.cons item
      · exact inductionHypothesis.cons_cons item

/-- Seen from one key only its last item is left. -/
theorem filter_lastPerKey (sought : κ) (items : List α) :
    (lastPerKey key items).filter (fun item => key item = sought) =
      (lastOf key sought items).toList := by
  unfold lastOf lastPassing
  induction items with
  | nil => rfl
  | cons item items inductionHypothesis =>
      -- Whether the key occurs later shows in what is left of the rest.
      have nothing : key item ∉ items.map key →
          items.filter (fun other => key other = key item) = [] := by
        intro absent
        rw [List.filter_eq_nil_iff]
        intro other member same
        exact absent (List.mem_map.mpr
          ⟨other, member, of_decide_eq_true same⟩)
      rw [lastPerKey]
      by_cases here : key item = sought
      · subst here
        split
        · rename_i again
          obtain ⟨other, member, same⟩ := List.mem_map.mp again
          have nonempty :
              items.filter (fun other => key other = key item) ≠ [] := by
            intro isEmpty
            have := List.filter_eq_nil_iff.mp isEmpty other member
            simp [same] at this
          rw [inductionHypothesis, List.filter_cons_of_pos (by simp),
            List.getLast?_cons_of_ne_nil nonempty]
        · rename_i absent
          rw [List.filter_cons_of_pos (by simp), inductionHypothesis,
            nothing absent, List.filter_cons_of_pos (by simp), nothing absent]
          rfl
      · rw [List.filter_cons_of_neg (p := fun other => key other = sought)
          (by simpa using here)]
        split
        · exact inductionHypothesis
        · rw [List.filter_cons_of_neg (by simpa using here)]
          exact inductionHypothesis

section Tests

variable {test : α → Bool} {sought : κ}

/-- A test that only items of one key pass sees at most the last of them. -/
theorem filter_test_lastPerKey
    (items : List α)
    (ofKey : ∀ item ∈ items, test item = true → key item = sought) :
    (lastPerKey key items).filter test =
      ((lastOf key sought items).filter test).toList := by
  have thinned : (lastPerKey key items).filter test =
      ((lastPerKey key items).filter fun item => key item = sought).filter
        test := by
    rw [List.filter_filter]
    refine List.filter_congr fun item member => ?_
    cases passes : test item with
    | false => rfl
    | true =>
        have keyed := ofKey item
          ((lastPerKey_sublist key items).subset member) passes
        simp [keyed]
  rw [thinned, filter_lastPerKey]
  cases lastOf key sought items with
  | none => rfl
  | some item => cases passes : test item <;> simp [passes, Option.filter]

theorem lastPassing_lastPerKey
    (items : List α)
    (ofKey : ∀ item ∈ items, test item = true → key item = sought) :
    lastPassing test (lastPerKey key items) =
      (lastOf key sought items).filter test := by
  rw [lastPassing, filter_test_lastPerKey key items ofKey]
  cases (lastOf key sought items).filter test <;> rfl

/-- Without an item of the key no item passes such a test. -/
theorem lastPassing_of_lastOf_none
    {items : List α}
    (ofKey : ∀ item ∈ items, test item = true → key item = sought)
    (absent : lastOf key sought items = none) :
    lastPassing test items = none := by
  rw [lastOf, lastPassing_eq_none_iff] at absent
  rw [lastPassing_eq_none_iff]
  intro item member
  by_contra passes
  have keyed := ofKey item member (Bool.eq_true_of_not_eq_false passes)
  exact absurd (absent item member) (by simp [keyed])

/-- The last item that passes such a test is the last of its key, if that passes
the test. -/
theorem lastPassing_of_lastOf
    {items : List α} {item : α}
    (ofKey : ∀ item ∈ items, test item = true → key item = sought)
    (isLast : lastOf key sought items = some item)
    (passes : test item = true) :
    lastPassing test items = some item := by
  induction items with
  | nil => cases isLast
  | cons first items inductionHypothesis =>
      have rest := inductionHypothesis fun other member =>
        ofKey other (List.mem_cons_of_mem first member)
      by_cases later : lastOf key sought items = none
      · have absent : lastPassing test items = none :=
          lastPassing_of_lastOf_none key (fun other member =>
            ofKey other (List.mem_cons_of_mem first member)) later
        rw [lastOf, lastPassing_cons, ← lastOf, later, Option.none_or] at isLast
        split at isLast
        · cases isLast
          rw [lastPassing_cons_of_pos _ passes, absent, Option.none_or]
        · cases isLast
      · obtain ⟨found, isFound⟩ := Option.ne_none_iff_exists'.mp later
        rw [lastOf, lastPassing_cons, ← lastOf, isFound, Option.some_or] at isLast
        rw [lastPassing_cons, rest (isFound.trans isLast), Option.some_or]

end Tests

/-- In a log with ascending stamps the last item of a key is the one with the
greatest stamp. -/
theorem mem_lastPerKey_iff
    {stamp : α → Nat} {items : List α} {item : α}
    (ascending : items.Pairwise fun left right => stamp left < stamp right) :
    item ∈ lastPerKey key items ↔
      item ∈ items ∧ ∀ other ∈ items, key other = key item →
        stamp other ≤ stamp item := by
  induction items with
  | nil => simp [lastPerKey]
  | cons first items inductionHypothesis =>
      obtain ⟨before, rest⟩ := List.pairwise_cons.mp ascending
      have onRest := inductionHypothesis rest
      rw [lastPerKey]
      split
      · rename_i again
        obtain ⟨later, member, same⟩ := List.mem_map.mp again
        rw [onRest]
        constructor
        · rintro ⟨present, greatest⟩
          refine ⟨List.mem_cons_of_mem _ present, fun other there sameKey => ?_⟩
          rcases List.mem_cons.mp there with rfl | inRest
          · exact (before item present).le
          · exact greatest other inRest sameKey
        · rintro ⟨present, greatest⟩
          rcases List.mem_cons.mp present with rfl | inRest
          · have := greatest later (List.mem_cons_of_mem _ member) same
            exact absurd (before later member) (Nat.not_lt.mpr this)
          · exact ⟨inRest, fun other there =>
              greatest other (List.mem_cons_of_mem _ there)⟩
      · rename_i absent
        rw [List.mem_cons, onRest]
        constructor
        · rintro (rfl | ⟨present, greatest⟩)
          · refine ⟨List.mem_cons_self, fun other there sameKey => ?_⟩
            rcases List.mem_cons.mp there with rfl | inRest
            · exact le_rfl
            · exact absurd (List.mem_map.mpr ⟨other, inRest, sameKey⟩) absent
          · refine ⟨List.mem_cons_of_mem _ present,
              fun other there sameKey => ?_⟩
            rcases List.mem_cons.mp there with rfl | inRest
            · exact (before item present).le
            · exact greatest other inRest sameKey
        · rintro ⟨present, greatest⟩
          rcases List.mem_cons.mp present with rfl | inRest
          · exact Or.inl rfl
          · exact Or.inr ⟨inRest, fun other there =>
              greatest other (List.mem_cons_of_mem _ there)⟩

end EvoPlatform
