import Mathlib.Data.List.Basic

/-!
# Histories whose entries are backed

A history only grows at its end.  When each entry is backed by the entries
before it, the cause of an entry is found by going back in the history.
-/

namespace EvoPlatform

variable {α : Type}

/-- Each entry of a history is backed by the entries before it. -/
def Backed (backs : List α → α → Prop) (history : List α) : Prop :=
  ∀ before entry after, history = before ++ entry :: after →
    backs before entry

namespace Backed

variable {backs : List α → α → Prop} {history : List α} {entry : α}

theorem nil : Backed backs [] := by
  intro before entry after split
  simp at split

/-- A list that ends with an entry, taken apart. -/
theorem split_concat
    {front before after : List α}
    {middle last : α}
    (split : front ++ [last] = before ++ middle :: after) :
    (before = front ∧ middle = last ∧ after = []) ∨
      ∃ rest, after = rest ++ [last] ∧ front = before ++ middle :: rest := by
  rcases List.eq_nil_or_concat after with rfl | ⟨rest, other, rfl⟩
  · obtain ⟨sameFront, sameLast⟩ := List.append_inj' split rfl
    exact .inl ⟨sameFront.symm, (List.singleton_inj.mp sameLast).symm, rfl⟩
  · rw [List.concat_eq_append, ← List.cons_append, ← List.append_assoc] at split
    obtain ⟨sameFront, sameLast⟩ := List.append_inj' split rfl
    refine .inr ⟨rest, ?_, sameFront⟩
    rw [List.concat_eq_append, List.singleton_inj.mp sameLast]

/-- An entry is added that the history backs. -/
theorem concat
    (backed : Backed backs history)
    (backsLast : backs history entry) :
    Backed backs (history ++ [entry]) := by
  intro before middle after split
  rcases split_concat split with ⟨rfl, rfl, _⟩ | ⟨rest, _, earlier⟩
  · exact backsLast
  · exact backed before middle rest earlier

/-- Entries are added that anything backs. -/
theorem append
    (backed : Backed backs history)
    (more : List α)
    (always : ∀ before, ∀ entry ∈ more, backs before entry) :
    Backed backs (history ++ more) := by
  induction more generalizing history with
  | nil => rwa [List.append_nil]
  | cons entry rest inductionHypothesis =>
      rw [List.append_cons]
      apply inductionHypothesis
      · exact backed.concat (always history entry List.mem_cons_self)
      · intro before other present
        exact always before other (List.mem_cons_of_mem entry present)

/-- Of two entries, one is backed by a history with the other in it, unless they
are the same. -/
theorem eq_or_of_mem
    (backed : Backed backs history)
    {other : α}
    (present : entry ∈ history)
    (otherPresent : other ∈ history) :
    entry = other ∨ (∃ before, entry ∈ before ∧ backs before other) ∨
      ∃ before, other ∈ before ∧ backs before entry := by
  obtain ⟨before, after, split⟩ := List.append_of_mem present
  rw [split] at otherPresent
  rcases List.mem_append.mp otherPresent with earlier | atOrAfter
  · exact .inr (.inr ⟨before, earlier, backed before entry after split⟩)
  · rcases List.mem_cons.mp atOrAfter with same | later
    · exact .inl same.symm
    · obtain ⟨between, rest, laterSplit⟩ := List.append_of_mem later
      refine .inr (.inl ⟨before ++ entry :: between, by simp, ?_⟩)
      apply backed _ other rest
      rw [split, laterSplit]
      simp

/-- What backs an entry is a part of the history. -/
theorem exists_of_mem
    (backed : Backed backs history)
    (present : entry ∈ history) :
    ∃ before, before <+: history ∧ backs before entry := by
  obtain ⟨before, after, split⟩ := List.append_of_mem present
  exact ⟨before, ⟨entry :: after, split.symm⟩,
    backed before entry after split⟩

/-- What the entries are backed by may be weakened. -/
theorem mono
    {weaker : List α → α → Prop}
    (backed : Backed backs history)
    (implied : ∀ before entry, backs before entry → weaker before entry) :
    Backed weaker history := by
  intro before entry after split
  exact implied before entry (backed before entry after split)

end Backed

end EvoPlatform
