import EvoPlatform.Foundation.Transition

/-!
# Replicas behind a cursor

A source maps keys to versioned rows, and a replica shows the rows up to its
cursor.  Keys with a pending local write are exempt: there the replica shows
what was written locally, whatever the source holds.  A row may also be excused,
and then the replica may lack it.  The lemmas say how the relation between the
two survives each kind of step: the source moves on, a key becomes pending, a key
ceases to be pending, or the replica works in a page of rows.
-/

namespace EvoPlatform

variable {κ ρ β ω : Type}

/-- The source has moved on from `before` to `after`: a row whose version does
not exceed `bound` is as it was, and no key loses its row. -/
structure MovesOn
    (version : ρ → Nat)
    (bound : Nat)
    (before after : κ → Option ρ) : Prop where
  old : ∀ key row, after key = some row → version row ≤ bound →
    before key = some row
  kept : ∀ key, after key = none → before key = none

theorem MovesOn.refl
    (version : ρ → Nat) (bound : Nat) (source : κ → Option ρ) :
    MovesOn version bound source source :=
  ⟨fun _ _ found _ => found, fun _ absent => absent⟩

/-- Outside of the pending keys the replica shows the rows of the source up to
the cursor. -/
structure Synced
    (version : ρ → Nat)
    (shown : ρ → Option β)
    (source : κ → Option ρ)
    (replica : κ → Option β)
    (pending : κ → Prop)
    (excused : ρ → Prop)
    (cursor : Nat) : Prop where
  absent : ∀ key, ¬pending key → source key = none → replica key = none
  current : ∀ key row, ¬pending key → source key = some row →
    version row ≤ cursor →
      replica key = shown row ∨ replica key = none ∧ excused row

namespace Synced

variable {version : ρ → Nat} {shown : ρ → Option β}
  {source after : κ → Option ρ} {replica replica' : κ → Option β}
  {pending pending' : κ → Prop} {excused excused' : ρ → Prop}
  {cursor bound : Nat}

/-- A replica that lags behind is in sync up to its own cursor. -/
theorem mono
    (synced : Synced version shown source replica pending excused cursor)
    {lower : Nat}
    (le : lower ≤ cursor) :
    Synced version shown source replica pending excused lower :=
  ⟨synced.absent, fun key row free found upTo =>
    synced.current key row free found (upTo.trans le)⟩

/-- The source moves on beyond the cursor. -/
theorem moveOn
    (synced : Synced version shown source replica pending excused cursor)
    (moves : MovesOn version bound source after)
    (le : cursor ≤ bound) :
    Synced version shown after replica pending excused cursor where
  absent := fun key free gone => synced.absent key free (moves.kept key gone)
  current := fun key row free found upTo =>
    synced.current key row free (moves.old key row found (upTo.trans le)) upTo

/-- Local writes touch pending keys only. -/
theorem write
    (synced : Synced version shown source replica pending excused cursor)
    (untouched : ∀ key, ¬pending' key →
      ¬pending key ∧ replica' key = replica key)
    (excuses : ∀ row, excused row → excused' row) :
    Synced version shown source replica' pending' excused' cursor where
  absent := by
    intro key free gone
    obtain ⟨wasFree, same⟩ := untouched key free
    rw [same]
    exact synced.absent key wasFree gone
  current := by
    intro key row free found upTo
    obtain ⟨wasFree, same⟩ := untouched key free
    rw [same]
    exact (synced.current key row wasFree found upTo).imp_right
      fun lacking => ⟨lacking.1, excuses row lacking.2⟩

/-- Keys cease to be pending.  At such a key the source has no row or one beyond
the cursor, or the replica shows the row already; and rows that are no longer
excused are not shown anyway. -/
theorem settle
    (synced : Synced version shown source replica pending excused cursor)
    (settled : ∀ key, pending key → ¬pending' key →
      (source key = none → replica key = none) ∧
        ∀ row, source key = some row → version row ≤ cursor →
          replica key = shown row)
    (excuses : ∀ key row, source key = some row → version row ≤ cursor →
      excused row → excused' row ∨ shown row = none) :
    Synced version shown source replica pending' excused' cursor where
  absent := by
    intro key free gone
    rcases Classical.em (pending key) with was | wasFree
    · exact (settled key was free).1 gone
    · exact synced.absent key wasFree gone
  current := by
    intro key row free found upTo
    rcases Classical.em (pending key) with was | wasFree
    · exact Or.inl ((settled key was free).2 row found upTo)
    · rcases synced.current key row wasFree found upTo with shows | lacking
      · exact Or.inl shows
      · rcases excuses key row found upTo lacking.2 with stays | dead
        · exact Or.inr ⟨lacking.1, stays⟩
        · exact Or.inl (lacking.1.trans dead.symm)

/-- The replica may lose rows as long as all rows are excused. -/
theorem lose
    (synced : Synced version shown source replica pending excused cursor)
    (lost : ∀ key, replica' key = replica key ∨ replica' key = none)
    (excuses : ∀ row, excused row) :
    Synced version shown source replica' pending excused cursor where
  absent := by
    intro key free gone
    rcases lost key with same | none
    · exact same.trans (synced.absent key free gone)
    · exact none
  current := by
    intro key row free found upTo
    rcases lost key with same | none
    · rw [same]
      exact synced.current key row free found upTo
    · exact Or.inr ⟨none, excuses row⟩

end Synced

/-! ## Pages -/

/-- The page holds the rows of the source between the two cursors, as they are
or as they were before they moved beyond the second one. -/
structure Covers
    (version : ρ → Nat)
    (wire : ρ → ω)
    (keyOf : ω → κ)
    (source : κ → Option ρ)
    (page : List ω)
    (cursor next : Nat) : Prop where
  complete : ∀ key row, source key = some row → cursor < version row →
    version row ≤ next → wire row ∈ page ∧ keyOf (wire row) = key
  current : ∀ delivered ∈ page, ∃ row, source (keyOf delivered) = some row ∧
    cursor < version row ∧ (version row ≤ next → wire row = delivered)

namespace Covers

variable {version : ρ → Nat} {wire : ρ → ω} {keyOf : ω → κ}
  {source after : κ → Option ρ} {page : List ω} {cursor next bound : Nat}

/-- A page stays good while the source moves on beyond it. -/
theorem moveOn
    (covers : Covers version wire keyOf source page cursor next)
    (moves : MovesOn version bound source after)
    (cursorLe : cursor ≤ bound)
    (le : next ≤ bound) :
    Covers version wire keyOf after page cursor next where
  complete := fun key row found above upTo =>
    covers.complete key row (moves.old key row found (upTo.trans le)) above upTo
  current := by
    intro delivered member
    obtain ⟨row, found, above, same⟩ := covers.current delivered member
    cases now : after (keyOf delivered) with
    | none =>
        rw [moves.kept _ now] at found
        contradiction
    | some newer =>
        refine ⟨newer, rfl, ?_, ?_⟩
        · rcases Nat.lt_or_ge bound (version newer) with beyond | old
          · exact cursorLe.trans_lt beyond
          · rw [moves.old _ newer now old] at found
            cases found
            exact above
        · intro upTo
          rw [moves.old _ newer now (upTo.trans le)] at found
          cases found
          exact same upTo

end Covers

/-- Working in a page moves the cursor.  The replica must show what the page
delivers for a key, provided the page is of one mind about it, and keep the
other keys, at least where the source has no row beyond the old cursor. -/
theorem Synced.page
    {version : ρ → Nat} {display : ω → Option β} {wire : ρ → ω} {keyOf : ω → κ}
    {source : κ → Option ρ} {replica replica' : κ → Option β}
    {pending : κ → Prop} {excused : ρ → Prop}
    {page : List ω} {cursor next : Nat}
    (synced : Synced version (fun row => display (wire row)) source replica
      pending excused cursor)
    (covers : Covers version wire keyOf source page cursor next)
    (delivered : ∀ key row, ¬pending key → wire row ∈ page →
      keyOf (wire row) = key →
        (∀ other ∈ page, keyOf other = key → other = wire row) →
          replica' key = display (wire row))
    (untouched : ∀ key, ¬pending key →
      (∀ other ∈ page, keyOf other ≠ key) →
        (∀ row, source key = some row → version row ≤ cursor) →
          replica' key = replica key) :
    Synced version (fun row => display (wire row)) source replica' pending
      excused next where
  absent := by
    intro key free gone
    rw [untouched key free ?_ (by simp [gone])]
    · exact synced.absent key free gone
    · rintro other member rfl
      obtain ⟨row, found, _⟩ := covers.current other member
      rw [gone] at found
      contradiction
  current := by
    intro key row free found upTo
    rcases Nat.lt_or_ge cursor (version row) with new | old
    · obtain ⟨member, keyed⟩ := covers.complete key row found new upTo
      refine Or.inl (delivered key row free member keyed ?_)
      rintro other otherMember rfl
      obtain ⟨otherRow, otherFound, _, same⟩ :=
        covers.current other otherMember
      rw [found] at otherFound
      cases otherFound
      exact (same upTo).symm
    · rw [untouched key free]
      · exact synced.current key row free found old
      · rintro other member rfl
        obtain ⟨otherRow, otherFound, above, _⟩ := covers.current other member
        rw [found] at otherFound
        cases otherFound
        omega
      · intro other otherFound
        rw [found] at otherFound
        cases otherFound
        exact old

/-! ## Working in a page, row by row -/

section Fold

variable {σ : Type} {step : σ → ω → σ} (look : σ → κ → Option β)
  (keyOf : ω → κ) {key : κ} {ok : σ → Prop}

/-- Deliveries for other keys leave the key. -/
theorem foldl_untouched
    (kept : ∀ state delivered, ok state → ok (step state delivered))
    (other : ∀ state delivered, ok state → keyOf delivered ≠ key →
      look (step state delivered) key = look state key)
    (page : List ω) {state : σ}
    (initially : ok state)
    (absent : ∀ delivered ∈ page, keyOf delivered ≠ key) :
    look (page.foldl step state) key = look state key := by
  induction page generalizing state with
  | nil => rfl
  | cons delivered page inductionHypothesis =>
      rw [List.foldl_cons, inductionHypothesis (kept _ _ initially)]
      · exact other state delivered initially (absent delivered (by simp))
      · exact fun later member => absent later (by simp [member])

/-- Once the key shows what every delivery for it calls for, it keeps showing
it; and one delivery is enough to get there. -/
theorem foldl_delivered
    (display : ω → Option β)
    (kept : ∀ state delivered, ok state → ok (step state delivered))
    (other : ∀ state delivered, ok state → keyOf delivered ≠ key →
      look (step state delivered) key = look state key)
    (same : ∀ state delivered, ok state → keyOf delivered = key →
      look (step state delivered) key = display delivered)
    {value : Option β}
    (page : List ω) {state : σ}
    (initially : ok state)
    (agreed : ∀ delivered ∈ page, keyOf delivered = key →
      display delivered = value)
    (reached : look state key = value ∨
      ∃ delivered ∈ page, keyOf delivered = key) :
    look (page.foldl step state) key = value := by
  induction page generalizing state with
  | nil => simpa using reached
  | cons delivered page inductionHypothesis =>
      rw [List.foldl_cons]
      apply inductionHypothesis (kept _ _ initially)
      · exact fun later member => agreed later (by simp [member])
      · rcases Classical.em (keyOf delivered = key) with here | elsewhere
        · left
          rw [same state delivered initially here]
          exact agreed delivered (by simp) here
        · rw [other state delivered initially elsewhere]
          refine reached.imp_right ?_
          rintro ⟨found, member, keyed⟩
          rcases List.mem_cons.mp member with rfl | later
          · exact absurd keyed elsewhere
          · exact ⟨found, later, keyed⟩

/-- A key that still shows something, although no delivery for it calls for
anything, had no delivery and showed something before. -/
theorem shown_of_foldl
    (display : ω → Option β)
    (kept : ∀ state delivered, ok state → ok (step state delivered))
    (other : ∀ state delivered, ok state → keyOf delivered ≠ key →
      look (step state delivered) key = look state key)
    (same : ∀ state delivered, ok state → keyOf delivered = key →
      look (step state delivered) key = display delivered)
    (page : List ω) {state : σ}
    (initially : ok state)
    (silent : ∀ delivered ∈ page, keyOf delivered = key →
      display delivered = none)
    (shown : (look (page.foldl step state) key).isSome = true) :
    (look state key).isSome = true ∧
      ∀ delivered ∈ page, keyOf delivered ≠ key := by
  have erased : look state key = none ∨
      (∃ delivered ∈ page, keyOf delivered = key) →
        look (page.foldl step state) key = none :=
    foldl_delivered look keyOf display kept other same page initially silent
  constructor
  · rw [Option.isSome_iff_ne_none]
    intro absent
    rw [erased (Or.inl absent)] at shown
    contradiction
  · intro delivered member keyed
    rw [erased (Or.inr ⟨delivered, member, keyed⟩)] at shown
    contradiction

end Fold

end EvoPlatform
