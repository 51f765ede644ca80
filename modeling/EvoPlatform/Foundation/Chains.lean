import EvoPlatform.Foundation.Rewriting
import Mathlib.Algebra.Order.BigOperators.Group.List
import Mathlib.Algebra.Order.Group.Nat
import Mathlib.Data.List.Infix
import Mathlib.Data.List.Pairwise

/-!
# Chains of replacements

Placeholders in a text are replaced one after the other, each in the result of
the one before, or all at once.  The two agree, as far as the origin of each
character goes, if and only if no value meets a placeholder that is replaced
later.
-/

namespace EvoPlatform

open Ink

/-! ## Cutting a text -/

section Legit

variable {α : Type} [Ink α] {pattern : Pattern}

/-- Pieces into which a pattern cuts a text: a match at the front of what follows
is found, and there is none at a character that is kept. -/
def Legit (pattern : Pattern) : List (Piece α) → Prop
  | [] => True
  | .kept char :: rest =>
      pattern (unit char :: units (rest.flatMap Piece.cover)) = none ∧
        Legit pattern rest
  | .found whole :: rest =>
      whole ≠ [] ∧
        pattern (units whole ++ units (rest.flatMap Piece.cover)) =
          some whole.length ∧
        Legit pattern rest

theorem piecesFrom_length_append (skipped rest : List α) :
    piecesFrom pattern skipped.length (skipped ++ rest) =
      piecesFrom pattern 0 rest := by
  induction skipped with
  | nil => rfl
  | cons char skipped inductionHypothesis => exact inductionHypothesis

/-- A text is cut into the only pieces that there can be. -/
theorem pieces_of_legit
    {blocks : List (Piece α)}
    (legit : Legit pattern blocks) :
    pieces pattern (blocks.flatMap Piece.cover) = blocks := by
  induction blocks with
  | nil => rfl
  | cons block rest inductionHypothesis =>
      cases block with
      | kept char =>
          obtain ⟨unmatched, legitRest⟩ := legit
          have cut := inductionHypothesis legitRest
          unfold pieces at cut ⊢
          rw [List.flatMap_cons, Piece.cover, List.singleton_append, piecesFrom,
            units_cons, unmatched, cut]
      | found whole =>
          obtain ⟨notEmpty, matched, legitRest⟩ := legit
          have cut := inductionHypothesis legitRest
          obtain ⟨char, more, rfl⟩ := List.exists_cons_of_ne_nil notEmpty
          unfold pieces at cut ⊢
          rw [← units_append] at matched
          rw [List.flatMap_cons, Piece.cover, List.cons_append, piecesFrom,
            ← List.cons_append, matched]
          simp only [List.length_cons, Nat.add_one_sub_one]
          rw [piecesFrom_length_append, cut, ← List.length_cons, List.take_left]

theorem legit_piecesFrom
    (sound : pattern.Sound)
    (skipped : Nat)
    (text : List α) :
    Legit pattern (piecesFrom pattern skipped text) := by
  induction text generalizing skipped with
  | nil => cases skipped <;> trivial
  | cons char rest inductionHypothesis =>
      cases skipped with
      | succ skipped => exact inductionHypothesis skipped
      | zero =>
          unfold piecesFrom
          cases matched : pattern (units (char :: rest)) with
          | none =>
              refine ⟨?_, inductionHypothesis 0⟩
              rw [flatMap_cover_piecesFrom sound]
              exact matched
          | some length =>
              obtain ⟨positive, fits⟩ := sound _ _ matched
              obtain ⟨fewer, rfl⟩ := Nat.exists_eq_succ_of_ne_zero positive.ne'
              rw [units, List.length_map] at fits
              refine ⟨List.cons_ne_nil _ _, ?_, inductionHypothesis fewer⟩
              rw [flatMap_cover_piecesFrom sound, ← units_append,
                List.take_succ_cons, List.cons_append, Nat.succ_sub_one,
                List.take_append_drop, matched, List.length_cons,
                List.length_take_of_le (Nat.le_of_succ_le_succ fits)]

omit [Ink α] in
theorem cover_kept_append (text : List α) (blocks : List (Piece α)) :
    (text.map Piece.kept ++ blocks).flatMap Piece.cover =
      text ++ blocks.flatMap Piece.cover := by
  rw [List.flatMap_append, List.flatMap_map]
  exact congrArg (· ++ _) (List.flatMap_singleton' text)

/-- Pieces that are kept before others. -/
theorem legit_kept_append
    {text : List α}
    {blocks : List (Piece α)}
    (unmatched : ∀ tail, tail <:+ text → tail ≠ [] →
      pattern (units tail ++ units (blocks.flatMap Piece.cover)) = none)
    (legit : Legit pattern blocks) :
    Legit pattern (text.map Piece.kept ++ blocks) := by
  induction text with
  | nil => exact legit
  | cons char rest inductionHypothesis =>
      refine ⟨?_, inductionHypothesis fun tail isTail =>
        unmatched tail (isTail.trans (List.suffix_cons _ _))⟩
      have first := unmatched _ List.suffix_rfl (List.cons_ne_nil _ _)
      rw [← units_append, List.cons_append, units_cons] at first
      rwa [← cover_kept_append] at first

end Legit

/-! ## Words -/

/-- A pattern of one word. -/
def Pattern.word (word : JsString) : Pattern := fun text =>
  if word.isPrefixOf text then some word.length else none

theorem Pattern.word_eq_none_iff {word text : JsString} :
    Pattern.word word text = none ↔ ¬word <+: text := by
  simp [Pattern.word]

theorem Pattern.word_of_begins
    {word text : JsString}
    (starts : word <+: text) :
    Pattern.word word text = some word.length := by
  simp [Pattern.word, starts]

/-- A word may start inside a text, depending on what comes after. -/
def StartsIn (word text : JsString) : Prop :=
  ∃ tail ∈ text.tails, tail ≠ [] ∧ (tail <+: word ∨ word <+: tail)

instance (word text : JsString) : Decidable (StartsIn word text) :=
  inferInstanceAs (Decidable (∃ tail ∈ text.tails, _))

/-- An occurrence of one word may share characters with an occurrence of
another. -/
def Meets (left right : JsString) : Prop :=
  StartsIn left right ∨ StartsIn right left

instance (left right : JsString) : Decidable (Meets left right) :=
  inferInstanceAs (Decidable (_ ∨ _))

theorem startsIn_of_begins
    {word text tail rest : JsString}
    (isTail : tail <:+ text)
    (notEmpty : tail ≠ [])
    (starts : word <+: tail ++ rest) :
    StartsIn word text :=
  ⟨tail, (List.mem_tails _ _).mpr isTail, notEmpty,
    List.prefix_or_prefix_of_prefix (List.prefix_append tail rest) starts⟩

theorem startsIn_of_tail
    {word text tail rest : JsString}
    (isTail : tail <:+ text)
    (notEmpty : tail ≠ [])
    (starts : tail <+: word ++ rest) :
    StartsIn word text :=
  ⟨tail, (List.mem_tails _ _).mpr isTail, notEmpty,
    List.prefix_or_prefix_of_prefix starts (List.prefix_append word rest)⟩

theorem Meets.symm {left right : JsString} (meets : Meets left right) :
    Meets right left :=
  Or.symm meets

theorem meets_self {word : JsString} (notEmpty : word ≠ []) : Meets word word :=
  .inl ⟨word, (List.mem_tails _ _).mpr List.suffix_rfl, notEmpty,
    .inl List.prefix_rfl⟩

/-! ## Replacements -/

/-- A placeholder and what is written for it. -/
structure Replacement where
  placeholder : JsString
  value : JsString
  deriving DecidableEq

/-- A pattern of the placeholders of some replacements. -/
def Pattern.anyOf (steps : List Replacement) : Pattern := fun text =>
  (steps.find? fun step => step.placeholder.isPrefixOf text).map
    fun step => step.placeholder.length

section Chain

variable {α : Type} [Ink α] (ink : Replacement → UInt16 → α)

/-- `text.replaceAll(placeholder, value)`, for a value without dollar signs. -/
def Replacement.apply (step : Replacement) (text : List α) : List α :=
  replaceAll (.word step.placeholder) (fun _ => step.value.map (ink step)) text

/-- Replacements one after the other. -/
def chain (steps : List Replacement) (text : List α) : List α :=
  steps.foldl (fun text step => step.apply ink text) text

/-- What is written for a text that may be a placeholder. -/
def written (steps : List Replacement) (whole : List α) : List α :=
  match steps.find? fun step => step.placeholder = units whole with
  | some step => step.value.map (ink step)
  | none => whole

/-- Replacements all at once. -/
def atOnce (steps : List Replacement) (text : List α) : List α :=
  replaceAll (.anyOf steps) (written ink steps) text

end Chain

/-- The origin of a character: the text, or the placeholder for which it was
written. -/
abbrev Traced := Glyph (Option JsString)

/-- The text that is given. -/
def given (text : JsString) : List Traced := text.map fun unit => ⟨unit, none⟩

/-- What a replacement writes. -/
def traced (step : Replacement) (unit : UInt16) : Traced :=
  ⟨unit, some step.placeholder⟩

/-- What is written is read as it is. -/
def Inked {α : Type} [Ink α] (ink : Replacement → UInt16 → α) : Prop :=
  ∀ step code, unit (ink step code) = code

theorem inked_traced : Inked traced := fun _ _ => rfl

@[simp] theorem units_given (text : JsString) : units (given text) = text := by
  unfold units given
  rw [List.map_map]
  exact List.map_id text

/-- Placeholders that cannot overlap, nor one of them itself. -/
structure Apart (steps : List Replacement) : Prop where
  placeholders : ∀ step ∈ steps, step.placeholder ≠ []
  values : ∀ step ∈ steps, step.value ≠ []
  once : ∀ step ∈ steps, ¬StartsIn step.placeholder step.placeholder.tail
  differ : steps.Pairwise fun left right =>
    ¬Meets left.placeholder right.placeholder

section Written

variable {α : Type} [Ink α] {ink : Replacement → UInt16 → α}
  {steps done more : List Replacement} {step : Replacement}

theorem anyOf_eq_none_iff {text : JsString} :
    Pattern.anyOf steps text = none ↔
      ∀ step ∈ steps, ¬step.placeholder <+: text := by
  simp [Pattern.anyOf]

theorem anyOf_eq_some
    {text : JsString}
    {length : Nat}
    (matched : Pattern.anyOf steps text = some length) :
    ∃ step ∈ steps, step.placeholder <+: text ∧
      length = step.placeholder.length := by
  obtain ⟨step, found, isLength⟩ := Option.map_eq_some_iff.mp matched
  have starts := List.find?_some found
  exact ⟨step, List.mem_of_find?_eq_some found,
    List.isPrefixOf_iff_prefix.mp starts, isLength.symm⟩

/-- Two replacements are the same, or their placeholders cannot overlap. -/
def SameOrApart (left right : Replacement) : Prop :=
  left = right ∨ ¬Meets left.placeholder right.placeholder

instance : Std.Symm SameOrApart where
  symm := by
    rintro left right (same | differ)
    · exact .inl same.symm
    · exact .inr fun meets => differ meets.symm

theorem Apart.same_or_apart
    (apart : Apart steps)
    {left right : Replacement}
    (isLeft : left ∈ steps)
    (isRight : right ∈ steps) :
    SameOrApart left right := by
  have differ : steps.Pairwise SameOrApart :=
    apart.differ.imp fun differ => .inr differ
  exact differ.forall_of_forall (fun _ _ => .inl rfl) isLeft isRight

theorem Apart.sound (apart : Apart steps) : (Pattern.anyOf steps).Sound := by
  intro text length matched
  obtain ⟨step, isStep, starts, rfl⟩ := anyOf_eq_some matched
  exact ⟨List.length_pos_iff.mpr (apart.placeholders step isStep),
    starts.length_le⟩

theorem Pattern.word_sound
    {word : JsString}
    (notEmpty : word ≠ []) :
    (Pattern.word word).Sound := by
  intro text length matched
  unfold Pattern.word at matched
  split at matched
  · rename_i starts
    obtain rfl := Option.some.inj matched
    exact ⟨List.length_pos_iff.mpr notEmpty,
      (List.isPrefixOf_iff_prefix.mp starts).length_le⟩
  · cases matched

/-- What is written for a placeholder that is done, for one that is not and for
one that has just been done. -/
theorem written_of_notMem
    {whole : List α}
    (absent : ∀ step ∈ done, step.placeholder ≠ units whole) :
    written ink done whole = whole := by
  have none : done.find? (fun step => step.placeholder = units whole) = none :=
    List.find?_eq_none.mpr (by simpa using absent)
  rw [written, none]

theorem written_concat
    {whole : List α}
    (differs : step.placeholder ≠ units whole) :
    written ink (done ++ [step]) whole = written ink done whole := by
  unfold written
  rw [List.find?_append, List.find?_cons, decide_eq_false differs,
    List.find?_nil, Option.or_none]

theorem written_concat_self
    {whole : List α}
    (absent : ∀ other ∈ done, other.placeholder ≠ units whole)
    (same : step.placeholder = units whole) :
    written ink (done ++ [step]) whole = step.value.map (ink step) := by
  have none : done.find? (fun step => step.placeholder = units whole) = none :=
    List.find?_eq_none.mpr (by simpa using absent)
  rw [written, List.find?_append, none, Option.none_or, List.find?_cons,
    decide_eq_true same]

/-- What is written is the value of a replacement, or what was there. -/
theorem units_written
    (inked : Inked ink)
    (done : List Replacement)
    (whole : List α) :
    (∃ step ∈ done, step.placeholder = units whole ∧
        units (written ink done whole) = step.value) ∨
      (∀ step ∈ done, step.placeholder ≠ units whole) ∧
        written ink done whole = whole := by
  unfold written
  cases found : done.find? fun step => step.placeholder = units whole with
  | none =>
      refine .inr ⟨?_, rfl⟩
      simpa using List.find?_eq_none.mp found
  | some step =>
      refine .inl ⟨step, List.mem_of_find?_eq_some found,
        by simpa using List.find?_some found, ?_⟩
      unfold units
      rw [List.map_map]
      exact (List.map_congr_left fun code _ => inked step code).trans
        (List.map_id _)

end Written

/-! ## One replacement after others -/

section Render

variable {α : Type} [Ink α] {ink : Replacement → UInt16 → α}
  {steps done more : List Replacement} {step : Replacement}
  {cut : List (Piece α)}

/-- A text that is cut, with some of its placeholders replaced. -/
def render (ink : Replacement → UInt16 → α) (done : List Replacement)
    (cut : List (Piece α)) : List α :=
  cut.flatMap (Piece.write (written ink done))

/-- A text has the placeholder of a replacement. -/
def Holds (cut : List (Piece α)) (step : Replacement) : Prop :=
  ∃ whole, Piece.found whole ∈ cut ∧ step.placeholder = units whole

/-- A replacement can be made after others: none of the values that have been
written meets its placeholder. -/
structure Next (steps done : List Replacement) (cut : List (Piece α))
    (step : Replacement) : Prop where
  isStep : step ∈ steps
  areSteps : ∀ other ∈ done, other ∈ steps
  isNew : step ∉ done
  clean : ∀ other ∈ done, Holds cut other → ¬Meets other.value step.placeholder

theorem Next.of_cons
    {piece : Piece α}
    (next : Next steps done (piece :: cut) step) :
    Next steps done cut step :=
  { next with
    clean := fun other isDone holds => by
      obtain ⟨whole, found, same⟩ := holds
      exact next.clean other isDone ⟨whole, List.mem_cons_of_mem _ found, same⟩ }

/-- No replacement that is done has the placeholder of the next one. -/
theorem Next.placeholder_ne
    (apart : Apart steps)
    (next : Next steps done cut step)
    {other : Replacement}
    (isDone : other ∈ done) :
    other.placeholder ≠ step.placeholder := by
  intro same
  have isStep := next.areSteps other isDone
  rcases apart.same_or_apart isStep next.isStep with rfl | differ
  · exact next.isNew isDone
  · rw [same] at differ
    exact differ (meets_self (apart.placeholders step next.isStep))

/-- What stands for a placeholder that is found meets the next placeholder only
if it is that. -/
theorem Next.not_meets
    (apart : Apart steps)
    (inked : Inked ink)
    {whole : List α}
    {rest : List (Piece α)}
    (next : Next steps done (.found whole :: rest) step)
    (legit : Legit (Pattern.anyOf steps) (.found whole :: rest))
    (differs : step.placeholder ≠ units whole) :
    ¬Meets (units (written ink done whole)) step.placeholder := by
  obtain ⟨other, isStep, starts, isLength⟩ := anyOf_eq_some legit.2.1
  have isOther : other.placeholder = units whole := by
    refine List.IsPrefix.eq_of_length
      (List.prefix_of_prefix_length_le starts (List.prefix_append _ _) ?_) ?_
    · rw [← isLength, units, List.length_map]
    · rw [← isLength, units, List.length_map]
  rcases units_written inked done whole with
    ⟨earlier, isDone, same, isValue⟩ | ⟨-, isKept⟩
  · rw [isValue]
    exact next.clean earlier isDone ⟨whole, List.mem_cons_self, same⟩
  · rw [isKept, ← isOther]
    rcases apart.same_or_apart isStep next.isStep with rfl | apartThen
    · exact absurd isOther differs
    · exact apartThen

/-- The rest of a placeholder is found in the text, if it is found once others
are replaced. -/
theorem Next.reach
    (apart : Apart steps)
    (inked : Inked ink)
    (next : Next steps done cut step)
    (legit : Legit (Pattern.anyOf steps) cut)
    {tail : JsString}
    (isTail : tail <:+ step.placeholder.tail)
    (starts : tail <+: units (render ink done cut)) :
    tail <+: units (cut.flatMap Piece.cover) := by
  induction cut generalizing tail with
  | nil => exact starts
  | cons piece rest inductionHypothesis =>
      cases tail with
      | nil => exact List.nil_prefix
      | cons code tail =>
          cases piece with
          | kept char =>
              obtain ⟨isCode, startsRest⟩ := List.cons_prefix_cons.mp starts
              rw [isCode]
              exact List.cons_prefix_cons.mpr ⟨rfl, inductionHypothesis
                next.of_cons legit.2
                ((List.suffix_cons code tail).trans isTail) startsRest⟩
          | found whole =>
              exfalso
              rw [render, List.flatMap_cons, units_append] at starts
              by_cases same : step.placeholder = units whole
              · have notDone : ∀ other ∈ done,
                    other.placeholder ≠ units whole :=
                  fun other isDone => same ▸ next.placeholder_ne apart isDone
                rw [Piece.write, written_of_notMem notDone, ← same] at starts
                exact apart.once step next.isStep
                  (startsIn_of_tail isTail (List.cons_ne_nil _ _) starts)
              · exact next.not_meets apart inked legit same
                  (.inl (startsIn_of_tail (isTail.trans (List.tail_suffix _))
                    (List.cons_ne_nil _ _) starts))

/-- A piece as the next replacement sees it. -/
def recut (ink : Replacement → UInt16 → α) (done : List Replacement)
    (step : Replacement) : Piece α → List (Piece α)
  | .kept char => [.kept char]
  | .found whole =>
      if step.placeholder = units whole then [.found whole]
      else (written ink done whole).map Piece.kept

theorem Next.cover_recut
    (apart : Apart steps)
    (next : Next steps done cut step) :
    (cut.flatMap (recut ink done step)).flatMap Piece.cover =
      render ink done cut := by
  rw [List.flatMap_assoc]
  refine List.flatMap_congr fun piece _ => ?_
  cases piece with
  | kept char => rfl
  | found whole =>
      by_cases same : step.placeholder = units whole
      · rw [recut, if_pos same, Piece.write, written_of_notMem
          fun other isDone => same ▸ next.placeholder_ne apart isDone]
        exact List.append_nil whole
      · rw [recut, if_neg same, ← List.append_nil (List.map _ _),
          cover_kept_append]
        exact List.append_nil _

theorem Next.write_recut
    (apart : Apart steps)
    (next : Next steps done cut step) :
    (cut.flatMap (recut ink done step)).flatMap
        (Piece.write fun _ => step.value.map (ink step)) =
      render ink (done ++ [step]) cut := by
  rw [List.flatMap_assoc]
  refine List.flatMap_congr fun piece _ => ?_
  cases piece with
  | kept char => rfl
  | found whole =>
      by_cases same : step.placeholder = units whole
      · rw [recut, if_pos same, Piece.write, written_concat_self
          (fun other isDone => same ▸ next.placeholder_ne apart isDone) same]
        exact List.append_nil _
      · rw [recut, if_neg same, Piece.write, written_concat same,
          List.flatMap_map]
        exact List.flatMap_singleton' _

/-- The next replacement finds its placeholders of the text, and nothing else. -/
theorem Next.legit_recut
    (apart : Apart steps)
    (inked : Inked ink)
    (next : Next steps done cut step)
    (legit : Legit (Pattern.anyOf steps) cut) :
    Legit (Pattern.word step.placeholder)
      (cut.flatMap (recut ink done step)) := by
  induction cut with
  | nil => trivial
  | cons piece rest inductionHypothesis =>
      have legitRest : Legit (Pattern.anyOf steps) rest := by
        cases piece with
        | kept char => exact legit.2
        | found whole => exact legit.2.2
      have legitThen := inductionHypothesis next.of_cons legitRest
      rw [List.flatMap_cons]
      cases piece with
      | kept char =>
          refine ⟨?_, legitThen⟩
          change Pattern.word _ (_ :: units ((rest.flatMap _).flatMap _)) = none
          rw [next.of_cons.cover_recut apart, Pattern.word_eq_none_iff]
          intro starts
          have absent := anyOf_eq_none_iff.mp legit.1 step next.isStep
          obtain ⟨first, tail, isWord⟩ := List.exists_cons_of_ne_nil
            (apart.placeholders step next.isStep)
          rw [isWord] at starts absent
          obtain ⟨rfl, startsRest⟩ := List.cons_prefix_cons.mp starts
          refine absent (List.cons_prefix_cons.mpr ⟨rfl, ?_⟩)
          refine next.of_cons.reach apart inked legitRest ?_ startsRest
          rw [isWord]
          exact List.suffix_rfl
      | found whole =>
          by_cases same : step.placeholder = units whole
          · rw [recut, if_pos same]
            refine ⟨legit.1, ?_, legitThen⟩
            rw [← same, Pattern.word_of_begins (List.prefix_append _ _), same,
              units, List.length_map]
          · rw [recut, if_neg same]
            refine legit_kept_append (fun tail isTail notEmpty => ?_) legitThen
            rw [Pattern.word_eq_none_iff]
            intro starts
            refine next.not_meets apart inked legit same (.inr ?_)
            exact startsIn_of_begins (isTail.map unit)
              (fun isEmpty => notEmpty (List.map_eq_nil_iff.mp isEmpty)) starts

/-- The next replacement replaces its placeholders of the text, and nothing
else. -/
theorem Next.apply_render
    (apart : Apart steps)
    (inked : Inked ink)
    (next : Next steps done cut step)
    (legit : Legit (Pattern.anyOf steps) cut) :
    step.apply ink (render ink done cut) = render ink (done ++ [step]) cut := by
  rw [Replacement.apply, replaceAll, ← next.cover_recut apart,
    pieces_of_legit (next.legit_recut apart inked legit),
    next.write_recut apart]

/-- Replacements that are clean replace the placeholders of the text. -/
theorem chain_render
    (apart : Apart steps)
    (inked : Inked ink)
    (legit : Legit (Pattern.anyOf steps) cut)
    (areSteps : (done ++ more).Sublist steps)
    (clean : (done ++ more).Pairwise fun earlier later =>
      Holds cut earlier → ¬Meets earlier.value later.placeholder) :
    chain ink more (render ink done cut) = render ink (done ++ more) cut := by
  induction more generalizing done with
  | nil => rw [List.append_nil, chain, List.foldl_nil]
  | cons step more inductionHypothesis =>
      have together : done ++ step :: more = done ++ [step] ++ more := by
        rw [List.append_assoc, List.singleton_append]
      have nodup : (done ++ step :: more).Nodup := by
        refine List.Pairwise.imp_of_mem ?_ (apart.differ.sublist areSteps)
        rintro left right isLeft - differ rfl
        exact differ (meets_self
          (apart.placeholders left (areSteps.subset isLeft)))
      have next : Next steps done cut step := by
        refine ⟨areSteps.subset (by simp), fun other isDone =>
          areSteps.subset (List.mem_append_left _ isDone), ?_, ?_⟩
        · exact fun isDone => (List.nodup_append.mp nodup).2.2 step isDone step
            List.mem_cons_self rfl
        · exact fun other isDone => (List.pairwise_append.mp clean).2.2 other
            isDone step List.mem_cons_self
      have rest := @inductionHypothesis (done ++ [step]) (together ▸ areSteps)
        (together ▸ clean)
      rw [together, ← rest, ← next.apply_render apart inked legit]
      rfl

end Render

/-- Nothing has been replaced. -/
theorem render_nil
    {α : Type}
    [Ink α]
    (ink : Replacement → UInt16 → α)
    (cut : List (Piece α)) :
    render ink [] cut = cut.flatMap Piece.cover := by
  refine List.flatMap_congr fun piece _ => ?_
  cases piece with
  | kept char => rfl
  | found whole => rfl

/-- Where no value meets a placeholder that is replaced later, replacing one
after the other replaces all at once. -/
theorem chain_eq_atOnce
    {α : Type}
    [Ink α]
    {ink : Replacement → UInt16 → α}
    {steps : List Replacement}
    (apart : Apart steps)
    (inked : Inked ink)
    (clean : steps.Pairwise fun earlier later =>
      ¬Meets earlier.value later.placeholder)
    (text : List α) :
    chain ink steps text = atOnce ink steps text := by
  have cleanHere : ([] ++ steps).Pairwise fun earlier later =>
      Holds (pieces (.anyOf steps) text) earlier →
        ¬Meets earlier.value later.placeholder := by
    rw [List.nil_append]
    refine clean.imp ?_
    exact fun differ _ => differ
  have all := @chain_render _ _ ink steps [] steps _ apart inked
    (legit_piecesFrom apart.sound 0 text) (List.Sublist.refl steps) cleanHere
  rw [render_nil, flatMap_cover_piecesFrom apart.sound] at all
  exact all

/-! ## A value that meets a placeholder -/

/-- A context in which a value has a word that it shares characters with. -/
theorem exists_context
    {value word : JsString}
    (meets : Meets value word)
    (valueNotEmpty : value ≠ [])
    (wordNotEmpty : word ≠ []) :
    ∃ before after left right,
      before ++ value ++ after = left ++ word ++ right ∧
        (before <+: word ∧ before.length < word.length) ∧
        (after <:+ word ∧ after.length < word.length) ∧
        left.length < before.length + value.length ∧
        before.length < left.length + word.length := by
  have valuePositive := List.length_pos_iff.mpr valueNotEmpty
  have wordPositive := List.length_pos_iff.mpr wordNotEmpty
  rcases meets with ⟨tail, isTail, notEmpty, compared⟩ |
    ⟨tail, isTail, notEmpty, compared⟩
  · -- The value starts in the word.
    obtain ⟨before, rfl⟩ := (List.mem_tails _ _).mp isTail
    have tailPositive := List.length_pos_iff.mpr notEmpty
    refine ⟨before, tail.drop value.length, [], value.drop tail.length, ?_,
      ⟨List.prefix_append _ _, ?_⟩, ⟨?_, ?_⟩, ?_, ?_⟩
    · rcases compared with ⟨rest, rfl⟩ | ⟨rest, rfl⟩
      · simp
      · simp
    · rw [List.length_append]
      omega
    · exact (List.drop_suffix _ _).trans (List.suffix_append _ _)
    · rw [List.length_drop, List.length_append]
      omega
    · rw [List.length_nil]
      omega
    · rw [List.length_append]
      omega
  · -- The word starts in the value.
    obtain ⟨left, rfl⟩ := (List.mem_tails _ _).mp isTail
    have tailPositive := List.length_pos_iff.mpr notEmpty
    refine ⟨[], word.drop tail.length, left, tail.drop word.length, ?_,
      ⟨List.nil_prefix, wordPositive⟩, ⟨List.drop_suffix _ _, ?_⟩, ?_, ?_⟩
    · rcases compared with ⟨rest, rfl⟩ | ⟨rest, rfl⟩
      · simp
      · simp
    · rw [List.length_drop]
      omega
    · rw [List.length_append]
      omega
    · rw [List.length_nil]
      omega

section Context

variable {steps : List Replacement} {step later : Replacement}
  {before after : JsString}

/-- A text with one placeholder, between parts of another. -/
def lone (before : JsString) (step : Replacement) (after : JsString) :
    List (Piece Traced) :=
  (given before).map Piece.kept ++
    .found (given step.placeholder) :: (given after).map Piece.kept

theorem cover_lone :
    (lone before step after).flatMap Piece.cover =
      given (before ++ step.placeholder ++ after) := by
  rw [lone, cover_kept_append, List.flatMap_cons,
    ← List.append_nil ((given after).map Piece.kept), cover_kept_append]
  simp [given, Piece.cover]

/-- A text that is given, and kept, before other pieces. -/
theorem legit_given_append
    {pattern : Pattern}
    {text : JsString}
    {blocks : List (Piece Traced)}
    (unmatched : ∀ tail, tail <:+ text → tail ≠ [] →
      pattern (tail ++ units (blocks.flatMap Piece.cover)) = none)
    (legit : Legit pattern blocks) :
    Legit pattern ((given text).map Piece.kept ++ blocks) := by
  refine legit_kept_append (fun tail isTail notEmpty => ?_) legit
  have isTailOf : units tail <:+ units (given text) := isTail.map unit
  rw [units_given] at isTailOf
  exact unmatched _ isTailOf fun isEmpty =>
    notEmpty (List.map_eq_nil_iff.mp isEmpty)

/-- A part of a placeholder has no placeholder at its front. -/
theorem not_prefix_of_part
    (apart : Apart steps)
    (isLater : later ∈ steps)
    {other : Replacement}
    (isOther : other ∈ steps)
    {part whole : JsString}
    (isPart : part <+: whole)
    (isTail : whole <:+ later.placeholder)
    (shorter : part.length < later.placeholder.length)
    (notEmpty : part ≠ []) :
    ¬other.placeholder <+: part := by
  intro starts
  rcases apart.same_or_apart isOther isLater with rfl | differ
  · exact absurd starts.length_le (Nat.not_le.mpr shorter)
  · refine differ (.inl ⟨whole, (List.mem_tails _ _).mpr isTail, ?_,
      .inr (starts.trans isPart)⟩)
    rintro rfl
    exact notEmpty (List.prefix_nil.mp isPart)

/-- Nor is there one that goes on into another placeholder. -/
theorem not_prefix_of_overlap
    (apart : Apart steps)
    (isStep : step ∈ steps)
    {other : Replacement}
    (isOther : other ∈ steps)
    {part rest : JsString}
    (notEmpty : part ≠ [])
    (longer : ¬other.placeholder <+: part) :
    ¬other.placeholder <+: part ++ (step.placeholder ++ rest) := by
  intro starts
  have isPart : part <+: other.placeholder :=
    (List.prefix_or_prefix_of_prefix (List.prefix_append _ _)
      starts).resolve_right longer
  obtain ⟨tail, isWord⟩ := isPart
  rw [← isWord, List.prefix_append_right_inj] at starts
  have tailNotEmpty : tail ≠ [] := by
    rintro rfl
    rw [List.append_nil] at isWord
    exact longer (isWord ▸ List.prefix_rfl)
  have isTail : tail <:+ other.placeholder.tail := by
    obtain ⟨code, more, rfl⟩ := List.exists_cons_of_ne_nil notEmpty
    rw [← isWord]
    exact List.suffix_append more tail
  rcases apart.same_or_apart isOther isStep with rfl | differ
  · exact apart.once other isOther
      (startsIn_of_tail isTail tailNotEmpty starts)
  · exact differ (.inr (startsIn_of_tail (isTail.trans (List.tail_suffix _))
      tailNotEmpty starts))

/-- The text has no other placeholder than the one. -/
theorem legit_lone
    (apart : Apart steps)
    (isStep : step ∈ steps)
    (isLater : later ∈ steps)
    (isBefore : before <+: later.placeholder ∧
      before.length < later.placeholder.length)
    (isAfter : after <:+ later.placeholder ∧
      after.length < later.placeholder.length) :
    Legit (Pattern.anyOf steps) (lone before step after) := by
  have legitAfter : Legit (Pattern.anyOf steps)
      ((given after).map Piece.kept) := by
    rw [← List.append_nil ((given after).map Piece.kept)]
    refine legit_given_append (fun tail isTail notEmpty => ?_) trivial
    rw [anyOf_eq_none_iff, List.flatMap_nil, units_nil, List.append_nil]
    exact fun other isOther => not_prefix_of_part apart isLater isOther
      List.prefix_rfl (isTail.trans isAfter.1)
      (isTail.length_le.trans_lt isAfter.2) notEmpty
  have coverAfter : ((given after).map Piece.kept).flatMap Piece.cover =
      given after := by
    rw [← List.append_nil ((given after).map Piece.kept), cover_kept_append]
    exact List.append_nil _
  refine legit_given_append (fun tail isTail notEmpty => ?_)
    ⟨?_, ?_, legitAfter⟩
  · rw [anyOf_eq_none_iff, List.flatMap_cons, coverAfter, Piece.cover,
      units_append, units_given, units_given]
    intro other isOther
    refine not_prefix_of_overlap apart isStep isOther notEmpty ?_
    obtain ⟨rest, isWord⟩ := isBefore.1
    refine not_prefix_of_part apart isLater isOther (List.prefix_append _ rest)
      ?_ (isTail.length_le.trans_lt isBefore.2) notEmpty
    rw [← isWord]
    obtain ⟨front, rfl⟩ := isTail
    rw [List.append_assoc]
    exact List.suffix_append _ _
  · intro isEmpty
    refine apart.placeholders step isStep ?_
    rw [← units_given step.placeholder, isEmpty, units_nil]
  · rw [coverAfter, units_given, units_given]
    have starts := List.prefix_append step.placeholder after
    cases matched : Pattern.anyOf steps (step.placeholder ++ after) with
    | none => exact absurd starts (anyOf_eq_none_iff.mp matched step isStep)
    | some length =>
        obtain ⟨other, isOther, startsToo, rfl⟩ := anyOf_eq_some matched
        rcases apart.same_or_apart isOther isStep with rfl | differ
        · simp [given]
        · exact absurd (.inl (startsIn_of_begins List.suffix_rfl
            (apart.placeholders step isStep) startsToo)) differ

end Context

/-! ## Counting what a replacement has written -/

section Count

variable {word mine : JsString} {step : Replacement} {text : List Traced}

/-- A character that was written for a placeholder. -/
def writtenFor (placeholder : JsString) (char : Traced) : Bool :=
  char.mark = some placeholder

/-- A word that cannot overlap itself ends before its next occurrence. -/
theorem length_le_of_next
    (once : ¬StartsIn word word.tail)
    {front rest : JsString}
    (notEmpty : front ≠ [])
    (starts : word <+: front ++ (word ++ rest)) :
    word.length ≤ front.length := by
  by_contra longer
  have inWord : front <+: word := by
    refine List.prefix_of_prefix_length_le (List.prefix_append _ _) starts ?_
    omega
  obtain ⟨tail, isWord⟩ := inWord
  have startsAgain : tail <+: word ++ rest := by
    nth_rewrite 1 [← isWord] at starts
    exact (List.prefix_append_right_inj front).mp starts
  refine once (startsIn_of_tail ?_ ?_ startsAgain)
  · obtain ⟨code, more, rfl⟩ := List.exists_cons_of_ne_nil notEmpty
    rw [← isWord]
    exact List.suffix_append more tail
  · rintro rfl
    rw [List.append_nil] at isWord
    exact longer (isWord ▸ Nat.le_refl _)

/-- A word that cannot overlap itself is found wherever it stands. -/
theorem found_of_occurs
    (once : ¬StartsIn word word.tail)
    {whole : List Traced}
    (notEmpty : whole ≠ [])
    (isWord : units whole = word)
    {left right : List Traced}
    {skipped : Nat}
    (before : skipped ≤ left.length) :
    .found whole ∈
      piecesFrom (Pattern.word word) skipped (left ++ (whole ++ right)) := by
  induction left generalizing skipped with
  | nil =>
      obtain rfl := Nat.le_zero.mp before
      obtain ⟨char, more, rfl⟩ := List.exists_cons_of_ne_nil notEmpty
      have matched : Pattern.word word (units (char :: more ++ right)) =
          some (char :: more).length := by
        rw [units_append, isWord, Pattern.word_of_begins
          (List.prefix_append _ _), ← isWord, units, List.length_map]
      rw [List.nil_append, List.cons_append, piecesFrom, ← List.cons_append,
        matched]
      simp only
      rw [List.take_left]
      exact List.mem_cons_self
  | cons char left inductionHypothesis =>
      cases skipped with
      | succ skipped =>
          exact inductionHypothesis (Nat.le_of_succ_le_succ before)
      | zero =>
          rw [List.cons_append, piecesFrom]
          cases matched : Pattern.word word
              (units (char :: (left ++ (whole ++ right)))) with
          | none =>
              exact List.mem_cons_of_mem _
                (inductionHypothesis (Nat.zero_le _))
          | some length =>
              refine List.mem_cons_of_mem _ (inductionHypothesis ?_)
              have starts : word <+: units (char :: (left ++ (whole ++ right)))
                ∧ word.length = length := by
                unfold Pattern.word at matched
                split at matched
                · rename_i isPrefix
                  exact ⟨List.isPrefixOf_iff_prefix.mp isPrefix,
                    Option.some.inj matched⟩
                · cases matched
              rw [← List.cons_append, units_append, units_append, isWord]
                at starts
              have fits := length_le_of_next once (List.cons_ne_nil _ _)
                starts.1
              rw [starts.2, List.length_cons, List.length_map] at fits
              omega

theorem writtenFor_traced
    (differs : step.placeholder ≠ mine)
    (code : UInt16) :
    writtenFor mine (traced step code) = false := by
  simpa [writtenFor, traced] using differs

theorem countP_value (differs : step.placeholder ≠ mine) :
    (step.value.map (traced step)).countP (writtenFor mine) = 0 := by
  rw [List.countP_eq_zero]
  intro char present
  obtain ⟨code, -, rfl⟩ := List.mem_map.mp present
  rw [writtenFor_traced differs]
  exact Bool.false_ne_true

/-- What is written for one placeholder is only taken away for another. -/
theorem countP_write_le
    (differs : step.placeholder ≠ mine)
    (piece : Piece Traced) :
    (piece.write fun _ => step.value.map (traced step)).countP
        (writtenFor mine) ≤
      piece.cover.countP (writtenFor mine) := by
  cases piece with
  | kept char => exact Nat.le_refl _
  | found whole =>
      rw [Piece.write, countP_value differs]
      exact Nat.zero_le _

theorem countP_apply_le
    (notEmpty : step.placeholder ≠ [])
    (differs : step.placeholder ≠ mine) :
    (step.apply traced text).countP (writtenFor mine) ≤
      text.countP (writtenFor mine) := by
  conv_rhs => rw [← flatMap_cover (Pattern.word_sound notEmpty) text]
  rw [Replacement.apply, replaceAll, List.countP_flatMap, List.countP_flatMap]
  exact List.sum_le_sum fun piece _ => countP_write_le differs piece

/-- It is taken away where it is part of the other placeholder. -/
theorem countP_apply_lt
    (once : ¬StartsIn step.placeholder step.placeholder.tail)
    (differs : step.placeholder ≠ mine)
    {left whole right : List Traced}
    (isWord : units whole = step.placeholder)
    (touched : ∃ char ∈ whole, writtenFor mine char = true) :
    (step.apply traced (left ++ (whole ++ right))).countP (writtenFor mine) <
      (left ++ (whole ++ right)).countP (writtenFor mine) := by
  obtain ⟨char, present, isMine⟩ := touched
  have wholeNotEmpty := List.ne_nil_of_mem present
  have notEmpty : step.placeholder ≠ [] := by
    rw [← isWord]
    exact fun isEmpty => wholeNotEmpty (List.map_eq_nil_iff.mp isEmpty)
  have found := @found_of_occurs _ once _ wholeNotEmpty isWord left right 0
    (Nat.zero_le _)
  conv_rhs => rw [← flatMap_cover (Pattern.word_sound notEmpty)
    (left ++ (whole ++ right))]
  rw [Replacement.apply, replaceAll, List.countP_flatMap, List.countP_flatMap]
  refine List.sum_lt_sum _ _ (fun piece _ => countP_write_le differs piece)
    ⟨_, found, ?_⟩
  simp only [Function.comp, Piece.write, Piece.cover, countP_value differs]
  exact List.countP_pos_iff.mpr ⟨char, present, isMine⟩

/-- Later replacements never bring it back. -/
theorem countP_chain_le
    {steps : List Replacement}
    (notEmpty : ∀ step ∈ steps, step.placeholder ≠ [])
    (differ : ∀ step ∈ steps, step.placeholder ≠ mine) :
    (chain traced steps text).countP (writtenFor mine) ≤
      text.countP (writtenFor mine) := by
  induction steps generalizing text with
  | nil => exact Nat.le_refl _
  | cons step steps inductionHypothesis =>
      rw [List.forall_mem_cons] at notEmpty differ
      exact (inductionHypothesis notEmpty.2 differ.2).trans
        (countP_apply_le notEmpty.1 differ.1)

end Count

/-! ## Replacing one after the other and all at once -/

/-- One after the other, the replacements do to every text what they do at once,
and each character has the same origin. -/
def Renames (steps : List Replacement) : Prop :=
  ∀ text, chain traced steps (given text) = atOnce traced steps (given text)

section Collision

variable {steps before mid after : List Replacement}
  {step later : Replacement}

theorem Apart.nodup (apart : Apart steps) : steps.Nodup := by
  refine List.Pairwise.imp_of_mem ?_ apart.differ
  rintro left right isLeft - differ rfl
  exact differ (meets_self (apart.placeholders left isLeft))

/-- A placeholder belongs to one replacement. -/
theorem Apart.eq_of_placeholder
    (apart : Apart steps)
    {left right : Replacement}
    (isLeft : left ∈ steps)
    (isRight : right ∈ steps)
    (same : left.placeholder = right.placeholder) :
    left = right := by
  rcases apart.same_or_apart isLeft isRight with equal | differ
  · exact equal
  · rw [same] at differ
    exact absurd (meets_self (apart.placeholders right isRight)) differ

/-- The value of a replacement is written for its placeholder. -/
theorem written_of_mem
    (apart : Apart steps)
    {done : List Replacement}
    (areSteps : ∀ other ∈ done, other ∈ steps)
    (isDone : step ∈ done) :
    written traced done (given step.placeholder) =
      step.value.map (traced step) := by
  unfold written
  cases found : done.find? fun other =>
      other.placeholder = units (given step.placeholder) with
  | none =>
      have absent := List.find?_eq_none.mp found step isDone
      simp at absent
  | some other =>
      have isOther := List.find?_some found
      rw [decide_eq_true_eq, units_given] at isOther
      rw [apart.eq_of_placeholder
        (areSteps other (List.mem_of_find?_eq_some found))
        (areSteps step isDone) isOther]

/-- Once its placeholder is replaced, a text with one placeholder has its
value. -/
theorem render_lone
    (apart : Apart steps)
    {done : List Replacement}
    (areSteps : ∀ other ∈ done, other ∈ steps)
    (isDone : step ∈ done)
    (front back : JsString) :
    render traced done (lone front step back) =
      given front ++ (step.value.map (traced step) ++ given back) := by
  have kept : ∀ text : JsString, ((given text).map Piece.kept).flatMap
      (Piece.write (written traced done)) = given text := fun text => by
    rw [List.flatMap_map]
    exact List.flatMap_singleton' _
  rw [render, lone, List.flatMap_append, List.flatMap_cons, kept, kept,
    Piece.write, written_of_mem apart areSteps isDone]

/-- Only the replacement of its placeholder is held by such a text. -/
theorem holds_lone
    (apart : Apart steps)
    (isStep : step ∈ steps)
    {front back : JsString}
    {other : Replacement}
    (isOther : other ∈ steps)
    (holds : Holds (lone front step back) other) :
    other = step := by
  obtain ⟨whole, found, isWhole⟩ := holds
  refine apart.eq_of_placeholder isOther isStep ?_
  rcases List.mem_append.mp found with inFront | inBack
  · obtain ⟨char, -, never⟩ := List.mem_map.mp inFront
    cases never
  · rcases List.mem_cons.mp inBack with isFound | inBack
    · rw [isWhole, Piece.found.inj isFound, units_given]
    · obtain ⟨char, -, never⟩ := List.mem_map.mp inBack
      cases never

/-- An occurrence that shares characters with what a replacement has written. -/
theorem exists_touched
    {front back left word right : JsString}
    (sameText : front ++ step.value ++ back = left ++ word ++ right)
    (notEmpty : step.value ≠ [])
    (low : left.length < front.length + step.value.length)
    (high : front.length < left.length + word.length)
    (wordNotEmpty : word ≠ []) :
    ∃ leftPart whole rightPart,
      given front ++ (step.value.map (traced step) ++ given back) =
          leftPart ++ (whole ++ rightPart) ∧
        units whole = word ∧
        ∃ char ∈ whole, writtenFor step.placeholder char = true := by
  have valuePositive := List.length_pos_iff.mpr notEmpty
  have wordPositive := List.length_pos_iff.mpr wordNotEmpty
  generalize isText :
    given front ++ (step.value.map (traced step) ++ given back) = text
  have isUnits : units text = left ++ (word ++ right) := by
    have isValue : units (step.value.map (traced step)) = step.value := by
      unfold units
      rw [List.map_map]
      exact List.map_id _
    rw [← isText, units_append, units_append, units_given, units_given, isValue,
      ← List.append_assoc, sameText, List.append_assoc]
  refine ⟨text.take left.length, (text.drop left.length).take word.length,
    (text.drop left.length).drop word.length, ?_, ?_, ?_⟩
  · rw [List.take_append_drop, List.take_append_drop]
  · have isPart : units ((text.drop left.length).take word.length) =
        ((units text).drop left.length).take word.length := by
      unfold units
      rw [List.map_take, List.map_drop]
    rw [isPart, isUnits, List.drop_left, List.take_left]
  · -- The first character that both have.
    obtain ⟨place, isPlace⟩ : ∃ place, place = max left.length front.length :=
      ⟨_, rfl⟩
    have inside : place - front.length < step.value.length := by omega
    have atPlace : text[place]? =
        some (traced step (step.value[place - front.length])) := by
      have before : (given front).length ≤ place := by
        rw [given, List.length_map]
        omega
      have within : place - (given front).length <
          (step.value.map (traced step)).length := by
        rw [given, List.length_map, List.length_map]
        exact inside
      rw [← isText, List.getElem?_append_right before,
        List.getElem?_append_left within, given, List.length_map,
        List.getElem?_map, List.getElem?_eq_getElem inside]
      rfl
    refine ⟨traced step (step.value[place - front.length]), ?_, ?_⟩
    · refine List.mem_of_getElem? (i := place - left.length) ?_
      rw [List.getElem?_take, if_pos (by omega), List.getElem?_drop, ← atPlace]
      congr 1
      omega
    · exact decide_eq_true rfl

/-- The first placeholder that a value meets makes a text that shows it. -/
theorem not_meets_of_renames
    (apart : Apart (before ++ step :: (mid ++ later :: after)))
    (renames : Renames (before ++ step :: (mid ++ later :: after)))
    (first : ∀ other ∈ mid, ¬Meets step.value other.placeholder) :
    ¬Meets step.value later.placeholder := by
  intro meets
  have isSteps : before ++ step :: (mid ++ later :: after) =
      (before ++ step :: mid) ++ later :: after := by simp
  have alone := (List.nodup_middle.mp apart.nodup).notMem
  rw [isSteps] at apart renames
  have isStep : step ∈ (before ++ step :: mid) ++ later :: after := by simp
  have isLater : later ∈ (before ++ step :: mid) ++ later :: after := by simp
  have notEmpty := apart.values step isStep
  obtain ⟨front, back, left, right, sameText, isFront, isBack, low, high⟩ :=
    exists_context meets notEmpty (apart.placeholders later isLater)
  have legit := legit_lone apart isStep isLater isFront isBack
  have areSteps : ∀ other ∈ before ++ step :: mid,
      other ∈ (before ++ step :: mid) ++ later :: after :=
    fun other present => List.mem_append_left _ present
  -- Up to the first placeholder that the value meets, only it is replaced.
  have ranDone : chain traced (before ++ step :: mid)
      (given (front ++ step.placeholder ++ back)) =
        given front ++ (step.value.map (traced step) ++ given back) := by
    have clean : ([] ++ (before ++ step :: mid)).Pairwise fun earlier other =>
        Holds (lone front step back) earlier →
          ¬Meets earlier.value other.placeholder := by
      have only : ∀ earlier ∈ before ++ mid, ∀ other : Replacement,
          Holds (lone front step back) earlier →
            ¬Meets earlier.value other.placeholder := by
        intro earlier present other holds
        have isEarlier : earlier ∈ (before ++ step :: mid) ++ later :: after := by
          rcases List.mem_append.mp present with present | present
          · simp [present]
          · simp [present]
        obtain rfl := holds_lone apart isStep isEarlier holds
        refine absurd ?_ alone
        rw [← List.append_assoc]
        exact List.mem_append_left _ present
      rw [List.forall_mem_append] at only
      rw [List.nil_append]
      refine List.pairwise_append.mpr ⟨?_, List.pairwise_cons.mpr ⟨?_, ?_⟩, ?_⟩
      · exact List.pairwise_of_forall_mem_list fun earlier present other _ =>
          only.1 earlier present other
      · exact fun other present _ => first other present
      · exact List.pairwise_of_forall_mem_list fun earlier present other _ =>
          only.2 earlier present other
      · exact fun earlier present other _ => only.1 earlier present other
    have ran := @chain_render _ _ traced _ [] _ _ apart inked_traced legit
      (List.sublist_append_left _ _) clean
    rw [render_nil, cover_lone] at ran
    exact ran.trans (render_lone apart areSteps (by simp) front back)
  have ranAll := renames (front ++ step.placeholder ++ back)
  have atOnceIs : atOnce traced ((before ++ step :: mid) ++ later :: after)
      (given (front ++ step.placeholder ++ back)) =
        given front ++ (step.value.map (traced step) ++ given back) := by
    rw [atOnce, replaceAll, ← cover_lone, pieces_of_legit legit]
    exact render_lone apart (fun other present => present) isStep front back
  rw [atOnceIs, chain, List.foldl_append, List.foldl_cons] at ranAll
  change chain traced after (later.apply traced (chain traced _ _)) = _ at ranAll
  rw [ranDone] at ranAll
  obtain ⟨leftPart, whole, rightPart, isText, isWord, touched⟩ :=
    exists_touched sameText notEmpty low high
      (apart.placeholders later isLater)
  have others : ∀ other ∈ later :: after,
      other.placeholder ≠ step.placeholder := by
    intro other present same
    obtain rfl := apart.eq_of_placeholder
      (List.mem_append_right _ present) isStep same
    exact alone (by simp [present])
  have fewer := @countP_apply_lt step.placeholder later
    (apart.once later isLater) (others later List.mem_cons_self) leftPart whole
    rightPart isWord touched
  have noMore := @countP_chain_le step.placeholder (later.apply traced
    (leftPart ++ (whole ++ rightPart))) after
    (fun other present => apart.placeholders other (by simp [present]))
    (fun other present => others other (List.mem_cons_of_mem _ present))
  rw [isText] at ranAll
  rw [ranAll] at noMore
  exact absurd noMore (Nat.not_le.mpr fewer)

end Collision

/-- A relation holds pairwise, if it holds of each element and the first later
one of which it could fail. -/
theorem pairwise_of_first
    {α : Type}
    {relation : α → α → Prop}
    {items : List α}
    (ofFirst : ∀ before item mid later after,
      items = before ++ item :: (mid ++ later :: after) →
        (∀ other ∈ mid, relation item other) → relation item later) :
    items.Pairwise relation := by
  induction items with
  | nil => exact .nil
  | cons item items inductionHypothesis =>
      refine List.pairwise_cons.mpr ⟨?_, inductionHypothesis ?_⟩
      · have holds : ∀ mid rest, items = mid ++ rest →
            (∀ other ∈ mid, relation item other) →
            ∀ later ∈ rest, relation item later := by
          intro mid rest
          induction rest generalizing mid with
          | nil => simp
          | cons later rest holdsRest =>
              intro isItems soFar
              have holdsLater := ofFirst [] item mid later rest
                (congrArg _ isItems) soFar
              rw [List.forall_mem_cons]
              refine ⟨holdsLater, holdsRest (mid ++ [later]) ?_ ?_⟩
              · rw [isItems, List.append_assoc, List.singleton_append]
              · rw [List.forall_mem_append]
                exact ⟨soFar, by simpa using holdsLater⟩
        exact holds [] items rfl (by simp)
      · intro before other mid later after isItems soFar
        exact ofFirst (item :: before) other mid later after
          (congrArg _ isItems) soFar

/-- Replacements one after the other replace all at once, if and only if no value
meets a placeholder that is replaced later. -/
theorem renames_iff
    {steps : List Replacement}
    (apart : Apart steps) :
    Renames steps ↔ steps.Pairwise fun earlier later =>
      ¬Meets earlier.value later.placeholder := by
  constructor
  · intro renames
    refine pairwise_of_first fun before step mid later after isSteps first => ?_
    subst isSteps
    exact not_meets_of_renames apart renames first
  · intro clean text
    exact chain_eq_atOnce apart inked_traced clean (given text)

/-! ## Words and origins -/

/-- Whether placeholders are apart depends on the words only. -/
theorem Apart.of_words
    {steps : List Replacement}
    (words : List JsString)
    (areWords : steps.map Replacement.placeholder = words)
    (notEmpty : words.all (fun word => !word.isEmpty) = true)
    (once : words.all (fun word => !decide (StartsIn word word.tail)) = true)
    (differ : words.Pairwise fun left right => ¬Meets left right)
    (values : ∀ step ∈ steps, step.value ≠ []) :
    Apart steps := by
  subst areWords
  rw [List.all_eq_true, List.forall_mem_map] at notEmpty once
  exact
    { placeholders := fun step present => by simpa using notEmpty step present
      values := values
      once := fun step present => by simpa using once step present
      differ := List.pairwise_map.mp differ }

/-- What is written without a trace of its origin. -/
def untraced (_ : Replacement) (unit : UInt16) : UInt16 := unit

theorem units_map_ink
    {α : Type}
    [Ink α]
    {ink : Replacement → UInt16 → α}
    (inked : Inked ink)
    (step : Replacement)
    (text : JsString) :
    units (text.map (ink step)) = text.map (untraced step) := by
  unfold units
  rw [List.map_map]
  exact List.map_congr_left fun code _ => inked step code

/-- The origins do not change what the replacements do. -/
theorem units_chain
    {α : Type}
    [Ink α]
    {ink : Replacement → UInt16 → α}
    (inked : Inked ink)
    (steps : List Replacement)
    (text : List α) :
    units (chain ink steps text) = chain untraced steps (units text) := by
  induction steps generalizing text with
  | nil => rfl
  | cons step steps inductionHypothesis =>
      have once : units (step.apply ink text) =
          step.apply untraced (units text) :=
        units_replaceAll (fun _ => units_map_ink inked step step.value) text
      rw [chain, List.foldl_cons, ← chain, inductionHypothesis, once]
      rfl

theorem units_atOnce
    {α : Type}
    [Ink α]
    {ink : Replacement → UInt16 → α}
    (inked : Inked ink)
    (steps : List Replacement)
    (text : List α) :
    units (atOnce ink steps text) = atOnce untraced steps (units text) := by
  refine units_replaceAll (fun whole => ?_) text
  unfold written
  rw [units_eq]
  cases steps.find? fun step => step.placeholder = units whole with
  | none => rfl
  | some step => exact units_map_ink inked step step.value

end EvoPlatform
