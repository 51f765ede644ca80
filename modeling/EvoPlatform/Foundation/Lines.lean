import Mathlib.Data.List.Basic
import Mathlib.Data.List.Infix

/-!
# Lines of a text

A text is cut into lines at the characters that end lines.  The first line with
a given beginning is found in it, and something else is put in its place, or a
line is added after the last one.
-/

namespace EvoPlatform
namespace Lines

section Rows

variable {α : Type} (ends : α → Bool)

/-- What stands before, between and after the characters that end lines. -/
def rows (text : List α) : List (List α) := text.splitOnP ends

/-- A line can start after this text. -/
def Opens (text : List α) : Prop := text.getLast?.all ends = true

/-- A line can end before this text. -/
def Closes (text : List α) : Prop := text.head?.all ends = true

/-- A text that ends no line. -/
def Unbroken (text : List α) : Prop := text.all (fun char => !ends char) = true

/-- The lines of a text.  What stands after the last end of a line is one if it
has characters. -/
def lines (text : List α) : List (List α) :=
  if text.getLast?.all ends then (rows ends text).dropLast else rows ends text

/-- The lines that follow a line which ends before this text. -/
def linesAfter (text : List α) : List (List α) :=
  if text.getLast?.all ends then (rows ends text).tail.dropLast
  else (rows ends text).tail

end Rows

section Insert

variable {α : Type} {ends : α → Bool} {before mid after text row : List α}
  {char : α}

theorem unbroken_iff :
    Unbroken ends text ↔ ∀ char ∈ text, ends char = false := by
  simp [Unbroken]

theorem Unbroken.append
    (left : Unbroken ends before)
    (right : Unbroken ends after) :
    Unbroken ends (before ++ after) := by
  rw [Unbroken, List.all_append, left, right, Bool.and_self]

theorem unbroken_append_iff :
    Unbroken ends (before ++ after) ↔
      Unbroken ends before ∧ Unbroken ends after := by
  rw [Unbroken, List.all_append, Bool.and_eq_true]
  rfl

theorem rows_ne_nil (ends : α → Bool) (text : List α) : rows ends text ≠ [] :=
  List.splitOnP_ne_nil _ _

@[simp] theorem rows_nil : rows ends ([] : List α) = [[]] :=
  List.splitOnP_nil

theorem rows_of_unbroken (unbroken : Unbroken ends text) :
    rows ends text = [text] :=
  List.splitOnP_eq_singleton (unbroken_iff.mp unbroken)

theorem rows_append_cons (isEnd : ends char = true) :
    rows ends (before ++ char :: after) = rows ends before ++ rows ends after :=
  List.splitOnP_append_cons before after isEnd

theorem rows_cons_end (isEnd : ends char = true) :
    rows ends (char :: after) = [] :: rows ends after :=
  List.splitOnP_append_cons [] after isEnd

theorem rows_cons_of_not_end (notEnd : ends char = false) :
    rows ends (char :: after) =
      (rows ends after).modifyHead (List.cons char) := by
  rw [rows, List.splitOnP_cons_eq_if_modifyHead, notEnd]
  rfl

/-- The lines of a text, and what has no characters after the last end of one. -/
theorem rows_eq_lines (ends : α → Bool) (text : List α) :
    rows ends text = lines ends text ∨
      rows ends text = lines ends text ++ [[]] := by
  unfold lines
  split
  · rename_i opens
    right
    rcases List.eq_nil_or_concat text with rfl | ⟨front, char, rfl⟩
    · rfl
    · rw [List.concat_eq_append, List.getLast?_concat] at opens
      have isEnd : ends char = true := opens
      rw [List.concat_eq_append, rows_append_cons isEnd, rows_nil,
        List.dropLast_concat]
  · left
    rfl

theorem lines_cons_end (isEnd : ends char = true) :
    lines ends (char :: after) = [] :: lines ends after := by
  unfold lines
  rw [rows_cons_end isEnd]
  cases after with
  | nil =>
      rw [List.getLast?_singleton, Option.all_some, isEnd]
      rfl
  | cons second rest =>
      rw [List.getLast?_cons_cons, List.dropLast_cons_of_ne_nil (rows_ne_nil _ _)]
      split <;> rfl

/-- A text that ends a line has more than one. -/
theorem two_le_length_rows (broken : ¬Unbroken ends text) :
    2 ≤ (rows ends text).length := by
  rw [unbroken_iff, not_forall] at broken
  obtain ⟨char, isEnd⟩ := broken
  rw [Classical.not_imp, Bool.not_eq_false] at isEnd
  obtain ⟨front, back, rfl⟩ := List.append_of_mem isEnd.1
  rw [rows_append_cons isEnd.2, List.length_append]
  have front := List.length_pos_iff.mpr (rows_ne_nil ends front)
  have back := List.length_pos_iff.mpr (rows_ne_nil ends back)
  omega

/-- What stands between two places where lines start and end makes lines of its
own. -/
theorem rows_insert
    (opens : Opens ends before)
    (closes : Closes ends after) :
    rows ends (before ++ (mid ++ after)) =
      (rows ends before).dropLast ++ (rows ends mid ++ (rows ends after).tail) := by
  have back : rows ends (mid ++ after) = rows ends mid ++ (rows ends after).tail := by
    cases after with
    | nil => simp
    | cons char rest =>
        have isEnd : ends char = true := closes
        rw [rows_append_cons isEnd, rows_cons_end isEnd, List.tail_cons]
  rcases List.eq_nil_or_concat before with rfl | ⟨front, char, rfl⟩
  · simpa using back
  · rw [Opens, List.concat_eq_append, List.getLast?_concat] at opens
    have isEnd : ends char = true := opens
    rw [List.concat_eq_append, List.append_assoc, List.singleton_append,
      rows_append_cons isEnd, rows_append_cons isEnd, rows_nil,
      List.dropLast_concat, back]

/-- What has no end of a line stands before the place where a line starts, or
there. -/
theorem prefix_append_iff
    (unbroken : Unbroken ends row)
    (opens : Opens ends before)
    (notEmpty : before ≠ []) :
    row <+: before ++ after ↔ row <+: before := by
  refine ⟨fun starts => ?_, fun starts => starts.trans (List.prefix_append _ _)⟩
  rcases List.prefix_or_prefix_of_prefix starts (List.prefix_append before after)
    with isPrefix | ⟨rest, rfl⟩
  · exact isPrefix
  · rw [Opens, List.getLast?_eq_some_getLast notEmpty] at opens
    have last := unbroken_iff.mp unbroken (before.getLast notEmpty)
      (List.mem_append_left _ (List.getLast_mem notEmpty))
    rw [Option.all_some, last] at opens
    cases opens

/-! ## Lines and places -/

/-- The first line is a beginning of the text. -/
theorem exists_append_of_head
    {others : List (List α)}
    (areRows : rows ends text = row :: others) :
    ∃ rest, text = row ++ rest ∧ Closes ends rest := by
  induction text generalizing row others with
  | nil =>
      obtain rfl := (List.cons.inj areRows).1
      exact ⟨[], rfl, rfl⟩
  | cons char text inductionHypothesis =>
      by_cases isEnd : ends char = true
      · rw [rows_cons_end isEnd] at areRows
        obtain rfl := (List.cons.inj areRows).1
        exact ⟨char :: text, rfl, isEnd⟩
      · rw [Bool.not_eq_true] at isEnd
        obtain ⟨first, more, areMore⟩ :=
          List.exists_cons_of_ne_nil (rows_ne_nil ends text)
        rw [rows_cons_of_not_end isEnd, areMore, List.modifyHead_cons] at areRows
        obtain rfl := (List.cons.inj areRows).1
        obtain ⟨rest, isText, closes⟩ := inductionHypothesis areMore
        exact ⟨rest, congrArg (List.cons char) isText, closes⟩

/-- Every later line comes after the end of one. -/
theorem exists_append_of_mem_tail
    (present : row ∈ (rows ends text).tail) :
    ∃ front char rest,
      text = front ++ char :: (row ++ rest) ∧ ends char = true := by
  induction text with
  | nil => cases present
  | cons char text inductionHypothesis =>
      obtain ⟨first, more, areMore⟩ :=
        List.exists_cons_of_ne_nil (rows_ne_nil ends text)
      have later : row ∈ (rows ends text).tail → ∃ front other rest,
          char :: text = front ++ other :: (row ++ rest) ∧
            ends other = true := by
        intro inTail
        obtain ⟨front, other, rest, isText, isEnd⟩ := inductionHypothesis inTail
        exact ⟨char :: front, other, rest, congrArg (List.cons char) isText, isEnd⟩
      by_cases isEnd : ends char = true
      · rw [rows_cons_end isEnd, List.tail_cons, areMore] at present
        rcases List.mem_cons.mp present with rfl | inTail
        · obtain ⟨rest, isText, -⟩ := exists_append_of_head areMore
          exact ⟨[], char, rest, congrArg (List.cons char) isText, isEnd⟩
        · exact later (by rwa [areMore])
      · rw [Bool.not_eq_true] at isEnd
        rw [rows_cons_of_not_end isEnd, areMore, List.modifyHead_cons] at present
        exact later (by rwa [areMore])

/-- Every line starts where one can. -/
theorem exists_append_of_mem
    (present : row ∈ rows ends text) :
    ∃ before rest, text = before ++ (row ++ rest) ∧ Opens ends before := by
  obtain ⟨first, more, areRows⟩ :=
    List.exists_cons_of_ne_nil (rows_ne_nil ends text)
  rw [areRows] at present
  rcases List.mem_cons.mp present with rfl | later
  · obtain ⟨rest, isText, -⟩ := exists_append_of_head areRows
    exact ⟨[], rest, isText, rfl⟩
  · have inTail : row ∈ (rows ends text).tail := by rwa [areRows]
    obtain ⟨front, char, rest, isText, isEnd⟩ :=
      exists_append_of_mem_tail inTail
    refine ⟨front ++ [char], rest, ?_, ?_⟩
    · rw [isText, List.append_assoc, List.singleton_append]
    · rw [Opens, List.getLast?_concat]
      exact isEnd

end Insert

/-! ## The first line with a beginning -/

section Find

variable {α : Type} [DecidableEq α] (ends : α → Bool)

/-- The first place at which a line starts, and starts so. -/
def find (start text : List α) : Option Nat :=
  (List.range (text.length + 1)).find? fun place =>
    (text.take place).getLast?.all ends && start.isPrefixOf (text.drop place)

/-- A text around its first line with a beginning. -/
structure Found (start text before found after : List α) : Prop where
  isText : text = before ++ (found ++ after)
  opens : Opens ends before
  closes : Closes ends after
  unbroken : Unbroken ends found
  starts : start <+: found
  first : ∀ row ∈ (rows ends before).dropLast, ¬start <+: row
  early : start <+: text → before = []

end Find

section Found

variable {α : Type} [DecidableEq α] {ends : α → Bool}
  {start text before found after mid row : List α}

/-- A line that starts so is found at its place, or an earlier one is. -/
theorem find_place
    (isText : text = before ++ (row ++ after))
    (opens : Opens ends before)
    (starts : start <+: row) :
    ∃ place, find ends start text = some place ∧ place ≤ before.length := by
  have here : ((text.take before.length).getLast?.all ends &&
      start.isPrefixOf (text.drop before.length)) = true := by
    rw [isText, List.take_left, List.drop_left, Bool.and_eq_true,
      List.isPrefixOf_iff_prefix]
    exact ⟨opens, starts.trans (List.prefix_append _ _)⟩
  have within : before.length < text.length + 1 := by
    rw [isText, List.length_append]
    omega
  cases isPlace : find ends start text with
  | none =>
      have never := List.find?_eq_none.mp isPlace before.length
        (List.mem_range.mpr within)
      exact absurd here never
  | some place =>
      refine ⟨place, rfl, Nat.not_lt.mp fun later => ?_⟩
      obtain ⟨-, -, before'⟩ := List.find?_range_eq_some.mp isPlace
      have never := before' before.length later
      rw [here] at never
      cases never

theorem find_eq_none
    (nowhere : find ends start text = none) :
    ∀ row ∈ rows ends text, ¬start <+: row := by
  intro row present starts
  obtain ⟨before, rest, isText, opens⟩ := exists_append_of_mem present
  obtain ⟨place, isPlace, -⟩ := find_place isText opens starts
  rw [nowhere] at isPlace
  cases isPlace

/-- A line is found with what stands around it. -/
theorem found_of_find
    {place : Nat}
    (startUnbroken : Unbroken ends start)
    (isPlace : find ends start text = some place) :
    Found ends start text (text.take place)
      ((text.drop place).takeWhile fun char => !ends char)
      ((text.drop place).dropWhile fun char => !ends char) := by
  obtain ⟨here, within, -⟩ := List.find?_range_eq_some.mp isPlace
  rw [Bool.and_eq_true, List.isPrefixOf_iff_prefix] at here
  obtain ⟨opens, rest, isRest⟩ := here
  refine ⟨?_, opens, ?_, ?_, ?_, ?_, ?_⟩
  · rw [List.takeWhile_append_dropWhile, List.take_append_drop]
  · unfold Closes
    cases isAfter : (text.drop place).dropWhile fun char => !ends char with
    | nil => rfl
    | cons char after =>
        have stopped := List.head_dropWhile_not (fun char => !ends char)
          (l := text.drop place) (by simp [isAfter])
        simpa [isAfter] using stopped
  · exact List.all_takeWhile
  · rw [← isRest, List.takeWhile_append_of_pos
      (by simpa [Unbroken] using startUnbroken)]
    exact List.prefix_append _ _
  · -- An earlier line would have been found instead.
    intro row present starts
    rcases List.eq_nil_or_concat (text.take place) with isNil | isConcat
    · rw [isNil] at present
      cases present
    · obtain ⟨front, char, isFront⟩ := isConcat
      rw [List.concat_eq_append] at isFront
      have isEnd : ends char = true := by
        rw [isFront, List.getLast?_concat] at opens
        exact opens
      rw [isFront, rows_append_cons isEnd, rows_nil,
        List.dropLast_concat] at present
      obtain ⟨before, rest, rfl, opensEarlier⟩ := exists_append_of_mem present
      have isText : text = before ++ (row ++ (rest ++ char :: text.drop place)) := by
        calc text = text.take place ++ text.drop place :=
              (List.take_append_drop place text).symm
          _ = _ := by rw [isFront]; simp
      obtain ⟨earlier, isEarlier, notLater⟩ :=
        find_place isText opensEarlier starts
      rw [isPlace] at isEarlier
      obtain rfl := Option.some.inj isEarlier
      have isLength := congrArg List.length isFront
      simp only [List.length_take, List.length_append, List.length_cons,
        List.length_nil] at isLength
      omega
  · rintro ⟨rest, isText⟩
    obtain ⟨earlier, isEarlier, notLater⟩ :=
      @find_place _ _ ends _ _ [] _ _ isText.symm rfl List.prefix_rfl
    rw [isPlace] at isEarlier
    rw [Option.some.inj isEarlier, Nat.le_zero.mp notLater, List.take_zero]

/-! ## Something else in the place of a line -/

/-- The lines with a beginning. -/
def starting (ends : α → Bool) (start text : List α) : List (List α) :=
  (rows ends text).filter fun row => start.isPrefixOf row

omit [DecidableEq α] in
theorem Found.rows_eq (isFound : Found ends start text before found after) :
    rows ends text =
      (rows ends before).dropLast ++ found :: (rows ends after).tail := by
  rw [isFound.isText, rows_insert isFound.opens isFound.closes,
    rows_of_unbroken isFound.unbroken, List.singleton_append]

theorem Found.starting_before (isFound : Found ends start text before found after) :
    ((rows ends before).dropLast.filter fun row => start.isPrefixOf row) = [] := by
  refine List.filter_eq_nil_iff.mpr fun row present starts => ?_
  exact isFound.first row present (List.isPrefixOf_iff_prefix.mp starts)

theorem Found.starting_eq (isFound : Found ends start text before found after) :
    starting ends start text =
      found :: (rows ends after).tail.filter fun row => start.isPrefixOf row := by
  have starts := List.isPrefixOf_iff_prefix.mpr isFound.starts
  rw [starting, isFound.rows_eq, List.filter_append, isFound.starting_before,
    List.nil_append, List.filter_cons_of_pos starts]

/-- The line that is found gives way to another with its beginning. -/
theorem Found.starting_replace
    (isFound : Found ends start text before found after)
    (unbroken : Unbroken ends mid)
    (starts : start <+: mid) :
    starting ends start (before ++ (mid ++ after)) =
      mid :: (starting ends start text).tail := by
  rw [isFound.starting_eq, List.tail_cons, starting,
    rows_insert isFound.opens isFound.closes, rows_of_unbroken unbroken,
    List.singleton_append, List.filter_append, isFound.starting_before,
    List.nil_append, List.filter_cons_of_pos (List.isPrefixOf_iff_prefix.mpr starts)]

/-- Lines with another beginning stay. -/
theorem Found.starting_replace_other
    {other : List α}
    (isFound : Found ends start text before found after)
    (unbroken : Unbroken ends mid)
    (notFound : ¬other <+: found)
    (notMid : ¬other <+: mid) :
    starting ends other (before ++ (mid ++ after)) =
      starting ends other text := by
  rw [← List.isPrefixOf_iff_prefix] at notFound notMid
  rw [starting, starting, isFound.rows_eq,
    rows_insert isFound.opens isFound.closes, rows_of_unbroken unbroken,
    List.singleton_append, List.filter_append, List.filter_append,
    List.filter_cons_of_neg notFound, List.filter_cons_of_neg notMid]

omit [DecidableEq α] in
theorem Found.length_rows_replace
    (isFound : Found ends start text before found after)
    (mid : List α) :
    (rows ends (before ++ (mid ++ after))).length + 1 =
      (rows ends text).length + (rows ends mid).length := by
  rw [isFound.rows_eq, rows_insert isFound.opens isFound.closes]
  simp only [List.length_append, List.length_cons]
  omega

omit [DecidableEq α] in
/-- The lines of a text are those before and after a line of it, and that line. -/
theorem lines_insert
    (opens : Opens ends before)
    (closes : Closes ends after)
    (unbroken : Unbroken ends mid)
    (notEmpty : mid ≠ []) :
    lines ends (before ++ (mid ++ after)) =
      (rows ends before).dropLast ++ mid :: linesAfter ends after := by
  have areRows := @rows_insert _ _ _ mid _ opens closes
  rw [rows_of_unbroken unbroken, List.singleton_append] at areRows
  cases after with
  | nil =>
      have last : ends (mid.getLast notEmpty) = false :=
        unbroken_iff.mp unbroken _ (List.getLast_mem notEmpty)
      rw [lines, areRows, List.append_nil, List.getLast?_append_of_ne_nil _ notEmpty,
        List.getLast?_eq_some_getLast notEmpty, Option.all_some, last]
      rfl
  | cons char rest =>
      have isLast : (before ++ (mid ++ char :: rest)).getLast? =
          (char :: rest).getLast? := by
        rw [← List.append_assoc,
          List.getLast?_append_of_ne_nil _ (List.cons_ne_nil _ _)]
      have isEnd : ends char = true := closes
      have some : (rows ends (char :: rest)).tail ≠ [] := by
        rw [rows_cons_end isEnd, List.tail_cons]
        exact rows_ne_nil ends rest
      rw [lines, linesAfter, isLast, areRows]
      split
      · rw [List.dropLast_append_of_ne_nil (List.cons_ne_nil _ _),
          List.dropLast_cons_of_ne_nil some]
      · rfl

end Found

end Lines
end EvoPlatform
