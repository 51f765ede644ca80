import EvoPlatform.Cli.EnvFile

/-!
# When an env file is patched

A line that is replaced stays a line of its key unless a pattern brings in a part
of the file.  Then every key keeps the lines that it had, with another first one,
and the file is patched as it should be if and only if the last line of each key
that is given has the new value.
-/

namespace EvoPlatform
namespace Cli

open Lines

/-! ## Replacement texts -/

section Expand

variable {before found after before' found' after' text : FileText}
  {insert : Char → Option FileText}

/-- What a replacement text becomes, with the patterns that it has. -/
inductive Expands (insert : Char → Option FileText) :
    List Char → FileText → FileText → Prop
  | nil : Expands insert [] [] []
  | kept {chars : List Char} {text expanded : FileText} (char : Char)
      (rest : Expands insert chars text expanded) :
      Expands insert chars (char :: text) (char :: expanded)
  | pattern {chars : List Char} {text expanded : FileText} (char : Char)
      (word : FileText) (inserted : insert char = some word)
      (rest : Expands insert chars text expanded) :
      Expands insert (char :: chars) (dollar :: char :: text)
        (word ++ expanded)

/-- Which characters make patterns does not depend on the file. -/
theorem insertion_isSome (before found after : FileText) (char : Char) :
    (insertion before found after char).isSome =
      (insertion [] [] [] char).isSome := by
  unfold insertion
  repeat' split
  all_goals rfl

theorem expands (before found after text : FileText) :
    Expands (insertion before found after) (patterns text) text
      (expand (insertion before found after) text) := by
  fun_induction patterns text with
  | case1 => exact .nil
  | case2 char => exact .kept char .nil
  | case3 second rest isPattern inductionHypothesis =>
      rw [← insertion_isSome before found after,
        Option.isSome_iff_exists] at isPattern
      obtain ⟨word, inserted⟩ := isPattern
      rw [expand, if_pos rfl, inserted]
      exact .pattern second word inserted inductionHypothesis
  | case4 second rest notPattern inductionHypothesis =>
      rw [← insertion_isSome before found after,
        Option.not_isSome_iff_eq_none] at notPattern
      rw [expand, if_pos rfl, notPattern]
      exact .kept dollar inductionHypothesis
  | case5 first second rest notDollar inductionHypothesis =>
      rw [expand, if_neg notDollar]
      exact .kept first inductionHypothesis

/-- A text without patterns stays. -/
theorem Expands.eq_of_nil
    {expanded : FileText}
    (expands : Expands insert [] text expanded) :
    expanded = text := by
  generalize isNil : ([] : List Char) = chars at expands
  induction expands with
  | nil => rfl
  | kept char _ inductionHypothesis =>
      rw [inductionHypothesis isNil]
  | pattern => cases isNil

/-- What a pattern stands for is a part of what the text becomes. -/
theorem Expands.part
    {chars : List Char}
    {expanded word : FileText}
    {char : Char}
    (expands : Expands insert chars text expanded)
    (present : char ∈ chars)
    (inserted : insert char = some word) :
    word <:+: expanded := by
  induction expands with
  | nil => cases present
  | kept other _ inductionHypothesis =>
      exact (inductionHypothesis present).trans (List.suffix_cons _ _).isInfix
  | @pattern chars text expanded other otherWord otherInserted _
      inductionHypothesis =>
      rcases List.mem_cons.mp present with rfl | present
      · rw [inserted] at otherInserted
        rw [Option.some.inj otherInserted]
        exact (List.prefix_append _ _).isInfix
      · exact (inductionHypothesis present).trans
          (List.suffix_append _ _).isInfix

/-- Patterns that stand for one character at most make a text shorter. -/
theorem Expands.length_le
    {chars : List Char}
    {expanded : FileText}
    (expands : Expands insert chars text expanded)
    (short : ∀ char ∈ chars, ∀ word, insert char = some word →
      word.length ≤ 1) :
    expanded.length + chars.length ≤ text.length := by
  induction expands with
  | nil => exact Nat.le_refl 0
  | kept char _ inductionHypothesis =>
      have fits := inductionHypothesis short
      simp only [List.length_cons]
      omega
  | pattern char word inserted _ inductionHypothesis =>
      have fits := inductionHypothesis fun other present =>
        short other (List.mem_cons_of_mem _ present)
      have ofWord := short char List.mem_cons_self word inserted
      simp only [List.length_cons, List.length_append]
      omega

/-- Only what a pattern stands for can end a line. -/
theorem Expands.unbroken
    {chars : List Char}
    {expanded : FileText}
    (expands : Expands insert chars text expanded)
    (textUnbroken : Unbroken isLineTerminator text)
    (wordsUnbroken : ∀ char ∈ chars, ∀ word, insert char = some word →
      Unbroken isLineTerminator word) :
    Unbroken isLineTerminator expanded := by
  induction expands with
  | nil => exact textUnbroken
  | @kept chars text expanded char _ inductionHypothesis =>
      obtain ⟨ofChar, ofText⟩ := unbroken_append_iff.mp
        (show Unbroken _ ([char] ++ text) from textUnbroken)
      exact ofChar.append (inductionHypothesis ofText wordsUnbroken)
  | @pattern chars text expanded char word inserted _ inductionHypothesis =>
      obtain ⟨-, ofText⟩ := unbroken_append_iff.mp
        (show Unbroken _ ([dollar, char] ++ text) from textUnbroken)
      exact (wordsUnbroken char List.mem_cons_self word inserted).append
        (inductionHypothesis ofText fun other present =>
          wordsUnbroken other (List.mem_cons_of_mem _ present))

/-- The patterns of a text decide what it becomes. -/
theorem expand_congr
    (same : ∀ char ∈ patterns text,
      insertion before found after char = insertion before' found' after' char) :
    expand (insertion before found after) text =
      expand (insertion before' found' after') text := by
  fun_induction patterns text with
  | case1 => rfl
  | case2 char => rfl
  | case3 second rest isPattern inductionHypothesis =>
      rw [expand, expand, if_pos rfl, if_pos rfl,
        same second List.mem_cons_self,
        inductionHypothesis fun char present =>
          same char (List.mem_cons_of_mem _ present)]
      rw [← insertion_isSome before' found' after',
        Option.isSome_iff_exists] at isPattern
      obtain ⟨word, inserted⟩ := isPattern
      rw [inserted]
  | case4 second rest notPattern inductionHypothesis =>
      have never : ∀ before found after,
          insertion before found after second = none := fun before found after => by
        rw [← insertion_isSome before found after,
          Option.not_isSome_iff_eq_none] at notPattern
        exact notPattern
      rw [expand, expand, if_pos rfl, if_pos rfl, never, never,
        inductionHypothesis same]
  | case5 first second rest notDollar inductionHypothesis =>
      rw [expand, expand, if_neg notDollar, if_neg notDollar,
        inductionHypothesis same]

theorem expand_cons_of_ne
    {first : Char}
    (notDollar : first ≠ dollar) :
    expand insert (first :: text) = first :: expand insert text := by
  cases text with
  | nil => rfl
  | cons second rest => rw [expand, if_neg notDollar]

theorem expand_append_of_noDollar
    {front : FileText}
    (noDollar : dollar ∉ front) :
    expand insert (front ++ text) = front ++ expand insert text := by
  induction front with
  | nil => rfl
  | cons first front inductionHypothesis =>
      rw [List.mem_cons, not_or] at noDollar
      rw [List.cons_append, expand_cons_of_ne (Ne.symm noDollar.1),
        inductionHypothesis noDollar.2, List.cons_append]

end Expand

/-! ## Keys -/

theorem noDollar_start (entry : EnvEntry) : dollar ∉ entry.start := by
  intro present
  rcases List.mem_append.mp present with inKey | isSign
  · have isName := List.all_eq_true.mp entry.isName dollar inKey
    exact absurd isName (by decide)
  · exact absurd isSign (by decide)

theorem sign_notMem_key (entry : EnvEntry) : sign ∉ entry.key := by
  intro present
  have isName := List.all_eq_true.mp entry.isName sign present
  exact absurd isName (by decide)

theorem not_isLineTerminator
    {char : Char}
    (isKey : isKeyChar char = true) :
    isLineTerminator char = false := by
  rw [← Bool.not_eq_true]
  intro isEnd
  simp only [isLineTerminator, Bool.or_eq_true, decide_eq_true_eq] at isEnd
  rcases isEnd with ((rfl | rfl) | isCode) | isCode
  · exact absurd isKey (by decide)
  · exact absurd isKey (by decide)
  · rw [← Char.ofNat_toNat char, isCode] at isKey
    exact absurd isKey (by decide)
  · rw [← Char.ofNat_toNat char, isCode] at isKey
    exact absurd isKey (by decide)

theorem unbroken_start (entry : EnvEntry) :
    Unbroken isLineTerminator entry.start := by
  rw [unbroken_iff]
  intro char present
  rcases List.mem_append.mp present with inKey | isSign
  · exact not_isLineTerminator (List.all_eq_true.mp entry.isName char inKey)
  · rw [List.mem_singleton.mp isSign]
    decide

/-- The key of a line stands before the first sign. -/
theorem takeWhile_eq_of_begins
    {key line : FileText}
    (isName : sign ∉ key)
    (assigns : assigning key <+: line) :
    line.takeWhile (fun char => char != sign) = key := by
  obtain ⟨rest, rfl⟩ := assigns
  have inKey : ∀ char ∈ key, (char != sign) = true := by
    intro char present
    rw [bne_iff_ne]
    rintro rfl
    exact isName present
  rw [assigning, List.append_assoc, List.takeWhile_append_of_pos inKey]
  simp

/-- A line assigns one key. -/
theorem key_eq_of_begins
    {left right line : FileText}
    (leftName : sign ∉ left)
    (rightName : sign ∉ right)
    (assignsLeft : assigning left <+: line)
    (assignsRight : assigning right <+: line) :
    left = right := by
  rw [← takeWhile_eq_of_begins leftName assignsLeft,
    takeWhile_eq_of_begins rightName assignsRight]

/-! ## One entry -/

/-- The line that is put in the place of the one that is found. -/
def EnvEntry.written (entry : EnvEntry) (before found after : FileText) :
    FileText :=
  entry.start ++ expand (insertion before found after) entry.value

/-- What stands before an added line. -/
def opening (out : FileText) : FileText := if out = [] then [] else endLine out

/-- What is done for one entry, without the line feed that is dropped at the
end. -/
def step (out : FileText) (entry : EnvEntry) : FileText :=
  if out = [] then entry.line ++ ['\n'] else patchEntry out entry

/-- The line that an entry puts into a file. -/
def replacement (out : FileText) (entry : EnvEntry) : FileText :=
  match find isLineTerminator entry.start out with
  | some place =>
      entry.written (out.take place)
        ((out.drop place).takeWhile fun char => !isLineTerminator char)
        ((out.drop place).dropWhile fun char => !isLineTerminator char)
  | none => entry.line

section Step

variable {out before found after key : FileText} {entry : EnvEntry}

/-- A line is replaced if there is one to be found, and added otherwise. -/
theorem step_cases (out : FileText) (entry : EnvEntry) :
    (∃ before found after,
        Found isLineTerminator entry.start out before found after ∧
          replacement out entry = entry.written before found after ∧
          step out entry = before ++ (replacement out entry ++ after)) ∨
      assignments entry.key out = [] ∧
        step out entry = opening out ++ (entry.line ++ ['\n']) := by
  cases isPlace : find isLineTerminator entry.start out with
  | some place =>
      have isFound := found_of_find (unbroken_start entry) isPlace
      have notEmpty : out ≠ [] := by
        rintro rfl
        have found := isFound.starts.sublist.length_le
        simp [EnvEntry.start, assigning] at found
      have isWritten : replacement out entry = entry.written (out.take place)
          ((out.drop place).takeWhile fun char => !isLineTerminator char)
          ((out.drop place).dropWhile fun char => !isLineTerminator char) := by
        rw [replacement, isPlace]
      refine .inl ⟨_, _, _, isFound, isWritten, ?_⟩
      rw [isWritten, step, if_neg notEmpty, patchEntry, isPlace]
      simp only
      rw [EnvEntry.line, expand_append_of_noDollar (noDollar_start entry)]
      rfl
  | none =>
      have nowhere := find_eq_none isPlace
      refine .inr ⟨?_, ?_⟩
      · refine List.filter_eq_nil_iff.mpr fun row present starts => ?_
        exact nowhere row present (List.isPrefixOf_iff_prefix.mp starts)
      · rw [step, opening, patchEntry, isPlace]
        split <;> rfl

theorem opens_opening (out : FileText) :
    Opens isLineTerminator (opening out) := by
  unfold opening endLine
  split
  · rfl
  · split
    · rename_i isLast
      rw [Opens, isLast]
      rfl
    · rw [Opens, List.getLast?_concat]
      rfl

/-- The lines before an added one. -/
def earlier (out : FileText) : List FileText :=
  (rows isLineTerminator (opening out)).dropLast

theorem rows_added (out line : FileText)
    (unbroken : Unbroken isLineTerminator line) :
    rows isLineTerminator (opening out ++ (line ++ ['\n'])) =
      earlier out ++ [line, []] := by
  rw [rows_insert (opens_opening out) (by rfl), rows_of_unbroken unbroken]
  rfl

theorem earlier_cases (out : FileText) :
    rows isLineTerminator out = earlier out ∨
      rows isLineTerminator out = earlier out ++ [[]] := by
  unfold earlier opening endLine
  split
  · rename_i isEmpty
    rw [isEmpty]
    exact .inr rfl
  · split
    · rename_i isLast
      obtain ⟨front, rfl⟩ := List.getLast?_eq_some_iff.mp isLast
      right
      rw [rows_append_cons rfl, rows_nil, List.dropLast_concat]
    · left
      rw [rows_append_cons rfl, rows_nil, List.dropLast_concat]

theorem unbroken_line (entry : EnvEntry) :
    Unbroken isLineTerminator entry.line :=
  (unbroken_start entry).append entry.oneLine

/-- The lines that assign a key, after a line has been added. -/
theorem assignments_added (entry : EnvEntry) (key out : FileText) :
    assignments key (opening out ++ (entry.line ++ ['\n'])) =
      assignments key out ++
        [entry.line].filter fun row => (assigning key).isPrefixOf row := by
  have ofNil : ([[]].filter fun row => (assigning key).isPrefixOf row) = [] := by
    simp [assigning]
  have isSplit : [entry.line, []] = [entry.line] ++ [[]] := rfl
  unfold assignments starting
  rw [rows_added _ _ (unbroken_line entry), isSplit, List.filter_append,
    List.filter_append, ofNil, List.append_nil]
  rcases earlier_cases out with areRows | areRows
  · rw [areRows]
  · rw [areRows, List.filter_append, ofNil, List.append_nil]

/-- The text of no pattern that is written ends a line. -/
def Calm (out : FileText) (entry : EnvEntry) : Prop :=
  Unbroken isLineTerminator (replacement out entry)

theorem start_prefix_replacement : entry.start <+: replacement out entry := by
  unfold replacement
  split
  · exact List.prefix_append _ _
  · exact List.prefix_append _ _

/-- The line that is found is the first one of its key. -/
theorem exists_assignments
    (isFound : Found isLineTerminator entry.start out before found after) :
    ∃ later, assignments entry.key out = found :: later ∧
      (after = [] → later = []) := by
  refine ⟨_, isFound.starting_eq, ?_⟩
  rintro rfl
  rfl

/-- The key of an entry has the lines that it had, with another first one. -/
theorem assignments_self (calm : Calm out entry) :
    (∃ before found after,
        Found isLineTerminator entry.start out before found after ∧
          assignments entry.key (step out entry) =
            entry.written before found after ::
              (assignments entry.key out).tail) ∨
      assignments entry.key out = [] ∧
        assignments entry.key (step out entry) = [entry.line] := by
  rcases step_cases out entry with
    ⟨before, found, after, isFound, isWritten, isStep⟩ | isAdded
  · refine .inl ⟨before, found, after, isFound, ?_⟩
    rw [isStep, ← isWritten]
    exact isFound.starting_replace calm start_prefix_replacement
  · obtain ⟨none, isStep⟩ := isAdded
    have isOwn : (assigning entry.key).isPrefixOf entry.line = true :=
      List.isPrefixOf_iff_prefix.mpr (List.prefix_append _ _)
    refine .inr ⟨none, ?_⟩
    rw [isStep, assignments_added, none, List.filter_singleton, isOwn]
    rfl

/-- Every other key keeps its lines. -/
theorem assignments_other
    (calm : Calm out entry)
    (isName : sign ∉ key)
    (differs : entry.key ≠ key) :
    assignments key (step out entry) = assignments key out := by
  have notOwn : ∀ {line : FileText}, entry.start <+: line →
      ¬assigning key <+: line := fun isOwn assigns =>
    differs (key_eq_of_begins (sign_notMem_key entry) isName isOwn assigns)
  rcases step_cases out entry with
    ⟨before, found, after, isFound, -, isStep⟩ | isAdded
  · rw [isStep]
    exact isFound.starting_replace_other calm (notOwn isFound.starts)
      (notOwn start_prefix_replacement)
  · obtain ⟨-, isStep⟩ := isAdded
    have notLine : (assigning key).isPrefixOf entry.line = false := by
      rw [← Bool.not_eq_true, List.isPrefixOf_iff_prefix]
      exact notOwn (List.prefix_append _ _)
    rw [isStep, assignments_added, List.filter_singleton, notLine]
    simp

/-- A file begins with the key with which it began. -/
theorem start_prefix_step
    {other : EnvEntry}
    (notEmpty : out ≠ []) :
    other.start <+: step out entry ↔ other.start <+: out := by
  have unbroken := unbroken_start other
  rcases step_cases out entry with
    ⟨before, found, after, isFound, -, isStep⟩ | isAdded
  · rw [isStep]
    by_cases isFirst : before = []
    · have ownNow : entry.start <+:
          before ++ (replacement out entry ++ after) := by
        rw [isFirst, List.nil_append]
        exact start_prefix_replacement.trans (List.prefix_append _ _)
      have ownBefore : entry.start <+: out := by
        rw [isFound.isText, isFirst, List.nil_append]
        exact isFound.starts.trans (List.prefix_append _ _)
      have sameKey : ∀ {text : FileText}, entry.start <+: text →
          (other.start <+: text ↔ other.key = entry.key) := by
        intro text own
        refine ⟨fun starts => ?_, fun same => ?_⟩
        · exact key_eq_of_begins (sign_notMem_key other) (sign_notMem_key entry)
            starts own
        · rwa [EnvEntry.start, same]
      rw [sameKey ownNow, sameKey ownBefore]
    · rw [prefix_append_iff unbroken isFound.opens isFirst, isFound.isText,
        prefix_append_iff unbroken isFound.opens isFirst]
  · obtain ⟨-, isStep⟩ := isAdded
    have someOpening : opening out ≠ [] := by
      unfold opening endLine
      split
      · contradiction
      · split
        · exact notEmpty
        · simp
    rw [isStep, prefix_append_iff unbroken (opens_opening out) someOpening,
      opening, if_neg notEmpty, endLine]
    split
    · rfl
    · refine ⟨fun starts => ?_, fun starts =>
        starts.trans (List.prefix_append _ _)⟩
      rcases List.prefix_concat_iff.mp starts with same | isPrefix
      · rw [same] at unbroken
        have isEnd := unbroken_iff.mp unbroken '\n' (by simp)
        exact absurd isEnd (by decide)
      · exact isPrefix

theorem head_of_begins
    {text : FileText}
    (starts : entry.start <+: text) :
    text.head? ≠ some '\n' := by
  obtain ⟨rest, rfl⟩ := starts
  intro isHead
  have notEmpty : entry.start ≠ [] := by simp [EnvEntry.start, assigning]
  rw [List.head?_append_of_ne_nil _ notEmpty] at isHead
  have isEnd := unbroken_iff.mp (unbroken_start entry) '\n'
    (List.mem_of_head? isHead)
  exact absurd isEnd (by decide)

theorem head_step (starts : out.head? ≠ some '\n') :
    (step out entry).head? ≠ some '\n' := by
  rcases step_cases out entry with
    ⟨before, found, after, isFound, -, isStep⟩ | isAdded
  · rw [isStep]
    cases before with
    | nil =>
        exact head_of_begins
          (start_prefix_replacement.trans (List.prefix_append _ _))
    | cons char before =>
        rw [isFound.isText] at starts
        exact starts
  · obtain ⟨-, isStep⟩ := isAdded
    rw [isStep]
    cases out with
    | nil =>
        rw [opening, if_pos rfl, List.nil_append, EnvEntry.line,
          List.append_assoc]
        exact head_of_begins (List.prefix_append _ _)
    | cons char out =>
        rw [opening, if_neg (List.cons_ne_nil _ _), endLine]
        split
        · exact starts
        · exact starts

theorem step_ne_nil : step out entry ≠ [] := by
  rcases step_cases out entry with
    ⟨before, found, after, -, isWritten, isStep⟩ | isAdded
  · simp [isStep, isWritten, EnvEntry.written, EnvEntry.start, assigning]
  · simp [isAdded.2]

end Step

/-! ## All entries -/

/-- In a run over some entries, no text of a pattern that is written ends a
line. -/
def CalmRun : FileText → List EnvEntry → Prop
  | _, [] => True
  | out, entry :: entries => Calm out entry ∧ CalmRun (step out entry) entries

section Run

variable {out : FileText} {entries : List EnvEntry}

theorem head_run (starts : out.head? ≠ some '\n') :
    (entries.foldl step out).head? ≠ some '\n' := by
  induction entries generalizing out with
  | nil => exact starts
  | cons entry entries inductionHypothesis =>
      exact inductionHypothesis (head_step starts)

theorem start_prefix_run
    {other : EnvEntry}
    (notEmpty : out ≠ []) :
    other.start <+: entries.foldl step out ↔ other.start <+: out := by
  induction entries generalizing out with
  | nil => rfl
  | cons entry entries inductionHypothesis =>
      exact (inductionHypothesis step_ne_nil).trans (start_prefix_step notEmpty)

/-- A key that is not given keeps its lines. -/
theorem CalmRun.assignments_other
    {key : FileText}
    (calm : CalmRun out entries)
    (isName : sign ∉ key)
    (differs : ∀ entry ∈ entries, entry.key ≠ key) :
    assignments key (entries.foldl step out) = assignments key out := by
  induction entries generalizing out with
  | nil => rfl
  | cons entry entries inductionHypothesis =>
      rw [List.forall_mem_cons] at differs
      exact (inductionHypothesis calm.2 differs.2).trans
        (Cli.assignments_other calm.1 isName differs.1)

/-- Each entry is written once, in a file that has the lines of its key that the
file had at first. -/
theorem CalmRun.exists_step
    (calm : CalmRun out entries)
    (distinct : entries.Pairwise fun left right => left.key ≠ right.key)
    {entry : EnvEntry}
    (present : entry ∈ entries) :
    ∃ now, Calm now entry ∧
      assignments entry.key now = assignments entry.key out ∧
      (out ≠ [] → (entry.start <+: now ↔ entry.start <+: out)) ∧
      assignments entry.key (entries.foldl step out) =
        assignments entry.key (step now entry) := by
  induction entries generalizing out with
  | nil => cases present
  | cons first entries inductionHypothesis =>
      obtain ⟨differs, distinct⟩ := List.pairwise_cons.mp distinct
      rcases List.mem_cons.mp present with rfl | present
      · refine ⟨out, calm.1, rfl, fun _ => Iff.rfl, ?_⟩
        exact calm.2.assignments_other (sign_notMem_key entry)
          fun other isOther same => differs other isOther same.symm
      · obtain ⟨now, calmNow, sameLines, sameStart, written⟩ :=
          inductionHypothesis calm.2 distinct present
        refine ⟨now, calmNow, ?_, fun notEmpty => ?_, written⟩
        · exact sameLines.trans (Cli.assignments_other calm.1
            (sign_notMem_key entry) (differs entry present))
        · exact (sameStart step_ne_nil).trans (start_prefix_step notEmpty)

end Run

/-! ## The line feed at the start -/

theorem assignments_cons_newline (key out : FileText) :
    assignments key ('\n' :: out) = assignments key out := by
  unfold assignments starting
  rw [rows_cons_end rfl, List.filter_cons_of_neg]
  simp [assigning]

theorem assignments_nil (key : FileText) : assignments key [] = [] := by
  simp [assignments, starting, assigning]

/-- No line is found for a key that is not assigned. -/
theorem not_found_of_none
    {out before found after : FileText}
    {entry : EnvEntry}
    (none : assignments entry.key out = []) :
    ¬Found isLineTerminator entry.start out before found after := by
  intro isFound
  obtain ⟨later, areLines, -⟩ := exists_assignments isFound
  rw [none] at areLines
  cases areLines

theorem calm_of_none
    {out : FileText}
    {entry : EnvEntry}
    (none : assignments entry.key out = []) :
    Calm out entry := by
  unfold Calm replacement
  split
  · rename_i place isPlace
    exact absurd (found_of_find (unbroken_start entry) isPlace)
      (not_found_of_none none)
  · exact unbroken_line entry

theorem patchEntry_of_none
    {out : FileText}
    {entry : EnvEntry}
    (none : assignments entry.key out = []) :
    patchEntry out entry = endLine out ++ (entry.line ++ ['\n']) := by
  unfold patchEntry
  cases isPlace : find isLineTerminator entry.start out with
  | some place =>
      have isFound := found_of_find (unbroken_start entry) isPlace
      exact absurd isFound (not_found_of_none none)
  | none => rfl

/-- Lines are added after a line feed as without it. -/
theorem foldl_patchEntry_newline
    {out : FileText}
    {entries : List EnvEntry}
    (notEmpty : out ≠ [])
    (distinct : entries.Pairwise fun left right => left.key ≠ right.key)
    (absent : ∀ entry ∈ entries, assignments entry.key out = []) :
    entries.foldl patchEntry ('\n' :: out) =
      '\n' :: entries.foldl step out := by
  induction entries generalizing out with
  | nil => rfl
  | cons entry entries inductionHypothesis =>
      obtain ⟨differs, distinct⟩ := List.pairwise_cons.mp distinct
      rw [List.forall_mem_cons] at absent
      have isNext : step out entry = endLine out ++ (entry.line ++ ['\n']) := by
        rw [step, if_neg notEmpty, patchEntry_of_none absent.1]
      have isNextNewline : patchEntry ('\n' :: out) entry =
          '\n' :: step out entry := by
        have absentNewline : assignments entry.key ('\n' :: out) = [] := by
          rw [assignments_cons_newline, absent.1]
        rw [isNext, patchEntry_of_none absentNewline, endLine, endLine,
          List.getLast?_cons_of_ne_nil notEmpty]
        split <;> rfl
      rw [List.foldl_cons, List.foldl_cons, isNextNewline]
      refine inductionHypothesis step_ne_nil distinct fun other present => ?_
      rw [assignments_other (calm_of_none absent.1) (sign_notMem_key other)
        (differs other present)]
      exact absent.2 other present

theorem foldl_patchEntry_eq
    {out : FileText}
    (notEmpty : out ≠ [])
    (entries : List EnvEntry) :
    entries.foldl patchEntry out = entries.foldl step out := by
  induction entries generalizing out with
  | nil => rfl
  | cons entry entries inductionHypothesis =>
      have isStep : step out entry = patchEntry out entry := if_neg notEmpty
      rw [List.foldl_cons, List.foldl_cons, ← isStep]
      exact inductionHypothesis step_ne_nil

theorem dropNewline_of_head
    {out : FileText}
    (starts : out.head? ≠ some '\n') :
    dropNewline out = out := by
  cases out with
  | nil => rfl
  | cons char out =>
      rw [dropNewline, if_neg]
      exact fun isNewline => starts (congrArg some isNewline)

/-- A file that does not begin with a line feed is patched entry by entry. -/
theorem patchEnvFile_eq
    {text : FileText}
    (starts : text.head? ≠ some '\n')
    (entries : EnvEntries) :
    patchEnvFile (some text) entries = entries.list.foldl step text := by
  obtain ⟨list, distinct⟩ := entries
  unfold patchEnvFile
  rw [Option.getD_some]
  by_cases isEmpty : text = []
  · subst isEmpty
    cases list with
    | nil => rfl
    | cons entry list =>
        obtain ⟨differs, distinct⟩ := List.pairwise_cons.mp distinct
        have isFirst : patchEntry [] entry = '\n' :: step [] entry := by
          rw [patchEntry_of_none (assignments_nil _)]
          rfl
        rw [List.foldl_cons, List.foldl_cons, isFirst,
          foldl_patchEntry_newline step_ne_nil distinct]
        · rfl
        · intro other present
          rw [assignments_other (calm_of_none (assignments_nil _))
            (sign_notMem_key other) (differs other present), assignments_nil]
  · rw [foldl_patchEntry_eq isEmpty, dropNewline_of_head (head_run starts)]

end Cli
end EvoPlatform
