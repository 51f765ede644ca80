import EvoPlatform.Cli.EnvPatching

/-!
# Reading a patched env file

What a file gives to a key is on the last line that assigns it, and patching puts
its line in the place of the first one.  So a file is patched as it should be
if and only if no key is assigned twice that has another value last, no pattern
changes what is written, and the file does not begin with a line feed, which
would be dropped.
-/

namespace EvoPlatform
namespace Cli

open Lines

/-! ## Reading -/

section Read

variable {text key : FileText} {entry : EnvEntry}

theorem valueIn_nil (key : FileText) : valueIn key [] = none := by
  simp [valueIn, assigning]

theorem filterMap_valueIn (key : FileText) (lines : List FileText) :
    lines.filterMap (valueIn key) =
      (lines.filter fun line => (assigning key).isPrefixOf line).map
        fun line => line.drop (assigning key).length := by
  induction lines with
  | nil => rfl
  | cons line lines inductionHypothesis =>
      by_cases assigns : (assigning key).isPrefixOf line = true
      · rw [List.filter_cons_of_pos assigns, List.map_cons,
          ← inductionHypothesis]
        exact List.filterMap_cons_some (if_pos assigns)
      · rw [List.filter_cons_of_neg assigns, ← inductionHypothesis]
        exact List.filterMap_cons_none (if_neg assigns)

/-- A file gives a key the value on the last line that assigns it. -/
theorem readEnv_eq (text key : FileText) :
    readEnv text key =
      (assignments key text).getLast?.map fun line =>
        line.drop (assigning key).length := by
  have ofRows : (rows isLineTerminator text).filterMap (valueIn key) =
      (lines isLineTerminator text).filterMap (valueIn key) := by
    rcases rows_eq_lines isLineTerminator text with areRows | areRows
    · rw [areRows]
    · rw [areRows, List.filterMap_append, List.filterMap_cons, valueIn_nil,
        List.filterMap_nil, List.append_nil]
  rw [readEnv, ← ofRows, filterMap_valueIn, List.getLast?_map]
  rfl

theorem readEnv_eq_some_iff :
    readEnv text entry.key = some entry.value ↔
      (assignments entry.key text).getLast? = some entry.line := by
  rw [readEnv_eq]
  constructor
  · intro isValue
    obtain ⟨line, isLast, hasValue⟩ := Option.map_eq_some_iff.mp isValue
    have isLine := (List.mem_filter.mp (List.mem_of_getLast? isLast)).2
    obtain ⟨rest, rfl⟩ := List.isPrefixOf_iff_prefix.mp isLine
    rw [List.drop_left] at hasValue
    rw [isLast, hasValue]
    rfl
  · intro isLast
    rw [isLast, Option.map_some, EnvEntry.line, EnvEntry.start, List.drop_left]

end Read

/-! ## Patterns that change nothing -/

section Mild

variable {out text : FileText} {entry : EnvEntry}

/-- The patterns of an entry stand for the same text whenever it is written. -/
def Mild (out : FileText) (entry : EnvEntry) : Prop :=
  ∀ char ∈ patterns entry.value,
    char = dollar ∨ char = graveAccent ∧ entry.start <+: out

theorem Harmless.mild (harmless : Harmless text entry) : Mild text entry := by
  rcases harmless with none | ⟨-, mild⟩
  · intro char present
    rw [none] at present
    cases present
  · exact mild

theorem ne_nil_of_begins
    (starts : entry.start <+: out) :
    out ≠ [] := by
  rintro rfl
  simp [EnvEntry.start, assigning] at starts

/-- Mild patterns stand for a dollar sign or for nothing. -/
theorem insertion_of_mild
    {before found after : FileText}
    {char : Char}
    (mild : Mild out entry)
    (isFound : Found isLineTerminator entry.start out before found after)
    (present : char ∈ patterns entry.value) :
    insertion before found after char = insertion [] [] [] char := by
  rcases mild char present with rfl | ⟨rfl, starts⟩
  · rfl
  · rw [isFound.early starts]
    rfl

theorem written_of_mild
    {before found after : FileText}
    (mild : Mild out entry)
    (isFound : Found isLineTerminator entry.start out before found after) :
    entry.written before found after = entry.written [] [] [] := by
  rw [EnvEntry.written, EnvEntry.written,
    expand_congr fun char present => insertion_of_mild mild isFound present]

theorem unbroken_written_nil (mild : Mild out entry) :
    Unbroken isLineTerminator (entry.written [] [] []) := by
  refine (unbroken_start entry).append
    ((expands [] [] [] entry.value).unbroken entry.oneLine ?_)
  intro char present word inserted
  rcases mild char present with rfl | ⟨rfl, -⟩
  · obtain rfl := Option.some.inj inserted
    rfl
  · obtain rfl := Option.some.inj inserted
    rfl

theorem Mild.calm (mild : Mild out entry) : Calm out entry := by
  unfold Calm replacement
  split
  · rename_i place isPlace
    rw [written_of_mild mild (found_of_find (unbroken_start entry) isPlace)]
    exact unbroken_written_nil mild
  · exact unbroken_line entry

theorem Mild.of_iff
    {now : FileText}
    (mild : Mild out entry)
    (same : out ≠ [] → (entry.start <+: now ↔ entry.start <+: out)) :
    Mild now entry := by
  intro char present
  refine (mild char present).imp_right fun ⟨isGrave, starts⟩ => ?_
  exact ⟨isGrave, (same (ne_nil_of_begins starts)).mpr starts⟩

theorem Mild.step
    {other : EnvEntry}
    (mild : Mild out entry) :
    Mild (step out other) entry :=
  mild.of_iff start_prefix_step

theorem calmRun_of_mild
    {entries : List EnvEntry}
    (mild : ∀ entry ∈ entries, Mild out entry) :
    CalmRun out entries := by
  induction entries generalizing out with
  | nil => trivial
  | cons entry entries inductionHypothesis =>
      rw [List.forall_mem_cons] at mild
      refine ⟨mild.1.calm, inductionHypothesis fun other present => ?_⟩
      exact (mild.2 other present).step

/-- A line without patterns is written as it is. -/
theorem written_of_noPatterns
    {before found after : FileText}
    (none : patterns entry.value = []) :
    entry.written before found after = entry.line := by
  have expanded := expands before found after entry.value
  rw [none] at expanded
  rw [EnvEntry.written, expanded.eq_of_nil, EnvEntry.line]

end Mild

/-! ## The other lines -/

section Others

variable {out text : FileText} {entry : EnvEntry} {entries : EnvEntries}

theorem not_isOther
    {line : FileText}
    (present : entry ∈ entries.list)
    (assigns : entry.start <+: line) :
    isOther entries line = false := by
  rw [← Bool.not_eq_true, isOther, List.all_eq_true]
  intro other
  have never := other entry present
  rw [List.isPrefixOf_iff_prefix.mpr assigns] at never
  cases never

/-- A text after which a line can be added as it is. -/
def EndsWell (out : FileText) : Prop :=
  ∀ char ∈ out.getLast?, char = '\n' ∨ isLineTerminator char = false

/-- The lines before an added one are those that there were, and maybe an empty
one. -/
theorem lines_sublist_earlier (out : FileText) :
    (lines isLineTerminator out).Sublist (earlier out) ∧
      (EndsWell out → lines isLineTerminator out = earlier out) := by
  unfold earlier opening endLine
  split
  · rename_i isEmpty
    rw [isEmpty]
    exact ⟨.refl _, fun _ => rfl⟩
  · rename_i notEmpty
    split
    · rename_i isLast
      have isLines : lines isLineTerminator out =
          (rows isLineTerminator out).dropLast := by
        rw [lines, isLast]
        rfl
      rw [isLines]
      exact ⟨.refl _, fun _ => rfl⟩
    · rename_i notNewline
      rw [rows_append_cons rfl, rows_nil, List.dropLast_concat, lines]
      refine ⟨?_, fun endsWell => ?_⟩
      · split
        · exact List.dropLast_sublist _
        · exact .refl _
      · have isLast := List.getLast?_eq_some_getLast notEmpty
        rw [isLast] at notNewline ⊢
        rcases endsWell _ isLast with isNewline | notEnd
        · exact absurd (congrArg some isNewline) notNewline
        · rw [Option.all_some, notEnd]
          rfl

theorem lines_added (out : FileText) (entry : EnvEntry) :
    lines isLineTerminator (opening out ++ (entry.line ++ ['\n'])) =
      earlier out ++ [entry.line] := by
  have isLast : (opening out ++ (entry.line ++ ['\n'])).getLast? =
      some '\n' := by
    rw [← List.append_assoc, List.getLast?_concat]
  have isSplit : earlier out ++ [entry.line, []] =
      earlier out ++ [entry.line] ++ [[]] := by simp
  rw [lines, isLast, rows_added _ _ (unbroken_line entry), isSplit,
    List.dropLast_concat]
  rfl

/-- Writing an entry keeps every line of no key that is given. -/
theorem otherLines_step
    (calm : Calm out entry)
    (present : entry ∈ entries.list) :
    (otherLines entries out).Sublist (otherLines entries (step out entry)) ∧
      (EndsWell out →
        otherLines entries (step out entry) = otherLines entries out) := by
  unfold otherLines
  rcases step_cases out entry with
    ⟨before, found, after, isFound, -, isStep⟩ | isAdded
  · have ofLine : ∀ line, entry.start <+: line →
        Unbroken isLineTerminator line →
        (lines isLineTerminator (before ++ (line ++ after))).filter
            (isOther entries) =
          (rows isLineTerminator before).dropLast.filter (isOther entries) ++
            (linesAfter isLineTerminator after).filter (isOther entries) := by
      intro line assigns unbroken
      rw [lines_insert isFound.opens isFound.closes unbroken
        (ne_nil_of_begins assigns), List.filter_append,
        List.filter_cons_of_neg]
      rw [not_isOther present assigns]
      exact Bool.false_ne_true
    have same := (ofLine _ isFound.starts isFound.unbroken).trans
      (ofLine _ start_prefix_replacement calm).symm
    rw [← isFound.isText, ← isStep] at same
    refine ⟨?_, fun _ => same.symm⟩
    rw [same]
  · obtain ⟨-, isStep⟩ := isAdded
    have own : entry.start <+: entry.line := List.prefix_append _ _
    have notLine : [entry.line].filter (isOther entries) = [] := by
      rw [List.filter_singleton, not_isOther present own]
      rfl
    obtain ⟨within, same⟩ := lines_sublist_earlier out
    rw [isStep, lines_added, List.filter_append, notLine, List.append_nil]
    exact ⟨within.filter _, fun endsWell => by rw [same endsWell]⟩

theorem otherLines_run
    {list : List EnvEntry}
    (calm : CalmRun out list)
    (areEntries : ∀ entry ∈ list, entry ∈ entries.list) :
    (otherLines entries out).Sublist
      (otherLines entries (list.foldl step out)) := by
  induction list generalizing out with
  | nil => exact .refl _
  | cons entry list inductionHypothesis =>
      rw [List.forall_mem_cons] at areEntries
      exact (otherLines_step calm.1 areEntries.1).1.trans
        (inductionHypothesis calm.2 areEntries.2)

end Others

/-! ## A file that can be patched -/

section Patchable

variable {text : FileText} {entries : EnvEntries} {entry : EnvEntry}

theorem Patchable.calmRun (patchable : Patchable text entries) :
    CalmRun text entries.list :=
  calmRun_of_mild fun entry present =>
    (patchable.settled entry present).harmless.mild

/-- The last line of a key that is given has its value. -/
theorem Patchable.last_assignment
    (patchable : Patchable text entries)
    (present : entry ∈ entries.list) :
    (assignments entry.key (entries.list.foldl step text)).getLast? =
      some entry.line := by
  have settled := patchable.settled entry present
  obtain ⟨now, calm, sameLines, -, written⟩ :=
    patchable.calmRun.exists_step entries.distinct present
  rw [written]
  rcases assignments_self calm with ⟨before, found, after, isFound, isNow⟩ | isAdded
  · obtain ⟨later, areLines, -⟩ := exists_assignments isFound
    rw [isNow, areLines, List.tail_cons]
    rw [sameLines] at areLines
    cases later with
    | nil =>
        have noPatterns : patterns entry.value = [] := by
          refine settled.harmless.resolve_right fun many => ?_
          rw [areLines] at many
          exact absurd many.1 (Nat.lt_irrefl 1)
        rw [written_of_noPatterns noPatterns]
        rfl
    | cons second rest =>
        have many : 2 ≤ (assignments entry.key text).length := by
          rw [areLines]
          exact Nat.le_add_left 2 rest.length
        rw [← settled.last many, areLines, List.getLast?_cons_cons,
          List.getLast?_cons_cons]
  · rw [isAdded.2]
    rfl

/-- Writing an entry again changes nothing. -/
theorem Patchable.step_again
    (patchable : Patchable text entries)
    (present : entry ∈ entries.list) :
    step (entries.list.foldl step text) entry = entries.list.foldl step text := by
  have settled := patchable.settled entry present
  have mild := settled.harmless.mild
  have isLast := patchable.last_assignment present
  obtain ⟨now, calm, sameLines, sameStart, isWritten⟩ :=
    patchable.calmRun.exists_step entries.distinct present
  rcases step_cases (entries.list.foldl step text) entry with
    ⟨before, found, after, isFound, isReplaced, isStep⟩ | isAdded
  · have isSecond := isReplaced.trans
      (written_of_mild (mild.of_iff start_prefix_run) isFound)
    obtain ⟨later, areLines, -⟩ := exists_assignments isFound
    rw [isWritten] at areLines
    suffices same : replacement (entries.list.foldl step text) entry = found by
      rw [isStep, same]
      exact isFound.isText.symm
    -- What is found is what was written before.
    rcases assignments_self calm with
      ⟨before', found', after', isFirst, isNow⟩ | ⟨none, isNow⟩
    · rw [isNow, written_of_mild (mild.of_iff sameStart) isFirst] at areLines
      exact isSecond.trans (List.cons.inj areLines).1
    · rw [isNow] at areLines
      have noPatterns : patterns entry.value = [] := by
        refine settled.harmless.resolve_right fun many => ?_
        rw [← sameLines, none] at many
        exact absurd many.1 (by decide)
      rw [written_of_noPatterns noPatterns] at isSecond
      exact isSecond.trans (List.cons.inj areLines).1
  · rw [isAdded.1] at isLast
    cases isLast

theorem patched_of_patchable (patchable : Patchable text entries) :
    Patched text entries := by
  have isRun := patchEnvFile_eq patchable.starts entries
  have isSecond : ∀ list : List EnvEntry,
      (∀ entry ∈ list, entry ∈ entries.list) →
      list.foldl step (entries.list.foldl step text) =
        entries.list.foldl step text := by
    intro list areEntries
    induction list with
    | nil => rfl
    | cons entry list inductionHypothesis =>
        rw [List.forall_mem_cons] at areEntries
        rw [List.foldl_cons, patchable.step_again areEntries.1,
          inductionHypothesis areEntries.2]
  exact
    { given := fun entry present => by
        rw [isRun, readEnv_eq_some_iff]
        exact patchable.last_assignment present
      others := fun key isName differs => by
        rw [isRun, readEnv_eq, readEnv_eq,
          patchable.calmRun.assignments_other isName differs]
      kept := by
        rw [isRun]
        exact (otherLines_run patchable.calmRun fun _ present => present).trans
          List.filter_sublist
      again := by
        rw [isRun, patchEnvFile_eq (head_run patchable.starts),
          isSecond _ fun _ present => present] }

end Patchable

/-! ## A file that is patched -/

section Length

variable {out : FileText} {entry : EnvEntry} {entries : List EnvEntry}

/-- Writing an entry never makes a file shorter, and longer if a line is added or
a part of the file is brought in. -/
theorem length_rows_step (out : FileText) (entry : EnvEntry) :
    (rows isLineTerminator out).length ≤
        (rows isLineTerminator (step out entry)).length ∧
      ((rows isLineTerminator (step out entry)).length ≤
        (rows isLineTerminator out).length → Calm out entry) := by
  rcases step_cases out entry with
    ⟨before, found, after, isFound, -, isStep⟩ | isAdded
  · have isLength := isFound.length_rows_replace (replacement out entry)
    have some := List.length_pos_iff.mpr
      (rows_ne_nil isLineTerminator (replacement out entry))
    rw [isStep]
    refine ⟨by omega, fun notLonger => ?_⟩
    by_contra broken
    have many := two_le_length_rows broken
    omega
  · rw [isAdded.2, rows_added _ _ (unbroken_line entry), List.length_append]
    refine ⟨?_, fun _ => calm_of_none isAdded.1⟩
    rcases earlier_cases out with areRows | areRows
    · rw [areRows]
      omega
    · rw [areRows, List.length_append]
      simp

theorem length_rows_run (out : FileText) (entries : List EnvEntry) :
    (rows isLineTerminator out).length ≤
      (rows isLineTerminator (entries.foldl step out)).length := by
  induction entries generalizing out with
  | nil => exact Nat.le_refl _
  | cons entry entries inductionHypothesis =>
      exact (length_rows_step out entry).1.trans
        (inductionHypothesis (step out entry))

theorem calmRun_of_length
    (notLonger : (rows isLineTerminator (entries.foldl step out)).length ≤
      (rows isLineTerminator out).length) :
    CalmRun out entries := by
  induction entries generalizing out with
  | nil => trivial
  | cons entry entries inductionHypothesis =>
      have first := (length_rows_step out entry).1
      have rest := length_rows_run (step out entry) entries
      rw [List.foldl_cons] at notLonger
      exact ⟨(length_rows_step out entry).2 (rest.trans notLonger),
        inductionHypothesis (notLonger.trans first)⟩

end Length

section Stable

variable {before found after : FileText} {entry : EnvEntry}

theorem mem_patterns_cases
    {text : FileText}
    {char : Char}
    (present : char ∈ patterns text) :
    char = dollar ∨ char = ampersand ∨ char = graveAccent ∨
      char = apostrophe := by
  fun_induction patterns text with
  | case1 => cases present
  | case2 => cases present
  | case3 second rest isPattern inductionHypothesis =>
      rcases List.mem_cons.mp present with rfl | present
      · unfold insertion at isPattern
        grind
      · exact inductionHypothesis present
  | case4 second rest notPattern inductionHypothesis =>
      exact inductionHypothesis present
  | case5 first second rest notDollar inductionHypothesis =>
      exact inductionHypothesis present

/-- A line that is replaced by itself. -/
structure Stable (entry : EnvEntry) (now before found after : FileText) :
    Prop where
  isFound : Found isLineTerminator entry.start now before found after
  same : found = entry.written before found after

variable {now : FileText}

theorem Stable.unbroken_part
    {char : Char}
    {word : FileText}
    (stable : Stable entry now before found after)
    (present : char ∈ patterns entry.value)
    (inserted : insertion before found after char = some word) :
    Unbroken isLineTerminator word := by
  have unbroken := stable.isFound.unbroken
  rw [stable.same] at unbroken
  have ofValue := (unbroken_append_iff.mp unbroken).2
  rw [unbroken_iff] at ofValue ⊢
  exact fun other isOther => ofValue other
    (((expands before found after entry.value).part present inserted).subset isOther)

/-- Such a line does not hold itself. -/
theorem Stable.no_ampersand
    (stable : Stable entry now before found after) :
    ampersand ∉ patterns entry.value := by
  intro present
  have within :=
    ((expands before found after entry.value).part present rfl).length_le
  have isLength := congrArg List.length stable.same
  rw [EnvEntry.written, List.length_append, EnvEntry.start, assigning,
    List.length_append, List.length_singleton] at isLength
  omega

/-- What comes before it is brought in only if it is empty. -/
theorem Stable.before_eq_nil
    (stable : Stable entry now before found after)
    (present : graveAccent ∈ patterns entry.value) :
    before = [] := by
  by_contra notEmpty
  have unbroken : Unbroken isLineTerminator before :=
    stable.unbroken_part present rfl
  have opens := stable.isFound.opens
  rw [Opens, List.getLast?_eq_some_getLast notEmpty, Option.all_some,
    unbroken_iff.mp unbroken _ (List.getLast_mem notEmpty)] at opens
  cases opens

theorem Stable.after_eq_nil
    (stable : Stable entry now before found after)
    (present : apostrophe ∈ patterns entry.value) :
    after = [] := by
  by_contra notEmpty
  have unbroken : Unbroken isLineTerminator after :=
    stable.unbroken_part present rfl
  have closes := stable.isFound.closes
  rw [Closes, List.head?_eq_some_head notEmpty, Option.all_some,
    unbroken_iff.mp unbroken _ (List.head_mem notEmpty)] at closes
  cases closes

/-- A line with patterns that is replaced by itself is not the line of its
entry. -/
theorem Stable.ne_line
    (stable : Stable entry now before found after)
    (somePatterns : patterns entry.value ≠ []) :
    found ≠ entry.line := by
  have short : ∀ char ∈ patterns entry.value, ∀ word,
      insertion before found after char = some word → word.length ≤ 1 := by
    intro char present word inserted
    rcases mem_patterns_cases present with rfl | rfl | rfl | rfl
    · obtain rfl := Option.some.inj inserted
      exact Nat.le_refl 1
    · exact absurd present stable.no_ampersand
    · obtain rfl := Option.some.inj inserted
      rw [stable.before_eq_nil present]
      exact Nat.zero_le 1
    · obtain rfl := Option.some.inj inserted
      rw [stable.after_eq_nil present]
      exact Nat.zero_le 1
  have isShorter := (expands before found after entry.value).length_le short
  have some := List.length_pos_iff.mpr somePatterns
  intro isLine
  have isLength := congrArg List.length (isLine.symm.trans stable.same)
  rw [EnvEntry.line, EnvEntry.written, List.length_append,
    List.length_append] at isLength
  omega

end Stable

section Patched

variable {text : FileText} {entries : EnvEntries} {entry : EnvEntry}

theorem Patched.last_assignment
    (patched : Patched text entries)
    (starts : text.head? ≠ some '\n')
    (present : entry ∈ entries.list) :
    (assignments entry.key (entries.list.foldl step text)).getLast? =
      some entry.line := by
  have given := patched.given entry present
  rwa [patchEnvFile_eq starts, readEnv_eq_some_iff] at given

theorem Patched.run_again
    (patched : Patched text entries)
    (starts : text.head? ≠ some '\n') :
    entries.list.foldl step (entries.list.foldl step text) =
      entries.list.foldl step text := by
  have again := patched.again
  rwa [patchEnvFile_eq starts, patchEnvFile_eq (head_run starts)] at again

/-- When the file is patched again, the first line of each key that is given is
replaced by itself. -/
theorem Patched.exists_stable
    (patched : Patched text entries)
    (starts : text.head? ≠ some '\n')
    (present : entry ∈ entries.list) :
    ∃ now before found after,
      Stable entry now before found after ∧
        assignments entry.key now =
          assignments entry.key (entries.list.foldl step text) ∧
        (entry.start <+: now →
          entry.start <+: entries.list.foldl step text) := by
  have isLast := patched.last_assignment starts present
  have again := patched.run_again starts
  generalize entries.list.foldl step text = result at isLast again ⊢
  have calm : CalmRun result entries.list :=
    calmRun_of_length (by rw [again])
  obtain ⟨now, calmNow, sameLines, sameStart, isWritten⟩ :=
    calm.exists_step entries.distinct present
  have notEmpty : result ≠ [] := by
    rintro rfl
    rw [assignments_nil] at isLast
    cases isLast
  rw [again] at isWritten
  rcases assignments_self calmNow with
    ⟨before, found, after, isFound, isNow⟩ | ⟨none, -⟩
  · refine ⟨now, before, found, after, ⟨isFound, ?_⟩, sameLines,
      (sameStart notEmpty).mp⟩
    obtain ⟨later, areLines, -⟩ := exists_assignments isFound
    rw [sameLines, isWritten, isNow] at areLines
    exact (List.cons.inj areLines).1.symm
  · rw [← sameLines, none] at isLast
    cases isLast

/-- An entry with patterns has another line of its key before its own. -/
theorem Patched.two_le_length
    (patched : Patched text entries)
    (starts : text.head? ≠ some '\n')
    (present : entry ∈ entries.list)
    (somePatterns : patterns entry.value ≠ []) :
    2 ≤ (assignments entry.key (entries.list.foldl step text)).length := by
  have isLast := patched.last_assignment starts present
  obtain ⟨now, before, found, after, stable, sameLines, -⟩ :=
    patched.exists_stable starts present
  obtain ⟨later, areLines, -⟩ := exists_assignments stable.isFound
  rw [sameLines] at areLines
  rw [areLines] at isLast ⊢
  cases later with
  | nil => exact absurd (Option.some.inj isLast) (stable.ne_line somePatterns)
  | cons second rest => exact Nat.le_add_left 2 rest.length

theorem Patched.mild
    (patched : Patched text entries)
    (starts : text.head? ≠ some '\n')
    (present : entry ∈ entries.list) :
    Mild (entries.list.foldl step text) entry := by
  intro char isPattern
  have many := patched.two_le_length starts present
    (List.ne_nil_of_mem isPattern)
  obtain ⟨now, before, found, after, stable, sameLines, sameStart⟩ :=
    patched.exists_stable starts present
  rcases mem_patterns_cases isPattern with rfl | rfl | rfl | rfl
  · exact .inl rfl
  · exact absurd isPattern stable.no_ampersand
  · refine .inr ⟨rfl, sameStart ?_⟩
    rw [stable.isFound.isText, stable.before_eq_nil isPattern, List.nil_append]
    exact stable.isFound.starts.trans (List.prefix_append _ _)
  · -- Nothing comes after the first line of the key, so it is the only one.
    obtain ⟨later, areLines, none⟩ := exists_assignments stable.isFound
    rw [← sameLines, areLines, none (stable.after_eq_nil isPattern)] at many
    exact absurd many (Nat.lt_irrefl 1)

/-- Patterns that are mild in the end were so at first. -/
theorem calmRun_of_mild_run
    {out : FileText}
    {list : List EnvEntry}
    (mild : ∀ entry ∈ list, Mild (list.foldl step out) entry) :
    CalmRun out list := by
  induction list generalizing out with
  | nil => trivial
  | cons entry list inductionHypothesis =>
      rw [List.forall_mem_cons, List.foldl_cons] at mild
      refine ⟨?_, inductionHypothesis mild.2⟩
      by_cases isEmpty : out = []
      · rw [isEmpty]
        exact calm_of_none (assignments_nil _)
      · refine (mild.1.of_iff fun _ => ?_).calm
        exact ((start_prefix_run step_ne_nil).trans
          (start_prefix_step isEmpty)).symm

theorem patchable_of_patched
    (patched : Patched text entries)
    (starts : text.head? ≠ some '\n') :
    Patchable text entries := by
  refine ⟨starts, fun entry present => ?_⟩
  have isLast := patched.last_assignment starts present
  have calm : CalmRun text entries.list :=
    calmRun_of_mild_run fun other isOther => patched.mild starts isOther
  obtain ⟨now, calmNow, sameLines, -, isWritten⟩ :=
    calm.exists_step entries.distinct present
  -- The key has as many lines as it had, or one that is added.
  rcases assignments_self calmNow with
    ⟨before, found, after, isFound, isNow⟩ | ⟨none, isNow⟩
  · obtain ⟨later, areLines, -⟩ := exists_assignments isFound
    rw [sameLines] at areLines
    rw [isNow, sameLines] at isWritten
    refine ⟨fun many => ?_, ?_⟩
    · rw [isWritten, areLines, List.tail_cons] at isLast
      rw [areLines] at many ⊢
      cases later with
      | nil => exact absurd many (Nat.lt_irrefl 1)
      | cons second rest =>
          rwa [List.getLast?_cons_cons] at isLast ⊢
    · by_cases noPatterns : patterns entry.value = []
      · exact .inl noPatterns
      · have many := patched.two_le_length starts present noPatterns
        rw [isWritten, List.length_cons, List.length_tail] at many
        refine .inr ⟨by omega, ?_⟩
        have notEmpty : text ≠ [] := by
          rintro rfl
          rw [assignments_nil] at areLines
          cases areLines
        exact (patched.mild starts present).of_iff
          fun _ => (start_prefix_run notEmpty).symm
  · rw [sameLines] at none
    refine ⟨fun many => ?_, .inl ?_⟩
    · rw [none] at many
      exact absurd many (by decide)
    · by_contra somePatterns
      have many := patched.two_le_length starts present somePatterns
      rw [isWritten, isNow] at many
      exact absurd many (Nat.lt_irrefl 1)

end Patched

/-! ## A file that begins with a line feed -/

section Newline

variable {out text : FileText} {entries : EnvEntries} {entry : EnvEntry}

theorem head_newline_step (newline : out.head? = some '\n') :
    (step out entry).head? = some '\n' := by
  rcases step_cases out entry with
    ⟨before, found, after, isFound, -, isStep⟩ | ⟨-, isStep⟩
  · rw [isFound.isText] at newline
    rw [isStep]
    cases before with
    | nil =>
        have starts := isFound.starts.trans (List.prefix_append found after)
        exact absurd newline (head_of_begins starts)
    | cons char before => exact newline
  · rw [isStep]
    cases out with
    | nil => cases newline
    | cons char out =>
        rw [opening, if_neg (List.cons_ne_nil _ _), endLine]
        split
        · exact newline
        · exact newline

theorem head_newline_run
    {list : List EnvEntry}
    (newline : out.head? = some '\n') :
    (list.foldl step out).head? = some '\n' := by
  induction list generalizing out with
  | nil => exact newline
  | cons entry list inductionHypothesis =>
      exact inductionHypothesis (head_newline_step newline)

theorem EndsWell.step
    (endsWell : EndsWell out)
    (calm : Calm out entry) :
    EndsWell (step out entry) := by
  intro char isLast
  rcases step_cases out entry with
    ⟨before, found, after, isFound, -, isStep⟩ | ⟨-, isStep⟩
  · rw [isStep, ← List.append_assoc] at isLast
    by_cases isEmpty : after = []
    · have notEmpty : replacement out entry ≠ [] :=
        ne_nil_of_begins start_prefix_replacement
      rw [isEmpty, List.append_nil,
        List.getLast?_append_of_ne_nil _ notEmpty] at isLast
      exact .inr (unbroken_iff.mp calm char (List.mem_of_getLast? isLast))
    · rw [List.getLast?_append_of_ne_nil _ isEmpty] at isLast
      refine endsWell char ?_
      rwa [isFound.isText, ← List.append_assoc,
        List.getLast?_append_of_ne_nil _ isEmpty]
  · rw [isStep, ← List.append_assoc, List.getLast?_concat] at isLast
    exact .inl (Option.some.inj isLast).symm

theorem otherLines_run_eq
    {list : List EnvEntry}
    (calm : CalmRun out list)
    (endsWell : EndsWell out)
    (areEntries : ∀ entry ∈ list, entry ∈ entries.list) :
    otherLines entries (list.foldl step out) = otherLines entries out := by
  induction list generalizing out with
  | nil => rfl
  | cons entry list inductionHypothesis =>
      rw [List.forall_mem_cons] at areEntries
      exact (inductionHypothesis calm.2 (endsWell.step calm.1)
        areEntries.2).trans ((otherLines_step calm.1 areEntries.1).2 endsWell)

/-- An empty line is lost at the start of a file that begins with a line feed. -/
theorem not_patched_of_newline
    (newline : text.head? = some '\n')
    (noPatterns : ∀ entry ∈ entries.list, patterns entry.value = [])
    (endsWell : EndsWell text) :
    ¬Patched text entries := by
  intro patched
  have notEmpty : text ≠ [] := by
    rintro rfl
    cases newline
  have calm : CalmRun text entries.list :=
    calmRun_of_mild fun entry present =>
      Harmless.mild (.inl (noPatterns entry present))
  have same := otherLines_run_eq calm endsWell fun _ present => present
  obtain ⟨rest, isRun⟩ : ∃ rest, entries.list.foldl step text = '\n' :: rest := by
    have isHead := @head_newline_run _ entries.list newline
    cases isRun : entries.list.foldl step text with
    | nil =>
        rw [isRun] at isHead
        cases isHead
    | cons char rest =>
        rw [isRun] at isHead
        exact ⟨rest, by rw [Option.some.inj isHead]⟩
  have isPatched : patchEnvFile (some text) entries = rest := by
    rw [patchEnvFile, Option.getD_some, foldl_patchEntry_eq notEmpty, isRun]
    rfl
  have empty : isOther entries [] = true := by
    rw [isOther, List.all_eq_true]
    intro entry _
    simp [EnvEntry.start, assigning]
  have kept := (isPatched ▸ patched.kept).filter (isOther entries)
  rw [otherLines, List.filter_filter] at kept
  simp only [Bool.and_self] at kept
  have fewer := kept.length_le
  rw [← otherLines, ← otherLines, ← same, isRun, otherLines,
    lines_cons_end rfl, List.filter_cons_of_pos empty, ← otherLines,
    List.length_cons] at fewer
  exact absurd fewer (Nat.not_succ_le_self _)

end Newline

/-! ## When a file is patched -/

/-- A file that does not begin with a line feed, or to which no patterns are
written and that ends with a line feed or without the end of a line. -/
def Tame (text : FileText) (entries : EnvEntries) : Prop :=
  text.head? = some '\n' →
    (∀ entry ∈ entries.list, patterns entry.value = []) ∧ EndsWell text

/-- A tame file is patched as it should be if and only if it does not begin with
a line feed, each given key that it assigns more than once has its value in the
last assignment, and the patterns in the values are harmless; and files of which
that holds are tame. -/
theorem patched_iff (text : FileText) (entries : EnvEntries) :
    Patched text entries ∧ Tame text entries ↔ Patchable text entries := by
  constructor
  · rintro ⟨patched, tame⟩
    by_cases newline : text.head? = some '\n'
    · obtain ⟨noPatterns, endsWell⟩ := tame newline
      exact absurd patched (not_patched_of_newline newline noPatterns endsWell)
    · exact patchable_of_patched patched newline
  · intro patchable
    exact ⟨patched_of_patchable patchable,
      fun newline => absurd newline patchable.starts⟩

/-- A file in which the secret of an earlier registration was kept. -/
def twoSecrets : FileText :=
  "EVO_CLIENT_SECRET=old\nEVO_CLIENT_SECRET=older\n".toList

def newSecret : EnvEntries where
  list :=
    [{ key := "EVO_CLIENT_SECRET".toList
       value := "new".toList
       isName := rfl
       oneLine := rfl }]
  distinct := by simp

/-- The new secret is written to the first line, and the last one is read. -/
theorem secondSecret_stays :
    patchEnvFile (some twoSecrets) newSecret =
        "EVO_CLIENT_SECRET=new\nEVO_CLIENT_SECRET=older\n".toList ∧
      readEnv (patchEnvFile (some twoSecrets) newSecret)
          "EVO_CLIENT_SECRET".toList = some "older".toList ∧
      ¬Patched twoSecrets newSecret := by
  have isRead : readEnv (patchEnvFile (some twoSecrets) newSecret)
      "EVO_CLIENT_SECRET".toList = some "older".toList := by
    decide +kernel
  refine ⟨by decide +kernel, isRead, fun patched => ?_⟩
  have given := patched.given _ List.mem_cons_self
  exact absurd (isRead.symm.trans given) (by decide)

end Cli
end EvoPlatform
