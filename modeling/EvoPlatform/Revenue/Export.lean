import EvoPlatform.Foundation.Csv
import EvoPlatform.Revenue.Figures

/-!
# The export of the revenue figures

`toCsv`.  Free text is guarded against being taken for a formula, and then quoted
where a comma, a quotation mark or a line feed asks for it.
-/

namespace EvoPlatform
namespace Revenue

open Calendar

/-! ## Rows -/

/-- A figure of the report, as it is pushed. -/
structure Figure where
  section_ : String
  key : String
  currency : String
  value : String

/-- `/^[=+\-@\t\r]/.test(v)`. -/
def startsFormula (text : List Char) : Bool :=
  text.head?.any fun char => ['=', '+', '-', '@', '\t', '\r'].contains char

/-- The character that makes a spreadsheet take a cell for text. -/
def apostrophe : Char := '\x27'

/-- A text that is not taken for a formula. -/
def safe (text : List Char) : List Char :=
  if startsFormula text then apostrophe :: text else text

/-- `esc`. -/
def esc (text : String) : List Char := Csv.writeField (safe text.toList)

/-- The line of a figure. -/
def line (figure : Figure) : List Char :=
  List.intercalate [','] [esc figure.section_, esc figure.key,
    esc figure.currency, figure.value.toList]

/-! ## The figures of a report -/

/-- A key that an object lists before others: an index of an array. -/
def index? (key : String) : Option Nat :=
  key.toNat?.filter fun index => index < 4294967295 ∧ toString index = key

/-- `Object.entries`: indices in order, then the other keys as they came. -/
def entries {α : Type} (rows : List (String × α)) : List (String × α) :=
  (rows.filter fun row => (index? row.1).isSome).mergeSort
      (fun first second => (index? first.1).getD 0 ≤ (index? second.1).getD 0) ++
    rows.filter fun row => (index? row.1).isNone

/-- The counts of a section. -/
def counts (section_ : String) (tally : Tally String) : List Figure :=
  (entries tally.rows).map fun row =>
    ⟨section_, row.1, "", toString row.2⟩

/-- The amounts of a section by month. -/
def monthly (section_ : String) (bucket : MonthlyAmounts) : List Figure :=
  (entries bucket.rows).flatMap fun month =>
    (entries month.2.rows).map fun row =>
      ⟨section_, month.1, row.1, toString row.2⟩

/-- The amounts of a section for the year. -/
def yearly (section_ : String) (amounts : CurrencyAmounts) : List Figure :=
  (entries amounts.rows).map fun row =>
    ⟨section_, "ytd", row.1, toString row.2⟩

/-- The figures of a snapshot, in the order of the export. -/
def snapshotFigures (s : RevenueSnapshot) : List Figure :=
  [⟨"meta", "fetched_at", "", s.fetchedAt⟩,
    ⟨"subscriptions", "total", "", toString (s.subscriptions.total : Int)⟩,
    ⟨"subscriptions", "canceled_during_trial", "",
      toString (s.subscriptions.canceledDuringTrial : Int)⟩] ++
  counts "subscriptions.by_status" s.subscriptions.byStatus ++
  counts "subscriptions.by_plan" s.subscriptions.byPlan ++
  counts "subscriptions.by_interval" s.subscriptions.byInterval ++
  monthly "billed.gross_by_month" s.billed.grossByMonth ++
  monthly "billed.refunds_by_month" s.billed.refundsByMonth ++
  yearly "billed.gross_ytd" s.billed.grossYtd ++
  yearly "billed.tax_ytd" s.billed.taxYtd ++
  yearly "billed.refunds_ytd" s.billed.refundsYtd ++
  yearly "billed.net_ytd" s.billed.netYtd

/-- The figures of a report. -/
def figures (report : RevenueReport) : List Figure :=
  ⟨"meta", "stale", "", if report.stale then "true" else "false"⟩ ::
    ⟨"meta", "health", "", report.health.state.text⟩ ::
      match report.snapshot with
      | none => []
      | some snapshot => snapshotFigures snapshot

/-- `toCsv`. -/
def toCsv (report : RevenueReport) : String :=
  String.ofList (List.intercalate ['\n']
    ("section,key,currency,value".toList :: (figures report).map line) ++
      ['\n'])

/-! ## Guarded texts -/

theorem startsFormula_safe (text : List Char) :
    startsFormula (safe text) = false := by
  unfold safe
  split
  · rfl
  · rename_i none
    exact Bool.not_eq_true _ ▸ none

/-- The guard does not change how a text is quoted or read. -/
theorem readable_safe (text : List Char) :
    Csv.Readable (safe text) ↔ Csv.Readable text := by
  have marks : Csv.marked (apostrophe :: text) = Csv.marked text := rfl
  have isText : '\r' ≠ apostrophe := by decide
  unfold safe
  split
  · rw [Csv.Readable, Csv.Readable, marks, List.mem_cons, not_or]
    tauto
  · rfl

/-- Texts are guarded into the same only if one of them is the other with the
guard. -/
theorem safe_eq_safe_iff (text other : List Char) :
    safe text = safe other ↔ text = other ∨
      (startsFormula text = true ∧ other = apostrophe :: text) ∨
      (startsFormula other = true ∧ text = apostrophe :: other) := by
  have inert : ∀ text, startsFormula (apostrophe :: text) = false :=
    fun _ => rfl
  unfold safe
  split <;> split
  · rename_i isFormula isOther
    simp only [List.cons.injEq, true_and, isFormula, isOther]
    constructor
    · exact .inl
    · rintro (same | rfl | rfl)
      · exact same
      · rw [inert] at isOther
        contradiction
      · rw [inert] at isFormula
        contradiction
  · rename_i isFormula isOther
    simp only [isFormula, isOther, Bool.false_eq_true, true_and, false_and,
      or_false]
    constructor
    · exact fun same => .inr same.symm
    · rintro (rfl | same)
      · contradiction
      · exact same.symm
  · rename_i isFormula isOther
    simp only [isFormula, isOther, Bool.false_eq_true, true_and, false_and,
      false_or]
    constructor
    · exact .inr
    · rintro (rfl | same)
      · contradiction
      · exact same
  · rename_i isFormula isOther
    simp [isFormula, isOther]

/-! ## Values and sections -/

/-- A character that a reader passes over. -/
def isPlain (char : Char) : Bool :=
  !(['"', ',', '\n', '\r'].contains char)

theorem isPlain_of_isIsoChar {char : Char} (isIso : isIsoChar char = true) :
    isPlain char = true := by
  have quote : isIsoChar '"' = false := rfl
  have comma : isIsoChar ',' = false := rfl
  have newline : isIsoChar '\n' = false := rfl
  have return_ : isIsoChar '\r' = false := rfl
  simp only [isPlain, List.contains_cons, List.contains_nil, Bool.or_false,
    Bool.not_eq_true', Bool.or_eq_false_iff, beq_eq_false_iff_ne]
  refine ⟨?_, ?_, ?_, ?_⟩ <;>
  · rintro rfl
    simp_all

/-- The characters of a number are digits and the sign. -/
theorem all_toString (number : Int) :
    (toString number).toList.all isIsoChar = true := by
  have digits (count : Nat) : count.repr.toList.all isIsoChar = true := by
    rw [List.all_eq_true]
    intro char present
    have isDigit := @isDigit_of_mem_toString count char present
    rw [isIsoChar, isDigit, Bool.true_or]
  rw [Int.toString_eq_repr, Int.repr_eq_if]
  split
  · exact digits _
  · rw [String.toList_append, List.all_append, digits, Bool.and_true]
    decide

theorem of_mem_counts {section_ : String} {tally : Tally String}
    {figure : Figure} (present : figure ∈ counts section_ tally) :
    figure.section_ = section_ ∧ ∃ number : Int,
      figure.value = toString number := by
  obtain ⟨row, -, rfl⟩ := List.mem_map.mp present
  exact ⟨rfl, row.2, rfl⟩

theorem of_mem_monthly {section_ : String} {bucket : MonthlyAmounts}
    {figure : Figure} (present : figure ∈ monthly section_ bucket) :
    figure.section_ = section_ ∧ ∃ number : Int,
      figure.value = toString number := by
  obtain ⟨month, -, isThere⟩ := List.mem_flatMap.mp present
  obtain ⟨row, -, rfl⟩ := List.mem_map.mp isThere
  exact ⟨rfl, row.2, rfl⟩

theorem of_mem_yearly {section_ : String} {amounts : CurrencyAmounts}
    {figure : Figure} (present : figure ∈ yearly section_ amounts) :
    figure.section_ = section_ ∧ ∃ number : Int,
      figure.value = toString number := by
  obtain ⟨row, -, rfl⟩ := List.mem_map.mp present
  exact ⟨rfl, row.2, rfl⟩

/-- The sections of the export. -/
def sections : List String :=
  ["meta", "subscriptions", "subscriptions.by_status", "subscriptions.by_plan",
    "subscriptions.by_interval", "billed.gross_by_month",
    "billed.refunds_by_month", "billed.gross_ytd", "billed.tax_ytd",
    "billed.refunds_ytd", "billed.net_ytd"]

/-- The values that are texts and no times. -/
def words : List String :=
  ["true", "false", "ok", "stripe_down", "network_down", "unconfigured"]

/-- None of them is quoted or reads as a formula. -/
theorem words_checked : ∀ word ∈ words,
    word.toList.all isPlain = true ∧ startsFormula word.toList = false := by
  decide +kernel

/-- A figure of a snapshot is a number, or the time of the fetch. -/
theorem of_mem_snapshotFigures {snapshot : RevenueSnapshot} {figure : Figure}
    (present : figure ∈ snapshotFigures snapshot) :
    figure.section_ ∈ sections ∧
      ((∃ number : Int, figure.value = toString number) ∨
        figure = ⟨"meta", "fetched_at", "", snapshot.fetchedAt⟩) := by
  have number {section_ : String} (isSection : section_ ∈ sections)
      (is : figure.section_ = section_ ∧ ∃ number : Int,
        figure.value = toString number) :
      figure.section_ ∈ sections ∧
        ((∃ number : Int, figure.value = toString number) ∨
          figure = ⟨"meta", "fetched_at", "", snapshot.fetchedAt⟩) :=
    ⟨is.1 ▸ isSection, .inl is.2⟩
  simp only [snapshotFigures, List.mem_append, List.mem_cons,
    List.not_mem_nil, or_false, or_assoc] at present
  rcases present with rfl | rfl | rfl | byStatus | byPlan | byInterval |
    grossByMonth | refundsByMonth | grossYtd | taxYtd | refundsYtd | netYtd
  · exact ⟨List.mem_cons_self, .inr rfl⟩
  · exact ⟨by simp [sections], .inl ⟨_, rfl⟩⟩
  · exact ⟨by simp [sections], .inl ⟨_, rfl⟩⟩
  · exact number (by decide) (of_mem_counts byStatus)
  · exact number (by decide) (of_mem_counts byPlan)
  · exact number (by decide) (of_mem_counts byInterval)
  · exact number (by decide) (of_mem_monthly grossByMonth)
  · exact number (by decide) (of_mem_monthly refundsByMonth)
  · exact number (by decide) (of_mem_yearly grossYtd)
  · exact number (by decide) (of_mem_yearly taxYtd)
  · exact number (by decide) (of_mem_yearly refundsYtd)
  · exact number (by decide) (of_mem_yearly netYtd)

/-- A figure of a report is a number, a word, or the time of the fetch. -/
theorem of_mem_figures {report : RevenueReport} {figure : Figure}
    (present : figure ∈ figures report) :
    figure.section_ ∈ sections ∧
      ((∃ number : Int, figure.value = toString number) ∨
        figure.value ∈ words ∨
        ∃ snapshot, report.snapshot = some snapshot ∧
          figure = ⟨"meta", "fetched_at", "", snapshot.fetchedAt⟩) := by
  rw [figures, List.mem_cons, List.mem_cons] at present
  rcases present with rfl | rfl | inSnapshot
  · refine ⟨List.mem_cons_self, .inr (.inl ?_)⟩
    cases report.stale <;> decide
  · refine ⟨List.mem_cons_self, .inr (.inl ?_)⟩
    cases report.health.state <;> decide
  · cases isSnapshot : report.snapshot with
    | none =>
        rw [isSnapshot] at inSnapshot
        exact absurd inSnapshot List.not_mem_nil
    | some snapshot =>
        rw [isSnapshot] at inSnapshot
        obtain ⟨isSection, isNumber | isTime⟩ :=
          of_mem_snapshotFigures inSnapshot
        · exact ⟨isSection, .inl isNumber⟩
        · exact ⟨isSection, .inr (.inr ⟨snapshot, rfl, isTime⟩)⟩

/-- The values of a report are plain, if its time is that of a clock. -/
def PlainValues (report : RevenueReport) : Prop :=
  ∀ figure ∈ figures report, figure.value.toList.all isPlain = true

theorem plainValues {report : RevenueReport}
    (clocked : ∀ snapshot, report.snapshot = some snapshot →
      ∃ now, snapshot.fetchedAt = toISOString now) :
    PlainValues report := by
  have iso {text : List Char} (isIso : text.all isIsoChar = true) :
      text.all isPlain = true := by
    rw [List.all_eq_true] at isIso ⊢
    exact fun char present => isPlain_of_isIsoChar (isIso char present)
  intro figure present
  obtain ⟨-, ⟨number, isNumber⟩ | isWord | ⟨snapshot, isSnapshot, rfl⟩⟩ :=
    of_mem_figures present
  · rw [isNumber]
    exact iso (all_toString number)
  · exact (words_checked _ isWord).1
  · obtain ⟨now, isTime⟩ := clocked snapshot isSnapshot
    rw [isTime]
    exact iso (all_toISOString now)

/-! ## The file -/

/-- The fields of a figure, as they are read back. -/
def record (figure : Figure) : List (List Char) :=
  [safe figure.section_.toList, safe figure.key.toList,
    safe figure.currency.toList, figure.value.toList]

def headerRecord : List (List Char) :=
  ["section".toList, "key".toList, "currency".toList, "value".toList]

/-- The texts of the header and of the sections need no quotation marks. -/
theorem texts_checked :
    "section,key,currency,value".toList = Csv.writeRecord headerRecord ∧
      (∀ field ∈ headerRecord, '\r' ∉ field ∧ startsFormula field = false) ∧
      ∀ name ∈ sections, '\r' ∉ name.toList := by
  decide +kernel

section Plain

variable {value : List Char} (plain : value.all isPlain = true)

include plain

theorem not_marked_of_plain : Csv.marked value = false := by
  rw [Csv.marked, List.any_eq_false]
  intro char present
  have isPlainChar := List.all_eq_true.mp plain char present
  simp only [isPlain, List.contains_cons, List.contains_nil, Bool.or_false,
    Bool.not_eq_true', Bool.or_eq_false_iff, beq_eq_false_iff_ne] at isPlainChar
  simp [isPlainChar]

theorem readable_of_plain : Csv.Readable value := by
  refine .inr fun present => ?_
  have isPlainChar := List.all_eq_true.mp plain _ present
  exact absurd isPlainChar (by decide)

end Plain

theorem line_eq {figure : Figure}
    (plain : figure.value.toList.all isPlain = true) :
    line figure = Csv.writeRecord (record figure) := by
  have isBare : Csv.writeField figure.value.toList = figure.value.toList := by
    rw [Csv.writeField, not_marked_of_plain plain, if_neg Bool.false_ne_true]
  simp [line, record, Csv.writeRecord, isBare, esc, List.intercalate]

/-- Lines with line feeds between them and one at the end. -/
theorem intercalate_newline (first : List Char) (lines : List (List Char)) :
    List.intercalate ['\n'] (first :: lines) ++ ['\n'] =
      (first :: lines).flatMap fun line => line ++ ['\n'] := by
  induction lines generalizing first with
  | nil => simp [List.intercalate]
  | cons second lines inductionHypothesis =>
      have rest := inductionHypothesis second
      simp only [List.intercalate, List.intersperse, List.flatten_cons,
        List.flatMap_cons, List.append_assoc] at rest ⊢
      rw [rest]

/-- The export is a file of records. -/
theorem toList_toCsv {report : RevenueReport} (plain : PlainValues report) :
    (toCsv report).toList =
      Csv.writeFile (headerRecord :: (figures report).map record) := by
  have lines : (figures report).map line =
      ((figures report).map record).map Csv.writeRecord := by
    rw [List.map_map]
    exact List.map_congr_left fun figure present =>
      line_eq (plain figure present)
  rw [toCsv, String.toList_ofList, intercalate_newline, texts_checked.1,
    lines, ← List.map_cons, List.flatMap_map]
  rfl

/-- Are the key and the currency of a figure readable? -/
def Figure.Readable (figure : Figure) : Prop :=
  Csv.Readable figure.key.toList ∧ Csv.Readable figure.currency.toList

theorem readable_of_mem_record {figure : Figure}
    (isSection : figure.section_ ∈ sections)
    (plain : figure.value.toList.all isPlain = true) :
    (∀ text ∈ record figure, Csv.Readable text) ↔ figure.Readable := by
  have readable : Csv.Readable figure.section_.toList :=
    .inr (texts_checked.2.2 _ isSection)
  simp only [record, List.forall_mem_cons, readable_safe, readable,
    readable_of_plain plain, List.not_mem_nil, false_imp_iff, implies_true,
    and_true, true_and]
  exact Iff.rfl

theorem readable_of_mem_headerRecord :
    ∀ text ∈ headerRecord, Csv.Readable text :=
  fun text present => .inr (texts_checked.2.1 text present).1

theorem records_ne_nil (report : RevenueReport) :
    ∀ fields ∈ headerRecord :: (figures report).map record, fields ≠ [] := by
  intro fields present
  rcases List.mem_cons.mp present with rfl | isRecord
  · exact List.cons_ne_nil _ _
  · obtain ⟨figure, -, rfl⟩ := List.mem_map.mp isRecord
    exact List.cons_ne_nil _ _

/-- Readable figures are read back. -/
theorem read_toCsv {report : RevenueReport} (plain : PlainValues report)
    (readable : ∀ figure ∈ figures report, figure.Readable) :
    Csv.read (toCsv report).toList =
      some (headerRecord :: (figures report).map record) := by
  rw [toList_toCsv plain]
  refine Csv.read_writeFile (records_ne_nil report) ?_
  intro fields present
  rcases List.mem_cons.mp present with rfl | isRecord
  · exact readable_of_mem_headerRecord
  · obtain ⟨figure, isFigure, rfl⟩ := List.mem_map.mp isRecord
    exact (readable_of_mem_record (of_mem_figures isFigure).1
      (plain figure isFigure)).mpr (readable figure isFigure)

/-- A figure that is not readable makes the export unreadable. -/
theorem read_toCsv_of_not_readable {report : RevenueReport}
    (plain : PlainValues report)
    (unreadable : ¬ ∀ figure ∈ figures report, figure.Readable) :
    Csv.read (toCsv report).toList = none := by
  rw [toList_toCsv plain]
  refine Csv.read_writeFile_of_not_readable (records_ne_nil report) ?_ ?_
  · intro fields present text isField isUnreadable
    rcases List.mem_cons.mp present with rfl | isRecord
    · exact absurd (readable_of_mem_headerRecord text isField) isUnreadable
    · obtain ⟨figure, isFigure, rfl⟩ := List.mem_map.mp isRecord
      have notValue : text ≠ figure.value.toList := by
        rintro rfl
        exact isUnreadable (readable_of_plain (plain figure isFigure))
      simpa [record, notValue] using isField
  · simp only [not_forall] at unreadable
    obtain ⟨figure, isFigure, isUnreadable⟩ := unreadable
    rw [← readable_of_mem_record (of_mem_figures isFigure).1
      (plain figure isFigure)] at isUnreadable
    simp only [not_forall] at isUnreadable
    obtain ⟨text, isField, isUnreadable⟩ := isUnreadable
    exact ⟨record figure,
      List.mem_cons_of_mem _ (List.mem_map_of_mem isFigure), text, isField,
      isUnreadable⟩

/-! ## Faithful exports -/

/-- A field from which a text is recovered, up to the guard. -/
def Recovers (field text : List Char) : Prop :=
  field = text ∨ startsFormula text = true ∧ field = apostrophe :: text

/-- A record of the four fields of a figure. -/
def RecordOf (fields : List (List Char)) (figure : Figure) : Prop :=
  ∃ section_ key currency,
    fields = [section_, key, currency, figure.value.toList] ∧
      Recovers section_ figure.section_.toList ∧
      Recovers key figure.key.toList ∧
      Recovers currency figure.currency.toList

/-- A field that a spreadsheet takes for what it is. -/
def Inert (field : List Char) : Prop :=
  startsFormula field = true → ∃ number : Int, field = (toString number).toList

/-- The plans of a snapshot, counted by their keys. -/
def countPlans (plans : List Plan) : Tally String :=
  Tally.enter Plan.key (fun _ => 1) Table.empty plans

/-- The record of a plan. -/
def planRecord (plans : List Plan) (plan : Plan) : List (List Char) :=
  ["subscriptions.by_plan".toList, safe plan.key.toList, [],
    (toString (plans.count plan : Int)).toList]

/-- The export is read as one header and a record for each figure, from which
the figure is recovered; each plan has a record, and different plans have
records with different keys; and no field is taken for a formula. -/
structure Faithful (report : RevenueReport) (plans : List Plan) : Prop where
  readBack : ∃ records,
    Csv.read (toCsv report).toList = some (headerRecord :: records) ∧
      records.Forall₂ RecordOf (figures report) ∧
      (∀ plan ∈ plans, planRecord plans plan ∈ records) ∧
      ∀ fields ∈ headerRecord :: records, ∀ field ∈ fields, Inert field
  plansApart : ∀ plan ∈ plans, ∀ other ∈ plans, plan ≠ other →
    safe plan.key.toList ≠ safe other.key.toList

/-- Different plans are joined to different keys, which differ by more than the
guard. -/
def PlansApart (plans : List Plan) : Prop :=
  ∀ plan ∈ plans, ∀ other ∈ plans, plan ≠ other →
    plan.key ≠ other.key ∧
      (startsFormula plan.key.toList = true →
        other.key.toList ≠ apostrophe :: plan.key.toList)

theorem plansApart_iff (plans : List Plan) :
    (∀ plan ∈ plans, ∀ other ∈ plans, plan ≠ other →
      safe plan.key.toList ≠ safe other.key.toList) ↔ PlansApart plans := by
  constructor
  · intro apart plan present other isOther different
    have keys := apart plan present other isOther different
    rw [ne_eq, safe_eq_safe_iff, not_or, not_or, String.toList_inj] at keys
    exact ⟨keys.1, fun isFormula same => keys.2.1 ⟨isFormula, same⟩⟩
  · intro apart plan present other isOther different
    obtain ⟨keys, guarded⟩ := apart plan present other isOther different
    obtain ⟨-, guards⟩ := apart other isOther plan present different.symm
    rw [ne_eq, safe_eq_safe_iff, not_or, not_or, String.toList_inj]
    exact ⟨keys, fun both => guarded both.1 both.2,
      fun both => guards both.1 both.2⟩

theorem recovers_safe (text : List Char) : Recovers (safe text) text := by
  unfold safe Recovers
  split
  · rename_i isFormula
    exact .inr ⟨isFormula, rfl⟩
  · exact .inl rfl

theorem recordOf_record (figure : Figure) : RecordOf (record figure) figure :=
  ⟨_, _, _, rfl, recovers_safe _, recovers_safe _, recovers_safe _⟩

theorem inert_of_not_startsFormula {field : List Char}
    (harmless : startsFormula field = false) : Inert field := by
  intro isFormula
  rw [harmless] at isFormula
  contradiction

/-! ## Times as fields -/

/-- A time is no number. -/
theorem toISOString_ne_toString (now number : Int) :
    (toISOString now).toList ≠ (toString number).toList := by
  obtain ⟨rest, hasMark, isText⟩ := exists_toISOString now
  intro same
  have isMark : 'T' ∈ (toString number).toList := by
    rw [← same, isText]
    exact List.mem_append_right _ hasMark
  rw [Int.toString_eq_repr, Int.repr_eq_if] at isMark
  have noDigit (count : Nat) : 'T' ∉ count.repr.toList := fun isDigit =>
    absurd (@isDigit_of_mem_toString count 'T' isDigit) (by decide)
  split at isMark
  · exact noDigit _ isMark
  · rw [String.toList_append, List.mem_append] at isMark
    rcases isMark with isSign | isDigit
    · exact absurd isSign (by decide)
    · exact noDigit _ isDigit

/-- A time is taken for a formula when its year has a sign. -/
theorem startsFormula_toISOString (now : Int) :
    startsFormula (toISOString now).toList = false ↔
      0 ≤ getUTCFullYear now ∧ getUTCFullYear now ≤ 9999 := by
  obtain ⟨rest, -, isText⟩ := exists_toISOString now
  rw [isText, isoYear]
  split
  · rename_i modern
    refine iff_of_true ?_ modern
    obtain ⟨char, more, isDigits⟩ :=
      List.exists_cons_of_ne_nil (digits_ne_nil 4 (getUTCFullYear now))
    have isDigit := @isDigit_of_mem_digits 4 (getUTCFullYear now) char
      (by simp [isDigits])
    rw [isDigits, List.cons_append, startsFormula, List.head?_cons,
      Option.any_some]
    simp only [List.contains_cons, List.contains_nil, Bool.or_false,
      Bool.or_eq_false_iff, beq_eq_false_iff_ne]
    refine ⟨?_, ?_, ?_, ?_, ?_, ?_⟩ <;>
    · rintro rfl
      exact absurd isDigit (by decide)
  · rename_i distant
    split
    · refine iff_of_false ?_ distant
      simp [startsFormula, String.toList_append]
    · refine iff_of_false ?_ distant
      simp [startsFormula, String.toList_append]

/-! ## Plans -/

theorem mem_entries {α : Type} {rows : List (String × α)} {row : String × α} :
    row ∈ entries rows ↔ row ∈ rows := by
  rw [entries, List.mem_append, List.mem_mergeSort, List.mem_filter,
    List.mem_filter, ← and_or_left]
  refine and_iff_left ?_
  cases index? row.1 with
  | none => exact .inr rfl
  | some index => exact .inl rfl

/-- Plans with different keys are counted apart. -/
theorem mem_countPlans
    {plans : List Plan}
    (apart : PlansApart plans)
    {plan : Plan}
    (present : plan ∈ plans) :
    (plan.key, (plans.count plan : Int)) ∈ (countPlans plans).rows := by
  have isKey : plan.key ∈ (countPlans plans).keys :=
    (Tally.mem_keys_enter _ _ _ _ _).mpr (.inr ⟨plan, present, rfl⟩)
  obtain ⟨number, isNumber⟩ := Option.isSome_iff_exists.mp
    ((Tally.isSome_figure? _ _).mpr isKey)
  have samePlans : (plans.filter fun other => other.key = plan.key) =
      plans.filter fun other => other == plan := by
    refine List.filter_congr fun other isOther => ?_
    rw [Bool.eq_iff_iff, decide_eq_true_iff, beq_iff_eq]
    constructor
    · intro same
      by_contra different
      exact (apart other isOther plan present different).1 same
    · rintro rfl
      rfl
  have counted : (countPlans plans).figure plan.key = plans.count plan := by
    rw [countPlans, Tally.figure_enter, Tally.figure_empty, zero_add, samePlans,
      List.count, List.countP_eq_length_filter, List.map_const',
      List.sum_replicate]
    simp
  rw [Tally.figure, isNumber, Option.getD_some] at counted
  obtain ⟨row, found, rfl⟩ := Option.map_eq_some_iff.mp isNumber
  rw [← counted, ← Table.key_of_find? _ found]
  exact Table.mem_of_find? _ found

/-- The plans of subscriptions. -/
def plansOf (prices : List AppPrice) (subscriptions : List Subscription) :
    List Plan :=
  subscriptions.flatMap fun subscription =>
    subscription.items.map (soldAs prices)

/-- What is counted of the subscriptions are their plans. -/
theorem byPlan_subscriptionFigures (prices : List AppPrice)
    (subscriptions : List Subscription) :
    (subscriptionFigures prices subscriptions).byPlan =
      countPlans (plansOf prices subscriptions) := by
  have turn (counted : SubscriptionFigures) (subscription : Subscription) :
      (addSubscription prices counted subscription).byPlan =
        (subscription.items.map (soldAs prices)).foldl
          (fun tally plan => tally.add plan.key 1) counted.byPlan :=
    (List.foldl_hom SubscriptionFigures.byPlan fun _ _ => rfl).symm
  rw [countPlans, Tally.enter, plansOf, List.foldl_flatMap]
  exact (List.foldl_hom SubscriptionFigures.byPlan fun counted subscription =>
    (turn counted subscription).symm).symm

/-! ## The export -/

/-- A report with a snapshot of the given time and plans. -/
def reportOf (stale : Bool) (health : StripeHealth) (now : Int)
    (counted : SubscriptionFigures) (plans : List Plan)
    (billed : BilledFigures) : RevenueReport :=
  ⟨stale, health, some ⟨toISOString now, toISOString (yearStart now),
    { counted with byPlan := countPlans plans }, billed⟩⟩

/-- The report of a pull is of this kind. -/
theorem report_pull (stale : Bool) (health : StripeHealth)
    (prices : List AppPrice) (listed : Listed) (now : Int) :
    (⟨stale, health, some (pull prices listed now)⟩ : RevenueReport) =
      reportOf stale health now
        (subscriptionFigures prices listed.subscriptions)
        (plansOf prices listed.subscriptions)
        (billedFigures listed.invoices listed.refunds) := by
  rw [reportOf, ← byPlan_subscriptionFigures]
  rfl

theorem inert_headerRecord : ∀ field ∈ headerRecord, Inert field :=
  fun field present =>
    inert_of_not_startsFormula (texts_checked.2.1 field present).2

theorem inert_word {word : String} (isWord : word ∈ words) :
    Inert word.toList :=
  inert_of_not_startsFormula (words_checked word isWord).2

/-- Readable figures with inert values make a faithful export. -/
theorem faithful_of_readable
    {report : RevenueReport}
    {plans : List Plan}
    (plain : PlainValues report)
    (readable : ∀ figure ∈ figures report, figure.Readable)
    (inert : ∀ figure ∈ figures report, Inert figure.value.toList)
    (isRecord : ∀ plan ∈ plans,
      planRecord plans plan ∈ (figures report).map record)
    (apart : PlansApart plans) :
    Faithful report plans := by
  refine ⟨⟨_, read_toCsv plain readable, ?_, isRecord, ?_⟩,
    (plansApart_iff plans).mpr apart⟩
  · exact List.forall₂_map_left_iff.mpr
      (List.forall₂_same.mpr fun figure _ => recordOf_record figure)
  · intro fields present field isField
    rcases List.mem_cons.mp present with rfl | isThere
    · exact inert_headerRecord field isField
    · obtain ⟨figure, isFigure, rfl⟩ := List.mem_map.mp isThere
      have guarded (text : List Char) : Inert (safe text) :=
        inert_of_not_startsFormula (startsFormula_safe text)
      simp only [record, List.mem_cons, List.not_mem_nil, or_false] at isField
      rcases isField with rfl | rfl | rfl | rfl
      · exact guarded _
      · exact guarded _
      · exact guarded _
      · exact inert figure isFigure

section Reports

variable (stale : Bool) (health : StripeHealth) (now : Int)
  (counted : SubscriptionFigures) (plans : List Plan) (billed : BilledFigures)

theorem plainValues_reportOf :
    PlainValues (reportOf stale health now counted plans billed) :=
  plainValues fun _ isSnapshot => ⟨now, by
    obtain rfl := Option.some.inj isSnapshot
    rfl⟩

/-- The values of a report are inert if its time has a year of four digits. -/
theorem inert_value
    (modern : 0 ≤ getUTCFullYear now ∧ getUTCFullYear now ≤ 9999)
    {figure : Figure}
    (present : figure ∈
      figures (reportOf stale health now counted plans billed)) :
    Inert figure.value.toList := by
  obtain ⟨-, ⟨number, isNumber⟩ | isWord | ⟨snapshot, isSnapshot, rfl⟩⟩ :=
    of_mem_figures present
  · exact fun _ => ⟨number, by rw [isNumber]⟩
  · exact inert_word isWord
  · obtain rfl := Option.some.inj isSnapshot
    exact inert_of_not_startsFormula
      ((startsFormula_toISOString now).mpr modern)

/-- The counts of the plans are figures. -/
theorem mem_figures_byPlan {row : String × Int}
    (present : row ∈ (countPlans plans).rows) :
    (⟨"subscriptions.by_plan", row.1, "", toString row.2⟩ : Figure) ∈
      figures (reportOf stale health now counted plans billed) := by
  have isCount : (⟨"subscriptions.by_plan", row.1, "", toString row.2⟩ :
      Figure) ∈ counts "subscriptions.by_plan" (countPlans plans) :=
    List.mem_map.mpr ⟨_, mem_entries.mpr present, rfl⟩
  refine List.mem_cons_of_mem _ (List.mem_cons_of_mem _ ?_)
  simp only [reportOf, snapshotFigures, List.mem_append]
  tauto

/-- The record of a plan is that of its figure. -/
theorem planRecord_mem (apart : PlansApart plans) {plan : Plan}
    (present : plan ∈ plans) :
    planRecord plans plan ∈
      (figures (reportOf stale health now counted plans billed)).map record := by
  refine List.mem_map.mpr ⟨_, mem_figures_byPlan stale health now counted plans
    billed (mem_countPlans apart present), ?_⟩
  have unchanged : safe "subscriptions.by_plan".toList =
      "subscriptions.by_plan".toList ∧ safe "".toList = [] := by
    decide +kernel
  simp only [record, planRecord, unchanged]

/-- The export of a report is faithful if and only if no key or currency has a
carriage return without a comma, a quotation mark or a line feed, the keys of
its plans tell them apart, and the year of its time has no sign. -/
theorem faithful_reportOf_iff :
    Faithful (reportOf stale health now counted plans billed) plans ↔
      (∀ figure ∈ figures (reportOf stale health now counted plans billed),
        figure.Readable) ∧
      PlansApart plans ∧
      0 ≤ getUTCFullYear now ∧ getUTCFullYear now ≤ 9999 := by
  have plain := plainValues_reportOf stale health now counted plans billed
  constructor
  · rintro ⟨⟨records, isRead, isRecords, -, inert⟩, apart⟩
    have readable : ∀ figure ∈
        figures (reportOf stale health now counted plans billed),
          figure.Readable := by
      by_contra unreadable
      rw [read_toCsv_of_not_readable plain unreadable] at isRead
      contradiction
    refine ⟨readable, (plansApart_iff plans).mp apart, ?_⟩
    rw [read_toCsv plain readable] at isRead
    obtain rfl := (List.cons.inj (Option.some.inj isRead)).2
    rw [← startsFormula_toISOString, ← Bool.not_eq_true]
    intro isFormula
    have isFigure : (⟨"meta", "fetched_at", "", toISOString now⟩ : Figure) ∈
        figures (reportOf stale health now counted plans billed) := by
      simp [figures, reportOf, snapshotFigures]
    obtain ⟨number, isNumber⟩ := inert _
      (List.mem_cons_of_mem _ (List.mem_map_of_mem isFigure))
      (toISOString now).toList (by simp [record]) isFormula
    exact toISOString_ne_toString now number isNumber
  · rintro ⟨readable, apart, modern⟩
    exact faithful_of_readable plain readable
      (fun _ => inert_value stale health now counted plans billed modern)
      (fun _ => planRecord_mem stale health now counted plans billed apart)
      apart

/-- A report without a snapshot is exported faithfully. -/
theorem faithful_empty : Faithful ⟨stale, health, none⟩ [] := by
  refine faithful_of_readable (plainValues nofun) ?_ ?_ nofun nofun
  · intro figure present
    simp only [figures, List.mem_cons, List.not_mem_nil, or_false] at present
    have keys : ∀ key ∈ ["stale", "health", ""], '\r' ∉ key.toList := by
      decide +kernel
    rcases present with rfl | rfl
    · exact ⟨.inr (keys _ (by simp)), .inr (keys _ (by simp))⟩
    · exact ⟨.inr (keys _ (by simp)), .inr (keys _ (by simp))⟩
  · intro figure present
    obtain ⟨-, ⟨number, isNumber⟩ | isWord | ⟨snapshot, isSnapshot, -⟩⟩ :=
      of_mem_figures present
    · exact fun _ => ⟨number, by rw [isNumber]⟩
    · exact inert_word isWord
    · contradiction

end Reports

/-- Without a snapshot the export is faithful.  With one, of any figures, plans
and amounts, it is if and only if no key or currency has a carriage return
without a comma, a quotation mark or a line feed, the keys of the plans tell
them apart, and the year of its time has no sign. -/
theorem export_faithful_iff (stale : Bool) (health : StripeHealth) :
    Faithful ⟨stale, health, none⟩ [] ∧
    ∀ now counted plans billed,
      Faithful (reportOf stale health now counted plans billed) plans ↔
        (∀ figure ∈ figures (reportOf stale health now counted plans billed),
          figure.Readable) ∧
        PlansApart plans ∧
        0 ≤ getUTCFullYear now ∧ getUTCFullYear now ≤ 9999 :=
  ⟨faithful_empty stale health, faithful_reportOf_iff stale health⟩

/-- Two apps the names and tiers of which are joined to the same key. -/
def joinedPrices : List AppPrice :=
  [⟨"price_1", "c", "a|b"⟩, ⟨"price_2", "b|c", "a"⟩]

/-- An app with a carriage return in its name. -/
def returnedPrices : List AppPrice :=
  [⟨"price_1", "basic", "Sales\rEurope"⟩]

/-- A subscription to each of two prices. -/
def twoSubscriptions : Listed where
  subscriptions :=
    [⟨"active", none, none, [⟨"price_1", none, some "month"⟩]⟩,
      ⟨"active", none, none, [⟨"price_2", none, some "month"⟩]⟩]
  invoices := []
  refunds := []

/-- The plans of the two apps become one record, and the name with the carriage
return makes the file unreadable. -/
theorem export_unfaithful :
    let health : StripeHealth :=
      ⟨.ok, none, STRIPE_STATUS_PAGE, "2026-08-01T00:00:00.000Z", []⟩
    (¬ Faithful
      ⟨false, health, some (pull joinedPrices twoSubscriptions 1785542400000)⟩
      (plansOf joinedPrices twoSubscriptions.subscriptions)) ∧
    ¬ Faithful
      ⟨false, health, some (pull returnedPrices twoSubscriptions 1785542400000)⟩
      (plansOf returnedPrices twoSubscriptions.subscriptions) := by
  intro health
  constructor
  · rw [report_pull, faithful_reportOf_iff]
    rintro ⟨-, apart, -⟩
    exact (apart ⟨"a|b", "c", "month"⟩ (by decide +kernel)
      ⟨"a", "b|c", "month"⟩ (by decide +kernel) (by decide)).1 (by decide +kernel)
  · rw [report_pull, faithful_reportOf_iff]
    rintro ⟨readable, -, -⟩
    have isRow : ("Sales\rEurope|basic|month", 1) ∈ (countPlans
        (plansOf returnedPrices twoSubscriptions.subscriptions)).rows := by
      decide +kernel
    have isFigure := mem_figures_byPlan false health 1785542400000
      (subscriptionFigures returnedPrices twoSubscriptions.subscriptions) _
      (billedFigures [] []) isRow
    rcases (readable _ isFigure).1 with isMarked | noReturn
    · exact absurd isMarked (by decide +kernel)
    · exact absurd noReturn (by decide +kernel)

end Revenue
end EvoPlatform
