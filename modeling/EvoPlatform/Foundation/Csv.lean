import Mathlib.Data.List.Basic
import Mathlib.Tactic.Common

/-!
# Comma-separated values

A reader of comma-separated values with quoted fields, in which a quotation mark
is doubled.  A record ends with a line feed, which a carriage return may precede,
or with the file.  Quotation marks within a bare field are an error, and so are
carriage returns that end no record.

A field that is quoted, or in which no character means anything, is read back; a
bare field with a carriage return makes the file unreadable.
-/

namespace EvoPlatform
namespace Csv

/-- Where in a record the reader is. -/
inductive Place
  /-- At the start of a field. -/
  | fresh
  | bare
  | quoted
  /-- After a quotation mark within a quoted field. -/
  | closed
  /-- After a carriage return outside quotation marks. -/
  | returned

/-- Read the records, with the field and the fields that have been read of the
current one. -/
def readFrom (place : Place) (field : List Char) (fields : List (List Char)) :
    List Char → Option (List (List (List Char)))
  | [] =>
      match place with
      | .fresh => if fields.isEmpty then some [] else some [fields ++ [field]]
      | .bare => some [fields ++ [field]]
      | .closed => some [fields ++ [field]]
      | .quoted => none
      | .returned => none
  | char :: rest =>
      match place with
      | .quoted =>
          if char = '"' then readFrom .closed field fields rest
          else readFrom .quoted (field ++ [char]) fields rest
      | .returned =>
          if char = '\n' then
            (readFrom .fresh [] [] rest).map fun records =>
              (fields ++ [field]) :: records
          else none
      | place =>
          if char = ',' then readFrom .fresh [] (fields ++ [field]) rest
          else if char = '\n' then
            (readFrom .fresh [] [] rest).map fun records =>
              (fields ++ [field]) :: records
          else if char = '\r' then readFrom .returned field fields rest
          else
            match place with
            | .fresh =>
                if char = '"' then readFrom .quoted [] fields rest
                else readFrom .bare (field ++ [char]) fields rest
            | .closed =>
                if char = '"' then readFrom .quoted (field ++ [char]) fields rest
                else none
            | _ =>
                if char = '"' then none
                else readFrom .bare (field ++ [char]) fields rest

/-- The records of a file. -/
def read (file : List Char) : Option (List (List (List Char))) :=
  readFrom .fresh [] [] file

/-- A text with its quotation marks doubled. -/
def doubled (text : List Char) : List Char :=
  text.flatMap fun char => if char = '"' then ['"', '"'] else [char]

/-- A quoted field. -/
def quote (text : List Char) : List Char := '"' :: (doubled text ++ ['"'])

/-- No character of a text is a separator or a quotation mark. -/
def Unmarked (text : List Char) : Prop :=
  ∀ char ∈ text, char ≠ '"' ∧ char ≠ ',' ∧ char ≠ '\n'

/-- Some character of a text is a separator or a quotation mark. -/
def marked (text : List Char) : Bool :=
  text.any fun char => char = '"' || char = ',' || char = '\n'

/-- A field, quoted if a separator or a quotation mark asks for it. -/
def writeField (text : List Char) : List Char :=
  if marked text then quote text else text

/-- Fields with commas between them. -/
def writeRecord : List (List Char) → List Char
  | [] => []
  | [text] => writeField text
  | text :: next :: more => writeField text ++ ',' :: writeRecord (next :: more)

/-- Records, each with a line feed after it. -/
def writeFile (records : List (List (List Char))) : List Char :=
  records.flatMap fun record => writeRecord record ++ ['\n']

/-- A field that is read as it was written. -/
def Readable (text : List Char) : Prop := marked text = true ∨ '\r' ∉ text

variable {field : List Char} {fields : List (List Char)} {text rest : List Char}

/-! ## Single characters -/

section Steps

variable {char : Char}

theorem readFrom_quoted_quote :
    readFrom .quoted field fields ('"' :: rest) =
      readFrom .closed field fields rest :=
  rfl

theorem readFrom_quoted_cons (notQuote : char ≠ '"') :
    readFrom .quoted field fields (char :: rest) =
      readFrom .quoted (field ++ [char]) fields rest :=
  if_neg notQuote

theorem readFrom_closed_quote :
    readFrom .closed field fields ('"' :: rest) =
      readFrom .quoted (field ++ ['"']) fields rest :=
  rfl

theorem readFrom_closed_comma :
    readFrom .closed field fields (',' :: rest) =
      readFrom .fresh [] (fields ++ [field]) rest :=
  rfl

theorem readFrom_closed_newline :
    readFrom .closed field fields ('\n' :: rest) =
      (read rest).map fun records => (fields ++ [field]) :: records :=
  rfl

theorem readFrom_bare_comma :
    readFrom .bare field fields (',' :: rest) =
      readFrom .fresh [] (fields ++ [field]) rest :=
  rfl

theorem readFrom_bare_newline :
    readFrom .bare field fields ('\n' :: rest) =
      (read rest).map fun records => (fields ++ [field]) :: records :=
  rfl

theorem readFrom_bare_return :
    readFrom .bare field fields ('\r' :: rest) =
      readFrom .returned field fields rest :=
  rfl

/-- A carriage return that ends no record. -/
theorem readFrom_returned_cons (notEnd : char ≠ '\n') :
    readFrom .returned field fields (char :: rest) = none :=
  if_neg notEnd

/-- The next character of a bare field. -/
theorem readFrom_bare_cons
    (unmarked : char ≠ '"' ∧ char ≠ ',' ∧ char ≠ '\n') (isText : char ≠ '\r') :
    readFrom .bare field fields (char :: rest) =
      readFrom .bare (field ++ [char]) fields rest := by
  obtain ⟨notQuote, notComma, notNewline⟩ := unmarked
  exact (if_neg notComma).trans ((if_neg notNewline).trans
    ((if_neg isText).trans (if_neg notQuote)))

/-- Without a quotation mark at its start a field is bare. -/
theorem readFrom_fresh (notQuote : char ≠ '"') :
    readFrom .fresh [] fields (char :: rest) =
      readFrom .bare [] fields (char :: rest) := by
  change ite _ _ (ite _ _ (ite _ _ (ite _ _ _))) =
    ite _ _ (ite _ _ (ite _ _ (ite _ _ _)))
  rw [if_neg notQuote, if_neg notQuote]

end Steps

/-! ## Quoted fields -/

theorem readFrom_doubled :
    readFrom .quoted field fields (doubled text ++ '"' :: rest) =
      readFrom .closed (field ++ text) fields rest := by
  induction text generalizing field with
  | nil => rw [List.append_nil]; exact readFrom_quoted_quote
  | cons char text inductionHypothesis =>
      have next := @inductionHypothesis (field ++ [char])
      rw [List.append_assoc, List.singleton_append] at next
      rw [← next, doubled, List.flatMap_cons, ← doubled, List.append_assoc]
      by_cases isQuote : char = '"'
      · rw [if_pos isQuote, isQuote]
        exact readFrom_quoted_quote.trans readFrom_closed_quote
      · rw [if_neg isQuote]
        exact readFrom_quoted_cons isQuote

/-- A quoted field is read back. -/
theorem readFrom_quote :
    readFrom .fresh [] fields (quote text ++ rest) =
      readFrom .closed text fields rest := by
  rw [quote, List.cons_append, List.append_assoc, List.singleton_append]
  exact readFrom_doubled

/-! ## Bare fields -/

theorem readFrom_bare
    (unmarked : Unmarked text)
    (noReturn : '\r' ∉ text) :
    readFrom .bare field fields (text ++ rest) =
      readFrom .bare (field ++ text) fields rest := by
  induction text generalizing field with
  | nil => simp
  | cons char text inductionHypothesis =>
      obtain ⟨first, others⟩ := List.forall_mem_cons.mp unmarked
      rw [List.mem_cons, not_or] at noReturn
      rw [List.cons_append, readFrom_bare_cons first (Ne.symm noReturn.1),
        inductionHypothesis others noReturn.2, List.append_assoc,
        List.singleton_append]

/-- A carriage return within a bare field ends no record. -/
theorem readFrom_bare_returned
    (unmarked : Unmarked text)
    (hasReturn : '\r' ∈ text)
    (atComma : ∃ after, rest = ',' :: after) :
    readFrom .bare field fields (text ++ rest) = none := by
  induction text generalizing field with
  | nil => exact absurd hasReturn List.not_mem_nil
  | cons char text inductionHypothesis =>
      obtain ⟨first, others⟩ := List.forall_mem_cons.mp unmarked
      by_cases isReturn : char = '\r'
      · subst isReturn
        obtain ⟨after, rfl⟩ := atComma
        cases text with
        | nil =>
            exact readFrom_bare_return.trans
              (readFrom_returned_cons (by decide))
        | cons next text =>
            have notEnd := (others next List.mem_cons_self).2.2
            exact readFrom_bare_return.trans (readFrom_returned_cons notEnd)
      · rw [List.cons_append, readFrom_bare_cons first isReturn]
        exact inductionHypothesis others
          ((List.mem_cons.mp hasReturn).resolve_left (Ne.symm isReturn))

theorem unmarked_of_marked_eq_false (none : marked text = false) :
    Unmarked text := by
  intro char present
  simpa [and_assoc] using List.any_eq_false.mp none char present

theorem readFrom_fresh_append
    (unmarked : Unmarked text)
    {char : Char}
    (notQuote : char ≠ '"') :
    readFrom .fresh [] fields (text ++ char :: rest) =
      readFrom .bare [] fields (text ++ char :: rest) := by
  cases text with
  | nil => exact readFrom_fresh notQuote
  | cons first text =>
      exact readFrom_fresh (unmarked first List.mem_cons_self).1

/-! ## Fields -/

/-- A field that a comma follows. -/
theorem readFrom_writeField_comma (readable : Readable text) :
    readFrom .fresh [] fields (writeField text ++ ',' :: rest) =
      readFrom .fresh [] (fields ++ [text]) rest := by
  cases isMarked : marked text with
  | true =>
      rw [writeField, if_pos isMarked, readFrom_quote, readFrom_closed_comma]
  | false =>
      have unmarked := unmarked_of_marked_eq_false isMarked
      have noReturn := readable.resolve_left (by simp [isMarked])
      rw [writeField, isMarked, if_neg Bool.false_ne_true,
        readFrom_fresh_append unmarked (by decide),
        readFrom_bare unmarked noReturn, readFrom_bare_comma, List.nil_append]

/-- A field that ends a line. -/
theorem readFrom_writeField_newline (readable : Readable text) :
    readFrom .fresh [] fields (writeField text ++ '\n' :: rest) =
      (read rest).map fun records => (fields ++ [text]) :: records := by
  cases isMarked : marked text with
  | true =>
      rw [writeField, if_pos isMarked, readFrom_quote, readFrom_closed_newline]
  | false =>
      have unmarked := unmarked_of_marked_eq_false isMarked
      have noReturn := readable.resolve_left (by simp [isMarked])
      rw [writeField, isMarked, if_neg Bool.false_ne_true,
        readFrom_fresh_append unmarked (by decide),
        readFrom_bare unmarked noReturn, readFrom_bare_newline, List.nil_append]

/-- A field with a carriage return, before a comma. -/
theorem readFrom_writeField_of_not_readable (unreadable : ¬ Readable text) :
    readFrom .fresh [] fields (writeField text ++ ',' :: rest) = none := by
  rw [Readable, not_or, not_not, Bool.not_eq_true] at unreadable
  have unmarked := unmarked_of_marked_eq_false unreadable.1
  rw [writeField, unreadable.1, if_neg Bool.false_ne_true,
    readFrom_fresh_append unmarked (by decide)]
  exact readFrom_bare_returned unmarked unreadable.2 ⟨rest, rfl⟩

/-! ## Records -/

theorem readFrom_writeRecord
    {record : List (List Char)}
    (nonempty : record ≠ [])
    (readable : ∀ text ∈ record, Readable text) :
    readFrom .fresh [] fields (writeRecord record ++ '\n' :: rest) =
      (read rest).map fun records => (fields ++ record) :: records := by
  induction record generalizing fields with
  | nil => contradiction
  | cons text more inductionHypothesis =>
      obtain ⟨first, others⟩ := List.forall_mem_cons.mp readable
      cases more with
      | nil => exact readFrom_writeField_newline first
      | cons next more =>
          rw [writeRecord, List.append_assoc, List.cons_append,
            readFrom_writeField_comma first,
            inductionHypothesis (List.cons_ne_nil next more) others,
            List.append_assoc, List.singleton_append]

/-- A record with a bare carriage return before its last field. -/
theorem readFrom_writeRecord_of_not_readable
    {record : List (List Char)}
    (unreadable : ∃ text ∈ record.dropLast, ¬ Readable text) :
    readFrom .fresh [] fields (writeRecord record ++ '\n' :: rest) = none := by
  induction record generalizing fields with
  | nil => simp at unreadable
  | cons text more inductionHypothesis =>
      cases more with
      | nil => simp at unreadable
      | cons next more =>
          rw [writeRecord, List.append_assoc, List.cons_append]
          by_cases first : Readable text
          · rw [readFrom_writeField_comma first]
            apply inductionHypothesis
            obtain ⟨other, present, isUnreadable⟩ := unreadable
            refine ⟨other, ?_, isUnreadable⟩
            rw [List.dropLast_cons_cons] at present
            refine (List.mem_cons.mp present).resolve_left ?_
            rintro rfl
            exact isUnreadable first
          · exact readFrom_writeField_of_not_readable first

/-! ## Files -/

variable {records : List (List (List Char))}

/-- Readable records are read back. -/
theorem read_writeFile
    (nonempty : ∀ record ∈ records, record ≠ [])
    (readable : ∀ record ∈ records, ∀ text ∈ record, Readable text) :
    read (writeFile records) = some records := by
  induction records with
  | nil => rfl
  | cons record records inductionHypothesis =>
      obtain ⟨first, others⟩ := List.forall_mem_cons.mp nonempty
      obtain ⟨firstReadable, readable⟩ := List.forall_mem_cons.mp readable
      rw [read, writeFile, List.flatMap_cons, List.append_assoc,
        List.singleton_append, readFrom_writeRecord first firstReadable,
        ← writeFile, inductionHypothesis others readable]
      rfl

/-- A record with a bare carriage return before its last field makes the file
unreadable. -/
theorem read_writeFile_of_not_readable
    (nonempty : ∀ record ∈ records, record ≠ [])
    (lastReadable : ∀ record ∈ records, ∀ text ∈ record,
      ¬ Readable text → text ∈ record.dropLast)
    (unreadable : ∃ record ∈ records, ∃ text ∈ record, ¬ Readable text) :
    read (writeFile records) = none := by
  induction records with
  | nil => simp at unreadable
  | cons record records inductionHypothesis =>
      obtain ⟨first, others⟩ := List.forall_mem_cons.mp nonempty
      obtain ⟨firstLast, lastReadable⟩ := List.forall_mem_cons.mp lastReadable
      rw [read, writeFile, List.flatMap_cons, List.append_assoc,
        List.singleton_append, ← writeFile]
      by_cases firstReadable : ∀ text ∈ record, Readable text
      · have rest : ∃ record ∈ records, ∃ text ∈ record, ¬ Readable text := by
          obtain ⟨other, present, text, isThere, isUnreadable⟩ := unreadable
          refine ⟨other, ?_, text, isThere, isUnreadable⟩
          refine (List.mem_cons.mp present).resolve_left ?_
          rintro rfl
          exact isUnreadable (firstReadable text isThere)
        rw [readFrom_writeRecord first firstReadable,
          inductionHypothesis others lastReadable rest]
        rfl
      · simp only [not_forall] at firstReadable
        obtain ⟨text, present, isUnreadable⟩ := firstReadable
        exact readFrom_writeRecord_of_not_readable
          ⟨text, firstLast text present isUnreadable, isUnreadable⟩

end Csv
end EvoPlatform
