import EvoPlatform.Foundation.Utf16

/-!
# Rewriting texts

Global replacement of what a pattern matches, from left to right and without
overlaps.  The texts are made of characters that have a code unit each and may
carry a mark as well, which no operation reads: a run on marked texts tells where
the characters of its result come from.
-/

namespace EvoPlatform

/-- Characters that stand for a code unit and may carry a mark. -/
class Ink (α : Type) where
  unit : α → UInt16
  /-- A unit that the program writes. -/
  print : UInt16 → α
  /-- A unit that the program writes in the place of a character. -/
  redraw : α → UInt16 → α
  unit_print : ∀ code, unit (print code) = code
  unit_redraw : ∀ char code, unit (redraw char code) = code

/-- Code units without marks. -/
instance : Ink UInt16 where
  unit code := code
  print code := code
  redraw _ code := code
  unit_print _ := rfl
  unit_redraw _ _ := rfl

/-- A code unit with a mark. -/
structure Glyph (Mark : Type) where
  unit : UInt16
  mark : Mark

/-- What the program writes has the default mark. -/
instance {Mark : Type} [Inhabited Mark] : Ink (Glyph Mark) where
  unit glyph := glyph.unit
  print code := ⟨code, default⟩
  redraw glyph code := ⟨code, glyph.mark⟩
  unit_print _ := rfl
  unit_redraw _ _ := rfl

namespace Ink

variable {α : Type} [Ink α]

attribute [simp] unit_print unit_redraw

/-- The string that the code sees. -/
def units (text : List α) : JsString := text.map unit

/-- A text that the program writes. -/
def literal (text : String) : List α := (JsString.ofText text).map print

/-- What the program writes in the place of a character. -/
def inPlace (text : String) (char : α) : List α :=
  (JsString.ofText text).map (redraw char)

/-- `text.trim()`. -/
def trim (text : List α) : List α :=
  (text.dropWhile fun char => JsString.isWhiteSpace (unit char)).rdropWhile
    fun char => JsString.isWhiteSpace (unit char)

/-- `text.split('\n')` -/
def linesOf : List α → List (List α)
  | [] => [[]]
  | char :: rest =>
      if unit char = 10 then [] :: linesOf rest
      else
        match linesOf rest with
        | [] => [[char]]
        | line :: lines => (char :: line) :: lines

@[simp] theorem unit_eq (code : UInt16) : unit code = code := rfl

@[simp] theorem units_eq (text : JsString) : units text = text := by
  unfold units
  exact List.map_id text

@[simp] theorem units_nil : units ([] : List α) = [] := rfl

@[simp] theorem units_cons (char : α) (text : List α) :
    units (char :: text) = unit char :: units text := rfl

@[simp] theorem units_append (left right : List α) :
    units (left ++ right) = units left ++ units right := by
  simp [units]

@[simp] theorem units_literal (text : String) :
    units (literal text : List α) = JsString.ofText text := by
  simp [units, literal, Function.comp_def]

@[simp] theorem units_inPlace (text : String) (char : α) :
    units (inPlace text char) = JsString.ofText text := by
  simp [units, inPlace, Function.comp_def]

theorem literal_eq (text : String) :
    (literal text : JsString) = JsString.ofText text := by
  rw [← units_literal (α := UInt16), units_eq]

@[simp] theorem redraw_eq (char code : UInt16) : redraw char code = code := rfl

theorem inPlace_eq (text : String) (char : UInt16) :
    inPlace text char = JsString.ofText text := by
  rw [← units_inPlace text char, units_eq]

theorem units_tail (text : List α) : units text.tail = (units text).tail :=
  List.map_tail

theorem ofText_ofList (chars : List Char) :
    JsString.ofText (String.ofList chars) =
      chars.map fun char => char.toNat.toUInt16 := by
  simp [JsString.ofText]

theorem units_flatMap {β : Type} (write : β → List α) (text : List β) :
    units (text.flatMap write) = text.flatMap fun char => units (write char) := by
  simp [units, List.map_flatMap]

theorem units_trim (text : List α) : units (trim text) = trim (units text) := by
  unfold units trim
  rw [List.dropWhile_map]
  simp only [List.rdropWhile, ← List.map_reverse, List.dropWhile_map]
  rfl

end Ink

open Ink

/-! ## Patterns -/

/-- The length of the match at the front of a string, if there is one. -/
abbrev Pattern := JsString → Option Nat

/-- Matches have characters, and no more than there are. -/
def Pattern.Sound (pattern : Pattern) : Prop :=
  ∀ text length, pattern text = some length →
    0 < length ∧ length ≤ text.length

/-- A piece of a text that is cut by a pattern. -/
inductive Piece (α : Type)
  | kept (char : α)
  | found (whole : List α)

namespace Piece

variable {α : Type}

/-- The part of the text that a piece is. -/
def cover : Piece α → List α
  | kept char => [char]
  | found whole => whole

/-- A piece with what is written for a match. -/
def write (replace : List α → List α) : Piece α → List α
  | kept char => [char]
  | found whole => replace whole

/-- The piece that the code sees. -/
def seen [Ink α] : Piece α → Piece UInt16
  | kept char => kept (unit char)
  | found whole => found (units whole)

end Piece

section Replace

variable {α : Type} [Ink α]

/-- Cut a text, the first characters of which may have been matched. -/
def piecesFrom (pattern : Pattern) : Nat → List α → List (Piece α)
  | _, [] => []
  | 0, char :: rest =>
      match pattern (units (char :: rest)) with
      | none => .kept char :: piecesFrom pattern 0 rest
      | some length =>
          .found ((char :: rest).take length) ::
            piecesFrom pattern (length - 1) rest
  | skipped + 1, _ :: rest => piecesFrom pattern skipped rest

/-- Cut a text by a pattern. -/
def pieces (pattern : Pattern) (text : List α) : List (Piece α) :=
  piecesFrom pattern 0 text

/-- `text.replace(pattern, replace)`, for a pattern with the flag `g`. -/
def replaceAll (pattern : Pattern) (replace : List α → List α)
    (text : List α) : List α :=
  (pieces pattern text).flatMap (Piece.write replace)

variable {pattern : Pattern} {replace : List α → List α} {text : List α}

theorem flatMap_cover_piecesFrom
    (sound : pattern.Sound)
    (skipped : Nat)
    (text : List α) :
    (piecesFrom pattern skipped text).flatMap Piece.cover =
      text.drop skipped := by
  induction text generalizing skipped with
  | nil => cases skipped <;> rfl
  | cons char rest inductionHypothesis =>
      cases skipped with
      | succ skipped => exact inductionHypothesis skipped
      | zero =>
          unfold piecesFrom
          cases matched : pattern (units (char :: rest)) with
          | none =>
              rw [List.flatMap_cons, inductionHypothesis 0]
              rfl
          | some length =>
              rw [List.flatMap_cons, inductionHypothesis (length - 1)]
              obtain ⟨positive, -⟩ := sound _ _ matched
              obtain ⟨fewer, rfl⟩ := Nat.exists_eq_succ_of_ne_zero positive.ne'
              exact List.take_append_drop (fewer + 1) (char :: rest)

/-- The pieces make up the text. -/
theorem flatMap_cover
    (sound : pattern.Sound)
    (text : List α) :
    (pieces pattern text).flatMap Piece.cover = text :=
  flatMap_cover_piecesFrom sound 0 text

theorem mem_of_mem_cover
    (sound : pattern.Sound)
    {piece : Piece α}
    (isPiece : piece ∈ pieces pattern text)
    {char : α}
    (covered : char ∈ piece.cover) :
    char ∈ text := by
  rw [← flatMap_cover sound text]
  exact List.mem_flatMap.mpr ⟨piece, isPiece, covered⟩

/-- What is found has been matched. -/
theorem matched_of_mem_piecesFrom
    (sound : pattern.Sound)
    {skipped : Nat}
    {whole : List α}
    (found : .found whole ∈ piecesFrom pattern skipped text) :
    ∃ rest, pattern (units (whole ++ rest)) = some whole.length := by
  induction text generalizing skipped with
  | nil => cases skipped <;> contradiction
  | cons char rest inductionHypothesis =>
      cases skipped with
      | succ skipped => exact inductionHypothesis found
      | zero =>
          unfold piecesFrom at found
          cases matched : pattern (units (char :: rest)) with
          | none =>
              rw [matched] at found
              rcases List.mem_cons.mp found with isKept | later
              · contradiction
              · exact inductionHypothesis later
          | some length =>
              rw [matched] at found
              rcases List.mem_cons.mp found with isFirst | later
              · injection isFirst with isWhole
                obtain ⟨-, fits⟩ := sound _ _ matched
                simp only [units, List.length_map] at fits
                refine ⟨(char :: rest).drop length, ?_⟩
                rw [isWhole, List.take_append_drop, matched, List.length_take,
                  Nat.min_eq_left fits]
              · exact inductionHypothesis later

/-- What holds of the characters of a text holds of those of the result, if it
holds of those that are written. -/
theorem forall_mem_replaceAll
    {holds : α → Prop}
    (sound : pattern.Sound)
    (written : ∀ whole, (∀ char ∈ whole, holds char) →
      ∀ char ∈ replace whole, holds char)
    (all : ∀ char ∈ text, holds char) :
    ∀ char ∈ replaceAll pattern replace text, holds char := by
  intro char present
  obtain ⟨piece, isPiece, inPiece⟩ := List.mem_flatMap.mp present
  have ofPiece : ∀ char ∈ piece.cover, holds char :=
    fun char covered => all char (mem_of_mem_cover sound isPiece covered)
  cases piece with
  | kept kept => exact ofPiece char inPiece
  | found whole => exact written whole ofPiece char inPiece

/-- A subsequence that every match keeps is kept. -/
theorem filter_replaceAll
    {keep : α → Bool}
    (sound : pattern.Sound)
    (kept : ∀ whole rest,
      pattern (units (whole ++ rest)) = some whole.length →
        (replace whole).filter keep = whole.filter keep)
    (text : List α) :
    (replaceAll pattern replace text).filter keep = text.filter keep := by
  have same : ∀ piece ∈ pieces pattern text,
      (piece.write replace).filter keep = piece.cover.filter keep := by
    intro piece isPiece
    cases piece with
    | kept char => rfl
    | found whole =>
        obtain ⟨rest, matched⟩ := matched_of_mem_piecesFrom sound isPiece
        exact kept whole rest matched
  calc (replaceAll pattern replace text).filter keep
    _ = (pieces pattern text).flatMap fun piece =>
          (piece.write replace).filter keep := List.filter_flatMap
    _ = (pieces pattern text).flatMap fun piece =>
          piece.cover.filter keep := List.flatMap_congr same
    _ = ((pieces pattern text).flatMap Piece.cover).filter keep :=
          List.filter_flatMap.symm
    _ = text.filter keep := by rw [flatMap_cover sound]

theorem map_seen_piecesFrom (skipped : Nat) (text : List α) :
    (piecesFrom pattern skipped text).map Piece.seen =
      piecesFrom pattern skipped (units text) := by
  induction text generalizing skipped with
  | nil => cases skipped <;> rfl
  | cons char rest inductionHypothesis =>
      cases skipped with
      | succ skipped => exact inductionHypothesis skipped
      | zero =>
          rw [units_cons]
          unfold piecesFrom
          rw [units_eq, ← units_cons]
          cases matched : pattern (units (char :: rest)) with
          | none =>
              rw [List.map_cons, inductionHypothesis]
              rfl
          | some length =>
              rw [List.map_cons, inductionHypothesis]
              simp [Piece.seen, units, List.map_take]

/-- The pieces that the code sees do not depend on the marks. -/
theorem map_seen_pieces (text : List α) :
    (pieces pattern text).map Piece.seen = pieces pattern (units text) :=
  map_seen_piecesFrom 0 text

theorem units_replaceAll
    {seen : JsString → JsString}
    (alike : ∀ whole : List α, units (replace whole) = seen (units whole))
    (text : List α) :
    units (replaceAll pattern replace text) =
      replaceAll pattern seen (units text) := by
  unfold replaceAll
  rw [units_flatMap, ← map_seen_pieces, List.flatMap_map]
  apply List.flatMap_congr
  intro piece _
  cases piece with
  | kept char => rfl
  | found whole => exact alike whole

end Replace

/-! ## One character -/

/-- A pattern of one character. -/
def Pattern.one (code : UInt16) : Pattern := fun text =>
  if text.head? = some code then some 1 else none

section One

variable {α : Type} [Ink α] {code : UInt16}

/-- Each character is replaced on its own. -/
theorem replaceAll_one (replace : List α → List α) (text : List α) :
    replaceAll (.one code) replace text =
      text.flatMap fun char =>
        if unit char = code then replace [char] else [char] := by
  induction text with
  | nil => rfl
  | cons char rest inductionHypothesis =>
      unfold replaceAll pieces piecesFrom
      rw [List.flatMap_cons, ← inductionHypothesis]
      by_cases isCode : unit char = code
      · simp [Pattern.one, isCode, Piece.write, replaceAll, pieces]
      · simp [Pattern.one, isCode, Piece.write, replaceAll, pieces]

end One

/-! ## Lines -/

section Join

variable {α : Type}

/-- The lines of two texts in a row, given the lines of each. -/
def joinLast : List (List α) → List (List α) → List (List α)
  | [], right => right
  | [last], [] => [last]
  | [last], first :: right => (last ++ first) :: right
  | line :: next :: more, right => line :: joinLast (next :: more) right

/-- Texts that are alike line by line, for a relation that is kept by joining,
can be joined. -/
theorem forall₂_joinLast
    {alike : List α → List α → Prop}
    (joined : ∀ {a b c d}, alike a b → alike c d → alike (a ++ c) (b ++ d))
    {left left' right right' : List (List α)}
    (leftAlike : List.Forall₂ alike left left')
    (rightAlike : List.Forall₂ alike right right') :
    List.Forall₂ alike (joinLast left right) (joinLast left' right') := by
  induction leftAlike with
  | nil => exact rightAlike
  | cons line lines inductionHypothesis =>
      cases lines with
      | nil =>
          cases rightAlike with
          | nil => exact .cons line .nil
          | cons first others => exact .cons (joined line first) others
      | cons next more => exact .cons line inductionHypothesis

end Join

section Lines

variable {α : Type} [Ink α]

theorem linesOf_ne_nil (text : List α) : linesOf text ≠ [] := by
  cases text with
  | nil => exact List.cons_ne_nil _ _
  | cons char rest =>
      unfold linesOf
      split
      · exact List.cons_ne_nil _ _
      · split <;> exact List.cons_ne_nil _ _

theorem linesOf_cons_of_ne
    {char : α}
    {rest line : List α}
    {lines : List (List α)}
    (notNewline : unit char ≠ 10)
    (isRest : linesOf rest = line :: lines) :
    linesOf (char :: rest) = (char :: line) :: lines := by
  rw [linesOf, if_neg notNewline, isRest]

theorem linesOf_append (left right : List α) :
    linesOf (left ++ right) = joinLast (linesOf left) (linesOf right) := by
  induction left with
  | nil =>
      obtain ⟨first, others, isRight⟩ :=
        List.exists_cons_of_ne_nil (linesOf_ne_nil right)
      rw [List.nil_append, isRight]
      rfl
  | cons char rest inductionHypothesis =>
      obtain ⟨line, lines, isRest⟩ :=
        List.exists_cons_of_ne_nil (linesOf_ne_nil rest)
      rw [isRest] at inductionHypothesis
      rw [List.cons_append]
      by_cases newline : unit char = 10
      · rw [linesOf, linesOf, if_pos newline, if_pos newline,
          inductionHypothesis, isRest]
        rfl
      · rw [linesOf_cons_of_ne newline isRest]
        cases lines with
        | nil =>
            obtain ⟨first, others, isRight⟩ :=
              List.exists_cons_of_ne_nil (linesOf_ne_nil right)
            rw [isRight] at inductionHypothesis ⊢
            exact linesOf_cons_of_ne newline inductionHypothesis
        | cons next more =>
            exact linesOf_cons_of_ne newline inductionHypothesis

/-- The lines have no other characters than the text. -/
theorem mem_of_mem_linesOf
    {text line : List α}
    (isLine : line ∈ linesOf text)
    {char : α}
    (present : char ∈ line) :
    char ∈ text := by
  induction text generalizing line with
  | nil =>
      rw [List.mem_singleton.mp isLine] at present
      contradiction
  | cons first rest inductionHypothesis =>
      obtain ⟨head, lines, isRest⟩ :=
        List.exists_cons_of_ne_nil (linesOf_ne_nil rest)
      by_cases newline : unit first = 10
      · rw [linesOf, if_pos newline] at isLine
        rcases List.mem_cons.mp isLine with rfl | later
        · contradiction
        · exact List.mem_cons_of_mem _ (inductionHypothesis later present)
      · rw [linesOf_cons_of_ne newline isRest] at isLine
        rw [isRest] at inductionHypothesis
        rcases List.mem_cons.mp isLine with rfl | later
        · rcases List.mem_cons.mp present with rfl | inHead
          · exact List.mem_cons_self
          · exact List.mem_cons_of_mem _
              (inductionHypothesis List.mem_cons_self inHead)
        · exact List.mem_cons_of_mem _
            (inductionHypothesis (List.mem_cons_of_mem _ later) present)

theorem linesOf_of_notMem
    {text : List α}
    (absent : 10 ∉ units text) :
    linesOf text = [text] := by
  induction text with
  | nil => rfl
  | cons char rest inductionHypothesis =>
      rw [units_cons, List.mem_cons, not_or] at absent
      obtain ⟨isOther, absentRest⟩ := absent
      exact linesOf_cons_of_ne (Ne.symm isOther)
        (inductionHypothesis absentRest)

/-- A character by character change that keeps the line feeds changes the lines
one by one. -/
theorem linesOf_flatMap
    {write : α → List α}
    (newline : ∀ char, unit char = 10 → write char = [char])
    (other : ∀ char, unit char ≠ 10 → 10 ∉ units (write char))
    (text : List α) :
    linesOf (text.flatMap write) =
      (linesOf text).map fun line => line.flatMap write := by
  induction text with
  | nil => rfl
  | cons char rest inductionHypothesis =>
      obtain ⟨line, lines, isRest⟩ :=
        List.exists_cons_of_ne_nil (linesOf_ne_nil rest)
      rw [List.flatMap_cons, linesOf_append, inductionHypothesis, isRest]
      by_cases isNewline : unit char = 10
      · rw [newline char isNewline, linesOf, linesOf, if_pos isNewline, linesOf,
          if_pos isNewline, isRest]
        rfl
      · rw [linesOf_of_notMem (other char isNewline),
          linesOf_cons_of_ne isNewline isRest]
        rfl

end Lines

end EvoPlatform
