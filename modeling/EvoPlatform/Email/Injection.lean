import EvoPlatform.Email.Marks
import EvoPlatform.Email.Markup

/-!
# Values inject no markup

The brackets of the html part do not depend on the values, and none of its
quotation marks comes from a value.
-/

namespace EvoPlatform
namespace Email

open Ink

/-! ## Where the characters come from -/

/-- Where a character of a message comes from. -/
inductive Source
  /-- The layout, the inline styles and the built-in templates. -/
  | program
  /-- The saved copy. -/
  | copy
  | value
  /-- The link. -/
  | address
  /-- The names of the platform and the company. -/
  | brand

instance : Inhabited Source := ⟨.program⟩

/-- A string with marks. -/
def marked (source : Source) (text : JsString) : List (Glyph Source) :=
  text.map fun code => ⟨code, source⟩

theorem units_marked (source : Source) (text : JsString) :
    units (marked source text) = text := by
  unfold units marked
  rw [List.map_map]
  exact List.map_id text

def markedCopy (copy : TemplateCopy UInt16) : TemplateCopy (Glyph Source) where
  subject := marked .copy copy.subject
  heading := marked .copy copy.heading
  intro := marked .copy copy.intro
  actionLabel := copy.actionLabel.map (marked .copy)
  outro := marked .copy copy.outro

def markedSaved (saved : Except String (Option (TemplateCopy UInt16))) :
    Except String (Option (TemplateCopy (Glyph Source))) :=
  saved.map fun row => row.map markedCopy

def markedVars (vars : Vars UInt16) : Vars (Glyph Source) := fun key =>
  (vars key).map (marked .value)

def markedBrand (brand : Brand UInt16) : Brand (Glyph Source) :=
  ⟨marked .brand brand.platformName, marked .brand brand.company⟩

/-- The message, each character with where it comes from. -/
def markedRender (brand : Brand UInt16) (code : String)
    (saved : Except String (Option (TemplateCopy UInt16)))
    (vars : Vars UInt16) (actionUrl : Option JsString) :
    Except RenderError (RenderedMessage (Glyph Source)) :=
  render (markedBrand brand) code (markedSaved saved) (markedVars vars)
    (actionUrl.map (marked .address))

/-- Without the marks it is the message. -/
theorem seen_markedRender
    (brand : Brand UInt16)
    (code : String)
    (saved : Except String (Option (TemplateCopy UInt16)))
    (vars : Vars UInt16)
    (actionUrl : Option JsString) :
    (markedRender brand code saved vars actionUrl).map RenderedMessage.seen =
      render brand code saved vars actionUrl := by
  have brandSeen : (markedBrand brand).seen = brand := by
    simp only [markedBrand, Brand.seen, units_marked]
  have savedSeen : seenSaved (markedSaved saved) = saved := by
    rcases saved with problem | _ | row
    · rfl
    · rfl
    · simp [seenSaved, markedSaved, Except.map, markedCopy, TemplateCopy.seen,
        units_marked, Function.comp_def]
  have varsSeen : (markedVars vars).seen = vars := by
    funext key
    simp [Vars.seen, markedVars, units_marked, Function.comp_def]
  have urlSeen : (actionUrl.map (marked .address)).map units = actionUrl := by
    simp [units_marked, Function.comp_def]
  rw [markedRender, seen_render, brandSeen, savedSeen, varsSeen, urlSeen]

/-! ## Quotation marks -/

/-- A quotation mark comes from the program or the saved copy. -/
def Quotable (glyph : Glyph Source) : Prop :=
  glyph.unit = QUOT ∨ glyph.unit = APOS →
    glyph.mark = .program ∨ glyph.mark = .copy

/-- All quotation marks of a text do. -/
def AllQuotable (text : List (Glyph Source)) : Prop :=
  ∀ glyph ∈ text, Quotable glyph

variable {text : List (Glyph Source)}

theorem allQuotable_append
    {left right : List (Glyph Source)} :
    AllQuotable (left ++ right) ↔ AllQuotable left ∧ AllQuotable right :=
  List.forall_mem_append

theorem AllQuotable.subset
    {part : List (Glyph Source)}
    (all : AllQuotable text)
    (within : part ⊆ text) :
    AllQuotable part :=
  fun glyph present => all glyph (within present)

theorem allQuotable_literal (written : String) :
    AllQuotable (literal written) := by
  intro glyph present
  obtain ⟨code, -, rfl⟩ := List.mem_map.mp present
  exact fun _ => Or.inl rfl

theorem allQuotable_esc (text : List (Glyph Source)) :
    AllQuotable (esc text) := by
  intro glyph present
  obtain ⟨-, -, notQuote, notApostrophe⟩ :=
    ne_of_mem_units_esc (List.mem_map_of_mem present)
  rintro (isQuote | isApostrophe)
  · exact absurd isQuote notQuote
  · exact absurd isApostrophe notApostrophe

theorem allQuotable_substitute
    {vars : Vars (Glyph Source)}
    {piece : Piece (Glyph Source)}
    (ofPiece : AllQuotable piece.cover)
    (isText : substitute vars true piece = some text) :
    AllQuotable text := by
  cases piece with
  | kept char =>
      injection isText with isText
      rw [← isText]
      exact ofPiece
  | found whole =>
      rw [substitute] at isText
      split at isText
      next value _ =>
        injection isText with isText
        rw [← isText]
        exact allQuotable_esc value
      next =>
        split at isText
        next =>
          injection isText with isText
          rw [← isText]
          exact ofPiece
        next => contradiction

theorem allQuotable_fillPieces
    {vars : Vars (Glyph Source)}
    {list : List (Piece (Glyph Source))}
    (ofPieces : ∀ piece ∈ list, AllQuotable piece.cover)
    (isText : fillPieces vars true list = some text) :
    AllQuotable text := by
  induction list generalizing text with
  | nil =>
      injection isText with isNil
      rw [← isNil]
      exact List.forall_mem_nil Quotable
  | cons piece rest inductionHypothesis =>
      obtain ⟨written, more, isWritten, isMore, rfl⟩ :=
        fillPieces_cons_eq_some_iff.mp isText
      obtain ⟨ofPiece, ofRest⟩ := List.forall_mem_cons.mp ofPieces
      exact allQuotable_append.mpr ⟨allQuotable_substitute ofPiece isWritten,
        inductionHypothesis ofRest isMore⟩

theorem allQuotable_fill
    {template : List (Glyph Source)}
    {vars : Vars (Glyph Source)}
    (ofTemplate : AllQuotable template)
    (isText : fill template vars true = some text) :
    AllQuotable text := by
  apply allQuotable_fillPieces _ isText
  intro piece isPiece
  exact ofTemplate.subset fun _ => mem_of_mem_cover placeholder_sound isPiece

theorem allQuotable_toHtml (ofText : AllQuotable text) :
    AllQuotable (toHtml text) := by
  unfold toHtml
  split
  next => exact ofText
  next =>
    intro glyph present
    obtain ⟨line, isLine, inLine⟩ := List.mem_flatMap.mp present
    obtain ⟨whole, isWhole, rfl⟩ :=
      List.mem_map.mp (List.mem_filter.mp isLine).1
    have trimmed : AllQuotable (trim whole) := by
      apply ofText.subset
      intro glyph within
      have inWhole := (List.dropWhile_suffix _).subset
        ((List.rdropWhile_prefix _ _).subset within)
      exact mem_of_mem_linesOf isWhole inWhole
    have paragraph := allQuotable_append.mpr ⟨allQuotable_append.mpr
      ⟨allQuotable_literal "<p>", trimmed⟩, allQuotable_literal "</p>"⟩
    exact paragraph glyph inLine

theorem allQuotable_styleParagraphs (ofText : AllQuotable text) :
    AllQuotable (styleParagraphs text) := by
  have constant (written : String) (whole : List (Glyph Source))
      (_ : AllQuotable whole) : AllQuotable (literal written) :=
    allQuotable_literal written
  have listed (written : String) (whole : List (Glyph Source))
      (ofWhole : AllQuotable whole) :
      AllQuotable (literal "<" ++ whole.tail ++ literal written) :=
    allQuotable_append.mpr ⟨allQuotable_append.mpr
      ⟨allQuotable_literal "<", ofWhole.subset fun _ => List.mem_of_mem_tail⟩,
      allQuotable_literal written⟩
  unfold styleParagraphs
  apply forall_mem_replaceAll (unstyled_sound (by decide)) (constant _)
  apply forall_mem_replaceAll (unstyled_sound (by decide)) (constant _)
  apply forall_mem_replaceAll (unstyled_sound (by decide)) (listed _)
  exact forall_mem_replaceAll (unstyled_sound (by decide)) (constant _) ofText

theorem allQuotable_htmlPart
    {company : List (Glyph Source)}
    {body : EmailBody (Glyph Source)}
    (intro : AllQuotable body.intro)
    (outro : AllQuotable body.outro) :
    AllQuotable (htmlPart company body) := by
  have ofButton : AllQuotable (button body.action) := by
    cases body.action with
    | none => exact List.forall_mem_nil Quotable
    | some action =>
        simp only [button, allQuotable_append, allQuotable_literal,
          allQuotable_esc, and_self]
  simp only [htmlPart, allQuotable_append, allQuotable_literal,
    allQuotable_esc, allQuotable_styleParagraphs intro,
    allQuotable_styleParagraphs outro, ofButton, and_self]

/-- The quotation marks of the paragraphs of a copy come from it. -/
def QuotableCopy (copy : TemplateCopy (Glyph Source)) : Prop :=
  AllQuotable copy.intro ∧ AllQuotable copy.outro

theorem quotableCopy_of_templateByCode
    {code : String}
    {seed : TemplateCopy (Glyph Source)}
    (known : templateByCode code = some seed) :
    QuotableCopy seed := by
  unfold templateByCode at known
  split at known
  all_goals first
    | contradiction
    | injection known with isSeed
      subst isSeed
      constructor
      all_goals simp only [passwordReset, emailVerify, memberInvite,
        workspaceList, allQuotable_append, allQuotable_literal, and_self]

theorem quotableCopy_markedCopy (copy : TemplateCopy UInt16) :
    QuotableCopy (markedCopy copy) := by
  have ofCopy (text : JsString) : AllQuotable (marked .copy text) := by
    intro glyph present
    obtain ⟨code, -, rfl⟩ := List.mem_map.mp present
    exact fun _ => Or.inr rfl
  exact ⟨ofCopy copy.intro, ofCopy copy.outro⟩

theorem allQuotable_of_compose
    {brand : Brand (Glyph Source)}
    {copy : TemplateCopy (Glyph Source)}
    (ofCopy : QuotableCopy copy)
    {vars : Vars (Glyph Source)}
    {actionUrl : Option (List (Glyph Source))}
    {body : EmailBody (Glyph Source)}
    {subject : List (Glyph Source)}
    (composed : compose brand copy vars actionUrl = some (body, subject)) :
    AllQuotable (htmlPart brand.company body) := by
  obtain ⟨isBody, -⟩ := compose_eq_some_iff.mp composed
  obtain ⟨heading, intro, action, outro, -, isIntro, -, isOutro, rfl⟩ :=
    toBody_eq_some_iff.mp isBody
  exact allQuotable_htmlPart
    (allQuotable_toHtml (allQuotable_fill ofCopy.1 isIntro))
    (allQuotable_toHtml (allQuotable_fill ofCopy.2 isOutro))

/-- No quotation mark of a message comes from a value. -/
theorem allQuotable_of_markedRender
    {brand : Brand UInt16}
    {code : String}
    {saved : Except String (Option (TemplateCopy UInt16))}
    {vars : Vars UInt16}
    {actionUrl : Option JsString}
    {message : RenderedMessage (Glyph Source)}
    (rendered : markedRender brand code saved vars actionUrl = .ok message) :
    AllQuotable message.html := by
  unfold markedRender render at rendered
  cases known : (templateByCode code : Option (TemplateCopy (Glyph Source))) with
  | none =>
      rw [known] at rendered
      contradiction
  | some seed =>
      rw [known] at rendered
      dsimp only at rendered
      have ofSeed := quotableCopy_of_templateByCode known
      have ofChosen : QuotableCopy (chosenCopy seed (markedSaved saved)) := by
        rcases saved with problem | _ | row
        · exact ofSeed
        · exact ofSeed
        · unfold markedSaved chosenCopy Except.map
          dsimp only [Option.map_some]
          split
          · exact quotableCopy_markedCopy row
          · exact ofSeed
      split at rendered
      next => contradiction
      next body subject made =>
        injection rendered with isMessage
        rw [← isMessage]
        rcases Option.or_eq_some_iff.mp made with tried | ⟨-, fallen⟩
        · exact allQuotable_of_compose ofChosen tried
        · exact allQuotable_of_compose ofSeed fallen

/-! ## The messages of two assignments -/

/-- The message of a marked run, without quotation marks from values. -/
def QuotesTraced (brand : Brand UInt16) (code : String)
    (saved : Except String (Option (TemplateCopy UInt16)))
    (vars : Vars UInt16) (actionUrl : Option JsString)
    (message : RenderedMessage UInt16) : Prop :=
  ∃ traced, markedRender brand code saved vars actionUrl = .ok traced ∧
    traced.seen = message ∧ AllQuotable traced.html

theorem quotesTraced_of_render
    {brand : Brand UInt16}
    {code : String}
    {saved : Except String (Option (TemplateCopy UInt16))}
    {vars : Vars UInt16}
    {actionUrl : Option JsString}
    {message : RenderedMessage UInt16}
    (rendered : render brand code saved vars actionUrl = .ok message) :
    QuotesTraced brand code saved vars actionUrl message := by
  have seen := seen_markedRender brand code saved vars actionUrl
  rw [rendered] at seen
  cases run : markedRender brand code saved vars actionUrl with
  | error problem =>
      rw [run] at seen
      contradiction
  | ok traced =>
      rw [run] at seen
      injection seen with isMessage
      exact ⟨traced, run, isMessage, allQuotable_of_markedRender run⟩

/-- For two assignments of values with the same lines: the html parts have the
same brackets, and no quotation mark comes from a value. -/
theorem values_inject_no_markup
    (brand : Brand UInt16)
    {code : String}
    (known : (templateByCode (α := UInt16) code).isSome)
    {saved : Except String (Option (TemplateCopy UInt16))}
    (clear : ∀ row, saved = .ok (some row) → ClearCopy row = true)
    {first second : Vars UInt16}
    (same : SameShape first second)
    (actionUrl : Option JsString) :
    ∃ one two, render brand code saved first actionUrl = .ok one ∧
      render brand code saved second actionUrl = .ok two ∧
      angles one.html = angles two.html ∧
      QuotesTraced brand code saved first actionUrl one ∧
      QuotesTraced brand code saved second actionUrl two := by
  obtain ⟨one, two, isOne, isTwo, brackets⟩ :=
    exists_render_same same brand known clear actionUrl
  exact ⟨one, two, isOne, isTwo, brackets, quotesTraced_of_render isOne,
    quotesTraced_of_render isTwo⟩

/-! ## Quoted attribute values -/

/-- Where in the markup of a copy a character stands. -/
inductive Place
  | text
  /-- Directly after a bracket. -/
  | opened
  | tag
  /-- In the value of an attribute. -/
  | quoted (mark : UInt16)
  deriving DecidableEq

def Place.next (place : Place) (code : UInt16) : Place :=
  match place with
  | .text => if code = LT then .opened else .text
  | .opened =>
      if code = LT then .opened
      else if isLetter code || code = SLASH || code = 33 || code = 63 then .tag
      else .text
  | .tag =>
      if code = GT then .text
      else if code = QUOT || code = APOS then .quoted code
      else .tag
  | .quoted mark => if code = mark then .tag else .quoted mark

def Place.isQuoted : Place → Bool
  | .quoted _ => true
  | _ => false

/-- Placeholders stand in text, not directly after a bracket, or in quoted
attribute values. -/
def placedFrom : Place → List (Piece UInt16) → Bool
  | _, [] => true
  | place, .kept code :: rest => placedFrom (place.next code) rest
  | place, .found _ :: rest =>
      (place = .text || place.isQuoted) && placedFrom place rest

def Placed (template : JsString) : Bool :=
  placedFrom .text (pieces placeholder template)

/-- No quoted attribute value has an opening bracket. -/
def unnestedFrom : Place → List (Piece UInt16) → Bool
  | _, [] => true
  | place, .kept code :: rest =>
      !(place.isQuoted && code = LT) && unnestedFrom (place.next code) rest
  | place, .found _ :: rest => unnestedFrom place rest

def Unnested (template : JsString) : Bool :=
  unnestedFrom .text (pieces placeholder template)

/-- What precedes a character in its place. -/
def Place.Follows (place : Place) (before : Before) : Prop :=
  match place with
  | .text => before = .other
  | .opened => before = .bracket
  | .tag => True
  | .quoted _ => before = .other

theorem Place.Follows.next
    {place : Place}
    {before : Before}
    (follows : place.Follows before)
    {code : UInt16}
    (unnested : (place.isQuoted && code = LT) = false) :
    (place.next code).Follows (before.next code) := by
  -- A sign that ends or quotes is neither a letter nor part of a word.
  have sign {before : Before} (isLess : code ≠ LT) (notWord : isWord code = false)
      (notLetter : isLetter code = false) : before.next code = .other := by
    cases before <;> simp [Before.next, isLess, notWord, notLetter]
  cases place with
  | text =>
      have isBefore : before = .other := follows
      subst isBefore
      by_cases isLess : code = LT <;>
        simp [Place.next, Before.next, Place.Follows, isLess]
  | opened =>
      have isBefore : before = .bracket := follows
      subst isBefore
      by_cases isLess : code = LT
      · simp [Place.next, Before.next, Place.Follows, isLess]
      · simp only [Place.next, isLess, if_false]
        split
        next => trivial
        next notOpened =>
          simp only [Bool.or_eq_true, not_or, Bool.not_eq_true] at notOpened
          simp [Before.next, Place.Follows, isLess, notOpened.1.1.1]
  | tag =>
      unfold Place.next
      dsimp only
      split_ifs with isGreater isMark
      · subst isGreater
        exact sign (by decide) rfl rfl
      · rw [Bool.or_eq_true, decide_eq_true_eq, decide_eq_true_eq] at isMark
        rcases isMark with rfl | rfl
        · exact sign (by decide) rfl rfl
        · exact sign (by decide) rfl rfl
      · trivial
  | quoted mark =>
      have isBefore : before = .other := follows
      subst isBefore
      have notLess : code ≠ LT := by
        simpa [Place.isQuoted] using unnested
      unfold Place.next
      dsimp only
      split_ifs
      · trivial
      · simp [Before.next, Place.Follows, notLess]

theorem clearFrom_of_placedFrom
    {place : Place}
    {before : Before}
    (follows : place.Follows before)
    {list : List (Piece UInt16)}
    (placed : placedFrom place list = true)
    (unnested : unnestedFrom place list = true) :
    clearFrom before list = true := by
  induction list generalizing place before with
  | nil => rfl
  | cons piece rest inductionHypothesis =>
      cases piece with
      | kept code =>
          simp only [unnestedFrom, Bool.and_eq_true, Bool.not_eq_true'] at unnested
          exact inductionHypothesis (follows.next unnested.1) placed unnested.2
      | found whole =>
          simp only [placedFrom, Bool.and_eq_true] at placed
          have isOther : before = .other := by
            cases place with
            | text => exact follows
            | opened => exact absurd placed.1 (by decide)
            | tag => exact absurd placed.1 (by decide)
            | quoted mark => exact follows
          subst isOther
          simp only [clearFrom, decide_true, Bool.true_and]
          exact inductionHypothesis follows placed.2 unnested

/-- Without brackets in quoted attribute values such placeholders do not
continue the name of a tag. -/
theorem clear_of_placed
    {template : JsString}
    (placed : Placed template = true)
    (unnested : Unnested template = true) :
    Clear template = true :=
  @clearFrom_of_placedFrom .text .other rfl _ placed unnested

/-- A row with a paragraph. -/
def rowOf (intro : String) : TemplateCopy UInt16 where
  subject := literal "Reset"
  heading := literal "Reset"
  intro := literal intro
  actionLabel := none
  outro := []

theorem sameShape_record
    {name one two : String}
    (same : SameLines (JsString.ofText one) (JsString.ofText two)) :
    SameShape (record [(name, one)]) (record [(name, two)]) := by
  intro key
  unfold record
  by_cases isKey : JsString.ofText name = key
  · simpa [isKey, literal_eq] using same
  · simp [isKey]

/-- Placeholders in text and in a quoted attribute value. -/
def titledRow : TemplateCopy UInt16 :=
  rowOf "<p title=\"\x7b\x7bx\x7d\x7d\">\x7b\x7bx\x7d\x7d</p>"

theorem values_inject_no_markup_titled :
    ∃ one two,
      render defaultBrand "password_reset" (.ok (some titledRow))
        (record [("x", "re")]) none = .ok one ∧
      render defaultBrand "password_reset" (.ok (some titledRow))
        (record [("x", "-")]) none = .ok two ∧
      angles one.html = angles two.html := by
  have known : (templateByCode (α := UInt16) "password_reset").isSome := rfl
  have clear : ∀ row, Except.ok (some titledRow) =
      (.ok (some row) : Except String (Option (TemplateCopy UInt16))) →
        ClearCopy row = true := by
    intro row isRow
    injection isRow with isRow
    injection isRow with isRow
    rw [← isRow]
    decide +kernel
  have lines : SameLines (JsString.ofText "re") (JsString.ofText "-") := by
    decide +kernel
  obtain ⟨one, two, isOne, isTwo, brackets, -⟩ := values_inject_no_markup
    defaultBrand known clear (sameShape_record lines) none
  exact ⟨one, two, isOne, isTwo, brackets⟩

/-! ## A value that ends a name in a quoted value -/

/-- A placeholder after a bracket and a letter in a quoted attribute value. -/
def nestedRow : TemplateCopy UInt16 :=
  rowOf "<a title=\"<p\x7b\x7bx\x7d\x7d\">hi</a>"

/-- The body of its messages. -/
def nestedBody (intro : String) : EmailBody UInt16 where
  product := literal "evo.platform"
  heading := literal "Reset"
  intro := literal intro
  action := none
  outro := []

/-- The shell adds the same brackets to every paragraph. -/
theorem angles_of_angles_htmlPart
    {company : JsString}
    {one two : String}
    (same : angles (htmlPart company (nestedBody one)) =
      angles (htmlPart company (nestedBody two))) :
    angles (JsString.ofText one) = angles (JsString.ofText two) := by
  simpa only [htmlPart, nestedBody, angles_append, angles_styleParagraphs,
    List.append_cancel_right_eq, List.append_cancel_left_eq, literal_eq]
    using same

/-- The placeholder stands in a quoted attribute value, and two values of the
same shape make messages with other brackets. -/
theorem nestedRow_brackets_differ :
    Placed nestedRow.intro = true ∧ Placed nestedRow.outro = true ∧
      SameShape (record [("x", "re")]) (record [("x", "-")]) ∧
      ∃ one two,
        render defaultBrand "password_reset" (.ok (some nestedRow))
          (record [("x", "re")]) none = .ok one ∧
        render defaultBrand "password_reset" (.ok (some nestedRow))
          (record [("x", "-")]) none = .ok two ∧
        angles one.html ≠ angles two.html := by
  have lines : SameLines (JsString.ofText "re") (JsString.ofText "-") := by
    decide +kernel
  have known : templateByCode "password_reset" =
      some (passwordReset : TemplateCopy UInt16) := rfl
  have chosen : chosenCopy passwordReset (.ok (some nestedRow)) = nestedRow := by
    unfold chosenCopy
    exact if_pos (by decide +kernel)
  have made (value intro : String) (composed : compose defaultBrand nestedRow
        (record [("x", value)]) none =
          some (nestedBody intro, literal "Reset")) :
      render defaultBrand "password_reset" (.ok (some nestedRow))
        (record [("x", value)]) none =
          .ok ⟨literal "Reset", htmlPart defaultBrand.company (nestedBody intro),
            textPart defaultBrand.company (nestedBody intro)⟩ := by
    apply render_of_known _ known
    rw [chosen, composed]
    rfl
  refine ⟨by decide +kernel, by decide +kernel, sameShape_record lines, _, _,
    made "re" "<p><a title=\"<pre\">hi</a></p>" (by decide +kernel),
    made "-" "<a title=\"<p-\">hi</a>" (by decide +kernel), ?_⟩
  intro brackets
  have same := angles_of_angles_htmlPart brackets
  revert same
  decide +kernel

end Email
end EvoPlatform
