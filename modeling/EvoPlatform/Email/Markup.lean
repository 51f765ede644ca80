import EvoPlatform.Email.BuiltIn

/-!
# The markup of a message

The angle brackets of the html part do not depend on the values that are filled
in, as long as the values have the same lines and no placeholder continues what
may become the name of a tag.
-/

namespace EvoPlatform
namespace Email

open Ink

/-! ## Case -/

theorem toNat_fold (code : UInt16) :
    (fold code).toNat =
      if 65 ≤ code.toNat ∧ code.toNat ≤ 90 then code.toNat + 32
      else code.toNat := by
  have small := code.toNat_lt
  unfold fold
  simp only [Bool.and_eq_true, decide_eq_true_eq, UInt16.le_iff_toNat_le,
    show UInt16.toNat 65 = 65 from rfl, show UInt16.toNat 90 = 90 from rfl]
  split
  next upper =>
    rw [UInt16.toNat_add, show UInt16.toNat 32 = 32 from rfl]
    omega
  next => rfl

/-- A sign before the letters has no other case. -/
theorem fold_eq_iff
    {code sign : UInt16}
    (before : sign < 65) :
    fold code = sign ↔ code = sign := by
  rw [UInt16.lt_iff_toNat_lt, show UInt16.toNat 65 = 65 from rfl] at before
  rw [← UInt16.toNat_inj, ← UInt16.toNat_inj, toNat_fold]
  split <;> omega

def isLetter (code : UInt16) : Bool :=
  (65 ≤ code && code ≤ 90) || (97 ≤ code && code ≤ 122)

theorem isLetter_fold (code : UInt16) :
    isLetter (fold code) = isLetter code := by
  rw [Bool.eq_iff_iff]
  simp only [isLetter, Bool.and_eq_true, Bool.or_eq_true, decide_eq_true_eq,
    UInt16.le_iff_toNat_le, toNat_fold, UInt16.reduceToNat]
  split <;> omega

theorem isWord_fold (code : UInt16) : isWord (fold code) = isWord code := by
  rw [Bool.eq_iff_iff]
  simp only [isWord, Bool.and_eq_true, Bool.or_eq_true, decide_eq_true_eq,
    UInt16.le_iff_toNat_le, ← UInt16.toNat_inj, toNat_fold,
    UInt16.reduceToNat]
  split <;> omega

/-! ## Angle brackets -/

/-- The character is an angle bracket. -/
def isAngle (code : UInt16) : Bool := code = LT || code = GT

/-- The angle brackets of a string, in order. -/
def angles (text : JsString) : JsString := text.filter isAngle

@[simp] theorem angles_nil : angles [] = [] := rfl

@[simp] theorem angles_append (left right : JsString) :
    angles (left ++ right) = angles left ++ angles right :=
  List.filter_append ..

theorem angles_map_fold (text : JsString) :
    angles (text.map fold) = angles text := by
  induction text with
  | nil => rfl
  | cons code rest inductionHypothesis =>
      have less : fold code = LT ↔ code = LT := fold_eq_iff (by decide)
      have greater : fold code = GT ↔ code = GT := fold_eq_iff (by decide)
      have same : isAngle (fold code) = isAngle code := by
        simp only [isAngle, less, greater]
      unfold angles at inductionHypothesis ⊢
      rw [List.map_cons, List.filter_cons, List.filter_cons, same,
        inductionHypothesis]
      split
      next isBracket =>
        rw [isAngle, Bool.or_eq_true, decide_eq_true_eq, decide_eq_true_eq]
          at isBracket
        rcases isBracket with isLess | isGreater
        · rw [less.mpr isLess, isLess]
        · rw [greater.mpr isGreater, isGreater]
      next => rfl

/-- An escaped text has no brackets. -/
theorem angles_esc (value : JsString) : angles (esc value) = [] := by
  apply List.filter_eq_nil_iff.mpr
  intro code present
  rw [← units_eq (esc value)] at present
  obtain ⟨notLess, notGreater, -⟩ := ne_of_mem_units_esc present
  simp [isAngle, notLess, notGreater]

/-! ## Styles add no brackets -/

theorem length_ofText (text : String) :
    (JsString.ofText text).length = text.length := by
  rw [JsString.ofText, List.length_map]
  exact String.length_toList

/-- What a style is added to, in any case. -/
theorem of_unstyled
    {words : List String}
    {text : JsString}
    {length : Nat}
    (matched : unstyled words text = some length) :
    ∃ word ∈ words, length = word.length ∧
      JsString.ofText word <+: text.map fold := by
  obtain ⟨word, isWord, found⟩ := List.exists_of_findSome?_eq_some matched
  split at found
  next starts =>
    rw [Bool.and_eq_true] at starts
    injection found with isLength
    exact ⟨word, isWord, isLength.symm, List.isPrefixOf_iff_prefix.mp starts.1⟩
  next => contradiction

theorem unstyled_sound
    {words : List String}
    (nonempty : ∀ word ∈ words, 0 < word.length) :
    (unstyled words).Sound := by
  intro text length matched
  obtain ⟨word, isWord, rfl, begins⟩ := of_unstyled matched
  have shorter := begins.length_le
  rw [length_ofText, List.length_map] at shorter
  exact ⟨nonempty word isWord, shorter⟩

theorem unstyled_whole
    {words : List String}
    {whole rest : JsString}
    (matched : unstyled words (whole ++ rest) = some whole.length) :
    ∃ word ∈ words, whole.map fold = JsString.ofText word := by
  obtain ⟨word, isWord, isLength, begins⟩ := of_unstyled matched
  refine ⟨word, isWord, ?_⟩
  rw [List.map_append] at begins
  have prefixes := List.prefix_append (whole.map fold) (rest.map fold)
  refine (List.prefix_of_prefix_length_le prefixes begins ?_).eq_of_length ?_
  all_goals simp [length_ofText, isLength]

/-- A tag that is replaced by one bracket with text. -/
theorem angles_replaceAll_unstyled
    {words : List String}
    {replace : JsString → JsString}
    (nonempty : ∀ word ∈ words, 0 < word.length)
    (bracket : ∀ whole : JsString, ∀ word ∈ words,
      whole.map fold = JsString.ofText word →
        angles (replace whole) = angles whole)
    (text : JsString) :
    angles (replaceAll (unstyled words) replace text) = angles text := by
  apply filter_replaceAll (unstyled_sound nonempty)
  intro whole rest matched
  rw [units_eq] at matched
  obtain ⟨word, isWord, isWhole⟩ := unstyled_whole matched
  exact bracket whole word isWord isWhole

theorem angles_styleParagraphs (html : JsString) :
    angles (styleParagraphs html) = angles html := by
  have tag {word style : String}
      (same : angles (JsString.ofText style) = angles (JsString.ofText word)) :
      ∀ whole : JsString, ∀ begun ∈ [word], whole.map fold = JsString.ofText begun →
        angles (literal style) = angles whole := by
    intro whole begun isWord isWhole
    rw [List.mem_singleton.mp isWord] at isWhole
    rw [literal_eq, same, ← isWhole, angles_map_fold]
  have list {style : String} (plain : angles (JsString.ofText style) = []) :
      ∀ whole : JsString, ∀ begun ∈ ["<ul", "<ol"],
        whole.map fold = JsString.ofText begun →
          angles (literal "<" ++ whole.tail ++ literal style) =
            angles whole := by
    have opening : ∀ begun ∈ ["<ul", "<ol"],
        (JsString.ofText begun).head? = some LT := by
      decide +kernel
    intro whole begun isWord isWhole
    have first := opening begun isWord
    rw [← isWhole, List.head?_map, Option.map_eq_some_iff] at first
    obtain ⟨code, isHead, isLess⟩ := first
    obtain ⟨rest, rfl⟩ := List.head?_eq_some_iff.mp isHead
    rw [(fold_eq_iff (by decide)).mp isLess, literal_eq, literal_eq,
      angles_append, angles_append, plain, List.append_nil, List.tail_cons]
    rfl
  unfold styleParagraphs
  refine (angles_replaceAll_unstyled (by decide) (tag ?_) _).trans <|
    (angles_replaceAll_unstyled (by decide) (tag ?_) _).trans <|
    (angles_replaceAll_unstyled (by decide) (list ?_) _).trans <|
    angles_replaceAll_unstyled (by decide) (tag ?_) html
  all_goals decide +kernel

/-! ## Where placeholders stand -/

/-- What precedes a character: a bracket, what may become the name of a tag, or
neither. -/
inductive Before
  | bracket
  | name
  | other
  deriving DecidableEq

def Before.next (before : Before) (code : UInt16) : Before :=
  if code = LT then .bracket
  else
    match before with
    | .bracket => if isLetter code then .name else .other
    | .name => if isWord code then .name else .other
    | .other => .other

/-- No placeholder continues a bracket or the name of a tag. -/
def clearFrom : Before → List (Piece UInt16) → Bool
  | _, [] => true
  | before, .kept code :: rest => clearFrom (before.next code) rest
  | before, .found _ :: rest => before = .other && clearFrom .other rest

def Clear (template : JsString) : Bool :=
  clearFrom .other (pieces placeholder template)

/-- No placeholder of the paragraphs does. -/
def ClearCopy (copy : TemplateCopy UInt16) : Bool :=
  Clear copy.intro && Clear copy.outro

theorem clearCopy_of_templateByCode
    {code : String}
    {seed : TemplateCopy UInt16}
    (known : templateByCode code = some seed) :
    ClearCopy seed = true := by
  unfold templateByCode at known
  split at known
  all_goals first
    | contradiction
    | injection known with isSeed
      subst isSeed
      decide +kernel

/-! ## Blocks that values cannot make or break -/

/-- The names of the blocks. -/
def blockNames : List String :=
  ["p", "div", "ul", "ol", "br", "h1", "h2", "h3", "h4", "h5", "h6"]

/-- A name of a block that ends here. -/
def endsName (name : String) (text : JsString) : Bool :=
  startsAnyCase name text && !(text.drop name.length).head?.any isWord

def opensName (text : JsString) : Bool := blockNames.any (endsName · text)

theorem opensBlock_eq (text : JsString) :
    opensBlock text = blockNames.any fun name => endsName ("<" ++ name) text :=
  rfl

theorem endsName_bracket (name : String) (code : UInt16) (rest : JsString) :
    endsName ("<" ++ name) (code :: rest) =
      (decide (code = LT) && endsName name rest) := by
  have less : fold code = LT ↔ code = LT := fold_eq_iff (by decide)
  have isWord : JsString.ofText ("<" ++ name) = LT :: JsString.ofText name := by
    simp [JsString.ofText]
  have longer : ("<" ++ name).length = name.length + 1 := by
    rw [← length_ofText, isWord, List.length_cons, length_ofText]
  have first : (LT == fold code) = decide (code = LT) := by
    rw [Bool.eq_iff_iff, beq_iff_eq, decide_eq_true_eq, eq_comm]
    exact less
  rw [endsName, endsName, longer, List.drop_succ_cons, startsAnyCase, isWord,
    List.map_cons, List.isPrefixOf_cons_cons, first, Bool.and_assoc]
  rfl

theorem opensBlock_cons (code : UInt16) (rest : JsString) :
    opensBlock (code :: rest) = (decide (code = LT) && opensName rest) := by
  simp only [opensBlock_eq, endsName_bracket]
  unfold opensName
  cases decide (code = LT) with
  | true => rfl
  | false => simp

/-- The string is empty or what may be the beginning of a name. -/
def begunName (text : JsString) : Bool :=
  text.all isWord && text.head?.all isLetter

/-- What is no beginning of a name decides whether a name ends. -/
theorem begunName_of_begins
    {text name : JsString}
    (isName : begunName name = true)
    (begins : text.map fold <+: name) :
    begunName text = true := by
  unfold begunName at isName ⊢
  rw [Bool.and_eq_true] at isName ⊢
  obtain ⟨words, letter⟩ := isName
  constructor
  · apply List.all_eq_true.mpr
    intro code present
    rw [← isWord_fold]
    exact List.all_eq_true.mp words _
      (begins.subset (List.mem_map_of_mem present))
  · cases text with
    | nil => rfl
    | cons code rest =>
        obtain ⟨more, rfl⟩ := begins
        have first : isLetter (fold code) = true := letter
        rw [isLetter_fold] at first
        exact first

theorem endsName_append
    {name : String}
    (isName : begunName (JsString.ofText name) = true)
    {text : JsString}
    (decided : begunName text = false)
    (left right : JsString) :
    endsName name (text ++ left) = endsName name (text ++ right) := by
  have undecided (more : JsString) (begins :
      JsString.ofText name <+: text.map fold ++ more.map fold) :
      name.length < text.length := by
    by_contra shorter
    have isPrefix : text.map fold <+: JsString.ofText name := by
      apply List.prefix_of_prefix_length_le (List.prefix_append _ _) begins
      rw [List.length_map, length_ofText]
      exact Nat.le_of_not_lt shorter
    rw [begunName_of_begins isName isPrefix] at decided
    contradiction
  -- A name that begins the longer text lies within the part that is shared.
  have within (more : JsString) :
      endsName name (text ++ more) =
        (decide (name.length < text.length) &&
          ((JsString.ofText name).isPrefixOf (text.map fold) &&
            !(text.drop name.length).head?.any isWord)) := by
    rw [Bool.eq_iff_iff]
    simp only [endsName, startsAnyCase, Bool.and_eq_true, decide_eq_true_eq,
      List.isPrefixOf_iff_prefix, List.map_append]
    have after (long : name.length < text.length) :
        ((text ++ more).drop name.length).head? =
          (text.drop name.length).head? := by
      rw [List.drop_append_of_le_length long.le, List.head?_append_of_ne_nil]
      exact List.ne_nil_of_length_pos (by rw [List.length_drop]; omega)
    constructor
    · rintro ⟨begins, ended⟩
      have long := undecided more begins
      rw [after long] at ended
      refine ⟨long, ?_, ended⟩
      apply List.prefix_of_prefix_length_le begins (List.prefix_append _ _)
      rw [List.length_map, length_ofText]
      exact long.le
    · rintro ⟨long, begins, ended⟩
      rw [after long]
      exact ⟨begins.trans (List.prefix_append _ _), ended⟩
  rw [within, within]

theorem opensName_append
    {text : JsString}
    (decided : begunName text = false)
    (left right : JsString) :
    opensName (text ++ left) = opensName (text ++ right) := by
  have names : ∀ name ∈ blockNames, begunName (JsString.ofText name) = true := by
    decide +kernel
  unfold opensName
  rw [Bool.eq_iff_iff, List.any_eq_true, List.any_eq_true]
  apply exists_congr
  intro name
  apply and_congr_right
  intro isName
  rw [endsName_append (names name isName) decided left right]

theorem hasBlock_cons (code : UInt16) (rest : JsString) :
    hasBlock (code :: rest) =
      ((decide (code = LT) && opensName rest) || hasBlock rest) := by
  rw [← opensBlock_cons]
  rfl

/-- A text without brackets makes no block of what follows. -/
theorem hasBlock_append
    {text : JsString}
    (absent : LT ∉ text)
    (rest : JsString) :
    hasBlock (text ++ rest) = hasBlock rest := by
  induction text with
  | nil => rfl
  | cons code text inductionHypothesis =>
      rw [List.mem_cons, not_or] at absent
      obtain ⟨isOther, absentRest⟩ := absent
      rw [List.cons_append, hasBlock_cons, inductionHypothesis absentRest,
        decide_eq_false (Ne.symm isOther)]
      rfl

section Fillings

variable {vars first second : Vars UInt16} {before : Before}
  {list : List (Piece UInt16)} {out one two : JsString}

theorem notMem_substitute
    {whole : JsString}
    (absent : LT ∉ whole)
    (isOut : substitute vars true (.found whole) = some out) :
    LT ∉ out := by
  rw [substitute] at isOut
  cases own : vars (keyOf (units whole)) with
  | some value =>
      rw [own] at isOut
      injection isOut with isOut
      intro present
      rw [← isOut, if_pos rfl, ← units_eq (esc value)] at present
      exact (ne_of_mem_units_esc present).1 rfl
  | none =>
      rw [own] at isOut
      cases foreign : inherited (keyOf (units whole)) with
      | some text =>
          rw [foreign] at isOut
          contradiction
      | none =>
          rw [foreign] at isOut
          injection isOut with isOut
          rwa [← isOut]

/-- What precedes, if it may be the beginning of a name. -/
def Before.Reads (before : Before) (text : JsString) : Prop :=
  begunName text = true → before = if text.isEmpty then .bracket else .name

theorem Before.Reads.next
    {text : JsString}
    (reads : before.Reads text)
    (code : UInt16) :
    (before.next code).Reads (text ++ [code]) := by
  intro begun
  have isLess : isWord LT = false := rfl
  unfold begunName at begun
  simp only [List.all_append, List.all_cons, List.all_nil, Bool.and_true,
    Bool.and_eq_true] at begun
  obtain ⟨⟨words, word⟩, letter⟩ := begun
  have notLess : code ≠ LT := by
    rintro rfl
    rw [isLess] at word
    contradiction
  cases text with
  | nil =>
      have isLetterCode : isLetter code = true := letter
      have isBefore : before = .bracket := reads rfl
      simp [Before.next, notLess, isBefore, isLetterCode]
  | cons first rest =>
      have isBefore : before = .name := by
        apply reads
        unfold begunName
        rw [words]
        exact letter
      simp [Before.next, notLess, isBefore, word]

theorem opensName_fillPieces
    (isOne : fillPieces first true list = some one)
    (isTwo : fillPieces second true list = some two)
    (clear : clearFrom before list = true)
    {text : JsString}
    (reads : before.Reads text) :
    opensName (text ++ one) = opensName (text ++ two) := by
  induction list generalizing before text one two with
  | nil =>
      injection isOne with isOne
      injection isTwo with isTwo
      rw [← isOne, ← isTwo]
  | cons piece rest inductionHypothesis =>
      obtain ⟨writtenOne, moreOne, substOne, isMoreOne, rfl⟩ :=
        fillPieces_cons_eq_some_iff.mp isOne
      obtain ⟨writtenTwo, moreTwo, substTwo, isMoreTwo, rfl⟩ :=
        fillPieces_cons_eq_some_iff.mp isTwo
      cases piece with
      | kept code =>
          injection substOne with substOne
          injection substTwo with substTwo
          rw [← substOne, ← substTwo, ← List.append_assoc, ← List.append_assoc]
          exact inductionHypothesis isMoreOne isMoreTwo clear (reads.next code)
      | found whole =>
          unfold clearFrom at clear
          rw [Bool.and_eq_true, decide_eq_true_eq] at clear
          apply opensName_append
          rw [Bool.eq_false_iff]
          intro begun
          have isBefore := reads begun
          rw [clear.1] at isBefore
          split at isBefore <;> contradiction

/-- Whether a template is filled to a text with blocks does not depend on the
values. -/
theorem hasBlock_fillPieces
    (isOne : fillPieces first true list = some one)
    (isTwo : fillPieces second true list = some two)
    (clear : clearFrom before list = true)
    (unbracketed : ∀ whole, .found whole ∈ list → LT ∉ whole) :
    hasBlock one = hasBlock two := by
  induction list generalizing before one two with
  | nil =>
      injection isOne with isOne
      injection isTwo with isTwo
      rw [← isOne, ← isTwo]
  | cons piece rest inductionHypothesis =>
      obtain ⟨writtenOne, moreOne, substOne, isMoreOne, rfl⟩ :=
        fillPieces_cons_eq_some_iff.mp isOne
      obtain ⟨writtenTwo, moreTwo, substTwo, isMoreTwo, rfl⟩ :=
        fillPieces_cons_eq_some_iff.mp isTwo
      have unbracketedRest : ∀ whole, .found whole ∈ rest → LT ∉ whole :=
        fun whole found => unbracketed whole (List.mem_cons_of_mem _ found)
      cases piece with
      | kept code =>
          injection substOne with substOne
          injection substTwo with substTwo
          rw [← substOne, ← substTwo, List.singleton_append,
            List.singleton_append, hasBlock_cons, hasBlock_cons,
            inductionHypothesis isMoreOne isMoreTwo clear unbracketedRest]
          by_cases isLess : code = LT
          · have reads : (before.next code).Reads [] := by
              intro _
              simp [Before.next, isLess]
            have names := opensName_fillPieces isMoreOne isMoreTwo clear reads
            rw [List.nil_append, List.nil_append] at names
            rw [names]
          · rw [decide_eq_false isLess]
            rfl
      | found whole =>
          unfold clearFrom at clear
          rw [Bool.and_eq_true] at clear
          have absent := unbracketed whole List.mem_cons_self
          rw [hasBlock_append (notMem_substitute absent substOne),
            hasBlock_append (notMem_substitute absent substTwo)]
          exact inductionHypothesis isMoreOne isMoreTwo clear.2 unbracketedRest

end Fillings

/-! ## Lines -/

/-- Trimming leaves nothing of the line. -/
def isBlank (line : JsString) : Bool := (trim line).isEmpty

theorem isBlank_eq_all (line : JsString) :
    isBlank line = line.all JsString.isWhiteSpace := by
  rw [Bool.eq_iff_iff, isBlank, List.isEmpty_iff, List.all_eq_true]
  unfold trim
  rw [List.rdropWhile_eq_nil_iff]
  constructor
  · intro white code present
    rw [← List.takeWhile_append_dropWhile
      (p := fun char => JsString.isWhiteSpace (unit char)) (l := line)] at present
    rcases List.mem_append.mp present with early | late
    · exact List.mem_takeWhile_imp early
    · exact white code late
  · intro white code present
    exact white code ((List.dropWhile_suffix _).subset present)

theorem isBlank_append (left right : JsString) :
    isBlank (left ++ right) = (isBlank left && isBlank right) := by
  simp only [isBlank_eq_all, List.all_append]

theorem angles_of_white
    {text : JsString}
    (white : ∀ code ∈ text, JsString.isWhiteSpace code = true) :
    angles text = [] := by
  apply List.filter_eq_nil_iff.mpr
  intro code present isBracket
  have isWhite := white code present
  rw [isAngle, Bool.or_eq_true, decide_eq_true_eq, decide_eq_true_eq] at isBracket
  rcases isBracket with rfl | rfl <;> contradiction

theorem angles_dropWhile (text : JsString) :
    angles (text.dropWhile JsString.isWhiteSpace) = angles text := by
  conv_rhs => rw [← List.takeWhile_append_dropWhile
    (p := JsString.isWhiteSpace) (l := text)]
  rw [angles_append, angles_of_white fun code => List.mem_takeWhile_imp]
  rfl

theorem angles_reverse (text : JsString) :
    angles text.reverse = (angles text).reverse :=
  List.filter_reverse ..

theorem angles_trim (line : JsString) : angles (trim line) = angles line := by
  unfold trim List.rdropWhile
  simp only [unit_eq]
  rw [angles_reverse, angles_dropWhile, angles_reverse, List.reverse_reverse,
    angles_dropWhile]

/-- Lines that make the same paragraphs. -/
structure Alike (one two : JsString) : Prop where
  blank : isBlank one = isBlank two
  brackets : angles one = angles two

theorem Alike.append
    {one two three four : JsString}
    (left : Alike one two)
    (right : Alike three four) :
    Alike (one ++ three) (two ++ four) where
  blank := by rw [isBlank_append, isBlank_append, left.blank, right.blank]
  brackets := by
    rw [angles_append, angles_append, left.brackets, right.brackets]

/-- Texts that make the same paragraphs. -/
def AlikeLines (one two : JsString) : Prop :=
  List.Forall₂ Alike (linesOf one) (linesOf two)

theorem AlikeLines.refl (text : JsString) : AlikeLines text text :=
  List.forall₂_same.mpr fun _ _ => ⟨rfl, rfl⟩

theorem AlikeLines.append
    {one two three four : JsString}
    (left : AlikeLines one two)
    (right : AlikeLines three four) :
    AlikeLines (one ++ three) (two ++ four) := by
  unfold AlikeLines
  rw [linesOf_append, linesOf_append]
  exact forall₂_joinLast Alike.append left right

/-- Values with the same line breaks, and the same lines blank. -/
def SameLines (one two : JsString) : Prop :=
  (linesOf one).map isBlank = (linesOf two).map isBlank

instance (one two : JsString) : Decidable (SameLines one two) :=
  inferInstanceAs (Decidable ((linesOf one).map isBlank =
    (linesOf two).map isBlank))

/-- Escaping keeps the lines. -/
theorem linesOf_esc (value : JsString) :
    linesOf (esc value) = (linesOf value).map esc := by
  have isFlatMap : (esc : JsString → JsString) = fun line =>
      line.flatMap escaped := funext esc_eq
  rw [isFlatMap]
  apply linesOf_flatMap
  · intro char newline
    unfold escaped
    rw [newline]
    rfl
  · intro char other
    unfold escaped
    split_ifs
    case neg => simpa using Ne.symm other
    all_goals
      rw [units_inPlace]
      decide +kernel

theorem isBlank_esc (line : JsString) : isBlank (esc line) = isBlank line := by
  have same (code : UInt16) :
      (escaped code).all JsString.isWhiteSpace = JsString.isWhiteSpace code := by
    unfold escaped
    split_ifs with isAmp isLess isGreater isQuote isApostrophe
    case neg => simp
    all_goals
      rw [unit_eq] at *
      subst_vars
      decide +kernel
  rw [isBlank_eq_all, isBlank_eq_all, esc_eq, List.all_flatMap]
  congr 1
  exact funext same

theorem SameLines.alikeLines_esc
    {one two : JsString}
    (same : SameLines one two) :
    AlikeLines (esc one) (esc two) := by
  unfold AlikeLines
  rw [linesOf_esc, linesOf_esc, List.forall₂_map_left_iff,
    List.forall₂_map_right_iff]
  have flags : List.Forall₂ (fun one two => isBlank one = isBlank two)
      (linesOf one) (linesOf two) := by
    rw [← List.forall₂_map_right_iff, ← List.forall₂_map_left_iff,
      List.forall₂_eq_eq_eq]
    exact same
  apply flags.imp
  intro one two blank
  constructor
  · rw [isBlank_esc, isBlank_esc, blank]
  · rw [angles_esc, angles_esc]

/-- The line feeds are no brackets. -/
theorem flatMap_angles_linesOf (text : JsString) :
    (linesOf text).flatMap angles = angles text := by
  induction text with
  | nil => rfl
  | cons code rest inductionHypothesis =>
      obtain ⟨line, lines, isRest⟩ :=
        List.exists_cons_of_ne_nil (linesOf_ne_nil rest)
      by_cases newline : unit code = 10
      · rw [linesOf, if_pos newline, List.flatMap_cons, inductionHypothesis]
        rw [unit_eq] at newline
        rw [newline]
        rfl
      · have split (after : JsString) :
            angles (code :: after) = angles [code] ++ angles after :=
          angles_append [code] after
        rw [isRest, List.flatMap_cons] at inductionHypothesis
        rw [linesOf_cons_of_ne newline isRest, List.flatMap_cons, split,
          List.append_assoc, inductionHypothesis, ← split]

theorem angles_eq_of_alikeLines
    {one two : JsString}
    (alike : AlikeLines one two) :
    angles one = angles two := by
  rw [← flatMap_angles_linesOf, ← flatMap_angles_linesOf]
  unfold AlikeLines at alike
  generalize linesOf one = first at alike
  generalize linesOf two = second at alike
  induction alike with
  | nil => rfl
  | cons line _ inductionHypothesis =>
      rw [List.flatMap_cons, List.flatMap_cons, line.brackets,
        inductionHypothesis]

theorem angles_toHtml
    {one two : JsString}
    (alike : AlikeLines one two)
    (blocks : hasBlock one = hasBlock two) :
    angles (toHtml one) = angles (toHtml two) := by
  unfold toHtml
  rw [units_eq, units_eq, blocks]
  split
  next => exact angles_eq_of_alikeLines alike
  next =>
    unfold AlikeLines at alike
    generalize linesOf one = ones at alike
    generalize linesOf two = twos at alike
    induction alike with
    | nil => rfl
    | @cons first second _ _ line _ inductionHypothesis =>
        have blank : (trim first).isEmpty = (trim second).isEmpty := line.blank
        rw [List.map_cons, List.map_cons, List.filter_cons, List.filter_cons,
          blank]
        split
        next =>
          simp only [List.flatMap_cons, angles_append, angles_trim,
            line.brackets, inductionHypothesis]
        next => exact inductionHypothesis

/-! ## Two runs -/

/-- Assignments to the same variables, the values of which have the same lines. -/
def SameShape (first second : Vars UInt16) : Prop :=
  ∀ key, Option.Rel SameLines (first key) (second key)

section Runs

variable {first second : Vars UInt16} {one two : JsString}

theorem alikeLines_substitute
    (same : SameShape first second)
    {piece : Piece UInt16}
    (isOne : substitute first true piece = some one)
    (isTwo : substitute second true piece = some two) :
    AlikeLines one two := by
  cases piece with
  | kept code =>
      injection isOne with isOne
      injection isTwo with isTwo
      rw [← isOne, ← isTwo]
      exact AlikeLines.refl [code]
  | found whole =>
      rw [substitute] at isOne isTwo
      generalize isKey : keyOf (units whole) = key at isOne isTwo
      have related := same key
      cases ownOne : first key with
      | some valueOne =>
          cases ownTwo : second key with
          | none =>
              rw [ownOne, ownTwo] at related
              contradiction
          | some valueTwo =>
              rw [ownOne, ownTwo] at related
              rw [ownOne] at isOne
              rw [ownTwo] at isTwo
              injection isOne with isOne
              injection isTwo with isTwo
              rw [← isOne, ← isTwo]
              cases related with
              | some lines => exact lines.alikeLines_esc
      | none =>
          cases ownTwo : second key with
          | some valueTwo =>
              rw [ownOne, ownTwo] at related
              contradiction
          | none =>
              rw [ownOne] at isOne
              rw [ownTwo] at isTwo
              rw [isOne] at isTwo
              injection isTwo with isTwo
              rw [isTwo]
              exact AlikeLines.refl two

theorem alikeLines_fillPieces
    (same : SameShape first second)
    {list : List (Piece UInt16)}
    (isOne : fillPieces first true list = some one)
    (isTwo : fillPieces second true list = some two) :
    AlikeLines one two := by
  induction list generalizing one two with
  | nil =>
      injection isOne with isOne
      injection isTwo with isTwo
      rw [← isOne, ← isTwo]
      exact AlikeLines.refl []
  | cons piece rest inductionHypothesis =>
      obtain ⟨writtenOne, moreOne, substOne, isMoreOne, rfl⟩ :=
        fillPieces_cons_eq_some_iff.mp isOne
      obtain ⟨writtenTwo, moreTwo, substTwo, isMoreTwo, rfl⟩ :=
        fillPieces_cons_eq_some_iff.mp isTwo
      exact (alikeLines_substitute same substOne substTwo).append
        (inductionHypothesis isMoreOne isMoreTwo)

/-- The brackets of a paragraph do not depend on the values. -/
theorem angles_paragraphs
    (same : SameShape first second)
    {template : JsString}
    (clear : Clear template = true)
    (isOne : fill template first true = some one)
    (isTwo : fill template second true = some two) :
    angles (styleParagraphs (toHtml one)) =
      angles (styleParagraphs (toHtml two)) := by
  have unbracketed : ∀ whole, .found whole ∈ pieces placeholder template →
      LT ∉ whole := by
    intro whole found present
    have isLess := of_found found LT present
    revert isLess
    decide
  rw [angles_styleParagraphs, angles_styleParagraphs]
  exact angles_toHtml (alikeLines_fillPieces same isOne isTwo)
    (hasBlock_fillPieces isOne isTwo clear unbracketed)

theorem SameShape.symm (same : SameShape first second) :
    SameShape second first := by
  intro key
  have related := same key
  cases ownOne : first key with
  | some valueOne =>
      cases ownTwo : second key with
      | some valueTwo =>
          rw [ownOne, ownTwo] at related
          cases related with
          | some lines => exact .some (Eq.symm lines)
      | none =>
          rw [ownOne, ownTwo] at related
          contradiction
  | none =>
      cases ownTwo : second key with
      | some valueTwo =>
          rw [ownOne, ownTwo] at related
          contradiction
      | none => exact .none

theorem SameShape.isSome_eq (same : SameShape first second) (key : JsString) :
    (first key).isSome = (second key).isSome := by
  have related := same key
  generalize first key = one at related ⊢
  generalize second key = two at related ⊢
  cases related <;> rfl

/-- One run throws when the other does. -/
theorem isSome_fill_eq
    (same : SameShape first second)
    (template : JsString) :
    (fill template first true).isSome = (fill template second true).isSome := by
  rw [Bool.eq_iff_iff, fill_isSome_iff, fill_isSome_iff]
  unfold Fillable
  simp only [same.isSome_eq]

theorem exists_fill
    (same : SameShape first second)
    {template : JsString}
    (isOne : fill template first true = some one) :
    ∃ two, fill template second true = some two := by
  apply Option.isSome_iff_exists.mp
  rw [← isSome_fill_eq same, isOne]
  rfl

theorem exists_actionOf
    (same : SameShape first second)
    {copy : TemplateCopy UInt16}
    {actionUrl : Option JsString}
    {action : Option (Action UInt16)}
    (isAction : actionOf copy first actionUrl = some action) :
    ∃ other, actionOf copy second actionUrl = some other := by
  unfold actionOf at isAction ⊢
  cases offer : offered copy actionUrl with
  | none => exact ⟨none, rfl⟩
  | some both =>
      rw [offer] at isAction
      obtain ⟨filled, isFilled, -⟩ := Option.map_eq_some_iff.mp isAction
      obtain ⟨other, isOther⟩ := exists_fill same isFilled
      exact ⟨some ⟨other, both.1⟩, Option.map_eq_some_iff.mpr ⟨other, isOther, rfl⟩⟩

/-- Whether there is a button does not depend on the values. -/
theorem isSome_action_eq
    {copy : TemplateCopy UInt16}
    {actionUrl : Option JsString}
    {action other : Option (Action UInt16)}
    (isAction : actionOf copy first actionUrl = some action)
    (isOther : actionOf copy second actionUrl = some other) :
    action.isSome = other.isSome := by
  unfold actionOf at isAction isOther
  cases offer : offered copy actionUrl with
  | none =>
      rw [offer] at isAction isOther
      injection isAction with isNone
      injection isOther with otherNone
      rw [← isNone, ← otherNone]
  | some both =>
      rw [offer] at isAction isOther
      obtain ⟨_, -, isSome⟩ := Option.map_eq_some_iff.mp isAction
      obtain ⟨_, -, otherSome⟩ := Option.map_eq_some_iff.mp isOther
      rw [← isSome, ← otherSome]
      rfl

theorem angles_button {action other : Option (Action UInt16)}
    (same : action.isSome = other.isSome) :
    angles (button action) = angles (button other) := by
  cases action with
  | none =>
      cases other with
      | none => rfl
      | some other => contradiction
  | some action =>
      cases other with
      | none => contradiction
      | some other => simp only [button, angles_append, angles_esc]

theorem angles_htmlPart
    {company : JsString}
    {body other : EmailBody UInt16}
    (intro : angles (styleParagraphs body.intro) =
      angles (styleParagraphs other.intro))
    (action : body.action.isSome = other.action.isSome)
    (outro : angles (styleParagraphs body.outro) =
      angles (styleParagraphs other.outro)) :
    angles (htmlPart company body) = angles (htmlPart company other) := by
  simp only [htmlPart, angles_append, angles_esc, intro, outro,
    angles_button action]

/-- Both runs make a message of a copy, with the same brackets. -/
theorem exists_compose_same
    (same : SameShape first second)
    {brand : Brand UInt16}
    {copy : TemplateCopy UInt16}
    (clear : ClearCopy copy = true)
    {actionUrl : Option JsString}
    {body : EmailBody UInt16}
    {subject : JsString}
    (composed : compose brand copy first actionUrl = some (body, subject)) :
    ∃ other otherSubject,
      compose brand copy second actionUrl = some (other, otherSubject) ∧
        angles (htmlPart brand.company body) =
          angles (htmlPart brand.company other) := by
  obtain ⟨isBody, -⟩ := compose_eq_some_iff.mp composed
  obtain ⟨heading, intro, action, outro, isHeading, isIntro, isAction, isOutro,
    rfl⟩ := toBody_eq_some_iff.mp isBody
  obtain ⟨otherHeading, isOtherHeading⟩ := exists_fill same isHeading
  obtain ⟨otherIntro, isOtherIntro⟩ := exists_fill same isIntro
  obtain ⟨otherAction, isOtherAction⟩ := exists_actionOf same isAction
  obtain ⟨otherOutro, isOtherOutro⟩ := exists_fill same isOutro
  obtain ⟨otherSubject, isSubject⟩ := Option.isSome_iff_exists.mp
    (fill_unescaped second copy.subject)
  rw [ClearCopy, Bool.and_eq_true] at clear
  refine ⟨_, otherSubject, compose_eq_some_iff.mpr ⟨toBody_eq_some_iff.mpr
    ⟨otherHeading, otherIntro, otherAction, otherOutro, isOtherHeading,
      isOtherIntro, isOtherAction, isOtherOutro, rfl⟩, isSubject⟩, ?_⟩
  apply angles_htmlPart
  · exact angles_paragraphs same clear.1 isIntro isOtherIntro
  · exact isSome_action_eq isAction isOtherAction
  · exact angles_paragraphs same clear.2 isOutro isOtherOutro

/-- Both runs of a known template have the same brackets. -/
theorem exists_render_same
    (same : SameShape first second)
    (brand : Brand UInt16)
    {code : String}
    (known : (templateByCode (α := UInt16) code).isSome)
    {saved : Except String (Option (TemplateCopy UInt16))}
    (clear : ∀ row, saved = .ok (some row) → ClearCopy row = true)
    (actionUrl : Option JsString) :
    ∃ one two, render brand code saved first actionUrl = .ok one ∧
      render brand code saved second actionUrl = .ok two ∧
      angles one.html = angles two.html := by
  obtain ⟨seed, isSeed⟩ := Option.isSome_iff_exists.mp known
  have seedClear := clearCopy_of_templateByCode isSeed
  have chosenClear : ClearCopy (chosenCopy seed saved) = true := by
    unfold chosenCopy
    split
    next row =>
      split
      · exact clear row rfl
      · exact seedClear
    next => exact seedClear
  cases tried : compose brand (chosenCopy seed saved) first actionUrl with
  | some made =>
      obtain ⟨body, subject⟩ := made
      obtain ⟨other, otherSubject, otherComposed, brackets⟩ :=
        exists_compose_same same chosenClear tried
      exact ⟨_, _, render_of_known saved isSeed (by rw [tried]; rfl),
        render_of_known saved isSeed (by rw [otherComposed]; rfl), brackets⟩
  | none =>
      have otherTried :
          compose brand (chosenCopy seed saved) second actionUrl = none := by
        by_contra isMade
        obtain ⟨⟨body, subject⟩, made⟩ := Option.ne_none_iff_exists'.mp isMade
        obtain ⟨_, _, composed, -⟩ :=
          exists_compose_same same.symm chosenClear made
        rw [tried] at composed
        contradiction
      obtain ⟨body, subject, composed⟩ := exists_compose_of_isBuiltIn brand first
        (isBuiltIn_of_templateByCode isSeed) actionUrl
      obtain ⟨other, otherSubject, otherComposed, brackets⟩ :=
        exists_compose_same same seedClear composed
      exact ⟨_, _, render_of_known saved isSeed (by rw [tried, composed]; rfl),
        render_of_known saved isSeed
          (by rw [otherTried, otherComposed]; rfl), brackets⟩

end Runs

end Email
end EvoPlatform
