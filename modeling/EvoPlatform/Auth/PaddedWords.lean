import EvoPlatform.Auth.PasswordPolicies

/-!
# Padded words

A listed word is written with other characters for some of its letters, in any
case, between white space and with digits and symbols after it.  The platform
sees through all of it, unless the characters at the end of the word are cut off
with what follows.
-/

namespace EvoPlatform
namespace Auth

open JsString

/-! ## Stripping -/

section Strip

variable {α : Type} {strips : α → Bool} {text suffix : List α}

/-- A suffix that is stripped leaves what is stripped without it. -/
theorem rdropWhile_append_of_all
    (all : ∀ unit ∈ suffix, strips unit = true) :
    (text ++ suffix).rdropWhile strips = text.rdropWhile strips := by
  induction suffix using List.reverseRecOn with
  | nil => rw [List.append_nil]
  | append_singleton suffix unit inductionHypothesis =>
      rw [← List.append_assoc,
        List.rdropWhile_concat_pos _ _ _ (all unit (by simp))]
      exact inductionHypothesis fun other present => all other (by simp [present])

/-- Nothing is stripped before a character that is kept. -/
theorem rdropWhile_append_of_last
    (kept : ∀ unit ∈ text.getLast?, strips unit = false) :
    (text ++ suffix).rdropWhile strips =
      text ++ suffix.rdropWhile strips := by
  induction suffix using List.reverseRecOn with
  | nil =>
      rw [List.append_nil, List.rdropWhile_nil, List.append_nil,
        List.rdropWhile_eq_self_iff]
      intro notEmpty
      simpa using kept _ (List.getLast_mem_getLast? notEmpty)
  | append_singleton suffix unit inductionHypothesis =>
      rw [← List.append_assoc]
      by_cases stripped : strips unit = true
      · rw [List.rdropWhile_concat_pos _ _ _ stripped,
          List.rdropWhile_concat_pos _ _ _ stripped, inductionHypothesis]
      · rw [List.rdropWhile_concat_neg _ _ _ stripped,
          List.rdropWhile_concat_neg _ _ _ stripped, List.append_assoc]

/-- What is stripped is a suffix whose characters are all stripped. -/
theorem exists_stripped (strips : α → Bool) (text : List α) :
    ∃ suffix, text = text.rdropWhile strips ++ suffix ∧
      ∀ unit ∈ suffix, strips unit = true := by
  induction text using List.reverseRecOn with
  | nil => exact ⟨[], rfl, by simp⟩
  | append_singleton text unit inductionHypothesis =>
      by_cases stripped : strips unit = true
      · obtain ⟨suffix, split, all⟩ := inductionHypothesis
        rw [List.rdropWhile_concat_pos _ _ _ stripped]
        refine ⟨suffix ++ [unit], ?_, ?_⟩
        · rw [← List.append_assoc, ← split]
        · intro other present
          rcases List.mem_append.mp present with present | present
          · exact all other present
          · rwa [List.mem_singleton.mp present]
      · rw [List.rdropWhile_concat_neg _ _ _ stripped]
        exact ⟨[], (List.append_nil _).symm, by simp⟩

end Strip

/-! ## Padded words -/

/-- A character stands for one of a word: itself, or one that is substituted by
it. -/
def StandsFor (unit letter : UInt16) : Prop :=
  unit = letter ∨ (unit, letter) ∈ leet

/-- A listed word, with letters replaced, in some case, with a run of stripped
characters after it and white space around it. -/
structure PaddedWord where
  word : JsString
  replaced : JsString
  cased : JsString
  run : JsString
  before : JsString
  after : JsString
  listed : word ∈ platformPasswords
  stands : List.Forall₂ StandsFor replaced word
  lowered : asciiLowerCase cased = replaced
  runStripped : ∀ unit ∈ run, stripsMore unit = true
  beforeWhite : ∀ unit ∈ before, isWhiteSpace unit = true
  afterWhite : ∀ unit ∈ after, isWhiteSpace unit = true

def isDigit (unit : UInt16) : Bool := 0x30 ≤ unit && unit ≤ 0x39

namespace PaddedWord

variable (padded : PaddedWord)

/-- The password that is chosen. -/
def password : JsString :=
  padded.before ++ padded.cased ++ padded.run ++ padded.after

/-- The password without the white space around it, in lower case. -/
def candidate : JsString :=
  padded.replaced ++ padded.run.rdropWhile isWhiteSpace

/-- The word without the digits at its end. -/
def stem : JsString := padded.word.rdropWhile isDigit

/-- The word is listed without the digits at its end too, and what is then its
last letter is not replaced. -/
def Shows : Prop :=
  padded.stem ∈ platformPasswords ∧
    (padded.replaced.take padded.stem.length).getLast? = padded.stem.getLast?

end PaddedWord

/-- `toLowerCase`, as far as texts in ASCII go. -/
def LowersAscii (toLowerCase : JsString → JsString) : Prop :=
  ∀ text, (∀ unit ∈ text, unit < 0x80) →
    toLowerCase text = asciiLowerCase text

/-! ## What is left of the white space and of the case -/

/-- A character of ASCII that is not white space. -/
def isPlain (unit : UInt16) : Bool := !isWhiteSpace unit && unit < 0x80

/-- `toLowerCase` of a character of ASCII. -/
def lowerUnit (unit : UInt16) : UInt16 :=
  if 0x41 ≤ unit && unit ≤ 0x5A then unit + 0x20 else unit

/-- A character that is cut off with what follows the word, or that stands for
one that is. -/
def isCut (letter : UInt16) : Bool :=
  isDigit letter || leet.any fun swap => swap.2 = letter

/-- The words of the list, evaluated once.  Their characters are plain, and they
are digits, or they are not stripped.  Cut at any place behind which there may be
nothing but stripped characters, what is left is on the list only if nothing but
digits is cut off, and then the word without its digits is. -/
theorem words_checked :
    (platformPasswords.all fun word => word.all isPlain) = true ∧
      (platformPasswords.all fun word => word.all fun unit =>
        stripsMore unit = isDigit unit) = true ∧
      (platformPasswords.all fun word =>
        let stem := word.rdropWhile isDigit
        (List.range (stem.length + 1)).all fun place =>
          !((stem.drop place).all isCut &&
            platformPasswords.contains (unleet (stem.take place))) ||
          (place = stem.length && platformPasswords.contains stem)) = true := by
  decide +kernel

/-- The substitutions and the classes, evaluated once. -/
theorem swaps_checked :
    (leet.all fun swap => isPlain swap.1 && unleetUnit swap.1 = swap.2 &&
        unleetUnit swap.2 = swap.2 && stripsMore swap.1 &&
        !isDigit swap.2) = true ∧
      ((backslash :: suffixClass).all fun unit =>
        unit < 0x80 && lowerUnit unit = unit) = true := by
  decide +kernel

/-- The substitutions put letters in for what is stripped. -/
theorem leet_facts
    {unit letter : UInt16}
    (swapped : (unit, letter) ∈ leet) :
    isPlain unit = true ∧ unleetUnit unit = letter ∧
      unleetUnit letter = letter ∧ stripsMore unit = true ∧
      isDigit letter = false := by
  have checked := swaps_checked.1
  rw [List.all_eq_true] at checked
  simpa [and_assoc] using checked (unit, letter) swapped

theorem isPlain_of_stands
    {unit letter : UInt16}
    {word : JsString}
    (listed : word ∈ platformPasswords)
    (present : letter ∈ word)
    (stands : StandsFor unit letter) :
    isPlain unit = true := by
  rcases stands with rfl | swapped
  · have words := words_checked.1
    rw [List.all_eq_true] at words
    have inWord := words word listed
    rw [List.all_eq_true] at inWord
    exact inWord unit present
  · exact (leet_facts swapped).1

/-- White space has no case. -/
theorem isPlain_of_lowerUnit
    {unit : UInt16}
    (plain : isPlain (lowerUnit unit) = true) :
    isPlain unit = true := by
  by_cases upper : (0x41 ≤ unit && unit ≤ 0x5A) = true
  · simp only [Bool.and_eq_true, decide_eq_true_eq] at upper
    simp [isPlain, isWhiteSpace, UInt16.le_iff_toNat_le,
      UInt16.lt_iff_toNat_lt, ← UInt16.toNat_inj] at upper ⊢
    omega
  · rwa [lowerUnit, if_neg upper] at plain

/-- Every character stands for one of the word. -/
theorem exists_letter
    {text word : JsString}
    (stands : List.Forall₂ StandsFor text word)
    {unit : UInt16}
    (present : unit ∈ text) :
    ∃ letter ∈ word, StandsFor unit letter := by
  induction stands with
  | nil => cases present
  | cons standsFor rest inductionHypothesis =>
      rcases List.mem_cons.mp present with rfl | present
      · exact ⟨_, List.mem_cons_self, standsFor⟩
      · obtain ⟨letter, isLetter, standsFor⟩ := inductionHypothesis present
        exact ⟨letter, List.mem_cons_of_mem _ isLetter, standsFor⟩

theorem isPlain_replaced
    {padded : PaddedWord}
    {unit : UInt16}
    (present : unit ∈ padded.replaced) :
    isPlain unit = true := by
  obtain ⟨letter, isLetter, stands⟩ := exists_letter padded.stands present
  exact isPlain_of_stands padded.listed isLetter stands

theorem isPlain_cased
    {padded : PaddedWord}
    {unit : UInt16}
    (present : unit ∈ padded.cased) :
    isPlain unit = true := by
  have isReplaced : lowerUnit unit ∈ padded.replaced := by
    rw [← padded.lowered]
    exact List.mem_map.mpr ⟨unit, present, rfl⟩
  exact isPlain_of_lowerUnit (isPlain_replaced isReplaced)

/-- A word of the list is not empty, and so is nothing that stands for it. -/
theorem cased_ne_nil (padded : PaddedWord) : padded.cased ≠ [] := by
  intro isEmpty
  have isReplaced := padded.lowered
  rw [isEmpty] at isReplaced
  have same := padded.stands.length_eq
  rw [← isReplaced] at same
  exact (screened_platform _ padded.listed).1
    (List.eq_nil_of_length_eq_zero same.symm)

/-- Trimming removes the white space around the word, and what the run ends
in. -/
theorem trim_password (padded : PaddedWord) :
    trim padded.password =
      padded.cased ++ padded.run.rdropWhile isWhiteSpace := by
  have notWhite : ∀ unit ∈ padded.cased, isWhiteSpace unit = false := by
    intro unit present
    have plain := isPlain_cased present
    simp only [isPlain, Bool.and_eq_true, Bool.not_eq_true'] at plain
    exact plain.1
  have started : (padded.password.dropWhile isWhiteSpace) =
      padded.cased ++ padded.run ++ padded.after := by
    rw [PaddedWord.password, List.append_assoc, List.append_assoc,
      List.dropWhile_append_of_pos padded.beforeWhite, ← List.append_assoc]
    cases first : padded.cased with
    | nil => exact absurd first (cased_ne_nil padded)
    | cons unit rest =>
        have kept := notWhite unit (first ▸ List.mem_cons_self)
        simp [kept]
  rw [trim, started, rdropWhile_append_of_all padded.afterWhite]
  apply rdropWhile_append_of_last
  intro unit isLast
  exact notWhite unit (List.mem_of_mem_getLast? isLast)

/-- Nothing in a run has a case. -/
theorem run_ascii
    {unit : UInt16}
    (stripped : stripsMore unit = true) :
    unit < 0x80 ∧ lowerUnit unit = unit := by
  have checked := swaps_checked.2
  rw [List.all_eq_true] at checked
  have present : unit ∈ backslash :: suffixClass := by
    simp only [stripsMore, stripsSuffix, Bool.or_eq_true,
      List.contains_iff_mem, decide_eq_true_eq] at stripped
    rcases stripped with inClass | rfl
    · exact List.mem_cons_of_mem _ inClass
    · exact List.mem_cons_self
  simpa using checked unit present

/-- What the policy compares with its list. -/
theorem lowered_password
    {toLowerCase : JsString → JsString}
    (lowersAscii : LowersAscii toLowerCase)
    (padded : PaddedWord) :
    toLowerCase (trim padded.password) = padded.candidate := by
  have inRun : ∀ unit ∈ padded.run.rdropWhile isWhiteSpace,
      unit < 0x80 ∧ lowerUnit unit = unit := by
    intro unit present
    refine run_ascii (padded.runStripped unit ?_)
    exact (List.rdropWhile_prefix _ _).subset present
  rw [trim_password, lowersAscii]
  · have unchanged : asciiLowerCase (padded.run.rdropWhile isWhiteSpace) =
        padded.run.rdropWhile isWhiteSpace :=
      (List.map_congr_left fun unit present => (inRun unit present).2).trans
        (List.map_id _)
    rw [PaddedWord.candidate, asciiLowerCase, List.map_append]
    exact congrArg₂ _ padded.lowered unchanged
  · intro unit present
    rcases List.mem_append.mp present with present | present
    · have plain := isPlain_cased present
      simp only [isPlain, Bool.and_eq_true, decide_eq_true_eq] at plain
      exact plain.2
    · exact (inRun unit present).1

/-! ## What is left of the word -/

/-- What stands for a character is undone to what the character is undone to. -/
theorem unleetUnit_of_stands
    {unit letter : UInt16}
    (stands : StandsFor unit letter) :
    unleetUnit unit = unleetUnit letter := by
  rcases stands with rfl | swapped
  · rfl
  · obtain ⟨-, undone, itself, -, -⟩ := leet_facts swapped
    rw [undone, itself]

theorem unleet_of_stands
    {text word : JsString}
    (stands : List.Forall₂ StandsFor text word) :
    unleet text = unleet word := by
  rw [unleet_eq_map, unleet_eq_map]
  induction stands with
  | nil => rfl
  | cons standsFor rest inductionHypothesis =>
      rw [List.map_cons, List.map_cons, inductionHypothesis,
        unleetUnit_of_stands standsFor]

/-- The characters of the words are digits, or they are not stripped. -/
theorem stripsMore_iff_isDigit
    {word : JsString}
    {letter : UInt16}
    (listed : word ∈ platformPasswords)
    (present : letter ∈ word) :
    stripsMore letter = isDigit letter := by
  have kept := words_checked.2.1
  rw [List.all_eq_true] at kept
  have inWord := kept word listed
  rw [List.all_eq_true] at inWord
  simpa using inWord letter present

/-- The last character stands for the last of the word. -/
theorem stands_last
    {text word : JsString}
    (stands : List.Forall₂ StandsFor text word) :
    ∀ unit ∈ text.getLast?, ∃ letter ∈ word.getLast?, StandsFor unit letter := by
  induction stands with
  | nil => simp
  | cons standsFor rest inductionHypothesis =>
      cases rest with
      | nil => simpa using standsFor
      | cons standsForNext rest =>
          rw [List.getLast?_cons_cons, List.getLast?_cons_cons]
          exact inductionHypothesis

/-- What stands for the digits at the end of a word is cut off. -/
theorem rdropWhile_replaced (padded : PaddedWord) :
    padded.replaced.rdropWhile stripsMore =
      (padded.replaced.take padded.stem.length).rdropWhile stripsMore := by
  obtain ⟨digits, split, areDigits⟩ := exists_stripped isDigit padded.word
  have stands := padded.stands
  rw [split] at stands
  have standsBack := List.forall₂_drop_append _ _ _ stands
  conv_lhs => rw [← List.take_append_drop padded.stem.length padded.replaced]
  refine rdropWhile_append_of_all fun unit present => ?_
  obtain ⟨digit, isLast, standsFor⟩ := exists_letter standsBack present
  have digitIs := areDigits digit isLast
  rcases standsFor with rfl | swapped
  · rwa [stripsMore_iff_isDigit padded.listed]
    rw [split]
    exact List.mem_append_right _ isLast
  · exact (leet_facts swapped).2.2.2.1

/-- What is cut off stands for digits, and for letters that can be replaced. -/
theorem isCut_of_stripped
    {word cut letters : JsString}
    (listed : word ∈ platformPasswords)
    (stands : List.Forall₂ StandsFor cut letters)
    (within : ∀ letter ∈ letters, letter ∈ word)
    (stripped : ∀ unit ∈ cut, stripsMore unit = true) :
    letters.all isCut = true := by
  induction stands with
  | nil => rfl
  | @cons unit letter cut letters standsFor rest inductionHypothesis =>
      rw [List.forall_mem_cons] at within stripped
      rw [List.all_cons, inductionHypothesis within.2 stripped.2, Bool.and_true,
        isCut, Bool.or_eq_true, List.any_eq_true]
      rcases standsFor with rfl | swapped
      · left
        rw [← stripsMore_iff_isDigit listed within.1]
        exact stripped.1
      · exact .inr ⟨(unit, letter), swapped, decide_eq_true rfl⟩

/-- Where a word of the list can be cut. -/
theorem cut_of_listed
    {word : JsString}
    (listed : word ∈ platformPasswords)
    {place : Nat}
    (within : place ≤ (word.rdropWhile isDigit).length)
    (isCutOff : ((word.rdropWhile isDigit).drop place).all isCut = true)
    (isLeft : unleet ((word.rdropWhile isDigit).take place) ∈
      platformPasswords) :
    place = (word.rdropWhile isDigit).length ∧
      word.rdropWhile isDigit ∈ platformPasswords := by
  have checked := words_checked.2.2
  rw [List.all_eq_true] at checked
  have inWord := checked word listed
  rw [List.all_eq_true] at inWord
  have atPlace := inWord place (List.mem_range.mpr (Nat.lt_succ_of_le within))
  rw [isCutOff, List.contains_iff_mem.mpr isLeft] at atPlace
  simpa using atPlace

/-- The end of a word without its digits is kept. -/
theorem stem_kept
    (padded : PaddedWord)
    {letter : UInt16}
    (isLast : letter ∈ padded.stem.getLast?) :
    stripsMore letter = false := by
  have present : letter ∈ padded.word :=
    (List.rdropWhile_prefix _ _).subset (List.mem_of_mem_getLast? isLast)
  rw [stripsMore_iff_isDigit padded.listed present]
  have notEmpty : padded.stem ≠ [] := by
    intro isEmpty
    rw [isEmpty] at isLast
    cases isLast
  have last := List.rdropWhile_last_not isDigit padded.word notEmpty
  rw [List.getLast?_eq_getLast_of_ne_nil notEmpty] at isLast
  rw [← Option.some.inj isLast]
  exact Bool.not_eq_true _ ▸ last

/-- Where nothing is cut off, the last letter is not replaced. -/
theorem last_of_kept
    {text word : JsString}
    (stands : List.Forall₂ StandsFor text word)
    (kept : text.rdropWhile stripsMore = text) :
    text.getLast? = word.getLast? := by
  cases isLast : text.getLast? with
  | none =>
      rw [List.getLast?_eq_none_iff] at isLast
      subst isLast
      cases stands
      rfl
  | some unit =>
      obtain ⟨letter, isLetter, standsFor⟩ := stands_last stands unit isLast
      rcases standsFor with rfl | swapped
      · exact isLetter.symm
      · rw [List.rdropWhile_eq_self_iff] at kept
        have notEmpty : text ≠ [] := by
          rintro rfl
          cases isLast
        rw [List.getLast?_eq_getLast_of_ne_nil notEmpty] at isLast
        refine absurd ?_ (kept notEmpty)
        rw [Option.some.inj isLast]
        exact (leet_facts swapped).2.2.2.1

/-- What the substitutions make of what is left is on the list, if and only if the
word shows. -/
theorem shows_iff (padded : PaddedWord) :
    unleet (padded.replaced.rdropWhile stripsMore) ∈ platformPasswords ↔
      padded.Shows := by
  have stands : List.Forall₂ StandsFor
      (padded.replaced.take padded.stem.length) padded.stem := by
    obtain ⟨digits, split, -⟩ := exists_stripped isDigit padded.word
    have standsAll := padded.stands
    rw [split] at standsAll
    exact List.forall₂_take_append _ _ _ standsAll
  rw [rdropWhile_replaced, PaddedWord.Shows]
  generalize padded.replaced.take padded.stem.length = front at stands
  constructor
  · intro isLeft
    obtain ⟨cut, split, areCut⟩ := exists_stripped stripsMore front
    generalize isKept : front.rdropWhile stripsMore = kept at split isLeft
    subst split
    have standsKept := List.forall₂_take kept.length stands
    have standsCut := List.forall₂_drop kept.length stands
    rw [List.take_left] at standsKept
    rw [List.drop_left] at standsCut
    rw [unleet_of_stands standsKept] at isLeft
    have sameLength := stands.length_eq
    rw [List.length_append] at sameLength
    have within : kept.length ≤ padded.stem.length := by omega
    obtain ⟨whole, listed⟩ := cut_of_listed padded.listed within
      (isCut_of_stripped padded.listed standsCut (fun letter present =>
        (List.rdropWhile_prefix _ _).subset (List.mem_of_mem_drop present))
        areCut) isLeft
    refine ⟨listed, ?_⟩
    have nothing : cut = [] := by
      rw [← List.length_eq_zero_iff]
      exact Nat.add_eq_left.mp (sameLength.trans whole.symm)
    subst nothing
    rw [List.append_nil] at stands isKept ⊢
    exact last_of_kept stands isKept
  · rintro ⟨listed, sameLast⟩
    have kept : front.rdropWhile stripsMore = front := by
      rw [List.rdropWhile_eq_self_iff]
      intro notEmpty
      have isLast : front.getLast notEmpty ∈ padded.stem.getLast? := by
        rw [← sameLast]
        exact List.getLast_mem_getLast? notEmpty
      simp [stem_kept padded isLast]
    rw [kept, unleet_of_stands stands]
    refine (screened_platform _ listed).2.2 ?_
    rw [List.rdropWhile_eq_self_iff]
    intro notEmpty stripped
    have keptLast := stem_kept padded (List.getLast_mem_getLast? notEmpty)
    rw [stripsMore, stripped, Bool.true_or] at keptLast
    cases keptLast

/-! ## Which padded words are rejected -/

/-- For every word of the list, replacements, case, white space and run: the
password is rejected, if and only if the word shows, or the password is refused
for its length or a run of characters, repeats one character, or is listed as it
is. -/
theorem padded_rejected_iff
    (toLowerCase : JsString → JsString)
    (lowersAscii : LowersAscii toLowerCase)
    (padded : PaddedWord) :
    validatePassword toLowerCase padded.password ≠ none ↔
      padded.Shows ∨
        padded.password.length < platformPolicy.minLength ∨
        platformPolicy.maxBytes < utf8Length padded.password ∨
        platformPolicy.isSequential padded.candidate = true ∨
        distinct padded.candidate = 1 ∨
        padded.candidate ∈ platformPasswords := by
  have notEmpty : padded.candidate.isEmpty = false := by
    rw [List.isEmpty_eq_false_iff]
    intro isEmpty
    have noReplaced := (List.append_eq_nil_iff.mp isEmpty).1
    rw [← padded.lowered] at noReplaced
    exact cased_ne_nil padded (List.map_eq_nil_iff.mp noReplaced)
  have cutOff : padded.candidate.rdropWhile stripsMore =
      padded.replaced.rdropWhile stripsMore := by
    refine rdropWhile_append_of_all fun unit present => ?_
    exact padded.runStripped unit
      ((List.rdropWhile_prefix _ _).subset present)
  have common : isCommon toLowerCase padded.password = true ↔
      padded.candidate ∈ platformPasswords ∨ padded.Shows ∨
        distinct padded.candidate = 1 := by
    rw [isCommon, lowered_password lowersAscii, if_neg (by simp [notEmpty]),
      isListed_iff platformPolicy screened_platform, ← shows_iff, ← cutOff]
    · rfl
    · intro unit stripped
      change stripsMore unit = true
      rw [stripsMore, stripped, Bool.true_or]
  rw [validatePassword, ne_eq, error_eq_none_iff platformPolicy rfl rfl rfl rfl,
    ← Bool.not_eq_true, common, PassesRules, lowered_password lowersAscii,
    ← Bool.not_eq_true, ← Nat.not_lt, ← Nat.not_lt]
  tauto

theorem lowersAscii_asciiLowerCase : LowersAscii asciiLowerCase :=
  fun _ _ => rfl

/-- "abc123!!!!!!". -/
def abcPadded : PaddedWord where
  word := ofText "abc123"
  replaced := ofText "abc123"
  cased := ofText "abc123"
  run := ofText "!!!!!!"
  before := []
  after := []
  listed := by decide +kernel
  stands := List.forall₂_same.mpr fun _ _ => .inl rfl
  lowered := by decide +kernel
  runStripped := by
    rw [← List.all_eq_true]
    decide +kernel
  beforeWhite := by simp
  afterWhite := by simp

theorem abcPadded_rejected_iff :
    LowersAscii asciiLowerCase ∧
      (validatePassword asciiLowerCase abcPadded.password ≠ none ↔
        abcPadded.Shows ∨
          abcPadded.password.length < platformPolicy.minLength ∨
          platformPolicy.maxBytes < utf8Length abcPadded.password ∨
          platformPolicy.isSequential abcPadded.candidate = true ∨
          distinct abcPadded.candidate = 1 ∨
          abcPadded.candidate ∈ platformPasswords) :=
  ⟨lowersAscii_asciiLowerCase, padded_rejected_iff asciiLowerCase
    lowersAscii_asciiLowerCase abcPadded⟩

/-- The digits of the word are cut off with what follows. -/
theorem abcPadded_accepted :
    abcPadded.password = ofText "abc123!!!!!!" ∧
      validatePassword asciiLowerCase abcPadded.password = none := by
  decide +kernel

end Auth
end EvoPlatform
