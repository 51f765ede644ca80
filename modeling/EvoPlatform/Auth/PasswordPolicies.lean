import EvoPlatform.Foundation.Utf16

/-!
# The three copies of the password policy

The platform, the admin console and the app template each check a new password
with a copy of the same policy.  The copies differ in one entry of the list of
common passwords, in one character of the class of characters that are stripped
from the end, and in a guard that the console lacks.
-/

namespace EvoPlatform
namespace Auth

open JsString

/-- The values of one copy of the policy. -/
structure PasswordPolicy where
  minLength : Nat
  maxBytes : Nat
  maxRun : Nat
  common : List JsString
  sequences : List JsString
  /-- The character class of the regular expression that strips a suffix. -/
  strips : UInt16 → Bool

/-- The substitutions that are undone, in this order. -/
def leet : List (UInt16 × UInt16) :=
  (ofText "@013$5!47").zip (ofText "aoiessiat")

/-- `candidate.replace(...)` with each substitution. -/
def unleet (candidate : JsString) : JsString :=
  leet.foldl (fun text swap =>
    text.map fun unit => if unit = swap.1 then swap.2 else unit) candidate

namespace PasswordPolicy

variable (policy : PasswordPolicy)

/-- `isSequential`. -/
def isSequential (candidate : JsString) : Bool :=
  let window := policy.maxRun + 1
  if candidate.length < window then false
  else
    policy.sequences.any fun seq =>
      (List.range (candidate.length + 1 - window)).any fun i =>
        let chunk := slice candidate i (i + window)
        includes seq chunk || includes seq.reverse chunk

/-- What each copy of `isCommon` checks of a candidate in the end. -/
def isListed (candidate : JsString) : Bool :=
  if policy.common.contains candidate then true
  else
    let trimmed := candidate.rdropWhile policy.strips
    if !trimmed.isEmpty && policy.common.contains trimmed then true
    else if !(unleet trimmed).isEmpty &&
        policy.common.contains (unleet trimmed) then true
    else distinct candidate = 1

/-- Check a password with a copy of `isCommon`; `toLowerCase` is the one of the
runtime. -/
def error (toLowerCase : JsString → JsString)
    (isCommon : JsString → Bool) (password : JsString) : Option String :=
  if password.isEmpty then some "Password is required"
  else if password.length < policy.minLength then
    some ("Password must be at least " ++ toString policy.minLength ++
      " characters")
  else if policy.maxBytes < utf8Length password then
    some ("Password must be " ++ toString policy.maxBytes ++
      " characters or fewer")
  else if policy.isSequential (toLowerCase (trim password)) then
    some ("Avoid runs of more than " ++ toString policy.maxRun ++
      " characters in a row (like abcde or 12345)")
  else if isCommon password then
    some "That password is too common — choose something less guessable"
  else none

end PasswordPolicy

/-! ## The copies -/

/-- `SEQUENCES`, the same in each copy. -/
def sequences : List JsString :=
  ["0123456789", "abcdefghijklmnopqrstuvwxyz", "qwertyuiop", "asdfghjkl",
    "zxcvbnm"].map ofText

/-- The entries that the lists of common passwords share. -/
def sharedPasswords : List String :=
  ["password", "password1", "password123", "passw0rd", "letmein",
    "welcome", "welcome1", "qwerty", "qwerty123", "iloveyou", "admin",
    "administrator", "changeme", "abc123", "111111", "123456", "1234567",
    "12345678", "123456789", "1234567890", "monkey", "dragon", "sunshine",
    "princess", "football", "baseball", "trustno1", "evoplatform"]

/-- The list of the platform and of the console. -/
def platformPasswords : List JsString :=
  (sharedPasswords ++ ["evomedia"]).map ofText

/-- The list of the template. -/
def templatePasswords : List JsString :=
  (sharedPasswords ++ ["evoapp"]).map ofText

/-- A backslash. -/
def backslash : UInt16 := 0x5C

/-- The class of the console and of the template, in which the backslash escapes
the bar that follows it. -/
def suffixClass : JsString :=
  ofText "0123456789!@#$%^&*()-_=+.,?/|[]\x7b\x7d<>;:'\"`~ "

/-- Is a character stripped by the console and by the template? -/
def stripsSuffix (unit : UInt16) : Bool := suffixClass.contains unit

/-- Is a character stripped by the platform? -/
def stripsMore (unit : UInt16) : Bool :=
  stripsSuffix unit || unit = backslash

/-- The policy of the platform. -/
def platformPolicy : PasswordPolicy where
  minLength := 12
  maxBytes := 72
  maxRun := 4
  common := platformPasswords
  sequences := sequences
  strips := stripsMore

/-- The policy of the admin console. -/
def consolePolicy : PasswordPolicy where
  minLength := 12
  maxBytes := 72
  maxRun := 4
  common := platformPasswords
  sequences := sequences
  strips := stripsSuffix

/-- The policy of the app template. -/
def templatePolicy : PasswordPolicy where
  minLength := 12
  maxBytes := 72
  maxRun := 4
  common := templatePasswords
  sequences := sequences
  strips := stripsSuffix

section Copies

variable (toLowerCase : JsString → JsString) (password : JsString)

/-- `isCommon` of the platform. -/
def isCommon : Bool :=
  let candidate := toLowerCase (trim password)
  if candidate.isEmpty then true else platformPolicy.isListed candidate

/-- `pwIsCommon` of the admin console, which does not ask whether anything is
left of the password. -/
def pwIsCommon : Bool :=
  let c := toLowerCase (trim password)
  consolePolicy.isListed c

/-- `isCommon` of the app template. -/
def templateIsCommon : Bool :=
  let candidate := toLowerCase (trim password)
  if candidate.isEmpty then true else templatePolicy.isListed candidate

/-- `validatePassword` of the platform. -/
def validatePassword : Option String :=
  platformPolicy.error toLowerCase (isCommon toLowerCase) password

/-- `pwPolicyError` of the admin console. -/
def pwPolicyError : Option String :=
  consolePolicy.error toLowerCase (pwIsCommon toLowerCase) password

/-- `validatePassword` of the app template. -/
def templateValidatePassword : Option String :=
  templatePolicy.error toLowerCase (templateIsCommon toLowerCase) password

end Copies

/-! ## Undone substitutions -/

/-- What the substitutions make of a code unit. -/
def unleetUnit (unit : UInt16) : UInt16 :=
  leet.foldl (fun unit swap => if unit = swap.1 then swap.2 else unit) unit

/-- Substituting one after the other substitutes in each code unit. -/
theorem foldl_map_eq_map_foldl (swaps : List (UInt16 × UInt16))
    (text : JsString) :
    swaps.foldl (fun text swap =>
        text.map fun unit => if unit = swap.1 then swap.2 else unit) text =
      text.map fun unit =>
        swaps.foldl (fun unit swap =>
          if unit = swap.1 then swap.2 else unit) unit := by
  induction swaps generalizing text with
  | nil => simp
  | cons swap swaps inductionHypothesis =>
      rw [List.foldl_cons, inductionHypothesis, List.map_map]
      rfl

theorem unleet_eq_map (text : JsString) :
    unleet text = text.map unleetUnit :=
  foldl_map_eq_map_foldl leet text

/-- The substitutions, evaluated once: there are no surrogates in them, and a
backslash is stripped and stays. -/
theorem leet_checked :
    (leet.all fun swap => !isLeading swap.1 && !isLeading swap.2) = true ∧
      unleetUnit backslash = backslash ∧ stripsMore backslash = true := by
  decide +kernel

/-- No surrogate is substituted, and none comes in. -/
theorem isLeading_unleetUnit (unit : UInt16) :
    isLeading (unleetUnit unit) = isLeading unit := by
  have plain : ∀ swap ∈ leet,
      isLeading swap.1 = false ∧ isLeading swap.2 = false := by
    simpa only [List.all_eq_true, Bool.and_eq_true, Bool.not_eq_true']
      using leet_checked.1
  unfold unleetUnit
  generalize leet = swaps at plain
  induction swaps generalizing unit with
  | nil => rfl
  | cons swap swaps inductionHypothesis =>
      rw [List.foldl_cons, inductionHypothesis _
        fun other present => plain other (by simp [present])]
      split
      · rename_i isSwapped
        obtain ⟨fromPlain, toPlain⟩ := plain swap (by simp)
        rw [isSwapped, fromPlain, toPlain]
      · rfl

/-- A candidate of one character that leaves a word leaves one that repeats its
first letter. -/
theorem repeats_of_distinct
    {candidate : JsString}
    {strips : UInt16 → Bool}
    {letter : UInt16}
    {word : JsString}
    (single : distinct candidate = 1)
    (leaves : unleet (candidate.rdropWhile strips) = letter :: word)
    (notLeading : isLeading letter = false) :
    ∃ unit, (∀ other ∈ candidate, other = unit) ∧
      ∀ other ∈ word, other = letter := by
  rw [unleet_eq_map, List.map_eq_cons_iff] at leaves
  obtain ⟨unit, rest, trimmed, isLetter, isWord⟩ := leaves
  have isPrefix : unit :: rest <+: candidate :=
    trimmed ▸ List.rdropWhile_prefix strips candidate
  obtain ⟨suffix, rfl⟩ := isPrefix
  have unitPlain : isLeading unit = false := by
    rw [← isLeading_unleetUnit, isLetter]
    exact notLeading
  have repeats := eq_first_of_distinct unitPlain single
  refine ⟨unit, ?_, ?_⟩
  · intro other present
    rcases List.mem_cons.mp present with rfl | later
    · rfl
    · exact repeats other later
  · intro other present
    rw [← isWord] at present
    obtain ⟨source, isSource, rfl⟩ := List.mem_map.mp present
    rw [repeats source (List.mem_append_left _ isSource), isLetter]

/-! ## What each copy calls common -/

/-- What the platform makes of a candidate before it looks into its list. -/
def normalForm (candidate : JsString) : JsString :=
  unleet (candidate.rdropWhile stripsMore)

/-- The blocked words on which the lists differ. -/
def disputed : List JsString := [ofText "evomedia", ofText "evoapp"]

/-- Does the console, in stripping a suffix, stop at a backslash? -/
def stopsAtBackslash (candidate : JsString) : Bool :=
  (candidate.rdropWhile stripsSuffix).getLast? = some backslash

/-- The candidates on which the copies part. -/
def Parts (candidate : JsString) : Prop :=
  candidate = [] ∨
    if stopsAtBackslash candidate then
      normalForm candidate ∈ platformPasswords
    else normalForm candidate ∈ disputed

instance (candidate : JsString) : Decidable (Parts candidate) :=
  inferInstanceAs (Decidable (_ ∨ _))

/-- The lists hold no empty word, no word with a backslash, and with a word that
ends in no stripped character also what the substitutions make of it. -/
def Screened (common : List JsString) : Prop :=
  ∀ word ∈ common, word ≠ [] ∧ backslash ∉ word ∧
    (word.rdropWhile stripsSuffix = word → unleet word ∈ common)

instance (common : List JsString) : Decidable (Screened common) :=
  inferInstanceAs (Decidable (∀ word ∈ common, _))

/-- A word is on one of the lists only, no word of the other list comes down to
it, it comes down to itself, and its first character is not all there is. -/
def Disputes (word : JsString) : Prop :=
  ((word ∈ platformPasswords ∧ word ∉ templatePasswords ∧
      ∀ listed ∈ templatePasswords, normalForm listed ≠ word) ∨
    (word ∉ platformPasswords ∧ word ∈ templatePasswords ∧
      ∀ listed ∈ platformPasswords, normalForm listed ≠ word)) ∧
  normalForm word = word ∧
    word.head?.any (fun letter => !isLeading letter) = true ∧
    word.tail.any (fun other => word.head? ≠ some other) = true

instance (word : JsString) : Decidable (Disputes word) :=
  inferInstanceAs (Decidable (_ ∧ _))

/-- The lists, evaluated once. -/
theorem lists_checked :
    Screened platformPasswords ∧ Screened templatePasswords ∧
      (∀ word ∈ platformPasswords,
        word.head?.any (fun letter => !isLeading letter) = true) ∧
      ∀ word ∈ disputed, Disputes word := by
  decide +kernel

theorem screened_platform : Screened platformPasswords := lists_checked.1

theorem screened_template : Screened templatePasswords := lists_checked.2.1

/-- A word of the lists is listed as it is, or as it is once its suffix is
stripped and the substitutions are undone. -/
theorem isListed_iff
    (policy : PasswordPolicy)
    (screened : Screened policy.common)
    (stripsAll : ∀ unit, stripsSuffix unit = true →
      policy.strips unit = true)
    (candidate : JsString) :
    policy.isListed candidate = true ↔
      candidate ∈ policy.common ∨
        unleet (candidate.rdropWhile policy.strips) ∈ policy.common ∨
        distinct candidate = 1 := by
  have ofTrimmed : candidate.rdropWhile policy.strips ∈ policy.common →
      unleet (candidate.rdropWhile policy.strips) ∈ policy.common := by
    intro listed
    apply (screened _ listed).2.2
    rw [List.rdropWhile_eq_self_iff]
    intro notEmpty stripped
    exact List.rdropWhile_last_not policy.strips candidate notEmpty
      (stripsAll _ stripped)
  have notEmpty : ∀ word ∈ policy.common, word.isEmpty = false := by
    intro word present
    simpa using (screened word present).1
  simp only [PasswordPolicy.isListed, List.contains_iff_mem]
  split_ifs with whole trimmed undone
  · exact iff_of_true rfl (Or.inl whole)
  · rw [Bool.and_eq_true, List.contains_iff_mem] at trimmed
    exact iff_of_true rfl (Or.inr (Or.inl (ofTrimmed trimmed.2)))
  · rw [Bool.and_eq_true, List.contains_iff_mem] at undone
    exact iff_of_true rfl (Or.inr (Or.inl undone.2))
  · have notUndone :
        unleet (candidate.rdropWhile policy.strips) ∉ policy.common := by
      intro listed
      apply undone
      rw [Bool.and_eq_true, List.contains_iff_mem, notEmpty _ listed]
      exact ⟨rfl, listed⟩
    simp [whole, notUndone]

/-! ## Where the copies part -/

section Parting

variable {candidate : JsString}

/-- A candidate in which stripping stops at a backslash is neither listed as it
is nor without the suffix that the console strips. -/
theorem not_listed_of_stopsAtBackslash
    {common : List JsString}
    (screened : Screened common)
    (stops : stopsAtBackslash candidate = true) :
    candidate ∉ common ∧
      unleet (candidate.rdropWhile stripsSuffix) ∉ common := by
  have isLast : (candidate.rdropWhile stripsSuffix).getLast? =
      some backslash := by
    simpa [stopsAtBackslash] using stops
  have present : backslash ∈ candidate.rdropWhile stripsSuffix :=
    List.mem_of_getLast? isLast
  constructor
  · intro listed
    exact (screened _ listed).2.1
      ((List.rdropWhile_prefix stripsSuffix candidate).subset present)
  · intro listed
    apply (screened _ listed).2.1
    rw [unleet_eq_map]
    exact List.mem_map.mpr ⟨backslash, present, leet_checked.2.1⟩

/-- Elsewhere the platform strips as much as the others. -/
theorem rdropWhile_stripsMore_of_not_stops
    (goesOn : stopsAtBackslash candidate = false) :
    candidate.rdropWhile stripsMore = candidate.rdropWhile stripsSuffix := by
  have weaker : ∀ unit, stripsSuffix unit = true → stripsMore unit = true := by
    intro unit stripped
    simp [stripsMore, stripped]
  rw [← rdropWhile_rdropWhile weaker, List.rdropWhile_eq_self_iff]
  intro notEmpty stripped
  rw [stripsMore, Bool.or_eq_true, decide_eq_true_eq] at stripped
  rcases stripped with inClass | isBackslash
  · exact List.rdropWhile_last_not stripsSuffix candidate notEmpty inClass
  · rw [stopsAtBackslash, List.getLast?_eq_getLast_of_ne_nil notEmpty,
      isBackslash] at goesOn
    simp at goesOn

/-- The words of the lists begin with no surrogate. -/
theorem plain_of_listed :
    ∀ word ∈ platformPasswords, ∃ letter rest, word = letter :: rest ∧
      isLeading letter = false := by
  intro word present
  have begins := lists_checked.2.2.1 word present
  cases word with
  | nil => contradiction
  | cons letter rest => exact ⟨letter, rest, rfl, by simpa using begins⟩

/-- The platform lists a candidate in which stripping stops at a backslash, and
that has no single character. -/
theorem not_single_of_normalForm
    (stops : stopsAtBackslash candidate = true)
    (listed : normalForm candidate ∈ platformPasswords) :
    distinct candidate ≠ 1 := by
  intro single
  obtain ⟨letter, rest, leaves, plain⟩ := plain_of_listed _ listed
  obtain ⟨unit, allSame, _⟩ := repeats_of_distinct single leaves plain
  have isLast : (candidate.rdropWhile stripsSuffix).getLast? =
      some backslash := by
    simpa [stopsAtBackslash] using stops
  have isUnit := allSame backslash
    ((List.rdropWhile_prefix stripsSuffix candidate).subset
      (List.mem_of_getLast? isLast))
  have nothing : candidate.rdropWhile stripsMore = [] := by
    rw [List.rdropWhile_eq_nil_iff]
    intro other present
    rw [allSame other present, ← isUnit]
    exact leet_checked.2.2
  rw [normalForm, nothing] at leaves
  contradiction

/-- A disputed word has no single character, and is left of no word of the
lists. -/
theorem not_single_of_disputed
    (isDisputed : normalForm candidate ∈ disputed) :
    distinct candidate ≠ 1 := by
  intro single
  obtain ⟨-, -, plain, varied⟩ := lists_checked.2.2.2 _ isDisputed
  obtain ⟨other, isOther, different⟩ := List.any_eq_true.mp varied
  cases leaves : normalForm candidate with
  | nil =>
      rw [leaves] at isOther
      cases isOther
  | cons letter rest =>
      rw [leaves] at plain isOther different
      have notLeading : isLeading letter = false := by simpa using plain
      obtain ⟨_, _, repeats⟩ := repeats_of_distinct single leaves notLeading
      exact of_decide_eq_true different
        (congrArg some (repeats other isOther).symm)

/-- Where the platform strips as much as the others, the lists are told apart by
the disputed words only. -/
theorem mem_lists_iff
    {word : JsString}
    (undisputed : word ∉ disputed) :
    word ∈ platformPasswords ↔ word ∈ templatePasswords := by
  simp only [disputed, List.mem_cons, List.not_mem_nil, or_false, not_or]
    at undisputed
  simp [platformPasswords, templatePasswords, undisputed.1, undisputed.2]

theorem platform_isListed_iff (candidate : JsString) :
    platformPolicy.isListed candidate = true ↔
      candidate ∈ platformPasswords ∨
        normalForm candidate ∈ platformPasswords ∨ distinct candidate = 1 :=
  isListed_iff platformPolicy screened_platform
    (fun unit stripped => by simp [platformPolicy, stripsMore, stripped])
    candidate

theorem console_isListed_iff (candidate : JsString) :
    consolePolicy.isListed candidate = true ↔
      candidate ∈ platformPasswords ∨
        unleet (candidate.rdropWhile stripsSuffix) ∈ platformPasswords ∨
        distinct candidate = 1 :=
  isListed_iff consolePolicy screened_platform (fun _ stripped => stripped)
    candidate

theorem template_isListed_iff (candidate : JsString) :
    templatePolicy.isListed candidate = true ↔
      candidate ∈ templatePasswords ∨
        unleet (candidate.rdropWhile stripsSuffix) ∈ templatePasswords ∨
        distinct candidate = 1 :=
  isListed_iff templatePolicy screened_template (fun _ stripped => stripped)
    candidate

/-- Where stripping stops at a backslash, only the platform goes on to the word
before it. -/
theorem listed_alike_of_stops
    (stops : stopsAtBackslash candidate = true) :
    ((platformPolicy.isListed candidate = true ↔
        templatePolicy.isListed candidate = true) ∧
      (platformPolicy.isListed candidate = true ↔
        consolePolicy.isListed candidate = true)) ↔
      normalForm candidate ∉ platformPasswords := by
  obtain ⟨notWhole, notTrimmed⟩ :=
    not_listed_of_stopsAtBackslash screened_platform stops
  obtain ⟨notTemplate, notTemplateTrimmed⟩ :=
    not_listed_of_stopsAtBackslash screened_template stops
  have notSingle := not_single_of_normalForm stops
  simp only [platform_isListed_iff, console_isListed_iff,
    template_isListed_iff, notWhole, notTrimmed, notTemplate,
    notTemplateTrimmed, false_or, and_self]
  constructor
  · intro alike listed
    exact notSingle listed (alike.mp (Or.inl listed))
  · intro unlisted
    simp [unlisted]

/-- Elsewhere the platform and the console list the same, and the template does
unless a disputed word is left. -/
theorem listed_alike_of_not_stops
    (goesOn : stopsAtBackslash candidate = false) :
    ((platformPolicy.isListed candidate = true ↔
        templatePolicy.isListed candidate = true) ∧
      (platformPolicy.isListed candidate = true ↔
        consolePolicy.isListed candidate = true)) ↔
      normalForm candidate ∉ disputed := by
  have sameTrimmed : unleet (candidate.rdropWhile stripsSuffix) =
      normalForm candidate := by
    rw [normalForm, rdropWhile_stripsMore_of_not_stops goesOn]
  rw [platform_isListed_iff, console_isListed_iff, template_isListed_iff,
    sameTrimmed]
  constructor
  · rintro ⟨alike, _⟩ isDisputed
    have notSingle := not_single_of_disputed isDisputed
    rcases (lists_checked.2.2.2 _ isDisputed).1 with
      ⟨onPlatform, offTemplate, leftByNone⟩ |
        ⟨offPlatform, onTemplate, leftByNone⟩
    · rcases alike.mp (Or.inr (Or.inl onPlatform)) with whole | trimmed | single
      · exact leftByNone candidate whole rfl
      · exact offTemplate trimmed
      · exact notSingle single
    · rcases alike.mpr (Or.inr (Or.inl onTemplate)) with
        whole | trimmed | single
      · exact leftByNone candidate whole rfl
      · exact offPlatform trimmed
      · exact notSingle single
  · intro undisputed
    have wholeUndisputed : candidate ∉ disputed := by
      intro isDisputed
      have itself := (lists_checked.2.2.2 _ isDisputed).2.1
      exact undisputed (itself.symm ▸ isDisputed)
    rw [mem_lists_iff undisputed, mem_lists_iff wholeUndisputed]
    exact ⟨Iff.rfl, Iff.rfl⟩

end Parting

/-! ## The policies in step -/

/-- A password is long enough, short enough for bcrypt, and without a run. -/
def PassesRules (toLowerCase : JsString → JsString) (password : JsString) :
    Prop :=
  platformPolicy.minLength ≤ password.length ∧
    utf8Length password ≤ platformPolicy.maxBytes ∧
    platformPolicy.isSequential (toLowerCase (trim password)) = false

/-- A policy with the same bounds accepts what passes the rules and is not
common. -/
theorem error_eq_none_iff
    (policy : PasswordPolicy)
    (sameLength : policy.minLength = 12)
    (sameBytes : policy.maxBytes = 72)
    (sameRun : policy.maxRun = 4)
    (sameSequences : policy.sequences = sequences)
    (toLowerCase : JsString → JsString)
    (common : JsString → Bool)
    (password : JsString) :
    policy.error toLowerCase common password = none ↔
      PassesRules toLowerCase password ∧ common password = false := by
  have sameSequential : policy.isSequential =
      platformPolicy.isSequential := by
    unfold PasswordPolicy.isSequential
    rw [sameRun, sameSequences]
    rfl
  have notEmpty : 12 ≤ password.length → password.isEmpty = false := by
    intro long
    cases password with
    | nil => contradiction
    | cons unit rest => rfl
  simp only [PasswordPolicy.error, PassesRules, sameSequential, sameLength,
    sameBytes, sameRun]
  simp only [platformPolicy]
  split_ifs <;> grind

/-- For every string, the platform, the admin console and the app template accept
it alike exactly when it fails a rule that they share, or the candidate is one on
which they do not part. -/
theorem policies_agree_iff
    (toLowerCase : JsString → JsString)
    (password : JsString) :
    ((validatePassword toLowerCase password = none ↔
        templateValidatePassword toLowerCase password = none) ∧
      (validatePassword toLowerCase password = none ↔
        pwPolicyError toLowerCase password = none)) ↔
      (PassesRules toLowerCase password →
        ¬ Parts (toLowerCase (trim password))) := by
  rw [validatePassword, templateValidatePassword, pwPolicyError,
    error_eq_none_iff platformPolicy rfl rfl rfl rfl,
    error_eq_none_iff templatePolicy rfl rfl rfl rfl,
    error_eq_none_iff consolePolicy rfl rfl rfl rfl]
  by_cases passes : PassesRules toLowerCase password
  · simp only [passes, true_and, forall_true_left, isCommon, pwIsCommon,
      templateIsCommon]
    generalize toLowerCase (trim password) = candidate
    by_cases blank : candidate = []
    · subst blank
      have unlisted : consolePolicy.isListed [] = false := by
        have noWord : [] ∉ platformPasswords := fun listed =>
          (screened_platform _ listed).1 rfl
        rw [← Bool.not_eq_true, console_isListed_iff]
        rintro (listed | listed | single)
        · exact noWord listed
        · exact noWord listed
        · cases single
      simp [Parts, unlisted]
    · have notBlank : candidate.isEmpty = false := by simpa using blank
      simp only [notBlank, Bool.false_eq_true, if_false, Parts, blank, false_or,
        ← Bool.not_eq_true, not_iff_not]
      cases stops : stopsAtBackslash candidate with
      | true => simpa using listed_alike_of_stops stops
      | false => simpa using listed_alike_of_not_stops stops
  · simp [passes]

/-- `toLowerCase` of a text in ASCII. -/
def asciiLowerCase (text : JsString) : JsString :=
  text.map fun unit => if 0x41 ≤ unit && unit ≤ 0x5A then unit + 0x20 else unit

/-- "evomedia1357" is too common for the platform and the console only, six
backslashes after "dragon" hide it from the console and the template, and the
console accepts twelve blanks. -/
theorem policies_disagree :
    (validatePassword asciiLowerCase (ofText "evomedia1357") ≠ none ∧
      pwPolicyError asciiLowerCase (ofText "evomedia1357") ≠ none ∧
      templateValidatePassword asciiLowerCase (ofText "evomedia1357") =
        none) ∧
    (validatePassword asciiLowerCase (ofText "dragon\\\\\\\\\\\\") ≠ none ∧
      pwPolicyError asciiLowerCase (ofText "dragon\\\\\\\\\\\\") = none) ∧
    validatePassword asciiLowerCase (ofText "            ") ≠ none ∧
      pwPolicyError asciiLowerCase (ofText "            ") = none := by
  decide +kernel

end Auth
end EvoPlatform
