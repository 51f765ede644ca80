import EvoPlatform.Auth.Workspaces
import Mathlib.Data.List.DropRight

/-!
# Slugs as host labels

A workspace is found under its slug as a subdomain, so that the slug has to be
a label of a host name.  A signup takes it from the request, derives it from the
name of the company, or adds a random suffix to a derived one that is taken.
What is derived is the words of the name joined by dashes, cut after forty
characters.
-/

namespace EvoPlatform
namespace Auth

variable {τ : Type}

/-! ## Labels -/

/-- A text that can stand as a subdomain. -/
structure HostLabel (slug : String) : Prop where
  chars : ∀ char ∈ slug.toList, (isSlugChar char || char = '-') = true
  notEmpty : slug.toList ≠ []
  short : slug.toList.length ≤ 40
  starts : slug.toList.head? ≠ some '-'
  ends : slug.toList.getLast? ≠ some '-'

/-- `@Matches(/^[a-z0-9][a-z0-9-]*$/) @MaxLength(40)`. -/
def acceptsSlug (slug : String) : Bool :=
  match slug.toList with
  | [] => false
  | first :: rest =>
      isSlugChar first && rest.all (fun char => isSlugChar char || char = '-') &&
        slug.toList.length ≤ 40

/-- The slug of a request is optional. -/
def SignupDto.acceptsSlug (dto : SignupDto τ) : Bool :=
  dto.slug.all Auth.acceptsSlug

/-- `randomBytes(2).toString('hex')`. -/
def hexText (high low : Fin 256) : String :=
  String.ofList
    [(high.val / 16).digitChar, (high.val % 16).digitChar,
      (low.val / 16).digitChar, (low.val % 16).digitChar]

/-- The words of a text: what stands between characters that are replaced. -/
def slugWords (text : List Char) : List (List Char) :=
  (text.splitOnP fun char => !isSlugChar char).filter fun word => !word.isEmpty

/-- Words joined by dashes. -/
def joined (words : List (List Char)) : List Char := ['-'].intercalate words

/-- Some of the words, joined, have thirty-nine characters, and are followed by
another word. -/
def CutAtDash (words : List (List Char)) : Prop :=
  ∃ count < words.length, (joined (words.take count)).length = 39

instance (words : List (List Char)) : Decidable (CutAtDash words) :=
  inferInstanceAs (Decidable (∃ count < words.length, _))

/-- What is derived from the name of a company. -/
def derivedSlug (env : AuthEnv) (company : String) : String :=
  (given (some (slugify env company))).getD "workspace"

/-- A slug that is asked for does not end with a dash.  When none is, the first
words of the name have thirty-nine characters only where they are all of them,
or where they are taken with a dash behind them. -/
def SlugFits (env : AuthEnv) (dto : SignupDto τ) (accounts : Accounts) : Prop :=
  match given dto.slug with
  | some slug => slug.toList.getLast? ≠ some '-'
  | none =>
      let words := slugWords (env.toLowerCase dto.company).toList
      ∀ count < words.length, (joined (words.take count)).length = 39 →
        accounts.slugTaken
          (String.ofList (joined (words.take count) ++ ['-'])) = true

/-! ## Words -/

section Words

variable {char : Char} {text word : List Char} {words : List (List Char)}

theorem ne_dash_of_isSlugChar (isSlug : isSlugChar char = true) :
    char ≠ '-' := by
  rintro rfl
  exact absurd isSlug (by decide)

/-- What follows the first word. -/
def tailed (words : List (List Char)) : List Char :=
  words.flatMap fun word => '-' :: word

theorem joined_cons (word : List Char) (words : List (List Char)) :
    joined (word :: words) = word ++ tailed words := by
  induction words generalizing word with
  | nil => simp [joined, tailed]
  | cons second words inductionHypothesis =>
      have isRest := inductionHypothesis second
      unfold joined tailed at isRest ⊢
      rw [List.intercalate_cons_cons, isRest, List.flatMap_cons,
        List.append_assoc]
      rfl

theorem tailed_eq_cons_joined (someWords : words ≠ []) :
    tailed words = '-' :: joined words := by
  obtain ⟨word, rest, rfl⟩ := List.exists_cons_of_ne_nil someWords
  rw [joined_cons]
  rfl

theorem joined_ne_nil
    (full : ∀ word ∈ words, word ≠ [])
    (someWords : words ≠ []) :
    joined words ≠ [] := by
  obtain ⟨word, rest, rfl⟩ := List.exists_cons_of_ne_nil someWords
  rw [joined_cons]
  exact fun isNil =>
    full word List.mem_cons_self (List.append_eq_nil_iff.mp isNil).1

/-- Dashes at the end, of a text that is longer by a character. -/
theorem rdropWhile_cons (strips : Char → Bool) (char : Char) (text : List Char) :
    (char :: text).rdropWhile strips =
      if text.rdropWhile strips = [] then
        if strips char then [] else [char]
      else char :: text.rdropWhile strips := by
  unfold List.rdropWhile
  rw [List.reverse_cons, List.dropWhile_append]
  by_cases isEmpty : text.reverse.dropWhile strips = []
  · simp only [isEmpty, List.isEmpty_nil, List.reverse_nil, if_true]
    rw [List.dropWhile_cons, List.dropWhile_nil]
    split <;> rfl
  · have notEmpty : (text.reverse.dropWhile strips).isEmpty = false := by
      simpa using isEmpty
    simp [notEmpty, isEmpty]

theorem slugWords_full : ∀ word ∈ slugWords text, word ≠ [] := by
  intro word present
  have full := (List.mem_filter.mp present).2
  rintro rfl
  cases full

theorem splitOnP_cons_of_isSlugChar
    {first : List Char}
    {more : List (List Char)}
    (isSlug : isSlugChar char = true)
    (arePieces : (text.splitOnP fun char => !isSlugChar char) = first :: more) :
    ((char :: text).splitOnP fun char => !isSlugChar char) =
      (char :: first) :: more := by
  rw [List.splitOnP_cons_eq_if_modifyHead, arePieces, isSlug]
  rfl

theorem splitOnP_cons_of_not_isSlugChar
    (text : List Char)
    (notSlug : isSlugChar char = false) :
    ((char :: text).splitOnP fun char => !isSlugChar char) =
      [] :: text.splitOnP fun char => !isSlugChar char := by
  rw [List.splitOnP_cons_eq_if_modifyHead, notSlug]
  rfl

def isDash (char : Char) : Bool := char = '-'

/-- Without the dashes at its end, a text whose runs of other characters are
replaced is its words joined.  After a word, the first piece goes on with it. -/
theorem rdropWhile_dashed (text : List Char) :
    (dashed true text).rdropWhile isDash = joined (slugWords text) ∧
      ∀ first more,
        (text.splitOnP fun char => !isSlugChar char) = first :: more →
        (dashed false text).rdropWhile isDash =
          first ++ tailed (more.filter fun word => !word.isEmpty) := by
  induction text with
  | nil =>
      refine ⟨rfl, fun first more arePieces => ?_⟩
      obtain ⟨rfl, rfl⟩ := List.cons.inj arePieces
      rfl
  | cons char text inductionHypothesis =>
      obtain ⟨afterDash, afterWord⟩ := inductionHypothesis
      obtain ⟨first, more, arePieces⟩ := List.exists_cons_of_ne_nil
        (List.splitOnP_ne_nil (fun char => !isSlugChar char) text)
      by_cases isSlug : isSlugChar char = true
      · have kept : isDash char = false :=
          decide_eq_false (ne_dash_of_isSlugChar isSlug)
        have goesOn : (char :: dashed false text).rdropWhile isDash =
            char :: first ++ tailed (more.filter fun word => !word.isEmpty) := by
          rw [rdropWhile_cons, kept, afterWord first more arePieces]
          split
          · rename_i isEmpty
            rw [List.cons_append, isEmpty]
            rfl
          · rfl
        have pieces := splitOnP_cons_of_isSlugChar isSlug arePieces
        constructor
        · rw [dashed, if_pos isSlug, goesOn, slugWords, pieces,
            List.filter_cons_of_pos rfl, joined_cons]
        · intro own others areOwn
          rw [pieces] at areOwn
          obtain ⟨rfl, rfl⟩ := List.cons.inj areOwn
          rw [dashed, if_pos isSlug, goesOn]
      · rw [Bool.not_eq_true] at isSlug
        have pieces := splitOnP_cons_of_not_isSlugChar text isSlug
        have sameWords : slugWords (char :: text) = slugWords text := by
          rw [slugWords, pieces]
          rfl
        constructor
        · rw [dashed, isSlug, sameWords]
          exact afterDash
        · intro own others areOwn
          rw [pieces] at areOwn
          obtain ⟨rfl, rfl⟩ := List.cons.inj areOwn
          rw [dashed, isSlug]
          change ('-' :: dashed true text).rdropWhile isDash =
            tailed (slugWords text)
          rw [rdropWhile_cons, afterDash]
          by_cases noWords : slugWords text = []
          · rw [noWords]
            rfl
          · rw [if_neg (joined_ne_nil slugWords_full noWords),
              tailed_eq_cons_joined noWords]

theorem dropWhile_dashed (text : List Char) :
    (dashed false text).dropWhile isDash = dashed true text := by
  have kept : ∀ {char : Char} (rest : List Char), isSlugChar char = true →
      (char :: rest).dropWhile isDash = char :: rest := fun rest isSlug =>
    List.dropWhile_cons_of_neg
      (by simpa [isDash] using ne_dash_of_isSlugChar isSlug)
  have startsWithout : ∀ text : List Char,
      (dashed true text).dropWhile isDash = dashed true text := by
    intro text
    induction text with
    | nil => rfl
    | cons char text inductionHypothesis =>
        by_cases isSlug : isSlugChar char = true
        · rw [dashed, if_pos isSlug, kept _ isSlug]
        · rw [dashed, if_neg isSlug]
          exact inductionHypothesis
  cases text with
  | nil => rfl
  | cons char text =>
      by_cases isSlug : isSlugChar char = true
      · rw [dashed, dashed, if_pos isSlug, if_pos isSlug, kept _ isSlug]
      · rw [dashed, dashed, if_neg isSlug, if_neg isSlug]
        exact startsWithout text

/-- What is derived from a name is its words, joined and cut. -/
theorem toList_slugify (env : AuthEnv) (name : String) :
    (slugify env name).toList =
      (joined (slugWords (env.toLowerCase name).toList)).take 40 := by
  rw [← (rdropWhile_dashed _).1, ← dropWhile_dashed, slugify,
    String.toList_ofList]
  rfl

/-! ## Cutting -/

/-- Words of the characters that are kept. -/
structure SlugWord (word : List Char) : Prop where
  notEmpty : word ≠ []
  chars : ∀ char ∈ word, isSlugChar char = true

theorem SlugWord.dash_notMem (isWord : SlugWord word) : '-' ∉ word :=
  fun present => ne_dash_of_isSlugChar (isWord.chars '-' present) rfl

theorem SlugWord.getElem?_ne
    {place : Nat}
    (isWord : SlugWord word) :
    word[place]? ≠ some '-' :=
  fun isDash => isWord.dash_notMem (List.mem_of_getElem? isDash)

theorem isSlugChar_of_mem_splitOnP
    {text piece : List Char}
    (isPiece : piece ∈ text.splitOnP fun char => !isSlugChar char) :
    ∀ char ∈ piece, isSlugChar char = true := by
  induction text generalizing piece with
  | nil =>
      rw [List.splitOnP_nil, List.mem_singleton] at isPiece
      simp [isPiece]
  | cons char text inductionHypothesis =>
      obtain ⟨first, more, arePieces⟩ := List.exists_cons_of_ne_nil
        (List.splitOnP_ne_nil (fun char => !isSlugChar char) text)
      by_cases isSlug : isSlugChar char = true
      · rw [splitOnP_cons_of_isSlugChar isSlug arePieces] at isPiece
        rw [arePieces] at inductionHypothesis
        rcases List.mem_cons.mp isPiece with rfl | later
        · rw [List.forall_mem_cons]
          exact ⟨isSlug, inductionHypothesis List.mem_cons_self⟩
        · exact inductionHypothesis (List.mem_cons_of_mem _ later)
      · rw [Bool.not_eq_true] at isSlug
        rw [splitOnP_cons_of_not_isSlugChar text isSlug] at isPiece
        rcases List.mem_cons.mp isPiece with rfl | later
        · simp
        · exact inductionHypothesis later

theorem slugWord_of_mem (isWord : word ∈ slugWords text) : SlugWord word :=
  ⟨slugWords_full word isWord,
    isSlugChar_of_mem_splitOnP (List.mem_of_mem_filter isWord)⟩

theorem length_tailed_take_succ (next : List Char) (count : Nat) :
    (word ++ tailed ((next :: words).take (count + 1))).length =
      word.length + 1 + (next ++ tailed (words.take count)).length := by
  rw [List.take_succ_cons]
  simp only [tailed, List.flatMap_cons, List.length_append, List.length_cons]
  omega

/-- What follows the first word and the dash behind it. -/
theorem getElem?_past_first (next : List Char) (rest : Nat) :
    (word ++ tailed (next :: words))[word.length + 1 + rest]? =
      (next ++ tailed words)[rest]? := by
  have isTail : tailed (next :: words) = '-' :: (next ++ tailed words) := rfl
  rw [isTail, List.getElem?_append_right (by omega),
    show word.length + 1 + rest - word.length = rest + 1 by omega,
    List.getElem?_cons_succ]

/-- A dash stands in joined words where some of them are followed by another. -/
theorem getElem?_eq_dash_iff
    (areWords : ∀ other ∈ words, SlugWord other)
    (isWord : SlugWord word)
    (place : Nat) :
    (word ++ tailed words)[place]? = some '-' ↔
      ∃ count < words.length,
        (word ++ tailed (words.take count)).length = place := by
  induction words generalizing word place with
  | nil =>
      have isWhole : word ++ tailed [] = word := List.append_nil word
      rw [isWhole]
      exact iff_of_false isWord.getElem?_ne fun ⟨_, never, _⟩ =>
        absurd never (Nat.not_lt_zero _)
  | cons next words inductionHypothesis =>
      rw [List.forall_mem_cons] at areWords
      have atFirst : (word ++ tailed ((next :: words).take 0)).length =
          word.length := by
        rw [List.take_zero, tailed, List.flatMap_nil, List.append_nil]
      rw [List.length_cons, Nat.exists_lt_succ_left, atFirst]
      simp only [length_tailed_take_succ]
      rcases Nat.lt_trichotomy place word.length with inside | rfl | behind
      · rw [List.getElem?_append_left inside]
        refine iff_of_false isWord.getElem?_ne ?_
        rintro (isPlace | ⟨count, within, isPlace⟩)
        · omega
        · omega
      · rw [List.getElem?_append_right (Nat.le_refl _), Nat.sub_self]
        exact iff_of_true rfl (.inl rfl)
      · obtain ⟨rest, rfl⟩ : ∃ rest, place = word.length + 1 + rest :=
          ⟨place - word.length - 1, by omega⟩
        rw [getElem?_past_first,
          inductionHypothesis areWords.2 areWords.1 rest]
        constructor
        · rintro ⟨count, within, isPlace⟩
          exact .inr ⟨count, within, by rw [isPlace]⟩
        · rintro (never | ⟨count, within, isPlace⟩)
          · omega
          · exact ⟨count, within, Nat.add_left_cancel isPlace⟩

/-- The words of a name cannot be cut at a dash, or the cut leaves one last. -/
theorem cutAtDash_iff (areWords : ∀ word ∈ words, SlugWord word) :
    CutAtDash words ↔ (joined words)[39]? = some '-' := by
  cases words with
  | nil => exact ⟨fun ⟨_, never, _⟩ => absurd never (Nat.not_lt_zero _), nofun⟩
  | cons word words =>
      rw [List.forall_mem_cons] at areWords
      rw [joined_cons, getElem?_eq_dash_iff areWords.2 areWords.1]
      constructor
      · rintro ⟨count, within, isLength⟩
        cases count with
        | zero => cases isLength
        | succ count =>
            rw [List.take_succ_cons, joined_cons] at isLength
            exact ⟨count, Nat.lt_of_succ_lt_succ within, isLength⟩
      · rintro ⟨count, within, isLength⟩
        refine ⟨count + 1, Nat.succ_lt_succ within, ?_⟩
        rwa [List.take_succ_cons, joined_cons]

theorem joined_append
    {before : List (List Char)}
    (someBefore : before ≠ [])
    (after : List (List Char)) :
    joined (before ++ after) = joined before ++ tailed after := by
  obtain ⟨word, rest, rfl⟩ := List.exists_cons_of_ne_nil someBefore
  rw [List.cons_append, joined_cons, joined_cons, List.append_assoc, tailed,
    List.flatMap_append]
  rfl

/-- Cut after a dash, they are the words before it and the dash. -/
theorem take_joined
    {count : Nat}
    (within : count < words.length)
    (isLength : (joined (words.take count)).length = 39) :
    (joined words).take 40 = joined (words.take count) ++ ['-'] := by
  have someBefore : words.take count ≠ [] := by
    intro isEmpty
    rw [isEmpty] at isLength
    cases isLength
  have someAfter : words.drop count ≠ [] := by
    rw [Ne, List.drop_eq_nil_iff]
    omega
  have isJoined := joined_append someBefore (words.drop count)
  rw [List.take_append_drop, tailed_eq_cons_joined someAfter] at isJoined
  rw [isJoined, List.take_append, isLength,
    List.take_of_length_le (by omega)]
  rfl

theorem mem_tailed
    (areWords : ∀ other ∈ words, SlugWord other)
    (present : char ∈ tailed words) :
    (isSlugChar char || char = '-') = true := by
  obtain ⟨word, isWord, inWord⟩ := List.mem_flatMap.mp present
  rcases List.mem_cons.mp inWord with rfl | inWord
  · rfl
  · rw [(areWords word isWord).chars char inWord, Bool.true_or]

theorem getLast?_joined_ne (areWords : ∀ other ∈ words, SlugWord other) :
    (joined words).getLast? ≠ some '-' := by
  induction words with
  | nil => exact nofun
  | cons word words inductionHypothesis =>
      rw [List.forall_mem_cons] at areWords
      rw [joined_cons]
      by_cases noWords : words = []
      · rw [noWords, tailed, List.flatMap_nil, List.append_nil]
        exact fun isLast =>
          areWords.1.dash_notMem (List.mem_of_getLast? isLast)
      · have full := joined_ne_nil
          (fun other present => (areWords.2 other present).notEmpty) noWords
        rw [tailed_eq_cons_joined noWords, List.append_cons,
          List.getLast?_append_of_ne_nil _ full]
        exact inductionHypothesis areWords.2

/-- A text that begins as a label. -/
structure LabelStart (slug : List Char) : Prop where
  chars : ∀ char ∈ slug, (isSlugChar char || char = '-') = true
  notEmpty : slug ≠ []
  starts : slug.head? ≠ some '-'

/-- So do joined words, wherever they are cut. -/
theorem labelStart_take
    {count : Nat}
    (areWords : ∀ other ∈ words, SlugWord other)
    (someWords : words ≠ [])
    (positive : 0 < count) :
    LabelStart ((joined words).take count) := by
  obtain ⟨word, rest, rfl⟩ := List.exists_cons_of_ne_nil someWords
  rw [List.forall_mem_cons] at areWords
  obtain ⟨first, others, rfl⟩ :=
    List.exists_cons_of_ne_nil areWords.1.notEmpty
  obtain ⟨fewer, rfl⟩ := Nat.exists_eq_succ_of_ne_zero positive.ne'
  have isSlug := areWords.1.chars first List.mem_cons_self
  rw [joined_cons, List.cons_append, List.take_succ_cons]
  refine ⟨fun char present => ?_, List.cons_ne_nil _ _, fun isFirst => ?_⟩
  · have inWords : char ∈ (first :: others) ++ tailed rest := by
      rcases List.mem_cons.mp present with rfl | later
      · simp
      · exact List.mem_cons_of_mem _ (List.mem_of_mem_take later)
    rcases List.mem_append.mp inWords with inWord | inTail
    · rw [areWords.1.chars char inWord, Bool.true_or]
    · exact mem_tailed areWords.2 inTail
  · exact ne_dash_of_isSlugChar isSlug (Option.some.inj isFirst)

/-- Joined words that are cut end with a dash only if they are cut after one. -/
theorem getLast?_take_joined
    (areWords : ∀ other ∈ words, SlugWord other) :
    ((joined words).take 40).getLast? = some '-' ↔ CutAtDash words := by
  rw [cutAtDash_iff areWords, List.getLast?_take, if_neg (by decide)]
  cases isLast : (joined words)[39]? with
  | none => exact ⟨fun isDash => absurd isDash (getLast?_joined_ne areWords), nofun⟩
  | some char => rfl

end Words

/-! ## The slugs of a signup -/

section Labels

variable {env : AuthEnv} {company : String}

theorem slugWords_areWords (text : List Char) :
    ∀ word ∈ slugWords text, SlugWord word :=
  fun _ isWord => slugWord_of_mem isWord

/-- A derived slug is that of no words, or words that are joined and cut. -/
theorem derivedSlug_cases (env : AuthEnv) (company : String) :
    slugWords (env.toLowerCase company).toList = [] ∧
        derivedSlug env company = "workspace" ∨
      slugWords (env.toLowerCase company).toList ≠ [] ∧
        (derivedSlug env company).toList =
          (joined (slugWords (env.toLowerCase company).toList)).take 40 := by
  have isSlug := toList_slugify env company
  by_cases noWords : slugWords (env.toLowerCase company).toList = []
  · rw [noWords] at isSlug
    have isEmpty : slugify env company = "" := String.toList_eq_nil_iff.mp isSlug
    refine .inl ⟨noWords, ?_⟩
    rw [derivedSlug, isEmpty]
    rfl
  · have start := labelStart_take (slugWords_areWords _) noWords
      (Nat.zero_lt_succ 39)
    have notEmpty : slugify env company ≠ "" := by
      intro isEmpty
      rw [isEmpty] at isSlug
      exact start.notEmpty isSlug.symm
    refine .inr ⟨noWords, ?_⟩
    rw [derivedSlug, given_some notEmpty, Option.getD_some, isSlug]

theorem hostLabel_workspace : HostLabel "workspace" where
  chars := by
    rw [← List.all_eq_true]
    rfl
  notEmpty := by decide
  short := by decide
  starts := by decide
  ends := by decide

theorem labelStart_derivedSlug (env : AuthEnv) (company : String) :
    LabelStart (derivedSlug env company).toList := by
  rcases derivedSlug_cases env company with ⟨-, isSlug⟩ | ⟨someWords, isSlug⟩
  · rw [isSlug]
    exact ⟨hostLabel_workspace.chars, hostLabel_workspace.notEmpty,
      hostLabel_workspace.starts⟩
  · rw [isSlug]
    exact labelStart_take (slugWords_areWords _) someWords
      (Nat.zero_lt_succ 39)

/-- A derived slug is a label unless the words are cut after a dash. -/
theorem hostLabel_derivedSlug_iff :
    HostLabel (derivedSlug env company) ↔
      ¬CutAtDash (slugWords (env.toLowerCase company).toList) := by
  have start := labelStart_derivedSlug env company
  rcases derivedSlug_cases env company with ⟨noWords, isSlug⟩ | ⟨-, isSlug⟩
  · rw [noWords, isSlug]
    exact ⟨fun _ ⟨_, never, _⟩ => absurd never (Nat.not_lt_zero _),
      fun _ => hostLabel_workspace⟩
  · have isLast := getLast?_take_joined
      (slugWords_areWords (env.toLowerCase company).toList)
    rw [← isSlug] at isLast
    refine ⟨fun label isCut => label.ends (isLast.mpr isCut), fun notCut => ?_⟩
    refine ⟨start.chars, start.notEmpty, ?_, start.starts,
      fun isDash => notCut (isLast.mp isDash)⟩
    rw [isSlug]
    exact List.length_take_le 40 _

theorem derivedSlug_of_cut
    {count : Nat}
    (within : count < (slugWords (env.toLowerCase company).toList).length)
    (isLength : (joined
      ((slugWords (env.toLowerCase company).toList).take count)).length = 39) :
    derivedSlug env company = String.ofList
      (joined ((slugWords (env.toLowerCase company).toList).take count) ++
        ['-']) := by
  rcases derivedSlug_cases env company with ⟨noWords, -⟩ | ⟨-, isSlug⟩
  · rw [noWords] at within
    exact absurd within (Nat.not_lt_zero _)
  · rw [← take_joined within isLength, ← isSlug, String.ofList_toList]

/-- What a slug that nobody asks for has to meet, in terms of the derived one. -/
theorem slugFits_iff
    {dto : SignupDto τ}
    {accounts : Accounts}
    (notGiven : given dto.slug = none) :
    SlugFits env dto accounts ↔
      accounts.slugTaken (derivedSlug env dto.company) = true ∨
        ¬CutAtDash (slugWords (env.toLowerCase dto.company).toList) := by
  unfold SlugFits
  rw [notGiven]
  constructor
  · intro allTaken
    by_cases isCut : CutAtDash (slugWords (env.toLowerCase dto.company).toList)
    · obtain ⟨count, within, isLength⟩ := isCut
      rw [derivedSlug_of_cut within isLength]
      exact .inl (allTaken count within isLength)
    · exact .inr isCut
  · rintro (taken | notCut) count within isLength
    · rwa [derivedSlug_of_cut within isLength] at taken
    · exact absurd ⟨count, within, isLength⟩ notCut

theorem isSlugChar_digitChar : ∀ digit < 16,
    isSlugChar (Nat.digitChar digit) = true := by
  decide

theorem isSlugChar_of_mem_hexText (high low : Fin 256) :
    ∀ char ∈ (hexText high low).toList, isSlugChar char = true := by
  have ofHigh := high.isLt
  have ofLow := low.isLt
  rw [hexText, String.toList_ofList]
  simp only [List.forall_mem_cons, List.not_mem_nil, false_implies,
    implies_true, and_true]
  exact ⟨isSlugChar_digitChar _ (by omega), isSlugChar_digitChar _ (by omega),
    isSlugChar_digitChar _ (by omega), isSlugChar_digitChar _ (by omega)⟩

theorem length_hexText (high low : Fin 256) :
    (hexText high low).toList.length = 4 := by
  rw [hexText, String.toList_ofList]
  rfl

theorem toList_suffixed (slug suffix : String) :
    (suffixed slug suffix).toList =
      slug.toList.take 34 ++ '-' :: suffix.toList := by
  rw [suffixed, String.toList_append, String.toList_append,
    String.toList_ofList, List.append_assoc]
  rfl

/-- A derived slug with a suffix is a label. -/
theorem hostLabel_suffixed (high low : Fin 256) :
    HostLabel (suffixed (derivedSlug env company) (hexText high low)) := by
  have start := labelStart_derivedSlug env company
  have isSlug := toList_suffixed (derivedSlug env company) (hexText high low)
  have hexChars := isSlugChar_of_mem_hexText high low
  have hexLength := length_hexText high low
  generalize (derivedSlug env company).toList = derived at start isSlug
  obtain ⟨first, rest, rfl⟩ := List.exists_cons_of_ne_nil start.notEmpty
  refine ⟨?_, ?_, ?_, ?_, ?_⟩
  · rw [isSlug]
    intro char present
    rcases List.mem_append.mp present with inSlug | inSuffix
    · exact start.chars char (List.mem_of_mem_take inSlug)
    · rcases List.mem_cons.mp inSuffix with rfl | inHex
      · rfl
      · rw [hexChars char inHex, Bool.true_or]
  · simp [isSlug]
  · have few := List.length_take_le 34 (first :: rest)
    rw [isSlug, List.length_append, List.length_cons, hexLength]
    omega
  · rw [isSlug]
    exact start.starts
  · have someHex : (hexText high low).toList ≠ [] :=
      List.ne_nil_of_length_pos (by omega)
    rw [isSlug, List.append_cons, List.getLast?_append_of_ne_nil _ someHex]
    exact fun isLast => ne_dash_of_isSlugChar
      (hexChars '-' (List.mem_of_getLast? isLast)) rfl

theorem hostLabel_iff_of_accepted
    {slug : String}
    (accepted : acceptsSlug slug = true) :
    HostLabel slug ↔ slug.toList.getLast? ≠ some '-' := by
  refine ⟨HostLabel.ends, fun ends => ?_⟩
  unfold acceptsSlug at accepted
  split at accepted
  · cases accepted
  · rename_i first rest isSlug
    simp only [Bool.and_eq_true, List.all_eq_true, decide_eq_true_eq] at accepted
    obtain ⟨⟨isFirst, areRest⟩, short⟩ := accepted
    refine ⟨?_, ?_, short, ?_, ends⟩
    · rw [isSlug, List.forall_mem_cons, isFirst]
      exact ⟨rfl, areRest⟩
    · rw [isSlug]
      exact List.cons_ne_nil _ _
    · rw [isSlug]
      exact fun isDash =>
        ne_dash_of_isSlugChar isFirst (Option.some.inj isDash)

end Labels

/-! ## Runs -/

/-- What a statement takes from outside, and the database that it finds. -/
abbrev WorkspaceStatement := WorkspaceInput × AuthDb

namespace WorkspacePhase

variable {env : WorkspaceEnv τ} {phase : WorkspacePhase τ}

/-- A call goes on, while other calls may change the database between its
statements. -/
def goesThrough (env : WorkspaceEnv τ) (phase : WorkspacePhase τ)
    (statements : List WorkspaceStatement) : WorkspacePhase τ :=
  statements.foldl
    (fun phase statement => (phase.step env statement.1 statement.2).2) phase

theorem goesThrough_cons
    (statement : WorkspaceStatement)
    (statements : List WorkspaceStatement) :
    phase.goesThrough env (statement :: statements) =
      (phase.step env statement.1 statement.2).2.goesThrough env statements :=
  rfl

/-- A signup whose workspace is created, or that has failed. -/
def isPast : WorkspacePhase τ → Bool
  | .findWorkspace _ | .findFounder _ _ | .recordSent _ _ | .recordSignup _
  | .done _ => true
  | _ => false

theorem isPast_step
    (input : WorkspaceInput)
    (db : AuthDb)
    (past : phase.isPast = true) :
    (phase.step env input db).2.isPast = true := by
  cases phase with
  | findWorkspace signedUp =>
      simp only [step]
      split <;> rfl
  | findFounder signedUp tenant =>
      simp only [step]
      split
      · rfl
      · split <;> rfl
  | recordSent signedUp founder => rfl
  | recordSignup signedUp => rfl
  | done outcome => rfl
  | _ => cases past

theorem isPast_goesThrough
    {statements : List WorkspaceStatement}
    (past : phase.isPast = true) :
    (phase.goesThrough env statements).isPast = true := by
  induction statements generalizing phase with
  | nil => exact past
  | cons statement statements inductionHypothesis =>
      exact inductionHypothesis (isPast_step _ _ past)

theorem founding_of_isPast (past : phase.isPast = true) :
    phase.founding = none := by
  cases phase with
  | createTenant dto => cases past
  | transaction signup passwordHash trialEndsAt => cases past
  | _ => rfl

end WorkspacePhase

/-- The slug of a signup, given the state in which it is checked. -/
def chosenSlug (env : AuthEnv) (dto : SignupDto τ) (check : WorkspaceStatement) :
    String :=
  match given dto.slug with
  | some slug => slug
  | none =>
      if check.2.accounts.slugTaken (derivedSlug env dto.company) then
        suffixed (derivedSlug env dto.company) check.1.suffix
      else derivedSlug env dto.company

section Run

variable {env : WorkspaceEnv τ} {dto : SignupDto τ} {ip : Option String}

open WorkspacePhase

/-- The first statement of a signup leads to the check of its slug. -/
theorem step_findSignupApp (statement : WorkspaceStatement) :
    let next := (WorkspacePhase.findSignupApp dto ip).step env statement.1
      statement.2
    next.2.isPast = true ∨
      ∃ app, next.2 = Signup.begins env.toAuthEnv dto ip app := by
  simp only [WorkspacePhase.step]
  split
  · exact .inl rfl
  · split
    · exact .inl rfl
    · exact .inr ⟨_, rfl⟩

theorem begins_cases (env : AuthEnv) (dto : SignupDto τ) (ip : Option String)
    (app : App) :
    (∃ slug, given dto.slug = some slug ∧
        Signup.begins env dto ip app = .findTaken ⟨dto, ip, app, slug⟩) ∨
      given dto.slug = none ∧
        Signup.begins env dto ip app =
          .findDerived ⟨dto, ip, app, derivedSlug env dto.company⟩ := by
  unfold Signup.begins
  cases given dto.slug with
  | some slug => exact .inl ⟨slug, rfl, rfl⟩
  | none => exact .inr ⟨rfl, rfl⟩

theorem step_findTaken (signup : Signup τ) (check : WorkspaceStatement) :
    ((findTaken signup).step env check.1 check.2).2 =
      if check.2.accounts.slugTaken signup.slug then nameTaken signup.slug
      else .hashPassword signup :=
  rfl

theorem step_findDerived (signup : Signup τ) (check : WorkspaceStatement) :
    ((findDerived signup).step env check.1 check.2).2 =
      if check.2.accounts.slugTaken signup.slug then
        .hashPassword { signup with slug := suffixed signup.slug check.1.suffix }
      else .hashPassword signup :=
  rfl

/-- The second one settles the slug. -/
theorem step_begins (app : App) (check : WorkspaceStatement) :
    ((Signup.begins env.toAuthEnv dto ip app).step env check.1
        check.2).2.isPast = true ∨
      ((Signup.begins env.toAuthEnv dto ip app).step env check.1 check.2).2 =
        .hashPassword ⟨dto, ip, app, chosenSlug env.toAuthEnv dto check⟩ := by
  unfold chosenSlug
  rcases begins_cases env.toAuthEnv dto ip app with
    ⟨slug, isGiven, begins⟩ | ⟨notGiven, begins⟩
  · rw [begins, isGiven, step_findTaken]
    split
    · exact .inl rfl
    · exact .inr rfl
  · rw [begins, notGiven, step_findDerived]
    refine .inr ?_
    simp only
    split <;> rfl

/-- A transaction that is rolled back ends its call. -/
theorem isPast_of_create
    {signup : Signup τ}
    {env : AuthEnv}
    {input : WorkspaceInput}
    {passwordHash : String}
    {trialEndsAt : Nat}
    {accounts : Accounts}
    {failed : WorkspacePhase τ}
    (isFailed : signup.create env input passwordHash trialEndsAt accounts =
      .error failed) :
    failed.isPast = true := by
  simp only [Signup.create] at isFailed
  split at isFailed
  · obtain rfl := Except.error.inj isFailed
    rfl
  · split at isFailed
    · obtain rfl := Except.error.inj isFailed
      rfl
    · split at isFailed
      · obtain rfl := Except.error.inj isFailed
        rfl
      · cases isFailed

theorem isPast_transaction
    (signup : Signup τ)
    (passwordHash : String)
    (trialEndsAt : Nat)
    (statement : WorkspaceStatement) :
    ((transaction signup passwordHash trialEndsAt).step env statement.1
      statement.2).2.isPast = true := by
  simp only [step]
  split
  · rename_i failed isFailed
    exact isPast_of_create isFailed
  · rfl

theorem not_founding_of_isPast
    {phase : WorkspacePhase τ}
    {statements : List WorkspaceStatement}
    {slug : String}
    (past : phase.isPast = true) :
    (phase.goesThrough env statements).founding ≠ some slug := by
  rw [founding_of_isPast (isPast_goesThrough past)]
  exact nofun

/-- Past the check, the slug of a signup stays. -/
theorem slug_of_hashPassword
    {signup : Signup τ}
    {statements : List WorkspaceStatement}
    {slug : String}
    (founds : ((hashPassword signup).goesThrough env statements).founding =
      some slug) :
    slug = signup.slug := by
  match statements with
  | [] => cases founds
  | [_] => exact (Option.some.inj founds).symm
  | hash :: create :: rest =>
      rw [goesThrough_cons, goesThrough_cons] at founds
      exact absurd founds
        (not_founding_of_isPast (isPast_transaction signup _ _ create))

/-- A signup founds a workspace, if ever, with the slug that its second statement
settles. -/
theorem exists_check
    {statements : List WorkspaceStatement}
    {slug : String}
    (founds : ((WorkspaceRequest.signup dto ip).begins.goesThrough env
      statements).founding = some slug) :
    ∃ check, statements[1]? = some check ∧
      slug = chosenSlug env.toAuthEnv dto check := by
  rw [WorkspaceRequest.begins] at founds
  match statements with
  | [] => cases founds
  | first :: later =>
      rw [goesThrough_cons] at founds
      rcases step_findSignupApp first with past | ⟨app, begins⟩
      · exact absurd founds (not_founding_of_isPast past)
      · rw [begins] at founds
        match later with
        | [] =>
            rcases begins_cases env.toAuthEnv dto ip app with
              ⟨_, -, isPhase⟩ | ⟨-, isPhase⟩
            · rw [isPhase] at founds
              cases founds
            · rw [isPhase] at founds
              cases founds
        | check :: rest =>
            rw [goesThrough_cons] at founds
            refine ⟨check, rfl, ?_⟩
            rcases step_begins app check with past | settled
            · exact absurd founds (not_founding_of_isPast past)
            · rw [settled] at founds
              exact slug_of_hashPassword founds

end Run

/-! ## Stored slugs -/

/-- The slug that a signup chooses is a label if and only if it fits. -/
theorem hostLabel_chosenSlug_iff
    {env : AuthEnv}
    {dto : SignupDto τ}
    {check : WorkspaceStatement}
    (accepted : dto.acceptsSlug = true)
    (drawn : ∃ high low, check.1.suffix = hexText high low) :
    HostLabel (chosenSlug env dto check) ↔
      SlugFits env dto check.2.accounts := by
  cases isGiven : given dto.slug with
  | some slug =>
      rw [SignupDto.acceptsSlug, eq_of_given isGiven] at accepted
      unfold chosenSlug SlugFits
      rw [isGiven]
      exact hostLabel_iff_of_accepted accepted
  | none =>
      rw [slugFits_iff isGiven]
      unfold chosenSlug
      rw [isGiven]
      cases check.2.accounts.slugTaken (derivedSlug env dto.company) with
      | true =>
          obtain ⟨high, low, isSuffix⟩ := drawn
          rw [if_pos rfl, isSuffix]
          exact ⟨fun _ => .inl rfl, fun _ => hostLabel_suffixed high low⟩
      | false =>
          rw [if_neg Bool.false_ne_true, hostLabel_derivedSlug_iff]
          exact ⟨.inr, fun fits => fits.resolve_left Bool.false_ne_true⟩

/-- Of a tenant that a signup brings into the table, the slug is a label if and
only if it fits what is stored when the signup checks it. -/
theorem stored_label_iff
    {env : WorkspaceEnv τ}
    {dto : SignupDto τ}
    {ip : Option String}
    {statements : List WorkspaceStatement}
    {input : WorkspaceInput}
    {db : AuthDb}
    {slug id : String}
    (accepted : dto.acceptsSlug = true)
    (drawn : ∀ statement ∈ statements,
      ∃ high low, statement.1.suffix = hexText high low)
    (isNew : ¬db.accounts.Named slug id)
    (stored : (((WorkspaceRequest.signup dto ip).begins.goesThrough env
      statements).step env input db).1.accounts.Named slug id) :
    ∃ check, statements[1]? = some check ∧
      (HostLabel slug ↔ SlugFits env.toAuthEnv dto check.2.accounts) := by
  rcases WorkspacePhase.named_step env input db _ stored with
    before | ⟨founds, -, -⟩
  · exact absurd before isNew
  · obtain ⟨check, isCheck, rfl⟩ := exists_check founds
    refine ⟨check, isCheck, ?_⟩
    exact hostLabel_chosenSlug_iff accepted
      (drawn check (List.mem_of_getElem? isCheck))

/-- Surroundings in which everyone may sign up. -/
def openedSignup : WorkspaceEnv Payload where
  toPasskeyEnv := lengthEnv
  signupMode := .opened
  trialDays := 14
  autoEnroll := fun _ => false

/-- A database with one app. -/
def oneAppStored : AuthDb :=
  { demoSessions .empty with
    accounts :=
      { tenants := .empty
        apps := ⟨[⟨"p1", "c", none⟩], by decide⟩
        appTenants := .empty
        users := .empty
        addressUnique := Accounts.empty.addressUnique
        clientIdGiven := by simp
        clientIdUnique := Table.unique_of_nodup (by decide)
        subscriptionUnique := Accounts.empty.subscriptionUnique
        references := by simp [Table.empty] } }

/-- A signup for the workspace of a company. -/
def companySignup (company : String) (slug : Option String) :
    SignupDto Payload :=
  ⟨company, slug, "a@b.co", "Passw0rd!", none, none, "c", none⟩

/-- What is drawn for it, where it is the only call. -/
def alone : WorkspaceStatement :=
  (⟨0, ⟨"t1", "r", "s"⟩, "u1", hexText 0 1, true⟩, oneAppStored)

/-- The accounts once it has run. -/
def signedUp (dto : SignupDto Payload) : Accounts :=
  (((WorkspaceRequest.signup dto none).begins.goesThrough openedSignup
    [alone, alone, alone]).step openedSignup alone.1 alone.2).1.accounts

theorem named_of_mem
    {accounts : Accounts}
    {id slug name : String}
    (present : newTenant id slug name ∈ accounts.tenants.rows) :
    accounts.Named slug id :=
  ⟨_, present, rfl, rfl⟩

theorem stored_label_acme :
    ∃ check, [alone, alone, alone][1]? = some check ∧
      (HostLabel "acme-co" ↔
        SlugFits openedSignup.toAuthEnv (companySignup "acme & co" none)
          check.2.accounts) := by
  have drawn : ∀ statement ∈ [alone, alone, alone],
      ∃ high low, statement.1.suffix = hexText high low := by
    intro statement present
    obtain rfl := List.eq_of_mem_replicate (n := 3) present
    exact ⟨0, 1, rfl⟩
  have isNew : ¬alone.2.accounts.Named "acme-co" "t1" := fun ⟨_, never, _⟩ =>
    absurd never (List.not_mem_nil)
  have accepted : (companySignup "acme & co" none).acceptsSlug = true := rfl
  have present : newTenant "t1" "acme-co" "acme & co" ∈
      (signedUp (companySignup "acme & co" none)).tenants.rows := by
    decide +kernel
  exact stored_label_iff accepted drawn isNew (named_of_mem present)

/-- A dash ends the slug of a company whose name is cut after a word, and one
that ends with it is accepted. -/
theorem dash_endsSlug :
    ((companySignup "abcdefghijklmnopqrstuvwxyz abcdefghijkl m"
          none).acceptsSlug = true ∧
        (signedUp (companySignup "abcdefghijklmnopqrstuvwxyz abcdefghijkl m"
          none)).Named "abcdefghijklmnopqrstuvwxyz-abcdefghijkl-" "t1" ∧
        ¬HostLabel "abcdefghijklmnopqrstuvwxyz-abcdefghijkl-") ∧
      (companySignup "acme" (some "acme-")).acceptsSlug = true ∧
        (signedUp (companySignup "acme" (some "acme-"))).Named "acme-" "t1" ∧
        ¬HostLabel "acme-" := by
  have cut : newTenant "t1" "abcdefghijklmnopqrstuvwxyz-abcdefghijkl-"
      "abcdefghijklmnopqrstuvwxyz abcdefghijkl m" ∈
        (signedUp (companySignup "abcdefghijklmnopqrstuvwxyz abcdefghijkl m"
          none)).tenants.rows := by
    decide +kernel
  have asked : newTenant "t1" "acme-" "acme" ∈
      (signedUp (companySignup "acme" (some "acme-"))).tenants.rows := by
    decide +kernel
  exact ⟨⟨rfl, named_of_mem cut, fun label => label.ends (by decide)⟩,
    rfl, named_of_mem asked, fun label => label.ends (by decide)⟩

end Auth
end EvoPlatform
