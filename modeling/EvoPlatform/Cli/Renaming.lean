import EvoPlatform.Foundation.Chains

/-!
# Renaming the template

`evo new` copies the template and writes the forms of the new name, and the two
ports, for the placeholders of the template.  The placeholders are replaced one
after the other, in the text that the replacements before have left.
-/

namespace EvoPlatform
namespace Cli

open JsString Ink

/-! ## The forms of a name -/

structure NameForms where
  slug : JsString
  dbIdent : JsString
  upper : JsString
  title : JsString
  deriving DecidableEq

def isLower (unit : UInt16) : Bool := 0x61 ≤ unit && unit ≤ 0x7A

def isDigit (unit : UInt16) : Bool := 0x30 ≤ unit && unit ≤ 0x39

/-- `/^[a-z][a-z0-9-]*[a-z0-9]$/.test(raw)`. -/
def isKebab : JsString → Bool
  | [] => false
  | first :: rest =>
      isLower first &&
        rest.dropLast.all (fun unit =>
          isLower unit || isDigit unit || unit = 0x2D) &&
        rest.getLast?.any fun unit => isLower unit || isDigit unit

/-- `toUpperCase`, as far as the characters of a name go. -/
def upperUnit (unit : UInt16) : UInt16 :=
  if isLower unit then unit - 0x20 else unit

/-- `w[0].toUpperCase() + w.slice(1)`. -/
def capitalized : JsString → Except JsString JsString
  | [] =>
      .error (ofText
        "Cannot read properties of undefined (reading 'toUpperCase')")
  | first :: rest => .ok (upperUnit first :: rest)

def invalidName (raw : JsString) : JsString :=
  ofText "Invalid app name \"" ++ raw ++
    ofText "\" — use kebab-case: lowercase letters, digits, single dashes " ++
    ofText "(e.g. acme-tracker)"

def nameForms (raw : JsString) : Except JsString NameForms :=
  if !isKebab raw || raw.includes (ofText "--") then .error (invalidName raw)
  else do
    let dbIdent := raw.map fun unit => if unit = 0x2D then 0x5F else unit
    let words ← (raw.splitOn 0x2D).mapM capitalized
    .ok
      { slug := raw
        dbIdent
        upper := dbIdent.map upperUnit
        title := [0x20].intercalate words }

/-! ## Replacing the placeholders -/

/-- The ports, which are whole numbers. -/
structure Ports where
  appPort : Int
  dbPort : Int

/-- `String(port)`. -/
def portText (port : Int) : JsString := ofText (toString port)

def templateAppPort : JsString := ofText "4180"

def templateDbPort : JsString := ofText "5446"

/-- What `replaceInfra` replaces, in its order. -/
def infraSteps (n : NameForms) (p : Ports) : List Replacement :=
  [⟨ofText "evoapp", n.dbIdent⟩,
    ⟨templateDbPort, portText p.dbPort⟩,
    ⟨templateAppPort, portText p.appPort⟩]

/-- What `replaceCommon` replaces, in its order. -/
def commonSteps (n : NameForms) (p : Ports) : List Replacement :=
  [⟨ofText "evo-app-next", n.slug⟩,
    ⟨ofText "EVOAPP", n.upper⟩,
    ⟨ofText "Evo App", n.title⟩,
    ⟨ofText "evoapp", n.slug⟩,
    ⟨templateAppPort, portText p.appPort⟩,
    ⟨templateDbPort, portText p.dbPort⟩]

section Replace

variable {α : Type} [Ink α] (ink : Replacement → UInt16 → α)

/-- Files that carry the identity of the database.  No value has a dollar sign,
which `replaceAll` would read as the start of a pattern. -/
def replaceInfra (text : List α) (n : NameForms) (p : Ports) : List α :=
  chain ink (infraSteps n p) text

/-- Every other file. -/
def replaceCommon (text : List α) (n : NameForms) (p : Ports) : List α :=
  chain ink (commonSteps n p) text

end Replace

/-- A text is renamed in one go: what is returned is the text with each of its
placeholders replaced by its form, and every character comes from where it would
then come from. -/
structure RenamedAtOnce (n : NameForms) (p : Ports) (text : JsString) :
    Prop where
  common :
    replaceCommon untraced text n p = atOnce untraced (commonSteps n p) text
  commonOrigins :
    replaceCommon traced (given text) n p =
      atOnce traced (commonSteps n p) (given text)
  infra :
    replaceInfra untraced text n p = atOnce untraced (infraSteps n p) text
  infraOrigins :
    replaceInfra traced (given text) n p =
      atOnce traced (infraSteps n p) (given text)

/-- No form meets a placeholder that is replaced later. -/
structure Separate (n : NameForms) (p : Ports) : Prop where
  common : (commonSteps n p).Pairwise fun earlier later =>
    ¬Meets earlier.value later.placeholder
  infra : (infraSteps n p).Pairwise fun earlier later =>
    ¬Meets earlier.value later.placeholder

/-! ## The forms have characters -/

/-- A text that has characters, and no dollar sign, with which a replacement
pattern would start. -/
structure Writable (text : JsString) : Prop where
  notEmpty : text ≠ []
  noDollar : 0x24 ∉ text

theorem capitalized_ne_nil
    {word capital : JsString}
    (isCapital : capitalized word = .ok capital) :
    capital ≠ [] := by
  cases word with
  | nil => cases isCapital
  | cons first rest =>
      obtain rfl := Except.ok.inj isCapital
      exact List.cons_ne_nil _ _

theorem intercalate_ne_nil
    {between first : JsString}
    {rest : List JsString}
    (notEmpty : first ≠ []) :
    between.intercalate (first :: rest) ≠ [] := by
  cases rest with
  | nil => simpa using notEmpty
  | cons second rest =>
      rw [List.intercalate_cons_cons]
      simp [notEmpty]

/-- The capitals of words, when none is refused. -/
theorem forall₂_of_mapM
    {parts words : List JsString}
    (areWords : parts.mapM capitalized = .ok words) :
    List.Forall₂ (fun part word => capitalized part = .ok word) parts words := by
  induction parts generalizing words with
  | nil =>
      obtain rfl := Except.ok.inj areWords
      exact .nil
  | cons part parts inductionHypothesis =>
      rw [List.mapM_cons] at areWords
      cases isFirst : capitalized part with
      | error text =>
          rw [isFirst] at areWords
          cases areWords
      | ok first =>
          cases areRest : parts.mapM capitalized with
          | error text =>
              rw [isFirst, areRest] at areWords
              cases areWords
          | ok rest =>
              rw [isFirst, areRest] at areWords
              obtain rfl := Except.ok.inj areWords
              exact .cons isFirst (inductionHypothesis areRest)

theorem exists_of_mem_mapM
    {parts words : List JsString}
    {word : JsString}
    (areWords : parts.mapM capitalized = .ok words)
    (isWord : word ∈ words) :
    ∃ part ∈ parts, capitalized part = .ok word := by
  have mapped := forall₂_of_mapM areWords
  clear areWords
  induction mapped with
  | nil => cases isWord
  | @cons part first parts words isFirst _ inductionHypothesis =>
      rcases List.mem_cons.mp isWord with rfl | isWord
      · exact ⟨part, List.mem_cons_self, isFirst⟩
      · obtain ⟨other, isPart, isOther⟩ := inductionHypothesis isWord
        exact ⟨other, List.mem_cons_of_mem _ isPart, isOther⟩

theorem title_ne_nil
    {parts words : List JsString}
    (someParts : parts ≠ [])
    (areWords : parts.mapM capitalized = .ok words) :
    [0x20].intercalate words ≠ [] := by
  cases forall₂_of_mapM areWords with
  | nil => exact absurd rfl someParts
  | cons isFirst => exact intercalate_ne_nil (capitalized_ne_nil isFirst)

/-! ## The forms are written as they are -/

theorem mem_intercalate
    {between : JsString}
    {words : List JsString}
    {unit : UInt16}
    (present : unit ∈ between.intercalate words) :
    unit ∈ between ∨ ∃ word ∈ words, unit ∈ word := by
  induction words with
  | nil => cases present
  | cons word words inductionHypothesis =>
      cases words with
      | nil =>
          rw [List.intercalate_singleton] at present
          exact .inr ⟨word, by simp, present⟩
      | cons second rest =>
          rw [List.intercalate_cons_cons, List.append_assoc,
            List.mem_append, List.mem_append] at present
          rcases present with inWord | inBetween | inRest
          · exact .inr ⟨word, by simp, inWord⟩
          · exact .inl inBetween
          · rcases inductionHypothesis inRest with inBetween | inOther
            · exact .inl inBetween
            · obtain ⟨other, isOther, inOther⟩ := inOther
              exact .inr ⟨other, List.mem_cons_of_mem _ isOther, inOther⟩

theorem mem_intercalate_of_mem
    {between word : JsString}
    {words : List JsString}
    {unit : UInt16}
    (isWord : word ∈ words)
    (present : unit ∈ word) :
    unit ∈ between.intercalate words := by
  induction words with
  | nil => cases isWord
  | cons first words inductionHypothesis =>
      cases words with
      | nil =>
          rw [List.mem_singleton.mp isWord] at present
          rwa [List.intercalate_singleton]
      | cons second rest =>
          rw [List.intercalate_cons_cons]
          rcases List.mem_cons.mp isWord with rfl | isWord
          · simp [present]
          · exact List.mem_append_right _ (inductionHypothesis isWord)

theorem isKebab_units
    {raw : JsString}
    (isName : isKebab raw = true) :
    ∀ unit ∈ raw, (isLower unit || isDigit unit || unit = 0x2D) = true := by
  cases raw with
  | nil => simp
  | cons first rest =>
      simp only [isKebab, Bool.and_eq_true, List.all_eq_true] at isName
      obtain ⟨⟨firstLower, inner⟩, lastOk⟩ := isName
      intro unit present
      rcases List.mem_cons.mp present with rfl | present
      · simp [firstLower]
      · rcases List.eq_nil_or_concat rest with rfl | ⟨front, last, rfl⟩
        · cases present
        · rw [List.concat_eq_append] at inner lastOk present
          rw [List.dropLast_concat] at inner
          rcases List.mem_append.mp present with inFront | isLast
          · exact inner unit inFront
          · obtain rfl := List.mem_singleton.mp isLast
            rw [List.getLast?_concat, Option.any_some] at lastOk
            rw [lastOk, Bool.true_or]

theorem noDollar_of_isKebab
    {raw : JsString}
    (isName : isKebab raw = true) :
    0x24 ∉ raw := by
  intro present
  exact absurd (isKebab_units isName _ present) (by decide)

/-- No character becomes a dollar sign as a capital. -/
theorem upperUnit_ne
    {unit : UInt16}
    (notDollar : unit ≠ 0x24) :
    upperUnit unit ≠ 0x24 := by
  unfold upperUnit
  split
  · rename_i lower
    intro same
    have isUnit : unit = 0x44 := by
      rw [← UInt16.sub_add_cancel unit 0x20, same]
      rfl
    rw [isUnit] at lower
    exact absurd lower (by decide)
  · exact notDollar

theorem noDollar_map
    {text : JsString}
    {change : UInt16 → UInt16}
    (keeps : ∀ {unit}, unit ≠ 0x24 → change unit ≠ 0x24)
    (noDollar : 0x24 ∉ text) :
    0x24 ∉ text.map change := by
  intro present
  obtain ⟨unit, isUnit, changed⟩ := List.mem_map.mp present
  refine keeps ?_ changed
  rintro rfl
  exact noDollar isUnit

theorem noDollar_title
    {raw : JsString}
    {words : List JsString}
    (noDollar : 0x24 ∉ raw)
    (areWords : (raw.splitOn 0x2D).mapM capitalized = .ok words) :
    0x24 ∉ [0x20].intercalate words := by
  intro present
  rcases mem_intercalate present with inBetween | ⟨word, isWord, inWord⟩
  · exact absurd inBetween (by decide)
  · obtain ⟨part, isPart, isCapital⟩ :=
      exists_of_mem_mapM areWords isWord
    have noneInPart : 0x24 ∉ part := by
      intro inPart
      have inRaw : 0x24 ∈ [0x2D].intercalate (raw.splitOn 0x2D) :=
        mem_intercalate_of_mem isPart inPart
      rw [List.intercalate_splitOn] at inRaw
      exact noDollar inRaw
    cases part with
    | nil => cases isCapital
    | cons first rest =>
        obtain rfl := Except.ok.inj isCapital
        rw [List.mem_cons, not_or] at noneInPart
        rcases List.mem_cons.mp inWord with isFirst | inRest
        · exact upperUnit_ne (Ne.symm noneInPart.1) isFirst.symm
        · exact noneInPart.2 inRest

/-- Each form of a name can be written as it is. -/
structure NameForms.AreWritable (n : NameForms) : Prop where
  slug : Writable n.slug
  dbIdent : Writable n.dbIdent
  upper : Writable n.upper
  title : Writable n.title

theorem nameForms_writable
    {raw : JsString}
    {n : NameForms}
    (accepted : nameForms raw = .ok n) :
    n.AreWritable := by
  unfold nameForms at accepted
  split at accepted
  · cases accepted
  · rename_i isName
    rw [Bool.or_eq_true, not_or, Bool.not_eq_true, Bool.not_eq_false'] at isName
    have notEmpty : raw ≠ [] := by
      rintro rfl
      cases isName.1
    have noDollar := noDollar_of_isKebab isName.1
    have noDollarIdent : 0x24 ∉ raw.map fun unit =>
        if unit = 0x2D then 0x5F else unit := by
      refine noDollar_map (fun {unit} notDollar => ?_) noDollar
      split
      · decide
      · exact notDollar
    cases areWords : (raw.splitOn 0x2D).mapM capitalized with
    | error text =>
        rw [areWords] at accepted
        cases accepted
    | ok words =>
        rw [areWords] at accepted
        obtain rfl := Except.ok.inj accepted
        exact
          { slug := ⟨notEmpty, noDollar⟩
            dbIdent := ⟨by simpa using notEmpty, noDollarIdent⟩
            upper :=
              ⟨by simpa using notEmpty, noDollar_map upperUnit_ne noDollarIdent⟩
            title :=
              ⟨title_ne_nil (List.splitOn_ne_nil _ _) areWords,
                noDollar_title noDollar areWords⟩ }

theorem noDollar_digits (number : Nat) :
    0x24 ∉ ofText (toString number) := by
  intro present
  obtain ⟨char, inText, isDollar⟩ := List.mem_map.mp present
  rw [Nat.toString_eq_ofList_toDigits, String.toList_ofList] at inText
  have digit := Nat.isDigit_of_mem_toDigits (by decide) (by decide) inText
  simp only [Char.isDigit, Bool.and_eq_true, decide_eq_true_eq, ge_iff_le,
    UInt32.le_iff_toNat_le] at digit
  have code : char.toNat % 2 ^ 16 = 0x24 := congrArg UInt16.toNat isDollar
  have digitCode : 48 ≤ char.toNat ∧ char.toNat ≤ 57 := digit
  omega

theorem portText_writable (port : Int) : Writable (portText port) := by
  cases port with
  | ofNat port =>
      refine ⟨?_, noDollar_digits port⟩
      change ofText (toString port) ≠ []
      unfold ofText
      simp
  | negSucc port =>
      have isText : portText (.negSucc port) =
          0x2D :: ofText (toString (port + 1)) := by
        change ofText ("-" ++ toString (port + 1)) = _
        unfold ofText
        rw [String.toList_append, List.map_append]
        rfl
      rw [isText]
      refine ⟨List.cons_ne_nil _ _, ?_⟩
      rw [List.mem_cons, not_or]
      exact ⟨by decide, noDollar_digits _⟩

/-! ## One go -/

section Steps

variable {raw : JsString} {n : NameForms} (p : Ports)

/-- What is written has characters, and none that `replaceAll` would read as a
pattern. -/
theorem commonSteps_writable
    (accepted : nameForms raw = .ok n) :
    ∀ step ∈ commonSteps n p, Writable step.value := by
  have forms := nameForms_writable accepted
  simp only [commonSteps, List.forall_mem_cons, List.not_mem_nil,
    false_implies, implies_true, and_true]
  exact ⟨forms.slug, forms.upper, forms.title, forms.slug,
    portText_writable p.appPort, portText_writable p.dbPort⟩

theorem infraSteps_writable
    (accepted : nameForms raw = .ok n) :
    ∀ step ∈ infraSteps n p, Writable step.value := by
  have forms := nameForms_writable accepted
  simp only [infraSteps, List.forall_mem_cons, List.not_mem_nil,
    false_implies, implies_true, and_true]
  exact ⟨forms.dbIdent, portText_writable p.dbPort,
    portText_writable p.appPort⟩

/-- No placeholder of the template can overlap another one. -/
theorem commonSteps_apart
    (accepted : nameForms raw = .ok n) :
    Apart (commonSteps n p) := by
  refine Apart.of_words
    [ofText "evo-app-next", ofText "EVOAPP", ofText "Evo App", ofText "evoapp",
      templateAppPort, templateDbPort] rfl ?_ ?_ ?_ ?_
  · decide
  · decide +kernel
  · decide +kernel
  · intro step present
    exact (commonSteps_writable p accepted step present).notEmpty

theorem infraSteps_apart
    (accepted : nameForms raw = .ok n) :
    Apart (infraSteps n p) := by
  refine Apart.of_words [ofText "evoapp", templateDbPort, templateAppPort] rfl
    ?_ ?_ ?_ ?_
  · decide
  · decide +kernel
  · decide +kernel
  · intro step present
    exact (infraSteps_writable p accepted step present).notEmpty

end Steps

/-- What the code returns has the characters of the traced text. -/
theorem replace_untraced_eq
    {steps : List Replacement}
    {text : JsString}
    (agrees : chain traced steps (given text) =
      atOnce traced steps (given text)) :
    chain untraced steps text = atOnce untraced steps text := by
  have same := congrArg units agrees
  rwa [units_chain inked_traced, units_atOnce inked_traced, units_given] at same

/-- The template is renamed in one go, whatever its texts are, if and only if no
form meets a placeholder that is replaced later. -/
theorem renamed_at_once_iff
    {raw : JsString}
    {n : NameForms}
    (accepted : nameForms raw = .ok n)
    (p : Ports) :
    (∀ text, RenamedAtOnce n p text) ↔ Separate n p := by
  have ofCommon := renames_iff (commonSteps_apart p accepted)
  have ofInfra := renames_iff (infraSteps_apart p accepted)
  constructor
  · intro renamed
    exact
      { common := ofCommon.mp fun text => (renamed text).commonOrigins
        infra := ofInfra.mp fun text => (renamed text).infraOrigins }
  · intro separate text
    have common := ofCommon.mpr separate.common text
    have infra := ofInfra.mpr separate.infra text
    exact
      { common := replace_untraced_eq common
        commonOrigins := common
        infra := replace_untraced_eq infra
        infraOrigins := infra }

/-- The forms of a name with which the template is renamed in one go. -/
def acmeTracker : NameForms where
  slug := ofText "acme-tracker"
  dbIdent := ofText "acme_tracker"
  upper := ofText "ACME_TRACKER"
  title := ofText "Acme Tracker"

theorem nameForms_acmeTracker :
    nameForms (ofText "acme-tracker") = .ok acmeTracker := by
  rfl

/-- No form of the name and neither port meets a placeholder. -/
theorem acmeTracker_renamed_at_once :
    Separate acmeTracker ⟨4300, 5450⟩ ∧
      ∀ text, RenamedAtOnce acmeTracker ⟨4300, 5450⟩ text := by
  have separate : Separate acmeTracker ⟨4300, 5450⟩ :=
    { common := by decide +kernel
      infra := by decide +kernel }
  exact ⟨separate,
    (renamed_at_once_iff nameForms_acmeTracker ⟨4300, 5450⟩).mpr separate⟩

/-- A port of the application that is the placeholder of the port of the database
is replaced by the latter. -/
theorem appPort_rewritten :
    nameForms (ofText "acme-tracker") = .ok acmeTracker ∧
      replaceCommon untraced (ofText "next dev -p 4180") acmeTracker
          ⟨5446, 5500⟩ = ofText "next dev -p 5500" ∧
      atOnce untraced (commonSteps acmeTracker ⟨5446, 5500⟩)
          (ofText "next dev -p 4180") = ofText "next dev -p 5446" ∧
      ¬RenamedAtOnce acmeTracker ⟨5446, 5500⟩ (ofText "next dev -p 4180") := by
  have returned : replaceCommon untraced (ofText "next dev -p 4180") acmeTracker
      ⟨5446, 5500⟩ = ofText "next dev -p 5500" := by decide +kernel
  have wanted : atOnce untraced (commonSteps acmeTracker ⟨5446, 5500⟩)
      (ofText "next dev -p 4180") = ofText "next dev -p 5446" := by
    decide +kernel
  refine ⟨nameForms_acmeTracker, returned, wanted, fun renamed => ?_⟩
  have same := renamed.common
  rw [returned, wanted] at same
  exact absurd same (by decide)

end Cli
end EvoPlatform
