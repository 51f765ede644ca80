import EvoPlatform.Email.Rendering

/-!
# The built-in templates

A message of a known template can always be rendered.
-/

namespace EvoPlatform
namespace Email

open Ink

/-! ## What the templates name -/

/-- No placeholder names a member of `Object.prototype`. -/
def plainKeys (template : JsString) : Bool :=
  (pieces placeholder template).all fun piece =>
    match piece with
    | .kept _ => true
    | .found whole => (inherited (keyOf whole)).isNone

theorem fillable_of_plainKeys
    {α : Type}
    {template : JsString}
    (areplain : plainKeys template = true)
    (vars : Vars α) :
    Fillable vars template := by
  intro whole found
  have isPlain := List.all_eq_true.mp areplain _ found
  exact Or.inr (Option.isNone_iff_eq_none.mp isPlain)

/-- The copy has a label for the button. -/
def HasLabel {α : Type} (copy : TemplateCopy α) : Bool :=
  copy.actionLabel.any fun label => !label.isEmpty

/-- The texts of a built-in template can be filled, and it has a label. -/
def IsBuiltIn (copy : TemplateCopy UInt16) : Bool :=
  plainKeys copy.heading && plainKeys copy.intro && plainKeys copy.outro &&
    copy.actionLabel.any fun label => plainKeys label && !label.isEmpty

theorem isBuiltIn_of_templateByCode
    {code : String}
    {seed : TemplateCopy UInt16}
    (known : templateByCode code = some seed) :
    IsBuiltIn seed = true := by
  unfold templateByCode at known
  split at known
  all_goals first
    | contradiction
    | injection known with isSeed
      subst isSeed
      decide +kernel

theorem hasLabel_of_isBuiltIn
    {seed : TemplateCopy UInt16}
    (builtIn : IsBuiltIn seed = true) :
    HasLabel seed = true := by
  simp only [IsBuiltIn, Bool.and_eq_true, Option.any_eq_true] at builtIn
  obtain ⟨-, label, isLabel, -, nonempty⟩ := builtIn
  simpa [HasLabel, isLabel] using nonempty

/-! ## Messages -/

section Messages

variable {brand : Brand UInt16} {copy : TemplateCopy UInt16}
  {vars : Vars UInt16} {actionUrl : Option JsString}

/-- What can be filled makes a message, with the button if there is one. -/
theorem exists_compose
    (brand : Brand UInt16)
    (heading : Fillable vars copy.heading)
    (intro : Fillable vars copy.intro)
    (outro : Fillable vars copy.outro) :
    ∃ (bodyWith : Option (Action UInt16) → EmailBody UInt16) (subject : JsString),
      ∀ actionUrl action, actionOf copy vars actionUrl = some action →
        compose brand copy vars actionUrl = some (bodyWith action, subject) := by
  have filled (template : JsString) (fillable : Fillable vars template) :
      ∃ text, fill template vars true = some text := by
    apply Option.isSome_iff_exists.mp
    rw [fill_isSome_iff, units_eq]
    exact fillable
  obtain ⟨headingText, isHeading⟩ := filled copy.heading heading
  obtain ⟨introText, isIntro⟩ := filled copy.intro intro
  obtain ⟨outroText, isOutro⟩ := filled copy.outro outro
  obtain ⟨subject, isSubject⟩ := Option.isSome_iff_exists.mp
    (fill_unescaped vars copy.subject)
  refine ⟨fun action =>
    ⟨(vars (JsString.ofText "productName")).getD brand.platformName,
      headingText, toHtml introText, action, toHtml outroText⟩, subject, ?_⟩
  intro actionUrl action isAction
  exact compose_eq_some_iff.mpr ⟨toBody_eq_some_iff.mpr
    ⟨headingText, introText, action, outroText, isHeading, isIntro, isAction,
      isOutro, rfl⟩, isSubject⟩

theorem fillable_of_toBody
    {actionUrl : Option JsString}
    {body : EmailBody UInt16}
    (isBody : toBody brand copy vars actionUrl = some body) :
    Fillable vars copy.heading ∧ Fillable vars copy.intro ∧
      Fillable vars copy.outro := by
  have fillable {template text : JsString}
      (filled : fill template vars true = some text) :
      Fillable vars template := by
    rw [← units_eq template, ← fill_isSome_iff, filled]
    rfl
  obtain ⟨heading, intro, action, outro, isHeading, isIntro, -, isOutro, -⟩ :=
    toBody_eq_some_iff.mp isBody
  exact ⟨fillable isHeading, fillable isIntro, fillable isOutro⟩

theorem actionLabel_of_offered
    {url label : JsString}
    (offer : offered copy actionUrl = some (url, label)) :
    copy.actionLabel = some label := by
  unfold offered at offer
  split at offer
  next isUrl isLabel =>
    injection offer with isPair
    injection isPair with isUrl' isLabel'
    rw [isLabel, isLabel']
  next => contradiction

/-- A built-in template can always be rendered. -/
theorem exists_compose_of_isBuiltIn
    (brand : Brand UInt16)
    (vars : Vars UInt16)
    (builtIn : IsBuiltIn copy = true)
    (actionUrl : Option JsString) :
    ∃ body subject,
      compose brand copy vars actionUrl = some (body, subject) := by
  simp only [IsBuiltIn, Bool.and_eq_true, Option.any_eq_true] at builtIn
  obtain ⟨⟨⟨heading, intro⟩, outro⟩, label, isLabel, labelPlain, -⟩ := builtIn
  obtain ⟨bodyWith, subject, composed⟩ := exists_compose brand
    (fillable_of_plainKeys heading vars) (fillable_of_plainKeys intro vars)
    (fillable_of_plainKeys outro vars)
  cases offer : offered copy actionUrl with
  | none =>
      have isAction : actionOf copy vars actionUrl = some none := by
        rw [actionOf, offer]
      exact ⟨_, subject, composed actionUrl none isAction⟩
  | some both =>
      obtain ⟨url, offeredLabel⟩ := both
      have sameLabel := actionLabel_of_offered offer
      rw [isLabel] at sameLabel
      injection sameLabel with sameLabel
      have filled : (fill label vars true).isSome := by
        rw [fill_isSome_iff, units_eq]
        exact fillable_of_plainKeys labelPlain vars
      obtain ⟨labelText, isLabelText⟩ := Option.isSome_iff_exists.mp filled
      have isAction : actionOf copy vars actionUrl =
          some (some ⟨labelText, url⟩) := by
        rw [actionOf, offer, ← sameLabel]
        dsimp only
        rw [isLabelText]
        rfl
      exact ⟨_, subject, composed actionUrl _ isAction⟩

section Known

variable {code : String} {seed : TemplateCopy UInt16}

theorem render_of_known
    (saved : Except String (Option (TemplateCopy UInt16)))
    (known : templateByCode code = some seed)
    {actionUrl : Option JsString}
    {body : EmailBody UInt16}
    {subject : JsString}
    (composed :
      (compose brand (chosenCopy seed saved) vars actionUrl).or
        (compose brand seed vars actionUrl) = some (body, subject)) :
    render brand code saved vars actionUrl =
      .ok ⟨subject, htmlPart brand.company body,
        textPart brand.company body⟩ := by
  unfold render
  rw [known]
  dsimp only
  rw [composed]
  rfl

end Known

end Messages

end Email
end EvoPlatform
