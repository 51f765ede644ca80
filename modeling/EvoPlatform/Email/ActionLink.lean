import EvoPlatform.Email.BuiltIn
import Mathlib.Data.List.Infix

/-!
# The link of a message

A message of a known template has its link unless a saved row that can be used
has no label for the button.
-/

namespace EvoPlatform
namespace Email

open Ink

section Link

variable {brand : Brand UInt16} {copy : TemplateCopy UInt16}
  {vars : Vars UInt16} {url : JsString}

theorem actionOf_of_label
    (labelled : HasLabel copy = true)
    (present : url ≠ []) :
    actionOf copy vars (some url) =
      (fill (copy.actionLabel.getD []) vars true).map fun label =>
        some ⟨label, url⟩ := by
  obtain ⟨first, rest, rfl⟩ := List.exists_cons_of_ne_nil present
  unfold HasLabel at labelled
  unfold actionOf offered
  match copy.actionLabel, labelled with
  | some (letter :: label), _ => rfl

theorem actionOf_of_no_label
    (unlabelled : HasLabel copy = false)
    (actionUrl : Option JsString) :
    actionOf copy vars actionUrl = some none := by
  have nothing : offered copy actionUrl = none := by
    unfold HasLabel at unlabelled
    unfold offered
    split
    next isUrl isLabel => simp [isLabel] at unlabelled
    next => rfl
  rw [actionOf, nothing]

/-! ## A message with a label -/

theorem infix_left
    {part left right : JsString}
    (within : part <:+: left) :
    part <:+: left ++ right :=
  within.trans (List.prefix_append left right).isInfix

theorem infix_right
    {part left right : JsString}
    (within : part <:+: right) :
    part <:+: left ++ right :=
  within.trans (List.suffix_append left right).isInfix

theorem esc_infix_htmlPart
    {company : JsString}
    {body : EmailBody UInt16}
    {action : Action UInt16}
    (hasAction : body.action = some action) :
    esc action.url <:+: htmlPart company body := by
  have inButton : esc action.url <:+: button body.action := by
    rw [hasAction]
    unfold button
    iterate 5 apply infix_left
    exact infix_right List.infix_rfl
  unfold htmlPart
  iterate 7 apply infix_left
  exact infix_right inButton

theorem infix_joinLines
    {line : JsString}
    {lines : List JsString}
    (present : line ∈ lines) :
    line <:+: joinLines lines := by
  induction lines with
  | nil => contradiction
  | cons first rest inductionHypothesis =>
      cases rest with
      | nil =>
          rw [List.mem_singleton.mp present]
          exact List.infix_rfl
      | cons next more =>
          unfold joinLines
          rcases List.mem_cons.mp present with rfl | later
          · exact infix_left (infix_left List.infix_rfl)
          · exact infix_right (inductionHypothesis later)

theorem infix_textPart
    {company : JsString}
    {body : EmailBody UInt16}
    {action : Action UInt16}
    (hasAction : body.action = some action) :
    action.url <:+: textPart company body := by
  have inLine : action.url <:+: action.label ++ literal ": " ++ action.url :=
    infix_right List.infix_rfl
  apply inLine.trans
  unfold textPart
  apply infix_joinLines
  rw [hasAction]
  simp

/-- Both parts of a message have the link. -/
structure CarriesLink (message : RenderedMessage UInt16) (url : JsString) :
    Prop where
  html : esc url <:+: message.html
  text : url <:+: message.text

instance (message : RenderedMessage UInt16) (url : JsString) :
    Decidable (CarriesLink message url) :=
  decidable_of_iff (esc url <:+: message.html ∧ url <:+: message.text)
    ⟨fun both => ⟨both.1, both.2⟩, fun carries => ⟨carries.html, carries.text⟩⟩

theorem carriesLink_of_compose
    {body : EmailBody UInt16}
    {subject : JsString}
    (labelled : HasLabel copy = true)
    (present : url ≠ [])
    (composed : compose brand copy vars (some url) = some (body, subject)) :
    CarriesLink
      ⟨subject, htmlPart brand.company body, textPart brand.company body⟩
      url := by
  obtain ⟨isBody, -⟩ := compose_eq_some_iff.mp composed
  obtain ⟨heading, intro, action, outro, -, -, isAction, -, isRecord⟩ :=
    toBody_eq_some_iff.mp isBody
  rw [actionOf_of_label labelled present] at isAction
  obtain ⟨label, -, isSome⟩ := Option.map_eq_some_iff.mp isAction
  have hasAction : body.action = some ⟨label, url⟩ := by
    rw [isRecord, isSome]
  have inHtml := @esc_infix_htmlPart brand.company body _ hasAction
  have inText := @infix_textPart brand.company body _ hasAction
  exact ⟨inHtml, inText⟩

end Link

/-! ## Whether the link survives -/

/-- A saved row is used although it has no label. -/
def LosesLink (vars : Vars UInt16)
    (saved : Except String (Option (TemplateCopy UInt16))) : Prop :=
  ∃ row, saved = .ok (some row) ∧ isUsable row = true ∧
    HasLabel row = false ∧ Fillable vars row.heading ∧
    Fillable vars row.intro ∧ Fillable vars row.outro

section Survival

variable {brand : Brand UInt16} {code : String} {vars : Vars UInt16}
  {saved : Except String (Option (TemplateCopy UInt16))}
  {seed : TemplateCopy UInt16}

/-- The copy that is tried first has a label, or it is a saved row without. -/
theorem hasLabel_chosenCopy
    (saved : Except String (Option (TemplateCopy UInt16)))
    (builtIn : IsBuiltIn seed = true) :
    HasLabel (chosenCopy seed saved) = true ∨
      ∃ row, saved = .ok (some row) ∧ isUsable row = true ∧
        HasLabel row = false := by
  have seedLabel := hasLabel_of_isBuiltIn builtIn
  unfold chosenCopy
  split
  next row =>
    split
    next usable =>
      cases label : HasLabel row with
      | true => exact Or.inl rfl
      | false => exact Or.inr ⟨row, rfl, usable, label⟩
    next => exact Or.inl seedLabel
  next => exact Or.inl seedLabel

theorem chosenCopy_of_usable
    (seed : TemplateCopy UInt16)
    {row : TemplateCopy UInt16}
    (isSaved : saved = .ok (some row))
    (usable : isUsable row = true) :
    chosenCopy seed saved = row := by
  rw [isSaved]
  exact if_pos usable

/-- Without a label, some link is longer than the message. -/
theorem exists_url_of_losesLink
    (brand : Brand UInt16)
    (known : templateByCode code = some seed)
    (loses : LosesLink vars saved) :
    ∃ url, url ≠ [] ∧
      ∀ message, render brand code saved vars (some url) = .ok message →
        ¬CarriesLink message url := by
  obtain ⟨row, rfl, usable, unlabelled, heading, intro, outro⟩ := loses
  obtain ⟨bodyWith, subject, composed⟩ :=
    exists_compose brand heading intro outro
  let html := htmlPart brand.company (bodyWith none)
  refine ⟨List.replicate (html.length + 1) 120, List.cons_ne_nil _ _, ?_⟩
  intro message rendered carries
  have first := composed (some (List.replicate (html.length + 1) 120)) none
    (actionOf_of_no_label unlabelled _)
  have chosen := chosenCopy_of_usable seed rfl usable
  rw [render_of_known _ known (by rw [chosen, first]; rfl)] at rendered
  injection rendered with isMessage
  subst isMessage
  have shorter := carries.html.length_le
  have longer := length_le_length_esc (List.replicate (html.length + 1) (120 : UInt16))
  rw [List.length_replicate] at longer
  exact absurd (longer.trans shorter) (Nat.not_succ_le_self html.length)

/-- Whatever the variables are: every message has its link if and only if the
template is known and no saved row without a label is used. -/
theorem link_survives_iff
    (brand : Brand UInt16)
    (code : String)
    (saved : Except String (Option (TemplateCopy UInt16)))
    (vars : Vars UInt16) :
    (∀ url, url ≠ [] →
      ∃ message, render brand code saved vars (some url) = .ok message ∧
        CarriesLink message url) ↔
      (templateByCode (α := UInt16) code).isSome ∧ ¬LosesLink vars saved := by
  constructor
  · intro survives
    have isKnown : (templateByCode (α := UInt16) code).isSome := by
      obtain ⟨message, rendered, -⟩ := survives [120] (List.cons_ne_nil _ _)
      unfold render at rendered
      cases known : templateByCode (α := UInt16) code with
      | none =>
          rw [known] at rendered
          contradiction
      | some seed => rfl
    refine ⟨isKnown, ?_⟩
    intro loses
    obtain ⟨seed, known⟩ := Option.isSome_iff_exists.mp isKnown
    obtain ⟨url, present, lost⟩ :=
      exists_url_of_losesLink brand known loses
    obtain ⟨message, rendered, carries⟩ := survives url present
    exact lost message rendered carries
  · rintro ⟨isKnown, keeps⟩ url present
    obtain ⟨seed, known⟩ := Option.isSome_iff_exists.mp isKnown
    have builtIn := isBuiltIn_of_templateByCode known
    cases tried : compose brand (chosenCopy seed saved) vars (some url) with
    | some made =>
        obtain ⟨body, subject⟩ := made
        have rendered := render_of_known saved known (by rw [tried]; rfl)
        refine ⟨_, rendered, ?_⟩
        rcases hasLabel_chosenCopy saved builtIn with
          labelled | ⟨row, isSaved, usable, unlabelled⟩
        · exact carriesLink_of_compose labelled present tried
        · exfalso
          have isRow : chosenCopy seed saved = row :=
            chosenCopy_of_usable seed isSaved usable
          rw [isRow] at tried
          obtain ⟨isBody, -⟩ := compose_eq_some_iff.mp tried
          obtain ⟨heading, intro, outro⟩ := fillable_of_toBody isBody
          exact keeps ⟨row, isSaved, usable, unlabelled, heading, intro, outro⟩
    | none =>
        obtain ⟨body, subject, composed⟩ :=
          exists_compose_of_isBuiltIn brand vars builtIn (some url)
        refine ⟨_, render_of_known _ known (by rw [tried, composed]; rfl), ?_⟩
        exact carriesLink_of_compose (hasLabel_of_isBuiltIn builtIn) present
          composed

end Survival

/-! ## A reset without a link -/

/-- A row that is saved with the label deleted. -/
def unlabelledReset : TemplateCopy UInt16 where
  subject := literal "Reset"
  heading := literal "Reset"
  intro := literal "Use the button."
  actionLabel := some []
  outro := []

def resetLink : JsString := JsString.ofText "https://swag.example/?token=abc"

/-- The body of the message. -/
def unlabelledBody : EmailBody UInt16 where
  product := literal "evo.platform"
  heading := literal "Reset"
  intro := literal "<p>Use the button.</p>"
  action := none
  outro := []

/-- No question mark is in the html part. -/
theorem questionMark_notMem :
    63 ∉ htmlPart defaultBrand.company unlabelledBody := by
  unfold htmlPart
  simp only [List.mem_append, not_or]
  refine ⟨⟨⟨⟨⟨⟨⟨⟨⟨⟨⟨⟨⟨⟨⟨⟨?_, ?_⟩, ?_⟩, ?_⟩, ?_⟩, ?_⟩, ?_⟩, ?_⟩, ?_⟩, ?_⟩, ?_⟩,
    ?_⟩, ?_⟩, ?_⟩, ?_⟩, ?_⟩, ?_⟩
  -- The kernel is slow to read a string, and fast on the list of its characters.
  all_goals first
    | rw [literal_eq, show JsString.ofText _ = _ from ofText_ofList _]
      decide +kernel
    | decide +kernel

/-- Neither part of the reset has the link. -/
theorem unlabelledReset_loses_link :
    ∃ message,
      render defaultBrand "password_reset" (.ok (some unlabelledReset))
        (record [("email", "a@example.com"), ("expiryMinutes", "30")])
        (some resetLink) = .ok message ∧
      ¬esc resetLink <:+: message.html ∧ ¬resetLink <:+: message.text := by
  have composed : compose defaultBrand unlabelledReset
      (record [("email", "a@example.com"), ("expiryMinutes", "30")])
      (some resetLink) = some (unlabelledBody, literal "Reset") := by
    decide +kernel
  have isReset : templateByCode "password_reset" =
      some (passwordReset : TemplateCopy UInt16) := rfl
  refine ⟨_, render_of_known _ isReset (by
    rw [chosenCopy_of_usable _ rfl (by decide +kernel), composed]
    rfl), ?_, ?_⟩
  · intro within
    exact questionMark_notMem (within.subset (by decide +kernel))
  · decide +kernel

end Email
end EvoPlatform
