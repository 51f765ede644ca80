import EvoPlatform.Email.Rendering

/-!
# Marked runs

Rendering reads the units of its texts only: a run on marked texts makes the
message of the run on their units, with marks.
-/

namespace EvoPlatform
namespace Email

open Ink

variable {α : Type} [Ink α]

/-! ## The layout -/

theorem units_replaceUnit (code : UInt16) (entity : String) (value : List α) :
    units (replaceUnit code entity value) =
      replaceUnit code entity (units value) := by
  apply units_replaceAll
  intro whole
  rw [units_flatMap, units, List.flatMap_map]
  simp only [units_inPlace, inPlace_eq]

@[simp] theorem units_esc (value : List α) :
    units (esc value) = esc (units value) := by
  simp only [esc, units_replaceUnit]

@[simp] theorem units_styleParagraphs (html : List α) :
    units (styleParagraphs html) = styleParagraphs (units html) := by
  have constant (text : String) (pattern : Pattern) (html : List α) :
      units (replaceAll pattern (fun _ => literal text) html) =
        replaceAll pattern (fun _ => literal text) (units html) := by
    apply units_replaceAll
    intro whole
    rw [units_literal, literal_eq]
  have listed (text : String) (pattern : Pattern) (html : List α) :
      units (replaceAll pattern
          (fun whole => literal "<" ++ whole.tail ++ literal text) html) =
        replaceAll pattern
          (fun whole => literal "<" ++ whole.tail ++ literal text)
          (units html) := by
    apply units_replaceAll
    intro whole
    rw [units_append, units_append, units_literal, units_literal, units_tail,
      literal_eq, literal_eq]
  simp only [styleParagraphs, constant, listed]

theorem units_stripTags (text : List α) :
    units (stripTags text) = stripTags (units text) := by
  have constant (written : String) (pattern : Pattern) (text : List α) :
      units (replaceAll pattern (fun _ => literal written) text) =
        replaceAll pattern (fun _ => literal written) (units text) := by
    apply units_replaceAll
    intro whole
    rw [units_literal, literal_eq]
  have removed (pattern : Pattern) (text : List α) :
      units (replaceAll pattern (fun _ => []) text) =
        replaceAll pattern (fun _ => []) (units text) := by
    apply units_replaceAll
    exact fun _ => rfl
  simp only [stripTags, constant, removed]

theorem units_decodeEntities (text : List α) :
    units (decodeEntities text) = decodeEntities (units text) := by
  have decoded (word : String) (code : UInt16) (text : List α) :
      units (replaceEntity word code text) =
        replaceEntity word code (units text) := by
    apply units_replaceAll
    intro whole
    cases whole with
    | nil => rfl
    | cons first rest => simp
  simp only [decodeEntities, decoded]

@[simp] theorem units_plain (text : List α) :
    units (plain text) = plain (units text) := by
  rw [plain, units_decodeEntities, units_stripTags, plain]

theorem units_joinLines (lines : List (List α)) :
    units (joinLines lines) = joinLines (lines.map units) := by
  induction lines with
  | nil => rfl
  | cons line rest inductionHypothesis =>
      cases rest with
      | nil => rfl
      | cons next more =>
          simp only [joinLines, List.map_cons, units_append, units_literal,
            literal_eq, inductionHypothesis]

/-- The action as the code sees it. -/
def Action.seen (action : Action α) : Action UInt16 :=
  ⟨units action.label, units action.url⟩

def EmailBody.seen (body : EmailBody α) : EmailBody UInt16 where
  product := units body.product
  heading := units body.heading
  intro := units body.intro
  action := body.action.map Action.seen
  outro := units body.outro

theorem units_button (action : Option (Action α)) :
    units (button action) = button (action.map Action.seen) := by
  cases action with
  | none => rfl
  | some action =>
      simp only [button, Option.map_some, Action.seen, units_append,
        units_literal, literal_eq, units_esc]

theorem units_htmlPart (company : List α) (body : EmailBody α) :
    units (htmlPart company body) = htmlPart (units company) body.seen := by
  simp only [htmlPart, EmailBody.seen, units_append, units_literal, literal_eq,
    units_esc, units_styleParagraphs, units_button]

theorem units_textPart (company : List α) (body : EmailBody α) :
    units (textPart company body) = textPart (units company) body.seen := by
  unfold textPart
  rw [units_joinLines]
  cases action : body.action with
  | none =>
      simp [EmailBody.seen, action, units_trim, units_literal, literal_eq]
  | some action' =>
      simp [EmailBody.seen, action, Action.seen, units_trim, units_literal,
        literal_eq]

/-! ## The messages -/

/-- The record as the code sees it. -/
def Vars.seen (vars : Vars α) : Vars UInt16 := fun key => (vars key).map units

theorem units_substitute
    (vars : Vars α)
    (escapeValues : Bool)
    (piece : Piece α) :
    (substitute vars escapeValues piece).map units =
      substitute vars.seen escapeValues piece.seen := by
  cases piece with
  | kept char => rfl
  | found whole =>
      rw [Piece.seen, substitute, substitute, units_eq, Vars.seen]
      cases vars (keyOf (units whole)) with
      | some value => cases escapeValues <;> simp
      | none =>
          cases inherited (keyOf (units whole)) with
          | none => rfl
          | some text => cases escapeValues <;> simp [literal_eq]

theorem units_fillPieces
    (vars : Vars α)
    (escapeValues : Bool)
    (list : List (Piece α)) :
    (fillPieces vars escapeValues list).map units =
      fillPieces vars.seen escapeValues (list.map Piece.seen) := by
  induction list with
  | nil => rfl
  | cons piece rest inductionHypothesis =>
      rw [List.map_cons, fillPieces_cons, fillPieces_cons, ← units_substitute,
        ← inductionHypothesis]
      cases substitute vars escapeValues piece with
      | none => rfl
      | some written =>
          cases fillPieces vars escapeValues rest with
          | none => rfl
          | some more => simp

theorem units_fill
    (template : List α)
    (vars : Vars α)
    (escapeValues : Bool) :
    (fill template vars escapeValues).map units =
      fill (units template) vars.seen escapeValues := by
  unfold fill
  rw [units_fillPieces, map_seen_pieces]

theorem units_linesOf (text : List α) :
    (linesOf text).map units = linesOf (units text) := by
  induction text with
  | nil => rfl
  | cons char rest inductionHypothesis =>
      rw [units_cons, linesOf, linesOf, ← inductionHypothesis, unit_eq]
      split
      · rfl
      · cases linesOf rest <;> rfl

theorem units_toHtml (text : List α) :
    units (toHtml text) = toHtml (units text) := by
  unfold toHtml
  rw [units_eq]
  split
  · rfl
  · have trimmed : (linesOf (units text)).map trim =
        ((linesOf text).map trim).map units := by
      rw [← units_linesOf, List.map_map, List.map_map]
      apply List.map_congr_left
      intro line _
      exact (units_trim line).symm
    have empty : (fun line : JsString => !line.isEmpty) ∘ units =
        fun line : List α => !line.isEmpty := by
      funext line
      cases line <;> rfl
    rw [units_flatMap, trimmed]
    generalize (linesOf text).map trim = lines
    rw [List.filter_map, List.flatMap_map, empty]
    simp only [units_append, units_literal, literal_eq]

theorem seen_offered
    (copy : TemplateCopy α)
    (actionUrl : Option (List α)) :
    offered copy.seen (actionUrl.map units) =
      (offered copy actionUrl).map fun both =>
        (units both.1, units both.2) := by
  unfold offered TemplateCopy.seen
  rcases actionUrl with _ | _ | ⟨first, url⟩
  · rfl
  · rfl
  · rcases copy.actionLabel with _ | _ | ⟨letter, label⟩ <;> rfl

theorem seen_actionOf
    (copy : TemplateCopy α)
    (vars : Vars α)
    (actionUrl : Option (List α)) :
    (actionOf copy vars actionUrl).map (Option.map Action.seen) =
      actionOf copy.seen vars.seen (actionUrl.map units) := by
  rw [actionOf, actionOf, seen_offered]
  cases offered copy actionUrl with
  | none => rfl
  | some both =>
      dsimp only [Option.map_some]
      rw [← units_fill]
      cases fill both.2 vars true <;> rfl

/-- The brand as the code sees it. -/
def Brand.seen (brand : Brand α) : Brand UInt16 :=
  ⟨units brand.platformName, units brand.company⟩

theorem seen_toBody
    (brand : Brand α)
    (copy : TemplateCopy α)
    (vars : Vars α)
    (actionUrl : Option (List α)) :
    (toBody brand copy vars actionUrl).map EmailBody.seen =
      toBody brand.seen copy.seen vars.seen (actionUrl.map units) := by
  have product : (vars.seen (JsString.ofText "productName")).getD
      brand.seen.platformName =
        units ((vars (JsString.ofText "productName")).getD
          brand.platformName) := by
    unfold Vars.seen
    cases vars (JsString.ofText "productName") <;> rfl
  unfold toBody
  rw [← seen_actionOf, product]
  simp only [TemplateCopy.seen, ← units_fill]
  cases fill copy.heading vars true with
  | none => rfl
  | some heading =>
      cases fill copy.intro vars true with
      | none => rfl
      | some intro =>
          cases actionOf copy vars actionUrl with
          | none => rfl
          | some action =>
              cases fill copy.outro vars true with
              | none => rfl
              | some outro => simp [EmailBody.seen, units_toHtml]

/-- The body and the subject as the code sees them. -/
def seenMade (made : EmailBody α × List α) : EmailBody UInt16 × JsString :=
  (made.1.seen, units made.2)

theorem seen_compose
    (brand : Brand α)
    (copy : TemplateCopy α)
    (vars : Vars α)
    (actionUrl : Option (List α)) :
    (compose brand copy vars actionUrl).map seenMade =
      compose brand.seen copy.seen vars.seen (actionUrl.map units) := by
  unfold compose
  rw [← seen_toBody]
  simp only [TemplateCopy.seen, ← units_fill]
  cases toBody brand copy vars actionUrl with
  | none => rfl
  | some body => cases fill copy.subject vars false <;> rfl

theorem seen_templateByCode (code : String) :
    (templateByCode code : Option (TemplateCopy α)).map TemplateCopy.seen =
      templateByCode code := by
  unfold templateByCode
  split
  · simp [passwordReset, TemplateCopy.seen, literal_eq]
  · simp [emailVerify, TemplateCopy.seen, literal_eq]
  · simp [memberInvite, TemplateCopy.seen, literal_eq]
  · simp [workspaceList, TemplateCopy.seen, literal_eq]
  · rfl

theorem isUsable_seen (copy : TemplateCopy α) :
    isUsable copy.seen = isUsable copy := by
  have empty (text : List α) :
      (trim (units text)).isEmpty = (trim text).isEmpty := by
    rw [← units_trim]
    cases trim text <;> rfl
  simp only [isUsable, TemplateCopy.seen, empty]

/-- What the database answers, as the code sees it. -/
def seenSaved (saved : Except String (Option (TemplateCopy α))) :
    Except String (Option (TemplateCopy UInt16)) :=
  saved.map fun row => row.map TemplateCopy.seen

theorem seen_chosenCopy
    (seed : TemplateCopy α)
    (saved : Except String (Option (TemplateCopy α))) :
    (chosenCopy seed saved).seen = chosenCopy seed.seen (seenSaved saved) := by
  rcases saved with problem | _ | row
  · rfl
  · rfl
  · simp only [chosenCopy, seenSaved, Except.map, Option.map_some, isUsable_seen]
    split <;> rfl

def RenderedMessage.seen (message : RenderedMessage α) :
    RenderedMessage UInt16 :=
  ⟨units message.subject, units message.html, units message.text⟩

/-- A marked run makes the message of the run without marks. -/
theorem seen_render
    (brand : Brand α)
    (code : String)
    (saved : Except String (Option (TemplateCopy α)))
    (vars : Vars α)
    (actionUrl : Option (List α)) :
    (render brand code saved vars actionUrl).map RenderedMessage.seen =
      render brand.seen code (seenSaved saved) vars.seen
        (actionUrl.map units) := by
  unfold render
  rw [← seen_templateByCode (α := α)]
  cases (templateByCode code : Option (TemplateCopy α)) with
  | none => rfl
  | some seed =>
      dsimp only [Option.map_some]
      rw [← seen_chosenCopy, ← seen_compose, ← seen_compose, ← Option.map_or]
      generalize (compose brand (chosenCopy seed saved) vars actionUrl).or
        (compose brand seed vars actionUrl) = made
      cases made with
      | none => rfl
      | some made =>
          simp [Except.map, RenderedMessage.seen, renderEmail, seenMade,
            units_htmlPart, units_textPart, Brand.seen]

end Email
end EvoPlatform
