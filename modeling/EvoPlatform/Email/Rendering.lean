import EvoPlatform.Email.Layout
import EvoPlatform.Email.Templates

/-!
# Rendering a template

`render`, with the substitution of values for placeholders.  What is logged is
left out.
-/

namespace EvoPlatform
namespace Email

open Ink

/-! ## Placeholders -/

abbrev OPENING : UInt16 := 123
abbrev CLOSING : UInt16 := 125

/-- `\w` -/
def isWord (code : UInt16) : Bool :=
  (48 ≤ code && code ≤ 57) || (65 ≤ code && code ≤ 90) || code = 95 ||
    (97 ≤ code && code ≤ 122)

/-- `/\{\{\s*(\w+)\s*\}\}/g` -/
def placeholder : Pattern := fun text =>
  if text.take 2 = [OPENING, OPENING] then
    let named := (text.drop 2).dropWhile JsString.isWhiteSpace
    let rest := (named.dropWhile isWord).dropWhile JsString.isWhiteSpace
    if (named.takeWhile isWord).isEmpty then none
    else if rest.take 2 = [CLOSING, CLOSING] then
      some (text.length - rest.length + 2)
    else none
  else none

/-- How a placeholder is written. -/
theorem of_placeholder
    {text : JsString}
    {length : Nat}
    (matched : placeholder text = some length) :
    ∃ white key white' rest,
      text = [OPENING, OPENING] ++ (white ++ (key ++ white')) ++
        [CLOSING, CLOSING] ++ rest ∧
      length = 2 + (white ++ (key ++ white')).length + 2 ∧
      (∀ code ∈ white, JsString.isWhiteSpace code = true) ∧
      (∀ code ∈ key, isWord code = true) ∧
      ∀ code ∈ white', JsString.isWhiteSpace code = true := by
  unfold placeholder at matched
  split at matched
  case isFalse => contradiction
  case isTrue opens =>
    dsimp only at matched
    split at matched
    case isTrue => contradiction
    case isFalse =>
      split at matched
      case isFalse => contradiction
      case isTrue closes =>
        injection matched with isLength
        have start := List.take_append_drop 2 text
        rw [opens] at start
        generalize isInside : text.drop 2 = inside at *
        have first := List.takeWhile_append_dropWhile
          (p := JsString.isWhiteSpace) (l := inside)
        generalize isNamed : inside.dropWhile JsString.isWhiteSpace = named at *
        have second := List.takeWhile_append_dropWhile (p := isWord) (l := named)
        generalize isAfter : named.dropWhile isWord = after at *
        have third := List.takeWhile_append_dropWhile
          (p := JsString.isWhiteSpace) (l := after)
        generalize isRest : after.dropWhile JsString.isWhiteSpace = rest at *
        have last := List.take_append_drop 2 rest
        rw [closes] at last
        refine ⟨inside.takeWhile JsString.isWhiteSpace, named.takeWhile isWord,
          after.takeWhile JsString.isWhiteSpace, rest.drop 2, ?_, ?_,
          fun code => List.mem_takeWhile_imp, fun code => List.mem_takeWhile_imp,
          fun code => List.mem_takeWhile_imp⟩
        · rw [← start]
          conv_lhs => rw [← first, ← second, ← third, ← last]
          simp only [List.append_assoc]
        · rw [← isLength, ← start]
          conv_lhs => rw [← first, ← second, ← third]
          simp only [List.length_append, List.length_cons, List.length_nil]
          omega

theorem placeholder_sound : placeholder.Sound := by
  intro text length matched
  obtain ⟨white, key, white', rest, rfl, rfl, -⟩ := of_placeholder matched
  simp only [List.length_append, List.length_cons, List.length_nil]
  omega

/-- The characters of a placeholder. -/
theorem of_found
    {template whole : JsString}
    (found : .found whole ∈ pieces placeholder template) :
    ∀ code ∈ whole, code = OPENING ∨ code = CLOSING ∨
      JsString.isWhiteSpace code = true ∨ isWord code = true := by
  obtain ⟨more, matched⟩ :=
    matched_of_mem_piecesFrom placeholder_sound found
  rw [units_eq] at matched
  obtain ⟨white, key, white', rest, isText, isLength, areWhite, areWords,
    areWhite'⟩ := of_placeholder matched
  have isWhole : whole = [OPENING, OPENING] ++ (white ++ (key ++ white')) ++
      [CLOSING, CLOSING] := by
    apply List.append_inj_left isText
    rw [isLength]
    simp only [List.length_append, List.length_cons, List.length_nil]
  intro code present
  rw [isWhole] at present
  simp only [List.mem_append, List.mem_cons, List.not_mem_nil, or_false] at present
  rcases present with ((rfl | rfl) | inWhite | inKey | inWhite') | rfl | rfl
  · exact Or.inl rfl
  · exact Or.inl rfl
  · exact Or.inr (Or.inr (Or.inl (areWhite code inWhite)))
  · exact Or.inr (Or.inr (Or.inr (areWords code inKey)))
  · exact Or.inr (Or.inr (Or.inl (areWhite' code inWhite')))
  · exact Or.inr (Or.inl rfl)
  · exact Or.inr (Or.inl rfl)

/-- The group of a placeholder. -/
def keyOf (whole : JsString) : JsString :=
  ((whole.drop 2).dropWhile JsString.isWhiteSpace).takeWhile isWord

/-- The methods of `Object.prototype`. -/
def inheritedMethods : List String :=
  ["__defineGetter__", "__defineSetter__", "__lookupGetter__",
    "__lookupSetter__", "hasOwnProperty", "isPrototypeOf",
    "propertyIsEnumerable", "toLocaleString", "toString", "valueOf"]

/-- What a record inherits under a key, as a string. -/
def inherited (key : JsString) : Option String :=
  if key = JsString.ofText "__proto__" then some "[object Object]"
  else if key = JsString.ofText "constructor" then
    some "function Object() \x7b [native code] \x7d"
  else
    (inheritedMethods.find? fun name => key = JsString.ofText name).map
      fun name => "function " ++ name ++ "() \x7b [native code] \x7d"

/-- The properties of a record of its own. -/
abbrev Vars (α : Type) := JsString → Option (List α)

section Fill

variable {α : Type} [Ink α]

/-- The record with some properties. -/
def record (properties : List (String × String)) : Vars α := fun key =>
  (properties.find? fun property => JsString.ofText property.1 = key).map
    fun property => literal property.2

/-- What a piece of a template becomes, unless the callback throws: only strings
can be escaped. -/
def substitute (vars : Vars α) (escapeValues : Bool) :
    Piece α → Option (List α)
  | .kept char => some [char]
  | .found whole =>
      match vars (keyOf (units whole)) with
      | some value => some (if escapeValues then esc value else value)
      | none =>
          match inherited (keyOf (units whole)) with
          | none => some whole
          | some text => if escapeValues then none else some (literal text)

def fillPieces (vars : Vars α) (escapeValues : Bool) :
    List (Piece α) → Option (List α)
  | [] => some []
  | piece :: rest => do
      let written ← substitute vars escapeValues piece
      let more ← fillPieces vars escapeValues rest
      some (written ++ more)

def fill (template : List α) (vars : Vars α) (escapeValues : Bool) :
    Option (List α) :=
  fillPieces vars escapeValues (pieces placeholder template)

end Fill

/-! ## What throws -/

section Throws

variable {α : Type} [Ink α] {vars : Vars α} {escapeValues : Bool}

theorem fillPieces_cons (piece : Piece α) (rest : List (Piece α)) :
    fillPieces vars escapeValues (piece :: rest) =
      (substitute vars escapeValues piece).bind fun written =>
        (fillPieces vars escapeValues rest).map fun more => written ++ more := by
  rw [fillPieces]
  cases fillPieces vars escapeValues rest <;> rfl

theorem fillPieces_cons_eq_some_iff
    {piece : Piece α}
    {rest : List (Piece α)}
    {out : List α} :
    fillPieces vars escapeValues (piece :: rest) = some out ↔
      ∃ written more, substitute vars escapeValues piece = some written ∧
        fillPieces vars escapeValues rest = some more ∧
        out = written ++ more := by
  rw [fillPieces_cons]
  simp only [Option.bind_eq_some_iff, Option.map_eq_some_iff]
  constructor
  · rintro ⟨written, isWritten, more, isMore, rfl⟩
    exact ⟨written, more, isWritten, isMore, rfl⟩
  · rintro ⟨written, more, isWritten, isMore, rfl⟩
    exact ⟨written, isWritten, more, isMore, rfl⟩

/-- No placeholder names an inherited property of the record. -/
def Fillable (vars : Vars α) (template : JsString) : Prop :=
  ∀ whole, .found whole ∈ pieces placeholder template →
    (vars (keyOf whole)).isSome ∨ inherited (keyOf whole) = none

theorem substitute_eq_none_iff (piece : Piece α) :
    substitute vars true piece = none ↔
      ∃ whole, .found whole = piece.seen ∧ vars (keyOf whole) = none ∧
        (inherited (keyOf whole)).isSome := by
  cases piece with
  | kept char => simp [substitute, Piece.seen]
  | found whole =>
      rw [substitute]
      cases own : vars (keyOf (units whole)) with
      | some value => simp [own, Piece.seen]
      | none =>
          cases inheritance : inherited (keyOf (units whole)) with
          | none => simp [inheritance, Piece.seen]
          | some text => simp [own, inheritance, Piece.seen]

theorem fillPieces_eq_none_iff (list : List (Piece α)) :
    fillPieces vars true list = none ↔
      ∃ piece ∈ list, substitute vars true piece = none := by
  induction list with
  | nil => simp [fillPieces]
  | cons piece rest inductionHypothesis =>
      rw [List.exists_mem_cons_iff, ← inductionHypothesis, fillPieces_cons]
      cases substitute vars true piece with
      | none => simp
      | some written => simp

/-- Filling throws at an inherited property only. -/
theorem fill_isSome_iff (template : List α) :
    (fill template vars true).isSome ↔ Fillable vars (units template) := by
  rw [Option.isSome_iff_ne_none, ne_eq, fill, fillPieces_eq_none_iff]
  simp only [substitute_eq_none_iff, Fillable, ← map_seen_pieces,
    List.mem_map]
  constructor
  · rintro none whole ⟨piece, present, isFound⟩
    by_contra neither
    obtain ⟨foreign, isInherited⟩ := not_or.mp neither
    exact none ⟨piece, present, whole, isFound.symm, by simpa using foreign,
      Option.isSome_iff_ne_none.mpr isInherited⟩
  · rintro fillable ⟨piece, present, whole, isFound, foreign, isInherited⟩
    rcases fillable whole ⟨piece, present, isFound.symm⟩ with own | free
    · simp [foreign] at own
    · simp [free] at isInherited

/-- Without escaping nothing throws. -/
theorem fill_unescaped (vars : Vars α) (template : List α) :
    (fill template vars false).isSome := by
  unfold fill
  generalize pieces placeholder template = list
  induction list with
  | nil => rfl
  | cons piece rest inductionHypothesis =>
      rw [fillPieces_cons]
      have written : (substitute vars false piece).isSome := by
        cases piece with
        | kept char => rfl
        | found whole =>
            rw [substitute]
            cases vars (keyOf (units whole)) with
            | some value => rfl
            | none => cases inherited (keyOf (units whole)) <;> rfl
      obtain ⟨out, isOut⟩ := Option.isSome_iff_exists.mp written
      simp [isOut, inductionHypothesis]

end Throws

/-! ## Paragraphs -/

section Paragraphs

variable {α : Type} [Ink α]

/-- `<(p|div|ul|ol|br|h[1-6])\b` at the front of a string, in any case. -/
def opensBlock (text : JsString) : Bool :=
  ["<p", "<div", "<ul", "<ol", "<br", "<h1", "<h2", "<h3", "<h4", "<h5",
    "<h6"].any fun word =>
      startsAnyCase word text && !(text.drop word.length).head?.any isWord

def hasBlock (text : JsString) : Bool := text.tails.any opensBlock

def toHtml (text : List α) : List α :=
  if hasBlock (units text) then text
  else
    (((linesOf text).map trim).filter fun line => !line.isEmpty).flatMap
      fun line => literal "<p>" ++ line ++ literal "</p>"

end Paragraphs

/-! ## Messages -/

/-- `config.brand`. -/
structure Brand (α : Type) where
  platformName : List α
  company : List α

/-- The brand where the environment sets none. -/
def defaultBrand {α : Type} [Ink α] : Brand α :=
  ⟨literal "evo.platform", literal "Evomedia.net LLC"⟩

structure RenderedMessage (α : Type) where
  subject : List α
  html : List α
  text : List α

inductive RenderError
  | notFound (message : String)
  | typeError

section Render

variable {α : Type} [Ink α]

/-- `actionUrl && copy.actionLabel`, with both; an empty string is falsy. -/
def offered (copy : TemplateCopy α) (actionUrl : Option (List α)) :
    Option (List α × List α) :=
  match actionUrl, copy.actionLabel with
  | some (first :: url), some (letter :: label) =>
      some (first :: url, letter :: label)
  | _, _ => none

/-- The action of a body. -/
def actionOf (copy : TemplateCopy α) (vars : Vars α)
    (actionUrl : Option (List α)) : Option (Option (Action α)) :=
  match offered copy actionUrl with
  | none => some none
  | some (url, label) =>
      (fill label vars true).map fun label => some ⟨label, url⟩

def toBody (brand : Brand α) (copy : TemplateCopy α) (vars : Vars α)
    (actionUrl : Option (List α)) : Option (EmailBody α) := do
  let heading ← fill copy.heading vars true
  let intro ← fill copy.intro vars true
  let action ← actionOf copy vars actionUrl
  let outro ← fill copy.outro vars true
  some
    { product :=
        (vars (JsString.ofText "productName")).getD brand.platformName
      heading := heading
      intro := toHtml intro
      action := action
      outro := toHtml outro }

/-- How a body is made, if nothing throws. -/
theorem toBody_eq_some_iff
    {brand : Brand α}
    {copy : TemplateCopy α}
    {vars : Vars α}
    {actionUrl : Option (List α)}
    {body : EmailBody α} :
    toBody brand copy vars actionUrl = some body ↔
      ∃ heading intro action outro,
        fill copy.heading vars true = some heading ∧
        fill copy.intro vars true = some intro ∧
        actionOf copy vars actionUrl = some action ∧
        fill copy.outro vars true = some outro ∧
        body =
          { product :=
              (vars (JsString.ofText "productName")).getD brand.platformName
            heading := heading
            intro := toHtml intro
            action := action
            outro := toHtml outro } := by
  unfold toBody
  simp only [Option.bind_eq_bind, Option.bind_eq_some_iff, Option.some.injEq]
  constructor
  · rintro ⟨heading, isHeading, intro, isIntro, action, isAction, outro,
      isOutro, rfl⟩
    exact ⟨heading, intro, action, outro, isHeading, isIntro, isAction,
      isOutro, rfl⟩
  · rintro ⟨heading, intro, action, outro, isHeading, isIntro, isAction,
      isOutro, rfl⟩
    exact ⟨heading, isHeading, intro, isIntro, action, isAction, outro,
      isOutro, rfl⟩

/-- The copy that is tried first, given what the database answers. -/
def chosenCopy (seed : TemplateCopy α)
    (saved : Except String (Option (TemplateCopy α))) : TemplateCopy α :=
  match saved with
  | .ok (some row) => if isUsable row then row else seed
  | _ => seed

/-- The body and the subject. -/
def compose (brand : Brand α) (copy : TemplateCopy α) (vars : Vars α)
    (actionUrl : Option (List α)) : Option (EmailBody α × List α) := do
  let body ← toBody brand copy vars actionUrl
  let subject ← fill copy.subject vars false
  some (body, subject)

theorem compose_eq_some_iff
    {brand : Brand α}
    {copy : TemplateCopy α}
    {vars : Vars α}
    {actionUrl : Option (List α)}
    {body : EmailBody α}
    {subject : List α} :
    compose brand copy vars actionUrl = some (body, subject) ↔
      toBody brand copy vars actionUrl = some body ∧
        fill copy.subject vars false = some subject := by
  simp [compose, Option.bind_eq_some_iff]

def render (brand : Brand α) (code : String)
    (saved : Except String (Option (TemplateCopy α))) (vars : Vars α)
    (actionUrl : Option (List α)) :
    Except RenderError (RenderedMessage α) :=
  match templateByCode code with
  | none => .error (.notFound s!"Unknown email template \"{code}\"")
  | some seed =>
      let first := compose brand (chosenCopy seed saved) vars actionUrl
      match first.or (compose brand seed vars actionUrl) with
      | none => .error .typeError
      | some (body, subject) =>
          let parts := renderEmail brand.company body
          .ok ⟨subject, parts.html, parts.text⟩

end Render

end Email
end EvoPlatform
