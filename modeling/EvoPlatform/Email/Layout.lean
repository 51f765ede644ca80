import EvoPlatform.Foundation.Rewriting

/-!
# The shell of the platform's mail

`renderEmail`, with the escaping of values, the styling of paragraphs and the
text part.  The flag `i` of a pattern ignores the case of ASCII letters only, as
it does without the flag `u`.
-/

namespace EvoPlatform
namespace Email

open Ink

abbrev AMP : UInt16 := 38
abbrev LT : UInt16 := 60
abbrev GT : UInt16 := 62
abbrev QUOT : UInt16 := 34
abbrev APOS : UInt16 := 39
abbrev SLASH : UInt16 := 47

/-- An ASCII letter in lower case, and any other unit as it is. -/
def fold (code : UInt16) : UInt16 :=
  if 65 ≤ code && code ≤ 90 then code + 32 else code

/-- A string begins with a word, in any case. -/
def startsAnyCase (word : String) (text : JsString) : Bool :=
  (JsString.ofText word).isPrefixOf (text.map fold)

section Shell

variable {α : Type} [Ink α]

/-! ## Escaping -/

/-- Replace a character by an entity. -/
def replaceUnit (code : UInt16) (entity : String) (value : List α) : List α :=
  replaceAll (.one code) (fun whole => whole.flatMap (inPlace entity)) value

def esc (value : List α) : List α :=
  replaceUnit APOS "&#39;" <| replaceUnit QUOT "&quot;" <|
    replaceUnit GT "&gt;" <| replaceUnit LT "&lt;" <|
      replaceUnit AMP "&amp;" value

/-- A character that is escaped. -/
def escaped (char : α) : List α :=
  if unit char = AMP then inPlace "&amp;" char
  else if unit char = LT then inPlace "&lt;" char
  else if unit char = GT then inPlace "&gt;" char
  else if unit char = QUOT then inPlace "&quot;" char
  else if unit char = APOS then inPlace "&#39;" char
  else [char]

theorem replaceUnit_eq (code : UInt16) (entity : String) (value : List α) :
    replaceUnit code entity value =
      value.flatMap fun char =>
        if unit char = code then inPlace entity char else [char] := by
  unfold replaceUnit
  rw [replaceAll_one]
  simp

theorem replaceUnit_of_notMem
    {code : UInt16}
    {value : List α}
    (absent : code ∉ units value)
    (entity : String) :
    replaceUnit code entity value = value := by
  rw [replaceUnit_eq]
  have same : ∀ char ∈ value,
      (if unit char = code then inPlace entity char else [char]) = [char] := by
    intro char present
    apply if_neg
    rintro rfl
    exact absent (List.mem_map_of_mem present)
  rw [List.flatMap_congr same]
  exact List.flatMap_singleton' value

theorem replaceUnit_append (code : UInt16) (entity : String)
    (left right : List α) :
    replaceUnit code entity (left ++ right) =
      replaceUnit code entity left ++ replaceUnit code entity right := by
  simp only [replaceUnit_eq, List.flatMap_append]

theorem esc_append (left right : List α) :
    esc (left ++ right) = esc left ++ esc right := by
  simp only [esc, replaceUnit_append]

theorem replaceUnit_singleton (code : UInt16) (entity : String) (char : α) :
    replaceUnit code entity [char] =
      if unit char = code then inPlace entity char else [char] := by
  rw [replaceUnit_eq]
  simp

theorem esc_singleton (char : α) : esc [char] = escaped char := by
  have replaced {code : UInt16} {text : String} (entity : String)
      (absent : code ∉ JsString.ofText text) :
      replaceUnit code entity (inPlace text char) = inPlace text char :=
    replaceUnit_of_notMem (by rwa [units_inPlace]) entity
  unfold esc escaped
  rw [replaceUnit_singleton]
  split
  next =>
    rw [replaced _ (by decide +kernel), replaced _ (by decide +kernel),
      replaced _ (by decide +kernel), replaced _ (by decide +kernel)]
  rw [replaceUnit_singleton]
  split
  next =>
    rw [replaced _ (by decide +kernel), replaced _ (by decide +kernel),
      replaced _ (by decide +kernel)]
  rw [replaceUnit_singleton]
  split
  next =>
    rw [replaced _ (by decide +kernel), replaced _ (by decide +kernel)]
  rw [replaceUnit_singleton]
  split
  next =>
    rw [replaced _ (by decide +kernel)]
  rw [replaceUnit_singleton]

/-- Each character is escaped on its own. -/
theorem esc_eq (value : List α) : esc value = value.flatMap escaped := by
  induction value with
  | nil => rfl
  | cons char rest inductionHypothesis =>
      rw [← List.singleton_append, esc_append, esc_singleton,
        inductionHypothesis]
      rfl

/-- The unit is neither a bracket nor a quotation mark. -/
def isPlain (code : UInt16) : Bool :=
  code ≠ LT && code ≠ GT && code ≠ QUOT && code ≠ APOS

/-- No bracket and no quotation mark is left. -/
theorem ne_of_mem_units_esc
    {value : List α}
    {code : UInt16}
    (present : code ∈ units (esc value)) :
    code ≠ LT ∧ code ≠ GT ∧ code ≠ QUOT ∧ code ≠ APOS := by
  rw [esc_eq, units_flatMap, List.mem_flatMap] at present
  obtain ⟨char, -, written⟩ := present
  have plain {entity : String}
      (all : (JsString.ofText entity).all isPlain = true)
      (inEntity : code ∈ units (inPlace entity char)) :
      code ≠ LT ∧ code ≠ GT ∧ code ≠ QUOT ∧ code ≠ APOS := by
    rw [units_inPlace] at inEntity
    have isPlainCode := List.all_eq_true.mp all code inEntity
    simpa [isPlain, and_assoc] using isPlainCode
  unfold escaped at written
  split_ifs at written with isAmp isLess isGreater isQuote isApostrophe
  case neg =>
    rw [List.mem_singleton.mp written]
    exact ⟨isLess, isGreater, isQuote, isApostrophe⟩
  all_goals exact plain (by decide +kernel) written

theorem length_le_length_esc (value : List α) :
    value.length ≤ (esc value).length := by
  rw [esc_eq]
  induction value with
  | nil => exact Nat.zero_le _
  | cons char rest inductionHypothesis =>
      have some : 1 ≤ (escaped char).length := by
        have printed (text : String) : (inPlace text char).length =
            (JsString.ofText text).length := List.length_map _
        unfold escaped
        simp only [apply_ite List.length, printed]
        split_ifs
        all_goals first | exact Nat.le_refl 1 | decide +kernel
      rw [List.flatMap_cons, List.length_append, List.length_cons]
      omega

/-! ## Styling -/

/-- `[^>]*\sstyle=` -/
def isStyled (text : JsString) : Bool :=
  (text.takeWhile fun code => code ≠ GT).tails.any fun tail =>
    match tail with
    | [] => false
    | first :: rest => JsString.isWhiteSpace first && startsAnyCase "style=" rest

/-- One of the words, unless a style follows before the tag ends. -/
def unstyled (words : List String) : Pattern := fun text =>
  words.findSome? fun word =>
    if startsAnyCase word text && !isStyled (text.drop word.length) then
      some word.length
    else none

def styleParagraphs (html : List α) : List α :=
  replaceAll (unstyled ["<a"])
      (fun _ => literal r#"<a style="color:#1d4067""#) <|
    replaceAll (unstyled ["<li"])
      (fun _ => literal r#"<li style="font-size:15px;line-height:1.55""#) <|
    replaceAll (unstyled ["<ul", "<ol"])
      (fun whole => literal "<" ++ whole.tail ++
        literal r#" style="margin:0 0 14px 0;padding-left:22px;color:#14304a""#) <|
    replaceAll (unstyled ["<p"])
      (fun _ => literal
        r#"<p style="margin:0 0 14px;font-size:15px;line-height:1.55;color:#14304a""#)
      html

/-! ## The text part -/

/-- `/<\/(p|div|li|h[1-6])>/gi` -/
def blockEnd : Pattern := fun text =>
  ["</p>", "</div>", "</li>", "</h1>", "</h2>", "</h3>", "</h4>", "</h5>",
    "</h6>"].findSome? fun word =>
      if startsAnyCase word text then some word.length else none

/-- `/<br\s*\/?>/gi` -/
def lineBreak : Pattern := fun text =>
  if startsAnyCase "<br" text then
    let rest := (text.drop 3).dropWhile JsString.isWhiteSpace
    let rest := if rest.head? = some SLASH then rest.tail else rest
    if rest.head? = some GT then some (text.length - rest.length + 1) else none
  else none

/-- `/<li[^>]*>/gi` -/
def listItem : Pattern := fun text =>
  if startsAnyCase "<li" text then
    let rest := (text.drop 3).dropWhile fun code => code ≠ GT
    if rest.isEmpty then none else some (text.length - rest.length + 1)
  else none

/-- `/<[^>]+>/g` -/
def anyTag : Pattern := fun text =>
  if text.head? = some LT then
    let inside := text.tail.takeWhile fun code => code ≠ GT
    if inside.isEmpty || inside.length = text.length - 1 then none
    else some (inside.length + 2)
  else none

/-- An entity. -/
def entity (word : String) : Pattern := fun text =>
  if (JsString.ofText word).isPrefixOf text then some word.length else none

/-- Replace an entity by a character. -/
def replaceEntity (word : String) (code : UInt16) (text : List α) : List α :=
  replaceAll (entity word)
    (fun whole => (whole.take 1).map fun char => redraw char code) text

/-- The markup of a paragraph as line breaks, dashes or nothing. -/
def stripTags (text : List α) : List α :=
  replaceAll anyTag (fun _ => []) <|
    replaceAll listItem (fun _ => literal "- ") <|
    replaceAll lineBreak (fun _ => literal "\n") <|
    replaceAll blockEnd (fun _ => literal "\n") text

/-- The characters that the entities stand for, one entity after another. -/
def decodeEntities (text : List α) : List α :=
  replaceEntity "&#39;" APOS <| replaceEntity "&quot;" QUOT <|
    replaceEntity "&gt;" GT <| replaceEntity "&lt;" LT <|
    replaceEntity "&amp;" AMP <| replaceEntity "&nbsp;" 32 text

def plain (text : List α) : List α := decodeEntities (stripTags text)

/-- `lines.join('\n')` -/
def joinLines : List (List α) → List α
  | [] => []
  | [line] => line
  | line :: next :: more => line ++ literal "\n" ++ joinLines (next :: more)

end Shell

/-! ## The message -/

structure Action (α : Type) where
  label : List α
  url : List α
  deriving DecidableEq

structure EmailBody (α : Type) where
  product : List α
  heading : List α
  /-- The block before the button. -/
  intro : List α
  /-- The one action. -/
  action : Option (Action α)
  /-- The block after the button. -/
  outro : List α
  deriving DecidableEq

/-- The two parts of a message. -/
structure Parts (α : Type) where
  html : List α
  text : List α

section Render

variable {α : Type} [Ink α]

def button : Option (Action α) → List α
  | none => []
  | some action =>
      literal r##"<table role="presentation" cellpadding="0" cellspacing="0" border="0" style="margin:22px 0">
         <tr><td align="center" bgcolor="#1d4067" style="border-radius:8px">
           <a href=""## ++
        esc action.url ++
        literal r##""
              style="display:inline-block;padding:12px 26px;font-family:Helvetica,Arial,sans-serif;
                     font-size:15px;font-weight:600;color:#ffffff;text-decoration:none;border-radius:8px">
             "## ++
        esc action.label ++
        literal r##"
           </a>
         </td></tr>
       </table>
       <!-- Every mail client that blocks or mangles the button still needs the
            destination to be reachable, so it is repeated as plain text. -->
       <p style="margin:0 0 14px;font-size:12px;line-height:1.5;color:#5b6b7d;word-break:break-all">
         If the button does not work, paste this into your browser:<br/>
         <span style="color:#5b6b7d">"## ++
        esc action.url ++
        literal r##"</span>
       </p>"##

/-- The html part of a message, sent by a company. -/
def htmlPart (company : List α) (body : EmailBody α) : List α :=
  literal r##"<!doctype html>
<html lang="en"><head><meta charset="utf-8"/>
<meta name="viewport" content="width=device-width,initial-scale=1"/>
<title>"## ++
    esc body.product ++
    literal r##"</title></head>
<body style="margin:0;padding:0;background:#f4f7fb">
<table role="presentation" width="100%" cellpadding="0" cellspacing="0" border="0" style="background:#f4f7fb">
  <tr><td align="center" style="padding:28px 12px">
    <table role="presentation" width="100%" cellpadding="0" cellspacing="0" border="0"
           style="max-width:520px;background:#ffffff;border:1px solid #dbe3ec;border-radius:12px">
      <tr><td style="padding:22px 28px 0">
        <span style="font-family:Helvetica,Arial,sans-serif;font-size:17px;font-weight:700;color:#1d4067">
          "## ++
    esc body.product ++
    literal r##"
        </span>
      </td></tr>
      <tr><td style="padding:14px 28px 0"><hr style="border:0;border-top:1px solid #dbe3ec;margin:0"/></td></tr>
      <tr><td style="padding:20px 28px 26px;font-family:Helvetica,Arial,sans-serif">
        <h1 style="margin:0 0 14px;font-size:19px;line-height:1.3;color:#14304a">"## ++
    esc body.heading ++
    literal r##"</h1>
        "## ++
    styleParagraphs body.intro ++
    literal r##"
        "## ++
    button body.action ++
    literal r##"
        "## ++
    styleParagraphs body.outro ++
    literal r##"
      </td></tr>
      <tr><td style="padding:0 28px 22px;font-family:Helvetica,Arial,sans-serif">
        <hr style="border:0;border-top:1px solid #dbe3ec;margin:0 0 14px"/>
        <p style="margin:0;font-size:12px;line-height:1.5;color:#5b6b7d">
          Sent by "## ++
    esc body.product ++
    literal r##", an "## ++
    esc company ++
    literal r##" product.<br/>
          This is an automated message about your account — you cannot reply to it.
        </p>
      </td></tr>
    </table>
  </td></tr>
</table>
</body></html>"##

/-- The text part of a message, sent by a company. -/
def textPart (company : List α) (body : EmailBody α) : List α :=
  joinLines <|
    [body.product, [], body.heading, [], trim (plain body.intro)] ++
    (match body.action with
      | none => []
      | some action => [[], action.label ++ literal ": " ++ action.url, []]) ++
    [trim (plain body.outro), [], literal "—",
      literal "Sent by " ++ body.product ++ literal ", an " ++ company ++
        literal " product.",
      literal <| "This is an automated message about your account — you cannot " ++
        "reply to it."]

def renderEmail (company : List α) (body : EmailBody α) : Parts α :=
  ⟨htmlPart company body, textPart company body⟩

end Render

end Email
end EvoPlatform
