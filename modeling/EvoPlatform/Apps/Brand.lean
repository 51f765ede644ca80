import EvoPlatform.Foundation.Utf16

/-!
# The name of a product

The brand service composes what an app is told about itself, and the mail and
the recovery pages resolve whom they speak for.  Both read a record that
operators write as JSON, and both fall back to the display name and then to the
slug of the app.
-/

namespace EvoPlatform
namespace Apps

open JsString

/-- A stored JSON value. -/
inductive StoredJson
  | null
  | bool (value : Bool)
  | number (value : Rat)
  | string (value : JsString)
  | array (items : List StoredJson)
  | object (members : List (JsString × StoredJson))

namespace StoredJson

/-- The members of an object that is no array; of anything else, nothing. -/
def asObject : StoredJson → Option (List (JsString × StoredJson))
  | .object members => some members
  | _ => none

/-- `value.key`, where a key that is missing reads as `undefined`. -/
def read (members : List (JsString × StoredJson)) (key : String) :
    Option StoredJson :=
  (members.find? fun member => member.1 = ofText key).map Prod.snd

end StoredJson

open StoredJson

/-- The separators of `split(/[-_\s]+/)`. -/
def isSlugBreak (unit : UInt16) : Bool :=
  unit = 0x2D || unit = 0x5F || isWhiteSpace unit

section Runtime

variable (toUpperCase : JsString → JsString)

/-- A word with its first unit in upper case. -/
def capitalize (word : JsString) : JsString :=
  toUpperCase (word.take 1) ++ word.drop 1

/-- `titleize`, of which the brand service and the mail have a copy each. -/
def titleize (slug : JsString) : JsString :=
  [0x20].intercalate
    (((slug.splitOnP isSlugBreak).filter fun word => !word.isEmpty).map
      (capitalize toUpperCase))

end Runtime

/-- A text, unless it is empty. -/
def nonEmpty (text : JsString) : Option JsString :=
  if text.isEmpty then none else some text

/-- `str` of the brand service, for a value that may be undefined. -/
def str : Option StoredJson → Option JsString
  | some (.string value) => nonEmpty (trim value)
  | _ => none

structure Wordmark where
  lead : JsString
  accent : JsString

/-- `BrandRecord['product']`. -/
structure BrandProduct where
  name : JsString
  tagline : Option JsString
  wordmark : Option Wordmark

/-- `BrandRecord`, whose sections are copied as they are stored. -/
structure BrandRecord where
  product : BrandProduct
  domains : Option (List (JsString × StoredJson))
  email : Option (List (JsString × StoredJson))
  repo : Option (List (JsString × StoredJson))
  legal : Option (List (JsString × StoredJson))

/-- A registered app. -/
structure RegisteredApp where
  clientId : JsString
  clientId_ne : clientId ≠ []
  name : JsString
  displayName : Option JsString
  callbackUrls : List JsString
  brand : StoredJson
  deleted : Bool

/-! ## The brand service -/

/-- A string as it is stored, or nothing. -/
def half : Option StoredJson → JsString
  | some (.string value) => value
  | _ => []

/-- The wordmark of a stored product.  Its halves are not trimmed. -/
def wordmarkOf (product : List (JsString × StoredJson)) : Option Wordmark :=
  ((read product "wordmark").bind asObject).bind fun w =>
    let lead := half (read w "lead")
    let accent := half (read w "accent")
    if (trim lead).isEmpty && (trim accent).isEmpty then none
    else some ⟨lead, accent⟩

/-- `BrandService.compose`. -/
def compose (toUpperCase : JsString → JsString) (stored : StoredJson)
    (slug : JsString) (displayName : Option JsString) : Option BrandRecord :=
  let raw := asObject stored
  let product :=
    ((raw.bind fun raw => read raw "product").bind asObject).getD []
  let displayed := str (displayName.map .string)
  let name := (str (read product "name") <|> displayed).getD
    (titleize toUpperCase slug)
  if raw.isNone && displayed.isNone then none
  else
    let part (key : String) :=
      (raw.bind fun raw => read raw key).bind asObject
    some
      { product :=
          { name := name
            tagline := str (read product "tagline")
            wordmark := wordmarkOf product }
        domains := part "domains"
        email := part "email"
        repo := part "repo"
        legal := part "legal" }

/-- The app with a client id that is not deleted. -/
def findApp (apps : List RegisteredApp) (clientId : JsString) :
    Option RegisteredApp :=
  apps.find? fun app => app.clientId = clientId && !app.deleted

/-- `BrandService.forClient`. -/
def forClient (toUpperCase : JsString → JsString)
    (apps : List RegisteredApp) (clientId : JsString) : Option BrandRecord :=
  (findApp apps clientId).bind fun app =>
    compose toUpperCase app.brand app.name app.displayName

/-! ## Mail and recovery pages -/

/-- Whom a message is from, and where it sends someone afterwards. -/
structure Product where
  name : JsString
  signInUrl : JsString

/-- `brandName`. -/
def brandName (brand : StoredJson) : JsString :=
  match asObject brand with
  | none => []
  | some brand =>
      match (read brand "product").bind asObject with
      | none => []
      | some product =>
          match read product "name" with
          | some (.string name) => trim name
          | _ => []

/-- `unit` is a letter, in either case. -/
def isLetter (lower unit : UInt16) : Bool := unit = lower || unit + 0x20 = lower

/-- `/^https?:\/\//i`. -/
def isHttpUrl (url : JsString) : Bool :=
  let afterHttp := (url.take 4).zipWith (fun unit lower => isLetter lower unit)
    (ofText "http")
  let rest := url.drop 4
  afterHttp.length = 4 && afterHttp.all id &&
    ((ofText "://").isPrefixOf rest ||
      (rest.head?.any (isLetter 0x73) && (ofText "://").isPrefixOf rest.tail))

/-- The first value that is not empty, or the last. -/
def orElse (first second : JsString) : JsString :=
  if first.isEmpty then second else first

/-- `resolveProduct`, where `platform` is the identity of the platform. -/
def resolveProduct (toUpperCase : JsString → JsString) (platform : Product)
    (apps : List RegisteredApp) (clientId : Option JsString) : Product :=
  match clientId.bind nonEmpty with
  | none => platform
  | some clientId =>
      match findApp apps clientId with
      | none => platform
      | some app =>
          { name := orElse (brandName app.brand)
              (orElse ((app.displayName.map trim).getD [])
                (titleize toUpperCase app.name))
            signInUrl :=
              (app.callbackUrls.find? isHttpUrl).getD platform.signInUrl }

/-! ## One name -/

@[simp] theorem getD_nonEmpty (text : JsString) :
    (nonEmpty text).getD [] = text := by
  unfold nonEmpty
  split
  · rename_i empty
    exact (List.isEmpty_iff.mp empty).symm
  · rfl

theorem orElse_eq (first second : JsString) :
    orElse first second = (nonEmpty first).getD second := by
  unfold orElse nonEmpty
  split
  · rfl
  · rfl

/-- The stored product, or an object without members. -/
def productOf (stored : StoredJson) : List (JsString × StoredJson) :=
  (((asObject stored).bind fun raw => read raw "product").bind asObject).getD []

/-- The two readers of a stored name agree, whatever is stored. -/
theorem nonEmpty_brandName (brand : StoredJson) :
    nonEmpty (brandName brand) = str (read (productOf brand) "name") := by
  unfold brandName productOf
  cases asObject brand with
  | none => rfl
  | some raw =>
      simp only [Option.bind_some]
      cases (read raw "product").bind asObject with
      | none => rfl
      | some product =>
          simp only [Option.getD_some]
          cases read product "name" with
          | none => rfl
          | some value =>
              cases value with
              | string name => rfl
              | null => rfl
              | bool value => rfl
              | number value => rfl
              | array items => rfl
              | object members => rfl

/-- The two readers of a display name agree. -/
theorem nonEmpty_trim_displayName (displayName : Option JsString) :
    nonEmpty ((displayName.map trim).getD []) =
      str (displayName.map .string) := by
  cases displayName with
  | none => rfl
  | some displayName => rfl

variable {toUpperCase : JsString → JsString}

/-- The name that is resolved for an app: that of its record, then the display
name, then the slug as a title. -/
theorem resolveProduct_name
    {platform : Product}
    {apps : List RegisteredApp}
    {clientId : JsString}
    {app : RegisteredApp}
    (found : findApp apps clientId = some app) :
    (resolveProduct toUpperCase platform apps (some clientId)).name =
      (str (read (productOf app.brand) "name") <|>
        str (app.displayName.map .string)).getD
          (titleize toUpperCase app.name) := by
  have known : app.clientId = clientId := by
    have matched := List.find?_some found
    simp only [Bool.and_eq_true, decide_eq_true_eq] at matched
    exact matched.1
  have given : nonEmpty clientId = some clientId := by
    rw [nonEmpty, ← known, if_neg]
    simpa using app.clientId_ne
  simp only [resolveProduct, Option.bind_some, given, found]
  rw [orElse_eq, orElse_eq, nonEmpty_brandName, nonEmpty_trim_displayName]
  cases str (read (productOf app.brand) "name") with
  | none => rfl
  | some name => rfl

/-- The name in the record of an app. -/
theorem compose_name
    {stored : StoredJson}
    {slug : JsString}
    {displayName : Option JsString}
    {record : BrandRecord}
    (composed : compose toUpperCase stored slug displayName = some record) :
    record.product.name =
      (str (read (productOf stored) "name") <|>
        str (displayName.map .string)).getD (titleize toUpperCase slug) := by
  simp only [compose] at composed
  split at composed
  · cases composed
  · obtain rfl := Option.some.inj composed
    rfl

/-- The record that an app is given by its client id carries the name that is
resolved for it. -/
theorem forClient_name
    {platform : Product}
    {apps : List RegisteredApp}
    {clientId : JsString}
    {record : BrandRecord}
    (served : forClient toUpperCase apps clientId = some record) :
    record.product.name =
      (resolveProduct toUpperCase platform apps (some clientId)).name := by
  obtain ⟨app, found, composed⟩ := Option.bind_eq_some_iff.mp served
  rw [compose_name composed, resolveProduct_name found]

/-- There is no record if and only if nothing but a slug is there. -/
theorem compose_eq_none_iff
    {stored : StoredJson}
    {slug : JsString}
    {displayName : Option JsString} :
    compose toUpperCase stored slug displayName = none ↔
      asObject stored = none ∧ str (displayName.map .string) = none := by
  simp only [compose]
  split
  · rename_i slugOnly
    simpa using slugOnly
  · rename_i more
    simpa using more

/-- An app has one name: that of its record is the one in mail and on recovery
pages, and where it has no record, these use the slug as a title. -/
theorem product_names_agree
    (toUpperCase : JsString → JsString)
    (platform : Product)
    (apps : List RegisteredApp)
    (clientId : JsString)
    (app : RegisteredApp)
    (found : findApp apps clientId = some app) :
    (∀ record,
      compose toUpperCase app.brand app.name app.displayName = some record →
        record.product.name =
          (resolveProduct toUpperCase platform apps (some clientId)).name) ∧
    (compose toUpperCase app.brand app.name app.displayName = none →
      (resolveProduct toUpperCase platform apps (some clientId)).name =
        titleize toUpperCase app.name) := by
  rw [resolveProduct_name found]
  refine ⟨fun record composed => compose_name composed, fun composed => ?_⟩
  obtain ⟨noRecord, noName⟩ := compose_eq_none_iff.mp composed
  have unnamed : productOf app.brand = [] := by
    rw [productOf, noRecord]
    rfl
  rw [unnamed, noName]
  rfl

/-- Upper case, for texts without letters beyond ASCII. -/
def asciiUpper (text : JsString) : JsString :=
  text.map fun unit =>
    if 0x61 ≤ unit && unit ≤ 0x7A then unit - 0x20 else unit

/-- An app whose record names no product, with a padded display name. -/
def paddedApp : RegisteredApp where
  clientId := ofText "c1"
  clientId_ne := by decide
  name := ofText "swag-estimates"
  displayName := some (ofText " SWAG Estimates ")
  callbackUrls := []
  brand := .object
    [(ofText "product", .object [(ofText "name", .string (ofText "  "))])]
  deleted := false

theorem padded_names_agree :
    ((compose asciiUpper paddedApp.brand paddedApp.name
        paddedApp.displayName).map fun record => record.product.name) =
      some (resolveProduct asciiUpper ⟨ofText "evo.platform", []⟩ [paddedApp]
        (some (ofText "c1"))).name := by
  have agree := product_names_agree asciiUpper ⟨ofText "evo.platform", []⟩
    [paddedApp] (ofText "c1") paddedApp rfl
  cases composed : compose asciiUpper paddedApp.brand paddedApp.name
      paddedApp.displayName with
  | none => exact absurd (compose_eq_none_iff.mp composed).1 (by decide)
  | some record => exact congrArg some (agree.1 record composed)

end Apps
end EvoPlatform
