import EvoPlatform.Billing.Catalogue
import EvoPlatform.Foundation.Columns

/-!
# The price catalogue of the apps

`addPrice`, `refreshPrice` and `removePrice`, one database statement or request
to Stripe at a time, beside the statements that create and delete an app.  What
a price costs is read from Stripe and kept in its row.  A statement fails when a
constraint refuses its row, or a column one of its values.
-/

namespace EvoPlatform
namespace Apps

open Billing

/-! ## A price at Stripe -/

/-- The product of a price, which a request may expand. -/
inductive StripeProduct
  | bare (id : String)
  | deleted (id : String)
  | whole (id : String) (name : Option String)
  deriving DecidableEq

namespace StripeProduct

def id : StripeProduct → String
  | .bare id => id
  | .deleted id => id
  | .whole id _ => id

def productName : StripeProduct → String
  | .whole _ (some name) => name
  | _ => ""

end StripeProduct

/-- How often a price bills. -/
structure Recurring where
  interval : String
  intervalCount : Int
  deriving DecidableEq

/-- What `prices.retrieve` returns. -/
structure StripePrice where
  active : Bool
  product : StripeProduct
  unitAmount : Option Int
  currency : String
  recurring : Option Recurring
  livemode : Bool
  deriving DecidableEq

/-- The facts of a price that are stored. -/
structure PriceFacts where
  stripeProductId : String
  productName : String
  unitAmount : Int
  currency : String
  interval : String
  intervalCount : Int
  livemode : Bool
  deriving DecidableEq

namespace PriceFacts

/-- The texts of the facts. -/
def texts (facts : PriceFacts) : List String :=
  [facts.stripeProductId, facts.productName, facts.currency, facts.interval]

/-- The numbers of the facts. -/
def numbers (facts : PriceFacts) : List Int :=
  [facts.unitAmount, facts.intervalCount]

end PriceFacts

/-- What `describePrice` makes of a price. -/
def StripePrice.facts (price : StripePrice) : PriceFacts where
  stripeProductId := price.product.id
  productName := price.product.productName
  unitAmount := price.unitAmount.getD 0
  currency := price.currency
  interval := (price.recurring.map Recurring.interval).getD once
  intervalCount := (price.recurring.map Recurring.intervalCount).getD 1
  livemode := price.livemode

/-- What a call throws. -/
inductive PriceError
  | badRequest (message : String)
  | notFound (message : String)
  | conflict (message : String)
  | serviceUnavailable (message : String)
  /-- A failed statement, answered with status 500. -/
  | internal
  deriving DecidableEq

/-- `requireStripe` in `describePrice`, before Stripe is asked. -/
def priceUnreadable : PriceError :=
  .serviceUnavailable
    ("Cannot read a price while STRIPE_SECRET_KEY is unset. A price’s amount " ++
      "and cadence are read from Stripe, never typed in, so saving one now " ++
      "would publish a figure nobody checked. Set the key, then register the " ++
      "price.")

/-- `describePrice`, with what Stripe answers, if it does not throw. -/
def describePrice (priceId : String) :
    Option StripePrice → Except PriceError PriceFacts
  | none => .error (.badRequest ("Stripe has no price \"" ++ priceId ++ "\""))
  | some price =>
      if price.active then
        .ok price.facts
      else
        .error (.badRequest ("Stripe price \"" ++ priceId ++
          "\" is archived, so checkout would fail"))

/-! ## The tables -/

/-- A row of the `apps` table, as these calls read it. -/
structure CatalogueApp where
  id : String
  clientId : String
  name : String
  deletedAt : Option Nat
  deriving DecidableEq

/-- A row of the `app_prices` table with its key. -/
structure AppPrice extends AppPriceRow where
  id : String
  deriving DecidableEq

namespace AppPrice

/-- The columns of `app_prices_appId_tier_interval_intervalCount_key`. -/
abbrev Slot := String × String × String × Int

def slot (price : AppPrice) : Slot :=
  (price.appId, price.tier, price.interval, price.intervalCount)

def idColumn (price : AppPrice) : Option String :=
  some price.stripePriceId

def slotColumn (price : AppPrice) : Option Slot :=
  some price.slot

/-- The facts of a row. -/
def facts (price : AppPrice) : PriceFacts where
  stripeProductId := price.stripeProductId
  productName := price.productName
  unitAmount := price.unitAmount
  currency := price.currency
  interval := price.interval
  intervalCount := price.intervalCount
  livemode := price.livemode

/-- Write other facts into a row. -/
def withFacts (price : AppPrice) (facts : PriceFacts) : AppPrice :=
  { price with
    stripeProductId := facts.stripeProductId
    productName := facts.productName
    unitAmount := facts.unitAmount
    currency := facts.currency
    interval := facts.interval
    intervalCount := facts.intervalCount
    livemode := facts.livemode }

@[simp] theorem facts_withFacts (price : AppPrice) (facts : PriceFacts) :
    (price.withFacts facts).facts = facts :=
  rfl

@[simp] theorem id_withFacts (price : AppPrice) (facts : PriceFacts) :
    (price.withFacts facts).id = price.id :=
  rfl

@[simp] theorem stripePriceId_withFacts (price : AppPrice)
    (facts : PriceFacts) :
    (price.withFacts facts).stripePriceId = price.stripePriceId :=
  rfl

@[simp] theorem appId_withFacts (price : AppPrice) (facts : PriceFacts) :
    (price.withFacts facts).appId = price.appId :=
  rfl

@[simp] theorem tier_withFacts (price : AppPrice) (facts : PriceFacts) :
    (price.withFacts facts).tier = price.tier :=
  rfl

end AppPrice

/-- What the trail records of these calls. -/
inductive PriceEvent
  | added (appClientId tier stripePriceId interval : String)
  | refreshed (appClientId tier stripePriceId : String) (changed : List String)
  | removed (appClientId tier stripePriceId : String)
  deriving DecidableEq

/-- The tables, with their constraints. -/
structure PriceDb where
  apps : Table CatalogueApp.id
  prices : Table AppPrice.id
  idUnique : prices.Unique AppPrice.idColumn
  slotUnique : prices.Unique AppPrice.slotColumn
  ofApp : ∀ price ∈ prices.rows, (apps.find? price.appId).isSome
  trail : List PriceEvent

namespace PriceDb

/-- No rows. -/
def empty : PriceDb where
  apps := .empty
  prices := .empty
  idUnique := Table.unique_empty _
  slotUnique := Table.unique_empty _
  ofApp := fun _ present => absurd present List.not_mem_nil
  trail := []

variable (db : PriceDb)

/-- `audit.record`. -/
def record (event : PriceEvent) : PriceDb :=
  { db with trail := db.trail ++ [event] }

/-- A price has another id at Stripe, and is sold on other terms, than every
other row. -/
def Fits (price : AppPrice) : Prop :=
  ¬ db.prices.HeldElsewhere AppPrice.idColumn price ∧
    ¬ db.prices.HeldElsewhere AppPrice.slotColumn price ∧
      (db.apps.find? price.appId).isSome

instance (price : AppPrice) : Decidable (db.Fits price) :=
  inferInstanceAs (Decidable (_ ∧ _ ∧ _))

/-- Write a row that fits. -/
def putPrice (price : AppPrice) (fits : db.Fits price) : PriceDb where
  apps := db.apps
  prices := db.prices.put price
  idUnique := db.idUnique.put price fits.1
  slotUnique := db.slotUnique.put price fits.2.1
  ofApp := by
    intro other present
    rcases (db.prices.mem_put_iff price other).mp present with
      rfl | ⟨before, _⟩
    · exact fits.2.2
    · exact db.ofApp other before
  trail := db.trail

/-- `appPrice.create`, which throws when a constraint refuses the row. -/
def createPrice (price : AppPrice) : Option PriceDb :=
  if fits : db.Fits price then
    if (db.prices.find? price.id).isSome then none
    else some (db.putPrice price fits)
  else none

/-- `appPrice.update` of the facts by id, which throws when there is no such
row, or a constraint refuses it. -/
def updatePrice (id : String) (facts : PriceFacts) :
    Option (PriceDb × AppPrice) :=
  match db.prices.find? id with
  | none => none
  | some stored =>
      let written := stored.withFacts facts
      if fits : db.Fits written then
        some (db.putPrice written fits, written)
      else none

/-- Delete some rows. -/
def erasePrices (doomed : AppPrice → Bool) : PriceDb where
  apps := db.apps
  prices := db.prices.eraseWhere doomed
  idUnique := db.idUnique.eraseWhere _
  slotUnique := db.slotUnique.eraseWhere _
  ofApp := by
    intro price present
    exact db.ofApp price (List.mem_of_mem_filter present)
  trail := db.trail

/-- `appPrice.delete` by id, which throws when there is no such row. -/
def deletePrice (id : String) : Option PriceDb :=
  if (db.prices.find? id).isSome then
    some (db.erasePrices fun price => price.id = id)
  else none

/-- `app.create`. -/
def createApp (app : CatalogueApp) : Option PriceDb :=
  if (db.apps.find? app.id).isSome then none
  else some
    { db with
      apps := db.apps.put app
      ofApp := by
        intro price present
        rw [Table.find?_put]
        split
        · rfl
        · exact db.ofApp price present }

/-- `app.delete` by id: the prices of the app go with it. -/
def deleteApp (id : String) : Option PriceDb :=
  if (db.apps.find? id).isSome then
    some
      { db.erasePrices fun price => price.appId = id with
        apps := db.apps.erase id
        ofApp := by
          intro price present
          obtain ⟨before, elsewhere⟩ := List.mem_filter.mp present
          have different : price.appId ≠ id := by simpa using elsewhere
          rw [Table.find?_erase, if_neg different]
          exact db.ofApp price before }
  else none

end PriceDb

/-! ## What a refresh reports -/

/-- The value of a field of the facts. -/
inductive FactValue
  | text (value : String)
  | number (value : Int)
  | flag (value : Bool)
  deriving DecidableEq

/-- `String(value)`. -/
def FactValue.string : FactValue → String
  | .text value => value
  | .number value => toString value
  | .flag value => toString value

/-- The facts by key, in the order of `Object.keys`. -/
def PriceFacts.fields (facts : PriceFacts) : List (String × FactValue) :=
  [("stripeProductId", .text facts.stripeProductId),
    ("productName", .text facts.productName),
    ("unitAmount", .number facts.unitAmount),
    ("currency", .text facts.currency),
    ("interval", .text facts.interval),
    ("intervalCount", .number facts.intervalCount),
    ("livemode", .flag facts.livemode)]

/-- `changed` of `refreshPrice`. -/
def PriceFacts.changes (before after : PriceFacts) : List String :=
  ((before.fields.zip after.fields).filter fun pair =>
    pair.1.2 ≠ pair.2.2).map fun pair =>
      pair.1.1 ++ ": " ++ pair.1.2.string ++ " → " ++ pair.2.2.string

/-! ## Calls -/

structure AddPriceDto where
  stripePriceId : String
  tier : String
  sortOrder : Option Int
  deriving DecidableEq

/-- What the console asks for, and the statements that create and delete an
app. -/
inductive PriceRequest
  | add (appId : String) (dto : AddPriceDto)
  | refresh (appId priceId : String)
  | remove (appId priceId : String)
  | createApp (app : CatalogueApp)
  | deleteApp (id : String)
  deriving DecidableEq

/-- What a call returns. -/
inductive PriceAnswer
  | added (price : AppPrice)
  | refreshed (updated : AppPrice) (changed : List String)
  | ok
  deriving DecidableEq

/-- What a statement is told from outside: the id that a new row gets, what
Stripe answers, and whether the index rows of a written row fit their pages. -/
structure Outside where
  newId : String
  retrieved : Option StripePrice
  indexed : Bool

/-- Where a call stands: the statement or the request that it waits for. -/
inductive PricePhase
  -- addPrice
  | findApp (appId : String) (dto : AddPriceDto)
  | describe (appId : String) (dto : AddPriceDto)
  | findOwner (appId : String) (dto : AddPriceDto) (facts : PriceFacts)
  | findClash (appId : String) (dto : AddPriceDto) (facts : PriceFacts)
  | create (appId : String) (dto : AddPriceDto) (facts : PriceFacts)
  | findAppAgain (price : AppPrice)
  | recordAdded (app : CatalogueApp) (price : AppPrice)
  -- refreshPrice
  | findRefreshingApp (appId priceId : String)
  | findPrice (app : CatalogueApp) (priceId : String)
  | describeAgain (app : CatalogueApp) (price : AppPrice)
  | findOther (app : CatalogueApp) (price : AppPrice) (facts : PriceFacts)
  | update (app : CatalogueApp) (price : AppPrice) (facts : PriceFacts)
  | recordRefreshed (app : CatalogueApp) (price updated : AppPrice)
      (changed : List String)
  -- removePrice
  | findRemovingApp (appId priceId : String)
  | findDoomed (app : CatalogueApp) (priceId : String)
  | delete (app : CatalogueApp) (price : AppPrice)
  | recordRemoved (app : CatalogueApp) (price : AppPrice)
  -- AppsService.create and purge
  | createApp (app : CatalogueApp)
  | deleteApp (id : String)
  | settled (succeeded : Bool)
  | done (outcome : Except PriceError PriceAnswer)
  /-- A request that failed or a server that stopped. -/
  | givenUp
  deriving DecidableEq

namespace PricePhase

def appMissing : PricePhase :=
  .done (.error (.notFound "App not found"))

def priceMissing : PricePhase :=
  .done (.error (.notFound "Price not found"))

/-- The row of `addPrice`. -/
def newPrice (id appId : String) (dto : AddPriceDto) (facts : PriceFacts) :
    AppPrice where
  id := id
  appId := appId
  stripePriceId := dto.stripePriceId
  tier := dto.tier
  sortOrder := dto.sortOrder.getD 0
  sellable := true
  trialDays := 0
  stripeProductId := facts.stripeProductId
  productName := facts.productName
  unitAmount := facts.unitAmount
  currency := facts.currency
  interval := facts.interval
  intervalCount := facts.intervalCount
  livemode := facts.livemode

/-- The conflict with the row that has the price already. -/
def owned (db : PriceDb) (appId : String) (owner : AppPrice) : PricePhase :=
  .done (.error (.conflict
    (if owner.appId = appId then
      "That price is already registered for this app as \"" ++ owner.tier ++ "\""
    else
      "That price already belongs to \"" ++
        ((db.apps.find? owner.appId).map CatalogueApp.name).getD "" ++ "\"")))

/-- What an app already sells on these terms. -/
def clashing (tier : String) (facts : PriceFacts) : PricePhase :=
  .done (.error (.conflict ("This app already sells \"" ++ tier ++
    "\" every " ++ toString facts.intervalCount ++ " " ++ facts.interval)))

/-- What another row of the app is already sold on. -/
def overlapping (price : AppPrice) (facts : PriceFacts) : PricePhase :=
  .done (.error (.conflict ("Stripe bills \"" ++ price.stripePriceId ++
    "\" every " ++ toString facts.intervalCount ++ " " ++ facts.interval ++
    ", which this app already sells \"" ++ price.tier ++
    "\" at. Remove one of the two.")))

/-- A refresh after `describePrice`. -/
def described (app : CatalogueApp) (price : AppPrice) (facts : PriceFacts) :
    PricePhase :=
  if facts.interval ≠ price.interval ∨
      facts.intervalCount ≠ price.intervalCount then
    .findOther app price facts
  else
    .update app price facts

/-- A request to Stripe, which is not made without a key. -/
def asking (configured : Bool) (next : PricePhase) : PricePhase :=
  if configured then next else .done (.error priceUnreadable)

/-- The texts that a statement sends. -/
def texts (outside : Outside) : PricePhase → List String
  | .findApp appId _ => [appId]
  | .findOwner _ dto _ => [dto.stripePriceId]
  | .findClash appId dto facts => [appId, dto.tier, facts.interval]
  | .create appId dto facts =>
      outside.newId :: appId :: dto.stripePriceId :: dto.tier :: facts.texts
  | .findAppAgain price => [price.appId]
  | .recordAdded app price =>
      [app.clientId, price.tier, price.stripePriceId, price.interval]
  | .findRefreshingApp appId _ => [appId]
  | .findPrice _ priceId => [priceId]
  | .findOther app price facts => [app.id, price.tier, facts.interval]
  | .update _ price facts => price.id :: facts.texts
  | .recordRefreshed app price _ changed =>
      app.clientId :: price.tier :: price.stripePriceId :: changed
  | .findRemovingApp appId _ => [appId]
  | .findDoomed _ priceId => [priceId]
  | .delete _ price => [price.id]
  | .recordRemoved app price =>
      [app.clientId, price.tier, price.stripePriceId]
  | .createApp app => [app.id, app.clientId, app.name]
  | .deleteApp id => [id]
  | _ => []

/-- The numbers that a statement sends to `INTEGER` columns. -/
def numbers : PricePhase → List Int
  | .findClash _ _ facts => [facts.intervalCount]
  | .create _ dto facts => dto.sortOrder.getD 0 :: facts.numbers
  | .findOther _ _ facts => [facts.intervalCount]
  | .update _ _ facts => facts.numbers
  | _ => []

/-- A statement that enters a row into the indexes. -/
def indexes : PricePhase → Bool
  | .create .. => true
  | .update .. => true
  | .createApp _ => true
  | _ => false

/-- The columns and their indexes take what a statement sends. -/
def Sendable (outside : Outside) (phase : PricePhase) : Prop :=
  (∀ text ∈ phase.texts outside, Storable text) ∧
    (∀ number ∈ phase.numbers, FitsInteger number) ∧
      (phase.indexes = true → outside.indexed = true)

instance (outside : Outside) (phase : PricePhase) :
    Decidable (phase.Sendable outside) :=
  inferInstanceAs (Decidable (_ ∧ _ ∧ _))

/-- Where a call ends whose statement was refused. -/
def refused : PricePhase → PricePhase
  | .createApp _ => .settled false
  | .deleteApp _ => .settled false
  | _ => .done (.error .internal)

/-- The statement or request that a call waits for, when its values are
taken. -/
def carryOut (configured : Bool) (outside : Outside) (db : PriceDb) :
    PricePhase → PriceDb × PricePhase
  | .findApp appId dto =>
      match db.apps.find? appId with
      | none => (db, appMissing)
      | some _ => (db, asking configured (.describe appId dto))
  | .describe appId dto =>
      match describePrice dto.stripePriceId outside.retrieved with
      | .error error => (db, .done (.error error))
      | .ok facts => (db, .findOwner appId dto facts)
  | .findOwner appId dto facts =>
      match db.prices.findBy AppPrice.idColumn dto.stripePriceId with
      | some owner => (db, owned db appId owner)
      | none => (db, .findClash appId dto facts)
  | .findClash appId dto facts =>
      match db.prices.findBy AppPrice.slotColumn
          (appId, dto.tier, facts.interval, facts.intervalCount) with
      | some _ => (db, clashing dto.tier facts)
      | none => (db, .create appId dto facts)
  | .create appId dto facts =>
      let price := newPrice outside.newId appId dto facts
      match db.createPrice price with
      | none => (db, .done (.error .internal))
      | some after => (after, .findAppAgain price)
  | .findAppAgain price =>
      match db.apps.find? price.appId with
      | none => (db, appMissing)
      | some app => (db, .recordAdded app price)
  | .recordAdded app price =>
      (db.record
        (.added app.clientId price.tier price.stripePriceId price.interval),
        .done (.ok (.added price)))
  | .findRefreshingApp appId priceId =>
      match db.apps.find? appId with
      | none => (db, appMissing)
      | some app => (db, .findPrice app priceId)
  | .findPrice app priceId =>
      match (db.prices.find? priceId).filter fun price =>
          price.appId = app.id with
      | none => (db, priceMissing)
      | some price => (db, asking configured (.describeAgain app price))
  | .describeAgain app price =>
      match describePrice price.stripePriceId outside.retrieved with
      | .error error => (db, .done (.error error))
      | .ok facts => (db, described app price facts)
  | .findOther app price facts =>
      match (db.prices.findBy AppPrice.slotColumn
          (app.id, price.tier, facts.interval, facts.intervalCount)).filter
            fun clash => clash.id ≠ price.id with
      | some _ => (db, overlapping price facts)
      | none => (db, .update app price facts)
  | .update app price facts =>
      match db.updatePrice price.id facts with
      | none => (db, .done (.error .internal))
      | some (after, updated) => (after,
          .recordRefreshed app price updated (price.facts.changes facts))
  | .recordRefreshed app price updated changed =>
      (db.record
        (.refreshed app.clientId price.tier price.stripePriceId changed),
        .done (.ok (.refreshed updated changed)))
  | .findRemovingApp appId priceId =>
      match db.apps.find? appId with
      | none => (db, appMissing)
      | some app => (db, .findDoomed app priceId)
  | .findDoomed app priceId =>
      match (db.prices.find? priceId).filter fun price =>
          price.appId = app.id with
      | none => (db, priceMissing)
      | some price => (db, .delete app price)
  | .delete app price =>
      match db.deletePrice price.id with
      | none => (db, .done (.error .internal))
      | some after => (after, .recordRemoved app price)
  | .recordRemoved app price =>
      (db.record (.removed app.clientId price.tier price.stripePriceId),
        .done (.ok .ok))
  | .createApp app =>
      match db.createApp app with
      | none => (db, .settled false)
      | some after => (after, .settled true)
  | .deleteApp id =>
      match db.deleteApp id with
      | none => (db, .settled false)
      | some after => (after, .settled true)
  | .settled succeeded => (db, .settled succeeded)
  | .done outcome => (db, .done outcome)
  | .givenUp => (db, .givenUp)

/-- The statement or request that a call waits for. -/
def step (configured : Bool) (outside : Outside) (db : PriceDb)
    (phase : PricePhase) : PriceDb × PricePhase :=
  if phase.Sendable outside then phase.carryOut configured outside db
  else (db, phase.refused)

section Steps

variable {configured : Bool} {outside : Outside} {db : PriceDb}
  {phase : PricePhase}

theorem step_of_sendable (sendable : phase.Sendable outside) :
    phase.step configured outside db = phase.carryOut configured outside db :=
  if_pos sendable

/-- A statement is carried out or refused. -/
theorem step_cases (configured : Bool) (outside : Outside) (db : PriceDb)
    (phase : PricePhase) :
    phase.step configured outside db = phase.carryOut configured outside db ∨
      phase.step configured outside db = (db, phase.refused) :=
  ite_eq_or_eq _ _ _

/-- A call whose statement is refused has ended. -/
theorem refused_cases (phase : PricePhase) :
    phase.refused = .settled false ∨
      phase.refused = .done (.error .internal) := by
  cases phase <;> simp [refused]

end Steps

end PricePhase

def PriceRequest.begins : PriceRequest → PricePhase
  | .add appId dto => .findApp appId dto
  | .refresh appId priceId => .findRefreshingApp appId priceId
  | .remove appId priceId => .findRemovingApp appId priceId
  | .createApp app => .createApp app
  | .deleteApp id => .deleteApp id

/-- A call that ends early. -/
def PricePhase.abandoned : PricePhase → PricePhase
  | .done outcome => .done outcome
  | .settled succeeded => .settled succeeded
  | _ => .givenUp

/-- The calls of the console on the catalogue. -/
def priceCalls (configured : Bool) :
    Program PriceDb PriceRequest Outside PricePhase where
  begins := PriceRequest.begins
  step outside db phase := phase.step configured outside db
  abandoned := PricePhase.abandoned

end Apps
end EvoPlatform
