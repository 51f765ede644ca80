import EvoPlatform.Auth.Accounts
import EvoPlatform.Foundation.Pool

/-!
# Checkout and portal

An app asks for a session at Stripe on behalf of a workspace.  Each phase of a
call is a statement on the database or a request to Stripe that it waits for;
what Stripe mints is an input of the step.  A statement or a request that fails
ends the call where it stands.
-/

namespace EvoPlatform
namespace Billing

open Auth

/-- The Stripe mode of the deployment, read from the prefix of its key. -/
inductive StripeMode
  | unset
  | test
  | live
  deriving DecidableEq

def StripeMode.text : StripeMode → String
  | .unset => "unset"
  | .test => "test"
  | .live => "live"

/-- What a deployment fixes for these calls. -/
structure CheckoutEnv where
  /-- There is a Stripe client. -/
  configured : Bool
  mode : StripeMode
  /-- `new URL(url).origin`, missing if it throws. -/
  originOf : String → Option String

/-- The calling app, as `ClientGuard` attaches it to the request. -/
structure CallingApp where
  id : String
  clientId : String
  callbackUrls : List String
  deriving DecidableEq

structure CheckoutDto where
  tenantId : String
  priceId : Option String
  tier : Option String
  interval : Option String
  intervalCount : Option Int
  quantity : Option Nat
  successUrl : String
  cancelUrl : String
  deriving DecidableEq

structure PortalDto where
  tenantId : String
  returnUrl : String
  deriving DecidableEq

/-- A row of the `app_prices` table, as a checkout reads it. -/
structure CataloguePrice where
  appId : String
  stripePriceId : String
  tier : String
  livemode : Bool
  interval : String
  intervalCount : Int
  trialDays : Int
  deriving DecidableEq

/-- A row of the `tenants` table, as a checkout reads it. -/
structure Customer where
  id : String
  slug : String
  name : String
  stripeCustomerId : Option String
  deletedAt : Option Nat
  deriving DecidableEq

/-- A customer object at Stripe, with the metadata it was created with. -/
structure StripeCustomer where
  id : String
  name : String
  tenantId : String
  slug : String
  deriving DecidableEq

/-- How the webhook will route what the customer pays for. -/
structure RoutingMetadata where
  tenantId : String
  appId : String
  appClientId : String
  tier : String
  deriving DecidableEq

/-- What a checkout session sells. -/
inductive SessionTerms
  | payment (metadata : RoutingMetadata)
  | subscription (metadata : RoutingMetadata) (trialPeriodDays : Option Int)
  deriving DecidableEq

/-- A session at Stripe. -/
inductive StripeSession
  | checkout (terms : SessionTerms) (customer price : String) (quantity : Nat)
      (successUrl cancelUrl : String)
  | portal (customer returnUrl : String)
  deriving DecidableEq

/-- The customer that a session is opened on. -/
def StripeSession.customer : StripeSession → String
  | .checkout _ customer .. => customer
  | .portal customer _ => customer

/-- The database and Stripe, as far as these calls go. -/
structure Storefront where
  prices : List CataloguePrice
  /-- The keys of the `app_tenants` table. -/
  enabled : List (String × String)
  tenants : Table Customer.id
  /-- The customers that Stripe has. -/
  customers : List StripeCustomer
  /-- The sessions that the calls have opened. -/
  sessions : List StripeSession

/-- What a call throws. -/
inductive CheckoutError
  | badRequest (message : String)
  | forbidden (message : String)
  | notFound (message : String)
  | serviceUnavailable (message : String)
  /-- A failed statement, answered with status 500. -/
  | internal
  deriving DecidableEq

/-- A one-time price bills in Stripe's payment mode and never renews. -/
def once : String := "once"

/-! ## The price -/

section Price

variable (env : CheckoutEnv)

/-- `assertPriceMode`. -/
def assertPriceMode (price : CataloguePrice) : Except CheckoutError Unit :=
  if env.mode = .unset then
    .ok ()
  else if price.livemode ≠ decide (env.mode = .live) then
    .error (.badRequest
      ("Price \"" ++ price.stripePriceId ++ "\" is a " ++
        (if price.livemode then "live" else "test") ++
        " price, but this deployment is running " ++ env.mode.text ++
        " keys. Register the " ++ env.mode.text ++ " price for this tier."))
  else
    .ok ()

/-- A price that was selected, if its mode is that of the deployment. -/
def vetted (price : CataloguePrice) : Except CheckoutError CataloguePrice := do
  assertPriceMode env price
  return price

/-- `resolvePrice`, with what `findMany` returns. -/
def resolvePrice (prices : List CataloguePrice) (dto : CheckoutDto) :
    Except CheckoutError CataloguePrice :=
  match prices with
  | [] => .error (.badRequest "This app has no Stripe prices configured")
  | first :: others =>
      match given dto.priceId, given dto.tier with
      | some priceId, _ =>
          match prices.find? fun price => price.stripePriceId = priceId with
          | none => .error (.badRequest
              "priceId is not one of this app's registered prices")
          | some price => vetted env price
      | none, some tier =>
          let interval := dto.interval.getD "month"
          let count := dto.intervalCount.getD 1
          match prices.find? fun price => price.tier = tier &&
              price.interval = interval && price.intervalCount = count with
          | none => .error (.badRequest
              ("This app has no \"" ++ tier ++ "\" price billed every " ++
                toString count ++ " " ++ interval))
          | some price => vetted env price
      | none, none =>
          if others = [] then
            vetted env first
          else
            .error (.badRequest ("Specify tier (or priceId): this app sells " ++
              "more than one price"))

end Price

/-! ## What is asked of Stripe -/

/-- `assertRedirectAllowed`. -/
def assertRedirectAllowed (env : CheckoutEnv) (app : CallingApp)
    (url : String) : Except CheckoutError Unit :=
  match env.originOf url with
  | none => .error (.badRequest ("Invalid redirect URL \"" ++ url ++ "\""))
  | some origin =>
      if app.callbackUrls.any fun callback =>
          env.originOf callback = some origin then
        .ok ()
      else
        .error (.badRequest ("Redirect origin " ++ origin ++
          " is not registered as a callback URL for this app"))

/-- What a call is for. -/
inductive Purpose
  | checkout (dto : CheckoutDto) (price : CataloguePrice)
  | portal (dto : PortalDto)
  deriving DecidableEq

namespace Purpose

def tenantId : Purpose → String
  | .checkout dto _ => dto.tenantId
  | .portal dto => dto.tenantId

/-- The redirect targets, in the order in which they are checked. -/
def redirects : Purpose → List String
  | .checkout dto _ => [dto.successUrl, dto.cancelUrl]
  | .portal dto => [dto.returnUrl]

/-- What `checkout.sessions.create` or `billingPortal.sessions.create` is asked
for. -/
def session (app : CallingApp) (customer : String) : Purpose → StripeSession
  | .checkout dto price =>
      let metadata : RoutingMetadata :=
        { tenantId := dto.tenantId
          appId := app.id
          appClientId := app.clientId
          tier := price.tier }
      let terms : SessionTerms :=
        if price.interval = once then
          .payment metadata
        else
          .subscription metadata
            (if price.trialDays > 0 then some price.trialDays else none)
      .checkout terms customer price.stripePriceId (dto.quantity.getD 1)
        dto.successUrl dto.cancelUrl
  | .portal dto => .portal customer dto.returnUrl

@[simp] theorem customer_session
    (app : CallingApp)
    (customer : String)
    (purpose : Purpose) :
    (purpose.session app customer).customer = customer := by
  cases purpose <;> rfl

end Purpose

/-! ## Calls -/

/-- A request of an app. -/
inductive CheckoutRequest
  | checkout (dto : CheckoutDto) (app : CallingApp)
  | portal (dto : PortalDto) (app : CallingApp)
  deriving DecidableEq

def CheckoutRequest.tenantId : CheckoutRequest → String
  | .checkout dto _ => dto.tenantId
  | .portal dto _ => dto.tenantId

/-- What Stripe mints when it is asked. -/
structure Minted where
  customerId : String
  url : Option String

/-- Where a call stands: the statement or the request that it waits for. -/
inductive CheckoutPhase
  | findPrices (dto : CheckoutDto) (app : CallingApp)
  /-- `requireRelationship`. -/
  | findRelationship (purpose : Purpose) (app : CallingApp)
  /-- `ensureCustomer` reads the tenant. -/
  | findTenant (purpose : Purpose) (app : CallingApp)
  /-- `ensureCustomer` asks Stripe for a customer. -/
  | createCustomer (purpose : Purpose) (app : CallingApp) (tenant : Customer)
  /-- `ensureCustomer` stores the customer. -/
  | storeCustomer (purpose : Purpose) (app : CallingApp) (tenantId : String)
      (customer : String)
  | openSession (purpose : Purpose) (app : CallingApp) (customer : String)
  | done (outcome : Except CheckoutError (Option String))
  /-- A request that failed or a server that stopped, with the customer that
  Stripe has created for the call and the call has not stored. -/
  | givenUp (lost : Option String)
  deriving DecidableEq

namespace Storefront

variable (front : Storefront)

/-- `tenant.update` of the customer id. -/
def storeCustomer (tenantId customer : String) : Option Storefront :=
  (front.tenants.find? tenantId).bind fun tenant =>
    let written : Customer := { tenant with stripeCustomerId := some customer }
    if front.tenants.rows.any fun other =>
        other.id ≠ tenantId && other.stripeCustomerId = some customer then
      none
    else
      some { front with tenants := front.tenants.put written }

end Storefront

namespace CheckoutPhase

variable (env : CheckoutEnv)

/-- `requireStripe`, and what follows it. -/
def withStripe (next : CheckoutPhase) : CheckoutPhase :=
  if env.configured then
    next
  else
    .done (.error (.serviceUnavailable
      "Billing is not configured (STRIPE_SECRET_KEY unset)"))

/-- `ensureCustomer`, with the tenant that `findUnique` returns. -/
def ensureCustomer (purpose : Purpose) (app : CallingApp) :
    Option Customer → CheckoutPhase
  | none => .done (.error (.notFound "Tenant not found"))
  | some tenant =>
      if tenant.deletedAt.isSome then
        .done (.error (.notFound "Tenant not found"))
      else
        match given tenant.stripeCustomerId with
        | some customer => withStripe env (.openSession purpose app customer)
        | none => withStripe env (.createCustomer purpose app tenant)

/-- The statement or request that a call waits for. -/
def step (minted : Minted) (front : Storefront) :
    CheckoutPhase → Storefront × CheckoutPhase
  | .findPrices dto app =>
      let prices := front.prices.filter fun price => price.appId = app.id
      match resolvePrice env prices dto with
      | .error error => (front, .done (.error error))
      | .ok price => (front, .findRelationship (.checkout dto price) app)
  | .findRelationship purpose app =>
      if (purpose.tenantId, app.id) ∈ front.enabled then
        match purpose.redirects.forM (assertRedirectAllowed env app) with
        | .error error => (front, .done (.error error))
        | .ok () => (front, .findTenant purpose app)
      else
        (front, .done (.error (.forbidden
          "App is not enabled for this workspace")))
  | .findTenant purpose app =>
      (front, ensureCustomer env purpose app
        (front.tenants.find? purpose.tenantId))
  | .createCustomer purpose app tenant =>
      let customer : StripeCustomer :=
        { id := minted.customerId
          name := tenant.name
          tenantId := tenant.id
          slug := tenant.slug }
      ({ front with customers := front.customers ++ [customer] },
        .storeCustomer purpose app tenant.id customer.id)
  | .storeCustomer purpose app tenantId customer =>
      match front.storeCustomer tenantId customer with
      | none => (front, .done (.error .internal))
      | some after => (after, .openSession purpose app customer)
  | .openSession purpose app customer =>
      ({ front with
          sessions := front.sessions ++ [purpose.session app customer] },
        .done (.ok minted.url))
  | .done outcome => (front, .done outcome)
  | .givenUp lost => (front, .givenUp lost)

end CheckoutPhase

/-- `checkout` and `portal`. -/
def CheckoutRequest.begins : CheckoutRequest → CheckoutPhase
  | .checkout dto app => .findPrices dto app
  | .portal dto app => .findRelationship (.portal dto) app

/-- A call that ends early. -/
def CheckoutPhase.abandoned : CheckoutPhase → CheckoutPhase
  | .done outcome => .done outcome
  | .givenUp lost => .givenUp lost
  | .storeCustomer _ _ _ customer => .givenUp (some customer)
  | _ => .givenUp none

/-- The calls of the apps. -/
def checkouts (env : CheckoutEnv) :
    Program Storefront CheckoutRequest Minted CheckoutPhase where
  begins := CheckoutRequest.begins
  step minted front phase := phase.step env minted front
  abandoned := CheckoutPhase.abandoned

end Billing
end EvoPlatform
