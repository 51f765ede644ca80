import EvoPlatform.Foundation.Calendar
import EvoPlatform.Foundation.Responses
import EvoPlatform.Foundation.Tally
import EvoPlatform.Revenue.StripeHealth

/-!
# Revenue figures

`RevenueService`: the figures of a year, pulled from Stripe, and their split by
tenant.  Amounts are whole minor units.  Currencies are codes and customers are
ids of Stripe, none of which is the name of a member that every object has.
-/

namespace EvoPlatform
namespace Revenue

open Calendar

/-! ## What Stripe lists -/

/-- A customer, by id or expanded. -/
inductive CustomerRef
  | id (id : String)
  | expanded (id : String)

/-- A charge, by id or expanded with its customer. -/
inductive ChargeRef
  | id (id : String)
  | expanded (customer : Option CustomerRef)

structure Invoice where
  status : String
  created : Int
  /-- `status_transitions?.paid_at`. -/
  paid_at : Option Int
  currency : String
  amount_paid : Nat
  tax : Option Int
  customer : Option CustomerRef

structure Refund where
  status : Option String
  created : Int
  currency : String
  amount : Nat
  charge : Option ChargeRef

structure Price where
  id : String
  nickname : Option String
  /-- `recurring?.interval`. -/
  interval : Option String

structure Subscription where
  status : String
  trial_end : Option Int
  canceled_at : Option Int
  items : List Price

/-- A row of `appPrice`, with the name of its app. -/
structure AppPrice where
  stripePriceId : String
  tier : String
  appName : String

/-! ## The snapshot -/

abbrev CurrencyAmounts := Tally String

abbrev MonthlyAmounts := Sheet String String

structure SubscriptionFigures where
  total : Nat
  byStatus : Tally String
  byPlan : Tally String
  byInterval : Tally String
  canceledDuringTrial : Nat

structure BilledFigures where
  grossByMonth : MonthlyAmounts
  grossYtd : CurrencyAmounts
  taxYtd : CurrencyAmounts
  refundsByMonth : MonthlyAmounts
  refundsYtd : CurrencyAmounts
  netYtd : CurrencyAmounts
  grossByCustomer : Sheet String String
  refundsByCustomer : Sheet String String

structure RevenueSnapshot where
  fetchedAt : String
  yearStart : String
  subscriptions : SubscriptionFigures
  billed : BilledFigures

structure RevenueReport where
  stale : Bool
  health : StripeHealth
  snapshot : Option RevenueSnapshot

/-! ## Subscriptions -/

/-- A plan, as it is counted. -/
structure Plan where
  app : String
  plan : String
  interval : String
  deriving DecidableEq

/-- What a price sells, by the registry, in which the last row of a price
counts. -/
def soldAs (prices : List AppPrice) (price : Price) : Plan :=
  let sold := prices.reverse.find? fun row => row.stripePriceId = price.id
  ⟨(sold.map AppPrice.appName).getD "unmapped",
    (sold.map AppPrice.tier).getD (price.nickname.getD price.id),
    price.interval.getD "one-time"⟩

/-- The key of a plan in `byPlan`. -/
def Plan.key (plan : Plan) : String :=
  plan.app ++ "|" ++ plan.plan ++ "|" ++ plan.interval

/-- Was a subscription canceled at or before the end of its trial? -/
def Subscription.droppedOut (subscription : Subscription) : Bool :=
  subscription.status = "canceled" &&
    subscription.trial_end.any fun trialEnd =>
      subscription.canceled_at.any fun canceledAt => canceledAt ≤ trialEnd

/-- Count a plan. -/
def addPlan (figures : SubscriptionFigures) (plan : Plan) :
    SubscriptionFigures :=
  { figures with
    byInterval := figures.byInterval.add plan.interval 1
    byPlan := figures.byPlan.add plan.key 1 }

/-- Count a subscription. -/
def addSubscription (prices : List AppPrice) (figures : SubscriptionFigures)
    (subscription : Subscription) : SubscriptionFigures :=
  let counted :=
    { figures with
      total := figures.total + 1
      byStatus := figures.byStatus.add subscription.status 1 }
  let planned := (subscription.items.map (soldAs prices)).foldl addPlan counted
  { planned with
    canceledDuringTrial := planned.canceledDuringTrial +
      if subscription.droppedOut then 1 else 0 }

/-- The loop over the subscriptions. -/
def subscriptionFigures (prices : List AppPrice)
    (subscriptions : List Subscription) : SubscriptionFigures :=
  subscriptions.foldl (addSubscription prices)
    ⟨0, Table.empty, Table.empty, Table.empty, 0⟩

/-! ## Money -/

/-- The key of a month, which is counted from zero. -/
def monthText (year : Int) (month : Nat) : String :=
  toString year ++ "-" ++ digits 2 (month + 1)

/-- The key of the month of a date in UTC. -/
def monthKey : Option Int → String
  | some time => monthText (getUTCFullYear time) (getUTCMonth time)
  | none => "NaN-NaN"

/-- The date of a number of seconds. -/
def dateOf (seconds : Int) : Option Int := timeClip (seconds * 1000)

/-- The date that an invoice is booked at. -/
def Invoice.paidAt (invoice : Invoice) : Option Int :=
  dateOf (invoice.paid_at.getD invoice.created)

def CustomerRef.customerId : CustomerRef → String
  | .id cust => cust
  | .expanded cust => cust

/-- Who paid an invoice, if that is known. -/
def Invoice.cust (invoice : Invoice) : Option String :=
  (invoice.customer.map CustomerRef.customerId).filter fun cust => cust ≠ ""

/-- Whose payment is refunded, if the charge is expanded and knows. -/
def Refund.cust (refund : Refund) : Option String :=
  match refund.charge with
  | some (.expanded customer) =>
      (customer.map CustomerRef.customerId).filter fun cust => cust ≠ ""
  | _ => none

/-- The accumulators of a loop over payments, in one direction. -/
structure Flow where
  byMonth : MonthlyAmounts
  ytd : CurrencyAmounts
  byCustomer : Sheet String String

/-- Add an amount to each accumulator that it belongs to. -/
def Flow.add (flow : Flow) (date : Option Int) (currency : String)
    (cents : Nat) (cust : Option String) : Flow where
  byMonth := flow.byMonth.add (monthKey date) currency cents
  ytd := flow.ytd.add currency cents
  byCustomer :=
    match cust with
    | some cust => flow.byCustomer.add cust currency cents
    | none => flow.byCustomer

def Flow.empty : Flow := ⟨Table.empty, Table.empty, Table.empty⟩

/-- One turn of the loop over the invoices. -/
def addInvoice (figures : Flow × CurrencyAmounts) (invoice : Invoice) :
    Flow × CurrencyAmounts :=
  (figures.1.add invoice.paidAt invoice.currency invoice.amount_paid
      invoice.cust,
    match invoice.tax with
    | some tax =>
        if tax ≠ 0 then figures.2.add invoice.currency tax else figures.2
    | none => figures.2)

def Refund.succeeded (refund : Refund) : Bool :=
  refund.status = some "succeeded"

/-- One turn of the loop over the refunds. -/
def addRefund (flow : Flow) (refund : Refund) : Flow :=
  if refund.succeeded then
    flow.add (dateOf refund.created) refund.currency refund.amount refund.cust
  else flow

/-- The two loops that make a net of gross and refunds. -/
def netOf (gross refunds : CurrencyAmounts) : CurrencyAmounts :=
  let net := gross.rows.foldl (fun net row =>
    net.put (row.1, row.2 - refunds.figure row.1)) Table.empty
  refunds.rows.foldl (fun net row =>
    -- A refund in a currency with no gross this year still belongs in net.
    if row.1 ∈ Tally.keys net then net else net.put (row.1, -row.2)) net

/-- The figures of what Stripe lists. -/
def billedFigures (invoices : List Invoice) (refunds : List Refund) :
    BilledFigures :=
  let billed := invoices.foldl addInvoice (Flow.empty, Table.empty)
  let refunded := refunds.foldl addRefund Flow.empty
  { grossByMonth := billed.1.byMonth
    grossYtd := billed.1.ytd
    taxYtd := billed.2
    refundsByMonth := refunded.byMonth
    refundsYtd := refunded.ytd
    netYtd := netOf billed.1.ytd refunded.ytd
    grossByCustomer := billed.1.byCustomer
    refundsByCustomer := refunded.byCustomer }

/-- What `subscriptions.list`, `invoices.list` and `refunds.list` yield. -/
structure Listed where
  subscriptions : List Subscription
  invoices : List Invoice
  refunds : List Refund

/-- The start of the current year. -/
def yearStart (now : Int) : Int := firstOfYear (getUTCFullYear now)

/-- `pull`. -/
def pull (prices : List AppPrice) (listed : Listed) (now : Int) :
    RevenueSnapshot where
  fetchedAt := toISOString now
  yearStart := toISOString (yearStart now)
  subscriptions := subscriptionFigures prices listed.subscriptions
  billed := billedFigures listed.invoices listed.refunds

/-- Everything that Stripe holds. -/
structure Ledger where
  subscriptions : List Subscription
  invoices : List Invoice
  refunds : List Refund

/-- The seconds from which on invoices and refunds are asked for. -/
def since (now : Int) : Int := yearStart now / 1000

/-- What Stripe yields to the requests of `pull`. -/
def Ledger.listed (ledger : Ledger) (now : Int) : Listed where
  subscriptions := ledger.subscriptions
  invoices := ledger.invoices.filter fun invoice =>
    invoice.status = "paid" && since now ≤ invoice.created
  refunds := ledger.refunds.filter fun refund => since now ≤ refund.created

/-- `report`, with the last good snapshot before and after. -/
def report (lastGood : Option RevenueSnapshot) (health : StripeHealth)
    (pulled : Except String RevenueSnapshot) :
    Option RevenueSnapshot × Except String RevenueReport :=
  if health.state = .unconfigured then
    (lastGood, .error "Stripe is not configured on this deployment.")
  else
    match pulled with
    | .ok snapshot => (some snapshot, .ok ⟨false, health, some snapshot⟩)
    | .error _ => (lastGood, .ok ⟨true, health, lastGood⟩)

/-! ## Stale reports -/

/-- The snapshots that were pulled, over a sequence of reports. -/
def pulledBy (calls : List (StripeHealth × Except String RevenueSnapshot)) :
    List RevenueSnapshot :=
  calls.filterMap fun call =>
    if call.1.state = .unconfigured then none else call.2.toOption

/-- What is kept is the last snapshot that was pulled. -/
theorem after_report
    (calls : List (StripeHealth × Except String RevenueSnapshot))
    (lastGood : Option RevenueSnapshot) :
    after (fun lastGood call => report lastGood call.1 call.2) lastGood calls =
      (pulledBy calls).getLast?.or lastGood := by
  induction calls generalizing lastGood with
  | nil => simp [pulledBy]
  | cons call calls inductionHypothesis =>
      obtain ⟨health, pulled⟩ := call
      rw [after_cons, inductionHypothesis]
      by_cases unconfigured : health.state = .unconfigured
      · simp [report, pulledBy, unconfigured]
      · cases pulled with
        | error error => simp [report, pulledBy, unconfigured, Except.toOption]
        | ok snapshot =>
            simp only [report, pulledBy, unconfigured, if_false,
              List.filterMap_cons, Except.toOption, List.getLast?_cons]
            cases (List.filterMap _ calls).getLast? <;> rfl

/-- Whatever was pulled before, a report shows the last snapshot that was pulled,
and is stale if its own pull failed. -/
theorem report_snapshot
    {calls : List (StripeHealth × Except String RevenueSnapshot)}
    {health : StripeHealth}
    {pulled : Except String RevenueSnapshot}
    {shown : RevenueReport}
    (answered : (report
      (after (fun lastGood call => report lastGood call.1 call.2) none calls)
      health pulled).2 = .ok shown) :
    shown.snapshot = (pulledBy (calls ++ [(health, pulled)])).getLast? ∧
      (shown.stale = true ↔ pulled.toOption = none) := by
  rw [after_report] at answered
  unfold report at answered
  split at answered
  · contradiction
  · rename_i configured
    cases pulled with
    | error error =>
        obtain rfl := Except.ok.inj answered
        simp [pulledBy, Except.toOption]
    | ok snapshot =>
        obtain rfl := Except.ok.inj answered
        simp [pulledBy, configured, Except.toOption]

/-! ## Tenants -/

/-- An app of a tenant. -/
structure AppTenant where
  app : String
  plan : String
  status : String
  stripeSubscriptionId : Option String

structure Tenant where
  id : String
  slug : String
  name : String
  stripeCustomerId : Option String
  appTenants : List AppTenant

structure TenantSubscription where
  app : String
  plan : String
  status : String

structure TenantRevenue where
  tenantId : String
  slug : String
  name : String
  stripeCustomerId : String
  grossYtd : CurrencyAmounts
  refundsYtd : CurrencyAmounts
  netYtd : CurrencyAmounts
  subscriptions : List TenantSubscription

def sumCents (amounts : CurrencyAmounts) : Int :=
  (amounts.rows.map Prod.snd).sum

/-- The customers of the figures, each once. -/
def customerIds (billed : BilledFigures) : List String :=
  (billed.grossByCustomer.keys ++
    billed.refundsByCustomer.keys.filter fun cust =>
      cust ∉ billed.grossByCustomer.keys)

/-- The row of a customer. -/
def tenantRow (billed : BilledFigures) (tenants : List Tenant)
    (cust : String) : TenantRevenue :=
  let t := tenants.reverse.find? fun tenant =>
    tenant.stripeCustomerId = some cust
  let grossYtd := billed.grossByCustomer.tally cust
  let refundsYtd := billed.refundsByCustomer.tally cust
  { tenantId := (t.map Tenant.id).getD ""
    slug := (t.map Tenant.slug).getD ""
    name := (t.map Tenant.name).getD ("(no tenant for " ++ cust ++ ")")
    stripeCustomerId := cust
    grossYtd := grossYtd
    refundsYtd := refundsYtd
    netYtd := netOf grossYtd refundsYtd
    subscriptions :=
      (((t.map Tenant.appTenants).getD []).filter fun appTenant =>
        appTenant.stripeSubscriptionId.isSome).map fun appTenant =>
          ⟨appTenant.app, appTenant.plan, appTenant.status⟩ }

/-- `byTenant`. -/
def byTenant (report : RevenueReport) (tenants : List Tenant) :
    Bool × List TenantRevenue :=
  match report.snapshot with
  | none => (report.stale, [])
  | some snapshot =>
      let customers := customerIds snapshot.billed
      let found := tenants.filter fun tenant =>
        tenant.stripeCustomerId.any fun cust => cust ∈ customers
      let rows := customers.map (tenantRow snapshot.billed found)
      -- Biggest payer first.
      (report.stale, rows.mergeSort fun first second =>
        sumCents second.netYtd ≤ sumCents first.netYtd)

end Revenue
end EvoPlatform
