import EvoPlatform.Billing.Records
import Mathlib.Logic.Function.Iterate

/-!
# The Stripe webhook

`BillingService.handleEvent`, one database statement at a time.  A phase is a
point at which the call waits for a statement, with what it has read so far.
PostgreSQL refuses a statement that carries a text with a U+0000, and the call
throws unless the refusal is one that the handler catches.
-/

namespace EvoPlatform
namespace Billing

open Auth

/-! ## Events -/

/-- The metadata that checkout stamps on an object. -/
structure Metadata where
  tenantId : Option String
  appId : Option String
  tier : Option String

/-- `meta.tenantId && meta.appId`. -/
def Metadata.pair (metadata : Metadata) : Option (String × String) :=
  match given metadata.tenantId, given metadata.appId with
  | some tenantId, some appId => some (tenantId, appId)
  | _, _ => none

theorem Metadata.of_pair
    {metadata : Metadata}
    {key : String × String}
    (named : metadata.pair = some key) :
    metadata.tenantId = some key.1 ∧ metadata.appId = some key.2 := by
  unfold Metadata.pair at named
  split at named
  · rename_i tenantId appId isTenant isApp
    obtain rfl := Option.some.inj named
    exact ⟨eq_of_given isTenant, eq_of_given isApp⟩
  · contradiction

/-- A Stripe subscription. -/
structure Subscription where
  id : String
  status : SubscriptionStatus
  metadata : Option Metadata
  /-- The ids of the prices of its items. -/
  prices : List String

/-- `sub.metadata ?? \x7b\x7d`. -/
def Subscription.meta (sub : Subscription) : Metadata :=
  sub.metadata.getD ⟨none, none, none⟩

/-- A reference to a subscription in an invoice. -/
inductive SubscriptionRef
  | id (id : String)
  | expanded (id : String)

/-- A Stripe invoice. -/
structure Invoice where
  subscription : Option SubscriptionRef
  /-- `parent.subscription_details.subscription`, the newer shape. -/
  parentSubscription : Option SubscriptionRef

/-- `invoiceSubscriptionId`. -/
def invoiceSubscriptionId (invoice : Invoice) : Option String :=
  match invoice.subscription.or invoice.parentSubscription with
  | none => none
  | some (.id id) => some id
  | some (.expanded id) => some id

inductive SessionMode
  | payment
  | setup
  | subscription
  deriving DecidableEq

inductive PaymentStatus
  | paid
  | unpaid
  | noPaymentRequired
  deriving DecidableEq

/-- A Stripe checkout session. -/
structure Session where
  id : String
  mode : SessionMode
  paymentStatus : PaymentStatus
  metadata : Option Metadata

/-- `session.metadata ?? \x7b\x7d`. -/
def Session.meta (session : Session) : Metadata :=
  session.metadata.getD ⟨none, none, none⟩

/-- A verified event. -/
inductive StripeEvent
  | subscriptionCreated (sub : Subscription)
  | subscriptionUpdated (sub : Subscription)
  | subscriptionDeleted (sub : Subscription)
  | invoicePaid (invoice : Invoice)
  | invoicePaymentFailed (invoice : Invoice)
  | checkoutCompleted (session : Session)
  /-- An event of another type. -/
  | other (type : String)

/-! ## What an event asks for -/

/-- The configuration that billing reads. -/
structure BillingEnv where
  graceDays : Nat

/-- `graceDeadline`. -/
def BillingEnv.graceDeadline (env : BillingEnv) (now : Nat) : Nat :=
  now + env.graceDays * 86400000

theorem BillingEnv.graceDeadline_lt
    (env : BillingEnv)
    {earlier later : Nat}
    (isLater : earlier < later) :
    env.graceDeadline earlier < env.graceDeadline later :=
  Nat.add_lt_add_right isLater _

/-- The status that a subscription stands for. -/
def SubscriptionStatus.access : SubscriptionStatus → AppTenantStatus
  | .active | .trialing => .active
  | .pastDue => .pastDue
  | _ => .suspended

/-- The `graceUntil` that `syncSubscription` computes from the row it found. -/
def Subscription.grace (sub : Subscription) (env : BillingEnv) (now : Nat)
    (access : Option AppTenant) : Option Nat :=
  match sub.status.access with
  | .pastDue =>
      some ((access.bind AppTenant.graceUntil).getD (env.graceDeadline now))
  | _ => none

/-- The columns of a new row for a subscription. -/
def Subscription.create (sub : Subscription) (graceUntil : Option Nat)
    (tier : Option String) : AccessData where
  status := sub.status.access
  graceUntil := graceUntil
  trialEndsAt := none
  plan := given tier
  stripeSubscriptionId := some sub.id

/-- The columns that a subscription sets on an existing row. -/
def Subscription.update (sub : Subscription) (graceUntil : Option Nat)
    (tier : Option String) : AccessData :=
  { sub.create graceUntil tier with trialEndsAt := some none }

/-- A row of another subscription ignores the end of this one. -/
def Subscription.ignoredBy (sub : Subscription) (row : AppTenant) : Bool :=
  (given row.stripeSubscriptionId).isSome &&
    row.stripeSubscriptionId ≠ some sub.id && sub.status.access = .suspended

/-- The columns that a recovered payment sets. -/
def recoveredAccess : AccessData :=
  ⟨.active, none, none, none, none⟩

/-- The columns that a failed payment sets. -/
def failedAccess (graceUntil : Nat) : AccessData :=
  ⟨.pastDue, some graceUntil, none, none, none⟩

@[simp] theorem graceUntil_failedAccess (graceUntil : Nat) :
    (failedAccess graceUntil).graceUntil = some graceUntil := rfl

/-- The columns of a new row for a purchase. -/
def purchaseCreate (tier : Option String) : AccessData :=
  ⟨.active, none, none, given tier, none⟩

/-- The columns that a purchase sets on an existing row. -/
def purchaseUpdate (tier : Option String) : AccessData :=
  ⟨.active, none, some none, given tier, none⟩

namespace BillingDb

variable (db : BillingDb)

/-- `accessBySubscriptionId`. -/
def accessBySubscriptionId (id : Option String) : Option AppTenant :=
  (given id).bind (db.access.findBy AppTenant.stripeSubscriptionId)

/-- The row that `syncSubscription` looks up. -/
def accessOf (sub : Subscription) : Option AppTenant :=
  match sub.meta.pair with
  | some key => db.access.find? key
  | none => db.accessBySubscriptionId (some sub.id)

/-- `tierOf`. -/
def tierOf (sub : Subscription) : Option String :=
  (given sub.prices.head?).bind fun id =>
    (db.prices.find? id).map AppPrice.tier

end BillingDb

/-! ## Phases -/

/-- Where a call stands: the statement it sends next. -/
inductive Phase
  -- syncSubscription
  | findAccess (sub : Subscription)
  | findPrice (sub : Subscription) (access : Option AppTenant)
      (graceUntil : Option Nat)
  | createAccess (sub : Subscription) (key : String × String)
      (data : AccessData)
  | updateAccess (sub : Subscription) (access : AppTenant) (data : AccessData)
  | recordSync (sub : Subscription) (access : AppTenant)
  -- acknowledgeOrphan
  | recordOrphan (id : String) (metadata : Metadata) (status : OrphanStatus)
  -- onInvoicePaid
  | findPaid (id : Option String)
  | liftPastDue (access : AppTenant)
  | recordRecovered (access : AppTenant)
  -- onPaymentFailed
  | findFailed (id : Option String)
  | markPastDue (access : AppTenant) (graceUntil : Nat)
  | recordFailed (access : AppTenant)
  -- onCheckoutCompleted
  | upsertPurchase (session : Session) (key : String × String)
  | recordPurchase (session : Session) (key : String × String)
  /-- The call has ended: it returns whether it has handled the event. -/
  | done (outcome : Except PrismaError Bool)

/-- `onCheckoutCompleted`, up to its first statement. -/
def onCheckoutCompleted (session : Session) : Phase :=
  if session.mode ≠ .payment || session.paymentStatus ≠ .paid then
    .done (.ok false)
  else
    match session.meta.pair with
    | none => .done (.ok false)
    | some key => .upsertPurchase session key

/-- `handleEvent`, up to its first statement.  Where the source looks nothing
up because it has no id to look for, the statement finds nothing. -/
def StripeEvent.begins : StripeEvent → Phase
  | .subscriptionCreated sub => .findAccess sub
  | .subscriptionUpdated sub => .findAccess sub
  | .subscriptionDeleted sub => .findAccess sub
  | .invoicePaid invoice => .findPaid (invoiceSubscriptionId invoice)
  | .invoicePaymentFailed invoice => .findFailed (invoiceSubscriptionId invoice)
  | .checkoutCompleted session => onCheckoutCompleted session
  | .other _ => .done (.ok false)

/-- `syncSubscription` past `tierOf`, up to its write. -/
def Subscription.tiered (sub : Subscription) (access : Option AppTenant)
    (graceUntil : Option Nat) (tier : Option String) : Phase :=
  match access with
  | none =>
      match sub.meta.pair with
      | none => .done (.ok false)
      | some key => .createAccess sub key (sub.create graceUntil tier)
  | some row =>
      if sub.ignoredBy row then .done (.ok true)
      else .updateAccess sub row (sub.update graceUntil tier)

/-- The texts that `syncSubscription` looks the row up by. -/
def Subscription.rowTexts (sub : Subscription) : List String :=
  match sub.meta.pair with
  | some key => [key.1, key.2]
  | none => [sub.id]

/-- The text that `tierOf` looks the price up by. -/
def Subscription.priceTexts (sub : Subscription) : List String :=
  (given sub.prices.head?).toList

/-- The texts that a lookup, or an entry of the audit log, takes from the
event.  A write is refused for the texts of its row, and those that were read
from a row are texts that the database holds. -/
def Phase.texts : Phase → List String
  | .findAccess sub => sub.rowTexts
  | .findPrice sub _ _ => sub.priceTexts
  | .recordOrphan id metadata _ =>
      id :: (metadata.tenantId.toList ++ metadata.appId.toList)
  | .findPaid id | .findFailed id => (given id).toList
  | .recordPurchase session key => [key.1, key.2] ++ session.meta.tier.toList
  | .createAccess _ _ _ | .updateAccess _ _ _ | .recordSync _ _
  | .liftPastDue _ | .recordRecovered _ | .markPastDue _ _ | .recordFailed _
  | .upsertPurchase _ _ | .done _ => []

/-- PostgreSQL takes the texts of the statement that a call waits for. -/
def Phase.Sendable (phase : Phase) : Prop :=
  ∀ text ∈ phase.texts, Storable text

instance (phase : Phase) : Decidable phase.Sendable :=
  inferInstanceAs (Decidable (∀ text ∈ phase.texts, Storable text))

/-- Carry out a statement whose texts PostgreSQL takes. -/
def Phase.carryOut (env : BillingEnv) (now : Nat) (db : BillingDb) :
    Phase → BillingDb × Phase
  | .findAccess sub =>
      let access := db.accessOf sub
      (db, .findPrice sub access (sub.grace env now access))
  | .findPrice sub access graceUntil =>
      (db, sub.tiered access graceUntil (db.tierOf sub))
  | .createAccess sub key data =>
      match db.createAccess key data with
      | .ok (written, row) => (written, .recordSync sub row)
      | .error .P2003 =>
          (db, .recordOrphan sub.id sub.meta (.subscription sub.status))
      | .error error => (db, .done (.error error))
  | .updateAccess sub access data =>
      match db.updateAccess access.key data with
      | .ok (written, row) => (written, .recordSync sub row)
      | .error error => (db, .done (.error error))
  | .recordSync sub access =>
      (db.record ⟨"billing.subscription_synced", some access.tenantId,
        .synced access.appId sub.status sub.status.access access.plan⟩,
        .done (.ok true))
  | .recordOrphan id metadata status =>
      (db.record ⟨"billing.orphan_subscription", none,
        .orphan id metadata.tenantId metadata.appId status⟩,
        .done (.ok false))
  | .findPaid id =>
      (db, match db.accessBySubscriptionId id with
        | none => .done (.ok false)
        | some access =>
            if access.status = .pastDue then .liftPastDue access
            else .done (.ok true))
  | .liftPastDue access =>
      match db.updateAccess access.key recoveredAccess with
      | .ok (written, _) => (written, .recordRecovered access)
      | .error error => (db, .done (.error error))
  | .recordRecovered access =>
      (db.record ⟨"billing.payment_recovered", some access.tenantId,
        .recovered access.appId⟩, .done (.ok true))
  | .findFailed id =>
      (db, match db.accessBySubscriptionId id with
        | none => .done (.ok false)
        | some access => .markPastDue access
            (access.graceUntil.getD (env.graceDeadline now)))
  | .markPastDue access graceUntil =>
      match db.updateAccess access.key (failedAccess graceUntil) with
      | .ok (written, _) => (written, .recordFailed access)
      | .error error => (db, .done (.error error))
  | .recordFailed access =>
      (db.record ⟨"billing.payment_failed", some access.tenantId,
        .failed access.appId env.graceDays⟩, .done (.ok true))
  | .upsertPurchase session key =>
      match db.upsertAccess key (purchaseCreate session.meta.tier)
          (purchaseUpdate session.meta.tier) with
      | .ok written => (written, .recordPurchase session key)
      | .error .P2003 =>
          (db, .recordOrphan session.id session.meta .checkoutPaid)
      | .error error => (db, .done (.error error))
  | .recordPurchase session key =>
      (db.record ⟨"billing.purchase_completed", some key.1,
        .purchased key.2 session.meta.tier⟩, .done (.ok true))
  | .done outcome => (db, .done outcome)

/-- Carry out the statement a call waits for, and go on to the next one.  No
handler catches the refusal of a lookup or of the audit log. -/
def Phase.step (env : BillingEnv) (now : Nat) (db : BillingDb)
    (phase : Phase) : BillingDb × Phase :=
  if phase.Sendable then phase.carryOut env now db
  else (db, .done (.error .unstorable))

theorem Phase.step_of_sendable
    {phase : Phase}
    (sendable : phase.Sendable)
    (env : BillingEnv)
    (now : Nat)
    (db : BillingDb) :
    phase.step env now db = phase.carryOut env now db :=
  if_pos sendable

theorem Phase.step_of_unsendable
    {phase : Phase}
    (unsendable : ¬ phase.Sendable)
    (env : BillingEnv)
    (now : Nat)
    (db : BillingDb) :
    phase.step env now db = (db, .done (.error .unstorable)) :=
  if_neg unsendable

/-- A statement without a text of the event is always sent. -/
theorem Phase.sendable_of_noTexts
    {phase : Phase}
    (noTexts : phase.texts = []) :
    phase.Sendable := by
  intro text present
  rw [noTexts] at present
  exact absurd present List.not_mem_nil

/-- The statements of a call that has the database to itself, which are at most
four. -/
def handleEvent (env : BillingEnv) (now : Nat) (db : BillingDb)
    (event : StripeEvent) : BillingDb × Phase :=
  (fun call => Phase.step env now call.1 call.2)^[4] (db, event.begins)

/-- The database after an event at a time. -/
def handleTimed (env : BillingEnv) (db : BillingDb)
    (timed : Nat × StripeEvent) : BillingDb :=
  (handleEvent env timed.1 db timed.2).1

/-- Events that are handled one after the other, each at its own time. -/
def deliver (env : BillingEnv) (db : BillingDb)
    (events : List (Nat × StripeEvent)) : BillingDb :=
  events.foldl (handleTimed env) db

end Billing
end EvoPlatform
