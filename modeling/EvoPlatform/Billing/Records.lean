import EvoPlatform.Auth.Accounts
import EvoPlatform.Foundation.Columns
import EvoPlatform.Foundation.Transition

/-!
# The billing database

The rows that the webhook reads and writes, and its statements on
`app_tenants`.  A statement fails with the code that Prisma gives to the
constraint it violates, or because PostgreSQL takes no U+0000 in a text, and
then leaves the rows as they were.
-/

namespace EvoPlatform
namespace Billing

open Auth

/-- A row of the `app_prices` table. -/
structure AppPrice where
  stripePriceId : String
  tier : String
  deriving DecidableEq

/-- The state of a subscription at Stripe. -/
inductive SubscriptionStatus
  | incomplete
  | incompleteExpired
  | trialing
  | active
  | pastDue
  | canceled
  | unpaid
  | paused
  deriving DecidableEq

/-- What `acknowledgeOrphan` records as the state at Stripe. -/
inductive OrphanStatus
  | subscription (status : SubscriptionStatus)
  | checkoutPaid
  deriving DecidableEq

/-- The detail of a billing event. -/
inductive BillingDetail
  | orphan (stripeSubscriptionId : String) (tenantId appId : Option String)
      (stripeStatus : OrphanStatus)
  | synced (appId : String) (stripeStatus : SubscriptionStatus)
      (status : AppTenantStatus) (plan : String)
  | recovered (appId : String)
  | purchased (appId : String) (plan : Option String)
  | failed (appId : String) (graceDays : Nat)
  deriving DecidableEq

/-- A row of the `audit_events` table. -/
structure BillingEvent where
  action : String
  tenantId : Option String
  detail : BillingDetail
  deriving DecidableEq

/-- The texts of a row of `app_tenants`. -/
def accessTexts (row : AppTenant) : List String :=
  [row.tenantId, row.appId, row.plan] ++ row.stripeSubscriptionId.toList

/-- PostgreSQL takes the texts of a row. -/
def StorableAccess (row : AppTenant) : Prop :=
  ∀ text ∈ accessTexts row, Storable text

instance (row : AppTenant) : Decidable (StorableAccess row) :=
  inferInstanceAs (Decidable (∀ text ∈ accessTexts row, Storable text))

/-- The database, as far as billing goes. -/
structure BillingDb where
  accounts : Accounts
  prices : Table AppPrice.stripePriceId
  audit : List BillingEvent
  storable : accounts.appTenants.Every StorableAccess
  tiersStorable : prices.Every fun price => Storable price.tier

/-- Why a statement is refused. -/
inductive PrismaError
  /-- A unique constraint. -/
  | P2002
  /-- A foreign key. -/
  | P2003
  /-- The row to update is missing. -/
  | P2025
  /-- A text with a U+0000, which has no code of its own. -/
  | unstorable
  deriving DecidableEq

/-- The columns that a write sets; a missing one is left alone. -/
structure AccessData where
  status : AppTenantStatus
  /-- Every write sets this column, to null if missing. -/
  graceUntil : Option Nat
  trialEndsAt : Option (Option Nat)
  plan : Option String
  stripeSubscriptionId : Option String

/-- A row with some columns set. -/
def setAccess (data : AccessData) (row : AppTenant) : AppTenant :=
  { row with
    status := data.status
    graceUntil := data.graceUntil
    trialEndsAt := data.trialEndsAt.getD row.trialEndsAt
    plan := data.plan.getD row.plan
    stripeSubscriptionId :=
      data.stripeSubscriptionId.or row.stripeSubscriptionId }

/-- A row with the default of every column. -/
def defaultAccess (key : String × String) : AppTenant where
  tenantId := key.1
  appId := key.2
  status := .active
  plan := "free"
  trialEndsAt := none
  graceUntil := none
  stripeSubscriptionId := none

@[simp] theorem key_setAccess (data : AccessData) (row : AppTenant) :
    (setAccess data row).key = row.key := rfl

@[simp] theorem key_defaultAccess (key : String × String) :
    (defaultAccess key).key = key := rfl

@[simp] theorem status_setAccess (data : AccessData) (row : AppTenant) :
    (setAccess data row).status = data.status := rfl

@[simp] theorem graceUntil_setAccess (data : AccessData) (row : AppTenant) :
    (setAccess data row).graceUntil = data.graceUntil := rfl

/-- Setting columns of a stored row can bring in two texts. -/
theorem storableAccess_setAccess_iff
    {data : AccessData}
    {row : AppTenant}
    (storable : StorableAccess row) :
    StorableAccess (setAccess data row) ↔
      (∀ plan ∈ data.plan, Storable plan) ∧
        ∀ id ∈ data.stripeSubscriptionId, Storable id := by
  simp only [StorableAccess, accessTexts, List.forall_mem_append,
    List.forall_mem_cons, Option.mem_toList] at storable ⊢
  obtain ⟨⟨tenant, app, plan, -⟩, id⟩ := storable
  constructor
  · rintro ⟨⟨-, -, newPlan, -⟩, newId⟩
    constructor
    · rintro text isSet
      simpa [setAccess, Option.mem_def.mp isSet] using newPlan
    · rintro text isSet
      exact newId text (by simp [setAccess, Option.mem_def.mp isSet])
  · rintro ⟨newPlan, newId⟩
    refine ⟨⟨tenant, app, ?_, by simp⟩, ?_⟩
    · cases isSet : data.plan with
      | none => simpa [setAccess, isSet] using plan
      | some text => simpa [setAccess, isSet] using newPlan text isSet
    · cases isSet : data.stripeSubscriptionId with
      | none => simpa [setAccess, isSet] using id
      | some text => simpa [setAccess, isSet] using newId text isSet

theorem storableAccess_defaultAccess_iff
    {key : String × String} :
    StorableAccess (defaultAccess key) ↔ Storable key.1 ∧ Storable key.2 := by
  have free : Storable "free" := by decide
  simp [StorableAccess, accessTexts, defaultAccess, free]

/-- Setting the same columns twice is setting them once. -/
theorem setAccess_setAccess (data : AccessData) (row : AppTenant) :
    setAccess data (setAccess data row) = setAccess data row := by
  obtain ⟨status, graceUntil, trialEndsAt, plan, stripeSubscriptionId⟩ := data
  cases trialEndsAt <;> cases plan <;> cases stripeSubscriptionId <;> rfl

namespace BillingDb

variable (db : BillingDb)

/-- `audit.record`. -/
def record (event : BillingEvent) : BillingDb :=
  { db with audit := db.audit ++ [event] }

/-- The `app_tenants` table. -/
abbrev access : Table AppTenant.key := db.accounts.appTenants

/-- Another row stores the subscription id of this one. -/
abbrev Taken (row : AppTenant) : Prop :=
  db.access.HeldElsewhere AppTenant.stripeSubscriptionId row

/-- The tenant and the app of a pair exist. -/
def Known (key : String × String) : Prop :=
  (db.accounts.tenants.find? key.1).isSome ∧
    (db.accounts.apps.find? key.2).isSome

instance (key : String × String) : Decidable (db.Known key) :=
  inferInstanceAs (Decidable (_ ∧ _))

/-- Write a row that violates no constraint. -/
def put (row : AppTenant) (storable : StorableAccess row)
    (free : ¬ db.Taken row) (known : db.Known row.key) : BillingDb where
  accounts :=
    { db.accounts with
      appTenants := db.access.put row
      subscriptionUnique := db.accounts.subscriptionUnique.put row free
      references := by
        intro other present
        rcases (db.access.mem_put_iff row other).mp present with
          rfl | ⟨old, _⟩
        · exact known
        · exact db.accounts.references other old }
  prices := db.prices
  audit := db.audit
  storable := db.storable.put storable
  tiersStorable := db.tiersStorable

/-- The pair of a stored row exists. -/
theorem known_of_find?
    {db : BillingDb}
    {key : String × String}
    {row : AppTenant}
    (found : db.access.find? key = some row) :
    db.Known row.key :=
  db.accounts.references row (db.access.mem_of_find? found)

/-- Insert a row, or replace the one with its key, under the constraints. -/
def write (row : AppTenant) : Except PrismaError BillingDb :=
  if storable : StorableAccess row then
    if taken : db.Taken row then .error .P2002
    else if known : db.Known row.key then
      .ok (db.put row storable taken known)
    else .error .P2003
  else .error .unstorable

/-- `appTenant.create`. -/
def createAccess (key : String × String) (data : AccessData) :
    Except PrismaError (BillingDb × AppTenant) :=
  match db.access.find? key with
  | some _ => .error .P2002
  | none =>
      let row := setAccess data (defaultAccess key)
      (db.write row).map fun written => (written, row)

/-- `appTenant.update` by primary key. -/
def updateAccess (key : String × String) (data : AccessData) :
    Except PrismaError (BillingDb × AppTenant) :=
  match db.access.find? key with
  | none => .error .P2025
  | some stored =>
      let row := setAccess data stored
      (db.write row).map fun written => (written, row)

/-- `appTenant.upsert` by primary key. -/
def upsertAccess (key : String × String) (create update : AccessData) :
    Except PrismaError BillingDb :=
  db.write <| match db.access.find? key with
    | none => setAccess create (defaultAccess key)
    | some stored => setAccess update stored

/-- Everything but the audit log is as it was. -/
structure SameRows (before after : BillingDb) : Prop where
  accounts : after.accounts = before.accounts
  prices : after.prices = before.prices

/-- One row is written, and nothing else but the audit log. -/
structure Writes (before after : BillingDb) (row : AppTenant) : Prop where
  access : after.access = before.access.put row
  tenants : after.accounts.tenants = before.accounts.tenants
  apps : after.accounts.apps = before.accounts.apps
  users : after.accounts.users = before.accounts.users
  prices : after.prices = before.prices

variable {db}

theorem write_of_unstorable
    {row : AppTenant}
    (unstorable : ¬ StorableAccess row) :
    db.write row = .error .unstorable := by
  simp [write, unstorable]

theorem write_of_taken
    {row : AppTenant}
    (storable : StorableAccess row)
    (taken : db.Taken row) :
    db.write row = .error .P2002 := by
  simp [write, storable, taken]

theorem write_of_unknown
    {row : AppTenant}
    (storable : StorableAccess row)
    (free : ¬ db.Taken row)
    (unknown : ¬ db.Known row.key) :
    db.write row = .error .P2003 := by
  simp [write, storable, free, unknown]

theorem write_of_free
    {row : AppTenant}
    (storable : StorableAccess row)
    (free : ¬ db.Taken row)
    (known : db.Known row.key) :
    db.write row = .ok (db.put row storable free known) := by
  simp [write, storable, free, known]

/-- The four outcomes of writing a row, by what the database holds. -/
inductive WriteCase (db : BillingDb) (row : AppTenant) : Prop
  | unstorable :
      ¬ StorableAccess row → db.write row = .error .unstorable →
      WriteCase db row
  | taken :
      StorableAccess row → db.Taken row → db.write row = .error .P2002 →
      WriteCase db row
  | unknown :
      StorableAccess row → ¬ db.Taken row → ¬ db.Known row.key →
      db.write row = .error .P2003 →
      WriteCase db row
  | written {written : BillingDb} :
      StorableAccess row → ¬ db.Taken row → db.Known row.key →
      db.write row = .ok written → Writes db written row →
      WriteCase db row

theorem writeCase (db : BillingDb) (row : AppTenant) : WriteCase db row := by
  by_cases storable : StorableAccess row
  · by_cases taken : db.Taken row
    · exact .taken storable taken (write_of_taken storable taken)
    · by_cases known : db.Known row.key
      · exact .written storable taken known (write_of_free storable taken known)
          ⟨rfl, rfl, rfl, rfl, rfl⟩
      · exact .unknown storable taken known
          (write_of_unknown storable taken known)
  · exact .unstorable storable (write_of_unstorable storable)

end BillingDb

end Billing
end EvoPlatform
