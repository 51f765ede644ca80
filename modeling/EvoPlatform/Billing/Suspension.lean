import EvoPlatform.Auth.Door
import EvoPlatform.Billing.Effects

/-!
# Invoices and suspended rows

`onInvoicePaid` lifts a row that is past due and leaves a suspended one alone.
`onPaymentFailed` makes any row past due, so what keeps a row suspended is that
no failed payment is about the subscription that it stores.
-/

namespace EvoPlatform
namespace Billing

open Auth

/-- An invoice event of either kind. -/
inductive InvoiceEvent : StripeEvent → Prop
  | paid (invoice : Invoice) : InvoiceEvent (.invoicePaid invoice)
  | failed (invoice : Invoice) : InvoiceEvent (.invoicePaymentFailed invoice)

/-- A failed payment of the subscription that a row stores. -/
def FailsPaymentOf (row : AppTenant) (event : StripeEvent) : Prop :=
  ∃ invoice id, event = .invoicePaymentFailed invoice ∧
    given (invoiceSubscriptionId invoice) = some id ∧
    row.stripeSubscriptionId = some id

/-- A failed payment is written to the row of its subscription. -/
theorem access_handleEvent_of_failsPayment
    (env : BillingEnv)
    (now : Nat)
    {db : BillingDb}
    {event : StripeEvent}
    {row : AppTenant}
    (present : row ∈ db.access.rows)
    (fails : FailsPaymentOf row event) :
    (handleEvent env now db event).1.access =
      db.access.put (failedRow env now row) := by
  obtain ⟨invoice, id, rfl, isGiven, holds⟩ := fails
  have looked := BillingDb.accessBySubscriptionId_of_mem isGiven present holds
  have free : ¬ db.Taken (failedRow env now row) :=
    db.accounts.subscriptionUnique.not_heldElsewhere present rfl rfl
  have known : db.Known (failedRow env now row).key :=
    db.accounts.references row present
  -- A stored id is one that PostgreSQL takes.
  have sendable : (StripeEvent.invoicePaymentFailed invoice).Sendable db := by
    intro text sent
    have isId : text = id := by
      simpa [StripeEvent.sentTexts, isGiven] using sent
    apply db.storable row present
    simp [accessTexts, holds, isId]
  rw [access_of_sendable env now sendable]
  simp only [StripeEvent.demand, failedDemand, looked, free, known, not_true,
    or_self, if_false]

/-- An invoice that is not a failed payment of its subscription leaves a
suspended row alone. -/
theorem find?_handleEvent_of_suspended
    (env : BillingEnv)
    (now : Nat)
    {db : BillingDb}
    {event : StripeEvent}
    {key : String × String}
    {row : AppTenant}
    (stored : db.access.find? key = some row)
    (suspended : row.status = .suspended)
    (isInvoice : InvoiceEvent event)
    (spared : ¬ FailsPaymentOf row event) :
    (handleEvent env now db event).1.access.find? key = some row := by
  have ofKey : ∀ other ∈ db.access.rows, other.key = key → other = row := by
    intro other present sameKey
    have found := db.access.find?_of_mem present
    rw [sameKey, stored] at found
    exact (Option.some.inj found).symm
  rw [access_handleEvent]
  cases isInvoice with
  | paid invoice =>
      simp only [StripeEvent.demand, paidDemand]
      cases looked :
          db.accessBySubscriptionId (invoiceSubscriptionId invoice) with
      | none => exact stored
      | some other =>
          obtain ⟨present, _⟩ := BillingDb.of_accessBySubscriptionId looked
          simp only [recover]
          split
          · exact stored
          · rename_i written demanded
            split at demanded
            · rename_i pastDue
              obtain rfl := Demand.row.inj demanded
              have different : key ≠ other.key := by
                intro sameKey
                rw [ofKey other present sameKey.symm, suspended] at pastDue
                contradiction
              split
              · exact stored
              · rw [Table.find?_put, key_setAccess, if_neg different, stored]
            · contradiction
  | failed invoice =>
      simp only [StripeEvent.demand, failedDemand]
      cases looked :
          db.accessBySubscriptionId (invoiceSubscriptionId invoice) with
      | none => exact stored
      | some other =>
          obtain ⟨present, id, isGiven, holds⟩ :=
            BillingDb.of_accessBySubscriptionId looked
          have different : key ≠ other.key := by
            intro sameKey
            have same := ofKey other present sameKey.symm
            exact spared ⟨invoice, id, rfl, isGiven, same ▸ holds⟩
          simp only
          split
          · exact stored
          · rw [Table.find?_put, key_failedRow, if_neg different, stored]

/-- No login for a pair is admitted, whoever logs in and whenever. -/
def LoginRefused (key : String × String) (accounts : Accounts) : Prop :=
  ∀ (env : AuthEnv) (now : Nat) (fresh : Fresh) (tokens : Tokens)
    (audit : List AuditEvent) (user : User) (tenant : Tenant) (app : App)
    (ip : Option String),
    app ∈ accounts.apps.rows → tenant.id = key.1 → app.id = key.2 →
      admitsLogin env now fresh ⟨accounts, tokens, audit⟩ user (some tenant)
        (some app.clientId) ip = false

/-- The row of a pair is suspended, and so is every login for it. -/
def Suspended (key : String × String) (db : BillingDb) : Prop :=
  (∃ row, db.access.find? key = some row ∧ row.status = .suspended) ∧
    LoginRefused key db.accounts

/-- A suspended row refuses every login for its pair. -/
theorem suspended_of_find?
    {db : BillingDb}
    {key : String × String}
    {row : AppTenant}
    (stored : db.access.find? key = some row)
    (suspended : row.status = .suspended) :
    Suspended key db := by
  refine ⟨⟨row, stored, suspended⟩, ?_⟩
  intro env now fresh tokens audit user tenant app ip present sameTenant sameApp
  rw [Bool.eq_false_iff]
  intro admitted
  obtain ⟨_, _, _, _, enabled⟩ := (admitsLogin_app_iff env now fresh
    ⟨db.accounts, tokens, audit⟩ user tenant ip present).mp admitted
  have looked : db.accounts.appTenants.find? (tenant.id, app.id) =
      some row := by
    rw [sameTenant, sameApp]
    exact stored
  rw [looked] at enabled
  simp [assertEnablement, suspended] at enabled

/-- Throughout a sequence of invoice events a suspended row stays suspended,
and logins for it stay refused, exactly when none of the events is a failed
payment of the subscription that the row stores. -/
theorem suspended_iff_no_failed_payment
    (env : BillingEnv)
    (db : BillingDb)
    (key : String × String)
    (row : AppTenant)
    (events : List (Nat × StripeEvent))
    (stored : db.access.find? key = some row)
    (suspended : row.status = .suspended)
    (invoices : ∀ timed ∈ events, InvoiceEvent timed.2) :
    Throughout (handleTimed env) (Suspended key) db events ↔
      ∀ timed ∈ events, ¬ FailsPaymentOf row timed.2 := by
  induction events generalizing db with
  | nil =>
      simp [Throughout.nil_iff, suspended_of_find? stored suspended]
  | cons timed events inductionHypothesis =>
      have isInvoice := invoices timed List.mem_cons_self
      have laterInvoices : ∀ later ∈ events, InvoiceEvent later.2 :=
        fun later present => invoices later (List.mem_cons_of_mem _ present)
      rw [Throughout.cons_iff, List.forall_mem_cons]
      by_cases fails : FailsPaymentOf row timed.2
      · constructor
        · rintro ⟨_, throughout⟩
          obtain ⟨⟨left, found, stillSuspended⟩, _⟩ := throughout.initially
          have written := access_handleEvent_of_failsPayment env timed.1
            (db.access.mem_of_find? stored) fails
          rw [handleTimed, written, Table.find?_put, key_failedRow,
            db.access.key_of_find? stored, if_pos rfl,
            Option.some.injEq] at found
          rw [← found] at stillSuspended
          contradiction
        · rintro ⟨spared, _⟩
          exact absurd fails spared
      · have left := find?_handleEvent_of_suspended env timed.1 stored
          suspended isInvoice fails
        have rest := inductionHypothesis (handleTimed env db timed) left
          laterInvoices
        constructor
        · rintro ⟨_, throughout⟩
          exact ⟨fails, rest.mp throughout⟩
        · rintro ⟨_, spared⟩
          exact ⟨suspended_of_find? stored suspended, rest.mpr spared⟩

/-- The first app of the workspace, suspended when its subscription ended. -/
def suspendedDb : BillingDb :=
  deliver ⟨7⟩ demoDb
    [(1000, .subscriptionCreated (demoSubscription "sub_1" .active)),
      (2000, .subscriptionDeleted (demoSubscription "sub_1" .canceled))]

/-- The row of that app. -/
def suspendedRow : AppTenant :=
  ⟨"t1", "a1", .suspended, "pro", none, none, some "sub_1"⟩

theorem find?_suspendedDb :
    suspendedDb.access.find? ("t1", "a1") = some suspendedRow := by
  decide +kernel

/-- A late payment leaves the row suspended. -/
theorem suspended_iff_no_failed_payment_paid :
    Throughout (handleTimed ⟨7⟩) (Suspended ("t1", "a1")) suspendedDb
        [(3000, .invoicePaid ⟨some (.id "sub_1"), none⟩)] ↔
      ∀ timed ∈ [(3000, StripeEvent.invoicePaid ⟨some (.id "sub_1"), none⟩)],
        ¬ FailsPaymentOf suspendedRow timed.2 := by
  apply suspended_iff_no_failed_payment ⟨7⟩ suspendedDb ("t1", "a1")
    suspendedRow _ find?_suspendedDb rfl
  intro timed present
  rw [List.mem_singleton.mp present]
  exact .paid _

/-- A failed payment followed by a recovered one makes a suspended row active,
in the newer shape of the payload. -/
theorem failedThenPaid_revives :
    suspendedDb.access.find? ("t1", "a1") = some suspendedRow ∧
    suspendedRow.status = .suspended ∧
    ((deliver ⟨7⟩ suspendedDb
        [(3000, .invoicePaymentFailed ⟨none, some (.id "sub_1")⟩),
          (4000, .invoicePaid ⟨none, some (.id "sub_1")⟩)]).access.find?
      ("t1", "a1")).map AppTenant.status = some .active ∧
    ¬ Throughout (handleTimed ⟨7⟩) (Suspended ("t1", "a1")) suspendedDb
        [(3000, .invoicePaymentFailed ⟨none, some (.id "sub_1")⟩),
          (4000, .invoicePaid ⟨none, some (.id "sub_1")⟩)] := by
  have revived : ((deliver ⟨7⟩ suspendedDb
        [(3000, .invoicePaymentFailed ⟨none, some (.id "sub_1")⟩),
          (4000, .invoicePaid ⟨none, some (.id "sub_1")⟩)]).access.find?
      ("t1", "a1")).map AppTenant.status = some .active := by
    decide +kernel
  refine ⟨find?_suspendedDb, rfl, revived, fun throughout => ?_⟩
  obtain ⟨⟨row, found, suspended⟩, _⟩ := throughout _ List.prefix_rfl
  change (deliver _ _ _).access.find? _ = some row at found
  rw [found, Option.map_some, suspended] at revived
  exact absurd revived (by decide)

end Billing
end EvoPlatform
