import EvoPlatform.Billing.Effects

/-!
# Whose status a row carries

A row belongs to the subscription whose id it stores.  This module says what
the events of another subscription do to it, and what a one-time purchase makes
of the subscription that was there before.
-/

namespace EvoPlatform
namespace Billing

open Auth

/-- A subscription is stored by the row of another pair. -/
def BillingDb.StoredElsewhere (db : BillingDb) (id : String)
    (key : String × String) : Prop :=
  ∃ other ∈ db.access.rows,
    other.key ≠ key ∧ other.stripeSubscriptionId = some id

instance (db : BillingDb) (id : String) (key : String × String) :
    Decidable (db.StoredElsewhere id key) :=
  inferInstanceAs (Decidable (∃ other ∈ db.access.rows, _ ∧ _))

/-- A row that a subscription claims for itself is taken exactly when another
row stores the subscription. -/
theorem BillingDb.taken_update_iff
    (db : BillingDb)
    (sub : Subscription)
    (graceUntil : Option Nat)
    (tier : Option String)
    (row : AppTenant) :
    db.Taken (setAccess (sub.update graceUntil tier) row) ↔
      db.StoredElsewhere sub.id row.key := by
  have owner : (setAccess (sub.update graceUntil tier)
      row).stripeSubscriptionId = some sub.id := rfl
  simp [Table.HeldElsewhere, BillingDb.StoredElsewhere, owner]

/-- PostgreSQL takes the id of a subscription and that of its first price. -/
def Subscription.IdsStorable (sub : Subscription) : Prop :=
  Storable sub.id ∧ ∀ price ∈ given sub.prices.head?, Storable price

instance (sub : Subscription) : Decidable sub.IdsStorable :=
  inferInstanceAs (Decidable (_ ∧ ∀ price ∈ given sub.prices.head?, _))

/-- What finds a row is stored in it, so a lookup of the row is not refused. -/
theorem storable_rowTexts
    {db : BillingDb}
    {sub : Subscription}
    {row : AppTenant}
    (looked : db.accessOf sub = some row) :
    ∀ text ∈ sub.rowTexts, Storable text := by
  have stored := db.storable row (BillingDb.mem_of_accessOf looked)
  unfold Subscription.rowTexts
  cases named : sub.meta.pair with
  | some key =>
      obtain rfl := BillingDb.key_of_accessOf named looked
      simp only [List.forall_mem_cons]
      refine ⟨stored _ ?_, stored _ ?_, by simp⟩
      · simp [accessTexts, AppTenant.key]
      · simp [accessTexts, AppTenant.key]
  | none =>
      simp only [BillingDb.accessOf, named] at looked
      obtain ⟨-, value, isGiven, holds⟩ :=
        BillingDb.of_accessBySubscriptionId looked
      have isId : sub.id = value := Option.some.inj (eq_of_given isGiven)
      rw [List.forall_mem_singleton, isId]
      apply stored
      simp [accessTexts, holds]

/-- A report that goes for its row is refused for its ids. -/
theorem sendable_of_found_iff
    {db : BillingDb}
    {event : StripeEvent}
    {sub : Subscription}
    {row : AppTenant}
    (reports : event.subscription = some sub)
    (looked : db.accessOf sub = some row)
    (notIgnored : sub.ignoredBy row = false) :
    event.Sendable db ↔ sub.IdsStorable := by
  have writes : db.writesFor sub = true := by
    simp [BillingDb.writesFor, looked, notIgnored]
  rw [StripeEvent.Sendable, StripeEvent.sentTexts_of_subscription reports,
    Subscription.sendable_iff, and_iff_right (storable_rowTexts looked),
    and_comm]
  apply and_congr ⟨fun id => id writes, fun id _ => id⟩
  simp [Subscription.priceTexts]

/-- The rows after the state of a subscription was reported that has a row. -/
theorem access_handleEvent_of_found
    (env : BillingEnv)
    (now : Nat)
    {db : BillingDb}
    {event : StripeEvent}
    {sub : Subscription}
    {row : AppTenant}
    (reports : event.subscription = some sub)
    (looked : db.accessOf sub = some row) :
    (handleEvent env now db event).1.access =
      if ¬ sub.IdsStorable ∨ sub.ignoredBy row ∨
          db.StoredElsewhere sub.id row.key then db.access
      else db.access.put (setAccess
        (sub.update (sub.grace env now (some row)) (db.tierOf sub)) row) := by
  have known : db.Known row.key :=
    db.accounts.references row (BillingDb.mem_of_accessOf looked)
  have demanded := StripeEvent.demand_of_subscription reports env now db
  rw [access_handleEvent, demanded]
  cases ignored : sub.ignoredBy row with
  | true => simp [Subscription.demand, looked, ignored]
  | false =>
      simp only [Subscription.demand, looked, ignored, if_false,
        Bool.false_eq_true, false_or, BillingDb.taken_update_iff, key_setAccess,
        known, not_true, or_false,
        sendable_of_found_iff reports looked ignored]

/-- The rows after the state of a subscription was reported for a stored
pair. -/
theorem access_handleEvent_of_named
    (env : BillingEnv)
    (now : Nat)
    {db : BillingDb}
    {event : StripeEvent}
    {sub : Subscription}
    {key : String × String}
    {row : AppTenant}
    (reports : event.subscription = some sub)
    (named : sub.meta.pair = some key)
    (stored : db.access.find? key = some row) :
    (handleEvent env now db event).1.access =
      if ¬ sub.IdsStorable ∨ sub.ignoredBy row ∨
          db.StoredElsewhere sub.id key then db.access
      else db.access.put (setAccess
        (sub.update (sub.grace env now (some row)) (db.tierOf sub)) row) := by
  have looked : db.accessOf sub = some row := by
    simpa only [BillingDb.accessOf, named] using stored
  rw [access_handleEvent_of_found env now reports looked,
    db.access.key_of_find? stored]

/-! ## A subscription that does not own the row -/

/-- The row of a pair is neither suspended nor past due. -/
def StaysOpen (key : String × String) (db : BillingDb) : Prop :=
  ∃ row, db.access.find? key = some row ∧
    row.status ≠ .suspended ∧ row.status ≠ .pastDue

/-- A subscription for a pair is reported in a state other than active or
trialing. -/
def LapseOf (id : String) (key : String × String) (event : StripeEvent) :
    Prop :=
  ∃ sub, event.subscription = some sub ∧ sub.id = id ∧
    sub.meta.pair = some key ∧ sub.status ≠ .active ∧ sub.status ≠ .trialing

/-- The reported subscription cannot touch a row: PostgreSQL refuses one of its
ids, the row is that of another subscription and this one has ended, or this
one is stored elsewhere. -/
def Harmless (db : BillingDb) (key : String × String) (row : AppTenant)
    (event : StripeEvent) : Prop :=
  ∀ sub, event.subscription = some sub →
    ¬ sub.IdsStorable ∨ sub.ignoredBy row ∨ db.StoredElsewhere sub.id key

/-- A lapsed subscription lowers the row that it takes over. -/
theorem not_open_of_lapse
    {env : BillingEnv}
    {now : Nat}
    {db : BillingDb}
    {id : String}
    {event : StripeEvent}
    {key : String × String}
    {row : AppTenant}
    (stored : db.access.find? key = some row)
    (lapse : LapseOf id key event)
    (harmful : ¬ Harmless db key row event) :
    ¬ StaysOpen key (handleEvent env now db event).1 := by
  obtain ⟨sub, reports, _, named, notActive, notTrialing⟩ := lapse
  have effective : ¬ (¬ sub.IdsStorable ∨ sub.ignoredBy row ∨
      db.StoredElsewhere sub.id key) := by
    intro ineffective
    apply harmful
    intro other otherReports
    obtain rfl : sub = other := Option.some.inj (reports.symm.trans otherReports)
    exact ineffective
  rintro ⟨left, found, notSuspended, notPastDue⟩
  rw [access_handleEvent_of_named env now reports named stored, if_neg effective,
    Table.find?_put, key_setAccess, db.access.key_of_find? stored, if_pos rfl,
    Option.some.injEq] at found
  subst found
  rw [status_setAccess] at notSuspended notPastDue
  cases status : sub.status <;>
    simp_all [Subscription.update, Subscription.create,
      SubscriptionStatus.access]

/-- A harmless report changes no row. -/
theorem access_handleEvent_of_harmless
    {env : BillingEnv}
    {now : Nat}
    {db : BillingDb}
    {id : String}
    {event : StripeEvent}
    {key : String × String}
    {row : AppTenant}
    (stored : db.access.find? key = some row)
    (lapse : LapseOf id key event)
    (harmless : Harmless db key row event) :
    (handleEvent env now db event).1.access = db.access := by
  obtain ⟨sub, reports, _, named, _, _⟩ := lapse
  rw [access_handleEvent_of_named env now reports named stored,
    if_pos (harmless sub reports)]

/-- Throughout a sequence of reports of lapsed subscriptions for the pair of a
row, the row stays open exactly when every one of them is harmless: when the
row stores the id of another subscription and the reported one has ended, when
the reported one is stored by the row of another pair, or when PostgreSQL
refuses its ids. -/
theorem row_stays_open_iff_harmless
    (env : BillingEnv)
    (db : BillingDb)
    (key : String × String)
    (row : AppTenant)
    (id : String)
    (events : List (Nat × StripeEvent))
    (stored : db.access.find? key = some row)
    (admitting : row.status = .active ∨ row.status = .trial)
    (lapses : ∀ timed ∈ events, LapseOf id key timed.2) :
    Throughout (handleTimed env) (StaysOpen key) db events ↔
      ∀ timed ∈ events, Harmless db key row timed.2 := by
  have isOpen : row.status ≠ .suspended ∧ row.status ≠ .pastDue := by
    rcases admitting with active | trial
    · simp [active]
    · simp [trial]
  induction events generalizing db with
  | nil => simp [Throughout.nil_iff, StaysOpen, stored, isOpen]
  | cons timed events inductionHypothesis =>
      have lapse := lapses timed List.mem_cons_self
      have laterLapses : ∀ later ∈ events, LapseOf id key later.2 :=
        fun later present => lapses later (List.mem_cons_of_mem _ present)
      rw [Throughout.cons_iff, List.forall_mem_cons]
      by_cases harmless : Harmless db key row timed.2
      · have same : (handleTimed env db timed).access = db.access :=
          access_handleEvent_of_harmless stored lapse harmless
        have sameHarm : ∀ event : StripeEvent,
            Harmless (handleTimed env db timed) key row event ↔
              Harmless db key row event := by
          intro event
          simp only [Harmless, BillingDb.StoredElsewhere, same]
        have rest := inductionHypothesis (handleTimed env db timed)
          (same.symm ▸ stored) laterLapses
        constructor
        · rintro ⟨_, throughout⟩
          refine ⟨harmless, fun later present => ?_⟩
          exact (sameHarm later.2).mp (rest.mp throughout later present)
        · rintro ⟨_, harm⟩
          refine ⟨⟨row, stored, isOpen⟩, rest.mpr fun later present => ?_⟩
          exact (sameHarm later.2).mpr (harm later present)
      · constructor
        · rintro ⟨_, throughout⟩
          exact absurd throughout.initially
            (not_open_of_lapse stored lapse harmless)
        · rintro ⟨harm, _⟩
          exact absurd harm harmless

/-- The first app of the workspace, paid for by a subscription. -/
def subscribedDb : BillingDb :=
  deliver ⟨7⟩ demoDb
    [(1000, .subscriptionCreated (demoSubscription "sub_1" .active))]

/-- The row of that app. -/
def subscribedRow : AppTenant :=
  ⟨"t1", "a1", .active, "pro", none, none, some "sub_1"⟩

theorem find?_subscribedDb :
    subscribedDb.access.find? ("t1", "a1") = some subscribedRow := by
  decide +kernel

/-- The end of an old subscription is harmless, so the row stays open. -/
theorem row_stays_open_iff_harmless_replaced :
    Throughout (handleTimed ⟨7⟩) (StaysOpen ("t1", "a1")) subscribedDb
        [(2000, .subscriptionDeleted (demoSubscription "sub_0" .canceled))] ↔
      ∀ timed ∈ [(2000, StripeEvent.subscriptionDeleted
          (demoSubscription "sub_0" .canceled))],
        Harmless subscribedDb ("t1", "a1") subscribedRow timed.2 := by
  apply row_stays_open_iff_harmless ⟨7⟩ subscribedDb ("t1", "a1")
    subscribedRow "sub_0" _ find?_subscribedDb (.inl rfl)
  intro timed present
  rw [List.mem_singleton.mp present]
  exact ⟨_, rfl, rfl, rfl, by decide, by decide⟩

/-- A failed renewal of an old subscription makes the row past due. -/
theorem staleRenewal_lowers_row :
    subscribedRow.status = .active ∧
    subscribedRow.stripeSubscriptionId = some "sub_1" ∧
    LapseOf "sub_0" ("t1", "a1")
      (.subscriptionUpdated (demoSubscription "sub_0" .pastDue)) ∧
    ¬ Throughout (handleTimed ⟨7⟩) (StaysOpen ("t1", "a1")) subscribedDb
        [(2000, .subscriptionUpdated (demoSubscription "sub_0" .pastDue))] := by
  refine ⟨rfl, rfl, ⟨_, rfl, rfl, rfl, by decide, by decide⟩, ?_⟩
  intro throughout
  obtain ⟨row, found, _, notPastDue⟩ := throughout _ List.prefix_rfl
  have lowered : ((deliver ⟨7⟩ subscribedDb
      [(2000, .subscriptionUpdated (demoSubscription "sub_0" .pastDue))]
        ).access.find? ("t1", "a1")).map AppTenant.status =
      some .pastDue := by
    decide +kernel
  change (deliver _ _ _).access.find? _ = some row at found
  rw [found] at lowered
  exact notPastDue (Option.some.inj lowered)

/-! ## One-time purchases -/

/-- The row of a pair is active, and nothing hangs off it. -/
def ClearlyActive (key : String × String) (db : BillingDb) : Prop :=
  ∃ row, db.access.find? key = some row ∧ row.status = .active ∧
    row.stripeSubscriptionId = none ∧ row.graceUntil = none ∧
    row.trialEndsAt = none

/-- The row of a pair is active, so it admits logins. -/
def StillActive (key : String × String) (db : BillingDb) : Prop :=
  ∃ row, db.access.find? key = some row ∧ row.status = .active

/-- The row of a pair stores a subscription. -/
def BillingDb.Attached (db : BillingDb) (key : String × String)
    (id : String) : Prop :=
  ∃ row, db.access.find? key = some row ∧ row.stripeSubscriptionId = some id

/-- A purchase leaves the row active with nothing hanging off it, and no
sequence of events of a subscription that was attached before lowers the row
again. -/
structure Permanent (env : BillingEnv) (now : Nat) (db : BillingDb)
    (session : Session) (key : String × String) : Prop where
  cleared : ClearlyActive key
    (handleEvent env now db (.checkoutCompleted session)).1
  stands : ∀ id, db.Attached key id →
    ∀ events : List (Nat × StripeEvent),
      (∀ timed ∈ events, timed.2.subscriptionId = some id) →
        Throughout (handleTimed env) (StillActive key)
          (handleEvent env now db (.checkoutCompleted session)).1 events

/-- The row of a purchase that was handled. -/
theorem find?_handleEvent_of_purchase
    {env : BillingEnv}
    {now : Nat}
    {db : BillingDb}
    {session : Session}
    {key : String × String}
    (bought : session.purchase = some key)
    (handled : (handleEvent env now db (.checkoutCompleted session)).2 =
      .done (.ok true)) :
    (handleEvent env now db (.checkoutCompleted session)).1.access.find? key =
      some (purchasedRow db key session.meta.tier) := by
  have demanded : (StripeEvent.checkoutCompleted session).demand env now db =
      .row (purchasedRow db key session.meta.tier) := by
    simp only [StripeEvent.demand, checkoutDemand, bought]
  have free := free_purchasedRow db key session.meta.tier
  have sendable := sendable_of_handled env now db handled
  rw [outcome_of_sendable env now sendable, demanded] at handled
  have known : db.Known key := by simpa [free] using handled
  rw [access_of_sendable env now sendable, demanded]
  simp [free, known]

/-- A purchase is permanent exactly when the row stored no subscription. -/
theorem purchase_permanent_iff_unattached
    (env : BillingEnv)
    (now : Nat)
    (db : BillingDb)
    (session : Session)
    (key : String × String)
    (bought : session.purchase = some key)
    (handled : (handleEvent env now db (.checkoutCompleted session)).2 =
      .done (.ok true)) :
    Permanent env now db session key ↔ ∀ id, ¬ db.Attached key id := by
  have left := find?_handleEvent_of_purchase bought handled
  constructor
  · rintro ⟨⟨row, found, _, unowned, _, _⟩, _⟩ id ⟨stored, before, owner⟩
    obtain rfl := Option.some.inj (left.symm.trans found)
    simp [purchasedRow, before, setAccess, purchaseUpdate, owner] at unowned
  · intro unattached
    refine ⟨⟨_, left, ?_⟩, fun id attached => absurd attached (unattached id)⟩
    unfold purchasedRow
    cases before : db.access.find? key with
    | none => exact ⟨rfl, rfl, rfl, rfl⟩
    | some stored =>
        have unowned : stored.stripeSubscriptionId = none := by
          cases owner : stored.stripeSubscriptionId with
          | none => rfl
          | some id => exact absurd ⟨stored, before, owner⟩ (unattached id)
        exact ⟨rfl, by simp [setAccess, purchaseUpdate, unowned], rfl, rfl⟩

/-- A paid one-time checkout for the first app. -/
def demoPurchase : Session :=
  ⟨"cs_1", .payment, .paid, some ⟨some "t1", some "a1", some "lifetime"⟩⟩

theorem purchase_permanent_iff_unattached_created :
    Permanent ⟨7⟩ 1000 demoDb demoPurchase ("t1", "a1") ↔
      ∀ id, ¬ demoDb.Attached ("t1", "a1") id :=
  purchase_permanent_iff_unattached ⟨7⟩ 1000 demoDb demoPurchase ("t1", "a1")
    rfl rfl

/-- A purchase over a subscription keeps the id of the subscription, and the
cancellation of the subscription suspends what was bought. -/
theorem purchasedOver_not_permanent :
    demoPurchase.purchase = some ("t1", "a1") ∧
    (handleEvent ⟨7⟩ 2000 subscribedDb (.checkoutCompleted demoPurchase)).2 =
      .done (.ok true) ∧
    ¬ Permanent ⟨7⟩ 2000 subscribedDb demoPurchase ("t1", "a1") := by
  refine ⟨rfl, rfl, fun permanent => ?_⟩
  have throughout := permanent.stands "sub_1"
    ⟨subscribedRow, find?_subscribedDb, rfl⟩
    [(3000, .subscriptionDeleted (demoSubscription "sub_1" .canceled))]
    (by simp [StripeEvent.subscriptionId, demoSubscription])
  obtain ⟨row, found, active⟩ := throughout _ List.prefix_rfl
  have suspended : ((deliver ⟨7⟩ (handleEvent ⟨7⟩ 2000 subscribedDb
      (.checkoutCompleted demoPurchase)).1
        [(3000, .subscriptionDeleted (demoSubscription "sub_1" .canceled))]
          ).access.find? ("t1", "a1")).map AppTenant.status =
      some .suspended := by
    decide +kernel
  change (deliver _ _ _).access.find? _ = some row at found
  rw [found, Option.map_some, active] at suspended
  exact absurd suspended (by decide)

end Billing
end EvoPlatform
