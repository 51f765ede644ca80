import EvoPlatform.Billing.Effects

/-!
# Redelivered events

Stripe delivers an event again when it has not seen the answer.  A second
delivery finds the row as the first one has left it, and asks for that same
row, for nothing, or for a row that the foreign keys refuse once more.
-/

namespace EvoPlatform
namespace Billing

open Auth

/-- The event names neither the pair nor the subscription of another one. -/
structure StripeEvent.Unrelated (event other : StripeEvent) : Prop where
  pair : ∀ key, other.pair = some key → event.pair ≠ some key
  subscription : ∀ id,
    other.subscriptionId = some id → event.subscriptionId ≠ some id

namespace BillingDb

variable {db : BillingDb}

/-- No row stores a subscription id. -/
def Unattached (db : BillingDb) (id : String) : Prop :=
  ∀ row ∈ db.access.rows, row.stripeSubscriptionId ≠ some id

/-- A row of a subscription that is stored nowhere is free. -/
theorem Unattached.free
    {id : String}
    {row : AppTenant}
    (unattached : db.Unattached id)
    (holds : row.stripeSubscriptionId = some id) :
    ¬ db.Taken row := by
  rintro ⟨other, present, _, _, same⟩
  exact unattached other present (same.trans holds)

end BillingDb

/-! ## Unrelated events attach nothing -/

/-- A row that is asked for stores the subscription of the event, or one that
was stored before. -/
theorem StripeEvent.attached_of_demand
    {env : BillingEnv}
    {now : Nat}
    {db : BillingDb}
    {event : StripeEvent}
    {row : AppTenant}
    {id : String}
    (wanted : event.demand env now db = .row row)
    (holds : row.stripeSubscriptionId = some id) :
    event.subscriptionId = some id ∨ ¬ db.Unattached id := by
  have ofSubscription : ∀ sub : Subscription,
      sub.demand env now db = .row row → some sub.id = some id := by
    intro sub demanded
    unfold Subscription.demand at demanded
    split at demanded
    · split at demanded
      · contradiction
      · simp only [Demand.row.injEq] at demanded
        rw [← holds, ← demanded]
        rfl
    · split at demanded
      · contradiction
      · simp only [Demand.row.injEq] at demanded
        rw [← holds, ← demanded]
        rfl
  have ofStored : ∀ stored ∈ db.access.rows,
      stored.stripeSubscriptionId = row.stripeSubscriptionId →
        ¬ db.Unattached id :=
    fun stored present same unattached =>
      unattached stored present (same.trans holds)
  cases event with
  | subscriptionCreated sub => exact .inl (ofSubscription sub wanted)
  | subscriptionUpdated sub => exact .inl (ofSubscription sub wanted)
  | subscriptionDeleted sub => exact .inl (ofSubscription sub wanted)
  | invoicePaid invoice =>
      simp only [StripeEvent.demand, paidDemand] at wanted
      split at wanted
      · contradiction
      · rename_i stored found
        unfold recover at wanted
        split at wanted
        · simp only [Demand.row.injEq] at wanted
          exact .inr (ofStored stored
            (BillingDb.of_accessBySubscriptionId found).1 (wanted ▸ rfl))
        · contradiction
  | invoicePaymentFailed invoice =>
      simp only [StripeEvent.demand, failedDemand] at wanted
      split at wanted
      · contradiction
      · rename_i stored found
        simp only [Demand.row.injEq] at wanted
        exact .inr (ofStored stored
          (BillingDb.of_accessBySubscriptionId found).1 (wanted ▸ rfl))
  | checkoutCompleted session =>
      simp only [StripeEvent.demand, checkoutDemand] at wanted
      split at wanted
      · contradiction
      · rename_i key bought
        simp only [Demand.row.injEq, purchasedRow] at wanted
        split at wanted
        · rw [← wanted] at holds
          simp [setAccess, purchaseCreate, defaultAccess] at holds
        · rename_i stored found
          exact .inr (ofStored stored (db.access.mem_of_find? found)
            (wanted ▸ rfl))
  | other type => contradiction

/-- An event about something else attaches a subscription to no row. -/
theorem unattached_handleEvent
    {env : BillingEnv}
    {now : Nat}
    {db : BillingDb}
    {event : StripeEvent}
    {id : String}
    (other : event.subscriptionId ≠ some id)
    (unattached : db.Unattached id) :
    (handleEvent env now db event).1.Unattached id := by
  unfold BillingDb.Unattached
  rw [access_handleEvent]
  split
  · exact unattached
  · rename_i row demanded
    split
    · exact unattached
    · intro stored present holds
      rcases (db.access.mem_put_iff row stored).mp present with
        rfl | ⟨old, _⟩
      · rcases StripeEvent.attached_of_demand demanded holds with
          same | attached
        · exact other same
        · exact attached unattached
      · exact unattached stored old holds

theorem unattached_deliver
    {env : BillingEnv}
    {db : BillingDb}
    {events : List (Nat × StripeEvent)}
    {id : String}
    (others : ∀ timed ∈ events, timed.2.subscriptionId ≠ some id)
    (unattached : db.Unattached id) :
    (deliver env db events).Unattached id := by
  induction events generalizing db with
  | nil => exact unattached
  | cons timed events inductionHypothesis =>
      exact inductionHypothesis
        (fun later present => others later (List.mem_cons_of_mem _ present))
        (unattached_handleEvent (others timed List.mem_cons_self) unattached)

/-- The tables that deliveries never write. -/
theorem others_deliver
    (env : BillingEnv)
    (db : BillingDb)
    (events : List (Nat × StripeEvent)) :
    (deliver env db events).accounts.tenants = db.accounts.tenants ∧
    (deliver env db events).accounts.apps = db.accounts.apps ∧
    (deliver env db events).prices = db.prices := by
  induction events generalizing db with
  | nil => exact ⟨rfl, rfl, rfl⟩
  | cons timed events inductionHypothesis =>
      obtain ⟨tenants, apps, _, prices⟩ :=
        others_handleEvent env timed.1 db timed.2
      obtain ⟨laterTenants, laterApps, laterPrices⟩ :=
        inductionHypothesis (handleEvent env timed.1 db timed.2).1
      exact ⟨laterTenants.trans tenants, laterApps.trans apps,
        laterPrices.trans prices⟩

/-! ## The second delivery -/

/-- Delivered here, the event changes no row and returns `handled`. -/
inductive Absorbs (env : BillingEnv) (now : Nat) (db : BillingDb)
    (event : StripeEvent) : Bool → Prop
  | nothing {handled : Bool} :
      event.Sendable db →
      event.demand env now db = .nothing handled →
      Absorbs env now db event handled
  | present {row : AppTenant} :
      event.Sendable db →
      event.demand env now db = .row row →
      db.access.find? row.key = some row →
      Absorbs env now db event true
  | orphan {row : AppTenant} :
      event.Sendable db →
      event.demand env now db = .row row →
      ¬ db.Taken row →
      ¬ db.Known row.key →
      Absorbs env now db event false

section Absorbs

variable {env : BillingEnv} {now : Nat} {db : BillingDb} {event : StripeEvent}
  {handled : Bool}

theorem Absorbs.outcome (absorbs : Absorbs env now db event handled) :
    (handleEvent env now db event).2 = .done (.ok handled) := by
  cases absorbs with
  | nothing sendable demanded =>
      rw [outcome_of_sendable env now sendable, demanded]
  | @present row sendable demanded stored =>
      have present := db.access.mem_of_find? stored
      have free : ¬ db.Taken row :=
        db.accounts.subscriptionUnique.not_heldElsewhere present rfl rfl
      rw [outcome_of_sendable env now sendable]
      simp [demanded, free, BillingDb.known_of_find? stored]
  | orphan sendable demanded free unknown =>
      rw [outcome_of_sendable env now sendable]
      simp [demanded, free, unknown]

theorem Absorbs.find? (absorbs : Absorbs env now db event handled)
    (key : String × String) :
    (handleEvent env now db event).1.access.find? key =
      db.access.find? key := by
  rw [access_handleEvent]
  cases absorbs with
  | nothing _ demanded => rw [demanded]
  | @present row _ demanded stored =>
      simp only [demanded]
      split
      · rfl
      · rw [Table.find?_put]
        split
        · rename_i same
          rw [same, stored]
        · rfl
  | orphan _ demanded _ unknown => simp [demanded, unknown]

/-- The three ways in which an event is handled without throwing. -/
theorem handled_cases
    (first : (handleEvent env now db event).2 = .done (.ok handled)) :
    (event.demand env now db = .nothing handled ∧
      (handleEvent env now db event).1.access = db.access) ∨
    (∃ row, event.demand env now db = .row row ∧ handled = true ∧
      ¬ db.Taken row ∧
      (handleEvent env now db event).1.access = db.access.put row) ∨
    (∃ row, event.demand env now db = .row row ∧ handled = false ∧
      ¬ db.Taken row ∧ ¬ db.Known row.key ∧
      (handleEvent env now db event).1.access = db.access) := by
  have sendable := sendable_of_handled env now db first
  rw [outcome_of_sendable env now sendable] at first
  rw [access_of_sendable env now sendable]
  split at first
  · rename_i returned demanded
    have same : returned = handled := by simpa using first
    exact .inl ⟨same ▸ demanded, by simp⟩
  · rename_i row demanded
    split at first
    · simp at first
    · rename_i free
      have same : decide (db.Known row.key) = handled := by simpa using first
      by_cases known : db.Known row.key
      · exact .inr (.inl ⟨row, demanded, by simp [← same, known], free,
          by simp [free, known]⟩)
      · exact .inr (.inr ⟨row, demanded, by simp [← same, known], free, known,
          by simp [known]⟩)

end Absorbs

/-- A row as a subscription leaves it. -/
structure Subscription.Settled (sub : Subscription) (tier : Option String)
    (row : AppTenant) : Prop where
  status : row.status = sub.status.access
  grace : row.graceUntil.isSome = decide (sub.status.access = .pastDue)
  trial : row.trialEndsAt = none
  plan : ∀ plan, given tier = some plan → row.plan = plan
  owner : row.stripeSubscriptionId = some sub.id

/-- The grace window is set exactly when the payment is past due. -/
theorem Subscription.isSome_grace
    (sub : Subscription)
    (env : BillingEnv)
    (now : Nat)
    (access : Option AppTenant) :
    (sub.grace env now access).isSome =
      decide (sub.status.access = .pastDue) := by
  unfold Subscription.grace
  cases sub.status.access <;> rfl

theorem Subscription.settled_create
    (sub : Subscription)
    (env : BillingEnv)
    (now : Nat)
    (tier : Option String)
    (key : String × String) :
    sub.Settled tier (setAccess (sub.create (sub.grace env now none) tier)
      (defaultAccess key)) where
  status := rfl
  grace := sub.isSome_grace env now none
  trial := rfl
  plan plan known := by simp [setAccess, Subscription.create, known]
  owner := rfl

theorem Subscription.settled_update
    (sub : Subscription)
    (env : BillingEnv)
    (now : Nat)
    (tier : Option String)
    (row : AppTenant) :
    sub.Settled tier
      (setAccess (sub.update (sub.grace env now (some row)) tier) row) where
  status := rfl
  grace := sub.isSome_grace env now (some row)
  trial := rfl
  plan plan known := by
    simp [setAccess, Subscription.update, Subscription.create, known]
  owner := rfl

/-- A subscription finds nothing to change in a row as it leaves it. -/
theorem Subscription.Settled.update
    {sub : Subscription}
    {tier : Option String}
    {row : AppTenant}
    (settled : sub.Settled tier row)
    (env : BillingEnv)
    (now : Nat) :
    setAccess (sub.update (sub.grace env now (some row)) tier) row = row := by
  obtain ⟨status, grace, trial, plan, owner⟩ := settled
  have keptGrace : sub.grace env now (some row) = row.graceUntil := by
    unfold Subscription.grace
    split
    · rename_i pastDue
      rw [pastDue] at grace
      obtain ⟨deadline, stamped⟩ := Option.isSome_iff_exists.mp
        (grace.trans (decide_eq_true rfl))
      simp [stamped]
    · rename_i otherwise
      have notPastDue : sub.status.access ≠ .pastDue := otherwise
      have unset : row.graceUntil = none := by simpa [notPastDue] using grace
      exact unset.symm
  have keptPlan : (given tier).getD row.plan = row.plan := by
    cases known : given tier with
    | none => rfl
    | some value => exact (plan value known).symm
  have keptOwner : (some sub.id).or row.stripeSubscriptionId =
      row.stripeSubscriptionId := by
    rw [owner]
    rfl
  cases row
  simp_all [setAccess, Subscription.update, Subscription.create]

/-- What stays as the first delivery has left it until the second one. -/
structure Kept (event : StripeEvent) (target : Option (String × String))
    (left found : BillingDb) : Prop where
  tenants : found.accounts.tenants = left.accounts.tenants
  apps : found.accounts.apps = left.accounts.apps
  prices : found.prices = left.prices
  row : ∀ key, target = some key →
    found.access.find? key = left.access.find? key
  unattached : ∀ id, event.subscriptionId = some id →
    left.Unattached id → found.Unattached id

section SecondDelivery

variable {env : BillingEnv} {now later : Nat} {db found : BillingDb}
  {handled : Bool}

/-- What a subscription asks for is a row as it leaves it. -/
theorem Subscription.settled_of_demand
    {sub : Subscription}
    {row : AppTenant}
    (demanded : sub.demand env now db = .row row) :
    sub.Settled (db.tierOf sub) row := by
  unfold Subscription.demand at demanded
  split at demanded
  · split at demanded
    · contradiction
    · simp only [Demand.row.injEq] at demanded
      exact demanded ▸ sub.settled_create env now _ _
  · split at demanded
    · contradiction
    · simp only [Demand.row.injEq] at demanded
      exact demanded ▸ sub.settled_update env now _ _

/-- A subscription that writes no row the second time, or has written one the
first time, sends what it has sent before. -/
theorem Subscription.sendable_again
    {event : StripeEvent}
    {sub : Subscription}
    (reports : event.subscription = some sub)
    (sendable : event.Sendable db)
    (writes : found.writesFor sub = true → db.writesFor sub = true) :
    event.Sendable found := by
  rw [StripeEvent.Sendable, StripeEvent.sentTexts_of_subscription reports,
    Subscription.sendable_iff] at sendable ⊢
  obtain ⟨row, price, id⟩ := sendable
  exact ⟨row, price, fun again => id (writes again)⟩

section SubscriptionEvent

variable {event : StripeEvent} {sub : Subscription} {row : AppTenant}
  (reports : event.subscription = some sub)
  (sendable : event.Sendable db)
  (isEvent : ∀ time state, event.demand env time state =
    sub.demand env time state)
  (isAbout : event.subscriptionId = some sub.id)
  (isNamed : event.target db = sub.meta.pair.or
    ((db.accessBySubscriptionId (some sub.id)).map AppTenant.key))
  (kept : Kept event (event.target db) (handleEvent env now db event).1 found)

include reports sendable isEvent isAbout isNamed kept in
/-- Nothing was asked for: no row was found, or its owner is another one. -/
theorem Subscription.absorbs_nothing
    (demanded : event.demand env now db = .nothing handled)
    (same : (handleEvent env now db event).1.access = db.access) :
    Absorbs env later found event handled := by
  have wanted := (isEvent now db).symm.trans demanded
  suffices idle : sub.demand env later found = .nothing handled by
    apply Absorbs.nothing
    · apply Subscription.sendable_again reports sendable
      intro writes
      rw [BillingDb.writesFor_of_nothing idle] at writes
      contradiction
    · rw [isEvent later found, idle]
  unfold Subscription.demand at wanted ⊢
  cases looked : db.accessOf sub with
  | none =>
      cases named : sub.meta.pair with
      | some key => simp [looked, named] at wanted
      | none =>
          have again : found.accessOf sub = none := by
            simp only [BillingDb.accessOf, named] at looked ⊢
            rw [BillingDb.accessBySubscriptionId_eq_none_iff] at looked ⊢
            intro value isGiven
            have isId : event.subscriptionId = some value :=
              isAbout.trans (eq_of_given isGiven)
            apply kept.unattached value isId
            unfold BillingDb.Unattached
            rw [same]
            exact looked value isGiven
          simpa [looked, named, again] using wanted
  | some row =>
      have present := BillingDb.mem_of_accessOf looked
      simp only [looked] at wanted
      split at wanted
      · rename_i ignored
        have concerned : event.target db = some row.key := by
          rw [isNamed]
          cases named : sub.meta.pair with
          | some key => simp [BillingDb.key_of_accessOf named looked]
          | none =>
              simp only [BillingDb.accessOf, named] at looked
              simp [looked]
        have stillThere : found.access.find? row.key = some row := by
          rw [kept.row _ concerned, same]
          exact db.access.find?_of_mem present
        have again : found.accessOf sub = some row := by
          apply BillingDb.accessOf_of_mem
            (found.access.mem_of_find? stillThere)
          · intro key named
            exact BillingDb.key_of_accessOf named looked
          · intro unnamed
            simp only [BillingDb.accessOf, unnamed] at looked
            exact (BillingDb.of_accessBySubscriptionId looked).2
        simpa [again, ignored] using wanted
      · contradiction

include reports sendable isEvent isNamed kept in
/-- A row was written: it is found again, as the subscription left it. -/
theorem Subscription.absorbs_written
    (demanded : event.demand env now db = .row row)
    (written : (handleEvent env now db event).1.access = db.access.put row) :
    Absorbs env later found event true := by
  obtain ⟨_, _, _, prices⟩ := others_handleEvent env now db event
  have concerned := StripeEvent.target_of_demand demanded
  have stillThere : found.access.find? row.key = some row := by
    rw [kept.row _ concerned, written]
    simp
  have sameTier : found.tierOf sub = db.tierOf sub := by
    simp only [BillingDb.tierOf, kept.prices, prices]
  have settled : sub.Settled (found.tierOf sub) row := by
    rw [sameTier]
    exact settled_of_demand ((isEvent now db).symm.trans demanded)
  have again : found.accessOf sub = some row := by
    apply BillingDb.accessOf_of_mem (found.access.mem_of_find? stillThere)
    · intro key named
      rw [isNamed, named] at concerned
      simpa using concerned.symm
    · intro unnamed
      rw [isNamed, unnamed] at concerned
      obtain ⟨stored, looked, _⟩ := Option.map_eq_some_iff.mp
        (by simpa using concerned)
      obtain ⟨_, value, isGiven, _⟩ :=
        BillingDb.of_accessBySubscriptionId looked
      exact ⟨value, isGiven, settled.owner.trans (eq_of_given isGiven)⟩
  have notIgnored : sub.ignoredBy row = false := by
    simp [Subscription.ignoredBy, settled.owner]
  have repeated : event.demand env later found = .row row := by
    rw [isEvent later found]
    simp [Subscription.demand, again, notIgnored, settled.update env later]
  refine .present ?_ repeated stillThere
  apply Subscription.sendable_again reports sendable
  intro _
  exact BillingDb.writesFor_of_row ((isEvent now db).symm.trans demanded)

include reports sendable isEvent isAbout isNamed kept in
/-- The foreign keys refused a new row, and refuse it once more. -/
theorem Subscription.absorbs_refused
    (demanded : event.demand env now db = .row row)
    (free : ¬ db.Taken row)
    (unknown : ¬ db.Known row.key)
    (same : (handleEvent env now db event).1.access = db.access) :
    Absorbs env later found event false := by
  obtain ⟨tenants, apps, _, _⟩ := others_handleEvent env now db event
  have concerned := StripeEvent.target_of_demand demanded
  have absent : db.access.find? row.key = none := by
    cases looked : db.access.find? row.key with
    | none => rfl
    | some stored =>
        have known := BillingDb.known_of_find? looked
        rw [db.access.key_of_find? looked] at known
        exact absurd known unknown
  have owner : row.stripeSubscriptionId = some sub.id :=
    (settled_of_demand ((isEvent now db).symm.trans demanded)).owner
  have unattached : found.Unattached sub.id := by
    apply kept.unattached sub.id isAbout
    unfold BillingDb.Unattached
    rw [same]
    intro other present holds
    apply free
    refine ⟨other, present, ?_, by simp [owner], holds.trans owner.symm⟩
    intro sameKey
    have looked := db.access.find?_of_mem present
    rw [sameKey, absent] at looked
    contradiction
  have absentAgain : found.access.find? row.key = none := by
    rw [kept.row _ concerned, same, absent]
  have named : sub.meta.pair = some row.key := by
    cases named : sub.meta.pair with
    | some key =>
        rw [isNamed, named] at concerned
        simpa using concerned
    | none =>
        rw [isNamed, named] at concerned
        obtain ⟨stored, looked, sameKey⟩ := Option.map_eq_some_iff.mp
          (by simpa using concerned)
        have present := (BillingDb.of_accessBySubscriptionId looked).1
        have looked := db.access.find?_of_mem present
        rw [sameKey, absent] at looked
        contradiction
  have again : found.accessOf sub = none := by
    simpa only [BillingDb.accessOf, named] using absentAgain
  have unknownAgain : ¬ found.Known row.key := by
    simpa only [BillingDb.Known, kept.tenants, kept.apps, tenants, apps]
      using unknown
  have repeated : event.demand env later found = .row (setAccess
      (sub.create (sub.grace env later none) (found.tierOf sub))
      (defaultAccess row.key)) := by
    rw [isEvent later found]
    simp [Subscription.demand, again, named]
  refine .orphan ?_ repeated ?_ ?_
  · apply Subscription.sendable_again reports sendable
    intro _
    exact BillingDb.writesFor_of_row ((isEvent now db).symm.trans demanded)
  · exact unattached.free rfl
  · simpa using unknownAgain

end SubscriptionEvent

/-- `syncSubscription` absorbs a second delivery. -/
theorem Subscription.absorbs
    {event : StripeEvent}
    (sub : Subscription)
    (reports : event.subscription = some sub)
    (isAbout : event.subscriptionId = some sub.id)
    (isNamed : event.target db = sub.meta.pair.or
      ((db.accessBySubscriptionId (some sub.id)).map AppTenant.key))
    (first : (handleEvent env now db event).2 = .done (.ok handled))
    (kept : Kept event (event.target db) (handleEvent env now db event).1
      found) :
    Absorbs env later found event handled := by
  have isEvent := StripeEvent.demand_of_subscription reports env
  have sendable := sendable_of_handled env now db first
  rcases handled_cases first with
    ⟨demanded, same⟩ | ⟨row, demanded, rfl, _, written⟩ |
      ⟨row, demanded, rfl, free, unknown, same⟩
  · exact absorbs_nothing reports sendable isEvent isAbout isNamed kept demanded
      same
  · exact absorbs_written reports sendable isEvent isNamed kept demanded written
  · exact absorbs_refused reports sendable isEvent isAbout isNamed kept demanded
      free unknown same

/-- A subscription that an invoice has looked up in vain stays unknown. -/
theorem Kept.absent
    {event : StripeEvent}
    {id : Option String}
    {left : BillingDb}
    {target : Option (String × String)}
    (kept : Kept event target left found)
    (isAbout : event.subscriptionId = id)
    (absent : left.accessBySubscriptionId id = none) :
    found.accessBySubscriptionId id = none := by
  rw [BillingDb.accessBySubscriptionId_eq_none_iff] at absent ⊢
  intro value isGiven
  exact kept.unattached value (isAbout.trans (eq_of_given isGiven))
    (absent value isGiven)

/-- An invoice event absorbs a second delivery when its handler has nothing
more to do on a row that it has handled. -/
theorem invoice_absorbs
    {event : StripeEvent}
    {id : Option String}
    (act again : AppTenant → Demand)
    (isAbout : event.subscriptionId = id)
    (isNamed : event.target db =
      (db.accessBySubscriptionId id).map AppTenant.key)
    (wanted : event.demand env now db =
      (db.accessBySubscriptionId id).elim (.nothing false) act)
    (rewanted : event.demand env later found =
      (found.accessBySubscriptionId id).elim (.nothing false) again)
    (sameTexts : event.sentTexts found = event.sentTexts db)
    (settles : ∀ row,
      (act row = .nothing true ∧ again row = .nothing true) ∨
        ∃ left, act row = .row left ∧ left.key = row.key ∧
          left.stripeSubscriptionId = row.stripeSubscriptionId ∧
          (again left = .nothing true ∨ again left = .row left))
    (first : (handleEvent env now db event).2 = .done (.ok handled))
    (kept : Kept event (event.target db) (handleEvent env now db event).1
      found) :
    Absorbs env later found event handled := by
  have sendable := sendable_of_handled env now db first
  have outcome := outcome_of_sendable env now sendable
  have access := access_of_sendable env now sendable
  have sendableAgain : event.Sendable found := by
    rwa [StripeEvent.Sendable, sameTexts]
  cases looked : db.accessBySubscriptionId id with
  | none =>
      simp only [looked, Option.elim_none] at wanted
      have isFalse : handled = false := by
        rw [wanted, first] at outcome
        simpa using outcome
      rw [wanted] at access
      have absent : (handleEvent env now db event).1.accessBySubscriptionId id =
          none := by
        rw [BillingDb.accessBySubscriptionId_eq_none_iff] at looked ⊢
        rw [access]
        exact looked
      rw [kept.absent isAbout absent, Option.elim_none] at rewanted
      exact isFalse ▸ .nothing sendableAgain rewanted
  | some row =>
      simp only [looked, Option.elim_some] at wanted
      obtain ⟨present, value, isGiven, holds⟩ :=
        BillingDb.of_accessBySubscriptionId looked
      have concerned : event.target db = some row.key := by simp [isNamed, looked]
      have refound : ∀ left : AppTenant,
          left.stripeSubscriptionId = row.stripeSubscriptionId →
          found.access.find? row.key = some left →
          event.demand env later found = again left := by
        intro left sameOwner stored
        rw [rewanted, BillingDb.accessBySubscriptionId_of_mem isGiven
          (found.access.mem_of_find? stored) (sameOwner.trans holds),
          Option.elim_some]
      rcases settles row with ⟨idle, stillIdle⟩ | ⟨left, acts, sameKey, sameOwner, settled⟩
      · rw [wanted, idle] at access outcome
        have isTrue : handled = true := by
          rw [first] at outcome
          simpa using outcome
        have stored : found.access.find? row.key = some row := by
          rw [kept.row _ concerned, access]
          exact db.access.find?_of_mem present
        exact isTrue ▸ .nothing sendableAgain
          ((refound row rfl stored).trans stillIdle)
      · have free : ¬ db.Taken left :=
          db.accounts.subscriptionUnique.not_heldElsewhere present sameKey
            sameOwner
        have known : db.Known left.key := by
          rw [sameKey]
          exact db.accounts.references row present
        simp only [wanted, acts, free, known, not_true, or_self, if_false,
          decide_true] at access outcome
        have isTrue : handled = true := by
          rw [first] at outcome
          simpa using outcome
        have stored : found.access.find? row.key = some left := by
          rw [kept.row _ concerned, access, ← sameKey]
          simp
        subst isTrue
        rcases settled with idle | same
        · exact .nothing sendableAgain
            ((refound left sameOwner stored).trans idle)
        · exact .present sendableAgain
            ((refound left sameOwner stored).trans same) (sameKey ▸ stored)

/-- `onInvoicePaid` absorbs a second delivery. -/
theorem paid_absorbs
    (invoice : Invoice)
    (first : (handleEvent env now db (.invoicePaid invoice)).2 =
      .done (.ok handled))
    (kept : Kept (.invoicePaid invoice)
      (StripeEvent.target db (.invoicePaid invoice))
      (handleEvent env now db (.invoicePaid invoice)).1 found) :
    Absorbs env later found (.invoicePaid invoice) handled := by
  have wanted : ∀ (time : Nat) (state : BillingDb),
      (StripeEvent.invoicePaid invoice).demand env time state =
        (state.accessBySubscriptionId (invoiceSubscriptionId invoice)).elim
          (.nothing false) recover := by
    intro time state
    simp only [StripeEvent.demand, paidDemand]
    cases state.accessBySubscriptionId (invoiceSubscriptionId invoice) <;> rfl
  apply invoice_absorbs recover recover rfl rfl (wanted now db)
    (wanted later found) rfl _ first kept
  intro row
  by_cases pastDue : row.status = .pastDue
  · right
    refine ⟨setAccess recoveredAccess row, if_pos pastDue, rfl, rfl, .inl ?_⟩
    simp [recover, recoveredAccess]
  · left
    exact ⟨if_neg pastDue, if_neg pastDue⟩

/-- A failed payment keeps the deadline that an earlier one has set. -/
theorem failedRow_failedRow
    (env : BillingEnv)
    (now later : Nat)
    (row : AppTenant) :
    failedRow env later (failedRow env now row) = failedRow env now row := by
  -- By rewriting: the kernel must not compare the two deadlines.
  have stamped : (failedRow env now row).graceUntil =
      some (row.graceUntil.getD (env.graceDeadline now)) := rfl
  rw [failedRow, stamped, Option.getD_some, failedRow, setAccess_setAccess]

/-- `onPaymentFailed` absorbs a second delivery. -/
theorem failed_absorbs
    (invoice : Invoice)
    (first : (handleEvent env now db (.invoicePaymentFailed invoice)).2 =
      .done (.ok handled))
    (kept : Kept (.invoicePaymentFailed invoice)
      (StripeEvent.target db (.invoicePaymentFailed invoice))
      (handleEvent env now db (.invoicePaymentFailed invoice)).1 found) :
    Absorbs env later found (.invoicePaymentFailed invoice) handled := by
  have wanted : ∀ (time : Nat) (state : BillingDb),
      (StripeEvent.invoicePaymentFailed invoice).demand env time state =
        (state.accessBySubscriptionId (invoiceSubscriptionId invoice)).elim
          (.nothing false) fun row => .row (failedRow env time row) := by
    intro time state
    simp only [StripeEvent.demand, failedDemand]
    cases state.accessBySubscriptionId (invoiceSubscriptionId invoice) <;> rfl
  apply invoice_absorbs _ _ rfl rfl (wanted now db) (wanted later found) rfl _
    first kept
  intro row
  right
  exact ⟨failedRow env now row, rfl, rfl, rfl,
    .inr (congrArg Demand.row (failedRow_failedRow env now later row))⟩

/-- A purchase finds nothing to change in a row that it has left. -/
theorem setAccess_purchasedRow
    (key : String × String)
    (tier : Option String) :
    setAccess (purchaseUpdate tier) (purchasedRow db key tier) =
      purchasedRow db key tier := by
  unfold purchasedRow
  split
  · unfold purchaseUpdate purchaseCreate
    cases given tier <;> rfl
  · exact setAccess_setAccess _ _

/-- `onCheckoutCompleted` absorbs a second delivery. -/
theorem checkout_absorbs
    (session : Session)
    (first : (handleEvent env now db (.checkoutCompleted session)).2 =
      .done (.ok handled))
    (kept : Kept (.checkoutCompleted session)
      (StripeEvent.target db (.checkoutCompleted session))
      (handleEvent env now db (.checkoutCompleted session)).1 found) :
    Absorbs env later found (.checkoutCompleted session) handled := by
  obtain ⟨tenants, apps, _, _⟩ :=
    others_handleEvent env now db (.checkoutCompleted session)
  have sendable := sendable_of_handled env now db first
  have sameKnown : ∀ key, found.Known key ↔ db.Known key := by
    intro key
    simp only [BillingDb.Known, kept.tenants, kept.apps, tenants, apps]
  have sendableAgain :
      (StripeEvent.checkoutCompleted session).Sendable found := by
    simpa only [StripeEvent.Sendable, StripeEvent.sentTexts, Session.sentTexts,
      sameKnown] using sendable
  cases bought : session.purchase with
  | none =>
      have idle : ∀ (time : Nat) (state : BillingDb),
          (StripeEvent.checkoutCompleted session).demand env time state =
            .nothing false := by
        intro time state
        simp only [StripeEvent.demand, checkoutDemand, bought]
      have isFalse : handled = false := by
        rw [outcome_of_sendable env now sendable, idle] at first
        simpa using first.symm
      exact isFalse ▸ .nothing sendableAgain (idle later found)
  | some key =>
      have wanted : ∀ (time : Nat) (state : BillingDb),
          (StripeEvent.checkoutCompleted session).demand env time state =
            .row (purchasedRow state key session.meta.tier) := by
        intro time state
        simp only [StripeEvent.demand, checkoutDemand, bought]
      have concerned := StripeEvent.target_of_demand (wanted now db)
      rw [key_purchasedRow] at concerned
      rcases handled_cases first with
        ⟨demanded, _⟩ | ⟨row, demanded, rfl, _, stored⟩ |
          ⟨row, demanded, rfl, _, unknown, same⟩
      · rw [wanted] at demanded
        contradiction
      · -- The row that the purchase has left is there.
        rw [wanted, Demand.row.injEq] at demanded
        have stillThere : found.access.find? key = some row := by
          rw [kept.row _ concerned, stored, ← demanded]
          simp
        have unchanged : purchasedRow found key session.meta.tier = row := by
          rw [purchasedRow, stillThere, ← demanded]
          exact setAccess_purchasedRow key session.meta.tier
        apply Absorbs.present sendableAgain ((wanted later found).trans
          (congrArg Demand.row unchanged))
        rw [← demanded, key_purchasedRow]
        exact demanded ▸ stillThere
      · -- The pair is still unknown.
        rw [wanted, Demand.row.injEq] at demanded
        rw [← demanded, key_purchasedRow] at unknown
        have absent : db.access.find? key = none := by
          cases looked : db.access.find? key with
          | none => rfl
          | some stored =>
              have known := BillingDb.known_of_find? looked
              rw [db.access.key_of_find? looked] at known
              exact absurd known unknown
        apply Absorbs.orphan sendableAgain (wanted later found)
        · exact free_purchasedRow found key session.meta.tier
        · rw [key_purchasedRow, sameKnown]
          exact unknown

/-- Every event that is handled absorbs a second delivery. -/
theorem absorbs_of_handled
    {event : StripeEvent}
    (first : (handleEvent env now db event).2 = .done (.ok handled))
    (kept : Kept event (event.target db) (handleEvent env now db event).1
      found) :
    Absorbs env later found event handled := by
  cases event with
  | subscriptionCreated sub | subscriptionUpdated sub | subscriptionDeleted sub =>
      exact sub.absorbs rfl rfl rfl first kept
  | invoicePaid invoice => exact paid_absorbs invoice first kept
  | invoicePaymentFailed invoice => exact failed_absorbs invoice first kept
  | checkoutCompleted session => exact checkout_absorbs session first kept
  | other type =>
      have isFalse : handled = false := by
        rw [outcome_of_sendable env now
          (sendable_of_handled env now db first)] at first
        simpa [StripeEvent.demand] using first.symm
      exact isFalse ▸ .nothing (sendable_of_handled env now db first) rfl

end SecondDelivery

/-- Whatever unrelated events come in between, as long as they leave the row
alone that an event concerns, a second delivery of the event ends like the
first one and changes no row. -/
theorem redelivery_is_absorbed
    (env : BillingEnv)
    (db : BillingDb)
    (event : StripeEvent)
    (now later : Nat)
    (handled : Bool)
    (between : List (Nat × StripeEvent))
    (first : (handleEvent env now db event).2 = .done (.ok handled))
    (unrelated : ∀ timed ∈ between, timed.2.Unrelated event)
    (unchanged : ∀ key, event.target db = some key →
      (deliver env (handleEvent env now db event).1 between).access.find? key =
        (handleEvent env now db event).1.access.find? key) :
    (handleEvent env later
      (deliver env (handleEvent env now db event).1 between) event).2 =
        .done (.ok handled) ∧
    ∀ key, (handleEvent env later
      (deliver env (handleEvent env now db event).1 between)
        event).1.access.find? key =
      (deliver env (handleEvent env now db event).1 between).access.find?
        key := by
  obtain ⟨tenants, apps, prices⟩ :=
    others_deliver env (handleEvent env now db event).1 between
  have kept : Kept event (event.target db) (handleEvent env now db event).1
      (deliver env (handleEvent env now db event).1 between) := by
    refine ⟨tenants, apps, prices, unchanged, ?_⟩
    intro id isAbout
    apply unattached_deliver
    intro timed present
    exact (unrelated timed present).subscription id isAbout
  have absorbs : Absorbs env later _ event handled :=
    absorbs_of_handled first kept
  exact ⟨absorbs.outcome, absorbs.find?⟩

/-- A past-due subscription is delivered twice, two days apart, with another
subscription attached to another app in between. -/
theorem redelivery_is_absorbed_pastDue :
    let env : BillingEnv := ⟨7⟩
    let event := StripeEvent.subscriptionUpdated
      (demoSubscription "sub_1" .pastDue)
    let between := [(500, StripeEvent.subscriptionCreated
      ⟨"sub_2", .active, some ⟨some "t1", some "a2", none⟩, []⟩)]
    let left := (handleEvent env 1000 demoDb event).1
    (handleEvent env 172801000 (deliver env left between) event).2 =
        .done (.ok true) ∧
      ∀ key, (handleEvent env 172801000 (deliver env left between)
          event).1.access.find? key =
        (deliver env left between).access.find? key := by
  intro env event between left
  have first : (handleEvent env 1000 demoDb event).2 = .done (.ok true) := by
    change (handleEvent ⟨7⟩ 1000 demoDb (.subscriptionUpdated
      (demoSubscription "sub_1" .pastDue))).2 = .done (.ok true)
    rfl
  have unrelated : ∀ timed ∈ between, timed.2.Unrelated event := by
    intro timed present
    rw [List.mem_singleton.mp present]
    constructor
    · intro key named same
      have first : ("t1", "a1") = key := Option.some.inj named
      have second : ("t1", "a2") = key := Option.some.inj same
      exact absurd (first.trans second.symm) (by decide)
    · intro id named same
      have first : "sub_1" = id := Option.some.inj named
      have second : "sub_2" = id := Option.some.inj same
      exact absurd (first.trans second.symm) (by decide)
  have isLeft : left = (handleEvent env 1000 demoDb event).1 := rfl
  have unchanged : ∀ key, event.target demoDb = some key →
      (deliver env left between).access.find? key =
        left.access.find? key := by
    intro key concerned
    have isFirst : ("t1", "a1") = key := Option.some.inj concerned
    rw [← isFirst]
    decide +kernel
  rw [isLeft] at unchanged ⊢
  exact redelivery_is_absorbed env demoDb event 1000 172801000 true between
    first unrelated unchanged

end Billing
end EvoPlatform
