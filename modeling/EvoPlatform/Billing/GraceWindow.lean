import EvoPlatform.Billing.Ownership
import EvoPlatform.Billing.Suspension
import Mathlib.Data.List.Chain

/-!
# The grace window

The first failure of a subscription stamps a deadline on its row, and later
ones keep the deadline they find.  The end of the subscription clears it, so a
failure that comes after the end stamps a deadline of its own.
-/

namespace EvoPlatform
namespace Billing

open Auth

/-- A failure of a subscription: it is reported in a state other than active or
trialing, or a payment for it has failed. -/
inductive FailureOf (id : String) : StripeEvent → Prop
  | lapsed {event : StripeEvent} {sub : Subscription} :
      event.subscription = some sub → sub.id = id →
      sub.status ≠ .active → sub.status ≠ .trialing →
      FailureOf id event
  | unpaid {invoice : Invoice} :
      invoiceSubscriptionId invoice = some id →
      FailureOf id (.invoicePaymentFailed invoice)

/-- The failure leaves the row past due, and so keeps or stamps a deadline;
other failures suspend the row. -/
def StripeEvent.stamps : StripeEvent → Bool
  | .subscriptionCreated sub | .subscriptionUpdated sub
  | .subscriptionDeleted sub => sub.status = .pastDue
  | .invoicePaymentFailed _ => true
  | .invoicePaid _ | .checkoutCompleted _ | .other _ => false

/-- The price that an event reports. -/
def StripeEvent.price (event : StripeEvent) : Option String :=
  event.subscription.bind fun sub => given sub.prices.head?

/-- An event of a subscription finds the row that stores the subscription: its
metadata name the pair of the row, or lack a key.  A price id that PostgreSQL
refuses ends the call before it writes. -/
def StripeEvent.reaches (id : String) (key : String × String)
    (event : StripeEvent) : Bool :=
  (event.price.all fun price => Storable price) &&
    match event.pair with
    | some named => named = key
    | none => id ≠ ""

/-- What a failure makes of the row that it reaches. -/
structure Fails (env : BillingEnv) (now : Nat) (event : StripeEvent)
    (before after : AppTenant) : Prop where
  owner : after.stripeSubscriptionId = before.stripeSubscriptionId
  stamped : event.stamps = true →
    after.status = .pastDue ∧
      after.graceUntil =
        some (before.graceUntil.getD (env.graceDeadline now))
  ended : event.stamps = false →
    after.status = .suspended ∧ after.graceUntil = none

section Step

variable (env : BillingEnv) (now : Nat) {db : BillingDb} {event : StripeEvent}
  {id : String} {key : String × String} {row : AppTenant}

/-- A price id that PostgreSQL refuses leaves every row alone. -/
theorem access_handleEvent_of_refusedPrice
    {price : String}
    (reported : event.price = some price)
    (refused : ¬ Storable price) :
    (handleEvent env now db event).1.access = db.access := by
  obtain ⟨sub, reports, isPrice⟩ := Option.bind_eq_some_iff.mp reported
  have unsendable : ¬ event.Sendable db := by
    rw [StripeEvent.Sendable, StripeEvent.sentTexts_of_subscription reports,
      Subscription.sendable_iff]
    rintro ⟨-, storable, -⟩
    apply refused
    apply storable
    exact Option.mem_toList.mpr isPrice
  rw [access_handleEvent]
  split
  · rfl
  · rw [if_pos (.inl unsendable)]

/-- A failure that does not find the row leaves it alone. -/
theorem find?_of_not_reaches
    (failure : FailureOf id event)
    (missed : event.reaches id key = false) :
    (handleEvent env now db event).1.access.find? key =
      db.access.find? key := by
  rcases Bool.and_eq_false_iff.mp missed with refusedPrice | elsewhere
  · cases reported : event.price with
    | none => simp [reported] at refusedPrice
    | some price =>
        have refused : ¬ Storable price := by
          simpa [reported] using refusedPrice
        rw [access_handleEvent_of_refusedPrice env now reported refused]
  apply find?_handleEvent_of_ne_target
  have noId : given (some "") = none := by decide
  have unnamed : event.pair = none → id = "" := by
    intro lacking
    simpa [lacking] using elsewhere
  have elsewhere : ∀ named, event.pair = some named → named ≠ key := by
    intro named isNamed
    simpa [isNamed] using elsewhere
  cases failure with
  | @lapsed _ sub reports sameId _ _ =>
      have target : event.target db = sub.meta.pair.or
          ((db.accessBySubscriptionId (some sub.id)).map AppTenant.key) := by
        cases event <;> simp_all [StripeEvent.subscription, StripeEvent.target]
      have pair : event.pair = sub.meta.pair := by
        cases event <;> simp_all [StripeEvent.subscription, StripeEvent.pair]
      rw [target, ← pair]
      cases isNamed : event.pair with
      | some named => simpa using elsewhere named isNamed
      | none =>
          rw [sameId, unnamed isNamed]
          simp [BillingDb.accessBySubscriptionId, noId]
  | unpaid sameId =>
      simp [StripeEvent.target, sameId, unnamed rfl,
        BillingDb.accessBySubscriptionId, noId]

/-- What a lapsed subscription makes of the row that it owns. -/
theorem fails_update
    {sub : Subscription}
    (reports : event.subscription = some sub)
    (notActive : sub.status ≠ .active)
    (notTrialing : sub.status ≠ .trialing)
    (owner : row.stripeSubscriptionId = some sub.id)
    (tier : Option String) :
    Fails env now event row
      (setAccess (sub.update (sub.grace env now (some row)) tier) row) where
  owner := by
    rw [owner]
    rfl
  stamped isStamp := by
    have pastDue : sub.status = .pastDue := by
      cases event <;> simp_all [StripeEvent.subscription, StripeEvent.stamps]
    rw [status_setAccess, graceUntil_setAccess, Subscription.update,
      Subscription.create, Subscription.grace, pastDue]
    exact ⟨rfl, rfl⟩
  ended isEnd := by
    have notPastDue : sub.status ≠ .pastDue := by
      cases event <;> simp_all [StripeEvent.subscription, StripeEvent.stamps]
    have suspends : sub.status.access = .suspended := by
      cases status : sub.status <;> simp_all [SubscriptionStatus.access]
    rw [status_setAccess, graceUntil_setAccess, Subscription.update,
      Subscription.create, Subscription.grace, suspends]
    exact ⟨rfl, rfl⟩

/-- A failure that finds the row writes it. -/
theorem find?_of_reaches
    (stored : db.access.find? key = some row)
    (owner : row.stripeSubscriptionId = some id)
    (failure : FailureOf id event)
    (reaches : event.reaches id key = true) :
    ∃ after, (handleEvent env now db event).1.access.find? key = some after ∧
      Fails env now event row after := by
  have present := db.access.mem_of_find? stored
  have sameKey := db.access.key_of_find? stored
  obtain ⟨takesPrice, reaches⟩ := Bool.and_eq_true_iff.mp reaches
  cases failure with
  | @lapsed _ sub reports sameId notActive notTrialing =>
      have storable : sub.IdsStorable := by
        constructor
        · apply db.storable row present
          simp [accessTexts, owner, sameId]
        · intro price isPrice
          rw [Option.mem_def] at isPrice
          simpa [StripeEvent.price, reports, isPrice] using takesPrice
      have pair : event.pair = sub.meta.pair := by
        cases event <;> simp_all [StripeEvent.subscription, StripeEvent.pair]
      have looked : db.accessOf sub = some row := by
        apply BillingDb.accessOf_of_mem present
        · intro named isNamed
          rw [pair, isNamed] at reaches
          rw [sameKey]
          exact (of_decide_eq_true reaches).symm
        · intro lacking
          rw [pair, lacking] at reaches
          refine ⟨id, ?_, owner⟩
          simpa [given, sameId] using reaches
      have notIgnored : sub.ignoredBy row = false := by
        simp [Subscription.ignoredBy, owner, sameId]
      have notElsewhere : ¬ db.StoredElsewhere sub.id row.key := by
        rintro ⟨other, otherPresent, different, holds⟩
        have same := db.accounts.subscriptionUnique other otherPresent row
          present id (sameId ▸ holds) owner
        exact different (same ▸ rfl)
      have written := access_handleEvent_of_found env now reports looked
      rw [notIgnored] at written
      simp only [storable, notElsewhere, Bool.false_eq_true, not_true, or_self,
        if_false] at written
      refine ⟨setAccess (sub.update (sub.grace env now (some row))
        (db.tierOf sub)) row, ?_, ?_⟩
      · rw [written, Table.find?_put, key_setAccess, sameKey, if_pos rfl]
      · exact fails_update env now reports notActive notTrialing
          (sameId ▸ owner) (db.tierOf sub)
  | @unpaid invoice sameId =>
      have isGiven : given (invoiceSubscriptionId invoice) = some id := by
        rw [sameId]
        simpa [StripeEvent.pair, given] using reaches
      have written := access_handleEvent_of_failsPayment env now present
        ⟨invoice, id, rfl, isGiven, owner⟩
      refine ⟨failedRow env now row, ?_, ?_⟩
      · rw [written, Table.find?_put, key_failedRow, sameKey, if_pos rfl]
      · exact ⟨rfl, fun _ => ⟨rfl, rfl⟩, fun isEnd => by contradiction⟩

end Step

/-! ## The deadline -/

/-- After a deadline the row of a pair refuses logins. -/
def ClosedAfter (deadline : Nat) (key : String × String) (db : BillingDb) :
    Prop :=
  ∃ row, db.access.find? key = some row ∧
    ∀ instant, deadline < instant → assertEnablement instant (some row) ≠ .ok ()

/-- A row that is past due admits logins at its deadline. -/
theorem assertEnablement_at_deadline
    {row : AppTenant}
    {deadline : Nat}
    (pastDue : row.status = .pastDue)
    (grace : row.graceUntil = some deadline) :
    assertEnablement deadline (some row) = .ok () := by
  simp [assertEnablement, pastDue, grace, passed]

/-- The deadline on the row of a pair. -/
def graceOf (key : String × String) (db : BillingDb) : Option Nat :=
  (db.access.find? key).bind AppTenant.graceUntil

/-- Access ends at the latest when the grace period after the first event is
over, and a deadline that was stamped is never moved later. -/
structure BoundedGrace (env : BillingEnv) (db : BillingDb)
    (key : String × String) (events : List (Nat × StripeEvent)) : Prop where
  closes : ∀ first rest, events = first :: rest →
    Throughout (handleTimed env)
      (ClosedAfter (env.graceDeadline first.1) key)
      (handleTimed env db first) rest
  fixed : ∀ early late, early <+: late → late <+: events →
    ∀ stamped moved, graceOf key (deliver env db early) = some stamped →
      graceOf key (deliver env db late) = some moved → moved ≤ stamped

/-- A failure that stamps a deadline comes, later than a first one, directly
after the end of the subscription. -/
def Reopens (start : Nat) (earlier later : Nat × StripeEvent) : Prop :=
  earlier.2.stamps = false ∧ later.2.stamps = true ∧ start < later.1

/-- The events that find the row. -/
def reaching (id : String) (key : String × String)
    (events : List (Nat × StripeEvent)) : List (Nat × StripeEvent) :=
  events.filter fun timed => timed.2.reaches id key

theorem reaching_cons
    (id : String)
    (key : String × String)
    (timed : Nat × StripeEvent)
    (events : List (Nat × StripeEvent)) :
    reaching id key (timed :: events) =
      if timed.2.reaches id key then timed :: reaching id key events
      else reaching id key events := by
  simp only [reaching, List.filter_cons]

/-- The first event finds the row, and none of those that find it reopens the
grace window. -/
def NeverReopened (id : String) (key : String × String)
    (events : List (Nat × StripeEvent)) : Prop :=
  ∀ first ∈ events.head?, first.2.reaches id key = true ∧
    (reaching id key events).IsChain fun earlier later =>
      ¬ Reopens first.1 earlier later

/-- The row after a failure, as it stays within one grace window. -/
structure Window (id : String) (key : String × String) (deadline : Nat)
    (last : StripeEvent) (db : BillingDb) (row : AppTenant) : Prop where
  stored : db.access.find? key = some row
  owner : row.stripeSubscriptionId = some id
  stamped : last.stamps = true →
    row.status = .pastDue ∧ row.graceUntil = some deadline
  ended : last.stamps = false → row.status = .suspended ∧ row.graceUntil = none

section Scan

variable {env : BillingEnv} {db : BillingDb} {id : String}
  {key : String × String} {start : Nat} {last : StripeEvent} {row : AppTenant}

theorem Window.closed
    {deadline : Nat}
    (window : Window id key deadline last db row) :
    ClosedAfter deadline key db := by
  refine ⟨row, window.stored, ?_⟩
  intro instant expired
  cases stamps : last.stamps with
  | true =>
      obtain ⟨pastDue, grace⟩ := window.stamped stamps
      simp [assertEnablement, pastDue, grace, passed, expired]
  | false =>
      obtain ⟨suspended, _⟩ := window.ended stamps
      simp [assertEnablement, suspended]

theorem Window.graceOf
    {deadline stamped : Nat}
    (window : Window id key deadline last db row)
    (holds : Billing.graceOf key db = some stamped) :
    stamped = deadline := by
  rw [Billing.graceOf, window.stored, Option.bind_some] at holds
  cases stamps : last.stamps with
  | true =>
      rw [(window.stamped stamps).2] at holds
      exact (Option.some.inj holds).symm
  | false =>
      rw [(window.ended stamps).2] at holds
      contradiction

/-- A failure keeps the grace window unless it reopens it. -/
theorem Window.step
    {timed : Nat × StripeEvent}
    (window : Window id key (env.graceDeadline start) last db row)
    (failure : FailureOf id timed.2)
    (reaches : timed.2.reaches id key = true)
    (later : start ≤ timed.1)
    (kept : ¬ (last.stamps = false ∧ timed.2.stamps = true ∧ start < timed.1)) :
    ∃ after, Window id key (env.graceDeadline start) timed.2
      (handleTimed env db timed) after := by
  obtain ⟨after, stored, fails⟩ :=
    find?_of_reaches env timed.1 window.stored window.owner failure reaches
  refine ⟨after, stored, fails.owner.trans window.owner, ?_, fails.ended⟩
  intro stamps
  obtain ⟨pastDue, grace⟩ := fails.stamped stamps
  refine ⟨pastDue, grace.trans ?_⟩
  cases lastStamps : last.stamps with
  | true => rw [(window.stamped lastStamps).2, Option.getD_some]
  | false =>
      have sameTime : timed.1 = start := by
        by_contra different
        exact kept ⟨lastStamps, stamps, by omega⟩
      rw [(window.ended lastStamps).2, Option.getD_none, sameTime]

/-- A failure that reopens the grace window admits logins after the deadline of
the first one. -/
theorem Window.reopened
    {timed : Nat × StripeEvent}
    (window : Window id key (env.graceDeadline start) last db row)
    (failure : FailureOf id timed.2)
    (reaches : timed.2.reaches id key = true)
    (ended : last.stamps = false)
    (stamps : timed.2.stamps = true)
    (later : start < timed.1) :
    ¬ ClosedAfter (env.graceDeadline start) key (handleTimed env db timed) := by
  obtain ⟨after, stored, fails⟩ :=
    find?_of_reaches env timed.1 window.stored window.owner failure reaches
  obtain ⟨pastDue, grace⟩ := fails.stamped stamps
  rw [(window.ended ended).2, Option.getD_none] at grace
  rintro ⟨found, looked, closed⟩
  obtain rfl := Option.some.inj (stored.symm.trans looked)
  exact closed (env.graceDeadline timed.1) (env.graceDeadline_lt later)
    (assertEnablement_at_deadline pastDue grace)

/-- As long as no failure reopens the grace window, the row stays within it. -/
theorem Window.throughout
    {before : Nat}
    {events : List (Nat × StripeEvent)}
    (window : Window id key (env.graceDeadline start) last db row)
    (failures : ∀ timed ∈ events, FailureOf id timed.2)
    (later : ∀ timed ∈ events, start ≤ timed.1)
    (unbroken : ((before, last) :: reaching id key events).IsChain
      fun earlier later => ¬ Reopens start earlier later) :
    Throughout (handleTimed env)
      (fun state => ∃ last row,
        Window id key (env.graceDeadline start) last state row) db events := by
  induction events generalizing db last row before with
  | nil => exact Throughout.nil_iff.mpr ⟨last, row, window⟩
  | cons timed events inductionHypothesis =>
      obtain ⟨failure, laterFailures⟩ := List.forall_mem_cons.mp failures
      obtain ⟨isLater, laterTimes⟩ := List.forall_mem_cons.mp later
      rw [Throughout.cons_iff]
      refine ⟨⟨last, row, window⟩, ?_⟩
      rw [reaching_cons] at unbroken
      cases reaches : timed.2.reaches id key with
      | false =>
          rw [reaches, if_neg Bool.false_ne_true] at unbroken
          have same : (handleTimed env db timed).access.find? key =
              db.access.find? key :=
            find?_of_not_reaches env timed.1 failure reaches
          exact inductionHypothesis
            ⟨same.trans window.stored, window.owner, window.stamped,
              window.ended⟩ laterFailures laterTimes unbroken
      | true =>
          rw [reaches, if_pos rfl, List.isChain_cons_cons] at unbroken
          obtain ⟨after, kept⟩ :=
            window.step failure reaches isLater unbroken.1
          exact inductionHypothesis kept laterFailures laterTimes unbroken.2

/-- As long as the row is closed after the deadline, no failure has reopened
the grace window. -/
theorem Window.unbroken
    {before : Nat}
    {events : List (Nat × StripeEvent)}
    (window : Window id key (env.graceDeadline start) last db row)
    (failures : ∀ timed ∈ events, FailureOf id timed.2)
    (later : ∀ timed ∈ events, start ≤ timed.1)
    (closed : Throughout (handleTimed env)
      (ClosedAfter (env.graceDeadline start) key) db events) :
    ((before, last) :: reaching id key events).IsChain
      fun earlier later => ¬ Reopens start earlier later := by
  induction events generalizing db last row before with
  | nil => exact List.isChain_singleton _
  | cons timed events inductionHypothesis =>
      obtain ⟨failure, laterFailures⟩ := List.forall_mem_cons.mp failures
      obtain ⟨isLater, laterTimes⟩ := List.forall_mem_cons.mp later
      obtain ⟨_, laterClosed⟩ := Throughout.cons_iff.mp closed
      rw [reaching_cons]
      cases reaches : timed.2.reaches id key with
      | false =>
          rw [if_neg Bool.false_ne_true]
          have same : (handleTimed env db timed).access.find? key =
              db.access.find? key :=
            find?_of_not_reaches env timed.1 failure reaches
          exact inductionHypothesis
            ⟨same.trans window.stored, window.owner, window.stamped,
              window.ended⟩ laterFailures laterTimes laterClosed
      | true =>
          rw [if_pos rfl, List.isChain_cons_cons]
          have kept : ¬ Reopens start (before, last) timed := by
            rintro ⟨ended, stamps, isAfter⟩
            exact window.reopened failure reaches ended stamps isAfter
              laterClosed.initially
          obtain ⟨after, window⟩ := window.step failure reaches isLater kept
          exact ⟨kept, inductionHypothesis window laterFailures laterTimes
            laterClosed⟩

end Scan

/-- The first failure that finds an active row opens the grace window. -/
theorem window_of_first
    (env : BillingEnv)
    {db : BillingDb}
    {id : String}
    {key : String × String}
    {row : AppTenant}
    {first : Nat × StripeEvent}
    (stored : db.access.find? key = some row)
    (noGrace : row.graceUntil = none)
    (owner : row.stripeSubscriptionId = some id)
    (failure : FailureOf id first.2)
    (reaches : first.2.reaches id key = true) :
    ∃ after, Window id key (env.graceDeadline first.1) first.2
      (handleTimed env db first) after := by
  obtain ⟨after, found, fails⟩ :=
    find?_of_reaches env first.1 stored owner failure reaches
  refine ⟨after, found, fails.owner.trans owner, ?_, fails.ended⟩
  intro stamps
  obtain ⟨pastDue, grace⟩ := fails.stamped stamps
  rw [noGrace, Option.getD_none] at grace
  exact ⟨pastDue, grace⟩

/-- For an active row without a deadline and any failures of its subscription
in the order of their times, the grace window is bounded exactly when the first
failure finds the row, and no failure reopens the window. -/
theorem graceWindow_bounded_iff
    (env : BillingEnv)
    (db : BillingDb)
    (key : String × String)
    (row : AppTenant)
    (id : String)
    (events : List (Nat × StripeEvent))
    (stored : db.access.find? key = some row)
    (active : row.status = .active)
    (noGrace : row.graceUntil = none)
    (owner : row.stripeSubscriptionId = some id)
    (failures : ∀ timed ∈ events, FailureOf id timed.2)
    (ordered : events.Pairwise fun earlier later => earlier.1 ≤ later.1) :
    BoundedGrace env db key events ↔ NeverReopened id key events := by
  cases events with
  | nil =>
      constructor
      · intro _ first present
        contradiction
      · intro _
        refine ⟨fun first rest same => by contradiction, ?_⟩
        intro early late isPrefix atEnd stamped moved holds
        obtain rfl := List.prefix_nil.mp atEnd
        obtain rfl := List.prefix_nil.mp isPrefix
        rw [deliver, List.foldl_nil, graceOf, stored, Option.bind_some,
          noGrace] at holds
        contradiction
  | cons first rest =>
      obtain ⟨failure, laterFailures⟩ := List.forall_mem_cons.mp failures
      obtain ⟨later, _⟩ := List.pairwise_cons.mp ordered
      constructor
      · intro bounded start isFirst
        obtain rfl : first = start := by simpa using isFirst
        have closed := bounded.closes first rest rfl
        cases reaches : first.2.reaches id key with
        | false =>
            have same : (handleTimed env db first).access.find? key =
                db.access.find? key :=
              find?_of_not_reaches env first.1 failure reaches
            obtain ⟨found, looked, refused⟩ := closed.initially
            obtain rfl := Option.some.inj
              ((same.trans stored).symm.trans looked)
            exact absurd (by simp [assertEnablement, active])
              (refused _ (Nat.lt_succ_self _))
        | true =>
            obtain ⟨after, window⟩ :=
              window_of_first env stored noGrace owner failure reaches
            refine ⟨rfl, ?_⟩
            rw [reaching_cons, reaches, if_pos rfl]
            exact window.unbroken laterFailures later closed
      · intro neverReopened
        obtain ⟨reaches, unbroken⟩ := neverReopened first rfl
        obtain ⟨after, window⟩ :=
          window_of_first env stored noGrace owner failure reaches
        rw [reaching_cons, reaches, if_pos rfl] at unbroken
        have windows :=
          window.throughout laterFailures later unbroken
        refine ⟨?_, ?_⟩
        · rintro start others same
          obtain ⟨rfl, rfl⟩ := List.cons.inj same
          refine windows.mono fun state isWindow => ?_
          obtain ⟨_, _, window⟩ := isWindow
          exact window.closed
        · have stampedOnce : ∀ handled, handled <+: first :: rest →
              ∀ stamped, graceOf key (deliver env db handled) = some stamped →
                stamped = env.graceDeadline first.1 := by
            intro handled isPrefix stamped holds
            cases handled with
            | nil =>
                rw [deliver, List.foldl_nil, graceOf, stored,
                  Option.bind_some, noGrace] at holds
                contradiction
            | cons other handled =>
                obtain ⟨rfl, restPrefix⟩ := List.cons_prefix_cons.mp isPrefix
                obtain ⟨_, _, window⟩ := windows handled restPrefix
                exact window.graceOf holds
          intro early late isPrefix atEnd stamped moved holds laterHolds
          rw [stampedOnce early (isPrefix.trans atEnd) stamped holds,
            stampedOnce late atEnd moved laterHolds]

/-- A renewal of the subscription to the first app fails. -/
def failedRenewal : Nat × StripeEvent :=
  (2000, .subscriptionUpdated (demoSubscription "sub_1" .pastDue))

/-- Stripe gives up on the renewal and cancels the subscription. -/
def givenUp : Nat × StripeEvent :=
  (604802000, .subscriptionDeleted (demoSubscription "sub_1" .canceled))

/-- A last attempt at payment is reported as failed. -/
def lateFailure : Nat × StripeEvent :=
  (691202000, .invoicePaymentFailed ⟨none, some (.expanded "sub_1")⟩)

theorem failureOf_failedRenewal : FailureOf "sub_1" failedRenewal.2 :=
  .lapsed rfl rfl (by decide) (by decide)

theorem failureOf_givenUp : FailureOf "sub_1" givenUp.2 :=
  .lapsed rfl rfl (by decide) (by decide)

/-- A renewal that fails and is given up stays within its grace window. -/
theorem graceWindow_bounded_iff_givenUp :
    BoundedGrace ⟨7⟩ subscribedDb ("t1", "a1") [failedRenewal, givenUp] ↔
      NeverReopened "sub_1" ("t1", "a1") [failedRenewal, givenUp] := by
  apply graceWindow_bounded_iff ⟨7⟩ subscribedDb ("t1", "a1") subscribedRow
    "sub_1" _ find?_subscribedDb rfl rfl rfl
  · rw [List.forall_mem_cons, List.forall_mem_singleton]
    exact ⟨failureOf_failedRenewal, failureOf_givenUp⟩
  · decide

/-- The row after a failed payment has come in late. -/
def reopenedRow : AppTenant :=
  ⟨"t1", "a1", .pastDue, "pro", none, some 1296002000, some "sub_1"⟩

/-- A failed payment that comes in after the cancellation opens a second grace
window, in which logins are admitted again. -/
theorem lateFailure_reopens_window :
    subscribedDb.access.find? ("t1", "a1") = some subscribedRow ∧
    subscribedRow.status = .active ∧ subscribedRow.graceUntil = none ∧
    (∀ timed ∈ [failedRenewal, givenUp, lateFailure],
      FailureOf "sub_1" timed.2) ∧
    ¬ BoundedGrace ⟨7⟩ subscribedDb ("t1", "a1")
      [failedRenewal, givenUp, lateFailure] := by
  refine ⟨find?_subscribedDb, rfl, rfl, ?_, fun bounded => ?_⟩
  · rw [List.forall_mem_cons, List.forall_mem_cons, List.forall_mem_singleton]
    exact ⟨failureOf_failedRenewal, failureOf_givenUp, .unpaid rfl⟩
  · obtain ⟨row, looked, closed⟩ :=
      bounded.closes failedRenewal [givenUp, lateFailure] rfl _ List.prefix_rfl
    have reopened : (deliver ⟨7⟩ subscribedDb
        [failedRenewal, givenUp, lateFailure]).access.find? ("t1", "a1") =
        some reopenedRow := by
      decide +kernel
    obtain rfl := Option.some.inj (reopened.symm.trans looked)
    exact closed 1296002000 (by decide) (by decide)

end Billing
end EvoPlatform
