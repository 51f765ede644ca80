import EvoPlatform.Billing.Ownership

/-!
# When the webhook throws

An event that throws is delivered again for days.  A call throws exactly when
the database refuses one of its statements and the refusal is not the one that
the webhook absorbs, a foreign key on a new row.
-/

namespace EvoPlatform
namespace Billing

open Auth

/-- The write that a call is about to send brings in a text with a U+0000, or
violates a constraint other than a foreign key on a new row. -/
def Phase.WriteRefused (db : BillingDb) : Phase → Prop
  | .createAccess _ key data =>
      db.access.find? key ≠ none ∨
        ¬ StorableAccess (setAccess data (defaultAccess key)) ∨
        db.Taken (setAccess data (defaultAccess key))
  | .updateAccess _ access data =>
      ∀ row, db.access.find? access.key = some row →
        ¬ StorableAccess (setAccess data row) ∨ db.Taken (setAccess data row)
  | .liftPastDue access | .markPastDue access _ =>
      db.access.find? access.key = none
  | .upsertPurchase session key =>
      ¬ StorableAccess (purchasedRow db key session.meta.tier)
  | _ => False

/-- The statement that a call is about to send is refused, and the refusal is
not absorbed. -/
def Phase.Refused (db : BillingDb) (phase : Phase) : Prop :=
  ¬ phase.Sendable ∨ phase.WriteRefused db

/-- The call has not thrown. -/
def Phase.Calm (phase : Phase) : Prop :=
  ∀ error, phase ≠ .done (.error error)

/-- How many statements a call has left to send, at most. -/
def Phase.rank : Phase → Nat
  | .findAccess _ => 4
  | .findPrice _ _ _ | .findPaid _ | .findFailed _ => 3
  | .createAccess _ _ _ | .updateAccess _ _ _ | .liftPastDue _
  | .markPastDue _ _ | .upsertPurchase _ _ => 2
  | .recordSync _ _ | .recordOrphan _ _ _ | .recordRecovered _
  | .recordFailed _ | .recordPurchase _ _ => 1
  | .done _ => 0

namespace BillingDb

variable {db : BillingDb}

/-- A creation fails but for a foreign key exactly when the row is there, has
a text that PostgreSQL refuses, or stores a subscription of another row. -/
theorem createAccess_cases
    (db : BillingDb)
    (key : String × String)
    (data : AccessData) :
    ((db.access.find? key ≠ none ∨
        ¬ StorableAccess (setAccess data (defaultAccess key)) ∨
        db.Taken (setAccess data (defaultAccess key))) ∧
      ∃ error, error ≠ .P2003 ∧ db.createAccess key data = .error error) ∨
    (¬ (db.access.find? key ≠ none ∨
        ¬ StorableAccess (setAccess data (defaultAccess key)) ∨
        db.Taken (setAccess data (defaultAccess key))) ∧
      (db.createAccess key data = .error .P2003 ∨
        ∃ result, db.createAccess key data = .ok result)) := by
  unfold createAccess
  cases found : db.access.find? key with
  | some row => simp
  | none =>
      cases db.writeCase (setAccess data (defaultAccess key)) with
      | unstorable unstorable failed => simp [unstorable, failed, Except.map]
      | taken _ taken failed => simp [taken, failed, Except.map]
      | unknown storable free _ failed =>
          simp [storable, free, failed, Except.map]
      | written storable free _ success _ =>
          simp [storable, free, success, Except.map]

/-- An update fails exactly when its row is missing, brings in a text that
PostgreSQL refuses, or stores a subscription of another row. -/
theorem updateAccess_cases
    (db : BillingDb)
    (key : String × String)
    (data : AccessData) :
    ((∀ row, db.access.find? key = some row →
        ¬ StorableAccess (setAccess data row) ∨
          db.Taken (setAccess data row)) ∧
      ∃ error, db.updateAccess key data = .error error) ∨
    (¬ (∀ row, db.access.find? key = some row →
        ¬ StorableAccess (setAccess data row) ∨
          db.Taken (setAccess data row)) ∧
      ∃ result, db.updateAccess key data = .ok result) := by
  unfold updateAccess
  cases found : db.access.find? key with
  | none => simp
  | some row =>
      have known : db.Known (setAccess data row).key := by
        rw [key_setAccess]
        exact known_of_find? found
      cases db.writeCase (setAccess data row) with
      | unstorable unstorable failed => simp [unstorable, failed, Except.map]
      | taken _ taken failed => simp [taken, failed, Except.map]
      | unknown _ _ unknown _ => exact absurd known unknown
      | written storable free _ success _ =>
          simp [storable, free, success, Except.map]

/-- An update that brings in no text fails exactly when its row is missing. -/
theorem updateAccess_cases_of_kept
    (db : BillingDb)
    (key : String × String)
    (data : AccessData)
    (keepsPlan : data.plan = none)
    (keepsId : data.stripeSubscriptionId = none) :
    (db.access.find? key = none ∧
      ∃ error, db.updateAccess key data = .error error) ∨
    (db.access.find? key ≠ none ∧
      ∃ result, db.updateAccess key data = .ok result) := by
  unfold updateAccess
  cases found : db.access.find? key with
  | none => simp
  | some row =>
      obtain ⟨written, success, -⟩ :=
        write_of_kept (db.access.mem_of_find? found) keepsPlan keepsId
      simp [success, Except.map]

/-- A purchase is refused for its texts, or by a foreign key. -/
theorem upsertAccess_cases
    (db : BillingDb)
    (key : String × String)
    (tier : Option String) :
    (¬ StorableAccess (purchasedRow db key tier) ∧
      db.upsertAccess key (purchaseCreate tier) (purchaseUpdate tier) =
        .error .unstorable) ∨
    (StorableAccess (purchasedRow db key tier) ∧
      (db.upsertAccess key (purchaseCreate tier) (purchaseUpdate tier) =
          .error .P2003 ∨
        ∃ written,
          db.upsertAccess key (purchaseCreate tier) (purchaseUpdate tier) =
            .ok written)) := by
  rw [upsertAccess_eq]
  cases db.writeCase (purchasedRow db key tier) with
  | unstorable unstorable failed => exact .inl ⟨unstorable, failed⟩
  | taken _ taken _ => exact absurd taken (free_purchasedRow db key tier)
  | unknown storable _ _ failed => exact .inr ⟨storable, .inl failed⟩
  | written storable _ _ success _ => exact .inr ⟨storable, .inr ⟨_, success⟩⟩

end BillingDb

/-- A statement whose texts PostgreSQL takes makes a call throw exactly when it
is a write that is refused. -/
theorem Phase.calm_carryOut_iff
    (env : BillingEnv)
    (now : Nat)
    (db : BillingDb)
    (phase : Phase)
    (calm : phase.Calm) :
    (phase.carryOut env now db).2.Calm ↔ ¬ phase.WriteRefused db := by
  cases phase with
  | findAccess sub => simp [Phase.carryOut, Phase.Calm, Phase.WriteRefused]
  | findPrice sub access graceUntil =>
      simp only [Phase.carryOut, Phase.WriteRefused, not_false_eq_true,
        iff_true]
      unfold Subscription.tiered
      intro error
      split <;> split <;> simp
  | createAccess sub key data =>
      simp only [Phase.carryOut, Phase.WriteRefused]
      rcases db.createAccess_cases key data with
        ⟨refused, error, notOrphan, failed⟩ | ⟨free, orphan | ⟨result, success⟩⟩
      · rw [failed]
        refine iff_of_false ?_ (not_not.mpr refused)
        cases error <;> simp_all [Phase.Calm]
      · simp [orphan, free, Phase.Calm]
      · simp [success, free, Phase.Calm]
  | updateAccess sub access data =>
      simp only [Phase.carryOut, Phase.WriteRefused]
      rcases db.updateAccess_cases access.key data with
        ⟨refused, error, failed⟩ | ⟨free, result, success⟩
      · simp only [failed]
        exact iff_of_false (by simp [Phase.Calm]) (not_not.mpr refused)
      · simp only [success]
        exact iff_of_true (by simp [Phase.Calm]) free
  | recordSync sub access =>
      simp [Phase.carryOut, Phase.Calm, Phase.WriteRefused]
  | recordOrphan id metadata status =>
      simp [Phase.carryOut, Phase.Calm, Phase.WriteRefused]
  | findPaid id =>
      simp only [Phase.carryOut, Phase.WriteRefused, not_false_eq_true,
        iff_true]
      intro error
      split
      · simp
      · split <;> simp
  | liftPastDue access =>
      simp only [Phase.carryOut, Phase.WriteRefused]
      rcases db.updateAccess_cases_of_kept access.key recoveredAccess rfl
          rfl with
        ⟨missing, error, failed⟩ | ⟨present, result, success⟩
      · simp [failed, missing, Phase.Calm]
      · simp [success, present, Phase.Calm]
  | recordRecovered access =>
      simp [Phase.carryOut, Phase.Calm, Phase.WriteRefused]
  | findFailed id =>
      simp only [Phase.carryOut, Phase.WriteRefused, not_false_eq_true,
        iff_true]
      intro error
      split <;> simp
  | markPastDue access graceUntil =>
      simp only [Phase.carryOut, Phase.WriteRefused]
      rcases db.updateAccess_cases_of_kept access.key
          (failedAccess graceUntil) rfl rfl with
        ⟨missing, error, failed⟩ | ⟨present, result, success⟩
      · simp [failed, missing, Phase.Calm]
      · simp [success, present, Phase.Calm]
  | recordFailed access =>
      simp [Phase.carryOut, Phase.Calm, Phase.WriteRefused]
  | upsertPurchase session key =>
      simp only [Phase.carryOut, Phase.WriteRefused]
      rcases db.upsertAccess_cases key session.meta.tier with
        ⟨unstorable, failed⟩ | ⟨storable, orphan | ⟨written, success⟩⟩
      · simp [failed, unstorable, Phase.Calm]
      · simp [orphan, storable, Phase.Calm]
      · simp [success, storable, Phase.Calm]
  | recordPurchase session key =>
      simp [Phase.carryOut, Phase.Calm, Phase.WriteRefused]
  | done outcome => simpa [Phase.carryOut, Phase.WriteRefused] using calm

/-- A step of a call that has not thrown throws exactly when its statement is
refused. -/
theorem Phase.calm_step_iff
    (env : BillingEnv)
    (now : Nat)
    (db : BillingDb)
    (phase : Phase)
    (calm : phase.Calm) :
    (phase.step env now db).2.Calm ↔ ¬ phase.Refused db := by
  unfold Phase.Refused
  by_cases sendable : phase.Sendable
  · rw [Phase.step_of_sendable sendable,
      phase.calm_carryOut_iff env now db calm]
    simp [sendable]
  · rw [Phase.step_of_unsendable sendable]
    simp [sendable, Phase.Calm]

/-- A statement that is carried out leaves fewer statements to send. -/
theorem Phase.rank_carryOut
    (env : BillingEnv)
    (now : Nat)
    (db : BillingDb)
    (phase : Phase) :
    (phase.carryOut env now db).2.rank ≤ phase.rank - 1 := by
  cases phase with
  | findPrice sub access graceUntil =>
      simp only [Phase.carryOut, Subscription.tiered]
      split <;> split <;> simp [Phase.rank]
  | createAccess sub key data =>
      simp only [Phase.carryOut]
      split <;> simp [Phase.rank]
  | updateAccess sub access data =>
      simp only [Phase.carryOut]
      split <;> simp [Phase.rank]
  | findPaid id =>
      simp only [Phase.carryOut]
      split
      · simp [Phase.rank]
      · split <;> simp [Phase.rank]
  | liftPastDue access =>
      simp only [Phase.carryOut]
      split <;> simp [Phase.rank]
  | findFailed id =>
      simp only [Phase.carryOut]
      split <;> simp [Phase.rank]
  | markPastDue access graceUntil =>
      simp only [Phase.carryOut]
      split <;> simp [Phase.rank]
  | upsertPurchase session key =>
      simp only [Phase.carryOut]
      split <;> simp [Phase.rank]
  | findAccess sub => simp [Phase.carryOut, Phase.rank]
  | recordSync sub access => simp [Phase.carryOut, Phase.rank]
  | recordOrphan id metadata status => simp [Phase.carryOut, Phase.rank]
  | recordRecovered access => simp [Phase.carryOut, Phase.rank]
  | recordFailed access => simp [Phase.carryOut, Phase.rank]
  | recordPurchase session key => simp [Phase.carryOut, Phase.rank]
  | done outcome => simp [Phase.carryOut, Phase.rank]

/-- Every step leaves fewer statements to send. -/
theorem Phase.rank_step
    (env : BillingEnv)
    (now : Nat)
    (db : BillingDb)
    (phase : Phase) :
    (phase.step env now db).2.rank ≤ phase.rank - 1 := by
  by_cases sendable : phase.Sendable
  · rw [Phase.step_of_sendable sendable]
    exact phase.rank_carryOut env now db
  · rw [Phase.step_of_unsendable sendable]
    exact Nat.zero_le _

/-! ## Calls among others -/

/-- What happens while one call of the webhook is under way. -/
inductive CallEvent
  /-- The call sends its next statement. -/
  | advance (now : Nat)
  /-- Other calls, of the webhook or of operators, change the database. -/
  | others (db : BillingDb)

/-- Does the call go on? -/
def CallEvent.isAdvance : CallEvent → Bool
  | .advance _ => true
  | .others _ => false

/-- A call of the webhook, with others in between its statements. -/
def callStep (env : BillingEnv) :
    BillingDb × Phase → CallEvent → Option (BillingDb × Phase)
  | (db, phase), .advance now => some (phase.step env now db)
  | (_, phase), .others db => some (db, phase)

/-- The statement that a call sends is not refused. -/
def Unrefused (state : BillingDb × Phase) : CallEvent → Prop
  | .advance _ => ¬ state.2.Refused state.1
  | .others _ => True

section Runs

variable {env : BillingEnv} {start final : BillingDb × Phase}
  {events : List CallEvent}

/-- A call that has thrown has thrown for good. -/
theorem thrown_of_run
    (run : Run (callStep env) (fun _ _ => True) start events final)
    (thrown : ¬ start.2.Calm) :
    ¬ final.2.Calm := by
  apply Run.invariant (fun state => ¬ state.2.Calm) _ run thrown
  rintro ⟨db, phase⟩ event next isThrown _ stepped
  cases event with
  | others other =>
      obtain rfl := Option.some.inj stepped
      exact isThrown
  | advance now =>
      obtain rfl := Option.some.inj stepped
      obtain ⟨error, ended⟩ := not_forall_not.mp isThrown
      obtain rfl : phase = .done (.error error) := ended
      exact isThrown

/-- Among others, a call goes without throwing exactly when none of its
statements is refused. -/
theorem calm_iff_run_unrefused
    (run : Run (callStep env) (fun _ _ => True) start events final)
    (calm : start.2.Calm) :
    final.2.Calm ↔ Run (callStep env) Unrefused start events final := by
  induction run with
  | nil state => exact iff_of_true calm (.nil state)
  | @cons state next final event events _ stepped rest inductionHypothesis =>
      obtain ⟨db, phase⟩ := state
      rw [Run.cons_iff stepped]
      cases event with
      | others other =>
          obtain rfl := Option.some.inj stepped
          have unrefused : Unrefused (db, phase) (.others other) := trivial
          rw [inductionHypothesis calm]
          exact (and_iff_right unrefused).symm
      | advance now =>
          obtain rfl := Option.some.inj stepped
          by_cases refused : phase.Refused db
          · have thrown : ¬ (phase.step env now db).2.Calm := by
              rw [phase.calm_step_iff env now db calm]
              exact not_not.mpr refused
            exact iff_of_false (thrown_of_run rest thrown)
              fun unrefused => unrefused.1 refused
          · have stillCalm := (phase.calm_step_iff env now db calm).mpr refused
            have unrefused : Unrefused (db, phase) (.advance now) := refused
            rw [inductionHypothesis stillCalm]
            exact (and_iff_right unrefused).symm

/-- What a call has left to send when it has gone on often enough. -/
theorem rank_of_run
    (run : Run (callStep env) (fun _ _ => True) start events final) :
    final.2.rank ≤ start.2.rank - events.countP CallEvent.isAdvance := by
  induction run with
  | nil state => simp
  | @cons state next final event events _ stepped _ inductionHypothesis =>
      obtain ⟨db, phase⟩ := state
      cases event with
      | others other =>
          obtain rfl := Option.some.inj stepped
          simpa [CallEvent.isAdvance] using inductionHypothesis
      | advance now =>
          obtain rfl := Option.some.inj stepped
          have decreased := phase.rank_step env now db
          simp only [List.countP_cons, CallEvent.isAdvance, if_true]
          omega

end Runs

/-- No call has more than four statements to send. -/
theorem rank_begins (event : StripeEvent) : event.begins.rank ≤ 4 := by
  cases event with
  | checkoutCompleted session =>
      simp only [StripeEvent.begins, onCheckoutCompleted]
      split
      · simp [Phase.rank]
      · split <;> simp [Phase.rank]
  | _ => simp [StripeEvent.begins, Phase.rank]

theorem calm_begins (event : StripeEvent) : event.begins.Calm := by
  intro error
  cases event with
  | checkoutCompleted session =>
      simp only [StripeEvent.begins, onCheckoutCompleted]
      split
      · simp
      · split <;> simp
  | _ => simp [StripeEvent.begins]

/-- A call with nothing left to send has returned, or has thrown. -/
theorem Phase.calm_iff_of_rank
    {phase : Phase}
    (ended : phase.rank = 0) :
    phase.Calm ↔ ∃ handled, phase = .done (.ok handled) := by
  cases phase with
  | done outcome =>
      cases outcome with
      | ok handled => simp [Phase.Calm]
      | error error => simp [Phase.Calm]
  | _ => simp [Phase.rank] at ended

/-- A subscription whose metadata name a pair is stored by the row of another
pair, and the row of the named pair does not ignore it. -/
def Misrouted (db : BillingDb) (event : StripeEvent) : Prop :=
  ∃ sub key, event.subscription = some sub ∧ sub.meta.pair = some key ∧
    db.StoredElsewhere sub.id key ∧
    ∀ row, db.access.find? key = some row → sub.ignoredBy row = false

section Misrouted

variable {env : BillingEnv} {now : Nat} {db : BillingDb}

/-- The row that a subscription asks for is taken exactly when the subscription
is misrouted. -/
theorem taken_of_subscription_iff
    {event : StripeEvent}
    {sub : Subscription}
    (reports : event.subscription = some sub) :
    (∃ row, sub.demand env now db = .row row ∧ db.Taken row) ↔
      Misrouted db event := by
  have misrouted : Misrouted db event ↔ ∃ key, sub.meta.pair = some key ∧
      db.StoredElsewhere sub.id key ∧
      ∀ row, db.access.find? key = some row → sub.ignoredBy row = false := by
    simp [Misrouted, reports]
  rw [misrouted]
  unfold Subscription.demand
  cases looked : db.accessOf sub with
  | none =>
      cases named : sub.meta.pair with
      | none => simp
      | some key =>
          have absent := BillingDb.find?_of_accessOf_eq_none named looked
          have taken : db.Taken (setAccess
              (sub.create (sub.grace env now none) (db.tierOf sub))
              (defaultAccess key)) ↔ db.StoredElsewhere sub.id key :=
            db.taken_update_iff sub (sub.grace env now none) (db.tierOf sub)
              (defaultAccess key)
          simp [absent, taken]
  | some row =>
      cases ignored : sub.ignoredBy row with
      | true =>
          simp only [ignored, if_true]
          apply iff_of_false
          · rintro ⟨_, demanded, _⟩
            contradiction
          · rintro ⟨key, named, _, notIgnored⟩
            simp only [BillingDb.accessOf, named] at looked
            rw [notIgnored row looked] at ignored
            contradiction
      | false =>
          simp only [ignored, Bool.false_eq_true, if_false, Demand.row.injEq,
            exists_eq_left', BillingDb.taken_update_iff]
          cases named : sub.meta.pair with
          | some key =>
              have sameKey := BillingDb.key_of_accessOf named looked
              simp only [BillingDb.accessOf, named] at looked
              simp [sameKey, looked, ignored]
          | none =>
              simp only [BillingDb.accessOf, named] at looked
              obtain ⟨present, value, isGiven, holds⟩ :=
                BillingDb.of_accessBySubscriptionId looked
              have isId : sub.id = value :=
                Option.some.inj (eq_of_given isGiven)
              simp only [reduceCtorEq, false_and, exists_false, iff_false]
              rintro ⟨other, otherPresent, different, otherHolds⟩
              have same := db.accounts.subscriptionUnique other otherPresent
                row present value (isId ▸ otherHolds) holds
              exact different (same ▸ rfl)

/-- The row that an event asks for is taken exactly when the event is
misrouted. -/
theorem taken_iff_misrouted
    (env : BillingEnv)
    (now : Nat)
    (db : BillingDb)
    (event : StripeEvent) :
    (∃ row, event.demand env now db = .row row ∧ db.Taken row) ↔
      Misrouted db event := by
  have stays : ∀ stored ∈ db.access.rows, ∀ row, row.key = stored.key →
      row.stripeSubscriptionId = stored.stripeSubscriptionId →
        ¬ db.Taken row :=
    fun stored present row sameKey sameId =>
      db.accounts.subscriptionUnique.not_heldElsewhere present sameKey sameId
  cases event with
  | subscriptionCreated sub => exact taken_of_subscription_iff rfl
  | subscriptionUpdated sub => exact taken_of_subscription_iff rfl
  | subscriptionDeleted sub => exact taken_of_subscription_iff rfl
  | invoicePaid invoice =>
      apply iff_of_false
      · rintro ⟨row, demanded, taken⟩
        simp only [StripeEvent.demand, paidDemand] at demanded
        split at demanded
        · contradiction
        · rename_i stored found
          unfold recover at demanded
          split at demanded
          · obtain rfl := Demand.row.inj demanded
            exact stays stored (BillingDb.of_accessBySubscriptionId found).1 _
              rfl rfl taken
          · contradiction
      · rintro ⟨sub, key, reports, _⟩
        contradiction
  | invoicePaymentFailed invoice =>
      apply iff_of_false
      · rintro ⟨row, demanded, taken⟩
        simp only [StripeEvent.demand, failedDemand] at demanded
        split at demanded
        · contradiction
        · rename_i stored found
          obtain rfl := Demand.row.inj demanded
          exact stays stored (BillingDb.of_accessBySubscriptionId found).1 _
            rfl rfl taken
      · rintro ⟨sub, key, reports, _⟩
        contradiction
  | checkoutCompleted session =>
      apply iff_of_false
      · rintro ⟨row, demanded, taken⟩
        simp only [StripeEvent.demand, checkoutDemand] at demanded
        split at demanded
        · contradiction
        · obtain rfl := Demand.row.inj demanded
          exact free_purchasedRow db _ _ taken
      · rintro ⟨sub, key, reports, _⟩
        contradiction
  | other type =>
      apply iff_of_false
      · rintro ⟨row, demanded, _⟩
        contradiction
      · rintro ⟨sub, key, reports, _⟩
        contradiction

end Misrouted

/-- Whatever others do to the database in between its statements, a call of the
webhook returns exactly when none of its statements is refused; and a call that
has the database to itself returns exactly when its event is not misrouted and
PostgreSQL takes the texts that it sends. -/
theorem webhook_returns_iff
    (env : BillingEnv)
    (db : BillingDb)
    (event : StripeEvent) :
    (∀ events final,
      Run (callStep env) (fun _ _ => True) (db, event.begins) events final →
      4 ≤ events.countP CallEvent.isAdvance →
        ((∃ handled, final.2 = .done (.ok handled)) ↔
          Run (callStep env) Unrefused (db, event.begins) events final)) ∧
    ∀ now, (∃ handled, (handleEvent env now db event).2 =
      .done (.ok handled)) ↔ ¬ Misrouted db event ∧ event.Sendable db := by
  constructor
  · intro events final run enough
    have bounded := rank_of_run run
    have few := rank_begins event
    have ended : final.2.rank = 0 := by
      simp only at bounded
      omega
    rw [← Phase.calm_iff_of_rank ended]
    exact calm_iff_run_unrefused run (calm_begins event)
  · intro now
    rw [outcome_handleEvent, ← taken_iff_misrouted env now db event]
    by_cases sendable : event.Sendable db
    · cases event.demand env now db with
      | nothing handled => simp [sendable]
      | row row =>
          by_cases taken : db.Taken row
          · simp [sendable, taken]
          · simp [sendable, taken]
    · simp [sendable]

/-- The metadata of a subscription have been changed to name the second app. -/
def movedSubscription : Subscription :=
  ⟨"sub_1", .active, some ⟨some "t1", some "a2", some "pro"⟩, ["price_1"]⟩

/-- A subscription that still names the app whose row stores it is handled, and
so is one among others. -/
theorem webhook_returns_iff_subscribed :
    ((∃ handled, (handleEvent ⟨7⟩ 2000 subscribedDb
        (.subscriptionUpdated (demoSubscription "sub_1" .pastDue))).2 =
          .done (.ok handled)) ↔
      ¬ Misrouted subscribedDb
        (.subscriptionUpdated (demoSubscription "sub_1" .pastDue)) ∧
      StripeEvent.Sendable
        (.subscriptionUpdated (demoSubscription "sub_1" .pastDue))
        subscribedDb) ∧
    (∃ final, Run (callStep ⟨7⟩) (fun _ _ => True)
        (subscribedDb, .findPaid (some "sub_1"))
        [.advance 2000, .others demoDb, .advance 2000, .advance 2000,
          .advance 2000] final ∧
      ((∃ handled, final.2 = .done (.ok handled)) ↔
        Run (callStep ⟨7⟩) Unrefused
          (subscribedDb, .findPaid (some "sub_1"))
          [.advance 2000, .others demoDb, .advance 2000, .advance 2000,
            .advance 2000] final)) := by
  refine ⟨(webhook_returns_iff ⟨7⟩ subscribedDb _).2 2000, ?_⟩
  have run : Run (callStep ⟨7⟩) (fun _ _ => True)
      (subscribedDb, .findPaid (some "sub_1"))
      [.advance 2000, .others demoDb, .advance 2000, .advance 2000,
        .advance 2000] (demoDb, .done (.ok true)) :=
    .cons trivial rfl (.cons trivial rfl (.cons trivial rfl (.cons trivial rfl
      (.cons trivial rfl (.nil _)))))
  exact ⟨_, run, (webhook_returns_iff ⟨7⟩ subscribedDb
    (.invoicePaid ⟨some (.id "sub_1"), none⟩)).1 _ _ run (by decide)⟩

/-- The metadata of a checkout name a workspace with a U+0000. -/
def unsendableSession : Session :=
  ⟨"cs_1", .payment, .paid,
    some ⟨some (String.singleton (Char.ofNat 0)), some "a1", none⟩⟩

/-- A subscription that names another app than the one whose row stores it
makes the webhook throw, and so does a checkout whose metadata have a
U+0000. -/
theorem movedSubscription_throws :
    subscribedDb = deliver ⟨7⟩ demoDb
      [(1000, .subscriptionCreated (demoSubscription "sub_1" .active))] ∧
    (handleEvent ⟨7⟩ 2000 subscribedDb
      (.subscriptionUpdated movedSubscription)).2 = .done (.error .P2002) ∧
    (¬ ∃ handled, (handleEvent ⟨7⟩ 2000 subscribedDb
      (.subscriptionUpdated movedSubscription)).2 = .done (.ok handled)) ∧
    (handleEvent ⟨7⟩ 2000 subscribedDb
      (.checkoutCompleted unsendableSession)).2 =
        .done (.error .unstorable) := by
  have thrown : (handleEvent ⟨7⟩ 2000 subscribedDb
      (.subscriptionUpdated movedSubscription)).2 = .done (.error .P2002) := by
    rfl
  refine ⟨rfl, thrown, ?_, by rfl⟩
  rintro ⟨handled, returned⟩
  rw [thrown] at returned
  cases returned

end Billing
end EvoPlatform
