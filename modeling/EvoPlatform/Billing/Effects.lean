import EvoPlatform.Billing.Webhook

/-!
# What an event does to the rows

An event either asks for nothing or asks for one row to be written.  The calls
of the webhook carry out what the event asks for, as far as the constraints
permit; later arguments look at the demand and never at the phases.
-/

namespace EvoPlatform
namespace Billing

open Auth

/-- What an event asks of the rows. -/
inductive Demand
  /-- Nothing, and whether the event counts as handled. -/
  | nothing (handled : Bool)
  /-- That this row be written. -/
  | row (row : AppTenant)

/-- What a subscription asks for. -/
def Subscription.demand (env : BillingEnv) (now : Nat) (db : BillingDb)
    (sub : Subscription) : Demand :=
  match db.accessOf sub with
  | none =>
      match sub.meta.pair with
      | none => .nothing false
      | some key => .row (setAccess
          (sub.create (sub.grace env now none) (db.tierOf sub))
          (defaultAccess key))
  | some row =>
      if sub.ignoredBy row then .nothing true
      else .row (setAccess
        (sub.update (sub.grace env now (some row)) (db.tierOf sub)) row)

/-- What a recovered payment asks of its row. -/
def recover (row : AppTenant) : Demand :=
  if row.status = .pastDue then .row (setAccess recoveredAccess row)
  else .nothing true

/-- What a recovered payment asks for. -/
def paidDemand (db : BillingDb) (invoice : Invoice) : Demand :=
  match db.accessBySubscriptionId (invoiceSubscriptionId invoice) with
  | none => .nothing false
  | some row => recover row

/-- The row that a failed payment leaves. -/
def failedRow (env : BillingEnv) (now : Nat) (row : AppTenant) : AppTenant :=
  setAccess (failedAccess (row.graceUntil.getD (env.graceDeadline now))) row

@[simp] theorem key_failedRow (env : BillingEnv) (now : Nat)
    (row : AppTenant) : (failedRow env now row).key = row.key := rfl

/-- What a failed payment asks for. -/
def failedDemand (env : BillingEnv) (now : Nat) (db : BillingDb)
    (invoice : Invoice) : Demand :=
  match db.accessBySubscriptionId (invoiceSubscriptionId invoice) with
  | none => .nothing false
  | some row => .row (failedRow env now row)

/-- The row that a purchase leaves. -/
def purchasedRow (db : BillingDb) (key : String × String)
    (tier : Option String) : AppTenant :=
  match db.access.find? key with
  | none => setAccess (purchaseCreate tier) (defaultAccess key)
  | some row => setAccess (purchaseUpdate tier) row

@[simp] theorem key_purchasedRow (db : BillingDb) (key : String × String)
    (tier : Option String) :
    (purchasedRow db key tier).key = key := by
  unfold purchasedRow
  split
  · rfl
  · rename_i stored found
    rw [key_setAccess]
    exact db.access.key_of_find? found

/-- The pair that a checkout session has paid for. -/
def Session.purchase (session : Session) : Option (String × String) :=
  if session.mode ≠ .payment || session.paymentStatus ≠ .paid then none
  else session.meta.pair

theorem Session.pair_of_purchase
    {session : Session}
    {key : String × String}
    (bought : session.purchase = some key) :
    session.meta.pair = some key := by
  unfold Session.purchase at bought
  split at bought
  · contradiction
  · exact bought

/-- A checkout goes on with what it has bought. -/
theorem onCheckoutCompleted_eq (session : Session) :
    onCheckoutCompleted session =
      match session.purchase with
      | none => .done (.ok false)
      | some key => .upsertPurchase session key := by
  unfold onCheckoutCompleted Session.purchase
  split <;> rfl

/-- What a completed checkout asks for. -/
def checkoutDemand (db : BillingDb) (session : Session) : Demand :=
  match session.purchase with
  | none => .nothing false
  | some key => .row (purchasedRow db key session.meta.tier)

/-- What an event asks for. -/
def StripeEvent.demand (env : BillingEnv) (now : Nat) (db : BillingDb) :
    StripeEvent → Demand
  | .subscriptionCreated sub => sub.demand env now db
  | .subscriptionUpdated sub => sub.demand env now db
  | .subscriptionDeleted sub => sub.demand env now db
  | .invoicePaid invoice => paidDemand db invoice
  | .invoicePaymentFailed invoice => failedDemand env now db invoice
  | .checkoutCompleted session => checkoutDemand db session
  | .other _ => .nothing false

/-! ## What an event sends -/

/-- A report of a subscription writes a row. -/
def BillingDb.writesFor (db : BillingDb) (sub : Subscription) : Bool :=
  match db.accessOf sub with
  | none => sub.meta.pair.isSome
  | some row => !sub.ignoredBy row

/-- The texts of a subscription that reach the database. -/
def Subscription.sentTexts (db : BillingDb) (sub : Subscription) :
    List String :=
  sub.rowTexts ++ sub.priceTexts ++
    if db.writesFor sub then [sub.id] else []

/-- The texts of a checkout session that reach the database.  Its id is
recorded only if the pair is unknown. -/
def Session.sentTexts (db : BillingDb) (session : Session) : List String :=
  match session.purchase with
  | none => []
  | some key =>
      [key.1, key.2] ++ (given session.meta.tier).toList ++
        if db.Known key then [] else [session.id]

/-- The texts of an event that reach the database. -/
def StripeEvent.sentTexts (db : BillingDb) : StripeEvent → List String
  | .subscriptionCreated sub | .subscriptionUpdated sub
  | .subscriptionDeleted sub => sub.sentTexts db
  | .invoicePaid invoice | .invoicePaymentFailed invoice =>
      (given (invoiceSubscriptionId invoice)).toList
  | .checkoutCompleted session => session.sentTexts db
  | .other _ => []

/-- None of the texts of an event that reach the database has a U+0000. -/
def StripeEvent.Sendable (event : StripeEvent) (db : BillingDb) : Prop :=
  ∀ text ∈ event.sentTexts db, Storable text

instance (event : StripeEvent) (db : BillingDb) :
    Decidable (event.Sendable db) :=
  inferInstanceAs (Decidable (∀ text ∈ event.sentTexts db, Storable text))

/-- What is left of a call when a demand has been met as far as PostgreSQL and
the constraints permit. -/
inductive Met (db : BillingDb) (sendable : Prop) :
    Demand → BillingDb × Phase → Prop
  | unsendable {demand : Demand} :
      ¬ sendable →
      Met db sendable demand (db, .done (.error .unstorable))
  | nothing {handled : Bool} {after : BillingDb} :
      sendable →
      BillingDb.SameRows db after →
      Met db sendable (.nothing handled) (after, .done (.ok handled))
  | written {row : AppTenant} {written after : BillingDb} :
      sendable →
      ¬ db.Taken row →
      db.Known row.key →
      BillingDb.Writes db written row →
      BillingDb.SameRows written after →
      Met db sendable (.row row) (after, .done (.ok true))
  | orphaned {row : AppTenant} {after : BillingDb} :
      sendable →
      ¬ db.Taken row →
      ¬ db.Known row.key →
      BillingDb.SameRows db after →
      Met db sendable (.row row) (after, .done (.ok false))
  | refused {row : AppTenant} :
      sendable →
      db.Taken row →
      Met db sendable (.row row) (db, .done (.error .P2002))

/-! ## Lookups -/

namespace BillingDb

variable {db : BillingDb}

/-- A stored row is what its subscription looks up. -/
theorem accessBySubscriptionId_of_mem
    {id : Option String}
    {value : String}
    {row : AppTenant}
    (isGiven : given id = some value)
    (present : row ∈ db.access.rows)
    (holds : row.stripeSubscriptionId = some value) :
    db.accessBySubscriptionId id = some row := by
  simp only [accessBySubscriptionId, isGiven, Option.bind_some]
  exact (db.accounts.subscriptionUnique.findBy_eq_some_iff value row).mpr
    ⟨present, holds⟩

/-- A subscription that looks nothing up is stored nowhere, or has no id. -/
theorem accessBySubscriptionId_eq_none_iff
    {id : Option String} :
    db.accessBySubscriptionId id = none ↔
      ∀ value, given id = some value →
        ∀ row ∈ db.access.rows, row.stripeSubscriptionId ≠ some value := by
  simp only [accessBySubscriptionId, Option.bind_eq_none_iff,
    Table.findBy_eq_none_iff]

/-- A row that is looked up by its subscription is stored, with its id. -/
theorem of_accessBySubscriptionId
    {id : Option String}
    {row : AppTenant}
    (found : db.accessBySubscriptionId id = some row) :
    row ∈ db.access.rows ∧ ∃ value,
      given id = some value ∧ row.stripeSubscriptionId = some value := by
  obtain ⟨value, isGiven, looked⟩ := Option.bind_eq_some_iff.mp found
  obtain ⟨present, holds⟩ := Table.mem_of_findBy looked
  exact ⟨present, value, isGiven, holds⟩

/-- A row that a subscription looks up is stored. -/
theorem mem_of_accessOf
    {sub : Subscription}
    {row : AppTenant}
    (found : db.accessOf sub = some row) :
    row ∈ db.access.rows := by
  unfold accessOf at found
  split at found
  · exact db.access.mem_of_find? found
  · exact (of_accessBySubscriptionId found).1

/-- A row that a subscription looks up by its metadata has that pair. -/
theorem key_of_accessOf
    {sub : Subscription}
    {row : AppTenant}
    {key : String × String}
    (named : sub.meta.pair = some key)
    (found : db.accessOf sub = some row) :
    row.key = key := by
  simp only [accessOf, named] at found
  exact db.access.key_of_find? found

/-- A pair that a subscription looks up in vain has no row. -/
theorem find?_of_accessOf_eq_none
    {sub : Subscription}
    {key : String × String}
    (named : sub.meta.pair = some key)
    (absent : db.accessOf sub = none) :
    db.access.find? key = none := by
  simpa only [accessOf, named] using absent

/-- A subscription finds the row of its pair, or the one that stores it. -/
theorem accessOf_of_mem
    {sub : Subscription}
    {row : AppTenant}
    (present : row ∈ db.access.rows)
    (named : ∀ key, sub.meta.pair = some key → row.key = key)
    (stored : sub.meta.pair = none → ∃ value,
      given (some sub.id) = some value ∧
        row.stripeSubscriptionId = some value) :
    db.accessOf sub = some row := by
  unfold accessOf
  split
  · rename_i key isNamed
    rw [← named key isNamed]
    exact db.access.find?_of_mem present
  · rename_i unnamed
    obtain ⟨value, isGiven, holds⟩ := stored unnamed
    exact accessBySubscriptionId_of_mem isGiven present holds

/-- An absent row is created by writing it. -/
theorem createAccess_of_absent
    {key : String × String}
    (data : AccessData)
    (absent : db.access.find? key = none) :
    db.createAccess key data =
      (db.write (setAccess data (defaultAccess key))).map
        fun written => (written, setAccess data (defaultAccess key)) := by
  simp only [createAccess, absent]

/-- A stored row is updated by writing it. -/
theorem updateAccess_of_mem
    {row : AppTenant}
    (data : AccessData)
    (present : row ∈ db.access.rows) :
    db.updateAccess row.key data =
      (db.write (setAccess data row)).map
        fun written => (written, setAccess data row) := by
  simp only [updateAccess, db.access.find?_of_mem present]

theorem SameRows.refl : SameRows db db := ⟨rfl, rfl⟩

theorem sameRows_record (db : BillingDb) (event : BillingEvent) :
    SameRows db (db.record event) := ⟨rfl, rfl⟩

/-- A row that keeps its texts is written. -/
theorem write_of_kept
    {stored : AppTenant}
    {data : AccessData}
    (present : stored ∈ db.access.rows)
    (keepsPlan : data.plan = none)
    (keepsId : data.stripeSubscriptionId = none) :
    ∃ written, db.write (setAccess data stored) = .ok written ∧
      ¬ db.Taken (setAccess data stored) ∧
      db.Known (setAccess data stored).key ∧
      Writes db written (setAccess data stored) := by
  have free : ¬ db.Taken (setAccess data stored) :=
    db.accounts.subscriptionUnique.not_heldElsewhere present
      (key_setAccess data stored) (by simp [setAccess, keepsId])
  have known : db.Known (setAccess data stored).key :=
    db.accounts.references stored present
  have storable : StorableAccess (setAccess data stored) := by
    rw [storableAccess_setAccess_iff (db.storable stored present)]
    simp [keepsPlan, keepsId]
  exact ⟨_, write_of_free storable free known, free, known,
    ⟨rfl, rfl, rfl, rfl, rfl⟩⟩

/-- The tier of a price is one that the database holds. -/
theorem storable_tierOf (db : BillingDb) (sub : Subscription) :
    ∀ tier ∈ given (db.tierOf sub), Storable tier := by
  intro tier isGiven
  obtain ⟨id, -, looked⟩ :=
    Option.bind_eq_some_iff.mp (eq_of_given isGiven)
  obtain ⟨price, found, rfl⟩ := Option.map_eq_some_iff.mp looked
  exact db.tiersStorable price (db.prices.mem_of_find? found)

end BillingDb

/-- What a subscription makes of a stored row brings in its id. -/
theorem storableAccess_update_iff
    (sub : Subscription)
    (db : BillingDb)
    (graceUntil : Option Nat)
    {row : AppTenant}
    (present : row ∈ db.access.rows) :
    StorableAccess (setAccess (sub.update graceUntil (db.tierOf sub)) row) ↔
      Storable sub.id := by
  rw [storableAccess_setAccess_iff (db.storable row present)]
  constructor
  · rintro ⟨-, owner⟩
    exact owner sub.id rfl
  · intro owner
    refine ⟨db.storable_tierOf sub, ?_⟩
    rintro id ⟨⟩
    exact owner

/-- A new row for a subscription has the texts that the subscription brings. -/
theorem storableAccess_create_iff
    (sub : Subscription)
    (db : BillingDb)
    (graceUntil : Option Nat)
    (key : String × String) :
    StorableAccess (setAccess (sub.create graceUntil (db.tierOf sub))
        (defaultAccess key)) ↔
      (Storable key.1 ∧ Storable key.2) ∧ Storable sub.id := by
  constructor
  · intro storable
    refine ⟨⟨storable _ ?_, storable _ ?_⟩, storable _ ?_⟩
    all_goals
      simp [accessTexts, setAccess, defaultAccess, Subscription.create]
  · rintro ⟨keys, owner⟩
    rw [storableAccess_setAccess_iff (storableAccess_defaultAccess_iff.mpr keys)]
    refine ⟨db.storable_tierOf sub, ?_⟩
    rintro id ⟨⟩
    exact owner

/-- No row stores the subscription of the row that a purchase leaves, but the
row itself. -/
theorem free_purchasedRow
    (db : BillingDb)
    (key : String × String)
    (tier : Option String) :
    ¬ db.Taken (purchasedRow db key tier) := by
  unfold purchasedRow
  split
  · rintro ⟨_, _, _, owned, _⟩
    simp [setAccess, purchaseCreate, defaultAccess] at owned
  · rename_i stored found
    exact db.accounts.subscriptionUnique.not_heldElsewhere
      (db.access.mem_of_find? found) rfl rfl

/-- What a purchase leaves has the texts of its metadata. -/
theorem storableAccess_purchasedRow_iff
    (db : BillingDb)
    (key : String × String)
    (tier : Option String) :
    StorableAccess (purchasedRow db key tier) ↔
      (Storable key.1 ∧ Storable key.2) ∧
        ∀ text ∈ given tier, Storable text := by
  constructor
  · intro storable
    have sameKey : ((purchasedRow db key tier).tenantId,
        (purchasedRow db key tier).appId) = key := key_purchasedRow db key tier
    obtain ⟨sameTenant, sameApp⟩ := Prod.ext_iff.mp sameKey
    refine ⟨⟨storable _ ?_, storable _ ?_⟩, fun text isGiven => storable _ ?_⟩
    · simp [accessTexts, ← sameTenant]
    · simp [accessTexts, ← sameApp]
    · unfold purchasedRow
      rw [Option.mem_def] at isGiven
      split <;>
        simp [accessTexts, setAccess, purchaseCreate, purchaseUpdate, isGiven]
  · rintro ⟨keys, plan⟩
    unfold purchasedRow
    split
    · rw [storableAccess_setAccess_iff
        (storableAccess_defaultAccess_iff.mpr keys)]
      exact ⟨plan, by simp [purchaseCreate]⟩
    · rename_i stored found
      rw [storableAccess_setAccess_iff
        (db.storable stored (db.access.mem_of_find? found))]
      exact ⟨plan, by simp [purchaseUpdate]⟩

/-! ## What is sent -/

section Sent

variable {env : BillingEnv} {now : Nat} {db : BillingDb} {sub : Subscription}

theorem Subscription.sendable_iff :
    (∀ text ∈ sub.sentTexts db, Storable text) ↔
      (∀ text ∈ sub.rowTexts, Storable text) ∧
        (∀ text ∈ sub.priceTexts, Storable text) ∧
        (db.writesFor sub = true → Storable sub.id) := by
  unfold Subscription.sentTexts
  rw [List.forall_mem_append, List.forall_mem_append, and_assoc]
  cases db.writesFor sub <;> simp

theorem BillingDb.writesFor_of_nothing
    {handled : Bool}
    (demanded : sub.demand env now db = .nothing handled) :
    db.writesFor sub = false := by
  unfold Subscription.demand at demanded
  unfold BillingDb.writesFor
  split at demanded
  · split at demanded
    · rename_i unnamed
      simp [unnamed]
    · contradiction
  · split at demanded
    · rename_i ignored
      simp [ignored]
    · contradiction

theorem BillingDb.writesFor_of_row
    {row : AppTenant}
    (demanded : sub.demand env now db = .row row) :
    db.writesFor sub = true := by
  unfold Subscription.demand at demanded
  unfold BillingDb.writesFor
  split at demanded
  · split at demanded
    · contradiction
    · rename_i named
      simp [named]
  · split at demanded
    · contradiction
    · rename_i notIgnored
      simpa using notIgnored

/-- A pair that the metadata name is looked up. -/
theorem Subscription.mem_rowTexts
    {key : String × String}
    (named : sub.meta.pair = some key) :
    key.1 ∈ sub.rowTexts ∧ key.2 ∈ sub.rowTexts := by
  simp [Subscription.rowTexts, named]

end Sent

/-! ## The calls meet the demands -/

section Handlers

variable (env : BillingEnv) (now : Nat) (db : BillingDb)

/-- The first `count` statements of a call that has the database to itself. -/
def run (count : Nat) (phase : Phase) : BillingDb × Phase :=
  (fun call => Phase.step env now call.1 call.2)^[count] (db, phase)

theorem run_succ (count : Nat) (phase : Phase) :
    run env now db (count + 1) phase =
      run env now (phase.step env now db).1 count (phase.step env now db).2 := by
  simp [run, Function.iterate_succ_apply]

@[simp] theorem run_done (count : Nat) (outcome : Except PrismaError Bool) :
    run env now db count (.done outcome) = (db, .done outcome) := by
  induction count with
  | zero => rfl
  | succ count inductionHypothesis =>
      rw [run_succ]
      exact inductionHypothesis

/-- A call goes on past a statement whose texts PostgreSQL takes. -/
theorem run_of_sendable
    {phase : Phase}
    (sendable : phase.Sendable)
    (count : Nat) :
    run env now db (count + 1) phase =
      run env now (phase.carryOut env now db).1 count
        (phase.carryOut env now db).2 := by
  rw [run_succ, Phase.step_of_sendable sendable]

/-- A call ends with a statement whose texts PostgreSQL refuses. -/
theorem run_of_unsendable
    {phase : Phase}
    (unsendable : ¬ phase.Sendable)
    (count : Nat) :
    run env now db (count + 1) phase = (db, .done (.error .unstorable)) := by
  rw [run_succ, Phase.step_of_unsendable unsendable, run_done]

/-- A call goes on past a statement that carries no text of the event. -/
theorem run_of_noTexts
    {phase : Phase}
    (noTexts : phase.texts = [])
    (count : Nat) :
    run env now db (count + 1) phase =
      run env now (phase.carryOut env now db).1 count
        (phase.carryOut env now db).2 :=
  run_of_sendable env now db (Phase.sendable_of_noTexts noTexts) count

/-- `appTenant.create` and what follows it write the row. -/
theorem met_createAccess
    {sub : Subscription}
    {key : String × String}
    (absent : db.access.find? key = none)
    (named : sub.meta.pair = some key)
    (graceUntil : Option Nat)
    (tier : Option String) :
    Met db
      (StorableAccess
        (setAccess (sub.create graceUntil tier) (defaultAccess key)))
      (.row (setAccess (sub.create graceUntil tier) (defaultAccess key)))
      (run env now db 2
        (.createAccess sub key (sub.create graceUntil tier))) := by
  rw [run_of_noTexts env now db rfl]
  simp only [Phase.carryOut, BillingDb.createAccess_of_absent _ absent]
  cases db.writeCase
      (setAccess (sub.create graceUntil tier) (defaultAccess key)) with
  | unstorable unstorable failed =>
      simp only [failed, Except.map, run_done]
      exact .unsendable unstorable
  | taken storable taken failed =>
      simp only [failed, Except.map, run_done]
      exact .refused storable taken
  | unknown storable free unknown failed =>
      -- Everything that the orphan records is a text of the refused row.
      have sendable : (Phase.recordOrphan sub.id sub.meta
          (.subscription sub.status)).Sendable := by
        obtain ⟨tenant, app⟩ := Metadata.of_pair named
        intro text present
        apply storable
        have isText : text = sub.id ∨ text = key.1 ∨ text = key.2 := by
          simpa [Phase.texts, tenant, app] using present
        rcases isText with rfl | rfl | rfl
        all_goals
          simp [accessTexts, setAccess, defaultAccess, Subscription.create]
      simp only [failed, Except.map]
      rw [run_of_sendable env now db sendable]
      exact .orphaned storable free unknown (db.sameRows_record _)
  | @written written storable free known success writes =>
      simp only [success, Except.map]
      rw [run_of_noTexts env now written rfl]
      exact .written storable free known writes (written.sameRows_record _)

/-- `appTenant.update` and what follows it write the row. -/
theorem met_updateAccess
    (sub : Subscription)
    {row : AppTenant}
    (present : row ∈ db.access.rows)
    (data : AccessData) :
    Met db (StorableAccess (setAccess data row)) (.row (setAccess data row))
      (run env now db 2 (.updateAccess sub row data)) := by
  rw [run_of_noTexts env now db rfl]
  simp only [Phase.carryOut, BillingDb.updateAccess_of_mem _ present]
  cases db.writeCase (setAccess data row) with
  | unstorable unstorable failed =>
      simp only [failed, Except.map, run_done]
      exact .unsendable unstorable
  | taken storable taken failed =>
      simp only [failed, Except.map, run_done]
      exact .refused storable taken
  | unknown _ _ unknown _ =>
      exact absurd (db.accounts.references row present) unknown
  | @written written storable free known success writes =>
      simp only [success, Except.map]
      rw [run_of_noTexts env now written rfl]
      exact .written storable free known writes (written.sameRows_record _)

/-- `syncSubscription` past `tierOf` meets the demand of its subscription. -/
theorem met_tiered
    {sub : Subscription}
    (row : ∀ text ∈ sub.rowTexts, Storable text)
    (price : ∀ text ∈ sub.priceTexts, Storable text) :
    Met db (∀ text ∈ sub.sentTexts db, Storable text) (sub.demand env now db)
      (run env now db 2 (sub.tiered (db.accessOf sub)
        (sub.grace env now (db.accessOf sub)) (db.tierOf sub))) := by
  rw [Subscription.sendable_iff, and_iff_right row, and_iff_right price]
  unfold BillingDb.writesFor Subscription.demand Subscription.tiered
  cases found : db.accessOf sub with
  | none =>
      cases named : sub.meta.pair with
      | none =>
          simp only [run_done]
          exact .nothing (by simp) .refl
      | some key =>
          obtain ⟨first, second⟩ := Subscription.mem_rowTexts named
          have met := met_createAccess env now db
            (BillingDb.find?_of_accessOf_eq_none named found) named
            (sub.grace env now none) (db.tierOf sub)
          rw [storableAccess_create_iff,
            and_iff_right ⟨row _ first, row _ second⟩] at met
          simpa using met
  | some stored =>
      have present := BillingDb.mem_of_accessOf found
      cases ignored : sub.ignoredBy stored with
      | true =>
          simp only [ignored, if_true, run_done]
          exact .nothing (by simp) .refl
      | false =>
          have met := met_updateAccess env now db sub present
            (sub.update (sub.grace env now (some stored)) (db.tierOf sub))
          rw [storableAccess_update_iff sub db _ present] at met
          simpa [ignored] using met

/-- `syncSubscription` meets the demand of its subscription. -/
theorem met_findAccess (sub : Subscription) :
    Met db (∀ text ∈ sub.sentTexts db, Storable text) (sub.demand env now db)
      (run env now db 4 (.findAccess sub)) := by
  by_cases row : (Phase.findAccess sub).Sendable
  · rw [run_of_sendable env now db row]
    simp only [Phase.carryOut]
    by_cases price : (Phase.findPrice sub (db.accessOf sub)
        (sub.grace env now (db.accessOf sub))).Sendable
    · rw [run_of_sendable env now db price]
      exact met_tiered env now db row price
    · rw [run_of_unsendable env now db price]
      apply Met.unsendable
      intro sendable
      exact price (Subscription.sendable_iff.mp sendable).2.1
  · rw [run_of_unsendable env now db row]
    apply Met.unsendable
    intro sendable
    exact row (Subscription.sendable_iff.mp sendable).1

/-- A row that keeps its texts is updated, and the update recorded. -/
theorem met_kept
    {row : AppTenant}
    {data : AccessData}
    {sendable : Prop}
    (isSendable : sendable)
    (present : row ∈ db.access.rows)
    (keepsPlan : data.plan = none)
    (keepsId : data.stripeSubscriptionId = none)
    (event : BillingEvent)
    {phase : Phase}
    (steps : ∀ written, db.write (setAccess data row) = .ok written →
      run env now db 3 phase =
        (written.record event, .done (.ok true))) :
    Met db sendable (.row (setAccess data row)) (run env now db 3 phase) := by
  obtain ⟨written, success, free, known, writes⟩ :=
    BillingDb.write_of_kept present keepsPlan keepsId
  rw [steps written success]
  exact .written isSendable free known writes (written.sameRows_record event)

/-- `onInvoicePaid` meets its demand. -/
theorem met_findPaid (invoice : Invoice) :
    Met db (StripeEvent.Sendable (.invoicePaid invoice) db)
      (paidDemand db invoice)
      (run env now db 4 (.findPaid (invoiceSubscriptionId invoice))) := by
  by_cases sendable :
      (Phase.findPaid (invoiceSubscriptionId invoice)).Sendable
  · rw [run_of_sendable env now db sendable]
    simp only [Phase.carryOut, paidDemand]
    cases found :
        db.accessBySubscriptionId (invoiceSubscriptionId invoice) with
    | none =>
        simp only [run_done]
        exact .nothing sendable .refl
    | some row =>
        have present := (BillingDb.of_accessBySubscriptionId found).1
        by_cases pastDue : row.status = .pastDue
        · simp only [recover, pastDue, if_true]
          apply met_kept env now db sendable present rfl rfl
            ⟨"billing.payment_recovered", some row.tenantId,
              .recovered row.appId⟩
          intro written success
          rw [run_of_noTexts env now db rfl]
          simp only [Phase.carryOut, BillingDb.updateAccess_of_mem _ present,
            success, Except.map]
          exact run_of_noTexts env now written rfl 1
        · simp only [recover, pastDue, if_false, run_done]
          exact .nothing sendable .refl
  · rw [run_of_unsendable env now db sendable]
    exact .unsendable sendable

/-- `onPaymentFailed` meets its demand. -/
theorem met_findFailed (invoice : Invoice) :
    Met db (StripeEvent.Sendable (.invoicePaymentFailed invoice) db)
      (failedDemand env now db invoice)
      (run env now db 4 (.findFailed (invoiceSubscriptionId invoice))) := by
  by_cases sendable :
      (Phase.findFailed (invoiceSubscriptionId invoice)).Sendable
  · rw [run_of_sendable env now db sendable]
    simp only [Phase.carryOut, failedDemand]
    cases found :
        db.accessBySubscriptionId (invoiceSubscriptionId invoice) with
    | none =>
        simp only [run_done]
        exact .nothing sendable .refl
    | some row =>
        have present := (BillingDb.of_accessBySubscriptionId found).1
        apply met_kept env now db sendable present rfl rfl
          ⟨"billing.payment_failed", some row.tenantId,
            .failed row.appId env.graceDays⟩
        intro written success
        rw [run_of_noTexts env now db rfl]
        simp only [Phase.carryOut, BillingDb.updateAccess_of_mem _ present,
          success, Except.map]
        exact run_of_noTexts env now written rfl 1
  · rw [run_of_unsendable env now db sendable]
    exact .unsendable sendable

/-- `upsertPurchase` writes the row of the purchase. -/
theorem upsertAccess_eq (key : String × String) (tier : Option String) :
    db.upsertAccess key (purchaseCreate tier) (purchaseUpdate tier) =
      db.write (purchasedRow db key tier) := by
  unfold BillingDb.upsertAccess purchasedRow
  cases db.access.find? key <;> rfl

/-- A checkout is refused for the texts of its purchase, or for its own id when
it has to be recorded. -/
theorem sendable_of_purchase
    {session : Session}
    {key : String × String}
    (bought : session.purchase = some key) :
    StripeEvent.Sendable (.checkoutCompleted session) db ↔
      StorableAccess (purchasedRow db key session.meta.tier) ∧
        (¬ db.Known key → Storable session.id) := by
  simp only [StripeEvent.Sendable, StripeEvent.sentTexts, Session.sentTexts,
    bought, List.forall_mem_append]
  rw [storableAccess_purchasedRow_iff]
  by_cases known : db.Known key <;> simp [known]

/-- `onCheckoutCompleted` meets its demand. -/
theorem met_onCheckoutCompleted (session : Session) :
    Met db (StripeEvent.Sendable (.checkoutCompleted session) db)
      (checkoutDemand db session)
      (run env now db 4 (onCheckoutCompleted session)) := by
  rw [checkoutDemand, onCheckoutCompleted_eq]
  cases bought : session.purchase with
  | none =>
      simp only [run_done]
      exact .nothing (by simp [StripeEvent.Sendable, StripeEvent.sentTexts,
        Session.sentTexts, bought]) .refl
  | some key =>
      have named := Session.pair_of_purchase bought
      have sends := sendable_of_purchase db bought
      simp only
      rw [run_of_noTexts env now db rfl]
      simp only [Phase.carryOut, upsertAccess_eq]
      cases db.writeCase (purchasedRow db key session.meta.tier) with
      | unstorable unstorable failed =>
          simp only [failed, run_done]
          exact .unsendable fun sendable => unstorable (sends.mp sendable).1
      | taken _ taken _ => exact absurd taken (free_purchasedRow db key _)
      | unknown storable free unknown failed =>
          obtain ⟨keys, -⟩ := (storableAccess_purchasedRow_iff db key _).mp storable
          obtain ⟨tenant, app⟩ := Metadata.of_pair named
          rw [key_purchasedRow] at unknown
          simp only [failed]
          have orphan : (Phase.recordOrphan session.id session.meta
              .checkoutPaid).Sendable ↔ Storable session.id := by
            simp [Phase.Sendable, Phase.texts, tenant, app, keys]
          by_cases id : Storable session.id
          · rw [run_of_sendable env now db (orphan.mpr id)]
            exact .orphaned (sends.mpr ⟨storable, fun _ => id⟩) free
              (by rwa [key_purchasedRow]) (db.sameRows_record _)
          · rw [run_of_unsendable env now db (mt orphan.mp id)]
            exact .unsendable fun sendable => id ((sends.mp sendable).2 unknown)
      | @written written storable free known success writes =>
          obtain ⟨keys, plan⟩ := (storableAccess_purchasedRow_iff db key _).mp storable
          have record : (Phase.recordPurchase session key).Sendable := by
            rw [Phase.Sendable, Phase.texts, List.forall_mem_append]
            refine ⟨by simpa using keys, fun tier isTier => ?_⟩
            by_cases isEmpty : tier = ""
            · subst isEmpty
              decide
            · apply plan
              rw [Option.mem_toList.mp isTier, given_some isEmpty, Option.mem_def]
          simp only [success]
          rw [run_of_sendable env now written record]
          rw [key_purchasedRow] at known
          exact .written (sends.mpr ⟨storable, absurd known⟩) free
            (by rwa [key_purchasedRow]) writes (written.sameRows_record _)

/-- The webhook meets the demand of every event. -/
theorem handleEvent_met (event : StripeEvent) :
    Met db (event.Sendable db) (event.demand env now db)
      (handleEvent env now db event) := by
  change Met db _ _ (run env now db 4 event.begins)
  cases event with
  | subscriptionCreated sub => exact met_findAccess env now db sub
  | subscriptionUpdated sub => exact met_findAccess env now db sub
  | subscriptionDeleted sub => exact met_findAccess env now db sub
  | invoicePaid invoice => exact met_findPaid env now db invoice
  | invoicePaymentFailed invoice => exact met_findFailed env now db invoice
  | checkoutCompleted session => exact met_onCheckoutCompleted env now db session
  | other type =>
      simp only [StripeEvent.begins, StripeEvent.demand, run_done]
      exact .nothing (by simp [StripeEvent.Sendable, StripeEvent.sentTexts]) .refl

end Handlers

/-! ## What an event concerns -/

/-- The pair whose row an event concerns: the one that its metadata name, or
the one whose row stores its subscription. -/
def StripeEvent.target (db : BillingDb) :
    StripeEvent → Option (String × String)
  | .subscriptionCreated sub | .subscriptionUpdated sub
  | .subscriptionDeleted sub =>
      sub.meta.pair.or
        ((db.accessBySubscriptionId (some sub.id)).map AppTenant.key)
  | .invoicePaid invoice | .invoicePaymentFailed invoice =>
      (db.accessBySubscriptionId (invoiceSubscriptionId invoice)).map
        AppTenant.key
  | .checkoutCompleted session => session.meta.pair
  | .other _ => none

theorem Subscription.target_of_demand
    {env : BillingEnv}
    {now : Nat}
    {db : BillingDb}
    {sub : Subscription}
    {row : AppTenant}
    (wanted : sub.demand env now db = .row row) :
    sub.meta.pair.or
      ((db.accessBySubscriptionId (some sub.id)).map AppTenant.key) =
        some row.key := by
  unfold Subscription.demand at wanted
  cases found : db.accessOf sub with
  | none =>
      cases named : sub.meta.pair with
      | none => simp [found, named] at wanted
      | some key =>
          simp only [found, named, Demand.row.injEq] at wanted
          simp [← wanted]
  | some stored =>
      simp only [found] at wanted
      split at wanted
      · contradiction
      · simp only [Demand.row.injEq] at wanted
        rw [← wanted, key_setAccess]
        cases named : sub.meta.pair with
        | none =>
            simp only [BillingDb.accessOf, named] at found
            simp [found]
        | some key => simp [BillingDb.key_of_accessOf named found]

/-- The row that is asked for is that of the pair the event concerns. -/
theorem StripeEvent.target_of_demand
    {env : BillingEnv}
    {now : Nat}
    {db : BillingDb}
    {event : StripeEvent}
    {row : AppTenant}
    (wanted : event.demand env now db = .row row) :
    event.target db = some row.key := by
  cases event with
  | subscriptionCreated sub => exact sub.target_of_demand wanted
  | subscriptionUpdated sub => exact sub.target_of_demand wanted
  | subscriptionDeleted sub => exact sub.target_of_demand wanted
  | invoicePaid invoice =>
      simp only [StripeEvent.demand, paidDemand] at wanted
      split at wanted
      · contradiction
      · rename_i stored found
        unfold recover at wanted
        split at wanted
        · simp only [Demand.row.injEq] at wanted
          simp [StripeEvent.target, found, ← wanted]
        · contradiction
  | invoicePaymentFailed invoice =>
      simp only [StripeEvent.demand, failedDemand] at wanted
      split at wanted
      · contradiction
      · rename_i stored found
        simp only [Demand.row.injEq] at wanted
        simp [StripeEvent.target, found, ← wanted, failedRow]
  | checkoutCompleted session =>
      simp only [StripeEvent.demand, checkoutDemand] at wanted
      split at wanted
      · contradiction
      · rename_i key bought
        simp only [Demand.row.injEq] at wanted
        rw [← wanted, StripeEvent.target, Session.pair_of_purchase bought,
          key_purchasedRow]
  | other type => contradiction

section Rows

variable (env : BillingEnv) (now : Nat) (db : BillingDb) (event : StripeEvent)

/-- The rows after an event. -/
theorem access_handleEvent :
    (handleEvent env now db event).1.access =
      match event.demand env now db with
      | .nothing _ => db.access
      | .row row =>
          if ¬ event.Sendable db ∨ db.Taken row ∨ ¬ db.Known row.key then
            db.access
          else db.access.put row := by
  have met := handleEvent_met env now db event
  generalize event.demand env now db = demand at met
  generalize handleEvent env now db event = ended at met
  cases met with
  | unsendable unsendable => cases demand <;> simp [unsendable]
  | nothing _ same => rw [BillingDb.access, same.accounts]
  | refused _ taken => simp [taken]
  | orphaned _ free unknown same =>
      simp [BillingDb.access, same.accounts, unknown]
  | written sendable free known writes same =>
      simp [sendable, free, known, BillingDb.access, same.accounts,
        ← writes.access]

/-- How a call of the webhook ends. -/
theorem outcome_handleEvent :
    (handleEvent env now db event).2 =
      if event.Sendable db then
        match event.demand env now db with
        | .nothing handled => .done (.ok handled)
        | .row row =>
            if db.Taken row then .done (.error .P2002)
            else .done (.ok (decide (db.Known row.key)))
      else .done (.error .unstorable) := by
  have met := handleEvent_met env now db event
  generalize event.demand env now db = demand at met
  generalize handleEvent env now db event = ended at met
  cases met with
  | unsendable unsendable => rw [if_neg unsendable]
  | nothing sendable same => rw [if_pos sendable]
  | refused sendable taken => simp [sendable, taken]
  | orphaned sendable free unknown same => simp [sendable, free, unknown]
  | written sendable free known writes same => simp [sendable, free, known]

variable {event} in
/-- A call that returns has sent every text of its event. -/
theorem sendable_of_handled
    {handled : Bool}
    (returned : (handleEvent env now db event).2 = .done (.ok handled)) :
    event.Sendable db := by
  rw [outcome_handleEvent] at returned
  by_contra unsendable
  rw [if_neg unsendable] at returned
  cases returned

variable {db event} in
/-- The rows after an event whose texts PostgreSQL takes. -/
theorem access_of_sendable
    (sendable : event.Sendable db) :
    (handleEvent env now db event).1.access =
      match event.demand env now db with
      | .nothing _ => db.access
      | .row row =>
          if db.Taken row ∨ ¬ db.Known row.key then db.access
          else db.access.put row := by
  rw [access_handleEvent]
  simp only [sendable, not_true, false_or]

variable {db event} in
/-- How a call ends when PostgreSQL takes the texts of its event. -/
theorem outcome_of_sendable
    (sendable : event.Sendable db) :
    (handleEvent env now db event).2 =
      match event.demand env now db with
      | .nothing handled => .done (.ok handled)
      | .row row =>
          if db.Taken row then .done (.error .P2002)
          else .done (.ok (decide (db.Known row.key))) := by
  rw [outcome_handleEvent, if_pos sendable]

/-- The tables that the webhook never writes. -/
theorem others_handleEvent :
    (handleEvent env now db event).1.accounts.tenants = db.accounts.tenants ∧
    (handleEvent env now db event).1.accounts.apps = db.accounts.apps ∧
    (handleEvent env now db event).1.accounts.users = db.accounts.users ∧
    (handleEvent env now db event).1.prices = db.prices := by
  have met := handleEvent_met env now db event
  generalize event.demand env now db = demand at met
  generalize handleEvent env now db event = ended at met
  cases met with
  | nothing _ same | orphaned _ _ _ same => simp [same.accounts, same.prices]
  | unsendable | refused => simp
  | written _ _ _ writes same =>
      simp [same.accounts, same.prices, writes.tenants, writes.apps,
        writes.users, writes.prices]

variable {db event} in
/-- An event leaves the rows of other pairs alone. -/
theorem find?_handleEvent_of_ne_target
    {key : String × String}
    (other : event.target db ≠ some key) :
    (handleEvent env now db event).1.access.find? key =
      db.access.find? key := by
  rw [access_handleEvent]
  split
  · rfl
  · rename_i row demanded
    split
    · rfl
    · have different : key ≠ row.key := by
        rintro rfl
        exact other (StripeEvent.target_of_demand demanded)
      simp [different]

/-- An event changes at most the row of the pair that it concerns, and no row
of `app_tenants` unless it counts as handled. -/
theorem handleEvent_changes_one_row :
    (∀ key, event.target db ≠ some key →
      (handleEvent env now db event).1.access.find? key =
        db.access.find? key) ∧
    (handleEvent env now db event).1.accounts.tenants = db.accounts.tenants ∧
    (handleEvent env now db event).1.accounts.users = db.accounts.users ∧
    (handleEvent env now db event).1.prices = db.prices ∧
    ((handleEvent env now db event).2 = .done (.ok false) →
      (handleEvent env now db event).1.access = db.access) := by
  obtain ⟨tenants, _, users, prices⟩ := others_handleEvent env now db event
  refine ⟨?_, tenants, users, prices, ?_⟩
  · intro key other
    exact find?_handleEvent_of_ne_target env now other
  · intro unhandled
    rw [outcome_handleEvent] at unhandled
    rw [access_handleEvent]
    split
    · rfl
    · rename_i row demanded
      simp only [demanded] at unhandled
      split at unhandled
      · split at unhandled
        · simp at unhandled
        · have missing : ¬ db.Known row.key := by simpa using unhandled
          simp [missing]
      · simp at unhandled

end Rows

/-! ## What an event names -/

/-- The subscription whose state an event reports. -/
def StripeEvent.subscription : StripeEvent → Option Subscription
  | .subscriptionCreated sub | .subscriptionUpdated sub
  | .subscriptionDeleted sub => some sub
  | .invoicePaid _ | .invoicePaymentFailed _ | .checkoutCompleted _
  | .other _ => none

/-- The pair that the metadata of an event name. -/
def StripeEvent.pair : StripeEvent → Option (String × String)
  | .subscriptionCreated sub | .subscriptionUpdated sub
  | .subscriptionDeleted sub => sub.meta.pair
  | .checkoutCompleted session => session.meta.pair
  | .invoicePaid _ | .invoicePaymentFailed _ | .other _ => none

/-- The subscription that an event is about. -/
def StripeEvent.subscriptionId : StripeEvent → Option String
  | .subscriptionCreated sub | .subscriptionUpdated sub
  | .subscriptionDeleted sub => some sub.id
  | .invoicePaid invoice | .invoicePaymentFailed invoice =>
      invoiceSubscriptionId invoice
  | .checkoutCompleted _ | .other _ => none

theorem StripeEvent.demand_of_subscription
    {event : StripeEvent}
    {sub : Subscription}
    (reports : event.subscription = some sub)
    (env : BillingEnv)
    (now : Nat)
    (db : BillingDb) :
    event.demand env now db = sub.demand env now db := by
  cases event <;> simp_all [StripeEvent.subscription, StripeEvent.demand]

theorem StripeEvent.sentTexts_of_subscription
    {event : StripeEvent}
    {sub : Subscription}
    (reports : event.subscription = some sub)
    (db : BillingDb) :
    event.sentTexts db = sub.sentTexts db := by
  cases event <;> simp_all [StripeEvent.subscription, StripeEvent.sentTexts]

/-! ## A small database -/

/-- One workspace and two apps, none of which is enabled. -/
def demoAccounts : Accounts where
  tenants := ⟨[⟨"t1", "acme", "Acme", .active, none, none⟩], by decide⟩
  apps := ⟨[⟨"a1", "app_1", none⟩, ⟨"a2", "app_2", none⟩], by decide⟩
  appTenants := .empty
  users := .empty
  addressUnique := Accounts.empty.addressUnique
  clientIdGiven := by decide
  clientIdUnique := Table.unique_of_nodup (by decide)
  subscriptionUnique := Accounts.empty.subscriptionUnique
  references := by simp [Table.empty]

/-- The database of these accounts, with one price. -/
def demoDb : BillingDb where
  accounts := demoAccounts
  prices := ⟨[⟨"price_1", "pro"⟩], by decide⟩
  audit := []
  storable := Table.every_empty _
  tiersStorable := by
    intro price present
    rw [List.mem_singleton.mp present]
    decide

/-- Checkout has stamped the workspace and its first app. -/
def demoMetadata : Metadata := ⟨some "t1", some "a1", some "pro"⟩

/-- A subscription to the first app. -/
def demoSubscription (id : String) (status : SubscriptionStatus) :
    Subscription :=
  ⟨id, status, some demoMetadata, ["price_1"]⟩

end Billing
end EvoPlatform
