import EvoPlatform.Billing.Checkout

/-!
# The customer of a workspace

Calls of any apps for one workspace, in any order.  `ensureCustomer` reads the
tenant, asks Stripe for a customer and stores it in three steps.  A workspace
has one customer, on which every session is opened, exactly as long as a call
asks for one only when no other call has been given one since it read the row.
-/

namespace EvoPlatform
namespace Billing

/-- The customers that Stripe has for a tenant. -/
def Storefront.customersOf (front : Storefront) (tenantId : String) :
    List StripeCustomer :=
  front.customers.filter fun customer => customer.tenantId = tenantId

/-- The customer that the row of a tenant stores. -/
def Storefront.stored (front : Storefront) (tenantId : String) :
    Option String :=
  (front.tenants.find? tenantId).bind Customer.stripeCustomerId

/-- A tenant has at most one customer, and every session is opened on the one
that its row stores. -/
structure OneCustomer (tenantId : String) (front : Storefront) : Prop where
  atMostOne : (front.customersOf tenantId).length ≤ 1
  opened : ∀ session ∈ front.sessions,
    front.stored tenantId = some session.customer

/-- A tenant has no customer yet, and no session was opened. -/
structure NoCustomer (tenantId : String) (front : Storefront) : Prop where
  unstored : front.stored tenantId = none
  none : front.customersOf tenantId = []
  unopened : front.sessions = []

namespace CheckoutPhase

/-- A call is about to ask Stripe for a customer. -/
def creates : CheckoutPhase → Bool
  | .createCustomer .. => true
  | _ => false

/-- The customer that Stripe has created for a call, which has not stored it,
and will not if it was given up. -/
def created : CheckoutPhase → Option String
  | .storeCustomer _ _ _ customer => some customer
  | .givenUp lost => lost
  | _ => none

end CheckoutPhase

/-- The calls are for one tenant, and Stripe gives every customer an id of its
own. -/
def ForTenant (tenantId : String) (pool : Pool Storefront CheckoutPhase) :
    PoolEvent CheckoutRequest Minted → Prop
  | .start request => request.tenantId = tenantId
  | .advance _ minted => minted.customerId ≠ "" ∧
      (∀ tenant ∈ pool.data.tenants.rows,
        tenant.stripeCustomerId ≠ some minted.customerId) ∧
      ∀ customer ∈ pool.data.customers, customer.id ≠ minted.customerId
  | .abandon _ => True

/-- A call asks Stripe for a customer only while the tenant stores none and no
other call has one that it has not stored. -/
def InTurn (tenantId : String) (pool : Pool Storefront CheckoutPhase) :
    PoolEvent CheckoutRequest Minted → Prop
  | .start _ => True
  | .advance index _ => ∀ call ∈ pool.calls[index]?, call.creates = true →
      pool.data.stored tenantId = none ∧
        ∀ other ∈ pool.calls, other.created = none
  | .abandon _ => True

instance (tenantId : String) (pool : Pool Storefront CheckoutPhase) :
    (event : PoolEvent CheckoutRequest Minted) →
      Decidable (ForTenant tenantId pool event)
  | .start _ => inferInstanceAs (Decidable (_ = _))
  | .advance _ _ => inferInstanceAs (Decidable (_ ∧ (∀ _ ∈ _, _) ∧ _))
  | .abandon _ => isTrue trivial

instance (tenantId : String) (pool : Pool Storefront CheckoutPhase) :
    (event : PoolEvent CheckoutRequest Minted) →
      Decidable (InTurn tenantId pool event)
  | .start _ => isTrue trivial
  | .advance index _ => inferInstanceAs (Decidable
      (∀ call ∈ pool.calls[index]?, call.creates = true → _ ∧ _))
  | .abandon _ => isTrue trivial

/-! ## One call at a time -/

section Settled

variable {env : CheckoutEnv} {tenantId : String}

/-- What holds of a call where it stands. -/
def Stands (tenantId : String) (front : Storefront) : CheckoutPhase → Prop
  | .findPrices dto _ => dto.tenantId = tenantId
  | .findRelationship purpose _ => purpose.tenantId = tenantId
  | .findTenant purpose _ => purpose.tenantId = tenantId
  | .createCustomer _ _ tenant => tenant.id = tenantId ∧
      (front.tenants.find? tenantId).isSome
  | .storeCustomer _ _ target customer => target = tenantId ∧
      (front.tenants.find? tenantId).isSome ∧
      front.stored tenantId = none ∧
      (front.customersOf tenantId).length = 1 ∧
      ∀ tenant ∈ front.tenants.rows, tenant.stripeCustomerId ≠ some customer
  | .openSession _ _ customer => front.stored tenantId = some customer
  | .done _ => True
  | .givenUp lost => lost ≠ none →
      front.stored tenantId = none ∧ (front.customersOf tenantId).length = 1

/-- At most one call has a customer that it has not stored, and without such a
call Stripe has one exactly if the tenant stores one. -/
structure Settled (tenantId : String) (pool : Pool Storefront CheckoutPhase) :
    Prop extends OneCustomer tenantId pool.data where
  stands : ∀ (index : Nat) (call : CheckoutPhase),
    pool.calls[index]? = some call → Stands tenantId pool.data call
  single : ∀ (left right : Nat) (leftCall rightCall : CheckoutPhase),
    pool.calls[left]? = some leftCall → pool.calls[right]? = some rightCall →
      leftCall.created ≠ none → rightCall.created ≠ none → left = right
  uncreated : pool.data.stored tenantId = none →
    (∀ call ∈ pool.calls, call.created = none) →
      pool.data.customersOf tenantId = []
  ofStored : pool.data.stored tenantId ≠ none →
    (pool.data.customersOf tenantId).length = 1

variable {pool : Pool Storefront CheckoutPhase} {index : Nat}
  {call next : CheckoutPhase}

/-- A call moves on, with the customer it has, and leaves the data alone. -/
theorem Settled.quiet
    (settled : Settled tenantId pool)
    (present : pool.calls[index]? = some call)
    (same : next.created = call.created)
    (stands : Stands tenantId pool.data next) :
    Settled tenantId (pool.setCall index next) where
  toOneCustomer := settled.toOneCustomer
  stands := by
    intro other bystander found
    rcases Pool.of_getElem?_setCall found with ⟨_, rfl⟩ | ⟨_, found⟩
    · exact stands
    · exact settled.stands other bystander found
  single := by
    have before : ∀ (other : Nat) (bystander : CheckoutPhase),
        (pool.setCall index next).calls[other]? = some bystander →
        ∃ earlier, pool.calls[other]? = some earlier ∧
          bystander.created = earlier.created := by
      intro other bystander found
      rcases Pool.of_getElem?_setCall found with ⟨rfl, rfl⟩ | ⟨_, found⟩
      · exact ⟨call, present, same⟩
      · exact ⟨bystander, found, rfl⟩
    intro left right leftCall rightCall leftFound rightFound leftCreated
      rightCreated
    obtain ⟨leftEarlier, leftPresent, leftSame⟩ := before left _ leftFound
    obtain ⟨rightEarlier, rightPresent, rightSame⟩ := before right _ rightFound
    exact settled.single left right leftEarlier rightEarlier leftPresent
      rightPresent (leftSame ▸ leftCreated) (rightSame ▸ rightCreated)
  uncreated := by
    intro unstored noneCreated
    apply settled.uncreated unstored
    intro bystander isCall
    obtain ⟨other, found⟩ := List.mem_iff_getElem?.mp isCall
    by_cases isMover : other = index
    · subst isMover
      rw [present] at found
      obtain ⟨inRange, _⟩ := List.getElem?_eq_some_iff.mp present
      rw [← Option.some.inj found, ← same]
      exact noneCreated next (List.mem_set inRange next)
    · apply noneCreated bystander
      apply List.mem_iff_getElem?.mpr
      refine ⟨other, ?_⟩
      rw [Pool.setCall, List.getElem?_set_ne (Ne.symm isMover)]
      exact found
  ofStored := settled.ofStored

/-- A call has a customer created, and no other call has one. -/
theorem Settled.created
    {purpose : Purpose}
    {app : CallingApp}
    {tenant : Customer}
    {customerId : String}
    (settled : Settled tenantId pool)
    (present :
      pool.calls[index]? = some (.createCustomer purpose app tenant))
    (unstored : pool.data.stored tenantId = none)
    (noneCreated : ∀ other ∈ pool.calls, other.created = none)
    (unheld : ∀ tenant ∈ pool.data.tenants.rows,
      tenant.stripeCustomerId ≠ some customerId) :
    Settled tenantId
      ({ pool with data := { pool.data with
          customers := pool.data.customers ++
            [(⟨customerId, tenant.name, tenant.id, tenant.slug⟩ :
              StripeCustomer)] } }.setCall
        index (.storeCustomer purpose app tenant.id customerId)) := by
  obtain ⟨isTenant, known⟩ := settled.stands index _ present
  have onlyCustomer : Storefront.customersOf
      { pool.data with customers := pool.data.customers ++
        [⟨customerId, tenant.name, tenant.id, tenant.slug⟩] } tenantId =
      [⟨customerId, tenant.name, tenant.id, tenant.slug⟩] := by
    have before := settled.uncreated unstored noneCreated
    unfold Storefront.customersOf at before ⊢
    simp [List.filter_append, before, isTenant]
  constructor
  · exact ⟨(congrArg List.length onlyCustomer).le, settled.opened⟩
  · intro other bystander found
    rcases Pool.of_getElem?_setCall found with ⟨_, rfl⟩ | ⟨_, found⟩
    · exact ⟨isTenant, known, unstored, congrArg List.length onlyCustomer,
        unheld⟩
    · have stands := settled.stands other bystander found
      have uncreated := noneCreated bystander (List.mem_of_getElem? found)
      cases bystander with
      | storeCustomer => cases uncreated
      | givenUp lost => exact fun isLost => absurd uncreated isLost
      | _ => exact stands
  · have only : ∀ (other : Nat) (bystander : CheckoutPhase),
        (Pool.setCall pool index (.storeCustomer purpose app tenant.id
          customerId)).calls[other]? = some bystander →
        bystander.created ≠ none → other = index := by
      intro other bystander found isCreated
      rcases Pool.of_getElem?_setCall found with ⟨same, _⟩ | ⟨_, found⟩
      · exact same
      · exact absurd (noneCreated bystander (List.mem_of_getElem? found))
          isCreated
    intro left right leftCall rightCall leftFound rightFound leftCreated
      rightCreated
    exact (only left leftCall leftFound leftCreated).trans
      (only right rightCall rightFound rightCreated).symm
  · intro _ nowNoneCreated
    have mover : CheckoutPhase.storeCustomer purpose app tenant.id customerId ∈
        pool.calls.set index (.storeCustomer purpose app tenant.id
          customerId) := by
      obtain ⟨inRange, _⟩ := List.getElem?_eq_some_iff.mp present
      exact List.mem_set inRange _
    cases nowNoneCreated _ mover
  · exact fun isStored => absurd unstored isStored

/-- A customer that no tenant stores can be stored. -/
theorem Storefront.storeCustomer_of_unheld
    {front : Storefront}
    {customer : String}
    (known : (front.tenants.find? tenantId).isSome)
    (unheld : ∀ tenant ∈ front.tenants.rows,
      tenant.stripeCustomerId ≠ some customer) :
    ∃ tenants : Table Customer.id,
      front.storeCustomer tenantId customer =
          some { front with tenants := tenants } ∧
        tenants.find? tenantId = (front.tenants.find? tenantId).map
          fun tenant => { tenant with stripeCustomerId := some customer } := by
  obtain ⟨tenant, found⟩ := Option.isSome_iff_exists.mp known
  have isTenant := front.tenants.key_of_find? found
  have free : (front.tenants.rows.any fun other =>
      other.id ≠ tenantId && other.stripeCustomerId = some customer) =
      false := by
    rw [List.any_eq_false]
    intro other present
    simp [unheld other present]
  refine ⟨front.tenants.put { tenant with stripeCustomerId := some customer },
    ?_, ?_⟩
  · simp only [Storefront.storeCustomer, found, Option.bind_some, free,
      Bool.false_eq_true, if_false]
  · simp [found, isTenant]

/-- The only call with a customer stores it. -/
theorem Settled.stored
    {purpose : Purpose}
    {app : CallingApp}
    {customer : String}
    {tenants : Table Customer.id}
    (settled : Settled tenantId pool)
    (present : pool.calls[index]? =
      some (.storeCustomer purpose app tenantId customer))
    (written : tenants.find? tenantId =
      (pool.data.tenants.find? tenantId).map
        fun tenant => { tenant with stripeCustomerId := some customer }) :
    Settled tenantId
      ({ pool with data := { pool.data with tenants := tenants } }.setCall
        index (.openSession purpose app customer)) := by
  obtain ⟨_, known, unstored, single, _⟩ := settled.stands index _ present
  have nowKnown : (tenants.find? tenantId).isSome := by
    rw [written, Option.isSome_map]
    exact known
  have nowStored : (tenants.find? tenantId).bind Customer.stripeCustomerId =
      some customer := by
    obtain ⟨tenant, found⟩ := Option.isSome_iff_exists.mp known
    simp [written, found]
  have othersUncreated : ∀ (other : Nat) (bystander : CheckoutPhase),
      other ≠ index → pool.calls[other]? = some bystander →
        bystander.created = none := by
    intro other bystander apart found
    by_contra isCreated
    exact apart (settled.single other index bystander _ found present isCreated
      (by simp [CheckoutPhase.created]))
  constructor
  · refine ⟨settled.atMostOne, ?_⟩
    intro session isOpen
    have onStored := settled.opened session isOpen
    rw [unstored] at onStored
    cases onStored
  · intro other bystander found
    rcases Pool.of_getElem?_setCall found with ⟨_, rfl⟩ | ⟨apart, found⟩
    · exact nowStored
    · have stands := settled.stands other bystander found
      have uncreated := othersUncreated other bystander apart found
      cases bystander with
      | createCustomer purpose app tenant => exact ⟨stands.1, nowKnown⟩
      | storeCustomer purpose app target other => cases uncreated
      | openSession purpose app other =>
          rw [Stands, unstored] at stands
          cases stands
      | givenUp lost => exact fun isLost => absurd uncreated isLost
      | findPrices | findRelationship | findTenant | done => exact stands
  · intro left right leftCall rightCall leftFound rightFound leftCreated _
    rcases Pool.of_getElem?_setCall leftFound with
      ⟨_, rfl⟩ | ⟨apart, leftFound⟩
    · exact absurd rfl leftCreated
    · exact absurd (othersUncreated left leftCall apart leftFound) leftCreated
  · intro nowUnstored
    have absurdly : some customer = none := nowStored.symm.trans nowUnstored
    cases absurdly
  · exact fun _ => single

/-- The only call with a customer, or one after it, opens its session. -/
theorem Settled.open
    {purpose : Purpose}
    {app : CallingApp}
    {customer : String}
    {url : Option String}
    (settled : Settled tenantId pool)
    (present :
      pool.calls[index]? = some (.openSession purpose app customer)) :
    Settled tenantId
      ({ pool with data := { pool.data with
          sessions := pool.data.sessions ++
            [purpose.session app customer] } }.setCall
        index (.done (.ok url))) := by
  have isStored : pool.data.stored tenantId = some customer :=
    settled.stands index _ present
  have moved : Settled tenantId (pool.setCall index (.done (.ok url))) :=
    settled.quiet present rfl trivial
  constructor
  · refine ⟨settled.atMostOne, ?_⟩
    intro session isOpen
    rcases List.mem_append.mp isOpen with before | isNew
    · exact settled.opened session before
    · rw [List.mem_singleton.mp isNew, Purpose.customer_session]
      exact isStored
  · intro other bystander found
    have stands := moved.stands other bystander found
    cases bystander <;> exact stands
  · exact moved.single
  · exact moved.uncreated
  · exact moved.ofStored

/-- What `ensureCustomer` goes on with. -/
theorem stands_ensureCustomer
    (env : CheckoutEnv)
    {front : Storefront}
    {purpose : Purpose}
    (app : CallingApp)
    (isFor : purpose.tenantId = tenantId) :
    Stands tenantId front (CheckoutPhase.ensureCustomer env purpose app
        (front.tenants.find? purpose.tenantId)) ∧
      (CheckoutPhase.ensureCustomer env purpose app
        (front.tenants.find? purpose.tenantId)).created = none := by
  subst isFor
  cases found : front.tenants.find? purpose.tenantId with
  | none => exact ⟨trivial, rfl⟩
  | some tenant =>
      simp only [CheckoutPhase.ensureCustomer, CheckoutPhase.withStripe]
      split
      · exact ⟨trivial, rfl⟩
      · split
        · rename_i customer isGiven
          have isStored : tenant.stripeCustomerId = some customer :=
            (Option.filter_eq_some_iff.mp isGiven).1
          split
          · refine ⟨?_, rfl⟩
            simp [Stands, Storefront.stored, found, isStored]
          · exact ⟨trivial, rfl⟩
        · split
          · refine ⟨⟨front.tenants.key_of_find? found, ?_⟩, rfl⟩
            simp [found]
          · exact ⟨trivial, rfl⟩

/-- A call begins. -/
theorem Settled.begin
    (settled : Settled tenantId pool)
    (stands : Stands tenantId pool.data call)
    (uncreated : call.created = none) :
    Settled tenantId { pool with calls := pool.calls ++ [call] } where
  toOneCustomer := settled.toOneCustomer
  stands := by
    intro other bystander found
    rcases Pool.of_getElem?_append found with ⟨_, rfl⟩ | found
    · exact stands
    · exact settled.stands other bystander found
  single := by
    intro left right leftCall rightCall leftFound rightFound leftCreated
      rightCreated
    rcases Pool.of_getElem?_append leftFound with ⟨_, rfl⟩ | leftFound
    · exact absurd uncreated leftCreated
    · rcases Pool.of_getElem?_append rightFound with ⟨_, rfl⟩ | rightFound
      · exact absurd uncreated rightCreated
      · exact settled.single left right leftCall rightCall leftFound rightFound
          leftCreated rightCreated
  uncreated := by
    intro unstored noneCreated
    apply settled.uncreated unstored
    intro bystander isCall
    exact noneCreated bystander (List.mem_append_left _ isCall)
  ofStored := settled.ofStored

/-- One event keeps a tenant to one customer. -/
theorem Settled.step
    {event : PoolEvent CheckoutRequest Minted}
    {after : Pool Storefront CheckoutPhase}
    (settled : Settled tenantId pool)
    (forTenant : ForTenant tenantId pool event)
    (inTurn : InTurn tenantId pool event)
    (stepped : (checkouts env).poolStep pool event = some after) :
    Settled tenantId after := by
  cases event with
  | start request =>
      simp only [Program.poolStep, Option.some.injEq] at stepped
      subst stepped
      have begins : Stands tenantId pool.data ((checkouts env).begins request) ∧
          ((checkouts env).begins request).created = none := by
        cases request <;> exact ⟨forTenant, rfl⟩
      exact settled.begin begins.1 begins.2
  | advance index minted =>
      simp only [Program.poolStep, Option.map_eq_some_iff] at stepped
      obtain ⟨call, present, rfl⟩ := stepped
      have stands := settled.stands index call present
      cases call with
      | findPrices dto app =>
          simp only [checkouts, CheckoutPhase.step]
          split
          · exact settled.quiet present rfl trivial
          · exact settled.quiet present rfl stands
      | findRelationship purpose app =>
          simp only [checkouts, CheckoutPhase.step]
          split
          · split
            · exact settled.quiet present rfl trivial
            · exact settled.quiet present rfl stands
          · exact settled.quiet present rfl trivial
      | findTenant purpose app =>
          obtain ⟨nowStands, uncreated⟩ :=
            stands_ensureCustomer env app stands
          exact settled.quiet present uncreated nowStands
      | createCustomer purpose app tenant =>
          obtain ⟨unstored, noneCreated⟩ := inTurn _ present rfl
          exact settled.created present unstored noneCreated forTenant.2.1
      | storeCustomer purpose app target customer =>
          obtain ⟨rfl, known, _, _, unheld⟩ := stands
          obtain ⟨tenants, isStored, written⟩ :=
            Storefront.storeCustomer_of_unheld known unheld
          simp only [checkouts, CheckoutPhase.step, isStored]
          exact settled.stored present written
      | openSession purpose app customer => exact settled.open present
      | done outcome => exact settled.quiet present rfl trivial
      | givenUp lost => exact settled.quiet present rfl stands
  | abandon index =>
      simp only [Program.poolStep, Option.map_eq_some_iff] at stepped
      obtain ⟨call, present, rfl⟩ := stepped
      have stands := settled.stands index call present
      cases call with
      | storeCustomer purpose app target customer =>
          exact settled.quiet present rfl
            fun _ => ⟨stands.2.2.1, stands.2.2.2.1⟩
      | done outcome => exact settled.quiet present rfl trivial
      | givenUp lost => exact settled.quiet present rfl stands
      | _ => exact settled.quiet present rfl (absurd rfl)

/-- A call that is given a customer out of turn leaves the tenant with two. -/
theorem Settled.inTurn
    {event : PoolEvent CheckoutRequest Minted}
    {after : Pool Storefront CheckoutPhase}
    (settled : Settled tenantId pool)
    (stepped : (checkouts env).poolStep pool event = some after)
    (one : OneCustomer tenantId after.data) :
    InTurn tenantId pool event := by
  cases event with
  | start request => trivial
  | abandon index => trivial
  | advance index minted =>
      intro call present creates
      cases call with
      | createCustomer purpose app tenant =>
          simp only [Program.poolStep, Option.map_eq_some_iff] at stepped
          obtain ⟨mover, isMover, rfl⟩ := stepped
          obtain rfl := Option.some.inj
            ((Option.mem_def.mp present).symm.trans isMover)
          have isFor : tenant.id = tenantId :=
            (settled.stands index _ isMover).1
          have noneBefore : (pool.data.customersOf tenantId).length = 0 := by
            have afterwards := one.atMostOne
            simp only [checkouts, CheckoutPhase.step, Pool.setCall,
              Storefront.customersOf, List.filter_append, isFor,
              List.length_append] at afterwards
            simp only [decide_true, List.filter_cons_of_pos, List.filter_nil,
              List.length_singleton] at afterwards
            unfold Storefront.customersOf
            omega
          constructor
          · by_contra isStored
            have single := settled.ofStored isStored
            omega
          · intro other isCall
            by_contra isCreated
            obtain ⟨position, found⟩ := List.mem_iff_getElem?.mp isCall
            have stands := settled.stands position other found
            have single : (pool.data.customersOf tenantId).length = 1 := by
              cases other with
              | storeCustomer => exact stands.2.2.2.1
              | givenUp lost => exact (stands isCreated).2
              | _ => exact absurd rfl isCreated
            omega
      | _ => cases creates

end Settled

/-! ## One customer for a workspace -/

section Run

variable {env : CheckoutEnv} {tenantId : String} {front : Storefront}
  {final : Pool Storefront CheckoutPhase}
  {events : List (PoolEvent CheckoutRequest Minted)}

theorem NoCustomer.settled (untouched : NoCustomer tenantId front) :
    Settled tenantId ⟨front, []⟩ where
  atMostOne := by
    rw [untouched.none]
    exact Nat.zero_le 1
  opened := by
    rw [untouched.unopened]
    simp
  stands := by simp
  single := by simp
  uncreated := fun _ _ => untouched.none
  ofStored := absurd untouched.unstored

/-- The calls leave a workspace that had no customer with one, on which every
session is opened, exactly when they ask for a customer in turn. -/
theorem inTurn_iff_oneCustomer
    (untouched : NoCustomer tenantId front)
    (run : Run (checkouts env).poolStep (ForTenant tenantId) ⟨front, []⟩ events
      final) :
    Run (checkouts env).poolStep
        (fun pool event => ForTenant tenantId pool event ∧
          InTurn tenantId pool event) ⟨front, []⟩ events final ↔
      ∀ handled reached, handled <+: events →
        Run (checkouts env).poolStep (ForTenant tenantId) ⟨front, []⟩ handled
          reached → OneCustomer tenantId reached.data := by
  apply run.meets_iff_throughout (fun _ => Settled.toOneCustomer)
  · intro pool event after settled forTenant inTurn stepped
    exact settled.step forTenant inTurn stepped
  · intro pool event after settled _ stepped one
    exact settled.inTurn stepped one
  · exact untouched.settled

end Run

/-- A workspace that two apps may sell to. -/
def sharedWorkspace : Storefront where
  prices := [⟨"a1", "price_1", "pro", false, "month", 1, 0⟩,
    ⟨"a2", "price_2", "pro", false, "month", 1, 0⟩]
  enabled := [("t1", "a1"), ("t1", "a2")]
  tenants := Table.empty.put ⟨"t1", "acme", "Acme", none, none⟩
  customers := []
  sessions := []

/-- A deployment with a test key. -/
def testDeployment : CheckoutEnv where
  configured := true
  mode := .test
  originOf := some

/-- A checkout of an app, at its only price. -/
def buy (appId : String) : CheckoutRequest :=
  .checkout ⟨"t1", none, none, none, none, none, "https://app", "https://app"⟩
    ⟨appId, appId, ["https://app"]⟩

/-- A call moves on, and Stripe mints an id if it is asked. -/
def moves (index : Nat) (customerId : String) :
    PoolEvent CheckoutRequest Minted :=
  .advance index ⟨customerId, none⟩

theorem noCustomer_sharedWorkspace : NoCustomer "t1" sharedWorkspace where
  unstored := by decide
  none := by decide
  unopened := rfl

/-- One app checks out while another one opens the portal, whose call reads the
tenant after the first one has stored its customer. -/
def inOrder : List (PoolEvent CheckoutRequest Minted) :=
  [.start (buy "a1"),
    .start (.portal ⟨"t1", "https://app"⟩ ⟨"a2", "a2", ["https://app"]⟩),
    moves 0 "c1", moves 0 "c1", moves 1 "c1", moves 0 "c1", moves 0 "c1",
    moves 0 "c2", moves 1 "c2", moves 1 "c2", moves 0 "c2"]

theorem inTurn_iff_oneCustomer_inOrder :
    ∃ final, Run (checkouts testDeployment).poolStep (ForTenant "t1")
        ⟨sharedWorkspace, []⟩ inOrder final ∧
      final.data.sessions.map StripeSession.customer = ["c1", "c1"] ∧
      ∀ handled reached, handled <+: inOrder →
        Run (checkouts testDeployment).poolStep (ForTenant "t1")
          ⟨sharedWorkspace, []⟩ handled reached →
        OneCustomer "t1" reached.data := by
  obtain ⟨final, run, opened⟩ := Run.exists_of_execute
    (checkouts testDeployment).poolStep
    (fun pool event => decide (ForTenant "t1" pool event ∧
      InTurn "t1" pool event))
    (fun _ _ passed => of_decide_eq_true passed)
    ⟨sharedWorkspace, []⟩ inOrder
    (fun pool => pool.data.sessions.map StripeSession.customer = ["c1", "c1"])
    (by decide +kernel)
  have forTenant : Run (checkouts testDeployment).poolStep (ForTenant "t1")
      ⟨sharedWorkspace, []⟩ inOrder final :=
    run.mono fun _ _ conditions => conditions.1
  exact ⟨final, forTenant, of_decide_eq_true opened,
    (inTurn_iff_oneCustomer noCustomer_sharedWorkspace forTenant).mp run⟩

/-- Two apps check out at once, and both read the tenant before either stores a
customer. -/
def crossing : List (PoolEvent CheckoutRequest Minted) :=
  [.start (buy "a1"), .start (buy "a2"),
    moves 0 "c1", moves 0 "c1", moves 0 "c1",
    moves 1 "c1", moves 1 "c1", moves 1 "c1",
    moves 0 "c1", moves 1 "c2", moves 0 "c3", moves 1 "c3",
    moves 0 "c3", moves 1 "c3"]

/-- Both calls have ended, the workspace has two customers at Stripe, and one
session is on the customer that the workspace does not store. -/
theorem crossing_twoCustomers :
    ∃ final, Run (checkouts testDeployment).poolStep (ForTenant "t1")
        ⟨sharedWorkspace, []⟩ crossing final ∧
      final.calls = [.done (.ok none), .done (.ok none)] ∧
      (final.data.customersOf "t1").map StripeCustomer.id = ["c1", "c2"] ∧
      final.data.stored "t1" = some "c2" ∧
      final.data.sessions.map StripeSession.customer = ["c1", "c2"] ∧
      ¬ OneCustomer "t1" final.data := by
  obtain ⟨final, run, ends⟩ := Run.exists_of_execute
    (checkouts testDeployment).poolStep
    (fun pool event => decide (ForTenant "t1" pool event))
    (fun _ _ passed => of_decide_eq_true passed)
    ⟨sharedWorkspace, []⟩ crossing
    (fun pool => decide (pool.calls = [.done (.ok none), .done (.ok none)] ∧
      (pool.data.customersOf "t1").map StripeCustomer.id = ["c1", "c2"] ∧
      pool.data.stored "t1" = some "c2" ∧
      pool.data.sessions.map StripeSession.customer = ["c1", "c2"]))
    (by decide +kernel)
  obtain ⟨haveEnded, customers, isStored, opened⟩ := of_decide_eq_true ends
  refine ⟨final, run, haveEnded, customers, isStored, opened, ?_⟩
  intro one
  have atMostOne := one.atMostOne
  rw [← List.length_map, customers] at atMostOne
  simp at atMostOne

end Billing
end EvoPlatform
