import EvoPlatform.Apps.PriceTruth
import EvoPlatform.Foundation.Utf16

/-!
# Ready to bill

`BillingReadinessService.check`, on the catalogue that the calls of the console
have built up.  The report counts the prices of the other Stripe mode of each
app, and calls them harmless beside others.  What an app sells at the checkout is
still what it lists, unless such prices stand beside a single one.
-/

namespace EvoPlatform
namespace Revenue

open Apps Billing

/-! ## The report -/

/-- The keys of a deployment, from its environment. -/
structure BillingKeys where
  secretKey : Option JsString
  webhookSecret : Option JsString

/-- `stripeMode`: a key carries its mode in its prefix. -/
def stripeMode (key : Option JsString) : StripeMode :=
  let trimmed := JsString.trim (key.getD [])
  let startsWith (text : String) := (JsString.ofText text).isPrefixOf trimmed
  if startsWith "sk_test_" || startsWith "rk_test_" then .test
  else if startsWith "sk_live_" || startsWith "rk_live_" then .live
  else .unset

/-- `Boolean((key ?? '').trim())`. -/
def isSet (key : Option JsString) : Bool :=
  !(JsString.trim (key.getD [])).isEmpty

structure AppReadiness where
  clientId : String
  name : String
  sellableHere : Nat
  strandedOtherMode : Nat
  unverified : Nat
  tiers : List String
  deriving DecidableEq

structure BillingReadiness where
  mode : StripeMode
  secretKeySet : Bool
  webhookSecretSet : Bool
  apps : List AppReadiness
  problems : List String

/-- The prices of an app. -/
def pricesOf (db : PriceDb) (appId : String) : List Apps.AppPrice :=
  db.prices.rows.filter fun price => price.appId = appId

/-- `mode === 'unset' || price.livemode === wantLive`. -/
def isHere (mode : StripeMode) (price : Apps.AppPrice) : Bool :=
  mode.admits price.livemode

def appReadiness (mode : StripeMode) (db : PriceDb) (app : CatalogueApp) :
    AppReadiness :=
  let prices := pricesOf db app.id
  let here := prices.filter (isHere mode)
  let stranded := prices.filter fun price => !isHere mode price
  { clientId := app.clientId
    name := app.name
    sellableHere := (here.filter fun price => price.sellable).length
    strandedOtherMode := stranded.length
    unverified := (prices.filter fun price => price.stripeProductId = "").length
    tiers := (((here.filter fun price => price.sellable).map fun price =>
      price.tier).dedup).mergeSort fun left right =>
        decide (JsString.ofText left ≤ JsString.ofText right) }

def keyProblems (keys : BillingKeys) : List String :=
  (if !isSet keys.secretKey then
    ["STRIPE_SECRET_KEY is not set — every billing route answers 503."]
  else if stripeMode keys.secretKey = .unset then
    ["STRIPE_SECRET_KEY is set but is not a recognised secret key " ++
      "(expected sk_test_/sk_live_/rk_test_/rk_live_). A publishable key " ++
      "will not work."]
  else []) ++
  (if !isSet keys.webhookSecret then
    ["STRIPE_WEBHOOK_SECRET is not set — Stripe events are rejected, so a " ++
      "subscription would be paid for and never grant access."]
  else [])

def unverifiedProblem (app : AppReadiness) : List String :=
  if app.unverified > 0 then
    [app.name ++ " has " ++ toString app.unverified ++
      " price(s) whose amount was never read from Stripe, so its pricing " ++
      "table shows a placeholder rather than what a customer would be " ++
      "charged. Refresh each one (console: Prices → Refresh)."]
  else []

def strandedProblem (mode : StripeMode) (app : AppReadiness) : List String :=
  if app.sellableHere = 0 ∧ app.strandedOtherMode > 0 then
    [app.name ++ " has " ++ toString app.strandedOtherMode ++
      " price(s) registered, but all of them belong to " ++
      (if mode = .live then "test" else "live") ++
      " mode — it cannot be sold under the current " ++ mode.text ++
      " keys until its " ++ mode.text ++ " prices are registered."]
  else if app.strandedOtherMode > 0 then
    [app.name ++ " has " ++ toString app.strandedOtherMode ++
      " price(s) from the other Stripe mode. Harmless (they are never " ++
      "offered), but worth removing once the go-live is done."]
  else []

/-- `check`, where the database puts names in order. -/
def BillingReadiness.check (inOrder : String → String → Bool)
    (keys : BillingKeys) (db : PriceDb) : BillingReadiness :=
  let mode := stripeMode keys.secretKey
  let apps := ((db.apps.rows.filter fun app => app.deletedAt.isNone).mergeSort
    fun left right => inOrder left.name right.name).map (appReadiness mode db)
  { mode := mode
    secretKeySet := isSet keys.secretKey
    webhookSecretSet := isSet keys.webhookSecret
    apps := apps
    problems := keyProblems keys ++ apps.flatMap fun app =>
      unverifiedProblem app ++ strandedProblem mode app }

/-! ## A report without problems -/

section Report

variable {mode : StripeMode} {db : PriceDb} {app : CatalogueApp}
  {price : Apps.AppPrice}

theorem unverified_eq_zero_iff :
    (appReadiness mode db app).unverified = 0 ↔
      ∀ price ∈ pricesOf db app.id, price.stripeProductId ≠ "" := by
  simp [appReadiness]

theorem stranded_eq_zero_iff :
    (appReadiness mode db app).strandedOtherMode = 0 ↔
      ∀ price ∈ pricesOf db app.id, mode.admits price.livemode = true := by
  simp [appReadiness, isHere]

theorem appProblems_eq_nil_iff :
    unverifiedProblem (appReadiness mode db app) ++
        strandedProblem mode (appReadiness mode db app) = [] ↔
      ∀ price ∈ pricesOf db app.id,
        price.stripeProductId ≠ "" ∧ mode.admits price.livemode = true := by
  have unverified : unverifiedProblem (appReadiness mode db app) = [] ↔
      (appReadiness mode db app).unverified = 0 := by
    rw [unverifiedProblem]
    split <;> simp <;> omega
  have stranded : strandedProblem mode (appReadiness mode db app) = [] ↔
      (appReadiness mode db app).strandedOtherMode = 0 := by
    rw [strandedProblem]
    split
    · simp
      omega
    · split <;> simp <;> omega
  rw [List.append_eq_nil_iff, unverified, stranded, unverified_eq_zero_iff,
    stranded_eq_zero_iff]
  exact ⟨fun both price present => ⟨both.1 price present, both.2 price present⟩,
    fun both => ⟨fun price present => (both price present).1,
      fun price present => (both price present).2⟩⟩

theorem keyProblems_eq_nil_iff {keys : BillingKeys} :
    keyProblems keys = [] ↔ isSet keys.secretKey = true ∧
      stripeMode keys.secretKey ≠ .unset ∧ isSet keys.webhookSecret = true := by
  rw [keyProblems, List.append_eq_nil_iff]
  cases isSet keys.secretKey <;> cases isSet keys.webhookSecret <;>
    by_cases unset : stripeMode keys.secretKey = .unset <;> simp [unset]

end Report

/-- What a deployment needs that takes payments for what its apps sell. -/
structure Ready (keys : BillingKeys) (db : PriceDb) : Prop where
  secretKeySet : isSet keys.secretKey = true
  recognised : stripeMode keys.secretKey ≠ .unset
  webhookSecretSet : isSet keys.webhookSecret = true
  /-- The prices of the apps were read from Stripe, in the mode of the key. -/
  prices : ∀ app ∈ db.apps.rows, app.deletedAt = none →
    ∀ price ∈ pricesOf db app.id, price.stripeProductId ≠ "" ∧
      (stripeMode keys.secretKey).admits price.livemode = true

/-- The report has nothing to complain of exactly when all is ready. -/
theorem BillingReadiness.check_problems_eq_nil_iff
    {inOrder : String → String → Bool}
    {keys : BillingKeys}
    {db : PriceDb} :
    (BillingReadiness.check inOrder keys db).problems = [] ↔ Ready keys db := by
  simp only [BillingReadiness.check, List.append_eq_nil_iff,
    List.flatMap_eq_nil_iff, List.mem_map, keyProblems_eq_nil_iff]
  constructor
  · rintro ⟨⟨secretKeySet, recognised, webhookSecretSet⟩, ofApps⟩
    refine ⟨secretKeySet, recognised, webhookSecretSet, ?_⟩
    intro app present live
    apply appProblems_eq_nil_iff.mp
    apply List.append_eq_nil_iff.mpr
    apply ofApps
    exact ⟨app, by simp [present, live], rfl⟩
  · intro ready
    refine ⟨⟨ready.secretKeySet, ready.recognised, ready.webhookSecretSet⟩, ?_⟩
    rintro _ ⟨app, listed, rfl⟩
    apply List.append_eq_nil_iff.mp
    apply appProblems_eq_nil_iff.mpr
    simp only [List.mem_mergeSort, List.mem_filter, Option.isNone_iff_eq_none]
      at listed
    exact ready.prices app listed.1 listed.2

/-! ## What the calls of the console build up -/

/-- A price is sold, and can be asked for. -/
structure Selectable (price : Apps.AppPrice) : Prop where
  sellable : price.sellable = true
  id : price.stripePriceId ≠ ""
  tier : price.tier ≠ ""

/-- The tier that a call registers a price for. -/
def adds : PricePhase → Option AddPriceDto
  | .findApp _ dto => some dto
  | .describe _ dto => some dto
  | .findOwner _ dto _ => some dto
  | .findClash _ dto _ => some dto
  | .create _ dto _ => some dto
  | _ => none

/-- A price and its tier have names. -/
def Named (dto : AddPriceDto) : Prop :=
  dto.stripePriceId ≠ "" ∧ dto.tier ≠ ""

instance (dto : AddPriceDto) : Decidable (Named dto) :=
  inferInstanceAs (Decidable (_ ∧ _))

/-- What is registered has names. -/
def Naming (_ : Pool PriceDb PricePhase) :
    PoolEvent PriceRequest Outside → Prop
  | .start (.add _ dto) => Named dto
  | _ => True

instance (pool : Pool PriceDb PricePhase) :
    (event : PoolEvent PriceRequest Outside) → Decidable (Naming pool event)
  | .start (.add _ dto) => inferInstanceAs (Decidable (Named dto))
  | .start (.refresh _ _) => isTrue trivial
  | .start (.remove _ _) => isTrue trivial
  | .start (.createApp _) => isTrue trivial
  | .start (.deleteApp _) => isTrue trivial
  | .advance _ _ => isTrue trivial
  | .abandon _ => isTrue trivial

section Calls

variable {configured : Bool} {outside : Outside} {db : PriceDb}
  {phase : PricePhase}

theorem selectable_of_stores
    {price : Apps.AppPrice}
    (stores : Stores outside db phase price)
    (before : ∀ price ∈ db.prices.rows, Selectable price)
    (named : ∀ dto ∈ adds phase, Named dto) :
    Selectable price := by
  cases stores with
  | created appId dto facts =>
      obtain ⟨hasId, hasTier⟩ := named dto rfl
      exact ⟨rfl, hasId, hasTier⟩
  | updated app other stored facts present _ =>
      obtain ⟨sellable, hasId, hasTier⟩ := before stored present
      exact ⟨sellable, hasId, hasTier⟩

/-- A call registers what it was asked to. -/
theorem mem_adds_of_step {dto : AddPriceDto}
    (adding : dto ∈ adds (phase.step configured outside db).2) :
    dto ∈ adds phase := by
  rcases phase.step_cases configured outside db with carried | refused
  · rw [carried] at adding
    cases phase with
    | describeAgain app price =>
        simp only [PricePhase.carryOut, PricePhase.described] at adding
        repeat' split at adding
        all_goals contradiction
    | _ =>
        simp only [PricePhase.carryOut, PricePhase.asking] at adding
        repeat' split at adding
        all_goals first | exact adding | contradiction
  · rw [refused] at adding
    rcases phase.refused_cases with ended | ended <;>
    · rw [ended] at adding
      contradiction

end Calls

/-- Whatever the calls leave in the catalogue can be asked for. -/
theorem selectable_of_run
    {configured : Bool}
    {final : Pool PriceDb PricePhase}
    {events : List (PoolEvent PriceRequest Outside)}
    (run : Run (priceCalls configured).poolStep Naming ⟨.empty, []⟩ events
      final) :
    ∀ price ∈ final.data.prices.rows, Selectable price := by
  have kept : Program.Kept
      (fun data : PriceDb => ∀ price ∈ data.prices.rows, Selectable price)
      (fun _ call => ∀ dto ∈ adds call, Named dto) final := by
    apply Program.keeps _ _ _ run
    · intro price present
      exact absurd present List.not_mem_nil
    · intro pool request naming
      cases request with
      | add appId dto =>
          intro other isDto
          exact Option.mem_some_iff.mp isDto ▸ naming
      | _ =>
          intro other isDto
          contradiction
    · intro pool index outside call before named _ _ _
      refine ⟨?_, fun dto adding => named dto (mem_adds_of_step adding),
        fun _ _ others => others⟩
      intro price stored
      rcases mem_step stored with earlier | stores
      · exact before price earlier
      · exact selectable_of_stores stores before named
    · intro data call named
      cases call with
      | settled | done | givenUp => exact named
      | _ =>
          intro dto adding
          contradiction
  exact kept.ofData

/-! ## The checkout beside the report -/

/-- The catalogue of one app, as its checkout and its listing read it. -/
def tableOf (db : PriceDb) (appId : String) : PriceTable where
  rows := (pricesOf db appId).map Apps.AppPrice.toAppPriceRow
  uniqueIds := by
    rw [List.map_map]
    apply List.Nodup.map_on _
      ((List.Nodup.of_map _ db.prices.keysNodup).filter _)
    intro left leftPresent right rightPresent same
    exact db.idUnique left (List.mem_of_mem_filter leftPresent) right
      (List.mem_of_mem_filter rightPresent) _ (congrArg some same) rfl
  uniqueCadences := by
    rw [List.map_map]
    apply List.Nodup.map_on _
      ((List.Nodup.of_map _ db.prices.keysNodup).filter _)
    intro left leftPresent right rightPresent same
    obtain ⟨leftStored, leftApp⟩ := List.mem_filter.mp leftPresent
    obtain ⟨rightStored, rightApp⟩ := List.mem_filter.mp rightPresent
    have sameApp : left.appId = right.appId :=
      (of_decide_eq_true leftApp).trans (of_decide_eq_true rightApp).symm
    refine db.slotUnique left leftStored right rightStored _ ?_ rfl
    exact congrArg some (Prod.ext sameApp same)

section Listing

variable {mode : StripeMode} {db : PriceDb} {app : CatalogueApp}

theorem length_rows_tableOf :
    (tableOf db app.id).rows.length = (pricesOf db app.id).length :=
  List.length_map _

/-- The report counts what is listed. -/
theorem length_shown_tableOf :
    ((tableOf db app.id).shown mode).length =
      (appReadiness mode db app).sellableHere := by
  simp [PriceTable.shown, tableOf, appReadiness, List.filter_map,
    List.filter_filter, isHere, Function.comp_def]

/-- When nothing is archived, the prices are those of the mode and the others. -/
theorem length_pricesOf
    (mode : StripeMode)
    (sellable : ∀ price ∈ pricesOf db app.id, price.sellable = true) :
    (pricesOf db app.id).length =
      (appReadiness mode db app).sellableHere +
        (appReadiness mode db app).strandedOtherMode := by
  have allSold : ((pricesOf db app.id).filter (isHere mode)).filter
      (fun price => price.sellable) = (pricesOf db app.id).filter (isHere mode) :=
    List.filter_eq_self.mpr fun price present =>
      sellable price (List.mem_of_mem_filter present)
  simp only [appReadiness, allSold]
  exact List.length_eq_length_filter_add _

/-- The checkout is in line with the listing unless a single price that is
listed has others beside it. -/
theorem aligned_iff
    (selectable : ∀ price ∈ pricesOf db app.id, Selectable price) :
    (tableOf db app.id).Aligned mode ↔
      ¬ ((appReadiness mode db app).sellableHere = 1 ∧
        (appReadiness mode db app).strandedOtherMode > 0) := by
  have counted := length_pricesOf mode fun price present =>
    (selectable price present).sellable
  have ofRow : ∀ row ∈ (tableOf db app.id).rows,
      row.sellable = true ∧ row.stripePriceId ≠ "" ∧ row.tier ≠ "" := by
    intro row present
    obtain ⟨price, stored, rfl⟩ := List.mem_map.mp present
    obtain ⟨sellable, hasId, hasTier⟩ := selectable price stored
    exact ⟨sellable, hasId, hasTier⟩
  constructor
  · rintro aligned ⟨single, others⟩
    have alone := aligned.alone (length_shown_tableOf.trans single)
    rw [length_rows_tableOf] at alone
    omega
  · intro notBoth
    refine ⟨fun row present _ _ => (ofRow row present).1, ?_, ?_⟩
    · intro row isShown
      obtain ⟨_, hasId, hasTier⟩ := ofRow row (List.mem_of_mem_filter isShown)
      exact ⟨hasId, .inl hasTier⟩
    · intro single
      rw [length_shown_tableOf] at single
      rw [length_rows_tableOf, counted]
      omega

end Listing

/-- In whatever order the console has registered, refreshed and removed prices:
the report has nothing to complain of exactly when all is ready, and then every
app sells at the checkout what it lists.  Prices of the other mode are harmless
to an app unless they stand beside a single price of the mode. -/
theorem readiness_of_run
    {configured : Bool}
    {final : Pool PriceDb PricePhase}
    {events : List (PoolEvent PriceRequest Outside)}
    (run : Run (priceCalls configured).poolStep Naming ⟨.empty, []⟩ events
      final)
    (inOrder : String → String → Bool)
    (keys : BillingKeys)
    (originOf : String → Option String) :
    ((BillingReadiness.check inOrder keys final.data).problems = [] ↔
        Ready keys final.data) ∧
      ∀ app ∈ final.data.apps.rows,
        ((tableOf final.data app.id).SellsListed
            ⟨isSet keys.secretKey, stripeMode keys.secretKey, originOf⟩ ↔
          ¬ ((appReadiness (stripeMode keys.secretKey) final.data
                app).sellableHere = 1 ∧
              (appReadiness (stripeMode keys.secretKey) final.data
                app).strandedOtherMode > 0)) := by
  refine ⟨BillingReadiness.check_problems_eq_nil_iff, ?_⟩
  intro app _
  have selectable := selectable_of_run run
  rw [← aligned_iff fun price present =>
    selectable price (List.mem_of_mem_filter present)]
  let env : CheckoutEnv :=
    ⟨isSet keys.secretKey, stripeMode keys.secretKey, originOf⟩
  constructor
  · intro sells
    exact PriceTable.aligned_of_sellsListed sells
  · intro aligned
    have inMode : (tableOf final.data app.id).Aligned env.mode := aligned
    exact PriceTable.sellsListed_of_aligned inMode

/-- What Stripe answers about a plan. -/
def planOutside (newId interval : String) (livemode : Bool) : Outside where
  newId := newId
  retrieved := some ⟨true, .bare "prod_1", some 4900, "usd",
    some ⟨interval, 1⟩, livemode⟩
  indexed := true

/-- The monthly price was registered with the test key, and the yearly one with
the live key. -/
def goingLive : List (PoolEvent PriceRequest Outside) :=
  [.start (.createApp ⟨"a1", "app_1", "Acme", none⟩),
    .advance 0 (planOutside "p0" "month" false),
    .start (.add "a1" ⟨"price_1", "pro", none⟩)] ++
  List.replicate 7 (.advance 1 (planOutside "p1" "month" false)) ++
  [.start (.add "a1" ⟨"price_2", "pro", none⟩)] ++
  List.replicate 7 (.advance 2 (planOutside "p2" "year" true))

/-- The deployment runs with the live key. -/
def liveKeys : BillingKeys where
  secretKey := some (JsString.ofText "sk_live_1")
  webhookSecret := some (JsString.ofText "whsec_1")

theorem readiness_of_run_goingLive :
    ∃ final, Run (priceCalls true).poolStep Naming ⟨.empty, []⟩ goingLive
        final ∧
      ((BillingReadiness.check (fun _ _ => true) liveKeys
          final.data).problems = [] ↔
        Ready liveKeys final.data) ∧
      ¬ (tableOf final.data "a1").SellsListed
        ⟨isSet liveKeys.secretKey, stripeMode liveKeys.secretKey, some⟩ := by
  obtain ⟨final, run, ends⟩ := Run.exists_of_execute
    (priceCalls true).poolStep
    (fun pool event => decide (Naming pool event))
    (fun _ _ passed => of_decide_eq_true passed)
    ⟨.empty, []⟩ goingLive
    (fun pool =>
      decide (pool.data.apps.rows = [⟨"a1", "app_1", "Acme", none⟩]) &&
      decide ((appReadiness (stripeMode liveKeys.secretKey) pool.data
        ⟨"a1", "app_1", "Acme", none⟩).sellableHere = 1) &&
      decide ((appReadiness (stripeMode liveKeys.secretKey) pool.data
        ⟨"a1", "app_1", "Acme", none⟩).strandedOtherMode = 1))
    (by decide +kernel)
  simp only [Bool.and_eq_true, decide_eq_true_eq] at ends
  obtain ⟨⟨apps, here⟩, stranded⟩ := ends
  obtain ⟨problems, sells⟩ :=
    readiness_of_run run (fun _ _ => true) liveKeys some
  have known : (⟨"a1", "app_1", "Acme", none⟩ : CatalogueApp) ∈
      final.data.apps.rows := by
    rw [apps]
    exact List.mem_singleton.mpr rfl
  refine ⟨final, run, problems, fun sold => (sells _ known).mp sold ?_⟩
  exact ⟨here, stranded ▸ Nat.one_pos⟩

end Revenue
end EvoPlatform
