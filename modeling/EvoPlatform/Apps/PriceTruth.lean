import EvoPlatform.Apps.Prices

/-!
# The catalogue is what Stripe bills

Calls on the catalogue in any order.  Stripe never changes the terms of a price,
so that what a call has read stays true however long it takes to store it.  A
row that a call has written is true from then on; one that was wrong before
stays as it is until it is refreshed.
-/

namespace EvoPlatform
namespace Apps

/-! ## The terms of a price -/

/-- What Stripe never changes about a price: its product, its amount, which a
price that is billed by tiers or by fractions of a cent has none of, its
currency, how often it bills if it does so more than once, and its mode. -/
structure Terms where
  product : String
  unitAmount : Option Int
  currency : String
  recurring : Option Recurring
  livemode : Bool
  deriving DecidableEq

/-- The terms of a price that Stripe returns. -/
def StripePrice.terms (price : StripePrice) : Terms where
  product := price.product.id
  unitAmount := price.unitAmount
  currency := price.currency
  recurring := price.recurring
  livemode := price.livemode

/-- Facts tell the terms of a price. -/
structure PriceFacts.Tell (facts : PriceFacts) (terms : Terms) : Prop where
  product : facts.stripeProductId = terms.product
  amount : ∀ amount ∈ terms.unitAmount, facts.unitAmount = amount
  noAmount : terms.unitAmount = none → facts.unitAmount = 0
  currency : facts.currency = terms.currency
  recurring : ∀ recurring ∈ terms.recurring,
    facts.interval = recurring.interval ∧
      facts.intervalCount = recurring.intervalCount
  oneTime : terms.recurring = none →
    facts.interval = "once" ∧ facts.intervalCount = 1
  livemode : facts.livemode = terms.livemode

/-- What `describePrice` makes of a price tells its terms. -/
theorem StripePrice.tell_facts (price : StripePrice) :
    price.facts.Tell price.terms where
  product := rfl
  amount amount isAmount := by
    have known : price.unitAmount = some amount := isAmount
    simp only [facts, known, Option.getD_some]
  noAmount noAmount := by
    have unknown : price.unitAmount = none := noAmount
    simp only [facts, unknown, Option.getD_none]
  currency := rfl
  recurring recurring isRecurring := by
    have known : price.recurring = some recurring := isRecurring
    simp only [facts, known, Option.map_some, Option.getD_some, and_self]
  oneTime oneTime := by
    have unknown : price.recurring = none := oneTime
    simp [facts, unknown, Billing.once]
  livemode := rfl

/-- Facts that tell the same terms differ in the name of the product at most. -/
theorem PriceFacts.Tell.unique
    {before after : PriceFacts}
    {terms : Terms}
    (tellsBefore : before.Tell terms)
    (tellsAfter : after.Tell terms) :
    after = { before with productName := after.productName } := by
  obtain ⟨product, name, amount, currency, interval, count, live⟩ := before
  obtain ⟨product', name', amount', currency', interval', count', live'⟩ := after
  have sameAmount : amount = amount' := by
    cases isAmount : terms.unitAmount with
    | none =>
        exact (tellsBefore.noAmount isAmount).trans
          (tellsAfter.noAmount isAmount).symm
    | some known =>
        exact (tellsBefore.amount known isAmount).trans
          (tellsAfter.amount known isAmount).symm
  have sameCadence : interval = interval' ∧ count = count' := by
    cases isRecurring : terms.recurring with
    | none =>
        obtain ⟨once, single⟩ := tellsBefore.oneTime isRecurring
        obtain ⟨once', single'⟩ := tellsAfter.oneTime isRecurring
        exact ⟨once.trans once'.symm, single.trans single'.symm⟩
    | some known =>
        obtain ⟨each, times⟩ := tellsBefore.recurring known isRecurring
        obtain ⟨each', times'⟩ := tellsAfter.recurring known isRecurring
        exact ⟨each.trans each'.symm, times.trans times'.symm⟩
  obtain rfl : product = product' :=
    tellsBefore.product.trans tellsAfter.product.symm
  obtain rfl : currency = currency' :=
    tellsBefore.currency.trans tellsAfter.currency.symm
  obtain rfl : live = live' :=
    tellsBefore.livemode.trans tellsAfter.livemode.symm
  rw [sameAmount, sameCadence.1, sameCadence.2]

variable {configured : Bool} {bills : String → Terms} {old : List AppPrice}

/-- A row tells what Stripe bills for its price. -/
def AppPrice.TrueTo (bills : String → Terms) (price : AppPrice) : Prop :=
  price.facts.Tell (bills price.stripePriceId)

namespace PricePhase

/-- The price that Stripe is asked about. -/
def asks : PricePhase → Option String
  | .describe _ dto => some dto.stripePriceId
  | .describeAgain _ price => some price.stripePriceId
  | _ => none

/-- The row that a refresh has read. -/
def read : PricePhase → Option AppPrice
  | .describeAgain _ price => some price
  | .findOther _ price _ => some price
  | .update _ price _ => some price
  | _ => none

end PricePhase

/-- Stripe answers with the terms that it bills, and a new id is none that a
call has read. -/
def Honest (bills : String → Terms) (pool : Pool PriceDb PricePhase) :
    PoolEvent PriceRequest Outside → Prop
  | .advance index outside =>
      (∀ call ∈ pool.calls[index]?, ∀ id ∈ call.asks,
        ∀ price ∈ outside.retrieved, price.terms = bills id) ∧
      ∀ call ∈ pool.calls, ∀ price ∈ call.read, price.id ≠ outside.newId
  | _ => True

instance (pool : Pool PriceDb PricePhase) :
    (event : PoolEvent PriceRequest Outside) →
      Decidable (Honest bills pool event)
  | .start _ => isTrue trivial
  | .advance _ _ => inferInstanceAs (Decidable
      ((∀ _ ∈ _, ∀ _ ∈ _, ∀ _ ∈ _, _) ∧ ∀ _ ∈ _, ∀ _ ∈ _, _))
  | .abandon _ => isTrue trivial

/-! ## What a statement stores -/

/-- The row that a statement stores. -/
inductive Stores (outside : Outside) (db : PriceDb) :
    PricePhase → AppPrice → Prop
  | created (appId : String) (dto : AddPriceDto) (facts : PriceFacts) :
      Stores outside db (.create appId dto facts)
        (PricePhase.newPrice outside.newId appId dto facts)
  | updated (app : CatalogueApp) (price stored : AppPrice)
      (facts : PriceFacts) :
      stored ∈ db.prices.rows → stored.id = price.id →
      Stores outside db (.update app price facts) (stored.withFacts facts)

namespace PriceDb

variable {db after : PriceDb} {price row : AppPrice}

theorem prices_createPrice (created : db.createPrice price = some after) :
    after.prices = db.prices.put price := by
  unfold createPrice at created
  split at created
  · split at created
    · contradiction
    · rw [← Option.some.inj created]
      rfl
  · contradiction

theorem of_updatePrice {id : String} {facts : PriceFacts}
    {written : AppPrice}
    (updated : db.updatePrice id facts = some (after, written)) :
    ∃ stored ∈ db.prices.rows, stored.id = id ∧
      written = stored.withFacts facts ∧
      after.prices = db.prices.put written := by
  unfold updatePrice at updated
  split at updated
  · contradiction
  · rename_i stored found
    dsimp only at updated
    split at updated
    · obtain ⟨rfl, rfl⟩ := Prod.mk.inj (Option.some.inj updated)
      exact ⟨stored, db.prices.mem_of_find? found,
        db.prices.key_of_find? found, rfl, rfl⟩
    · contradiction

theorem mem_of_deletePrice {id : String}
    (deleted : db.deletePrice id = some after)
    (present : row ∈ after.prices.rows) :
    row ∈ db.prices.rows := by
  unfold deletePrice at deleted
  split at deleted
  · rw [← Option.some.inj deleted] at present
    exact List.mem_of_mem_filter present
  · contradiction

theorem mem_of_deleteApp {id : String}
    (deleted : db.deleteApp id = some after)
    (present : row ∈ after.prices.rows) :
    row ∈ db.prices.rows := by
  unfold deleteApp at deleted
  split at deleted
  · rw [← Option.some.inj deleted] at present
    exact List.mem_of_mem_filter present
  · contradiction

theorem prices_createApp {app : CatalogueApp}
    (created : db.createApp app = some after) :
    after.prices = db.prices := by
  unfold createApp at created
  split at created
  · contradiction
  · rw [← Option.some.inj created]

end PriceDb

/-- A row was there before, or the statement stores it. -/
theorem mem_carryOut
    {outside : Outside}
    {db : PriceDb}
    {phase : PricePhase}
    {row : AppPrice}
    (present : row ∈ (phase.carryOut configured outside db).1.prices.rows) :
    row ∈ db.prices.rows ∨ Stores outside db phase row := by
  cases phase with
  | create appId dto facts =>
      simp only [PricePhase.carryOut] at present
      split at present
      · exact .inl present
      · rename_i after created
        rw [PriceDb.prices_createPrice created, Table.mem_put_iff] at present
        rcases present with rfl | ⟨before, _⟩
        · exact .inr (.created appId dto facts)
        · exact .inl before
  | update app price facts =>
      simp only [PricePhase.carryOut] at present
      split at present
      · exact .inl present
      · rename_i after written updated
        obtain ⟨stored, known, sameId, rfl, isPut⟩ :=
          PriceDb.of_updatePrice updated
        rw [isPut, Table.mem_put_iff] at present
        rcases present with rfl | ⟨before, _⟩
        · exact .inr (.updated app price stored facts known sameId)
        · exact .inl before
  | delete app price =>
      simp only [PricePhase.carryOut] at present
      split at present
      · exact .inl present
      · rename_i after deleted
        exact .inl (PriceDb.mem_of_deletePrice deleted present)
  | createApp app =>
      simp only [PricePhase.carryOut] at present
      split at present
      · exact .inl present
      · rename_i after created
        rw [PriceDb.prices_createApp created] at present
        exact .inl present
  | deleteApp id =>
      simp only [PricePhase.carryOut] at present
      split at present
      · exact .inl present
      · rename_i after deleted
        exact .inl (PriceDb.mem_of_deleteApp deleted present)
  | _ =>
      simp only [PricePhase.carryOut] at present
      repeat' split at present
      all_goals exact .inl present

theorem mem_step
    {outside : Outside}
    {db : PriceDb}
    {phase : PricePhase}
    {row : AppPrice}
    (present : row ∈ (phase.step configured outside db).1.prices.rows) :
    row ∈ db.prices.rows ∨ Stores outside db phase row := by
  rcases phase.step_cases configured outside db with carried | refused
  · rw [carried] at present
    exact mem_carryOut present
  · rw [refused] at present
    exact .inl present

/-! ## What a call knows -/

/-- A row is true, or it is one of some rows. -/
def Accounted (bills : String → Terms) (old : List AppPrice)
    (price : AppPrice) : Prop :=
  price.TrueTo bills ∨ price ∈ old

/-- What a call has read of a row: the row was accounted for, and the price that
is stored under its id is still the same. -/
structure Known (bills : String → Terms) (old : List AppPrice) (db : PriceDb)
    (price : AppPrice) : Prop where
  accounted : Accounted bills old price
  same : ∀ row ∈ db.prices.rows, row.id = price.id →
    row.stripePriceId = price.stripePriceId

/-- A row that was refreshed is true, and the changes are those from what was
stored for the same price. -/
def Refreshed (bills : String → Terms) (old : List AppPrice)
    (updated : AppPrice) (changed : List String) : Prop :=
  updated.TrueTo bills ∧ ∃ price, Accounted bills old price ∧
    price.stripePriceId = updated.stripePriceId ∧
      changed = price.facts.changes updated.facts

namespace PricePhase

/-- What holds of a call where it stands. -/
def Sound (bills : String → Terms) (old : List AppPrice) (db : PriceDb) :
    PricePhase → Prop
  | .findOwner _ dto facts => facts.Tell (bills dto.stripePriceId)
  | .findClash _ dto facts => facts.Tell (bills dto.stripePriceId)
  | .create _ dto facts => facts.Tell (bills dto.stripePriceId)
  | .describeAgain _ price => Known bills old db price
  | .findOther _ price facts =>
      Known bills old db price ∧ facts.Tell (bills price.stripePriceId)
  | .update _ price facts =>
      Known bills old db price ∧ facts.Tell (bills price.stripePriceId)
  | .recordRefreshed _ _ updated changed => Refreshed bills old updated changed
  | .done (.ok (.refreshed updated changed)) =>
      Refreshed bills old updated changed
  | _ => True

end PricePhase

variable {outside : Outside} {db : PriceDb} {phase : PricePhase}

/-- Facts that are true make a row true. -/
theorem trueTo_newPrice
    {appId : String}
    {dto : AddPriceDto}
    {facts : PriceFacts}
    (isTrue : facts.Tell (bills dto.stripePriceId)) :
    (PricePhase.newPrice outside.newId appId dto facts).TrueTo bills :=
  isTrue

theorem trueTo_withFacts
    {price stored : AppPrice}
    {facts : PriceFacts}
    (same : stored.stripePriceId = price.stripePriceId)
    (isTrue : facts.Tell (bills price.stripePriceId)) :
    (stored.withFacts facts).TrueTo bills := by
  rw [AppPrice.TrueTo, AppPrice.facts_withFacts,
    AppPrice.stripePriceId_withFacts, same]
  exact isTrue

/-- What a sound call stores is true. -/
theorem Stores.trueTo
    {row : AppPrice}
    (stores : Stores outside db phase row)
    (sound : phase.Sound bills old db) :
    row.TrueTo bills := by
  cases stores with
  | created appId dto facts => exact trueTo_newPrice sound
  | updated app price stored facts known sameId =>
      exact trueTo_withFacts (sound.1.same stored known sameId) sound.2

/-- The rows stay accounted for. -/
theorem accounted_step
    (accounted : ∀ price ∈ db.prices.rows, Accounted bills old price)
    (sound : phase.Sound bills old db) :
    ∀ price ∈ (phase.step configured outside db).1.prices.rows,
      Accounted bills old price := by
  intro price present
  rcases mem_step present with before | stores
  · exact accounted price before
  · exact .inl (stores.trueTo sound)

/-- What a call has read stays known when another statement is executed. -/
theorem Known.step
    {price : AppPrice}
    (known : Known bills old db price)
    (fresh : price.id ≠ outside.newId) :
    Known bills old (phase.step configured outside db).1 price where
  accounted := known.accounted
  same := by
    intro row present sameId
    rcases mem_step present with before | stores
    · exact known.same row before sameId
    · cases stores with
      | created appId dto facts => exact absurd sameId.symm fresh
      | updated app other stored facts before otherId =>
          exact known.same stored before sameId

theorem Sound.undisturbed
    {call : PricePhase}
    (sound : call.Sound bills old db)
    (fresh : ∀ price ∈ call.read, price.id ≠ outside.newId) :
    call.Sound bills old (phase.step configured outside db).1 := by
  cases call with
  | describeAgain app price => exact Known.step sound (fresh price rfl)
  | findOther app price facts =>
      exact ⟨sound.1.step (fresh price rfl), sound.2⟩
  | update app price facts =>
      exact ⟨sound.1.step (fresh price rfl), sound.2⟩
  | done outcome =>
      rcases outcome with error | _ | _ | _
      all_goals exact sound
  | _ => exact sound

theorem known_of_mem
    {price : AppPrice}
    (accounted : ∀ price ∈ db.prices.rows, Accounted bills old price)
    (present : price ∈ db.prices.rows) :
    Known bills old db price where
  accounted := accounted price present
  same := by
    intro row other sameId
    rw [List.inj_on_of_nodup_map db.prices.keysNodup other present sameId]

/-- Facts that were read from Stripe tell its terms. -/
theorem tell_of_describePrice
    {id : String}
    {facts : PriceFacts}
    (honest : ∀ price ∈ outside.retrieved, price.terms = bills id)
    (described : describePrice id outside.retrieved = .ok facts) :
    facts.Tell (bills id) := by
  cases answered : outside.retrieved with
  | none =>
      rw [answered] at described
      contradiction
  | some price =>
      rw [answered] at described
      simp only [describePrice] at described
      split at described
      · rw [← Except.ok.inj described, ← honest price answered]
        exact price.tell_facts
      · contradiction

/-- A call whose statement is carried out stays sound. -/
theorem Sound.carryOut
    (accounted : ∀ price ∈ db.prices.rows, Accounted bills old price)
    (sound : phase.Sound bills old db)
    (honest : ∀ id ∈ phase.asks, ∀ price ∈ outside.retrieved,
      price.terms = bills id)
    (fresh : ∀ price ∈ phase.read, price.id ≠ outside.newId) :
    (phase.carryOut configured outside db).2.Sound bills old
      (phase.carryOut configured outside db).1 := by
  cases phase with
  | findApp appId dto =>
      simp only [PricePhase.carryOut, PricePhase.asking]
      split
      · trivial
      · split <;> trivial
  | describe appId dto =>
      simp only [PricePhase.carryOut]
      split
      · trivial
      · rename_i facts described
        exact tell_of_describePrice (honest _ rfl) described
  | findOwner appId dto facts =>
      simp only [PricePhase.carryOut]
      split
      · trivial
      · exact sound
  | findClash appId dto facts =>
      simp only [PricePhase.carryOut]
      split
      · trivial
      · exact sound
  | findPrice app priceId =>
      simp only [PricePhase.carryOut, PricePhase.asking]
      split
      · trivial
      · rename_i price found
        split
        · exact known_of_mem accounted
            (db.prices.mem_of_find? (Option.filter_eq_some_iff.mp found).1)
        · trivial
  | describeAgain app price =>
      simp only [PricePhase.carryOut]
      split
      · trivial
      · rename_i facts described
        have isTrue := tell_of_describePrice (honest _ rfl) described
        simp only [PricePhase.described]
        split
        · exact ⟨sound, isTrue⟩
        · exact ⟨sound, isTrue⟩
  | findOther app price facts =>
      simp only [PricePhase.carryOut]
      split
      · trivial
      · exact sound
  | update app price facts =>
      simp only [PricePhase.carryOut]
      split
      · trivial
      · rename_i after updated written
        obtain ⟨stored, known, sameId, rfl, _⟩ := PriceDb.of_updatePrice written
        have same := sound.1.same stored known sameId
        exact ⟨trueTo_withFacts same sound.2, price, sound.1.accounted,
          same.symm, rfl⟩
  | recordRefreshed app price updated changed => exact sound
  | done outcome => exact sound
  | _ =>
      simp only [PricePhase.carryOut]
      repeat' split
      all_goals trivial

/-- A call that moves on stays sound. -/
theorem Sound.step
    (accounted : ∀ price ∈ db.prices.rows, Accounted bills old price)
    (sound : phase.Sound bills old db)
    (honest : ∀ id ∈ phase.asks, ∀ price ∈ outside.retrieved,
      price.terms = bills id)
    (fresh : ∀ price ∈ phase.read, price.id ≠ outside.newId) :
    (phase.step configured outside db).2.Sound bills old
      (phase.step configured outside db).1 := by
  rcases phase.step_cases configured outside db with carried | refused
  · rw [carried]
    exact Sound.carryOut accounted sound honest fresh
  · rw [refused]
    rcases phase.refused_cases with ended | ended <;>
    · rw [ended]
      trivial

/-! ## Runs -/

/-- What the names of the fields are; only that of the product may change. -/
theorem changes_of_tell
    {before after : PriceFacts}
    {terms : Terms}
    (tellsBefore : before.Tell terms)
    (tellsAfter : after.Tell terms) :
    before.changes after =
      if before.productName = after.productName then []
      else ["productName: " ++ before.productName ++ " → " ++
        after.productName] := by
  rw [tellsBefore.unique tellsAfter]
  by_cases sameName : before.productName = after.productName
  · simp [PriceFacts.changes, PriceFacts.fields, sameName]
  · simp [PriceFacts.changes, PriceFacts.fields, sameName, FactValue.string]

/-- What holds of the data and of each call. -/
theorem holds_of_run
    {final : Pool PriceDb PricePhase}
    {events : List (PoolEvent PriceRequest Outside)}
    (run : Run (priceCalls configured).poolStep (Honest bills) ⟨db, []⟩ events
      final) :
    Program.Kept
      (fun data => ∀ price ∈ data.prices.rows,
        Accounted bills db.prices.rows price)
      (fun data call => call.Sound bills db.prices.rows data) final := by
  apply Program.keeps _ _ _ run
  · intro price present
    exact .inr present
  · intro pool request _
    cases request <;> trivial
  · intro pool index outside call accounted sound isCall honest present
    refine ⟨accounted_step accounted sound,
      Sound.step accounted sound (honest.1 call present)
        (honest.2 call isCall), ?_⟩
    intro bystander isBystander before
    exact Sound.undisturbed before (honest.2 bystander isBystander)
  · intro data call sound
    cases call with
    | done outcome => exact sound
    | _ => trivial

/-- A row is what Stripe bills, unless it is one from the start that was not
refreshed.  A row that was refreshed is true; and when the catalogue was true,
all that a refresh reports is another name of the product. -/
theorem catalogue_true
    {final : Pool PriceDb PricePhase}
    {events : List (PoolEvent PriceRequest Outside)}
    (run : Run (priceCalls configured).poolStep (Honest bills) ⟨db, []⟩ events
      final) :
    (∀ price ∈ final.data.prices.rows,
        price.TrueTo bills ∨ price ∈ db.prices.rows) ∧
      ∀ updated changed,
        .done (.ok (.refreshed updated changed)) ∈ final.calls →
        updated.TrueTo bills ∧
          ((∀ price ∈ db.prices.rows, price.TrueTo bills) →
            changed = [] ∨ ∃ before, changed =
              ["productName: " ++ before ++ " → " ++ updated.productName]) := by
  have holds := holds_of_run run
  refine ⟨holds.ofData, ?_⟩
  intro updated changed answered
  obtain ⟨isTrue, price, wasAccounted, samePrice, isChanges⟩ :=
    holds.ofCall _ answered
  refine ⟨isTrue, fun allTrue => ?_⟩
  have wasTrue : price.TrueTo bills := wasAccounted.elim id (allTrue price)
  rw [AppPrice.TrueTo, samePrice] at wasTrue
  rw [isChanges, changes_of_tell wasTrue isTrue]
  split
  · exact .inl rfl
  · exact .inr ⟨price.productName, rfl⟩

/-- The terms of a plan at Stripe. -/
def proTerms : Terms :=
  ⟨"prod_1", some 4900, "usd", some ⟨"month", 1⟩, false⟩

/-- What Stripe answers about the plan, under the name that it has by then. -/
def proOutside (newId name : String) : Outside where
  newId := newId
  retrieved := some ⟨true, .whole "prod_1" (some name), some 4900, "usd",
    some ⟨"month", 1⟩, false⟩
  indexed := true

/-- A price is registered, and refreshed after its product was renamed. -/
def renamedProduct : List (PoolEvent PriceRequest Outside) :=
  [.start (.createApp ⟨"a1", "app_1", "Acme", none⟩),
    .advance 0 (proOutside "p0" "Pro"),
    .start (.add "a1" ⟨"price_1", "pro", none⟩)] ++
  List.replicate 7 (.advance 1 (proOutside "p1" "Pro")) ++
  [.start (.refresh "a1" "p1")] ++
  List.replicate 5 (.advance 2 (proOutside "p2" "Pro plan"))

theorem catalogue_true_renamedProduct :
    ∃ final updated,
      Run (priceCalls true).poolStep (Honest fun _ => proTerms) ⟨.empty, []⟩
        renamedProduct final ∧
      (∀ price ∈ final.data.prices.rows, price.TrueTo fun _ => proTerms) ∧
      .done (.ok (.refreshed updated ["productName: Pro → Pro plan"])) ∈
        final.calls ∧
      updated.TrueTo fun _ => proTerms := by
  obtain ⟨final, run, ends⟩ := Run.exists_of_execute
    (priceCalls true).poolStep
    (fun pool event => decide (Honest (fun _ => proTerms) pool event))
    (fun _ _ passed => of_decide_eq_true passed)
    ⟨.empty, []⟩ renamedProduct
    (fun pool => pool.calls[2]? = some (.done (.ok (.refreshed
      (PricePhase.newPrice "p1" "a1" ⟨"price_1", "pro", none⟩
        ⟨"prod_1", "Pro plan", 4900, "usd", "month", 1, false⟩)
      ["productName: Pro → Pro plan"]))))
    (by decide +kernel)
  have refreshed := List.mem_of_getElem? (of_decide_eq_true ends)
  obtain ⟨rows, reports⟩ := catalogue_true run
  refine ⟨final, _, run, fun price present => ?_, refreshed,
    (reports _ _ refreshed).1⟩
  exact (rows price present).resolve_right List.not_mem_nil

end Apps
end EvoPlatform
