import EvoPlatform.Billing.Checkout
import Mathlib.Data.List.Sort
import Mathlib.Data.Prod.Lex

/-!
# The catalogue and the checkout

An app lists what it sells for its pricing table, and asks for a checkout of one
of its prices.  The listing leaves out the prices that are archived and those of
the other Stripe mode; the checkout selects among all prices of the app, and
checks the mode of the one it has selected.
-/

namespace EvoPlatform
namespace Billing

open Auth

/-- A row of the `app_prices` table, with what the listing reads besides. -/
structure AppPriceRow extends CataloguePrice where
  stripeProductId : String
  productName : String
  unitAmount : Int
  currency : String
  sellable : Bool
  sortOrder : Int
  deriving DecidableEq

/-- What the listing selects of a row. -/
structure ListedPrice where
  stripePriceId : String
  stripeProductId : String
  productName : String
  tier : String
  unitAmount : Int
  currency : String
  interval : String
  intervalCount : Int
  trialDays : Int
  deriving DecidableEq

namespace AppPriceRow

def listed (row : AppPriceRow) : ListedPrice where
  stripePriceId := row.stripePriceId
  stripeProductId := row.stripeProductId
  productName := row.productName
  tier := row.tier
  unitAmount := row.unitAmount
  currency := row.currency
  interval := row.interval
  intervalCount := row.intervalCount
  trialDays := row.trialDays

/-- What a price is selected by, besides its id. -/
def cadence (row : AppPriceRow) : String × String × Int :=
  (row.tier, row.interval, row.intervalCount)

/-- Cheapest first, after the order that the operator chose. -/
def comesBefore (first second : AppPriceRow) : Bool :=
  first.sortOrder < second.sortOrder ||
    (first.sortOrder = second.sortOrder && first.unitAmount ≤ second.unitAmount)

end AppPriceRow

/-- A price that the mode of the deployment does not rule out. -/
def StripeMode.admits (mode : StripeMode) (livemode : Bool) : Bool :=
  mode = .unset || livemode = decide (mode = .live)

/-- The prices of an app, with what the schema keeps unique. -/
structure PriceTable where
  rows : List AppPriceRow
  uniqueIds : (rows.map fun row => row.stripePriceId).Nodup
  uniqueCadences : (rows.map AppPriceRow.cadence).Nodup

namespace PriceTable

variable (table : PriceTable)

/-- What `findMany` returns to a checkout. -/
def prices : List CataloguePrice :=
  table.rows.map AppPriceRow.toCataloguePrice

/-- The rows that the listing does not leave out. -/
def shown (mode : StripeMode) : List AppPriceRow :=
  table.rows.filter fun row => row.sellable && mode.admits row.livemode

/-- `listPrices`. -/
def listPrices (mode : StripeMode) : List ListedPrice :=
  ((table.shown mode).mergeSort AppPriceRow.comesBefore).map AppPriceRow.listed

/-- What a checkout resolves to is a row of the app. -/
def Resolves (env : CheckoutEnv) (dto : CheckoutDto) (row : AppPriceRow) :
    Prop :=
  row ∈ table.rows ∧
    resolvePrice env table.prices dto = .ok row.toCataloguePrice

/-- The checkout sells what the listing offers. -/
structure SellsListed (env : CheckoutEnv) : Prop where
  /-- Nothing else is sold. -/
  onlyListed : ∀ dto price, resolvePrice env table.prices dto = .ok price →
    ∃ row, table.Resolves env dto row ∧ row.toCataloguePrice = price ∧
      row.listed ∈ table.listPrices env.mode
  /-- A listed price can be asked for by its id. -/
  byId : ∀ listing ∈ table.listPrices env.mode, ∀ dto,
    dto.priceId = some listing.stripePriceId →
    ∃ row, table.Resolves env dto row ∧ row.listed = listing
  /-- A listed price can be asked for by its tier, interval and count. -/
  byTier : ∀ listing ∈ table.listPrices env.mode, ∀ dto,
    given dto.priceId = none →
    dto.tier = some listing.tier →
    dto.interval.getD "month" = listing.interval →
    dto.intervalCount.getD 1 = listing.intervalCount →
    ∃ row, table.Resolves env dto row ∧ row.listed = listing
  /-- Without a selector the only listed price is meant. -/
  unselected : ∀ dto, given dto.priceId = none → given dto.tier = none →
    ((∃ price, resolvePrice env table.prices dto = .ok price) ↔
      (table.listPrices env.mode).length = 1)

/-- Nothing that the listing leaves out comes between it and the checkout. -/
structure Aligned (mode : StripeMode) : Prop where
  /-- No price of the mode is archived, if it can be selected. -/
  noneArchived : ∀ row ∈ table.rows, mode.admits row.livemode →
    row.stripePriceId ≠ "" ∨ row.tier ≠ "" ∨ table.rows = [row] →
    row.sellable
  /-- A price that is shown has an id, and a tier unless it is the only one. -/
  named : ∀ row ∈ table.shown mode, row.stripePriceId ≠ "" ∧
    (row.tier ≠ "" ∨ table.rows = [row])
  /-- A price that is shown alone is the only one. -/
  alone : (table.shown mode).length = 1 → table.rows.length = 1

/-! ## What is shown -/

variable {table : PriceTable} {env : CheckoutEnv} {dto : CheckoutDto}

theorem mem_shown_iff {mode : StripeMode} {row : AppPriceRow} :
    row ∈ table.shown mode ↔
      row ∈ table.rows ∧ row.sellable = true ∧
        mode.admits row.livemode = true := by
  simp [shown]

theorem length_listPrices (mode : StripeMode) :
    (table.listPrices mode).length = (table.shown mode).length := by
  simp [listPrices]

theorem mem_listPrices_iff {mode : StripeMode} {listing : ListedPrice} :
    listing ∈ table.listPrices mode ↔
      ∃ row ∈ table.shown mode, row.listed = listing := by
  simp [listPrices]

/-- A row is known by its id. -/
theorem eq_of_id_eq {row other : AppPriceRow}
    (present : row ∈ table.rows)
    (otherPresent : other ∈ table.rows)
    (sameId : row.stripePriceId = other.stripePriceId) :
    row = other :=
  List.inj_on_of_nodup_map table.uniqueIds present otherPresent sameId

/-- A row is known by its tier, interval and count. -/
theorem eq_of_cadence_eq {row other : AppPriceRow}
    (present : row ∈ table.rows)
    (otherPresent : other ∈ table.rows)
    (sameCadence : row.cadence = other.cadence) :
    row = other :=
  List.inj_on_of_nodup_map table.uniqueCadences present otherPresent
    sameCadence

/-- A row of the app is shown if its listing is. -/
theorem mem_shown_of_listed {mode : StripeMode} {row : AppPriceRow}
    (present : row ∈ table.rows)
    (isListed : row.listed ∈ table.listPrices mode) :
    row ∈ table.shown mode := by
  obtain ⟨other, otherShown, sameListing⟩ := mem_listPrices_iff.mp isListed
  have sameRow : other = row :=
    eq_of_id_eq (mem_shown_iff.mp otherShown).1 present
      (congrArg ListedPrice.stripePriceId sameListing)
  exact sameRow ▸ otherShown

/-! ## What a selector finds -/

/-- The mode is checked of the price that was selected. -/
theorem vetted_eq_ok_iff {selected price : CataloguePrice} :
    vetted env selected = .ok price ↔
      env.mode.admits selected.livemode = true ∧ selected = price := by
  unfold vetted assertPriceMode StripeMode.admits
  by_cases unset : env.mode = .unset
  · simp [unset, pure, bind, Except.pure, Except.bind]
  · by_cases wrongMode : selected.livemode = decide (env.mode = .live)
    · simp [unset, wrongMode, pure, bind, Except.pure, Except.bind]
    · simp [unset, wrongMode, bind, Except.bind]

/-- A predicate that one row can meet finds it. -/
theorem find?_prices_eq_some_iff
    {meets : CataloguePrice → Bool}
    (unique : ∀ row ∈ table.rows, ∀ other ∈ table.rows,
      meets row.toCataloguePrice = true →
      meets other.toCataloguePrice = true → row = other)
    {price : CataloguePrice} :
    table.prices.find? meets = some price ↔
      ∃ row ∈ table.rows, meets row.toCataloguePrice = true ∧
        row.toCataloguePrice = price := by
  constructor
  · intro found
    obtain ⟨row, present, rfl⟩ :=
      List.mem_map.mp (List.mem_of_find?_eq_some found)
    exact ⟨row, present, List.find?_some found, rfl⟩
  · rintro ⟨row, present, meetsRow, rfl⟩
    rw [prices, List.find?_map]
    cases found : table.rows.find? (meets ∘ AppPriceRow.toCataloguePrice) with
    | none =>
        have none := List.find?_eq_none.mp found row present
        exact absurd meetsRow none
    | some other =>
        have sameRow : other = row :=
          unique other (List.mem_of_find?_eq_some found) row present
            (by simpa using List.find?_some found) meetsRow
        rw [sameRow, Option.map_some]

/-- A price that was found is sold if its mode is that of the deployment. -/
theorem vetted_find?_eq_ok_iff
    {meets : CataloguePrice → Bool}
    (unique : ∀ row ∈ table.rows, ∀ other ∈ table.rows,
      meets row.toCataloguePrice = true →
      meets other.toCataloguePrice = true → row = other)
    (missing : CheckoutError)
    {price : CataloguePrice} :
    (match table.prices.find? meets with
      | none => Except.error missing
      | some selected => vetted env selected) = .ok price ↔
      ∃ row ∈ table.rows, meets row.toCataloguePrice = true ∧
        env.mode.admits row.livemode = true ∧ row.toCataloguePrice = price := by
  have finds := @find?_prices_eq_some_iff table meets unique
  cases found : table.prices.find? meets with
  | none =>
      constructor
      · intro sold
        cases sold
      · rintro ⟨row, present, meetsRow, -, -⟩
        rw [finds.mpr ⟨row, present, meetsRow, rfl⟩] at found
        cases found
  | some selected =>
      obtain ⟨row, present, meetsRow, rfl⟩ := finds.mp found
      rw [vetted_eq_ok_iff]
      constructor
      · rintro ⟨rightMode, rfl⟩
        exact ⟨row, present, meetsRow, rightMode, rfl⟩
      · rintro ⟨other, otherPresent, meetsOther, rightMode, rfl⟩
        have sameRow :=
          unique row present other otherPresent meetsRow meetsOther
        exact ⟨sameRow ▸ rightMode, congrArg _ sameRow⟩

/-- A checkout by id sells the row of that id, if the mode is right. -/
theorem resolvePrice_byId
    {id : String}
    (selected : given dto.priceId = some id)
    {price : CataloguePrice} :
    resolvePrice env table.prices dto = .ok price ↔
      ∃ row ∈ table.rows, row.stripePriceId = id ∧
        env.mode.admits row.livemode = true ∧ row.toCataloguePrice = price := by
  have unique (row : AppPriceRow) (present : row ∈ table.rows)
      (other : AppPriceRow)
      (otherPresent : other ∈ table.rows)
      (isId : decide (row.stripePriceId = id) = true)
      (otherIsId : decide (other.stripePriceId = id) = true) : row = other :=
    eq_of_id_eq present otherPresent
      ((of_decide_eq_true isId).trans (of_decide_eq_true otherIsId).symm)
  have sold := @vetted_find?_eq_ok_iff table env
    (fun price => decide (price.stripePriceId = id)) unique
    (.badRequest "priceId is not one of this app's registered prices") price
  simp only [decide_eq_true_eq] at sold
  rw [← sold]
  cases shape : table.prices with
  | nil => simp [resolvePrice]
  | cons first others =>
      cases found : (first :: others).find? fun price =>
          decide (price.stripePriceId = id) with
      | none => simp only [resolvePrice, selected, found]
      | some known => simp only [resolvePrice, selected, found]

/-- A checkout by tier, interval and count sells the row of that cadence, if the
mode is right. -/
theorem resolvePrice_byTier
    {tier : String}
    (noId : given dto.priceId = none)
    (selected : given dto.tier = some tier)
    {price : CataloguePrice} :
    resolvePrice env table.prices dto = .ok price ↔
      ∃ row ∈ table.rows, row.cadence =
          (tier, dto.interval.getD "month", dto.intervalCount.getD 1) ∧
        env.mode.admits row.livemode = true ∧ row.toCataloguePrice = price := by
  have isCadence (row : AppPriceRow) :
      (decide (row.tier = tier) &&
        decide (row.interval = dto.interval.getD "month") &&
        decide (row.intervalCount = dto.intervalCount.getD 1)) = true ↔
      row.cadence =
        (tier, dto.interval.getD "month", dto.intervalCount.getD 1) := by
    simp [AppPriceRow.cadence, and_assoc]
  have sold := @vetted_find?_eq_ok_iff table env
    (fun price => price.tier = tier &&
      price.interval = dto.interval.getD "month" &&
      price.intervalCount = dto.intervalCount.getD 1)
    (fun row present other otherPresent meetsRow meetsOther =>
      eq_of_cadence_eq present otherPresent
        (((isCadence row).mp meetsRow).trans
          ((isCadence other).mp meetsOther).symm))
    (.badRequest ("This app has no \"" ++ tier ++ "\" price billed every " ++
      toString (dto.intervalCount.getD 1) ++ " " ++
      dto.interval.getD "month")) price
  simp only [isCadence] at sold
  rw [← sold]
  cases shape : table.prices with
  | nil => simp [resolvePrice]
  | cons first others =>
      cases found : (first :: others).find? fun price =>
          price.tier = tier && price.interval = dto.interval.getD "month" &&
            price.intervalCount = dto.intervalCount.getD 1 with
      | none => simp only [resolvePrice, noId, selected, found]
      | some known => simp only [resolvePrice, noId, selected, found]

/-- A checkout without a selector sells the only row, if the mode is right. -/
theorem resolvePrice_unselected
    (noId : given dto.priceId = none)
    (noTier : given dto.tier = none)
    {price : CataloguePrice} :
    resolvePrice env table.prices dto = .ok price ↔
      ∃ row, table.rows = [row] ∧
        env.mode.admits row.livemode = true ∧ row.toCataloguePrice = price := by
  rcases rowsAre : table.rows with _ | ⟨first, others⟩
  · simp [prices, rowsAre, resolvePrice]
  · cases others with
    | nil =>
        simp [prices, rowsAre, resolvePrice, noId, noTier, vetted_eq_ok_iff]
    | cons second others =>
        simp [prices, rowsAre, resolvePrice, noId, noTier]

/-! ## When the checkout sells what is listed -/

/-- The only row, if there is one, is the row. -/
theorem eq_singleton_of_length
    {row : AppPriceRow}
    (present : row ∈ table.rows)
    (single : table.rows.length = 1) :
    table.rows = [row] := by
  obtain ⟨only, rowsAre⟩ := List.length_eq_one_iff.mp single
  rw [rowsAre, List.mem_singleton] at present
  rw [rowsAre, present]

/-- Whatever is sold is a row of the mode that a selector can name, or the only
one. -/
theorem sold_row
    {price : CataloguePrice}
    (sold : resolvePrice env table.prices dto = .ok price) :
    ∃ row ∈ table.rows, row.toCataloguePrice = price ∧
      env.mode.admits row.livemode = true ∧
      (row.stripePriceId ≠ "" ∨ row.tier ≠ "" ∨ table.rows = [row]) := by
  have nonempty {text : Option String} {selector : String}
      (isGiven : given text = some selector) : selector ≠ "" := by
    simpa using (Option.filter_eq_some_iff.mp isGiven).2
  cases hasId : given dto.priceId with
  | some id =>
      obtain ⟨row, present, isId, rightMode, rfl⟩ :=
        (resolvePrice_byId hasId).mp sold
      exact ⟨row, present, rfl, rightMode,
        Or.inl (isId ▸ nonempty hasId)⟩
  | none =>
      cases hasTier : given dto.tier with
      | some tier =>
          obtain ⟨row, present, isCadence, rightMode, rfl⟩ :=
            (resolvePrice_byTier hasId hasTier).mp sold
          have isTier : row.tier = tier := congrArg Prod.fst isCadence
          exact ⟨row, present, rfl, rightMode,
            Or.inr (Or.inl (isTier ▸ nonempty hasTier))⟩
      | none =>
          obtain ⟨row, rowsAre, rightMode, rfl⟩ :=
            (resolvePrice_unselected hasId hasTier).mp sold
          exact ⟨row, by simp [rowsAre], rfl, rightMode,
            Or.inr (Or.inr rowsAre)⟩

/-- A request with these selectors. -/
def selecting (priceId tier interval : Option String)
    (intervalCount : Option Int) : CheckoutDto where
  tenantId := "t"
  priceId := priceId
  tier := tier
  interval := interval
  intervalCount := intervalCount
  quantity := none
  successUrl := "https://app.example/paid"
  cancelUrl := "https://app.example/plans"

/-- A request for a price by its id. -/
def byId (row : AppPriceRow) : CheckoutDto :=
  selecting (some row.stripePriceId) none none none

/-- A request for a price by its tier, interval and count. -/
def byCadence (row : AppPriceRow) : CheckoutDto :=
  selecting none (some row.tier) (some row.interval) (some row.intervalCount)

/-- A row of the mode that can be named, or is the only one, can be sold. -/
theorem exists_sold_row
    {row : AppPriceRow}
    (present : row ∈ table.rows)
    (rightMode : env.mode.admits row.livemode = true)
    (nameable : row.stripePriceId ≠ "" ∨ row.tier ≠ "" ∨
      table.rows = [row]) :
    ∃ dto, resolvePrice env table.prices dto = .ok row.toCataloguePrice := by
  by_cases hasId : row.stripePriceId = ""
  · by_cases hasTier : row.tier = ""
    · have single : table.rows = [row] := by
        simpa [hasId, hasTier] using nameable
      exact ⟨byId row, (resolvePrice_unselected
        (by simp [byId, selecting, hasId, given])
        (by simp [byId, selecting, given])).mpr ⟨row, single, rightMode, rfl⟩⟩
    · exact ⟨byCadence row, (resolvePrice_byTier
        (by simp [byCadence, selecting, given]) (given_some hasTier)).mpr
          ⟨row, present, rfl, rightMode, rfl⟩⟩
  · exact ⟨byId row, (resolvePrice_byId (given_some hasId)).mpr
      ⟨row, present, rfl, rightMode, rfl⟩⟩

section Aligned

variable (aligned : table.Aligned env.mode)

include aligned

theorem onlyListed_of_aligned
    {price : CataloguePrice}
    (sold : resolvePrice env table.prices dto = .ok price) :
    ∃ row, table.Resolves env dto row ∧ row.toCataloguePrice = price ∧
      row.listed ∈ table.listPrices env.mode := by
  obtain ⟨row, present, rfl, rightMode, nameable⟩ := sold_row sold
  have sellable := aligned.noneArchived row present rightMode nameable
  exact ⟨row, ⟨present, sold⟩, rfl, mem_listPrices_iff.mpr
    ⟨row, mem_shown_iff.mpr ⟨present, sellable, rightMode⟩, rfl⟩⟩

theorem byId_of_aligned
    {listing : ListedPrice}
    (isListed : listing ∈ table.listPrices env.mode)
    (selects : dto.priceId = some listing.stripePriceId) :
    ∃ row, table.Resolves env dto row ∧ row.listed = listing := by
  obtain ⟨row, isShown, rfl⟩ := mem_listPrices_iff.mp isListed
  obtain ⟨present, -, rightMode⟩ := mem_shown_iff.mp isShown
  have isGiven : given dto.priceId = some row.stripePriceId :=
    selects ▸ given_some (aligned.named row isShown).1
  exact ⟨row, ⟨present, (resolvePrice_byId isGiven).mpr
    ⟨row, present, rfl, rightMode, rfl⟩⟩, rfl⟩

theorem byTier_of_aligned
    {listing : ListedPrice}
    (isListed : listing ∈ table.listPrices env.mode)
    (noId : given dto.priceId = none)
    (sameTier : dto.tier = some listing.tier)
    (sameInterval : dto.interval.getD "month" = listing.interval)
    (sameCount : dto.intervalCount.getD 1 = listing.intervalCount) :
    ∃ row, table.Resolves env dto row ∧ row.listed = listing := by
  obtain ⟨row, isShown, rfl⟩ := mem_listPrices_iff.mp isListed
  obtain ⟨present, -, rightMode⟩ := mem_shown_iff.mp isShown
  have sold : resolvePrice env table.prices dto = .ok row.toCataloguePrice := by
    by_cases hasTier : row.tier = ""
    · have single : table.rows = [row] :=
        (aligned.named row isShown).2.resolve_left (not_not_intro hasTier)
      have noTier : given dto.tier = none := by
        rw [sameTier]
        simp [AppPriceRow.listed, hasTier, given]
      exact (resolvePrice_unselected noId noTier).mpr
        ⟨row, single, rightMode, rfl⟩
    · have isGiven : given dto.tier = some row.tier :=
        sameTier ▸ given_some hasTier
      refine (resolvePrice_byTier noId isGiven).mpr
        ⟨row, present, ?_, rightMode, rfl⟩
      rw [sameInterval, sameCount]
      rfl
  exact ⟨row, ⟨present, sold⟩, rfl⟩

theorem unselected_of_aligned
    (noId : given dto.priceId = none)
    (noTier : given dto.tier = none) :
    (∃ price, resolvePrice env table.prices dto = .ok price) ↔
      (table.listPrices env.mode).length = 1 := by
  rw [length_listPrices]
  constructor
  · rintro ⟨price, sold⟩
    obtain ⟨row, single, rightMode, rfl⟩ :=
      (resolvePrice_unselected noId noTier).mp sold
    have sellable := aligned.noneArchived row (by simp [single]) rightMode
      (Or.inr (Or.inr single))
    simp [shown, single, sellable, rightMode]
  · intro oneShown
    obtain ⟨row, shownAre⟩ := List.length_eq_one_iff.mp oneShown
    have isShown : row ∈ table.shown env.mode := by simp [shownAre]
    obtain ⟨present, -, rightMode⟩ := mem_shown_iff.mp isShown
    exact ⟨row.toCataloguePrice, (resolvePrice_unselected noId noTier).mpr
      ⟨row, eq_singleton_of_length present (aligned.alone oneShown), rightMode,
        rfl⟩⟩

theorem sellsListed_of_aligned : table.SellsListed env where
  onlyListed _ _ := onlyListed_of_aligned aligned
  byId _ isListed _ := byId_of_aligned aligned isListed
  byTier _ isListed _ := byTier_of_aligned aligned isListed
  unselected _ := unselected_of_aligned aligned

end Aligned

/-- A listing that is asked for is the row that was listed. -/
theorem sold_of_listed
    {row other : AppPriceRow}
    (present : row ∈ table.rows)
    (resolves : table.Resolves env dto other)
    (sameListing : other.listed = row.listed) :
    resolvePrice env table.prices dto = .ok row.toCataloguePrice := by
  have sameRow : other = row := eq_of_id_eq resolves.1 present
    (congrArg ListedPrice.stripePriceId sameListing)
  exact sameRow ▸ resolves.2

section SellsListed

variable (sells : table.SellsListed env)

include sells

/-- What is sold is shown. -/
theorem mem_shown_of_sold
    {row : AppPriceRow}
    (present : row ∈ table.rows)
    (sold : resolvePrice env table.prices dto = .ok row.toCataloguePrice) :
    row ∈ table.shown env.mode := by
  obtain ⟨other, ⟨otherPresent, -⟩, samePrice, isListed⟩ :=
    sells.onlyListed dto _ sold
  have sameRow : other = row := eq_of_id_eq otherPresent present
    (congrArg CataloguePrice.stripePriceId samePrice)
  exact mem_shown_of_listed present (sameRow ▸ isListed)

/-- A listed price has an id: without one, another tier could be asked for. -/
theorem id_ne_of_sellsListed
    {row : AppPriceRow}
    (isShown : row ∈ table.shown env.mode) :
    row.stripePriceId ≠ "" := by
  intro noId
  have present := (mem_shown_iff.mp isShown).1
  let dto := selecting (some row.stripePriceId) (some (row.tier ++ "+"))
    none none
  obtain ⟨other, resolves, sameListing⟩ :=
    sells.byId row.listed (mem_listPrices_iff.mpr ⟨row, isShown, rfl⟩) dto rfl
  have sold := sold_of_listed present resolves sameListing
  have noneGiven : given dto.priceId = none := by
    simp [dto, selecting, noId, given]
  have tierGiven : given dto.tier = some (row.tier ++ "+") :=
    given_some (by simp)
  obtain ⟨sameAs, -, isCadence, -, samePrice⟩ :=
    (resolvePrice_byTier noneGiven tierGiven).mp sold
  have itsTier : sameAs.tier = row.tier ++ "+" := congrArg Prod.fst isCadence
  have sameTier : sameAs.tier = row.tier :=
    congrArg CataloguePrice.tier samePrice
  have longer := congrArg String.length (sameTier.symm.trans itsTier)
  simp at longer

/-- A listed price has a tier, unless it is the only price. -/
theorem tier_ne_of_sellsListed
    {row : AppPriceRow}
    (isShown : row ∈ table.shown env.mode) :
    row.tier ≠ "" ∨ table.rows = [row] := by
  by_cases noTier : row.tier = ""
  · have present := (mem_shown_iff.mp isShown).1
    obtain ⟨other, resolves, sameListing⟩ :=
      sells.byTier row.listed (mem_listPrices_iff.mpr ⟨row, isShown, rfl⟩)
        (byCadence row) rfl rfl rfl rfl
    have sold := sold_of_listed present resolves sameListing
    obtain ⟨only, single, -, -⟩ := (resolvePrice_unselected
      (by simp [byCadence, selecting, given])
      (by simp [byCadence, selecting, given, noTier])).mp sold
    rw [single, List.mem_singleton] at present
    exact Or.inr (present ▸ single)
  · exact Or.inl noTier

/-- A price that is listed alone is the only price. -/
theorem alone_of_sellsListed
    (oneShown : (table.shown env.mode).length = 1) :
    table.rows.length = 1 := by
  let dto := selecting none none none none
  obtain ⟨price, sold⟩ := (sells.unselected dto rfl rfl).mpr
    ((length_listPrices env.mode).trans oneShown)
  obtain ⟨row, single, -, -⟩ := (resolvePrice_unselected rfl rfl).mp sold
  simp [single]

theorem aligned_of_sellsListed : table.Aligned env.mode where
  noneArchived row present rightMode nameable := by
    obtain ⟨dto, sold⟩ := exists_sold_row present rightMode nameable
    exact (mem_shown_iff.mp (mem_shown_of_sold sells present sold)).2.1
  named row isShown :=
    ⟨id_ne_of_sellsListed sells isShown, tier_ne_of_sellsListed sells isShown⟩
  alone := alone_of_sellsListed sells

end SellsListed

end PriceTable

/-- The checkout sells what the listing offers, whatever is asked for, if and
only if the listing leaves out nothing of the mode that can be selected, shows
nothing without a name, and shows no price alone that is not the only one. -/
theorem checkout_sellsListed_iff (env : CheckoutEnv) (table : PriceTable) :
    table.SellsListed env ↔ table.Aligned env.mode :=
  ⟨PriceTable.aligned_of_sellsListed, PriceTable.sellsListed_of_aligned⟩

/-- A price of the tier `pro`. -/
def samplePrice (stripePriceId interval : String) (livemode sellable : Bool) :
    AppPriceRow where
  appId := "a"
  stripePriceId := stripePriceId
  tier := "pro"
  livemode := livemode
  interval := interval
  intervalCount := 1
  trialDays := 0
  stripeProductId := "prod_1"
  productName := "Pro"
  unitAmount := 4900
  currency := "usd"
  sellable := sellable
  sortOrder := 0

/-- A price that is archived is still sold; and with a price of the other mode
the only listed price is not found without a selector. -/
theorem checkout_sellsUnlisted :
    let env : CheckoutEnv :=
      { configured := true, mode := .live, originOf := fun _ => none }
    let archived : PriceTable :=
      { rows := [samplePrice "price_1" "month" true false]
        uniqueIds := by decide
        uniqueCadences := by decide }
    let goLive : PriceTable :=
      { rows := [samplePrice "price_1" "year" false true,
          samplePrice "price_2" "month" true true]
        uniqueIds := by decide
        uniqueCadences := by decide }
    let unselected := PriceTable.selecting none none none none
    (archived.listPrices .live = [] ∧
      ∃ price, resolvePrice env archived.prices unselected = .ok price) ∧
      ((goLive.listPrices .live).length = 1 ∧
        ∀ price, resolvePrice env goLive.prices unselected ≠ .ok price) ∧
      ¬ archived.SellsListed env ∧ ¬ goLive.SellsListed env := by
  intro env archived goLive unselected
  have noneListed : archived.listPrices .live = [] := by decide +kernel
  have sold : resolvePrice env archived.prices unselected =
      .ok (samplePrice "price_1" "month" true false).toCataloguePrice := rfl
  have oneListed : (goLive.listPrices .live).length = 1 := by decide +kernel
  have refused (price : CataloguePrice) :
      resolvePrice env goLive.prices unselected ≠ .ok price := by
    intro sold
    cases sold
  refine ⟨⟨noneListed, _, sold⟩, ⟨oneListed, refused⟩, ?_, ?_⟩
  · intro sells
    obtain ⟨row, -, -, isListed⟩ := sells.onlyListed unselected _ sold
    have inNone : row.listed ∈ ([] : List ListedPrice) := noneListed ▸ isListed
    exact List.not_mem_nil inNone
  · intro sells
    obtain ⟨price, sold⟩ :=
      (sells.unselected unselected rfl rfl).mpr oneListed
    exact refused price sold

end Billing
end EvoPlatform
