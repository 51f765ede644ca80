import EvoPlatform.StripeCatalogue.Values
import Mathlib.Data.List.Nodup
import Mathlib.Tactic.Common

/-!
# Validation of a catalogue

`validate` goes through the products and their prices and lists everything that
is wrong.  It accepts exactly the catalogues of the documented format, provided
that the values it meets have the shapes that it takes for granted.
-/

namespace EvoPlatform
namespace StripeCatalogue

open PyValue (lookup asStr asInt asItems asDict)

/-- The default of `price.get("currency", "usd")`. -/
def defaultCurrency : PyValue := .str (ofText "usd")

/-- The default of `price.get("interval", "month")`. -/
def defaultInterval : PyValue := .str (ofText "month")

/-- The default of `price.get("interval_count", 1)`. -/
def defaultCount : PyValue := .int 1

def VALID_INTERVALS : List PyString :=
  ["day", "week", "month", "year"].map ofText

/-- `products[i]` or `products[i].prices[j]`. -/
structure Place where
  product : Nat
  price : Option Nat
  deriving DecidableEq

/-- `(tier, interval, count)`. -/
structure PriceKey where
  tier : PyValue
  interval : PyValue
  count : PyValue

/-- `left == right`, for keys that can be in a set. -/
def PriceKey.equals (left right : PriceKey) : Bool :=
  left.tier.equals right.tier && left.interval.equals right.interval &&
    left.count.equals right.count

/-- What can be wrong, and where. -/
inductive Problem
  /-- `"products" must be a non-empty list`. -/
  | products
  /-- `"name" is required`. -/
  | name (place : Place)
  /-- `duplicate product name`, with the name. -/
  | duplicateName (place : Place) (name : PyString)
  /-- `"prices" must be a non-empty list`. -/
  | prices (place : Place)
  /-- `"tier" is required`. -/
  | tier (place : Place)
  /-- `"amount" must be a non-negative integer of minor units`. -/
  | amount (place : Place)
  /-- `"currency" must be a 3-letter code`. -/
  | currency (place : Place)
  /-- `"interval" must be one of`, with the valid ones. -/
  | interval (place : Place)
  /-- `"interval_count" must be a positive integer`. -/
  | intervalCount (place : Place)
  /-- `duplicate tier/interval`, with the key. -/
  | duplicateKey (place : Place) (key : PriceKey)

/-! ## One price -/

/-- A text that is there and not blank. -/
def isNamed (value : Option PyValue) : Bool :=
  (value.bind asStr).any fun text => !(strip text).isEmpty

def isAmount (value : Option PyValue) : Bool :=
  (value.bind asInt).any fun amount => 0 ≤ amount

def isCurrency (value : PyValue) : Bool :=
  value.asStr.any fun code => code.length = 3

def isInterval (value : PyValue) : Bool :=
  value.asStr.any fun interval => interval ∈ VALID_INTERVALS

def isCount (value : PyValue) : Bool :=
  value.asInt.any fun count => 1 ≤ count

/-- A problem, unless a check is passed. -/
def report (passed : Bool) (problem : Problem) : List Problem :=
  if passed then [] else [problem]

/-- The key of a price; a tier that is missing is None. -/
def keyOf (price : List (PyString × PyValue)) : PriceKey where
  tier := (lookup price "tier").getD .none
  interval := (lookup price "interval").getD defaultInterval
  count := (lookup price "interval_count").getD defaultCount

/-- The body of the loop over prices: the problems of a price, and its key. -/
def checkPrice (place : Place) (seen : List PriceKey) (price : PyValue) :
    Except PyError (List Problem × PriceKey) :=
  match price with
  | .dict price =>
      let key := keyOf price
      if !key.interval.hashable then .error .typeError
      else if !(key.tier.hashable && key.count.hashable) then .error .typeError
      else
        .ok
          (report (isNamed (lookup price "tier")) (.tier place) ++
            report (isAmount (lookup price "amount")) (.amount place) ++
            report (isCurrency ((lookup price "currency").getD defaultCurrency))
              (.currency place) ++
            report (isInterval key.interval) (.interval place) ++
            report (isCount key.count) (.intervalCount place) ++
            report (!seen.any key.equals) (.duplicateKey place key),
          key)
  | _ => .error .attributeError

/-- The loop over the prices of a product, from the price `j` on. -/
def checkPrices (i : Nat) : Nat → List PriceKey → List PyValue →
    Except PyError (List Problem)
  | _, _, [] => .ok []
  | j, seen, price :: prices => do
      let (problems, key) ← checkPrice ⟨i, some j⟩ seen price
      let more ← checkPrices i (j + 1) (key :: seen) prices
      return problems ++ more

/-! ## One product -/

/-- The problem of a name, and the names that have been seen then. -/
def checkName (place : Place) (seen : List PyString) (name : Option PyValue) :
    List Problem × List PyString :=
  match name.bind asStr with
  | some text =>
      if (strip text).isEmpty then ([.name place], seen)
      else if text ∈ seen then ([.duplicateName place text], seen)
      else ([], text :: seen)
  | none => ([.name place], seen)

/-- The problems of the prices of a product. -/
def checkPricesOf (i : Nat) (product : List (PyString × PyValue)) :
    Except PyError (List Problem) :=
  match (lookup product "prices").bind asItems with
  | none => .ok [.prices ⟨i, none⟩]
  | some prices => checkPrices i 0 [] prices

/-- The loop over the products, from the product `i` on. -/
def checkProducts : Nat → List PyString → List PyValue →
    Except PyError (List Problem)
  | _, _, [] => .ok []
  | i, seen, product :: products =>
      match product with
      | .dict product => do
          let named := checkName ⟨i, none⟩ seen (lookup product "name")
          let inPrices ← checkPricesOf i product
          let more ← checkProducts (i + 1) named.2 products
          return named.1 ++ inPrices ++ more
      | _ => .error .attributeError

/-- `validate`. -/
def validate (catalogue : PyValue) : Except PyError (List Problem) :=
  match catalogue with
  | .dict catalogue =>
      match (lookup catalogue "products").bind asItems with
      | none => .ok [.products]
      | some products => checkProducts 0 [] products
  | _ => .error .attributeError

/-! ## When it raises nothing -/

/-- A price is an object, with a key that can be in a set. -/
def priceShaped (price : PyValue) : Bool :=
  price.asDict.any fun price =>
    (keyOf price).interval.hashable &&
      ((keyOf price).tier.hashable && (keyOf price).count.hashable)

/-- A product is an object, and its prices, if it has a list of them, have the
shape that is taken for granted. -/
def productShaped (product : PyValue) : Bool :=
  product.asDict.any fun product =>
    match (lookup product "prices").bind asItems with
    | none => true
    | some prices => prices.all priceShaped

/-- The catalogue is an object, and its products, if it has a list of them, have
the shape that is taken for granted. -/
def shaped (catalogue : PyValue) : Bool :=
  catalogue.asDict.any fun catalogue =>
    match (lookup catalogue "products").bind asItems with
    | none => true
    | some products => products.all productShaped

theorem checkPrice_total_iff
    {place : Place}
    {seen : List PriceKey}
    {price : PyValue} :
    (∃ result, checkPrice place seen price = .ok result) ↔
      priceShaped price = true := by
  cases price with
  | dict price =>
      simp only [checkPrice, priceShaped, asDict, Option.any_some]
      by_cases intervalHashable : (keyOf price).interval.hashable = true
      · by_cases others : ((keyOf price).tier.hashable &&
            (keyOf price).count.hashable) = true
        · simp [intervalHashable, others]
        · simp [intervalHashable, others]
      · simp [intervalHashable]
  | _ => simp [checkPrice, priceShaped, asDict]

/-- A computation that goes on with a result gives one, if and only if both
parts do. -/
theorem bind_total_iff {α β : Type}
    {first : Except PyError α}
    {next : α → Except PyError β} :
    (∃ result, first >>= next = .ok result) ↔
      ∃ value, first = .ok value ∧ ∃ result, next value = .ok result := by
  cases first with
  | error error => simp [bind, Except.bind]
  | ok value => simp [bind, Except.bind]

theorem checkPrices_total_iff
    {i j : Nat}
    {seen : List PriceKey}
    {prices : List PyValue} :
    (∃ problems, checkPrices i j seen prices = .ok problems) ↔
      prices.all priceShaped = true := by
  induction prices generalizing j seen with
  | nil => simp [checkPrices]
  | cons price prices inductionHypothesis =>
      rw [checkPrices, bind_total_iff, List.all_cons, Bool.and_eq_true,
        ← @checkPrice_total_iff ⟨i, some j⟩ seen]
      constructor
      · rintro ⟨⟨problems, key⟩, first, rest⟩
        obtain ⟨more, others, -⟩ := bind_total_iff.mp rest
        exact ⟨⟨_, first⟩, inductionHypothesis.mp ⟨more, others⟩⟩
      · rintro ⟨⟨⟨problems, key⟩, first⟩, rest⟩
        obtain ⟨more, others⟩ := inductionHypothesis.mpr rest
        exact ⟨_, first, bind_total_iff.mpr ⟨more, others, _, rfl⟩⟩

theorem checkProducts_total_iff
    {i : Nat}
    {seen : List PyString}
    {products : List PyValue} :
    (∃ problems, checkProducts i seen products = .ok problems) ↔
      products.all productShaped = true := by
  induction products generalizing i seen with
  | nil => simp [checkProducts]
  | cons product products inductionHypothesis =>
      rw [List.all_cons, Bool.and_eq_true]
      cases product with
      | dict product =>
          have inPrices : (∃ problems, checkPricesOf i product =
              .ok problems) ↔ productShaped (.dict product) = true := by
            simp only [checkPricesOf, productShaped, asDict, Option.any_some]
            cases (lookup product "prices").bind asItems with
            | none => simp
            | some prices => exact checkPrices_total_iff
          rw [checkProducts, bind_total_iff, ← inPrices]
          constructor
          · rintro ⟨problems, first, rest⟩
            obtain ⟨more, others, -⟩ := bind_total_iff.mp rest
            exact ⟨⟨problems, first⟩, inductionHypothesis.mp ⟨more, others⟩⟩
          · rintro ⟨⟨problems, first⟩, rest⟩
            obtain ⟨more, others⟩ := inductionHypothesis.mpr rest
            exact ⟨problems, first, bind_total_iff.mpr ⟨more, others, _, rfl⟩⟩
      | _ => simp [checkProducts, productShaped, asDict]

/-- `validate` returns, if and only if the catalogue has the shape that it takes
for granted. -/
theorem validate_total_iff {catalogue : PyValue} :
    (∃ problems, validate catalogue = .ok problems) ↔
      shaped catalogue = true := by
  cases catalogue with
  | dict catalogue =>
      simp only [validate, shaped, asDict, Option.any_some]
      cases (lookup catalogue "products").bind asItems with
      | none => simp
      | some products => exact checkProducts_total_iff
  | _ => simp [validate, shaped, asDict]

/-! ## What it accepts -/

/-- The members of an object. -/
def members (value : PyValue) : List (PyString × PyValue) :=
  value.asDict.getD []

/-- A price of the documented format. -/
def goodPrice (price : PyValue) : Bool :=
  price.asDict.isSome && isNamed (lookup (members price) "tier") &&
    isAmount (lookup (members price) "amount") &&
    isCurrency ((lookup (members price) "currency").getD defaultCurrency) &&
    isInterval (keyOf (members price)).interval &&
    isCount (keyOf (members price)).count

/-- No price has the key of an earlier one. -/
def KeysDiffer (prices : List PyValue) : Prop :=
  prices.Pairwise fun earlier later =>
    (keyOf (members later)).equals (keyOf (members earlier)) = false

/-- The prices of a product that has some. -/
def pricesOf (product : PyValue) : List PyValue :=
  (((lookup (members product) "prices").bind asItems)).getD []

/-- The name of a product that has one. -/
def nameOf (product : PyValue) : PyString :=
  ((lookup (members product) "name").bind asStr).getD []

/-- The products of a catalogue that has some. -/
def productsOf (catalogue : PyValue) : List PyValue :=
  ((lookup (members catalogue) "products").bind asItems).getD []

/-- A product of the documented format. -/
structure GoodProduct (product : PyValue) : Prop where
  isDict : product.asDict.isSome
  named : isNamed (lookup (members product) "name") = true
  priced : pricesOf product ≠ []
  prices : ∀ price ∈ pricesOf product, goodPrice price = true
  keysDiffer : KeysDiffer (pricesOf product)

/-- A catalogue of the documented format. -/
structure Acceptable (catalogue : PyValue) : Prop where
  isDict : catalogue.asDict.isSome
  sells : productsOf catalogue ≠ []
  products : ∀ product ∈ productsOf catalogue, GoodProduct product
  namesDiffer : ((productsOf catalogue).map nameOf).Nodup

@[simp] theorem report_eq_nil_iff {passed : Bool} {problem : Problem} :
    report passed problem = [] ↔ passed = true := by
  cases passed with
  | false => simp [report]
  | true => simp [report]

theorem hashable_of_isNamed
    {value : Option PyValue}
    (named : isNamed value = true) :
    (value.getD .none).hashable = true := by
  cases value with
  | none => rfl
  | some value =>
      cases value with
      | list items => cases named
      | dict items => cases named
      | _ => rfl

theorem hashable_of_isInterval
    {value : PyValue}
    (valid : isInterval value = true) :
    value.hashable = true := by
  cases value with
  | list items => cases valid
  | dict items => cases valid
  | _ => rfl

theorem hashable_of_isCount
    {value : PyValue}
    (valid : isCount value = true) :
    value.hashable = true := by
  cases value with
  | list items => cases valid
  | dict items => cases valid
  | _ => rfl

/-- The checks of a price, one by one. -/
theorem goodPrice_iff {price : List (PyString × PyValue)} :
    goodPrice (.dict price) = true ↔
      isNamed (lookup price "tier") = true ∧
        isAmount (lookup price "amount") = true ∧
        isCurrency ((lookup price "currency").getD defaultCurrency) = true ∧
        isInterval (keyOf price).interval = true ∧
        isCount (keyOf price).count = true := by
  simp [goodPrice, members, asDict, and_assoc]

/-- A price without problems. -/
theorem checkPrice_eq_nil_iff
    {place : Place}
    {seen : List PriceKey}
    {price : PyValue}
    {key : PriceKey} :
    checkPrice place seen price = .ok ([], key) ↔
      key = keyOf (members price) ∧ goodPrice price = true ∧
        ∀ earlier ∈ seen, key.equals earlier = false := by
  cases price with
  | dict price =>
      have isMembers : members (.dict price) = price := rfl
      rw [goodPrice_iff, isMembers]
      constructor
      · intro checked
        simp only [checkPrice] at checked
        split at checked
        · cases checked
        · split at checked
          · cases checked
          · obtain ⟨noProblems, rfl⟩ := Prod.mk.inj (Except.ok.inj checked)
            simpa [and_assoc] using noProblems
      · rintro ⟨rfl, ⟨tier, amount, currency, interval, count⟩, new⟩
        have tierHashable : (keyOf price).tier.hashable = true :=
          hashable_of_isNamed tier
        have unseen : seen.any (keyOf price).equals = false := by
          simpa using new
        simp [checkPrice, tierHashable, hashable_of_isInterval interval,
          hashable_of_isCount count, report, tier, amount, currency, interval,
          count, unseen]
  | _ => simp [checkPrice, goodPrice, asDict]

/-- A computation that goes on gives a result from what it goes on with. -/
theorem bind_eq_ok_iff {α β : Type}
    {first : Except PyError α}
    {next : α → Except PyError β}
    {result : β} :
    first >>= next = .ok result ↔
      ∃ value, first = .ok value ∧ next value = .ok result := by
  cases first with
  | error error => simp [bind, Except.bind]
  | ok value => simp [bind, Except.bind]

/-- The prices of a product without problems. -/
theorem checkPrices_eq_nil_iff
    {i j : Nat}
    {seen : List PriceKey}
    {prices : List PyValue} :
    checkPrices i j seen prices = .ok [] ↔
      (∀ price ∈ prices, goodPrice price = true ∧
        ∀ earlier ∈ seen,
          (keyOf (members price)).equals earlier = false) ∧
      KeysDiffer prices := by
  induction prices generalizing j seen with
  | nil => simp [checkPrices, KeysDiffer]
  | cons price prices inductionHypothesis =>
      rw [checkPrices, bind_eq_ok_iff, KeysDiffer, List.pairwise_cons]
      constructor
      · rintro ⟨⟨problems, key⟩, first, rest⟩
        obtain ⟨more, others, together⟩ := bind_eq_ok_iff.mp rest
        obtain ⟨rfl, rfl⟩ := List.append_eq_nil_iff.mp (Except.ok.inj together)
        obtain ⟨rfl, good, new⟩ := checkPrice_eq_nil_iff.mp first
        obtain ⟨allGood, differ⟩ := inductionHypothesis.mp others
        refine ⟨?_, fun later present => ?_, differ⟩
        · intro later present
          rcases List.mem_cons.mp present with rfl | present
          · exact ⟨good, new⟩
          · exact ⟨(allGood later present).1, fun earlier seenBefore =>
              (allGood later present).2 earlier
                (List.mem_cons_of_mem _ seenBefore)⟩
        · exact (allGood later present).2 _ List.mem_cons_self
      · rintro ⟨allGood, first, differ⟩
        obtain ⟨good, new⟩ := allGood price List.mem_cons_self
        refine ⟨([], keyOf (members price)),
          checkPrice_eq_nil_iff.mpr ⟨rfl, good, new⟩,
          bind_eq_ok_iff.mpr ⟨[], inductionHypothesis.mpr ⟨?_, differ⟩, rfl⟩⟩
        intro later present
        obtain ⟨laterGood, laterNew⟩ :=
          allGood later (List.mem_cons_of_mem _ present)
        refine ⟨laterGood, fun earlier seenBefore => ?_⟩
        rcases List.mem_cons.mp seenBefore with rfl | seenBefore
        · exact first later present
        · exact laterNew earlier seenBefore

/-- A name without problems. -/
theorem checkName_eq_nil_iff
    {place : Place}
    {seen : List PyString}
    {product : PyValue} :
    (checkName place seen (lookup (members product) "name")).1 = [] ↔
      isNamed (lookup (members product) "name") = true ∧
        nameOf product ∉ seen := by
  unfold checkName isNamed nameOf
  cases (lookup (members product) "name").bind asStr with
  | none => simp
  | some text =>
      simp only [Option.any_some, Option.getD_some]
      split
      · rename_i blank
        simp [blank]
      · split
        · rename_i present
          simp [present]
        · rename_i named new
          simp [named, new]

theorem checkName_seen
    {place : Place}
    {seen : List PyString}
    {product : PyValue}
    (named : isNamed (lookup (members product) "name") = true)
    (new : nameOf product ∉ seen) :
    (checkName place seen (lookup (members product) "name")).2 =
      nameOf product :: seen := by
  unfold isNamed at named
  unfold nameOf at new ⊢
  unfold checkName
  cases given : (lookup (members product) "name").bind asStr with
  | none => simp [given] at named
  | some text =>
      simp only [given, Option.any_some, Option.getD_some] at named new ⊢
      have notBlank : (strip text).isEmpty = false := by simpa using named
      rw [if_neg (by simp [notBlank]), if_neg new]

/-- A list that is accepted as one is not empty. -/
theorem ne_nil_of_asItems
    {value : Option PyValue}
    {items : List PyValue}
    (listed : value.bind asItems = some items) :
    items ≠ [] := by
  rintro rfl
  obtain ⟨value, -, isEmpty⟩ := Option.bind_eq_some_iff.mp listed
  unfold asItems at isEmpty
  split at isEmpty
  · cases isEmpty
  · rename_i nonempty
    exact nonempty (Option.some.inj isEmpty)
  · cases isEmpty

/-- The prices of a product have no problems. -/
theorem checkPricesOf_eq_nil_iff
    {i : Nat}
    {product : PyValue} :
    checkPricesOf i (members product) = .ok [] ↔
      pricesOf product ≠ [] ∧
        (∀ price ∈ pricesOf product, goodPrice price = true) ∧
        KeysDiffer (pricesOf product) := by
  unfold checkPricesOf pricesOf
  cases listed : (lookup (members product) "prices").bind asItems with
  | none => simp
  | some prices =>
      have nonempty := ne_nil_of_asItems listed
      rw [Option.getD_some, checkPrices_eq_nil_iff]
      simp [nonempty]

/-- Products without problems. -/
theorem checkProducts_eq_nil_iff
    {i : Nat}
    {seen : List PyString}
    {products : List PyValue} :
    checkProducts i seen products = .ok [] ↔
      (∀ product ∈ products, GoodProduct product ∧ nameOf product ∉ seen) ∧
        (products.map nameOf).Nodup := by
  induction products generalizing i seen with
  | nil => simp [checkProducts]
  | cons product products inductionHypothesis =>
      rw [List.map_cons, List.nodup_cons]
      cases product with
      | dict product =>
          rw [checkProducts, bind_eq_ok_iff]
          constructor
          · rintro ⟨inPrices, first, rest⟩
            obtain ⟨more, others, together⟩ := bind_eq_ok_iff.mp rest
            obtain ⟨both, rfl⟩ :=
              List.append_eq_nil_iff.mp (Except.ok.inj together)
            obtain ⟨named, rfl⟩ := List.append_eq_nil_iff.mp both
            obtain ⟨isName, new⟩ :=
              (@checkName_eq_nil_iff _ _ (.dict product)).mp named
            obtain ⟨priced, good, differ⟩ :=
              (@checkPricesOf_eq_nil_iff _ (.dict product)).mp first
            have seenThen := @checkName_seen ⟨i, none⟩ _ _ isName new
            change (checkName ⟨i, none⟩ seen (lookup product "name")).2 = _
              at seenThen
            rw [seenThen, inductionHypothesis] at others
            refine ⟨?_, fun listed => ?_, others.2⟩
            · intro other present
              rcases List.mem_cons.mp present with rfl | present
              · exact ⟨⟨rfl, isName, priced, good, differ⟩, new⟩
              · exact ⟨(others.1 other present).1, fun seenBefore =>
                  (others.1 other present).2
                    (List.mem_cons_of_mem _ seenBefore)⟩
            · obtain ⟨other, present, same⟩ := List.mem_map.mp listed
              exact (others.1 other present).2 (same ▸ List.mem_cons_self)
          · rintro ⟨allGood, new, differ⟩
            obtain ⟨good, unseen⟩ := allGood _ List.mem_cons_self
            have seenThen := @checkName_seen ⟨i, none⟩ _ _ good.named unseen
            refine ⟨[], checkPricesOf_eq_nil_iff.mpr
              ⟨good.priced, good.prices, good.keysDiffer⟩,
              bind_eq_ok_iff.mpr ⟨[], ?_, ?_⟩⟩
            · change checkProducts (i + 1) (checkName ⟨i, none⟩ seen
                (lookup (members (.dict product)) "name")).2 products = _
              rw [seenThen, inductionHypothesis]
              refine ⟨fun other present => ?_, differ⟩
              obtain ⟨otherGood, otherUnseen⟩ :=
                allGood other (List.mem_cons_of_mem _ present)
              refine ⟨otherGood, fun listed => ?_⟩
              rcases List.mem_cons.mp listed with same | listed
              · exact new (List.mem_map.mpr ⟨other, present, same⟩)
              · exact otherUnseen listed
            · have noProblem := (@checkName_eq_nil_iff ⟨i, none⟩ _ _).mpr
                ⟨good.named, unseen⟩
              change pure ((checkName ⟨i, none⟩ seen
                (lookup (members (.dict product)) "name")).1 ++ [] ++ []) = _
              rw [noProblem]
              rfl
      | _ =>
          refine iff_of_false (by simp [checkProducts]) ?_
          rintro ⟨allGood, -⟩
          exact Bool.false_ne_true (allGood _ List.mem_cons_self).1.isDict

/-- `validate` finds nothing wrong, if and only if the catalogue is of the
documented format. -/
theorem validate_eq_nil_iff {catalogue : PyValue} :
    validate catalogue = .ok [] ↔ Acceptable catalogue := by
  cases catalogue with
  | dict catalogue =>
      have isMembers : members (.dict catalogue) = catalogue := rfl
      constructor
      · intro checked
        simp only [validate] at checked
        cases listed : (lookup catalogue "products").bind asItems with
        | none => simp [listed] at checked
        | some products =>
            simp only [listed, checkProducts_eq_nil_iff] at checked
            have isProducts : productsOf (.dict catalogue) = products := by
              rw [productsOf, isMembers, listed, Option.getD_some]
            refine ⟨rfl, ?_, ?_, ?_⟩
            · exact isProducts ▸ ne_nil_of_asItems listed
            · exact isProducts ▸ fun product present =>
                (checked.1 product present).1
            · exact isProducts ▸ checked.2
      · rintro ⟨-, sells, good, differ⟩
        unfold productsOf at sells good differ
        rw [isMembers] at sells good differ
        simp only [validate]
        cases listed : (lookup catalogue "products").bind asItems with
        | none => simp [listed] at sells
        | some products =>
            simp only [listed, Option.getD_some] at sells good differ
            exact checkProducts_eq_nil_iff.mpr
              ⟨fun product present => ⟨good product present, by simp⟩, differ⟩
  | _ =>
      refine iff_of_false (by simp [validate]) fun acceptable => ?_
      exact Bool.false_ne_true acceptable.isDict

end StripeCatalogue
end EvoPlatform
