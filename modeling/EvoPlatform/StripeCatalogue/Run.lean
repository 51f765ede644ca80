import EvoPlatform.StripeCatalogue.Validate
import EvoPlatform.Foundation.CursorPages
import Mathlib.Algebra.Order.BigOperators.Group.List
import Mathlib.Algebra.Order.Group.Nat
import Mathlib.Algebra.GroupWithZero.Nat

/-!
# Applying a catalogue

`run` lists the active products and prices of an account, and creates what a
catalogue asks for and the listings lack.  A computation of the script changes
the account, and may raise.
-/

namespace EvoPlatform
namespace StripeCatalogue

open PyValue (lookup asStr asInt asItems asDict)

/-! ## The account -/

/-- An active product. -/
structure Product where
  id : String
  name : PyString
  deriving DecidableEq

/-- The product of a price, as an id or expanded. -/
inductive ProductRef
  | plain (id : String)
  | expanded (id : String)
  deriving DecidableEq

def ProductRef.id : ProductRef → String
  | .plain id => id
  | .expanded id => id

structure Recurring where
  interval : PyString
  intervalCount : Option Int
  deriving DecidableEq

/-- An active price. -/
structure Price where
  id : String
  product : ProductRef
  unitAmount : Option Int
  currency : PyString
  recurring : Option Recurring
  deriving DecidableEq

/-- What is active in an account, in the order in which it is listed, and how
many requests have been made, and how many of them to create something. -/
structure Account where
  products : List Product
  prices : List Price
  requests : Nat
  posts : Nat
  productIdsNodup : (products.map Product.id).Nodup
  priceIdsNodup : (prices.map Price.id).Nodup

/-- The ids that are in use. -/
def Account.ids (account : Account) : List String :=
  account.products.map Product.id ++ account.prices.map Price.id ++
    account.prices.map fun price => price.product.id

/-- How new objects are named and where they are listed. -/
structure Stripe where
  newId : List String → String
  newId_notMem : ∀ ids, newId ids ∉ ids
  /-- The place of what a request creates, among what is there. -/
  place : Nat → Nat

/-- New objects may have ids that are longer than all that are in use, and may
be listed first. -/
instance : Inhabited Stripe where
  default :=
    { newId := fun ids =>
        String.ofList (List.replicate ((ids.map String.length).sum + 1) 'x')
      newId_notMem := fun ids listed => by
        have longest := List.single_le_sum (by simp) _
          (List.mem_map_of_mem (f := String.length) listed)
        simp only [String.length_ofList, List.length_replicate] at longest
        exact Nat.not_succ_le_self _ longest
      place := fun _ => 0 }

/-- An account in which nothing is active. -/
def Account.empty : Account where
  products := []
  prices := []
  requests := 0
  posts := 0
  productIdsNodup := List.nodup_nil
  priceIdsNodup := List.nodup_nil

/-! ## Computations -/

/-- A computation of the script. -/
def Py (α : Type) : Type := Account → Except PyError α × Account

namespace Py

variable {α β : Type}

def run (computation : Py α) (account : Account) :
    Except PyError α × Account :=
  computation account

instance : Monad Py where
  pure value := fun account => (.ok value, account)
  bind first next := fun account =>
    match first account with
    | (.ok value, after) => next value after
    | (.error error, after) => (.error error, after)

/-- A part that does not touch the account. -/
def lift (outcome : Except PyError α) : Py α := fun account =>
  (outcome, account)

/-- What Stripe answers, and what it does to the account. -/
def answer (change : Account → α × Account) : Py α := fun account =>
  (.ok (change account).1, (change account).2)

@[simp] theorem run_pure (value : α) (account : Account) :
    (pure value : Py α).run account = (.ok value, account) := rfl

@[simp] theorem run_lift (outcome : Except PyError α) (account : Account) :
    (lift outcome).run account = (outcome, account) := rfl

@[simp] theorem run_answer (change : Account → α × Account)
    (account : Account) :
    (answer change).run account =
      (.ok (change account).1, (change account).2) := rfl

theorem run_bind (first : Py α) (next : α → Py β) (account : Account) :
    (first >>= next).run account =
      match first.run account with
      | (.ok value, after) => (next value).run after
      | (.error error, after) => (.error error, after) := rfl

end Py

/-! ## Requests -/

/-- How a request fails. -/
inductive Failure
  /-- `HTTPError`: Stripe answers with an error, and its message. -/
  | httpError (message : String)
  /-- `URLError`: there is no connection, for a reason. -/
  | urlError (reason : String)
  /-- The answer does not come in time. -/
  | timedOut
  /-- The connection is closed before there is an answer. -/
  | disconnected
  /-- The connection is closed before the answer is complete. -/
  | cutOff
  /-- The body of the answer is no JSON. -/
  | noJson
  deriving DecidableEq

/-- What `_request` raises: it catches the first two kinds, and makes them errors
of Stripe. -/
def Failure.raised : Failure → PyError
  | .httpError message => .stripe message
  | .urlError reason => .stripe reason
  | .timedOut => .timeoutError
  | .disconnected => .remoteDisconnected
  | .cutOff => .incompleteRead
  | .noJson => .jsonDecodeError

section Requests

-- How the request with a number fails, if it fails.
variable (outage : Nat → Option Failure)

/-- `_request`, up to its answer. -/
def request : Py Unit := fun account =>
  let sent := { account with requests := account.requests + 1 }
  match outage account.requests with
  | some failure => (.error failure.raised, sent)
  | none => (.ok (), sent)

/-- `urllib.parse.urlencode`, as far as it can fail. -/
def urlencode (texts : List PyString) : Except PyError Unit :=
  if texts.all encodes then .ok () else .error .unicodeEncodeError

/-- The loop of `_page_all`, for at most so many pages. -/
def pageAll {α : Type} (id : α → String) (listing : Account → List α) :
    Nat → List α → Option String → Py (List α)
  | 0, _, _ => .lift (.error .unfinished)
  | fuel + 1, out, cursor => do
      request outage
      let page ← .answer fun account =>
        (pageAfter id 100 (listing account) cursor, account)
      let out := out ++ page.rows
      if page.hasMore then
        match out.getLast? with
        | none => .lift (.error .indexError)
        | some last => pageAll id listing fuel out (some (id last))
      else return out

/-- `_page_all` for the active products. -/
def listProducts : Py (List Product) := fun account =>
  (pageAll outage Product.id Account.products (account.products.length + 1) []
    none).run account

/-- `_page_all` for the active prices. -/
def listPrices : Py (List Price) := fun account =>
  (pageAll outage Price.id Account.prices (account.prices.length + 1) []
    none).run account

end Requests

/-! ## Matching -/

/-- What a price of the catalogue asks for. -/
structure Want where
  tier : PyValue
  amount : Int
  currency : PyString
  interval : PyString
  intervalCount : Int

/-- The price that Stripe creates for a want. -/
def Want.price (want : Want) (id : String) (product : ProductRef) : Price where
  id := id
  product := product
  unitAmount := some want.amount
  currency := want.currency
  recurring := some ⟨want.interval, some want.intervalCount⟩

/-- An integer as it is; nothing else gets past `validate`. -/
def readInt (value : PyValue) : Except PyError Int :=
  match value.asInt with
  | some value => .ok value
  | none => .error .typeError

/-- `normalise`. -/
def normalise (lower : PyString → PyString) (price : PyValue) :
    Except PyError Want := do
  let tier ← price.item "tier"
  let amount ← price.item "amount" >>= readInt
  let currency ← price.get "currency"
  let currency ← (currency.getD defaultCurrency).text
  let interval ← price.get "interval"
  let interval ← (interval.getD defaultInterval).text
  let count ← price.get "interval_count"
  let count ← (count.getD defaultCount).toInt
  return ⟨tier, amount, lower currency, interval, count⟩

/-- `find_product`. -/
def findProduct (existing : List Product) (name : PyString) : Option Product :=
  existing.find? fun product => product.name = name

/-- `value or 1`. -/
def orOne (count : Option Int) : Int :=
  match count with
  | none => 1
  | some count => if count = 0 then 1 else count

/-- An active recurring price that bills exactly what is wanted. -/
def Price.bills (price : Price) (want : Want) : Bool :=
  price.unitAmount = some want.amount && price.currency = want.currency &&
    price.recurring.any fun recurring =>
      recurring.interval = want.interval &&
        orOne recurring.intervalCount = want.intervalCount

/-- `find_price`. -/
def findPrice (existing : List Price) (productId : String) (want : Want) :
    Option Price :=
  existing.find? fun price =>
    price.product.id = productId && price.bills want

/-! ## Creating -/

/-- Something new among what is listed. -/
def insertAt {α : Type} (place : Nat) (new : α) (listed : List α) : List α :=
  listed.take place ++ new :: listed.drop place

theorem perm_insertAt {α : Type} (place : Nat) (new : α) (listed : List α) :
    (insertAt place new listed).Perm (new :: listed) := by
  have middle := @List.perm_middle _ new (listed.take place)
    (listed.drop place)
  rwa [List.take_append_drop] at middle

variable (stripe : Stripe)

namespace Account

variable (account : Account)

/-- The account with a new product. -/
def addProduct (name : PyString) : Account where
  products := insertAt (stripe.place account.requests)
    ⟨stripe.newId account.ids, name⟩ account.products
  prices := account.prices
  requests := account.requests
  posts := account.posts + 1
  productIdsNodup := by
    have new := stripe.newId_notMem account.ids
    simp only [ids, List.mem_append, not_or] at new
    refine ((perm_insertAt _ _ _).map Product.id).nodup_iff.mpr ?_
    exact List.nodup_cons.mpr ⟨new.1.1, account.productIdsNodup⟩
  priceIdsNodup := account.priceIdsNodup

/-- The account with a new price. -/
def addPrice (productId : String) (want : Want) : Account where
  products := account.products
  prices := insertAt (stripe.place account.requests)
    (want.price (stripe.newId account.ids) (.expanded productId))
    account.prices
  requests := account.requests
  posts := account.posts + 1
  productIdsNodup := account.productIdsNodup
  priceIdsNodup := by
    have new := stripe.newId_notMem account.ids
    simp only [ids, List.mem_append, not_or] at new
    refine ((perm_insertAt _ _ _).map Price.id).nodup_iff.mpr ?_
    exact List.nodup_cons.mpr ⟨new.1.2, account.priceIdsNodup⟩

end Account

variable (outage : Nat → Option Failure)

/-- Create a product, with a description unless it is falsy. -/
def createProduct (name : PyString) (description : Option PyValue) :
    Py Product := do
  let described := (description.filter PyValue.truthy).elim [] PyValue.formTexts
  .lift (urlencode (name :: described))
  request outage
  .answer fun account =>
    (⟨stripe.newId account.ids, name⟩, account.addProduct stripe name)

/-- Create a price. -/
def createPrice (product : Product) (want : Want) : Py Price := do
  .lift (urlencode [want.currency, want.interval])
  request outage
  .answer fun account =>
    (want.price (stripe.newId account.ids) (.plain product.id),
      account.addPrice stripe product.id want)

/-! ## The run -/

inductive Action
  | present
  | created
  | wouldCreate
  deriving DecidableEq

/-- What `money` formats. -/
structure Money where
  amount : Int
  currency : PyString

/-- The least amount that is too large for a float when it is divided by a
hundred. -/
def moneyLimit : Int := 100 * (2 ^ 1024 - 2 ^ 970)

/-- `money`. -/
def money (amount : Int) (currency : PyString) : Except PyError Money :=
  if moneyLimit ≤ amount.natAbs then .error .overflowError
  else .ok ⟨amount, currency⟩

/-- `cadence`. -/
def cadence (want : Want) : PyString :=
  let count := orOne (some want.intervalCount)
  if count = 1 then ofText "every " ++ want.interval
  else
    ofText ("every " ++ toString count ++ " ") ++ want.interval ++ ofText "s"

/-- A row of the output, with what it is about. -/
structure Row where
  app : PyValue
  product : PyString
  productAction : Action
  productId : String
  want : Want
  priceId : String
  priceAction : Action
  amount : Money
  cadence : PyString

variable (lower : PyString → PyString) (apply : Bool)

/-- The product of an entry, if there is one then, what was done about it, and
the products that are known then. -/
def takeProduct (products : List Product) (name : PyString) (spec : PyValue) :
    Py (Option Product × Action × List Product) :=
  match findProduct products name with
  | some product => pure (some product, .present, products)
  | none =>
      if apply then do
        let description ← .lift (spec.get "description")
        let product ← createProduct stripe outage name description
        return (some product, .created, products ++ [product])
      else pure (none, .wouldCreate, products)

/-- The price of an entry, likewise. -/
def takePrice (product : Option Product) (prices : List Price) (want : Want) :
    Py (Option Price × Action × List Price) :=
  match product.bind fun product => findPrice prices product.id want with
  | some price => pure (some price, .present, prices)
  | none =>
      match product with
      | some product =>
          if apply then do
            let price ← createPrice stripe outage product want
            return (some price, .created, prices ++ [price])
          else pure (none, .wouldCreate, prices)
      | none => pure (none, .wouldCreate, prices)

/-- The body of the loop over the prices of an entry. -/
def runPrice (spec : PyValue) (name : PyString) (product : Option Product)
    (action : Action) (prices : List Price) (raw : PyValue) :
    Py (Row × List Price) := do
  let want ← .lift (normalise lower raw)
  let (price, priceAction, prices) ←
    takePrice stripe outage apply product prices want
  let app ← .lift (spec.get "app")
  let amount ← .lift (money want.amount want.currency)
  return (
    { app := app.getD (.str [])
      product := name
      productAction := action
      productId := (product.map Product.id).getD ""
      want := want
      priceId := (price.map Price.id).getD ""
      priceAction := priceAction
      amount := amount
      cadence := cadence want },
    prices)

/-- The loop over the prices of an entry. -/
def runPrices (spec : PyValue) (name : PyString) (product : Option Product)
    (action : Action) : List PyValue → List Price →
    Py (List Row × List Price)
  | [], prices => pure ([], prices)
  | raw :: raws, prices => do
      let (row, prices) ←
        runPrice stripe outage lower apply spec name product action prices raw
      let (rows, prices) ← runPrices spec name product action raws prices
      return (row :: rows, prices)

/-- The loop over the products of the catalogue. -/
def runSpecs : List PyValue → List Product → List Price → Py (List Row)
  | [], _, _ => pure []
  | spec :: specs, products, prices => do
      let name ← .lift (spec.item "name" >>= PyValue.text)
      let (product, action, products) ←
        takeProduct stripe outage apply products name spec
      let raws ← .lift (spec.item "prices" >>= PyValue.iterate)
      let (rows, prices) ← runPrices stripe outage lower apply spec name product
        action raws prices
      let more ← runSpecs specs products prices
      return rows ++ more

/-- `run`. -/
def run (catalogue : PyValue) : Py (List Row) := do
  let products ← listProducts outage
  let prices ← listPrices outage
  let specs ← .lift (catalogue.item "products" >>= PyValue.iterate)
  runSpecs stripe outage lower apply specs products prices

/-! ## Listings -/

/-- Only the number of requests has changed. -/
def Account.sent (account : Account) (requests : Nat) : Account :=
  { account with requests := requests }

theorem run_request
    {outage : Nat → Option Failure}
    {account : Account} :
    (request outage).run account =
      match outage account.requests with
      | some failure =>
          (.error failure.raised, account.sent (account.requests + 1))
      | none => (.ok (), account.sent (account.requests + 1)) := rfl

/-- A listing is read to its end, unless a request fails. -/
theorem run_pageAll
    {α : Type}
    {id : α → String}
    {listing : Account → List α}
    {outage : Nat → Option Failure}
    {rows : List α}
    (nodup : (rows.map id).Nodup)
    {fuel : Nat}
    {read rest : List α}
    (split : rows = read ++ rest)
    (enough : rest.length < fuel)
    {account : Account}
    (lists : ∀ requests, listing (account.sent requests) = rows) :
    ∃ requests,
      (pageAll outage id listing fuel read (read.getLast?.map id)).run
          account = (.ok rows, account.sent requests) ∨
        ∃ number failure, outage number = some failure ∧
          (pageAll outage id listing fuel read (read.getLast?.map id)).run
            account = (.error failure.raised, account.sent requests) := by
  induction fuel generalizing read rest account with
  | zero => exact absurd enough (Nat.not_lt_zero _)
  | succ fuel inductionHypothesis =>
      rw [pageAll, Py.run_bind, run_request]
      cases failed : outage account.requests with
      | some failure =>
          exact ⟨_, .inr ⟨_, failure, failed, rfl⟩⟩
      | none =>
          simp only
          rw [Py.run_bind, Py.run_answer]
          have after : rowsAfter id rows (read.getLast?.map id) = rest := by
            rw [split]
            exact rowsAfter_getLast read rest (split ▸ nodup)
          simp only [lists, pageAfter, after]
          by_cases more : 100 < rest.length
          · have page : rest.take 100 ≠ [] := by
              rw [← List.length_pos_iff, List.length_take]
              omega
            obtain ⟨earlier, last, isPage⟩ :=
              (List.eq_nil_or_concat' (rest.take 100)).resolve_left page
            have readOn : (read ++ rest.take 100).getLast? = some last := by
              rw [isPage, ← List.append_assoc, List.getLast?_concat]
            have splitOn : rows = read ++ rest.take 100 ++ rest.drop 100 := by
              rw [List.append_assoc, List.take_append_drop, split]
            have fewer : (rest.drop 100).length < fuel := by
              rw [List.length_drop]
              omega
            obtain ⟨requests, outcome⟩ := @inductionHypothesis _ _ splitOn
              fewer (account.sent (account.requests + 1)) lists
            rw [readOn] at outcome
            refine ⟨requests, ?_⟩
            rw [if_pos (by simpa using more), readOn]
            exact outcome
          · have whole : read ++ rest.take 100 = rows := by
              rw [List.take_of_length_le (by omega), split]
            rw [if_neg (by simpa using more), whole]
            exact ⟨_, .inl rfl⟩

/-- The products that are listed, unless a request fails. -/
theorem run_listProducts (outage : Nat → Option Failure) (account : Account) :
    ∃ requests,
      (listProducts outage).run account =
          (.ok account.products, account.sent requests) ∨
        ∃ number failure, outage number = some failure ∧
          (listProducts outage).run account =
            (.error failure.raised, account.sent requests) :=
  run_pageAll account.productIdsNodup (List.nil_append _).symm
    (Nat.lt_succ_self _) fun _ => rfl

/-- The prices that are listed, unless a request fails. -/
theorem run_listPrices (outage : Nat → Option Failure) (account : Account) :
    ∃ requests,
      (listPrices outage).run account =
          (.ok account.prices, account.sent requests) ∨
        ∃ number failure, outage number = some failure ∧
          (listPrices outage).run account =
            (.error failure.raised, account.sent requests) :=
  run_pageAll account.priceIdsNodup (List.nil_append _).symm
    (Nat.lt_succ_self _) fun _ => rfl

/-! ## Reading what has no problems -/

/-- What a price of the documented format asks for. -/
def wantOf (lower : PyString → PyString) (price : PyValue) : Want where
  tier := (keyOf (members price)).tier
  amount := ((lookup (members price) "amount").bind asInt).getD 0
  currency := lower
    (((lookup (members price) "currency").getD defaultCurrency).asStr.getD [])
  interval := (keyOf (members price)).interval.asStr.getD []
  intervalCount := (keyOf (members price)).count.asInt.getD 1

theorem text_of_any
    {value : PyValue}
    {check : PyString → Bool}
    (passed : value.asStr.any check = true) :
    value.text = .ok (value.asStr.getD []) := by
  cases value with
  | str text => rfl
  | _ => cases passed

theorem toInt_of_any
    {value : PyValue}
    {check : Int → Bool}
    (passed : value.asInt.any check = true)
    (otherwise : Int) :
    value.toInt = .ok (value.asInt.getD otherwise) := by
  cases value with
  | int number => rfl
  | _ => cases passed

theorem readInt_of_any
    {value : PyValue}
    {check : Int → Bool}
    (passed : value.asInt.any check = true)
    (otherwise : Int) :
    readInt value = .ok (value.asInt.getD otherwise) := by
  cases value with
  | int number => rfl
  | _ => cases passed

/-- A price of the documented format is read without an error. -/
theorem normalise_of_good
    {lower : PyString → PyString}
    {price : PyValue}
    (good : goodPrice price = true) :
    normalise lower price = .ok (wantOf lower price) := by
  cases price with
  | dict price =>
      obtain ⟨tier, amount, currency, interval, count⟩ := goodPrice_iff.mp good
      have readTier : PyValue.item (.dict price) "tier" =
          .ok (wantOf lower (.dict price)).tier := by
        cases given : lookup price "tier" with
        | none => simp [isNamed, given] at tier
        | some tier =>
            simp [PyValue.item, wantOf, members, keyOf, asDict, given]
      have readAmount : PyValue.item (.dict price) "amount" >>= readInt =
          .ok (wantOf lower (.dict price)).amount := by
        cases given : lookup price "amount" with
        | none => simp [isAmount, given] at amount
        | some value =>
            rw [given] at amount
            refine bind_eq_ok_iff.mpr ⟨value, ?_, ?_⟩
            · rw [PyValue.item, given]
            · rw [readInt_of_any amount 0, wantOf, members, asDict,
                Option.getD_some, given, Option.bind_some]
      refine bind_eq_ok_iff.mpr ⟨_, readTier, ?_⟩
      refine bind_eq_ok_iff.mpr ⟨_, readAmount, ?_⟩
      refine bind_eq_ok_iff.mpr ⟨_, rfl, ?_⟩
      refine bind_eq_ok_iff.mpr ⟨_, text_of_any currency, ?_⟩
      refine bind_eq_ok_iff.mpr ⟨_, rfl, ?_⟩
      refine bind_eq_ok_iff.mpr ⟨_, text_of_any interval, ?_⟩
      refine bind_eq_ok_iff.mpr ⟨_, rfl, ?_⟩
      exact bind_eq_ok_iff.mpr ⟨_, toInt_of_any count 1, rfl⟩
  | _ => cases good

/-- A price of the documented format has a positive count. -/
theorem intervalCount_of_good
    {lower : PyString → PyString}
    {price : PyValue}
    (good : goodPrice price = true) :
    1 ≤ (wantOf lower price).intervalCount := by
  cases price with
  | dict price =>
      obtain ⟨-, -, -, -, count⟩ := goodPrice_iff.mp good
      change 1 ≤ (keyOf price).count.asInt.getD 1
      unfold isCount at count
      cases given : (keyOf price).count.asInt with
      | none => exact Int.le_refl 1
      | some number => simpa [given] using count
  | _ => cases good

/-- The items of a list that an object has are gone through. -/
theorem item_iterate
    {value : PyValue}
    {key : String}
    {items : List PyValue}
    (listed : (lookup (members value) key).bind asItems = some items) :
    value.item key >>= PyValue.iterate = .ok items := by
  cases value with
  | dict given =>
      obtain ⟨list, isList, isItems⟩ := Option.bind_eq_some_iff.mp listed
      refine bind_eq_ok_iff.mpr ⟨list, ?_, ?_⟩
      · change lookup given key = _ at isList
        rw [PyValue.item, isList]
      · cases list with
        | list all =>
            cases all with
            | nil => cases isItems
            | cons first rest => exact congrArg _ (Option.some.inj isItems)
        | _ => cases isItems
  | _ => cases listed

theorem item_prices
    {product : PyValue}
    (good : GoodProduct product) :
    product.item "prices" >>= PyValue.iterate = .ok (pricesOf product) := by
  have priced := good.priced
  unfold pricesOf at priced ⊢
  cases listed : (lookup (members product) "prices").bind asItems with
  | none => exact absurd (by rw [listed]; rfl) priced
  | some prices => exact item_iterate listed

theorem item_products
    {catalogue : PyValue}
    (acceptable : Acceptable catalogue) :
    catalogue.item "products" >>= PyValue.iterate =
      .ok (productsOf catalogue) := by
  have sells := acceptable.sells
  unfold productsOf at sells ⊢
  cases listed : (lookup (members catalogue) "products").bind asItems with
  | none => exact absurd (by rw [listed]; rfl) sells
  | some products => exact item_iterate listed

theorem item_name
    {product : PyValue}
    (good : GoodProduct product) :
    product.item "name" >>= PyValue.text = .ok (nameOf product) := by
  have named := good.named
  cases product with
  | dict product =>
      change isNamed (lookup product "name") = true at named
      cases given : lookup product "name" with
      | none => simp [isNamed, given] at named
      | some value =>
          rw [given] at named
          refine bind_eq_ok_iff.mpr ⟨value, ?_, ?_⟩
          · rw [PyValue.item, given]
          · rw [text_of_any named, nameOf, members, asDict, Option.getD_some,
              given, Option.bind_some]
  | _ => cases named

end StripeCatalogue
end EvoPlatform
