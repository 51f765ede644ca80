import EvoPlatform.StripeCatalogue.SecondRun

/-!
# Registering what a catalogue sells

Every price id is registered once.  A run that applies a catalogue prints its own
id for each entry, and creates what a dry run has announced, if what is to be
created can be sent and if no two entries of a product are billed alike.
-/

namespace EvoPlatform
namespace StripeCatalogue

open PyValue (lookup asStr asInt asItems asDict)

variable {products : List Product} {prices : List Price} {account : Account}

/-! ## Computations that return under a condition -/

section Computations

variable {α β : Type}

/-- A computation returns under a condition, and what is known then. -/
def Yields (computation : Py α) (condition : Prop)
    (known : α → Account → Prop) (account : Account) : Prop :=
  ((∃ value after, computation.run account = (.ok value, after)) ↔
      condition) ∧
    ∀ value after, computation.run account = (.ok value, after) →
      known value after

theorem Yields.bind
    {first : Py α}
    {next : α → Py β}
    {condition conditionThen : Prop}
    {known : α → Account → Prop}
    {knownThen : β → Account → Prop}
    (yields : Yields first condition known account)
    (rest : ∀ value after, known value after →
      Yields (next value) conditionThen knownThen after) :
    Yields (first >>= next) (condition ∧ conditionThen) knownThen account := by
  obtain ⟨returns, knows⟩ := yields
  unfold Yields
  rw [Py.run_bind, ← returns]
  cases ran : first.run account with
  | mk outcome after =>
      cases outcome with
      | error error => simp
      | ok value =>
          obtain ⟨returnsThen, knowsThen⟩ :=
            rest value after (knows value after ran)
          refine ⟨?_, knowsThen⟩
          simp only
          rw [returnsThen]
          exact ⟨fun holds => ⟨⟨value, after, rfl⟩, holds⟩, And.right⟩

/-- What follows returns anyway. -/
theorem Yields.bind_true
    {first : Py α}
    {next : α → Py β}
    {condition : Prop}
    {known : α → Account → Prop}
    {knownThen : β → Account → Prop}
    (yields : Yields first condition known account)
    (rest : ∀ value after, known value after →
      Yields (next value) True knownThen after) :
    Yields (first >>= next) condition knownThen account := by
  have both := yields.bind rest
  rwa [and_true] at both

theorem Yields.pure
    {value : α}
    {known : α → Account → Prop}
    (knows : known value account) :
    Yields (Pure.pure value) True known account := by
  refine ⟨⟨fun _ => trivial, fun _ => ⟨value, account, rfl⟩⟩, ?_⟩
  intro other after same
  obtain ⟨isValue, rfl⟩ := Prod.mk.inj same
  exact Except.ok.inj isValue ▸ knows

theorem Yields.lift
    {outcome : Except PyError α}
    {condition : Prop}
    (returns : (∃ value, outcome = .ok value) ↔ condition) :
    Yields (.lift outcome)
      condition (fun value after => outcome = .ok value ∧ after = account)
      account := by
  constructor
  · rw [← returns]
    constructor
    · rintro ⟨value, after, same⟩
      exact ⟨value, (Prod.mk.inj same).1⟩
    · rintro ⟨value, rfl⟩
      exact ⟨value, account, rfl⟩
  · intro value after same
    obtain ⟨isOutcome, rfl⟩ := Prod.mk.inj same
    exact ⟨isOutcome, rfl⟩

/-- A part that returns anyway. -/
theorem Yields.lift_bind
    {outcome : Except PyError α}
    {value : α}
    {next : α → Py β}
    {condition : Prop}
    {known : β → Account → Prop}
    (isValue : outcome = .ok value)
    (rest : Yields (next value) condition known account) :
    Yields (.lift outcome >>= next) condition known account := by
  unfold Yields
  rw [Py.run_bind, Py.run_lift, isValue]
  exact rest

theorem Yields.of_iff
    {computation : Py α}
    {condition conditionToo : Prop}
    {known : α → Account → Prop}
    (yields : Yields computation condition known account)
    (alike : condition ↔ conditionToo) :
    Yields computation conditionToo known account :=
  ⟨yields.1.trans alike, yields.2⟩

end Computations

/-! ## What is listed -/

/-- Some lists have what is wanted under a name. -/
def isListed (products : List Product) (prices : List Price)
    (name : PyString) (want : Want) : Bool :=
  ((findProduct products name).bind fun product =>
    findPrice prices product.id want).isSome

/-- What is done about an entry. -/
def actionOf (apply listed : Bool) : Action :=
  if listed then .present else if apply then .created else .wouldCreate

theorem findPrice_isSome_congr
    (known : Known products prices account)
    (productId : String)
    (want : Want) :
    (findPrice prices productId want).isSome =
      (findPrice account.prices productId want).isSome := by
  have same := congrArg Option.isSome (known.prices productId want)
  rwa [Option.isSome_map, Option.isSome_map] at same

/-- A product that is found has the name. -/
theorem name_of_findProduct
    {name : PyString}
    {product : Product}
    (found : findProduct products name = some product) :
    product ∈ products ∧ product.name = name := by
  unfold findProduct at found
  exact ⟨List.mem_of_find?_eq_some found, by simpa using List.find?_some found⟩

/-- A product is found under one name only. -/
theorem name_unique
    {left right : PyString}
    {product other : Product}
    (found : findProduct account.products left = some product)
    (foundOther : findProduct account.products right = some other)
    (same : product.id = other.id) :
    left = right := by
  obtain ⟨present, rfl⟩ := name_of_findProduct found
  obtain ⟨presentOther, rfl⟩ := name_of_findProduct foundOther
  rw [List.inj_on_of_nodup_map account.productIdsNodup present presentOther
    same]

variable {stripe : Stripe} {apply : Bool} {name : PyString} {spec : PyValue}

/-- A price has the product that it was looked for. -/
theorem product_of_findPrice
    {productId : String}
    {want : Want}
    {price : Price}
    (found : findPrice prices productId want = some price) :
    price ∈ prices ∧ price.product.id = productId ∧ price.bills want = true := by
  unfold findPrice at found
  have matched := List.find?_some found
  simp only [Bool.and_eq_true, decide_eq_true_eq] at matched
  exact ⟨List.mem_of_find?_eq_some found, matched⟩

/-- No price belongs to a product that is new. -/
theorem findPrice_new
    (known : Known products prices account)
    (want : Want) :
    (findPrice prices (stripe.newId account.ids) want).isSome = false := by
  rw [findPrice_isSome_congr known, Option.isSome_eq_false_iff,
    Option.isNone_iff_eq_none]
  cases found : findPrice account.prices (stripe.newId account.ids) want with
  | none => rfl
  | some price =>
      obtain ⟨present, isId, -⟩ := product_of_findPrice found
      refine absurd ?_ (stripe.newId_notMem account.ids)
      rw [← isId]
      exact List.mem_append_right _ (List.mem_map.mpr ⟨price, present, rfl⟩)

/-- What is found by name once a product is appended. -/
theorem findProduct_append
    {id : String}
    (absent : findProduct products name = none)
    (other : PyString) :
    findProduct (products ++ [⟨id, name⟩]) other =
      if name = other then some ⟨id, name⟩ else findProduct products other := by
  unfold findProduct at absent ⊢
  rw [find?_append_singleton]
  by_cases same : name = other
  · rw [if_pos same, ← same, absent, Option.none_or]
    exact if_pos (decide_eq_true rfl)
  · rw [if_neg same, if_neg (by simpa using same), Option.or_none]

/-- A new product changes nothing about what else is listed. -/
theorem isListed_append
    (known : Known products prices account)
    (absent : findProduct products name = none)
    (other : PyString)
    (want : Want) :
    isListed (products ++ [⟨stripe.newId account.ids, name⟩]) prices other
        want =
      isListed products prices other want := by
  unfold isListed
  rw [findProduct_append absent]
  by_cases same : name = other
  · rw [if_pos same, ← same, absent]
    exact findPrice_new known want
  · rw [if_neg same]

/-- The product of an entry: when it can be had, and that nothing else that is
listed changes. -/
theorem yields_takeProduct (known : Known products prices account) :
    Yields (takeProduct stripe noOutage apply products name spec)
      (apply = true → findProduct products name = none →
        ∃ value, encodeProduct name spec = .ok value)
      (fun taken after => Known taken.2.2 prices after ∧
        taken.1 = findProduct taken.2.2 name ∧
        (apply = true → taken.1.isSome = true) ∧
        (∀ other, other ≠ name →
          findProduct taken.2.2 other = findProduct products other) ∧
        (∀ other want, isListed taken.2.2 prices other want =
          isListed products prices other want) ∧
        after.prices = account.prices) account := by
  cases found : findProduct products name with
  | some product =>
      simp only [takeProduct, found]
      refine (Yields.pure ⟨known, found.symm, fun _ => rfl, fun _ _ => rfl,
        fun _ _ => rfl, rfl⟩).of_iff ?_
      simp
  | none =>
      cases apply with
      | false =>
          simp only [takeProduct, found, Bool.false_eq_true, if_false]
          refine (Yields.pure ⟨known, found.symm,
            fun never => never.elim, fun _ _ => rfl,
            fun _ _ => rfl, rfl⟩).of_iff ?_
          simp
      | true =>
          unfold Yields
          rw [run_takeProduct_of_none found]
          cases encodeProduct name spec with
          | error error => simp
          | ok value =>
              refine ⟨by simp, fun taken final ran => ?_⟩
              obtain ⟨isTaken, rfl⟩ := Prod.mk.inj ran
              obtain rfl := Except.ok.inj isTaken
              have sent := known.sent (account.requests + 1)
              have isFound := @findProduct_append products name
                (stripe.newId account.ids) found
              refine ⟨(known_addProduct sent found).1, ?_, fun _ => rfl, ?_,
                isListed_append known found, rfl⟩
              · simp [isFound]
              · intro other differs
                simp [isFound, differs.symm]

variable {want : Want} {lower : PyString → PyString} {action : Action}
  {raw : PyValue} {raws specs : List PyValue} {product : Option Product}

/-- A new price bills its entry, and changes nothing about what else is
listed. -/
theorem isListed_addPrice
    {product : Product}
    {id : String}
    (known : Known products prices account)
    (there : findProduct products name = some product)
    (counted : want.intervalCount ≠ 0)
    {other : PyString}
    {wanted : Want}
    (differs : ¬(other = name ∧ SameBilling want wanted)) :
    isListed products (prices ++ [want.price id (.plain product.id)]) other
        wanted =
      isListed products prices other wanted := by
  unfold isListed
  cases found : findProduct products other with
  | none => rfl
  | some another =>
      rw [Option.bind_some, Option.bind_some, findPrice, find?_append_singleton,
        if_neg, Option.or_none]
      · rfl
      · intro matched
        obtain ⟨isSame, alike⟩ := (matches_price_iff counted).mp matched
        rw [known.products] at there found
        exact differs ⟨name_unique found there isSame.symm, alike⟩

/-- The price of an entry: when it can be had, what is done about it, and that
nothing else that is listed changes. -/
theorem yields_takePrice
    (known : Known products prices account)
    (counted : want.intervalCount ≠ 0)
    (isProduct : product = findProduct products name)
    (taken : apply = true → product.isSome = true) :
    Yields (takePrice stripe noOutage apply product prices want)
      (apply = true → isListed products prices name want = false →
        urlencode [want.currency, want.interval] = .ok ())
      (fun taken after => Known products taken.2.2 after ∧
        taken.2.1 = actionOf apply (isListed products prices name want) ∧
        (∀ other wanted, ¬(other = name ∧ SameBilling want wanted) →
          isListed products taken.2.2 other wanted =
            isListed products prices other wanted) ∧
        after.prices.length = account.prices.length +
          if taken.2.1 = .created then 1 else 0) account := by
  have listed : isListed products prices name want =
      (product.bind fun product => findPrice prices product.id want).isSome := by
    rw [isListed, isProduct]
  rw [listed]
  cases found : product.bind fun product => findPrice prices product.id want with
  | some price =>
      simp only [takePrice, found]
      refine (Yields.pure ⟨known, rfl, fun _ _ _ => rfl, rfl⟩).of_iff ?_
      simp
  | none =>
      cases apply with
      | false =>
          have skipped : takePrice stripe noOutage false product prices want =
              pure (none, .wouldCreate, prices) := by
            unfold takePrice
            rw [found]
            cases product with
            | none => rfl
            | some product => rfl
          rw [skipped]
          refine (Yields.pure ⟨known, rfl, fun _ _ _ => rfl, rfl⟩).of_iff ?_
          simp
      | true =>
          cases product with
          | none => cases taken rfl
          | some product =>
              unfold Yields
              rw [run_takePrice_of_none found]
              cases urlencode [want.currency, want.interval] with
              | error error => simp
              | ok value =>
                  refine ⟨by simp, fun taken final ran => ?_⟩
                  obtain ⟨isTaken, rfl⟩ := Prod.mk.inj ran
                  obtain rfl := Except.ok.inj isTaken
                  have sent := known.sent (account.requests + 1)
                  refine ⟨(@known_addPrice _ _ _ stripe (.plain product.id) _
                    sent counted found).1, rfl, fun other wanted differs =>
                      isListed_addPrice known isProduct.symm counted differs,
                    ?_⟩
                  exact (perm_insertAt _ _ _).length_eq

/-! ## The loops -/

/-- What a row says of its entry. -/
def Row.news (row : Row) : PyString × Want × Action :=
  (row.product, row.want, row.priceAction)

theorem money_total_iff {amount : Int} {currency : PyString} :
    (∃ value, money amount currency = .ok value) ↔
      (amount.natAbs : Int) < moneyLimit := by
  unfold money
  split
  · rename_i large
    simpa using large
  · rename_i small
    simpa using small

theorem urlencode_eq_ok_iff {texts : List PyString} :
    urlencode texts = .ok () ↔ ∀ text ∈ texts, encodes text = true := by
  unfold urlencode
  split
  · rename_i all
    simpa using all
  · rename_i some
    simpa using some

/-- The intervals that are accepted can be encoded. -/
theorem encodes_interval
    (good : goodPrice raw = true) :
    encodes (wantOf lower raw).interval = true := by
  cases raw with
  | dict price =>
      obtain ⟨-, -, -, interval, -⟩ := goodPrice_iff.mp good
      change encodes ((keyOf price).interval.asStr.getD []) = true
      unfold isInterval at interval
      cases given : (keyOf price).interval.asStr with
      | none => rfl
      | some text =>
          have valid : text ∈ VALID_INTERVALS := by simpa [given] using interval
          have all : VALID_INTERVALS.all encodes = true := by decide
          exact List.all_eq_true.mp all text valid
  | _ => cases good

theorem urlencode_of_good
    (good : goodPrice raw = true) :
    urlencode [(wantOf lower raw).currency, (wantOf lower raw).interval] =
        .ok () ↔
      encodes (wantOf lower raw).currency = true := by
  simp [urlencode_eq_ok_iff, @encodes_interval lower raw good]

/-- What is needed for a price to be had and printed. -/
def PriceReady (apply : Bool) (products : List Product) (prices : List Price)
    (name : PyString) (want : Want) : Prop :=
  (apply = true → isListed products prices name want = false →
      encodes want.currency = true) ∧
    (want.amount.natAbs : Int) < moneyLimit

theorem yields_runPrice
    (known : Known products prices account)
    (good : goodPrice raw = true)
    (isObject : spec.asDict.isSome)
    (isProduct : product = findProduct products name)
    (taken : apply = true → product.isSome = true) :
    Yields
      (runPrice stripe noOutage lower apply spec name product action prices raw)
      (PriceReady apply products prices name (wantOf lower raw))
      (fun result after => Known products result.2 after ∧
        result.1.news = (name, wantOf lower raw,
          actionOf apply (isListed products prices name (wantOf lower raw))) ∧
        (∀ other wanted,
          ¬(other = name ∧ SameBilling (wantOf lower raw) wanted) →
            isListed products result.2 other wanted =
              isListed products prices other wanted) ∧
        after.prices.length = account.prices.length +
          [result.1].countP fun row => row.priceAction = .created) account := by
  have counted : (wantOf lower raw).intervalCount ≠ 0 := by
    have positive := @intervalCount_of_good lower raw good
    omega
  refine .lift_bind (normalise_of_good good) ?_
  unfold PriceReady
  rw [← urlencode_of_good good]
  refine (yields_takePrice known counted isProduct taken).bind ?_
  rintro ⟨price, priceAction, pricesThen⟩ after
    ⟨knownThen, isAction, others, added⟩
  obtain ⟨app, isApp⟩ : ∃ app, spec.get "app" = .ok app := by
    cases spec with
    | dict items => exact ⟨_, rfl⟩
    | _ => cases isObject
  refine .lift_bind isApp ?_
  refine (Yields.lift money_total_iff).bind_true ?_
  rintro amount _ ⟨-, rfl⟩
  refine .pure ⟨knownThen, ?_, others, ?_⟩
  · exact congrArg (fun action => (name, wantOf lower raw, action)) isAction
  · rw [added, List.countP_singleton]
    simp

/-- Two prices that are billed alike. -/
def Twins (lower : PyString → PyString) (left right : PyValue) : Prop :=
  SameBilling (wantOf lower left) (wantOf lower right)

/-- What a row will say of a price. -/
def newsOf (lower : PyString → PyString) (apply : Bool)
    (products : List Product) (prices : List Price) (name : PyString)
    (raw : PyValue) : PyString × Want × Action :=
  (name, wantOf lower raw,
    actionOf apply (isListed products prices name (wantOf lower raw)))

/-- The prices of an entry, of which no two are billed alike: what has been done
for one does not matter to another. -/
theorem yields_runPrices
    (known : Known products prices account)
    (good : ∀ raw ∈ raws, goodPrice raw = true)
    (isObject : spec.asDict.isSome)
    (isProduct : product = findProduct products name)
    (taken : apply = true → product.isSome = true)
    (apart : raws.Pairwise fun left right => ¬Twins lower left right) :
    Yields
      (runPrices stripe noOutage lower apply spec name product action raws
        prices)
      (∀ raw ∈ raws,
        PriceReady apply products prices name (wantOf lower raw))
      (fun result after => Known products result.2 after ∧
        result.1.map Row.news =
          raws.map (newsOf lower apply products prices name) ∧
        (∀ other wanted, other ≠ name →
          isListed products result.2 other wanted =
            isListed products prices other wanted) ∧
        after.prices.length = account.prices.length +
          result.1.countP fun row => row.priceAction = .created) account := by
  induction raws generalizing prices account with
  | nil =>
      refine (Yields.pure ⟨known, rfl, fun _ _ _ => rfl, rfl⟩).of_iff ?_
      simp
  | cons raw raws inductionHypothesis =>
      rw [List.pairwise_cons] at apart
      rw [List.forall_mem_cons] at good ⊢
      refine (yields_runPrice known good.1 isObject isProduct taken).bind ?_
      rintro ⟨row, pricesThen⟩ after ⟨knownThen, isNews, others, added⟩
      have later : ∀ other ∈ raws,
          isListed products pricesThen name (wantOf lower other) =
            isListed products prices name (wantOf lower other) :=
        fun other present => others _ _ fun both =>
          apart.1 other present both.2
      have rest := @inductionHypothesis pricesThen after knownThen good.2
        apart.2
      refine (rest.bind_true ?_).of_iff ?_
      · rintro ⟨rows, pricesLast⟩ final ⟨knownLast, areNews, othersToo, more⟩
        refine .pure ⟨knownLast, ?_, fun other wanted differs => ?_, ?_⟩
        · rw [List.map_cons, List.map_cons, isNews, areNews]
          refine congrArg _ (List.map_congr_left fun other present => ?_)
          rw [newsOf, newsOf, later other present]
        · rw [othersToo other wanted differs]
          exact others other wanted fun both => differs both.1
        · rw [more, added]
          simp only [List.countP_cons, List.countP_nil]
          omega
      · refine forall₂_congr fun other present => ?_
        rw [PriceReady, PriceReady, later other present]

/-- What is needed for an entry to be had and printed. -/
def SpecReady (lower : PyString → PyString) (apply : Bool)
    (products : List Product) (prices : List Price) (spec : PyValue) : Prop :=
  (apply = true → findProduct products (nameOf spec) = none →
      ∃ value, encodeProduct (nameOf spec) spec = .ok value) ∧
    ∀ raw ∈ pricesOf spec,
      PriceReady apply products prices (nameOf spec) (wantOf lower raw)

/-- The entries of a catalogue, of which no two have one name: what has been done
for one does not matter to another. -/
theorem yields_runSpecs
    (known : Known products prices account)
    (good : ∀ spec ∈ specs, GoodProduct spec)
    (namesDiffer : (specs.map nameOf).Nodup)
    (apart : ∀ spec ∈ specs, (pricesOf spec).Pairwise fun left right =>
      ¬Twins lower left right) :
    Yields (runSpecs stripe noOutage lower apply specs products prices)
      (∀ spec ∈ specs, SpecReady lower apply products prices spec)
      (fun rows after =>
        rows.map Row.news = specs.flatMap (fun spec =>
          (pricesOf spec).map
            (newsOf lower apply products prices (nameOf spec))) ∧
        after.prices.length = account.prices.length +
          rows.countP fun row => row.priceAction = .created) account := by
  induction specs generalizing products prices account with
  | nil =>
      refine (Yields.pure ⟨rfl, rfl⟩).of_iff ?_
      simp
  | cons spec specs inductionHypothesis =>
      rw [List.map_cons, List.nodup_cons] at namesDiffer
      rw [List.forall_mem_cons] at good apart ⊢
      have different : ∀ other ∈ specs, nameOf other ≠ nameOf spec :=
        fun other present same =>
          namesDiffer.1 (List.mem_map.mpr ⟨other, present, same⟩)
      rw [SpecReady, and_assoc]
      refine .lift_bind (item_name good.1) ?_
      refine (yields_takeProduct known).bind ?_
      rintro ⟨product, action, productsThen⟩ after
        ⟨knownThen, isProduct, taken, names, listed, samePrices⟩
      refine .lift_bind (item_prices good.1) ?_
      have forPrices := @yields_runPrices _ _ _ stripe apply (nameOf spec) spec
        lower action _ product knownThen good.1.prices good.1.isDict isProduct
        taken apart.1
      simp only [PriceReady, listed] at forPrices
      refine forPrices.bind ?_
      · rintro ⟨rows, pricesThen⟩ final ⟨knownFinal, isNews, others, added⟩
        have same : ∀ other ∈ specs, ∀ want,
            isListed productsThen pricesThen (nameOf other) want =
              isListed products prices (nameOf other) want :=
          fun other present want => others _ want (different other present)
        refine ((inductionHypothesis knownFinal good.2 namesDiffer.2
          apart.2).bind_true ?_).of_iff ?_
        · rintro more last ⟨areNews, addedThen⟩
          refine .pure ⟨?_, ?_⟩
          · rw [List.map_append, isNews, areNews, List.flatMap_cons]
            refine congrArg₂ _ (List.map_congr_left fun raw _ => ?_) ?_
            · rw [newsOf, newsOf, listed]
            · refine List.flatMap_congr fun other present => ?_
              refine List.map_congr_left fun raw _ => ?_
              rw [newsOf, newsOf, same other present]
          · rw [addedThen, added, samePrices, List.countP_append,
              Nat.add_assoc]
        · refine forall₂_congr fun other present => ?_
          simp only [SpecReady, PriceReady, same other present,
            names _ (different other present)]

/-! ## Ids that differ -/

/-- What tells the entries of a catalogue apart. -/
def Row.entry (row : Row) : PyString × PyValue × PyString × Int :=
  (row.product, row.want.tier, row.want.interval, row.want.intervalCount)

/-- Rows of different entries have different price ids. -/
def IdsDiffer (rows : List Row) : Prop :=
  rows.Pairwise fun left right =>
    left.entry ≠ right.entry → left.priceId ≠ right.priceId

/-- A price bills one way. -/
theorem sameBilling_of_bills
    {price : Price}
    {left right : Want}
    (billsLeft : price.bills left = true)
    (billsRight : price.bills right = true) :
    SameBilling left right := by
  simp only [Price.bills, Bool.and_eq_true, decide_eq_true_eq, and_assoc,
    Option.any_eq_true] at billsLeft billsRight
  obtain ⟨amount, currency, recurring, isRecurring, interval, count⟩ := billsLeft
  obtain ⟨amount', currency', _, isRecurring', interval', count'⟩ := billsRight
  obtain rfl := Option.some.inj (isRecurring.symm.trans isRecurring')
  exact ⟨Option.some.inj (amount.symm.trans amount'),
    currency.symm.trans currency', interval.symm.trans interval',
    count.symm.trans count'⟩

/-- Rows have one price id, if and only if they are of one product and billed
alike. -/
theorem priceId_eq_iff
    {left right : Row}
    (printed : left.Printed account)
    (printedToo : right.Printed account) :
    left.priceId = right.priceId ↔
      left.product = right.product ∧ SameBilling left.want right.want := by
  obtain ⟨product, there, -, -, priced⟩ := printed
  obtain ⟨other, thereToo, -, -, pricedToo⟩ := printedToo
  constructor
  · intro sameId
    obtain ⟨price, found, isId⟩ := Option.map_eq_some_iff.mp priced
    obtain ⟨price', found', isId'⟩ := Option.map_eq_some_iff.mp pricedToo
    obtain ⟨present, isProduct, bills⟩ := product_of_findPrice found
    obtain ⟨present', isProduct', bills'⟩ := product_of_findPrice found'
    have same : price = price' :=
      List.inj_on_of_nodup_map account.priceIdsNodup present present'
        ((isId.trans sameId).trans isId'.symm)
    subst same
    exact ⟨name_unique there thereToo (isProduct.symm.trans isProduct'),
      sameBilling_of_bills bills bills'⟩
  · rintro ⟨sameName, alike⟩
    rw [sameName] at there
    obtain rfl := Option.some.inj (there.symm.trans thereToo)
    rw [findPrice_congr alike, pricedToo] at priced
    exact (Option.some.inj priced).symm

theorem eq_str_of_any
    {value : PyValue}
    {check : PyString → Bool}
    (passed : value.asStr.any check = true) :
    value = .str (value.asStr.getD []) := by
  cases value with
  | str text => rfl
  | _ => cases passed

theorem eq_int_of_any
    {value : PyValue}
    {check : Int → Bool}
    (passed : value.asInt.any check = true)
    (otherwise : Int) :
    value = .int (value.asInt.getD otherwise) := by
  cases value with
  | int number => rfl
  | _ => cases passed

/-- The key of a price of the documented format. -/
theorem keyOf_of_good
    (good : goodPrice raw = true) :
    ∃ tier, (wantOf lower raw).tier = .str tier ∧
      keyOf (members raw) = ⟨.str tier, .str (wantOf lower raw).interval,
        .int (wantOf lower raw).intervalCount⟩ := by
  cases raw with
  | dict price =>
      obtain ⟨tier, -, -, interval, count⟩ := goodPrice_iff.mp good
      have isInterval := eq_str_of_any interval
      have isCount := eq_int_of_any count 1
      cases given : lookup price "tier" with
      | none => simp [isNamed, given] at tier
      | some value =>
          rw [given] at tier
          have isTier : (keyOf price).tier = .str (value.asStr.getD []) := by
            rw [keyOf, given]
            exact eq_str_of_any tier
          refine ⟨value.asStr.getD [], isTier, ?_⟩
          change keyOf price = ⟨_, .str ((keyOf price).interval.asStr.getD []),
            .int ((keyOf price).count.asInt.getD 1)⟩
          rw [← isTier, ← isInterval, ← isCount]
  | _ => cases good

/-- Prices of the documented format with the same tier and cadence have the same
key. -/
theorem keyOf_equals_of_entry
    {left right : PyValue}
    (good : goodPrice left = true)
    (goodToo : goodPrice right = true)
    (sameTier : (wantOf lower left).tier = (wantOf lower right).tier)
    (interval : (wantOf lower left).interval = (wantOf lower right).interval)
    (count : (wantOf lower left).intervalCount =
      (wantOf lower right).intervalCount) :
    (keyOf (members right)).equals (keyOf (members left)) = true := by
  obtain ⟨tier, isTier, isKey⟩ := @keyOf_of_good lower left good
  obtain ⟨tier', isTier', isKey'⟩ := @keyOf_of_good lower right goodToo
  rw [isTier, isTier'] at sameTier
  rw [isKey, isKey', interval, count, sameTier]
  simp [PriceKey.equals, PyValue.equals, PyValue.number]

/-- What tells apart an entry that is asked for. -/
def entryOf (asked : PyString × Want) : PyString × PyValue × PyString × Int :=
  (asked.1, asked.2.tier, asked.2.interval, asked.2.intervalCount)

/-- The entries of a catalogue without problems are all different. -/
theorem entries_differ
    (good : ∀ spec ∈ specs, GoodProduct spec)
    (namesDiffer : (specs.map nameOf).Nodup) :
    (specs.flatMap (entriesOf lower)).Pairwise fun left right =>
      entryOf left ≠ entryOf right := by
  rw [List.pairwise_flatMap]
  constructor
  · intro spec present
    rw [entriesOf, List.pairwise_map]
    refine (good spec present).keysDiffer.imp_of_mem ?_
    intro left right isLeft isRight differ same
    simp only [entryOf, Prod.mk.injEq] at same
    have equal := keyOf_equals_of_entry ((good spec present).prices _ isLeft)
      ((good spec present).prices _ isRight) same.2.1 same.2.2.1 same.2.2.2
    rw [differ] at equal
    cases equal
  · refine (List.pairwise_map.mp namesDiffer).imp ?_
    intro spec other differ left isLeft right isRight same
    obtain ⟨raw, -, rfl⟩ := List.mem_map.mp isLeft
    obtain ⟨raw', -, rfl⟩ := List.mem_map.mp isRight
    exact differ (congrArg Prod.fst same)

/-- No two prices of a product are billed alike. -/
def NoTwins (lower : PyString → PyString) (catalogue : PyValue) : Prop :=
  ∀ product ∈ productsOf catalogue,
    (pricesOf product).Pairwise fun left right => ¬Twins lower left right

/-- Rows that are all printed have different ids, if and only if no two prices of
a product are billed alike. -/
theorem idsDiffer_iff
    {rows : List Row}
    {catalogue : PyValue}
    (acceptable : Acceptable catalogue)
    (printed : ∀ row ∈ rows, row.Printed account)
    (asked : rows.map Row.asked =
      (productsOf catalogue).flatMap (entriesOf lower)) :
    IdsDiffer rows ↔ NoTwins lower catalogue := by
  have different := @entries_differ lower _ acceptable.products
    acceptable.namesDiffer
  rw [← asked, List.pairwise_map] at different
  have alike : IdsDiffer rows ↔ rows.Pairwise fun left right =>
      ¬(left.asked.1 = right.asked.1 ∧
        SameBilling left.asked.2 right.asked.2) := by
    constructor
    · intro idsDiffer
      refine (different.and idsDiffer).imp_of_mem ?_
      rintro left right isLeft isRight ⟨differ, idDiffers⟩ same
      exact idDiffers differ ((priceId_eq_iff (printed _ isLeft)
        (printed _ isRight)).mpr same)
    · intro apart
      refine apart.imp_of_mem fun isLeft isRight differ _ sameId => ?_
      exact differ ((priceId_eq_iff (printed _ isLeft)
        (printed _ isRight)).mp sameId)
  rw [alike, ← @List.pairwise_map _ _ Row.asked (fun left right =>
    ¬(left.1 = right.1 ∧ SameBilling left.2 right.2)) rows, asked,
    List.pairwise_flatMap]
  constructor
  · rintro ⟨inside, -⟩ product present
    refine (List.pairwise_map.mp (inside product present)).imp ?_
    exact fun apart twins => apart ⟨rfl, twins⟩
  · intro apart
    refine ⟨fun product present => List.pairwise_map.mpr
      ((apart product present).imp fun differ both => differ both.2), ?_⟩
    refine (List.pairwise_map.mp acceptable.namesDiffer).imp ?_
    intro product other differ left isLeft right isRight both
    obtain ⟨raw, -, rfl⟩ := List.mem_map.mp isLeft
    obtain ⟨raw', -, rfl⟩ := List.mem_map.mp isRight
    exact differ both.1

/-! ## A dry run changes nothing -/

section Quiet

variable {α β : Type}

/-- A computation that leaves the account as it is. -/
def Quiet (computation : Py α) : Prop :=
  ∀ account, (computation.run account).2 = account

theorem Quiet.bind
    {first : Py α}
    {next : α → Py β}
    (quiet : Quiet first)
    (rest : ∀ value, Quiet (next value)) :
    Quiet (first >>= next) := by
  intro account
  have same := quiet account
  rw [Py.run_bind]
  cases ran : first.run account with
  | mk outcome after =>
      rw [ran] at same
      cases outcome with
      | error error => exact same
      | ok value => exact (rest value after).trans same

theorem Quiet.pure (value : α) : Quiet (Pure.pure value) := fun _ => rfl

theorem Quiet.lift (outcome : Except PyError α) : Quiet (.lift outcome) :=
  fun _ => rfl

end Quiet

variable {outage : Nat → Option Failure}

theorem quiet_takeProduct :
    Quiet (takeProduct stripe outage false products name spec) := by
  unfold takeProduct
  cases findProduct products name with
  | none => exact .pure _
  | some product => exact .pure _

theorem quiet_takePrice :
    Quiet (takePrice stripe outage false product prices want) := by
  unfold takePrice
  cases product.bind fun product => findPrice prices product.id want with
  | some price => exact .pure _
  | none =>
      cases product with
      | none => exact .pure _
      | some product => exact .pure _

theorem quiet_runPrices :
    Quiet (runPrices stripe outage lower false spec name product action raws
      prices) := by
  induction raws generalizing prices with
  | nil => exact .pure _
  | cons raw raws inductionHypothesis =>
      refine .bind ?_ fun _ => inductionHypothesis.bind fun _ => .pure _
      refine (Quiet.lift _).bind fun want => quiet_takePrice.bind fun _ => ?_
      exact (Quiet.lift _).bind fun _ => (Quiet.lift _).bind fun _ => .pure _

/-- The products and prices of a dry run are only looked up. -/
theorem quiet_runSpecs :
    Quiet (runSpecs stripe outage lower false specs products prices) := by
  induction specs generalizing products prices with
  | nil => exact .pure _
  | cons spec specs inductionHypothesis =>
      refine (Quiet.lift _).bind fun _ => quiet_takeProduct.bind fun _ => ?_
      refine (Quiet.lift _).bind fun _ => quiet_runPrices.bind fun _ => ?_
      exact inductionHypothesis.bind fun _ => .pure _

/-! ## Every entry is registered -/

/-- A dry run, and then a run that applies the catalogue, which prints a price id
of its own for every entry and creates as many prices as were announced. -/
def Registers (stripe : Stripe) (lower : PyString → PyString)
    (catalogue : PyValue) (account : Account) : Prop :=
  ∃ announced between rows after,
    (run stripe noOutage lower false catalogue).run account =
        (.ok announced, between) ∧
      (run stripe noOutage lower true catalogue).run between =
        (.ok rows, after) ∧
      IdsDiffer rows ∧
      after.prices.length = between.prices.length +
        announced.countP fun row => row.priceAction = .wouldCreate

/-- The texts that are sent to create a product. -/
def sentTexts (product : PyValue) : List PyString :=
  nameOf product :: ((lookup (members product) "description").filter
    PyValue.truthy).elim [] PyValue.formTexts

/-- What is missing in an account can be sent, and all amounts can be printed. -/
structure Ready (lower : PyString → PyString) (catalogue : PyValue)
    (account : Account) : Prop where
  products : ∀ product ∈ productsOf catalogue,
    findProduct account.products (nameOf product) = none →
      ∀ text ∈ sentTexts product, encodes text = true
  prices : ∀ product ∈ productsOf catalogue, ∀ raw ∈ pricesOf product,
    isListed account.products account.prices (nameOf product)
        (wantOf lower raw) = false →
      encodes (wantOf lower raw).currency = true
  amounts : ∀ product ∈ productsOf catalogue, ∀ raw ∈ pricesOf product,
    ((wantOf lower raw).amount.natAbs : Int) < moneyLimit

theorem encodeProduct_of_good
    (good : GoodProduct spec) :
    (∃ value, encodeProduct (nameOf spec) spec = .ok value) ↔
      ∀ text ∈ sentTexts spec, encodes text = true := by
  cases spec with
  | dict items =>
      rw [← urlencode_eq_ok_iff]
      exact ⟨fun ⟨_, encoded⟩ => encoded, fun encoded => ⟨_, encoded⟩⟩
  | _ => cases good.isDict

/-- An account is ready, if and only if it is ready for both runs. -/
theorem ready_iff
    {catalogue : PyValue}
    (acceptable : Acceptable catalogue) :
    Ready lower catalogue account ↔
      ∀ spec ∈ productsOf catalogue,
        SpecReady lower true account.products account.prices spec := by
  constructor
  · rintro ⟨forProducts, forPrices, amounts⟩ spec present
    refine ⟨fun _ absent => (encodeProduct_of_good
      (acceptable.products spec present)).mpr
        (forProducts spec present absent), fun raw isRaw => ?_⟩
    exact ⟨fun _ => forPrices spec present raw isRaw,
      amounts spec present raw isRaw⟩
  · intro ready
    refine ⟨fun spec present absent => ?_, ?_, ?_⟩
    · exact (encodeProduct_of_good (acceptable.products spec present)).mp
        ((ready spec present).1 rfl absent)
    · exact fun spec present raw isRaw =>
        ((ready spec present).2 raw isRaw).1 rfl
    · exact fun spec present raw isRaw => ((ready spec present).2 raw isRaw).2

/-- A run of a catalogue without twins returns under a condition, and its rows
say what was listed. -/
theorem yields_run
    {catalogue : PyValue}
    (acceptable : Acceptable catalogue)
    (apart : NoTwins lower catalogue) :
    Yields (run stripe noOutage lower apply catalogue)
      (∀ spec ∈ productsOf catalogue,
        SpecReady lower apply account.products account.prices spec)
      (fun rows after =>
        rows.map Row.news = (productsOf catalogue).flatMap (fun spec =>
          (pricesOf spec).map
            (newsOf lower apply account.products account.prices
              (nameOf spec))) ∧
        after.prices.length = account.prices.length +
          rows.countP fun row => row.priceAction = .created) account := by
  obtain ⟨requests, ran⟩ := run_run stripe lower apply catalogue account
  rw [runListed_of_acceptable acceptable] at ran
  have known : Known account.products account.prices (account.sent requests) :=
    ⟨fun _ => rfl, fun _ _ => rfl⟩
  have yields := @yields_runSpecs _ _ _ stripe apply lower _ known
    acceptable.products acceptable.namesDiffer apart
  unfold Yields at yields ⊢
  rwa [ran]

/-- A dry run leaves what is active. -/
theorem run_dry
    {catalogue : PyValue}
    (acceptable : Acceptable catalogue) :
    ∃ requests,
      ((run stripe noOutage lower false catalogue).run account).2 =
        account.sent requests := by
  obtain ⟨requests, ran⟩ := run_run stripe lower false catalogue account
  rw [runListed_of_acceptable acceptable] at ran
  exact ⟨requests, by rw [ran, quiet_runSpecs]⟩

/-- What an applying run printed. -/
theorem printed_run
    {catalogue : PyValue}
    {rows : List Row}
    {after : Account}
    (acceptable : Acceptable catalogue)
    (applied : (run stripe noOutage lower true catalogue).run account =
      (.ok rows, after)) :
    (∀ row ∈ rows, row.Printed after) ∧
      rows.map Row.asked = (productsOf catalogue).flatMap (entriesOf lower) := by
  obtain ⟨requests, ran⟩ := run_run stripe lower true catalogue account
  rw [runListed_of_acceptable acceptable] at ran
  have known : Known account.products account.prices (account.sent requests) :=
    ⟨fun _ => rfl, fun _ _ => rfl⟩
  exact (grows_runSpecs known acceptable.products).2 rows after
    (ran.symm.trans applied)

/-- As many prices are created as were announced. -/
theorem countP_news
    {announced rows : List Row}
    (said : announced.map Row.news = specs.flatMap fun spec =>
      (pricesOf spec).map (newsOf lower false products prices (nameOf spec)))
    (done : rows.map Row.news = specs.flatMap fun spec =>
      (pricesOf spec).map (newsOf lower true products prices (nameOf spec))) :
    (rows.countP fun row => row.priceAction = .created) =
      announced.countP fun row => row.priceAction = .wouldCreate := by
  have counts : ∀ (rows : List Row) (action : Action),
      (rows.countP fun row => row.priceAction = action) =
        (rows.map Row.news).countP fun news => news.2.2 = action :=
    fun rows action => by
      rw [List.countP_map]
      rfl
  rw [counts, counts, said, done, List.countP_flatMap, List.countP_flatMap]
  refine congrArg List.sum (List.map_congr_left fun spec _ => ?_)
  simp only [Function.comp, List.countP_map]
  refine List.countP_congr fun raw _ => ?_
  have sameAction : ∀ listed, actionOf true listed = .created ↔
      actionOf false listed = .wouldCreate := by decide
  exact decide_eq_true_iff.trans
    ((sameAction _).trans decide_eq_true_iff.symm)

/-- Every entry of a catalogue gets a price id of its own, and what is created
is what was announced, if and only if what is missing can be sent, all amounts
can be printed and no two prices of a product are billed alike. -/
theorem registers_iff
    (stripe : Stripe)
    (lower : PyString → PyString)
    (catalogue : PyValue)
    (accepted : validate catalogue = .ok [])
    (account : Account) :
    Registers stripe lower catalogue account ↔
      Ready lower catalogue account ∧ NoTwins lower catalogue := by
  have acceptable := validate_eq_nil_iff.mp accepted
  obtain ⟨requests, dryAccount⟩ := @run_dry account stripe lower _ acceptable
  constructor
  · rintro ⟨announced, between, rows, after, dry, applied, idsDiffer, -⟩
    rw [dry] at dryAccount
    obtain rfl : between = account.sent requests := dryAccount
    obtain ⟨printed, asked⟩ := printed_run acceptable applied
    have apart := (idsDiffer_iff acceptable printed asked).mp idsDiffer
    have returns := (@yields_run (account.sent requests) stripe true lower _
      acceptable apart).1
    exact ⟨(ready_iff acceptable).mpr (returns.mp ⟨rows, after, applied⟩),
      apart⟩
  · rintro ⟨ready, apart⟩
    have ready := (ready_iff acceptable).mp ready
    obtain ⟨dryReturns, drySaid⟩ := @yields_run account stripe false lower _
      acceptable apart
    obtain ⟨returns, said⟩ := @yields_run (account.sent requests) stripe true
      lower _ acceptable apart
    obtain ⟨announced, between, dry⟩ := dryReturns.mpr fun spec present =>
      ⟨fun never => absurd never Bool.false_ne_true, fun raw isRaw =>
        ⟨fun never => absurd never Bool.false_ne_true,
          ((ready spec present).2 raw isRaw).2⟩⟩
    rw [dry] at dryAccount
    obtain rfl : between = account.sent requests := dryAccount
    obtain ⟨rows, after, applied⟩ := returns.mpr ready
    obtain ⟨printed, asked⟩ := printed_run acceptable applied
    refine ⟨announced, _, rows, after, dry, applied,
      (idsDiffer_iff acceptable printed asked).mpr apart, ?_⟩
    obtain ⟨news, added⟩ := said rows after applied
    rw [added, countP_news (drySaid _ _ dry).1 news]

theorem standardPlan_registers_iff :
    Registers default id standardPlan .empty ↔
      Ready id standardPlan .empty ∧ NoTwins id standardPlan :=
  registers_iff default id standardPlan standardPlan_accepted .empty

/-- A price of ten dollars a month. -/
def tenDollars (tier : String) : PyValue :=
  .dict [(ofText "tier", .str (ofText tier)), (ofText "amount", .int 1000)]

/-- An app with two tiers that cost the same. -/
def twinPlans : PyValue :=
  .dict [(ofText "products", .list [.dict [
    (ofText "name", .str (ofText "DocketMail")),
    (ofText "prices", .list [tenDollars "standard", tenDollars "team"])]])]

/-- Both tiers get the price that is created for the first. -/
theorem twinPlans_not_registered :
    validate twinPlans = .ok [] ∧
      ¬Registers default id twinPlans .empty := by
  have accepted : validate twinPlans = .ok [] := by rfl
  refine ⟨accepted, ?_⟩
  rintro ⟨announced, between, rows, after, -, applied, idsDiffer, -⟩
  have acceptable := validate_eq_nil_iff.mp accepted
  obtain ⟨printed, asked⟩ := printed_run acceptable applied
  have apart := (idsDiffer_iff acceptable printed asked).mp idsDiffer
  have isTwin := apart _ List.mem_cons_self
  have differ : ¬Twins id (tenDollars "standard") (tenDollars "team") :=
    (List.pairwise_cons.mp isTwin).1 _ List.mem_cons_self
  exact differ ⟨rfl, rfl, rfl, rfl⟩

end StripeCatalogue
end EvoPlatform
