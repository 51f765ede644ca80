import EvoPlatform.StripeCatalogue.Registration

/-!
# What the catalogue script raises

Validation returns for the catalogues whose parts are objects where it takes them
for objects.  What it accepts is applied without an error other than Stripe's, if
every amount can be divided by a hundred, every text that is sent can be encoded
and no request fails in a way that the script does not catch.
-/

namespace EvoPlatform
namespace StripeCatalogue

open PyValue (lookup asStr asInt asItems asDict)

variable {stripe : Stripe} {outage : Nat → Option Failure}
  {lower : PyString → PyString} {apply : Bool} {name : PyString}
  {spec raw : PyValue} {specs raws : List PyValue} {want : Want}
  {products : List Product} {prices : List Price} {product : Option Product}
  {action : Action} {account : Account}

/-- Every text that is sent for a catalogue can be encoded, and every amount can
be printed. -/
structure Sendable (lower : PyString → PyString) (catalogue : PyValue) :
    Prop where
  products : ∀ product ∈ productsOf catalogue,
    ∀ text ∈ sentTexts product, encodes text = true
  prices : ∀ product ∈ productsOf catalogue, ∀ raw ∈ pricesOf product,
    encodes (wantOf lower raw).currency = true ∧
      ((wantOf lower raw).amount.natAbs : Int) < moneyLimit

theorem get_of_object
    (isObject : spec.asDict.isSome)
    (key : String) :
    ∃ value, spec.get key = .ok value := by
  cases spec with
  | dict items => exact ⟨_, rfl⟩
  | _ => cases isObject

/-! ## Nothing but Stripe's errors -/

section OnlyStripe

variable {α β : Type}

/-- A computation that raises nothing but Stripe's errors. -/
def OnlyStripe (computation : Py α) : Prop :=
  ∀ account error after, computation.run account = (.error error, after) →
    error.isStripe = true

theorem OnlyStripe.bind
    {first : Py α}
    {next : α → Py β}
    (only : OnlyStripe first)
    (rest : ∀ value, OnlyStripe (next value)) :
    OnlyStripe (first >>= next) := by
  intro account error final ran
  rw [Py.run_bind] at ran
  cases outcome : first.run account with
  | mk value after =>
      rw [outcome] at ran
      cases value with
      | error raised =>
          obtain ⟨same, rfl⟩ := Prod.mk.inj ran
          obtain rfl := Except.error.inj same
          exact only account raised after outcome
      | ok value => exact rest value after error final ran

theorem OnlyStripe.pure (value : α) :
    OnlyStripe (Pure.pure value : Py α) := by
  intro account error after ran
  cases ran

theorem OnlyStripe.answer (change : Account → α × Account) :
    OnlyStripe (.answer change) := by
  intro account error after ran
  cases ran

/-- A part that does not raise. -/
theorem OnlyStripe.lift_bind
    {outcome : Except PyError α}
    {value : α}
    {next : α → Py β}
    (isValue : outcome = .ok value)
    (rest : OnlyStripe (next value)) :
    OnlyStripe (.lift outcome >>= next) := by
  subst isValue
  exact rest

end OnlyStripe

/-- The requests fail in these ways at most. -/
def FailsOnly (outage : Nat → Option Failure) (possible : Failure → Prop) :
    Prop :=
  ∀ number failure, outage number = some failure → possible failure

/-- `_request` catches a failure. -/
def Failure.isCaught : Failure → Bool
  | .httpError _ => true
  | .urlError _ => true
  | _ => false

/-- What is caught is raised as an error of Stripe, and nothing else is. -/
theorem isStripe_raised (failure : Failure) :
    failure.raised.isStripe = failure.isCaught := by
  cases failure <;> rfl

section Requests

variable (caught : FailsOnly outage fun failure => failure.isCaught = true)

include caught

theorem onlyStripe_request : OnlyStripe (request outage) := by
  intro account error after ran
  rw [run_request] at ran
  cases failed : outage account.requests with
  | none =>
      rw [failed] at ran
      cases ran
  | some failure =>
      rw [failed] at ran
      cases ran
      exact (isStripe_raised failure).trans (caught _ failure failed)

theorem onlyStripe_listProducts : OnlyStripe (listProducts outage) := by
  intro account error after ran
  obtain ⟨requests, listed | ⟨number, failure, fails, failed⟩⟩ :=
    run_listProducts outage account
  · rw [listed] at ran
    cases ran
  · rw [failed] at ran
    cases ran
    exact (isStripe_raised failure).trans (caught number failure fails)

theorem onlyStripe_listPrices : OnlyStripe (listPrices outage) := by
  intro account error after ran
  obtain ⟨requests, listed | ⟨number, failure, fails, failed⟩⟩ :=
    run_listPrices outage account
  · rw [listed] at ran
    cases ran
  · rw [failed] at ran
    cases ran
    exact (isStripe_raised failure).trans (caught number failure fails)

theorem onlyStripe_takeProduct
    (encoded : ∃ value, encodeProduct name spec = .ok value) :
    OnlyStripe (takeProduct stripe outage apply products name spec) := by
  unfold takeProduct
  cases findProduct products name with
  | some product => exact .pure _
  | none =>
      cases apply with
      | false => exact .pure _
      | true =>
          obtain ⟨value, encoded⟩ := encoded
          obtain ⟨description, isDescription, sent⟩ :=
            bind_eq_ok_iff.mp encoded
          refine .lift_bind isDescription ?_
          refine OnlyStripe.bind ?_ fun product => .pure _
          refine .lift_bind sent ?_
          exact (onlyStripe_request caught).bind fun _ => .answer _

theorem onlyStripe_takePrice
    (encoded : urlencode [want.currency, want.interval] = .ok ()) :
    OnlyStripe (takePrice stripe outage apply product prices want) := by
  unfold takePrice
  cases product.bind fun product => findPrice prices product.id want with
  | some price => exact .pure _
  | none =>
      cases product with
      | none => exact .pure _
      | some product =>
          cases apply with
          | false => exact .pure _
          | true =>
              refine OnlyStripe.bind ?_ fun price => .pure _
              refine .lift_bind encoded ?_
              exact (onlyStripe_request caught).bind fun _ => .answer _

theorem onlyStripe_runPrices
    (isObject : spec.asDict.isSome)
    (good : ∀ raw ∈ raws, goodPrice raw = true)
    (sendable : ∀ raw ∈ raws, encodes (wantOf lower raw).currency = true ∧
      ((wantOf lower raw).amount.natAbs : Int) < moneyLimit) :
    OnlyStripe (runPrices stripe outage lower apply spec name product action raws
      prices) := by
  induction raws generalizing prices with
  | nil => exact .pure _
  | cons raw raws inductionHypothesis =>
      rw [List.forall_mem_cons] at good sendable
      have encoded := (@urlencode_of_good lower raw good.1).mpr sendable.1.1
      obtain ⟨app, isApp⟩ := get_of_object isObject "app"
      obtain ⟨amount, isAmount⟩ :=
        (@money_total_iff _ (wantOf lower raw).currency).mpr sendable.1.2
      refine OnlyStripe.bind ?_ fun result =>
        (inductionHypothesis good.2 sendable.2).bind fun _ => .pure _
      refine .lift_bind (normalise_of_good good.1) ?_
      refine (onlyStripe_takePrice caught encoded).bind fun taken => ?_
      exact .lift_bind isApp (.lift_bind isAmount (.pure _))

theorem onlyStripe_runSpecs
    (good : ∀ spec ∈ specs, GoodProduct spec)
    (sentProducts : ∀ spec ∈ specs,
      ∀ text ∈ sentTexts spec, encodes text = true)
    (sentPrices : ∀ spec ∈ specs, ∀ raw ∈ pricesOf spec,
      encodes (wantOf lower raw).currency = true ∧
        ((wantOf lower raw).amount.natAbs : Int) < moneyLimit) :
    OnlyStripe (runSpecs stripe outage lower apply specs products prices) := by
  induction specs generalizing products prices with
  | nil => exact .pure _
  | cons spec specs inductionHypothesis =>
      rw [List.forall_mem_cons] at good sentProducts sentPrices
      have encoded := (encodeProduct_of_good good.1).mpr sentProducts.1
      refine .lift_bind (item_name good.1) ?_
      refine (onlyStripe_takeProduct caught encoded).bind fun taken => ?_
      refine .lift_bind (item_prices good.1) ?_
      refine (onlyStripe_runPrices caught good.1.isDict good.1.prices
        sentPrices.1).bind fun result => ?_
      exact (inductionHypothesis good.2 sentProducts.2 sentPrices.2).bind
        fun more => .pure _

/-- A catalogue that can be sent is applied to any account without an error other
than Stripe's, if every failure is caught. -/
theorem onlyStripe_run
    {catalogue : PyValue}
    (acceptable : Acceptable catalogue)
    (sendable : Sendable lower catalogue) :
    OnlyStripe (run stripe outage lower apply catalogue) := by
  refine (onlyStripe_listProducts caught).bind fun products => ?_
  refine (onlyStripe_listPrices caught).bind fun prices => ?_
  refine .lift_bind (item_products acceptable) ?_
  exact onlyStripe_runSpecs caught acceptable.products sendable.products
    sendable.prices

end Requests

/-- What a run raises when its first request fails. -/
theorem isCaught_of_onlyStripe
    {catalogue : PyValue}
    {failure : Failure}
    (only : OnlyStripe
      (run default (fun _ => some failure) lower true catalogue)) :
    failure.isCaught = true := by
  rw [← isStripe_raised]
  exact only .empty failure.raised (Account.empty.sent 1) rfl

/-! ## What an application demands -/

section Demands

variable {α β : Type}

/-- A computation that raises errors of its own only, and returns under a
condition only. -/
def Demands (computation : Py α) (condition : Prop) (known : α → Prop) : Prop :=
  ∀ account outcome after, computation.run account = (outcome, after) →
    match outcome with
    | .error error => error.isStripe = false
    | .ok value => condition ∧ known value

theorem Demands.bind
    {first : Py α}
    {next : α → Py β}
    {condition conditionThen : Prop}
    {known : α → Prop}
    {knownThen : β → Prop}
    (demands : Demands first condition known)
    (rest : ∀ value, known value →
      Demands (next value) conditionThen knownThen) :
    Demands (first >>= next) (condition ∧ conditionThen) knownThen := by
  intro account outcome final ran
  rw [Py.run_bind] at ran
  cases first' : first.run account with
  | mk result after =>
      rw [first'] at ran
      have demanded := demands account result after first'
      cases result with
      | error error =>
          obtain ⟨rfl, rfl⟩ := Prod.mk.inj ran
          exact demanded
      | ok value =>
          obtain ⟨holds, knows⟩ := demanded
          have demandedThen := rest value knows after outcome final ran
          cases outcome with
          | error error => exact demandedThen
          | ok result => exact ⟨⟨holds, demandedThen.1⟩, demandedThen.2⟩

/-- What follows demands nothing. -/
theorem Demands.bind_true
    {first : Py α}
    {next : α → Py β}
    {condition : Prop}
    {known : α → Prop}
    {knownThen : β → Prop}
    (demands : Demands first condition known)
    (rest : ∀ value, known value → Demands (next value) True knownThen) :
    Demands (first >>= next) condition knownThen := by
  have both := demands.bind rest
  rwa [and_true] at both

theorem Demands.pure
    {value : α}
    {known : α → Prop}
    (knows : known value) :
    Demands (Pure.pure value : Py α) True known := by
  intro account outcome after ran
  obtain ⟨rfl, -⟩ := Prod.mk.inj ran
  exact ⟨trivial, knows⟩

theorem Demands.lift_bind
    {outcome : Except PyError α}
    {value : α}
    {next : α → Py β}
    {condition : Prop}
    {known : β → Prop}
    (isValue : outcome = .ok value)
    (rest : Demands (next value) condition known) :
    Demands (.lift outcome >>= next) condition known := by
  subst isValue
  exact rest

theorem Demands.imp
    {computation : Py α}
    {condition conditionToo : Prop}
    {known : α → Prop}
    (demands : Demands computation condition known)
    (implies : condition → conditionToo) :
    Demands computation conditionToo known := by
  intro account outcome after ran
  have demanded := demands account outcome after ran
  cases outcome with
  | error error => exact demanded
  | ok value => exact ⟨implies demanded.1, demanded.2⟩

end Demands

theorem urlencode_cases (texts : List PyString) :
    urlencode texts = .ok () ∨
      urlencode texts = .error .unicodeEncodeError := by
  unfold urlencode
  split
  · exact .inl rfl
  · exact .inr rfl

/-- A product that is not there must be created, so its texts must be sent. -/
theorem demands_takeProduct
    (good : GoodProduct spec)
    (absent : findProduct products (nameOf spec) = none) :
    Demands (takeProduct stripe noOutage true products (nameOf spec) spec)
      (∀ text ∈ sentTexts spec, encodes text = true)
      (fun taken => taken.1.isSome = true ∧ ∀ other, other ≠ nameOf spec →
        findProduct taken.2.2 other = findProduct products other) := by
  intro account outcome after ran
  rw [run_takeProduct_of_none absent] at ran
  rw [← encodeProduct_of_good good]
  cases encoded : encodeProduct (nameOf spec) spec with
  | error error =>
      rw [encoded] at ran
      obtain ⟨rfl, -⟩ := Prod.mk.inj ran
      obtain ⟨description, isDescription⟩ :=
        get_of_object good.isDict "description"
      rw [encodeProduct, isDescription] at encoded
      rcases urlencode_cases _ with sent | failed
      · exact absurd (sent.symm.trans encoded) (by simp)
      · rw [Except.error.inj (encoded.symm.trans failed)]
        rfl
  | ok value =>
      rw [encoded] at ran
      obtain ⟨rfl, -⟩ := Prod.mk.inj ran
      refine ⟨⟨value, rfl⟩, rfl, fun other differs => ?_⟩
      simp [findProduct_append absent, differs.symm]

/-- A price is there with its currency, or must be created. -/
theorem demands_takePrice
    (good : goodPrice raw = true)
    (taken : product.isSome = true)
    (sent : ∀ price ∈ prices, encodes price.currency = true) :
    Demands (takePrice stripe noOutage true product prices (wantOf lower raw))
      (encodes (wantOf lower raw).currency = true)
      (fun taken => ∀ price ∈ taken.2.2, encodes price.currency = true) := by
  obtain ⟨product, rfl⟩ := Option.isSome_iff_exists.mp taken
  intro account outcome after ran
  cases found : findPrice prices product.id (wantOf lower raw) with
  | some price =>
      obtain ⟨present, -, bills⟩ := product_of_findPrice found
      simp only [takePrice, Option.bind_some, found] at ran
      obtain ⟨rfl, -⟩ := Prod.mk.inj ran
      simp only [Price.bills, Bool.and_eq_true, decide_eq_true_eq] at bills
      exact ⟨bills.1.2 ▸ sent price present, sent⟩
  | none =>
      rw [run_takePrice_of_none found] at ran
      rcases urlencode_cases [(wantOf lower raw).currency,
        (wantOf lower raw).interval] with encoded | failed
      · rw [encoded] at ran
        obtain ⟨rfl, -⟩ := Prod.mk.inj ran
        have encodesIt := (urlencode_of_good good).mp encoded
        refine ⟨encodesIt, fun price present => ?_⟩
        rcases List.mem_append.mp present with present | present
        · exact sent price present
        · rw [List.mem_singleton.mp present]
          exact encodesIt
      · rw [failed] at ran
        obtain ⟨rfl, -⟩ := Prod.mk.inj ran
        rfl

theorem demands_money {amount : Int} {currency : PyString} :
    Demands (.lift (money amount currency))
      ((amount.natAbs : Int) < moneyLimit) (fun _ => True) := by
  intro account outcome after ran
  rw [← @money_total_iff _ currency]
  obtain ⟨rfl, -⟩ := Prod.mk.inj ran
  cases paid : money amount currency with
  | error error =>
      unfold money at paid
      split at paid
      · rw [← Except.error.inj paid]
        rfl
      · cases paid
  | ok value => exact ⟨⟨value, rfl⟩, trivial⟩

theorem demands_runPrices
    (isObject : spec.asDict.isSome)
    (good : ∀ raw ∈ raws, goodPrice raw = true)
    (taken : product.isSome = true)
    (sent : ∀ price ∈ prices, encodes price.currency = true) :
    Demands (runPrices stripe noOutage lower true spec name product action raws
        prices)
      (∀ raw ∈ raws, encodes (wantOf lower raw).currency = true ∧
        ((wantOf lower raw).amount.natAbs : Int) < moneyLimit)
      (fun result => ∀ price ∈ result.2, encodes price.currency = true) := by
  induction raws generalizing prices with
  | nil => exact (Demands.pure sent).imp (by simp)
  | cons raw raws inductionHypothesis =>
      rw [List.forall_mem_cons] at good ⊢
      obtain ⟨app, isApp⟩ := get_of_object isObject "app"
      have first : Demands (runPrice stripe noOutage lower true spec name product
          action prices raw)
          (encodes (wantOf lower raw).currency = true ∧
            ((wantOf lower raw).amount.natAbs : Int) < moneyLimit)
          (fun result => ∀ price ∈ result.2, encodes price.currency = true) := by
        refine .lift_bind (normalise_of_good good.1) ?_
        refine (demands_takePrice good.1 taken sent).bind ?_
        rintro ⟨price, priceAction, pricesThen⟩ sentThen
        refine .lift_bind isApp ?_
        exact demands_money.bind_true fun amount _ => .pure sentThen
      refine first.bind ?_
      rintro ⟨row, pricesThen⟩ sentThen
      refine (inductionHypothesis good.2 sentThen).bind_true ?_
      rintro ⟨rows, pricesLast⟩ sentLast
      exact .pure sentLast

/-- Applied where none of its products is there, a catalogue must be sent. -/
theorem demands_runSpecs
    (good : ∀ spec ∈ specs, GoodProduct spec)
    (namesDiffer : (specs.map nameOf).Nodup)
    (absent : ∀ spec ∈ specs, findProduct products (nameOf spec) = none)
    (sent : ∀ price ∈ prices, encodes price.currency = true) :
    Demands (runSpecs stripe noOutage lower true specs products prices)
      (∀ spec ∈ specs, (∀ text ∈ sentTexts spec, encodes text = true) ∧
        ∀ raw ∈ pricesOf spec, encodes (wantOf lower raw).currency = true ∧
          ((wantOf lower raw).amount.natAbs : Int) < moneyLimit)
      (fun _ => True) := by
  induction specs generalizing products prices with
  | nil => exact (Demands.pure trivial).imp (by simp)
  | cons spec specs inductionHypothesis =>
      rw [List.map_cons, List.nodup_cons] at namesDiffer
      rw [List.forall_mem_cons] at good absent ⊢
      rw [and_assoc]
      refine .lift_bind (item_name good.1) ?_
      refine (demands_takeProduct good.1 absent.1).bind ?_
      rintro ⟨product, action, productsThen⟩ ⟨taken, others⟩
      refine .lift_bind (item_prices good.1) ?_
      refine (demands_runPrices good.1.isDict good.1.prices taken sent).bind ?_
      rintro ⟨rows, pricesThen⟩ sentThen
      have absentThen : ∀ other ∈ specs,
          findProduct productsThen (nameOf other) = none := by
        intro other present
        rw [others _ fun same =>
          namesDiffer.1 (List.mem_map.mpr ⟨other, present, same⟩)]
        exact absent.2 other present
      exact (inductionHypothesis good.2 namesDiffer.2 absentThen
        sentThen).bind_true fun _ _ => .pure trivial

/-- What is applied to an empty account without an error can be sent. -/
theorem sendable_of_onlyStripe
    {catalogue : PyValue}
    (acceptable : Acceptable catalogue)
    (only : OnlyStripe (run default noOutage lower true catalogue)) :
    Sendable lower catalogue := by
  obtain ⟨requests, ran⟩ := run_run default lower true catalogue .empty
  rw [runListed_of_acceptable acceptable] at ran
  have demands := @demands_runSpecs default lower _ [] [] acceptable.products
    acceptable.namesDiffer (fun _ _ => rfl) (by simp)
  cases outcome : (run default noOutage lower true catalogue).run .empty with
  | mk result after =>
      have demanded := demands _ result after (ran.symm.trans outcome)
      cases result with
      | error error =>
          have isStripe := only .empty error after outcome
          exact absurd (isStripe.symm.trans demanded) (by decide)
      | ok rows =>
          exact ⟨fun spec present => (demanded.1 spec present).1,
            fun spec present => (demanded.1 spec present).2⟩

/-! ## Validation is total and sufficient -/

/-- Validation returns; and a run of what it accepts raises nothing but Stripe's
errors, whatever is listed, whichever requests fail in the ways that are possible
and whether or not it applies the catalogue. -/
def Validated (lower : PyString → PyString) (possible : Failure → Prop)
    (catalogue : PyValue) : Prop :=
  (∃ problems, validate catalogue = .ok problems) ∧
    (validate catalogue = .ok [] → ∀ stripe outage apply,
      FailsOnly outage possible →
        OnlyStripe (run stripe outage lower apply catalogue))

/-- Validation is total and sufficient for a catalogue, if and only if the
catalogue has the shape that is taken for granted, and if it is accepted, can be
sent and requests fail in no way but those that are caught. -/
theorem validated_iff
    (lower : PyString → PyString)
    (possible : Failure → Prop)
    (catalogue : PyValue) :
    Validated lower possible catalogue ↔
      shaped catalogue = true ∧
        (Acceptable catalogue → Sendable lower catalogue ∧
          ∀ failure, possible failure → failure.isCaught = true) := by
  unfold Validated
  rw [validate_total_iff, validate_eq_nil_iff]
  refine and_congr_right fun _ => forall_congr' fun acceptable => ?_
  constructor
  · intro only
    refine ⟨?_, fun failure isPossible => ?_⟩
    · apply sendable_of_onlyStripe acceptable
      exact only default noOutage true fun _ _ failed => nomatch failed
    · have onlyThis : FailsOnly (fun _ => some failure) possible := by
        intro number other failed
        exact Option.some.inj failed ▸ isPossible
      exact isCaught_of_onlyStripe (only default _ true onlyThis)
  · rintro ⟨sendable, allCaught⟩ stripe outage apply failsOnly
    exact onlyStripe_run
      (fun number failure failed => allCaught _ (failsOnly number _ failed))
      acceptable sendable

/-- A price whose interval is a list of one. -/
def listInterval : PyValue :=
  .dict [(ofText "products", .list [.dict [
    (ofText "name", .str (ofText "DocketMail")),
    (ofText "prices", .list [.dict [
      (ofText "tier", .str (ofText "standard")),
      (ofText "amount", .int 1000),
      (ofText "interval", .list [.str (ofText "month")])]])]])]

/-- A list cannot be looked for in a set; and a plan without problems is not
applied when an answer does not come in time. -/
theorem listInterval_not_validated :
    ¬Validated id (fun failure => failure.isCaught = true) listInterval ∧
      ¬Validated id (fun failure => failure = .timedOut) standardPlan := by
  constructor
  · rintro ⟨⟨problems, returned⟩, -⟩
    have raised : validate listInterval = .error .typeError := rfl
    rw [raised] at returned
    cases returned
  · rintro ⟨-, sufficient⟩
    have only := sufficient standardPlan_accepted default
      (fun _ => some .timedOut) true
      fun _ _ failed => (Option.some.inj failed).symm
    exact absurd (isCaught_of_onlyStripe only) (by decide)

end StripeCatalogue
end EvoPlatform
