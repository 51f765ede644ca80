import EvoPlatform.StripeCatalogue.Run

/-!
# Applying a catalogue twice

A run that applies a catalogue keeps what it knows in lists of its own, to which
it appends what it creates; Stripe lists new objects wherever it likes.  Both
always find the same, and what has been found once is found ever after.  So a
second run finds all that the first one found or created.
-/

namespace EvoPlatform
namespace StripeCatalogue

/-! ## Finding in a list that has grown -/

section Grown

variable {α : Type} {new : α} {listed : List α} {searched : α → Bool}

/-- What is not searched for may be listed anywhere. -/
theorem find?_insertAt_of_neg
    (place : Nat)
    (other : searched new = false) :
    (insertAt place new listed).find? searched = listed.find? searched := by
  rw [insertAt, List.find?_append, List.find?_cons, other,
    ← List.find?_append, List.take_append_drop]

/-- What is searched for, and was not there, is found wherever it is listed. -/
theorem find?_insertAt_of_none
    (place : Nat)
    (absent : listed.find? searched = none)
    (found : searched new = true) :
    (insertAt place new listed).find? searched = some new := by
  rw [← List.take_append_drop place listed, List.find?_append,
    Option.or_eq_none_iff] at absent
  rw [insertAt, List.find?_append, absent.1, List.find?_cons, found]
  rfl

/-- What was there is found before what is appended. -/
theorem find?_append_singleton :
    (listed ++ [new]).find? searched =
      (listed.find? searched).or (if searched new then some new else none) := by
  rw [List.find?_append, List.find?_cons]
  cases searched new with
  | false => rfl
  | true => rfl

end Grown

/-! ## What is known, and what stays found -/

/-- The lists of a run find what those of the account find. -/
structure Known (products : List Product) (prices : List Price)
    (account : Account) : Prop where
  products : ∀ name,
    findProduct products name = findProduct account.products name
  prices : ∀ productId want,
    (findPrice prices productId want).map Price.id =
      (findPrice account.prices productId want).map Price.id

/-- What is found in an account is found later. -/
structure Keeps (before later : Account) : Prop where
  products : ∀ name product,
    findProduct before.products name = some product →
      findProduct later.products name = some product
  prices : ∀ productId want id,
    (findPrice before.prices productId want).map Price.id = some id →
      (findPrice later.prices productId want).map Price.id = some id

theorem Keeps.refl (account : Account) : Keeps account account :=
  ⟨fun _ _ found => found, fun _ _ _ found => found⟩

theorem Keeps.trans
    {first second third : Account}
    (early : Keeps first second)
    (late : Keeps second third) :
    Keeps first third where
  products := fun name product found =>
    late.products name product (early.products name product found)
  prices := fun productId want id found =>
    late.prices productId want id (early.prices productId want id found)

variable {products : List Product} {prices : List Price} {account : Account}

/-- Two wants that are billed alike. -/
def SameBilling (left right : Want) : Prop :=
  left.amount = right.amount ∧ left.currency = right.currency ∧
    left.interval = right.interval ∧ left.intervalCount = right.intervalCount

theorem orOne_of_ne_zero
    {count : Int}
    (nonzero : count ≠ 0) :
    orOne (some count) = count := by
  simp [orOne, nonzero]

/-- A price bills wants that are billed alike, or neither. -/
theorem findPrice_congr
    {left right : Want}
    (same : SameBilling left right)
    (prices : List Price)
    (productId : String) :
    findPrice prices productId left = findPrice prices productId right := by
  obtain ⟨amount, currency, interval, count⟩ := same
  unfold findPrice Price.bills
  rw [amount, currency, interval, count]

/-- A price that was created for a want bills exactly the wants that are billed
like it. -/
theorem matches_price_iff
    {ref : ProductRef}
    {id other : String}
    {want wanted : Want}
    (counted : want.intervalCount ≠ 0) :
    (decide ((want.price id ref).product.id = other) &&
        (want.price id ref).bills wanted) = true ↔
      ref.id = other ∧ SameBilling want wanted := by
  simp only [Price.bills, Bool.and_eq_true, decide_eq_true_eq]
  simp only [Want.price, SameBilling, orOne_of_ne_zero counted,
    Option.any_some, Bool.and_eq_true, decide_eq_true_eq, Option.some.injEq,
    and_assoc]

variable {stripe : Stripe}

/-- A new product is known, and what was found stays found. -/
theorem known_addProduct
    {name : PyString}
    (known : Known products prices account)
    (absent : findProduct products name = none) :
    Known (products ++ [⟨stripe.newId account.ids, name⟩]) prices
        (account.addProduct stripe name) ∧
      Keeps account (account.addProduct stripe name) := by
  have absentThere := (known.products name).symm.trans absent
  have found : ∀ other, findProduct (account.addProduct stripe name).products
      other = (findProduct account.products other).or
        (if name = other then some ⟨stripe.newId account.ids, name⟩
          else none) := by
    intro other
    by_cases same : name = other
    · subst same
      rw [absentThere, if_pos rfl]
      exact find?_insertAt_of_none _ absentThere (decide_eq_true rfl)
    · rw [if_neg same, Option.or_none]
      exact find?_insertAt_of_neg _ (decide_eq_false same)
  refine ⟨⟨fun other => ?_, known.prices⟩, fun other product there => ?_,
    fun _ _ _ there => there⟩
  · rw [found, ← known.products, findProduct, find?_append_singleton]
    simp [findProduct]
  · rw [found, there]
    rfl

/-- A new price is known, and what was found stays found. -/
theorem known_addPrice
    {ref : ProductRef}
    {want : Want}
    (known : Known products prices account)
    (counted : want.intervalCount ≠ 0)
    (absent : findPrice prices ref.id want = none) :
    Known products (prices ++ [want.price (stripe.newId account.ids) ref])
        (account.addPrice stripe ref.id want) ∧
      Keeps account (account.addPrice stripe ref.id want) := by
  have absentThere : findPrice account.prices ref.id want = none := by
    have none := (known.prices ref.id want).symm
    rw [absent, Option.map_none, Option.map_eq_none_iff] at none
    exact none
  have found : ∀ other wanted,
      (findPrice (account.addPrice stripe ref.id want).prices other
        wanted).map Price.id =
      ((findPrice account.prices other wanted).map Price.id).or
        (if decide ((want.price (stripe.newId account.ids) ref).product.id =
            other) &&
            (want.price (stripe.newId account.ids) ref).bills wanted then
          some (stripe.newId account.ids) else none) := by
    intro other wanted
    by_cases same : ref.id = other ∧ SameBilling want wanted
    · obtain ⟨rfl, alike⟩ := same
      have none : findPrice account.prices ref.id wanted = none :=
        findPrice_congr alike _ _ ▸ absentThere
      have stored : (decide ((want.price (stripe.newId account.ids)
          (.expanded ref.id)).product.id = ref.id) &&
          (want.price (stripe.newId account.ids)
            (.expanded ref.id)).bills wanted) = true :=
        (matches_price_iff counted).mpr ⟨rfl, alike⟩
      rw [none, if_pos ((matches_price_iff counted).mpr ⟨rfl, alike⟩),
        findPrice, Account.addPrice, find?_insertAt_of_none _ none stored]
      rfl
    · rw [if_neg fun matched => same ((matches_price_iff counted).mp matched),
        Option.or_none, findPrice, Account.addPrice, find?_insertAt_of_neg]
      · rfl
      · exact Bool.eq_false_iff.mpr fun matched =>
          same ((@matches_price_iff (.expanded ref.id) _ _ _ _ counted).mp
            matched)
  refine ⟨⟨known.products, fun other wanted => ?_⟩,
    ⟨fun _ _ there => there, fun other wanted id there => ?_⟩⟩
  · rw [found, ← known.prices, findPrice, find?_append_singleton]
    simp only [findPrice]
    split
    · cases prices.find? _ with
      | none => rfl
      | some old => rfl
    · cases prices.find? _ with
      | none => rfl
      | some old => rfl
  · rw [found, there]
    rfl

theorem Known.sent
    (known : Known products prices account)
    (requests : Nat) :
    Known products prices (account.sent requests) :=
  ⟨known.products, known.prices⟩

theorem Keeps.of_sent
    {later : Account}
    {requests : Nat}
    (keeps : Keeps (account.sent requests) later) :
    Keeps account later :=
  ⟨keeps.products, keeps.prices⟩

/-! ## Running on, and running again -/

/-- Stripe answers every request. -/
def noOutage : Nat → Option Failure := fun _ => none

section Computations

variable {α β γ δ : Type}

/-- What was found stays found, and what is known then is known. -/
def Grows (computation : Py α) (known : α → Account → Prop)
    (account : Account) : Prop :=
  Keeps account (computation.run account).2 ∧
    ∀ value after, computation.run account = (.ok value, after) →
      known value after

theorem Grows.keeps
    {computation : Py α}
    {known : α → Account → Prop}
    (grows : Grows computation known account)
    {outcome : Except PyError α}
    {after : Account}
    (ran : computation.run account = (outcome, after)) :
    Keeps account after := by
  have keeps := grows.1
  rwa [ran] at keeps

theorem Grows.bind
    {first : Py α}
    {next : α → Py β}
    {known : α → Account → Prop}
    {knownThen : β → Account → Prop}
    (grows : Grows first known account)
    (rest : ∀ value after, first.run account = (.ok value, after) →
      known value after → Grows (next value) knownThen after) :
    Grows (first >>= next) knownThen account := by
  unfold Grows
  rw [Py.run_bind]
  cases ran : first.run account with
  | mk outcome after =>
      have keeps := grows.keeps ran
      cases outcome with
      | error error => exact ⟨keeps, fun _ _ same => by cases same⟩
      | ok value =>
          obtain ⟨keepsOn, knowsOn⟩ := rest value after ran (grows.2 _ _ ran)
          exact ⟨keeps.trans keepsOn, knowsOn⟩

/-- What was found stays found in both parts. -/
theorem Grows.keeps_bind
    {first : Py α}
    {next : α → Py β}
    {known : α → Account → Prop}
    (grows : Grows first known account)
    (rest : ∀ value after, known value after →
      Keeps after ((next value).run after).2) :
    Keeps account ((first >>= next).run account).2 := by
  have both : Grows (first >>= next) (fun _ _ => True) account :=
    grows.bind fun value after _ knows =>
      ⟨rest value after knows, fun _ _ _ => trivial⟩
  exact both.1

/-- A part that does not touch the account. -/
theorem Grows.lift (outcome : Except PyError α) :
    Grows (.lift outcome) (fun value after =>
      outcome = .ok value ∧ after = account) account := by
  refine ⟨Keeps.refl account, fun value after same => ?_⟩
  obtain ⟨rfl, rfl⟩ := Prod.mk.inj same
  exact ⟨rfl, rfl⟩

/-- What was found stays found after a part that does not touch the account. -/
theorem keeps_lift_bind
    {outcome : Except PyError α}
    {next : α → Py β}
    (rest : ∀ value, Keeps account ((next value).run account).2) :
    Keeps account ((Py.lift outcome >>= next).run account).2 := by
  refine (Grows.lift outcome).keeps_bind fun value after unchanged => ?_
  rw [unchanged.2]
  exact rest value

theorem Grows.pure
    {value : α}
    {known : α → Account → Prop}
    (knows : known value account) :
    Grows (Pure.pure value) known account := by
  refine ⟨Keeps.refl account, fun other after same => ?_⟩
  obtain ⟨isValue, rfl⟩ := Prod.mk.inj same
  exact Except.ok.inj isValue ▸ knows

/-- Where the last account has all that a computation has found, another one
does the same without touching the account; and it raises what the first one
raises, if that was the last that happened. -/
def Repeats (last : Account) (computation : Py α) (again : Py β)
    (same : α → β → Prop) (account : Account) : Prop :=
  (∀ value after, computation.run account = (.ok value, after) →
    Keeps after last →
      ∀ other, ∃ value', again.run other = (.ok value', other) ∧
        same value value') ∧
  ∀ error, computation.run account = (.error error, last) →
    ∀ other, again.run other = (.error error, other)

theorem Repeats.bind
    {last : Account}
    {first : Py α}
    {again : Py β}
    {next : α → Py γ}
    {nextAgain : β → Py δ}
    {same : α → β → Prop}
    {sameThen : γ → δ → Prop}
    (repeats : Repeats last first again same account)
    (grows : ∀ value after, first.run account = (.ok value, after) →
      Keeps after ((next value).run after).2)
    (rest : ∀ value after value', first.run account = (.ok value, after) →
      same value value' →
        Repeats last (next value) (nextAgain value') sameThen after) :
    Repeats last (first >>= next) (again >>= nextAgain) sameThen account := by
  constructor
  · intro result final ran keeps other
    rw [Py.run_bind] at ran
    cases outcome : first.run account with
    | mk outcome' after =>
        rw [outcome] at ran
        cases outcome' with
        | error error => cases ran
        | ok value =>
            have keepsOn := grows value after outcome
            simp only at ran
            rw [ran] at keepsOn
            obtain ⟨value', ranAgain, alike⟩ :=
              repeats.1 value after outcome (keepsOn.trans keeps) other
            obtain ⟨result', ranOn, alikeThen⟩ :=
              (rest value after value' outcome alike).1 result final ran keeps
                other
            refine ⟨result', ?_, alikeThen⟩
            rw [Py.run_bind, ranAgain]
            exact ranOn
  · intro error ran other
    rw [Py.run_bind] at ran
    cases outcome : first.run account with
    | mk outcome' after =>
        rw [outcome] at ran
        cases outcome' with
        | error raised =>
            obtain ⟨sameError, rfl⟩ := Prod.mk.inj ran
            obtain rfl := Except.error.inj sameError
            rw [Py.run_bind, repeats.2 raised outcome other]
        | ok value =>
            have keepsOn := grows value after outcome
            simp only at ran
            rw [ran] at keepsOn
            obtain ⟨value', ranAgain, alike⟩ :=
              repeats.1 value after outcome keepsOn other
            rw [Py.run_bind, ranAgain]
            exact (rest value after value' outcome alike).2 error ran other

/-- A part that does not touch the account does the same again. -/
theorem Repeats.lift {last : Account} (outcome : Except PyError α) :
    Repeats last (.lift outcome) (.lift outcome)
      (fun value value' => outcome = .ok value ∧ value' = value) account := by
  constructor
  · intro value after ran _ other
    obtain ⟨rfl, -⟩ := Prod.mk.inj ran
    exact ⟨value, rfl, rfl, rfl⟩
  · intro error ran other
    obtain ⟨rfl, -⟩ := Prod.mk.inj ran
    rfl

theorem Repeats.pure
    {last : Account}
    {value : α}
    {value' : β}
    {same : α → β → Prop}
    (alike : same value value') :
    Repeats last (Pure.pure value) (Pure.pure value') same account := by
  constructor
  · intro other after ran _ account'
    obtain ⟨isValue, -⟩ := Prod.mk.inj ran
    exact ⟨value', rfl, Except.ok.inj isValue ▸ alike⟩
  · intro error ran
    cases ran

end Computations

/-! ## Each part of a run -/

theorem run_createProduct {name : PyString} {description : Option PyValue} :
    (createProduct stripe noOutage name description).run account =
      match urlencode (name ::
        (description.filter PyValue.truthy).elim [] PyValue.formTexts) with
      | .error error => (.error error, account)
      | .ok _ => (.ok ⟨stripe.newId account.ids, name⟩,
          (account.sent (account.requests + 1)).addProduct stripe name) := by
  rw [createProduct, Py.run_bind, Py.run_lift]
  cases urlencode (name ::
    (description.filter PyValue.truthy).elim [] PyValue.formTexts) with
  | error error => rfl
  | ok value => rfl

theorem run_createPrice {product : Product} {want : Want} :
    (createPrice stripe noOutage product want).run account =
      match urlencode [want.currency, want.interval] with
      | .error error => (.error error, account)
      | .ok _ =>
          (.ok (want.price (stripe.newId account.ids) (.plain product.id)),
            (account.sent (account.requests + 1)).addPrice stripe product.id
              want) := by
  rw [createPrice, Py.run_bind, Py.run_lift]
  cases urlencode [want.currency, want.interval] with
  | error error => rfl
  | ok value => rfl

variable {spec : PyValue} {name : PyString}

/-- What is sent of a product that is not there, if its entry can be read. -/
def encodeProduct (name : PyString) (spec : PyValue) : Except PyError Unit := do
  let description ← spec.get "description"
  urlencode (name ::
    (description.filter PyValue.truthy).elim [] PyValue.formTexts)

theorem run_takeProduct_of_none (absent : findProduct products name = none) :
    (takeProduct stripe noOutage true products name spec).run account =
      match encodeProduct name spec with
      | .error error => (.error error, account)
      | .ok _ =>
          (.ok (some ⟨stripe.newId account.ids, name⟩, .created,
              products ++ [⟨stripe.newId account.ids, name⟩]),
            (account.sent (account.requests + 1)).addProduct stripe name) := by
  simp only [takeProduct, absent, if_true, encodeProduct]
  rw [Py.run_bind, Py.run_lift]
  cases spec.get "description" with
  | error error => rfl
  | ok description =>
      simp only
      rw [Py.run_bind, run_createProduct]
      cases encoded : urlencode (name ::
        (description.filter PyValue.truthy).elim [] PyValue.formTexts) with
      | error error => simp [bind, Except.bind, encoded]
      | ok value =>
          simp [bind, Except.bind, encoded]

theorem grows_takeProduct (known : Known products prices account) :
    Grows (takeProduct stripe noOutage true products name spec)
      (fun taken after => Known taken.2.2 prices after ∧
        ∃ product, taken.1 = some product ∧
          findProduct after.products name = some product) account := by
  cases found : findProduct products name with
  | some product =>
      simp only [takeProduct, found]
      exact .pure ⟨known, product, rfl, (known.products name).symm.trans found⟩
  | none =>
      unfold Grows
      rw [run_takeProduct_of_none found]
      cases encodeProduct name spec with
      | error error => exact ⟨.refl _, fun _ _ ran => by cases ran⟩
      | ok value =>
          obtain ⟨knownThen, keeps⟩ := @known_addProduct _ _ _ stripe _
            (known.sent (account.requests + 1)) found
          refine ⟨keeps.of_sent, fun taken final ran => ?_⟩
          obtain ⟨isTaken, rfl⟩ := Prod.mk.inj ran
          obtain rfl := Except.ok.inj isTaken
          refine ⟨knownThen, _, rfl, ?_⟩
          have absent : products.find? (fun product => product.name = name) =
              none := found
          rw [← knownThen.products, findProduct, find?_append_singleton, absent,
            Option.none_or]
          exact if_pos (decide_eq_true rfl)

/-- A second run finds the product. -/
theorem repeats_takeProduct
    {last : Account}
    (known : Known products prices account) :
    Repeats last (takeProduct stripe noOutage true products name spec)
      (takeProduct stripe noOutage true last.products name spec)
      (fun taken again => taken.1 = again.1 ∧ again.2.2 = last.products)
      account := by
  constructor
  · intro taken after ran keeps other
    obtain ⟨-, product, isTaken, there⟩ :=
      (grows_takeProduct known).2 taken after ran
    refine ⟨(some product, .present, last.products), ?_, isTaken, rfl⟩
    simp only [takeProduct, keeps.products name product there]
    rfl
  · intro error ran other
    cases found : findProduct products name with
    | some product =>
        simp only [takeProduct, found] at ran
        cases ran
    | none =>
        rw [run_takeProduct_of_none found] at ran
        cases encoded : encodeProduct name spec with
        | ok value =>
            rw [encoded] at ran
            cases ran
        | error raised =>
            rw [encoded] at ran
            obtain ⟨sameError, rfl⟩ := Prod.mk.inj ran
            rw [run_takeProduct_of_none
              ((known.products name).symm.trans found), encoded]
            exact congrArg (·, other) sameError

variable {product : Product} {want : Want}

theorem run_takePrice_of_none
    (absent : findPrice prices product.id want = none) :
    (takePrice stripe noOutage true (some product) prices want).run account =
      match urlencode [want.currency, want.interval] with
      | .error error => (.error error, account)
      | .ok _ =>
          (.ok (some (want.price (stripe.newId account.ids)
              (.plain product.id)), .created,
              prices ++ [want.price (stripe.newId account.ids)
                (.plain product.id)]),
            (account.sent (account.requests + 1)).addPrice stripe product.id
              want) := by
  simp only [takePrice, Option.bind_some, absent, if_true]
  rw [Py.run_bind, run_createPrice]
  cases urlencode [want.currency, want.interval] with
  | error error => rfl
  | ok value => rfl

theorem grows_takePrice
    (known : Known products prices account)
    (counted : want.intervalCount ≠ 0) :
    Grows (takePrice stripe noOutage true (some product) prices want)
      (fun taken after => Known products taken.2.2 after ∧
        ∃ id, taken.1.map Price.id = some id ∧
          (findPrice after.prices product.id want).map Price.id = some id)
      account := by
  cases found : findPrice prices product.id want with
  | some price =>
      simp only [takePrice, Option.bind_some, found]
      refine .pure ⟨known, price.id, rfl, ?_⟩
      rw [← known.prices, found]
      rfl
  | none =>
      unfold Grows
      rw [run_takePrice_of_none found]
      cases urlencode [want.currency, want.interval] with
      | error error => exact ⟨.refl _, fun _ _ ran => by cases ran⟩
      | ok value =>
          obtain ⟨knownThen, keeps⟩ := @known_addPrice _ _ _ stripe
            (.plain product.id) _ (known.sent (account.requests + 1)) counted
            found
          refine ⟨keeps.of_sent, fun taken final ran => ?_⟩
          obtain ⟨isTaken, rfl⟩ := Prod.mk.inj ran
          obtain rfl := Except.ok.inj isTaken
          refine ⟨knownThen, _, rfl, ?_⟩
          have absent : prices.find? (fun price =>
              decide (price.product.id = product.id) && price.bills want) =
              none := found
          have isIt := (@matches_price_iff (.plain product.id)
            (stripe.newId (account.sent (account.requests + 1)).ids)
            product.id want want counted).mpr ⟨rfl, rfl, rfl, rfl, rfl⟩
          have there := knownThen.prices product.id want
          rw [findPrice, find?_append_singleton, absent, Option.none_or,
            if_pos isIt] at there
          exact there.symm

/-- A second run finds the price. -/
theorem repeats_takePrice
    {last : Account}
    (known : Known products prices account)
    (counted : want.intervalCount ≠ 0) :
    Repeats last (takePrice stripe noOutage true (some product) prices want)
      (takePrice stripe noOutage true (some product) last.prices want)
      (fun taken again => taken.1.map Price.id = again.1.map Price.id ∧
        again.2.2 = last.prices) account := by
  constructor
  · intro taken after ran keeps other
    obtain ⟨-, id, isTaken, there⟩ :=
      (grows_takePrice known counted).2 taken after ran
    have found := keeps.prices product.id want id there
    obtain ⟨price, isPrice, rfl⟩ := Option.map_eq_some_iff.mp found
    refine ⟨(some price, .present, last.prices), ?_, isTaken, rfl⟩
    simp only [takePrice, Option.bind_some, isPrice]
    rfl
  · intro error ran other
    cases found : findPrice prices product.id want with
    | some price =>
        simp only [takePrice, Option.bind_some, found] at ran
        cases ran
    | none =>
        rw [run_takePrice_of_none found] at ran
        cases encoded : urlencode [want.currency, want.interval] with
        | ok value =>
            rw [encoded] at ran
            cases ran
        | error raised =>
            rw [encoded] at ran
            obtain ⟨sameError, rfl⟩ := Prod.mk.inj ran
            have absent : findPrice account.prices product.id want = none := by
              have none := (known.prices product.id want).symm
              rw [found, Option.map_none, Option.map_eq_none_iff] at none
              exact none
            rw [run_takePrice_of_none absent, encoded]
            exact congrArg (·, other) sameError

/-! ## The loops -/

variable {lower : PyString → PyString} {action again : Action}

/-- What a row prints of its product and its price. -/
def Row.ids (row : Row) : String × String := (row.productId, row.priceId)

/-- The price of a row is what is found for its product. -/
structure Row.PricedFor (row : Row) (name : PyString) (product : Product)
    (account : Account) : Prop where
  isName : row.product = name
  isProduct : row.productId = product.id
  isPrice : (findPrice account.prices product.id row.want).map Price.id =
    some row.priceId

theorem Row.PricedFor.keep
    {row : Row}
    {name : PyString}
    {product : Product}
    {later : Account}
    (priced : row.PricedFor name product account)
    (keeps : Keeps account later) :
    row.PricedFor name product later :=
  { priced with isPrice := keeps.prices _ _ _ priced.isPrice }

/-- The ids of a row are those of what is found for it. -/
def Row.Printed (row : Row) (account : Account) : Prop :=
  ∃ product, findProduct account.products row.product = some product ∧
    row.PricedFor row.product product account

theorem Row.Printed.keep
    {row : Row}
    {later : Account}
    (printed : row.Printed account)
    (keeps : Keeps account later) :
    row.Printed later := by
  obtain ⟨product, there, priced⟩ := printed
  exact ⟨product, keeps.products _ _ there, priced.keep keeps⟩

/-- What a row is about. -/
def Row.asked (row : Row) : PyString × Want := (row.product, row.want)

/-- The rows that an entry of the catalogue asks for. -/
def entriesOf (lower : PyString → PyString) (spec : PyValue) :
    List (PyString × Want) :=
  (pricesOf spec).map fun raw => (nameOf spec, wantOf lower raw)

/-- A want of the catalogue has a count that Stripe keeps. -/
theorem want_of_good
    {raw : PyValue}
    {want : Want}
    (good : goodPrice raw = true)
    (isWant : normalise lower raw = .ok want) :
    want = wantOf lower raw ∧ want.intervalCount ≠ 0 := by
  obtain rfl := Except.ok.inj ((normalise_of_good good).symm.trans isWant)
  have positive := @intervalCount_of_good lower raw good
  exact ⟨rfl, by omega⟩

variable {raw : PyValue} {raws specs : List PyValue}

theorem grows_runPrice
    (known : Known products prices account)
    (good : goodPrice raw = true) :
    Grows (runPrice stripe noOutage lower true spec name (some product) action
        prices raw)
      (fun result after => Known products result.2 after ∧
        result.1.PricedFor name product after ∧
        result.1.asked = (name, wantOf lower raw)) account := by
  refine (Grows.lift _).bind ?_
  rintro want _ - ⟨isWant, rfl⟩
  obtain ⟨rfl, counted⟩ := want_of_good good isWant
  refine (grows_takePrice known counted).bind ?_
  rintro ⟨price, priceAction, pricesThen⟩ after - ⟨knownThen, id, isId, priced⟩
  refine (Grows.lift _).bind ?_
  rintro app _ - ⟨-, rfl⟩
  refine (Grows.lift _).bind ?_
  rintro amount _ - ⟨-, rfl⟩
  refine .pure ⟨knownThen, ⟨rfl, rfl, ?_⟩, rfl⟩
  simp only at isId ⊢
  rw [priced, isId, Option.getD_some]

theorem repeats_runPrice
    {last : Account}
    (known : Known products prices account)
    (good : goodPrice raw = true) :
    Repeats last
      (runPrice stripe noOutage lower true spec name (some product) action
        prices raw)
      (runPrice stripe noOutage lower true spec name (some product) again
        last.prices raw)
      (fun result result' => result.1.ids = result'.1.ids ∧
        result'.2 = last.prices) account := by
  refine (Repeats.lift _).bind ?_ ?_
  · intro wanted after ran
    obtain ⟨isWant, rfl⟩ := (Grows.lift _).2 _ _ ran
    refine (grows_takePrice known (want_of_good good isWant).2).keeps_bind ?_
    rintro ⟨price, priceAction, pricesThen⟩ after -
    exact keeps_lift_bind fun app => keeps_lift_bind fun amount => .refl _
  · rintro wanted after _ ran ⟨isWant, rfl⟩
    obtain ⟨-, rfl⟩ := (Grows.lift _).2 _ _ ran
    refine (repeats_takePrice known (want_of_good good isWant).2).bind ?_ ?_
    · rintro ⟨price, priceAction, pricesThen⟩ after -
      exact keeps_lift_bind fun app => keeps_lift_bind fun amount => .refl _
    · rintro ⟨price, priceAction, pricesThen⟩ after ⟨price', _, _⟩ -
        ⟨sameId, rfl⟩
      refine (Repeats.lift _).bind
        (fun app after' _ => keeps_lift_bind fun amount => .refl _) ?_
      rintro app after' _ - ⟨-, rfl⟩
      refine (Repeats.lift _).bind (fun amount _ _ => .refl _) ?_
      rintro amount after'' _ - ⟨-, rfl⟩
      refine .pure ⟨?_, rfl⟩
      exact congrArg (fun id : Option String =>
        (product.id, id.getD "")) sameId

theorem grows_runPrices
    (known : Known products prices account)
    (good : ∀ raw ∈ raws, goodPrice raw = true) :
    Grows (runPrices stripe noOutage lower true spec name (some product) action
        raws prices)
      (fun result after => Known products result.2 after ∧
        (∀ row ∈ result.1, row.PricedFor name product after) ∧
        result.1.map Row.asked =
          raws.map fun raw => (name, wantOf lower raw)) account := by
  induction raws generalizing prices account with
  | nil => exact .pure ⟨known, by simp, rfl⟩
  | cons raw raws inductionHypothesis =>
      refine (grows_runPrice known (good raw List.mem_cons_self)).bind ?_
      rintro ⟨row, pricesThen⟩ after - ⟨knownThen, priced, asked⟩
      have grows := inductionHypothesis knownThen fun later present =>
        good later (List.mem_cons_of_mem _ present)
      refine grows.bind ?_
      rintro ⟨rows, pricesLast⟩ final ran ⟨knownLast, pricedRest, askedRest⟩
      refine .pure ⟨knownLast, fun other present => ?_, ?_⟩
      · rcases List.mem_cons.mp present with rfl | present
        · exact priced.keep (grows.keeps ran)
        · exact pricedRest other present
      · exact congrArg₂ List.cons asked askedRest

/-- A second run prints the same ids for the prices of an entry. -/
theorem repeats_runPrices
    {last : Account}
    (known : Known products prices account)
    (good : ∀ raw ∈ raws, goodPrice raw = true) :
    Repeats last
      (runPrices stripe noOutage lower true spec name (some product) action
        raws prices)
      (runPrices stripe noOutage lower true spec name (some product) again
        raws last.prices)
      (fun result result' => result.1.map Row.ids = result'.1.map Row.ids ∧
        result'.2 = last.prices) account := by
  induction raws generalizing prices account with
  | nil => exact .pure ⟨rfl, rfl⟩
  | cons raw raws inductionHypothesis =>
      have goodFirst := good raw List.mem_cons_self
      have goodRest : ∀ later ∈ raws, goodPrice later = true :=
        fun later present => good later (List.mem_cons_of_mem _ present)
      refine (repeats_runPrice known goodFirst).bind ?_ ?_
      · rintro ⟨row, pricesThen⟩ after ran
        have knownThen := ((grows_runPrice known goodFirst).2 _ _ ran).1
        refine (grows_runPrices knownThen goodRest).keeps_bind ?_
        rintro ⟨rows, pricesLast⟩ final -
        exact .refl _
      · rintro ⟨row, pricesThen⟩ after ⟨row', _⟩ ran ⟨sameIds, rfl⟩
        have knownThen := ((grows_runPrice known goodFirst).2 _ _ ran).1
        refine (inductionHypothesis knownThen goodRest).bind
          (fun _ _ _ => .refl _) ?_
        rintro ⟨rows, pricesLast⟩ final ⟨rows', _⟩ - ⟨sameRest, rfl⟩
        exact .pure ⟨by simp only [List.map_cons, sameIds, sameRest], rfl⟩

theorem eq_pricesOf
    (good : GoodProduct spec)
    (isRaws : spec.item "prices" >>= PyValue.iterate = .ok raws) :
    raws = pricesOf spec :=
  Except.ok.inj (isRaws.symm.trans (item_prices good))

theorem eq_nameOf
    (good : GoodProduct spec)
    (isName : spec.item "name" >>= PyValue.text = .ok name) :
    name = nameOf spec :=
  Except.ok.inj (isName.symm.trans (item_name good))

theorem prices_of_good
    (good : GoodProduct spec)
    (isRaws : spec.item "prices" >>= PyValue.iterate = .ok raws) :
    ∀ raw ∈ raws, goodPrice raw = true :=
  eq_pricesOf good isRaws ▸ good.prices

/-- What is left of the loop once an entry has its product. -/
def restOfSpec (stripe : Stripe) (lower : PyString → PyString)
    (spec : PyValue) (specs : List PyValue) (name : PyString)
    (product : Option Product) (action : Action) (products : List Product)
    (prices : List Price) : Py (List Row) := do
  let raws ← .lift (spec.item "prices" >>= PyValue.iterate)
  let (rows, prices) ← runPrices stripe noOutage lower true spec name product
    action raws prices
  let more ← runSpecs stripe noOutage lower true specs products prices
  return rows ++ more

theorem runSpecs_cons :
    runSpecs stripe noOutage lower true (spec :: specs) products prices =
      (do
        let name ← .lift (spec.item "name" >>= PyValue.text)
        let (product, action, products) ←
          takeProduct stripe noOutage true products name spec
        restOfSpec stripe lower spec specs name product action products
          prices) :=
  rfl

theorem grows_restOfSpec
    (known : Known products prices account)
    (good : GoodProduct spec)
    (isName : name = nameOf spec)
    (there : findProduct account.products name = some product)
    (rest : ∀ {products : List Product} {prices : List Price}
      {account : Account}, Known products prices account →
        Grows (runSpecs stripe noOutage lower true specs products prices)
          (fun rows after => (∀ row ∈ rows, row.Printed after) ∧
            rows.map Row.asked = specs.flatMap (entriesOf lower)) account) :
    Grows (restOfSpec stripe lower spec specs name (some product) action
      products prices)
      (fun rows after => (∀ row ∈ rows, row.Printed after) ∧
        rows.map Row.asked = (spec :: specs).flatMap (entriesOf lower))
      account := by
  refine (Grows.lift _).bind ?_
  rintro raws _ - ⟨isRaws, rfl⟩
  have grows := @grows_runPrices _ _ _ stripe spec name product lower action _
    known (prices_of_good good isRaws)
  refine grows.bind ?_
  rintro ⟨rows, pricesThen⟩ final ran ⟨knownFinal, priced, asked⟩
  have growsOn := rest knownFinal
  refine growsOn.bind ?_
  rintro more last ranOn ⟨printedRest, askedRest⟩
  refine .pure ⟨fun row present => ?_, ?_⟩
  · rcases List.mem_append.mp present with present | present
    · have pricedRow := priced row present
      have printed : row.Printed final := by
        refine ⟨product, ?_, rfl, pricedRow.isProduct, pricedRow.isPrice⟩
        rw [pricedRow.isName]
        exact (grows.keeps ran).products _ _ there
      exact printed.keep (growsOn.keeps ranOn)
    · exact printedRest row present
  · rw [List.map_append, asked, askedRest, eq_pricesOf good isRaws, isName]
    rfl

/-- In the end every row has the ids of what is found for it. -/
theorem grows_runSpecs
    (known : Known products prices account)
    (good : ∀ spec ∈ specs, GoodProduct spec) :
    Grows (runSpecs stripe noOutage lower true specs products prices)
      (fun rows after => (∀ row ∈ rows, row.Printed after) ∧
        rows.map Row.asked = specs.flatMap (entriesOf lower)) account := by
  induction specs generalizing products prices account with
  | nil => exact .pure ⟨by simp, rfl⟩
  | cons spec specs inductionHypothesis =>
      have goodFirst := good spec List.mem_cons_self
      rw [runSpecs_cons]
      refine (Grows.lift _).bind ?_
      rintro name _ - ⟨isName, rfl⟩
      refine (grows_takeProduct known).bind ?_
      rintro ⟨_, action, productsThen⟩ after -
        ⟨knownThen, product, rfl, there⟩
      exact grows_restOfSpec knownThen goodFirst (eq_nameOf goodFirst isName)
        there fun knownLater => inductionHypothesis knownLater
          fun later present => good later (List.mem_cons_of_mem _ present)

/-- A second run prints the same ids for an entry that has its product, and for
the later ones. -/
theorem repeats_restOfSpec
    {last : Account}
    (known : Known products prices account)
    (good : GoodProduct spec)
    (goodRest : ∀ spec ∈ specs, GoodProduct spec)
    (rest : ∀ {products : List Product} {prices : List Price}
      {account : Account}, Known products prices account →
        Repeats last
          (runSpecs stripe noOutage lower true specs products prices)
          (runSpecs stripe noOutage lower true specs last.products last.prices)
          (fun rows rows' => rows.map Row.ids = rows'.map Row.ids) account) :
    Repeats last
      (restOfSpec stripe lower spec specs name (some product) action products
        prices)
      (restOfSpec stripe lower spec specs name (some product) again
        last.products last.prices)
      (fun rows rows' => rows.map Row.ids = rows'.map Row.ids) account := by
  refine (Repeats.lift _).bind ?_ ?_
  · intro raws after ran
    obtain ⟨isRaws, rfl⟩ := (Grows.lift _).2 _ _ ran
    refine (grows_runPrices known (prices_of_good good isRaws)).keeps_bind ?_
    rintro ⟨rows, pricesThen⟩ final ⟨knownFinal, -⟩
    refine (grows_runSpecs knownFinal goodRest).keeps_bind ?_
    exact fun _ _ _ => .refl _
  · rintro raws after _ ran ⟨isRaws, rfl⟩
    obtain ⟨-, rfl⟩ := (Grows.lift _).2 _ _ ran
    refine (repeats_runPrices known (prices_of_good good isRaws)).bind ?_ ?_
    · rintro ⟨rows, pricesThen⟩ final ranPrices
      have knownFinal :=
        ((grows_runPrices known (prices_of_good good isRaws)).2 _ _ ranPrices).1
      refine (grows_runSpecs knownFinal goodRest).keeps_bind ?_
      exact fun _ _ _ => .refl _
    · rintro ⟨rows, pricesThen⟩ final ⟨rows', _⟩ ranPrices ⟨sameIds, rfl⟩
      have knownFinal :=
        ((grows_runPrices known (prices_of_good good isRaws)).2 _ _ ranPrices).1
      refine (rest knownFinal).bind (fun _ _ _ => .refl _) ?_
      intro more end_ more' _ sameRest
      exact .pure (by simp only [List.map_append, sameIds, sameRest])

/-- A second run prints the same ids for the entries. -/
theorem repeats_runSpecs
    {last : Account}
    (known : Known products prices account)
    (good : ∀ spec ∈ specs, GoodProduct spec) :
    Repeats last
      (runSpecs stripe noOutage lower true specs products prices)
      (runSpecs stripe noOutage lower true specs last.products last.prices)
      (fun rows rows' => rows.map Row.ids = rows'.map Row.ids) account := by
  induction specs generalizing products prices account with
  | nil => exact .pure rfl
  | cons spec specs inductionHypothesis =>
      have goodRest : ∀ later ∈ specs, GoodProduct later :=
        fun later present => good later (List.mem_cons_of_mem _ present)
      have goodFirst := good spec List.mem_cons_self
      rw [runSpecs_cons, runSpecs_cons]
      refine (Repeats.lift _).bind ?_ ?_
      · intro name after ran
        obtain ⟨isName, rfl⟩ := (Grows.lift _).2 _ _ ran
        refine (grows_takeProduct known).keeps_bind ?_
        rintro ⟨_, action, productsThen⟩ after
          ⟨knownThen, product, rfl, there⟩
        exact (grows_restOfSpec knownThen goodFirst
          (eq_nameOf goodFirst isName) there
          fun knownLater => grows_runSpecs knownLater goodRest).1
      · rintro name after _ ran ⟨isName, rfl⟩
        obtain ⟨-, rfl⟩ := (Grows.lift _).2 _ _ ran
        refine (repeats_takeProduct known).bind ?_ ?_
        · rintro ⟨_, action, productsThen⟩ after ranProduct
          obtain ⟨knownThen, product, rfl, there⟩ :=
            (grows_takeProduct known).2 _ _ ranProduct
          exact (grows_restOfSpec knownThen goodFirst
            (eq_nameOf goodFirst isName) there
            fun knownLater => grows_runSpecs knownLater goodRest).1
        · rintro ⟨_, action, productsThen⟩ after ⟨_, again, _⟩ ranProduct
            ⟨rfl, rfl⟩
          obtain ⟨knownThen, product, rfl, -⟩ :=
            (grows_takeProduct known).2 _ _ ranProduct
          exact repeats_restOfSpec knownThen goodFirst goodRest
            fun knownLater => inductionHypothesis knownLater goodRest

/-! ## Two runs -/

/-- What a run does once the listings are read. -/
def runListed (stripe : Stripe) (lower : PyString → PyString) (apply : Bool)
    (catalogue : PyValue) (products : List Product) (prices : List Price) :
    Py (List Row) := do
  let specs ← .lift (catalogue.item "products" >>= PyValue.iterate)
  runSpecs stripe noOutage lower apply specs products prices

/-- A run reads what is listed, and goes on with it. -/
theorem run_run (stripe : Stripe) (lower : PyString → PyString) (apply : Bool)
    (catalogue : PyValue) (account : Account) :
    ∃ requests,
      (run stripe noOutage lower apply catalogue).run account =
        (runListed stripe lower apply catalogue account.products
          account.prices).run (account.sent requests) := by
  obtain ⟨first, listed | ⟨_, _, failed, -⟩⟩ :=
    run_listProducts noOutage account
  · obtain ⟨second, priced | ⟨_, _, failed, -⟩⟩ :=
      run_listPrices noOutage (account.sent first)
    · refine ⟨second, ?_⟩
      rw [run, Py.run_bind, listed]
      simp only
      rw [Py.run_bind, priced]
      rfl
    · cases failed
  · cases failed

/-- A run goes through the products of a catalogue without problems. -/
theorem runListed_of_acceptable
    {catalogue : PyValue}
    (acceptable : Acceptable catalogue)
    (stripe : Stripe) (lower : PyString → PyString) (apply : Bool)
    (products : List Product) (prices : List Price) :
    runListed stripe lower apply catalogue products prices =
      runSpecs stripe noOutage lower apply (productsOf catalogue) products
        prices := by
  rw [runListed, item_products acceptable]
  rfl

/-- A second run that applies a catalogue creates nothing, and prints the ids
that the first one printed, row by row; where the first one raised, it raises
the same. -/
theorem second_apply_creates_nothing
    (stripe : Stripe)
    (lower : PyString → PyString)
    (catalogue : PyValue)
    (accepted : validate catalogue = .ok [])
    (account : Account) :
    let first := (run stripe noOutage lower true catalogue).run account
    let second := (run stripe noOutage lower true catalogue).run first.2
    second.2.posts = first.2.posts ∧
      second.2.products = first.2.products ∧
      second.2.prices = first.2.prices ∧
      second.1.map (List.map Row.ids) = first.1.map (List.map Row.ids) := by
  intro first second
  have acceptable := validate_eq_nil_iff.mp accepted
  obtain ⟨requests, ranFirst⟩ := run_run stripe lower true catalogue account
  obtain ⟨more, ranSecond⟩ := run_run stripe lower true catalogue first.2
  rw [runListed_of_acceptable acceptable] at ranFirst ranSecond
  change first = _ at ranFirst
  change second = _ at ranSecond
  have known : Known account.products account.prices (account.sent requests) :=
    ⟨fun _ => rfl, fun _ _ => rfl⟩
  obtain ⟨returns, raises⟩ :=
    @repeats_runSpecs _ _ _ stripe lower _ first.2 known
      acceptable.products
  cases outcome : first.1 with
  | ok rows =>
      obtain ⟨rows', ranAgain, sameIds⟩ := returns rows first.2
        (ranFirst.symm.trans (Prod.ext outcome rfl)) (.refl _)
        (first.2.sent more)
      rw [ranAgain] at ranSecond
      rw [ranSecond]
      exact ⟨rfl, rfl, rfl, congrArg Except.ok sameIds.symm⟩
  | error error =>
      rw [raises error (ranFirst.symm.trans (Prod.ext outcome rfl))
        (first.2.sent more)] at ranSecond
      rw [ranSecond]
      exact ⟨rfl, rfl, rfl, rfl⟩

/-- An app with a plan that costs ten dollars a month. -/
def standardPlan : PyValue :=
  .dict [(ofText "products", .list [.dict [
    (ofText "name", .str (ofText "DocketMail")),
    (ofText "prices", .list [.dict [
      (ofText "tier", .str (ofText "standard")),
      (ofText "amount", .int 1000)]])]])]

theorem standardPlan_accepted : validate standardPlan = .ok [] := by
  rfl

theorem standardPlan_created_once :
    let first := (run default noOutage id true standardPlan).run .empty
    let second := (run default noOutage id true standardPlan).run first.2
    second.2.posts = first.2.posts ∧
      second.2.products = first.2.products ∧
      second.2.prices = first.2.prices ∧
      second.1.map (List.map Row.ids) = first.1.map (List.map Row.ids) :=
  second_apply_creates_nothing default id standardPlan standardPlan_accepted
    .empty

end StripeCatalogue
end EvoPlatform
