import EvoPlatform.Revenue.Figures

/-!
# Revenue is conserved

The accumulators of the two loops are tallies of the same entries by different
keys, so they add up to the same; net is gross less refunds over the currencies
of both; and the rows of the tenants are those of the customers.
-/

namespace EvoPlatform
namespace Revenue

/-! ## Net -/

theorem figure?_netOf (gross refunds : CurrencyAmounts) (currency : String) :
    (netOf gross refunds).figure? currency =
      ((gross.figure? currency).map fun cents =>
        cents - refunds.figure currency).or
        ((refunds.figure? currency).map fun cents => -cents) := by
  have first := Tally.figure?_foldl_put
    (fun row : String × Int => row.2 - refunds.figure row.1) Prod.fst _
    gross.keysNodup Table.empty currency
  have second := Tally.figure?_foldl_put_absent
    (fun row : String × Int => -row.2) Prod.fst refunds.rows
  rw [netOf, second, first]
  have none : Tally.figure? Table.empty currency = none := rfl
  rw [none, Option.or_none]
  simp only [Tally.figure?, Table.find?, Option.map_map]
  congr 1
  cases found : gross.rows.find? fun row => row.1 = currency with
  | none => rfl
  | some row =>
      have same : row.1 = currency := by simpa using List.find?_some found
      simp [same]

/-- Net has the currencies of gross and of the refunds. -/
theorem mem_keys_netOf (gross refunds : CurrencyAmounts) (currency : String) :
    currency ∈ (netOf gross refunds).keys ↔
      currency ∈ gross.keys ∨ currency ∈ refunds.keys := by
  simp only [← Tally.isSome_figure?, figure?_netOf, Option.isSome_or,
    Option.isSome_map, Bool.or_eq_true]

/-- Net is gross less refunds. -/
theorem figure_netOf (gross refunds : CurrencyAmounts) (currency : String) :
    (netOf gross refunds).figure currency =
      gross.figure currency - refunds.figure currency := by
  rw [Tally.figure, figure?_netOf]
  cases isGross : gross.figure? currency with
  | some cents => simp [Tally.figure, isGross]
  | none =>
      cases isRefund : refunds.figure? currency with
      | some cents => simp [Tally.figure, isGross, isRefund]
      | none => simp [Tally.figure, isGross, isRefund]

/-! ## The loops -/

/-- What a turn of a loop books. -/
structure Entry where
  date : Option Int
  currency : String
  cents : Nat
  cust : Option String

def Invoice.entry (invoice : Invoice) : Entry :=
  ⟨invoice.paidAt, invoice.currency, invoice.amount_paid, invoice.cust⟩

def Refund.entry (refund : Refund) : Entry :=
  ⟨dateOf refund.created, refund.currency, refund.amount, refund.cust⟩

/-- Book entries. -/
def book (entries : List Entry) : Flow :=
  entries.foldl (fun flow entry =>
    flow.add entry.date entry.currency entry.cents entry.cust) .empty

/-- The loop over the invoices books them. -/
theorem foldl_addInvoice (invoices : List Invoice) :
    (invoices.foldl addInvoice (Flow.empty, Table.empty)).1 =
      book (invoices.map Invoice.entry) := by
  rw [book, List.foldl_map]
  exact (List.foldl_hom Prod.fst fun _ _ => rfl).symm

/-- The loop over the refunds books those that succeeded. -/
theorem foldl_addRefund (refunds : List Refund) :
    refunds.foldl addRefund .empty =
      book ((refunds.filter Refund.succeeded).map Refund.entry) := by
  rw [book, List.foldl_map, List.foldl_filter]
  rfl

/-- The entries with their customers. -/
def attributed (entries : List Entry) : List (String × Entry) :=
  entries.filterMap fun entry => entry.cust.map fun cust => (cust, entry)

theorem byMonth_book (entries : List Entry) :
    (book entries).byMonth = Sheet.enter (fun entry => monthKey entry.date)
      Entry.currency (fun entry => entry.cents) Table.empty entries :=
  (List.foldl_hom Flow.byMonth fun _ _ => rfl).symm

theorem ytd_book (entries : List Entry) :
    (book entries).ytd = Tally.enter Entry.currency (fun entry => entry.cents)
      Table.empty entries :=
  (List.foldl_hom Flow.ytd fun _ _ => rfl).symm

theorem byCustomer_book (entries : List Entry) :
    (book entries).byCustomer = Sheet.enter Prod.fst
      (fun entry => entry.2.currency) (fun entry => entry.2.cents) Table.empty
      (attributed entries) := by
  have from_ : ∀ flow : Flow, (entries.foldl (fun flow entry =>
      flow.add entry.date entry.currency entry.cents entry.cust)
        flow).byCustomer = Sheet.enter Prod.fst
          (fun entry => entry.2.currency) (fun entry => entry.2.cents)
            flow.byCustomer (attributed entries) := by
    induction entries with
    | nil => exact fun _ => rfl
    | cons entry entries inductionHypothesis =>
        intro flow
        rw [List.foldl_cons, inductionHypothesis]
        cases isCust : entry.cust with
        | none => simp [attributed, isCust, Flow.add]
        | some cust => simp [attributed, isCust, Flow.add, Sheet.enter]
  exact from_ .empty

/-- What the entries in a currency come to. -/
def amountIn (currency : String) (entries : List Entry) : Int :=
  ((entries.filter fun entry => entry.currency = currency).map
    fun entry => (entry.cents : Int)).sum

/-- The entries without a customer. -/
def unattributed (entries : List Entry) : List Entry :=
  entries.filter fun entry => entry.cust.isNone

theorem figure_ytd_book (entries : List Entry) (currency : String) :
    (book entries).ytd.figure currency = amountIn currency entries := by
  rw [ytd_book, Tally.figure_enter, Tally.figure_empty, zero_add]
  rfl

/-- The months add up to the year. -/
theorem total_byMonth_book (entries : List Entry) (currency : String) :
    (book entries).byMonth.total currency =
      (book entries).ytd.figure currency := by
  rw [figure_ytd_book, byMonth_book, Sheet.total_enter, Sheet.total_empty,
    zero_add]
  rfl

/-- An entry has a customer or has none. -/
theorem amountIn_attributed (entries : List Entry) (currency : String) :
    (((attributed entries).filter fun entry =>
      entry.2.currency = currency).map fun entry => (entry.2.cents : Int)).sum +
        amountIn currency (unattributed entries) =
      amountIn currency entries := by
  induction entries with
  | nil => rfl
  | cons entry entries inductionHypothesis =>
      simp only [amountIn, attributed, unattributed, List.filter_filter]
        at inductionHypothesis ⊢
      by_cases isCurrency : entry.currency = currency
      · cases isCust : entry.cust with
        | none =>
            simp [isCust, isCurrency]
            omega
        | some cust =>
            simp [isCust, isCurrency]
            omega
      · cases isCust : entry.cust with
        | none => simpa [isCust, isCurrency] using inductionHypothesis
        | some cust => simpa [isCust, isCurrency] using inductionHypothesis

/-- The customers and what has none add up to the year. -/
theorem total_byCustomer_book (entries : List Entry) (currency : String) :
    (book entries).byCustomer.total currency +
        amountIn currency (unattributed entries) =
      (book entries).ytd.figure currency := by
  rw [figure_ytd_book, byCustomer_book, Sheet.total_enter, Sheet.total_empty,
    zero_add, amountIn_attributed]

/-- The customers are those of the entries. -/
theorem mem_keys_byCustomer_book (entries : List Entry) (cust : String) :
    cust ∈ (book entries).byCustomer.keys ↔
      ∃ entry ∈ entries, entry.cust = some cust := by
  rw [byCustomer_book, Sheet.mem_keys_enter]
  simp [attributed]

/-! ## Rows -/

/-- The customers are those of gross and of the refunds. -/
theorem mem_customerIds (billed : BilledFigures) (cust : String) :
    cust ∈ customerIds billed ↔
      cust ∈ billed.grossByCustomer.keys ∨
        cust ∈ billed.refundsByCustomer.keys := by
  simp only [customerIds, List.mem_append, List.mem_filter, decide_eq_true_eq]
  tauto

theorem nodup_customerIds (billed : BilledFigures) :
    (customerIds billed).Nodup := by
  refine List.Nodup.append billed.grossByCustomer.nodup_keys
    (billed.refundsByCustomer.nodup_keys.filter _) ?_
  intro cust inGross inRefunds
  simp [inGross] at inRefunds

/-- The rows are those of the customers, in some order. -/
theorem byTenant_perm (stale : Bool) (health : StripeHealth)
    (snapshot : RevenueSnapshot) (tenants : List Tenant) :
    ∃ found, (byTenant ⟨stale, health, some snapshot⟩ tenants).2.Perm
      ((customerIds snapshot.billed).map (tenantRow snapshot.billed found)) :=
  ⟨_, List.mergeSort_perm _ _⟩

/-- What conservation asks of a currency. -/
structure Conserved (billed : BilledFigures) (rows : List TenantRevenue)
    (invoices : List Invoice) (refunds : List Refund) (currency : String) :
    Prop where
  grossMonths :
    billed.grossByMonth.total currency = billed.grossYtd.figure currency
  refundMonths :
    billed.refundsByMonth.total currency = billed.refundsYtd.figure currency
  grossCustomers :
    billed.grossByCustomer.total currency +
        amountIn currency (unattributed (invoices.map Invoice.entry)) =
      billed.grossYtd.figure currency
  refundCustomers :
    billed.refundsByCustomer.total currency + amountIn currency
        (unattributed ((refunds.filter Refund.succeeded).map Refund.entry)) =
      billed.refundsYtd.figure currency
  net :
    (currency ∈ billed.netYtd.keys ↔
      currency ∈ billed.grossYtd.keys ∨ currency ∈ billed.refundsYtd.keys) ∧
    billed.netYtd.figure currency =
      billed.grossYtd.figure currency - billed.refundsYtd.figure currency
  rowNets : ∀ row ∈ rows,
    (currency ∈ row.netYtd.keys ↔
      currency ∈ row.grossYtd.keys ∨ currency ∈ row.refundsYtd.keys) ∧
    row.netYtd.figure currency =
      row.grossYtd.figure currency - row.refundsYtd.figure currency
  rowGross :
    (rows.map fun row => row.grossYtd.figure currency).sum =
      billed.grossByCustomer.total currency
  rowRefunds :
    (rows.map fun row => row.refundsYtd.figure currency).sum =
      billed.refundsByCustomer.total currency

/-- The figures of the loops and the rows of the tenants are conserved. -/
theorem conserved_byTenant
    (prices : List AppPrice)
    (listed : Listed)
    (now : Int)
    (stale : Bool)
    (health : StripeHealth)
    (tenants : List Tenant)
    (currency : String) :
    let snapshot := pull prices listed now
    Conserved snapshot.billed
      (byTenant ⟨stale, health, some snapshot⟩ tenants).2 listed.invoices
      listed.refunds currency := by
  intro snapshot
  have nodup := nodup_customerIds snapshot.billed
  have among := mem_customerIds snapshot.billed
  obtain ⟨found, rows⟩ := byTenant_perm stale health snapshot tenants
  constructor
  case grossMonths =>
    simp only [snapshot, pull, billedFigures, foldl_addInvoice]
    exact total_byMonth_book _ currency
  case refundMonths =>
    simp only [snapshot, pull, billedFigures, foldl_addRefund]
    exact total_byMonth_book _ currency
  case grossCustomers =>
    simp only [snapshot, pull, billedFigures, foldl_addInvoice]
    exact total_byCustomer_book _ currency
  case refundCustomers =>
    simp only [snapshot, pull, billedFigures, foldl_addRefund]
    exact total_byCustomer_book _ currency
  case net => exact ⟨mem_keys_netOf _ _ currency, figure_netOf _ _ currency⟩
  case rowNets =>
    intro row present
    obtain ⟨cust, -, rfl⟩ := List.mem_map.mp (rows.mem_iff.mp present)
    exact ⟨mem_keys_netOf _ _ currency, figure_netOf _ _ currency⟩
  case rowGross =>
    rw [(rows.map _).sum_eq, List.map_map]
    exact snapshot.billed.grossByCustomer.sum_tallies nodup
      (fun cust isKey => (among cust).mpr (.inl isKey)) currency
  case rowRefunds =>
    rw [(rows.map _).sum_eq, List.map_map]
    exact snapshot.billed.refundsByCustomer.sum_tallies nodup
      (fun cust isKey => (among cust).mpr (.inr isKey)) currency

/-- For all that Stripe lists, and all tenants: the figures of the snapshot and
the rows of the tenants add up, currency by currency, and each customer with an
invoice or a refund has exactly one row. -/
theorem revenue_conserved
    (prices : List AppPrice)
    (listed : Listed)
    (now : Int)
    (stale : Bool)
    (health : StripeHealth)
    (tenants : List Tenant) :
    let snapshot := pull prices listed now
    let rows := (byTenant ⟨stale, health, some snapshot⟩ tenants).2
    (∀ currency, Conserved snapshot.billed rows listed.invoices listed.refunds
      currency) ∧
    ∀ cust, ((∃ invoice ∈ listed.invoices, invoice.cust = some cust) ∨
        ∃ refund ∈ listed.refunds,
          refund.succeeded = true ∧ refund.cust = some cust) →
      (rows.countP fun row => row.stripeCustomerId = cust) = 1 := by
  intro snapshot rows
  refine ⟨conserved_byTenant prices listed now stale health tenants, ?_⟩
  intro cust pays
  obtain ⟨found, perm⟩ := byTenant_perm stale health snapshot tenants
  have isCustomer : cust ∈ customerIds snapshot.billed := by
    rw [mem_customerIds]
    simp only [snapshot, pull, billedFigures, foldl_addInvoice,
      foldl_addRefund, mem_keys_byCustomer_book, List.mem_map,
      List.mem_filter]
    rcases pays with ⟨invoice, present, isCust⟩ |
      ⟨refund, present, succeeded, isCust⟩
    · exact .inl ⟨_, ⟨invoice, present, rfl⟩, isCust⟩
    · exact .inr ⟨_, ⟨refund, ⟨present, succeeded⟩, rfl⟩, isCust⟩
  calc
    rows.countP (fun row => row.stripeCustomerId = cust) =
        ((customerIds snapshot.billed).map
          (tenantRow snapshot.billed found)).countP
            (fun row => row.stripeCustomerId = cust) := perm.countP_eq _
    _ = (customerIds snapshot.billed).count cust := by
      rw [List.countP_map, List.count]
      refine List.countP_congr fun other _ => ?_
      rw [Function.comp_apply, beq_iff_eq]
      exact decide_eq_true_iff
    _ = 1 := List.count_eq_one_of_mem (nodup_customerIds _) isCustomer

end Revenue
end EvoPlatform
