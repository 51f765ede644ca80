import EvoPlatform.Revenue.Conservation
import Mathlib.Algebra.Order.BigOperators.Group.List
import Mathlib.Algebra.Order.Group.Int

/-!
# Gross by date of payment

Invoices are selected by the date of their creation and booked at the date of
their payment.  The figures are those of the payments of the year if and only if
the two dates agree on the year.
-/

namespace EvoPlatform
namespace Revenue

open Calendar

/-! ## Months as keys -/

theorem digits_two_injective : ∀ month other : Fin 12,
    digits 2 (month + 1) = digits 2 (other + 1) → month = other := by
  decide +kernel

theorem length_digits_two : ∀ month : Fin 12,
    (digits 2 (month + 1)).toList.length = 2 := by
  decide +kernel

/-- The key of a month ends in three characters. -/
theorem toList_monthText (year : Int) (month : Nat) :
    (monthText year month).toList =
      (toString year).toList ++ '-' :: (digits 2 (month + 1)).toList := by
  simp [monthText, String.toList_append]

/-- Months with the same key are the same. -/
theorem monthText_inj {year otherYear : Int} {month other : Nat}
    (isMonth : month < 12) (isOther : other < 12) :
    monthText year month = monthText otherYear other ↔
      year = otherYear ∧ month = other := by
  constructor
  · intro same
    have lists := congrArg String.toList same
    rw [toList_monthText, toList_monthText] at lists
    have first := length_digits_two ⟨month, isMonth⟩
    have second := length_digits_two ⟨other, isOther⟩
    obtain ⟨years, rest⟩ := List.append_inj' lists (by
      rw [List.length_cons, List.length_cons, first, second])
    refine ⟨Int.repr_injective (String.toList_injective years), ?_⟩
    have months := String.toList_injective (List.cons.inj rest).2
    exact congrArg Fin.val
      (digits_two_injective ⟨month, isMonth⟩ ⟨other, isOther⟩ months)
  · rintro ⟨rfl, rfl⟩
    rfl

/-- No month has the key of an invalid date. -/
theorem monthText_ne_invalid (year : Int) {month : Nat} (isMonth : month < 12) :
    monthText year month ≠ "NaN-NaN" := by
  intro same
  have lists := congrArg String.toList same
  rw [toList_monthText] at lists
  have width := length_digits_two ⟨month, isMonth⟩
  have split : "NaN-NaN".toList = "NaN-".toList ++ "NaN".toList := by
    decide +kernel
  rw [split] at lists
  obtain ⟨-, rest⟩ := List.append_inj' lists (by
    rw [List.length_cons, width]
    decide +kernel)
  have dash := (List.cons.inj (rest.trans (by decide +kernel :
    "NaN".toList = 'N' :: "aN".toList))).1
  exact absurd dash (by decide)

/-- Does a date lie in a year? -/
def inYear (year : Int) (date : Option Int) : Bool :=
  date.any fun time => getUTCFullYear time = year

/-- Does a date lie in a month of a year? -/
def inMonth (year : Int) (month : Nat) (date : Option Int) : Bool :=
  date.any fun time => getUTCFullYear time = year && getUTCMonth time = month

/-- The dates with the key of a month are those in the month. -/
theorem monthKey_eq_iff (date : Option Int) (year : Int) {month : Nat}
    (isMonth : month < 12) :
    monthKey date = monthText year month ↔ inMonth year month date = true := by
  cases date with
  | none =>
      have invalid := monthText_ne_invalid year isMonth
      simp only [monthKey, inMonth, Option.any_none, Bool.false_eq_true,
        iff_false]
      exact invalid.symm
  | some time =>
      rw [monthKey, monthText_inj (getUTCMonth_lt time) isMonth]
      simp [inMonth]

/-! ## Sums over the ledger -/

/-- What the invoices of a kind in a currency come to. -/
def paidSum (invoices : List Invoice) (kind : Invoice → Bool)
    (currency : String) : Int :=
  (invoices.map fun invoice =>
    if kind invoice && invoice.currency = currency then
      (invoice.amount_paid : Int)
    else 0).sum

/-- A sum over some is a sum over all with zeros. -/
theorem sum_map_filter {α : Type} (kind : α → Bool) (amount : α → Int)
    (entries : List α) :
    ((entries.filter kind).map amount).sum =
      (entries.map fun entry => if kind entry then amount entry else 0).sum := by
  induction entries with
  | nil => rfl
  | cons entry entries inductionHypothesis =>
      cases isKind : kind entry with
      | false => simp [isKind, inductionHypothesis]
      | true => simp [isKind, inductionHypothesis]

section Sums

variable {invoices : List Invoice} {kind other : Invoice → Bool}

theorem paidSum_congr (currency : String)
    (same : ∀ invoice ∈ invoices, 0 < invoice.amount_paid →
      kind invoice = other invoice) :
    paidSum invoices kind currency = paidSum invoices other currency := by
  refine congrArg List.sum (List.map_congr_left fun invoice present => ?_)
  rcases Nat.eq_zero_or_pos invoice.amount_paid with isZero | positive
  · simp [isZero]
  · rw [same invoice present positive]

/-- Where one kind includes the other, the sums are the same only if the kinds
are. -/
theorem of_paidSum_eq
    (includes : ∀ invoice ∈ invoices, 0 < invoice.amount_paid →
      kind invoice = true → other invoice = true)
    {invoice : Invoice}
    (present : invoice ∈ invoices)
    (positive : 0 < invoice.amount_paid)
    (same : paidSum invoices kind invoice.currency =
      paidSum invoices other invoice.currency)
    (isOther : other invoice = true) :
    kind invoice = true := by
  by_contra isNot
  refine same.not_lt (List.sum_lt_sum _ _ ?_ ⟨invoice, present, ?_⟩)
  · intro earlier isThere
    rcases Nat.eq_zero_or_pos earlier.amount_paid with isZero | paid
    · simp [isZero]
    · cases isKind : kind earlier with
      | false =>
          simp only [Bool.false_and, Bool.false_eq_true, if_false]
          split
          · exact Int.natCast_nonneg _
          · exact le_rfl
      | true => rw [includes earlier isThere paid isKind]
  · simp [isNot, isOther, positive]

end Sums

/-! ## The figures -/

/-- A paid invoice that is asked for. -/
def Invoice.isListed (now : Int) (invoice : Invoice) : Bool :=
  invoice.status = "paid" && since now ≤ invoice.created

/-- A paid invoice whose payment date is of a kind. -/
def Invoice.isPaidIn (kind : Option Int → Bool) (invoice : Invoice) : Bool :=
  invoice.status = "paid" && kind invoice.paidAt

/-- What is asked for is what was created in the current year. -/
theorem since_le_iff {now created : Int} (notLater : created * 1000 ≤ now)
    (modern : 99 < getUTCFullYear now) :
    since now ≤ created ↔
      getUTCFullYear (created * 1000) = getUTCFullYear now := by
  have thisYear := (getUTCFullYear_eq_iff now _).mp rfl
  have century : ¬ (0 ≤ getUTCFullYear now ∧ getUTCFullYear now ≤ 99) := by
    omega
  rw [getUTCFullYear_eq_iff, since, yearStart, firstOfYear, if_neg century]
  unfold msPerDay at thisYear ⊢
  omega

variable (prices : List AppPrice) (ledger : Ledger) (now : Int)
  (currency : String)

theorem figure_grossYtd :
    (pull prices (ledger.listed now) now).billed.grossYtd.figure currency =
      paidSum ledger.invoices (Invoice.isListed now) currency := by
  simp only [pull, billedFigures, foldl_addInvoice, figure_ytd_book, amountIn,
    Ledger.listed, List.filter_map, List.map_map, List.filter_filter,
    sum_map_filter]
  refine congrArg List.sum (List.map_congr_left fun invoice _ => ?_)
  refine if_congr ?_ rfl rfl
  simp only [Function.comp_apply, Bool.and_eq_true, decide_eq_true_eq,
    Invoice.isListed]
  exact and_comm

theorem figure_grossByMonth (year : Int) {month : Nat} (isMonth : month < 12) :
    ((pull prices (ledger.listed now) now).billed.grossByMonth.tally
        (monthText year month)).figure currency =
      paidSum ledger.invoices (fun invoice => invoice.isListed now &&
        inMonth year month invoice.paidAt) currency := by
  simp only [pull, billedFigures, foldl_addInvoice, byMonth_book,
    Sheet.figure_enter, Ledger.listed, List.filter_map, List.map_map,
    List.filter_filter, sum_map_filter, Sheet.tally_empty, Tally.figure_empty,
    zero_add]
  refine congrArg List.sum (List.map_congr_left fun invoice _ => ?_)
  refine if_congr ?_ rfl rfl
  simp only [Function.comp_apply, Bool.and_eq_true, decide_eq_true_eq,
    Invoice.isListed, monthKey_eq_iff _ year isMonth]
  simp only [Invoice.entry]
  tauto

/-- Gross, by date of payment: the year and each month hold what the paid
invoices come to whose payment date lies in the current year, and in that month
of it. -/
structure GrossByPayment (billed : BilledFigures) : Prop where
  ytd : ∀ currency, billed.grossYtd.figure currency =
    paidSum ledger.invoices
      (Invoice.isPaidIn (inYear (getUTCFullYear now))) currency
  months : ∀ year, ∀ month < 12, ∀ currency,
    (billed.grossByMonth.tally (monthText year month)).figure currency =
      paidSum ledger.invoices
        (Invoice.isPaidIn fun date => inYear (getUTCFullYear now) date &&
          inMonth year month date) currency

/-- Each paid invoice of an amount was created since the start of the current
year if and only if its payment date lies in the year. -/
def PaidInTheirYear : Prop :=
  ∀ invoice ∈ ledger.invoices, invoice.status = "paid" →
    0 < invoice.amount_paid →
      (since now ≤ invoice.created ↔
        inYear (getUTCFullYear now) invoice.paidAt = true)

/-- When the months are right, no payment of the year is missed. -/
theorem GrossByPayment.isListed
    (byPayment : GrossByPayment ledger now
      (pull prices (ledger.listed now) now).billed)
    {invoice : Invoice}
    (present : invoice ∈ ledger.invoices)
    (positive : 0 < invoice.amount_paid)
    (isPaid : invoice.isPaidIn (inYear (getUTCFullYear now)) = true) :
    invoice.isListed now = true := by
  simp only [Invoice.isPaidIn, inYear, Bool.and_eq_true, Option.any_eq_true,
    decide_eq_true_eq] at isPaid
  obtain ⟨paid, time, isTime, sameYear⟩ := isPaid
  have month := byPayment.months (getUTCFullYear now) (getUTCMonth time)
    (getUTCMonth_lt time) invoice.currency
  rw [figure_grossByMonth prices ledger now _ _ (getUTCMonth_lt time)] at month
  have listed := of_paidSum_eq (fun earlier _ _ isListed => ?_) present positive
    month ?_
  · exact (Bool.and_eq_true_iff.mp listed).1
  · simp only [Invoice.isListed, Invoice.isPaidIn, inMonth, inYear,
      Bool.and_eq_true, Option.any_eq_true, decide_eq_true_eq] at isListed ⊢
    obtain ⟨⟨earlierPaid, -⟩, date, isDate, inYear, inMonth⟩ := isListed
    exact ⟨earlierPaid, ⟨date, isDate, inYear⟩, date, isDate, inYear, inMonth⟩
  · simp [Invoice.isPaidIn, inYear, inMonth, paid, isTime, sameYear]

/-- When what is asked for was paid in the year, and nothing else was, gross is by
date of payment. -/
theorem grossByPayment_of_paidInTheirYear
    (inTheirYear : PaidInTheirYear ledger now) :
    GrossByPayment ledger now (pull prices (ledger.listed now) now).billed := by
  have same : ∀ invoice ∈ ledger.invoices, 0 < invoice.amount_paid →
      invoice.isListed now =
        invoice.isPaidIn (inYear (getUTCFullYear now)) := by
    intro invoice present positive
    rw [Bool.eq_iff_iff]
    simp only [Invoice.isListed, Invoice.isPaidIn, Bool.and_eq_true,
      decide_eq_true_eq]
    exact and_congr_right fun isPaid =>
      inTheirYear invoice present isPaid positive
  constructor
  · intro currency
    rw [figure_grossYtd]
    exact paidSum_congr currency same
  · intro year month isMonth currency
    rw [figure_grossByMonth prices ledger now currency year isMonth]
    refine paidSum_congr currency fun invoice present positive => ?_
    rw [same invoice present positive, Invoice.isPaidIn, Invoice.isPaidIn,
      Bool.and_assoc]

/-- It is enough that no invoice is dated ahead, and that each is paid in the
year in which it was created. -/
theorem grossByPayment_of_sameYear
    (modern : 99 < getUTCFullYear now)
    (notLater : ∀ invoice ∈ ledger.invoices,
      (invoice.created : Int) * 1000 ≤ now)
    (sameYear : ∀ invoice ∈ ledger.invoices, invoice.status = "paid" →
      ∃ time, invoice.paidAt = some time ∧
        getUTCFullYear time = getUTCFullYear (invoice.created * 1000)) :
    GrossByPayment ledger now (pull prices (ledger.listed now) now).billed := by
  apply grossByPayment_of_paidInTheirYear
  intro invoice present isPaid _
  obtain ⟨time, isTime, same⟩ := sameYear invoice present isPaid
  rw [since_le_iff (notLater invoice present) modern, isTime, inYear,
    Option.any_some, decide_eq_true_iff, same]

/-- Gross is by date of payment if and only if the invoices of an amount are
created in the year that they are paid in, as far as the current year goes. -/
theorem grossByPayment_iff :
    GrossByPayment ledger now (pull prices (ledger.listed now) now).billed ↔
      PaidInTheirYear ledger now := by
  constructor
  · intro byPayment invoice present isPaid positive
    constructor
    · intro isSince
      have year := byPayment.ytd invoice.currency
      rw [figure_grossYtd] at year
      have inYear := of_paidSum_eq (fun _ isThere paid =>
          byPayment.isListed prices ledger now isThere paid)
        present positive year.symm (by simp [Invoice.isListed, isPaid, isSince])
      exact (Bool.and_eq_true_iff.mp inYear).2
    · intro inYear
      have listed := byPayment.isListed prices ledger now present positive
        (by simp [Invoice.isPaidIn, isPaid, inYear])
      simpa [Invoice.isListed, isPaid] using listed
  · exact grossByPayment_of_paidInTheirYear prices ledger now

/-- An invoice of the last day of 2025 that is paid on the second of January. -/
def newYearLedger : Ledger where
  subscriptions := []
  invoices :=
    [⟨"paid", 1767182400, some 1767355200, "usd", 5000, none, none⟩]
  refunds := []

/-- On the first of August 2026 the payment is missing from the year and from
its month. -/
theorem grossByPayment_missed :
    let billed := (pull [] (newYearLedger.listed 1785542400000)
      1785542400000).billed
    (billed.grossYtd.figure "usd" = 0 ∧
      paidSum newYearLedger.invoices (Invoice.isPaidIn (inYear 2026)) "usd" =
        5000) ∧
    ¬ GrossByPayment newYearLedger 1785542400000 billed := by
  intro billed
  have missed : billed.grossYtd.figure "usd" = 0 := by decide +kernel
  have paid : paidSum newYearLedger.invoices
      (Invoice.isPaidIn (inYear (getUTCFullYear 1785542400000))) "usd" =
        5000 := by
    decide +kernel
  have year : getUTCFullYear 1785542400000 = 2026 := by decide +kernel
  refine ⟨⟨missed, year ▸ paid⟩, fun byPayment => ?_⟩
  have same := byPayment.ytd "usd"
  rw [missed, paid] at same
  contradiction

end Revenue
end EvoPlatform
