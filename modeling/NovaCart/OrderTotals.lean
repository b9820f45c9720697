import NovaCart.Coupons
import NovaCart.Schemes.Outcome
import NovaCart.TaxReadiness

/-! The amounts of an order: what checkout works out from the lines it has locked, and what the invoice repeats.

    The subtotal, the shipping charge, the coupon, the shares of the lines, the shipping charge again, the tax and the
    total follow each other as in `checkout`; the row is refused by the checks and the integer columns of the table.
    Codes of coupons are as `normalise_code` leaves them. -/

namespace NovaCart

open Schemes

/-! ### Checkout -/

/-- A line of the cart at the price of the locked row. -/
structure PricedLine where
  productId : Id
  classificationId : Option Id
  priceCents : ℕ
  quantity : ℕ
  deriving DecidableEq, Repr

def PricedLine.value (line : PricedLine) : ℤ := line.priceCents * line.quantity

structure CheckoutPricing where
  flatShippingCents : Option ℕ
  freeShippingThresholdCents : Option ℕ
  thresholdBasisStated : Bool
  taxEngine : TaxEngine

structure PricedCheckout where
  lines : List PricedLine
  couponCode : Option String
  customer : Customer
  now : Time
  /-- the date in India -/
  today : ℤ
  deliveryState : Option String
  deliveryCountry : Option String

structure OrderLine where
  line : PricedLine
  discountCents : ℤ
  deriving DecidableEq, Repr

structure OrderAmounts where
  items : List OrderLine
  subtotalCents : ℤ
  discountCents : ℤ
  couponId : Option Id
  shippingCents : ℤ
  taxCents : ℤ
  taxSnapshot : TaxSnapshot
  totalCents : ℤ
  deriving DecidableEq, Repr

inductive CheckoutError
  | notConfigured
  | coupon (e : CouponError)
  | tax (e : TaxError)
  /-- a value no integer column holds, or a check of the table -/
  | database
  deriving DecidableEq, Repr

def TaxEngine.isConfigured : TaxEngine → Bool
  | .notConfigured => false
  | _ => true

/-- `_calculate_shipping`, with the check that the pricing is configured. -/
def CheckoutPricing.calculateShipping (cfg : CheckoutPricing) (subtotalCents : ℤ) : Except CheckoutError ℤ := do
  let flat ← need cfg.flatShippingCents .notConfigured
  require (cfg.taxEngine.isConfigured = true) .notConfigured
  let threshold := cfg.freeShippingThresholdCents.getD 0
  require (threshold ≠ 0 → cfg.thresholdBasisStated = true) .notConfigured
  .ok (if threshold ≠ 0 ∧ threshold ≤ subtotalCents then 0 else flat)

/-- `evaluate`, all checks in one. -/
def evaluateCoupon (L : Lowering) (s : CouponStore) (coupon : Coupon) (customer : Customer)
    (subtotalCents shippingCents : ℤ) (now : Time) : Except CouponError Discount := do
  s.checkTotal coupon subtotalCents now
  s.checkCustomer L coupon customer subtotalCents shippingCents

def orError {ε ε' α : Type} (wrap : ε → ε') : Except ε α → Except ε' α
  | .ok a => .ok a
  | .error e => .error (wrap e)

/-- `share_discount` -/
def shareDiscount (discountCents : ℤ) (lineValues : List ℤ) : List ℤ := allocate discountCents lineValues

/-- The coupon, what it takes off, the shipping charge that is left, and the shares of the lines. -/
def applyCoupon (L : Lowering) (cfg : CheckoutPricing) (s : CouponStore) (request : PricedCheckout) (subtotalCents : ℤ) :
    Except CheckoutError (Option Coupon × ℤ × ℤ × List OrderLine) := do
  let shippingCents ← cfg.calculateShipping subtotalCents
  match request.couponCode.filter (· ≠ "") with
  | none => .ok (none, 0, shippingCents, request.lines.map fun line => ⟨line, 0⟩)
  | some code =>
    let coupon ← need (s.findByCode code) (.coupon .invalid)
    let discount ← orError .coupon (evaluateCoupon L s coupon request.customer subtotalCents shippingCents request.now)
    if discount.goodsCents ≠ 0 then
      let shippingCents ← cfg.calculateShipping (subtotalCents - discount.goodsCents)
      let shares := shareDiscount discount.goodsCents (request.lines.map (·.value))
      .ok (some coupon, discount.goodsCents, shippingCents, List.zipWith OrderLine.mk request.lines shares)
    else .ok (some coupon, discount.goodsCents, 0, request.lines.map fun line => ⟨line, 0⟩)

/-- The line as the tax engine gets it. -/
def OrderLine.taxLine (item : OrderLine) : TaxLine :=
  ⟨item.line.productId, item.line.quantity, item.line.priceCents, item.line.classificationId, item.discountCents⟩

/-- What `_calculate_tax` asks. -/
def PricedCheckout.taxRequest (request : PricedCheckout) (items : List OrderLine) (subtotalCents shippingCents : ℤ) :
    TaxRequest where
  lines := items.map (·.taxLine)
  subtotalPaise := subtotalCents
  shippingPaise := shippingCents
  asOf := request.today
  deliveryState := request.deliveryState
  deliveryCountry := request.deliveryCountry

/-- An amount an integer column holds. -/
def fitsInteger (n : ℤ) : Bool := -2 ^ 31 ≤ n ∧ n < 2 ^ 31

/-- The row is inserted. -/
def insertOrder (order : OrderAmounts) : Except CheckoutError OrderAmounts := do
  require ([order.subtotalCents, order.discountCents, order.shippingCents, order.taxCents, order.totalCents].all
    fitsInteger = true) .database
  require (0 ≤ order.discountCents ∧ order.discountCents ≤ order.subtotalCents) .database
  require (order.couponId = none → order.discountCents = 0) .database
  .ok order

/-- `checkout`, from the locked lines to the order. -/
def checkoutTotals (L : Lowering) (cfg : CheckoutPricing) (repo : TaxRepository) (s : CouponStore)
    (request : PricedCheckout) : Except CheckoutError OrderAmounts := do
  let subtotalCents := (request.lines.map (·.value)).sum
  let (coupon, discountCents, shippingCents, items) ← applyCoupon L cfg s request subtotalCents
  let netSubtotalCents := subtotalCents - discountCents
  let taxResult ← orError .tax
    (cfg.taxEngine.calculate repo (request.taxRequest items netSubtotalCents shippingCents))
  insertOrder
    { items := items, subtotalCents := subtotalCents, discountCents := discountCents, couponId := coupon.map Coupon.id,
      shippingCents := shippingCents, taxCents := taxResult.taxPaise, taxSnapshot := taxResult.snapshot,
      totalCents := netSubtotalCents + shippingCents + taxResult.taxPaise }

/-! ### The invoice -/

/-- A row of the document. -/
structure InvoiceRow where
  sr : ℕ
  hsn : String
  treatment : Treatment
  quantity : ℕ
  unitPricePaise : ℤ
  valuePaise : ℤ
  discountPaise : ℤ
  shippingPaise : ℤ
  taxablePaise : ℤ
  rates : Rates
  cgstPaise : ℤ
  sgstPaise : ℤ
  igstPaise : ℤ
  taxPaise : ℤ
  roundOffPaise : ℤ
  grossPaise : ℤ
  deriving DecidableEq, Repr

/-- The amounts of the document. -/
structure InvoiceDocument where
  pricingMode : PricingMode
  lines : List InvoiceRow
  shippingChargedPaise : ℤ
  shippingUntaxedPaise : ℤ
  totals : SnapshotTotals
  grandTotalPaise : ℤ
  deriving DecidableEq, Repr

/-- One row, from an item and its tax line. -/
def invoiceRow (index : ℕ) (item : OrderLine) (tax : SnapshotLine) : InvoiceRow where
  sr := index + 1
  hsn := tax.hsnCode
  treatment := tax.treatment
  quantity := item.line.quantity
  unitPricePaise := item.line.priceCents
  valuePaise := tax.valuePaise
  discountPaise := tax.discountPaise
  shippingPaise := tax.shippingPaise
  taxablePaise := tax.taxablePaise
  rates := tax.rates
  cgstPaise := tax.cgstPaise
  sgstPaise := tax.sgstPaise
  igstPaise := tax.igstPaise
  taxPaise := tax.taxPaise
  roundOffPaise := tax.roundOffPaise
  grossPaise := tax.grossPaise

/-- `_build_document`: nothing when the items and the tax lines do not match. -/
def buildDocument (order : OrderAmounts) (snap : GstSnapshot) : Option InvoiceDocument :=
  if order.items.length ≠ snap.lines.length then none
  else if ∃ p ∈ order.items.zip snap.lines, p.1.line.productId ≠ p.2.productId ∨ p.1.line.quantity ≠ p.2.quantity then
    none
  else
    some
      { pricingMode := snap.pricingMode,
        lines := (order.items.zip snap.lines).zipIdx.map fun (p, i) => invoiceRow i p.1 p.2,
        shippingChargedPaise := order.shippingCents, shippingUntaxedPaise := snap.shippingUntaxedPaise,
        totals := snap.totals, grandTotalPaise := order.totalCents }

end NovaCart
