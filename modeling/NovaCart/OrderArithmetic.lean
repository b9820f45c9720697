import NovaCart.OrderTotals

/-! The amounts of every order checkout accepts add up, and so do the lines of its GST snapshot and of its invoice,
    unless shipping is taxed with goods that cost nothing. -/

namespace NovaCart

open Schemes

variable {L : Lowering} {cfg : CheckoutPricing} {repo : TaxRepository} {s : CouponStore} {request : PricedCheckout}
  {order : OrderAmounts}

/-! ### The lines -/

theorem PricedLine.value_nonneg (line : PricedLine) : 0 ≤ line.value := by
  unfold PricedLine.value
  positivity

theorem orError_eq_ok {ε ε' α : Type} {wrap : ε → ε'} {x : Except ε α} {a : α} :
    orError wrap x = .ok a ↔ x = .ok a := by
  cases x <;> simp [orError]

/-- The discount is split over the lines, each within what the line costs. -/
structure SplitOver (lines : List PricedLine) (discountCents : ℤ) (items : List OrderLine) : Prop where
  lines : items.map (·.line) = lines
  sum : (items.map (·.discountCents)).sum = discountCents
  within : ∀ i ∈ items, 0 ≤ i.discountCents ∧ i.discountCents ≤ i.line.value

theorem splitOver_zero (lines : List PricedLine) : SplitOver lines 0 (lines.map fun line => ⟨line, 0⟩) := by
  refine ⟨?_, ?_, ?_⟩
  · rw [List.map_map]
    exact List.map_id _
  · rw [List.map_map]
    have hzero : (lines.map ((·.discountCents) ∘ fun line => (⟨line, 0⟩ : OrderLine))) = lines.map fun _ => (0 : ℤ) := rfl
    rw [hzero]
    simp
  · intro i hi
    obtain ⟨line, -, rfl⟩ := List.mem_map.mp hi
    exact ⟨le_rfl, line.value_nonneg⟩

/-- The shares of a discount that is within the subtotal. -/
theorem splitOver_shares {lines : List PricedLine} {discountCents : ℤ} (h0 : 0 ≤ discountCents)
    (hne : discountCents ≠ 0) (hle : discountCents ≤ (lines.map (·.value)).sum)
    (hsmall : (lines.map (·.value)).sum < 10 ^ 13) :
    SplitOver lines discountCents
      (List.zipWith OrderLine.mk lines (shareDiscount discountCents (lines.map (·.value)))) := by
  have hvalues : ∀ v ∈ lines.map (·.value), 0 ≤ v := by
    intro v hv
    obtain ⟨line, -, rfl⟩ := List.mem_map.mp hv
    exact line.value_nonneg
  have hlen : (shareDiscount discountCents (lines.map (·.value))).length = lines.length := by
    simp [shareDiscount]
  refine ⟨?_, ?_, ?_⟩
  · rw [List.map_zipWith]
    refine List.ext_getElem (by simp [hlen]) fun i h₁ h₂ => by simp
  · have hmap : (List.zipWith OrderLine.mk lines (shareDiscount discountCents (lines.map (·.value)))).map
        (·.discountCents) = shareDiscount discountCents (lines.map (·.value)) := by
      rw [List.map_zipWith]
      refine List.ext_getElem (by simp [hlen]) fun i h₁ h₂ => by simp
    rw [hmap]
    exact sum_allocate_of_pos h0 (by omega) hvalues (by omega)
  · intro item hitem
    obtain ⟨i, hi⟩ := List.getElem?_of_mem hitem
    rw [List.getElem?_zipWith] at hi
    cases hline : lines[i]? with
    | none => simp [hline] at hi
    | some line =>
      cases hshare : (shareDiscount discountCents (lines.map (·.value)))[i]? with
      | none => simp [hline, hshare] at hi
      | some share =>
        simp only [hline, hshare, Option.some.injEq] at hi
        subst hi
        exact ⟨allocate_nonneg h0 hvalues _ (List.mem_of_getElem? hshare),
          allocate_le h0 hvalues hle hsmall hshare (by simp [hline])⟩

/-! ### The coupon -/

/-- What a coupon leaves of the shipping charge: what the discounted goods call for, or nothing. -/
def ShippingDecided (cfg : CheckoutPricing) (s : CouponStore) (coupon : Option Coupon) (netCents shippingCents : ℤ) :
    Prop :=
  cfg.calculateShipping netCents = .ok shippingCents
    ∨ shippingCents = 0 ∧ ∃ c ∈ s.coupons.rows, coupon = some c ∧ c.kind = .freeShipping

theorem evaluateCoupon_goods {coupon : Coupon} {customer : Customer} {subtotalCents shippingCents : ℤ} {now : Time}
    {discount : Discount} (h : evaluateCoupon L s coupon customer subtotalCents shippingCents now = .ok discount)
    (hgoods : discount.goodsCents = 0) : coupon.kind = .freeShipping := by
  obtain ⟨_, -, hrest⟩ := bind_ok h
  obtain ⟨-, hrest⟩ := require_bind_ok hrest
  obtain ⟨-, hrest⟩ := require_bind_ok hrest
  obtain ⟨happlies, hrest⟩ := require_bind_ok hrest
  by_contra hne
  rw [Except.ok.injEq] at hrest
  exact happlies hne (hrest ▸ hgoods)

theorem applyCoupon_spec {subtotalCents discountCents shippingCents : ℤ} {coupon : Option Coupon} {items : List OrderLine}
    (h : applyCoupon L cfg s request subtotalCents = .ok (coupon, discountCents, shippingCents, items))
    (hsum : subtotalCents = (request.lines.map (·.value)).sum) (hsmall : subtotalCents < 10 ^ 13)
    (h0 : 0 ≤ discountCents) (hle : discountCents ≤ subtotalCents) :
    SplitOver request.lines discountCents items
      ∧ ShippingDecided cfg s coupon (subtotalCents - discountCents) shippingCents := by
  obtain ⟨shipping, hshipping, hrest⟩ := bind_ok h
  cases hcode : request.couponCode.filter (· ≠ "") with
  | none =>
    simp only [hcode, Except.ok.injEq, Prod.mk.injEq] at hrest
    obtain ⟨rfl, rfl, rfl, rfl⟩ := hrest
    exact ⟨splitOver_zero _, .inl (by simpa using hshipping)⟩
  | some code =>
    simp only [hcode] at hrest
    obtain ⟨found, hfound, hrest⟩ := bind_ok hrest
    obtain ⟨discount, hdiscount, hrest⟩ := bind_ok hrest
    rw [need_eq_ok] at hfound
    rw [orError_eq_ok] at hdiscount
    by_cases hgoods : discount.goodsCents ≠ 0
    · rw [if_pos hgoods] at hrest
      obtain ⟨charge, hcharge, hrest⟩ := bind_ok hrest
      simp only [Except.ok.injEq, Prod.mk.injEq] at hrest
      obtain ⟨rfl, rfl, rfl, rfl⟩ := hrest
      exact ⟨splitOver_shares h0 hgoods (hsum ▸ hle) (hsum ▸ hsmall), .inl hcharge⟩
    · rw [if_neg hgoods] at hrest
      simp only [Except.ok.injEq, Prod.mk.injEq] at hrest
      obtain ⟨rfl, rfl, rfl, rfl⟩ := hrest
      rw [not_not] at hgoods
      rw [hgoods]
      exact ⟨splitOver_zero _, .inr ⟨rfl, found, List.mem_of_find?_eq_some hfound, rfl,
        evaluateCoupon_goods hdiscount hgoods⟩⟩

/-! ### The order -/

/-- What is true of the amounts of an order. -/
structure OrderAmounts.AddsUp (cfg : CheckoutPricing) (repo : TaxRepository) (s : CouponStore)
    (request : PricedCheckout) (order : OrderAmounts) : Prop where
  lines : order.items.map (·.line) = request.lines
  subtotal : order.subtotalCents = (order.items.map fun i => (i.line.priceCents * i.line.quantity : ℤ)).sum
  discount : 0 ≤ order.discountCents ∧ order.discountCents ≤ order.subtotalCents
  shares : order.discountCents = (order.items.map (·.discountCents)).sum
  within : ∀ i ∈ order.items, 0 ≤ i.discountCents ∧ i.discountCents ≤ i.line.priceCents * i.line.quantity
  total : order.totalCents = order.subtotalCents - order.discountCents + order.shippingCents + order.taxCents
  tax : ∃ result, cfg.taxEngine.calculate repo
      (request.taxRequest order.items (order.subtotalCents - order.discountCents) order.shippingCents) = .ok result
    ∧ order.taxCents = result.taxPaise ∧ order.taxSnapshot = result.snapshot
  shipping : cfg.calculateShipping (order.subtotalCents - order.discountCents) = .ok order.shippingCents
    ∨ order.shippingCents = 0 ∧ ∃ c ∈ s.coupons.rows, order.couponId = some c.id ∧ c.kind = .freeShipping

theorem insertOrder_eq_ok {new : OrderAmounts} (h : insertOrder new = .ok order) :
    order = new ∧ (0 ≤ new.discountCents ∧ new.discountCents ≤ new.subtotalCents)
      ∧ new.subtotalCents < 2 ^ 31 ∧ new.shippingCents < 2 ^ 31 := by
  obtain ⟨hfits, hrest⟩ := require_bind_ok h
  obtain ⟨hdiscount, hrest⟩ := require_bind_ok hrest
  obtain ⟨-, hrest⟩ := require_bind_ok hrest
  rw [Except.ok.injEq] at hrest
  simp only [fitsInteger, List.all_cons, List.all_nil, Bool.and_true, Bool.and_eq_true, decide_eq_true_eq] at hfits
  exact ⟨hrest.symm, hdiscount, hfits.1.2, hfits.2.2.1.2⟩

/-- The amounts of every order checkout accepts. -/
theorem order_arithmetic (h : checkoutTotals L cfg repo s request = .ok order) : order.AddsUp cfg repo s request := by
  obtain ⟨⟨coupon, discountCents, shippingCents, items⟩, hcoupon, hrest⟩ := bind_ok h
  obtain ⟨result, hresult, hinsert⟩ := bind_ok hrest
  rw [orError_eq_ok] at hresult
  obtain ⟨rfl, hdiscount, hint, -⟩ := insertOrder_eq_ok hinsert
  obtain ⟨hsplit, hshipping⟩ := applyCoupon_spec hcoupon rfl (lt_of_lt_of_le hint (by norm_num)) hdiscount.1
    hdiscount.2
  have hsum : (request.lines.map (·.value)).sum = (items.map fun i => (i.line.priceCents * i.line.quantity : ℤ)).sum := by
    rw [← hsplit.lines, List.map_map]
    rfl
  refine ⟨hsplit.lines, hsum, hdiscount, hsplit.sum.symm, hsplit.within, rfl, ⟨result, hresult, rfl, rfl⟩, ?_⟩
  rcases hshipping with hshipping | ⟨hzero, c, hc, rfl, hkind⟩
  · exact .inl hshipping
  · exact .inr ⟨hzero, c, hc, rfl, hkind⟩

/-! ### The GST snapshot and the invoice -/

/-- What the customer pays for a line. -/
def SnapshotLine.payable (mode : PricingMode) (line : SnapshotLine) : ℤ :=
  line.grossPaise + mode.added line.taxPaise

def InvoiceRow.payable (mode : PricingMode) (row : InvoiceRow) : ℤ :=
  row.grossPaise + mode.added row.taxPaise

/-- Shipping is spread over lines that cost nothing. -/
def ShippingLost (treatment : ShippingTreatment) (shippingPaise goodsPaise : ℤ) : Prop :=
  treatment = .taxableWithGoods ∧ shippingPaise ≠ 0 ∧ goodsPaise = 0

/-- The lines and the untaxed shipping are the goods and the shipping, unless it is lost. -/
theorem calculate_conserves {lines : List CalcLine} {shippingPaise : ℤ} (intraState : Bool) (mode : PricingMode)
    (treatment : ShippingTreatment) (policy : RoundingPolicy) (hvalues : ∀ line ∈ lines, 0 ≤ line.valuePaise)
    (hshipping : 0 ≤ shippingPaise) (hsmall : (lines.map (·.valuePaise)).sum + shippingPaise < 10 ^ 20) :
    ((calculate lines shippingPaise intraState mode treatment policy).lines.map (·.grossPaise)).sum
          + (calculate lines shippingPaise intraState mode treatment policy).shippingUntaxedPaise
        = (lines.map (·.valuePaise)).sum + shippingPaise
      ↔ ¬ShippingLost treatment shippingPaise (lines.map (·.valuePaise)).sum := by
  have huntaxed : (calculate lines shippingPaise intraState mode treatment policy).shippingUntaxedPaise
      = (shipLines lines shippingPaise treatment).2 := rfl
  have hship := sum_shipLines treatment hvalues hshipping hsmall
  rw [sum_gross, huntaxed, sum_grossesOf, ShippingLost]
  by_cases hlost : treatment = .taxableWithGoods ∧ (lines.map (·.valuePaise)).sum = 0
  · rw [if_pos hlost] at hship
    simp only [hlost.1, hlost.2, true_and, and_true, not_not]
    rw [hlost.1] at hship
    omega
  · rw [if_neg hlost] at hship
    constructor
    · rintro - ⟨htreatment, -, hgoods⟩
      exact hlost ⟨htreatment, hgoods⟩
    · intro _
      omega

/-- A column of the snapshot is the column that was calculated. -/
theorem GstSnapshot.Reports.map_eq {taxRequest : TaxRequest} {config : DatedRecord TaxConfiguration}
    {registration : GstRegistration} {place : GstState} {result : GstResult} {snapshot : GstSnapshot}
    (h : snapshot.Reports repo taxRequest config registration place result)
    (hlen : result.lines.length = taxRequest.lines.length) {f : SnapshotLine → ℤ} {g : LineTax → ℤ}
    (hfg : ∀ line tax out, out.Reports repo taxRequest.asOf line tax → f out = g tax) :
    snapshot.lines.map f = result.lines.map g := by
  refine List.ext_getElem (by simp [h.length]) fun i h₁ h₂ => ?_
  have hi : i < result.lines.length := by simpa using h₂
  obtain ⟨out, hout, hreports⟩ := h.lines i _ _ (List.getElem?_eq_getElem (hlen ▸ hi)) (List.getElem?_eq_getElem hi)
  have hget := (List.getElem?_eq_some_iff.mp hout).2
  rw [List.getElem_map, List.getElem_map, hget]
  exact hfg _ _ _ hreports

theorem sum_payable {lines : List SnapshotLine} (mode : PricingMode) : (lines.map (·.payable mode)).sum
    = (lines.map (·.grossPaise)).sum + mode.added (lines.map (·.taxPaise)).sum := by
  cases mode with
  | exclusive => exact List.sum_map_add
  | inclusive => simp [SnapshotLine.payable, PricingMode.added]

theorem PricedBy.values {taxRequest : TaxRequest} {calcLines : List CalcLine} (h : PricedBy repo taxRequest calcLines) :
    calcLines.map (·.valuePaise) = taxRequest.lines.map (·.valuePaise) := by
  refine List.ext_getElem (by simp [h.1]) fun i h₁ h₂ => ?_
  have hi : i < taxRequest.lines.length := by simpa using h₂
  obtain ⟨classification, rule, -, hcalc⟩ := h.2 i _ (List.getElem?_eq_getElem hi)
  have hget := (List.getElem?_eq_some_iff.mp hcalc).2
  rw [List.getElem_map, List.getElem_map, hget]
  rfl

/-- The snapshot of a GST order comes from the GST engine. -/
theorem gst_of_snapshot {taxRequest : TaxRequest} {engine : TaxEngine} {result : TaxResult} {snapshot : GstSnapshot}
    (h : engine.calculate repo taxRequest = .ok result) (hsnap : result.snapshot = .gst snapshot) :
    gstTaxEngine repo taxRequest = .ok result := by
  cases engine with
  | notConfigured => cases h
  | flatInterim ratePercent =>
    simp only [TaxEngine.calculate, flatInterimTaxEngine, TaxResult.make] at h
    split_ifs at h
    rw [← Except.ok.inj h] at hsnap
    cases hsnap
  | gst => exact h

/-- The document repeats the lines of the snapshot. -/
theorem buildDocument_spec {snapshot : GstSnapshot} (hlen : snapshot.lines.length = order.items.length)
    (hsame : ∀ p ∈ order.items.zip snapshot.lines, p.2.productId = p.1.line.productId
      ∧ p.2.quantity = p.1.line.quantity) :
    ∃ document, buildDocument order snapshot = some document ∧ document.pricingMode = snapshot.pricingMode
      ∧ document.lines.map (·.payable snapshot.pricingMode) = snapshot.lines.map (·.payable snapshot.pricingMode)
      ∧ document.shippingUntaxedPaise = snapshot.shippingUntaxedPaise
      ∧ document.grandTotalPaise = order.totalCents := by
  have hmatch : ¬∃ p ∈ order.items.zip snapshot.lines,
      p.1.line.productId ≠ p.2.productId ∨ p.1.line.quantity ≠ p.2.quantity := by
    rintro ⟨p, hp, hne⟩
    obtain ⟨h₁, h₂⟩ := hsame p hp
    rcases hne with hne | hne
    · exact hne h₁.symm
    · exact hne h₂.symm
  rw [buildDocument, if_neg (not_not.mpr hlen.symm), if_neg hmatch]
  refine ⟨_, rfl, rfl, ?_, rfl, rfl⟩
  refine List.ext_getElem (by simp [hlen]) fun i h₁ h₂ => ?_
  simp [invoiceRow, InvoiceRow.payable, SnapshotLine.payable]

/-- The shipping charge is never negative. -/
theorem OrderAmounts.AddsUp.shipping_nonneg (h : order.AddsUp cfg repo s request) : 0 ≤ order.shippingCents := by
  rcases h.shipping with hship | ⟨hzero, -⟩
  · obtain ⟨flat, -, hrest⟩ := bind_ok hship
    obtain ⟨-, hrest⟩ := require_bind_ok hrest
    obtain ⟨-, hrest⟩ := require_bind_ok hrest
    rw [Except.ok.injEq] at hrest
    rw [← hrest]
    split_ifs
    · exact le_rfl
    · exact Int.natCast_nonneg flat
  · exact hzero.ge

theorem order_fits (h : checkoutTotals L cfg repo s request = .ok order) :
    order.subtotalCents < 2 ^ 31 ∧ order.shippingCents < 2 ^ 31 := by
  obtain ⟨_, -, hrest⟩ := bind_ok h
  obtain ⟨_, -, hinsert⟩ := bind_ok hrest
  obtain ⟨rfl, -, hfits⟩ := insertOrder_eq_ok hinsert
  exact hfits

/-- The lines of the snapshot add up to the total unless the shipping is lost, and the invoice repeats them. -/
theorem snapshot_reconciles (h : checkoutTotals L cfg repo s request = .ok order) {snapshot : GstSnapshot}
    (hsnap : order.taxSnapshot = .gst snapshot) :
    ((snapshot.lines.map (·.payable snapshot.pricingMode)).sum + snapshot.shippingUntaxedPaise = order.totalCents
        ↔ ¬ShippingLost snapshot.shippingTaxTreatment order.shippingCents (order.subtotalCents - order.discountCents))
      ∧ ∃ document, buildDocument order snapshot = some document
        ∧ (document.lines.map (·.payable document.pricingMode)).sum + document.shippingUntaxedPaise
          = (snapshot.lines.map (·.payable snapshot.pricingMode)).sum + snapshot.shippingUntaxedPaise
        ∧ document.grandTotalPaise = order.totalCents := by
  have hadds := order_arithmetic h
  obtain ⟨result, hresult, htax, hsnapshot⟩ := hadds.tax
  set taxRequest := request.taxRequest order.items (order.subtotalCents - order.discountCents) order.shippingCents
    with hrequest
  have hvalues : ∀ line ∈ taxRequest.lines, 0 ≤ line.valuePaise := by
    intro line hline
    obtain ⟨item, hitem, rfl⟩ := List.mem_map.mp hline
    have := (hadds.within item hitem).2
    exact sub_nonneg.mpr this
  have hengine := gst_of_snapshot hresult (hsnapshot ▸ hsnap)
  obtain ⟨config, registration, place, calcLines, snapshot', -, rfl, hpriced, hreports, -⟩ :=
    (tax_readiness_exact hvalues hadds.shipping_nonneg).2 result hengine
  obtain rfl : snapshot' = snapshot := by
    rw [hsnap] at hsnapshot
    exact (TaxSnapshot.gst.inj hsnapshot).symm
  have hlen : calcLines.length = order.items.length := by simp [hpriced.1, hrequest, PricedCheckout.taxRequest]
  have hgoods : (calcLines.map (·.valuePaise)).sum = order.subtotalCents - order.discountCents := by
    rw [hpriced.values, hadds.subtotal, hadds.shares, eq_sub_iff_add_eq, hrequest, PricedCheckout.taxRequest, List.map_map,
      ← List.sum_map_add]
    refine congrArg List.sum (List.map_congr_left fun item _ => ?_)
    simp [TaxLine.valuePaise, OrderLine.taxLine]
  have hcalc : ∀ line ∈ calcLines, 0 ≤ line.valuePaise := by
    intro line hline
    have hmem : line.valuePaise ∈ calcLines.map (·.valuePaise) := List.mem_map_of_mem hline
    rw [hpriced.values] at hmem
    obtain ⟨taxLine, htaxLine, heq⟩ := List.mem_map.mp hmem
    exact heq ▸ hvalues taxLine htaxLine
  have hship : 0 ≤ taxRequest.shippingPaise := hadds.shipping_nonneg
  have hconserves := calculate_conserves (decide (place.code = registration.details.stateCode)) config.terms.pricingMode
    config.terms.shippingTaxTreatment config.terms.roundingPolicy hcalc hship (by
      obtain ⟨hsub, hshipping⟩ := order_fits h
      have := hadds.discount
      have : taxRequest.shippingPaise = order.shippingCents := rfl
      omega)
  have hlines : (calculate calcLines taxRequest.shippingPaise (decide (place.code = registration.details.stateCode))
      config.terms.pricingMode config.terms.shippingTaxTreatment config.terms.roundingPolicy).lines.length
      = taxRequest.lines.length := length_calculate_lines.trans hpriced.1
  have hgross := hreports.map_eq hlines fun _ _ _ hr => hr.gross.2
  have htaxes := hreports.map_eq hlines fun _ _ _ hr => hr.amounts.2.2.2.2.1
  have hadded : order.taxCents = _ := htax.trans (hreports.tax.trans calculate_taxAdded)
  constructor
  · rw [sum_payable, hgross, htaxes, hreports.shipping.2, hreports.config.1, hreports.config.2.2, hadds.total, hadded,
      ← hgoods, show order.shippingCents = taxRequest.shippingPaise from rfl]
    refine Iff.trans ?_ hconserves
    constructor <;> intro heq <;> linarith
  · have hcount : snapshot'.lines.length = order.items.length := by
      rw [hreports.length, hlines, hrequest]
      simp [PricedCheckout.taxRequest]
    have hsame : ∀ p ∈ order.items.zip snapshot'.lines, p.2.productId = p.1.line.productId
        ∧ p.2.quantity = p.1.line.quantity := by
      rintro ⟨item, line⟩ hp
      obtain ⟨i, hi⟩ := List.getElem?_of_mem hp
      obtain ⟨hitem, hline⟩ := List.getElem?_zip_eq_some.mp hi
      have htaxLine : taxRequest.lines[i]? = some item.taxLine := by
        rw [hrequest, PricedCheckout.taxRequest, List.getElem?_map, hitem]
        rfl
      have hilt : i < taxRequest.lines.length := (List.getElem?_eq_some_iff.mp htaxLine).1
      obtain ⟨out, hout, hr⟩ := hreports.lines i _ _ htaxLine (List.getElem?_eq_getElem (hlines ▸ hilt))
      obtain rfl : out = line := by simpa [hout] using hline
      exact ⟨hr.product.1, hr.product.2.2.1⟩
    obtain ⟨document, hdocument, hmode, hrows, huntaxed, htotal⟩ := buildDocument_spec hcount hsame
    exact ⟨document, hdocument, by rw [hmode, hrows, huntaxed], htotal⟩

/-- Nothing of the shipping is lost, in the calculation, in the snapshot and in the invoice, exactly when it is not
    spread over goods that cost nothing. -/
theorem gst_shipping_conserved (lines : List CalcLine) (shippingPaise : ℤ) (intraState : Bool) (mode : PricingMode)
    (treatment : ShippingTreatment) (policy : RoundingPolicy) :
    ((∀ line ∈ lines, 0 ≤ line.valuePaise) → 0 ≤ shippingPaise → (lines.map (·.valuePaise)).sum + shippingPaise < 10 ^ 20 →
      (((calculate lines shippingPaise intraState mode treatment policy).lines.map (·.grossPaise)).sum
            + (calculate lines shippingPaise intraState mode treatment policy).shippingUntaxedPaise
          = (lines.map (·.valuePaise)).sum + shippingPaise
        ↔ ¬ShippingLost treatment shippingPaise (lines.map (·.valuePaise)).sum))
      ∧ ∀ (L : Lowering) (cfg : CheckoutPricing) (repo : TaxRepository) (s : CouponStore) (request : PricedCheckout)
        (order : OrderAmounts) (snapshot : GstSnapshot), checkoutTotals L cfg repo s request = .ok order →
        order.taxSnapshot = .gst snapshot →
        ((snapshot.lines.map (·.payable snapshot.pricingMode)).sum + snapshot.shippingUntaxedPaise = order.totalCents
          ↔ ¬ShippingLost snapshot.shippingTaxTreatment order.shippingCents
            (order.subtotalCents - order.discountCents))
        ∧ ∃ document, buildDocument order snapshot = some document ∧ document.grandTotalPaise = order.totalCents
          ∧ ((document.lines.map (·.payable document.pricingMode)).sum + document.shippingUntaxedPaise
              = document.grandTotalPaise
            ↔ ¬ShippingLost snapshot.shippingTaxTreatment order.shippingCents
              (order.subtotalCents - order.discountCents)) := by
  refine ⟨fun hvalues hshipping hsmall =>
    calculate_conserves intraState mode treatment policy hvalues hshipping hsmall, ?_⟩
  intro L cfg repo s request order snapshot h hsnap
  obtain ⟨hiff, document, hdocument, hsum, htotal⟩ := snapshot_reconciles h hsnap
  refine ⟨hiff, document, hdocument, htotal, ?_⟩
  rw [hsum, htotal]
  exact hiff

/-! ### Goods for nothing -/

/-- One coupon that takes everything off the goods, and one that takes a tenth off. -/
def giftStore : CouponStore where
  coupons := ⟨[⟨1, "GIFT", .percentage 10000 none, ⟨true, none, none, 0, none, none⟩⟩,
    ⟨2, "TENTH", .percentage 1000 (some 5000), ⟨true, none, none, 0, none, none⟩⟩], by decide⟩
  orders := .empty
  txs := .empty
  next := 0

def giftPricing : CheckoutPricing := ⟨some 4900, none, false, .gst⟩

/-- Two phones and a case to Mumbai, with a coupon. -/
def giftRequest (code : String) : PricedCheckout :=
  ⟨[⟨7, some 1, 50000, 2⟩, ⟨8, some 1, 333, 1⟩], some code, .account 1, 0, 20000, some "Maharashtra", some "IN"⟩

def giftLowering : Lowering := ⟨id, id⟩

/-- A computation that was run and checked. -/
theorem exists_ok {ε α : Type} {x : Except ε α} {p : α → Bool} (h : (x.toOption.map p) = some true) :
    ∃ a, x = .ok a ∧ p a = true := by
  cases x with
  | error e => cases h
  | ok a => exact ⟨a, rfl, Option.some.inj h⟩

/-- The order with a tenth off, at most 50 rupees. -/
theorem order_arithmetic_tenth_off : ∃ order,
    checkoutTotals giftLowering giftPricing shopMaster giftStore (giftRequest "TENTH") = .ok order
      ∧ order.totalCents = 118275 ∧ order.AddsUp giftPricing shopMaster giftStore (giftRequest "TENTH") := by
  obtain ⟨order, h, htotal⟩ := exists_ok (x := checkoutTotals giftLowering giftPricing shopMaster giftStore
    (giftRequest "TENTH"))
    (p := fun order => order.totalCents = 118275) (by decide +kernel)
  exact ⟨order, h, by simpa using htotal, order_arithmetic h⟩

/-- Its lines add up to its total. -/
theorem gst_shipping_conserved_tenth_off : ∃ order snapshot,
    checkoutTotals giftLowering giftPricing shopMaster giftStore (giftRequest "TENTH") = .ok order
      ∧ order.taxSnapshot = .gst snapshot
      ∧ (snapshot.lines.map (·.payable snapshot.pricingMode)).sum + snapshot.shippingUntaxedPaise = order.totalCents := by
  obtain ⟨order, h, hcheck⟩ := exists_ok (x := checkoutTotals giftLowering giftPricing shopMaster giftStore
    (giftRequest "TENTH"))
    (p := fun order => match order.taxSnapshot with
      | .gst _ => order.subtotalCents - order.discountCents ≠ 0
      | _ => false) (by decide +kernel)
  cases hsnap : order.taxSnapshot with
  | flatInterim ratePercent taxableValuePaise taxPaise lines => simp [hsnap] at hcheck
  | gst snapshot =>
    have hne : order.subtotalCents - order.discountCents ≠ 0 := by simpa [hsnap] using hcheck
    have horders := (gst_shipping_conserved [] 0 true .exclusive .taxableWithGoods .lineHalfUp).2
    exact ⟨order, snapshot, h, hsnap, (horders _ _ _ _ _ order snapshot h hsnap).1.mpr fun hlost => hne hlost.2.2⟩

/-- With everything off the goods, the customer pays for shipping that no line carries. -/
theorem shipping_lost_with_free_goods : ∃ order snapshot,
    checkoutTotals giftLowering giftPricing shopMaster giftStore (giftRequest "GIFT") = .ok order
      ∧ order.taxSnapshot = .gst snapshot ∧ order.totalCents = 4900
      ∧ (snapshot.lines.map (·.payable snapshot.pricingMode)).sum + snapshot.shippingUntaxedPaise = 0 := by
  obtain ⟨order, h, hcheck⟩ := exists_ok (x := checkoutTotals giftLowering giftPricing shopMaster giftStore
    (giftRequest "GIFT")) (p := fun order => match order.taxSnapshot with
      | .gst snapshot => order.totalCents = 4900
          ∧ (snapshot.lines.map (·.payable snapshot.pricingMode)).sum + snapshot.shippingUntaxedPaise = 0
      | _ => false) (by decide +kernel)
  cases hsnap : order.taxSnapshot with
  | flatInterim ratePercent taxableValuePaise taxPaise lines => simp [hsnap] at hcheck
  | gst snapshot =>
    simp only [hsnap, decide_eq_true_eq] at hcheck
    exact ⟨order, snapshot, h, hsnap, hcheck⟩

end NovaCart
