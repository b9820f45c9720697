import NovaCart.Lifecycle
import NovaCart.OrderArithmetic

/-! When every order that checkout creates can be stored and paid.

    What a customer has to pay is worked out from the cart, the coupon and the settings, and only the database looks at
    its size. Nothing looks at whether anything is left to pay. -/

namespace NovaCart

open Schemes

variable {L : Lowering} {cfg : CheckoutPricing} {repo : TaxRepository} {s : CouponStore} {request : PricedCheckout}
  {tax : TaxResult}

/-! ### What a request comes to -/

/-- The values `validate_value_fields` admits; a percentage in hundredths. -/
def CouponKind.Admitted : CouponKind → Prop
  | .percentage percentOff maxDiscountCents => 1 ≤ percentOff ∧ percentOff ≤ 10000 ∧ ∀ m ∈ maxDiscountCents, 0 < m
  | .fixed amountOffCents => 0 < amountOffCents
  | .freeShipping => True

instance : DecidablePred CouponKind.Admitted
  | .percentage _ _ => inferInstanceAs (Decidable (_ ∧ _ ∧ _))
  | .fixed _ => inferInstanceAs (Decidable (_ < _))
  | .freeShipping => isTrue trivial

/-- The coupon takes all of it off. -/
def CouponKind.TakesAll (goodsCents : ℤ) : CouponKind → Prop
  | .percentage percentOff maxDiscountCents =>
    goodsCents * (10000 - percentOff) ≤ 5000 ∧ ∀ m ∈ maxDiscountCents, goodsCents ≤ m
  | .fixed amountOffCents => goodsCents ≤ amountOffCents
  | .freeShipping => False

instance (goodsCents : ℤ) : DecidablePred (CouponKind.TakesAll goodsCents)
  | .percentage _ _ => inferInstanceAs (Decidable (_ ∧ _))
  | .fixed _ => inferInstanceAs (Decidable (_ ≤ _))
  | .freeShipping => isFalse id

/-- The goods of the cart at their prices. -/
def PricedCheckout.goods (request : PricedCheckout) : ℤ := (request.lines.map (·.value)).sum

/-- The coupon whose code was given. -/
def PricedCheckout.coupon (s : CouponStore) (request : PricedCheckout) : Option Coupon :=
  (request.couponCode.filter (· ≠ "")).bind s.findByCode

/-- What its coupon takes off the goods. -/
def PricedCheckout.off (s : CouponStore) (request : PricedCheckout) : ℤ :=
  (request.coupon s).elim 0 fun c => (computeDiscount c.kind request.goods 0).goodsCents

/-- The shipping charge for goods of this value. -/
def CheckoutPricing.charge (cfg : CheckoutPricing) (goodsCents : ℤ) : ℤ :=
  let threshold := cfg.freeShippingThresholdCents.getD 0
  if threshold ≠ 0 ∧ threshold ≤ goodsCents then 0 else cfg.flatShippingCents.getD 0

/-- The shipping charge of the order. -/
def PricedCheckout.shipping (cfg : CheckoutPricing) (s : CouponStore) (request : PricedCheckout) : ℤ :=
  if (request.coupon s).map Coupon.kind = some .freeShipping then 0 else cfg.charge (request.goods - request.off s)

def PricedCheckout.items (s : CouponStore) (request : PricedCheckout) : List OrderLine :=
  if request.off s ≠ 0 then
    List.zipWith OrderLine.mk request.lines (shareDiscount (request.off s) (request.lines.map (·.value)))
  else request.lines.map fun line => ⟨line, 0⟩

structure CheckoutPricing.Configured (cfg : CheckoutPricing) : Prop where
  flat : cfg.flatShippingCents ≠ none
  engine : cfg.taxEngine.isConfigured = true
  basis : cfg.freeShippingThresholdCents.getD 0 ≠ 0 → cfg.thresholdBasisStated = true

/-- A code that was given is that of a coupon, which applies. -/
def CouponApplies (L : Lowering) (cfg : CheckoutPricing) (s : CouponStore) (request : PricedCheckout) : Prop :=
  ∀ code ∈ request.couponCode.filter (· ≠ ""), ∃ c, s.findByCode code = some c ∧
    ∃ discount, evaluateCoupon L s c request.customer request.goods (cfg.charge request.goods) request.now = .ok discount

/-- The request is not refused, and this is its tax. -/
structure Charged (L : Lowering) (cfg : CheckoutPricing) (repo : TaxRepository) (s : CouponStore) (request : PricedCheckout)
    (tax : TaxResult) : Prop where
  configured : cfg.Configured
  coupon : CouponApplies L cfg s request
  tax : cfg.taxEngine.calculate repo
    (request.taxRequest (request.items s) (request.goods - request.off s) (request.shipping cfg s)) = .ok tax

theorem calculateShipping_eq (cfg : CheckoutPricing) (n : ℤ) :
    (cfg.Configured ∧ cfg.calculateShipping n = .ok (cfg.charge n)) ∨
      (¬cfg.Configured ∧ cfg.calculateShipping n = .error .notConfigured) := by
  unfold CheckoutPricing.calculateShipping CheckoutPricing.charge
  cases hflat : cfg.flatShippingCents with
  | none => exact .inr ⟨fun h => h.flat hflat, rfl⟩
  | some flat =>
    by_cases hengine : cfg.taxEngine.isConfigured = true
    · by_cases hbasis : cfg.freeShippingThresholdCents.getD 0 ≠ 0 → cfg.thresholdBasisStated = true
      · refine .inl ⟨⟨fun h => (by rw [hflat] at h; cases h), hengine, hbasis⟩, ?_⟩
        simp only [need, ok_bind, require, if_pos hengine, if_pos hbasis, Option.getD_some]
      · refine .inr ⟨fun h => hbasis h.basis, ?_⟩
        simp only [need, ok_bind, require, if_pos hengine, if_neg hbasis, error_bind]
    · refine .inr ⟨fun h => hengine h.engine, ?_⟩
      simp only [need, ok_bind, require, if_neg hengine, error_bind]

theorem computeDiscount_goods (kind : CouponKind) (goodsCents shippingCents : ℤ) :
    (computeDiscount kind goodsCents shippingCents).goodsCents = (computeDiscount kind goodsCents 0).goodsCents := by
  cases kind with
  | percentage percentOff maxDiscountCents => rfl
  | fixed amountOffCents => rfl
  | freeShipping => rfl

theorem evaluateCoupon_eq {c : Coupon} {customer : Customer} {subtotalCents shippingCents : ℤ} {now : Time}
    {discount : Discount} (h : evaluateCoupon L s c customer subtotalCents shippingCents now = .ok discount) :
    discount = computeDiscount c.kind subtotalCents shippingCents ∧ (discount.goodsCents = 0 ↔ c.kind = .freeShipping) := by
  refine ⟨?_, evaluateCoupon_goods h, fun hkind => ?_⟩
  · obtain ⟨_, -, hrest⟩ := bind_ok h
    obtain ⟨-, hrest⟩ := require_bind_ok hrest
    obtain ⟨-, hrest⟩ := require_bind_ok hrest
    obtain ⟨-, hrest⟩ := require_bind_ok hrest
    exact (Except.ok.inj hrest).symm
  · obtain ⟨_, -, hrest⟩ := bind_ok h
    obtain ⟨-, hrest⟩ := require_bind_ok hrest
    obtain ⟨-, hrest⟩ := require_bind_ok hrest
    obtain ⟨-, hrest⟩ := require_bind_ok hrest
    rw [← Except.ok.inj hrest, hkind]
    rfl

/-- What the coupon comes to, or a refusal. -/
theorem applyCoupon_cases (L : Lowering) (cfg : CheckoutPricing) (s : CouponStore) (request : PricedCheckout) :
    (cfg.Configured ∧ CouponApplies L cfg s request ∧
        applyCoupon L cfg s request request.goods =
          .ok (request.coupon s, request.off s, request.shipping cfg s, request.items s)) ∨
      (¬(cfg.Configured ∧ CouponApplies L cfg s request) ∧
        ∃ e, applyCoupon L cfg s request request.goods = .error e ∧ e ≠ .database) := by
  rcases calculateShipping_eq cfg request.goods with ⟨hconfigured, hcharge⟩ | ⟨hnot, hcharge⟩
  · rw [applyCoupon, hcharge, ok_bind]
    cases hcode : request.couponCode.filter (· ≠ "") with
    | none =>
      have hcoupon : request.coupon s = none := by rw [PricedCheckout.coupon, hcode]; rfl
      have hoff : request.off s = 0 := by rw [PricedCheckout.off, hcoupon]; rfl
      refine .inl ⟨hconfigured, fun code h => (by rw [hcode] at h; cases h), ?_⟩
      rw [PricedCheckout.shipping, PricedCheckout.items, hcoupon, hoff, sub_zero]
      simp
    | some code =>
      dsimp only
      cases hfound : s.findByCode code with
      | none =>
        refine .inr ⟨fun h => ?_, .coupon .invalid, rfl, fun h => by cases h⟩
        obtain ⟨c, hc, _⟩ := h.2 code hcode
        rw [hfound] at hc
        cases hc
      | some c =>
        have hcoupon : request.coupon s = some c := by rw [PricedCheckout.coupon, hcode]; exact hfound
        cases hevaluated : evaluateCoupon L s c request.customer request.goods (cfg.charge request.goods) request.now with
        | error e =>
          refine .inr ⟨fun h => ?_, .coupon e, ?_, fun h => by cases h⟩
          · obtain ⟨c', hc, discount, hdiscount⟩ := h.2 code hcode
            cases hfound.symm.trans hc
            cases hevaluated.symm.trans hdiscount
          · simp only [need, ok_bind, hevaluated, orError, error_bind]
        | ok discount =>
          obtain ⟨hdiscount, hfree⟩ := evaluateCoupon_eq hevaluated
          have happlies : CouponApplies L cfg s request := fun code' h => by
            cases hcode.symm.trans h
            exact ⟨c, hfound, discount, hevaluated⟩
          have hoff : discount.goodsCents = request.off s := by
            rw [PricedCheckout.off, hcoupon, Option.elim_some, hdiscount, computeDiscount_goods]
          refine .inl ⟨hconfigured, happlies, ?_⟩
          simp only [need, hevaluated, orError, ok_bind]
          rw [PricedCheckout.shipping, PricedCheckout.items, hcoupon, Option.map_some, hoff]
          rw [hoff] at hfree
          by_cases hgoods : request.off s ≠ 0
          · rw [if_pos hgoods, if_pos hgoods, if_neg fun h => hgoods (hfree.mpr (Option.some.inj h))]
            rcases calculateShipping_eq cfg (request.goods - request.off s) with ⟨_, hless⟩ | ⟨hnot, _⟩
            · rw [hless]
              rfl
            · exact absurd hconfigured hnot
          · rw [if_neg hgoods, if_neg hgoods, if_pos (congrArg some (hfree.mp (not_not.mp hgoods)))]
  · refine .inr ⟨fun h => hnot h.1, .notConfigured, ?_, fun h => by cases h⟩
    rw [applyCoupon, hcharge]
    rfl

/-- The row of the order, with this tax. -/
def PricedCheckout.order (cfg : CheckoutPricing) (s : CouponStore) (request : PricedCheckout) (tax : TaxResult) :
    OrderAmounts where
  items := request.items s
  subtotalCents := request.goods
  discountCents := request.off s
  couponId := (request.coupon s).map Coupon.id
  shippingCents := request.shipping cfg s
  taxCents := tax.taxPaise
  taxSnapshot := tax.snapshot
  totalCents := request.goods - request.off s + request.shipping cfg s + tax.taxPaise

theorem checkoutTotals_of_applyCoupon (h : applyCoupon L cfg s request request.goods =
    .ok (request.coupon s, request.off s, request.shipping cfg s, request.items s)) :
    checkoutTotals L cfg repo s request = (orError .tax (cfg.taxEngine.calculate repo
      (request.taxRequest (request.items s) (request.goods - request.off s) (request.shipping cfg s))) >>=
        fun tax => insertOrder (request.order cfg s tax)) := by
  unfold checkoutTotals
  dsimp only
  rw [PricedCheckout.goods] at h
  rw [h]
  rfl

/-- A request is charged and its row inserted, or refused before. -/
theorem checkoutTotals_cases (L : Lowering) (cfg : CheckoutPricing) (repo : TaxRepository) (s : CouponStore)
    (request : PricedCheckout) :
    (∃ tax, Charged L cfg repo s request tax ∧ checkoutTotals L cfg repo s request = insertOrder (request.order cfg s tax)) ∨
      (∀ tax, ¬Charged L cfg repo s request tax) ∧
        ∃ e, checkoutTotals L cfg repo s request = .error e ∧ e ≠ .database := by
  rcases applyCoupon_cases L cfg s request with ⟨hconfigured, happlies, hok⟩ | ⟨hnot, e, herror, hne⟩
  · rw [checkoutTotals_of_applyCoupon hok]
    cases htax : cfg.taxEngine.calculate repo
        (request.taxRequest (request.items s) (request.goods - request.off s) (request.shipping cfg s)) with
    | ok tax => exact .inl ⟨tax, ⟨hconfigured, happlies, htax⟩, rfl⟩
    | error e =>
      refine .inr ⟨fun tax h => ?_, .tax e, rfl, fun h => by cases h⟩
      cases htax.symm.trans h.tax
  · refine .inr ⟨fun tax h => hnot ⟨h.configured, h.coupon⟩, e, ?_, hne⟩
    unfold checkoutTotals
    dsimp only
    rw [PricedCheckout.goods] at herror
    rw [herror]
    rfl

/-! ### Amounts -/

theorem tax_nonneg {engine : TaxEngine} {taxRequest : TaxRequest} (h : engine.calculate repo taxRequest = .ok tax) :
    0 ≤ tax.taxPaise := by
  have hmake : ∀ {taxPaise : ℤ} {snapshot : TaxSnapshot}, TaxResult.make taxPaise snapshot = .ok tax → 0 ≤ tax.taxPaise := by
    intro taxPaise snapshot h
    unfold TaxResult.make at h
    split at h
    · cases h
    · rename_i hle
      cases h
      exact Int.not_lt.mp hle
  cases engine with
  | notConfigured => cases h
  | flatInterim ratePercent => exact hmake h
  | gst =>
    simp only [TaxEngine.calculate, gstTaxEngine] at h
    split at h
    · split at h
      · cases h
      · split at h
        · cases h
        · split at h
          · cases h
          · simp only [gstResult] at h
            split at h
            · cases h
            · split at h
              · cases h
              · exact hmake h
    · cases h

/-- Nothing is due on nothing. -/
theorem lineAmounts_of_zero {grosses : List ℤ} {rates : List Rates} {mode : PricingMode} (h : ∀ g ∈ grosses, g = 0)
    (policy : RoundingPolicy) {i : ℕ} {r : Rates} (hi : rates[i]? = some r) :
    lineAmounts grosses rates mode policy i = ⟨0, 0, 0, 0⟩ := by
  have hget : ∀ j, grosses.getD j 0 = 0 := by
    intro j
    rw [List.getD_eq_getElem?_getD]
    cases hj : grosses[j]? with
    | none => rfl
    | some g => exact h g (List.mem_of_getElem? hj)
  cases policy with
  | lineHalfUp => rw [lineAmounts_line hi, hget, slabTax_zero]
  | invoiceHalfUp =>
    have hsum : (slabWeights grosses rates r).sum = 0 := by
      refine List.sum_eq_zero fun w hw => ?_
      obtain ⟨j, _, rfl⟩ := List.mem_map.mp hw
      exact hget j
    simp only [lineAmounts_invoice hi, slabAmounts, hsum, slabTax_zero, slabPart_zero]

theorem taxAdded_of_zero {lines : List CalcLine} {intraState : Bool} {mode : PricingMode} {treatment : ShippingTreatment}
    {policy : RoundingPolicy} (h : ∀ line ∈ lines, line.valuePaise = 0) :
    (calculate lines 0 intraState mode treatment policy).taxAddedPaise = 0 := by
  have hship : (shipLines lines 0 treatment).1 = List.replicate lines.length 0 := by simp [shipLines]
  have hgross : ∀ g ∈ grossesOf lines 0 treatment, g = 0 := by
    intro g hg
    obtain ⟨i, hi⟩ := List.getElem?_of_mem hg
    rw [grossesOf, hship, List.getElem?_zipWith, List.getElem?_map, List.getElem?_replicate] at hi
    cases hline : lines[i]? with
    | none => simp [hline] at hi
    | some line =>
      have hlt : i < lines.length := (List.getElem?_eq_some_iff.mp hline).1
      simp only [hline, Option.map_some, if_pos hlt, Option.some.injEq] at hi
      rw [← hi, h line (List.mem_of_getElem? hline), add_zero]
  have htax : ∀ tax ∈ (calculate lines 0 intraState mode treatment policy).lines, tax.taxPaise = 0 := by
    intro tax htax
    obtain ⟨i, hi⟩ := List.getElem?_of_mem htax
    rw [getElem?_calculate_lines, Option.map_eq_some_iff] at hi
    obtain ⟨line, hline, rfl⟩ := hi
    have hrates : (lines.map (·.rates intraState))[i]? = some (line.rates intraState) := by simp [hline]
    have hnone : lineAmounts _ _ mode policy i = _ := lineAmounts_of_zero hgross policy hrates
    simp only [LineTax.taxPaise, lineTaxOf, amountsOf, hnone, add_zero]
  have hsum : ((calculate lines 0 intraState mode treatment policy).lines.map (·.taxPaise)).sum = 0 := by
    refine List.sum_eq_zero fun n hn => ?_
    obtain ⟨tax, hmem, rfl⟩ := List.mem_map.mp hn
    exact htax tax hmem
  rw [calculate_taxAdded, hsum]
  cases mode with
  | exclusive => rfl
  | inclusive => rfl

/-- No engine charges tax on nothing. -/
theorem tax_of_zero {engine : TaxEngine} {taxRequest : TaxRequest} (h : engine.calculate repo taxRequest = .ok tax)
    (hlines : ∀ line ∈ taxRequest.lines, line.valuePaise = 0) (hsubtotal : taxRequest.subtotalPaise = 0)
    (hshipping : taxRequest.shippingPaise = 0) : tax.taxPaise = 0 := by
  have hmake : ∀ {taxPaise : ℤ} {snapshot : TaxSnapshot}, TaxResult.make taxPaise snapshot = .ok tax →
      tax.taxPaise = taxPaise := by
    intro taxPaise snapshot h
    unfold TaxResult.make at h
    split at h
    · cases h
    · cases h
      rfl
  cases engine with
  | notConfigured => cases h
  | flatInterim ratePercent =>
    rw [hmake h, hsubtotal]
    simp [decMul, decDiv, halfUp]
  | gst =>
    simp only [TaxEngine.calculate, gstTaxEngine] at h
    split at h
    · split at h
      · cases h
      · split at h
        · cases h
        · split at h
          · cases h
          · simp only [gstResult] at h
            split at h
            · cases h
            · rename_i priced hpriced
              split at h
              · cases h
              · rw [hmake h, hshipping]
                refine taxAdded_of_zero fun line hline => ?_
                obtain ⟨p, hp, rfl⟩ := List.mem_map.mp hline
                obtain ⟨i, hi⟩ := List.getElem?_of_mem hp
                rw [getElem?_mapM hpriced, Option.bind_eq_some_iff] at hi
                obtain ⟨⟨taxLine, j⟩, hzip, hcalc⟩ := hi
                obtain ⟨_, _, hcalc⟩ := Option.bind_eq_some_iff.mp hcalc
                obtain ⟨_, _, hcalc⟩ := Option.bind_eq_some_iff.mp hcalc
                cases hcalc
                exact hlines taxLine (List.fst_mem_of_mem_zipIdx (List.mem_of_getElem? hzip))
    · cases h

/-! ### Discounts -/

theorem computeDiscount_bounds {kind : CouponKind} {goodsCents : ℤ} (hkind : kind.Admitted) (hgoods : 0 < goodsCents) :
    0 ≤ (computeDiscount kind goodsCents 0).goodsCents ∧ (computeDiscount kind goodsCents 0).goodsCents ≤ goodsCents := by
  cases kind with
  | percentage percentOff maxDiscountCents =>
    refine ⟨le_min ?_ hgoods.le, min_le_right _ _⟩
    have hraw : 0 ≤ (goodsCents * percentOff + 5000) / 10000 := by positivity
    cases maxDiscountCents with
    | none => exact hraw
    | some m => exact le_min hraw (hkind.2.2 m rfl).le
  | fixed amountOffCents => exact ⟨le_min hkind.le hgoods.le, min_le_right _ _⟩
  | freeShipping => exact ⟨le_rfl, hgoods.le⟩

theorem computeDiscount_eq_iff {kind : CouponKind} {goodsCents : ℤ} (hgoods : 0 < goodsCents) :
    (computeDiscount kind goodsCents 0).goodsCents = goodsCents ↔ kind.TakesAll goodsCents := by
  cases kind with
  | percentage percentOff maxDiscountCents =>
    have hraw : goodsCents ≤ (goodsCents * percentOff + 5000) / 10000 ↔ goodsCents * (10000 - percentOff) ≤ 5000 := by
      rw [Int.le_ediv_iff_mul_le (by norm_num), mul_sub]
      constructor
      · intro h
        linarith
      · intro h
        linarith
    cases maxDiscountCents with
    | none =>
      simp only [computeDiscount, CouponKind.TakesAll, min_eq_right_iff, hraw]
      exact ⟨fun h => ⟨h, fun m hm => by cases hm⟩, And.left⟩
    | some m =>
      simp only [computeDiscount, CouponKind.TakesAll, min_eq_right_iff, le_min_iff, hraw]
      exact and_congr_right fun _ => ⟨fun h m' hm => by cases hm; exact h, fun h => h m rfl⟩
  | fixed amountOffCents => simp only [computeDiscount, CouponKind.TakesAll, min_eq_right_iff]
  | freeShipping => exact ⟨fun h => absurd h hgoods.ne, False.elim⟩

theorem off_bounds (hkinds : ∀ c ∈ s.coupons.rows, c.kind.Admitted) (hgoods : 0 < request.goods) :
    0 ≤ request.off s ∧ request.off s ≤ request.goods := by
  rw [PricedCheckout.off]
  cases hcoupon : request.coupon s with
  | none => exact ⟨le_rfl, hgoods.le⟩
  | some c =>
    obtain ⟨code, _, hfound⟩ := Option.bind_eq_some_iff.mp hcoupon
    exact computeDiscount_bounds (hkinds c (List.mem_of_find?_eq_some hfound)) hgoods

theorem off_eq_goods_iff (hgoods : 0 < request.goods) :
    request.off s = request.goods ↔ ∃ c ∈ request.coupon s, c.kind.TakesAll request.goods := by
  rw [PricedCheckout.off]
  cases hcoupon : request.coupon s with
  | none => exact ⟨fun h => absurd h hgoods.ne, fun ⟨c, hc, _⟩ => by cases hc⟩
  | some c =>
    rw [Option.elim_some, computeDiscount_eq_iff hgoods]
    exact ⟨fun h => ⟨c, rfl, h⟩, fun ⟨c', hc', h⟩ => by cases hc'; exact h⟩

theorem goods_pos (hlines : request.lines ≠ []) (hpositive : ∀ line ∈ request.lines, 0 < line.priceCents ∧ 0 < line.quantity) :
    0 < request.goods := by
  refine List.sum_pos _ (fun n hn => ?_) fun h => hlines (List.map_eq_nil_iff.mp h)
  obtain ⟨line, hline, rfl⟩ := List.mem_map.mp hn
  obtain ⟨hprice, hquantity⟩ := hpositive line hline
  exact mul_pos (Int.natCast_pos.mpr hprice) (Int.natCast_pos.mpr hquantity)

theorem charge_nonneg (cfg : CheckoutPricing) (goodsCents : ℤ) : 0 ≤ cfg.charge goodsCents := by
  unfold CheckoutPricing.charge
  dsimp only
  split
  · exact le_rfl
  · exact Int.natCast_nonneg _

theorem shipping_nonneg (cfg : CheckoutPricing) (s : CouponStore) (request : PricedCheckout) : 0 ≤ request.shipping cfg s := by
  unfold PricedCheckout.shipping
  split
  · exact le_rfl
  · exact charge_nonneg cfg _

/-- Where nothing is to pay for the goods, each line is paid by the coupon. -/
theorem items_of_taken (hgoods : 0 < request.goods) (hsmall : request.goods < 10 ^ 13) (hoff : request.off s = request.goods) :
    ∀ item ∈ request.items s, item.taxLine.valuePaise = 0 := by
  have hne : request.off s ≠ 0 := by omega
  have hsplit : SplitOver request.lines (request.off s) (request.items s) := by
    rw [PricedCheckout.items, if_pos hne]
    exact splitOver_shares (hoff ▸ hgoods.le) hne hoff.le hsmall
  have hvalues : ((request.items s).map (·.line.value)).sum = request.goods := by
    rw [PricedCheckout.goods, ← hsplit.lines, List.map_map]
    rfl
  have hparts : ((request.items s).map (·.line.value)).sum =
      ((request.items s).map fun item => item.line.value - item.discountCents).sum +
        ((request.items s).map (·.discountCents)).sum := by
    rw [← List.sum_map_add]
    exact congrArg List.sum (List.map_congr_left fun item _ => (sub_add_cancel _ _).symm)
  rw [hvalues, hsplit.sum, hoff] at hparts
  have hnonneg : ∀ n ∈ (request.items s).map fun item => item.line.value - item.discountCents, 0 ≤ n := by
    intro n hn
    obtain ⟨item, hitem, rfl⟩ := List.mem_map.mp hn
    exact sub_nonneg.mpr (hsplit.within item hitem).2
  intro item hitem
  exact List.all_zero_of_le_zero_le_of_sum_eq_zero hnonneg (by omega) (List.mem_map_of_mem hitem)

/-! ### Orders -/

/-- The largest value of an integer column. -/
def maxInteger : ℤ := 2147483647

/-- `checkout` from the locked lines on: what is refused, by an error, leaves the stock as it was. -/
def checkoutSale (L : Lowering) (cfg : CheckoutPricing) (repo : TaxRepository) (s : CouponStore) (request : PricedCheckout)
    (sell : Stock → Stock) (stock : Stock) : Stock × Except CheckoutError OrderAmounts :=
  match checkoutTotals L cfg repo s request with
  | .ok order => (sell stock, .ok order)
  | .error e => (stock, .error e)

/-- An order that can be stored and paid in this currency, or a refusal of checkout itself that leaves the stock. -/
def SoundSale (code : String) (stock : Stock) : Stock × Except CheckoutError OrderAmounts → Prop
  | (_, .ok order) => toStripeAmount order.totalCents code = .ok order.totalCents ∧
    ∀ n ∈ [order.subtotalCents, order.discountCents, order.shippingCents, order.taxCents, order.totalCents],
      fitsInteger n = true
  | (stock', .error e) => e ≠ .database ∧ stock' = stock

theorem toStripeAmount_iff {code : String} (hcode : paymentVerified code = some true) (n : ℤ) :
    toStripeAmount n code = .ok n ↔ 0 < n := by
  simp only [toStripeAmount, hcode, need, require, ok_bind, if_pos]
  by_cases hn : 0 < n
  · simp [hn]
  · simp [hn]

/-- The row is stored where its subtotal and its total fit. -/
theorem insertOrder_order (hgoods : 0 < request.goods) (hoff : 0 ≤ request.off s ∧ request.off s ≤ request.goods)
    (htax : 0 ≤ tax.taxPaise) :
    (request.goods ≤ maxInteger ∧ request.goods - request.off s + request.shipping cfg s + tax.taxPaise ≤ maxInteger ∧
        insertOrder (request.order cfg s tax) = .ok (request.order cfg s tax)) ∨
      (¬(request.goods ≤ maxInteger ∧
          request.goods - request.off s + request.shipping cfg s + tax.taxPaise ≤ maxInteger) ∧
        insertOrder (request.order cfg s tax) = .error .database) := by
  have hshipping := shipping_nonneg cfg s request
  have hcoupon : (request.order cfg s tax).couponId = none → (request.order cfg s tax).discountCents = 0 := by
    intro h
    have hnone : request.coupon s = none := Option.map_eq_none_iff.mp h
    change request.off s = 0
    rw [PricedCheckout.off, hnone]
    rfl
  have hfits : ([(request.order cfg s tax).subtotalCents, (request.order cfg s tax).discountCents,
      (request.order cfg s tax).shippingCents, (request.order cfg s tax).taxCents,
      (request.order cfg s tax).totalCents].all fitsInteger = true) ↔
      request.goods ≤ maxInteger ∧
        request.goods - request.off s + request.shipping cfg s + tax.taxPaise ≤ maxInteger := by
    simp only [PricedCheckout.order, fitsInteger, List.all_cons, List.all_nil, Bool.and_true, Bool.and_eq_true,
      decide_eq_true_eq, maxInteger]
    omega
  unfold insertOrder
  by_cases hsmall : request.goods ≤ maxInteger ∧
      request.goods - request.off s + request.shipping cfg s + tax.taxPaise ≤ maxInteger
  · refine .inl ⟨hsmall.1, hsmall.2, ?_⟩
    simp only [require, if_pos (hfits.mpr hsmall), if_pos hcoupon, ok_bind]
    rw [if_pos (show 0 ≤ (request.order cfg s tax).discountCents ∧
      (request.order cfg s tax).discountCents ≤ (request.order cfg s tax).subtotalCents from hoff)]
    rfl
  · refine .inr ⟨hsmall, ?_⟩
    simp only [require, if_neg fun h => hsmall (hfits.mp h), error_bind]

/-- Nothing is left to pay exactly where the coupon takes off all the goods and shipping is for nothing. -/
theorem total_eq_zero_iff (hgoods : 0 < request.goods) (hsmall : request.goods ≤ maxInteger)
    (hoff : 0 ≤ request.off s ∧ request.off s ≤ request.goods) (h : Charged L cfg repo s request tax) :
    request.goods - request.off s + request.shipping cfg s + tax.taxPaise = 0 ↔
      cfg.flatShippingCents = some 0 ∧ ∃ c ∈ request.coupon s, c.kind.TakesAll request.goods := by
  have hshipping := shipping_nonneg cfg s request
  have htax := tax_nonneg h.tax
  obtain ⟨flat, hflat⟩ := Option.ne_none_iff_exists'.mp h.configured.flat
  rw [← off_eq_goods_iff hgoods]
  -- what is left of the goods is nothing, which waives no charge
  have hcharge : request.off s = request.goods → request.shipping cfg s = flat := by
    intro htaken
    obtain ⟨c, hc, hall⟩ := (off_eq_goods_iff hgoods).mp htaken
    have hkind : (request.coupon s).map Coupon.kind ≠ some .freeShipping := by
      rw [Option.mem_def.mp hc, Option.map_some]
      intro hfree
      rw [Option.some.inj hfree] at hall
      exact hall
    rw [PricedCheckout.shipping, if_neg hkind, htaken, sub_self, CheckoutPricing.charge, hflat]
    rw [if_neg fun hwaived => hwaived.1 (by omega)]
    rfl
  constructor
  · intro hzero
    have htaken : request.off s = request.goods := by omega
    have hship := hcharge htaken
    have hnone : flat = 0 := by omega
    exact ⟨hnone ▸ hflat, htaken⟩
  · rintro ⟨hnone, htaken⟩
    cases hflat.symm.trans hnone
    have hship : request.shipping cfg s = 0 := hcharge htaken
    have hnothing : tax.taxPaise = 0 := by
      refine tax_of_zero h.tax (fun line hline => ?_) (sub_eq_zero.mpr htaken.symm) hship
      obtain ⟨item, hitem, rfl⟩ := List.mem_map.mp hline
      exact items_of_taken hgoods (by rw [maxInteger] at hsmall; omega) htaken item hitem
    omega

/-- Checkout comes to an order that can be stored and paid, or refuses, if and only if what it charges fits and is not
    nothing: the goods and the amount to pay are within the columns, and no coupon takes off all the goods where shipping
    is for nothing. -/
theorem sound_sale_iff {code : String} (hcode : paymentVerified code = some true) (hlines : request.lines ≠ [])
    (hpositive : ∀ line ∈ request.lines, 0 < line.priceCents ∧ 0 < line.quantity)
    (hkinds : ∀ c ∈ s.coupons.rows, c.kind.Admitted) (sell : Stock → Stock) (stock : Stock) :
    SoundSale code stock (checkoutSale L cfg repo s request sell stock) ↔
      ∀ tax, Charged L cfg repo s request tax → request.goods ≤ maxInteger ∧
        request.goods - request.off s + request.shipping cfg s + tax.taxPaise ≤ maxInteger ∧
        ¬(cfg.flatShippingCents = some 0 ∧ ∃ c ∈ request.coupon s, c.kind.TakesAll request.goods) := by
  have hgoods := goods_pos hlines hpositive
  have hoff := off_bounds hkinds hgoods
  have hshipping := shipping_nonneg cfg s request
  unfold checkoutSale
  rcases checkoutTotals_cases L cfg repo s request with ⟨tax, hcharged, htotals⟩ | ⟨hnot, e, herror, hne⟩
  · have htax := tax_nonneg hcharged.tax
    have honly : ∀ tax', Charged L cfg repo s request tax' → tax' = tax :=
      fun tax' h => Except.ok.inj (h.tax.symm.trans hcharged.tax)
    rcases @insertOrder_order cfg _ _ _ hgoods hoff htax with ⟨hsmall, hfits, hok⟩ | ⟨hlarge, herror⟩
    · rw [htotals, hok]
      have hzero := total_eq_zero_iff hgoods hsmall hoff hcharged
      have hstripe := toStripeAmount_iff hcode (request.goods - request.off s + request.shipping cfg s + tax.taxPaise)
      constructor
      · rintro ⟨hpaid, _⟩ tax' htax'
        obtain rfl := honly tax' htax'
        refine ⟨hsmall, hfits, fun hfree => ?_⟩
        have hpositive := hstripe.mp hpaid
        exact hpositive.ne' (hzero.mpr hfree)
      · intro h
        obtain ⟨_, _, hpaid⟩ := h tax hcharged
        refine ⟨hstripe.mpr ?_, ?_⟩
        · have hnot := mt hzero.mp hpaid
          omega
        · simp only [PricedCheckout.order, fitsInteger, List.mem_cons, List.not_mem_nil, or_false, forall_eq_or_imp,
            forall_eq, decide_eq_true_eq]
          rw [maxInteger] at hsmall hfits
          omega
    · rw [htotals, herror]
      constructor
      · intro h
        exact absurd rfl h.1
      · intro h
        obtain ⟨hsmall, hfits, _⟩ := h tax hcharged
        exact absurd ⟨hsmall, hfits⟩ hlarge
  · rw [herror]
    exact ⟨fun _ tax h => absurd h (hnot tax), fun _ => ⟨hne, rfl⟩⟩

/-- Thirty million pieces at 100 each. -/
def hugeRequest : PricedCheckout :=
  ⟨[⟨7, some 1, 100, 30000000⟩], none, .account 1, 0, 20000, some "Maharashtra", some "IN"⟩

/-- A coupon over everything where shipping costs nothing leaves an order over nothing; goods that no column holds end in
    an error of the database. -/
theorem unsound_sales :
    (∀ stock : Stock, ¬SoundSale "inr" stock
        (checkoutSale giftLowering { giftPricing with flatShippingCents := some 0 } shopMaster giftStore (giftRequest "GIFT") id
          stock)) ∧
      ∀ stock : Stock, ¬SoundSale "inr" stock
        (checkoutSale giftLowering giftPricing shopMaster giftStore hugeRequest id stock) := by
  constructor <;> intro stock
  · obtain ⟨order, h, htotal⟩ := exists_ok (x := checkoutTotals giftLowering { giftPricing with flatShippingCents := some 0 }
      shopMaster giftStore (giftRequest "GIFT")) (p := fun order => order.totalCents = 0) (by decide +kernel)
    rw [checkoutSale, h]
    rintro ⟨hpaid, _⟩
    rw [of_decide_eq_true htotal] at hpaid
    cases hpaid
  · have h : checkoutTotals giftLowering giftPricing shopMaster giftStore hugeRequest = .error .database := by decide +kernel
    rw [checkoutSale, h]
    exact fun hsound => hsound.1 rfl

/-- No product is left in stock. -/
def bareStock : Stock := ⟨.empty, .empty, .empty, .empty, []⟩

theorem sound_sale_tenth_off :
    SoundSale "inr" bareStock
      (checkoutSale giftLowering giftPricing shopMaster giftStore (giftRequest "TENTH") id bareStock) := by
  refine (sound_sale_iff (by decide) (by decide) (by decide) (by decide) id bareStock).mpr fun tax h => ?_
  have hcalculated : (giftPricing.taxEngine.calculate shopMaster ((giftRequest "TENTH").taxRequest
      ((giftRequest "TENTH").items giftStore) ((giftRequest "TENTH").goods - (giftRequest "TENTH").off giftStore)
      ((giftRequest "TENTH").shipping giftPricing giftStore))).toOption.map (·.taxPaise) = some 18042 := by
    decide +kernel
  rw [h.tax] at hcalculated
  have htax : tax.taxPaise = 18042 := Option.some.inj hcalculated
  rw [htax]
  decide +kernel

end NovaCart
