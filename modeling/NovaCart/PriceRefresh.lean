import NovaCart.CartMerge
import NovaCart.OrderTotals
import NovaCart.StoreCurrency

/-! One checkout from beginning to end (`OrderService.checkout`, the checkout endpoint), and what a refusal for changed
    prices leaves behind.

    Every error rolls the transaction back but one: when a price has changed, the endpoint returns an answer where the
    others raise, so that what was written until then is committed. -/

namespace NovaCart

open Schemes Table
open Keyed (key)

/-- What checkout reads and writes. -/
structure Storefront (Hash : Type) where
  db : Db
  carts : CartStore
  /-- `updated_at` of the lines of the carts -/
  lineUpdatedAt : Id → Time
  records : Table (CheckoutRecord Hash)
  coupons : CouponStore
  /-- the row of `store_settings` -/
  currency : Option String
  nextOrder : Nat

/-- An item of `price_changes`. -/
structure PriceChange where
  itemId : Id
  productId : Id
  variantId : Option Id
  oldPriceCents : ℤ
  newPriceCents : ℤ
  deriving DecidableEq, Repr

inductive StorefrontAnswer
  | order (orderId : Id)
  | conflict
  | priceChanged (changes : List PriceChange) (newSubtotalCents : ℤ)
  | refused (e : Err)
  deriving DecidableEq, Repr

/-- The settings, and what comes from parts of the store that are not modelled here. -/
structure CheckoutConfig where
  defaultStoreCurrency : String
  pricingConfigured : Bool
  /-- the address, and whether it is delivered to -/
  resolveShipping : CheckoutCall → Result Unit
  requireTaxClassification : Bool
  taxApproved : Id → Bool
  /-- total and whether the tax engine calculated it, from the coupons, the call and the subtotal -/
  pricing : CouponStore → CheckoutCall → ℤ → Except CheckoutError (ℤ × Bool)
  firstItemId : Id
  now : Time

def CartEntry.line (e : CartEntry) : CartLine := ⟨e.unit.productId, e.unit.variantId, e.quantity, e.priceCentsSnapshot⟩

/-- `current_price` of a line: that of the variant if it has one of its own, else that of the product. -/
def currentPrice (s : Stock) (l : CartLine) : ℤ :=
  ((l.variantId.bind s.variants.get?).bind ProductVariant.priceOverrideCents).getD
    ((s.products.get? l.productId).elim 0 Product.priceCents)

/-- The lines whose price is not the one the customer last saw, in the order in which checkout takes them. -/
def priceChanges (s : Stock) (items : List CartEntry) : List PriceChange :=
  (items.insertionSort fun e e' => e.line.before e'.line).filterMap fun e =>
    if e.priceCentsSnapshot ≠ currentPrice s e.line then
      some ⟨e.id, e.unit.productId, e.unit.variantId, e.priceCentsSnapshot, currentPrice s e.line⟩
    else none

/-- What follows the price check, in `checkout`. -/
def placeOrder (db : Db) (req : CheckoutRequest) (basket : Basket) (now : Time) : Result Db := do
  let (total, gst) ← req.pricing basket.subtotalCents
  let db ← db.stockWrites (adjustStockMany basket.stockDeltas ⟨.sale, some req.orderId⟩)
  let db ← db.stockWrites (adjustVariantStockMany basket.variantDeltas ⟨.sale, some req.orderId⟩)
  let db ← db.write (.insertOrder {
    id := req.orderId, userId := req.userId, status := .pending, totalCents := total
    currency := some req.currency, stockReleasedAt := none, paidInDemoMode := false
    createdAt := now, gstCalculated := gst })
  let items ← orderItems req.orderId req.firstItemId basket.sold
  let db ← db.stockWrites (items.map .insertItem)
  db.write (.history ⟨req.orderId, .pending, .pending, none, none, now⟩)

/-- It is the checkout of the store from there on. -/
theorem checkout_eq_placeOrder (db : Db) (req : CheckoutRequest) (now : Time) : checkout db req now = (do
    require (req.lines ≠ []) .emptyCart
    let basket ← Basket.addLines db.stock {} (req.lines.insertionSort CartLine.before)
    require (basket.priceChanged = false) (.priceChanged basket.subtotalCents)
    placeOrder db req basket now) := rfl

namespace Storefront

variable {Hash : Type}

/-- `get_or_initialize_currency`: a new store records the default. -/
def resolveCurrency (s : Storefront Hash) (default_ : String) : Result (Storefront Hash × String) :=
  match s.currency with
  | some code => (need (getCurrency code) (.currencyUnsupported code)).map fun code => (s, code)
  | none =>
    if s.db.orders.rows ≠ [] then .error (.runtime "The store currency is not configured")
    else (need (getCurrency default_) (.currencyUnsupported default_)).map fun code =>
      ({ s with currency := some default_ }, code)

/-- `get_or_create_cart` -/
def getOrCreateCart (s : Storefront Hash) (owner : CartOwner) : Result (Storefront Hash × LoadedCart) :=
  match s.carts.load owner with
  | some cart => .ok (s, cart)
  | none => do
    let carts ← orError (fun _ => .integrity "carts_pkey") (s.carts.write (.createCart owner))
    let row ← need (carts.cartOf owner) (.runtime "cart")
    .ok ({ s with carts := carts }, ⟨row, []⟩)

/-- `set_price_snapshot` -/
def setPriceSnapshot (now : Time) (s : Storefront Hash) (c : PriceChange) : Storefront Hash :=
  { s with
    carts := { s.carts with
      entries := s.carts.entries.map
        (fun e => if e.id = c.itemId then { e with priceCentsSnapshot := c.newPriceCents } else e) fun e => by
          split
          · rfl
          · rfl }
    lineUpdatedAt := fun id => if id = c.itemId then now else s.lineUpdatedAt id }

/-- `CartRepository.clear` -/
def clear (s : Storefront Hash) (cart : LoadedCart) : Storefront Hash :=
  { s with carts := { s.carts with entries := s.carts.entries.keep fun e => e.id ∉ cart.items.map (·.id) } }

variable [DecidableEq Hash] (sha256 : Hashed → Hash) (cfg : CheckoutConfig)

/-- An order was made with this identity and this key before. -/
def answerAgain (s : Storefront Hash) (call : CheckoutCall) (existing : CheckoutRecord Hash) : Result (Storefront Hash × StorefrontAnswer) :=
  if existing.requestHash ≠ none ∧ existing.requestHash ≠ some (sha256 (.request call.canonical)) then .ok (s, .conflict)
  else if existing.cartDigest = none then .ok (s, .order existing.orderId)
  else do
    let (created, waiting) ← s.getOrCreateCart call.caller.owner
    if waiting.items ≠ [] ∧ existing.cartDigest ≠ some (sha256 (.cart (cartText (waiting.items.map CartEntry.line)))) then
      .ok (s, .conflict)
    else .ok (created, .order existing.orderId)

/-- The lines at the prices of the locked rows: they are refreshed, or the order is made. -/
def sellCart (s : Storefront Hash) (call : CheckoutCall) (currency : String) (cart : LoadedCart) : Result (Storefront Hash × StorefrontAnswer) := do
  let lines := cart.items.map CartEntry.line
  let basket ← Basket.addLines s.db.stock {} (lines.insertionSort CartLine.before)
  if basket.priceChanged = true then
    let changes := priceChanges s.db.stock cart.items
    .ok (changes.foldl (setPriceSnapshot cfg.now) s, .priceChanged changes basket.subtotalCents)
  else do
    let req : CheckoutRequest := {
      orderId := s.nextOrder, userId := call.caller.owner.userId, currency := currency, lines := lines
      firstItemId := cfg.firstItemId, pricing := fun n => orError (fun _ => .pricing "checkout") (cfg.pricing s.coupons call n) }
    let db ← placeOrder s.db req basket cfg.now
    let records ← need (s.records.insert? {
      orderId := s.nextOrder, owner := call.caller.owner, idempotencyKey := call.idempotencyKey
      requestHash := some (sha256 (.request call.canonical)), cartDigest := some (sha256 (.cart (cartText lines))) })
      (.integrity "uq_orders_idempotency_key")
    .ok (({ s with db := db, records := records, nextOrder := s.nextOrder + 1 } : Storefront Hash).clear cart, .order s.nextOrder)

/-- `OrderService.checkout` -/
def checkoutCart (s : Storefront Hash) (call : CheckoutCall) : Result (Storefront Hash × StorefrontAnswer) :=
  match s.records.rows.find? fun r => r.owner = call.caller.owner && r.idempotencyKey = call.idempotencyKey with
  | some existing => s.answerAgain sha256 call existing
  | none => do
    require (cfg.pricingConfigured = true) (.pricing "Checkout is not configured")
    let (s, currency) ← s.resolveCurrency cfg.defaultStoreCurrency
    cfg.resolveShipping call
    let (s, cart) ← s.getOrCreateCart call.caller.owner
    require (cart.items ≠ []) .emptyCart
    require (cfg.requireTaxClassification = true → ∀ e ∈ cart.items,
      (s.db.stock.products.get? e.unit.productId).isSome = true → cfg.taxApproved e.unit.productId = true)
      (.pricing "A product has no approved tax classification")
    s.sellCart sha256 cfg call currency cart

/-- What is committed, and what the call is told: an error rolls back. -/
def request (s : Storefront Hash) (call : CheckoutCall) : Storefront Hash × StorefrontAnswer :=
  match s.checkoutCart sha256 cfg call with
  | .ok r => r
  | .error e => (s, .refused e)

end Storefront

/-! ### The prices of the lines -/

variable {stock : Stock} {b b' : Basket}

theorem currentPrice_variant {l : CartLine} {vid : Id} {p : Product} {v : ProductVariant} (hvariant : l.variantId = some vid)
    (hp : stock.products.get? l.productId = some p) (hv : stock.variants.get? vid = some v) :
    currentPrice stock l = v.priceOverrideCents.getD p.priceCents := by
  rw [currentPrice, hvariant, Option.bind_some, hv, hp]
  rfl

theorem currentPrice_simple {l : CartLine} {p : Product} (hvariant : l.variantId = none)
    (hp : stock.products.get? l.productId = some p) : currentPrice stock l = p.priceCents := by
  rw [currentPrice, hvariant, hp]
  rfl

/-- A line is sold at its current price. -/
theorem addLine_price {l : CartLine} (h : b.addLine stock l = .ok b') :
    b'.subtotalCents = b.subtotalCents + currentPrice stock l * l.quantity ∧
      b'.priceChanged = (b.priceChanged || decide (l.priceCentsSnapshot ≠ currentPrice stock l)) := by
  unfold Basket.addLine at h
  split at h
  · rename_i vid hvariant
    obtain ⟨p, hp, h⟩ := bind_ok h
    obtain ⟨v, hv, h⟩ := bind_ok h
    obtain ⟨_, h⟩ := require_bind_ok h
    obtain ⟨_, h⟩ := require_bind_ok h
    cases h
    rw [currentPrice_variant hvariant (need_eq_ok.mp hp) (need_eq_ok.mp hv)]
    exact ⟨rfl, rfl⟩
  · rename_i hvariant
    obtain ⟨p, hp, h⟩ := bind_ok h
    obtain ⟨_, h⟩ := require_bind_ok h
    obtain ⟨_, h⟩ := require_bind_ok h
    obtain ⟨_, h⟩ := require_bind_ok h
    cases h
    rw [currentPrice_simple hvariant (need_eq_ok.mp hp)]
    exact ⟨rfl, rfl⟩

theorem addLines_price {ls : List CartLine} (h : Basket.addLines stock b ls = .ok b') :
    b'.subtotalCents = b.subtotalCents + (ls.map fun l => currentPrice stock l * l.quantity).sum ∧
      (b'.priceChanged = true ↔ b.priceChanged = true ∨ ∃ l ∈ ls, l.priceCentsSnapshot ≠ currentPrice stock l) := by
  induction ls generalizing b with
  | nil =>
    cases h
    simp
  | cons l ls ih =>
    obtain ⟨b₁, hline, hrest⟩ := bind_ok h
    obtain ⟨hsum, hchanged⟩ := addLine_price hline
    obtain ⟨hsums, hchanges⟩ := ih hrest
    refine ⟨?_, ?_⟩
    · rw [hsums, hsum, List.map_cons, List.sum_cons, add_assoc]
    · rw [hchanges, hchanged, Bool.or_eq_true, decide_eq_true_eq, or_assoc, List.exists_mem_cons_iff]

/-- The loop takes the lines in its own order, which does not show. -/
theorem addLines_sorted {ls : List CartLine} (h : Basket.addLines stock {} (ls.insertionSort CartLine.before) = .ok b) :
    b.subtotalCents = (ls.map fun l => currentPrice stock l * l.quantity).sum ∧
      (b.priceChanged = true ↔ ∃ l ∈ ls, l.priceCentsSnapshot ≠ currentPrice stock l) := by
  obtain ⟨hsum, hchanged⟩ := addLines_price h
  refine ⟨?_, ?_⟩
  · rw [hsum, ((List.perm_insertionSort _ ls).map _).sum_eq]
    exact zero_add _
  · rw [hchanged]
    simp [List.mem_insertionSort]

/-! ### The refresh -/

/-- A line at its current price. -/
def CartEntry.refreshed (s : Stock) (e : CartEntry) : CartEntry := { e with priceCentsSnapshot := currentPrice s e.line }

variable {Hash : Type} {s s' : Storefront Hash} {items : List CartEntry} {changes : List PriceChange} {now : Time}

theorem foldl_setPriceSnapshot (changes : List PriceChange) (s : Storefront Hash) :
    let s' := changes.foldl (Storefront.setPriceSnapshot now) s
    s' = { s with carts := { s.carts with entries := s'.carts.entries }, lineUpdatedAt := s'.lineUpdatedAt } ∧
      s'.carts.entries.rows = s.carts.entries.rows.map (fun e => changes.foldl
        (fun e c => if e.id = c.itemId then { e with priceCentsSnapshot := c.newPriceCents } else e) e) ∧
      s'.lineUpdatedAt = fun id => if ∃ c ∈ changes, c.itemId = id then now else s.lineUpdatedAt id := by
  induction changes generalizing s with
  | nil => simp
  | cons c changes ih =>
    obtain ⟨hframe, hrows, htimes⟩ := ih (s.setPriceSnapshot now c)
    refine ⟨hframe, ?_, ?_⟩
    · rw [List.foldl_cons, hrows]
      simp only [Storefront.setPriceSnapshot, Table.map, List.map_map]
      rfl
    · rw [List.foldl_cons, htimes]
      funext id
      simp only [Storefront.setPriceSnapshot, List.exists_mem_cons_iff]
      by_cases hlater : ∃ c ∈ changes, c.itemId = id
      · rw [if_pos hlater, if_pos (.inr hlater)]
      · rw [if_neg hlater]
        by_cases hid : id = c.itemId
        · rw [if_pos hid, if_pos (.inl hid.symm)]
        · rw [if_neg hid, if_neg fun h => h.elim (fun h => hid h.symm) hlater]

/-- Updates of one row that all say the same. -/
theorem foldl_price {e : CartEntry} {price : ℤ} (h : ∀ c ∈ changes, c.itemId = e.id → c.newPriceCents = price) :
    changes.foldl (fun e c => if e.id = c.itemId then { e with priceCentsSnapshot := c.newPriceCents } else e) e =
      if ∃ c ∈ changes, c.itemId = e.id then { e with priceCentsSnapshot := price } else e := by
  induction changes generalizing e with
  | nil => simp
  | cons c changes ih =>
    have hlater : ∀ c ∈ changes, c.itemId = e.id → c.newPriceCents = price := fun c hc => h c (List.mem_cons_of_mem _ hc)
    rw [List.foldl_cons]
    by_cases hid : e.id = c.itemId
    · rw [if_pos hid, h c List.mem_cons_self hid.symm, ih (e := { e with priceCentsSnapshot := price }) hlater,
        if_pos (c := ∃ c' ∈ c :: changes, c'.itemId = e.id) ⟨c, List.mem_cons_self, hid.symm⟩]
      split
      · rfl
      · rfl
    · rw [if_neg hid, ih hlater]
      refine if_congr ?_ rfl rfl
      rw [List.exists_mem_cons_iff]
      exact (or_iff_right fun h => hid h.symm).symm

theorem mem_priceChanges {c : PriceChange} : c ∈ priceChanges stock items ↔
    ∃ e ∈ items, e.priceCentsSnapshot ≠ currentPrice stock e.line ∧
      c = ⟨e.id, e.unit.productId, e.unit.variantId, e.priceCentsSnapshot, currentPrice stock e.line⟩ := by
  simp only [priceChanges, List.mem_filterMap, List.mem_insertionSort, Option.ite_none_right_eq_some, Option.some.injEq]
  exact exists_congr fun e => and_congr_right fun _ => and_congr_right fun _ => eq_comm

/-- The committed state after a refusal for changed prices. -/
structure Refreshed (cfg : CheckoutConfig) (owner : CartOwner) (s s' : Storefront Hash) : Prop where
  /-- nothing but these three -/
  frame : s' = { s with
    carts := { s.carts with entries := s'.carts.entries }, lineUpdatedAt := s'.lineUpdatedAt, currency := s'.currency }
  /-- the lines of the cart have their current prices, and the others are as they were -/
  lines : s'.carts.entries.rows =
    s.carts.entries.rows.map fun e => if e ∈ s.carts.lines owner then e.refreshed s.db.stock else e
  /-- the lines whose price has changed are stamped -/
  stamps : s'.lineUpdatedAt = fun id =>
    if ∃ e ∈ s.carts.lines owner, e.id = id ∧ e.priceCentsSnapshot ≠ currentPrice s.db.stock e.line then cfg.now
    else s.lineUpdatedAt id
  currency : s'.currency = s.currency ∨
    s.currency = none ∧ s.db.orders.rows = [] ∧ s'.currency = some cfg.defaultStoreCurrency

section

variable [DecidableEq Hash] {sha256 : Hashed → Hash} {cfg : CheckoutConfig} {call : CheckoutCall} {subtotal : ℤ}

theorem answerAgain_ne {existing : CheckoutRecord Hash} :
    s.answerAgain sha256 call existing ≠ .ok (s', .priceChanged changes subtotal) := by
  intro h
  unfold Storefront.answerAgain at h
  split at h
  · cases h
  · split at h
    · cases h
    · obtain ⟨⟨created, waiting⟩, _, h⟩ := bind_ok h
      dsimp only at h
      split at h
      · cases h
      · cases h

/-- The currency of a store: the recorded one, or the default if it is new. -/
theorem resolveCurrency_spec {default_ code : String} (h : s.resolveCurrency default_ = .ok (s', code)) :
    s' = { s with currency := s'.currency } ∧
      (s'.currency = s.currency ∨ s.currency = none ∧ s.db.orders.rows = [] ∧ s'.currency = some default_) := by
  unfold Storefront.resolveCurrency at h
  split at h
  · obtain ⟨_, _, hpair⟩ := except_map_ok h
    cases hpair
    exact ⟨rfl, .inl rfl⟩
  · rename_i hnone
    split at h
    · cases h
    · rename_i horders
      obtain ⟨_, _, hpair⟩ := except_map_ok h
      cases hpair
      exact ⟨rfl, .inr ⟨hnone, not_not.mp horders, rfl⟩⟩

/-- A cart with items was there before. -/
theorem getOrCreateCart_spec {owner : CartOwner} {cart : LoadedCart} (h : s.getOrCreateCart owner = .ok (s', cart))
    (hitems : cart.items ≠ []) : s' = s ∧ cart.items = s.carts.lines owner := by
  unfold Storefront.getOrCreateCart at h
  split at h
  · rename_i loaded hload
    cases h
    obtain ⟨row, hcart, rfl⟩ := Option.map_eq_some_iff.mp hload
    refine ⟨rfl, ?_⟩
    rw [CartStore.lines, hcart]
  · obtain ⟨carts, _, h⟩ := bind_ok h
    obtain ⟨row, _, h⟩ := bind_ok h
    cases h
    exact absurd rfl hitems

/-- A checkout that finds changed prices: what it has read, and that it ends with the refresh. -/
theorem of_priceChanged (h : s.request sha256 cfg call = (s', .priceChanged changes subtotal)) :
    ∃ s₁ basket, s₁ = { s with currency := s₁.currency } ∧
      (s₁.currency = s.currency ∨ s.currency = none ∧ s.db.orders.rows = [] ∧ s₁.currency = some cfg.defaultStoreCurrency) ∧
      Basket.addLines s.db.stock {} (((s.carts.lines call.caller.owner).map CartEntry.line).insertionSort CartLine.before) =
        .ok basket ∧ basket.priceChanged = true ∧ changes = priceChanges s.db.stock (s.carts.lines call.caller.owner) ∧
      subtotal = basket.subtotalCents ∧ s' = changes.foldl (Storefront.setPriceSnapshot cfg.now) s₁ := by
  unfold Storefront.request at h
  split at h
  · rename_i r hr
    subst h
    unfold Storefront.checkoutCart at hr
    split at hr
    · exact absurd hr answerAgain_ne
    · obtain ⟨_, hr⟩ := require_bind_ok hr
      obtain ⟨⟨s₁, code⟩, hcurrency, hr⟩ := bind_ok hr
      obtain ⟨_, _, hr⟩ := bind_ok hr
      obtain ⟨⟨s₂, cart⟩, hcart, hr⟩ := bind_ok hr
      obtain ⟨hitems, hr⟩ := require_bind_ok hr
      obtain ⟨_, hsell⟩ := require_bind_ok hr
      obtain ⟨hframe, hrecorded⟩ := resolveCurrency_spec hcurrency
      obtain ⟨rfl, hlines⟩ := getOrCreateCart_spec hcart hitems
      have hdb : s₂.db = s.db := by rw [hframe]
      have hcarts : s₂.carts = s.carts := by rw [hframe]
      unfold Storefront.sellCart at hsell
      dsimp only at hsell
      rw [hlines, hdb, hcarts] at hsell
      obtain ⟨basket, hbasket, hsell⟩ := bind_ok hsell
      split at hsell
      · rename_i hchanged
        cases hsell
        exact ⟨s₂, basket, hframe, hrecorded, hbasket, hchanged, rfl, rfl, rfl⟩
      · obtain ⟨_, _, hsell⟩ := bind_ok hsell
        obtain ⟨_, _, hsell⟩ := bind_ok hsell
        cases hsell
  · cases h

/-- The answer names the lines whose price has changed, and only them. -/
theorem exists_change_iff {e : CartEntry} (he : e ∈ s.carts.entries.rows) (owner : CartOwner) :
    (∃ c ∈ priceChanges s.db.stock (s.carts.lines owner), c.itemId = e.id) ↔
      e ∈ s.carts.lines owner ∧ e.priceCentsSnapshot ≠ currentPrice s.db.stock e.line := by
  constructor
  · rintro ⟨c, hc, hid⟩
    obtain ⟨e', he', hchanged, rfl⟩ := mem_priceChanges.mp hc
    obtain rfl : e' = e := s.carts.entries.eq_of_key_eq (mem_entries_of_mem_lines he') he hid
    exact ⟨he', hchanged⟩
  · rintro ⟨hin, hchanged⟩
    exact ⟨_, mem_priceChanges.mpr ⟨e, hin, hchanged, rfl⟩, rfl⟩

theorem refreshed_of_priceChanged (h : s.request sha256 cfg call = (s', .priceChanged changes subtotal)) :
    Refreshed cfg call.caller.owner s s' := by
  obtain ⟨s₁, basket, hframe, hcurrency, _, _, rfl, _, rfl⟩ := of_priceChanged h
  have hcarts : s₁.carts = s.carts := by rw [hframe]
  have htimes : s₁.lineUpdatedAt = s.lineUpdatedAt := by rw [hframe]
  obtain ⟨hkept, hrows, hstamps⟩ := @foldl_setPriceSnapshot _ cfg.now
    (priceChanges s.db.stock (s.carts.lines call.caller.owner)) s₁
  generalize (priceChanges s.db.stock (s.carts.lines call.caller.owner)).foldl (Storefront.setPriceSnapshot cfg.now) s₁ = s'
    at hkept hrows hstamps
  have hsame : s'.currency = s₁.currency := by rw [hkept]
  refine ⟨?_, ?_, ?_, hsame ▸ hcurrency⟩
  · rw [hsame]
    nth_rewrite 1 [hkept]
    rw [hframe]
  · rw [hrows, hcarts]
    refine List.map_congr_left fun e he => ?_
    rw [@foldl_price _ e (currentPrice s.db.stock e.line) fun c hc hid => ?_]
    · by_cases hin : e ∈ s.carts.lines call.caller.owner
      · rw [if_pos hin]
        split
        · rfl
        · rename_i hnone
          rw [exists_change_iff he, not_and, not_not] at hnone
          rw [CartEntry.refreshed, ← hnone hin]
      · rw [if_neg hin, if_neg fun h => hin ((exists_change_iff he _).mp h).1]
    · obtain ⟨e', he', _, rfl⟩ := mem_priceChanges.mp hc
      rw [s.carts.entries.eq_of_key_eq (mem_entries_of_mem_lines he') he hid]
  · rw [hstamps, htimes]
    funext id
    refine if_congr ?_ rfl rfl
    constructor
    · rintro ⟨c, hc, rfl⟩
      obtain ⟨e, he, hchanged, rfl⟩ := mem_priceChanges.mp hc
      exact ⟨e, he, rfl, hchanged⟩
    · rintro ⟨e, he, rfl, hchanged⟩
      exact ⟨_, mem_priceChanges.mpr ⟨e, he, hchanged, rfl⟩, rfl⟩

/-- With nothing else in between, the lines of the cart are at their prices, and no later checkout finds another one. -/
theorem retry_priced {cfg' : CheckoutConfig} {call' : CheckoutCall} {s'' : Storefront Hash}
    (h : Refreshed cfg call.caller.owner s s') (hstock : s''.db.stock = s'.db.stock)
    (hlines : s''.carts.lines call'.caller.owner = s'.carts.lines call.caller.owner) (changes : List PriceChange) (subtotal : ℤ) :
    (s''.request sha256 cfg' call').2 ≠ .priceChanged changes subtotal := by
  intro hanswer
  obtain ⟨_, basket, _, _, hbasket, hchanged, _⟩ := of_priceChanged (Prod.ext rfl hanswer)
  obtain ⟨l, hl, hne⟩ := (addLines_sorted hbasket).2.mp hchanged
  obtain ⟨e, he, rfl⟩ := List.mem_map.mp hl
  have hdb : s'.db.stock = s.db.stock := by rw [h.frame]
  have hcart : s'.carts.cartOf call.caller.owner = s.carts.cartOf call.caller.owner := by rw [h.frame]; rfl
  rw [hstock, hdb] at hne
  rw [hlines, CartStore.lines, hcart] at he
  cases hfound : s.carts.cartOf call.caller.owner with
  | none =>
    rw [hfound] at he
    cases he
  | some cart =>
    rw [hfound] at he
    obtain ⟨hmem, hcartId⟩ := List.mem_filter.mp he
    rw [h.lines] at hmem
    obtain ⟨old, hold, rfl⟩ := List.mem_map.mp hmem
    have hin : old ∈ s.carts.lines call.caller.owner := by
      rw [CartStore.lines, hfound]
      refine List.mem_filter.mpr ⟨hold, ?_⟩
      split at hcartId
      · exact hcartId
      · exact hcartId
    rw [if_pos hin] at hne
    exact hne rfl

/-- A refusal for changed prices brings the lines of the cart to their prices and stamps those that change, and on a new
    store records the currency; it reports what changed and the new subtotal, and a retry does not meet it again. -/
theorem price_changed_refreshes (h : s.request sha256 cfg call = (s', .priceChanged changes subtotal)) :
    Refreshed cfg call.caller.owner s s' ∧
      subtotal = ((s.carts.lines call.caller.owner).map fun e => currentPrice s.db.stock e.line * e.quantity).sum ∧
      (∀ c, c ∈ changes ↔ ∃ e ∈ s.carts.lines call.caller.owner, e.priceCentsSnapshot ≠ currentPrice s.db.stock e.line ∧
        c = ⟨e.id, e.unit.productId, e.unit.variantId, e.priceCentsSnapshot, currentPrice s.db.stock e.line⟩) ∧
      ∀ (cfg' : CheckoutConfig) (call' : CheckoutCall) (s'' : Storefront Hash), s''.db.stock = s'.db.stock →
        s''.carts.lines call'.caller.owner = s'.carts.lines call.caller.owner → ∀ changes' subtotal',
          (s''.request sha256 cfg' call').2 ≠ .priceChanged changes' subtotal' := by
  have hrefreshed := refreshed_of_priceChanged h
  obtain ⟨_, basket, _, _, hbasket, _, rfl, rfl, _⟩ := of_priceChanged h
  refine ⟨hrefreshed, ?_, fun c => mem_priceChanges, fun cfg' call' s'' hstock hlines => retry_priced hrefreshed hstock hlines⟩
  rw [(addLines_sorted hbasket).1, List.map_map]
  rfl

end

/-- The small shop, where the price has gone from 90 to 100 since a line was put into the cart. -/
def repricedShop : Storefront Hashed where
  db := smallShop.db
  carts := { carts := ⟨[⟨0, .user 1⟩], by decide⟩, entries := ⟨[⟨1, 0, ⟨1, none⟩, 2, 90⟩], by decide⟩, next := 2 }
  lineUpdatedAt := fun _ => 0
  records := .empty
  coupons := ⟨.empty, .empty, .empty, 0⟩
  currency := none
  nextOrder := 1

def repricedConfig : CheckoutConfig := ⟨"usd", true, fun _ => .ok (), false, fun _ => true, fun _ _ n => .ok (n, false), 1, 5⟩

def repricedCall : CheckoutCall := ⟨.user 1, "k", none, none, none⟩

/-- A new store, and a line that is refreshed: its `updated_at` is not what it was. -/
theorem price_changed_stamps : ∃ changes subtotal s', repricedShop.request id repricedConfig repricedCall =
    (s', .priceChanged changes subtotal) ∧ s'.lineUpdatedAt 1 ≠ repricedShop.lineUpdatedAt 1 := by
  have hanswer : (repricedShop.request id repricedConfig repricedCall).2 = .priceChanged [⟨1, 1, none, 90, 100⟩] 200 := by
    decide +kernel
  have hstamp : (repricedShop.request id repricedConfig repricedCall).1.lineUpdatedAt 1 ≠ repricedShop.lineUpdatedAt 1 := by
    decide +kernel
  exact ⟨_, _, _, Prod.ext rfl hanswer, hstamp⟩

theorem price_changed_refreshes_line : ∃ s', Refreshed repricedConfig (.user 1) repricedShop s' ∧
    (200 : ℤ) = ((repricedShop.carts.lines (.user 1)).map fun e => currentPrice repricedShop.db.stock e.line * e.quantity).sum := by
  have hanswer : (repricedShop.request id repricedConfig repricedCall).2 = .priceChanged [⟨1, 1, none, 90, 100⟩] 200 := by
    decide +kernel
  obtain ⟨hrefreshed, hsubtotal, _⟩ := price_changed_refreshes (Prod.ext rfl hanswer)
  exact ⟨_, hrefreshed, hsubtotal⟩

end NovaCart
