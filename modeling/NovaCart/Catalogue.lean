import NovaCart.Schema

/-! Guarded writes to the catalogue, the order lines and the stock ledger, and the repository
    functions made of them.

    Each constructor of `StockWrite` is one statement the services send; `Stock.write` runs it the
    way the database does: CHECK constraints, foreign keys, the unique restock event and the triggers
    that keep the ledger and `restocked_quantity`. -/

namespace NovaCart

open Schemes
open Keyed (key)

/-- Why stock changes: what `stock_change` tells the ledger. -/
structure StockContext where
  kind : MovementKind
  orderId : Option Id := none
  deriving DecidableEq, Repr

inductive StockWrite
  | insertProduct (row : Product)
  | productStatus (id : Id) (status : ProductStatus)
  | productPrice (id : Id) (priceCents : ℤ)
  | setProductStock (id : Id) (stock : ℤ) (ctx : StockContext)
  | addProductStock (id : Id) (delta : ℤ) (ctx : StockContext)
  | optionCount (id : Id) (count : Nat)
  | insertVariant (row : ProductVariant) (ctx : StockContext)
  | variantDetails (id : Id) (active : Bool) (priceOverrideCents : Option ℤ)
  | setVariantStock (id : Id) (stock : ℤ) (ctx : StockContext)
  | addVariantStock (id : Id) (delta : ℤ) (ctx : StockContext)
  | insertItem (row : OrderItem)
  | recordRestock (row : OrderItemRestock)

/-- The product with another stock, unless a CHECK constraint of the table refuses it. -/
def Product.withStock (p : Product) (stock : ℤ) : Result Product :=
  if h : 0 ≤ stock ∧ (p.optionCount = 0 ∨ stock = 0) then
    .ok { p with stock := stock, stockNonNegative := h.1, stockZeroWithOptions := h.2 }
  else .error (.integrity "ck_products_stock")

def Product.withOptionCount (p : Product) (count : Nat) : Result Product :=
  if h : count ≤ 3 ∧ (count = 0 ∨ p.stock = 0) then
    .ok { p with optionCount := count, stockZeroWithOptions := h.2 }
  else .error (.integrity "ck_products_stock_zero_with_options")

def ProductVariant.withStock (v : ProductVariant) (stock : ℤ) : Result ProductVariant :=
  if h : 0 ≤ stock then .ok { v with stock := stock, stockNonNegative := h }
  else .error (.integrity "ck_variants_stock_non_negative")

/-- `order_item_restock_apply`: the line with `quantity` more pieces put back. -/
def OrderItem.withRestock (i : OrderItem) (quantity : ℤ) : Result OrderItem :=
  if h : 0 < quantity ∧ i.restockedQuantity + quantity ≤ i.quantity then
    .ok { i with
      restockedQuantity := i.restockedQuantity + quantity
      restockedNonNegative := by have := i.restockedNonNegative; omega
      restockedWithinQuantity := h.2 }
  else .error (.integrity "ck_order_items_restocked_within_quantity")

/-- `stock_ledger_write`: one ledger row for a change, none when the stock stays the same. -/
def ledgerRow (productId : Id) (variantId : Option Id) (before after : ℤ) (ctx : StockContext) :
    List StockMovement :=
  if before = after then []
  else [⟨ctx.kind, productId, variantId, after - before, before, after, ctx.orderId⟩]

/-- `enforce_line_variant_rule`: a product with options is bought through a variant, one without
    options is not. -/
def lineVariantRule (p : Product) (variantId : Option Id) : Prop :=
  p.optionCount = 0 ↔ variantId = none

instance (p : Product) (v : Option Id) : Decidable (lineVariantRule p v) :=
  inferInstanceAs (Decidable (_ ↔ _))

/-- The foreign key `(variant_id, product_id)` of an order line. -/
def Stock.variantOf (s : Stock) (productId : Id) : Option Id → Prop
  | none => True
  | some v => ∃ row ∈ s.variants.get? v, row.productId = productId

instance (s : Stock) (p : Id) : (v : Option Id) → Decidable (s.variantOf p v)
  | none => .isTrue trivial
  | some v => inferInstanceAs (Decidable (∃ row ∈ s.variants.get? v, row.productId = p))

namespace Stock

def updateProduct (s : Stock) (id : Id) (f : Product → Result Product) (ctx : StockContext) :
    Result Stock := do
  let p ← need (s.products.get? id) .keyError
  let p' ← f p
  .ok { s with
    products := s.products.replace p'
    movements := ledgerRow p.id none p.stock p'.stock ctx ++ s.movements }

def updateVariant (s : Stock) (id : Id) (f : ProductVariant → Result ProductVariant)
    (ctx : StockContext) : Result Stock := do
  let v ← need (s.variants.get? id) .keyError
  let v' ← f v
  .ok { s with
    variants := s.variants.replace v'
    movements := ledgerRow v.productId (some v.id) v.stock v'.stock ctx ++ s.movements }

/-- A new variant: its product must exist and declare the same number of options. -/
def insertVariant (s : Stock) (row : ProductVariant) (ctx : StockContext) : Result Stock := do
  let p ← need (s.products.get? row.productId) (.integrity "fk_variants_product")
  require (row.optionCount = p.optionCount ∧ 1 ≤ row.optionCount)
    (.integrity "fk_variants_product_option_count")
  let variants ← need (s.variants.insert? row) (.integrity "product_variants_pkey")
  .ok { s with
    variants := variants
    movements := ledgerRow row.productId (some row.id) 0 row.stock ctx ++ s.movements }

/-- A new order line, with its foreign keys and the line variant rule. -/
def insertItem (s : Stock) (row : OrderItem) : Result Stock := do
  let p ← need (s.products.get? row.productId) (.integrity "order_items_product_id_fkey")
  require (lineVariantRule p row.variantId) (.integrity "enforce_line_variant_rule")
  require (s.variantOf row.productId row.variantId) (.integrity "fk_order_items_variant")
  let items ← need (s.items.insert? row) (.integrity "order_items_pkey")
  .ok { s with items := items }

/-- One restock event: `ON CONFLICT DO NOTHING`, else the trigger adds it to the line. -/
def recordRestock (s : Stock) (row : OrderItemRestock) : Result Stock :=
  match s.restocks.insert? row with
  | none => .ok s
  | some restocks => do
    let i ← need (s.items.get? row.orderItemId) (.integrity "order_item_restocks_item_fkey")
    let i' ← i.withRestock row.quantity
    .ok { s with restocks := restocks, items := s.items.replace i' }

/-- One statement, with every database rule that applies to it. -/
def write (s : Stock) : StockWrite → Result Stock
  | .insertProduct row => do
    let products ← need (s.products.insert? row) (.integrity "products_pkey")
    .ok { s with
      products := products
      movements := ledgerRow row.id none 0 row.stock ⟨.initial, none⟩ ++ s.movements }
  | .productStatus id status =>
    s.updateProduct id (fun p => .ok { p with status := status }) ⟨.unspecified, none⟩
  | .productPrice id price =>
    s.updateProduct id (fun p => .ok { p with priceCents := price }) ⟨.unspecified, none⟩
  | .setProductStock id stock ctx => s.updateProduct id (·.withStock stock) ctx
  | .addProductStock id delta ctx => s.updateProduct id (fun p => p.withStock (p.stock + delta)) ctx
  | .optionCount id count => do
    -- `ON UPDATE RESTRICT`: the count is fixed while the product has variants
    require (∀ v ∈ s.variants.rows, v.productId = id → v.optionCount = count)
      (.integrity "fk_variants_product_option_count")
    s.updateProduct id (·.withOptionCount count) ⟨.unspecified, none⟩
  | .insertVariant row ctx => s.insertVariant row ctx
  | .variantDetails id active price =>
    s.updateVariant id (fun v => .ok { v with active := active, priceOverrideCents := price })
      ⟨.unspecified, none⟩
  | .setVariantStock id stock ctx => s.updateVariant id (·.withStock stock) ctx
  | .addVariantStock id delta ctx => s.updateVariant id (fun v => v.withStock (v.stock + delta)) ctx
  | .insertItem row => s.insertItem row
  | .recordRestock row => s.recordRestock row

/-- Statements sent one after the other in one transaction. -/
def writes (s : Stock) : List StockWrite → Result Stock
  | [] => .ok s
  | w :: ws => do
    let s' ← s.write w
    s'.writes ws

/-- The lines of an order. -/
def itemsOf (s : Stock) (orderId : Id) : List OrderItem :=
  s.items.rows.filter fun i => i.orderId = orderId

end Stock

/-! ### Deltas -/

/-- A Python dictionary from unit id to the pieces it gains, in order of first use. -/
abbrev Deltas := List (Id × ℤ)

namespace Deltas

/-- `deltas[k] = deltas.get(k, 0) + x`. -/
def bump : Deltas → Id → ℤ → Deltas
  | [], k, x => [(k, x)]
  | (k', y) :: d, k, x => if k' = k then (k', y + x) :: d else (k', y) :: bump d k x

/-- What the units selected by `p` gain together. -/
def sumOn (p : Id → Prop) [DecidablePred p] (d : Deltas) : ℤ :=
  (d.map fun e => if p e.1 then e.2 else 0).sum

theorem sumOn_bump (p : Id → Prop) [DecidablePred p] :
    ∀ (d : Deltas) (k : Id) (x : ℤ), sumOn p (bump d k x) = sumOn p d + if p k then x else 0
  | [], k, x => by simp [bump, sumOn]
  | (k', y) :: d, k, x => by
      by_cases hk : k' = k
      · subst hk
        by_cases hp : p k'
        · simp [bump, sumOn, hp]; ring
        · simp [bump, sumOn, hp]
      · have ih := sumOn_bump p d k x
        simp only [sumOn] at ih
        simp only [bump, hk, ↓reduceIte, sumOn, List.map_cons, List.sum_cons, ih]
        ring

end Deltas

/-- `adjust_stock_many`: nonzero deltas only. -/
def adjustStockMany (d : Deltas) (ctx : StockContext) : List StockWrite :=
  (d.filter fun e => e.2 ≠ 0).map fun e => .addProductStock e.1 e.2 ctx

/-- `adjust_variant_stock_many`. -/
def adjustVariantStockMany (d : Deltas) (ctx : StockContext) : List StockWrite :=
  (d.filter fun e => e.2 ≠ 0).map fun e => .addVariantStock e.1 e.2 ctx

end NovaCart
