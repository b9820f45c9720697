import NovaCart.Payments

/-! Checkout, shipments, returns and the administration of stock: the remaining operations that move
    stock or an order's status. Each is one transaction body.

    What checkout takes from the parts of the store that are not modelled here (shipping, coupons and
    tax) comes in through `pricing`, and whether new variants pass the option and SKU validation of
    `_create_variants` through `specsValid`. -/

namespace NovaCart

open Schemes

/-! ### Checkout -/

structure CartLine where
  productId : Id
  variantId : Option Id
  quantity : ℤ
  priceCentsSnapshot : ℤ
  deriving DecidableEq, Repr

/-- One checkout: whose order, from which cart lines. -/
structure CheckoutRequest where
  orderId : Id
  userId : Option Id
  currency : String
  lines : List CartLine
  /-- the id of the first new order line; the others follow -/
  firstItemId : Id
  /-- total and whether the tax engine calculated it, from the subtotal -/
  pricing : ℤ → Result (ℤ × Bool)

/-- The dictionaries and totals the line loop builds up. -/
structure Basket where
  productLeft : Deltas := []
  variantLeft : Deltas := []
  stockDeltas : Deltas := []
  variantDeltas : Deltas := []
  sold : List (CartLine × ℤ) := []
  subtotalCents : ℤ := 0
  priceChanged : Bool := false

/-- `remaining.get(unit, stock)`. -/
def Deltas.lookup (d : Deltas) (k : Id) (stock : ℤ) : ℤ :=
  ((d.find? fun e => e.1 = k).map (·.2)).getD stock

/-- `remaining[unit] = x`. -/
def Deltas.put (d : Deltas) (k : Id) (x : ℤ) : Deltas := (k, x) :: d

/-- A line whose unit and price are known: stock is checked and reserved on that unit. -/
def Basket.sell (b : Basket) (l : CartLine) (price : ℤ) : Basket :=
  { b with
    sold := b.sold ++ [(l, price)]
    subtotalCents := b.subtotalCents + price * l.quantity
    priceChanged := b.priceChanged || l.priceCentsSnapshot ≠ price }

/-- One round of the line loop. -/
def Basket.addLine (s : Stock) (b : Basket) (l : CartLine) : Result Basket :=
  match l.variantId with
  | some vid => do
    let p ← need (s.products.get? l.productId) .variantUnavailable
    let v ← need (s.variants.get? vid) .variantUnavailable
    require (v.productId = p.id ∧ p.status = .active ∧ v.active = true) .variantUnavailable
    let available := b.variantLeft.lookup v.id v.stock
    require (l.quantity ≤ available) (.insufficientStock available)
    .ok ({ b with
      variantLeft := b.variantLeft.put v.id (available - l.quantity)
      variantDeltas := b.variantDeltas.bump v.id (-l.quantity) }.sell l
        (v.priceOverrideCents.getD p.priceCents))
  | none => do
    let p ← need (s.products.get? l.productId) .productUnavailable
    require (p.status = .active) .productUnavailable
    require (p.optionCount = 0) .variantRequired
    let available := b.productLeft.lookup p.id p.stock
    require (l.quantity ≤ available) (.insufficientStock available)
    .ok ({ b with
      productLeft := b.productLeft.put p.id (available - l.quantity)
      stockDeltas := b.stockDeltas.bump p.id (-l.quantity) }.sell l p.priceCents)

/-- The loop over the sorted cart. -/
def Basket.addLines (s : Stock) : Basket → List CartLine → Result Basket
  | b, [] => .ok b
  | b, l :: ls => do
    let b ← b.addLine s l
    b.addLines s ls

/-- `(product_id, variant_id or 0)`, the order in which checkout takes the lines. -/
def CartLine.before (a b : CartLine) : Prop :=
  a.productId < b.productId ∨ (a.productId = b.productId ∧ a.variantId.getD 0 ≤ b.variantId.getD 0)

instance : DecidableRel CartLine.before := fun _ _ => inferInstanceAs (Decidable (_ ∨ _))

/-- The order lines of a basket, or a failed CHECK. -/
def orderItems (orderId : Id) : Id → List (CartLine × ℤ) → Result (List OrderItem)
  | _, [] => .ok []
  | id, (l, price) :: rest =>
    if h : 0 < l.quantity then do
      let items ← orderItems orderId (id + 1) rest
      .ok ({ id := id, orderId := orderId, productId := l.productId, variantId := l.variantId
             quantity := l.quantity, restockedQuantity := 0, priceCentsSnapshot := price
             quantityPositive := h, restockedNonNegative := le_refl 0
             restockedWithinQuantity := h.le } :: items)
    else .error (.integrity "ck_order_items_quantity_positive")

/-- `OrderService.checkout` for a new idempotency key. -/
def checkout (db : Db) (req : CheckoutRequest) (now : Time) : Result Db := do
  require (req.lines ≠ []) .emptyCart
  let basket ← Basket.addLines db.stock {} (req.lines.insertionSort CartLine.before)
  require (basket.priceChanged = false) (.priceChanged basket.subtotalCents)
  let (total, gst) ← req.pricing basket.subtotalCents
  let db ← db.stockWrites (adjustStockMany basket.stockDeltas ⟨.sale, some req.orderId⟩)
  let db ← db.stockWrites (adjustVariantStockMany basket.variantDeltas ⟨.sale, some req.orderId⟩)
  let db ← db.write (.insertOrder {
    id := req.orderId, userId := req.userId, status := .pending, totalCents := total
    currency := some req.currency, stockReleasedAt := none, paidInDemoMode := false
    createdAt := now, gstCalculated := gst })
  let items ← orderItems req.orderId req.firstItemId basket.sold
  let db ← db.stockWrites (items.map .insertItem)
  db.write (.history ⟨req.orderId, .pending, .pending, none, none, now⟩)

/-! ### Status changes outside the lifecycle service -/

/-- `OrderService.update_status`: the transition is checked on an unlocked read (`seen`). -/
def updateStatus (seen db : Db) (orderId : Id) (new : OrderStatus) (by_ : Option Id) (now : Time) :
    Result Db := do
  let order ← need (seen.orders.get? orderId) (.orderNotFound orderId)
  require (order.status.allowed new) (.invalidStatusTransition order.status new)
  let db ← updateOrderStatus db order new by_ none now
  if new = .fulfilled then issueInvoice db { order with status := new } else .ok db

/-- `ShipmentService.create`. -/
def createShipment (db : Db) (orderId shipmentId admin : Id) (fulfillOrder : Bool) (now : Time) :
    Result Db := do
  let order ← lockOrder db orderId
  require (order.status = .paid ∨ order.status = .fulfilled) (.orderNotShippable order.status)
  let db ← db.write (.insertShipment ⟨shipmentId, order.id, none⟩)
  if fulfillOrder = true ∧ order.status = .paid then fulfil db order (some admin) none now
  else .ok db

/-! ### Returns -/

/-- The pieces of a line that requests which were not rejected or cancelled have used up. -/
def returnsUsed (db : Db) (orderId itemId : Id) : ℤ :=
  ((db.returns.rows.filter fun r =>
    r.orderId = orderId ∧ r.status ≠ .rejected ∧ r.status ≠ .cancelled).map fun r =>
      ((r.items.filter fun i => i.orderItemId = itemId).map (·.quantity)).sum).sum

/-- `max(quantity - used, 0)`. -/
def returnable (db : Db) (i : OrderItem) : ℤ := max (i.quantity - returnsUsed db i.orderId i.id) 0

/-- The requested lines are lines of the order, within what is left to return. -/
def checkReturnLines (db : Db) (items : List OrderItem) : List (Id × ℤ) → Result Unit
  | [] => .ok ()
  | l :: ls => do
    let i ← need (items.find? fun i => i.id = l.1)
      (.returnItemInvalid "One of the items is not part of this order")
    require (l.2 ≤ returnable db i) (.returnQuantityExceeded (returnable db i))
    checkReturnLines db items ls

theorem requestedLines_nodup {lines : List (Id × ℤ)} (h : (lines.map (·.1)).Nodup) :
    ((lines.map fun l => (⟨l.1, l.2, none, false, 0⟩ : ReturnRequestItem)).map (·.orderItemId)).Nodup := by
  rwa [List.map_map]

/-- `ReturnService.create`, with the eligibility rules. The window starts at delivery, else at
    dispatch, else when the order was made. -/
def createReturn (cfg : Settings) (db : Db) (userId orderId returnId : Id)
    (lines : List (Id × ℤ)) (now : Time) : Result Db := do
  let order ← lockOrder db orderId
  require (order.userId = some userId) (.orderNotFound orderId)
  require (cfg.returnWindowDays ≠ 0) .returnsDisabled
  require (order.status = .fulfilled) .orderNotShipped
  let delivered := (db.shipments.rows.filter fun s => s.orderId = orderId).filterMap (·.delivered)
  let shipped := (db.history.filter fun h =>
    h.orderId = orderId ∧ h.toStatus = .fulfilled).map (·.createdAt)
  let start := (delivered.max?).getD ((shipped.max?).getD order.createdAt)
  require (now ≤ start + 86400 * cfg.returnWindowDays) (.returnWindowClosed cfg.returnWindowDays)
  let items := db.stock.itemsOf orderId
  require (∃ i ∈ items, returnable db i ≠ 0) .nothingReturnable
  checkReturnLines db items lines
  require (∀ l ∈ lines, 0 < l.2) (.integrity "ck_return_request_items_quantity")
  if h : (lines.map (·.1)).Nodup then
    db.write (.insertReturn {
      id := returnId, orderId := orderId, userId := userId, status := .requested
      items := lines.map fun l => ⟨l.1, l.2, none, false, 0⟩
      refundId := none
      lineOnce := requestedLines_nodup h })
  else .error (.integrity "uq_return_request_items_line")

/-- A return request and its status, which must be one of those the action is for. -/
def lockedReturn (db : Db) (returnId : Id) (allowed : List ReturnStatus) (action : String) :
    Result ReturnRequest := do
  let r ← need (db.returns.get? returnId) .returnNotFound
  require (r.status ∈ allowed) (.returnState r.status action)
  .ok r

def cancelReturn (db : Db) (userId returnId : Id) : Result Db := do
  let owner ← need (db.returns.get? returnId) .returnNotFound
  require (owner.userId = userId) .returnNotFound
  let r ← lockedReturn db returnId [.requested, .approved] "cancelled"
  db.write (.returned { r with status := .cancelled })

def approveReturn (db : Db) (returnId : Id) : Result Db := do
  let r ← lockedReturn db returnId [.requested] "approved"
  db.write (.returned { r with status := .approved })

def rejectReturn (db : Db) (returnId : Id) : Result Db := do
  let r ← lockedReturn db returnId [.requested] "rejected"
  db.write (.returned { r with status := .rejected })

def closeReturn (db : Db) (returnId : Id) : Result Db := do
  let r ← lockedReturn db returnId [.approved, .received] "closed"
  db.write (.returned { r with status := .closed })

/-- What arrived for one line of a return. -/
structure ReceiptEntry where
  orderItemId : Id
  receivedQuantity : ℤ
  restock : Bool
  deriving DecidableEq, Repr

/-- The return's line with what arrived for it. -/
def ReturnRequestItem.received (i : ReturnRequestItem) (entries : List ReceiptEntry) :
    ReturnRequestItem :=
  match entries.find? fun e => e.orderItemId = i.orderItemId with
  | some e => { i with receivedQuantity := some e.receivedQuantity, restock := e.restock }
  | none => i

theorem ReturnRequestItem.received_orderItemId (i : ReturnRequestItem) (entries : List ReceiptEntry) :
    (i.received entries).orderItemId = i.orderItemId := by
  unfold received
  cases entries.find? fun e => e.orderItemId = i.orderItemId with
  | none => rfl
  | some e => rfl

/-- The return with each of its lines rewritten. -/
def ReturnRequest.mapItems (r : ReturnRequest) (f : ReturnRequestItem → ReturnRequestItem)
    (hf : ∀ i, (f i).orderItemId = i.orderItemId) : ReturnRequest :=
  { r with
    items := r.items.map f
    lineOnce := by simpa [List.map_map, Function.comp_def, hf] using r.lineOnce }

/-- The lines `_restock` puts back, each with the order line it is of. -/
def restockTodo (s : Stock) (ret : ReturnRequest) :
    List ReturnRequestItem → Result (List (OrderItem × OrderItemRestock))
  | [] => .ok []
  | i :: is =>
    if i.restock = true ∧ 0 < i.receivedQuantity.getD 0 then do
      let line ← need ((s.itemsOf ret.orderId).find? fun l => l.id = i.orderItemId) .keyError
      let rest ← restockTodo s ret is
      .ok ((line, ⟨line.id, "return:" ++ toString ret.id, i.receivedQuantity.getD 0⟩) :: rest)
    else restockTodo s ret is

/-- What arrived is at most what was requested, and something arrived where it is put back. -/
def checkReceipt (ret : ReturnRequest) : List ReceiptEntry → Result Unit
  | [] => .ok ()
  | e :: es => do
    require (0 ≤ e.receivedQuantity ∧
        ∀ i ∈ ret.items, i.orderItemId = e.orderItemId → e.receivedQuantity ≤ i.quantity)
      (.returnReceiptInvalid "More units arrived than were requested: ask for a new return instead")
    require (e.restock = true → e.receivedQuantity ≠ 0)
      (.returnReceiptInvalid "There is nothing to put back in stock for a line where nothing arrived")
    checkReceipt ret es

/-- The return's line after `_restock`: what a newly recorded event put back. -/
def ReturnRequestItem.restocked (fresh : List Id) (i : ReturnRequestItem) : ReturnRequestItem :=
  { i with
    restockedQuantity :=
      if i.orderItemId ∈ fresh then i.receivedQuantity.getD 0 else i.restockedQuantity }

/-- `record_restock_events` of `_restock`, which reports a broken database rule as too many pieces. -/
def recordReturned (db : Db) (rows : List OrderItemRestock) : Result Db :=
  match db.stockWrites (rows.map .recordRestock) with
  | .ok db => .ok db
  | .error (.integrity _) =>
    .error (.returnReceiptInvalid "That would put back more units than the order contained")
  | .error e => .error e

/-- The pieces of some lines go back to their products, then to their variants. -/
def putBackWrites (s : Stock) (lines : List (OrderItem × ℤ)) (ctx : StockContext) : List StockWrite :=
  adjustStockMany (productBack s lines) ctx ++ adjustVariantStockMany (variantBack s lines) ctx

/-- `ReturnService.receive`. -/
def receiveReturn (db : Db) (returnId : Id) (entries : List ReceiptEntry) : Result Db := do
  let ret ← lockedReturn db returnId [.approved] "marked as received"
  let given : List Id := entries.map (·.orderItemId)
  let byLine : List Id := ret.items.map (·.orderItemId)
  require (given.Nodup ∧ (∀ id ∈ given, id ∈ byLine) ∧ ∀ id ∈ byLine, id ∈ given)
    (.returnReceiptInvalid "Say what arrived for every line of the return, once each")
  checkReceipt ret entries
  let order ← lockOrder db ret.orderId
  let ret := ret.mapItems (·.received entries) fun i => i.received_orderItemId entries
  let todo ← restockTodo db.stock ret ret.items
  let fresh := todo.filter fun l => db.stock.restocks.get? (l.2.orderItemId, l.2.eventKey) = none
  let moves := putBackWrites db.stock (fresh.map fun l => (l.1, l.2.quantity)) ⟨.restock, some order.id⟩
  let db ← recordReturned db (todo.map (·.2))
  let db ← db.stockWrites moves
  let ret := ret.mapItems (.restocked (fresh.map (·.2.orderItemId))) fun _ => rfl
  db.write (.returned { ret with status := .received })

/-- `ReturnService.refund`: only when every unit of the order has come back. -/
def refundReturn (db : Db) (returnId admin refundId : Id) : Result Db := do
  let ret ← lockedReturn db returnId [.received] "refunded"
  let order ← lockOrder db ret.orderId
  let back (itemId : Id) : ℤ :=
    ((db.returns.rows.filter fun r =>
      r.orderId = order.id ∧ (r.status = .received ∨ r.status = .closed)).map fun r =>
        ((r.items.filter fun i => i.orderItemId = itemId).map
          (·.receivedQuantity.getD 0)).sum).sum
  require (∀ i ∈ db.stock.itemsOf order.id, i.quantity ≤ back i.id) .returnNotFull
  let (db, refundId) ← requestRefund db order.id admin none false refundId
  db.write (.returned { ret with status := .closed, refundId := some refundId })

/-! ### Administering the catalogue -/

/-- `StockAdjust`: a new value or a difference. -/
inductive StockAdjust
  | setTo (value : ℤ)
  | delta (change : ℤ)
  deriving DecidableEq, Repr

def StockAdjust.after : StockAdjust → ℤ → ℤ
  | .setTo value, _ => value
  | .delta change, before => before + change

def StockAdjust.kind : StockAdjust → MovementKind
  | .setTo _ => .adminSet
  | .delta _ => .adminDelta

/-- `VariantAdminService.adjust_stock`. -/
def adjustStock (db : Db) (productId : Id) (variantId : Option Id) (spec : StockAdjust) :
    Result Db := do
  let p ← need (db.stock.products.get? productId) (.productNotFound productId)
  match variantId with
  | none => do
    require (p.optionCount = 0) .useVariantStock
    require (0 ≤ spec.after p.stock) (.stockWouldBeNegative p.stock)
    if spec.after p.stock = p.stock then .ok db
    else db.write (.stock (.setProductStock p.id (spec.after p.stock) ⟨spec.kind, none⟩))
  | some vid => do
    let v ← need (db.stock.variants.get? vid) .variantNotFound
    require (v.productId = productId) .variantNotFound
    require (0 ≤ spec.after v.stock) (.stockWouldBeNegative v.stock)
    if spec.after v.stock = v.stock then .ok db
    else db.write (.stock (.setVariantStock v.id (spec.after v.stock) ⟨spec.kind, none⟩))

/-- The fields `update_product` may set, besides those no modelled function reads. -/
structure ProductUpdate where
  stock : Option ℤ := none
  stockReason : String := ""
  status : Option ProductStatus := none
  priceCents : Option ℤ := none

/-- `ProductService.update_product`: the row is read without a lock, and a column is written when it
    differs from what was read. -/
def updateProduct (seen db : Db) (productId : Id) (u : ProductUpdate) : Result Db := do
  let p ← need (seen.stock.products.get? productId) (.productNotFound productId)
  require (u.status.getD p.status = .active → 0 < p.optionCount →
      ∃ v ∈ seen.stock.variants.rows, v.productId = productId ∧ v.active = true)
    .productNeedsActiveVariant
  require (u.stock ≠ none → 3 ≤ u.stockReason.length) .stockReasonRequired
  db.stockWrites (
    ((u.status.filter (· ≠ p.status)).toList.map fun x => .productStatus productId x)
      ++ ((u.priceCents.filter (· ≠ p.priceCents)).toList.map fun x => .productPrice productId x)
      ++ ((u.stock.filter (· ≠ p.stock)).toList.map fun x =>
        .setProductStock productId x ⟨.adminSet, none⟩))

structure VariantSpec where
  id : Id
  stock : ℤ
  active : Bool
  priceOverrideCents : Option ℤ
  deriving DecidableEq, Repr

/-- The rows of `_create_variants`, or a failed CHECK. -/
def variantRows (productId : Id) (optionCount : Nat) : List VariantSpec → Result (List ProductVariant)
  | [] => .ok []
  | spec :: specs =>
    if h : 0 ≤ spec.stock then do
      let rows ← variantRows productId optionCount specs
      .ok (⟨spec.id, productId, optionCount, spec.stock, spec.active, spec.priceOverrideCents, h⟩
        :: rows)
    else .error (.integrity "ck_variants_stock_non_negative")

/-- `_create_variants`: all of them or none. -/
def insertVariants (db : Db) (productId : Id) (optionCount : Nat) (specs : List VariantSpec)
    (specsValid : Bool) (kind : MovementKind) : Result Db := do
  require (0 < optionCount ∧ specsValid = true)
    (.invalidVariantSpec "the specification does not fit the product's options")
  let rows ← variantRows productId optionCount specs
  db.stockWrites (rows.map fun v => .insertVariant v ⟨kind, none⟩)

def createVariants (db : Db) (productId : Id) (specs : List VariantSpec) (specsValid : Bool) :
    Result Db := do
  let p ← need (db.stock.products.get? productId) (.productNotFound productId)
  insertVariants db p.id p.optionCount specs specsValid .initial

/-- `set_options`: only while there are no variants, and for a product with stock or references
    only to none. -/
def setOptions (db : Db) (productId : Id) (count : Nat) (inCart : Bool) : Result Db := do
  let p ← need (db.stock.products.get? productId) (.productNotFound productId)
  require (∀ v ∈ db.stock.variants.rows, v.productId ≠ p.id) .optionsLocked
  require (count ≠ 0 → p.stock ≤ 0) .productHasStock
  require (count ≠ 0 → inCart = false ∧ ∀ i ∈ db.stock.items.rows, i.productId ≠ p.id) .productInUse
  db.write (.stock (.optionCount p.id count))

/-- The first statement of a conversion: the product's own stock goes to zero. -/
def clearStock (db : Db) (p : Product) : Result Db :=
  if p.stock = 0 then .ok db
  else db.write (.stock (.setProductStock p.id 0 ⟨.conversion, none⟩))

/-- `convert_to_variants`: refused while an order of the product could still be restocked. -/
def convertToVariants (db : Db) (productId : Id) (expectedStock : ℤ) (count : Nat)
    (specs : List VariantSpec) (specsValid : Bool) : Result Db := do
  let p ← need (db.stock.products.get? productId) (.productNotFound productId)
  require (p.optionCount = 0) .alreadyHasVariants
  require (p.status ≠ .archived) (.productNotConvertible "An archived product cannot be converted")
  require (expectedStock = p.stock) (.stockChanged p.stock)
  let allocated := (specs.map (·.stock)).sum
  require (allocated = p.stock) (.stockAllocationMismatch allocated p.stock)
  let openOrders := db.orders.rows.filter fun o =>
    (o.status = .pending ∨ o.status = .paid) ∧
      ∃ i ∈ db.stock.items.rows, i.orderId = o.id ∧ i.productId = p.id
  require (openOrders = []) (.productHasOpenOrders openOrders.length)
  let db ← clearStock db p
  let db ← db.write (.stock (.optionCount p.id count))
  insertVariants db p.id count specs specsValid .conversion

end NovaCart
