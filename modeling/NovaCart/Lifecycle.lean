import NovaCart.Store

/-! `OrderLifecycleService`: the operations that change an order's lifecycle with side effects.

    Every function is one transaction body: it reads and writes the database it is given and fails
    as a whole. An argument named `loaded` is a row this session read earlier and did not refresh.
    Audit log entries and queued jobs are left out; no modelled function reads them. -/

namespace NovaCart

open Schemes

/-! ### Currencies -/

/-- `CURRENCIES`: code, minor-unit exponent, whether payments in it are verified. -/
def currencies : List (String × Nat × Bool) :=
  [("usd", 2, true), ("inr", 2, true), ("eur", 2, true), ("gbp", 2, true), ("jpy", 0, true),
   ("krw", 0, false), ("kwd", 3, false), ("bhd", 3, false)]

/-- `get_currency` on a code that is already stripped and lower-case, as every stored code is. -/
def paymentVerified (code : String) : Option Bool :=
  (currencies.find? fun c => c.1 = code).map fun c => c.2.2

/-- `to_stripe_amount`: the minor-unit integer itself, for a verified currency and a positive amount. -/
def toStripeAmount (minor : ℤ) (code : String) : Result ℤ := do
  let verified ← need (paymentVerified code) (.currencyUnsupported code)
  require (verified = true) (.currencyNotPayable code "payment_currency_not_verified")
  require (0 < minor) (.invalidMoney "A payment amount must be a positive integer in minor units")
  .ok minor

/-! ### Reconciliation records -/

def KeyTag.render : KeyTag → String
  | .ofKind .latePayment => "late_payment"
  | .ofKind .unmatchedPayment => "unmatched_payment"
  | .ofKind .amountMismatch => "amount_mismatch"
  | .ofKind .unverifiablePayment => "unverifiable_payment"
  | .ofKind .orderMismatch => "order_mismatch"
  | .ofKind .cancelUncertain => "cancel_uncertain"
  | .ofKind .cancelPaymentSucceeded => "cancel_payment_succeeded"
  | .ofKind .refundUncertain => "refund_uncertain"
  | .ofKind .refundMismatch => "refund_mismatch"
  | .ofKind .externalRefund => "external_refund"
  | .ofKind .disputeOpened => "dispute_opened"
  | .ofKind .disputeLost => "dispute_lost"
  | .ofKind .unmatchedDispute => "unmatched_dispute"
  | .ofKind .refundBlockedByDispute => "refund_blocked_by_dispute"
  | .ofKind .disputeDuringRefund => "dispute_during_refund"
  | .unknownRefund => "unknown_refund"
  | .externalRefundInvalid => "external_refund_invalid"
  | .externalRefundExceeds => "external_refund_exceeds"

/-- The text stored in `dedupe_key`. -/
def DedupeKey.render (k : DedupeKey) : String := k.tag.render ++ ":" ++ k.arg

/-- `f"{kind}:{id}"`. -/
def ReconciliationKind.key (kind : ReconciliationKind) (id : Id) : DedupeKey :=
  ⟨.ofKind kind, toString id⟩

/-- `reconcile`: opens a record once per key. The order and provider payment id default to those of
    the payment; an empty provider payment id counts as none. -/
def reconcile (db : Db) (kind : ReconciliationKind) (k : DedupeKey) (payment : Option Payment)
    (orderId : Option Id) (ppid : Option String) : Db :=
  db.record
    { dedupeKey := k, kind := kind, open_ := true
      paymentId := payment.map (·.id)
      orderId := orderId.or (payment.map (·.orderId))
      providerPaymentId := (truthy ppid).or (payment.map (·.providerPaymentId))
      resolution := none, resolutionNote := none, resolvedByUserId := none }

/-- The record when the condition holds, else nothing. -/
def reconcileIf (c : Prop) [Decidable c] (db : Db) (kind : ReconciliationKind) (k : DedupeKey)
    (payment : Option Payment) (orderId : Option Id) (ppid : Option String) : Db :=
  if c then reconcile db kind k payment orderId ppid else db

/-! ### Orders -/

def lockOrder (db : Db) (orderId : Id) : Result Order :=
  need (db.orders.get? orderId) (.orderNotFound orderId)

/-- `OrderRepository.update_status`, from a session that knows the order as `old`; `c` holds the other
    columns the flush sets with it. -/
def updateOrderStatus (db : Db) (old : Order) (new : OrderStatus) (by_ : Option Id)
    (reason : Option String) (now : Time) (c : OrderPatch := {}) : Result Db := do
  let db ← db.write (.order old.id { c with status := some new })
  db.write (.history ⟨old.id, old.status, new, by_, reason, now⟩)

/-- `mark_paid`: pending to paid, from a payment already recorded as succeeded. -/
def markPaid (db : Db) (order : Order) (payment : Payment) (now : Time) : Result Db := do
  if order.status = .pending then do
    let db ← updateOrderStatus db order .paid none
      (some "payment confirmed by the payment provider") now
    db.write (.order order.id { paidInDemoMode := some (payment.provider = .demo) })
  else .ok db

/-- `issue_invoice`, not explicit. The order's status is the one just written. -/
def issueInvoice (db : Db) (order : Order) : Result Db := do
  if db.invoices.get? (order.id, .invoice) ≠ none then .ok db
  else if order.paidInDemoMode = true then .ok db
  else if order.gstCalculated = false then .ok db
  else do
    require (order.status = .paid ∨ order.status = .fulfilled)
      (.invoiceNotApplicable "Only a paid or shipped order can be invoiced")
    require (db.businessProfile = true) .businessProfileIncomplete
    db.write (.insertInvoice ⟨order.id, .invoice⟩)

/-- `issue_credit_note`: only for an order that was invoiced, and once. -/
def issueCreditNote (db : Db) (orderId : Id) : Result Db := do
  if db.invoices.get? (orderId, .invoice) = none then .ok db
  else if db.invoices.get? (orderId, .creditNote) ≠ none then .ok db
  else do
    require (db.businessProfile = true) .businessProfileIncomplete
    db.write (.insertInvoice ⟨orderId, .creditNote⟩)

/-- The status change to `fulfilled` with the tax invoice that must go with it. -/
def fulfil (db : Db) (order : Order) (by_ : Option Id) (reason : Option String) (now : Time) :
    Result Db := do
  let db ← updateOrderStatus db order .fulfilled by_ reason now
  issueInvoice db { order with status := .fulfilled }

/-- `fulfil_order`: refused while a cancellation with refund is in flight. -/
def fulfilOrder (db : Db) (orderId admin : Id) (now : Time) : Result Db := do
  let order ← lockOrder db orderId
  if order.status = .fulfilled then .ok db
  else do
    require (order.status = .paid) (.invalidStatusTransition order.status .fulfilled)
    require (db.hasCancellingRefund order.id = false)
      (.statusChangeNotAllowed "A cancellation with refund is in progress for this order, so it cannot be fulfilled")
    fulfil db order (some admin) (some "marked fulfilled by an administrator") now

/-- `admin_change_status`: only the way to `fulfilled` is open. -/
def adminChangeStatus (db : Db) (orderId : Id) (new : OrderStatus) (admin : Id) (now : Time) :
    Result Db :=
  match new with
  | .fulfilled => fulfilOrder db orderId admin now
  | .cancelled => .error (.statusChangeNotAllowed
      ("Cancel an unpaid order with POST /api/v1/orders/\x7bid\x7d/cancel: it also cancels the payment "
        ++ "and restocks. A paid order is refunded, not cancelled."))
  | .paid => .error (.statusChangeNotAllowed
      ("An order becomes paid only when the payment provider confirms a payment; "
        ++ "it cannot be set by hand."))
  | .refunded => .error (.statusChangeNotAllowed
      ("An order becomes refunded only when the payment provider confirms a refund. "
        ++ "Request one with POST /api/v1/payments/\x7border_id\x7d/refund."))
  | .pending => .error (.statusChangeNotAllowed "An order cannot return to pending.")

/-! ### Restocking -/

/-- The event of `_restock_once` for one line. -/
def releaseEvent (i : OrderItem) : OrderItemRestock :=
  ⟨i.id, "order-release", i.quantity - i.restockedQuantity⟩

/-- The lines that still have pieces to give back. -/
def pendingLines (s : Stock) (orderId : Id) : List OrderItem :=
  (s.itemsOf orderId).filter fun i => 0 < i.quantity - i.restockedQuantity

/-- A line bought as a simple product whose product has gained options has no unit to go back to. -/
def lineConverted (s : Stock) (i : OrderItem) : Prop :=
  i.variantId = none ∧ ∃ p ∈ s.products.get? i.productId, 0 < p.optionCount

instance (s : Stock) (i : OrderItem) : Decidable (lineConverted s i) :=
  inferInstanceAs (Decidable (_ ∧ _))

/-- The pieces of simple products that some lines give back. -/
def productBack (s : Stock) (lines : List (OrderItem × ℤ)) : Deltas :=
  lines.foldl (fun d l =>
    if l.1.variantId = none ∧ s.products.get? l.1.productId ≠ none then d.bump l.1.productId l.2
    else d) []

/-- The pieces of variants that some lines give back. -/
def variantBack (s : Stock) (lines : List (OrderItem × ℤ)) : Deltas :=
  lines.foldl (fun d l =>
    match l.1.variantId with
    | some v => if s.variants.get? v ≠ none then d.bump v l.2 else d
    | none => d) []

/-- Records the restock events of some lines and moves the pieces of those that were new. -/
def restockWrites (s : Stock) (lines : List (OrderItem × OrderItemRestock)) (ctx : StockContext) :
    List StockWrite :=
  let fresh := (lines.filter fun l =>
    s.restocks.get? (l.2.orderItemId, l.2.eventKey) = none).map fun l => (l.1, l.2.quantity)
  lines.map (fun l => .recordRestock l.2)
    ++ adjustStockMany (productBack s fresh) ctx
    ++ adjustVariantStockMany (variantBack s fresh) ctx

/-- `_restock_once`, up to the stock. The caller's next flush sets `stock_released_at`. -/
def restockOnce (db : Db) (order : Order) : Result Db := do
  let lines := pendingLines db.stock order.id
  require (∀ i ∈ lines, ¬lineConverted db.stock i)
    (.runtime "an order item cannot be restocked: its product now has variants")
  db.stockWrites (restockWrites db.stock (lines.map fun i => (i, releaseEvent i))
    ⟨.restock, some order.id⟩)

/-- `_release_stock_and_cancel`: one UPDATE sets the release time and the status. -/
def releaseStockAndCancel (db : Db) (order : Order) (by_ : Option Id) (reason : String) (now : Time) :
    Result Db := do
  if order.stockReleasedAt = none then do
    let db ← restockOnce db order
    updateOrderStatus db order .cancelled by_ (some reason) now { stockReleasedAt := some now }
  else updateOrderStatus db order .cancelled by_ (some reason) now

/-! ### Cancellation and expiry -/

/-- Whether the adapter of a provider can cancel an intent. -/
def Provider.supportsCancel : Provider → Bool
  | .demo | .stripe => true
  | .razorpay => false

/-- `_provider_for`: the provider of the stored configuration, else the environment's, which is
    Stripe. -/
def providerFor (db : Db) (configId : Option Id) : Provider :=
  match configId.bind db.configs.get? with
  | some c => c.provider
  | none => .stripe

/-- What one provider said about one intent. -/
inductive CancelOutcome
  | unsupportedCancel
  | unknown
  | status (word : String)
  deriving DecidableEq, Repr

/-- One intent of a cancellation: which payment, asked of which provider, with what outcome. -/
structure CancelAnswer where
  paymentId : Id
  providerPaymentId : String
  askedOf : Provider
  outcome : CancelOutcome
  deriving DecidableEq, Repr

/-- A `cancel_order` call between its transactions: the intents still to be asked about, what was
    answered, and the payment rows its session loaded in phase 1. -/
structure CancelCall where
  orderId : Id
  actor : Option Id
  reason : String
  toCancel : List (Id × String × Option Id)
  outcomes : List CancelAnswer
  loaded : List Payment

def CancelAnswer.completed (a : CancelAnswer) : Bool := a.outcome = .status "succeeded"

/-- Neither cancelled, nor paid, nor a provider that cannot cancel. -/
def CancelAnswer.uncertain (a : CancelAnswer) : Bool :=
  match a.outcome with
  | .unsupportedCancel => false
  | .unknown => true
  | .status word => word ≠ "succeeded" ∧ word ≠ "canceled"

/-- Phase 1 of `cancel_order`; `none` when the order is cancelled already. -/
def cancelBegin (db : Db) (orderId : Id) (actor : Option Id) (reason : String) :
    Result (Option CancelCall) := do
  let order ← lockOrder db orderId
  if order.status = .cancelled then .ok none
  else do
    require (order.status = .pending) (.cancellationNotAllowed order.status)
    let payments := db.listForOrder order.id
    require (∀ p ∈ payments, p.status ≠ .succeeded) .paymentInProgress
    .ok (some {
      orderId := orderId, actor := actor, reason := reason
      toCancel := (payments.filter fun p => p.status ≠ .refunded).map fun p =>
        (p.id, p.providerPaymentId, p.providerConfigId)
      outcomes := [], loaded := payments })

/-- Phase 2, one intent: the provider's answer, `none` for an error or a timeout. -/
def cancelAsk (db : Db) (call : CancelCall) (answer : Option String) : Option CancelCall :=
  match call.toCancel with
  | [] => none
  | (paymentId, ppid, configId) :: rest =>
    let provider := providerFor db configId
    let outcome :=
      if provider.supportsCancel then
        match answer with
        | some word => .status word
        | none => .unknown
      else .unsupportedCancel
    some { call with
      toCancel := rest
      outcomes := ⟨paymentId, ppid, provider, outcome⟩ :: call.outcomes }

/-- The answers leave the order as it is: a human is told. -/
def cancelReport (db : Db) (call : CancelCall) : Db :=
  if call.outcomes.any (·.completed) then
    reconcile db .cancelPaymentSucceeded (ReconciliationKind.cancelPaymentSucceeded.key call.orderId)
      none (some call.orderId) none
  else
    reconcile db .cancelUncertain (ReconciliationKind.cancelUncertain.key call.orderId)
      none (some call.orderId) none

/-- `list_for_order` in the session of phase 1: a row that was loaded then keeps the attributes it was
    loaded with. -/
def CancelCall.payments (call : CancelCall) (db : Db) : List Payment :=
  (db.listForOrder call.orderId).map fun p => (call.loaded.find? fun q => q.id = p.id).getD p

/-- Marks the payments this session knows as pending failed. -/
def failPending (db : Db) : List Payment → Result Db
  | [] => .ok db
  | p :: ps =>
    if p.status = .pending then do
      let db ← db.write (.payment p.id { status := some .failed })
      failPending db ps
    else failPending db ps

/-- Phase 3 of `cancel_order`. -/
def cancelFinish (db : Db) (call : CancelCall) (now : Time) : Result Db := do
  let order ← lockOrder db call.orderId
  if order.status ≠ .pending then .ok db
  else
    let payments := call.payments db
    if payments.any (·.status = .succeeded) then .ok db
    else do
      let db ← failPending db payments
      releaseStockAndCancel db order call.actor call.reason now

end NovaCart
