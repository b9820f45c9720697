import NovaCart.Catalogue

/-! Guarded writes to the database and the queries of the repositories.

    `Db.write` runs one statement together with the triggers, partial unique indexes and foreign keys
    that protect its table: `orders_lifecycle_guard`, `refunds_guard`, `refunds_cumulative_guard`,
    `disputes_guard`, one pending payment per order and one refund in flight per payment. An UPDATE is
    a patch: it sets the columns the service changed and leaves the others as they are in the row
    now, which is what a session does with an object it loaded earlier. -/

namespace NovaCart

open Schemes
open Keyed (key)

/-- The columns of an order that a flush may set. -/
structure OrderPatch where
  status : Option OrderStatus := none
  stockReleasedAt : Option Time := none
  paidInDemoMode : Option Bool := none

def Order.patch (o : Order) (c : OrderPatch) : Order :=
  { o with
    status := c.status.getD o.status
    stockReleasedAt := c.stockReleasedAt.or o.stockReleasedAt
    paidInDemoMode := c.paidInDemoMode.getD o.paidInDemoMode }

structure PaymentPatch where
  status : Option PaymentStatus := none
  providerReference : Option String := none
  providerRefundId : Option String := none
  refundedAmountCents : Option ℤ := none

def Payment.patch (p : Payment) (c : PaymentPatch) : Payment :=
  { p with
    status := c.status.getD p.status
    providerReference := c.providerReference.or p.providerReference
    providerRefundId := c.providerRefundId.or p.providerRefundId
    refundedAmountCents := c.refundedAmountCents.or p.refundedAmountCents }

structure RefundPatch where
  status : Option RefundStatus := none
  providerRefundId : Option String := none
  attempts : Option Nat := none
  failureReason : Option String := none

def Refund.patch (r : Refund) (c : RefundPatch) : Refund :=
  { r with
    status := c.status.getD r.status
    providerRefundId := c.providerRefundId.or r.providerRefundId
    attempts := c.attempts.getD r.attempts
    failureReason := c.failureReason.or r.failureReason }

/-- `dispute.status, dispute.provider_status = ...`, with `closed_at` when the dispute ends. -/
structure DisputePatch where
  status : DisputeStatus
  providerStatus : Option String
  closedAt : Option Time := none

def Dispute.patch (d : Dispute) (c : DisputePatch) : Dispute :=
  { d with
    status := c.status
    providerStatus := c.providerStatus
    closedAt := c.closedAt.or d.closedAt }

inductive Write
  | stock (w : StockWrite)
  | insertOrder (row : Order)
  | order (id : Id) (patch : OrderPatch)
  | history (row : OrderStatusHistory)
  | insertPayment (row : Payment)
  | payment (id : Id) (patch : PaymentPatch)
  | insertRefund (row : Refund)
  | refund (id : Id) (patch : RefundPatch)
  | insertDispute (row : Dispute)
  | dispute (id : Id) (patch : DisputePatch)
  | reconcile (row : PaymentReconciliation)
  | resolve (key : DedupeKey) (resolution : Resolution) (note : String) (by_ : Option Id)
  | event (row : ProcessedWebhookEvent)
  | defer (row : DeferredWebhookEvent)
  | deferred (row : DeferredWebhookEvent)
  | insertConfig (row : PaymentProviderConfig)
  | config (row : PaymentProviderConfig)
  | insertReturn (row : ReturnRequest)
  | returned (row : ReturnRequest)
  | insertShipment (row : OrderShipment)
  | insertInvoice (row : Invoice)

/-- The CHECK of the `currency` column, three lower-case letters, of the money tables. -/
def currencyFormat (code : String) : Bool :=
  code.length = 3 ∧ code.toList.all fun c => 'a' ≤ c ∧ c ≤ 'z'

/-! ### Status predicates -/

/-- `requested`, `pending` or `uncertain`: the refund may still move money. -/
def RefundStatus.inFlight : RefundStatus → Bool
  | .requested | .pending | .uncertain => true
  | .succeeded | .failed => false

/-- `ACTIVE_REFUND_STATUSES`: what the cumulative limit counts. -/
def RefundStatus.active : RefundStatus → Bool
  | .failed => false
  | _ => true

def RefundStatus.final : RefundStatus → Bool
  | .succeeded | .failed => true
  | _ => false

def DisputeStatus.final : DisputeStatus → Bool
  | .won | .lost | .closed => true
  | .opened | .underReview => false

/-- The word stored for a status. -/
def OrderStatus.value : OrderStatus → String
  | .pending => "pending"
  | .paid => "paid"
  | .fulfilled => "fulfilled"
  | .cancelled => "cancelled"
  | .refunded => "refunded"

/-- The transitions `orders_lifecycle_guard` and `ALLOWED_TRANSITIONS` list. -/
def OrderStatus.allowed : OrderStatus → OrderStatus → Bool
  | .pending, .paid | .pending, .cancelled => true
  | .paid, .fulfilled | .paid, .refunded => true
  | .fulfilled, .refunded => true
  | _, _ => false

namespace Db

/-! ### Queries -/

/-- `list_for_order`: newest first. -/
def listForOrder (db : Db) (orderId : Id) : List Payment :=
  db.payments.rows.filter fun p => p.orderId = orderId

/-- `get_by_provider_payment_id` with a provider. The id is unique over all providers, so at most
    one row is found. -/
def byProviderPaymentId (db : Db) (ppid : String) (provider : Provider) : Option Payment :=
  db.payments.rows.find? fun p => p.providerPaymentId = ppid ∧ p.provider = provider

/-- `scalar_one_or_none` of `get_by_provider_reference`. -/
def byProviderReference (db : Db) (reference : String) (provider : Provider) :
    Result (Option Payment) :=
  match db.payments.rows.filter fun p => p.providerReference = some reference ∧ p.provider = provider with
  | [] => .ok none
  | [p] => .ok (some p)
  | _ => .error .multipleResultsFound

/-- `scalar_one_or_none` of `get_by_provider_refund_id`: not scoped to a provider. -/
def byProviderRefundId (db : Db) (prid : String) : Result (Option Refund) :=
  match db.refunds.rows.filter fun r => r.providerRefundId = some prid with
  | [] => .ok none
  | [r] => .ok (some r)
  | _ => .error .multipleResultsFound

/-- `get_active_for_payment`: the refund the store started that is still in flight. -/
def activeForPayment (db : Db) (paymentId : Id) : Option Refund :=
  db.refunds.rows.find? fun r =>
    r.paymentId = paymentId ∧ r.origin = .requested ∧ r.status.inFlight

/-- `has_submitted_refund`. -/
def hasSubmittedRefund (db : Db) (paymentId : Id) : Bool :=
  db.refunds.rows.any fun r => r.paymentId = paymentId ∧
    (r.status = .pending ∨ r.status = .uncertain ∨ r.status = .succeeded ∨
      (r.status = .requested ∧ 0 < r.attempts))

/-- `has_cancelling_refund`. -/
def hasCancellingRefund (db : Db) (orderId : Id) : Bool :=
  db.refunds.rows.any fun r => r.orderId = orderId ∧ r.cancelsOrder ∧ r.status.inFlight

/-- `committed_amount`. -/
def committedAmount (db : Db) (paymentId : Id) : ℤ :=
  db.refunds.total fun r => if r.paymentId = paymentId ∧ r.status.active then r.amountCents else 0

/-- `count_for_payment`. -/
def countForPayment (db : Db) (paymentId : Id) : Nat :=
  db.refunds.rows.countP fun r => r.paymentId = paymentId

/-- `disputes.has_open`. -/
def hasOpenDispute (db : Db) (paymentId : Id) : Bool :=
  db.disputes.rows.any fun d => d.paymentId = paymentId ∧ !d.status.final

/-- `disputes.get_by_provider_id`. -/
def byProviderDisputeId (db : Db) (provider : Provider) (pdid : String) : Option Dispute :=
  db.disputes.rows.find? fun d => d.provider = provider ∧ d.providerDisputeId = pdid

/-! ### Guards -/

/-- `orders_lifecycle_guard`. -/
def ordersLifecycleGuard (db : Db) (old new : Order) : Result Unit := do
  require (old.stockReleasedAt = none ∨ new.stockReleasedAt = old.stockReleasedAt)
    (.integrity "stock release cannot be repeated or undone")
  if new.status = old.status then .ok ()
  else do
    require (old.status.allowed new.status) (.integrity "an order cannot change status like this")
    require (new.status = .paid →
        ∃ p ∈ db.payments.rows, p.orderId = new.id ∧ p.status = .succeeded)
      (.integrity "an order cannot become paid without a succeeded payment")
    require (new.status = .refunded →
        ∃ r ∈ db.refunds.rows, r.orderId = new.id ∧ r.status = .succeeded)
      (.integrity "an order cannot become refunded without a succeeded refund")
    require (new.status = .cancelled → new.stockReleasedAt ≠ none)
      (.integrity "an order cannot be cancelled before its stock is released")

/-- `ux_payments_order_id_pending`. -/
def onePendingPayment (db : Db) (new : Payment) : Prop :=
  new.status = .pending →
    ∀ p ∈ db.payments.rows, p.id ≠ new.id → p.orderId = new.orderId → p.status ≠ .pending

/-- `ux_refunds_one_inflight_per_payment`. -/
def oneRefundInFlight (db : Db) (new : Refund) : Prop :=
  new.origin = .requested → new.status.inFlight →
    ∀ r ∈ db.refunds.rows, r.id ≠ new.id → r.paymentId = new.paymentId →
      ¬(r.origin = .requested ∧ r.status.inFlight)

/-- `refunds_cumulative_guard`: the refunds that count never exceed the payment. -/
def refundsCumulativeGuard (db : Db) (new : Refund) : Prop :=
  new.status.active → ∃ p ∈ db.payments.get? new.paymentId,
    (db.refunds.total fun r =>
      if r.paymentId = new.paymentId ∧ r.id ≠ new.id ∧ r.status.active then r.amountCents else 0)
      + new.amountCents ≤ p.amountCents

instance (db : Db) (p : Payment) : Decidable (db.onePendingPayment p) :=
  inferInstanceAs (Decidable (_ → _))
instance (db : Db) (r : Refund) : Decidable (db.oneRefundInFlight r) :=
  inferInstanceAs (Decidable (_ → _))
instance (db : Db) (r : Refund) : Decidable (db.refundsCumulativeGuard r) :=
  inferInstanceAs (Decidable (_ → _))

/-! ### Statements -/

def updateOrder (db : Db) (id : Id) (c : OrderPatch) : Result Db := do
  let old ← need (db.orders.get? id) .keyError
  db.ordersLifecycleGuard old (old.patch c)
  .ok { db with orders := db.orders.replace (old.patch c) }

def insertPayment (db : Db) (p : Payment) : Result Db := do
  require (currencyFormat p.currency) (.integrity "ck_payments_currency_format")
  require (db.orders.get? p.orderId ≠ none) (.integrity "payments_order_id_fkey")
  require (∀ c ∈ p.providerConfigId, db.configs.get? c ≠ none)
    (.integrity "payments_provider_config_id_fkey")
  require (∀ q ∈ db.payments.rows, q.providerPaymentId ≠ p.providerPaymentId)
    (.integrity "payments_provider_payment_id_key")
  require (db.onePendingPayment p) (.integrity "ux_payments_order_id_pending")
  let payments ← need (db.payments.insert? p) (.integrity "payments_pkey")
  .ok { db with payments := payments }

def updatePayment (db : Db) (id : Id) (c : PaymentPatch) : Result Db := do
  let old ← need (db.payments.get? id) .keyError
  require (db.onePendingPayment (old.patch c)) (.integrity "ux_payments_order_id_pending")
  .ok { db with payments := db.payments.replace (old.patch c) }

def insertRefund (db : Db) (r : Refund) : Result Db := do
  require (currencyFormat r.currency) (.integrity "ck_refunds_currency_format")
  require (db.orders.get? r.orderId ≠ none) (.integrity "refunds_order_id_fkey")
  require (db.payments.get? r.paymentId ≠ none) (.integrity "refunds_payment_id_fkey")
  require (∀ q ∈ db.refunds.rows, q.idempotencyKey ≠ r.idempotencyKey)
    (.integrity "refunds_idempotency_key_key")
  require (db.oneRefundInFlight r) (.integrity "ux_refunds_one_inflight_per_payment")
  require (db.refundsCumulativeGuard r)
    (.integrity "refunds of a payment cannot exceed the payment amount")
  let refunds ← need (db.refunds.insert? r) (.integrity "refunds_pkey")
  .ok { db with refunds := refunds }

/-- `refunds_guard` protects what a refund is for; a patch cannot name those columns, so only the
    finality of its status is left to check. -/
def updateRefund (db : Db) (id : Id) (c : RefundPatch) : Result Db := do
  let old ← need (db.refunds.get? id) .keyError
  require (old.status.final → (old.patch c).status = old.status) (.integrity "refund is final")
  require (db.oneRefundInFlight (old.patch c)) (.integrity "ux_refunds_one_inflight_per_payment")
  require (db.refundsCumulativeGuard (old.patch c))
    (.integrity "refunds of a payment cannot exceed the payment amount")
  .ok { db with refunds := db.refunds.replace (old.patch c) }

def insertDispute (db : Db) (d : Dispute) : Result Db := do
  require (currencyFormat d.currency) (.integrity "ck_disputes_currency_format")
  require (db.payments.get? d.paymentId ≠ none) (.integrity "disputes_payment_id_fkey")
  require (∀ q ∈ db.disputes.rows,
      (q.provider, q.providerDisputeId) ≠ (d.provider, d.providerDisputeId))
    (.integrity "uq_disputes_provider_id")
  let disputes ← need (db.disputes.insert? d) (.integrity "disputes_pkey")
  .ok { db with disputes := disputes }

/-- `disputes_guard`: a closed dispute is final. -/
def updateDispute (db : Db) (id : Id) (c : DisputePatch) : Result Db := do
  let old ← need (db.disputes.get? id) .keyError
  require (old.status.final → c.status = old.status) (.integrity "dispute is final")
  .ok { db with disputes := db.disputes.replace (old.patch c) }

/-- `INSERT ... ON CONFLICT DO NOTHING` on the deduplication key. -/
def record (db : Db) (row : PaymentReconciliation) : Db :=
  match db.reconciliations.insert? row with
  | none => db
  | some t => { db with reconciliations := t }

/-- Closes an open record; a record that is resolved already stays as it is. -/
def resolveRecord (db : Db) (k : DedupeKey) (resolution : Resolution) (note : String)
    (by_ : Option Id) : Db :=
  match db.reconciliations.get? k with
  | none => db
  | some r =>
    if r.open_ then
      let closed := { r with
        open_ := false, resolution := some resolution, resolutionNote := some note,
        resolvedByUserId := by_ }
      { db with reconciliations := db.reconciliations.replace closed }
    else db

/-- Writes the row of `(provider, event_id)`, whether it exists or not. -/
def upsertEvent (db : Db) (row : ProcessedWebhookEvent) : Db :=
  match db.events.insert? row with
  | none => { db with events := db.events.replace row }
  | some t => { db with events := t }

/-- `INSERT ... ON CONFLICT DO NOTHING` on `(provider, event_id)`. -/
def insertDeferred (db : Db) (row : DeferredWebhookEvent) : Db :=
  match db.deferred.insert? row with
  | none => db
  | some t => { db with deferred := t }

/-- One statement, with every database rule that applies to it. -/
def write (db : Db) : Write → Result Db
  | .stock w => do let s ← db.stock.write w; .ok { db with stock := s }
  | .insertOrder row => do
    let orders ← need (db.orders.insert? row) (.integrity "orders_pkey")
    .ok { db with orders := orders }
  | .order id c => db.updateOrder id c
  | .history row => .ok { db with history := row :: db.history }
  | .insertPayment row => db.insertPayment row
  | .payment id c => db.updatePayment id c
  | .insertRefund row => db.insertRefund row
  | .refund id c => db.updateRefund id c
  | .insertDispute row => db.insertDispute row
  | .dispute id c => db.updateDispute id c
  | .reconcile row => .ok (db.record row)
  | .resolve k resolution note by_ => .ok (db.resolveRecord k resolution note by_)
  | .event row => .ok (db.upsertEvent row)
  | .defer row => .ok (db.insertDeferred row)
  | .deferred row => .ok { db with deferred := db.deferred.replace row }
  | .insertConfig row => do
    let configs ← need (db.configs.insert? row) (.integrity "payment_provider_configs_pkey")
    .ok { db with configs := configs }
  | .config row => .ok { db with configs := db.configs.replace row }
  | .insertReturn row => do
    let returns ← need (db.returns.insert? row) (.integrity "return_requests_pkey")
    .ok { db with returns := returns }
  | .returned row => .ok { db with returns := db.returns.replace row }
  | .insertShipment row => do
    let shipments ← need (db.shipments.insert? row) (.integrity "order_shipments_pkey")
    .ok { db with shipments := shipments }
  | .insertInvoice row => do
    let invoices ← need (db.invoices.insert? row) (.integrity "uq_invoices_order_doc_type")
    .ok { db with invoices := invoices }

/-- Stock statements as database statements. -/
def stockWrites (db : Db) : List StockWrite → Result Db
  | [] => .ok db
  | w :: ws => do
    let db' ← db.write (.stock w)
    db'.stockWrites ws

end Db

end NovaCart
