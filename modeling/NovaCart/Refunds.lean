import NovaCart.Lifecycle

/-! `OrderLifecycleService`, continued: refunds from request to provider-confirmed outcome, refunds
    made at the provider, disputes, and the administrator's side of reconciliation. -/

namespace NovaCart

open Schemes

/-! ### Requesting a refund -/

/-- The payment `request_refund` is about: the named one, else the newest succeeded one. -/
def refundablePayment (db : Db) (order : Order) : Option Id → Result (Option Payment)
  | none => do
    require (order.status = .paid ∨ order.status = .fulfilled)
      (.orderNotRefundable ("Cannot refund an order in status " ++ order.status.value))
    .ok ((db.listForOrder order.id).find? fun p => p.status = .succeeded)
  | some paymentId =>
    .ok ((db.listForOrder order.id).find? fun p => p.id = paymentId ∧ p.status = .succeeded)

/-- What must hold of the payment before a full refund of it is created. -/
def refundAllowed (db : Db) (order : Order) (payment : Payment) : Result Unit := do
  require (order.currency = some payment.currency)
    (.paymentInconsistent "The payment currency does not match the order currency")
  require (db.hasOpenDispute payment.id = false) .paymentDisputed
  require (db.committedAmount payment.id < payment.amountCents)
    (.orderNotRefundable "This payment has already been fully refunded")
  require (db.committedAmount payment.id ≤ 0) .partialRefundNotSupported

/-- `request_refund`: the refund in flight for the payment, or a new one for its full amount, which
    `to_stripe_amount` returns as it is. -/
def requestRefund (db : Db) (orderId requestedBy : Id) (paymentId : Option Id) (cancelsOrder : Bool)
    (refundId : Id) : Result (Db × Id) := do
  let order ← lockOrder db orderId
  require (order.currency ≠ none) .orderCurrencyUnknown
  require (cancelsOrder = true → order.status = .paid) (.cancelAndRefundNotAllowed order.status)
  let found ← refundablePayment db order paymentId
  let payment ← need found (.orderNotRefundable "No successful payment found for this order")
  match db.activeForPayment payment.id with
  | some existing => do
    require (existing.cancelsOrder = cancelsOrder) (.refundAlreadyRequested existing.cancelsOrder)
    .ok (db, existing.id)
  | none => do
    refundAllowed db order payment
    let _ ← toStripeAmount payment.amountCents payment.currency
    let db ← db.write (.insertRefund {
      id := refundId, paymentId := payment.id, orderId := order.id
      amountCents := payment.amountCents, currency := payment.currency
      status := .requested, providerRefundId := none
      idempotencyKey := "refund:" ++ toString payment.id ++ ":" ++ toString (db.countForPayment payment.id)
      requestedByUserId := some requestedBy, attempts := 0, cancelsOrder := cancelsOrder
      origin := .requested, failureReason := none, amountPositive := payment.amountPositive })
    .ok (db, refundId)

/-! ### Confirming a refund -/

/-- The value a flush writes for a column: nothing when the session already had it. -/
def changed {α : Type} [DecidableEq α] (old new : α) : Option α :=
  if new = old then none else some new

/-- `add_refunded_amount` on the session's object: the object afterwards. -/
def Payment.addRefunded (p : Payment) (prid : Option String) (amount : ℤ) : Payment :=
  let total := p.refundedAmountCents.getD 0 + amount
  { p with
    refundedAmountCents := some total
    providerRefundId := (truthy prid).or p.providerRefundId
    status := if p.amountCents ≤ total then .refunded else p.status }

/-- The UPDATE that goes with it: the columns in which the two objects differ. -/
def addRefundedPatch (p : Payment) (prid : Option String) (amount : ℤ) : PaymentPatch :=
  let p' := p.addRefunded prid amount
  { status := changed p.status p'.status
    providerRefundId := (changed p.providerRefundId p'.providerRefundId).join
    refundedAmountCents := (changed p.refundedAmountCents p'.refundedAmountCents).join }

/-- `await payments.get_by_id`: the object of this session if the row was loaded, else the row now. -/
def sessionPayment (db : Db) (loaded : Option Payment) (id : Id) : Result Payment :=
  match loaded with
  | some p => if p.id = id then .ok p else need (db.payments.get? id) .keyError
  | none => need (db.payments.get? id) .keyError

/-- The order's side of a full refund: refunded, credited, and restocked when the refund cancels an
    order that was not shipped. -/
def refundOrder (db : Db) (order : Order) (refund : Refund) (now : Time) : Result Db := do
  let db ← updateOrderStatus db order .refunded none
    (some "refund confirmed by the payment provider") now
  let db ← issueCreditNote db order.id
  if refund.cancelsOrder = true ∧ order.status ≠ .fulfilled ∧ order.stockReleasedAt = none then do
    let db ← restockOnce db order
    db.write (.order order.id { stockReleasedAt := some now })
  else .ok db

/-- Python's `amount or refund.amount_cents`: an absent or zero amount counts as the requested one. -/
def confirmedAmount (refund : Refund) (amount : Option ℤ) : ℤ :=
  if amount.getD 0 = 0 then refund.amountCents else amount.getD 0

/-- `_confirm_refund`. -/
def confirmRefund (db : Db) (refund : Refund) (prid : Option String) (amount : Option ℤ)
    (loaded : Option Payment) (now : Time) : Result Db := do
  let order ← lockOrder db refund.orderId
  let payment ← sessionPayment db loaded refund.paymentId
  let added := confirmedAmount refund amount
  let db ← db.write (.payment payment.id (addRefundedPatch payment prid added))
  let payment := payment.addRefunded prid added
  let db := reconcileIf (db.hasOpenDispute payment.id) db .disputeDuringRefund
    (ReconciliationKind.disputeDuringRefund.key refund.id) (some payment) none none
  if refund.origin = .requested ∧ payment.amountCents ≤ payment.refundedAmountCents.getD 0 ∧
      (order.status = .paid ∨ order.status = .fulfilled) then
    refundOrder db order refund now
  else .ok db

/-! ### Provider reports -/

/-- What the provider says about a refund. -/
structure RefundReport where
  status : Option String
  amount : Option ℤ
  currency : Option String
  providerRefundId : Option String
  deriving DecidableEq, Repr

/-- The report disagrees with what was requested. -/
def RefundReport.mismatch (t : RefundReport) (r : Refund) : Prop :=
  (t.amount ≠ none ∧ t.amount ≠ some r.amountCents) ∨
    (t.currency ≠ none ∧ t.currency ≠ some r.currency)

instance (t : RefundReport) (r : Refund) : Decidable (t.mismatch r) :=
  inferInstanceAs (Decidable (_ ∨ _))

/-- The provider's refund id, when the refund has none yet. -/
def RefundReport.newRefundId (t : RefundReport) (r : Refund) : Option String :=
  if r.providerRefundId = none then truthy t.providerRefundId else none

/-- `refunds.save`: a flush, which sends nothing when no column changed. -/
def saveRefund (db : Db) (r : Refund) (c : RefundPatch) : Result Db :=
  if r.patch c = r then .ok db else db.write (.refund r.id c)

/-- `apply_refund_state` on a locked refund. -/
def applyRefundState (db : Db) (refund : Refund) (report : RefundReport) (loaded : Option Payment)
    (now : Time) : Result Db :=
  let db := reconcileIf (report.mismatch refund) db .refundMismatch
    (ReconciliationKind.refundMismatch.key refund.id) none (some refund.orderId) none
  let prid := report.newRefundId refund
  if refund.status.final then saveRefund db refund { providerRefundId := prid }
  else if report.status = some "succeeded" then do
    let db ← saveRefund db refund { status := some .succeeded, providerRefundId := prid }
    confirmRefund db (refund.patch { status := some .succeeded, providerRefundId := prid })
      ((truthy report.providerRefundId).or (prid.or refund.providerRefundId)) report.amount loaded now
  else if report.status = some "failed" ∨ report.status = some "canceled" then
    saveRefund db refund {
      status := some .failed, providerRefundId := prid
      failureReason := some ("provider reported '" ++ showOption report.status ++ "'") }
  else if refund.status = .requested then
    saveRefund db refund { status := some .pending, providerRefundId := prid }
  else saveRefund db refund { providerRefundId := prid }

/-! ### The refund job -/

structure RefundAttempt where
  refundId : Id
  providerPaymentId : String
  providerConfigId : Option Id
  amount : ℤ
  currency : String
  idempotencyKey : String
  deriving DecidableEq, Repr

def Provider.refundNeedsReference : Provider → Bool
  | .razorpay => true
  | .demo | .stripe => false

/-- `begin_refund_attempt`: counts the attempt, or ends a refund that a dispute overtook. -/
def beginRefundAttempt (db : Db) (refundId : Id) : Result (Db × Option RefundAttempt) :=
  match db.refunds.get? refundId with
  | none => .ok (db, none)
  | some refund =>
    if refund.status ≠ .requested then .ok (db, none)
    else do
      let payment ← need (db.payments.get? refund.paymentId) .keyError
      if db.hasOpenDispute payment.id ∧ refund.attempts = 0 then do
        let db ← db.write (.refund refund.id {
          status := some .failed
          failureReason := some "not submitted: a dispute is open on this payment" })
        .ok (reconcile db .refundBlockedByDispute
          (ReconciliationKind.refundBlockedByDispute.key refund.id) (some payment) none none, none)
      else do
        let db := reconcileIf (db.hasOpenDispute payment.id) db .disputeDuringRefund
          (ReconciliationKind.disputeDuringRefund.key refund.id) (some payment) none none
        let db ← db.write (.refund refund.id { attempts := some (refund.attempts + 1) })
        let reference := if payment.provider.refundNeedsReference then payment.providerReference else none
        let amount ← toStripeAmount refund.amountCents refund.currency
        .ok (db, some ⟨refund.id, (truthy reference).getD payment.providerPaymentId,
          payment.providerConfigId, amount, refund.currency, refund.idempotencyKey⟩)

/-- `record_refund_attempt_failed`: the outcome of the call is unknown. -/
def recordRefundAttemptFailed (cfg : Settings) (db : Db) (refundId : Id) (error : String) : Result Db :=
  match db.refunds.get? refundId with
  | none => .ok db
  | some refund =>
    if refund.status ≠ .requested ∨ refund.attempts < cfg.refundMaxAttempts then .ok db
    else do
      let db ← db.write (.refund refund.id { status := some .uncertain, failureReason := some error })
      .ok (reconcile db .refundUncertain (ReconciliationKind.refundUncertain.key refund.id)
        none (some refund.orderId) none)

/-- `finish_refund`: the job's own answer, in a session that loaded nothing before. -/
def finishRefund (db : Db) (refundId : Id) (report : RefundReport) (now : Time) : Result Db :=
  match db.refunds.get? refundId with
  | none => .ok db
  | some refund => applyRefundState db refund report none now

/-! ### Refunds made at the provider -/

/-- `record_external_refund` for the payment object of this session. -/
def recordExternalRefund (db : Db) (payment : Payment) (prid : String) (amount : Option ℤ)
    (currency : Option String) (refundId : Id) : Result Db := do
  let known ← db.byProviderRefundId prid
  if known ≠ none then .ok db
  else if h : 0 < amount.getD 0 ∧ currency = some payment.currency then
    match db.write (.insertRefund {
      id := refundId, paymentId := payment.id, orderId := payment.orderId
      amountCents := amount.getD 0, currency := payment.currency
      status := .succeeded, providerRefundId := some prid
      idempotencyKey := "provider:" ++ prid, requestedByUserId := none, attempts := 0
      cancelsOrder := false, origin := .provider, failureReason := none, amountPositive := h.1 }) with
    | .ok db => do
      let db ← db.write (.payment payment.id (addRefundedPatch payment (some prid) (amount.getD 0)))
      .ok (reconcile db .externalRefund ⟨.ofKind .externalRefund, prid⟩ (some payment) none none)
    | .error (.integrity _) =>
      .ok (reconcile db .refundMismatch ⟨.externalRefundExceeds, prid⟩ (some payment) none none)
    | .error e => .error e
  else
    .ok (reconcile db .refundMismatch ⟨.externalRefundInvalid, prid⟩ (some payment) none none)

/-! ### Disputes -/

/-- `DISPUTE_STATUS_MAP`, with statuses it does not know as open. -/
def disputeStatusMap (status : Option String) : DisputeStatus :=
  match status.getD "" with
  | "needs_response" | "warning_needs_response" => .opened
  | "under_review" | "warning_under_review" => .underReview
  | "won" => .won
  | "lost" => .lost
  | "warning_closed" => .closed
  | _ => .opened

/-- A dispute seen for the first time, with the records that tell a human. -/
def openDispute (db : Db) (payment : Payment) (e : WebhookEvent) (pdid : String) (disputeId : Id)
    (now : Time) : Result Db := do
  let mapped := disputeStatusMap e.disputeStatus
  let db ← db.write (.insertDispute {
    id := disputeId, provider := e.provider, providerDisputeId := pdid
    paymentId := payment.id, orderId := payment.orderId
    amountCents := if e.amount.getD 0 = 0 then payment.amountCents else e.amount.getD 0
    currency := (truthy e.currency).getD payment.currency
    status := mapped, providerStatus := e.disputeStatus, reason := e.disputeReason
    closedAt := if mapped.final then some now else none })
  let db := reconcileIf (mapped.final = false ∧ db.hasSubmittedRefund payment.id) db
    .disputeDuringRefund ⟨.ofKind .disputeDuringRefund, "dispute:" ++ toString disputeId⟩
    (some payment) none none
  .ok (reconcileIf (mapped.final = false) db .disputeOpened
    (ReconciliationKind.disputeOpened.key disputeId) (some payment) none none)

/-- `apply_dispute_event`. The payment is found by an unlocked read (`seen`), then locked and
    refreshed. -/
def applyDisputeEvent (seen db : Db) (e : WebhookEvent) (disputeId : Id) (now : Time) : Result Db :=
  let found := if e.providerPaymentId = "" then none
    else seen.byProviderPaymentId e.providerPaymentId e.provider
  match found, truthy e.providerDisputeId with
  | some known, some pdid => do
    let payment ← need (db.payments.get? known.id) .keyError
    let mapped := disputeStatusMap e.disputeStatus
    match db.byProviderDisputeId e.provider pdid with
    | none => do
      let db ← openDispute db payment e pdid disputeId now
      .ok (reconcileIf (mapped = .lost) db .disputeLost
        (ReconciliationKind.disputeLost.key disputeId) (some payment) none none)
    | some dispute =>
      if dispute.status.final ∨ mapped = dispute.status then .ok db
      else do
        let db ← db.write (.dispute dispute.id {
          status := mapped, providerStatus := e.disputeStatus
          closedAt := if mapped.final then some now else none })
        .ok (reconcileIf (mapped = .lost) db .disputeLost
          (ReconciliationKind.disputeLost.key dispute.id) (some payment) none none)
  | _, _ =>
    .ok (reconcile db .unmatchedDispute
      ⟨.ofKind .unmatchedDispute, (truthy e.providerDisputeId).getD e.eventId⟩
      none none (some e.providerPaymentId))

/-! ### The administrator's side of reconciliation -/

/-- The record an administrator works on: it must be open. -/
def openRecord (db : Db) (k : DedupeKey) : Result PaymentReconciliation := do
  let r ← need (db.reconciliations.get? k) .reconciliationNotOpen
  require (r.open_ = true) .reconciliationNotOpen
  .ok r

def resolveReconciliation (db : Db) (k : DedupeKey) (admin : Id) (resolution : Resolution)
    (note : String) : Result Db := do
  let _ ← openRecord db k
  db.write (.resolve k resolution note (some admin))

/-- `refund_from_reconciliation`: the explicit refund of a late or unmatched payment. -/
def refundFromReconciliation (db : Db) (k : DedupeKey) (admin refundId : Id) : Result Db := do
  let r ← openRecord db k
  match r.paymentId, r.orderId with
  | some paymentId, some orderId => do
    let (db, refundId) ← requestRefund db orderId admin (some paymentId) false refundId
    db.write (.resolve k .refundRequested
      ("Refund " ++ toString refundId ++ " requested by an administrator") (some admin))
  | _, _ => .error (.orderNotRefundable "This record has no payment to refund")

end NovaCart
