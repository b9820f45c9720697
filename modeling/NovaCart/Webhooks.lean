import NovaCart.Refunds

/-! Webhook events: claiming, the four handlers, deferral and recovery (`PaymentService`,
    `PaymentRepository`, `jobs.py`, `webhook_recovery.py`).

    A handler runs in one transaction under READ COMMITTED. `seen` is the database its unlocked reads
    see; `db` is the database its locked reads and its writes meet, which may be later. A row object
    loaded from `seen` keeps its attributes, so a write decides on them. -/

namespace NovaCart

open Schemes

/-! ### Claiming an event -/

/-- `claim_webhook_event` succeeds for a new event and for one whose last attempt failed. -/
def claimable (db : Db) (e : WebhookEvent) : Bool :=
  match db.events.get? (e.provider, e.eventId) with
  | none => true
  | some row => row.status = .failed

/-- How many attempts a claim counts for the event. -/
def claimAttempts (db : Db) (e : WebhookEvent) : Nat :=
  match db.events.get? (e.provider, e.eventId) with
  | none => 1
  | some row => row.attempts + 1

/-- Whether the dispatcher acts on the type. -/
def EventType.handled : EventType → Bool
  | .other _ => false
  | _ => true

/-- The claim and `finish_webhook_event` together: what the committed row says. -/
def finishWebhookEvent (db : Db) (e : WebhookEvent) (attempts : Nat) : Result Db :=
  db.write (.event {
    provider := e.provider, eventId := e.eventId, eventType := e.eventType
    status := if e.eventType.handled then .processed else .ignored
    attempts := attempts, lastError := none })

/-- `record_failed_event`, in its own transaction: it never overwrites a processed event. -/
def recordFailedEvent (db : Db) (e : WebhookEvent) (message : String) : Result Db :=
  match db.events.get? (e.provider, e.eventId) with
  | none => db.write (.event ⟨e.provider, e.eventId, e.eventType, .failed, 1, some message⟩)
  | some row =>
    if row.status = .failed then
      db.write (.event { row with attempts := row.attempts + 1, lastError := some message })
    else .ok db

/-! ### Deferral -/

/-- The columns of a deferred event. -/
def deferredRow (cfg : Settings) (e : WebhookEvent) (now : Time) : DeferredWebhookEvent :=
  { provider := e.provider, eventId := e.eventId, eventType := e.eventType
    providerPaymentId := e.providerPaymentId, amount := e.amount, amountReceived := e.amountReceived
    currency := e.currency, providerRefundId := e.providerRefundId, refundStatus := e.refundStatus
    providerDisputeId := e.providerDisputeId, disputeStatus := e.disputeStatus
    disputeReason := e.disputeReason, status := .pending, attempts := 0
    nextAttemptAt := now + (max cfg.webhookRecoveryIntervalSeconds 1).toNat
    expiresAt := now + 60 * cfg.webhookRecoveryWindowMinutes }

/-- `_defer_event`: nothing without a provider payment id or with recovery disabled. -/
def deferEvent (cfg : Settings) (db : Db) (e : WebhookEvent) (now : Time) : Db :=
  if e.providerPaymentId = "" ∨ cfg.webhookRecoveryIntervalSeconds ≤ 0 then db
  else db.insertDeferred (deferredRow cfg e now)

/-- `_defer_if_payment_unknown`. -/
def deferIfPaymentUnknown (cfg : Settings) (db : Db) (e : WebhookEvent) (now : Time) : Db :=
  if e.providerPaymentId ≠ "" ∧ db.byProviderPaymentId e.providerPaymentId e.provider = none then
    deferEvent cfg db e now
  else db

/-- The positional rebuild in `reprocess_deferred_events`. -/
def DeferredWebhookEvent.rebuild (row : DeferredWebhookEvent) : WebhookEvent :=
  { eventId := row.eventId, eventType := row.eventType, providerPaymentId := row.providerPaymentId
    amount := row.amount, amountReceived := row.amountReceived, currency := row.currency
    providerRefundId := row.providerRefundId, refundStatus := row.refundStatus
    providerDisputeId := row.providerDisputeId, disputeStatus := row.disputeStatus
    disputeReason := row.disputeReason, provider := row.provider }

/-! ### Payment events -/

/-- `_flag_for_review` for a payment, with the provider payment id of the event in the details. -/
def flagPayment (db : Db) (kind : ReconciliationKind) (payment : Payment) (ppid : Option String) : Db :=
  reconcile db kind (kind.key payment.id) (some payment) none ppid

/-- The key of a payment the store has no record of. -/
def unmatchedPaymentKey (ppid : String) : DedupeKey := ⟨.ofKind .unmatchedPayment, ppid⟩

def unknownRefundKey (prid : Option String) : DedupeKey := ⟨.unknownRefund, showOption prid⟩

def unmatchedDisputeKey (pdid : Option String) : DedupeKey :=
  ⟨.ofKind .unmatchedDispute, showOption pdid⟩

/-- The amount and currency the event reports are those of the payment. -/
def amountAgrees (e : WebhookEvent) (payment : Payment) : Prop :=
  ∃ expected ∈ (toStripeAmount payment.amountCents payment.currency).toOption,
    e.amount = some expected ∧ (e.amountReceived = none ∨ e.amountReceived = some expected) ∧
      e.currency = some payment.currency

instance (e : WebhookEvent) (p : Payment) : Decidable (amountAgrees e p) :=
  inferInstanceAs (Decidable (∃ expected ∈ (toStripeAmount p.amountCents p.currency).toOption, _))

/-- `_event_matches_payment`: `none` when the event may be applied, else why it is not. -/
def eventMismatch (seen : Db) (e : WebhookEvent) (payment : Payment) : Option ReconciliationKind :=
  if e.configId ≠ none ∧ payment.providerConfigId ≠ none ∧ payment.providerConfigId ≠ e.configId then
    some .orderMismatch
  else if e.amount = none ∨ e.currency = none then some .unverifiablePayment
  else if ¬amountAgrees e payment then some .amountMismatch
  else
    match seen.orders.get? payment.orderId with
    | none => none
    | some order =>
      if order.totalCents ≠ payment.amountCents ∨
          (order.currency ≠ none ∧ order.currency ≠ some payment.currency) then some .orderMismatch
      else none

/-- What the success handler writes on the payment object it loaded. -/
def succeededPatch (e : WebhookEvent) (payment : Payment) : PaymentPatch :=
  { status := if payment.status = .succeeded then none else some .succeeded
    providerReference := if payment.providerReference = none then truthy e.providerReference else none }

/-- A flush of a payment object: no statement when nothing changed. -/
def savePayment (db : Db) (payment : Payment) (c : PaymentPatch) : Result Db :=
  if payment.patch c = payment then .ok db else db.write (.payment payment.id c)

/-- The order's side of a success: paid, or flagged because it can no longer be paid. -/
def settleOrder (db : Db) (e : WebhookEvent) (payment : Payment) (now : Time) : Result Db :=
  match db.orders.get? payment.orderId with
  | none => .ok (flagPayment db .orderMismatch payment none)
  | some order =>
    if order.status ≠ .pending then
      .ok (flagPayment db .latePayment payment (some e.providerPaymentId))
    else markPaid db order payment now

/-- `_handle_payment_succeeded`. -/
def handlePaymentSucceeded (cfg : Settings) (seen db : Db) (e : WebhookEvent) (now : Time) :
    Result Db :=
  match seen.byProviderPaymentId e.providerPaymentId e.provider with
  | none =>
    .ok (deferEvent cfg (reconcile db .unmatchedPayment (unmatchedPaymentKey e.providerPaymentId)
      none none (some e.providerPaymentId)) e now)
  | some payment =>
    match eventMismatch seen e payment with
    | some kind => .ok (flagPayment db kind payment (some e.providerPaymentId))
    | none => do
      let db ← savePayment db payment (succeededPatch e payment)
      settleOrder db e payment now

/-- `_handle_payment_failed`. -/
def handlePaymentFailed (seen db : Db) (e : WebhookEvent) : Result Db :=
  match seen.byProviderPaymentId e.providerPaymentId e.provider with
  | none => .ok db
  | some payment =>
    if payment.status = .succeeded then .ok db
    else savePayment db payment { status := some .failed }

/-! ### Refund and dispute events -/

/-- Which refund an event is about, found step by step: the payment object loaded on the way and the
    provider payment id the event carries afterwards. -/
structure RefundTarget where
  refund : Option Refund
  loaded : Option Payment
  providerPaymentId : String

/-- The lookups of `_handle_refund_event`. -/
def refundTarget (seen : Db) (e : WebhookEvent) : Result RefundTarget := do
  let known ← match truthy e.providerRefundId with
    | some prid => seen.byProviderRefundId prid
    | none => .ok none
  match known with
  | some r => .ok ⟨some r, none, e.providerPaymentId⟩
  | none =>
    if e.providerPaymentId ≠ "" then
      match seen.byProviderPaymentId e.providerPaymentId e.provider with
      | some p => .ok ⟨seen.activeForPayment p.id, some p, e.providerPaymentId⟩
      | none => .ok ⟨none, none, e.providerPaymentId⟩
    else
      match truthy e.providerReference with
      | none => .ok ⟨none, none, e.providerPaymentId⟩
      | some reference => do
        match ← seen.byProviderReference reference e.provider with
        | some p => .ok ⟨seen.activeForPayment p.id, some p, p.providerPaymentId⟩
        | none => .ok ⟨none, none, e.providerPaymentId⟩

/-- The payment a succeeded refund of unknown origin is recorded on. -/
def externalTarget (seen : Db) (e : WebhookEvent) (ppid : String) : Option (Payment × String) :=
  if e.refundStatus = some "succeeded" ∧ ppid ≠ "" then
    match seen.byProviderPaymentId ppid e.provider, truthy e.providerRefundId with
    | some p, some prid => some (p, prid)
    | _, _ => none
  else none

/-- `_handle_refund_event`. -/
def handleRefundEvent (cfg : Settings) (seen db : Db) (e : WebhookEvent) (newId : Id) (now : Time) :
    Result Db := do
  let target ← refundTarget seen e
  match target.refund with
  | some refund => do
    let locked ← need (db.refunds.get? refund.id) .keyError
    applyRefundState db locked ⟨e.refundStatus, e.amount, e.currency, e.providerRefundId⟩
      target.loaded now
  | none =>
    match externalTarget seen e target.providerPaymentId with
    | some (p, prid) => recordExternalRefund db p prid e.amount e.currency newId
    | none =>
      let db := deferIfPaymentUnknown cfg db
        { e with providerPaymentId := target.providerPaymentId } now
      .ok (reconcile db .refundMismatch (unknownRefundKey e.providerRefundId) none none
        (some target.providerPaymentId))

/-- `_handle_dispute_event`. -/
def handleDisputeEvent (cfg : Settings) (seen db : Db) (e : WebhookEvent) (newId : Id) (now : Time) :
    Result Db := do
  let db ← applyDisputeEvent seen db e newId now
  .ok (deferIfPaymentUnknown cfg db e now)

/-! ### Dispatch -/

/-- The handler `process_webhook_event` runs for a live event. -/
def handleEvent (cfg : Settings) (seen db : Db) (e : WebhookEvent) (newId : Id) (now : Time) :
    Result Db :=
  match e.eventType with
  | .paymentSucceeded => handlePaymentSucceeded cfg seen db e now
  | .paymentFailed => handlePaymentFailed seen db e
  | .refund _ => handleRefundEvent cfg seen db e newId now
  | .dispute _ => handleDisputeEvent cfg seen db e newId now
  | .other _ => .ok db

/-- `apply_deferred_event`. -/
def applyDeferredEvent (cfg : Settings) (seen db : Db) (e : WebhookEvent) (newId : Id) (now : Time) :
    Result Db :=
  match e.eventType with
  | .paymentSucceeded => handlePaymentSucceeded cfg seen db e now
  | .refund _ => handleRefundEvent cfg seen db e newId now
  | .dispute _ => applyDisputeEvent seen db e newId now
  | .paymentFailed | .other _ => .ok db

/-- `process_webhook_event` for a claimed event: the handler, then the event's own row. -/
def processWebhookEvent (cfg : Settings) (seen db : Db) (e : WebhookEvent) (newId : Id) (now : Time) :
    Result Db := do
  let attempts := claimAttempts db e
  let db ← handleEvent cfg seen db e newId now
  finishWebhookEvent db e attempts

/-! ### Recovery -/

/-- The three records a recovered event closes. -/
def recoveredKeys (row : DeferredWebhookEvent) : List DedupeKey :=
  [unmatchedPaymentKey row.providerPaymentId, unknownRefundKey row.providerRefundId,
   unmatchedDisputeKey row.providerDisputeId]

def recoveredNote : String :=
  "Recovered automatically: the payment record appeared and the event was applied"

/-- `resolve_by_dedupe_key` for each of them. -/
def resolveRecovered (db : Db) (ks : List DedupeKey) : Db :=
  ks.foldl (fun db k => db.resolveRecord k .noActionNeeded recoveredNote none) db

/-- The row of an attempt that did not apply the event. -/
def DeferredWebhookEvent.retry (row : DeferredWebhookEvent) (cfg : Settings) (now : Time)
    (giveUp : Bool) : DeferredWebhookEvent :=
  if giveUp then { row with attempts := row.attempts + 1, status := .expired }
  else { row with
    attempts := row.attempts + 1
    nextAttemptAt := now + (max cfg.webhookRecoveryIntervalSeconds 1).toNat }

/-- `reprocess_deferred_events` for one claimed row, inside its savepoint. -/
def recoverRow (cfg : Settings) (seen db : Db) (row : DeferredWebhookEvent) (newId : Id) (now : Time) :
    Db :=
  if seen.byProviderPaymentId row.providerPaymentId row.provider = none then
    let giveUp := cfg.webhookRecoveryMaxAttempts ≤ row.attempts + 1 ∨ row.expiresAt ≤ now
    { db with deferred := db.deferred.replace (row.retry cfg now giveUp) }
  else
    match applyDeferredEvent cfg seen db row.rebuild newId now with
    | .ok db' =>
      let done := { row with attempts := row.attempts + 1, status := .recovered }
      resolveRecovered { db' with deferred := db'.deferred.replace done } (recoveredKeys row)
    | .error _ =>
      let giveUp := cfg.webhookRecoveryMaxAttempts ≤ row.attempts + 1
      { db with deferred := db.deferred.replace (row.retry cfg now giveUp) }

end NovaCart
