import NovaCart.Webhooks

/-! `PaymentService.create_payment_for_order`: plan, provider call, record.

    The call commits before each provider call, so it lives across several transactions. `PayCall` is
    what it carries from one to the next. -/

namespace NovaCart

open Schemes

/-- Stripe PaymentIntent statuses that mean the customer can still complete the intent. -/
def openIntentStatuses : List String :=
  ["requires_payment_method", "requires_confirmation", "requires_action", "processing",
   "requires_capture"]

/-- `_assert_order_payable`. -/
def assertOrderPayable (order : Order) : Result Unit :=
  require (order.status = .pending)
    (.orderNotPayable ("Cannot pay an order in status " ++ order.status.value))

/-- The currencies the platform has verified for a provider. -/
def Provider.currencies : Provider → List String
  | .razorpay => ["inr"]
  | .demo | .stripe => ["usd", "inr", "eur", "gbp", "jpy"]

/-- `select_for_new_payment` on the preferred configuration. -/
def selectForNewPayment (cfg : Settings) (db : Db) (currency : String) :
    Result PaymentProviderConfig := do
  let c ← need (db.configs.rows.find? (·.isPreferred)) (.providerUnavailable "no_payment_provider_selected")
  require (c.enabled = true) (.providerUnavailable "provider_disabled")
  require (c.credentialsValid = true) (.providerUnavailable "provider_credentials_not_valid")
  require (currency ∈ c.currencies ∧ currency ∈ c.provider.currencies)
    (.providerUnavailable "provider_currency_not_supported")
  require (c.live = true → cfg.livePaymentsEnabled = true)
    (.providerUnavailable "provider_mode_not_allowed")
  require (c.provider = .demo → cfg.livePaymentsEnabled = false)
    (.providerUnavailable "provider_mode_not_allowed")
  .ok c

/-- `_select_provider`: stored configurations once any exists, else the environment's Stripe with the
    global currency checks. -/
def selectProvider (cfg : Settings) (db : Db) (currency : String) : Result (Provider × Option Id) :=
  if db.configs.rows.isEmpty then do
    let verified ← need (paymentVerified currency) (.currencyUnsupported currency)
    require (verified = true) (.currencyNotPayable currency "payment_currency_not_verified")
    require (currency ∈ cfg.enabledPaymentCurrencies)
      (.currencyNotPayable currency "payment_currency_not_enabled")
    .ok (.stripe, none)
  else do
    let c ← selectForNewPayment cfg db currency
    .ok (c.provider, some c.id)

/-- What the payment call does next. -/
inductive PayStage
  /-- the provider is asked about the reusable payment -/
  | retrieving (paymentId : Id)
  /-- the provider is asked for a new intent -/
  | creating
  /-- the intent exists at the provider and is not recorded yet -/
  | recording (providerPaymentId : String)
  /-- the intent must not stay payable; the payment another call recorded first, if that is why -/
  | orphaned (providerPaymentId : String) (winner : Option Id)
  /-- the provider is asked about the payment of the call that was first -/
  | winning (paymentId : Id)
  deriving DecidableEq, Repr

structure PayCall where
  orderId : Id
  currency : String
  total : ℤ
  provider : Provider
  configId : Option Id
  /-- `order:{id}:intent:{n}`: one key per order and attempt number -/
  idempotencyKey : String
  stage : PayStage
  totalPositive : 0 < total

/-- `_plan_payment`: phase 1, committed before the provider is asked. -/
def planPayment (cfg : Settings) (db : Db) (orderId : Id) : Result PayCall := do
  let order ← lockOrder db orderId
  assertOrderPayable order
  let currency ← need order.currency
    (.orderNotPayable "This order has no recorded currency and cannot be paid")
  let (provider, configId) ← selectProvider cfg db currency
  let _ ← toStripeAmount order.totalCents currency
  let existing := db.listForOrder order.id
  require (∀ p ∈ existing, p.status ≠ .succeeded) (.orderNotPayable "This order has already been paid")
  let reusable := existing.find? fun p => p.status = .pending ∨ p.status = .failed
  require (∀ p ∈ reusable, p.currency = currency ∧ p.amountCents = order.totalCents)
    (.paymentInconsistent "The existing payment does not match the order's amount/currency")
  if h : 0 < order.totalCents then
    .ok {
      orderId := orderId, currency := currency, total := order.totalCents
      provider := provider, configId := configId
      idempotencyKey := "order:" ++ toString order.id ++ ":intent:" ++ toString existing.length
      stage := match reusable with
        | some p => .retrieving p.id
        | none => .creating
      totalPositive := h }
  else .error (.invalidMoney "A payment amount must be a positive integer in minor units")

/-- A status write on a payment that has another status. -/
def setPaymentStatus (db : Db) (p : Payment) (status : PaymentStatus) : Result Db :=
  if p.status = status then .ok db else db.write (.payment p.id { status := some status })

/-- The transaction after `retrieve_payment_intent` answered `word`: the payment is continued, or the
    call goes on to create a fresh intent. A succeeded intent is refused, which rolls back. -/
def payReuse (db : Db) (call : PayCall) (paymentId : Id) (word : String) :
    Result (Db × Option PayCall) := do
  let order ← lockOrder db call.orderId
  assertOrderPayable order
  let reusable ← need (db.payments.get? paymentId) .keyError
  require (word ≠ "succeeded") (.orderNotPayable "This order has already been paid")
  if word ∈ openIntentStatuses then do
    let db ← setPaymentStatus db reusable .pending
    .ok (db, none)
  else do
    let db ← setPaymentStatus db reusable .failed
    .ok (db, some { call with stage := .creating })

/-- The transaction of `_create_new_payment` for the intent `ppid`: recorded, already recorded, or
    orphaned because the order can no longer be paid or another intent was recorded first. -/
def payRecord (db : Db) (call : PayCall) (ppid : String) (newId : Id) :
    Result (Db × Option PayCall) := do
  let order ← lockOrder db call.orderId
  let payments := db.listForOrder call.orderId
  if order.status ≠ .pending ∨ payments.any (·.status = .succeeded) then
    .ok (db, some { call with stage := .orphaned ppid none })
  else if db.byProviderPaymentId ppid call.provider ≠ none then .ok (db, none)
  else match payments.find? (·.status = .pending) with
  | some winner => .ok (db, some { call with stage := .orphaned ppid (some winner.id) })
  | none => do
    let db ← db.write (.insertPayment {
      id := newId, orderId := call.orderId, provider := call.provider
      providerConfigId := call.configId, providerReference := none, providerPaymentId := ppid
      status := .pending, amountCents := call.total, currency := call.currency
      providerRefundId := none, refundedAmountCents := none, amountPositive := call.totalPositive })
    .ok (db, none)

/-- `_cancel_orphan_intent`: flagged for a human when the provider cannot cancel or did not answer. What
    it answers is not looked at. -/
def cancelOrphanIntent (db : Db) (call : PayCall) (ppid : String) (answer : Option String) : Db :=
  reconcileIf (call.provider.supportsCancel = false ∨ answer = none) db .cancelUncertain
    ⟨.ofKind .cancelUncertain, ppid⟩ none (some call.orderId) (some ppid)

/-- After its intent was retired the call is refused, or it goes on with the payment that was first. -/
def PayCall.afterOrphan (call : PayCall) : Option Id → Option PayCall
  | none => none
  | some winner => some { call with stage := .winning winner }

end NovaCart
