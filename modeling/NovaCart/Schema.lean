import NovaCart.Schemes.Outcome
import NovaCart.Schemes.Table

/-! The tables of the store, as the order, payment and catalogue services read and write them.

    Identifiers and instants are natural numbers, money and quantities are integers of minor units
    and of pieces, and every closed set of status words is an enumeration. Words the provider chooses
    (intent, refund and dispute statuses) stay strings. A row carries its table's CHECK constraints
    as fields, so a row that the database would refuse cannot be built. Columns that no modelled
    function reads are left out. -/

namespace NovaCart

open Schemes

abbrev Id := Nat
abbrev Time := Nat

/-! ### Status words -/

inductive OrderStatus
  | pending | paid | fulfilled | cancelled | refunded
  deriving DecidableEq, Repr

inductive PaymentStatus
  | pending | succeeded | failed | refunded
  deriving DecidableEq, Repr

inductive RefundStatus
  | requested | pending | succeeded | failed | uncertain
  deriving DecidableEq, Repr

/-- `requested`: started through the store; `provider`: made at the provider and recorded here. -/
inductive RefundOrigin
  | requested | provider
  deriving DecidableEq, Repr

inductive DisputeStatus
  | opened | underReview | won | lost | closed
  deriving DecidableEq, Repr

inductive ProductStatus
  | draft | active | archived
  deriving DecidableEq, Repr

inductive ReturnStatus
  | requested | approved | rejected | received | closed | cancelled
  deriving DecidableEq, Repr

inductive EventStatus
  | processing | processed | ignored | failed
  deriving DecidableEq, Repr

inductive DeferredStatus
  | pending | recovered | expired
  deriving DecidableEq, Repr

/-- The providers of the registry. -/
inductive Provider
  | demo | stripe | razorpay
  deriving DecidableEq, Repr

/-- What the webhook dispatcher tells apart: the two payment events, the prefixes `refund.` and
    `charge.dispute.`, and everything else. -/
inductive EventType
  | paymentSucceeded
  | paymentFailed
  | refund (suffix : String)
  | dispute (suffix : String)
  | other (name : String)
  deriving DecidableEq, Repr

inductive ReconciliationKind
  | latePayment | unmatchedPayment | amountMismatch | unverifiablePayment | orderMismatch
  | cancelUncertain | cancelPaymentSucceeded | refundUncertain | refundMismatch | externalRefund
  | disputeOpened | disputeLost | unmatchedDispute | refundBlockedByDispute | disputeDuringRefund
  deriving DecidableEq, Repr

inductive Resolution
  | refundRequested | handledExternally | noActionNeeded
  deriving DecidableEq, Repr

inductive MovementKind
  | opening | initial | sale | restock | adminSet | adminDelta | conversion | unspecified
  deriving DecidableEq, Repr

/-! ### Catalogue and order lines -/

structure Product where
  id : Id
  stock : ℤ
  optionCount : Nat
  status : ProductStatus
  priceCents : ℤ
  stockNonNegative : 0 ≤ stock
  stockZeroWithOptions : optionCount = 0 ∨ stock = 0
  deriving DecidableEq, Repr

structure ProductVariant where
  id : Id
  productId : Id
  optionCount : Nat
  stock : ℤ
  active : Bool
  priceOverrideCents : Option ℤ
  stockNonNegative : 0 ≤ stock
  deriving DecidableEq, Repr

structure OrderItem where
  id : Id
  orderId : Id
  productId : Id
  variantId : Option Id
  quantity : ℤ
  restockedQuantity : ℤ
  priceCentsSnapshot : ℤ
  quantityPositive : 0 < quantity
  restockedNonNegative : 0 ≤ restockedQuantity
  restockedWithinQuantity : restockedQuantity ≤ quantity
  deriving DecidableEq, Repr

/-- One restock event of one order line; `(orderItemId, eventKey)` is unique. -/
structure OrderItemRestock where
  orderItemId : Id
  eventKey : String
  quantity : ℤ
  deriving DecidableEq, Repr

/-- One row of the stock ledger. -/
structure StockMovement where
  kind : MovementKind
  productId : Id
  variantId : Option Id
  delta : ℤ
  beforeQty : ℤ
  afterQty : ℤ
  orderId : Option Id
  deriving DecidableEq, Repr

/-! ### Orders and money -/

structure Order where
  id : Id
  userId : Option Id
  status : OrderStatus
  totalCents : ℤ
  currency : Option String
  stockReleasedAt : Option Time
  paidInDemoMode : Bool
  createdAt : Time
  /-- Whether the tax snapshot says the tax engine calculated this order. -/
  gstCalculated : Bool
  deriving DecidableEq, Repr

structure OrderStatusHistory where
  orderId : Id
  fromStatus : OrderStatus
  toStatus : OrderStatus
  changedByUserId : Option Id
  reason : Option String
  createdAt : Time
  deriving DecidableEq, Repr

structure Payment where
  id : Id
  orderId : Id
  provider : Provider
  providerConfigId : Option Id
  providerReference : Option String
  providerPaymentId : String
  status : PaymentStatus
  amountCents : ℤ
  currency : String
  providerRefundId : Option String
  refundedAmountCents : Option ℤ
  amountPositive : 0 < amountCents
  deriving DecidableEq, Repr

structure Refund where
  id : Id
  paymentId : Id
  orderId : Id
  amountCents : ℤ
  currency : String
  status : RefundStatus
  providerRefundId : Option String
  idempotencyKey : String
  requestedByUserId : Option Id
  attempts : Nat
  cancelsOrder : Bool
  origin : RefundOrigin
  failureReason : Option String
  amountPositive : 0 < amountCents
  deriving DecidableEq, Repr

structure Dispute where
  id : Id
  provider : Provider
  providerDisputeId : String
  paymentId : Id
  orderId : Id
  amountCents : ℤ
  currency : String
  status : DisputeStatus
  providerStatus : Option String
  reason : Option String
  closedAt : Option Time
  deriving DecidableEq, Repr

/-- The words in front of the first colon of a deduplication key. -/
inductive KeyTag
  | ofKind (kind : ReconciliationKind)
  | unknownRefund | externalRefundInvalid | externalRefundExceeds
  deriving DecidableEq, Repr

/-- A deduplication key `tag:arg`. -/
structure DedupeKey where
  tag : KeyTag
  arg : String
  deriving DecidableEq, Repr

structure PaymentReconciliation where
  dedupeKey : DedupeKey
  kind : ReconciliationKind
  open_ : Bool
  paymentId : Option Id
  orderId : Option Id
  providerPaymentId : Option String
  resolution : Option Resolution
  resolutionNote : Option String
  resolvedByUserId : Option Id
  deriving DecidableEq, Repr

/-! ### Webhook events -/

structure WebhookEvent where
  eventId : String
  eventType : EventType
  providerPaymentId : String
  amount : Option ℤ := none
  amountReceived : Option ℤ := none
  currency : Option String := none
  providerRefundId : Option String := none
  refundStatus : Option String := none
  providerDisputeId : Option String := none
  disputeStatus : Option String := none
  disputeReason : Option String := none
  provider : Provider := .stripe
  providerReference : Option String := none
  configId : Option Id := none
  deriving DecidableEq, Repr

structure ProcessedWebhookEvent where
  provider : Provider
  eventId : String
  eventType : EventType
  status : EventStatus
  attempts : Nat
  lastError : Option String
  deriving DecidableEq, Repr

structure DeferredWebhookEvent where
  provider : Provider
  eventId : String
  eventType : EventType
  providerPaymentId : String
  amount : Option ℤ
  amountReceived : Option ℤ
  currency : Option String
  providerRefundId : Option String
  refundStatus : Option String
  providerDisputeId : Option String
  disputeStatus : Option String
  disputeReason : Option String
  status : DeferredStatus
  attempts : Nat
  nextAttemptAt : Time
  expiresAt : Time
  deriving DecidableEq, Repr

structure PaymentProviderConfig where
  id : Id
  provider : Provider
  live : Bool
  enabled : Bool
  isPreferred : Bool
  credentialsValid : Bool
  webhookVerified : Bool
  currencies : List String
  deriving DecidableEq, Repr

/-! ### After the sale -/

structure ReturnRequestItem where
  orderItemId : Id
  quantity : ℤ
  receivedQuantity : Option ℤ
  restock : Bool
  restockedQuantity : ℤ
  deriving DecidableEq, Repr

structure ReturnRequest where
  id : Id
  orderId : Id
  userId : Id
  status : ReturnStatus
  items : List ReturnRequestItem
  refundId : Option Id
  lineOnce : (items.map (·.orderItemId)).Nodup
  deriving DecidableEq, Repr

structure OrderShipment where
  id : Id
  orderId : Id
  delivered : Option Time
  deriving DecidableEq, Repr

inductive DocType
  | invoice | creditNote
  deriving DecidableEq, Repr

structure Invoice where
  orderId : Id
  docType : DocType
  deriving DecidableEq, Repr

/-! ### Keys -/

instance : Keyed Product Id := ⟨Product.id⟩
instance : Keyed ProductVariant Id := ⟨ProductVariant.id⟩
instance : Keyed OrderItem Id := ⟨OrderItem.id⟩
instance : Keyed OrderItemRestock (Id × String) := ⟨fun r => (r.orderItemId, r.eventKey)⟩
instance : Keyed Order Id := ⟨Order.id⟩
instance : Keyed Payment Id := ⟨Payment.id⟩
instance : Keyed Refund Id := ⟨Refund.id⟩
instance : Keyed Dispute Id := ⟨Dispute.id⟩
instance : Keyed PaymentReconciliation DedupeKey := ⟨PaymentReconciliation.dedupeKey⟩
instance : Keyed ProcessedWebhookEvent (Provider × String) := ⟨fun r => (r.provider, r.eventId)⟩
instance : Keyed DeferredWebhookEvent (Provider × String) := ⟨fun r => (r.provider, r.eventId)⟩
instance : Keyed PaymentProviderConfig Id := ⟨PaymentProviderConfig.id⟩
instance : Keyed ReturnRequest Id := ⟨ReturnRequest.id⟩
instance : Keyed OrderShipment Id := ⟨OrderShipment.id⟩
instance : Keyed Invoice (Id × DocType) := ⟨fun r => (r.orderId, r.docType)⟩

/-! ### The database -/

/-- The catalogue, the order lines and what was put back of them. -/
structure Stock where
  products : Table Product
  variants : Table ProductVariant
  items : Table OrderItem
  restocks : Table OrderItemRestock
  movements : List StockMovement

structure Db where
  stock : Stock
  orders : Table Order
  history : List OrderStatusHistory
  payments : Table Payment
  refunds : Table Refund
  disputes : Table Dispute
  reconciliations : Table PaymentReconciliation
  events : Table ProcessedWebhookEvent
  deferred : Table DeferredWebhookEvent
  configs : Table PaymentProviderConfig
  returns : Table ReturnRequest
  shipments : Table OrderShipment
  invoices : Table Invoice
  /-- Whether a business profile is stored; without one no tax document is issued. -/
  businessProfile : Bool

/-- The settings the modelled services read. -/
structure Settings where
  webhookRecoveryIntervalSeconds : ℤ
  webhookRecoveryWindowMinutes : Nat
  webhookRecoveryMaxAttempts : Nat
  refundMaxAttempts : Nat
  returnWindowDays : Nat
  pendingOrderTimeoutMinutes : Nat
  enabledPaymentCurrencies : List String
  livePaymentsEnabled : Bool

/-- Why a request is refused. Every one of them rolls the request's transaction back. -/
inductive Err
  | integrity (rule : String)
  | multipleResultsFound
  | keyError
  | runtime (message : String)
  | orderNotFound (orderId : Id)
  | cancellationNotAllowed (status : OrderStatus)
  | paymentInProgress
  | invalidStatusTransition (src dst : OrderStatus)
  | statusChangeNotAllowed (message : String)
  | orderNotPayable (message : String)
  | paymentInconsistent (message : String)
  | orderNotRefundable (message : String)
  | orderCurrencyUnknown
  | cancelAndRefundNotAllowed (status : OrderStatus)
  | refundAlreadyRequested (cancelsOrder : Bool)
  | paymentDisputed
  | partialRefundNotSupported
  | currencyUnsupported (code : String)
  | currencyNotPayable (code reason : String)
  | invalidMoney (message : String)
  | providerUnavailable (code : String)
  | paymentProviderError
  | reconciliationNotOpen
  | businessProfileIncomplete
  | invoiceNotApplicable (message : String)
  | orderNotShippable (status : OrderStatus)
  | emptyCart | productUnavailable | variantUnavailable | variantRequired
  | insufficientStock (available : ℤ)
  | priceChanged (newSubtotalCents : ℤ)
  | pricing (message : String)
  | productNotFound (productId : Id)
  | variantNotFound | useVariantStock | stockReasonRequired
  | stockWouldBeNegative (before : ℤ)
  | productNeedsActiveVariant
  | optionsLocked | productHasStock | productInUse
  | alreadyHasVariants | productNotConvertible (message : String)
  | stockChanged (stock : ℤ)
  | stockAllocationMismatch (allocated stock : ℤ)
  | productHasOpenOrders (count : Nat)
  | invalidVariantSpec (message : String)
  | returnNotFound | returnsDisabled | orderNotShipped | nothingReturnable | returnNotFull
  | returnWindowClosed (days : Nat)
  | returnItemInvalid (message : String)
  | returnQuantityExceeded (returnable : ℤ)
  | returnReceiptInvalid (message : String)
  | returnState (status : ReturnStatus) (action : String)
  deriving DecidableEq, Repr

abbrev Result := Except Err

/-- Python's truth value of an optional string: `None` and the empty string are false. -/
def truthy : Option String → Option String
  | some s => if s = "" then none else some s
  | none => none

/-- How an optional string prints in an f-string. -/
def showOption : Option String → String
  | some s => s
  | none => "None"

end NovaCart
