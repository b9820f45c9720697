import NovaCart.Schema
import NovaCart.Schemes.Run

/-! Coupons: what `evaluate` checks, and the transactions that use and edit them.

    A checkout locks the row of its coupon, counts the live orders that carry it, counts those of the customer, and
    creates the order, each a statement of its own; editing and deleting lock the row too. How the database and the
    service lower-case an email are parameters. -/

namespace NovaCart

open Schemes

/-! ### Discounts -/

/-- What a coupon gives; a percentage in hundredths. -/
inductive CouponKind
  | percentage (percentOff : Nat) (maxDiscountCents : Option ℤ)
  | fixed (amountOffCents : ℤ)
  | freeShipping
  deriving DecidableEq, Repr

structure Discount where
  goodsCents : ℤ
  shippingCents : ℤ
  deriving DecidableEq, Repr

/-- `compute_discount`; a percentage is rounded half up. -/
def computeDiscount (kind : CouponKind) (subtotalCents shippingCents : ℤ) : Discount :=
  match kind with
  | .percentage percentOff maxDiscountCents =>
    let raw := (subtotalCents * percentOff + 5000) / 10000
    let raw := match maxDiscountCents with
      | some m => min raw m
      | none => raw
    ⟨min raw subtotalCents, 0⟩
  | .fixed amountOffCents => ⟨min amountOffCents subtotalCents, 0⟩
  | .freeShipping => ⟨0, shippingCents⟩

/-! ### Coupons and orders -/

/-- What an administrator may edit at any time. -/
structure CouponTerms where
  active : Bool
  startsAt : Option Time
  endsAt : Option Time
  minSubtotalCents : ℤ
  maxUsesTotal : Option ℤ
  maxUsesPerCustomer : Option ℤ
  deriving DecidableEq, Repr

structure Coupon where
  id : Id
  code : String
  kind : CouponKind
  terms : CouponTerms
  deriving DecidableEq, Repr

inductive Customer
  | account (userId : Id)
  | guest (email : String)
  deriving DecidableEq, Repr

structure CouponOrder where
  id : Id
  customer : Customer
  status : OrderStatus
  couponId : Option Id
  deriving DecidableEq, Repr

instance : Keyed Coupon Id := ⟨Coupon.id⟩
instance : Keyed CouponOrder Id := ⟨CouponOrder.id⟩

/-- `ALIVE` -/
def aliveStatuses : List OrderStatus := [.pending, .paid, .fulfilled]

/-- `ALLOWED_TRANSITIONS` -/
def allowedTransitions : OrderStatus → List OrderStatus
  | .pending => [.paid, .cancelled]
  | .paid => [.fulfilled, .refunded]
  | .fulfilled => [.refunded]
  | .cancelled => []
  | .refunded => []

/-- `str.lower`, and `lower` of the database. -/
structure Lowering where
  python : String → String
  database : String → String

/-- The condition of `uses` on the customer of an order. -/
def Lowering.counts (L : Lowering) : Customer → Customer → Bool
  | .account userId, .account userId' => userId' = userId
  | .guest email, .guest email' => L.database email' = L.python email
  | _, _ => false

/-- The same account, or the same email in any case. -/
def Lowering.same (L : Lowering) : Customer → Customer → Bool
  | .account userId, .account userId' => userId' = userId
  | .guest email, .guest email' => L.python email' = L.python email
  | _, _ => false

inductive CouponError
  | invalid
  | minimumNotMet (minSubtotalCents : ℤ)
  | limitReached
  | notApplicable (message : String)
  deriving DecidableEq, Repr

/-! ### Transactions -/

inductive CouponCall
  | checkout (customer : Customer) (code : Option String) (subtotalCents shippingCents : ℤ)
  | edit (couponId : Id) (terms : CouponTerms) (kind : Option CouponKind)
  | delete (couponId : Id)
  deriving DecidableEq, Repr

inductive CouponStage
  | start
  /-- no coupon, or one that applies: the order can be created -/
  | checked (coupon : Option Coupon)
  | locked (coupon : Coupon)
  | totalCounted (coupon : Coupon)
  | done
  deriving DecidableEq, Repr

structure CouponTx where
  id : Nat
  call : CouponCall
  stage : CouponStage
  /-- the coupon whose row it has locked -/
  locks : Option Id
  order : Option CouponOrder
  coupon : Option Coupon
  deletes : Option Id
  deriving DecidableEq, Repr

instance : Keyed CouponTx Nat := ⟨CouponTx.id⟩

structure CouponStore where
  coupons : Table Coupon
  orders : Table CouponOrder
  txs : Table CouponTx
  next : Nat

namespace CouponStore

/-- How many live orders carry the coupon and satisfy `p`. -/
def usesWhere (s : CouponStore) (couponId : Id) (p : Customer → Bool) : ℤ :=
  s.orders.total fun o => if o.couponId = some couponId ∧ o.status ∈ aliveStatuses ∧ p o.customer = true then 1 else 0

/-- `uses`, of all customers. -/
def uses (s : CouponStore) (couponId : Id) : ℤ := s.usesWhere couponId fun _ => true

/-- `uses` of one customer. -/
def usesBy (L : Lowering) (s : CouponStore) (couponId : Id) (customer : Customer) : ℤ :=
  s.usesWhere couponId (L.counts customer)

/-- `_ever_used` -/
def everUsed (s : CouponStore) (couponId : Id) : Prop := ∃ o ∈ s.orders.rows, o.couponId = some couponId

instance (s : CouponStore) (couponId : Id) : Decidable (s.everUsed couponId) :=
  inferInstanceAs (Decidable (∃ o ∈ s.orders.rows, _))

/-- The row with a lock, unless another transaction has it. -/
def lockCoupon (s : CouponStore) (tx : CouponTx) (coupon : Coupon) : Option CouponTx :=
  if ∃ x ∈ s.txs.rows, x.id ≠ tx.id ∧ x.locks = some coupon.id then none
  else some { tx with locks := some coupon.id, stage := .locked coupon }

/-- `find_by_code` with the lock. -/
def findByCode (s : CouponStore) (code : String) : Option Coupon := s.coupons.rows.find? fun c => c.code = code

/-- The first checks of `evaluate`, up to the count of all uses. -/
def checkTotal (s : CouponStore) (coupon : Coupon) (subtotalCents : ℤ) (now : Time) : Except CouponError Unit := do
  require (coupon.terms.active = true ∧ (∀ t ∈ coupon.terms.startsAt, t ≤ now) ∧ ∀ t ∈ coupon.terms.endsAt, now < t) .invalid
  require (coupon.terms.minSubtotalCents ≤ subtotalCents) (.minimumNotMet coupon.terms.minSubtotalCents)
  require (∀ m ∈ coupon.terms.maxUsesTotal, s.uses coupon.id < m) .limitReached

/-- The rest of `evaluate`. -/
def checkCustomer (L : Lowering) (s : CouponStore) (coupon : Coupon) (customer : Customer)
    (subtotalCents shippingCents : ℤ) : Except CouponError Discount := do
  require (∀ m ∈ coupon.terms.maxUsesPerCustomer, customer ≠ .guest "" → s.usesBy L coupon.id customer < m) .limitReached
  let discount := computeDiscount coupon.kind subtotalCents shippingCents
  require (coupon.kind = .freeShipping → discount.shippingCents ≠ 0)
    (.notApplicable "Shipping is already free on this order")
  require (coupon.kind ≠ .freeShipping → discount.goodsCents ≠ 0)
    (.notApplicable "This coupon would not reduce the price of this order")
  .ok discount

/-- The next statement of a transaction; nothing if it waits or is refused. -/
def advance (L : Lowering) (s : CouponStore) (tx : CouponTx) (now : Time) (newId : Id) : Option CouponTx :=
  match tx.call with
  | .checkout customer code subtotalCents shippingCents =>
    match tx.stage with
    | .start =>
      if customer = .guest "" then none
      else match code with
        | none => some { tx with stage := .checked none }
        | some code => (s.findByCode code).bind (s.lockCoupon tx)
    | .locked coupon =>
      match s.checkTotal coupon subtotalCents now with
      | .ok () => some { tx with stage := .totalCounted coupon }
      | .error _ => none
    | .totalCounted coupon =>
      match s.checkCustomer L coupon customer subtotalCents shippingCents with
      | .ok _ => some { tx with stage := .checked (some coupon) }
      | .error _ => none
    | .checked coupon =>
      some { tx with stage := .done, order := some ⟨newId, customer, .pending, coupon.map Coupon.id⟩ }
    | .done => none
  | .edit couponId terms kind =>
    match tx.stage with
    | .start => (s.coupons.get? couponId).bind (s.lockCoupon tx)
    | .locked coupon =>
      if kind ≠ none ∧ s.everUsed coupon.id then none
      else some { tx with stage := .done, coupon := some ⟨coupon.id, coupon.code, kind.getD coupon.kind, terms⟩ }
    | _ => none
  | .delete couponId =>
    match tx.stage with
    | .start => (s.coupons.get? couponId).bind (s.lockCoupon tx)
    | .locked coupon => if s.everUsed coupon.id then none else some { tx with stage := .done, deletes := some coupon.id }
    | _ => none

/-- The orders with the one a transaction created. -/
def ordersWith (s : CouponStore) (tx : CouponTx) : Option (Table CouponOrder) :=
  match tx.order with
  | some order => s.orders.insert? order
  | none => some s.orders

/-- The coupons as a transaction edited them. -/
def couponsWith (s : CouponStore) (tx : CouponTx) : Table Coupon :=
  let edited := match tx.coupon with
    | some coupon => s.coupons.replace coupon
    | none => s.coupons
  match tx.deletes with
  | some couponId => edited.erase couponId
  | none => edited

def apply (s : CouponStore) (tx : CouponTx) : Option CouponStore := do
  let orders ← s.ordersWith tx
  some { s with orders := orders, coupons := s.couponsWith tx, txs := s.txs.erase tx.id }

end CouponStore

inductive CouponLabel
  | begin (call : CouponCall)
  | statement (id : Nat) (now : Time) (newId : Id)
  | commit (id : Nat)
  | rollback (id : Nat)
  | createCoupon (coupon : Coupon)
  /-- a payment, fulfilment, cancellation, expiry or refund of an order -/
  | orderStatus (orderId : Id) (status : OrderStatus)
  deriving DecidableEq, Repr

def couponStep (L : Lowering) (s : CouponStore) : CouponLabel → Option CouponStore
  | .begin call => do
    let txs ← s.txs.insert? ⟨s.next, call, .start, none, none, none, none⟩
    some { s with txs := txs, next := s.next + 1 }
  | .statement id now newId => do
    let tx ← s.txs.get? id
    let tx' ← s.advance L tx now newId
    some { s with txs := s.txs.replace tx' }
  | .commit id => do
    let tx ← s.txs.get? id
    if tx.stage = .done then s.apply tx else none
  | .rollback id => some { s with txs := s.txs.erase id }
  | .createCoupon coupon => do
    if ∃ c ∈ s.coupons.rows, c.code = coupon.code then none
    let coupons ← s.coupons.insert? coupon
    some { s with coupons := coupons }
  | .orderStatus orderId status => do
    let order ← s.orders.get? orderId
    if status ∈ allowedTransitions order.status then
      some { s with orders := s.orders.replace { order with status := status } }
    else none

abbrev CouponRun (L : Lowering) (s₀ : CouponStore) (tr : List (Taken CouponStore CouponLabel)) (s : CouponStore) : Prop :=
  Exec (couponStep L) s₀ tr s

end NovaCart
