import NovaCart.Sales
import NovaCart.Schemes.Run

/-! The returns of one order (`ReturnService`), statement by statement.

    A request for a return locks the order; a decision locks the return; a receipt and a refund lock the return and
    then the order. What a transaction has not locked it reads as committed at that statement. The refusals are those
    of the operations in `Sales`; here a call that is refused, or must wait, has no next statement. -/

namespace NovaCart

open Schemes

/-- `order-release`, `return:<id>` -/
inductive RestockKey
  | orderRelease
  | ofReturn (returnId : Id)
  deriving DecidableEq, Repr

structure LineRestock where
  orderItemId : Id
  eventKey : RestockKey
  quantity : ℤ
  deriving DecidableEq, Repr

structure SoldLine where
  id : Id
  quantity : ℤ
  quantityPositive : 0 < quantity
  deriving Repr

instance : DecidableEq SoldLine := fun a b =>
  decidable_of_iff (a.id = b.id ∧ a.quantity = b.quantity) (by cases a; cases b; simp)

instance : Keyed SoldLine Id := ⟨SoldLine.id⟩

inductive ReturnCall
  | create (returnId userId : Id) (lines : List (Id × ℤ))
  | cancel (returnId userId : Id)
  | approve (returnId : Id)
  | reject (returnId : Id)
  | receive (returnId : Id) (entries : List ReceiptEntry)
  | refund (returnId : Id)
  | close (returnId : Id)
  deriving DecidableEq, Repr

def ReturnCall.returnId : ReturnCall → Id
  | .create id _ _ | .cancel id _ | .approve id | .reject id | .receive id _ | .refund id | .close id => id

inductive ReturnStage
  | start
  | orderLocked
  /-- the return as it was locked -/
  | returnLocked (ret : ReturnRequest)
  | bothLocked (ret : ReturnRequest)
  | done
  deriving DecidableEq, Repr

structure ReturnTx where
  id : Nat
  call : ReturnCall
  stage : ReturnStage
  locksOrder : Bool
  locksReturn : Option Id
  /-- the return it inserted or changed -/
  row : Option ReturnRequest
  restocks : List LineRestock
  /-- the refund it started -/
  refund : Option Id
  deriving DecidableEq, Repr

instance : Keyed ReturnTx Nat := ⟨ReturnTx.id⟩

structure OrderReturns where
  orderId : Id
  userId : Option Id
  status : OrderStatus
  createdAt : Time
  delivered : Option Time
  shipped : Option Time
  returnWindowDays : Nat
  items : Table SoldLine
  returns : Table ReturnRequest
  restocks : List LineRestock
  txs : Table ReturnTx
  next : Nat

/-- `COUNTED` -/
def counted : List ReturnStatus := [.requested, .approved, .received, .closed]

def cameBack : List ReturnStatus := [.received, .closed]

/-- A sum over the return's lines of one order line. -/
def ReturnRequest.sumOf (r : ReturnRequest) (f : ReturnRequestItem → ℤ) (itemId : Id) : ℤ :=
  ((r.items.filter fun i => i.orderItemId = itemId).map f).sum

def ReturnRequest.usedOf (itemId : Id) (r : ReturnRequest) : ℤ :=
  if r.status ∈ counted then r.sumOf (·.quantity) itemId else 0

def ReturnRequest.backOf (itemId : Id) (r : ReturnRequest) : ℤ :=
  if r.status ∈ cameBack then r.sumOf (·.receivedQuantity.getD 0) itemId else 0

namespace OrderReturns

/-- `_used` -/
def used (s : OrderReturns) (itemId : Id) : ℤ := s.returns.total (ReturnRequest.usedOf itemId)

/-- What came back of a line, over the returns that were received. -/
def back (s : OrderReturns) (itemId : Id) : ℤ := s.returns.total (ReturnRequest.backOf itemId)

def returnable (s : OrderReturns) (i : SoldLine) : ℤ := max (i.quantity - s.used i.id) 0

/-- The line's `restocked_quantity`, which a trigger keeps. -/
def restockedQuantity (s : OrderReturns) (itemId : Id) : ℤ :=
  ((s.restocks.filter fun e => e.orderItemId = itemId).map (·.quantity)).sum

def windowStart (s : OrderReturns) : Time := s.delivered.getD (s.shipped.getD s.createdAt)

/-- `eligibility` -/
def eligible (s : OrderReturns) (now : Time) : Prop :=
  s.returnWindowDays ≠ 0 ∧ s.status = .fulfilled ∧ now ≤ s.windowStart + 86400 * s.returnWindowDays
    ∧ ∃ i ∈ s.items.rows, s.returnable i ≠ 0

instance (s : OrderReturns) (now : Time) : Decidable (s.eligible now) :=
  inferInstanceAs (Decidable (_ ∧ _ ∧ _ ∧ ∃ i ∈ s.items.rows, _))

def linesReturnable (s : OrderReturns) (lines : List (Id × ℤ)) : Prop :=
  ∀ l ∈ lines, 0 < l.2 ∧ ∃ i ∈ s.items.get? l.1, l.2 ≤ s.returnable i

instance (s : OrderReturns) (lines : List (Id × ℤ)) : Decidable (s.linesReturnable lines) :=
  inferInstanceAs (Decidable (∀ l ∈ lines, 0 < l.2 ∧ ∃ i ∈ s.items.get? l.1, _))

/-- Waits for another transaction that has the order locked. -/
def lockOrder (s : OrderReturns) (tx : ReturnTx) (stage : ReturnStage) : Option ReturnTx :=
  if ∃ x ∈ s.txs.rows, x.id ≠ tx.id ∧ x.locksOrder = true then none
  else some { tx with locksOrder := true, stage := stage }

/-- `_get(return_id, lock=True)` -/
def lockReturn (s : OrderReturns) (tx : ReturnTx) : Option ReturnTx := do
  let ret ← s.returns.get? tx.call.returnId
  if ∃ x ∈ s.txs.rows, x.id ≠ tx.id ∧ x.locksReturn = some ret.id then none
  else some { tx with locksReturn := some ret.id, stage := .returnLocked ret }

/-- `create`, with the order locked. -/
def request (s : OrderReturns) (tx : ReturnTx) (returnId userId : Id) (lines : List (Id × ℤ)) (now : Time) :
    Option ReturnTx :=
  if s.userId = some userId ∧ s.eligible now ∧ s.linesReturnable lines then
    if h : (lines.map (·.1)).Nodup then
      some { tx with
        stage := .done
        row := some {
          id := returnId, orderId := s.orderId, userId := userId, status := .requested
          items := lines.map fun l => ⟨l.1, l.2, none, false, 0⟩
          refundId := none
          lineOnce := requestedLines_nodup h } }
    else none
  else none

/-- The status of the locked return is changed. -/
def decideReturn (tx : ReturnTx) (ret : ReturnRequest) (allowed : List ReturnStatus) (status : ReturnStatus) :
    Option ReturnTx :=
  if ret.status ∈ allowed then some { tx with stage := .done, row := some { ret with status := status } } else none

/-- The checks of `receive` on what arrived. -/
def receiptFits (ret : ReturnRequest) (entries : List ReceiptEntry) : Prop :=
  ret.status = .approved
    ∧ (entries.map (·.orderItemId)).Nodup
    ∧ (∀ id ∈ entries.map (·.orderItemId), id ∈ ret.items.map (·.orderItemId))
    ∧ (∀ id ∈ ret.items.map (·.orderItemId), id ∈ entries.map (·.orderItemId))
    ∧ checkReceipt ret entries = .ok ()

instance (ret : ReturnRequest) (entries : List ReceiptEntry) : Decidable (receiptFits ret entries) :=
  inferInstanceAs (Decidable (_ ∧ _ ∧ _ ∧ _ ∧ _))

/-- The lines `_restock` puts back, as restock events. -/
def todo (ret : ReturnRequest) : List LineRestock :=
  (ret.items.filter fun i => i.restock = true ∧ 0 < i.receivedQuantity.getD 0).map fun i =>
    ⟨i.orderItemId, .ofReturn ret.id, i.receivedQuantity.getD 0⟩

/-- `record_restock_events`: the events that are new. -/
def newEvents (s : OrderReturns) (events : List LineRestock) : List LineRestock :=
  events.filter fun e => ∀ x ∈ s.restocks, ¬(x.orderItemId = e.orderItemId ∧ x.eventKey = e.eventKey)

/-- The database keeps `restocked_quantity` within what was bought. -/
def restockFits (s : OrderReturns) (events : List LineRestock) : Prop :=
  ∀ e ∈ events, ∃ i ∈ s.items.get? e.orderItemId, s.restockedQuantity i.id + e.quantity ≤ i.quantity

instance (s : OrderReturns) (events : List LineRestock) : Decidable (s.restockFits events) :=
  inferInstanceAs (Decidable (∀ e ∈ events, ∃ i ∈ s.items.get? e.orderItemId, _))

/-- `receive` and `_restock`, with the return and the order locked. -/
def putBack (s : OrderReturns) (tx : ReturnTx) (ret : ReturnRequest) (entries : List ReceiptEntry) : Option ReturnTx :=
  let arrived := ret.mapItems (·.received entries) fun i => i.received_orderItemId entries
  let events := s.newEvents (todo arrived)
  if s.restockFits events then
    let restocked := arrived.mapItems (.restocked (events.map (·.orderItemId))) fun _ => rfl
    some { tx with stage := .done, row := some { restocked with status := .received }, restocks := events }
  else none

/-- `refund`, with the return and the order locked; `answer` is what `request_refund` returns. -/
def startRefund (s : OrderReturns) (tx : ReturnTx) (ret : ReturnRequest) (answer : Option Id) : Option ReturnTx := do
  if ∃ i ∈ s.items.rows, s.back i.id < i.quantity then none
  let refundId ← answer
  some { tx with
    stage := .done, row := some { ret with status := .closed, refundId := some refundId }, refund := some refundId }

/-- The next statement of a transaction. -/
def advance (s : OrderReturns) (tx : ReturnTx) (now : Time) (answer : Option Id) : Option ReturnTx :=
  match tx.stage with
  | .start =>
    match tx.call with
    | .create .. => s.lockOrder tx .orderLocked
    | _ => s.lockReturn tx
  | .orderLocked =>
    match tx.call with
    | .create returnId userId lines => s.request tx returnId userId lines now
    | _ => none
  | .returnLocked ret =>
    match tx.call with
    | .create .. => none
    | .cancel _ userId => if ret.userId = userId then decideReturn tx ret [.requested, .approved] .cancelled else none
    | .approve _ => decideReturn tx ret [.requested] .approved
    | .reject _ => decideReturn tx ret [.requested] .rejected
    | .receive _ entries => if receiptFits ret entries then s.lockOrder tx (.bothLocked ret) else none
    | .refund _ => if ret.status = .received then s.lockOrder tx (.bothLocked ret) else none
    | .close _ => decideReturn tx ret [.approved, .received] .closed
  | .bothLocked ret =>
    match tx.call with
    | .receive _ entries => s.putBack tx ret entries
    | .refund _ => s.startRefund tx ret answer
    | _ => none
  | .done => none

/-- `_restock_once` on the lines: all that is not back yet. -/
def releaseEvents (s : OrderReturns) : List LineRestock :=
  (s.items.rows.map fun i => (⟨i.id, .orderRelease, i.quantity - s.restockedQuantity i.id⟩ : LineRestock)).filter
    fun e => 0 < e.quantity

/-- The return a transaction wrote, in the table. -/
def stored (s : OrderReturns) (tx : ReturnTx) : Option (Table ReturnRequest) :=
  match tx.row, tx.locksReturn with
  | none, _ => some s.returns
  | some row, none => s.returns.insert? row
  | some row, some _ => some (s.returns.replace row)

end OrderReturns

inductive ReturnsLabel
  | begin (call : ReturnCall)
  | statement (id : Nat) (now : Time) (answer : Option Id)
  | commit (id : Nat)
  | rollback (id : Nat)
  /-- another operation that locks the order -/
  | orderStatus (status : OrderStatus)
  | releaseStock
  | dispatched (at_ : Time)
  | delivered (at_ : Time)
  deriving DecidableEq, Repr

/-- Nobody has the order locked. -/
def OrderReturns.orderFree (s : OrderReturns) : Prop := ∀ x ∈ s.txs.rows, x.locksOrder = false

instance (s : OrderReturns) : Decidable s.orderFree := inferInstanceAs (Decidable (∀ x ∈ s.txs.rows, _))

def returnsStep (s : OrderReturns) : ReturnsLabel → Option OrderReturns
  | .begin call => do
    let txs ← s.txs.insert? ⟨s.next, call, .start, false, none, none, [], none⟩
    some { s with txs := txs, next := s.next + 1 }
  | .statement id now answer => do
    let tx ← s.txs.get? id
    let tx' ← s.advance tx now answer
    some { s with txs := s.txs.replace tx' }
  | .commit id => do
    let tx ← s.txs.get? id
    if tx.stage = .done then
      let returns ← s.stored tx
      some { s with returns := returns, restocks := tx.restocks ++ s.restocks, txs := s.txs.erase id }
    else none
  | .rollback id => some { s with txs := s.txs.erase id }
  | .orderStatus status => if s.orderFree then some { s with status := status } else none
  | .releaseStock =>
    if s.orderFree then some { s with restocks := s.newEvents s.releaseEvents ++ s.restocks } else none
  | .dispatched at_ => some { s with shipped := some at_ }
  | .delivered at_ => some { s with delivered := some at_ }

abbrev ReturnsRun (s₀ : OrderReturns) (tr : List (Taken OrderReturns ReturnsLabel)) (s : OrderReturns) : Prop :=
  Exec returnsStep s₀ tr s

/-- An order of which nothing was returned yet. -/
structure OrderReturns.Initial (s : OrderReturns) : Prop where
  returns : s.returns = .empty
  restocks : s.restocks = []
  txs : s.txs = .empty

end NovaCart
