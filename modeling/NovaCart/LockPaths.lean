import NovaCart.Schemes.Locks
import NovaCart.System

/-! The row locks of the payment lifecycle.

    Each transaction of `OrderLifecycleService`, `PaymentService` and `ReturnService` as the list of the
    row locks it asks for, in the order in which its statements ask: `SELECT ... FOR UPDATE` of the
    repositories, the UPDATE of a flush, the lock `refunds_cumulative_guard` takes on the payment when a
    refund that counts is written, and the key-share locks with which a foreign key check holds the rows
    an INSERT refers to. What a transaction reads on its way decides which of these it reaches, so the
    reads that matter are arguments. A request that is refused ends with a rollback, which can come after
    any lock; rows that only their own transaction can see are left out. -/

namespace NovaCart

open Schemes

inductive Row
  | returnRequest (id : Id)
  | refund (id : Id)
  | payment (id : Id)
  | dispute (id : Id)
  | order (id : Id)
  | product (id : Id)
  | variant (id : Id)
  deriving DecidableEq, Repr

/-- `FOR KEY SHARE` of a foreign key check, the lock of an UPDATE that leaves the key alone, and
    `FOR UPDATE`. -/
inductive LockMode
  | keyShare | noKeyUpdate | update
  deriving DecidableEq, Repr

/-- The database's table of conflicting row locks. -/
def LockMode.conflicts : LockMode → LockMode → Bool
  | .update, _ | _, .update => true
  | .noKeyUpdate, .noKeyUpdate => true
  | _, _ => false

instance : LockModes LockMode where
  conflicts := LockMode.conflicts
  conflicts_comm := by intro m m'; cases m <;> cases m' <;> rfl

abbrev RowLock := Request Row LockMode

def forUpdate (row : Row) : RowLock := ⟨row, .update⟩
def updated (row : Row) : RowLock := ⟨row, .noKeyUpdate⟩
def referenced (row : Row) : RowLock := ⟨row, .keyShare⟩

/-! ### Statements -/

/-- `reconcile` for a payment inserts a row that refers to the payment and to its order. -/
def recordLocks (paymentId orderId : Id) : List RowLock :=
  [referenced (.payment paymentId), referenced (.order orderId)]

/-- The INSERT of a refund that counts: the trigger first, then the foreign keys. -/
def insertRefundLocks (paymentId orderId : Id) : List RowLock :=
  forUpdate (.payment paymentId) :: recordLocks paymentId orderId

/-- The UPDATE of a refund to a status that counts: the trigger runs before the row is locked. -/
def updateRefundLocks (refundId paymentId : Id) : List RowLock :=
  [forUpdate (.payment paymentId), updated (.refund refundId)]

/-- `orders.update_status`: the order, and the history row that refers to it. -/
def orderStatusLocks (orderId : Id) : List RowLock := [updated (.order orderId), referenced (.order orderId)]

/-- `get_many_for_update`, `get_variants_for_update`: each row once, in ascending order. -/
def lockMany (row : Id → Row) (ids : List Id) : List RowLock :=
  (ids.dedup.insertionSort (· ≤ ·)).map fun id => forUpdate (row id)

/-- The rows `_restock_once` locks for the lines of an order. -/
def restockLocks (products variants : List Id) : List RowLock :=
  lockMany .product products ++ lockMany .variant variants

/-! ### Refunds -/

/-- What `request_refund` finds once it has locked the payment: a refund in flight, or none. -/
inductive RefundChoice
  | existing (refundId : Id)
  | created
  deriving DecidableEq, Repr

/-- `request_refund`, with the payment it settles on, if any. -/
def requestRefundLocks (orderId : Id) : Option (Id × RefundChoice) → List RowLock
  | none => [forUpdate (.order orderId)]
  | some (paymentId, .existing _) => [forUpdate (.order orderId), forUpdate (.payment paymentId)]
  | some (paymentId, .created) =>
    forUpdate (.order orderId) :: forUpdate (.payment paymentId) :: insertRefundLocks paymentId orderId

/-- What `begin_refund_attempt` finds: the refund is handled already, a dispute ends it, or the attempt
    is counted, with a record when a dispute is open. -/
inductive AttemptChoice
  | handled
  | blocked
  | counted (recorded : Bool)
  deriving DecidableEq, Repr

def beginRefundAttemptLocks (refundId paymentId orderId : Id) : AttemptChoice → List RowLock
  | .handled => [forUpdate (.refund refundId)]
  | .blocked =>
    -- a failed refund no longer counts, so its UPDATE leaves the trigger without work
    [forUpdate (.refund refundId), forUpdate (.payment paymentId), updated (.refund refundId)]
      ++ recordLocks paymentId orderId
  | .counted recorded =>
    [forUpdate (.refund refundId), forUpdate (.payment paymentId)]
      ++ (if recorded then recordLocks paymentId orderId else [])
      ++ updateRefundLocks refundId paymentId

/-- `record_refund_attempt_failed`; its record names the order only. -/
def refundAttemptFailedLocks (refundId paymentId orderId : Id) (uncertain : Bool) : List RowLock :=
  forUpdate (.refund refundId) ::
    if uncertain then updateRefundLocks refundId paymentId ++ [referenced (.order orderId)] else []

/-- The order's side of a confirmed refund: nothing, or a full refund that may release stock. -/
inductive OrderRefund
  | untouched
  | refunded
  | restocked (products variants : List Id)
  deriving DecidableEq, Repr

def OrderRefund.locks (orderId : Id) : OrderRefund → List RowLock
  | .untouched => []
  | .refunded => orderStatusLocks orderId
  | .restocked products variants =>
    orderStatusLocks orderId ++ restockLocks products variants ++ [updated (.order orderId)]

/-- `_confirm_refund`. -/
def confirmRefundLocks (paymentId orderId : Id) (disputed : Bool) (effect : OrderRefund) : List RowLock :=
  [forUpdate (.order orderId), updated (.payment paymentId)]
    ++ (if disputed then recordLocks paymentId orderId else [])
    ++ effect.locks orderId

/-- Which branch of `apply_refund_state` runs: no flush, one of a refund that does not count (failed), one
    of a refund that counts, or a confirmation. -/
inductive StateChoice
  | unchanged
  | failed
  | counted
  | confirmed (disputed : Bool) (effect : OrderRefund)
  deriving DecidableEq, Repr

/-- `apply_refund_state` on a refund that its caller locked: the job's `finish_refund` or a webhook. -/
def applyRefundStateLocks (refundId paymentId orderId : Id) (mismatch : Bool) (choice : StateChoice) :
    List RowLock :=
  (if mismatch then [referenced (.order orderId)] else [])
    ++ match choice with
      | .unchanged => []
      | .failed => [updated (.refund refundId)]
      | .counted => updateRefundLocks refundId paymentId
      | .confirmed disputed effect =>
        updateRefundLocks refundId paymentId ++ confirmRefundLocks paymentId orderId disputed effect

/-- What `record_external_refund` comes to: the refund is known, its figures are not accepted, the database
    refuses it, or it is recorded. -/
inductive ExternalChoice
  | known
  | invalid
  | refused
  | recorded
  deriving DecidableEq, Repr

/-- `record_external_refund`. The savepoint of a refused INSERT is taken to keep its lock. -/
def recordExternalRefundLocks (paymentId orderId : Id) : ExternalChoice → List RowLock
  | .known => []
  | .invalid => recordLocks paymentId orderId
  | .refused => forUpdate (.payment paymentId) :: recordLocks paymentId orderId
  | .recorded =>
    insertRefundLocks paymentId orderId
      ++ updated (.payment paymentId) :: recordLocks paymentId orderId

/-! ### Disputes -/

/-- What `apply_dispute_event` finds for the payment it has locked. -/
inductive DisputeChoice
  | created
  | unchanged (disputeId : Id)
  | changed (disputeId : Id) (lost : Bool)
  deriving DecidableEq, Repr

/-- `apply_dispute_event` for a payment the store knows. -/
def applyDisputeEventLocks (paymentId orderId : Id) : DisputeChoice → List RowLock
  | .created => forUpdate (.payment paymentId) :: recordLocks paymentId orderId
  | .unchanged disputeId => [forUpdate (.payment paymentId), forUpdate (.dispute disputeId)]
  | .changed disputeId lost =>
    [forUpdate (.payment paymentId), forUpdate (.dispute disputeId), updated (.dispute disputeId)]
      ++ if lost then recordLocks paymentId orderId else []

/-! ### Orders and payments -/

/-- Phase 3 of `cancel_order`: the payments that are still pending, then the stock, then the order. -/
def cancelFinishLocks (orderId : Id) (payments products variants : List Id) : List RowLock :=
  forUpdate (.order orderId) :: payments.map (fun p => updated (.payment p))
    ++ restockLocks products variants ++ orderStatusLocks orderId

/-- What `_handle_payment_succeeded` does with a payment it found. -/
inductive SuccessChoice
  | rejected
  | late
  | paid
  deriving DecidableEq, Repr

/-- `_handle_payment_succeeded`. The session flushes a new `provider_reference` on its own account before
    the statement that locks the order. -/
def paymentSucceededLocks (paymentId orderId : Id) (reference : Bool) : SuccessChoice → List RowLock
  | .rejected => recordLocks paymentId orderId
  | .late =>
    (if reference then [updated (.payment paymentId)] else [])
      ++ [forUpdate (.order orderId), updated (.payment paymentId)] ++ recordLocks paymentId orderId
  | .paid =>
    (if reference then [updated (.payment paymentId)] else [])
      ++ [forUpdate (.order orderId), updated (.payment paymentId)] ++ orderStatusLocks orderId

/-- `ReturnService.refund`: the return, then `request_refund` on its order, then the return's own UPDATE,
    whose foreign key holds the refund. -/
def refundReturnLocks (returnId orderId : Id) : Option (Id × RefundChoice) → List RowLock
  | none => [forUpdate (.returnRequest returnId), forUpdate (.order orderId)]
  | some (paymentId, choice) =>
    [forUpdate (.returnRequest returnId), forUpdate (.order orderId)]
      ++ requestRefundLocks orderId (some (paymentId, choice)) ++ [updated (.returnRequest returnId)]
      ++ match choice with
        | .existing refundId => [referenced (.refund refundId)]
        | .created => []

/-! ### Transactions -/

/-- One transaction of the payment lifecycle, with the rows it is about and what it finds on its way. -/
inductive LockOp
  | requestRefund (orderId : Id) (found : Option (Id × RefundChoice))
  | beginRefundAttempt (refundId paymentId orderId : Id) (choice : AttemptChoice)
  | refundAttemptFailed (refundId paymentId orderId : Id) (uncertain : Bool)
  | refundState (refundId paymentId orderId : Id) (mismatch : Bool) (choice : StateChoice)
  | externalRefund (paymentId orderId : Id) (choice : ExternalChoice)
  | disputeEvent (paymentId orderId : Id) (choice : DisputeChoice)
  | cancelBegin (orderId : Id)
  | cancelReport (orderId : Id)
  | cancelFinish (orderId : Id) (payments products variants : List Id)
  | paymentSucceeded (paymentId orderId : Id) (reference : Bool) (choice : SuccessChoice)
  | refundReturn (returnId orderId : Id) (found : Option (Id × RefundChoice))

namespace LockOp

def locks : LockOp → List RowLock
  | .requestRefund o found => requestRefundLocks o found
  | .beginRefundAttempt r p o choice => beginRefundAttemptLocks r p o choice
  | .refundAttemptFailed r p o uncertain => refundAttemptFailedLocks r p o uncertain
  | .refundState r p o mismatch choice =>
    forUpdate (.refund r) :: applyRefundStateLocks r p o mismatch choice
  | .externalRefund p o choice => recordExternalRefundLocks p o choice
  | .disputeEvent p o choice => applyDisputeEventLocks p o choice
  | .cancelBegin o => [forUpdate (.order o)]
  | .cancelReport o => [referenced (.order o)]
  | .cancelFinish o payments products variants => cancelFinishLocks o payments products variants
  | .paymentSucceeded p o reference choice => paymentSucceededLocks p o reference choice
  | .refundReturn ret o found => refundReturnLocks ret o found

end LockOp

/-- The payment is one of the order's. -/
def Db.paymentOf (db : Db) (paymentId orderId : Id) : Prop :=
  ∃ p, db.payments.get? paymentId = some p ∧ p.orderId = orderId

/-- The refund is of the payment and files itself under the order. -/
def Db.refundOf (db : Db) (refundId paymentId orderId : Id) : Prop :=
  ∃ r, db.refunds.get? refundId = some r ∧ r.paymentId = paymentId ∧ r.orderId = orderId

/-- What `request_refund` found is a payment of the order, and a refund of that payment. -/
def Db.foundFor (db : Db) (orderId : Id) : Option (Id × RefundChoice) → Prop
  | none => True
  | some (p, .created) => db.paymentOf p orderId
  | some (p, .existing r) => db.paymentOf p orderId ∧ db.refundOf r p orderId

/-- The rows of a transaction are the rows the tables name: what a refund is for, what a payment pays. -/
def LockOp.Of (db : Db) : LockOp → Prop
  | .requestRefund o found => db.foundFor o found
  | .beginRefundAttempt r p o _ => db.refundOf r p o
  | .refundAttemptFailed r p o _ => db.refundOf r p o
  | .refundState r p o _ _ => db.refundOf r p o
  | .externalRefund p o _ => db.paymentOf p o
  | .disputeEvent p o _ => db.paymentOf p o
  | .cancelBegin _ => True
  | .cancelReport _ => True
  | .cancelFinish o payments _ _ => ∀ p ∈ payments, db.paymentOf p o
  | .paymentSucceeded p o _ _ => db.paymentOf p o
  | .refundReturn _ o found => db.foundFor o found

/-- An event about a recorded dispute names the payment the dispute is recorded for. -/
def LockOp.Attributed (db : Db) : LockOp → Prop
  | .disputeEvent p _ (.unchanged d) => ∃ row, db.disputes.get? d = some row ∧ row.paymentId = p
  | .disputeEvent p _ (.changed d _) => ∃ row, db.disputes.get? d = some row ∧ row.paymentId = p
  | _ => True

end NovaCart
