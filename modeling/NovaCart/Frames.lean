import NovaCart.System

/-! What one statement can touch.

    `Write.kind` names the columns a statement may change and `mask` keeps exactly those of the new
    database, so `write_mask` is the frame rule of all statements at once. `Within K` is a call whose
    statements all have a kind in `K` and are `Proper`, as every statement of the services is; every
    fact of the form "this call leaves that table alone" is `Within.frame` applied to its footprint. -/

namespace NovaCart

open Schemes

inductive WriteKind
  | stock | insertOrder | orderStatus | orderRest | history | insertPayment | payment
  | insertRefund | refund | insertDispute | dispute | reconcile | lateRecord | resolve | event | defer
  | deferred  | config | returns | shipment | invoice
  deriving DecidableEq, Repr

@[simp] def Write.kind : Write → WriteKind
  | .stock _ => .stock
  | .insertOrder _ => .insertOrder
  | .order _ c => if c.status = none then .orderRest else .orderStatus
  | .history _ => .history
  | .insertPayment _ => .insertPayment
  | .payment _ _ => .payment
  | .insertRefund _ => .insertRefund
  | .refund _ _ => .refund
  | .insertDispute _ => .insertDispute
  | .dispute _ _ => .dispute
  | .reconcile row => if row.kind = .latePayment then .lateRecord else .reconcile
  | .resolve _ _ _ _ => .resolve
  | .event _ => .event
  | .defer _ => .defer
  | .deferred _ => .deferred
  | .insertConfig _ | .config _ => .config
  | .insertReturn _ | .returned _ => .returns
  | .insertShipment _ => .shipment
  | .insertInvoice _ => .invoice

/-- `db` with the tables that a statement of kind `k` writes taken from `db'`. -/
def WriteKind.mask (k : WriteKind) (db db' : Db) : Db :=
  match k with
  | .stock => { db with stock := db'.stock }
  | .insertOrder | .orderStatus | .orderRest => { db with orders := db'.orders }
  | .history => { db with history := db'.history }
  | .insertPayment | .payment => { db with payments := db'.payments }
  | .insertRefund | .refund => { db with refunds := db'.refunds }
  | .insertDispute | .dispute => { db with disputes := db'.disputes }
  | .reconcile | .lateRecord | .resolve => { db with reconciliations := db'.reconciliations }
  | .event => { db with events := db'.events }
  | .defer | .deferred => { db with deferred := db'.deferred }
  | .config => { db with configs := db'.configs }
  | .returns => { db with returns := db'.returns }
  | .shipment => { db with shipments := db'.shipments }
  | .invoice => { db with invoices := db'.invoices }

/-- The keys under which a payment is flagged. -/
def DedupeKey.flagsPayment (k : DedupeKey) : Bool :=
  match k.tag with
  | .ofKind .latePayment | .ofKind .amountMismatch | .ofKind .unverifiablePayment
  | .ofKind .orderMismatch => true
  | _ => false

/-- A key that flags a payment names the payment of its record. -/
def PaymentReconciliation.WellKeyed (r : PaymentReconciliation) : Prop :=
  r.dedupeKey.flagsPayment = true → ∃ id, r.paymentId = some id ∧ r.dedupeKey.arg = toString id

/-- The key under which a dispute that meets a submitted refund is filed. -/
def overlapKey (disputeId : Id) : DedupeKey :=
  ⟨.ofKind .disputeDuringRefund, "dispute:" ++ toString disputeId⟩

/-- The keys that name the row of a dispute. -/
def DedupeKey.namesDispute (k : DedupeKey) (id : Id) : Prop :=
  k = overlapKey id ∨ k = ReconciliationKind.disputeLost.key id

/-- A record that names a dispute is written after the dispute. -/
def PaymentReconciliation.Grounded (db : Db) (r : PaymentReconciliation) : Prop :=
  ∀ id, r.dedupeKey.namesDispute id → db.disputes.get? id ≠ none

/-- The keys that name neither a payment nor a dispute. -/
def DedupeKey.plain (k : DedupeKey) : Bool :=
  match k.tag with
  | .ofKind .disputeDuringRefund | .ofKind .disputeLost => false
  | _ => !k.flagsPayment

/-- What the services see to and no database rule does. -/
@[simp] def Write.Proper (db : Db) : Write → Prop
  | .reconcile row => row.WellKeyed ∧ row.Grounded db
  | .config row => ∀ old, db.configs.get? row.id = some old → row.provider = old.provider
  | _ => True

/-! ### Inversion of the statements -/

theorem updateOrder_ok {db db' : Db} {id : Id} {c : OrderPatch} (h : db.updateOrder id c = .ok db') :
    ∃ old, db.orders.get? id = some old ∧ db.ordersLifecycleGuard old (old.patch c) = .ok () ∧
      db' = { db with orders := db.orders.replace (old.patch c) } := by
  obtain ⟨old, hold, h⟩ := need_bind_ok h
  obtain ⟨⟨⟩, hguard, h⟩ := bind_ok h
  exact ⟨old, hold, hguard, (Except.ok.inj h).symm⟩

theorem insertPayment_ok {db db' : Db} {p : Payment} (h : db.insertPayment p = .ok db') :
    db.orders.get? p.orderId ≠ none ∧ (∀ c ∈ p.providerConfigId, db.configs.get? c ≠ none) ∧
      (∀ q ∈ db.payments.rows, q.providerPaymentId ≠ p.providerPaymentId) ∧
      db.onePendingPayment p ∧
      ∃ t, db.payments.insert? p = some t ∧ db' = { db with payments := t } := by
  obtain ⟨_, h⟩ := require_bind_ok h
  obtain ⟨horder, h⟩ := require_bind_ok h
  obtain ⟨hconfig, h⟩ := require_bind_ok h
  obtain ⟨hppid, h⟩ := require_bind_ok h
  obtain ⟨hone, h⟩ := require_bind_ok h
  obtain ⟨t, ht, h⟩ := need_bind_ok h
  exact ⟨horder, hconfig, hppid, hone, t, ht, (Except.ok.inj h).symm⟩

theorem updatePayment_ok {db db' : Db} {id : Id} {c : PaymentPatch}
    (h : db.updatePayment id c = .ok db') :
    ∃ old, db.payments.get? id = some old ∧ db.onePendingPayment (old.patch c) ∧
      db' = { db with payments := db.payments.replace (old.patch c) } := by
  obtain ⟨old, hold, h⟩ := need_bind_ok h
  obtain ⟨hone, h⟩ := require_bind_ok h
  exact ⟨old, hold, hone, (Except.ok.inj h).symm⟩

theorem insertRefund_ok {db db' : Db} {r : Refund} (h : db.insertRefund r = .ok db') :
    db.orders.get? r.orderId ≠ none ∧ db.payments.get? r.paymentId ≠ none ∧
      (∀ q ∈ db.refunds.rows, q.idempotencyKey ≠ r.idempotencyKey) ∧
      db.oneRefundInFlight r ∧ db.refundsCumulativeGuard r ∧
      ∃ t, db.refunds.insert? r = some t ∧ db' = { db with refunds := t } := by
  obtain ⟨_, h⟩ := require_bind_ok h
  obtain ⟨horder, h⟩ := require_bind_ok h
  obtain ⟨hpayment, h⟩ := require_bind_ok h
  obtain ⟨hkey, h⟩ := require_bind_ok h
  obtain ⟨hone, h⟩ := require_bind_ok h
  obtain ⟨hsum, h⟩ := require_bind_ok h
  obtain ⟨t, ht, h⟩ := need_bind_ok h
  exact ⟨horder, hpayment, hkey, hone, hsum, t, ht, (Except.ok.inj h).symm⟩

theorem updateRefund_ok {db db' : Db} {id : Id} {c : RefundPatch}
    (h : db.updateRefund id c = .ok db') :
    ∃ old, db.refunds.get? id = some old ∧ (old.status.final → (old.patch c).status = old.status) ∧
      db.oneRefundInFlight (old.patch c) ∧ db.refundsCumulativeGuard (old.patch c) ∧
      db' = { db with refunds := db.refunds.replace (old.patch c) } := by
  obtain ⟨old, hold, h⟩ := need_bind_ok h
  obtain ⟨hfinal, h⟩ := require_bind_ok h
  obtain ⟨hone, h⟩ := require_bind_ok h
  obtain ⟨hsum, h⟩ := require_bind_ok h
  exact ⟨old, hold, hfinal, hone, hsum, (Except.ok.inj h).symm⟩

theorem insertDispute_ok {db db' : Db} {d : Dispute} (h : db.insertDispute d = .ok db') :
    db.payments.get? d.paymentId ≠ none ∧
      ∃ t, db.disputes.insert? d = some t ∧ db' = { db with disputes := t } := by
  obtain ⟨_, h⟩ := require_bind_ok h
  obtain ⟨hpayment, h⟩ := require_bind_ok h
  obtain ⟨_, h⟩ := require_bind_ok h
  obtain ⟨t, ht, h⟩ := need_bind_ok h
  exact ⟨hpayment, t, ht, (Except.ok.inj h).symm⟩

theorem updateDispute_ok {db db' : Db} {id : Id} {c : DisputePatch}
    (h : db.updateDispute id c = .ok db') :
    ∃ old, db.disputes.get? id = some old ∧ (old.status.final → c.status = old.status) ∧
      db' = { db with disputes := db.disputes.replace (old.patch c) } := by
  obtain ⟨old, hold, h⟩ := need_bind_ok h
  obtain ⟨hfinal, h⟩ := require_bind_ok h
  exact ⟨old, hold, hfinal, (Except.ok.inj h).symm⟩

/-! ### Kinds of statements -/

theorem reconcile_mask (row : PaymentReconciliation) (db db' : Db) :
    (Write.reconcile row).kind.mask db db' = { db with reconciliations := db'.reconciliations } := by
  by_cases hk : row.kind = .latePayment
  · simp [hk, WriteKind.mask]
  · simp [hk, WriteKind.mask]

theorem order_mask (id : Id) (c : OrderPatch) (db db' : Db) :
    (Write.order id c).kind.mask db db' = { db with orders := db'.orders } := by
  by_cases hc : c.status = none
  · simp [hc, WriteKind.mask]
  · simp [hc, WriteKind.mask]

/-- A statement changes only what its kind names. -/
theorem write_mask {db db' : Db} {w : Write} (h : db.write w = .ok db') :
    db' = w.kind.mask db db' := by
  cases w with
  | stock w => obtain ⟨s, _, h⟩ := bind_ok h; cases h; rfl
  | insertOrder row => obtain ⟨t, _, h⟩ := need_bind_ok h; cases h; rfl
  | order id c =>
    obtain ⟨old, _, _, rfl⟩ := updateOrder_ok h
    rw [order_mask]
  | history row => cases h; rfl
  | insertPayment row => obtain ⟨_, _, _, _, t, _, rfl⟩ := insertPayment_ok h; rfl
  | payment id c => obtain ⟨old, _, _, rfl⟩ := updatePayment_ok h; rfl
  | insertRefund row => obtain ⟨_, _, _, _, _, t, _, rfl⟩ := insertRefund_ok h; rfl
  | refund id c => obtain ⟨old, _, _, _, _, rfl⟩ := updateRefund_ok h; rfl
  | insertDispute row => obtain ⟨_, t, _, rfl⟩ := insertDispute_ok h; rfl
  | dispute id c => obtain ⟨old, _, _, rfl⟩ := updateDispute_ok h; rfl
  | reconcile row =>
    cases h
    rw [reconcile_mask, Db.record]
    cases db.reconciliations.insert? row with
    | none => rfl
    | some t => rfl
  | resolve k resolution note by_ =>
    cases h
    simp only [Write.kind, WriteKind.mask, Db.resolveRecord]
    cases db.reconciliations.get? k with
    | none => rfl
    | some r =>
      by_cases hr : r.open_ = true
      · simp [hr]
      · simp [hr]
  | event row =>
    cases h
    simp only [Write.kind, WriteKind.mask, Db.upsertEvent]
    cases db.events.insert? row with
    | none => rfl
    | some t => rfl
  | defer row =>
    cases h
    simp only [Write.kind, WriteKind.mask, Db.insertDeferred]
    cases db.deferred.insert? row with
    | none => rfl
    | some t => rfl
  | deferred row => cases h; rfl
  | insertConfig row => obtain ⟨t, _, h⟩ := need_bind_ok h; cases h; rfl
  | config row => cases h; rfl
  | insertReturn row => obtain ⟨t, _, h⟩ := need_bind_ok h; cases h; rfl
  | returned row => cases h; rfl
  | insertShipment row => obtain ⟨t, _, h⟩ := need_bind_ok h; cases h; rfl
  | insertInvoice row => obtain ⟨t, _, h⟩ := need_bind_ok h; cases h; rfl

/-- A record changes no other table. -/
theorem record_eq (db : Db) (row : PaymentReconciliation) :
    db.record row = { db with reconciliations := (db.record row).reconciliations } :=
  (write_mask (w := .reconcile row) rfl).trans (reconcile_mask row db _)

@[simp] theorem record_stock (db : Db) (row : PaymentReconciliation) :
    (db.record row).stock = db.stock := by rw [record_eq]
@[simp] theorem record_orders (db : Db) (row : PaymentReconciliation) :
    (db.record row).orders = db.orders := by rw [record_eq]
@[simp] theorem record_payments (db : Db) (row : PaymentReconciliation) :
    (db.record row).payments = db.payments := by rw [record_eq]
@[simp] theorem record_refunds (db : Db) (row : PaymentReconciliation) :
    (db.record row).refunds = db.refunds := by rw [record_eq]
@[simp] theorem record_disputes (db : Db) (row : PaymentReconciliation) :
    (db.record row).disputes = db.disputes := by rw [record_eq]

/-- A call all of whose statements are proper and have a kind in `K`. -/
abbrev Within (K : List WriteKind) : Db → Db → Prop :=
  Schemes.Writes Db.write fun db w => w.kind ∈ K ∧ w.Proper db

namespace Within

variable {K L : List WriteKind} {db db₁ db' : Db}

theorem mono (hKL : K ⊆ L) (h : Within K db db') : Within L db db' :=
  Writes.mono (fun _ _ hk => ⟨hKL hk.1, hk.2⟩) h

theorem one {w : Write} (h : db.write w = .ok db') (hk : w.kind ∈ K ∧ w.Proper db) : Within K db db' :=
  Writes.single w hk h

/-- What no kind of the footprint touches is unchanged. -/
theorem frame {α : Type} (f : Db → α) (hf : ∀ k ∈ K, ∀ db db' : Db, f (k.mask db db') = f db)
    (h : Within K db db') : f db' = f db := by
  refine Writes.relates (R := fun a b => f b = f a) (fun _ => rfl) (fun hab hbc => hbc.trans hab)
    (fun {s w s'} hk hw => ?_) h
  rw [write_mask hw]
  exact hf w.kind hk.1 s s'

theorem stock (h : Within K db db') (hK : WriteKind.stock ∉ K) : db'.stock = db.stock :=
  h.frame (·.stock) fun k hk _ _ => by
    cases k with
    | stock => exact absurd hk hK
    | _ => rfl

theorem orders (h : Within K db db') (hinsert : WriteKind.insertOrder ∉ K)
    (hstatus : WriteKind.orderStatus ∉ K) (hrest : WriteKind.orderRest ∉ K) :
    db'.orders = db.orders :=
  h.frame (·.orders) fun k hk _ _ => by
    cases k with
    | insertOrder => exact absurd hk hinsert
    | orderStatus => exact absurd hk hstatus
    | orderRest => exact absurd hk hrest
    | _ => rfl

theorem payments (h : Within K db db') (hinsert : WriteKind.insertPayment ∉ K)
    (hupdate : WriteKind.payment ∉ K) : db'.payments = db.payments :=
  h.frame (·.payments) fun k hk _ _ => by
    cases k with
    | insertPayment => exact absurd hk hinsert
    | payment => exact absurd hk hupdate
    | _ => rfl

theorem refunds (h : Within K db db') (hinsert : WriteKind.insertRefund ∉ K)
    (hupdate : WriteKind.refund ∉ K) : db'.refunds = db.refunds :=
  h.frame (·.refunds) fun k hk _ _ => by
    cases k with
    | insertRefund => exact absurd hk hinsert
    | refund => exact absurd hk hupdate
    | _ => rfl

theorem disputes (h : Within K db db') (hinsert : WriteKind.insertDispute ∉ K)
    (hupdate : WriteKind.dispute ∉ K) : db'.disputes = db.disputes :=
  h.frame (·.disputes) fun k hk _ _ => by
    cases k with
    | insertDispute => exact absurd hk hinsert
    | dispute => exact absurd hk hupdate
    | _ => rfl

theorem reconciliations (h : Within K db db') (hrecord : WriteKind.reconcile ∉ K)
    (hlate : WriteKind.lateRecord ∉ K) (hresolve : WriteKind.resolve ∉ K) :
    db'.reconciliations = db.reconciliations :=
  h.frame (·.reconciliations) fun k hk _ _ => by
    cases k with
    | reconcile => exact absurd hk hrecord
    | lateRecord => exact absurd hk hlate
    | resolve => exact absurd hk hresolve
    | _ => rfl

theorem events (h : Within K db db') (hK : WriteKind.event ∉ K) : db'.events = db.events :=
  h.frame (·.events) fun k hk _ _ => by
    cases k with
    | event => exact absurd hk hK
    | _ => rfl

theorem deferredEvents (h : Within K db db') (hdefer : WriteKind.defer ∉ K)
    (hupdate : WriteKind.deferred ∉ K) : db'.deferred = db.deferred :=
  h.frame (·.deferred) fun k hk _ _ => by
    cases k with
    | defer => exact absurd hk hdefer
    | deferred => exact absurd hk hupdate
    | _ => rfl

theorem configs (h : Within K db db') (hK : WriteKind.config ∉ K) : db'.configs = db.configs :=
  h.frame (·.configs) fun k hk _ _ => by
    cases k with
    | config => exact absurd hk hK
    | _ => rfl

end Within

end NovaCart
