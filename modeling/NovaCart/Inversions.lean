import NovaCart.Frames

/-! Inversion of the composite operations: which parts ran, in which order, when an operation
    committed. Later proofs take an operation apart with these and never unfold it. -/

namespace NovaCart

open Schemes

variable {db db' seen : Db} {now : Time} {cfg : Settings} {e : WebhookEvent}

/-! ### Lifecycle -/

theorem lockOrder_ok {id : Id} {o : Order} (h : lockOrder db id = .ok o) :
    db.orders.get? id = some o := need_eq_ok.mp h

theorem updateOrderStatus_ok {o : Order} {new : OrderStatus} {by_ : Option Id}
    {reason : Option String} {c : OrderPatch}
    (h : updateOrderStatus db o new by_ reason now c = .ok db') :
    ∃ old, db.orders.get? o.id = some old ∧
      db.ordersLifecycleGuard old (old.patch { c with status := some new }) = .ok () ∧
      db' = { db with
        orders := db.orders.replace (old.patch { c with status := some new })
        history := ⟨o.id, o.status, new, by_, reason, now⟩ :: db.history } := by
  obtain ⟨db₁, h₁, h⟩ := bind_ok h
  obtain ⟨old, hold, hguard, rfl⟩ := updateOrder_ok h₁
  exact ⟨old, hold, hguard, (Except.ok.inj h).symm⟩

/-- What the lifecycle guard let through. -/
theorem ordersLifecycleGuard_ok {old new : Order} (h : db.ordersLifecycleGuard old new = .ok ()) :
    (old.stockReleasedAt = none ∨ new.stockReleasedAt = old.stockReleasedAt) ∧
      (new.status ≠ old.status →
        old.status.allowed new.status = true ∧
        (new.status = .paid → ∃ p ∈ db.payments.rows, p.orderId = new.id ∧ p.status = .succeeded) ∧
        (new.status = .refunded → ∃ r ∈ db.refunds.rows, r.orderId = new.id ∧ r.status = .succeeded) ∧
        (new.status = .cancelled → new.stockReleasedAt ≠ none)) := by
  obtain ⟨hrel, h⟩ := require_bind_ok h
  refine ⟨hrel, fun hne => ?_⟩
  rw [if_neg hne] at h
  obtain ⟨hallowed, h⟩ := require_bind_ok h
  obtain ⟨hpaid, h⟩ := require_bind_ok h
  obtain ⟨hrefunded, h⟩ := require_bind_ok h
  exact ⟨hallowed, hpaid, hrefunded, require_eq_ok.mp h⟩

theorem markPaid_ok {o : Order} {p : Payment} (h : markPaid db o p now = .ok db') :
    (o.status ≠ .pending ∧ db' = db) ∨
      (o.status = .pending ∧ ∃ db₁,
        updateOrderStatus db o .paid none (some "payment confirmed by the payment provider") now
          = .ok db₁ ∧
        db₁.write (.order o.id { paidInDemoMode := some (p.provider = .demo) }) = .ok db') := by
  unfold markPaid at h
  split at h
  · rename_i hp
    obtain ⟨db₁, h₁, h⟩ := bind_ok h
    exact .inr ⟨hp, db₁, h₁, h⟩
  · rename_i hp
    exact .inl ⟨hp, (Except.ok.inj h).symm⟩

theorem fulfil_ok {o : Order} {by_ : Option Id} {reason : Option String}
    (h : fulfil db o by_ reason now = .ok db') :
    ∃ db₁, updateOrderStatus db o .fulfilled by_ reason now = .ok db₁ ∧
      issueInvoice db₁ { o with status := .fulfilled } = .ok db' := bind_ok h

/-- The way to `fulfilled` is the only one open, and it is closed while a refund cancels the order. -/
theorem adminChangeStatus_ok {o admin : Id} {new : OrderStatus}
    (h : adminChangeStatus db o new admin now = .ok db') :
    db' = db ∨ ∃ order, db.orders.get? o = some order ∧ order.status = .paid ∧
      db.hasCancellingRefund order.id = false ∧
      fulfil db order (some admin) (some "marked fulfilled by an administrator") now = .ok db' := by
  cases new with
  | fulfilled =>
    obtain ⟨order, horder, h⟩ := bind_ok h
    split at h
    · exact .inl (Except.ok.inj h).symm
    obtain ⟨hpaid, h⟩ := require_bind_ok h
    obtain ⟨hfree, h⟩ := require_bind_ok h
    exact .inr ⟨order, lockOrder_ok horder, hpaid, hfree, h⟩
  | pending => cases h
  | paid => cases h
  | cancelled => cases h
  | refunded => cases h

theorem createShipment_ok {o id admin : Id} {fulfill : Bool}
    (h : createShipment db o id admin fulfill now = .ok db') :
    ∃ order db₁, db.orders.get? o = some order ∧
      db.write (.insertShipment ⟨id, order.id, none⟩) = .ok db₁ ∧
      (db' = db₁ ∨
        (fulfill = true ∧ order.status = .paid ∧ fulfil db₁ order (some admin) none now = .ok db')) := by
  obtain ⟨order, horder, h⟩ := bind_ok h
  obtain ⟨_, h⟩ := require_bind_ok h
  obtain ⟨db₁, h₁, h⟩ := bind_ok h
  refine ⟨order, db₁, lockOrder_ok horder, h₁, ?_⟩
  split at h
  · rename_i hc
    exact .inr ⟨hc.1, hc.2, h⟩
  · exact .inl (Except.ok.inj h).symm

theorem updateStatus_ok {o : Id} {new : OrderStatus} {by_ : Option Id}
    (h : updateStatus seen db o new by_ now = .ok db') :
    ∃ order db₁, seen.orders.get? o = some order ∧ order.status.allowed new = true ∧
      updateOrderStatus db order new by_ none now = .ok db₁ ∧
      (db' = db₁ ∨ (new = .fulfilled ∧ issueInvoice db₁ { order with status := new } = .ok db')) := by
  obtain ⟨order, horder, h⟩ := need_bind_ok h
  obtain ⟨hallowed, h⟩ := require_bind_ok h
  obtain ⟨db₁, h₁, h⟩ := bind_ok h
  refine ⟨order, db₁, horder, hallowed, h₁, ?_⟩
  split at h
  · rename_i hnew
    exact .inr ⟨hnew, h⟩
  · exact .inl (Except.ok.inj h).symm

theorem releaseStockAndCancel_ok {o : Order} {by_ : Option Id} {reason : String}
    (h : releaseStockAndCancel db o by_ reason now = .ok db') :
    (o.stockReleasedAt = none ∧ ∃ db₁, restockOnce db o = .ok db₁ ∧
        updateOrderStatus db₁ o .cancelled by_ (some reason) now { stockReleasedAt := some now }
          = .ok db') ∨
      (o.stockReleasedAt ≠ none ∧
        updateOrderStatus db o .cancelled by_ (some reason) now = .ok db') := by
  unfold releaseStockAndCancel at h
  split at h
  · rename_i hnone
    obtain ⟨db₁, h₁, h⟩ := bind_ok h
    exact .inl ⟨hnone, db₁, h₁, h⟩
  · rename_i hset
    exact .inr ⟨hset, h⟩

theorem cancelFinish_ok {call : CancelCall} (h : cancelFinish db call now = .ok db') :
    ∃ order, db.orders.get? call.orderId = some order ∧
      (db' = db ∨
        (order.status = .pending ∧ (∀ p ∈ call.payments db, p.status ≠ .succeeded) ∧
          ∃ db₁, failPending db (call.payments db) = .ok db₁ ∧
            releaseStockAndCancel db₁ order call.actor call.reason now = .ok db')) := by
  obtain ⟨order, horder, h⟩ := bind_ok h
  refine ⟨order, lockOrder_ok horder, ?_⟩
  split at h
  · exact .inl (Except.ok.inj h).symm
  rename_i hpending
  dsimp only at h
  split at h
  · exact .inl (Except.ok.inj h).symm
  rename_i hnone
  obtain ⟨db₁, h₁, h⟩ := bind_ok h
  exact .inr ⟨not_not.mp hpending, by simpa using hnone, db₁, h₁, h⟩

/-! ### Refunds -/

theorem refundablePayment_ok {order : Order} {id : Option Id} {p : Payment}
    (h : refundablePayment db order id = .ok (some p)) :
    p ∈ db.payments.rows ∧ p.orderId = order.id ∧ p.status = .succeeded := by
  have hlist : ∀ {f : Payment → Bool}, (db.listForOrder order.id).find? f = some p →
      p ∈ db.payments.rows ∧ p.orderId = order.id := by
    intro f hf
    have hmem := List.mem_filter.mp (List.mem_of_find?_eq_some hf)
    exact ⟨hmem.1, by simpa using hmem.2⟩
  cases id with
  | none =>
    obtain ⟨_, h⟩ := require_bind_ok h
    have hf := Except.ok.inj h
    have hs := List.find?_some hf
    exact ⟨(hlist hf).1, (hlist hf).2, by simpa using hs⟩
  | some id =>
    have hf := Except.ok.inj h
    have hs : p.id = id ∧ p.status = .succeeded := by simpa using List.find?_some hf
    exact ⟨(hlist hf).1, (hlist hf).2, hs.2⟩

/-- A refund that an administrator asked for, as it is inserted into `db`: the whole of a succeeded
    payment that is not disputed and of which nothing else is refunded. -/
structure Requested (db : Db) (r : Refund) : Prop where
  order : ∃ o, db.orders.get? r.orderId = some o ∧ (r.cancelsOrder = true → o.status = .paid)
  payment : ∃ p, db.payments.get? r.paymentId = some p ∧ p.orderId = r.orderId ∧
    p.status = .succeeded ∧ r.amountCents = p.amountCents
  undisputed : db.hasOpenDispute r.paymentId = false
  uncommitted : db.committedAmount r.paymentId ≤ 0
  origin : r.origin = .requested
  status : r.status = .requested
  attempts : r.attempts = 0
  providerRefundId : r.providerRefundId = none

/-- `request_refund` finds the refund in flight or inserts a new one. -/
theorem requestRefund_ok {o by_ id id' : Id} {p : Option Id} {cancels : Bool}
    (h : requestRefund db o by_ p cancels id = .ok (db', id')) :
    db' = db ∨ ∃ row, db.write (.insertRefund row) = .ok db' ∧ Requested db row := by
  obtain ⟨order, horder, h⟩ := bind_ok h
  have horder := lockOrder_ok horder
  obtain ⟨_, h⟩ := require_bind_ok h
  obtain ⟨hcancels, h⟩ := require_bind_ok h
  obtain ⟨found, hfound, h⟩ := bind_ok h
  obtain ⟨payment, hpayment, h⟩ := need_bind_ok h
  rw [hpayment] at hfound
  obtain ⟨hmem, hof, hs⟩ := refundablePayment_ok hfound
  have hid : order.id = o := Table.key_of_get? horder
  split at h
  · obtain ⟨_, h⟩ := require_bind_ok h
    cases h
    exact .inl rfl
  · obtain ⟨_, hallowed, h⟩ := bind_ok h
    obtain ⟨_, _, h⟩ := bind_ok h
    obtain ⟨db₁, h₁, h⟩ := bind_ok h
    cases h
    obtain ⟨_, hallowed⟩ := require_bind_ok hallowed
    obtain ⟨hdispute, hallowed⟩ := require_bind_ok hallowed
    obtain ⟨_, hallowed⟩ := require_bind_ok hallowed
    refine .inr ⟨_, h₁, ⟨order, ?_, hcancels⟩, ⟨payment, Table.get?_of_mem hmem, hof, hs, rfl⟩,
      hdispute, require_eq_ok.mp hallowed, rfl, rfl, rfl, rfl⟩
    show db.orders.get? order.id = some order
    rw [hid]
    exact horder

/-- The row of a refund made at the provider. -/
structure ExternalRow (p : Payment) (prid : String) (amount : ℤ) (id : Id) (r : Refund) : Prop where
  id : r.id = id
  paymentId : r.paymentId = p.id
  orderId : r.orderId = p.orderId
  amountCents : r.amountCents = amount
  status : r.status = .succeeded
  providerRefundId : r.providerRefundId = some prid
  idempotencyKey : r.idempotencyKey = "provider:" ++ prid
  attempts : r.attempts = 0
  origin : r.origin = .provider
  cancelsOrder : r.cancelsOrder = false

/-- The ways of a refund made at the provider: recorded with its amount, or only flagged. -/
theorem recordExternalRefund_ok {p : Payment} {prid : String} {amount : Option ℤ}
    {currency : Option String} {id : Id}
    (h : recordExternalRefund db p prid amount currency id = .ok db') :
    ∃ known, db.byProviderRefundId prid = .ok known ∧
      ((known ≠ none ∧ db' = db) ∨
        (known = none ∧ ∃ tag, (tag = .externalRefundExceeds ∨ tag = .externalRefundInvalid) ∧
          db' = reconcile db .refundMismatch ⟨tag, prid⟩ (some p) none none) ∨
        (known = none ∧ (0 < amount.getD 0 ∧ currency = some p.currency) ∧
          ∃ row db₁ db₂, db.write (.insertRefund row) = .ok db₁ ∧
          ExternalRow p prid (amount.getD 0) id row ∧
          db₁.write (.payment p.id (addRefundedPatch p (some prid) (amount.getD 0))) = .ok db₂ ∧
          db' = reconcile db₂ .externalRefund ⟨.ofKind .externalRefund, prid⟩ (some p) none none)) := by
  obtain ⟨known, hknown, h⟩ := bind_ok h
  refine ⟨known, hknown, ?_⟩
  split at h
  · rename_i hne
    exact .inl ⟨hne, (Except.ok.inj h).symm⟩
  rename_i hnone
  have hnone := not_not.mp hnone
  split at h
  · rename_i hvalid
    split at h
    · rename_i db₁ h₁
      obtain ⟨db₂, h₂, h⟩ := bind_ok h
      exact .inr (.inr ⟨hnone, hvalid, _, db₁, db₂, h₁, ⟨rfl, rfl, rfl, rfl, rfl, rfl, rfl, rfl, rfl, rfl⟩, h₂,
        (Except.ok.inj h).symm⟩)
    · exact .inr (.inl ⟨hnone, _, .inl rfl, (Except.ok.inj h).symm⟩)
    · cases h
  · exact .inr (.inl ⟨hnone, _, .inr rfl, (Except.ok.inj h).symm⟩)

/-- When a confirmed refund puts the stock back: it cancels an order that was not shipped. -/
def releasesStock (refund : Refund) (order : Order) : Prop :=
  refund.cancelsOrder = true ∧ order.status ≠ .fulfilled ∧ order.stockReleasedAt = none

theorem refundOrder_ok {o : Order} {r : Refund} (h : refundOrder db o r now = .ok db') :
    ∃ db₁ db₂, updateOrderStatus db o .refunded none
        (some "refund confirmed by the payment provider") now = .ok db₁ ∧
      issueCreditNote db₁ o.id = .ok db₂ ∧
      ((releasesStock r o ∧ ∃ db₃, restockOnce db₂ o = .ok db₃ ∧
          db₃.write (.order o.id { stockReleasedAt := some now }) = .ok db') ∨
        (¬releasesStock r o ∧ db' = db₂)) := by
  obtain ⟨db₁, h₁, h⟩ := bind_ok h
  obtain ⟨db₂, h₂, h⟩ := bind_ok h
  refine ⟨db₁, db₂, h₁, h₂, ?_⟩
  split at h
  · rename_i hc
    obtain ⟨db₃, h₃, h⟩ := bind_ok h
    exact .inl ⟨hc, db₃, h₃, h⟩
  · rename_i hc
    exact .inr ⟨hc, (Except.ok.inj h).symm⟩

/-- When a confirmed refund also moves the order. -/
def refundsOrder (refund : Refund) (payment : Payment) (order : Order) : Prop :=
  refund.origin = .requested ∧ payment.amountCents ≤ payment.refundedAmountCents.getD 0 ∧
    (order.status = .paid ∨ order.status = .fulfilled)

theorem confirmRefund_ok {r : Refund} {prid : Option String} {amount : Option ℤ}
    {loaded : Option Payment} (h : confirmRefund db r prid amount loaded now = .ok db') :
    ∃ order payment db₁ db₂, db.orders.get? r.orderId = some order ∧
      sessionPayment db loaded r.paymentId = .ok payment ∧
      db.write (.payment payment.id (addRefundedPatch payment prid (confirmedAmount r amount)))
        = .ok db₁ ∧
      db₂ = reconcileIf (db₁.hasOpenDispute payment.id) db₁ .disputeDuringRefund
        (ReconciliationKind.disputeDuringRefund.key r.id)
        (some (payment.addRefunded prid (confirmedAmount r amount))) none none ∧
      ((refundsOrder r (payment.addRefunded prid (confirmedAmount r amount)) order ∧
          refundOrder db₂ order r now = .ok db') ∨
        (¬refundsOrder r (payment.addRefunded prid (confirmedAmount r amount)) order ∧ db' = db₂)) := by
  obtain ⟨order, horder, h⟩ := bind_ok h
  obtain ⟨payment, hpayment, h⟩ := bind_ok h
  obtain ⟨db₁, h₁, h⟩ := bind_ok h
  refine ⟨order, payment, db₁, _, lockOrder_ok horder, hpayment, h₁, rfl, ?_⟩
  dsimp only at h
  split at h
  · rename_i hc
    exact .inl ⟨hc, h⟩
  · rename_i hc
    exact .inr ⟨hc, (Except.ok.inj h).symm⟩

/-- `sessionPayment` finds the payment with the given id, in the session or in the database. -/
theorem sessionPayment_ok {loaded : Option Payment} {id : Id} {p : Payment}
    (h : sessionPayment db loaded id = .ok p) :
    (loaded = some p ∧ p.id = id) ∨ db.payments.get? id = some p := by
  unfold sessionPayment at h
  split at h
  · split at h
    · rename_i q hq
      cases h; exact .inl ⟨rfl, hq⟩
    · exact .inr (need_eq_ok.mp h)
  · exact .inr (need_eq_ok.mp h)

/-- The database after the mismatch check of `apply_refund_state`. -/
def afterMismatch (db : Db) (refund : Refund) (report : RefundReport) : Db :=
  reconcileIf (report.mismatch refund) db .refundMismatch
    (ReconciliationKind.refundMismatch.key refund.id) none (some refund.orderId) none

/-- A report is either saved on the refund, or it confirms it. -/
theorem applyRefundState_ok {r : Refund} {t : RefundReport} {loaded : Option Payment}
    (h : applyRefundState db r t loaded now = .ok db') :
    (∃ c : RefundPatch, saveRefund (afterMismatch db r t) r c = .ok db' ∧
        c.status ≠ some .succeeded ∧ c.providerRefundId = t.newRefundId r ∧ c.attempts = none ∧
        (c.status = none ∨ (r.status.final = false ∧
          ((c.status = some .failed ∧ (t.status = some "failed" ∨ t.status = some "canceled")) ∨
            (c.status = some .pending ∧ r.status = .requested))))) ∨
      (r.status.final = false ∧ t.status = some "succeeded" ∧ ∃ db₁,
        saveRefund (afterMismatch db r t) r
          { status := some .succeeded, providerRefundId := t.newRefundId r } = .ok db₁ ∧
        confirmRefund db₁
          (r.patch { status := some .succeeded, providerRefundId := t.newRefundId r })
          ((truthy t.providerRefundId).or ((t.newRefundId r).or r.providerRefundId)) t.amount loaded
          now = .ok db') := by
  unfold applyRefundState at h
  dsimp only at h
  split at h
  · exact .inl ⟨_, h, by simp, rfl, rfl, .inl rfl⟩
  rename_i hfinal
  have hopen : r.status.final = false := by simpa using hfinal
  split at h
  · rename_i hs
    obtain ⟨db₁, h₁, h⟩ := bind_ok h
    exact .inr ⟨hopen, hs, db₁, h₁, h⟩
  split at h
  · rename_i hs
    exact .inl ⟨_, h, by simp, rfl, rfl, .inr ⟨hopen, .inl ⟨rfl, hs⟩⟩⟩
  split at h
  · rename_i hreq
    exact .inl ⟨_, h, by simp, rfl, rfl, .inr ⟨hopen, .inr ⟨rfl, hreq⟩⟩⟩
  · exact .inl ⟨_, h, by simp, rfl, rfl, .inl rfl⟩

theorem finishRefund_ok {id : Id} {t : RefundReport} (h : finishRefund db id t now = .ok db') :
    db' = db ∨ ∃ r, db.refunds.get? id = some r ∧ applyRefundState db r t none now = .ok db' := by
  unfold finishRefund at h
  split at h
  · exact .inl (Except.ok.inj h).symm
  · rename_i r hr
    exact .inr ⟨r, hr, h⟩

/-- The exits of `begin_refund_attempt`: nothing to do, held back by a dispute, or counted. -/
theorem beginRefundAttempt_ok {id : Id} {a : Option RefundAttempt}
    (h : beginRefundAttempt db id = .ok (db', a)) :
    (db' = db ∧ a = none ∧ ∀ r, db.refunds.get? id = some r → r.status ≠ .requested) ∨
      ∃ refund payment, db.refunds.get? id = some refund ∧ refund.status = .requested ∧
        db.payments.get? refund.paymentId = some payment ∧
        ((db.hasOpenDispute payment.id = true ∧ refund.attempts = 0 ∧ a = none ∧ ∃ db₁,
            db.write (.refund refund.id {
              status := some .failed
              failureReason := some "not submitted: a dispute is open on this payment" }) = .ok db₁ ∧
            db' = reconcile db₁ .refundBlockedByDispute
              (ReconciliationKind.refundBlockedByDispute.key refund.id) (some payment) none none) ∨
          (¬(db.hasOpenDispute payment.id = true ∧ refund.attempts = 0) ∧
            (reconcileIf (db.hasOpenDispute payment.id) db .disputeDuringRefund
              (ReconciliationKind.disputeDuringRefund.key refund.id) (some payment) none none).write
                (.refund refund.id { attempts := some (refund.attempts + 1) }) = .ok db' ∧
            ∃ attempt, a = some attempt ∧ attempt.refundId = refund.id ∧
              attempt.amount = refund.amountCents ∧
              attempt.idempotencyKey = refund.idempotencyKey)) := by
  unfold beginRefundAttempt at h
  split at h
  · rename_i hnone
    cases h
    refine .inl ⟨rfl, rfl, fun r hr => ?_⟩
    rw [hnone] at hr
    cases hr
  rename_i refund hrefund
  split at h
  · rename_i hreq
    cases h
    refine .inl ⟨rfl, rfl, fun r hr => ?_⟩
    rw [hrefund] at hr
    cases hr
    exact hreq
  rename_i hreq
  obtain ⟨payment, hpayment, h⟩ := need_bind_ok h
  refine .inr ⟨refund, payment, hrefund, not_not.mp hreq, hpayment, ?_⟩
  split at h
  · rename_i hc
    obtain ⟨db₁, h₁, h⟩ := bind_ok h
    cases h
    exact .inl ⟨hc.1, hc.2, rfl, db₁, h₁, rfl⟩
  · rename_i hc
    obtain ⟨db₁, h₁, h⟩ := bind_ok h
    obtain ⟨amount, hamount, h⟩ := bind_ok h
    have hsame : amount = refund.amountCents := by
      unfold toStripeAmount at hamount
      obtain ⟨_, _, hamount⟩ := need_bind_ok hamount
      obtain ⟨_, hamount⟩ := require_bind_ok hamount
      obtain ⟨_, hamount⟩ := require_bind_ok hamount
      exact (Except.ok.inj hamount).symm
    cases h
    exact .inr ⟨hc, h₁, _, rfl, rfl, hsame, rfl⟩

theorem recordRefundAttemptFailed_ok {id : Id} {error : String}
    (h : recordRefundAttemptFailed cfg db id error = .ok db') :
    (db' = db ∧ ∀ refund, db.refunds.get? id = some refund → refund.status = .requested →
        refund.attempts < cfg.refundMaxAttempts) ∨
      ∃ refund db₁, db.refunds.get? id = some refund ∧ refund.status = .requested ∧
        cfg.refundMaxAttempts ≤ refund.attempts ∧
        db.write (.refund refund.id { status := some .uncertain, failureReason := some error })
          = .ok db₁ ∧
        db' = reconcile db₁ .refundUncertain (ReconciliationKind.refundUncertain.key refund.id)
          none (some refund.orderId) none := by
  unfold recordRefundAttemptFailed at h
  split at h
  · rename_i hnone
    cases h
    refine .inl ⟨rfl, fun refund hrefund => ?_⟩
    rw [hnone] at hrefund
    cases hrefund
  rename_i refund hrefund
  split at h
  · rename_i hc
    cases h
    refine .inl ⟨rfl, fun refund' hrefund' hs => ?_⟩
    rw [hrefund] at hrefund'
    cases hrefund'
    exact hc.resolve_left (not_not.mpr hs)
  · rename_i hc
    obtain ⟨hs, ha⟩ := not_or.mp hc
    obtain ⟨db₁, h₁, h⟩ := bind_ok h
    exact .inr ⟨refund, db₁, hrefund, not_not.mp hs, not_lt.mp ha, h₁, (Except.ok.inj h).symm⟩

/-! ### Payment calls -/

theorem setPaymentStatus_ok {p : Payment} {status : PaymentStatus}
    (h : setPaymentStatus db p status = .ok db') :
    (p.status = status ∧ db' = db) ∨
      (p.status ≠ status ∧ db.write (.payment p.id { status := some status }) = .ok db') := by
  unfold setPaymentStatus at h
  split at h
  · rename_i hs
    exact .inl ⟨hs, (Except.ok.inj h).symm⟩
  · rename_i hs
    exact .inr ⟨hs, h⟩

/-- The status a reused payment gets from what the provider says about its intent. -/
def reusedStatus (word : String) : PaymentStatus :=
  if word ∈ openIntentStatuses then .pending else .failed

theorem payReuse_ok {call : PayCall} {id : Id} {word : String} {next : Option PayCall}
    (h : payReuse db call id word = .ok (db', next)) :
    ∃ order reusable, db.orders.get? call.orderId = some order ∧ order.status = .pending ∧
      db.payments.get? id = some reusable ∧ word ≠ "succeeded" ∧
      setPaymentStatus db reusable (reusedStatus word) = .ok db' ∧
      next = if word ∈ openIntentStatuses then none else some { call with stage := .creating } := by
  obtain ⟨order, horder, h⟩ := bind_ok h
  obtain ⟨_, hpayable, h⟩ := bind_ok h
  obtain ⟨reusable, hreusable, h⟩ := need_bind_ok h
  obtain ⟨hword, h⟩ := require_bind_ok h
  refine ⟨order, reusable, lockOrder_ok horder, require_eq_ok.mp hpayable, hreusable, hword, ?_⟩
  unfold reusedStatus
  split at h
  · rename_i hopen
    obtain ⟨db₁, h₁, h⟩ := bind_ok h
    cases h
    rw [if_pos hopen, if_pos hopen]
    exact ⟨h₁, rfl⟩
  · rename_i hopen
    obtain ⟨db₁, h₁, h⟩ := bind_ok h
    cases h
    rw [if_neg hopen, if_neg hopen]
    exact ⟨h₁, rfl⟩

/-- The exits of `_create_new_payment`. -/
theorem payRecord_ok {call : PayCall} {ppid : String} {id : Id} {next : Option PayCall}
    (h : payRecord db call ppid id = .ok (db', next)) :
    ∃ order, db.orders.get? call.orderId = some order ∧
      (((order.status ≠ .pending ∨ ∃ p ∈ db.listForOrder call.orderId, p.status = .succeeded) ∧
          db' = db ∧ next = some { call with stage := .orphaned ppid none }) ∨
        (order.status = .pending ∧ (∀ p ∈ db.listForOrder call.orderId, p.status ≠ .succeeded) ∧
          ((∃ existing, db.byProviderPaymentId ppid call.provider = some existing ∧ db' = db ∧
              next = none) ∨
            (db.byProviderPaymentId ppid call.provider = none ∧
              ((∃ winner ∈ db.listForOrder call.orderId, winner.status = .pending ∧ db' = db ∧
                  next = some { call with stage := .orphaned ppid (some winner.id) }) ∨
                (next = none ∧ db.write (.insertPayment {
                  id := id, orderId := call.orderId, provider := call.provider
                  providerConfigId := call.configId, providerReference := none
                  providerPaymentId := ppid, status := .pending, amountCents := call.total
                  currency := call.currency, providerRefundId := none, refundedAmountCents := none
                  amountPositive := call.totalPositive }) = .ok db')))))) := by
  obtain ⟨order, horder, h⟩ := bind_ok h
  refine ⟨order, lockOrder_ok horder, ?_⟩
  dsimp only at h
  split at h
  · rename_i hc
    cases h
    exact .inl ⟨hc.imp_right fun hany => by simpa using hany, rfl, rfl⟩
  rename_i hc
  obtain ⟨hpending, hnone⟩ := not_or.mp hc
  refine .inr ⟨not_not.mp hpending, by simpa using hnone, ?_⟩
  split at h
  · rename_i hex
    cases h
    obtain ⟨existing, hexisting⟩ := Option.ne_none_iff_exists'.mp hex
    exact .inl ⟨existing, hexisting, rfl, rfl⟩
  rename_i hex
  refine .inr ⟨not_not.mp hex, ?_⟩
  split at h
  · rename_i winner hwinner
    cases h
    have hs : winner.status = .pending := by simpa using List.find?_some hwinner
    exact .inl ⟨winner, List.mem_of_find?_eq_some hwinner, hs, rfl, rfl⟩
  · obtain ⟨db₁, h₁, h⟩ := bind_ok h
    cases h
    exact .inr ⟨rfl, h₁⟩

/-! ### Webhooks -/

theorem settleOrder_ok {p : Payment} (h : settleOrder db e p now = .ok db') :
    (db.orders.get? p.orderId = none ∧ db' = flagPayment db .orderMismatch p none) ∨
      ∃ order, db.orders.get? p.orderId = some order ∧
        ((order.status ≠ .pending ∧
            db' = flagPayment db .latePayment p (some e.providerPaymentId)) ∨
          (order.status = .pending ∧ markPaid db order p now = .ok db')) := by
  unfold settleOrder at h
  split at h
  · rename_i hnone
    exact .inl ⟨hnone, (Except.ok.inj h).symm⟩
  rename_i order horder
  refine .inr ⟨order, horder, ?_⟩
  split at h
  · rename_i hne
    exact .inl ⟨hne, (Except.ok.inj h).symm⟩
  · rename_i hp
    exact .inr ⟨not_not.mp hp, h⟩

/-- The exits of the success handler. -/
theorem handlePaymentSucceeded_ok (h : handlePaymentSucceeded cfg seen db e now = .ok db') :
    (seen.byProviderPaymentId e.providerPaymentId e.provider = none ∧
        db' = deferEvent cfg (reconcile db .unmatchedPayment
          (unmatchedPaymentKey e.providerPaymentId) none none (some e.providerPaymentId)) e now) ∨
      ∃ payment, seen.byProviderPaymentId e.providerPaymentId e.provider = some payment ∧
        ((∃ kind, eventMismatch seen e payment = some kind ∧
            db' = flagPayment db kind payment (some e.providerPaymentId)) ∨
          (eventMismatch seen e payment = none ∧ ∃ db₁,
            savePayment db payment (succeededPatch e payment) = .ok db₁ ∧
            settleOrder db₁ e payment now = .ok db')) := by
  unfold handlePaymentSucceeded at h
  split at h
  · rename_i hnone
    exact .inl ⟨hnone, (Except.ok.inj h).symm⟩
  rename_i payment hpayment
  refine .inr ⟨payment, hpayment, ?_⟩
  split at h
  · rename_i kind hkind
    exact .inl ⟨kind, hkind, (Except.ok.inj h).symm⟩
  · rename_i hmatch
    obtain ⟨db₁, h₁, h⟩ := bind_ok h
    exact .inr ⟨hmatch, db₁, h₁, h⟩

theorem handlePaymentFailed_ok (h : handlePaymentFailed seen db e = .ok db') :
    db' = db ∨ ∃ payment, seen.byProviderPaymentId e.providerPaymentId e.provider = some payment ∧
      payment.status ≠ .succeeded ∧ savePayment db payment { status := some .failed } = .ok db' := by
  unfold handlePaymentFailed at h
  split at h
  · exact .inl (Except.ok.inj h).symm
  rename_i payment hpayment
  split at h
  · exact .inl (Except.ok.inj h).symm
  · rename_i hs
    exact .inr ⟨payment, hpayment, hs, h⟩

/-- The report a refund event carries. -/
def WebhookEvent.report (e : WebhookEvent) : RefundReport :=
  ⟨e.refundStatus, e.amount, e.currency, e.providerRefundId⟩

theorem byProviderPaymentId_some {ppid : String} {provider : Provider} {p : Payment}
    (h : db.byProviderPaymentId ppid provider = some p) :
    p ∈ db.payments.rows ∧ p.providerPaymentId = ppid ∧ p.provider = provider :=
  ⟨List.mem_of_find?_eq_some h, by simpa using List.find?_some h⟩

theorem externalTarget_some {ppid prid : String} {p : Payment}
    (h : externalTarget seen e ppid = some (p, prid)) :
    e.refundStatus = some "succeeded" ∧ seen.byProviderPaymentId ppid e.provider = some p ∧
      truthy e.providerRefundId = some prid := by
  unfold externalTarget at h
  split at h
  · rename_i hc
    split at h
    · rename_i p' prid' hp' hprid'
      cases h
      exact ⟨hc.1, hp', hprid'⟩
    · cases h
  · cases h

theorem byProviderReference_some {reference : String} {provider : Provider} {p : Payment}
    (h : db.byProviderReference reference provider = .ok (some p)) :
    p ∈ db.payments.rows ∧ p.provider = provider := by
  unfold Db.byProviderReference at h
  split at h
  · cases h
  · rename_i hrows
    cases h
    have hmem := List.mem_filter.mp (hrows ▸ List.mem_singleton_self p)
    exact ⟨hmem.1, (of_decide_eq_true hmem.2).2⟩
  · cases h

theorem byProviderRefundId_some {prid : String} {r : Refund}
    (h : db.byProviderRefundId prid = .ok (some r)) :
    r ∈ db.refunds.rows ∧ r.providerRefundId = some prid := by
  unfold Db.byProviderRefundId at h
  split at h
  · cases h
  · rename_i hrows
    cases h
    have hmem := List.mem_filter.mp (hrows ▸ List.mem_singleton_self r)
    exact ⟨hmem.1, of_decide_eq_true hmem.2⟩
  · cases h

/-- An event whose refund id is not known is looked up by its payment. -/
theorem refundTarget_of_unknown
    (h : ∀ prid, truthy e.providerRefundId = some prid → seen.byProviderRefundId prid = .ok none) :
    refundTarget seen e = refundTarget seen { e with providerRefundId := none } := by
  unfold refundTarget
  cases htr : truthy e.providerRefundId with
  | none => rfl
  | some prid =>
    simp only [h prid htr]
    rfl

/-- What a refund event is about: the refund with its id, or else whatever is in flight for the
    payment it names. -/
theorem refundTarget_ok {target : RefundTarget} (h : refundTarget seen e = .ok target) :
    (∃ prid r, truthy e.providerRefundId = some prid ∧ seen.byProviderRefundId prid = .ok (some r) ∧
      target = ⟨some r, none, e.providerPaymentId⟩) ∨
    ((∀ prid, truthy e.providerRefundId = some prid → seen.byProviderRefundId prid = .ok none) ∧
      (target = ⟨none, none, e.providerPaymentId⟩ ∨ ∃ p ∈ seen.payments.rows, p.provider = e.provider ∧
        target = ⟨seen.activeForPayment p.id, some p, p.providerPaymentId⟩)) := by
  by_cases hunknown : ∀ prid, truthy e.providerRefundId = some prid →
      seen.byProviderRefundId prid = .ok none
  · refine .inr ⟨hunknown, ?_⟩
    rw [refundTarget_of_unknown hunknown] at h
    simp only [refundTarget, truthy] at h
    obtain ⟨_, hnone, h⟩ := bind_ok h
    cases hnone
    dsimp only at h
    split at h
    · split at h
      · rename_i p hp
        obtain ⟨hmem, hppid, hprovider⟩ := byProviderPaymentId_some hp
        cases h
        exact .inr ⟨p, hmem, hprovider, by rw [hppid]⟩
      · exact .inl (Except.ok.inj h).symm
    · split at h
      · exact .inl (Except.ok.inj h).symm
      · obtain ⟨found, hfound, h⟩ := bind_ok h
        split at h
        · obtain ⟨hmem, hprovider⟩ := byProviderReference_some hfound
          exact .inr ⟨_, hmem, hprovider, (Except.ok.inj h).symm⟩
        · exact .inl (Except.ok.inj h).symm
  · simp only [not_forall] at hunknown
    obtain ⟨prid, htr, hknown⟩ := hunknown
    unfold refundTarget at h
    simp only [htr] at h
    obtain ⟨known, hby, h⟩ := bind_ok h
    cases known with
    | none => exact absurd hby hknown
    | some r => exact .inl ⟨prid, r, htr, hby, (Except.ok.inj h).symm⟩

/-- The three ways of a refund event. -/
theorem handleRefundEvent_ok {id : Id} (h : handleRefundEvent cfg seen db e id now = .ok db') :
    ∃ target, refundTarget seen e = .ok target ∧
      ((∃ refund locked, target.refund = some refund ∧ db.refunds.get? refund.id = some locked ∧
          applyRefundState db locked e.report target.loaded now = .ok db') ∨
        (target.refund = none ∧ ∃ p prid,
          externalTarget seen e target.providerPaymentId = some (p, prid) ∧
          recordExternalRefund db p prid e.amount e.currency id = .ok db') ∨
        (target.refund = none ∧ externalTarget seen e target.providerPaymentId = none ∧
          db' = reconcile (deferIfPaymentUnknown cfg db
              { e with providerPaymentId := target.providerPaymentId } now)
            .refundMismatch (unknownRefundKey e.providerRefundId) none none
            (some target.providerPaymentId))) := by
  obtain ⟨target, htarget, h⟩ := bind_ok h
  refine ⟨target, htarget, ?_⟩
  dsimp only at h
  split at h
  · rename_i refund hrefund
    obtain ⟨locked, hlocked, h⟩ := need_bind_ok h
    exact .inl ⟨refund, locked, hrefund, hlocked, h⟩
  rename_i hnone
  split at h
  · rename_i p prid hext
    exact .inr (.inl ⟨hnone, p, prid, hext, h⟩)
  · rename_i hext
    exact .inr (.inr ⟨hnone, hext, (Except.ok.inj h).symm⟩)

theorem processWebhookEvent_ok {id : Id}
    (h : processWebhookEvent cfg seen db e id now = .ok db') :
    ∃ db₁, handleEvent cfg seen db e id now = .ok db₁ ∧
      finishWebhookEvent db₁ e (claimAttempts db e) = .ok db' := by
  unfold processWebhookEvent at h
  dsimp only at h
  exact bind_ok h

/-- A recovery attempt either postpones the row or applies its event and closes its records. -/
theorem recoverRow_cases (cfg : Settings) (seen db : Db) (row : DeferredWebhookEvent) (id : Id)
    (now : Time) :
    (∃ giveUp, recoverRow cfg seen db row id now
        = { db with deferred := db.deferred.replace (row.retry cfg now giveUp) }) ∨
      (seen.byProviderPaymentId row.providerPaymentId row.provider ≠ none ∧ ∃ db₁,
        applyDeferredEvent cfg seen db row.rebuild id now = .ok db₁ ∧
        recoverRow cfg seen db row id now = resolveRecovered { db₁ with
          deferred := db₁.deferred.replace
            { row with attempts := row.attempts + 1, status := .recovered } } (recoveredKeys row)) := by
  unfold recoverRow
  dsimp only
  split
  · exact .inl ⟨_, rfl⟩
  rename_i hfound
  split
  · rename_i db₁ h₁
    exact .inr ⟨hfound, db₁, h₁, rfl⟩
  · exact .inl ⟨_, rfl⟩

end NovaCart
