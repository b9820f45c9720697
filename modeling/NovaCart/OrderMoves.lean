import NovaCart.RefundSteps

/-! What one step does to the status of the orders.

    Whoever moves an order does it in one statement. `step_order` lists the five ways there are, each
    with what its transaction wrote before and after that statement; every later invariant about the
    lifecycle is a case analysis over it. -/

namespace NovaCart

open Schemes

variable {cfg : Settings} {s s' s₀ : Sys} {l : Label} {tr : List (Taken Sys Label)}
variable {db db' seen : Db} {e : WebhookEvent} {now : Time}

/-! ### Orders a call does not move -/

theorem write_orders {w : Write} (h : db.write w = .ok db') :
    db'.orders = db.orders ∨
      (∃ row, w = .insertOrder row ∧ db.orders.insert? row = some db'.orders) ∨
      ∃ id c old, w = .order id c ∧ db.orders.get? id = some old ∧
        db.ordersLifecycleGuard old (old.patch c) = .ok () ∧
        db'.orders = db.orders.replace (old.patch c) := by
  cases w with
  | insertOrder row =>
    obtain ⟨t, ht, h⟩ := need_bind_ok h
    cases h
    exact .inr (.inl ⟨row, rfl, ht⟩)
  | order id c =>
    obtain ⟨old, hold, hguard, rfl⟩ := updateOrder_ok h
    exact .inr (.inr ⟨id, c, old, rfl, hold, hguard, rfl⟩)
  | reconcile row => exact .inl (by rw [write_mask h, reconcile_mask])
  | _ => exact .inl (by rw [write_mask h]; rfl)

/-- The same order in the same status. -/
def Order.Rests (o o' : Order) : Prop := o.Same o' ∧ o'.status = o.status

theorem Order.Rests.refl (o : Order) : o.Rests o := ⟨.refl o, rfl⟩

theorem Order.Rests.trans {o₁ o₂ o₃ : Order} (h₁ : o₁.Rests o₂) (h₂ : o₂.Rests o₃) : o₁.Rests o₃ :=
  ⟨h₁.1.trans h₂.1, h₂.2.trans h₁.2⟩

theorem write_rests {w : Write} (h : db.write w = .ok db') (hk : w.kind ≠ .orderStatus) :
    Table.Kept Order.Rests db.orders db'.orders := by
  rcases write_orders h with heq | ⟨row, rfl, ht⟩ | ⟨id, c, old, rfl, hold, hguard, heq⟩
  · rw [heq]
    exact .refl Order.Rests.refl _
  · exact Table.kept_insert? Order.Rests.refl ht
  · have hc : c.status = none := by
      by_contra hc
      exact hk (by simp [hc])
    have hget : db.orders.get? (Keyed.key (old.patch c)) = some old :=
      Table.get?_of_mem (Table.mem_of_get? hold)
    rw [heq]
    exact Table.kept_replace Order.Rests.refl hget
      ⟨Order.patch_same hguard, by simp [Order.patch, hc]⟩

/-- A call that sends no status statement leaves every order in its status. -/
theorem Within.rests {K : List WriteKind} (h : Within K db db') (hK : WriteKind.orderStatus ∉ K) :
    Table.Kept Order.Rests db.orders db'.orders := by
  refine Writes.relates (R := fun a b => Table.Kept Order.Rests a.orders b.orders) ?_ ?_
    (fun {a w b} hw hwrite => ?_) h
  · exact fun a => .refl Order.Rests.refl a.orders
  · intro a b c hab hbc
    exact Table.Kept.trans (R := Order.Rests) Order.Rests.trans hab hbc
  · refine write_rests hwrite fun hk => hK ?_
    rw [← hk]
    exact hw.1

/-- The status statement moves one order along the lifecycle and leaves the others as they are. -/
theorem updateOrderStatus_row {o : Order} {new : OrderStatus} {by_ : Option Id}
    {reason : Option String} {c : OrderPatch}
    (h : updateOrderStatus db o new by_ reason now c = .ok db') {id : Id} {x : Order}
    (hx : db.orders.get? id = some x) :
    ∃ x', db'.orders.get? id = some x' ∧ (x' = x ∨ (id = o.id ∧ x' = x.patch { c with status := some new } ∧
      db.ordersLifecycleGuard x x' = .ok ())) := by
  obtain ⟨old, hold, hguard, rfl⟩ := updateOrderStatus_ok h
  have hid : old.id = o.id := Table.key_of_get? hold
  have hxid : x.id = id := Table.key_of_get? hx
  by_cases hsame : id = o.id
  · subst hsame
    obtain rfl : old = x := Option.some.inj (hold.symm.trans hx)
    refine ⟨_, ?_, .inr ⟨rfl, rfl, hguard⟩⟩
    have hget : db.orders.get? (Keyed.key (old.patch { c with status := some new })) = some old :=
      Table.get?_of_mem (Table.mem_of_get? hold)
    have := Table.get?_replace_self hget
    rwa [show Keyed.key (old.patch { c with status := some new }) = o.id from hid] at this
  · refine ⟨x, ?_, .inl rfl⟩
    rw [← hx]
    exact Table.get?_replace_of_ne fun hk => hsame (hk.trans hid)

/-! ### Confirmed refunds that move the order -/

/-- The transaction that confirms the refund `r` and moves its order: what it wrote up to the order is in
    `db₁`, and `p` is the payment as its session knows it. -/
structure RefundsOrder (db : Db) (r : Refund) (t : RefundReport) (loaded : Option Payment) (now : Time)
    (p : Payment) (order : Order) (db₁ db' : Db) : Prop where
  openBefore : r.status.final = false
  reported : t.status = some "succeeded"
  found : db.orders.get? r.orderId = some order
  session : sessionPayment db loaded r.paymentId = .ok p
  before : Within [.reconcile, .refund, .payment] db db₁
  refunds : db₁.refunds
    = db.refunds.replace (r.patch { status := some .succeeded, providerRefundId := t.newRefundId r })
  payments : ∃ old, db.payments.get? p.id = some old ∧ db₁.payments
    = db.payments.replace (old.patch (addRefundedPatch p (t.confirmedId r) (confirmedAmount r t.amount)))
  full : refundsOrder r (p.addRefunded (t.confirmedId r) (confirmedAmount r t.amount)) order
  run : refundOrder db₁ order r now = .ok db'

/-- A report moves the order of its refund only by confirming it. -/
theorem applyRefundState_order {r : Refund} {t : RefundReport} {loaded : Option Payment}
    (hr : db.refunds.get? r.id = some r) (h : applyRefundState db r t loaded now = .ok db') :
    Within [.reconcile, .refund, .payment] db db' ∨
      ∃ p order db₁, RefundsOrder db r t loaded now p order db₁ db' := by
  have hmismatch : Within [.reconcile, .refund, .payment] db (afterMismatch db r t) :=
    (reconcileIf_within (by decide) (by rfl) ..).mono (by simp)
  have hr₁ : (afterMismatch db r t).refunds.get? r.id = some r := by
    rw [afterMismatch_refunds]
    exact hr
  rcases applyRefundState_ok h with ⟨c, hsave, _⟩ | ⟨hopen, hs, db₁, hsave, hconfirm⟩
  · exact .inl (hmismatch.trans ((saveRefund_within hsave).mono (by simp)))
  have hsaved : Within [.reconcile, .refund, .payment] db db₁ :=
    hmismatch.trans ((saveRefund_within hsave).mono (by simp))
  have hpay₁ : db₁.payments = db.payments := by
    rw [(saveRefund_within hsave).payments (by simp) (by simp), afterMismatch_payments]
  have href₁ : db₁.refunds = _ := saveRefund_refunds hr₁ hsave
  rw [afterMismatch_refunds] at href₁
  obtain ⟨order, p, db₂, db₃, horder, hp, hwrite, hdb₃, hrest⟩ := confirmRefund_ok hconfirm
  have hwrote : Within [.payment] db₁ db₂ := Within.one hwrite (by simp)
  have hrec : Within [.reconcile] db₂ db₃ := by
    rw [hdb₃]
    exact overlapRecord_within ..
  have hbefore : Within [.reconcile, .refund, .payment] db db₃ :=
    (hsaved.trans (hwrote.mono (by simp))).trans (hrec.mono (by simp))
  rcases hrest with ⟨hfull, hrun⟩ | ⟨_, rfl⟩
  · refine .inr ⟨p, order, db₃, hopen, hs, ?_, ?_, hbefore, ?_, ?_, hfull, hrun⟩
    · rw [← hsaved.orders (by simp) (by simp) (by simp)]
      exact horder
    · unfold sessionPayment at hp ⊢
      rw [← hpay₁]
      exact hp
    · rw [hrec.refunds (by simp) (by simp), hwrote.refunds (by simp) (by simp), href₁]
    · obtain ⟨old, hold, _, hdb₂⟩ := updatePayment_ok hwrite
      rw [hpay₁] at hold
      refine ⟨old, hold, ?_⟩
      rw [hrec.payments (by simp) (by simp), hdb₂, hpay₁]
      rfl
  · exact .inl hbefore

/-! ### Steps -/

/-- The operation takes the order to `new`, and what it checked first. -/
inductive Names (seen db : Db) : Op → Order → OrderStatus → Prop
  | admin {order : Order} {admin : Id} (hfound : db.orders.get? order.id = some order)
      (hpaid : order.status = .paid) (hfree : db.hasCancellingRefund order.id = false) :
      Names seen db (.adminChangeStatus order.id .fulfilled admin) order .fulfilled
  | shipment {order : Order} {shipmentId admin : Id} (hfound : db.orders.get? order.id = some order)
      (hpaid : order.status = .paid) :
      Names seen db (.createShipment order.id shipmentId admin true) order .fulfilled
  | direct {order : Order} {new : OrderStatus} {by_ : Option Id}
      (hfound : seen.orders.get? order.id = some order) :
      Names seen db (.updateStatus order.id new by_) order new

/-- What a step does to the status of the orders, and why. -/
inductive OrderStep (cfg : Settings) (s : Sys) (l : Label) (db' : Db) : Prop
  | still (horders : db'.orders = s.db.orders) (hstock : db'.stock = s.db.stock ∨
        ∃ pid now op seen, l = .commit pid now ∧ s.proc? pid = some (.tx op seen) ∧
          op.run cfg seen s.db now = .ok db' ∧ ∀ req, op ≠ .checkout req)
  | placed {pid : Id} {now : Time} {req : CheckoutRequest} {seen : Db} (hl : l = .commit pid now)
      (hproc : s.proc? pid = some (.tx (.checkout req) seen)) (hrun : checkout s.db req now = .ok db')
  | named {pid : Id} {now : Time} {op : Op} {seen : Db} {order : Order} {new : OrderStatus}
      {by_ : Option Id} {reason : Option String} {db₁ db₂ : Db} (hl : l = .commit pid now)
      (hproc : s.proc? pid = some (.tx op seen)) (hnames : Names seen s.db op order new)
      (hbefore : Within [.shipment] s.db db₁)
      (hmove : updateOrderStatus db₁ order new by_ reason now = .ok db₂)
      (hafter : Within [.invoice] db₂ db')
  | paid {e : WebhookEvent} {seen : Db} {p : Payment} {order : Order} {now : Time} {db₀ db₁ db₂ db₃ : Db}
      (hh : Handling s l e seen) (htype : e.eventType = .paymentSucceeded)
      (hp : seen.byProviderPaymentId e.providerPaymentId e.provider = some p)
      (hmatch : eventMismatch seen e p = none) (hmark : Within [.config] s.db db₀)
      (hsave : savePayment db₀ p (succeededPatch e p) = .ok db₁)
      (hfound : db₁.orders.get? p.orderId = some order) (hpending : order.status = .pending)
      (hmove : updateOrderStatus db₁ order .paid none
        (some "payment confirmed by the payment provider") now = .ok db₂)
      (hdemo : db₂.write (.order order.id { paidInDemoMode := some (p.provider = .demo) }) = .ok db₃)
      (hafter : Within [.event, .deferred, .resolve] db₃ db')
  | cancelled {pid : Id} {now : Time} {call : CancelCall} {order : Order} {db₁ : Db}
      (hl : l = .cancelFinish pid now) (hproc : s.proc? pid = some (.cancel call))
      (hfound : s.db.orders.get? call.orderId = some order) (hpending : order.status = .pending)
      (hnone : ∀ p ∈ call.payments s.db, p.status ≠ .succeeded)
      (hfail : failPending s.db (call.payments s.db) = .ok db₁)
      (hrun : releaseStockAndCancel db₁ order call.actor call.reason now = .ok db')
  | refunded {r : Refund} {t : RefundReport} {loaded : Option Payment} {p : Payment} {order : Order}
      {now : Time} {db₀ db₁ db₂ : Db} (hcause : Reports s l r.id t)
      (hr : s.db.refunds.get? r.id = some r)
      (hloaded : ∀ q, loaded = some q → ∃ e seen, Handling s l e seen ∧ q ∈ seen.payments.rows)
      (hmark : Within [.config] s.db db₀) (hmove : RefundsOrder db₀ r t loaded now p order db₁ db₂)
      (hafter : Within [.event, .deferred, .resolve] db₂ db')

/-- An event moves an order to paid, or through the refund it reports, or none. -/
inductive EventOrder (seen db : Db) (e : WebhookEvent) (now : Time) (db' : Db) : Prop
  | still (horders : db'.orders = db.orders) (hstock : db'.stock = db.stock)
  | paid {p : Payment} {order : Order} {db₁ db₂ : Db} (htype : e.eventType = .paymentSucceeded)
      (hp : seen.byProviderPaymentId e.providerPaymentId e.provider = some p)
      (hmatch : eventMismatch seen e p = none)
      (hsave : savePayment db p (succeededPatch e p) = .ok db₁)
      (hfound : db₁.orders.get? p.orderId = some order) (hpending : order.status = .pending)
      (hmove : updateOrderStatus db₁ order .paid none
        (some "payment confirmed by the payment provider") now = .ok db₂)
      (hdemo : db₂.write (.order order.id { paidInDemoMode := some (p.provider = .demo) }) = .ok db')
  | refunded {suffix : String} {target : RefundTarget} {refund r : Refund} {p : Payment} {order : Order}
      {db₁ : Db} (htype : e.eventType = .refund suffix) (htarget : refundTarget seen e = .ok target)
      (hrefund : target.refund = some refund) (hr : db.refunds.get? refund.id = some r)
      (hmove : RefundsOrder db r e.report target.loaded now p order db₁ db')

theorem EventOrder.of_within {K : List WriteKind} (h : Within K db db') (hs : WriteKind.stock ∉ K)
    (hi : WriteKind.insertOrder ∉ K) (ho : WriteKind.orderStatus ∉ K) (hr : WriteKind.orderRest ∉ K) :
    EventOrder seen db e now db' := .still (h.orders hi ho hr) (h.stock hs)

theorem handlePaymentSucceeded_order (htype : e.eventType = .paymentSucceeded)
    (h : handlePaymentSucceeded cfg seen db e now = .ok db') : EventOrder seen db e now db' := by
  rcases handlePaymentSucceeded_ok h with ⟨_, rfl⟩ | ⟨p, hp, ⟨kind, hkind, rfl⟩ | ⟨hmatch, db₁, hsave, hset⟩⟩
  · have hall : Within [.reconcile, .defer] db (deferEvent cfg (reconcile db .unmatchedPayment
        (unmatchedPaymentKey e.providerPaymentId) none none (some e.providerPaymentId)) e now) :=
      ((reconcile_within (by decide) (by rfl) ..).mono (by simp)).trans
        ((deferEvent_within cfg _ e now).mono (by simp))
    exact .of_within hall (by simp) (by simp) (by simp) (by simp)
  · exact .of_within (flagPayment_within (eventMismatch_flags hkind _) ..) (by simp) (by simp) (by simp)
      (by simp)
  have hsaved : Within [.payment, .reconcile, .lateRecord] db db₁ :=
    (savePayment_within hsave).mono (by simp)
  rcases settleOrder_ok hset with ⟨_, rfl⟩ | ⟨order, hfound, ⟨_, rfl⟩ | ⟨hpending, hpaid⟩⟩
  · exact .of_within (hsaved.trans ((flagPayment_within (by rfl) ..).mono (by simp))) (by simp) (by simp)
      (by simp) (by simp)
  · exact .of_within (hsaved.trans ((flagPayment_within (by rfl) ..).mono (by simp))) (by simp) (by simp)
      (by simp) (by simp)
  · rcases markPaid_ok hpaid with ⟨hne, _⟩ | ⟨_, db₂, hmove, hdemo⟩
    · exact absurd hpending hne
    · exact .paid htype hp hmatch hsave hfound hpending hmove hdemo

theorem handleRefundEvent_order {id : Id} {suffix : String} (htype : e.eventType = .refund suffix)
    (h : handleRefundEvent cfg seen db e id now = .ok db') : EventOrder seen db e now db' := by
  obtain ⟨target, htarget, ⟨refund, r, hrefund, hr, h⟩ | ⟨_, p, prid, _, h⟩ | ⟨_, _, rfl⟩⟩ :=
    handleRefundEvent_ok h
  · have hid : r.id = refund.id := Table.key_of_get? hr
    rcases applyRefundState_order (by rw [hid]; exact hr) h with hstill | ⟨p, order, db₁, hmove⟩
    · exact .of_within hstill (by simp) (by simp) (by simp) (by simp)
    · exact .refunded htype htarget hrefund hr hmove
  · exact .of_within (recordExternalRefund_within h) (by simp) (by simp) (by simp) (by simp)
  · have hall : Within [.defer, .reconcile] db (reconcile (deferIfPaymentUnknown cfg db
        { e with providerPaymentId := target.providerPaymentId } now) .refundMismatch
        (unknownRefundKey e.providerRefundId) none none (some target.providerPaymentId)) :=
      ((deferIfPaymentUnknown_within ..).mono (by simp)).trans
        ((reconcile_within (by decide) (by rfl) ..).mono (by simp))
    exact .of_within hall (by simp) (by simp) (by simp) (by simp)

theorem handleEvent_order {id : Id} (h : handleEvent cfg seen db e id now = .ok db') :
    EventOrder seen db e now db' := by
  unfold handleEvent at h
  split at h
  · exact handlePaymentSucceeded_order ‹_› h
  · exact .of_within (handlePaymentFailed_within h) (by simp) (by simp) (by simp) (by simp)
  · exact handleRefundEvent_order ‹_› h
  · exact .of_within (handleDisputeEvent_within h) (by decide) (by decide) (by decide) (by decide)
  · cases h
    exact .still rfl rfl

theorem applyDeferredEvent_order {id : Id} (h : applyDeferredEvent cfg seen db e id now = .ok db') :
    EventOrder seen db e now db' := by
  unfold applyDeferredEvent at h
  split at h
  · exact handlePaymentSucceeded_order ‹_› h
  · exact handleRefundEvent_order ‹_› h
  · exact .of_within (applyDisputeEvent_within h) (by decide) (by decide) (by decide) (by decide)
  · cases h
    exact .still rfl rfl
  · cases h
    exact .still rfl rfl

theorem OrderStep.of_within {K : List WriteKind} (h : Within K s.db db') (hs : WriteKind.stock ∉ K)
    (hi : WriteKind.insertOrder ∉ K) (ho : WriteKind.orderStatus ∉ K) (hr : WriteKind.orderRest ∉ K) :
    OrderStep cfg s l db' := .still (h.orders hi ho hr) (.inl (h.stock hs))

theorem EventOrder.step {db₀ db₁ : Db} (hh : Handling s l e seen) (h : EventOrder seen db₀ e now db₁)
    (hmark : Within [.config] s.db db₀) (hafter : Within [.event, .deferred, .resolve] db₁ db') :
    OrderStep cfg s l db' := by
  cases h with
  | still horders hstock =>
    refine .still ?_ (.inl ?_)
    · rw [hafter.orders (by simp) (by simp) (by simp), horders, hmark.orders (by simp) (by simp) (by simp)]
    · rw [hafter.stock (by simp), hstock, hmark.stock (by simp)]
  | paid htype hp hmatch hsave hfound hpending hmove hdemo =>
    exact .paid hh htype hp hmatch hmark hsave hfound hpending hmove hdemo hafter
  | refunded htype htarget hrefund hr hmove =>
    rename_i suffix target refund r p order db₂
    have hid : r.id = refund.id := Table.key_of_get? hr
    rw [hmark.refunds (by simp) (by simp)] at hr
    refine .refunded (.event hh htype htarget hrefund hid.symm rfl) (by rw [hid]; exact hr)
      (fun q hq => ⟨e, seen, hh, ?_⟩) hmark hmove hafter
    obtain ⟨_, _, _, _, rfl⟩ | ⟨_, rfl | ⟨p', hp', _, rfl⟩⟩ := refundTarget_ok htarget
    · cases hq
    · cases hq
    · cases hq
      exact hp'

theorem process_order {pid id : Id} (hproc : s.proc? pid = some (.delivery e seen))
    (h : processWebhookEvent cfg seen (markWebhookVerified s.db e.configId) e id now = .ok db') :
    OrderStep cfg s (.process pid id now) db' := by
  obtain ⟨db₁, h₁, h⟩ := processWebhookEvent_ok h
  exact (handleEvent_order h₁).step (.inl ⟨_, _, _, rfl, hproc⟩) (markWebhookVerified_within ..)
    (Within.one h (by simp))

theorem recoverRow_order {pid id : Id} {row : DeferredWebhookEvent}
    (hproc : s.proc? pid = some (.recovery row seen)) :
    OrderStep cfg s (.recoverCommit pid id now) (recoverRow cfg seen s.db row id now) := by
  have hput : ∀ (a : Db) (r : DeferredWebhookEvent),
      Within [.deferred] a { a with deferred := a.deferred.replace r } := fun a r =>
    Within.one (w := .deferred r) rfl (by simp)
  rcases recoverRow_cases cfg seen s.db row id now with ⟨giveUp, heq⟩ | ⟨_, db₁, h₁, heq⟩
  · rw [heq]
    exact .still rfl (.inl rfl)
  · rw [heq]
    exact (applyDeferredEvent_order h₁).step (.inr ⟨_, _, _, _, rfl, hproc, rfl⟩) (.refl _)
      (((hput _ _).mono (by simp)).trans ((resolveRecovered_within _ _).mono (by simp)))

theorem createShipment_order {pid o id admin : Id} {fulfill : Bool}
    (hproc : s.proc? pid = some (.tx (.createShipment o id admin fulfill) seen))
    (h : createShipment s.db o id admin fulfill now = .ok db') :
    OrderStep cfg s (.commit pid now) db' := by
  obtain ⟨order, db₁, hfound, hship, rfl | ⟨rfl, hpaid, hful⟩⟩ := createShipment_ok h
  · exact .of_within (Within.one (K := [.shipment]) hship (by simp)) (by simp) (by simp) (by simp) (by simp)
  · obtain rfl : order.id = o := Table.key_of_get? hfound
    obtain ⟨db₂, hmove, hinv⟩ := fulfil_ok hful
    exact .named rfl hproc (.shipment hfound hpaid) (Within.one hship (by simp)) hmove
      (issueInvoice_within hinv)

theorem updateStatus_order {pid o : Id} {new : OrderStatus} {by_ : Option Id}
    (hproc : s.proc? pid = some (.tx (.updateStatus o new by_) seen))
    (h : updateStatus seen s.db o new by_ now = .ok db') : OrderStep cfg s (.commit pid now) db' := by
  obtain ⟨order, db₁, hfound, _, hmove, hrest⟩ := updateStatus_ok h
  obtain rfl : order.id = o := Table.key_of_get? hfound
  refine .named rfl hproc (.direct hfound) (.refl _) hmove ?_
  rcases hrest with rfl | ⟨_, hinv⟩
  · exact .refl _
  · exact issueInvoice_within hinv

/-- The operations that are one transaction. -/
theorem run_order {pid : Id} {op : Op} (hproc : s.proc? pid = some (.tx op seen))
    (h : op.run cfg seen s.db now = .ok db') : OrderStep cfg s (.commit pid now) db' := by
  cases op with
  | checkout req => exact .placed rfl hproc h
  | adminChangeStatus o new admin =>
    rcases adminChangeStatus_ok h with rfl | ⟨order, hfound, hpaid, hfree, hful⟩
    · exact .still rfl (.inl rfl)
    · obtain rfl : order.id = o := Table.key_of_get? hfound
      obtain rfl : new = .fulfilled := by
        cases new with
        | fulfilled => rfl
        | pending => cases h
        | paid => cases h
        | cancelled => cases h
        | refunded => cases h
      obtain ⟨db₂, hmove, hinv⟩ := fulfil_ok hful
      exact .named rfl hproc (.admin hfound hpaid hfree) (.refl _) hmove (issueInvoice_within hinv)
  | updateStatus o new by_ => exact updateStatus_order hproc h
  | createShipment o id admin fulfill => exact createShipment_order hproc h
  | _ =>
    exact .still ((run_within h).orders (by simp) (by simp) (by simp))
      (.inr ⟨_, _, _, _, rfl, hproc, h, by simp⟩)

/-- Every step that moves an order moves it in one of the listed ways. -/
theorem step_order (h : step cfg s l = some s') : OrderStep cfg s l s'.db := by
  cases step_transition h with
  | op hproc hrun => exact run_order hproc hrun
  | process hproc hrun => exact process_order hproc hrun
  | recover hproc => exact recoverRow_order hproc
  | cancelFinish hproc _ _ hrun =>
    obtain ⟨order, hfound, rfl | ⟨hpending, hnone, db₁, hfail, hrelease⟩⟩ := cancelFinish_ok hrun
    · exact .still rfl (.inl rfl)
    · exact .cancelled rfl hproc hfound hpending hnone hfail hrelease
  | payDone hproc hrun => exact .of_within (payTx_within hrun) (by simp) (by simp) (by simp) (by simp)
  | payNext hproc hrun => exact .of_within (payTx_within hrun) (by simp) (by simp) (by simp) (by simp)
  | refundBegin hrun hspawn =>
    rw [spawn_db hspawn]
    exact .of_within (beginRefundAttempt_within hrun) (by simp) (by simp) (by simp) (by simp)
  | refundBlocked hrun => exact .of_within (beginRefundAttempt_within hrun) (by simp) (by simp) (by simp) (by simp)
  | refundAnswer hproc hrun =>
    rcases finishRefund_ok hrun with rfl | ⟨r, hr, happly⟩
    · exact .still rfl (.inl rfl)
    · have hid : r.id = _ := Table.key_of_get? hr
      rcases applyRefundState_order (by rw [hid]; exact hr) happly with hstill | ⟨p, order, db₁, hmove⟩
      · exact .of_within hstill (by simp) (by simp) (by simp) (by simp)
      · exact .refunded (.answer rfl hproc hid.symm) (by rw [hid]; exact hr) (fun q hq => by cases hq)
          (.refl _) hmove (.refl _)
  | refundError _ hrun => exact .of_within (recordRefundAttemptFailed_within hrun) (by simp) (by simp) (by simp) (by simp)
  | duplicate _ _ => exact .of_within (markWebhookVerified_within _ _) (by simp) (by simp) (by simp) (by simp)
  | failure _ _ hrun => exact .of_within (recordFailedEvent_within hrun) (by simp) (by simp) (by simp) (by simp)
  | cancelReport _ => exact .of_within (cancelReport_within _ _) (by simp) (by simp) (by simp) (by simp)
  | started _ hspawn =>
    rw [spawn_db hspawn]
    exact .still rfl (.inl rfl)
  | continued _ _ => exact .still rfl (.inl rfl)
  | ended _ => exact .still rfl (.inl rfl)

end NovaCart
