import NovaCart.OrderMoves
import NovaCart.Conservation

/-! The lifecycle of an order over whole runs.

    An order moves along the listed transitions, and each status is entered for the reason it stands for:
    paid on the strength of a succeeded payment of its exact total, refunded on that of a requested refund
    the provider confirmed. `step_moves` says it of one step, `lifecycle_of_run` of a whole run. -/

namespace NovaCart

open Schemes

variable {cfg : Settings} {s s' s₀ : Sys} {l : Label} {tr : List (Taken Sys Label)}
variable {db db' : Db} {now : Time}

/-! ### One order row -/

/-- An order before and after a step; `db'` is the database after it. -/
structure Order.Moves (db' : Db) (o o' : Order) : Prop where
  same : o.Same o'
  status : o'.status = o.status ∨ o.status.allowed o'.status = true
  paid : o'.status = .paid → o.status ≠ .paid → ∃ p ∈ db'.payments.rows, p.orderId = o.id ∧
    p.status = .succeeded ∧ p.amountCents = o.totalCents ∧ o.currency = some p.currency
  refunded : o'.status = .refunded → o.status ≠ .refunded → ∃ r ∈ db'.refunds.rows,
    ∃ p, db'.payments.get? r.paymentId = some p ∧ p.orderId = o.id ∧ r.origin = .requested ∧
      r.status = .succeeded ∧ p.amountCents ≤ p.refundedAmountCents.getD 0

theorem Order.Moves.rests {o o' : Order} (h : o.Rests o') : o.Moves db' o' where
  same := h.1
  status := .inl h.2
  paid hp hne := absurd (h.2.symm.trans hp) hne
  refunded hr hne := absurd (h.2.symm.trans hr) hne

/-- What the lifecycle guard saw of the order that a transaction moves. -/
structure Moved (db₁ : Db) (new : OrderStatus) (o o' : Order) : Prop where
  status : o'.status = new
  allowed : o.status.allowed new = true
  paid : new = .paid → ∃ p ∈ db₁.payments.rows, p.orderId = o.id ∧ p.status = .succeeded

/-- A transaction with one status statement keeps every order, and moves at most its own. -/
theorem moved_row {order : Order} {new : OrderStatus} {by_ : Option Id} {reason : Option String}
    {c : OrderPatch} {db₁ db₂ : Db} (hbefore : Table.Kept Order.Rests db.orders db₁.orders)
    (hmove : updateOrderStatus db₁ order new by_ reason now c = .ok db₂)
    (hafter : Table.Kept Order.Rests db₂.orders db'.orders) {o : Order}
    (ho : db.orders.get? o.id = some o) :
    ∃ o', db'.orders.get? o.id = some o' ∧ o.Same o' ∧
      (o'.status = o.status ∨ (o.id = order.id ∧ Moved db₁ new o o')) := by
  obtain ⟨o₁, ho₁, hrest₁⟩ := hbefore o.id o ho
  obtain ⟨o₂, ho₂, hrow⟩ := updateOrderStatus_row hmove ho₁
  obtain ⟨o', ho', hrest'⟩ := hafter o.id o₂ ho₂
  refine ⟨o', ho', ?_, ?_⟩
  · rcases hrow with rfl | ⟨_, rfl, hguard⟩
    · exact hrest₁.1.trans hrest'.1
    · exact (hrest₁.1.trans (Order.patch_same hguard)).trans hrest'.1
  · rcases hrow with rfl | ⟨hid, rfl, hguard⟩
    · exact .inl (hrest'.2.trans hrest₁.2)
    have hstatus : o'.status = new := hrest'.2
    by_cases hsame : new = o₁.status
    · exact .inl (hstatus.trans (hsame.trans hrest₁.2))
    · obtain ⟨hallowed, hpaid, _, _⟩ := (ordersLifecycleGuard_ok hguard).2 hsame
      refine .inr ⟨hid, hstatus, ?_, ?_⟩
      · rw [← hrest₁.2]
        exact hallowed
      · intro hn
        obtain ⟨p, hp, hof, hs⟩ := hpaid hn
        refine ⟨p, hp, ?_, hs⟩
        rw [← hrest₁.1.id]
        exact hof

/-- A succeeded payment of the order is one of its exact total. -/
theorem Moved.paid_exact {db₁ : Db} {new : OrderStatus} {o o' : Order} (h : Moved db₁ new o o')
    (hpay : db'.payments = db₁.payments) (hbound : ∀ p ∈ db'.payments.rows, p.Bound db')
    (ho' : db'.orders.get? o.id = some o') (hsame : o.Same o') (hnew : new = .paid) :
    ∃ p ∈ db'.payments.rows, p.orderId = o.id ∧ p.status = .succeeded ∧ p.amountCents = o.totalCents ∧
      o.currency = some p.currency := by
  obtain ⟨p, hp, hof, hs⟩ := h.paid hnew
  rw [← hpay] at hp
  obtain ⟨row, hrow, htotal, hcurrency⟩ := (hbound p hp).order
  rw [hof, ho'] at hrow
  cases hrow
  refine ⟨p, hp, hof, hs, ?_, ?_⟩
  · rw [← htotal, hsame.totalCents]
  · rw [← hsame.currency, hcurrency]

/-! ### Confirmed refunds -/

theorem confirmedAmount_ne_zero (r : Refund) (amount : Option ℤ) : confirmedAmount r amount ≠ 0 := by
  unfold confirmedAmount
  split
  · have := r.amountPositive
    omega
  · assumption

/-- The total that a confirmation writes is the one its session computed. -/
theorem addRefundedPatch_total (p : Payment) (prid : Option String) {added : ℤ} (hadded : added ≠ 0) :
    (addRefundedPatch p prid added).refundedAmountCents
      = (p.addRefunded prid added).refundedAmountCents := by
  have hne : (p.addRefunded prid added).refundedAmountCents ≠ p.refundedAmountCents := by
    intro h
    cases hp : p.refundedAmountCents with
    | none => simp [Payment.addRefunded, hp] at h
    | some x =>
      simp only [Payment.addRefunded, hp, Option.getD_some, Option.some.injEq] at h
      omega
  unfold addRefundedPatch changed
  simp only [if_neg hne, Option.join_some]

/-- The refund and the payment on whose strength a confirmation moves the order. -/
theorem RefundsOrder.evidence {r : Refund} {t : RefundReport} {loaded : Option Payment} {p : Payment}
    {order : Order} {db₁ : Db} (h : RefundsOrder db r t loaded now p order db₁ db')
    (hr : db.refunds.get? r.id = some r)
    (hloaded : ∀ q, loaded = some q → ∃ old, db.payments.get? q.id = some old ∧ q.Same old) :
    ∃ r' ∈ db₁.refunds.rows, ∃ q, db₁.payments.get? r'.paymentId = some q ∧ r'.paymentId = r.paymentId ∧
      r'.origin = .requested ∧ r'.status = .succeeded ∧
      q.amountCents ≤ q.refundedAmountCents.getD 0 := by
  obtain ⟨old, hold, hpay⟩ := h.payments
  have hp : p.id = r.paymentId ∧ p.Same old := by
    rcases sessionPayment_ok h.session with ⟨hl, hid⟩ | hrow
    · obtain ⟨old', hold', hsame⟩ := hloaded p hl
      rw [hold] at hold'
      cases hold'
      exact ⟨hid, hsame⟩
    · have hid : p.id = r.paymentId := Table.key_of_get? hrow
      rw [hid, hrow] at hold
      cases hold
      exact ⟨hid, .refl p⟩
  have hkey : db.payments.get? (Keyed.key
      (old.patch (addRefundedPatch p (t.confirmedId r) (confirmedAmount r t.amount)))) = some old :=
    Table.get?_of_mem (Table.mem_of_get? hold)
  have hrkey : db.refunds.get? (Keyed.key
      (r.patch { status := some .succeeded, providerRefundId := t.newRefundId r })) = some r := hr
  have hnew := Table.get?_replace_self hkey
  rw [← hpay, show Keyed.key
    (old.patch (addRefundedPatch p (t.confirmedId r) (confirmedAmount r t.amount))) = r.paymentId from
    (show old.id = p.id from Table.key_of_get? hold).trans hp.1] at hnew
  refine ⟨r.patch { status := some .succeeded, providerRefundId := t.newRefundId r }, ?_, _, hnew, rfl,
    h.full.1, rfl, ?_⟩
  · rw [h.refunds]
    exact Table.mem_of_get? (Table.get?_replace_self hrkey)
  · have htotal := addRefundedPatch_total p (t.confirmedId r) (confirmedAmount_ne_zero r t.amount)
    have hfull := h.full.2.1
    simp only [Payment.patch, htotal]
    rw [hp.2.amountCents]
    simpa [Payment.addRefunded] using hfull

/-! ### Steps -/

/-- The statements of a refunded order around its status statement. -/
theorem refundOrder_move {o : Order} {r : Refund} (h : refundOrder db o r now = .ok db') :
    ∃ db₁, updateOrderStatus db o .refunded none
        (some "refund confirmed by the payment provider") now = .ok db₁ ∧
      Within [.invoice, .stock, .orderRest] db₁ db' := by
  obtain ⟨db₁, db₂, hmove, hcredit, hrest⟩ := refundOrder_ok h
  have hcredited : Within [.invoice, .stock, .orderRest] db₁ db₂ :=
    (issueCreditNote_within hcredit).mono (by simp)
  refine ⟨db₁, hmove, ?_⟩
  rcases hrest with ⟨_, db₃, hrestock, hwrite⟩ | ⟨_, rfl⟩
  · exact (hcredited.trans ((restockOnce_within hrestock).mono (by simp))).trans
      (Within.one hwrite (by simp))
  · exact hcredited

/-- The statements of a cancellation around its status statement. -/
theorem releaseStockAndCancel_move {o : Order} {by_ : Option Id} {reason : String}
    (h : releaseStockAndCancel db o by_ reason now = .ok db') :
    ∃ db₁ c, Within [.stock] db db₁ ∧
      updateOrderStatus db₁ o .cancelled by_ (some reason) now c = .ok db' := by
  rcases releaseStockAndCancel_ok h with ⟨_, db₁, hrestock, hmove⟩ | ⟨_, hmove⟩
  · exact ⟨db₁, _, restockOnce_within hrestock, hmove⟩
  · exact ⟨db, _, .refl db, hmove⟩

/-- The operation sets the status `refunded` by name. No route of the store asks for it. -/
def Op.namesRefunded : Op → Bool
  | .updateStatus _ .refunded _ => true
  | _ => false

theorem Names.refunded {seen : Db} {op : Op} {order : Order} {new : OrderStatus}
    (h : Names seen db op order new) (hop : op.namesRefunded = false) : new ≠ .refunded := by
  cases h with
  | admin _ _ _ => decide
  | shipment _ _ => decide
  | direct _ =>
    rintro rfl
    cases hop

/-- What a payment or order was read as is still so. -/
structure Coherent (s : Sys) : Prop where
  payments : ∀ p ∈ s.db.payments.rows, p.Bound s.db
  refunds : ∀ r ∈ s.db.refunds.rows, r.Bound s.db
  seen : ∀ {pid p seen}, s.proc? pid = some p → p.seen? = some seen → Evolves seen s.db

theorem coherent_of_run (h₀ : Initial s₀) (h : Run cfg s₀ tr s) : Coherent s where
  payments := payment_bound_of_run h₀ h
  refunds := refund_bound_of_run h₀ h
  seen hproc hseen := seen_evolves h₀ h hproc hseen

theorem Handling.evolves {e : WebhookEvent} {seen : Db} (hh : Handling s l e seen) (hc : Coherent s) :
    Evolves seen s.db := by
  rcases hh with ⟨pid, _, _, _, hproc⟩ | ⟨pid, _, _, row, _, hproc, _⟩
  · exact hc.seen hproc rfl
  · exact hc.seen hproc rfl

/-- The confirmation that moves an order, seen from the step it is part of. -/
theorem refunded_evidence {r : Refund} {t : RefundReport} {loaded : Option Payment} {p : Payment}
    {order : Order} {db₀ db₁ db₂ : Db} (hc : Coherent s) (hr : s.db.refunds.get? r.id = some r)
    (hloaded : ∀ q, loaded = some q → ∃ e seen, Handling s l e seen ∧ q ∈ seen.payments.rows)
    (hmark : Within [.config] s.db db₀) (hmove : RefundsOrder db₀ r t loaded now p order db₁ db₂)
    (hev : Evolves s.db db₁) :
    ∃ r' ∈ db₁.refunds.rows, ∃ q, db₁.payments.get? r'.paymentId = some q ∧ q.orderId = order.id ∧
      r'.origin = .requested ∧ r'.status = .succeeded ∧
      q.amountCents ≤ q.refundedAmountCents.getD 0 := by
  have hpay := hmark.payments (by simp) (by simp)
  have href := hmark.refunds (by simp) (by simp)
  obtain ⟨r', hr', q, hq, hof, horigin, hs, hfull⟩ := hmove.evidence (by rw [href]; exact hr) (by
    intro q hq
    obtain ⟨e, seen, hh, hmem⟩ := hloaded q hq
    obtain ⟨old, hold, hsame⟩ := (hh.evolves hc).payment_of_mem hmem
    exact ⟨old, by rw [hpay]; exact hold, hsame⟩)
  refine ⟨r', hr', q, hq, ?_, horigin, hs, hfull⟩
  obtain ⟨q₀, hq₀, horder⟩ := hc.refunds r (Table.mem_of_get? hr)
  obtain ⟨q', hq', hsame⟩ := hev.payments _ q₀ hq₀
  rw [hof, hq'] at hq
  cases hq
  have hid : order.id = r.orderId := Table.key_of_get? hmove.found
  rw [hsame.orderId, horder, hid]

/-- One step takes every order along the lifecycle, and for the right reason. -/
theorem step_moves (h : step cfg s l = some s') (hc : Coherent s)
    (hpay : ∀ p ∈ s'.db.payments.rows, p.Bound s'.db)
    (hroute : ∀ pid now op seen, l = .commit pid now → s.proc? pid = some (.tx op seen) →
      op.namesRefunded = false) {o : Order} (ho : o ∈ s.db.orders.rows) :
    ∃ o', s'.db.orders.get? o.id = some o' ∧ o.Moves s'.db o' := by
  have hget : s.db.orders.get? o.id = some o := Table.get?_of_mem ho
  have hrests : Table.Kept Order.Rests s.db.orders s'.db.orders →
      ∃ o', s'.db.orders.get? o.id = some o' ∧ o.Moves s'.db o' := by
    intro hkept
    obtain ⟨o', ho', hrest⟩ := hkept o.id o hget
    exact ⟨o', ho', .rests hrest⟩
  -- the order moved by a status statement between two calls that move none
  have hmoved : ∀ {order : Order} {new : OrderStatus} {by_ : Option Id} {reason : Option String}
      {c : OrderPatch} {now : Time} {db₁ db₂ : Db}, Table.Kept Order.Rests s.db.orders db₁.orders →
      updateOrderStatus db₁ order new by_ reason now c = .ok db₂ →
      Table.Kept Order.Rests db₂.orders s'.db.orders →
      (new = .paid → s'.db.payments = db₁.payments) →
      (new = .refunded → ∃ r ∈ s'.db.refunds.rows, ∃ p, s'.db.payments.get? r.paymentId = some p ∧
        p.orderId = order.id ∧ r.origin = .requested ∧ r.status = .succeeded ∧
        p.amountCents ≤ p.refundedAmountCents.getD 0) →
      ∃ o', s'.db.orders.get? o.id = some o' ∧ o.Moves s'.db o' := by
    intro order new by_ reason c now db₁ db₂ hbefore hmove hafter hpaid hrefunded
    obtain ⟨o', ho', hsame, hstatus | ⟨hid, hm⟩⟩ := moved_row hbefore hmove hafter hget
    · exact ⟨o', ho', .rests ⟨hsame, hstatus⟩⟩
    refine ⟨o', ho', hsame, .inr (by rw [hm.status]; exact hm.allowed), fun hp _ => ?_, fun hr _ => ?_⟩
    · have hnew : new = .paid := hm.status.symm.trans hp
      exact hm.paid_exact (hpaid hnew) hpay ho' hsame hnew
    · have hnew : new = .refunded := hm.status.symm.trans hr
      rw [hid]
      exact hrefunded hnew
  have hframe : ∀ {a b : Db}, b.orders = a.orders → Table.Kept Order.Rests a.orders b.orders := by
    intro a b heq
    rw [heq]
    exact .refl Order.Rests.refl _
  cases step_order h with
  | still horders _ => exact hrests (hframe horders)
  | placed _ _ hrun => exact hrests ((checkout_within hrun).rests (by simp))
  | named hl hproc hnames hbefore hmove hafter =>
    refine hmoved (hbefore.rests (by simp)) hmove (hafter.rests (by simp)) (fun _ => ?_) (fun hn => ?_)
    · rw [hafter.payments (by simp) (by simp), (updateOrderStatus_within hmove).payments (by simp) (by simp)]
    · exact absurd hn (hnames.refunded (hroute _ _ _ _ hl hproc))
  | paid hh htype hp hmatch hmark hsave hfound hpending hmove hdemo hafter =>
    have hbefore : Within [.config, .payment] _ _ :=
      (hmark.mono (by simp)).trans ((savePayment_within hsave).mono (by simp))
    have hend : Within [.orderRest, .event, .deferred, .resolve] _ _ :=
      (Within.one hdemo (by simp)).trans (hafter.mono (by simp))
    refine hmoved (hbefore.rests (by simp)) hmove (hend.rests (by simp)) (fun _ => ?_) (fun hn => by cases hn)
    rw [hend.payments (by simp) (by simp), (updateOrderStatus_within hmove).payments (by simp) (by simp)]
  | cancelled hl hproc hfound hpending hnone hfail hrun =>
    obtain ⟨db₂, c, hstock, hmove⟩ := releaseStockAndCancel_move hrun
    have hbefore : Within [.payment, .stock] _ _ :=
      ((failPending_within hfail).mono (by simp)).trans (hstock.mono (by simp))
    exact hmoved (hbefore.rests (by simp)) hmove (hframe rfl) (fun hn => by cases hn) (fun hn => by cases hn)
  | refunded hcause hr hloaded hmark hmove hafter =>
    obtain ⟨db₃, hstatus, hrest⟩ := refundOrder_move hmove.run
    have hbefore : Within [.config, .reconcile, .refund, .payment] _ _ :=
      (hmark.mono (by simp)).trans (hmove.before.mono (by simp))
    have hend : Within [.invoice, .stock, .orderRest, .event, .deferred, .resolve] _ _ :=
      (hrest.mono (by simp)).trans (hafter.mono (by simp))
    refine hmoved (hbefore.rests (by simp)) hstatus (hend.rests (by simp)) (fun hn => by cases hn)
      (fun _ => ?_)
    rw [hend.refunds (by simp) (by simp), hend.payments (by simp) (by simp),
      (updateOrderStatus_within hstatus).refunds (by simp) (by simp),
      (updateOrderStatus_within hstatus).payments (by simp) (by simp)]
    obtain ⟨r', hr', q, hq, hof, hrest'⟩ := refunded_evidence hc hr hloaded hmark hmove hbefore.evolves
    exact ⟨r', hr', q, hq, hof, hrest'⟩

/-! ### New orders -/

/-- An order as a checkout places it. -/
structure Order.Placed (o : Order) : Prop where
  status : o.status = .pending
  stockReleasedAt : o.stockReleasedAt = none

/-- A checkout inserts its own order and no other. -/
theorem checkout_order {req : CheckoutRequest} (h : checkout db req now = .ok db') :
    ∃ row, db.orders.insert? row = some db'.orders ∧ row.id = req.orderId ∧ row.Placed := by
  obtain ⟨_, h⟩ := require_bind_ok h
  obtain ⟨_, _, h⟩ := bind_ok h
  obtain ⟨_, h⟩ := require_bind_ok h
  obtain ⟨⟨total, gst⟩, _, h⟩ := bind_ok h
  obtain ⟨db₁, h₁, h⟩ := bind_ok h
  obtain ⟨db₂, h₂, h⟩ := bind_ok h
  obtain ⟨db₃, h₃, h⟩ := bind_ok h
  obtain ⟨_, _, h⟩ := bind_ok h
  obtain ⟨db₄, h₄, h⟩ := bind_ok h
  obtain ⟨_, _, rfl⟩ := stockWrites_ok h₁
  obtain ⟨_, _, rfl⟩ := stockWrites_ok h₂
  obtain ⟨t, ht, h₃⟩ := need_bind_ok h₃
  cases h₃
  obtain ⟨_, _, rfl⟩ := stockWrites_ok h₄
  cases h
  exact ⟨_, ht, rfl, rfl, rfl⟩

/-- A call that inserts no order brings none in. -/
theorem Within.orders_stem {K : List WriteKind} (h : Within K db db') (hK : WriteKind.insertOrder ∉ K) :
    Table.Stems Order.Same db.orders db'.orders := by
  refine Writes.relates (R := fun a b => Table.Stems Order.Same a.orders b.orders) ?_ ?_
    (fun {a w b} hw hwrite => ?_) h
  · exact fun a => .refl Order.Same.refl a.orders
  · intro a b c hab hbc
    exact Table.Stems.trans (R := Order.Same) Order.Same.trans hab hbc
  · rcases write_orders hwrite with heq | ⟨row, rfl, _⟩ | ⟨id, c, old, rfl, hold, hguard, heq⟩
    · rw [heq]
      exact .refl Order.Same.refl _
    · exact absurd hw.1 hK
    · rw [heq]
      have hget : a.orders.get? (Keyed.key (old.patch c)) = some old :=
        Table.get?_of_mem (Table.mem_of_get? hold)
      exact Table.stems_replace Order.Same.refl hget (Order.patch_same hguard)

/-- An order after a step was there before, or a checkout placed it in this step. -/
theorem step_orders_stem (h : step cfg s l = some s') {o : Order} (ho : o ∈ s'.db.orders.rows) :
    (∃ o₀ ∈ s.db.orders.rows, o₀.Same o) ∨ (s.db.orders.get? o.id = none ∧ o.Placed) := by
  have hstem : ∀ {K : List WriteKind}, Within K s.db s'.db → WriteKind.insertOrder ∉ K →
      (∃ o₀ ∈ s.db.orders.rows, o₀.Same o) ∨ (s.db.orders.get? o.id = none ∧ o.Placed) :=
    fun hw hK => .inl (hw.orders_stem hK o ho)
  cases step_order h with
  | still horders _ =>
    rw [horders] at ho
    exact .inl ⟨o, ho, .refl o⟩
  | placed _ _ hrun =>
    obtain ⟨row, hrow, _, hplaced⟩ := checkout_order hrun
    rcases (Table.mem_insert? hrow).mp ho with rfl | hold
    · exact .inr ⟨(Table.insert?_eq_some.mp hrow).1, hplaced⟩
    · exact .inl ⟨o, hold, .refl o⟩
  | named hl hproc hnames hbefore hmove hafter =>
    exact hstem (K := [.shipment, .orderStatus, .orderRest, .history, .invoice])
      (((hbefore.mono (by simp)).trans ((updateOrderStatus_within hmove).mono (by simp))).trans
        (hafter.mono (by simp))) (by simp)
  | paid hh htype hp hmatch hmark hsave hfound hpending hmove hdemo hafter =>
    exact hstem (K := [.config, .payment, .orderStatus, .history, .orderRest, .event, .deferred, .resolve])
      (((((hmark.mono (by simp)).trans ((savePayment_within hsave).mono (by simp))).trans
        ((updateOrderStatus_within hmove).mono (by simp))).trans (Within.one hdemo (by simp))).trans
          (hafter.mono (by simp))) (by simp)
  | cancelled hl hproc hfound hpending hnone hfail hrun =>
    obtain ⟨db₂, c, hstock, hmove⟩ := releaseStockAndCancel_move hrun
    exact hstem (K := [.payment, .stock, .orderStatus, .orderRest, .history])
      ((((failPending_within hfail).mono (by simp)).trans (hstock.mono (by simp))).trans
        ((updateOrderStatus_within hmove).mono (by simp))) (by simp)
  | refunded hcause hr hloaded hmark hmove hafter =>
    obtain ⟨db₃, hstatus, hrest⟩ := refundOrder_move hmove.run
    exact hstem (K := [.config, .reconcile, .refund, .payment, .orderStatus, .orderRest, .history, .invoice,
      .stock, .event, .deferred, .resolve])
      (((((hmark.mono (by simp)).trans (hmove.before.mono (by simp))).trans
        ((updateOrderStatus_within hstatus).mono (by simp))).trans (hrest.mono (by simp))).trans
          (hafter.mono (by simp))) (by simp)

/-! ### Runs -/

/-- The permitted transitions lead from one status to the other. -/
def OrderStatus.Leads : OrderStatus → OrderStatus → Prop :=
  Relation.ReflTransGen fun a b => a.allowed b = true

/-- A payment of the order, succeeded and of its exact total. -/
def Db.paidInFull (db : Db) (o : Order) : Prop :=
  ∃ p ∈ db.payments.rows, p.orderId = o.id ∧ p.status = .succeeded ∧ p.amountCents = o.totalCents ∧
    o.currency = some p.currency

/-- A refund of the order that the store asked for and the provider confirmed. -/
def Db.refundedOnRequest (db : Db) (o : Order) : Prop :=
  ∃ r ∈ db.refunds.rows, ∃ p, db.payments.get? r.paymentId = some p ∧ p.orderId = o.id ∧
    r.origin = .requested ∧ r.status = .succeeded

/-- What a run does to the orders: each step moves one along the permitted transitions, and a status
    that stands for money was entered on the strength of that money. -/
structure Lifecycle (tr : List (Taken Sys Label)) (s : Sys) : Prop where
  moved : ∀ t ∈ tr, ∀ o ∈ t.pre.db.orders.rows,
    ∃ o', t.post.db.orders.get? o.id = some o' ∧ o.Moves t.post.db o'
  leads : ∀ t ∈ tr, ∀ o ∈ t.pre.db.orders.rows,
    ∃ o', s.db.orders.get? o.id = some o' ∧ o.Same o' ∧ o.status.Leads o'.status
  placed : ∀ o ∈ s.db.orders.rows, OrderStatus.pending.Leads o.status
  paid : ∀ o ∈ s.db.orders.rows, o.status ≠ .pending → o.status ≠ .cancelled →
    ∃ t ∈ tr, t.post.db.paidInFull o
  refunded : ∀ o ∈ s.db.orders.rows, o.status = .refunded → s.db.refundedOnRequest o

theorem Order.Moves.leads {o o' : Order} (h : o.Moves db' o') : o.status.Leads o'.status := by
  rcases h.status with heq | hallowed
  · rw [heq]
    exact .refl
  · exact .single hallowed

theorem Db.paidInFull.of_same {o o' : Order} (h : db.paidInFull o) (hsame : o.Same o') : db.paidInFull o' := by
  obtain ⟨p, hp, hof, hs, htotal, hcurrency⟩ := h
  exact ⟨p, hp, hof.trans hsame.id.symm, hs, htotal.trans hsame.totalCents.symm,
    hsame.currency.trans hcurrency⟩

/-- A confirmed refund stays confirmed. -/
theorem Db.refundedOnRequest.evolves {o o' : Order} (h : db.refundedOnRequest o) (hev : Evolves db db')
    (hsame : o.Same o') : db'.refundedOnRequest o' := by
  obtain ⟨r, hr, p, hp, hof, horigin, hs⟩ := h
  obtain ⟨r', hr', hrsame⟩ := hev.refunds r.id r (Table.get?_of_mem hr)
  obtain ⟨p', hp', hpsame⟩ := hev.payments _ p hp
  refine ⟨r', Table.mem_of_get? hr', p', ?_, ?_, ?_, ?_⟩
  · rw [hrsame.paymentId]
    exact hp'
  · rw [hpsame.orderId, hof, hsame.id]
  · rw [hrsame.origin, horigin]
  · rw [hrsame.final (by rw [hs]; rfl), hs]

/-- Neither a paid order nor one that was ever paid can become cancelled, and an order that is neither
    pending nor cancelled was paid before or is paid now. -/
theorem Order.Moves.was_paid {o o' : Order} (h : o.Moves db' o') (hpending : o'.status ≠ .pending)
    (hcancelled : o'.status ≠ .cancelled) :
    (o.status ≠ .pending ∧ o.status ≠ .cancelled) ∨ (o'.status = .paid ∧ o.status ≠ .paid) := by
  rcases h.status with heq | hallowed
  · rw [heq] at hpending hcancelled
    exact .inl ⟨hpending, hcancelled⟩
  · revert hpending hcancelled hallowed
    cases o.status <;> cases o'.status <;> simp [OrderStatus.allowed]

theorem Lifecycle.nil (h₀ : Initial s₀) : Lifecycle [] s₀ where
  moved t ht := by cases ht
  leads t ht := by cases ht
  placed o ho := by
    rw [h₀.orders] at ho
    cases ho
  paid o ho := by
    rw [h₀.orders] at ho
    cases ho
  refunded o ho := by
    rw [h₀.orders] at ho
    cases ho

/-- One step keeps the lifecycle, when it moves every order as it should. -/
theorem Lifecycle.step (h : Lifecycle tr s) (hs : step cfg s l = some s')
    (hmoves : ∀ o ∈ s.db.orders.rows, ∃ o', s'.db.orders.get? o.id = some o' ∧ o.Moves s'.db o') :
    Lifecycle (⟨s, l, s'⟩ :: tr) s' := by
  -- an order of the new state is one of the old state that moved, or was just placed
  have horigin : ∀ o' ∈ s'.db.orders.rows,
      (∃ o ∈ s.db.orders.rows, o.Moves s'.db o') ∨ o'.Placed := by
    intro o' ho'
    rcases step_orders_stem hs ho' with ⟨o, ho, hsame⟩ | ⟨_, hplaced⟩
    · obtain ⟨o'', ho'', hmove⟩ := hmoves o ho
      have hget : s'.db.orders.get? o.id = some o' := by
        rw [← hsame.id]
        exact Table.get?_of_mem ho'
      rw [hget] at ho''
      cases ho''
      exact .inl ⟨o, ho, hmove⟩
    · exact .inr hplaced
  refine ⟨fun t ht o ho => ?_, fun t ht o ho => ?_, fun o' ho' => ?_, fun o' ho' hpending hcancelled => ?_,
    fun o' ho' hrefunded => ?_⟩
  · rcases List.mem_cons.mp ht with rfl | ht
    · exact hmoves o ho
    · exact h.moved t ht o ho
  · rcases List.mem_cons.mp ht with rfl | ht
    · obtain ⟨o', ho', hmove⟩ := hmoves o ho
      exact ⟨o', ho', hmove.same, hmove.leads⟩
    · obtain ⟨o₁, ho₁, hsame, hleads⟩ := h.leads t ht o ho
      obtain ⟨o', ho', hmove⟩ := hmoves o₁ (Table.mem_of_get? ho₁)
      rw [hsame.id] at ho'
      exact ⟨o', ho', hsame.trans hmove.same, hleads.trans hmove.leads⟩
  · rcases horigin o' ho' with ⟨o, ho, hmove⟩ | hplaced
    · exact (h.placed o ho).trans hmove.leads
    · rw [hplaced.status]
      exact .refl
  · rcases horigin o' ho' with ⟨o, ho, hmove⟩ | hplaced
    · rcases hmove.was_paid hpending hcancelled with ⟨hp, hc⟩ | ⟨hpaid, hne⟩
      · obtain ⟨t, ht, hfull⟩ := h.paid o ho hp hc
        exact ⟨t, List.mem_cons_of_mem _ ht, hfull.of_same hmove.same⟩
      · obtain ⟨p, hp, hof, hsucc, htotal, hcurrency⟩ := hmove.paid hpaid hne
        exact ⟨_, List.mem_cons_self, Db.paidInFull.of_same ⟨p, hp, hof, hsucc, htotal, hcurrency⟩ hmove.same⟩
    · exact absurd hplaced.status hpending
  · rcases horigin o' ho' with ⟨o, ho, hmove⟩ | hplaced
    · by_cases hold : o.status = .refunded
      · exact (h.refunded o ho hold).evolves (step_evolves hs) hmove.same
      · obtain ⟨r, hr, p, hp, hof, horigin, hsucc, _⟩ := hmove.refunded hrefunded hold
        exact ⟨r, hr, p, hp, hof.trans hmove.same.id.symm, horigin, hsucc⟩
    · rw [hplaced.status] at hrefunded
      cases hrefunded

/-- The step commits a call that sets the status `refunded` by name. -/
def namesRefunded (t : Taken Sys Label) : Bool :=
  match t.label with
  | .commit pid _ =>
    match t.pre.proc? pid with
    | some (.tx op _) => op.namesRefunded
    | _ => false
  | _ => false

theorem Lifecycle.of_run (h₀ : Initial s₀) (h : Run cfg s₀ tr s)
    (hroute : ∀ t ∈ tr, namesRefunded t = false) : Lifecycle tr s := by
  induction h with
  | nil => exact .nil h₀
  | cons run hs ih =>
    rename_i tr s s' l
    have hnames : ∀ pid now op seen, l = .commit pid now → s.proc? pid = some (.tx op seen) →
        op.namesRefunded = false := by
      intro pid now op seen hl hproc
      have := hroute _ List.mem_cons_self
      simpa only [namesRefunded, hl, hproc] using this
    refine (ih fun t ht => hroute t (List.mem_cons_of_mem _ ht)).step hs fun o ho => ?_
    exact step_moves hs (coherent_of_run h₀ run) (payment_bound_of_run h₀ (.cons run hs)) hnames ho

/-- In every run that never sets the status `refunded` by name, orders follow their lifecycle. -/
theorem lifecycle_of_run (h₀ : Initial s₀) (h : Run cfg s₀ tr s)
    (hroute : ∀ t ∈ tr, namesRefunded t = false) : Lifecycle tr s :=
  .of_run h₀ h hroute

/-- An order is paid and its whole payment refunded at the administrator's request: it ends refunded, and
    both the payment and the refund behind its statuses are there. -/
theorem lifecycle_refunded_order : ∃ tr s, Run smallSettings smallShop tr s ∧
    (∃ o ∈ s.db.orders.rows, o.status = .refunded ∧ (∃ t ∈ tr, t.post.db.paidInFull o) ∧
      s.db.refundedOnRequest o) ∧ Lifecycle tr s := by
  obtain ⟨tr, s, hrun, hroute, o, ho, hs⟩ := exists_exec (step smallSettings) smallShop
    (P := fun tr s => (∀ t ∈ tr, namesRefunded t = false) ∧ ∃ o ∈ s.db.orders.rows, o.status = .refunded)
    (paidOrder ++ submittedRefund ++ [.refundAnswer 1 refundSucceeded 2]) (by decide +kernel)
  have h := lifecycle_of_run smallShop_initial hrun hroute
  refine ⟨tr, s, hrun, ⟨o, ho, hs, h.paid o ho ?_ ?_, h.refunded o ho hs⟩, h⟩
  · rw [hs]
    decide
  · rw [hs]
    decide

end NovaCart
