import NovaCart.Bindings

/-! What one step does to the payments and refunds.

    Every step that touches money is one of the moves below: a statement on one payment or one refund
    row, or the pair of statements that confirms a refund. The later invariants about money are case
    analyses over `step_money` and never look at a service function again. -/

namespace NovaCart

open Schemes

variable {cfg : Settings} {s s' s₀ : Sys} {l : Label} {tr : List (Taken Sys Label)}
variable {db db' seen : Db} {e : WebhookEvent} {now : Time}

/-! ### Reports about a refund -/

/-- The provider refund id that a confirmation writes on the payment. -/
def RefundReport.confirmedId (t : RefundReport) (r : Refund) : Option String :=
  (truthy t.providerRefundId).or ((t.newRefundId r).or r.providerRefundId)

/-- The statuses a report that confirms nothing may write. -/
def RefundReport.Saves (t : RefundReport) (r : Refund) (c : RefundPatch) : Prop :=
  c.status = none ∨ (r.status.final = false ∧
    ((c.status = some .failed ∧ (t.status = some "failed" ∨ t.status = some "canceled")) ∨
      (c.status = some .pending ∧ r.status = .requested)))

/-- What `apply_refund_state` does to the money tables. -/
inductive ReportMove (db : Db) (r : Refund) (t : RefundReport) (loaded : Option Payment) (db' : Db) :
    Prop
  | saved {c : RefundPatch} (hstatus : t.Saves r c) (hprid : c.providerRefundId = t.newRefundId r)
      (hattempts : c.attempts = none) (hpay : db'.payments = db.payments)
      (href : db'.refunds = db.refunds.replace (r.patch c))
  | confirmed {p old : Payment} (hopen : r.status.final = false) (hs : t.status = some "succeeded")
      (hp : sessionPayment db loaded r.paymentId = .ok p) (hold : db.payments.get? p.id = some old)
      (hpay : db'.payments = db.payments.replace
        (old.patch (addRefundedPatch p (t.confirmedId r) (confirmedAmount r t.amount))))
      (href : db'.refunds = db.refunds.replace
        (r.patch { status := some .succeeded, providerRefundId := t.newRefundId r }))

@[simp] theorem afterMismatch_payments (db : Db) (r : Refund) (t : RefundReport) :
    (afterMismatch db r t).payments = db.payments :=
  (reconcileIf_within (by decide) (by rfl) ..).payments (by simp) (by simp)

@[simp] theorem afterMismatch_refunds (db : Db) (r : Refund) (t : RefundReport) :
    (afterMismatch db r t).refunds = db.refunds :=
  (reconcileIf_within (by decide) (by rfl) ..).refunds (by simp) (by simp)

theorem saveRefund_refunds {r : Refund} {c : RefundPatch} (hr : db.refunds.get? r.id = some r)
    (h : saveRefund db r c = .ok db') : db'.refunds = db.refunds.replace (r.patch c) := by
  unfold saveRefund at h
  split at h
  · rename_i hsame
    cases h
    rw [hsame, Table.replace_of_get? hr]
  · obtain ⟨old, hold, _, _, _, rfl⟩ := updateRefund_ok h
    rw [hr] at hold
    cases hold
    rfl

/-- A confirmation adds to one payment, as the session knows it, and leaves the refunds alone. -/
theorem confirmRefund_money {r : Refund} {prid : Option String} {amount : Option ℤ}
    {loaded : Option Payment} (h : confirmRefund db r prid amount loaded now = .ok db') :
    ∃ p old, sessionPayment db loaded r.paymentId = .ok p ∧ db.payments.get? p.id = some old ∧
      db'.payments = db.payments.replace
        (old.patch (addRefundedPatch p prid (confirmedAmount r amount))) ∧
      db'.refunds = db.refunds := by
  obtain ⟨order, p, db₁, db₂, _, hp, h₁, heq, hrest⟩ := confirmRefund_ok h
  obtain ⟨old, hold, _, hdb₁⟩ := updatePayment_ok h₁
  have hrec : Within [.reconcile] db₁ db₂ := by
    rw [heq]
    exact overlapRecord_within ..
  -- the rest of the confirmation writes the order, its documents and the stock
  have hfin : Within refundOrderKinds db₂ db' := by
    rcases hrest with ⟨_, hro⟩ | ⟨_, rfl⟩
    · exact refundOrder_within hro
    · exact .refl _
  refine ⟨p, old, hp, hold, ?_, ?_⟩
  · rw [hfin.payments (by decide) (by decide), hrec.payments (by simp) (by simp), hdb₁]
  · rw [hfin.refunds (by decide) (by decide), hrec.refunds (by simp) (by simp), hdb₁]

theorem applyRefundState_move {r : Refund} {t : RefundReport} {loaded : Option Payment}
    (hr : db.refunds.get? r.id = some r) (h : applyRefundState db r t loaded now = .ok db') :
    ReportMove db r t loaded db' := by
  have hr₁ : (afterMismatch db r t).refunds.get? r.id = some r := by
    rw [afterMismatch_refunds]
    exact hr
  rcases applyRefundState_ok h with ⟨c, hsave, _, hprid, hattempts, hstatus⟩ |
    ⟨hopen, hs, db₁, hsave, hconfirm⟩
  · have hpay := (saveRefund_within hsave).payments (by simp) (by simp)
    have href := saveRefund_refunds hr₁ hsave
    rw [afterMismatch_payments] at hpay
    rw [afterMismatch_refunds] at href
    exact .saved hstatus hprid hattempts hpay href
  · have hpay₁ := (saveRefund_within hsave).payments (by simp) (by simp)
    have href₁ := saveRefund_refunds hr₁ hsave
    rw [afterMismatch_payments] at hpay₁
    rw [afterMismatch_refunds] at href₁
    obtain ⟨p, old, hp, hold, hpay, href⟩ := confirmRefund_money hconfirm
    rw [hpay₁] at hold hpay
    have hp' : sessionPayment db loaded r.paymentId = .ok p := by
      unfold sessionPayment at hp ⊢
      rw [hpay₁] at hp
      exact hp
    exact .confirmed hopen hs hp' hold hpay (href.trans href₁)

/-! ### Events -/

/-- What handling an event does to the money tables; `seen` is what the handler read first. -/
inductive EventMove (seen db : Db) (e : WebhookEvent) (db' : Db) : Prop
  | still (hpay : db'.payments = db.payments) (href : db'.refunds = db.refunds)
  | succeeded {p old : Payment} (htype : e.eventType = .paymentSucceeded)
      (hp : seen.byProviderPaymentId e.providerPaymentId e.provider = some p)
      (hmatch : eventMismatch seen e p = none) (hold : db.payments.get? p.id = some old)
      (hpay : db'.payments = db.payments.replace (old.patch (succeededPatch e p)))
      (href : db'.refunds = db.refunds)
  | failed {p old : Payment} (htype : e.eventType = .paymentFailed)
      (hp : seen.byProviderPaymentId e.providerPaymentId e.provider = some p)
      (hs : p.status ≠ .succeeded) (hold : db.payments.get? p.id = some old)
      (hpay : db'.payments = db.payments.replace (old.patch { status := some .failed }))
      (href : db'.refunds = db.refunds)
  | reported {suffix : String} {target : RefundTarget} {refund locked : Refund}
      (htype : e.eventType = .refund suffix) (htarget : refundTarget seen e = .ok target)
      (hrefund : target.refund = some refund) (hlocked : db.refunds.get? refund.id = some locked)
      (hmove : ReportMove db locked e.report target.loaded db')
  | external {suffix : String} {target : RefundTarget} {p old : Payment} {prid : String} {id : Id}
      {row : Refund} (htype : e.eventType = .refund suffix) (htarget : refundTarget seen e = .ok target)
      (hnone : target.refund = none)
      (hext : externalTarget seen e target.providerPaymentId = some (p, prid))
      (hnew : db.byProviderRefundId prid = .ok none)
      (hvalid : 0 < e.amount.getD 0 ∧ e.currency = some p.currency)
      (hrow : ExternalRow p prid (e.amount.getD 0) id row)
      (href : db.refunds.insert? row = some db'.refunds) (hold : db.payments.get? p.id = some old)
      (hpay : db'.payments = db.payments.replace
        (old.patch (addRefundedPatch p (some prid) row.amountCents)))

/-- A flush of a payment object writes the patch on the row as it is now, or nothing. -/
theorem savePayment_ok {p : Payment} {c : PaymentPatch} (h : savePayment db p c = .ok db') :
    db' = db ∨ ∃ old, db.payments.get? p.id = some old ∧
      db' = { db with payments := db.payments.replace (old.patch c) } := by
  unfold savePayment at h
  split at h
  · exact .inl (Except.ok.inj h).symm
  · obtain ⟨old, hold, _, rfl⟩ := updatePayment_ok h
    exact .inr ⟨old, hold, rfl⟩

theorem EventMove.of_within {K : List WriteKind} (h : Within K db db') (hip : WriteKind.insertPayment ∉ K)
    (hp : WriteKind.payment ∉ K) (hir : WriteKind.insertRefund ∉ K) (hr : WriteKind.refund ∉ K) :
    EventMove seen db e db' := .still (h.payments hip hp) (h.refunds hir hr)

theorem handlePaymentSucceeded_move (htype : e.eventType = .paymentSucceeded)
    (h : handlePaymentSucceeded cfg seen db e now = .ok db') : EventMove seen db e db' := by
  rcases handlePaymentSucceeded_ok h with ⟨_, rfl⟩ | ⟨p, hp, ⟨kind, hkind, rfl⟩ | ⟨hmatch, db₁, h₁, h₂⟩⟩
  · have hall : Within [.reconcile, .defer] db (deferEvent cfg (reconcile db .unmatchedPayment
        (unmatchedPaymentKey e.providerPaymentId) none none (some e.providerPaymentId)) e now) :=
      ((reconcile_within (by decide) (by rfl) ..).mono (by simp)).trans
        ((deferEvent_within cfg _ e now).mono (by simp))
    exact .of_within hall (by simp) (by simp) (by simp) (by simp)
  · exact .of_within (flagPayment_within (eventMismatch_flags hkind _) ..) (by simp) (by simp) (by simp) (by simp)
  · have hset := settleOrder_within h₂
    have hpay := hset.payments (by simp) (by simp)
    have href := hset.refunds (by simp) (by simp)
    rcases savePayment_ok h₁ with rfl | ⟨old, hold, rfl⟩
    · exact .still hpay href
    · exact .succeeded htype hp hmatch hold hpay href

theorem handlePaymentFailed_move (htype : e.eventType = .paymentFailed)
    (h : handlePaymentFailed seen db e = .ok db') : EventMove seen db e db' := by
  rcases handlePaymentFailed_ok h with rfl | ⟨p, hp, hs, h₁⟩
  · exact .still rfl rfl
  · rcases savePayment_ok h₁ with rfl | ⟨old, hold, rfl⟩
    · exact .still rfl rfl
    · exact .failed htype hp hs hold rfl rfl

theorem handleRefundEvent_move {id : Id} {suffix : String} (htype : e.eventType = .refund suffix)
    (h : handleRefundEvent cfg seen db e id now = .ok db') : EventMove seen db e db' := by
  obtain ⟨target, htarget, ⟨refund, locked, hrefund, hlocked, h⟩ | ⟨hnone, p, prid, hext, h⟩ |
    ⟨_, _, rfl⟩⟩ := handleRefundEvent_ok h
  · have hid : locked.id = refund.id := Table.key_of_get? hlocked
    exact .reported htype htarget hrefund hlocked
      (applyRefundState_move (by rw [hid]; exact hlocked) h)
  · obtain ⟨known, hknown, ⟨_, rfl⟩ | ⟨_, tag, hk, rfl⟩ | ⟨rfl, hvalid, row, db₁, db₂, h₁, hrow, h₂, rfl⟩⟩ :=
      recordExternalRefund_ok h
    · exact .still rfl rfl
    · have hplain : (DedupeKey.mk tag prid).plain = true := by
        rcases hk with rfl | rfl <;> rfl
      exact .of_within (reconcile_within (by decide) hplain ..) (by simp) (by simp) (by simp) (by simp)
    · obtain ⟨_, _, _, _, _, t, ht, rfl⟩ := insertRefund_ok h₁
      obtain ⟨old, hold, _, rfl⟩ := updatePayment_ok h₂
      refine .external htype htarget hnone hext hknown hvalid hrow ?_ hold ?_
      · simp only [reconcile, record_refunds]
        exact ht
      · simp only [reconcile, record_payments, hrow.amountCents]
  · have hdefer := deferIfPaymentUnknown_within cfg db
      { e with providerPaymentId := target.providerPaymentId } now
    refine .still ?_ ?_
    · simp only [reconcile, record_payments]
      exact hdefer.payments (by simp) (by simp)
    · simp only [reconcile, record_refunds]
      exact hdefer.refunds (by simp) (by simp)

theorem handleEvent_move {id : Id} (h : handleEvent cfg seen db e id now = .ok db') :
    EventMove seen db e db' := by
  unfold handleEvent at h
  split at h
  · exact handlePaymentSucceeded_move ‹_› h
  · exact handlePaymentFailed_move ‹_› h
  · exact handleRefundEvent_move ‹_› h
  · exact .of_within (handleDisputeEvent_within h) (by decide) (by decide) (by decide) (by decide)
  · cases h
    exact .still rfl rfl

theorem applyDeferredEvent_move {id : Id} (h : applyDeferredEvent cfg seen db e id now = .ok db') :
    EventMove seen db e db' := by
  unfold applyDeferredEvent at h
  split at h
  · exact handlePaymentSucceeded_move ‹_› h
  · exact handleRefundEvent_move ‹_› h
  · exact .of_within (applyDisputeEvent_within h) (by decide) (by decide) (by decide) (by decide)
  · cases h
    exact .still rfl rfl
  · cases h
    exact .still rfl rfl

/-! ### Steps -/

/-- The step handles the event `e` in a transaction whose first reads saw `seen`. -/
def Handling (s : Sys) (l : Label) (e : WebhookEvent) (seen : Db) : Prop :=
  (∃ pid newId now, l = .process pid newId now ∧ s.proc? pid = some (.delivery e seen)) ∨
    ∃ pid newId now row, l = .recoverCommit pid newId now ∧
      s.proc? pid = some (.recovery row seen) ∧ e = row.rebuild

/-- A condition on the event a step handles, with what its handler read first and the database now. -/
def onEvent (f : Db → Db → WebhookEvent → Bool) (s : Sys) : Label → Bool
  | .process pid _ _ =>
    match s.proc? pid with
    | some (.delivery e seen) => f seen s.db e
    | _ => false
  | .recoverCommit pid _ _ =>
    match s.proc? pid with
    | some (.recovery row seen) => f seen s.db row.rebuild
    | _ => false
  | _ => false

theorem Handling.onEvent (hh : Handling s l e seen) (f : Db → Db → WebhookEvent → Bool) :
    onEvent f s l = f seen s.db e := by
  rcases hh with ⟨pid, _, _, rfl, hproc⟩ | ⟨pid, _, _, row, rfl, hproc, rfl⟩
  · simp [NovaCart.onEvent, hproc]
  · simp [NovaCart.onEvent, hproc]

/-- What the handler read is the database before one of the steps taken. -/
theorem Handling.taken (hh : Handling s l e seen) (h₀ : Initial s₀) (h : Run cfg s₀ tr s) :
    ∃ t ∈ tr, t.pre.db = seen := by
  rcases hh with ⟨pid, _, _, _, hproc⟩ | ⟨pid, _, _, row, _, hproc, _⟩
  · exact seen_taken h₀ h hproc rfl
  · exact seen_taken h₀ h hproc rfl

/-- What a step does to the payments and refunds, and why. -/
inductive MoneyMove (cfg : Settings) (s : Sys) (l : Label) (db' : Db) : Prop
  | still (hpay : db'.payments = s.db.payments) (href : db'.refunds = s.db.refunds)
  | requested {row : Refund} (hreq : Requested s.db row)
      (href : s.db.refunds.insert? row = some db'.refunds) (hpay : db'.payments = s.db.payments)
  | attempted {pid refundId : Id} {refund : Refund} {payment : Payment}
      (hl : l = .refundBegin pid refundId) (hrefund : s.db.refunds.get? refundId = some refund)
      (hreq : refund.status = .requested)
      (hpayment : s.db.payments.get? refund.paymentId = some payment)
      (hfirst : ¬(s.db.hasOpenDispute payment.id = true ∧ refund.attempts = 0))
      (href : db'.refunds
        = s.db.refunds.replace (refund.patch { attempts := some (refund.attempts + 1) }))
      (hpay : db'.payments = s.db.payments)
  | blocked {pid refundId : Id} {refund : Refund} {payment : Payment} {reason : String}
      (hl : l = .refundBegin pid refundId) (hrefund : s.db.refunds.get? refundId = some refund)
      (hpayment : s.db.payments.get? refund.paymentId = some payment)
      (hdispute : s.db.hasOpenDispute payment.id = true) (hreq : refund.status = .requested)
      (hfirst : refund.attempts = 0)
      (href : db'.refunds = s.db.refunds.replace
        (refund.patch { status := some .failed, failureReason := some reason }))
      (hpay : db'.payments = s.db.payments)
  | uncertain {pid : Id} {message : String} {attempt : RefundAttempt} {refund : Refund}
      (hl : l = .refundError pid message) (hproc : s.proc? pid = some (.refund attempt))
      (hrefund : s.db.refunds.get? attempt.refundId = some refund) (hreq : refund.status = .requested)
      (hmax : cfg.refundMaxAttempts ≤ refund.attempts)
      (href : db'.refunds = s.db.refunds.replace
        (refund.patch { status := some .uncertain, failureReason := some message }))
      (hpay : db'.payments = s.db.payments)
  | answered {pid : Id} {report : RefundReport} {now : Time} {attempt : RefundAttempt} {r : Refund}
      (hl : l = .refundAnswer pid report now) (hproc : s.proc? pid = some (.refund attempt))
      (hrefund : s.db.refunds.get? attempt.refundId = some r)
      (hmove : ReportMove s.db r report none db')
  | event {e : WebhookEvent} {seen : Db} (hh : Handling s l e seen) (hmove : EventMove seen s.db e db')
  | recorded {pid newId : Id} {call : PayCall} {ppid : String} {row : Payment}
      (hl : l = .payRecord pid newId) (hproc : s.proc? pid = some (.pay call))
      (hstage : call.stage = .recording ppid) (hrow : call.Records row)
      (hnew : row.refundedAmountCents = none)
      (hpay : s.db.payments.insert? row = some db'.payments) (href : db'.refunds = s.db.refunds)
  | reused {pid paymentId : Id} {word : String} {call : PayCall} {order : Order} {old : Payment}
      (hl : l = .payRetrieved pid word) (hproc : s.proc? pid = some (.pay call))
      (hstage : call.stage = .retrieving paymentId)
      (horder : s.db.orders.get? call.orderId = some order) (hpending : order.status = .pending)
      (hold : s.db.payments.get? paymentId = some old) (hword : word ≠ "succeeded")
      (hpay : db'.payments
        = s.db.payments.replace (old.patch { status := some (reusedStatus word) }))
      (href : db'.refunds = s.db.refunds)
  | cancelled {pid : Id} {now : Time} {call : CancelCall} {order : Order} {db₁ : Db}
      (hl : l = .cancelFinish pid now) (hproc : s.proc? pid = some (.cancel call))
      (horder : s.db.orders.get? call.orderId = some order) (hpending : order.status = .pending)
      (hnone : ∀ q ∈ call.payments s.db, q.status ≠ .succeeded)
      (hfail : failPending s.db (call.payments s.db) = .ok db₁)
      (hpay : db'.payments = db₁.payments) (href : db'.refunds = s.db.refunds)

theorem MoneyMove.of_within {K : List WriteKind} (h : Within K s.db db')
    (hip : WriteKind.insertPayment ∉ K) (hp : WriteKind.payment ∉ K)
    (hir : WriteKind.insertRefund ∉ K) (hr : WriteKind.refund ∉ K) : MoneyMove cfg s l db' :=
  .still (h.payments hip hp) (h.refunds hir hr)

/-- A move says nothing about other tables. -/
theorem EventMove.congr {a a' : Db} (hap : a.payments = db.payments) (har : a.refunds = db.refunds)
    (hbp : a'.payments = db'.payments) (hbr : a'.refunds = db'.refunds) (h : EventMove seen a e a') :
    EventMove seen db e db' := by
  cases h with
  | still hpay href =>
    rw [hap, hbp] at hpay
    rw [har, hbr] at href
    exact .still hpay href
  | succeeded htype hp hmatch hold hpay href =>
    rw [hap] at hold
    rw [hap, hbp] at hpay
    rw [har, hbr] at href
    exact .succeeded htype hp hmatch hold hpay href
  | failed htype hp hs hold hpay href =>
    rw [hap] at hold
    rw [hap, hbp] at hpay
    rw [har, hbr] at href
    exact .failed htype hp hs hold hpay href
  | reported htype htarget hrefund hlocked hmove =>
    rw [har] at hlocked
    refine .reported htype htarget hrefund hlocked ?_
    cases hmove with
    | saved hstatus hprid hattempts hpay href =>
      rw [hap, hbp] at hpay
      rw [har, hbr] at href
      exact .saved hstatus hprid hattempts hpay href
    | confirmed hopen hs hp hold hpay href =>
      unfold sessionPayment at hp
      rw [hap] at hp hold
      rw [hap, hbp] at hpay
      rw [har, hbr] at href
      exact .confirmed hopen hs hp hold hpay href
  | external htype htarget hnone hext hnew hvalid hrow href hold hpay =>
    unfold Db.byProviderRefundId at hnew
    rw [har] at hnew
    rw [har, hbr] at href
    rw [hap] at hold
    rw [hap, hbp] at hpay
    exact .external htype htarget hnone hext hnew hvalid hrow href hold hpay

/-- The money tables after a delivery's transaction. -/
theorem process_move {id : Id}
    (h : processWebhookEvent cfg seen (markWebhookVerified db e.configId) e id now = .ok db') :
    EventMove seen db e db' := by
  have hmark := markWebhookVerified_within db e.configId
  obtain ⟨db₁, h₁, h⟩ := processWebhookEvent_ok h
  refine (handleEvent_move h₁).congr (hmark.payments (by simp) (by simp))
    (hmark.refunds (by simp) (by simp)) ?_ ?_
  · rw [write_mask h]; rfl
  · rw [write_mask h]; rfl

theorem recoverRow_move (row : DeferredWebhookEvent) (id : Id) :
    EventMove seen db row.rebuild (recoverRow cfg seen db row id now) := by
  rcases recoverRow_cases cfg seen db row id now with ⟨giveUp, heq⟩ | ⟨_, db₁, h₁, heq⟩
  · rw [heq]
    exact .still rfl rfl
  · have hres := resolveRecovered_within (recoveredKeys row) { db₁ with
      deferred := db₁.deferred.replace
        { row with attempts := row.attempts + 1, status := .recovered } }
    have hpay : db₁.payments = (recoverRow cfg seen db row id now).payments := by
      rw [heq, hres.payments (by simp) (by simp)]
    have href : db₁.refunds = (recoverRow cfg seen db row id now).refunds := by
      rw [heq, hres.refunds (by simp) (by simp)]
    exact (applyDeferredEvent_move h₁).congr rfl rfl hpay href

theorem beginRefundAttempt_move {pid refundId : Id} {a : Option RefundAttempt}
    (h : beginRefundAttempt s.db refundId = .ok (db', a)) :
    MoneyMove cfg s (.refundBegin pid refundId) db' := by
  rcases beginRefundAttempt_ok h with ⟨rfl, _⟩ | ⟨refund, payment, hrefund, hreq, hpayment, hexit⟩
  · exact .still rfl rfl
  have hid : refund.id = refundId := Table.key_of_get? hrefund
  rcases hexit with ⟨hdispute, hfirst, _, db₁, hwrite, rfl⟩ | ⟨hfirst, hwrite, _⟩
  · obtain ⟨old, hold, _, _, _, rfl⟩ := updateRefund_ok hwrite
    rw [hid, hrefund] at hold
    cases hold
    refine .blocked rfl hrefund hpayment hdispute hreq hfirst
      (record_refunds _ _) (record_payments _ _)
  · have hrec : Within [.reconcile] s.db (reconcileIf (s.db.hasOpenDispute payment.id = true) s.db
        .disputeDuringRefund (ReconciliationKind.disputeDuringRefund.key refund.id) (some payment)
        none none) := overlapRecord_within ..
    obtain ⟨old, hold, _, _, _, rfl⟩ := updateRefund_ok hwrite
    rw [hrec.refunds (by simp) (by simp), hid, hrefund] at hold
    cases hold
    refine .attempted rfl hrefund hreq hpayment hfirst ?_ (hrec.payments (by simp) (by simp))
    simp only [hrec.refunds (by simp) (by simp)]

theorem recordRefundAttemptFailed_move {pid : Id} {message : String} {attempt : RefundAttempt}
    (hproc : s.proc? pid = some (.refund attempt))
    (h : recordRefundAttemptFailed cfg s.db attempt.refundId message = .ok db') :
    MoneyMove cfg s (.refundError pid message) db' := by
  rcases recordRefundAttemptFailed_ok h with ⟨rfl, _⟩ | ⟨refund, db₁, hrefund, hreq, hmax, hwrite, rfl⟩
  · exact .still rfl rfl
  · have hid : refund.id = attempt.refundId := Table.key_of_get? hrefund
    obtain ⟨old, hold, _, _, _, rfl⟩ := updateRefund_ok hwrite
    rw [hid, hrefund] at hold
    cases hold
    refine .uncertain rfl hproc hrefund hreq hmax ?_ ?_
    · simp only [reconcile, record_refunds]
    · simp only [reconcile, record_payments]

theorem payTx_move {pid : Id} {call : PayCall} {next : Option PayCall}
    (hproc : s.proc? pid = some (.pay call)) (h : PayTx s.db pid call l db' next) :
    MoneyMove cfg s l db' := by
  cases h with
  | reuse hstage hok =>
    obtain ⟨order, reusable, horder, hpending, hreusable, hword, hset, _⟩ := payReuse_ok hok
    rcases setPaymentStatus_ok hset with ⟨_, rfl⟩ | ⟨_, hwrite⟩
    · exact .still rfl rfl
    · have hid : reusable.id = _ := Table.key_of_get? hreusable
      obtain ⟨old, hold, _, rfl⟩ := updatePayment_ok hwrite
      rw [hid, hreusable] at hold
      cases hold
      exact .reused rfl hproc hstage horder hpending hreusable hword rfl rfl
  | record hstage hok =>
    obtain ⟨order, _, ⟨_, rfl, _⟩ | ⟨_, _, ⟨_, _, rfl, _⟩ | ⟨_, ⟨_, _, _, rfl, _⟩ | ⟨_, hwrite⟩⟩⟩⟩ :=
      payRecord_ok hok
    · exact .still rfl rfl
    · exact .still rfl rfl
    · exact .still rfl rfl
    · obtain ⟨_, _, _, _, t, ht, rfl⟩ := insertPayment_ok hwrite
      exact .recorded rfl hproc hstage ⟨rfl, rfl, rfl, rfl, rfl, rfl⟩ rfl ht rfl
  | orphan _ hdb _ =>
    subst hdb
    exact .of_within (reconcileIf_within (by decide) (by rfl) ..) (by simp) (by simp) (by simp) (by simp)

theorem cancelFinish_move {pid : Id} {call : CancelCall} (hproc : s.proc? pid = some (.cancel call))
    (h : cancelFinish s.db call now = .ok db') : MoneyMove cfg s (.cancelFinish pid now) db' := by
  obtain ⟨order, horder, rfl | ⟨hpending, hnone, db₁, hfail, hrelease⟩⟩ := cancelFinish_ok h
  · exact .still rfl rfl
  · have hrel := releaseStockAndCancel_within hrelease
    refine .cancelled rfl hproc horder hpending hnone hfail (hrel.payments (by simp) (by simp)) ?_
    rw [hrel.refunds (by simp) (by simp), (failPending_within hfail).refunds (by simp) (by simp)]

/-- Every step makes one of the moves. -/
theorem step_money (h : step cfg s l = some s') : MoneyMove cfg s l s'.db := by
  cases step_transition h with
  | op hproc hrun =>
    obtain ⟨hpay, href | ⟨row, hreq, hins⟩⟩ := run_requests hrun
    · exact .still hpay href
    · exact .requested hreq hins hpay
  | process hproc hrun => exact .event (.inl ⟨_, _, _, rfl, hproc⟩) (process_move hrun)
  | recover hproc => exact .event (.inr ⟨_, _, _, _, rfl, hproc, rfl⟩) (recoverRow_move _ _)
  | cancelFinish hproc _ _ hrun => exact cancelFinish_move hproc hrun
  | payDone hproc hrun => exact payTx_move hproc hrun
  | payNext hproc hrun => exact payTx_move hproc hrun
  | refundBegin hrun hspawn =>
    rw [spawn_db hspawn]
    exact beginRefundAttempt_move hrun
  | refundBlocked hrun => exact beginRefundAttempt_move hrun
  | refundAnswer hproc hrun =>
    rcases finishRefund_ok hrun with hsame | ⟨r, hr, happly⟩
    · exact .still (congrArg Db.payments hsame) (congrArg Db.refunds hsame)
    · have hid : r.id = _ := Table.key_of_get? hr
      exact .answered rfl hproc hr (applyRefundState_move (by rw [hid]; exact hr) happly)
  | refundError hproc hrun => exact recordRefundAttemptFailed_move hproc hrun
  | duplicate _ _ =>
    exact .of_within (markWebhookVerified_within ..) (by simp) (by simp) (by simp) (by simp)
  | failure _ _ hrun =>
    exact .of_within (recordFailedEvent_within hrun) (by simp) (by simp) (by simp) (by simp)
  | cancelReport _ =>
    exact .of_within (cancelReport_within ..) (by simp) (by simp) (by simp) (by simp)
  | started _ hspawn =>
    rw [spawn_db hspawn]
    exact .still rfl rfl
  | continued _ _ => exact .still rfl rfl
  | ended _ => exact .still rfl rfl

end NovaCart
