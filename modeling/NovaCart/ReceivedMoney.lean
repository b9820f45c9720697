import NovaCart.OrderRuns
import NovaCart.Overlap

/-! Every success that a provider reports is accounted for.

    The success handler has seven ways out. Each leaves a record filed under the payment, or under the
    provider's id of an unknown one, or moves the pending order of the payment to paid. Records are never
    deleted and a paid order never goes back, so the account stands at the end of every run. -/

namespace NovaCart

open Schemes

variable {cfg : Settings} {s s' s₀ : Sys} {l : Label} {tr : List (Taken Sys Label)}
variable {db db' seen : Db} {e : WebhookEvent} {now : Time}

/-! ### The account of one event -/

/-- The payment is the one the event reports. -/
def WebhookEvent.reports (e : WebhookEvent) (p : Payment) : Prop :=
  p.providerPaymentId = e.providerPaymentId ∧ p.provider = e.provider

/-- Why a reported success is not applied. -/
def refusals : List ReconciliationKind := [.orderMismatch, .unverifiablePayment, .amountMismatch, .latePayment]

/-- A record says that the reported success was not applied. -/
inductive Noted (db : Db) (e : WebhookEvent) : Prop
  | unmatched (h : db.filed (unmatchedPaymentKey e.providerPaymentId))
  | flagged {p : Payment} {r : PaymentReconciliation} {kind : ReconciliationKind}
      (hp : p ∈ db.payments.rows) (hreports : e.reports p) (hr : r ∈ db.reconciliations.rows)
      (hkind : kind ∈ refusals) (hkey : r.dedupeKey = kind.key p.id) (hpayment : r.paymentId = some p.id)

/-- The status of an order whose money was applied to it. -/
def OrderStatus.settled : OrderStatus → Bool
  | .paid | .fulfilled | .refunded => true
  | .pending | .cancelled => false

/-- A record was made, or the order of the reported payment was paid. -/
inductive Answered (db : Db) (e : WebhookEvent) : Prop
  | noted (h : Noted db e)
  | settled {p : Payment} {o : Order} (hp : p ∈ db.payments.rows) (hreports : e.reports p)
      (ho : db.orders.get? p.orderId = some o) (hsettled : o.status.settled = true)

/-- What handling a reported success did: no order moved and a record was made, or exactly the pending
    order of the payment became paid. -/
inductive SuccessOutcome (seen db db' : Db) (e : WebhookEvent) : Prop
  | noted (h : Noted db' e) (horders : db'.orders = db.orders)
  | paid {q p : Payment} {o o' : Order} (hq : q ∈ seen.payments.rows) (hqp : p.id = q.id)
      (hp : p ∈ db'.payments.rows) (hreports : e.reports p) (ho : db.orders.get? p.orderId = some o)
      (hpending : o.status = .pending) (ho' : db'.orders.get? o.id = some o') (hpaid : o'.status = .paid)
      (hothers : ∀ id, id ≠ o.id → db'.orders.get? id = db.orders.get? id)
      (hstatus : q.status = .succeeded ∨ p.status = .succeeded)

/-! ### The handler -/

theorem eventMismatch_refusal {p : Payment} {kind : ReconciliationKind} (h : eventMismatch seen e p = some kind) :
    kind ∈ refusals := by
  unfold eventMismatch at h
  split at h
  · cases h
    simp [refusals]
  split at h
  · cases h
    simp [refusals]
  split at h
  · cases h
    simp [refusals]
  split at h
  · cases h
  split at h
  · cases h
    simp [refusals]
  · cases h

theorem refusal_flags {kind : ReconciliationKind} (h : kind ∈ refusals) (id : Id) :
    (kind.key id).flagsPayment = true := by
  simp only [refusals, List.mem_cons, List.not_mem_nil, or_false] at h
  rcases h with rfl | rfl | rfl | rfl
  all_goals rfl

theorem reconcile_filed (db : Db) (kind : ReconciliationKind) (k : DedupeKey) (p : Option Payment)
    (o : Option Id) (ppid : Option String) : (reconcile db kind k p o ppid).filed k := by
  have h : (reconcileIf True db kind k p o ppid).filed k :=
    (reconcileIf_filed True kind k k p o ppid).mpr (.inr ⟨trivial, rfl⟩)
  rwa [reconcileIf, if_pos trivial] at h

/-- Flagging a payment leaves a record of it, its own or one that was there. -/
theorem flagPayment_record {kind : ReconciliationKind} (p : Payment) (ppid : Option String)
    (hkind : kind ∈ refusals) (hfiled : Filed db) : ∃ r ∈ (flagPayment db kind p ppid).reconciliations.rows,
      r.dedupeKey = kind.key p.id ∧ r.paymentId = some p.id := by
  have hwithin := flagPayment_within (refusal_flags hkind p.id) db ppid
  obtain ⟨r, hr⟩ := Option.ne_none_iff_exists'.mp (reconcile_filed db kind (kind.key p.id) (some p) none ppid)
  have hmem : r ∈ (flagPayment db kind p ppid).reconciliations.rows := Table.mem_of_get? hr
  have hkey : r.dedupeKey = kind.key p.id := Table.key_of_get? hr
  obtain ⟨id, hpayment, harg⟩ := hwithin.filed hfiled r hmem (by rw [hkey]; exact refusal_flags hkind p.id)
  rw [hkey] at harg
  have hpid : p.id = id := toString_inj harg
  exact ⟨r, hmem, hkey, by rw [hpid, hpayment]⟩

theorem flagPayment_noted {kind : ReconciliationKind} {p q : Payment} {ppid : Option String}
    (hkind : kind ∈ refusals) (hfiled : Filed db) (hq : q ∈ db.payments.rows) (hid : q.id = p.id)
    (hreports : e.reports q) : Noted (flagPayment db kind p ppid) e := by
  obtain ⟨r, hr, hkey, hpayment⟩ := flagPayment_record p ppid hkind hfiled
  refine .flagged (p := q) ?_ hreports hr hkind (by rw [hid, hkey]) (by rw [hid, hpayment])
  rw [(flagPayment_within (refusal_flags hkind p.id) ..).payments (by simp) (by simp)]
  exact hq

/-- The payment object a session loaded is still a row, with the ids the event names. -/
theorem Evolves.reported (h : Evolves seen db) {p : Payment}
    (hp : seen.byProviderPaymentId e.providerPaymentId e.provider = some p) :
    ∃ q ∈ db.payments.rows, q.id = p.id ∧ q.orderId = p.orderId ∧ e.reports q := by
  obtain ⟨hmem, hppid, hprovider⟩ := byProviderPaymentId_some hp
  obtain ⟨q, hq, hsame⟩ := h.payment_of_mem hmem
  exact ⟨q, Table.mem_of_get? hq, hsame.id, hsame.orderId, hsame.providerPaymentId.trans hppid,
    hsame.provider.trans hprovider⟩

/-- Unless the session read the payment as succeeded, the success handler writes that it is. -/
theorem savePayment_succeeded {p : Payment} (h : savePayment db p (succeededPatch e p) = .ok db') :
    p.status = .succeeded ∨ ∃ q, db'.payments.get? p.id = some q ∧ q.status = .succeeded := by
  by_cases hs : p.status = .succeeded
  · exact .inl hs
  have hpatch : p.patch (succeededPatch e p) ≠ p := by
    intro heq
    have hstatus := congrArg Payment.status heq
    simp only [Payment.patch, succeededPatch, if_neg hs, Option.getD_some] at hstatus
    exact hs hstatus.symm
  unfold savePayment at h
  rw [if_neg hpatch] at h
  obtain ⟨old, hold, _, rfl⟩ := updatePayment_ok h
  have hid : old.id = p.id := Table.key_of_get? hold
  have hkey : Keyed.key (old.patch (succeededPatch e p)) = p.id := hid
  refine .inr ⟨old.patch (succeededPatch e p), ?_, ?_⟩
  · have hget : db.payments.get? (Keyed.key (old.patch (succeededPatch e p))) = some old := by
      rw [hkey]
      exact hold
    have := Table.get?_replace_self hget
    rwa [hkey] at this
  · simp [Payment.patch, succeededPatch, if_neg hs]

/-- The order row takes the status, then the demo mark; no other row is touched. -/
theorem markPaid_paid {order : Order} {p : Payment} (h : markPaid db order p now = .ok db')
    (hpending : order.status = .pending) : ∃ paid, db'.orders.get? order.id = some paid ∧ paid.status = .paid ∧
      ∀ id, id ≠ order.id → db'.orders.get? id = db.orders.get? id := by
  rcases markPaid_ok h with ⟨hne, _⟩ | ⟨_, db₂, hmove, hdemo⟩
  · exact absurd hpending hne
  obtain ⟨old, hold, _, rfl⟩ := updateOrderStatus_ok hmove
  obtain ⟨old', hold', _, rfl⟩ := updateOrder_ok hdemo
  have hkey : old.id = order.id := Table.key_of_get? hold
  have hkey' : old'.id = order.id := Table.key_of_get? hold'
  have hself : (db.orders.replace (old.patch { status := some .paid })).get? order.id
      = some (old.patch { status := some .paid }) := by
    have hget : db.orders.get? (Keyed.key (old.patch { status := some .paid })) = some old := by
      rw [show Keyed.key (old.patch { status := some .paid }) = order.id from hkey]
      exact hold
    have := Table.get?_replace_self hget
    rwa [show Keyed.key (old.patch { status := some .paid }) = order.id from hkey] at this
  obtain rfl : old.patch { status := some .paid } = old' := Option.some.inj (hself.symm.trans hold')
  let paid := old.patch { status := some .paid }
  refine ⟨paid.patch { paidInDemoMode := some (p.provider = .demo) }, ?_, rfl, fun id hne => ?_⟩
  · have hget : (db.orders.replace paid).get?
        (Keyed.key (paid.patch { paidInDemoMode := some (p.provider = .demo) })) = some paid :=
      (congrArg _ hkey').trans hself
    have := Table.get?_replace_self hget
    rwa [show Keyed.key (paid.patch { paidInDemoMode := some (p.provider = .demo) }) = order.id from hkey'] at this
  · show ((db.orders.replace _).replace _).get? id = _
    rw [Table.get?_replace_of_ne fun hk => hne (hk.trans hkey'),
      Table.get?_replace_of_ne fun hk => hne (hk.trans hkey)]

theorem handlePaymentSucceeded_outcome (hev : Evolves seen db) (hfiled : Filed db)
    (h : handlePaymentSucceeded cfg seen db e now = .ok db') : SuccessOutcome seen db db' e := by
  rcases handlePaymentSucceeded_ok h with ⟨_, rfl⟩ | ⟨p, hp, ⟨kind, hkind, rfl⟩ | ⟨hmatch, db₁, hsave, hset⟩⟩
  · have hdefer := deferEvent_within cfg (reconcile db .unmatchedPayment
      (unmatchedPaymentKey e.providerPaymentId) none none (some e.providerPaymentId)) e now
    have hrec : Within [.reconcile] db (reconcile db .unmatchedPayment
        (unmatchedPaymentKey e.providerPaymentId) none none (some e.providerPaymentId)) :=
      reconcile_within (by decide) (by rfl) ..
    refine .noted (.unmatched (filed_of_kept hdefer.records_kept (reconcile_filed _ _ _ _ _ _))) ?_
    rw [hdefer.orders (by simp) (by simp) (by simp), hrec.orders (by simp) (by simp) (by simp)]
  · obtain ⟨q, hq, hid, _, hreports⟩ := hev.reported hp
    have hrefusal := eventMismatch_refusal hkind
    refine .noted (flagPayment_noted hrefusal hfiled hq hid hreports) ?_
    exact (flagPayment_within (refusal_flags hrefusal p.id) ..).orders (by simp) (by simp) (by simp)
  have hsaved := savePayment_within hsave
  obtain ⟨q, hq, hid, hof, hreports⟩ := (hev.trans hsaved.evolves).reported hp
  have horders₁ : db₁.orders = db.orders := hsaved.orders (by simp) (by simp) (by simp)
  have hfiled₁ : Filed db₁ := hsaved.filed hfiled
  have hflag : ∀ {kind : ReconciliationKind} {ppid : Option String}, kind ∈ refusals →
      SuccessOutcome seen db (flagPayment db₁ kind p ppid) e := by
    intro kind ppid hkind
    refine .noted (flagPayment_noted hkind hfiled₁ hq hid hreports) ?_
    rw [(flagPayment_within (refusal_flags hkind p.id) ..).orders (by simp) (by simp) (by simp), horders₁]
  rcases settleOrder_ok hset with ⟨_, rfl⟩ | ⟨order, hfound, ⟨_, rfl⟩ | ⟨hpending, hmark⟩⟩
  · exact hflag (by simp [refusals])
  · exact hflag (by simp [refusals])
  obtain ⟨paid, hafter, hpaid, hothers⟩ := markPaid_paid hmark hpending
  have hbefore : db.orders.get? q.orderId = some order := by
    rw [hof, ← horders₁]
    exact hfound
  have hpayments : db'.payments = db₁.payments := (markPaid_within hmark).payments (by simp) (by simp)
  rw [← hpayments] at hq
  refine .paid (byProviderPaymentId_some hp).1 hid hq hreports hbefore hpending hafter hpaid (fun id hne => ?_) ?_
  · rw [hothers id hne, horders₁]
  · rcases savePayment_succeeded hsave with hs | ⟨q', hq', hs⟩
    · exact .inl hs
    · have hget : db₁.payments.get? q.id = some q := by
        rw [← hpayments]
        exact Table.get?_of_mem hq
      rw [← hid, hget] at hq'
      cases hq'
      exact .inr hs

/-! ### Commits -/

/-- The step commits the handling of the event `e`, whose transaction first saw `seen`: a live delivery,
    or a deferred event that its recovery applied. -/
def Commits (cfg : Settings) (t : Taken Sys Label) (e : WebhookEvent) (seen : Db) : Prop :=
  (∃ pid newId now, t.label = .process pid newId now ∧ t.pre.proc? pid = some (.delivery e seen) ∧
      processWebhookEvent cfg seen (markWebhookVerified t.pre.db e.configId) e newId now = .ok t.post.db) ∨
    ∃ pid newId now row db, t.label = .recoverCommit pid newId now ∧
      t.pre.proc? pid = some (.recovery row seen) ∧ e = row.rebuild ∧
      applyDeferredEvent cfg seen t.pre.db e newId now = .ok db ∧
      t.post.db = resolveRecovered { db with
        deferred := db.deferred.replace { row with attempts := row.attempts + 1, status := .recovered } }
        (recoveredKeys row)

theorem Noted.kept (h : Noted db e) (hpayments : Table.Kept Payment.Same db.payments db'.payments)
    (hrecords : Table.Kept PaymentReconciliation.Same db.reconciliations db'.reconciliations) : Noted db' e := by
  cases h with
  | unmatched h => exact .unmatched (filed_of_kept hrecords h)
  | flagged hp hreports hr hkind hkey hpayment =>
    rename_i p r kind
    obtain ⟨p', hp', hpsame⟩ := hpayments p.id p (Table.get?_of_mem hp)
    obtain ⟨r', hr', hrsame⟩ := hrecords r.dedupeKey r (Table.get?_of_mem hr)
    refine .flagged (Table.mem_of_get? hp') ⟨?_, ?_⟩ (Table.mem_of_get? hr') hkind ?_ ?_
    · rw [hpsame.providerPaymentId]
      exact hreports.1
    · rw [hpsame.provider]
      exact hreports.2
    · rw [hrsame.dedupeKey, hkey, hpsame.id]
    · rw [hrsame.paymentId, hpayment, hpsame.id]

/-- What a transaction writes after the handler changes nothing of its outcome. -/
theorem SuccessOutcome.after {K : List WriteKind} {db₁ : Db} (h : SuccessOutcome seen db db₁ e)
    (hw : Within K db₁ db') (hi : WriteKind.insertOrder ∉ K) (ho : WriteKind.orderStatus ∉ K)
    (hr : WriteKind.orderRest ∉ K) (hp : WriteKind.payment ∉ K) (hip : WriteKind.insertPayment ∉ K) :
    SuccessOutcome seen db db' e := by
  have horders := hw.orders hi ho hr
  cases h with
  | noted hnoted hsame => exact .noted (hnoted.kept hw.evolves.payments hw.records_kept) (horders.trans hsame)
  | paid hq hqp hpay hreports hbefore hpending hafter hpaid hothers hstatus =>
    rw [← hw.payments hip hp] at hpay
    rw [← horders] at hafter
    refine .paid hq hqp hpay hreports hbefore hpending hafter hpaid (fun id hne => ?_) hstatus
    rw [horders]
    exact hothers id hne

theorem Commits.outcome {t : Taken Sys Label} (h : Commits cfg t e seen) (hc : Coherent t.pre)
    (hfiled : Filed t.pre.db) (htype : e.eventType = .paymentSucceeded) :
    SuccessOutcome seen t.pre.db t.post.db e := by
  rcases h with ⟨pid, newId, now, _, hproc, hrun⟩ | ⟨pid, newId, now, row, db₁, _, hproc, _, hrun, hpost⟩
  · have hmark := markWebhookVerified_within t.pre.db e.configId
    obtain ⟨db₁, hhandle, hfinish⟩ := processWebhookEvent_ok hrun
    simp only [handleEvent, htype] at hhandle
    have hout := handlePaymentSucceeded_outcome ((hc.seen hproc rfl).trans hmark.evolves)
      (hmark.filed hfiled) hhandle
    have hevent : Within [.event] db₁ t.post.db := Within.one hfinish (by simp)
    have := hout.after hevent (by simp) (by simp) (by simp) (by simp) (by simp)
    have horders := hmark.orders (by simp) (by simp) (by simp)
    cases this with
    | noted hnoted hsame => exact .noted hnoted (hsame.trans horders)
    | paid hq hqp hpay hreports hbefore hpending hafter hpaid hothers hstatus =>
      rw [horders] at hbefore
      exact .paid hq hqp hpay hreports hbefore hpending hafter hpaid
        (fun id hne => (hothers id hne).trans (by rw [horders])) hstatus
  · simp only [applyDeferredEvent, htype] at hrun
    have hout := handlePaymentSucceeded_outcome (hc.seen hproc rfl) hfiled hrun
    have hdone : Within [.deferred, .resolve] db₁ t.post.db := by
      rw [hpost]
      exact ((Within.one (K := [.deferred]) (w := .deferred _) rfl (by simp)).mono (by simp)).trans
        ((resolveRecovered_within _ _).mono (by simp))
    exact hout.after hdone (by simp) (by simp) (by simp) (by simp) (by simp)

/-! ### Runs -/

/-- A call takes every order along the permitted transitions. -/
theorem Within.leads {K : List WriteKind} (h : Within K db db') :
    Table.Kept (fun o o' : Order => o.status.Leads o'.status) db.orders db'.orders := by
  have hrefl : ∀ o : Order, o.status.Leads o.status := fun o => .refl
  refine Writes.relates (R := fun a b : Db =>
      Table.Kept (fun o o' : Order => o.status.Leads o'.status) a.orders b.orders)
    (fun a => .refl hrefl a.orders) (fun h₁ h₂ => .trans Relation.ReflTransGen.trans h₁ h₂) (fun _ hw => ?_) h
  rcases write_orders hw with heq | ⟨row, _, ht⟩ | ⟨id, c, old, _, hold, hguard, heq⟩
  · rw [heq]
    exact .refl hrefl _
  · exact Table.kept_insert? hrefl ht
  · rw [heq]
    refine Table.kept_replace hrefl (r := old) (Table.get?_of_mem (Table.mem_of_get? hold)) ?_
    by_cases hsame : (old.patch c).status = old.status
    · rw [hsame]
      exact .refl
    · exact .single ((ordersLifecycleGuard_ok hguard).2 hsame).1

theorem OrderStatus.Leads.settled {a b : OrderStatus} (h : a.Leads b) (ha : a.settled = true) :
    b.settled = true := by
  induction h with
  | refl => exact ha
  | tail _ hab ih =>
    revert ih hab
    rename_i b c _
    cases b <;> cases c <;> simp [OrderStatus.allowed, OrderStatus.settled]

theorem Answered.step (h : Answered s.db e) (hs : step cfg s l = some s') : Answered s'.db e := by
  have hev := step_evolves hs
  obtain ⟨K, hK⟩ := (step_change hs).within
  cases h with
  | noted h => exact .noted (h.kept hev.payments hK.records_kept)
  | settled hp hreports ho hsettled =>
    rename_i p o
    obtain ⟨p', hp', hpsame⟩ := hev.payments p.id p (Table.get?_of_mem hp)
    obtain ⟨o', ho', hleads⟩ := hK.leads _ o ho
    refine .settled (Table.mem_of_get? hp') ⟨?_, ?_⟩ (by rw [hpsame.orderId]; exact ho') (hleads.settled hsettled)
    · rw [hpsame.providerPaymentId]
      exact hreports.1
    · rw [hpsame.provider]
      exact hreports.2

theorem SuccessOutcome.answered (h : SuccessOutcome seen db db' e) : Answered db' e := by
  cases h with
  | noted h _ => exact .noted h
  | paid hq hqp hp hreports hbefore hpending hafter hpaid hothers hstatus =>
    rename_i q p o o'
    have hid : o.id = p.orderId := Table.key_of_get? hbefore
    rw [hid] at hafter
    exact .settled hp hreports hafter (by rw [hpaid]; rfl)

/-- In every run, each committed handling of a reported success either left a record or paid exactly the
    pending order of its payment, and the account of it still stands at the end. -/
theorem success_accounted (h₀ : Initial s₀) (h : Run cfg s₀ tr s) : ∀ t ∈ tr, ∀ e seen, Commits cfg t e seen →
    e.eventType = .paymentSucceeded → SuccessOutcome seen t.pre.db t.post.db e ∧ Answered s.db e := by
  induction h with
  | nil =>
    intro t ht
    cases ht
  | cons run hs ih =>
    intro t ht e seen hcommits htype
    rcases List.mem_cons.mp ht with rfl | hold
    · have hout := hcommits.outcome (coherent_of_run h₀ run) (filed_of_run h₀ run) htype
      exact ⟨hout, hout.answered⟩
    · obtain ⟨hout, hanswered⟩ := ih t hold e seen hcommits htype
      exact ⟨hout, hanswered.step hs⟩

/-- The event a process handles, and what its transaction first saw. -/
def Sys.delivering (s : Sys) (pid : Id) : Option (WebhookEvent × Db) :=
  match s.proc? pid with
  | some (.delivery e seen) => some (e, seen)
  | _ => none

theorem delivering_eq_some {pid : Id} {x : WebhookEvent × Db} (h : s.delivering pid = some x) :
    s.proc? pid = some (.delivery x.1 x.2) := by
  unfold Sys.delivering at h
  split at h
  · rename_i e seen hproc
    cases h
    exact hproc
  · cases h

/-- A delivery whose process is gone after its step was committed. -/
theorem process_commits {pid newId : Id} (hproc : s.proc? pid = some (.delivery e seen))
    (hs : step cfg s (.process pid newId now) = some s') (hgone : s'.proc? pid = none) :
    Commits cfg ⟨s, .process pid newId now, s'⟩ e seen := by
  refine .inl ⟨pid, newId, now, rfl, hproc, ?_⟩
  simp only [step, hproc, Option.some.injEq] at hs
  subst hs
  unfold process at hgone ⊢
  split at hgone
  · rename_i db hrun
    rw [hrun]
    rfl
  · have hthere : (s.continue_ pid s.db (.failed e)).proc? pid = some (.failed e) :=
      proc?_eq_some.mpr ((mem_continue hproc).mpr (.inl rfl))
    rw [hthere] at hgone
    cases hgone

/-- The success of the one payment of an order is delivered: the order is paid, and stays accounted for. -/
theorem success_accounted_paid_order : ∃ tr s, Run smallSettings smallShop tr s ∧
    ∃ t ∈ tr, ∃ e seen, Commits smallSettings t e seen ∧ e.eventType = .paymentSucceeded ∧
      SuccessOutcome seen t.pre.db t.post.db e ∧ Answered s.db e := by
  obtain ⟨tr, s, hrun, ⟨x, hx, htype⟩, s', hs, hgone⟩ := exists_exec (step smallSettings) smallShop
    (P := fun _ s => (∃ x ∈ s.delivering 1, x.1.eventType = .paymentSucceeded) ∧
      ∃ s' ∈ step smallSettings s (.process 1 0 0), (s'.proc? 1).isNone = true)
    [.begin_ 1 (buyTwo 1), .commit 1 0, .payBegin 1 1, .payCreated 1 "pi_1", .payRecord 1 1,
      .deliver 1 (paidEvent "evt_1" "pi_1")] (by decide +kernel)
  have hcommits := process_commits (delivering_eq_some hx) hs (Option.isNone_iff_eq_none.mp hgone)
  have hrun' : Run smallSettings smallShop _ s' := .cons hrun hs
  obtain ⟨hout, hanswered⟩ := success_accounted smallShop_initial hrun' _ List.mem_cons_self x.1 x.2 hcommits htype
  exact ⟨_, s', hrun', _, List.mem_cons_self, x.1, x.2, hcommits, htype, hout, hanswered⟩

end NovaCart
