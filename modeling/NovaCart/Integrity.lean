import NovaCart.StockLaw

/-! What stays true of a row once it is written.

    `Evolves` relates a database to a later one: rows are never deleted, and the columns that say what
    a row is about never change. Every proper statement evolves the database, so every step does, and
    what a process read in an earlier transaction is still there when it writes. -/

namespace NovaCart

open Schemes

/-! ### Fixed columns -/

/-- The same payment, perhaps with another status or other refund columns. -/
structure Payment.Same (p p' : Payment) : Prop where
  id : p'.id = p.id
  orderId : p'.orderId = p.orderId
  provider : p'.provider = p.provider
  providerConfigId : p'.providerConfigId = p.providerConfigId
  providerPaymentId : p'.providerPaymentId = p.providerPaymentId
  amountCents : p'.amountCents = p.amountCents
  currency : p'.currency = p.currency

theorem Payment.Same.refl (p : Payment) : p.Same p := ⟨rfl, rfl, rfl, rfl, rfl, rfl, rfl⟩

theorem Payment.Same.trans {p₁ p₂ p₃ : Payment} (h₁ : p₁.Same p₂) (h₂ : p₂.Same p₃) : p₁.Same p₃ where
  id := h₂.id.trans h₁.id
  orderId := h₂.orderId.trans h₁.orderId
  provider := h₂.provider.trans h₁.provider
  providerConfigId := h₂.providerConfigId.trans h₁.providerConfigId
  providerPaymentId := h₂.providerPaymentId.trans h₁.providerPaymentId
  amountCents := h₂.amountCents.trans h₁.amountCents
  currency := h₂.currency.trans h₁.currency

/-- The same order; its stock release, once set, is fixed too. -/
structure Order.Same (o o' : Order) : Prop where
  id : o'.id = o.id
  totalCents : o'.totalCents = o.totalCents
  currency : o'.currency = o.currency
  stockReleasedAt : o.stockReleasedAt ≠ none → o'.stockReleasedAt = o.stockReleasedAt

theorem Order.Same.refl (o : Order) : o.Same o := ⟨rfl, rfl, rfl, fun _ => rfl⟩

theorem Order.Same.trans {o₁ o₂ o₃ : Order} (h₁ : o₁.Same o₂) (h₂ : o₂.Same o₃) : o₁.Same o₃ where
  id := h₂.id.trans h₁.id
  totalCents := h₂.totalCents.trans h₁.totalCents
  currency := h₂.currency.trans h₁.currency
  stockReleasedAt h := by
    have h₁₂ := h₁.stockReleasedAt h
    rw [← h₁₂]
    exact h₂.stockReleasedAt (by rw [h₁₂]; exact h)

/-- The same refund; a final status is fixed too. -/
structure Refund.Same (r r' : Refund) : Prop where
  id : r'.id = r.id
  paymentId : r'.paymentId = r.paymentId
  orderId : r'.orderId = r.orderId
  amountCents : r'.amountCents = r.amountCents
  cancelsOrder : r'.cancelsOrder = r.cancelsOrder
  origin : r'.origin = r.origin
  final : r.status.final = true → r'.status = r.status

theorem Refund.Same.refl (r : Refund) : r.Same r := ⟨rfl, rfl, rfl, rfl, rfl, rfl, fun _ => rfl⟩

theorem Refund.Same.trans {r₁ r₂ r₃ : Refund} (h₁ : r₁.Same r₂) (h₂ : r₂.Same r₃) : r₁.Same r₃ where
  id := h₂.id.trans h₁.id
  paymentId := h₂.paymentId.trans h₁.paymentId
  orderId := h₂.orderId.trans h₁.orderId
  amountCents := h₂.amountCents.trans h₁.amountCents
  cancelsOrder := h₂.cancelsOrder.trans h₁.cancelsOrder
  origin := h₂.origin.trans h₁.origin
  final h := by
    have h₁₂ := h₁.final h
    rw [← h₁₂]
    exact h₂.final (by rw [h₁₂]; exact h)

structure Dispute.Same (d d' : Dispute) : Prop where
  id : d'.id = d.id
  provider : d'.provider = d.provider
  providerDisputeId : d'.providerDisputeId = d.providerDisputeId
  paymentId : d'.paymentId = d.paymentId

theorem Dispute.Same.refl (d : Dispute) : d.Same d := ⟨rfl, rfl, rfl, rfl⟩

theorem Dispute.Same.trans {d₁ d₂ d₃ : Dispute} (h₁ : d₁.Same d₂) (h₂ : d₂.Same d₃) : d₁.Same d₃ where
  id := h₂.id.trans h₁.id
  provider := h₂.provider.trans h₁.provider
  providerDisputeId := h₂.providerDisputeId.trans h₁.providerDisputeId
  paymentId := h₂.paymentId.trans h₁.paymentId

/-- A configuration of the same provider. -/
structure PaymentProviderConfig.Same (c c' : PaymentProviderConfig) : Prop where
  provider : c'.provider = c.provider

theorem PaymentProviderConfig.Same.refl (c : PaymentProviderConfig) : c.Same c := ⟨rfl⟩

theorem PaymentProviderConfig.Same.trans {c₁ c₂ c₃ : PaymentProviderConfig} (h₁ : c₁.Same c₂)
    (h₂ : c₂.Same c₃) : c₁.Same c₃ := ⟨h₂.provider.trans h₁.provider⟩

/-! ### Evolution of the database -/

structure Evolves (db db' : Db) : Prop where
  payments : Table.Kept Payment.Same db.payments db'.payments
  orders : Table.Kept Order.Same db.orders db'.orders
  refunds : Table.Kept Refund.Same db.refunds db'.refunds
  disputes : Table.Kept Dispute.Same db.disputes db'.disputes
  configs : Table.Kept PaymentProviderConfig.Same db.configs db'.configs
  stock : db.stock.Grows db'.stock

theorem Evolves.refl (db : Db) : Evolves db db where
  payments := .refl Payment.Same.refl _
  orders := .refl Order.Same.refl _
  refunds := .refl Refund.Same.refl _
  disputes := .refl Dispute.Same.refl _
  configs := .refl PaymentProviderConfig.Same.refl _
  stock := .refl _

theorem Evolves.trans {db₁ db₂ db₃ : Db} (h₁ : Evolves db₁ db₂) (h₂ : Evolves db₂ db₃) :
    Evolves db₁ db₃ where
  payments := Table.Kept.trans (R := Payment.Same) Payment.Same.trans h₁.payments h₂.payments
  orders := Table.Kept.trans (R := Order.Same) Order.Same.trans h₁.orders h₂.orders
  refunds := Table.Kept.trans (R := Refund.Same) Refund.Same.trans h₁.refunds h₂.refunds
  disputes := Table.Kept.trans (R := Dispute.Same) Dispute.Same.trans h₁.disputes h₂.disputes
  configs := Table.Kept.trans (R := PaymentProviderConfig.Same) PaymentProviderConfig.Same.trans
    h₁.configs h₂.configs
  stock := h₁.stock.trans h₂.stock

theorem Payment.patch_same (p : Payment) (c : PaymentPatch) : p.Same (p.patch c) :=
  ⟨rfl, rfl, rfl, rfl, rfl, rfl, rfl⟩

theorem Dispute.patch_same (d : Dispute) (c : DisputePatch) : d.Same (d.patch c) :=
  ⟨rfl, rfl, rfl, rfl⟩

theorem Order.patch_same {db : Db} {o : Order} {c : OrderPatch}
    (h : db.ordersLifecycleGuard o (o.patch c) = .ok ()) : o.Same (o.patch c) where
  id := rfl
  totalCents := rfl
  currency := rfl
  stockReleasedAt hset := (ordersLifecycleGuard_ok h).1.resolve_left hset

theorem Refund.patch_same {r : Refund} {c : RefundPatch}
    (h : r.status.final = true → (r.patch c).status = r.status) : r.Same (r.patch c) :=
  ⟨rfl, rfl, rfl, rfl, rfl, rfl, h⟩

/-- A proper statement evolves the database. -/
theorem write_evolves {db db' : Db} {w : Write} (h : db.write w = .ok db') (hp : w.Proper db) :
    Evolves db db' := by
  cases w with
  | stock w =>
    obtain ⟨s, hs, h⟩ := bind_ok h
    cases h
    exact { Evolves.refl db with stock := Stock.write_grows hs }
  | insertOrder row =>
    obtain ⟨t, ht, h⟩ := need_bind_ok h
    cases h
    exact { Evolves.refl db with orders := Table.kept_insert? Order.Same.refl ht }
  | order id c =>
    obtain ⟨old, hold, hguard, rfl⟩ := updateOrder_ok h
    have hget : db.orders.get? (Keyed.key (old.patch c)) = some old :=
      Table.get?_of_mem (Table.mem_of_get? hold)
    exact { Evolves.refl db with
      orders := Table.kept_replace Order.Same.refl hget (Order.patch_same hguard) }
  | insertPayment row =>
    obtain ⟨_, _, _, _, t, ht, rfl⟩ := insertPayment_ok h
    exact { Evolves.refl db with payments := Table.kept_insert? Payment.Same.refl ht }
  | payment id c =>
    obtain ⟨old, hold, _, rfl⟩ := updatePayment_ok h
    have hget : db.payments.get? (Keyed.key (old.patch c)) = some old :=
      Table.get?_of_mem (Table.mem_of_get? hold)
    exact { Evolves.refl db with
      payments := Table.kept_replace Payment.Same.refl hget (old.patch_same c) }
  | insertRefund row =>
    obtain ⟨_, _, _, _, _, t, ht, rfl⟩ := insertRefund_ok h
    exact { Evolves.refl db with refunds := Table.kept_insert? Refund.Same.refl ht }
  | refund id c =>
    obtain ⟨old, hold, hfinal, _, _, rfl⟩ := updateRefund_ok h
    have hget : db.refunds.get? (Keyed.key (old.patch c)) = some old :=
      Table.get?_of_mem (Table.mem_of_get? hold)
    exact { Evolves.refl db with
      refunds := Table.kept_replace Refund.Same.refl hget (Refund.patch_same hfinal) }
  | insertDispute row =>
    obtain ⟨_, t, ht, rfl⟩ := insertDispute_ok h
    exact { Evolves.refl db with disputes := Table.kept_insert? Dispute.Same.refl ht }
  | dispute id c =>
    obtain ⟨old, hold, _, rfl⟩ := updateDispute_ok h
    have hget : db.disputes.get? (Keyed.key (old.patch c)) = some old :=
      Table.get?_of_mem (Table.mem_of_get? hold)
    exact { Evolves.refl db with
      disputes := Table.kept_replace Dispute.Same.refl hget (old.patch_same c) }
  | insertConfig row =>
    obtain ⟨t, ht, h⟩ := need_bind_ok h
    cases h
    exact { Evolves.refl db with configs := Table.kept_insert? PaymentProviderConfig.Same.refl ht }
  | config row =>
    cases h
    cases hold : db.configs.get? row.id with
    | none =>
      have hsame : ∀ k c, db.configs.get? k = some c →
          (db.configs.replace row).get? k = some c := by
        intro k c hc
        rw [Table.get?_replace_of_ne, hc]
        rintro rfl
        have : db.configs.get? row.id = some c := hc
        rw [hold] at this
        cases this
      exact { Evolves.refl db with configs := fun k c hc => ⟨c, hsame k c hc, .refl c⟩ }
    | some old =>
      exact { Evolves.refl db with
        configs := Table.kept_replace PaymentProviderConfig.Same.refl hold ⟨hp old hold⟩ }
  | reconcile row =>
    cases h
    unfold Db.record
    cases db.reconciliations.insert? row with
    | none => exact .refl db
    | some t => exact { Evolves.refl db with }
  | resolve k resolution note by_ =>
    cases h
    unfold Db.resolveRecord
    split
    · exact .refl db
    · split
      · exact { Evolves.refl db with }
      · exact .refl db
  | event row =>
    cases h
    unfold Db.upsertEvent
    cases db.events.insert? row with
    | none => exact { Evolves.refl db with }
    | some t => exact { Evolves.refl db with }
  | defer row =>
    cases h
    unfold Db.insertDeferred
    cases db.deferred.insert? row with
    | none => exact .refl db
    | some t => exact { Evolves.refl db with }
  | insertReturn row => obtain ⟨t, _, h⟩ := need_bind_ok h; cases h; exact { Evolves.refl db with }
  | insertShipment row => obtain ⟨t, _, h⟩ := need_bind_ok h; cases h; exact { Evolves.refl db with }
  | insertInvoice row => obtain ⟨t, _, h⟩ := need_bind_ok h; cases h; exact { Evolves.refl db with }
  | history row => cases h; exact { Evolves.refl db with }
  | deferred row => cases h; exact { Evolves.refl db with }
  | returned row => cases h; exact { Evolves.refl db with }

theorem Within.evolves {K : List WriteKind} {db db' : Db} (h : Within K db db') : Evolves db db' :=
  Writes.relates Evolves.refl Evolves.trans (fun hw h => write_evolves h hw.2) h

/-! ### Steps, grouped by what they may write -/

/-- What the steps between the main transactions write. -/
def quietKinds : List WriteKind := [.config, .event, .reconcile, .refund]

/-- The database after a step: one of the main transactions, or at most records, event rows, attempt
    counters and configuration flags. -/
inductive Change (cfg : Settings) (s : Sys) (db' : Db) : Prop
  | op {pid : Id} {op : Op} {seen : Db} {now : Time} (hproc : s.proc? pid = some (.tx op seen))
      (hrun : op.run cfg seen s.db now = .ok db')
  | process {pid newId : Id} {now : Time} {e : WebhookEvent} {seen : Db}
      (hproc : s.proc? pid = some (.delivery e seen))
      (hrun : processWebhookEvent cfg seen (markWebhookVerified s.db e.configId) e newId now = .ok db')
  | recover {pid newId : Id} {now : Time} {row : DeferredWebhookEvent} {seen : Db}
      (hproc : s.proc? pid = some (.recovery row seen))
      (hdb : db' = recoverRow cfg seen s.db row newId now)
  | cancel {pid : Id} {now : Time} {call : CancelCall} (hproc : s.proc? pid = some (.cancel call))
      (hrun : cancelFinish s.db call now = .ok db')
  | pay {l : Label} {pid : Id} {call : PayCall} {next : Option PayCall}
      (hproc : s.proc? pid = some (.pay call)) (hrun : PayTx s.db pid call l db' next)
  | answer {refundId : Id} {report : RefundReport} {now : Time}
      (hrun : finishRefund s.db refundId report now = .ok db')
  | quiet (h : Within quietKinds s.db db')

variable {cfg : Settings} {s s' s₀ : Sys} {l : Label} {tr : List (Taken Sys Label)}

theorem Transition.change (h : Transition cfg s l s') : Change cfg s s'.db := by
  cases h with
  | op hproc hrun => exact .op hproc hrun
  | process hproc hrun => exact .process hproc hrun
  | recover hproc => exact .recover hproc rfl
  | cancelFinish hproc _ _ hrun => exact .cancel hproc hrun
  | payDone hproc hrun => exact .pay hproc hrun
  | payNext hproc hrun => exact .pay hproc hrun
  | refundAnswer _ hrun => exact .answer hrun
  | duplicate _ _ => exact .quiet ((markWebhookVerified_within _ _).mono (by decide))
  | failure _ _ hrun => exact .quiet ((recordFailedEvent_within hrun).mono (by decide))
  | cancelReport _ => exact .quiet ((cancelReport_within _ _).mono (by decide))
  | refundBegin hrun hspawn =>
    rw [spawn_db hspawn]
    exact .quiet ((beginRefundAttempt_within hrun).mono (by decide))
  | refundBlocked hrun => exact .quiet ((beginRefundAttempt_within hrun).mono (by decide))
  | refundError _ hrun => exact .quiet ((recordRefundAttemptFailed_within hrun).mono (by decide))
  | started _ hspawn =>
    rw [spawn_db hspawn]
    exact .quiet (.refl _)
  | continued _ _ => exact .quiet (.refl _)
  | ended _ => exact .quiet (.refl _)

/-- The transaction of a delivery, the `last_used` mark of its configuration included. -/
theorem process_within {e : WebhookEvent} {seen db db' : Db} {id : Id} {now : Time}
    (h : processWebhookEvent cfg seen (markWebhookVerified db e.configId) e id now = .ok db') :
    Within (.config :: .event :: handlerKinds) db db' :=
  ((markWebhookVerified_within _ _).mono (by simp)).trans
    ((processWebhookEvent_within h).mono (by simp))

theorem Change.within {db' : Db} (h : Change cfg s db') : ∃ K, Within K s.db db' := by
  cases h with
  | op _ hrun => exact ⟨_, run_within hrun⟩
  | process _ hrun => exact ⟨_, process_within hrun⟩
  | recover _ hdb => rw [hdb]; exact ⟨_, recoverRow_within ..⟩
  | cancel _ hrun => exact ⟨_, cancelFinish_within hrun⟩
  | pay _ hrun => exact ⟨_, payTx_within hrun⟩
  | answer hrun => exact ⟨_, finishRefund_within hrun⟩
  | quiet h => exact ⟨_, h⟩

theorem step_change (h : step cfg s l = some s') : Change cfg s s'.db := (step_transition h).change

theorem step_evolves (h : step cfg s l = some s') : Evolves s.db s'.db := by
  obtain ⟨K, hK⟩ := (step_change h).within
  exact hK.evolves

/-! ### What a process read is still there -/

/-- What the process read before its last transaction. -/
def Proc.seen? : Proc → Option Db
  | .tx _ seen | .delivery _ seen | .recovery _ seen => some seen
  | .failed _ | .cancel _ | .pay _ | .refund _ => none

theorem Started.seen {p : Proc} (h : Started cfg s p) {seen : Db} (hseen : p.seen? = some seen) :
    seen = s.db := by
  cases h with
  | tx op => exact (Option.some.inj hseen).symm
  | delivery _ _ _ => exact (Option.some.inj hseen).symm
  | recovery _ _ _ => exact (Option.some.inj hseen).symm
  | cancel _ => cases hseen
  | pay _ => cases hseen

/-- What an open transaction read is the database some step of the run started from. -/
theorem seen_taken (h₀ : Initial s₀) (h : Run cfg s₀ tr s) {pid : Id} {p : Proc} {seen : Db}
    (hproc : s.proc? pid = some p) (hseen : p.seen? = some seen) : ∃ t ∈ tr, t.pre.db = seen := by
  have hall : ∀ x ∈ s.procs.rows, ∀ seen, x.proc.seen? = some seen → ∃ t ∈ tr, t.pre.db = seen := by
    refine Exec.history (I := fun tr s => ∀ x ∈ s.procs.rows, ∀ seen, x.proc.seen? = some seen →
      ∃ t ∈ tr, t.pre.db = seen) ?_ (fun {tr s l s'} _ hs ih x hx seen hseen => ?_) h
    · intro x hx
      rw [h₀.procs] at hx
      cases hx
    · rcases (step_transition hs).entries hx with hold | hborn
      · obtain ⟨t, ht, heq⟩ := ih x hold seen hseen
        exact ⟨t, List.mem_cons_of_mem _ ht, heq⟩
      · cases hborn with
        | started hp _ => exact ⟨_, List.mem_cons_self, (hp.seen hseen).symm⟩
        | continued _ hp _ =>
          cases hp with
          | failed _ _ => cases hseen
          | asked _ => cases hseen
          | created _ _ => cases hseen
        | payNext _ _ => cases hseen
        | refund _ => cases hseen
  exact hall _ (proc?_eq_some.mp hproc) seen hseen

theorem run_evolves (h : Run cfg s₀ tr s) : ∀ t ∈ tr, Evolves t.pre.db s.db := by
  refine Exec.history (I := fun tr s => ∀ t ∈ tr, Evolves t.pre.db s.db) ?_
    (fun {tr s l s'} _ hs ih t ht => ?_) h
  · intro t ht
    cases ht
  · rcases List.mem_cons.mp ht with rfl | hold
    · exact step_evolves hs
    · exact (ih t hold).trans (step_evolves hs)

theorem seen_evolves (h₀ : Initial s₀) (h : Run cfg s₀ tr s) {pid : Id} {p : Proc} {seen : Db}
    (hproc : s.proc? pid = some p) (hseen : p.seen? = some seen) : Evolves seen s.db := by
  obtain ⟨t, ht, rfl⟩ := seen_taken h₀ h hproc hseen
  exact run_evolves h t ht

end NovaCart
