import NovaCart.Integrity

/-! What the rows of a reachable database are bound to.

    A payment carries the total and currency of its order and was created by the provider of its
    configuration; a refund is of a payment of its own order; a record that flags a payment is filed
    under that payment. Each is an invariant of runs: rows that exist keep their fixed columns
    (`Evolves`), so only the inserts are looked at. -/

namespace NovaCart

open Schemes

variable {cfg : Settings} {s s' s₀ : Sys} {l : Label} {tr : List (Taken Sys Label)} {db db' : Db}

/-! ### One statement, table by table -/

theorem write_payments {w : Write} (h : db.write w = .ok db') :
    db'.payments = db.payments ∨
      (∃ row, w = .insertPayment row ∧ db.payments.insert? row = some db'.payments) ∨
      ∃ id c old, w = .payment id c ∧ db.payments.get? id = some old ∧
        db'.payments = db.payments.replace (old.patch c) := by
  cases w with
  | insertPayment row =>
    obtain ⟨_, _, _, _, t, ht, rfl⟩ := insertPayment_ok h
    exact .inr (.inl ⟨row, rfl, ht⟩)
  | payment id c =>
    obtain ⟨old, hold, _, rfl⟩ := updatePayment_ok h
    exact .inr (.inr ⟨id, c, old, rfl, hold, rfl⟩)
  | order id c => exact .inl (by rw [write_mask h, order_mask])
  | reconcile row => exact .inl (by rw [write_mask h, reconcile_mask])
  | _ => exact .inl (by rw [write_mask h]; rfl)

theorem write_refunds {w : Write} (h : db.write w = .ok db') :
    db'.refunds = db.refunds ∨
      (∃ row, w = .insertRefund row ∧ db.refunds.insert? row = some db'.refunds) ∨
      ∃ id c old, w = .refund id c ∧ db.refunds.get? id = some old ∧
        (old.status.final = true → (old.patch c).status = old.status) ∧
        db'.refunds = db.refunds.replace (old.patch c) := by
  cases w with
  | insertRefund row =>
    obtain ⟨_, _, _, _, _, t, ht, rfl⟩ := insertRefund_ok h
    exact .inr (.inl ⟨row, rfl, ht⟩)
  | refund id c =>
    obtain ⟨old, hold, hfinal, _, _, rfl⟩ := updateRefund_ok h
    exact .inr (.inr ⟨id, c, old, rfl, hold, hfinal, rfl⟩)
  | order id c => exact .inl (by rw [write_mask h, order_mask])
  | reconcile row => exact .inl (by rw [write_mask h, reconcile_mask])
  | _ => exact .inl (by rw [write_mask h]; rfl)

theorem write_reconciliations {w : Write} (h : db.write w = .ok db') :
    db'.reconciliations = db.reconciliations ∨
      (∃ row, w = .reconcile row ∧ db' = db.record row) ∨
      ∃ k resolution note by_, w = .resolve k resolution note by_ ∧
        db' = db.resolveRecord k resolution note by_ := by
  cases w with
  | reconcile row => exact .inr (.inl ⟨row, rfl, (Except.ok.inj h).symm⟩)
  | resolve k resolution note by_ =>
    exact .inr (.inr ⟨k, resolution, note, by_, rfl, (Except.ok.inj h).symm⟩)
  | order id c => exact .inl (by rw [write_mask h, order_mask])
  | _ => exact .inl (by rw [write_mask h]; rfl)

/-! ### Calls that insert no row -/

theorem Within.payments_stem {K : List WriteKind} (h : Within K db db')
    (hK : WriteKind.insertPayment ∉ K) : Table.Stems Payment.Same db.payments db'.payments := by
  refine Writes.relates (R := fun a b => Table.Stems Payment.Same a.payments b.payments) ?_ ?_
    (fun {a w b} hw hwrite => ?_) h
  · exact fun a => .refl Payment.Same.refl a.payments
  · intro a b c hab hbc
    exact Table.Stems.trans (R := Payment.Same) Payment.Same.trans hab hbc
  · rcases write_payments hwrite with heq | ⟨row, rfl, _⟩ | ⟨id, c, old, rfl, hold, heq⟩
    · rw [heq]
      exact .refl Payment.Same.refl _
    · exact absurd hw.1 hK
    · rw [heq]
      have hget : a.payments.get? (Keyed.key (old.patch c)) = some old :=
        Table.get?_of_mem (Table.mem_of_get? hold)
      exact Table.stems_replace Payment.Same.refl hget (old.patch_same c)

theorem Within.refunds_stem {K : List WriteKind} (h : Within K db db')
    (hK : WriteKind.insertRefund ∉ K) : Table.Stems Refund.Same db.refunds db'.refunds := by
  refine Writes.relates (R := fun a b => Table.Stems Refund.Same a.refunds b.refunds) ?_ ?_
    (fun {a w b} hw hwrite => ?_) h
  · exact fun a => .refl Refund.Same.refl a.refunds
  · intro a b c hab hbc
    exact Table.Stems.trans (R := Refund.Same) Refund.Same.trans hab hbc
  · rcases write_refunds hwrite with heq | ⟨row, rfl, _⟩ | ⟨id, c, old, rfl, hold, hfinal, heq⟩
    · rw [heq]
      exact .refl Refund.Same.refl _
    · exact absurd hw.1 hK
    · rw [heq]
      have hget : a.refunds.get? (Keyed.key (old.patch c)) = some old :=
        Table.get?_of_mem (Table.mem_of_get? hold)
      exact Table.stems_replace Refund.Same.refl hget (Refund.patch_same hfinal)

/-! ### Flagged payments -/

theorem mem_record {row r : PaymentReconciliation} (h : r ∈ (db.record row).reconciliations.rows) :
    r = row ∨ r ∈ db.reconciliations.rows := by
  unfold Db.record at h
  split at h
  · exact .inr h
  · rename_i t ht
    exact (Table.mem_insert? ht).mp h

/-- Closing a record changes neither what it is filed under nor what it is about. -/
theorem mem_resolveRecord {k : DedupeKey} {resolution : Resolution} {note : String} {by_ : Option Id}
    {r : PaymentReconciliation}
    (h : r ∈ (db.resolveRecord k resolution note by_).reconciliations.rows) :
    ∃ r₀ ∈ db.reconciliations.rows, r.dedupeKey = r₀.dedupeKey ∧ r.paymentId = r₀.paymentId ∧
      r.kind = r₀.kind ∧ r.providerPaymentId = r₀.providerPaymentId := by
  unfold Db.resolveRecord at h
  split at h
  · exact ⟨r, h, rfl, rfl, rfl, rfl⟩
  · rename_i old hold
    split at h
    · have hget : db.reconciliations.get? old.dedupeKey = some old :=
        Table.get?_of_mem (Table.mem_of_get? hold)
      rcases (Table.mem_replace (r := old) (by exact hget)).mp h with rfl | ⟨hr, _⟩
      · exact ⟨old, Table.mem_of_get? hold, rfl, rfl, rfl, rfl⟩
      · exact ⟨r, hr, rfl, rfl, rfl, rfl⟩
    · exact ⟨r, h, rfl, rfl, rfl, rfl⟩

/-- Every record that flags a payment is filed under it. -/
def Filed (db : Db) : Prop := ∀ r ∈ db.reconciliations.rows, r.WellKeyed

theorem write_filed {w : Write} (hp : w.Proper db) (h : db.write w = .ok db') (hf : Filed db) :
    Filed db' := by
  rcases write_reconciliations h with heq | ⟨row, rfl, rfl⟩ | ⟨k, resolution, note, by_, rfl, rfl⟩
  · intro r hr
    rw [heq] at hr
    exact hf r hr
  · intro r hr
    rcases mem_record hr with rfl | hold
    · exact hp.1
    · exact hf r hold
  · intro r hr hflags
    obtain ⟨r₀, hr₀, hkey, hpayment, _, _⟩ := mem_resolveRecord hr
    rw [hkey] at hflags ⊢
    rw [hpayment]
    exact hf r₀ hr₀ hflags

theorem Within.filed {K : List WriteKind} (h : Within K db db') (hf : Filed db) : Filed db' :=
  Writes.invariant (fun hw h => write_filed hw.2 h) h hf

theorem filed_of_run (h₀ : Initial s₀) (h : Run cfg s₀ tr s) : Filed s.db := by
  refine h.invariant (I := fun s => Filed s.db) ?_ fun {s l s'} hs hf => ?_
  · intro r hr
    rw [h₀.reconciliations] at hr
    cases hr
  · obtain ⟨K, hK⟩ := (step_change hs).within
    exact hK.filed hf

/-! ### Payments -/

/-- What the constraints of the payments table keep: the provider's ids are unique and the currency
    codes well formed. -/
structure Listed (db : Db) : Prop where
  unique : ∀ p ∈ db.payments.rows, ∀ q ∈ db.payments.rows,
    p.providerPaymentId = q.providerPaymentId → p = q
  currency : ∀ p ∈ db.payments.rows, currencyFormat p.currency = true

theorem write_listed {w : Write} (h : db.write w = .ok db') (hl : Listed db) : Listed db' := by
  rcases write_payments h with heq | ⟨row, rfl, ht⟩ | ⟨id, c, old, rfl, hold, heq⟩
  · refine ⟨?_, ?_⟩
    · rw [heq]
      exact hl.unique
    · rw [heq]
      exact hl.currency
  · obtain ⟨_, _, hfree, _⟩ := insertPayment_ok h
    have hcurrency : currencyFormat row.currency = true := (require_bind_ok h).1
    refine ⟨fun p hp q hq heq => ?_, fun p hp => ?_⟩
    · rcases (Table.mem_insert? ht).mp hp with rfl | hp
      · rcases (Table.mem_insert? ht).mp hq with rfl | hq
        · rfl
        · exact absurd heq.symm (hfree q hq)
      · rcases (Table.mem_insert? ht).mp hq with rfl | hq
        · exact absurd heq (hfree p hp)
        · exact hl.unique p hp q hq heq
    · rcases (Table.mem_insert? ht).mp hp with rfl | hp
      · exact hcurrency
      · exact hl.currency p hp
  · -- a row keeps its id and its provider's id, so two rows that agree now agreed before
    have hget : db.payments.get? (Keyed.key (old.patch c)) = some old :=
      Table.get?_of_mem (Table.mem_of_get? hold)
    have hstems : Table.Stems Payment.Same db.payments db'.payments := by
      rw [heq]
      exact Table.stems_replace Payment.Same.refl hget (old.patch_same c)
    refine ⟨fun p hp q hq hpq => ?_, fun p hp => ?_⟩
    · obtain ⟨p₀, hp₀, hpsame⟩ := hstems p hp
      obtain ⟨q₀, hq₀, hqsame⟩ := hstems q hq
      have hsame : p₀ = q₀ := hl.unique p₀ hp₀ q₀ hq₀ (by
        rw [← hpsame.providerPaymentId, ← hqsame.providerPaymentId, hpq])
      refine db'.payments.eq_of_key_eq hp hq ?_
      show p.id = q.id
      rw [hpsame.id, hqsame.id, hsame]
    · obtain ⟨p₀, hp₀, hsame⟩ := hstems p hp
      rw [hsame.currency]
      exact hl.currency p₀ hp₀

theorem listed_of_run (h₀ : Initial s₀) (h : Run cfg s₀ tr s) : Listed s.db := by
  refine h.invariant (I := fun s => Listed s.db) ⟨?_, ?_⟩ fun {s l s'} hs hl => ?_
  · intro p hp
    rw [h₀.payments] at hp
    cases hp
  · intro p hp
    rw [h₀.payments] at hp
    cases hp
  · obtain ⟨K, hK⟩ := (step_change hs).within
    exact Writes.invariant (fun _ hw hl => write_listed hw hl) hK hl

/-- The provider's id finds its payment. -/
theorem Listed.find (h : Listed db) {p : Payment} (hp : p ∈ db.payments.rows) :
    db.byProviderPaymentId p.providerPaymentId p.provider = some p := by
  obtain ⟨q, hq⟩ : ∃ q, db.byProviderPaymentId p.providerPaymentId p.provider = some q := by
    refine Option.isSome_iff_exists.mp (List.find?_isSome.mpr ⟨p, hp, ?_⟩)
    simp
  obtain ⟨hmem, hppid, _⟩ := byProviderPaymentId_some hq
  rw [hq, h.unique q hmem p hp hppid]

/-- The provider is the one of the configuration, or the environment's Stripe without one. -/
def Db.configuredBy (db : Db) : Option Id → Provider → Prop
  | none, p => p = .stripe
  | some c, p => ∃ row, db.configs.get? c = some row ∧ row.provider = p

/-- An order with this id, total and currency exists. -/
def Db.orderFor (db : Db) (orderId : Id) (total : ℤ) (currency : String) : Prop :=
  ∃ o, db.orders.get? orderId = some o ∧ o.totalCents = total ∧ o.currency = some currency

theorem Evolves.configuredBy (h : Evolves db db') {c : Option Id} {p : Provider}
    (hc : db.configuredBy c p) : db'.configuredBy c p := by
  cases c with
  | none => exact hc
  | some c =>
    obtain ⟨row, hrow, hp⟩ := hc
    obtain ⟨row', hrow', hsame⟩ := h.configs c row hrow
    exact ⟨row', hrow', hsame.provider.trans hp⟩

theorem Evolves.orderFor (h : Evolves db db') {o : Id} {total : ℤ} {currency : String}
    (ho : db.orderFor o total currency) : db'.orderFor o total currency := by
  obtain ⟨row, hrow, htotal, hcurrency⟩ := ho
  obtain ⟨row', hrow', hsame⟩ := h.orders o row hrow
  exact ⟨row', hrow', hsame.totalCents.trans htotal, hsame.currency.trans hcurrency⟩

theorem providerFor_eq {c : Option Id} {p : Provider} (h : db.configuredBy c p) :
    providerFor db c = p := by
  cases c with
  | none => exact h.symm
  | some c =>
    obtain ⟨row, hrow, hp⟩ := h
    simp [providerFor, hrow, hp]

/-- A payment call is about an order's exact total, at the provider of a configuration. -/
structure PayCall.Bound (db : Db) (call : PayCall) : Prop where
  order : db.orderFor call.orderId call.total call.currency
  provider : db.configuredBy call.configId call.provider

structure Payment.Bound (db : Db) (p : Payment) : Prop where
  order : db.orderFor p.orderId p.amountCents p.currency
  provider : db.configuredBy p.providerConfigId p.provider

theorem selectProvider_configured {currency : String} {p : Provider} {c : Option Id}
    (h : selectProvider cfg db currency = .ok (p, c)) : db.configuredBy c p := by
  unfold selectProvider at h
  split at h
  · obtain ⟨_, _, h⟩ := need_bind_ok h
    obtain ⟨_, h⟩ := require_bind_ok h
    obtain ⟨_, h⟩ := require_bind_ok h
    cases h
    rfl
  · obtain ⟨row, hrow, h⟩ := bind_ok h
    cases h
    unfold selectForNewPayment at hrow
    obtain ⟨c, hc, hrow⟩ := need_bind_ok hrow
    obtain ⟨_, hrow⟩ := require_bind_ok hrow
    obtain ⟨_, hrow⟩ := require_bind_ok hrow
    obtain ⟨_, hrow⟩ := require_bind_ok hrow
    obtain ⟨_, hrow⟩ := require_bind_ok hrow
    obtain ⟨_, hrow⟩ := require_bind_ok hrow
    rw [← Except.ok.inj hrow]
    exact ⟨c, Table.get?_of_mem (List.mem_of_find?_eq_some hc), rfl⟩

theorem planPayment_bound {o : Id} {call : PayCall} (h : planPayment cfg db o = .ok call) :
    call.Bound db := by
  obtain ⟨order, horder, h⟩ := bind_ok h
  obtain ⟨_, _, h⟩ := bind_ok h
  obtain ⟨currency, hcurrency, h⟩ := need_bind_ok h
  obtain ⟨⟨provider, configId⟩, hselect, h⟩ := bind_ok h
  obtain ⟨_, _, h⟩ := bind_ok h
  obtain ⟨_, h⟩ := require_bind_ok h
  obtain ⟨_, h⟩ := require_bind_ok h
  split at h
  · cases h
    exact ⟨⟨order, lockOrder_ok horder, rfl, hcurrency⟩, selectProvider_configured hselect⟩
  · cases h

/-- The next stage of a payment call is about the same payment. -/
theorem payTx_bound {pid : Id} {call call' : PayCall} (h : PayTx db pid call l db' (some call'))
    (hb : call.Bound db) :
    call'.Bound db' := by
  have hev := (payTx_within h).evolves
  have hsame : ∃ stage, call' = { call with stage := stage } := by
    cases h with
    | reuse _ hok =>
      obtain ⟨order, _, hok⟩ := bind_ok hok
      obtain ⟨_, _, hok⟩ := bind_ok hok
      obtain ⟨reusable, _, hok⟩ := need_bind_ok hok
      obtain ⟨_, hok⟩ := require_bind_ok hok
      split at hok
      · obtain ⟨_, _, hok⟩ := bind_ok hok
        cases hok
      · obtain ⟨_, _, hok⟩ := bind_ok hok
        cases hok
        exact ⟨_, rfl⟩
    | record _ hok =>
      obtain ⟨order, _, hok⟩ := bind_ok hok
      dsimp only at hok
      split at hok
      · cases hok; exact ⟨_, rfl⟩
      split at hok
      · cases hok
      split at hok
      · cases hok; exact ⟨_, rfl⟩
      · obtain ⟨_, _, hok⟩ := bind_ok hok
        cases hok
    | orphan hstage hdb hnext =>
      rename_i ppid winner answer
      cases winner with
      | none => cases hnext
      | some winner => cases hnext; exact ⟨_, rfl⟩
  obtain ⟨stage, rfl⟩ := hsame
  exact ⟨hev.orderFor hb.order, hev.configuredBy hb.provider⟩

theorem payCall_bound_of_run (h₀ : Initial s₀) (h : Run cfg s₀ tr s) {pid : Id} {call : PayCall}
    (hproc : s.proc? pid = some (.pay call)) : call.Bound s.db := by
  have hall : ∀ x ∈ s.procs.rows, ∀ call, x.proc = .pay call → call.Bound s.db := by
    refine procs_invariant (J := fun db p => ∀ call, p = .pay call → call.Bound db) h₀
      ?_ ?_ ?_ ?_ ?_ h
    · intro _ _ _ _ _ _ hs hJ call hcall
      have hb := hJ call hcall
      exact ⟨(step_evolves hs).orderFor hb.order, (step_evolves hs).configuredBy hb.provider⟩
    · intro _ _ _ _ hp call hcall
      subst hcall
      cases hp with
      | pay hplan => exact planPayment_bound hplan
    · intro _ _ _ _ _ hp hJ call hcall
      subst hcall
      cases hp with
      | created ppid _ =>
        have hb := hJ _ rfl
        exact ⟨hb.order, hb.provider⟩
    · intro _ _ _ call _ _ call' _ hrun hJ c hc
      cases hc
      exact payTx_bound hrun (hJ call rfl)
    · intro _ _ _ _ _ _ _ call hcall
      cases hcall
  exact hall _ (proc?_eq_some.mp hproc) call rfl

/-- The payment a call records. -/
structure PayCall.Records (call : PayCall) (p : Payment) : Prop where
  orderId : p.orderId = call.orderId
  amountCents : p.amountCents = call.total
  currency : p.currency = call.currency
  provider : p.provider = call.provider
  providerConfigId : p.providerConfigId = call.configId
  status : p.status = .pending

theorem payTx_payments {pid : Id} {call : PayCall} {next : Option PayCall}
    (h : PayTx db pid call l db' next) :
    Table.Stems Payment.Same db.payments db'.payments ∨
      ∃ row, db.payments.insert? row = some db'.payments ∧ call.Records row := by
  cases h with
  | reuse _ hok => exact .inl ((payReuse_within hok).payments_stem (by simp))
  | record _ hok =>
    have hrefl := Table.Stems.refl Payment.Same.refl db.payments
    obtain ⟨order, _, hok⟩ := bind_ok hok
    dsimp only at hok
    split at hok
    · cases hok; exact .inl hrefl
    split at hok
    · cases hok; exact .inl hrefl
    split at hok
    · cases hok; exact .inl hrefl
    · obtain ⟨db₁, h₁, hok⟩ := bind_ok hok
      cases hok
      obtain ⟨_, _, _, _, t, ht, rfl⟩ := insertPayment_ok h₁
      exact .inr ⟨_, ht, rfl, rfl, rfl, rfl, rfl, rfl⟩
  | orphan _ hdb _ =>
    subst hdb
    exact .inl ((reconcileIf_within (by decide) (by rfl) ..).payments_stem (by simp))

/-- A payment after a step was there before, or a payment call recorded it in this step. -/
theorem Change.payments (h : Change cfg s db') {p : Payment} (hp : p ∈ db'.payments.rows) :
    (∃ p₀ ∈ s.db.payments.rows, p₀.Same p) ∨
      ∃ pid call, s.proc? pid = some (.pay call) ∧ call.Records p := by
  have hstem : Table.Stems Payment.Same s.db.payments db'.payments →
      ∃ p₀ ∈ s.db.payments.rows, p₀.Same p := fun hst => hst p hp
  cases h with
  | op _ hrun =>
    refine .inl (hstem ((run_within hrun).payments_stem ?_))
    rename_i op _ _ _
    cases op with
    | _ => simp
  | process _ hrun => exact .inl (hstem ((process_within hrun).payments_stem (by decide)))
  | recover _ hdb =>
    subst hdb
    exact .inl (hstem ((recoverRow_within ..).payments_stem (by decide)))
  | cancel _ hrun => exact .inl (hstem ((cancelFinish_within hrun).payments_stem (by simp)))
  | pay hproc hrun =>
    rcases payTx_payments hrun with hst | ⟨row, hrow, hrec⟩
    · exact .inl (hstem hst)
    · rcases (Table.mem_insert? hrow).mp hp with rfl | hold
      · exact .inr ⟨_, _, hproc, hrec⟩
      · exact .inl ⟨p, hold, .refl p⟩
  | answer hrun => exact .inl (hstem ((finishRefund_within hrun).payments_stem (by decide)))
  | quiet h => exact .inl (hstem (h.payments_stem (by decide)))

theorem payment_bound_of_run (h₀ : Initial s₀) (h : Run cfg s₀ tr s) :
    ∀ p ∈ s.db.payments.rows, p.Bound s.db := by
  refine Exec.history (I := fun _ s => ∀ p ∈ s.db.payments.rows, p.Bound s.db) ?_
    (fun {tr s l s'} run hs ih p hp => ?_) h
  · intro p hp
    rw [h₀.payments] at hp
    cases hp
  · have hev := step_evolves hs
    rcases (step_change hs).payments hp with ⟨p₀, hp₀, hsame⟩ | ⟨pid, call, hproc, hrec⟩
    · have hb := ih p₀ hp₀
      refine ⟨?_, ?_⟩
      · rw [hsame.orderId, hsame.amountCents, hsame.currency]
        exact hev.orderFor hb.order
      · rw [hsame.providerConfigId, hsame.provider]
        exact hev.configuredBy hb.provider
    · have hb := payCall_bound_of_run h₀ run hproc
      refine ⟨?_, ?_⟩
      · rw [hrec.orderId, hrec.amountCents, hrec.currency]
        exact hev.orderFor hb.order
      · rw [hrec.providerConfigId, hrec.provider]
        exact hev.configuredBy hb.provider

/-! ### Refunds -/

/-- A refund made at the provider, as it is inserted into `db`. -/
structure External (db : Db) (r : Refund) : Prop where
  payment : ∃ p, db.payments.get? r.paymentId = some p ∧ p.orderId = r.orderId
  origin : r.origin = .provider
  status : r.status = .succeeded
  cancelsOrder : r.cancelsOrder = false

theorem insertRefund_mem {row r : Refund} (h : db.write (.insertRefund row) = .ok db')
    (hr : r ∈ db'.refunds.rows) : r = row ∨ r ∈ db.refunds.rows := by
  obtain ⟨_, _, _, _, _, t, ht, rfl⟩ := insertRefund_ok h
  exact (Table.mem_insert? ht).mp hr

/-- What a one-transaction operation may do to the money tables: one refund is requested. -/
def Requests (db db' : Db) : Prop :=
  db'.payments = db.payments ∧ (db'.refunds = db.refunds ∨
    ∃ row, Requested db row ∧ db.refunds.insert? row = some db'.refunds)

theorem requestRefund_requests {o by_ id id' : Id} {p : Option Id} {cancels : Bool}
    (h : requestRefund db o by_ p cancels id = .ok (db', id')) : Requests db db' := by
  rcases requestRefund_ok h with rfl | ⟨row, hwrite, hreq⟩
  · exact ⟨rfl, .inl rfl⟩
  · obtain ⟨_, _, _, _, _, t, ht, rfl⟩ := insertRefund_ok hwrite
    exact ⟨rfl, .inr ⟨row, hreq, ht⟩⟩

theorem run_requests {op : Op} {seen : Db} {now : Time} (h : op.run cfg seen db now = .ok db') :
    Requests db db' := by
  have hthen : ∀ {db₁ : Db} {w : Write}, Requests db db₁ → db₁.write w = .ok db' →
      (Write.kind w = .resolve ∨ Write.kind w = .returns) → Requests db db' := by
    intro db₁ w hreq hw hk
    have hmask : db'.payments = db₁.payments ∧ db'.refunds = db₁.refunds := by
      rw [write_mask hw]
      rcases hk with hk | hk
      · rw [hk]; exact ⟨rfl, rfl⟩
      · rw [hk]; exact ⟨rfl, rfl⟩
    rw [Requests, hmask.1, hmask.2]
    exact hreq
  have hframe : ∀ {K : List WriteKind}, Within K db db' → WriteKind.insertPayment ∉ K →
      WriteKind.payment ∉ K → WriteKind.insertRefund ∉ K → WriteKind.refund ∉ K →
      Requests db db' := fun hw hip hp hir hr => ⟨hw.payments hip hp, .inl (hw.refunds hir hr)⟩
  cases op with
  | requestRefund o by_ p cancels id =>
    obtain ⟨⟨db₁, id'⟩, h₁, h⟩ := bind_ok h
    cases h
    exact requestRefund_requests h₁
  | refundFromReconciliation k admin id =>
    obtain ⟨record, _, h⟩ := bind_ok h
    split at h
    · obtain ⟨⟨db₁, id'⟩, h₁, h⟩ := bind_ok h
      exact hthen (requestRefund_requests h₁) h (.inl rfl)
    · cases h
  | refundReturn id admin refundId =>
    obtain ⟨ret, _, h⟩ := bind_ok h
    obtain ⟨order, _, h⟩ := bind_ok h
    obtain ⟨_, h⟩ := require_bind_ok h
    obtain ⟨⟨db₁, id'⟩, h₁, h⟩ := bind_ok h
    exact hthen (requestRefund_requests h₁) h (.inr rfl)
  | _ => exact hframe (run_within h) (by simp) (by simp) (by simp) (by simp)

theorem recordExternalRefund_refunds {p : Payment} {prid : String} {amount : Option ℤ}
    {currency : Option String} {id : Id}
    (h : recordExternalRefund db p prid amount currency id = .ok db')
    (hp : ∃ p', db.payments.get? p.id = some p' ∧ p'.orderId = p.orderId) {r : Refund}
    (hr : r ∈ db'.refunds.rows) : r ∈ db.refunds.rows ∨ External db r := by
  obtain ⟨known, _, ⟨_, rfl⟩ | ⟨_, tag, _, rfl⟩ | ⟨_, _, row, db₁, db₂, h₁, hrow, h₂, rfl⟩⟩ :=
    recordExternalRefund_ok h
  · exact .inl hr
  · simp only [reconcile, record_refunds] at hr
    exact .inl hr
  · have hsame : db₂.refunds = db₁.refunds := by rw [write_mask h₂]; rfl
    simp only [reconcile, record_refunds, hsame] at hr
    rcases insertRefund_mem h₁ hr with rfl | hold
    · refine .inr ⟨?_, hrow.origin, hrow.status, hrow.cancelsOrder⟩
      rw [hrow.paymentId, hrow.orderId]
      exact hp
    · exact .inl hold

/-- A payment read earlier is still there, of the same order. -/
theorem Evolves.payment_of_mem {seen : Db} (h : Evolves seen db) {p : Payment}
    (hp : p ∈ seen.payments.rows) : ∃ p', db.payments.get? p.id = some p' ∧ p.Same p' :=
  h.payments p.id p (Table.get?_of_mem hp)

theorem handleRefundEvent_refunds {seen : Db} {e : WebhookEvent} {id : Id} {now : Time}
    (h : handleRefundEvent cfg seen db e id now = .ok db') (hseen : Evolves seen db) {r : Refund}
    (hr : r ∈ db'.refunds.rows) :
    (∃ r₀ ∈ db.refunds.rows, r₀.Same r) ∨ External db r := by
  obtain ⟨target, _, ⟨refund, locked, _, _, h⟩ | ⟨_, p, prid, hext, h⟩ | ⟨_, _, rfl⟩⟩ :=
    handleRefundEvent_ok h
  · exact .inl ((applyRefundState_within h).refunds_stem (by decide) r hr)
  · obtain ⟨_, hfound, _⟩ := externalTarget_some hext
    obtain ⟨p', hp', hsame⟩ := hseen.payment_of_mem (byProviderPaymentId_some hfound).1
    rcases recordExternalRefund_refunds h ⟨p', hp', hsame.orderId⟩ hr with hold | hnew
    · exact .inl ⟨r, hold, .refl r⟩
    · exact .inr hnew
  · simp only [reconcile, record_refunds] at hr
    exact .inl ((deferIfPaymentUnknown_within ..).refunds_stem (by simp) r hr)

theorem handleEvent_refunds {seen : Db} {e : WebhookEvent} {id : Id} {now : Time}
    (h : handleEvent cfg seen db e id now = .ok db') (hseen : Evolves seen db) {r : Refund}
    (hr : r ∈ db'.refunds.rows) :
    (∃ r₀ ∈ db.refunds.rows, r₀.Same r) ∨ External db r := by
  unfold handleEvent at h
  split at h
  · exact .inl ((handlePaymentSucceeded_within h).refunds_stem (by decide) r hr)
  · exact .inl ((handlePaymentFailed_within h).refunds_stem (by decide) r hr)
  · exact handleRefundEvent_refunds h hseen hr
  · exact .inl ((handleDisputeEvent_within h).refunds_stem (by decide) r hr)
  · cases h
    exact .inl ⟨r, hr, .refl r⟩

theorem applyDeferredEvent_refunds {seen : Db} {e : WebhookEvent} {id : Id} {now : Time}
    (h : applyDeferredEvent cfg seen db e id now = .ok db') (hseen : Evolves seen db) {r : Refund}
    (hr : r ∈ db'.refunds.rows) :
    (∃ r₀ ∈ db.refunds.rows, r₀.Same r) ∨ External db r := by
  unfold applyDeferredEvent at h
  split at h
  · exact .inl ((handlePaymentSucceeded_within h).refunds_stem (by decide) r hr)
  · exact handleRefundEvent_refunds h hseen hr
  · exact .inl ((applyDisputeEvent_within h).refunds_stem (by decide) r hr)
  · cases h
    exact .inl ⟨r, hr, .refl r⟩
  · cases h
    exact .inl ⟨r, hr, .refl r⟩

/-- A refund after a step was there before, was requested, or was made at the provider. -/
theorem Change.refunds (h : Change cfg s db')
    (hseen : ∀ {pid p seen}, s.proc? pid = some p → p.seen? = some seen → Evolves seen s.db)
    {r : Refund} (hr : r ∈ db'.refunds.rows) :
    (∃ r₀ ∈ s.db.refunds.rows, r₀.Same r) ∨ Requested s.db r ∨ External s.db r := by
  cases h with
  | op _ hrun =>
    obtain ⟨_, heq | ⟨row, hreq, hins⟩⟩ := run_requests hrun
    · rw [heq] at hr
      exact .inl ⟨r, hr, .refl r⟩
    · rcases (Table.mem_insert? hins).mp hr with rfl | hold
      · exact .inr (.inl hreq)
      · exact .inl ⟨r, hold, .refl r⟩
  | process hproc hrun =>
    rename_i pid newId now e seen
    have hmark := markWebhookVerified_within s.db e.configId
    obtain ⟨db₁, h₁, h⟩ := processWebhookEvent_ok hrun
    have hsame : db'.refunds = db₁.refunds := by rw [write_mask h]; rfl
    rw [hsame] at hr
    have hmarked := hmark.refunds (by simp) (by simp)
    have hpayments := hmark.payments (by simp) (by simp)
    rcases handleEvent_refunds h₁ ((hseen hproc rfl).trans hmark.evolves) hr with hold | hext
    · rw [hmarked] at hold
      exact .inl hold
    · refine .inr (.inr ⟨?_, hext.origin, hext.status, hext.cancelsOrder⟩)
      rw [← hpayments]
      exact hext.payment
  | recover hproc hdb =>
    rename_i pid newId now row seen
    subst hdb
    rcases recoverRow_cases cfg seen s.db row newId now with ⟨giveUp, heq⟩ | ⟨_, db₁, h₁, heq⟩
    · rw [heq] at hr
      exact .inl ⟨r, hr, .refl r⟩
    · rw [heq, (resolveRecovered_within _ _).refunds (by simp) (by simp)] at hr
      rcases applyDeferredEvent_refunds h₁ (hseen hproc rfl) hr with hold | hext
      · exact .inl hold
      · exact .inr (.inr hext)
  | cancel _ hrun => exact .inl ((cancelFinish_within hrun).refunds_stem (by simp) r hr)
  | pay _ hrun => exact .inl ((payTx_within hrun).refunds_stem (by simp) r hr)
  | answer hrun => exact .inl ((finishRefund_within hrun).refunds_stem (by decide) r hr)
  | quiet h => exact .inl (h.refunds_stem (by decide) r hr)

/-- The payment a refund is of belongs to the refund's order. -/
def Refund.Bound (db : Db) (r : Refund) : Prop :=
  ∃ p, db.payments.get? r.paymentId = some p ∧ p.orderId = r.orderId

theorem refund_bound_of_run (h₀ : Initial s₀) (h : Run cfg s₀ tr s) :
    ∀ r ∈ s.db.refunds.rows, r.Bound s.db := by
  refine Exec.history (I := fun _ s => ∀ r ∈ s.db.refunds.rows, r.Bound s.db) ?_
    (fun {tr s l s'} run hs ih r hr => ?_) h
  · intro r hr
    rw [h₀.refunds] at hr
    cases hr
  · have hkeep : ∀ {id o : Id}, (∃ p, s.db.payments.get? id = some p ∧ p.orderId = o) →
        ∃ p, s'.db.payments.get? id = some p ∧ p.orderId = o := by
      rintro id o ⟨p, hp, ho⟩
      obtain ⟨p', hp', hsame⟩ := (step_evolves hs).payments id p hp
      exact ⟨p', hp', hsame.orderId.trans ho⟩
    rcases (step_change hs).refunds (fun hp hs => seen_evolves h₀ run hp hs) hr with
      ⟨r₀, hr₀, hsame⟩ | hreq | hext
    · unfold Refund.Bound
      rw [hsame.paymentId, hsame.orderId]
      exact hkeep (ih r₀ hr₀)
    · obtain ⟨p, hp, ho, _, _⟩ := hreq.payment
      exact hkeep ⟨p, hp, ho⟩
    · exact hkeep hext.payment

end NovaCart
