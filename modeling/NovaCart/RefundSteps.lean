import NovaCart.Money

/-! What one step does to one refund row.

    A refund is inserted by a request or when the provider reports one the store did not make; after
    that an attempt is counted, the attempt is held back or given up, or a report about the refund is
    applied. `step_refund` is this list; what a refund keeps over a run is read off it. -/

namespace NovaCart

open Schemes

variable {cfg : Settings} {s s' s₀ : Sys} {l : Label} {tr : List (Taken Sys Label)} {db db' : Db}

/-- The step applies the report to the refund with this id: the answer of its own call, or an event
    that was matched to it. -/
inductive Reports (s : Sys) (l : Label) (refundId : Id) (t : RefundReport) : Prop
  | answer {pid : Id} {now : Time} {attempt : RefundAttempt} (hl : l = .refundAnswer pid t now)
      (hproc : s.proc? pid = some (.refund attempt)) (hid : attempt.refundId = refundId)
  | event {e : WebhookEvent} {seen : Db} {suffix : String} {target : RefundTarget} {refund : Refund}
      (hh : Handling s l e seen) (htype : e.eventType = .refund suffix)
      (htarget : refundTarget seen e = .ok target) (hrefund : target.refund = some refund)
      (hid : refund.id = refundId) (ht : t = e.report)

/-- What one step does to one refund row, and why. -/
inductive RefundMove (cfg : Settings) (s : Sys) (l : Label) (r r' : Refund) : Prop
  | same (h : r' = r)
  | attempted {pid : Id} (hl : l = .refundBegin pid r.id) (hreq : r.status = .requested)
      (hfirst : ¬(s.db.hasOpenDispute r.paymentId = true ∧ r.attempts = 0))
      (h : r' = r.patch { attempts := some (r.attempts + 1) })
  | blocked {pid : Id} {reason : String} (hl : l = .refundBegin pid r.id) (hreq : r.status = .requested)
      (hdispute : s.db.hasOpenDispute r.paymentId = true) (hfirst : r.attempts = 0)
      (h : r' = r.patch { status := some .failed, failureReason := some reason })
  | uncertain {pid : Id} {message : String} {attempt : RefundAttempt} (hl : l = .refundError pid message)
      (hproc : s.proc? pid = some (.refund attempt)) (hid : attempt.refundId = r.id)
      (hreq : r.status = .requested) (hmax : cfg.refundMaxAttempts ≤ r.attempts)
      (h : r' = r.patch { status := some .uncertain, failureReason := some message })
  | saved {t : RefundReport} {c : RefundPatch} (hcause : Reports s l r.id t) (hstatus : t.Saves r c)
      (hprid : c.providerRefundId = t.newRefundId r) (hattempts : c.attempts = none) (h : r' = r.patch c)
  | confirmed {t : RefundReport} (hcause : Reports s l r.id t) (hopen : r.status.final = false)
      (hs : t.status = some "succeeded")
      (h : r' = r.patch { status := some .succeeded, providerRefundId := t.newRefundId r })

/-- A statement on one refund, read row by row. -/
theorem mem_patched {id : Id} {r r' : Refund} {c : RefundPatch} (hr : db.refunds.get? id = some r)
    (href : db'.refunds = db.refunds.replace (r.patch c)) (hr' : r' ∈ db'.refunds.rows) :
    r' ∈ db.refunds.rows ∨ (r ∈ db.refunds.rows ∧ r.id = id ∧ r' = r.patch c) := by
  have hmem := Table.mem_of_get? hr
  have hget : db.refunds.get? (Keyed.key (r.patch c)) = some r := Table.get?_of_mem hmem
  rw [href] at hr'
  rcases (Table.mem_replace hget).mp hr' with rfl | ⟨hold, _⟩
  · exact .inr ⟨hmem, Table.key_of_get? hr, rfl⟩
  · exact .inl hold

theorem ReportMove.refund {r r' : Refund} {t : RefundReport} {loaded : Option Payment}
    (h : ReportMove s.db r t loaded db') (hr : s.db.refunds.get? r.id = some r)
    (hcause : Reports s l r.id t) (hr' : r' ∈ db'.refunds.rows) :
    ∃ r₀ ∈ s.db.refunds.rows, r₀.id = r'.id ∧ RefundMove cfg s l r₀ r' := by
  cases h with
  | saved hstatus hprid hattempts _ href =>
    rcases mem_patched hr href hr' with hold | ⟨hmem, _, rfl⟩
    · exact ⟨r', hold, rfl, .same rfl⟩
    · exact ⟨r, hmem, rfl, .saved hcause hstatus hprid hattempts rfl⟩
  | confirmed hopen hs _ _ _ href =>
    rcases mem_patched hr href hr' with hold | ⟨hmem, _, rfl⟩
    · exact ⟨r', hold, rfl, .same rfl⟩
    · exact ⟨r, hmem, rfl, .confirmed hcause hopen hs rfl⟩

/-- A refund made at the provider that this step records. -/
structure Recorded (s : Sys) (l : Label) (r : Refund) (e : WebhookEvent) (p : Payment) (prid : String) :
    Prop where
  handling : ∃ seen target suffix, Handling s l e seen ∧ e.eventType = .refund suffix ∧
    refundTarget seen e = .ok target ∧ target.refund = none ∧
    externalTarget seen e target.providerPaymentId = some (p, prid)
  unknown : s.db.byProviderRefundId prid = .ok none
  row : ∃ id, ExternalRow p prid (e.amount.getD 0) id r

/-- Every refund after a step was there before, with one of the moves between, or was requested or
    recorded in this step. -/
theorem step_refund (h : step cfg s l = some s') {r' : Refund} (hr' : r' ∈ s'.db.refunds.rows) :
    (∃ r ∈ s.db.refunds.rows, r.id = r'.id ∧ RefundMove cfg s l r r') ∨
      (s.db.refunds.get? r'.id = none ∧
        (Requested s.db r' ∨ ∃ e p prid, Recorded s l r' e p prid)) := by
  have hsame : s'.db.refunds = s.db.refunds →
      ∃ r ∈ s.db.refunds.rows, r.id = r'.id ∧ RefundMove cfg s l r r' := by
    intro href
    rw [href] at hr'
    exact ⟨r', hr', rfl, .same rfl⟩
  have hself : ∀ {id : Id} {r : Refund}, s.db.refunds.get? id = some r →
      s.db.refunds.get? r.id = some r := fun hr => Table.get?_of_mem (Table.mem_of_get? hr)
  cases step_money h with
  | still _ href => exact .inl (hsame href)
  | requested hreq href _ =>
    rcases (Table.mem_insert? href).mp hr' with rfl | hold
    · exact .inr ⟨(Table.insert?_eq_some.mp href).1, .inl hreq⟩
    · exact .inl ⟨r', hold, rfl, .same rfl⟩
  | attempted hl hrefund hreq hpayment hfirst href hpay =>
    rename_i pid refundId refund payment
    have hid : payment.id = refund.paymentId := Table.key_of_get? hpayment
    rcases mem_patched hrefund href hr' with hold | ⟨hmem, hrid, rfl⟩
    · exact .inl ⟨r', hold, rfl, .same rfl⟩
    · rw [← hrid] at hl
      rw [hid] at hfirst
      exact .inl ⟨refund, hmem, rfl, .attempted hl hreq hfirst rfl⟩
  | blocked hl hrefund hpayment hdispute hreq hfirst href hpay =>
    rename_i pid refundId refund payment reason
    have hid : payment.id = refund.paymentId := Table.key_of_get? hpayment
    rcases mem_patched hrefund href hr' with hold | ⟨hmem, hrid, rfl⟩
    · exact .inl ⟨r', hold, rfl, .same rfl⟩
    · rw [← hrid] at hl
      rw [hid] at hdispute
      exact .inl ⟨refund, hmem, rfl, .blocked hl hreq hdispute hfirst rfl⟩
  | uncertain hl hproc hrefund hreq hmax href hpay =>
    rename_i refund
    rcases mem_patched hrefund href hr' with hold | ⟨hmem, hrid, rfl⟩
    · exact .inl ⟨r', hold, rfl, .same rfl⟩
    · exact .inl ⟨refund, hmem, rfl, .uncertain hl hproc hrid.symm hreq hmax rfl⟩
  | answered hl hproc hrefund hmove =>
    have hrid := Table.key_of_get? hrefund
    exact .inl (hmove.refund (hself hrefund) (.answer hl hproc hrid.symm) hr')
  | event hh hmove =>
    cases hmove with
    | still _ href => exact .inl (hsame href)
    | succeeded _ _ _ _ _ href => exact .inl (hsame href)
    | failed _ _ _ _ _ href => exact .inl (hsame href)
    | reported htype htarget hrefund hlocked hmove =>
      have hrid := Table.key_of_get? hlocked
      exact .inl (hmove.refund (hself hlocked) (.event hh htype htarget hrefund hrid.symm rfl) hr')
    | external htype htarget hnone hext hnew hvalid hrow href hold hpay =>
      rcases (Table.mem_insert? href).mp hr' with rfl | hold
      · refine .inr ⟨(Table.insert?_eq_some.mp href).1, .inr ⟨_, _, _, ?_, hnew, _, hrow⟩⟩
        exact ⟨_, _, _, hh, htype, htarget, hnone, hext⟩
      · exact .inl ⟨r', hold, rfl, .same rfl⟩
  | recorded _ _ _ _ _ _ href => exact .inl (hsame href)
  | reused _ _ _ _ _ _ _ _ href => exact .inl (hsame href)
  | cancelled _ _ _ _ _ _ _ href => exact .inl (hsame href)

/-- The same, from the row before the step. -/
theorem step_refund_kept (h : step cfg s l = some s') {r : Refund} (hr : r ∈ s.db.refunds.rows) :
    ∃ r', s'.db.refunds.get? r.id = some r' ∧ RefundMove cfg s l r r' := by
  obtain ⟨r', hr', hsame⟩ := (step_evolves h).refunds r.id r (Table.get?_of_mem hr)
  have hid : r'.id = r.id := hsame.id
  refine ⟨r', hr', ?_⟩
  rcases step_refund h (Table.mem_of_get? hr') with ⟨r₀, hr₀, hid₀, hmove⟩ | ⟨hnone, _⟩
  · have heq : r₀ = r := s.db.refunds.eq_of_key_eq hr₀ hr (hid₀.trans hid)
    rw [← heq]
    exact hmove
  · rw [hid, show s.db.refunds.get? r.id = some r from Table.get?_of_mem hr] at hnone
    cases hnone

/-- What a step never changes on a refund; its attempts only grow. -/
structure Refund.Grows (r r' : Refund) : Prop where
  id : r'.id = r.id
  paymentId : r'.paymentId = r.paymentId
  amountCents : r'.amountCents = r.amountCents
  idempotencyKey : r'.idempotencyKey = r.idempotencyKey
  origin : r'.origin = r.origin
  attempts : r.attempts ≤ r'.attempts
  named : ∀ x, r.providerRefundId = some x → r'.providerRefundId = some x

theorem RefundMove.grows {r r' : Refund} (h : RefundMove cfg s l r r') : r.Grows r' := by
  have hpatch : ∀ c : RefundPatch, c.attempts = none →
      (∀ x, r.providerRefundId = some x → c.providerRefundId = none) → r.Grows (r.patch c) := by
    intro c hc hid
    exact ⟨rfl, rfl, rfl, rfl, rfl, by simp [Refund.patch, hc],
      fun x hx => by simp [Refund.patch, hid x hx, hx]⟩
  -- a report names a refund only once
  have hreport : ∀ (t : RefundReport) (x : String), r.providerRefundId = some x →
      t.newRefundId r = none := by
    intro t x hx
    simp [RefundReport.newRefundId, hx]
  cases h with
  | same h => exact h ▸ ⟨rfl, rfl, rfl, rfl, rfl, le_rfl, fun _ hx => hx⟩
  | attempted _ _ _ h => exact h ▸ ⟨rfl, rfl, rfl, rfl, rfl, Nat.le_succ _, fun _ hx => hx⟩
  | blocked _ _ _ _ h => exact h ▸ hpatch _ rfl fun _ _ => rfl
  | uncertain _ _ _ _ _ h => exact h ▸ hpatch _ rfl fun _ _ => rfl
  | saved _ _ hprid hattempts h => exact h ▸ hpatch _ hattempts fun x hx => hprid.trans (hreport _ x hx)
  | confirmed _ _ _ h => exact h ▸ hpatch _ rfl fun x hx => hreport _ x hx

/-- Only an attempt raises the number of attempts, and a first one meets no open dispute. -/
theorem RefundMove.counts {r r' : Refund} (h : RefundMove cfg s l r r') :
    r'.attempts = r.attempts ∨ (r'.attempts = r.attempts + 1 ∧ r.status = .requested ∧
      ¬(s.db.hasOpenDispute r.paymentId = true ∧ r.attempts = 0)) := by
  cases h with
  | same h => exact .inl (by rw [h])
  | attempted _ hreq hfirst h => exact .inr ⟨by rw [h]; rfl, hreq, hfirst⟩
  | blocked _ _ _ _ h => exact .inl (by rw [h]; rfl)
  | uncertain _ _ _ _ _ h => exact .inl (by rw [h]; rfl)
  | saved _ _ _ hattempts h => exact .inl (by rw [h]; simp [Refund.patch, hattempts])
  | confirmed _ _ _ h => exact .inl (by rw [h]; rfl)

theorem Refund.Grows.refl (r : Refund) : r.Grows r :=
  ⟨rfl, rfl, rfl, rfl, rfl, le_rfl, fun _ hx => hx⟩

theorem Refund.Grows.trans {r₁ r₂ r₃ : Refund} (h₁ : r₁.Grows r₂) (h₂ : r₂.Grows r₃) : r₁.Grows r₃ where
  id := h₂.id.trans h₁.id
  paymentId := h₂.paymentId.trans h₁.paymentId
  amountCents := h₂.amountCents.trans h₁.amountCents
  idempotencyKey := h₂.idempotencyKey.trans h₁.idempotencyKey
  origin := h₂.origin.trans h₁.origin
  attempts := h₁.attempts.trans h₂.attempts
  named x hx := h₂.named x (h₁.named x hx)

/-- A refund of any earlier state is still there, grown. -/
theorem run_refunds_grow (h : Run cfg s₀ tr s) :
    ∀ t ∈ tr, Table.Kept Refund.Grows t.pre.db.refunds s.db.refunds := by
  have hstep : ∀ {s l s'}, step cfg s l = some s' →
      Table.Kept Refund.Grows s.db.refunds s'.db.refunds := by
    intro s l s' hs k r hr
    obtain ⟨r', hr', hmove⟩ := step_refund_kept hs (Table.mem_of_get? hr)
    rw [show r.id = k from Table.key_of_get? hr] at hr'
    exact ⟨r', hr', hmove.grows⟩
  refine Exec.history (I := fun tr s => ∀ t ∈ tr, Table.Kept Refund.Grows t.pre.db.refunds s.db.refunds)
    ?_ (fun {tr s l s'} _ hs ih t ht => ?_) h
  · intro t ht
    cases ht
  · rcases List.mem_cons.mp ht with rfl | hold
    · exact hstep hs
    · exact .trans (fun h₁ h₂ => h₁.trans h₂) (ih t hold) (hstep hs)

/-! ### Calls to the provider -/

/-- The attempt is one of a refund that is there: it was counted, and carries the refund's key and
    amount. -/
def RefundAttempt.Of (db : Db) (a : RefundAttempt) : Prop :=
  ∃ r, db.refunds.get? a.refundId = some r ∧ 0 < r.attempts ∧ a.idempotencyKey = r.idempotencyKey ∧
    a.amount = r.amountCents

/-- Every call to the provider is for a refund whose attempt was counted, with its key and amount. -/
theorem call_of_run (h₀ : Initial s₀) (h : Run cfg s₀ tr s) {pid : Id} {a : RefundAttempt}
    (hproc : s.proc? pid = some (.refund a)) :
    a.Of s.db := by
  have hall : ∀ x ∈ s.procs.rows, ∀ a, x.proc = .refund a → a.Of s.db := by
    refine procs_invariant (J := fun db p => ∀ a, p = .refund a → a.Of db) h₀ ?_ ?_ ?_ ?_ ?_ h
    · intro _ _ _ _ _ _ hs hJ a ha
      obtain ⟨r, hr, hcount, hkey, hamount⟩ := hJ a ha
      obtain ⟨r', hr', hmove⟩ := step_refund_kept hs (Table.mem_of_get? hr)
      have hid : r.id = a.refundId := Table.key_of_get? hr
      rw [hid] at hr'
      have hgrows := hmove.grows
      exact ⟨r', hr', lt_of_lt_of_le hcount hgrows.attempts, hkey.trans hgrows.idempotencyKey.symm,
        hamount.trans hgrows.amountCents.symm⟩
    · intro _ _ _ _ hp a ha
      subst ha
      cases hp
    · intro _ _ _ _ _ hp _ a ha
      subst ha
      cases hp
    · intro _ _ _ _ _ _ _ _ _ _ a ha
      cases ha
    · intro _ s refundId db' a _ hrun a' ha
      cases ha
      rcases beginRefundAttempt_ok hrun with ⟨_, ha, _⟩ | ⟨refund, payment, hrefund, _, _, hexit⟩
      · cases ha
      have hid : refund.id = refundId := Table.key_of_get? hrefund
      rcases hexit with ⟨_, _, ha, _⟩ | ⟨_, hwrite, attempt, ha, haid, haamount, hakey⟩
      · cases ha
      · cases ha
        obtain ⟨old, hold, _, _, _, rfl⟩ := updateRefund_ok hwrite
        have hget : old = refund := by
          rw [(overlapRecord_within ..).refunds (by simp) (by simp), hid, hrefund] at hold
          exact (Option.some.inj hold).symm
        subst hget
        refine ⟨old.patch { attempts := some (old.attempts + 1) }, ?_, Nat.succ_pos _,
          hakey, haamount⟩
        rw [haid]
        exact Table.get?_replace_self hold
  exact hall _ (proc?_eq_some.mp hproc) a rfl

end NovaCart
