import NovaCart.Money

/-! When a payment keeps the status its money gave it.

    A payment whose money was received moves on to `refunded` at most. Five transactions set a
    payment's status, each from a status it read before it took its locks; `PaymentMove` says what one
    step does to one payment row and which of them did it. Finality holds in every run in which none
    of them meets a row that was settled since it looked, or that it does not look at. -/

namespace NovaCart

open Schemes

variable {cfg : Settings} {s s' s₀ : Sys} {l : Label} {tr : List (Taken Sys Label)} {db db' : Db}

/-- What one step does to one payment row. -/
inductive PaymentMove (s : Sys) (l : Label) (p p' : Payment) : Prop
  | same (h : p' = p)
  | succeeded {e : WebhookEvent} {seen : Db} {q : Payment} (hh : Handling s l e seen)
      (htype : e.eventType = .paymentSucceeded)
      (hq : seen.byProviderPaymentId e.providerPaymentId e.provider = some q) (hid : q.id = p.id)
      (hmatch : eventMismatch seen e q = none) (h : p' = p.patch (succeededPatch e q))
  | failed {e : WebhookEvent} {seen : Db} {q : Payment} (hh : Handling s l e seen)
      (htype : e.eventType = .paymentFailed)
      (hq : seen.byProviderPaymentId e.providerPaymentId e.provider = some q) (hid : q.id = p.id)
      (hs : q.status ≠ .succeeded) (h : p' = p.patch { status := some .failed })
  | cancelled {pid : Id} {now : Time} {call : CancelCall} {order : Order} {q : Payment}
      (hl : l = .cancelFinish pid now) (hproc : s.proc? pid = some (.cancel call))
      (horder : s.db.orders.get? call.orderId = some order) (hpending : order.status = .pending)
      (hnone : ∀ q ∈ call.payments s.db, q.status ≠ .succeeded) (hq : q ∈ call.payments s.db)
      (hid : q.id = p.id) (hs : q.status = .pending)
      (h : p' = p.patch { status := some .failed })
  | reused {pid : Id} {word : String} {call : PayCall} {order : Order}
      (hl : l = .payRetrieved pid word) (hproc : s.proc? pid = some (.pay call))
      (hstage : call.stage = .retrieving p.id)
      (horder : s.db.orders.get? call.orderId = some order) (hpending : order.status = .pending)
      (hword : word ≠ "succeeded") (h : p' = p.patch { status := some (reusedStatus word) })
  | refunded {q : Payment} {prid : Option String} {amount : ℤ} (hid : q.id = p.id)
      (h : p' = p.patch (addRefundedPatch q prid amount))

/-- A statement on one row, read row by row. -/
theorem get?_patched {id : Id} {old p : Payment} {c : PaymentPatch}
    (hold : db.payments.get? id = some old) (hp : db.payments.get? p.id = some p) :
    ∃ p', (db.payments.replace (old.patch c)).get? p.id = some p' ∧
      (p' = p ∨ (p.id = id ∧ p' = p.patch c)) := by
  have hid : old.id = id := Table.key_of_get? hold
  by_cases hk : p.id = id
  · rw [hk, hold] at hp
    cases hp
    have hget : db.payments.get? (Keyed.key (old.patch c)) = some old :=
      Table.get?_of_mem (Table.mem_of_get? hold)
    exact ⟨old.patch c, Table.get?_replace_self hget, .inr ⟨hk, rfl⟩⟩
  · refine ⟨p, ?_, .inl rfl⟩
    rw [Table.get?_replace_of_ne]
    · exact hp
    · intro heq
      exact hk (heq.trans hid)

/-- `failPending` touches the rows of the payments it knows as pending. -/
theorem failPending_rows : ∀ {ps : List Payment} {db db' : Db}, failPending db ps = .ok db' →
    ∀ {p : Payment}, db.payments.get? p.id = some p → ∃ p', db'.payments.get? p.id = some p' ∧
      (p' = p ∨ ((∃ q ∈ ps, q.id = p.id ∧ q.status = .pending) ∧
        p' = p.patch { status := some .failed }))
  | [], _, _, h, p, hp => by
      cases h
      exact ⟨p, hp, .inl rfl⟩
  | q :: qs, db, db', h, p, hp => by
      have hlater : ∀ {p'' p' : Payment}, (p' = p'' ∨ ((∃ x ∈ qs, x.id = p''.id ∧ x.status = .pending) ∧
          p' = p''.patch { status := some .failed })) → p''.id = p.id →
          (p'' = p ∨ (q.status = .pending ∧ q.id = p.id ∧ p'' = p.patch { status := some .failed })) →
          p' = p ∨ ((∃ x ∈ q :: qs, x.id = p.id ∧ x.status = .pending) ∧
            p' = p.patch { status := some .failed }) := by
        intro p'' p' hnow hid hbefore
        rcases hbefore with rfl | ⟨hqs, hqid, rfl⟩
        · rcases hnow with rfl | ⟨⟨x, hx, hxid, hxs⟩, rfl⟩
          · exact .inl rfl
          · exact .inr ⟨⟨x, List.mem_cons_of_mem _ hx, hxid, hxs⟩, rfl⟩
        · refine .inr ⟨⟨q, List.mem_cons_self, hqid, hqs⟩, ?_⟩
          rcases hnow with rfl | ⟨_, rfl⟩
          · rfl
          · rfl
      unfold failPending at h
      split at h
      · rename_i hqs
        obtain ⟨db₁, h₁, h⟩ := bind_ok h
        obtain ⟨old, hold, _, rfl⟩ := updatePayment_ok h₁
        obtain ⟨p'', hp'', hcase⟩ := get?_patched (c := { status := some .failed }) hold hp
        have hid : p''.id = p.id := Table.key_of_get? hp''
        obtain ⟨p', hp', hnow⟩ := failPending_rows h (by rw [hid]; exact hp'')
        rw [hid] at hp'
        refine ⟨p', hp', hlater hnow hid ?_⟩
        exact hcase.imp_right fun hc => ⟨hqs, hc.1.symm, hc.2⟩
      · obtain ⟨p', hp', hnow⟩ := failPending_rows h hp
        exact ⟨p', hp', hlater hnow rfl (.inl rfl)⟩

theorem ReportMove.payment {r : Refund} {t : RefundReport} {loaded : Option Payment}
    (h : ReportMove db r t loaded db') {p : Payment} (hp : db.payments.get? p.id = some p) :
    ∃ p', db'.payments.get? p.id = some p' ∧ PaymentMove s l p p' := by
  cases h with
  | saved _ _ _ hpay _ =>
    rw [hpay]
    exact ⟨p, hp, .same rfl⟩
  | confirmed _ _ hq hold hpay _ =>
    rw [hpay]
    obtain ⟨p', hp', rfl | ⟨hid, rfl⟩⟩ := get?_patched hold hp
    · exact ⟨_, hp', .same rfl⟩
    · exact ⟨_, hp', .refunded hid.symm rfl⟩

/-- One step, one row: a payment stays, and what became of it has one of the causes above. -/
theorem step_payment (h : step cfg s l = some s') {p : Payment}
    (hp : s.db.payments.get? p.id = some p) :
    ∃ p', s'.db.payments.get? p.id = some p' ∧ PaymentMove s l p p' := by
  have hstay : s'.db.payments = s.db.payments →
      ∃ p', s'.db.payments.get? p.id = some p' ∧ PaymentMove s l p p' := by
    intro hpay
    rw [hpay]
    exact ⟨p, hp, .same rfl⟩
  cases step_money h with
  | still hpay _ => exact hstay hpay
  | requested _ _ hpay => exact hstay hpay
  | attempted _ _ _ _ _ _ hpay => exact hstay hpay
  | blocked _ _ _ _ _ _ _ hpay => exact hstay hpay
  | uncertain _ _ _ _ _ _ hpay => exact hstay hpay
  | answered _ _ _ hmove => exact hmove.payment hp
  | event hh hmove =>
    cases hmove with
    | still hpay _ => exact hstay hpay
    | succeeded htype hq hmatch hold hpay _ =>
      rw [hpay]
      obtain ⟨p', hp', rfl | ⟨hid, rfl⟩⟩ := get?_patched hold hp
      · exact ⟨_, hp', .same rfl⟩
      · exact ⟨_, hp', .succeeded hh htype hq hid.symm hmatch rfl⟩
    | failed htype hq hs hold hpay _ =>
      rw [hpay]
      obtain ⟨p', hp', rfl | ⟨hid, rfl⟩⟩ := get?_patched hold hp
      · exact ⟨_, hp', .same rfl⟩
      · exact ⟨_, hp', .failed hh htype hq hid.symm hs rfl⟩
    | reported _ _ _ _ hmove => exact hmove.payment hp
    | external _ _ _ _ _ _ _ _ hold hpay =>
      rw [hpay]
      obtain ⟨p', hp', rfl | ⟨hid, rfl⟩⟩ := get?_patched hold hp
      · exact ⟨_, hp', .same rfl⟩
      · exact ⟨_, hp', .refunded hid.symm rfl⟩
  | recorded _ _ _ _ _ hpay _ => exact ⟨p, Table.get?_insert?_of_some hpay hp, .same rfl⟩
  | reused hl hproc hstage horder hpending hold hword hpay _ =>
    rw [hpay]
    obtain ⟨p', hp', rfl | ⟨hid, rfl⟩⟩ := get?_patched hold hp
    · exact ⟨_, hp', .same rfl⟩
    · rw [← hid] at hstage
      exact ⟨_, hp', .reused hl hproc hstage horder hpending hword rfl⟩
  | cancelled hl hproc horder hpending hnone hfail hpay _ =>
    rw [hpay]
    obtain ⟨p', hp', rfl | ⟨⟨q, hq, hid, hs⟩, rfl⟩⟩ := failPending_rows hfail hp
    · exact ⟨_, hp', .same rfl⟩
    · exact ⟨_, hp', .cancelled hl hproc horder hpending hnone hq hid hs rfl⟩

/-! ### Finality -/

/-- The money of the payment was received. -/
def PaymentStatus.settled : PaymentStatus → Bool
  | .succeeded | .refunded => true
  | .pending | .failed => false

/-- What may follow a status: after `succeeded` only `refunded`, after `refunded` nothing. -/
def PaymentStatus.mayBecome : PaymentStatus → PaymentStatus → Bool
  | .succeeded, new => new = .succeeded ∨ new = .refunded
  | .refunded, new => new = .refunded
  | .pending, _ | .failed, _ => true

/-- The row of the payment has such a status now. -/
def Db.rowIs (db : Db) (gone : PaymentStatus → Bool) (id : Id) : Bool :=
  (db.payments.get? id).any fun row => gone row.status

/-- The order can still be paid or cancelled. -/
def Db.orderPending (db : Db) (id : Id) : Bool :=
  (db.orders.get? id).any fun order => order.status = .pending

/-- The event finds a payment that is no longer what its handler takes it for: a success of a payment
    that was not known as succeeded and is refunded by now, or a failure of one that was not known as
    succeeded and is `gone` by now. -/
def eventTooLate (gone : PaymentStatus → Bool) (seen db : Db) (e : WebhookEvent) : Bool :=
  match seen.byProviderPaymentId e.providerPaymentId e.provider with
  | none => false
  | some p =>
    match e.eventType with
    | .paymentSucceeded => eventMismatch seen e p = none ∧ p.status ≠ .succeeded ∧
      db.rowIs (· = .refunded) p.id = true
    | .paymentFailed => p.status ≠ .succeeded ∧ db.rowIs gone p.id = true
    | _ => false

/-- The step runs a transaction that sets the status of a payment on what it read earlier, and the
    row has moved on to a status that is not to be left. -/
def actsTooLate (gone : PaymentStatus → Bool) (s : Sys) : Label → Bool
  | .process pid _ _ =>
    match s.proc? pid with
    | some (.delivery e seen) => eventTooLate gone seen s.db e
    | _ => false
  | .recoverCommit pid _ _ =>
    match s.proc? pid with
    | some (.recovery row seen) => eventTooLate gone seen s.db row.rebuild
    | _ => false
  | .cancelFinish pid _ =>
    match s.proc? pid with
    | some (.cancel call) =>
      s.db.orderPending call.orderId && (call.payments s.db).all (fun q => q.status ≠ .succeeded) &&
        (call.payments s.db).any fun q => q.status = .pending ∧ s.db.rowIs gone q.id = true
    | _ => false
  | .payRetrieved pid word =>
    match s.proc? pid with
    | some (.pay call) =>
      match call.stage with
      | .retrieving paymentId =>
        word ≠ "succeeded" ∧ s.db.orderPending call.orderId = true ∧ s.db.rowIs gone paymentId = true
      | _ => false
    | _ => false
  | _ => false

theorem rowIs_eq {gone : PaymentStatus → Bool} {id : Id} {p : Payment}
    (hp : db.payments.get? id = some p) : db.rowIs gone id = gone p.status := by
  simp [Db.rowIs, hp]

theorem orderPending_eq {id : Id} {o : Order} (ho : db.orders.get? id = some o) :
    db.orderPending id = decide (o.status = .pending) := by simp [Db.orderPending, ho]

theorem actsTooLate_of_handling {gone : PaymentStatus → Bool} {e : WebhookEvent} {seen : Db}
    (hh : Handling s l e seen) (hlate : eventTooLate gone seen s.db e = true) :
    actsTooLate gone s l = true := by
  rcases hh with ⟨pid, newId, now, rfl, hproc⟩ | ⟨pid, newId, now, row, rfl, hproc, rfl⟩
  · simp [actsTooLate, hproc, hlate]
  · simp [actsTooLate, hproc, hlate]

theorem addRefundedPatch_status (p q : Payment) (prid : Option String) (amount : ℤ) :
    (p.patch (addRefundedPatch q prid amount)).status = p.status ∨
      (p.patch (addRefundedPatch q prid amount)).status = .refunded := by
  simp only [Payment.patch, addRefundedPatch, Payment.addRefunded, changed]
  split
  · split
    · exact .inl rfl
    · exact .inr rfl
  · exact .inl (by simp)

/-- A step that is not too late keeps the status of a payment that is gone, or refunds it; a success
    may also be written on a payment that is not refunded. -/
theorem PaymentMove.kept {gone : PaymentStatus → Bool} {p p' : Payment} (h : PaymentMove s l p p')
    (hp : s.db.payments.get? p.id = some p) (hlate : actsTooLate gone s l = false)
    (hgone : gone p.status = true) :
    p'.status = p.status ∨ p'.status = .refunded ∨ (p.status ≠ .refunded ∧ p'.status = .succeeded) := by
  have hopen : actsTooLate gone s l ≠ true := by rw [hlate]; decide
  have hrow : s.db.rowIs gone p.id = true := by rw [rowIs_eq hp, hgone]
  cases h with
  | same h => exact .inl (by rw [h])
  | succeeded hh htype hq hid hmatch h =>
    rename_i e seen q
    subst h
    by_cases hqs : q.status = .succeeded
    · -- the handler knew: it leaves the status alone
      exact .inl (by simp [Payment.patch, succeededPatch, hqs])
    · refine .inr (.inr ⟨fun href => hopen ?_, by simp [Payment.patch, succeededPatch, hqs]⟩)
      refine actsTooLate_of_handling hh ?_
      simp [eventTooLate, hq, htype, hmatch, hqs, hid, rowIs_eq hp, href]
  | failed hh htype hq hid hs h =>
    refine absurd (actsTooLate_of_handling hh ?_) hopen
    simp [eventTooLate, hq, htype, hs, hid, hrow]
  | cancelled hl hproc horder hpending hnone hq hid hs h =>
    subst hl
    refine absurd ?_ hopen
    simp only [actsTooLate, hproc, orderPending_eq horder, hpending, Bool.and_eq_true,
      List.all_eq_true, List.any_eq_true, decide_eq_true_eq]
    exact ⟨⟨trivial, hnone⟩, _, hq, hs, by rw [hid, hrow]⟩
  | reused hl hproc hstage horder hpending hword h =>
    subst hl
    refine absurd ?_ hopen
    simp [actsTooLate, hproc, hstage, orderPending_eq horder, hpending, hword, hrow]
  | refunded hid h =>
    rw [h]
    exact (addRefundedPatch_status ..).imp_right .inl

/-- A step that is not too late keeps the status of every settled payment. -/
theorem PaymentMove.mayBecome {p p' : Payment} (h : PaymentMove s l p p')
    (hp : s.db.payments.get? p.id = some p) (hlate : actsTooLate PaymentStatus.settled s l = false) :
    p.status.mayBecome p'.status = true := by
  cases hst : p.status with
  | pending => rfl
  | failed => rfl
  | succeeded =>
    rcases h.kept hp hlate (by rw [hst]; rfl) with hsame | href | ⟨_, hsucc⟩
    · rw [hsame, hst]; rfl
    · rw [href]; rfl
    · rw [hsucc]; rfl
  | refunded =>
    rcases h.kept hp hlate (by rw [hst]; rfl) with hsame | href | ⟨hnot, _⟩
    · rw [hsame, hst]; rfl
    · rw [href]; rfl
    · exact absurd hst hnot

/-- In every run in which no transaction sets a payment's status too late, a payment that succeeded
    only ever becomes refunded and a refunded one stays refunded, whatever the interleaving. -/
theorem payment_status_final (h : Run cfg s₀ tr s)
    (hlate : ∀ t ∈ tr, actsTooLate PaymentStatus.settled t.pre t.label = false) :
    ∀ t ∈ tr, ∀ p ∈ t.pre.db.payments.rows, ∃ p', t.post.db.payments.get? p.id = some p' ∧
      p.status.mayBecome p'.status = true := by
  intro t ht p hp
  obtain ⟨_, hstep⟩ := h.taken ht
  have hget : t.pre.db.payments.get? p.id = some p := Table.get?_of_mem hp
  obtain ⟨p', hp', hmove⟩ := step_payment hstep hget
  exact ⟨p', hp', hmove.mayBecome hget (hlate t ht)⟩

/-- A payment that succeeds and is refunded in full stays refunded. -/
theorem payment_status_final_refunded : ∃ tr s, Run smallSettings smallShop tr s ∧
    (∃ p ∈ s.db.payments.get? 1, p.status = .refunded) ∧
    ∀ t ∈ tr, ∀ p ∈ t.pre.db.payments.rows, ∃ p', t.post.db.payments.get? p.id = some p' ∧
      p.status.mayBecome p'.status = true := by
  obtain ⟨tr, s, hrun, hp, hlate⟩ := exists_exec (step smallSettings) smallShop
    (P := fun tr s => (∃ p ∈ s.db.payments.get? 1, p.status = .refunded) ∧
      ∀ t ∈ tr, actsTooLate PaymentStatus.settled t.pre t.label = false)
    (paidOrder ++ submittedRefund ++ [.refundAnswer 1 refundSucceeded 0]) (by decide)
  exact ⟨tr, s, hrun, hp, payment_status_final hrun hlate⟩

/-- A failure event that arrives after the refund turns the refunded payment into a failed one. -/
theorem payment_status_overwritten : ∃ tr s, Run smallSettings smallShop tr s ∧
    ∃ t ∈ tr, ∃ p ∈ t.pre.db.payments.rows, p.status = .refunded ∧
      ∃ p' ∈ t.post.db.payments.get? p.id, p'.status = .failed :=
  exists_exec (step smallSettings) smallShop
    (P := fun tr _ => ∃ t ∈ tr, ∃ p ∈ t.pre.db.payments.rows, p.status = .refunded ∧
      ∃ p' ∈ t.post.db.payments.get? p.id, p'.status = .failed)
    (paidOrder ++ submittedRefund ++ [.refundAnswer 1 refundSucceeded 0,
      .deliver 1 { eventId := "evt_2", eventType := .paymentFailed, providerPaymentId := "pi_1" },
      .process 1 0 0]) (by decide)

end NovaCart
