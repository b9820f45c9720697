import NovaCart.Overlap

/-! Reports about one refund, in any order and number.

    The job's answer and the webhook events all end in `apply_refund_state`. Non-terminal reports only
    name the refund and mark it pending; the first terminal one has all the effects, and does the same
    whether or not others came before it; after it nothing changes. So what a sequence of reports leaves
    behind depends on which reports there are, not on their order or number. -/

namespace NovaCart

open Schemes

variable {db db' : Db} {r : Refund} {about : RefundReport} {id : Id} {now : Time}

/-- A report as it comes in: its status word, whether its handler had loaded the payment before, and
    the time. -/
structure Telling where
  word : Option String
  loads : Bool
  now : Time

/-- `apply_refund_state` for a report with the amount, currency and id of `about`, in a transaction of
    its own, on the rows as they are then. -/
def tell (id : Id) (about : RefundReport) (db : Db) (d : Telling) : Result Db :=
  match db.refunds.get? id with
  | none => .ok db
  | some r => applyRefundState db r { about with status := d.word }
      (if d.loads then db.payments.get? r.paymentId else none) d.now

/-- The answer of the refund's own call is such a report. -/
theorem finishRefund_eq_tell (db : Db) (id : Id) (about : RefundReport) (now : Time) :
    finishRefund db id about now = tell id about db ⟨about.status, false, now⟩ := by
  unfold finishRefund tell
  cases db.refunds.get? id with
  | none => rfl
  | some r => rfl

/-- So is an event that reaches the refund, when nothing happens between its reads and its writes. -/
theorem handleRefundEvent_eq_tell {cfg : Settings} {e : WebhookEvent} {newId : Id} {target : RefundTarget}
    (htarget : refundTarget db e = .ok target) (hrefund : target.refund = some r) :
    handleRefundEvent cfg db db e newId now
      = tell r.id e.report db ⟨e.refundStatus, target.loaded.isSome, now⟩ := by
  have hr : db.refunds.get? r.id = some r := by
    rcases refundTarget_ok htarget with ⟨_, q, _, hknown, rfl⟩ | ⟨_, rfl | ⟨p, _, _, rfl⟩⟩
    · cases hrefund
      exact Table.get?_of_mem (byProviderRefundId_some hknown).1
    · cases hrefund
    · exact Table.get?_of_mem (List.mem_of_find?_eq_some hrefund)
  have hloaded : target.loaded = if target.loaded.isSome then db.payments.get? r.paymentId else none := by
    rcases refundTarget_ok htarget with ⟨_, q, _, hknown, rfl⟩ | ⟨_, rfl | ⟨p, hp, _, rfl⟩⟩
    · rfl
    · rfl
    · have hactive := List.find?_some hrefund
      rw [decide_eq_true_eq] at hactive
      rw [hactive.1]
      exact (Table.get?_of_mem hp).symm
  unfold handleRefundEvent tell
  simp only [htarget, hrefund, hr, need, bind, Except.bind]
  rw [← hloaded]
  rfl

/-- How a status word ends a refund, if it does. -/
def ending (word : Option String) : Option RefundStatus :=
  if word = some "succeeded" then some .succeeded
  else if word = some "failed" ∨ word = some "canceled" then some .failed
  else none

theorem ending_cases (word : Option String) :
    ending word = none ∨ ending word = some .failed ∨ ending word = some .succeeded := by
  unfold ending
  split
  · exact .inr (.inr rfl)
  · split
    · exact .inr (.inl rfl)
    · exact .inl rfl

/-- What a report that ends nothing writes. -/
def softPatch (r : Refund) (about : RefundReport) : RefundPatch :=
  if r.status = .requested then { status := some .pending, providerRefundId := about.newRefundId r }
  else { providerRefundId := about.newRefundId r }

def failedPatch (r : Refund) (about : RefundReport) (word : Option String) : RefundPatch :=
  { status := some .failed, providerRefundId := about.newRefundId r
    failureReason := some ("provider reported '" ++ showOption word ++ "'") }

def succeededRefundPatch (r : Refund) (about : RefundReport) : RefundPatch :=
  { status := some .succeeded, providerRefundId := about.newRefundId r }

/-! ### The four ways of a report -/

variable {d : Telling}

theorem tell_final (hr : db.refunds.get? id = some r) (hfinal : r.status.final = true) :
    tell id about db d
      = saveRefund (afterMismatch db r about) r { providerRefundId := about.newRefundId r } := by
  simp only [tell, hr, applyRefundState, hfinal, if_true]
  rfl

theorem tell_soft (hr : db.refunds.get? id = some r) (hopen : r.status.final = false)
    (hsoft : ending d.word = none) :
    tell id about db d = saveRefund (afterMismatch db r about) r (softPatch r about) := by
  unfold ending at hsoft
  split at hsoft
  · cases hsoft
  rename_i hs
  split at hsoft
  · cases hsoft
  rename_i hf
  by_cases hreq : r.status = .requested
  · simp only [tell, hr, applyRefundState, hs, hf, hreq, if_false, if_true, softPatch]
    rfl
  · simp only [tell, hr, applyRefundState, hopen, hs, hf, hreq, if_false, softPatch,
      Bool.false_eq_true]
    rfl

theorem tell_failed (hr : db.refunds.get? id = some r) (hopen : r.status.final = false)
    (hend : ending d.word = some .failed) :
    tell id about db d = saveRefund (afterMismatch db r about) r (failedPatch r about d.word) := by
  unfold ending at hend
  split at hend
  · cases hend
  rename_i hs
  split at hend
  · rename_i hf
    simp only [tell, hr, applyRefundState, hopen, hs, hf, if_false]
    rfl
  · cases hend

/-- The session's payment is the row as it is, loaded before or not. -/
theorem tell_succeeded (hr : db.refunds.get? id = some r) (hopen : r.status.final = false)
    (hend : ending d.word = some .succeeded) :
    tell id about db d = (saveRefund (afterMismatch db r about) r (succeededRefundPatch r about)).bind
      fun db₁ => confirmRefund db₁ (r.patch (succeededRefundPatch r about)) (about.confirmedId r)
        about.amount (if d.loads then db.payments.get? r.paymentId else none) d.now := by
  unfold ending at hend
  split at hend
  · rename_i hs
    simp only [tell, hr, applyRefundState, hopen, hs, if_true]
    rfl
  · split at hend
    · cases hend
    · cases hend

/-! ### Saving a refund -/

theorem saveRefund_eq {c : RefundPatch} (hr : db.refunds.get? r.id = some r)
    (h : saveRefund db r c = .ok db') : db' = { db with refunds := db.refunds.replace (r.patch c) } := by
  unfold saveRefund at h
  split at h
  · rename_i hsame
    cases h
    rw [hsame, Table.replace_of_get? hr]
  · obtain ⟨old, hold, _, _, _, rfl⟩ := updateRefund_ok h
    rw [hr] at hold
    cases hold
    rfl

theorem saveRefund_same {c : RefundPatch} (h : r.patch c = r) : saveRefund db r c = .ok db := by
  unfold saveRefund
  rw [if_pos h]

/-- The index on refunds in flight has nothing to say about one that ends: only the limit is left. -/
theorem write_ending {c : RefundPatch} (hr : db.refunds.get? id = some r) (hopen : r.status.final = false)
    (hend : (r.patch c).status.final = true) :
    db.write (.refund id c) = if db.refundsCumulativeGuard (r.patch c)
      then .ok { db with refunds := db.refunds.replace (r.patch c) }
      else .error (.integrity "refunds of a payment cannot exceed the payment amount") := by
  have hflight : db.oneRefundInFlight (r.patch c) := by
    intro _ hflight
    cases hst : (r.patch c).status with
    | succeeded => rw [hst] at hflight; cases hflight
    | failed => rw [hst] at hflight; cases hflight
    | _ => rw [hst] at hend; cases hend
  have hopen' : ¬r.status.final = true := by simp [hopen]
  by_cases hlimit : db.refundsCumulativeGuard (r.patch c)
  · simp only [Db.write, Db.updateRefund, hr, need, require, bind, Except.bind, if_pos hflight,
      if_pos (fun h => absurd h hopen'), if_pos hlimit]
  · simp only [Db.write, Db.updateRefund, hr, need, require, bind, Except.bind, if_pos hflight,
      if_pos (fun h => absurd h hopen'), if_neg hlimit]

/-- Ending a refund over another version of its row: the limit reads the other rows only, so the
    statement does the same. -/
theorem saveRefund_over {r₁ : Refund} {c c₁ : RefundPatch} (hr : db.refunds.get? r.id = some r)
    (hid : r₁.id = r.id) (hopen : r.status.final = false) (hopen₁ : r₁.status.final = false)
    (hpatch : r₁.patch c₁ = r.patch c) (hend : (r.patch c).status.final = true) :
    saveRefund { db with refunds := db.refunds.replace r₁ } r₁ c₁ = saveRefund db r c := by
  have hne : r.patch c ≠ r := by
    intro heq
    rw [heq, hopen] at hend
    cases hend
  have hne₁ : r₁.patch c₁ ≠ r₁ := by
    intro heq
    rw [hpatch] at heq
    rw [heq, hopen₁] at hend
    cases hend
  have hget : db.refunds.get? (Keyed.key r₁) = some r := by
    rw [show Keyed.key r₁ = r.id from hid]
    exact hr
  have hget₁ : (db.refunds.replace r₁).get? r₁.id = some r₁ := Table.get?_replace_self hget
  have hlimit : Db.refundsCumulativeGuard { db with refunds := db.refunds.replace r₁ } (r.patch c)
      ↔ db.refundsCumulativeGuard (r.patch c) := by
    unfold Db.refundsCumulativeGuard
    rw [Table.total_replace hget]
    simp [Refund.patch, hid]
  have hreplace : (db.refunds.replace r₁).replace (r.patch c) = db.refunds.replace (r.patch c) :=
    Table.replace_replace _ hid
  unfold saveRefund
  rw [if_neg hne, if_neg hne₁, write_ending hget₁ hopen₁ (by rw [hpatch]; exact hend),
    write_ending hr hopen hend, hpatch, hreplace]
  exact if_congr hlimit rfl rfl

/-! ### Reports that find their work done -/

/-- What the report would add to the refund is there: its id, and the record of a disagreement. -/
structure Told (about : RefundReport) (db : Db) (r : Refund) : Prop where
  named : about.newRefundId r = none
  recorded : about.mismatch r → db.filed (ReconciliationKind.refundMismatch.key r.id)

theorem record_of_filed {row : PaymentReconciliation} (h : db.filed row.dedupeKey) :
    db.record row = db := by
  unfold Db.record
  rw [show db.reconciliations.insert? row = none from Table.insert?_eq_none.mpr h]

theorem Told.afterMismatch (h : Told about db r) : afterMismatch db r about = db := by
  unfold NovaCart.afterMismatch reconcileIf
  split
  · rename_i hmis
    exact record_of_filed (h.recorded hmis)
  · rfl

theorem Refund.patch_nothing (r : Refund) : r.patch {} = r := rfl

/-- A refund that has ended and was told of everything does not change any more. -/
theorem Told.tell_final (h : Told about db r) (hr : db.refunds.get? id = some r)
    (hfinal : r.status.final = true) : tell id about db d = .ok db := by
  rw [NovaCart.tell_final hr hfinal, h.afterMismatch, h.named]
  exact saveRefund_same r.patch_nothing

theorem Told.tell_soft (h : Told about db r) (hr : db.refunds.get? id = some r)
    (hopen : r.status.final = false) (hreq : r.status ≠ .requested) (hsoft : ending d.word = none) :
    tell id about db d = .ok db := by
  rw [NovaCart.tell_soft hr hopen hsoft, h.afterMismatch, softPatch, if_neg hreq, h.named]
  exact saveRefund_same r.patch_nothing

theorem newRefundId_patch {c : RefundPatch} (hc : c.providerRefundId = about.newRefundId r) :
    about.newRefundId (r.patch c) = none := by
  unfold RefundReport.newRefundId
  cases hrp : r.providerRefundId with
  | some x => simp [Refund.patch, hc, RefundReport.newRefundId, hrp]
  | none =>
    cases htr : truthy about.providerRefundId with
    | none => simp
    | some x => simp [Refund.patch, hc, RefundReport.newRefundId, hrp, htr]

/-- Every report that commits leaves the refund told. -/
theorem told_patch {c : RefundPatch} (hc : c.providerRefundId = about.newRefundId r)
    (hkept : ∀ k, (afterMismatch db r about).filed k → db'.filed k) : Told about db' (r.patch c) where
  named := newRefundId_patch hc
  recorded hmis := hkept _ ((reconcileIf_filed ..).mpr (.inr ⟨hmis, rfl⟩))

variable (hr : db.refunds.get? id = some r)
include hr

theorem get?_afterMismatch : (afterMismatch db r about).refunds.get? r.id = some r := by
  rw [afterMismatch_refunds]
  exact Table.get?_of_mem (Table.mem_of_get? hr)

theorem get?_saved {c : RefundPatch} (h : saveRefund (afterMismatch db r about) r c = .ok db') :
    db'.refunds.get? id = some (r.patch c) := by
  have hid : r.id = id := Table.key_of_get? hr
  rw [saveRefund_eq (get?_afterMismatch hr) h, ← hid]
  exact Table.get?_replace_self (get?_afterMismatch hr)

theorem told_saved {c : RefundPatch} (hc : c.providerRefundId = about.newRefundId r)
    (h : saveRefund (afterMismatch db r about) r c = .ok db') : Told about db' (r.patch c) := by
  have hkept : ∀ k, (afterMismatch db r about).filed k → db'.filed k := by
    intro k hk
    rw [saveRefund_eq (get?_afterMismatch hr) h]
    exact hk
  exact told_patch hc hkept

/-- A terminal report that commits leaves the refund ended, and told. -/
theorem tell_ends (hopen : r.status.final = false) (hend : ending d.word ≠ none)
    (h : tell id about db d = .ok db') :
    ∃ r', db'.refunds.get? id = some r' ∧ r'.status.final = true ∧ Told about db' r' := by
  rcases ending_cases d.word with hk | hk | hk
  · exact absurd hk hend
  · rw [tell_failed hr hopen hk] at h
    exact ⟨_, get?_saved hr h, rfl, told_saved hr rfl h⟩
  · rw [tell_succeeded hr hopen hk] at h
    obtain ⟨db₁, hsave, hconfirm⟩ := bind_ok h
    obtain ⟨_, _, _, _, _, href⟩ := confirmRefund_money hconfirm
    have htold : Told about db₁ (r.patch (succeededRefundPatch r about)) := told_saved hr rfl hsave
    exact ⟨_, by rw [href]; exact get?_saved hr hsave, rfl, htold.named, fun hmis =>
      filed_of_kept (confirmRefund_within hconfirm).records_kept (htold.recorded hmis)⟩

omit hr in
theorem softPatch_spec (about : RefundReport) (hopen : r.status.final = false) :
    (softPatch r about).providerRefundId = about.newRefundId r ∧
      (r.patch (softPatch r about)).status.final = false ∧
      (r.patch (softPatch r about)).status ≠ .requested := by
  unfold softPatch
  split
  · exact ⟨rfl, rfl, by simp [Refund.patch]⟩
  · rename_i hreq
    exact ⟨rfl, hopen, hreq⟩

omit hr in
/-- A terminal report writes the same row over the one a non-terminal report left. -/
theorem patch_softPatch (status : RefundStatus) (reason : Option String) :
    (r.patch (softPatch r about)).patch { status := some status, failureReason := reason }
      = r.patch { status := some status, providerRefundId := about.newRefundId r, failureReason := reason } := by
  unfold softPatch
  split
  · rfl
  · rfl

/-- A terminal report does the same after a non-terminal one as without it. -/
theorem tell_passes {e : Telling} (hsoft : ending d.word = none) (hend : ending e.word ≠ none)
    (hopen : r.status.final = false) (h : tell id about db d = .ok db') :
    tell id about db' e = tell id about db e := by
  rw [tell_soft hr hopen hsoft] at h
  have hget : (afterMismatch db r about).refunds.get? r.id = some r := get?_afterMismatch hr
  have hr₁ := get?_saved hr h
  obtain ⟨hprid, hopen₁, _⟩ := softPatch_spec about hopen
  have htold := told_saved hr hprid h
  have heq := saveRefund_eq hget h
  have hpay : db'.payments = db.payments := by
    rw [heq]
    exact afterMismatch_payments db r about
  have hnamed : about.confirmedId (r.patch (softPatch r about)) = about.confirmedId r := by
    unfold RefundReport.confirmedId
    rw [htold.named, Option.none_or, show (r.patch (softPatch r about)).providerRefundId
      = (softPatch r about).providerRefundId.or r.providerRefundId from rfl, hprid]
  rcases ending_cases e.word with hk | hk | hk
  · exact absurd hk hend
  · rw [tell_failed hr₁ hopen₁ hk, tell_failed hr hopen hk, htold.afterMismatch, heq]
    refine saveRefund_over hget rfl hopen hopen₁ ?_ rfl
    unfold failedPatch
    rw [htold.named]
    exact patch_softPatch ..
  · have hpatch : (r.patch (softPatch r about)).patch
        (succeededRefundPatch (r.patch (softPatch r about)) about)
          = r.patch (succeededRefundPatch r about) := by
      unfold succeededRefundPatch
      rw [htold.named]
      exact patch_softPatch ..
    have hsave : saveRefund db' (r.patch (softPatch r about))
        (succeededRefundPatch (r.patch (softPatch r about)) about)
          = saveRefund (afterMismatch db r about) r (succeededRefundPatch r about) := by
      rw [heq]
      exact saveRefund_over hget rfl hopen hopen₁ hpatch rfl
    rw [tell_succeeded hr₁ hopen₁ hk, tell_succeeded hr hopen hk, htold.afterMismatch, hsave, hpatch,
      hpay, hnamed]
    rfl

omit hr

/-! ### What a sequence leaves behind -/

/-- The two databases agree on everything the reports are about: how each refund and order stands, the
    payments with their totals, the documents, the stock and the records. -/
structure Agrees (a b : Db) : Prop where
  refunds : ∀ id, (a.refunds.get? id).map (·.status) = (b.refunds.get? id).map (·.status)
  payments : a.payments = b.payments
  orders : ∀ id, (a.orders.get? id).map (·.status) = (b.orders.get? id).map (·.status)
  invoices : a.invoices = b.invoices
  stock : a.stock = b.stock
  reconciliations : a.reconciliations = b.reconciliations

theorem Agrees.refl (db : Db) : Agrees db db := ⟨fun _ => rfl, rfl, fun _ => rfl, rfl, rfl, rfl⟩

/-! The history of an order is written and never read back. -/

theorem stockWrites_history (h : List OrderStatusHistory) : ∀ {ws : List StockWrite} {db db' : Db},
    db.stockWrites ws = .ok db' →
      Db.stockWrites { db with history := h } ws = .ok { db' with history := h }
  | [], _, _, hok => by cases hok; rfl
  | w :: ws, db, db', hok => by
      obtain ⟨db₁, h₁, hok⟩ := bind_ok hok
      obtain ⟨s, hs, hdb⟩ := bind_ok h₁
      have hwrite : Db.write { db with history := h } (.stock w) = .ok { db₁ with history := h } := by
        cases hdb
        simp only [Db.write, hs]
        rfl
      unfold Db.stockWrites
      rw [hwrite]
      exact stockWrites_history h hok

theorem restockOnce_history {o : Order} (h : List OrderStatusHistory) (hok : restockOnce db o = .ok db') :
    restockOnce { db with history := h } o = .ok { db' with history := h } := by
  unfold restockOnce at hok ⊢
  obtain ⟨hlines, hok⟩ := require_bind_ok hok
  simp only [require, if_pos hlines]
  exact stockWrites_history h hok

theorem issueCreditNote_history {o : Id} (h : List OrderStatusHistory)
    (hok : issueCreditNote db o = .ok db') :
    issueCreditNote { db with history := h } o = .ok { db' with history := h } := by
  unfold issueCreditNote at hok ⊢
  split at hok
  · rename_i hnone
    cases hok
    exact if_pos hnone
  rename_i hthere
  rw [if_neg hthere]
  split at hok
  · rename_i hdone
    cases hok
    exact if_pos hdone
  rename_i hfresh
  rw [if_neg hfresh]
  obtain ⟨hprofile, hok⟩ := require_bind_ok hok
  obtain ⟨t, ht, hdb⟩ := need_bind_ok hok
  cases hdb
  simp only [require, if_pos hprofile, Db.write, ht, need]
  rfl

/-- The release time is set once, at whatever time. -/
theorem release_time {o old : Order} {now : Time} (now' : Time) (hold : db.orders.get? o.id = some old)
    (hunset : old.stockReleasedAt = none)
    (h : db.write (.order o.id { stockReleasedAt := some now }) = .ok db') (hist : List OrderStatusHistory) :
    ∃ b, Db.write { db with history := hist } (.order o.id { stockReleasedAt := some now' }) = .ok b ∧
      Agrees db' b := by
  obtain ⟨old', hold', _, rfl⟩ := updateOrder_ok h
  rw [hold] at hold'
  cases hold'
  have hguard : Db.ordersLifecycleGuard { db with history := hist } old
      (old.patch { stockReleasedAt := some now' }) = .ok () := by
    unfold Db.ordersLifecycleGuard
    simp only [require, if_pos (Or.inl hunset)]
    exact if_pos rfl
  refine ⟨{ db with
    history := hist, orders := db.orders.replace (old.patch { stockReleasedAt := some now' }) }, ?_, ?_⟩
  · simp only [Db.write, Db.updateOrder, hold, need, hguard, bind, Except.bind]
  · refine ⟨fun _ => rfl, rfl, fun id => ?_, rfl, rfl, rfl⟩
    simp only [Table.get?_replace]
    rw [show Keyed.key (old.patch { stockReleasedAt := some now }) = old.id from rfl,
      show Keyed.key (old.patch { stockReleasedAt := some now' }) = old.id from rfl]
    split
    · cases db.orders.get? id with
      | none => rfl
      | some _ => rfl
    · rfl

/-- The effects of a full refund on its order do not depend on the time. -/
theorem refundOrder_time {o : Order} {now : Time} (now' : Time) (ho : db.orders.get? o.id = some o)
    (h : refundOrder db o r now = .ok db') : ∃ b, refundOrder db o r now' = .ok b ∧ Agrees db' b := by
  obtain ⟨db₁, db₂, h₁, h₂, hrest⟩ := refundOrder_ok h
  obtain ⟨db₀, h₀, h₁⟩ := bind_ok h₁
  cases h₁
  obtain ⟨old, hold, _, rfl⟩ := updateOrder_ok h₀
  rw [ho] at hold
  cases hold
  obtain ⟨hist, hstatus⟩ : ∃ hist, updateOrderStatus db o .refunded none
      (some "refund confirmed by the payment provider") now' = .ok { db with
        orders := db.orders.replace (o.patch { status := some .refunded }), history := hist } := by
    unfold updateOrderStatus
    rw [h₀]
    exact ⟨_, rfl⟩
  have hnote := issueCreditNote_history hist h₂
  rcases hrest with ⟨hrel, db₃, h₃, h₄⟩ | ⟨hrel, rfl⟩
  · have hrow : db₃.orders.get? o.id = some (o.patch { status := some .refunded }) := by
      rw [(restockOnce_within h₃).orders (by simp) (by simp) (by simp),
        (issueCreditNote_within h₂).orders (by simp) (by simp) (by simp)]
      exact Table.get?_replace_self ho
    obtain ⟨b, hb, hagrees⟩ := release_time now' hrow hrel.2.2 h₄ hist
    refine ⟨b, ?_, hagrees⟩
    unfold refundOrder
    simp only [hstatus, bind, Except.bind, hnote, restockOnce_history hist h₃]
    exact (if_pos hrel).trans hb
  · refine ⟨{ db' with history := hist }, ?_, fun _ => rfl, rfl, fun _ => rfl, rfl, rfl, rfl⟩
    unfold refundOrder
    simp only [hstatus, bind, Except.bind, hnote]
    exact if_neg hrel

/-- The session's payment is the row as it is, loaded before or not. -/
theorem sessionPayment_loads (loads : Bool) (id : Id) :
    sessionPayment db (if loads then db.payments.get? id else none) id = sessionPayment db none id := by
  cases loads with
  | false => rfl
  | true =>
    cases hp : db.payments.get? id with
    | none => simp [sessionPayment]
    | some p => simp [sessionPayment, hp, need, show p.id = id from Table.key_of_get? hp]

theorem confirmRefund_time {prid : Option String} {amount : Option ℤ} {now now' : Time}
    {loads loads' : Bool}
    (h : confirmRefund db r prid amount (if loads then db.payments.get? r.paymentId else none) now = .ok db') :
    ∃ b, confirmRefund db r prid amount (if loads' then db.payments.get? r.paymentId else none) now' = .ok b ∧
      Agrees db' b := by
  obtain ⟨order, payment, db₁, db₂, horder, hpayment, hwrite, hdb₂, hrest⟩ := confirmRefund_ok h
  rw [sessionPayment_loads, ← sessionPayment_loads loads'] at hpayment
  have hlock : lockOrder db r.orderId = .ok order := need_eq_ok.mpr horder
  subst hdb₂
  rcases hrest with ⟨hrefunds, hro⟩ | ⟨hrefunds, rfl⟩
  · have hid : order.id = r.orderId := Table.key_of_get? horder
    obtain ⟨b, hb, hagrees⟩ := refundOrder_time now' (by
      rw [(overlapRecord_within ..).orders (by simp) (by simp) (by simp), write_mask hwrite, hid]
      exact horder) hro
    refine ⟨b, ?_, hagrees⟩
    unfold confirmRefund
    simp only [hlock, hpayment, hwrite, bind, Except.bind]
    exact (if_pos hrefunds).trans hb
  · refine ⟨_, ?_, .refl _⟩
    unfold confirmRefund
    simp only [hlock, hpayment, hwrite, bind, Except.bind]
    exact if_neg hrefunds

theorem status_replace (t : Table Refund) {r₁ r₂ : Refund} (hid : r₁.id = r₂.id)
    (hstatus : r₁.status = r₂.status) (id : Id) :
    ((t.replace r₁).get? id).map (·.status) = ((t.replace r₂).get? id).map (·.status) := by
  rw [Table.get?_replace, Table.get?_replace, show Keyed.key r₁ = Keyed.key r₂ from hid]
  split
  · cases t.get? id with
    | none => rfl
    | some _ => exact congrArg some hstatus
  · rfl

/-- Nothing stands against a refund that fails. -/
theorem saveRefund_failed {word : Option String} (hr : db.refunds.get? id = some r)
    (hopen : r.status.final = false) :
    saveRefund (afterMismatch db r about) r (failedPatch r about word) = .ok { afterMismatch db r about with
      refunds := (afterMismatch db r about).refunds.replace (r.patch (failedPatch r about word)) } := by
  have hne : r.patch (failedPatch r about word) ≠ r := by
    intro heq
    rw [← heq] at hopen
    cases hopen
  have hlimit : (afterMismatch db r about).refundsCumulativeGuard (r.patch (failedPatch r about word)) := by
    intro hactive
    cases hactive
  unfold saveRefund
  rw [if_neg hne, write_ending (get?_afterMismatch hr) hopen rfl, if_pos hlimit]

/-- Reports that end a refund alike, or both end nothing, leave the same behind. -/
theorem tell_alike {e : Telling} (hk : ending d.word = ending e.word) (h : tell id about db d = .ok db') :
    ∃ b, tell id about db e = .ok b ∧ Agrees db' b := by
  cases hr : db.refunds.get? id with
  | none =>
    simp only [tell, hr] at h ⊢
    cases h
    exact ⟨db, rfl, .refl db⟩
  | some r =>
    cases hopen : r.status.final with
    | true =>
      rw [tell_final hr hopen] at h
      exact ⟨db', by rw [tell_final hr hopen]; exact h, .refl db'⟩
    | false =>
      rcases ending_cases d.word with hd | hd | hd
      · rw [tell_soft hr hopen hd] at h
        exact ⟨db', by rw [tell_soft hr hopen (hk ▸ hd)]; exact h, .refl db'⟩
      · rw [tell_failed hr hopen hd, saveRefund_failed hr hopen] at h
        cases h
        rw [tell_failed hr hopen (hk ▸ hd), saveRefund_failed hr hopen]
        refine ⟨_, rfl, fun id => ?_, rfl, fun _ => rfl, rfl, rfl, rfl⟩
        have hid : (r.patch (failedPatch r about d.word)).id = (r.patch (failedPatch r about e.word)).id := rfl
        exact status_replace _ hid rfl id
      · rw [tell_succeeded hr hopen hd] at h
        obtain ⟨db₁, hsave, hconfirm⟩ := bind_ok h
        have hpay : db₁.payments = db.payments := by
          rw [saveRefund_eq (get?_afterMismatch hr) hsave]
          exact afterMismatch_payments db r about
        rw [← hpay] at hconfirm
        obtain ⟨b, hb, hagrees⟩ := confirmRefund_time hconfirm
        refine ⟨b, ?_, hagrees⟩
        rw [tell_succeeded hr hopen (hk ▸ hd), hsave, ← hpay]
        exact hb

/-- Whether the report ends a refund. -/
def Telling.ends (d : Telling) : Bool := (ending d.word).isSome

theorem tell_absorbs (id : Id) (about : RefundReport) (db : Db) (ds : List Telling) :
    Absorbs (tell id about) Telling.ends db ds := by
  cases hr : db.refunds.get? id with
  | none =>
    have hsame : ∀ d, tell id about db d = .ok db := by
      intro d
      simp only [tell, hr]
    have hok : ∀ {d s₁}, tell id about db d = .ok s₁ → s₁ = db := by
      intro d s₁ h
      rw [hsame] at h
      exact (Except.ok.inj h).symm
    refine ⟨fun x _ y _ s₁ _ _ h => ?_, fun x _ y _ s₁ _ _ h => ?_, fun x _ y _ s₁ _ h => ?_⟩
    · rw [hok h]
      exact commit_of_ok (hsame y)
    · rw [hok h]
    · rw [hok h]
      exact commit_of_ok (hsame y)
  | some r =>
    cases hopen : r.status.final with
    | true =>
      -- every report does the same, once
      have hdone : ∀ {d e s₁}, tell id about db d = .ok s₁ → tell id about s₁ e = .ok s₁ := by
        intro d e s₁ h
        rw [tell_final hr hopen] at h
        exact (told_saved hr rfl h).tell_final (get?_saved hr h) hopen
      refine ⟨fun x _ y _ s₁ _ _ h => commit_of_ok (hdone h), fun x _ y _ s₁ _ _ h => ?_,
        fun x _ y _ s₁ _ h => commit_of_ok (hdone h)⟩
      rw [hdone h, ← h, tell_final hr hopen, tell_final hr hopen]
    | false =>
      refine ⟨fun x _ y _ s₁ hx hy h => ?_, fun x _ y _ s₁ hx hy h => ?_, fun x _ y _ s₁ hx h => ?_⟩
      · rw [tell_soft hr hopen (by simpa [Telling.ends] using hx)] at h
        obtain ⟨hprid, hopen₁, hreq⟩ := softPatch_spec about hopen
        exact commit_of_ok ((told_saved hr hprid h).tell_soft (get?_saved hr h) hopen₁ hreq
          (by simpa [Telling.ends] using hy))
      · exact tell_passes hr (by simpa [Telling.ends] using hx)
          (Option.isSome_iff_ne_none.mp hy) hopen h
      · obtain ⟨r', hr', hfinal, htold⟩ := tell_ends hr hopen (Option.isSome_iff_ne_none.mp hx) h
        exact commit_of_ok (htold.tell_final hr' hfinal)

/-- Refund reports are idempotent and order-insensitive. Two sequences of reports about a refund, with
    the same id, amount and currency and the same status words, of which at most one kind is terminal,
    leave the same behind, whatever their order and repetitions, whichever handler applied them and when.
    And no report moves a refund out of `succeeded` or `failed`. -/
theorem refund_reports_insensitive (id : Id) (about : RefundReport) (db : Db) (ds ds' : List Telling)
    (hone : ∀ d ∈ ds, ∀ e ∈ ds, ending d.word ≠ none → ending e.word ≠ none →
      ending d.word = ending e.word)
    (hsame : ∀ word, (∃ d ∈ ds, d.word = word) ↔ ∃ d ∈ ds', d.word = word) :
    Agrees (commitAll (tell id about) db ds) (commitAll (tell id about) db ds') ∧
    ∀ (db : Db) (d : Telling) (r : Refund), db.refunds.get? id = some r → r.status.final = true →
      ∃ r', (commit (tell id about) db d).refunds.get? id = some r' ∧ r'.status = r.status := by
  refine ⟨?_, fun db d r hr hfinal => ?_⟩
  · have halike : ∀ {d e : Telling}, d.word = e.word → ending d.word = ending e.word :=
      fun h => congrArg ending h
    refine SettledBy.agree (.refl db) (fun d hd => ?_) (fun e he => ?_) (fun d hd e he a b hends ha hb => ?_)
      (tell_absorbs id about db ds).settledBy (tell_absorbs id about db ds').settledBy
    · obtain ⟨e, he, hword⟩ := (hsame d.word).mp ⟨d, hd, rfl⟩
      refine ⟨e, he, by rw [Telling.ends, Telling.ends, halike hword], fun a ha => ?_⟩
      obtain ⟨b, hb, _⟩ := tell_alike (halike hword.symm) ha
      exact ⟨b, hb⟩
    · obtain ⟨d, hd, hword⟩ := (hsame e.word).mpr ⟨e, he, rfl⟩
      refine ⟨d, hd, by rw [Telling.ends, Telling.ends, halike hword], fun a ha => ?_⟩
      obtain ⟨b, hb, _⟩ := tell_alike (halike hword.symm) ha
      exact ⟨b, hb⟩
    · have hkind : ending d.word = ending e.word := by
        obtain ⟨d', hd', hword⟩ := (hsame e.word).mpr ⟨e, he, rfl⟩
        cases hk : ending e.word with
        | none => simpa [Telling.ends, hk] using hends
        | some k =>
          have hdk : ending d.word ≠ none := by
            simpa [Telling.ends, hk, Option.isSome_iff_ne_none] using hends
          have hek : ending d'.word ≠ none := by simp [hword, hk]
          rw [hone d hd d' hd' hdk hek, hword, hk]
      obtain ⟨b', hb', hagrees⟩ := tell_alike hkind ha
      rw [hb] at hb'
      cases hb'
      exact hagrees
  · rcases commit_cases (tell id about) db d with hok | hrolled
    · rw [tell_final hr hfinal] at hok
      exact ⟨_, get?_saved hr hok, rfl⟩
    · rw [hrolled]
      exact ⟨r, hr, rfl⟩

/-- The answer between two events, the success twice, and the other way round. -/
theorem refund_reports_insensitive_swapped : ∃ tr s, Run smallSettings smallShop tr s ∧
    ((commitAll (tell 1 refundSucceeded) s.db [⟨some "pending", true, 1⟩, ⟨some "succeeded", false, 2⟩,
      ⟨some "succeeded", true, 3⟩]).orders.get? 1).map (·.status) = some .refunded ∧
    Agrees
      (commitAll (tell 1 refundSucceeded) s.db [⟨some "pending", true, 1⟩, ⟨some "succeeded", false, 2⟩,
        ⟨some "succeeded", true, 3⟩])
      (commitAll (tell 1 refundSucceeded) s.db [⟨some "succeeded", true, 4⟩, ⟨some "pending", false, 5⟩]) := by
  obtain ⟨tr, s, hrun, hrefunded⟩ := exists_exec (step smallSettings) smallShop
    (P := fun _ s => ((commitAll (tell 1 refundSucceeded) s.db [⟨some "pending", true, 1⟩,
      ⟨some "succeeded", false, 2⟩, ⟨some "succeeded", true, 3⟩]).orders.get? 1).map (·.status)
        = some .refunded)
    (paidOrder ++ submittedRefund) (by decide)
  refine ⟨tr, s, hrun, hrefunded, (refund_reports_insensitive 1 refundSucceeded s.db _ _ ?_ ?_).1⟩
  · decide
  · intro word
    simp [or_comm]

end NovaCart
