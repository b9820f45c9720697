import NovaCart.Inversions

/-! The footprint of every operation: which kinds of statements it may send.

    One lemma per function, following its body. What an operation leaves alone is read off its
    footprint with `Within.frame`, so no later proof unfolds an operation to learn that a table did
    not change. -/

namespace NovaCart

open Schemes

variable {db db' seen : Db} {now : Time}

/-! ### Orders and stock -/

/-- A record under a key that names a dispute needs the dispute. -/
theorem reconcileIf_grounded {kind : ReconciliationKind} {k : DedupeKey} (hkind : kind ≠ .latePayment)
    (hk : k.flagsPayment = false) (c : Prop) [Decidable c] (p : Option Payment) (o : Option Id)
    (ppid : Option String) (hground : ∀ id, k.namesDispute id → db.disputes.get? id ≠ none) :
    Within [.reconcile] db (reconcileIf c db kind k p o ppid) := by
  unfold reconcileIf
  split
  · refine Within.one (w := .reconcile _) rfl ⟨by simp [hkind], fun hflags => ?_, hground⟩
    rw [hk] at hflags
    cases hflags
  · exact .refl db

theorem plain_spec {k : DedupeKey} (hk : k.plain = true) :
    k.flagsPayment = false ∧ ∀ id, ¬k.namesDispute id := by
  refine ⟨?_, ?_⟩
  · unfold DedupeKey.plain at hk
    split at hk
    · cases hk
    · cases hk
    · simpa using hk
  · rintro id (rfl | rfl)
    · cases hk
    · cases hk

theorem reconcileIf_within {kind : ReconciliationKind} {k : DedupeKey} (hkind : kind ≠ .latePayment)
    (hk : k.plain = true) (c : Prop) [Decidable c] (db : Db) (p : Option Payment)
    (o : Option Id) (ppid : Option String) :
    Within [.reconcile] db (reconcileIf c db kind k p o ppid) :=
  reconcileIf_grounded hkind (plain_spec hk).1 c p o ppid fun id hid => absurd hid ((plain_spec hk).2 id)

theorem reconcile_within {kind : ReconciliationKind} {k : DedupeKey} (hkind : kind ≠ .latePayment)
    (hk : k.plain = true) (db : Db) (p : Option Payment) (o : Option Id)
    (ppid : Option String) : Within [.reconcile] db (reconcile db kind k p o ppid) := by
  have h := reconcileIf_within hkind hk True db p o ppid
  rwa [reconcileIf, if_pos trivial] at h

/-- A refund's own record of an overlap names no dispute: its key is a number. -/
theorem refundKey_names (refundId id : Id) :
    ¬(ReconciliationKind.disputeDuringRefund.key refundId).namesDispute id := by
  rintro (h | h)
  · have harg : toString refundId = "dispute:" ++ toString id := congrArg DedupeKey.arg h
    have hd : 'd' ∈ Nat.toDigits 10 refundId := by
      have hchars := congrArg String.toList harg
      rw [Nat.toString_eq_repr, Nat.toList_repr] at hchars
      rw [hchars]
      simp
    have := Nat.isDigit_of_mem_toDigits (by decide) (by decide) hd
    cases this
  · have htag := congrArg DedupeKey.tag h
    cases htag

theorem overlapRecord_within (c : Prop) [Decidable c] (db : Db) (refundId : Id) (p : Option Payment)
    (o : Option Id) (ppid : Option String) :
    Within [.reconcile] db (reconcileIf c db .disputeDuringRefund
      (ReconciliationKind.disputeDuringRefund.key refundId) p o ppid) :=
  reconcileIf_grounded (by decide) (by rfl) c p o ppid fun id hid => absurd hid (refundKey_names _ id)

theorem toString_inj {a b : Nat} (h : toString a = toString b) : a = b := by
  have hd : Nat.toDigits 10 a = Nat.toDigits 10 b := by
    have hchars := congrArg String.toList h
    rwa [Nat.toString_eq_repr, Nat.toString_eq_repr, Nat.toList_repr, Nat.toList_repr] at hchars
  rw [← Nat.ofDigitChars_ten_toDigits (n := a), hd, Nat.ofDigitChars_ten_toDigits]

/-- A key names at most one dispute. -/
theorem overlapKey_names {id id' : Id} (h : (overlapKey id).namesDispute id') : id' = id := by
  rcases h with h | h
  · have harg : "dispute:" ++ toString id = "dispute:" ++ toString id' := congrArg DedupeKey.arg h
    exact (toString_inj (String.append_right_inj .. |>.mp harg)).symm
  · have htag := congrArg DedupeKey.tag h
    cases htag

theorem lostKey_names {id id' : Id} (h : (ReconciliationKind.disputeLost.key id).namesDispute id') :
    id' = id := by
  rcases h with h | h
  · have htag := congrArg DedupeKey.tag h
    cases htag
  · exact (toString_inj (congrArg DedupeKey.arg h)).symm

/-- A flag on a payment is recorded under the payment's own key. -/
theorem flagPayment_within {kind : ReconciliationKind} {p : Payment}
    (hk : (kind.key p.id).flagsPayment = true) (db : Db) (ppid : Option String) :
    Within [.reconcile, .lateRecord] db (flagPayment db kind p ppid) := by
  refine Within.one (w := .reconcile _) rfl ⟨?_, fun _ => ⟨p.id, rfl, rfl⟩, ?_⟩
  · simp only [Write.kind]
    split
    · simp
    · simp
  · rintro id (h | h)
    · rw [show kind.key p.id = overlapKey id from h] at hk
      cases hk
    · rw [show kind.key p.id = ReconciliationKind.disputeLost.key id from h] at hk
      cases hk

theorem eventMismatch_flags {e : WebhookEvent} {p : Payment} {kind : ReconciliationKind}
    (h : eventMismatch seen e p = some kind) (id : Id) : (kind.key id).flagsPayment = true := by
  unfold eventMismatch at h
  split at h
  · cases h; rfl
  split at h
  · cases h; rfl
  split at h
  · cases h; rfl
  split at h
  · cases h
  split at h
  · cases h; rfl
  · cases h

theorem updateOrderStatus_within {o : Order} {new : OrderStatus} {by_ : Option Id}
    {reason : Option String} {c : OrderPatch}
    (h : updateOrderStatus db o new by_ reason now c = .ok db') :
    Within [.orderStatus, .history] db db' := by
  obtain ⟨db₁, h₁, h⟩ := bind_ok h
  exact (Within.one h₁ (by simp)).trans (Within.one h (by simp))

theorem markPaid_within {o : Order} {p : Payment} (h : markPaid db o p now = .ok db') :
    Within [.orderStatus, .orderRest, .history] db db' := by
  unfold markPaid at h
  split at h
  · obtain ⟨db₁, h₁, h⟩ := bind_ok h
    exact ((updateOrderStatus_within h₁).mono (by simp)).trans (Within.one h (by simp))
  · cases h; exact .refl db

theorem issueInvoice_within {o : Order} (h : issueInvoice db o = .ok db') :
    Within [.invoice] db db' := by
  unfold issueInvoice at h
  split at h
  · cases h; exact .refl db
  split at h
  · cases h; exact .refl db
  split at h
  · cases h; exact .refl db
  obtain ⟨_, h⟩ := require_bind_ok h
  obtain ⟨_, h⟩ := require_bind_ok h
  exact Within.one h (by simp)

theorem issueCreditNote_within {o : Id} (h : issueCreditNote db o = .ok db') :
    Within [.invoice] db db' := by
  unfold issueCreditNote at h
  split at h
  · cases h; exact .refl db
  split at h
  · cases h; exact .refl db
  obtain ⟨_, h⟩ := require_bind_ok h
  exact Within.one h (by simp)

theorem fulfil_within {o : Order} {by_ : Option Id} {reason : Option String}
    (h : fulfil db o by_ reason now = .ok db') :
    Within [.orderStatus, .history, .invoice] db db' := by
  obtain ⟨db₁, h₁, h⟩ := bind_ok h
  exact ((updateOrderStatus_within h₁).mono (by simp)).trans ((issueInvoice_within h).mono (by simp))

theorem adminChangeStatus_within {o admin : Id} {new : OrderStatus}
    (h : adminChangeStatus db o new admin now = .ok db') :
    Within [.orderStatus, .history, .invoice] db db' := by
  cases new with
  | fulfilled =>
    obtain ⟨order, _, h⟩ := bind_ok h
    split at h
    · cases h; exact .refl db
    obtain ⟨_, h⟩ := require_bind_ok h
    obtain ⟨_, h⟩ := require_bind_ok h
    exact fulfil_within h
  | pending => cases h
  | paid => cases h
  | cancelled => cases h
  | refunded => cases h

theorem stockWrites_within : ∀ {ws : List StockWrite} {db : Db},
    db.stockWrites ws = .ok db' → Within [.stock] db db'
  | [], _, h => by cases h; exact .refl _
  | w :: ws, _, h => by
      obtain ⟨db₁, h₁, h⟩ := bind_ok h
      exact (Within.one h₁ (by simp)).trans (stockWrites_within h)

theorem restockOnce_within {o : Order} (h : restockOnce db o = .ok db') : Within [.stock] db db' := by
  obtain ⟨_, h⟩ := require_bind_ok h
  exact stockWrites_within h

theorem releaseStockAndCancel_within {o : Order} {by_ : Option Id} {reason : String}
    (h : releaseStockAndCancel db o by_ reason now = .ok db') :
    Within [.stock, .orderStatus, .history] db db' := by
  unfold releaseStockAndCancel at h
  split at h
  · obtain ⟨db₁, h₁, h⟩ := bind_ok h
    exact ((restockOnce_within h₁).mono (by simp)).trans ((updateOrderStatus_within h).mono (by simp))
  · exact (updateOrderStatus_within h).mono (by simp)

theorem failPending_within : ∀ {ps : List Payment} {db : Db},
    failPending db ps = .ok db' → Within [.payment] db db'
  | [], _, h => by cases h; exact .refl _
  | p :: ps, _, h => by
      unfold failPending at h
      split at h
      · obtain ⟨db₁, h₁, h⟩ := bind_ok h
        exact (Within.one h₁ (by simp)).trans (failPending_within h)
      · exact failPending_within h

theorem cancelFinish_within {call : CancelCall} (h : cancelFinish db call now = .ok db') :
    Within [.payment, .stock, .orderStatus, .history] db db' := by
  obtain ⟨order, _, h⟩ := bind_ok h
  split at h
  · cases h; exact .refl db
  dsimp only at h
  split at h
  · cases h; exact .refl db
  obtain ⟨db₁, h₁, h⟩ := bind_ok h
  exact ((failPending_within h₁).mono (by simp)).trans
    ((releaseStockAndCancel_within h).mono (by simp))

theorem cancelReport_within (db : Db) (call : CancelCall) :
    Within [.reconcile] db (cancelReport db call) := by
  unfold cancelReport
  split
  · exact reconcile_within (by decide) (by rfl) ..
  · exact reconcile_within (by decide) (by rfl) ..

/-! ### Refunds and disputes -/

theorem requestRefund_within {o by_ id id' : Id} {p : Option Id} {cancels : Bool}
    (h : requestRefund db o by_ p cancels id = .ok (db', id')) : Within [.insertRefund] db db' := by
  obtain ⟨order, _, h⟩ := bind_ok h
  obtain ⟨_, h⟩ := require_bind_ok h
  obtain ⟨_, h⟩ := require_bind_ok h
  obtain ⟨found, _, h⟩ := bind_ok h
  obtain ⟨payment, _, h⟩ := need_bind_ok h
  split at h
  · obtain ⟨_, h⟩ := require_bind_ok h
    cases h; exact .refl db
  · obtain ⟨_, _, h⟩ := bind_ok h
    obtain ⟨_, _, h⟩ := bind_ok h
    obtain ⟨db₁, h₁, h⟩ := bind_ok h
    cases h; exact Within.one h₁ (by simp)

/-- What the order's side of a full refund writes. -/
def refundOrderKinds : List WriteKind := [.orderStatus, .history, .invoice, .stock, .orderRest]

theorem refundOrder_within {o : Order} {r : Refund} (h : refundOrder db o r now = .ok db') :
    Within refundOrderKinds db db' := by
  obtain ⟨db₁, h₁, h⟩ := bind_ok h
  obtain ⟨db₂, h₂, h⟩ := bind_ok h
  have h₁₂ : Within refundOrderKinds db db₂ :=
    ((updateOrderStatus_within h₁).mono (by simp [refundOrderKinds])).trans
      ((issueCreditNote_within h₂).mono (by simp [refundOrderKinds]))
  split at h
  · obtain ⟨db₃, h₃, h⟩ := bind_ok h
    exact h₁₂.trans (((restockOnce_within h₃).mono (by simp [refundOrderKinds])).trans
      (Within.one h (by simp [refundOrderKinds])))
  · cases h; exact h₁₂

/-- What confirming a refund writes. -/
def confirmKinds : List WriteKind := [.payment, .reconcile] ++ refundOrderKinds

theorem confirmRefund_within {r : Refund} {prid : Option String} {amount : Option ℤ}
    {loaded : Option Payment} (h : confirmRefund db r prid amount loaded now = .ok db') :
    Within confirmKinds db db' := by
  obtain ⟨order, _, h⟩ := bind_ok h
  obtain ⟨payment, _, h⟩ := bind_ok h
  obtain ⟨db₁, h₁, h⟩ := bind_ok h
  dsimp only at h
  have hpay : Within confirmKinds db db₁ := Within.one h₁ (by simp [confirmKinds])
  split at h
  · refine hpay.trans (.trans ?_ ((refundOrder_within h).mono (by simp [confirmKinds])))
    exact (overlapRecord_within ..).mono (by simp [confirmKinds])
  · cases h
    exact hpay.trans ((overlapRecord_within ..).mono (by simp [confirmKinds]))

theorem saveRefund_within {r : Refund} {c : RefundPatch} (h : saveRefund db r c = .ok db') :
    Within [.refund] db db' := by
  unfold saveRefund at h
  split at h
  · cases h; exact .refl db
  · exact Within.one h (by simp)

def applyKinds : List WriteKind := .refund :: confirmKinds

theorem applyRefundState_within {r : Refund} {t : RefundReport} {loaded : Option Payment}
    (h : applyRefundState db r t loaded now = .ok db') : Within applyKinds db db' := by
  unfold applyRefundState at h
  dsimp only at h
  have hhead : Within applyKinds db (afterMismatch db r t) :=
    (reconcileIf_within (by decide) (by rfl) ..).mono (by simp [applyKinds, confirmKinds])
  have hsave : ∀ {a b : Db} {c : RefundPatch}, saveRefund a r c = .ok b → Within applyKinds a b :=
    fun hs => (saveRefund_within hs).mono (by simp [applyKinds])
  split at h
  · exact hhead.trans (hsave h)
  split at h
  · obtain ⟨db₁, h₁, h⟩ := bind_ok h
    exact hhead.trans ((hsave h₁).trans ((confirmRefund_within h).mono (by simp [applyKinds])))
  split at h
  · exact hhead.trans (hsave h)
  split at h
  · exact hhead.trans (hsave h)
  · exact hhead.trans (hsave h)

theorem finishRefund_within {id : Id} {t : RefundReport} (h : finishRefund db id t now = .ok db') :
    Within applyKinds db db' := by
  unfold finishRefund at h
  split at h
  · cases h; exact .refl db
  · exact applyRefundState_within h

theorem beginRefundAttempt_within {id : Id} {a : Option RefundAttempt}
    (h : beginRefundAttempt db id = .ok (db', a)) : Within [.refund, .reconcile] db db' := by
  unfold beginRefundAttempt at h
  split at h
  · cases h; exact .refl db
  split at h
  · cases h; exact .refl db
  obtain ⟨payment, _, h⟩ := need_bind_ok h
  split at h
  · obtain ⟨db₁, h₁, h⟩ := bind_ok h
    cases h
    exact (Within.one h₁ (by simp)).trans ((reconcile_within (by decide) (by rfl) ..).mono (by simp))
  · obtain ⟨db₁, h₁, h⟩ := bind_ok h
    obtain ⟨amount, _, h⟩ := bind_ok h
    cases h
    exact ((overlapRecord_within ..).mono (by simp)).trans (Within.one h₁ (by simp))

theorem recordRefundAttemptFailed_within {cfg : Settings} {id : Id} {error : String}
    (h : recordRefundAttemptFailed cfg db id error = .ok db') : Within [.refund, .reconcile] db db' := by
  unfold recordRefundAttemptFailed at h
  split at h
  · cases h; exact .refl db
  split at h
  · cases h; exact .refl db
  obtain ⟨db₁, h₁, h⟩ := bind_ok h
  cases h
  exact (Within.one h₁ (by simp)).trans ((reconcile_within (by decide) (by rfl) ..).mono (by simp))

theorem recordExternalRefund_within {p : Payment} {prid : String} {amount : Option ℤ}
    {currency : Option String} {id : Id}
    (h : recordExternalRefund db p prid amount currency id = .ok db') :
    Within [.insertRefund, .payment, .reconcile] db db' := by
  obtain ⟨known, _, h⟩ := bind_ok h
  split at h
  · cases h; exact .refl db
  split at h
  · split at h
    · rename_i db₁ h₁
      obtain ⟨db₂, h₂, h⟩ := bind_ok h
      cases h
      exact (Within.one h₁ (by simp)).trans ((Within.one h₂ (by simp)).trans
        ((reconcile_within (by decide) (by rfl) ..).mono (by simp)))
    · cases h; exact (reconcile_within (by decide) (by rfl) ..).mono (by simp)
    · cases h
  · cases h; exact (reconcile_within (by decide) (by rfl) ..).mono (by simp)

def disputeKinds : List WriteKind := [.insertDispute, .dispute, .reconcile]

/-- A new dispute is recorded, then the records that name it. -/
theorem openDispute_within {p : Payment} {e : WebhookEvent} {pdid : String} {id : Id}
    (h : openDispute db p e pdid id now = .ok db') :
    Within disputeKinds db db' ∧ db'.disputes.get? id ≠ none := by
  obtain ⟨db₁, h₁, h⟩ := bind_ok h
  obtain ⟨_, t, ht, hdb₁⟩ := insertDispute_ok h₁
  have hrow : db₁.disputes.get? id ≠ none := by
    rw [hdb₁]
    exact Option.ne_none_iff_exists'.mpr
      ⟨_, Table.get?_of_mem ((Table.mem_insert? ht).mpr (.inl rfl))⟩
  cases h
  have hduring : Within [.reconcile] db₁ (reconcileIf
      ((disputeStatusMap e.disputeStatus).final = false ∧ db₁.hasSubmittedRefund p.id) db₁
      .disputeDuringRefund (overlapKey id) (some p) none none) :=
    reconcileIf_grounded (by decide) (by rfl) _ _ _ _ fun id' hid => by
      rw [overlapKey_names hid]
      exact hrow
  have hopened : ∀ a, Within [.reconcile] a (reconcileIf
      ((disputeStatusMap e.disputeStatus).final = false) a .disputeOpened
      (ReconciliationKind.disputeOpened.key id) (some p) none none) :=
    fun a => reconcileIf_within (by decide) (by rfl) ..
  have hrecords : Within [.reconcile] db₁ _ := hduring.trans (hopened _)
  refine ⟨(Within.one h₁ (by simp [disputeKinds])).trans (hrecords.mono (by simp [disputeKinds])), ?_⟩
  have hdisputes := hrecords.disputes (by simp) (by simp)
  rw [← hdisputes] at hrow
  exact hrow

/-- A lost dispute is recorded under its own key. -/
theorem lostRecord_within {id : Id} (c : Prop) [Decidable c] (p : Payment)
    (hrow : db.disputes.get? id ≠ none) :
    Within [.reconcile] db (reconcileIf c db .disputeLost (ReconciliationKind.disputeLost.key id)
      (some p) none none) :=
  reconcileIf_grounded (by decide) (by rfl) c _ _ _ fun id' hid => by
    rw [lostKey_names hid]
    exact hrow

theorem applyDisputeEvent_within {e : WebhookEvent} {id : Id}
    (h : applyDisputeEvent seen db e id now = .ok db') : Within disputeKinds db db' := by
  unfold applyDisputeEvent at h
  dsimp only at h
  split at h
  · obtain ⟨payment, _, h⟩ := need_bind_ok h
    split at h
    · obtain ⟨db₁, h₁, h⟩ := bind_ok h
      obtain ⟨hopen, hrow⟩ := openDispute_within h₁
      cases h
      exact hopen.trans ((lostRecord_within _ payment hrow).mono (by simp [disputeKinds]))
    · split at h
      · cases h; exact .refl db
      obtain ⟨db₁, h₁, h⟩ := bind_ok h
      obtain ⟨old, hold, _, hdb₁⟩ := updateDispute_ok h₁
      cases h
      refine (Within.one h₁ (by simp [disputeKinds])).trans
        ((lostRecord_within _ payment ?_).mono (by simp [disputeKinds]))
      rw [hdb₁, ne_eq, Table.get?_replace_eq_none, hold]
      simp
  · cases h; exact (reconcile_within (by decide) (by rfl) ..).mono (by simp [disputeKinds])

end NovaCart
