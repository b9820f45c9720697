import NovaCart.Footprints

/-! Footprints, continued: webhook handlers, recovery, payment calls, sales and administration, and
    from them the footprint of every step of the store. -/

namespace NovaCart

open Schemes

variable {db db' seen : Db} {now : Time} {cfg : Settings} {e : WebhookEvent}

/-! ### Webhooks -/

theorem deferEvent_within (cfg : Settings) (db : Db) (e : WebhookEvent) (now : Time) :
    Within [.defer] db (deferEvent cfg db e now) := by
  unfold deferEvent
  split
  · exact .refl db
  · exact Within.one (w := .defer _) rfl (by simp)

theorem deferIfPaymentUnknown_within (cfg : Settings) (db : Db) (e : WebhookEvent) (now : Time) :
    Within [.defer] db (deferIfPaymentUnknown cfg db e now) := by
  unfold deferIfPaymentUnknown
  split
  · exact deferEvent_within cfg db e now
  · exact .refl db

theorem savePayment_within {p : Payment} {c : PaymentPatch} (h : savePayment db p c = .ok db') :
    Within [.payment] db db' := by
  unfold savePayment at h
  split at h
  · cases h; exact .refl db
  · exact Within.one h (by simp)

theorem settleOrder_within {p : Payment} (h : settleOrder db e p now = .ok db') :
    Within [.reconcile, .lateRecord, .orderStatus, .orderRest, .history] db db' := by
  unfold settleOrder at h
  split at h
  · cases h; exact (flagPayment_within (by rfl) ..).mono (by simp)
  split at h
  · cases h; exact (flagPayment_within (by rfl) ..).mono (by simp)
  · exact (markPaid_within h).mono (by simp)

/-- What a success event may write. -/
def succeededKinds : List WriteKind :=
  [.reconcile, .lateRecord, .defer, .payment, .orderStatus, .orderRest, .history]

theorem handlePaymentSucceeded_within (h : handlePaymentSucceeded cfg seen db e now = .ok db') :
    Within succeededKinds db db' := by
  unfold handlePaymentSucceeded at h
  split at h
  · cases h
    exact ((reconcile_within (by decide) (by rfl) ..).mono (by simp [succeededKinds])).trans
      ((deferEvent_within ..).mono (by simp [succeededKinds]))
  split at h
  · cases h; exact (flagPayment_within (eventMismatch_flags ‹_› _) ..).mono (by simp [succeededKinds])
  · obtain ⟨db₁, h₁, h⟩ := bind_ok h
    exact ((savePayment_within h₁).mono (by simp [succeededKinds])).trans
      ((settleOrder_within h).mono (by simp [succeededKinds]))

theorem handlePaymentFailed_within (h : handlePaymentFailed seen db e = .ok db') :
    Within [.payment] db db' := by
  unfold handlePaymentFailed at h
  split at h
  · cases h; exact .refl db
  split at h
  · cases h; exact .refl db
  · exact savePayment_within h

/-- What a refund event may write. -/
def refundKinds : List WriteKind := .insertRefund :: .defer :: applyKinds

theorem handleRefundEvent_within {id : Id} (h : handleRefundEvent cfg seen db e id now = .ok db') :
    Within refundKinds db db' := by
  obtain ⟨target, _, h⟩ := bind_ok h
  dsimp only at h
  split at h
  · obtain ⟨locked, _, h⟩ := need_bind_ok h
    exact (applyRefundState_within h).mono (by simp [refundKinds])
  split at h
  · exact (recordExternalRefund_within h).mono (by simp [refundKinds, applyKinds, confirmKinds])
  · cases h
    exact ((deferIfPaymentUnknown_within ..).mono (by simp [refundKinds])).trans
      ((reconcile_within (by decide) (by rfl) ..).mono (by simp [refundKinds, applyKinds, confirmKinds]))

theorem handleDisputeEvent_within {id : Id} (h : handleDisputeEvent cfg seen db e id now = .ok db') :
    Within (.defer :: disputeKinds) db db' := by
  obtain ⟨db₁, h₁, h⟩ := bind_ok h
  cases h
  exact ((applyDisputeEvent_within h₁).mono (by simp)).trans
    ((deferIfPaymentUnknown_within ..).mono (by simp))

/-- What the handler of any event may write. -/
def handlerKinds : List WriteKind := .lateRecord :: refundKinds ++ disputeKinds

theorem handleEvent_within {id : Id} (h : handleEvent cfg seen db e id now = .ok db') :
    Within handlerKinds db db' := by
  unfold handleEvent at h
  split at h
  · exact (handlePaymentSucceeded_within h).mono (by decide)
  · exact (handlePaymentFailed_within h).mono (by decide)
  · exact (handleRefundEvent_within h).mono (by decide)
  · exact (handleDisputeEvent_within h).mono (by decide)
  · cases h; exact .refl db

theorem applyDeferredEvent_within {id : Id} (h : applyDeferredEvent cfg seen db e id now = .ok db') :
    Within handlerKinds db db' := by
  unfold applyDeferredEvent at h
  split at h
  · exact (handlePaymentSucceeded_within h).mono (by decide)
  · exact (handleRefundEvent_within h).mono (by decide)
  · exact (applyDisputeEvent_within h).mono (by decide)
  · cases h; exact .refl db
  · cases h; exact .refl db

theorem processWebhookEvent_within {id : Id}
    (h : processWebhookEvent cfg seen db e id now = .ok db') :
    Within (.event :: handlerKinds) db db' := by
  unfold processWebhookEvent at h
  dsimp only at h
  obtain ⟨db₁, h₁, h⟩ := bind_ok h
  exact ((handleEvent_within h₁).mono (by simp)).trans (Within.one h (by simp))

theorem recordFailedEvent_within {message : String}
    (h : recordFailedEvent db e message = .ok db') : Within [.event] db db' := by
  unfold recordFailedEvent at h
  split at h
  · exact Within.one h (by simp)
  split at h
  · exact Within.one h (by simp)
  · cases h; exact .refl db

theorem markWebhookVerified_within (db : Db) (c : Option Id) :
    Within [.config] db (markWebhookVerified db c) := by
  unfold markWebhookVerified
  split
  · rename_i c hc
    refine Within.one (w := .config _) rfl ⟨by simp, fun old hold => ?_⟩
    obtain ⟨id, _, hget⟩ := Option.bind_eq_some_iff.mp hc
    have hid : c.id = id := Table.key_of_get? hget
    rw [show ({ c with webhookVerified := true } : PaymentProviderConfig).id = id from hid,
      hget] at hold
    cases hold
    rfl
  · exact .refl db

theorem resolveRecovered_within : ∀ (ks : List DedupeKey) (db : Db),
    Within [.resolve] db (resolveRecovered db ks)
  | [], db => .refl db
  | k :: ks, db =>
      (Within.one (w := .resolve k .noActionNeeded recoveredNote none) rfl (by simp)).trans
        (resolveRecovered_within ks _)

theorem recoverRow_within (cfg : Settings) (seen db : Db) (row : DeferredWebhookEvent) (id : Id)
    (now : Time) :
    Within (.deferred :: .resolve :: handlerKinds) db (recoverRow cfg seen db row id now) := by
  unfold recoverRow
  dsimp only
  split
  · exact Within.one (w := .deferred _) rfl (by simp)
  split
  · rename_i db₁ h₁
    refine ((applyDeferredEvent_within h₁).mono (by simp)).trans ?_
    exact (Within.one (w := .deferred _) rfl (by simp)).trans
      ((resolveRecovered_within _ _).mono (by simp))
  · exact Within.one (w := .deferred _) rfl (by simp)

/-! ### Payment calls -/

theorem setPaymentStatus_within {p : Payment} {status : PaymentStatus}
    (h : setPaymentStatus db p status = .ok db') : Within [.payment] db db' := by
  unfold setPaymentStatus at h
  split at h
  · cases h; exact .refl db
  · exact Within.one h (by simp)

theorem payReuse_within {call : PayCall} {id : Id} {word : String} {next : Option PayCall}
    (h : payReuse db call id word = .ok (db', next)) : Within [.payment] db db' := by
  obtain ⟨order, _, h⟩ := bind_ok h
  obtain ⟨_, _, h⟩ := bind_ok h
  obtain ⟨reusable, _, h⟩ := need_bind_ok h
  obtain ⟨_, h⟩ := require_bind_ok h
  split at h
  · obtain ⟨db₁, h₁, h⟩ := bind_ok h
    cases h; exact setPaymentStatus_within h₁
  · obtain ⟨db₁, h₁, h⟩ := bind_ok h
    cases h; exact setPaymentStatus_within h₁

theorem payRecord_within {call : PayCall} {ppid : String} {id : Id} {next : Option PayCall}
    (h : payRecord db call ppid id = .ok (db', next)) : Within [.insertPayment] db db' := by
  obtain ⟨order, _, h⟩ := bind_ok h
  dsimp only at h
  split at h
  · cases h; exact .refl db
  split at h
  · cases h; exact .refl db
  split at h
  · cases h; exact .refl db
  · obtain ⟨db₁, h₁, h⟩ := bind_ok h
    cases h; exact Within.one h₁ (by simp)

/-! ### Sales -/

theorem checkout_within {req : CheckoutRequest} (h : checkout db req now = .ok db') :
    Within [.stock, .insertOrder, .history] db db' := by
  obtain ⟨_, h⟩ := require_bind_ok h
  obtain ⟨basket, _, h⟩ := bind_ok h
  obtain ⟨_, h⟩ := require_bind_ok h
  obtain ⟨⟨total, gst⟩, _, h⟩ := bind_ok h
  obtain ⟨db₁, h₁, h⟩ := bind_ok h
  obtain ⟨db₂, h₂, h⟩ := bind_ok h
  obtain ⟨db₃, h₃, h⟩ := bind_ok h
  obtain ⟨items, _, h⟩ := bind_ok h
  obtain ⟨db₄, h₄, h⟩ := bind_ok h
  have hstock : ∀ {a b : Db} {ws : List StockWrite}, a.stockWrites ws = .ok b →
      Within [.stock, .insertOrder, .history] a b := fun hw => (stockWrites_within hw).mono (by simp)
  exact (hstock h₁).trans ((hstock h₂).trans ((Within.one h₃ (by simp)).trans
    ((hstock h₄).trans (Within.one h (by simp)))))

theorem updateStatus_within {o : Id} {new : OrderStatus} {by_ : Option Id}
    (h : updateStatus seen db o new by_ now = .ok db') :
    Within [.orderStatus, .history, .invoice] db db' := by
  obtain ⟨order, _, h⟩ := need_bind_ok h
  obtain ⟨_, h⟩ := require_bind_ok h
  obtain ⟨db₁, h₁, h⟩ := bind_ok h
  have hhead := (updateOrderStatus_within h₁).mono (L := [.orderStatus, .history, .invoice]) (by simp)
  split at h
  · exact hhead.trans ((issueInvoice_within h).mono (by simp))
  · cases h; exact hhead

theorem createShipment_within {o id admin : Id} {fulfill : Bool}
    (h : createShipment db o id admin fulfill now = .ok db') :
    Within [.shipment, .orderStatus, .history, .invoice] db db' := by
  obtain ⟨order, _, h⟩ := bind_ok h
  obtain ⟨_, h⟩ := require_bind_ok h
  obtain ⟨db₁, h₁, h⟩ := bind_ok h
  split at h
  · exact (Within.one h₁ (by simp)).trans ((fulfil_within h).mono (by simp))
  · cases h; exact Within.one h₁ (by simp)

/-! ### Returns and administration -/

theorem createReturn_within {u o id : Id} {lines : List (Id × ℤ)}
    (h : createReturn cfg db u o id lines now = .ok db') : Within [.returns] db db' := by
  obtain ⟨order, _, h⟩ := bind_ok h
  obtain ⟨_, h⟩ := require_bind_ok h
  obtain ⟨_, h⟩ := require_bind_ok h
  obtain ⟨_, h⟩ := require_bind_ok h
  obtain ⟨_, h⟩ := require_bind_ok h
  obtain ⟨_, h⟩ := require_bind_ok h
  obtain ⟨_, _, h⟩ := bind_ok h
  obtain ⟨_, h⟩ := require_bind_ok h
  split at h
  · exact Within.one h (by simp)
  · cases h

theorem recordReturned_ok {rows : List OrderItemRestock} (h : recordReturned db rows = .ok db') :
    db.stockWrites (rows.map .recordRestock) = .ok db' := by
  unfold recordReturned at h
  split at h
  · rename_i db₁ h₁
    exact h₁.trans h
  · cases h
  · cases h

theorem receiveReturn_within {id : Id} {entries : List ReceiptEntry}
    (h : receiveReturn db id entries = .ok db') : Within [.stock, .returns] db db' := by
  obtain ⟨ret, _, h⟩ := bind_ok h
  obtain ⟨_, h⟩ := require_bind_ok h
  obtain ⟨_, _, h⟩ := bind_ok h
  obtain ⟨order, _, h⟩ := bind_ok h
  obtain ⟨todo, _, h⟩ := bind_ok h
  obtain ⟨db₁, h₁, h⟩ := bind_ok h
  obtain ⟨db₂, h₂, h⟩ := bind_ok h
  have hstock : Within [.stock] db db₂ :=
    (stockWrites_within (recordReturned_ok h₁)).trans (stockWrites_within h₂)
  exact (hstock.mono (by simp)).trans (Within.one h (by simp))

theorem cancelReturn_within {u id : Id} (h : cancelReturn db u id = .ok db') :
    Within [.returns] db db' := by
  obtain ⟨owner, _, h⟩ := need_bind_ok h
  obtain ⟨_, h⟩ := require_bind_ok h
  obtain ⟨r, _, h⟩ := bind_ok h
  exact Within.one h (by simp)

theorem refundReturn_within {id admin refundId : Id}
    (h : refundReturn db id admin refundId = .ok db') : Within [.insertRefund, .returns] db db' := by
  obtain ⟨ret, _, h⟩ := bind_ok h
  obtain ⟨order, _, h⟩ := bind_ok h
  obtain ⟨_, h⟩ := require_bind_ok h
  obtain ⟨⟨db₁, id'⟩, h₁, h⟩ := bind_ok h
  exact ((requestRefund_within h₁).mono (by simp)).trans (Within.one h (by simp))

theorem refundFromReconciliation_within {k : DedupeKey} {admin refundId : Id}
    (h : refundFromReconciliation db k admin refundId = .ok db') :
    Within [.insertRefund, .resolve] db db' := by
  obtain ⟨r, _, h⟩ := bind_ok h
  split at h
  · obtain ⟨⟨db₁, id'⟩, h₁, h⟩ := bind_ok h
    exact ((requestRefund_within h₁).mono (by simp)).trans (Within.one h (by simp))
  · cases h

theorem adjustStock_within {p : Id} {v : Option Id} {spec : StockAdjust}
    (h : adjustStock db p v spec = .ok db') : Within [.stock] db db' := by
  obtain ⟨product, _, h⟩ := need_bind_ok h
  split at h
  · obtain ⟨_, h⟩ := require_bind_ok h
    obtain ⟨_, h⟩ := require_bind_ok h
    split at h
    · cases h; exact .refl db
    · exact Within.one h (by simp)
  · obtain ⟨variant, _, h⟩ := need_bind_ok h
    obtain ⟨_, h⟩ := require_bind_ok h
    obtain ⟨_, h⟩ := require_bind_ok h
    split at h
    · cases h; exact .refl db
    · exact Within.one h (by simp)

theorem insertVariants_within {p : Id} {count : Nat} {specs : List VariantSpec} {valid : Bool}
    {kind : MovementKind} (h : insertVariants db p count specs valid kind = .ok db') :
    Within [.stock] db db' := by
  obtain ⟨_, h⟩ := require_bind_ok h
  obtain ⟨rows, _, h⟩ := bind_ok h
  exact stockWrites_within h

theorem convertToVariants_within {p : Id} {expected : ℤ} {count : Nat} {specs : List VariantSpec}
    {valid : Bool} (h : convertToVariants db p expected count specs valid = .ok db') :
    Within [.stock] db db' := by
  obtain ⟨product, _, h⟩ := need_bind_ok h
  obtain ⟨_, h⟩ := require_bind_ok h
  obtain ⟨_, h⟩ := require_bind_ok h
  obtain ⟨_, h⟩ := require_bind_ok h
  obtain ⟨_, h⟩ := require_bind_ok h
  obtain ⟨_, h⟩ := require_bind_ok h
  obtain ⟨db₁, h₁, h⟩ := bind_ok h
  obtain ⟨db₂, h₂, h⟩ := bind_ok h
  refine Writes.trans ?_ ((Within.one h₂ (by simp)).trans (insertVariants_within h))
  unfold clearStock at h₁
  split at h₁
  · cases h₁; exact .refl db
  · exact Within.one h₁ (by simp)

/-! ### Operations and steps -/

/-- Whether an operation is one of administering the catalogue. -/
def Op.admin : Op → Bool
  | .createProduct _ | .updateProduct _ _ | .adjustStock _ _ _ | .createVariants _ _ _
  | .updateVariant _ _ _ | .setOptions _ _ _ | .convertToVariants _ _ _ _ _ => true
  | _ => false

/-- What a one-transaction operation may write. -/
@[simp] def Op.kinds : Op → List WriteKind
  | .checkout _ => [.stock, .insertOrder, .history]
  | .adminChangeStatus _ _ _ | .updateStatus _ _ _ => [.orderStatus, .history, .invoice]
  | .createShipment _ _ _ _ => [.shipment, .orderStatus, .history, .invoice]
  | .requestRefund _ _ _ _ _ => [.insertRefund]
  | .resolveReconciliation _ _ _ _ => [.resolve]
  | .refundFromReconciliation _ _ _ => [.insertRefund, .resolve]
  | .createReturn _ _ _ _ | .cancelReturn _ _ | .approveReturn _ | .rejectReturn _
  | .closeReturn _ => [.returns]
  | .receiveReturn _ _ => [.stock, .returns]
  | .refundReturn _ _ _ => [.insertRefund, .returns]
  | .createProduct _ | .updateProduct _ _ | .adjustStock _ _ _ | .createVariants _ _ _
  | .updateVariant _ _ _ | .setOptions _ _ _ | .convertToVariants _ _ _ _ _ => [.stock]
  | .createConfig _ | .updateConfig _ => [.config]

theorem run_within {op : Op} (h : op.run cfg seen db now = .ok db') : Within op.kinds db db' := by
  cases op with
  | checkout req => exact checkout_within h
  | adminChangeStatus o new admin => exact adminChangeStatus_within h
  | updateStatus o new by_ => exact updateStatus_within h
  | createShipment o id admin fulfill => exact createShipment_within h
  | requestRefund o by_ p cancels id =>
    obtain ⟨⟨db₁, id'⟩, h₁, h⟩ := bind_ok h
    cases h; exact requestRefund_within h₁
  | resolveReconciliation k admin resolution note =>
    obtain ⟨r, _, h⟩ := bind_ok h
    exact Within.one h (by simp)
  | refundFromReconciliation k admin id => exact refundFromReconciliation_within h
  | createReturn u o id lines => exact createReturn_within h
  | cancelReturn u id => exact cancelReturn_within h
  | approveReturn id => obtain ⟨r, _, h⟩ := bind_ok h; exact Within.one h (by simp)
  | rejectReturn id => obtain ⟨r, _, h⟩ := bind_ok h; exact Within.one h (by simp)
  | receiveReturn id entries => exact receiveReturn_within h
  | closeReturn id => obtain ⟨r, _, h⟩ := bind_ok h; exact Within.one h (by simp)
  | refundReturn id admin refundId => exact refundReturn_within h
  | createProduct row => exact Within.one (w := .stock (.insertProduct row)) h (by simp)
  | updateProduct id u =>
    obtain ⟨p, _, h⟩ := need_bind_ok h
    obtain ⟨_, h⟩ := require_bind_ok h
    obtain ⟨_, h⟩ := require_bind_ok h
    exact stockWrites_within h
  | adjustStock p v spec => exact adjustStock_within h
  | createVariants p specs valid =>
    obtain ⟨product, _, h⟩ := need_bind_ok h
    exact insertVariants_within h
  | updateVariant v active price =>
    exact Within.one (w := .stock (.variantDetails v active price)) h (by simp)
  | setOptions p count inCart =>
    obtain ⟨product, _, h⟩ := need_bind_ok h
    obtain ⟨_, h⟩ := require_bind_ok h
    obtain ⟨_, h⟩ := require_bind_ok h
    obtain ⟨_, h⟩ := require_bind_ok h
    exact Within.one h (by simp)
  | convertToVariants p expected count specs valid => exact convertToVariants_within h
  | createConfig row => exact Within.one (w := .insertConfig row) h (by simp)
  | updateConfig row =>
    obtain ⟨old, hold, h⟩ := need_bind_ok h
    obtain ⟨hprovider, h⟩ := require_bind_ok h
    refine Within.one h ⟨by simp, fun old' hold' => ?_⟩
    rw [hold] at hold'
    cases hold'
    exact hprovider

end NovaCart
