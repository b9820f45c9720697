import NovaCart.Finality

/-! What is left of a success that a payment request was told of.

    The request writes it and then raises, and the session that `get_db` gave it rolls back. So the payment is known to
    be paid only where another transaction, a webhook's, has said so. -/

namespace NovaCart

open Schemes

variable {cfg : Settings} {s s' : Sys} {db : Db} {pid paymentId : Id}

/-- The payment whose intent a request is asking the provider about. -/
def Sys.asking (s : Sys) (pid : Id) : Option Id :=
  match s.proc? pid with
  | some (.pay call) =>
    match call.stage with
    | .retrieving paymentId => some paymentId
    | _ => none
  | _ => none

/-- The request that gets an answer, and what it says. -/
def Label.retrieved : Label → Option (Id × String)
  | .payRetrieved pid word => some (pid, word)
  | _ => none

/-- Cancelling the order, by an administrator, its customer or the sweep, does not get past its first phase. -/
def Db.cancelRefused (db : Db) (orderId : Id) : Prop :=
  ∀ actor reason call, cancelBegin db orderId actor reason ≠ .ok (some call)

theorem cancelRefused_of_succeeded {p : Payment} (hp : db.payments.get? paymentId = some p) (hs : p.status = .succeeded) :
    db.cancelRefused p.orderId := by
  intro actor reason call h
  obtain ⟨order, horder, h⟩ := bind_ok h
  split at h
  · cases h
  · obtain ⟨_, h⟩ := require_bind_ok h
    obtain ⟨hnone, _⟩ := require_bind_ok h
    have hid : order.id = p.orderId := Table.key_of_get? (lockOrder_ok horder)
    refine hnone p ?_ hs
    rw [hid]
    exact List.mem_filter.mpr ⟨Table.mem_of_get? hp, decide_eq_true rfl⟩

/-- The answer `succeeded` ends the request, and the database stays as it was. -/
theorem payRetrieved_succeeded (hasking : s.asking pid = some paymentId)
    (h : step cfg s (.payRetrieved pid "succeeded") = some s') : s'.db = s.db := by
  unfold Sys.asking at hasking
  split at hasking
  · rename_i call hproc
    split at hasking
    · rename_i id hstage
      simp only [step, hproc, hstage, Option.some.injEq] at h
      subst h
      cases hreuse : payReuse s.db call id "succeeded" with
      | error err => rfl
      | ok r =>
        obtain ⟨_, _, _, _, _, hword, _⟩ := @payReuse_ok _ _ _ _ _ r.2 hreuse
        exact absurd rfl hword
    · cases hasking
  · cases hasking

/-- When the provider reports that the intent of an order's payment succeeded, the payment has a status that says so at
    the end of the request, and the order cannot be cancelled, just when it had that status before. -/
theorem reported_success_kept (hasking : s.asking pid = some paymentId)
    (h : step cfg s (.payRetrieved pid "succeeded") = some s') :
    (s'.db.rowIs PaymentStatus.settled paymentId = true ∧
      ∀ p ∈ s'.db.payments.get? paymentId, p.status = .succeeded → s'.db.cancelRefused p.orderId) ↔
    s.db.rowIs PaymentStatus.settled paymentId = true := by
  rw [payRetrieved_succeeded hasking h]
  exact ⟨fun h => h.1, fun h => ⟨h, fun p hp hs => cancelRefused_of_succeeded hp hs⟩⟩

/-- A shop that takes payments through Razorpay, which cannot cancel them. -/
def razorpayShop : Sys :=
  { smallShop with
    db := { smallShop.db with
      configs := ⟨[{ id := 1, provider := .razorpay, live := false, enabled := true, isPreferred := true
                     credentialsValid := true, webhookVerified := true, currencies := ["inr"] }], by decide⟩ } }

/-- Order 1 in rupees, and payment 1 that waits for its customer. -/
def awaitedPayment : List Label :=
  [.begin_ 1 (.checkout {
    orderId := 1, userId := some 1, currency := "inr", firstItemId := 10
    lines := [{ productId := 1, variantId := none, quantity := 2, priceCentsSnapshot := 100 }]
    pricing := fun subtotal => .ok (subtotal, false) }), .commit 1 0, .payBegin 1 1, .payCreated 1 "order_1", .payRecord 1 1]

/-- The provider says that the payment succeeded, the request ends, the payment is pending and its order is cancelled. -/
theorem reported_success_forgotten : ∃ tr s, Run smallSettings razorpayShop tr s ∧
    (∃ t ∈ tr, t.label.retrieved = some (2, "succeeded") ∧ t.pre.asking 2 = some 1 ∧
      t.post.db.rowIs PaymentStatus.settled 1 = false) ∧
    ∃ order ∈ s.db.orders.get? 1, order.status = .cancelled := by
  exact exists_exec (step smallSettings) razorpayShop
    (P := fun tr s => (∃ t ∈ tr, t.label.retrieved = some (2, "succeeded") ∧ t.pre.asking 2 = some 1 ∧
        t.post.db.rowIs PaymentStatus.settled 1 = false) ∧
      ∃ order ∈ s.db.orders.get? 1, order.status = .cancelled)
    (awaitedPayment ++ [.payBegin 2 1, .payRetrieved 2 "succeeded", .cancelBegin 3 1 none "expired", .cancelAsk 3 none,
      .cancelFinish 3 0]) (by decide)

/-- The webhook was there first. -/
theorem reported_success_kept_webhook : ∃ s s', s.asking 2 = some 1 ∧
    step smallSettings s (.payRetrieved 2 "succeeded") = some s' ∧
    s'.db.rowIs PaymentStatus.settled 1 = true ∧
    ∀ p ∈ s'.db.payments.get? 1, p.status = .succeeded → s'.db.cancelRefused p.orderId := by
  obtain ⟨tr, s, _, hasking, hsettled, hstep⟩ := exists_exec (step smallSettings) smallShop
    (P := fun _ s => s.asking 2 = some 1 ∧ s.db.rowIs PaymentStatus.settled 1 = true ∧
      (step smallSettings s (.payRetrieved 2 "succeeded")).isSome)
    [.begin_ 1 (buyTwo 1), .commit 1 0, .payBegin 1 1, .payCreated 1 "pi_1", .payRecord 1 1, .payBegin 2 1,
      .deliver 1 (paidEvent "evt_1" "pi_1"), .process 1 0 0] (by decide)
  obtain ⟨s', hs'⟩ := Option.isSome_iff_exists.mp hstep
  exact ⟨s, s', hasking, hs', (reported_success_kept hasking hs').mpr hsettled⟩

end NovaCart
