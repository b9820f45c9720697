import NovaCart.RefundSteps
import NovaCart.Disputes

/-! A refund and a dispute of one payment.

    The refund job reads the disputes and the dispute handler reads the refunds, both under the lock of
    the payment. `Warned` is what comes of it: whoever is second sees the first, so a refund that was
    handed to the provider and an open dispute of its payment are never both there without a record
    that says so. -/

namespace NovaCart

open Schemes

variable {cfg : Settings} {s s' s₀ : Sys} {l : Label} {tr : List (Taken Sys Label)}
variable {db db' seen : Db} {e : WebhookEvent} {now : Time}

/-! ### Records stay -/

/-- The same record, perhaps resolved. -/
structure PaymentReconciliation.Same (r r' : PaymentReconciliation) : Prop where
  dedupeKey : r'.dedupeKey = r.dedupeKey
  kind : r'.kind = r.kind
  paymentId : r'.paymentId = r.paymentId

theorem PaymentReconciliation.Same.refl (r : PaymentReconciliation) : r.Same r := ⟨rfl, rfl, rfl⟩

theorem PaymentReconciliation.Same.trans {r₁ r₂ r₃ : PaymentReconciliation} (h₁ : r₁.Same r₂)
    (h₂ : r₂.Same r₃) : r₁.Same r₃ where
  dedupeKey := h₂.dedupeKey.trans h₁.dedupeKey
  kind := h₂.kind.trans h₁.kind
  paymentId := h₂.paymentId.trans h₁.paymentId

theorem record_kept (row : PaymentReconciliation) :
    Table.Kept PaymentReconciliation.Same db.reconciliations (db.record row).reconciliations := by
  unfold Db.record
  split
  · exact .refl PaymentReconciliation.Same.refl _
  · exact Table.kept_insert? PaymentReconciliation.Same.refl ‹_›

theorem resolveRecord_kept (k : DedupeKey) (resolution : Resolution) (note : String) (by_ : Option Id) :
    Table.Kept PaymentReconciliation.Same db.reconciliations
      (db.resolveRecord k resolution note by_).reconciliations := by
  unfold Db.resolveRecord
  split
  · exact .refl PaymentReconciliation.Same.refl _
  · rename_i r hr
    dsimp only
    split
    · have hget : db.reconciliations.get? r.dedupeKey = some r :=
        Table.get?_of_mem (Table.mem_of_get? hr)
      exact Table.kept_replace (r := r) PaymentReconciliation.Same.refl hget ⟨rfl, rfl, rfl⟩
    · exact .refl PaymentReconciliation.Same.refl _

theorem Within.records_kept {K : List WriteKind} (h : Within K db db') :
    Table.Kept PaymentReconciliation.Same db.reconciliations db'.reconciliations := by
  refine Writes.relates (R := fun a b : Db =>
      Table.Kept PaymentReconciliation.Same a.reconciliations b.reconciliations)
    (fun _ => .refl PaymentReconciliation.Same.refl _)
    (fun h₁ h₂ => .trans (fun a b => a.trans b) h₁ h₂) (fun _ hw => ?_) h
  rcases write_reconciliations hw with heq | ⟨row, _, rfl⟩ | ⟨k, resolution, note, by_, _, rfl⟩
  · rw [heq]
    exact .refl PaymentReconciliation.Same.refl _
  · exact record_kept row
  · exact resolveRecord_kept k resolution note by_

theorem filed_of_kept (h : Table.Kept PaymentReconciliation.Same db.reconciliations db'.reconciliations)
    {k : DedupeKey} (hk : db.filed k) : db'.filed k := by
  obtain ⟨r, hr⟩ := Option.ne_none_iff_exists'.mp hk
  obtain ⟨r', hr', _⟩ := h k r hr
  unfold Db.filed
  rw [hr']
  exact Option.some_ne_none r'

theorem step_records_kept (h : step cfg s l = some s') :
    Table.Kept PaymentReconciliation.Same s.db.reconciliations s'.db.reconciliations := by
  obtain ⟨K, hK⟩ := (step_change h).within
  exact hK.records_kept

/-! ### Records that name a dispute -/

/-- A refund of the store that was handed to the provider at least once and has not failed. -/
def Refund.Submitted (r : Refund) : Prop := r.origin = .requested ∧ 0 < r.attempts ∧ r.status ≠ .failed

theorem Refund.Submitted.counted {r : Refund} (hr : r ∈ db.refunds.rows) (hs : r.Submitted) :
    db.hasSubmittedRefund r.paymentId = true := by
  obtain ⟨_, hcount, hopen⟩ := hs
  unfold Db.hasSubmittedRefund
  rw [List.any_eq_true]
  refine ⟨r, hr, ?_⟩
  rw [decide_eq_true_eq]
  refine ⟨rfl, ?_⟩
  cases hst : r.status with
  | requested => exact .inr (.inr (.inr ⟨rfl, hcount⟩))
  | pending => exact .inl rfl
  | succeeded => exact .inr (.inr (.inl rfl))
  | failed => exact absurd hst hopen
  | uncertain => exact .inr (.inl rfl)

end NovaCart
