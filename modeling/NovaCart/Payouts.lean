import NovaCart.Totals
import NovaCart.RefundSteps

/-! What the provider pays out for the store's refunds.

    The provider makes one refund for an idempotency key, however often the key is sent. The store
    keeps a refund that may have moved money among those that count, so the cumulative limit bounds
    what is paid out, as long as a refund is only failed by a report about that very refund. -/

namespace NovaCart

open Schemes

variable {cfg : Settings} {s s' s₀ : Sys} {l : Label} {tr : List (Taken Sys Label)} {db db' : Db}

/-! ### What the indexes of the refunds table keep -/

structure Distinct (db : Db) : Prop where
  keys : ∀ r ∈ db.refunds.rows, ∀ q ∈ db.refunds.rows, r.idempotencyKey = q.idempotencyKey → r = q
  inFlight : ∀ r ∈ db.refunds.rows, ∀ q ∈ db.refunds.rows, r.paymentId = q.paymentId →
    r.origin = .requested → q.origin = .requested → r.status.inFlight = true →
    q.status.inFlight = true → r = q

/-- A new or changed row that passes the partial index is the only one in flight. -/
theorem inFlight_of_guard {new q : Refund} (hguard : db.oneRefundInFlight new)
    (hq : q ∈ db.refunds.rows) (hne : q.id ≠ new.id) (hpid : q.paymentId = new.paymentId)
    (hnew : new.origin = .requested ∧ new.status.inFlight = true)
    (hold : q.origin = .requested ∧ q.status.inFlight = true) : False :=
  hguard hnew.1 hnew.2 q hq hne hpid hold

theorem insertRefund_distinct {row : Refund} (hd : Distinct db)
    (hkey : ∀ q ∈ db.refunds.rows, q.idempotencyKey ≠ row.idempotencyKey)
    (hguard : db.oneRefundInFlight row) (ht : db.refunds.insert? row = some db'.refunds) :
    Distinct db' := by
  have hfresh : ∀ q ∈ db.refunds.rows, q.id ≠ row.id :=
    Table.get?_eq_none.mp (Table.insert?_eq_some.mp ht).1
  refine ⟨fun r hr q hq heq => ?_, fun r hr q hq hpid hro hqo hrs hqs => ?_⟩
  · rcases (Table.mem_insert? ht).mp hr with rfl | hr
    · rcases (Table.mem_insert? ht).mp hq with rfl | hq
      · rfl
      · exact absurd heq.symm (hkey q hq)
    · rcases (Table.mem_insert? ht).mp hq with rfl | hq
      · exact absurd heq (hkey r hr)
      · exact hd.keys r hr q hq heq
  · rcases (Table.mem_insert? ht).mp hr with rfl | hr
    · rcases (Table.mem_insert? ht).mp hq with rfl | hq
      · rfl
      · exact (inFlight_of_guard hguard hq (hfresh q hq) hpid.symm ⟨hro, hrs⟩ ⟨hqo, hqs⟩).elim
    · rcases (Table.mem_insert? ht).mp hq with rfl | hq
      · exact (inFlight_of_guard hguard hr (hfresh r hr) hpid ⟨hqo, hqs⟩ ⟨hro, hrs⟩).elim
      · exact hd.inFlight r hr q hq hpid hro hqo hrs hqs

theorem updateRefund_distinct {old : Refund} {c : RefundPatch} (hd : Distinct db)
    (hold : old ∈ db.refunds.rows) (hguard : db.oneRefundInFlight (old.patch c))
    (href : db'.refunds = db.refunds.replace (old.patch c)) : Distinct db' := by
  have hget : db.refunds.get? (Keyed.key (old.patch c)) = some old := Table.get?_of_mem hold
  have hmem : ∀ {r : Refund}, r ∈ db'.refunds.rows →
      r = old.patch c ∨ (r ∈ db.refunds.rows ∧ r.id ≠ old.id) := by
    intro r hr
    rw [href] at hr
    exact (Table.mem_replace hget).mp hr
  refine ⟨fun r hr q hq heq => ?_, fun r hr q hq hpid hro hqo hrs hqs => ?_⟩
  · rcases hmem hr with rfl | ⟨hr, hrid⟩
    · rcases hmem hq with rfl | ⟨hq, hqid⟩
      · rfl
      · exact absurd (congrArg Refund.id (hd.keys old hold q hq heq)).symm hqid
    · rcases hmem hq with rfl | ⟨hq, _⟩
      · exact absurd (congrArg Refund.id (hd.keys r hr old hold heq)) hrid
      · exact hd.keys r hr q hq heq
  · rcases hmem hr with rfl | ⟨hr, hrid⟩
    · rcases hmem hq with rfl | ⟨hq, hqid⟩
      · rfl
      · exact (inFlight_of_guard hguard hq hqid hpid.symm ⟨hro, hrs⟩ ⟨hqo, hqs⟩).elim
    · rcases hmem hq with rfl | ⟨hq, _⟩
      · exact (inFlight_of_guard hguard hr hrid hpid ⟨hqo, hqs⟩ ⟨hro, hrs⟩).elim
      · exact hd.inFlight r hr q hq hpid hro hqo hrs hqs

theorem write_distinct {w : Write} (h : db.write w = .ok db') (hd : Distinct db) : Distinct db' := by
  rcases write_refunds h with heq | ⟨row, rfl, ht⟩ | ⟨id, c, old, rfl, hold, _, heq⟩
  · refine ⟨?_, ?_⟩
    · rw [heq]
      exact hd.keys
    · rw [heq]
      exact hd.inFlight
  · obtain ⟨_, _, hkey, hguard, _⟩ := insertRefund_ok h
    exact insertRefund_distinct hd hkey hguard ht
  · obtain ⟨old', hold', _, hguard, _⟩ := updateRefund_ok h
    rw [hold] at hold'
    cases hold'
    exact updateRefund_distinct hd (Table.mem_of_get? hold) hguard heq

theorem distinct_of_run (h₀ : Initial s₀) (h : Run cfg s₀ tr s) : Distinct s.db := by
  refine h.invariant (I := fun s => Distinct s.db) ⟨?_, ?_⟩ fun {s l s'} hs hd => ?_
  · intro r hr
    rw [h₀.refunds] at hr
    cases hr
  · intro r hr
    rw [h₀.refunds] at hr
    cases hr
  · obtain ⟨K, hK⟩ := (step_change hs).within
    exact Writes.invariant (fun _ hw hd => write_distinct hw hd) hK hd

/-! ### The provider's books -/

/-- The provider's side: the id of the one refund it makes for an idempotency key, and which of its
    refunds have moved money. -/
structure Books where
  refundOf : String → String
  moved : String → Bool

def RefundReport.saysFailed (t : RefundReport) : Bool :=
  t.status = some "failed" ∨ t.status = some "canceled"

def WebhookEvent.failsRefund (e : WebhookEvent) : Bool :=
  match e.eventType with
  | .refund _ => e.report.saysFailed
  | _ => false

/-- What was paid out for the store's calls about a payment. -/
def Books.paidOut (b : Books) (db : Db) (paymentId : Id) : ℤ :=
  db.refunds.total fun r =>
    if r.paymentId = paymentId ∧ r.origin = .requested ∧ 0 < r.attempts ∧
      b.moved (b.refundOf r.idempotencyKey) then r.amountCents else 0

/-- The provider reports a refund as failed that moved money. -/
def Books.lies (b : Books) (s : Sys) (l : Label) : Bool :=
  match l with
  | .refundAnswer pid report _ =>
    match s.proc? pid with
    | some (.refund a) => report.saysFailed && b.moved (b.refundOf a.idempotencyKey)
    | _ => false
  | _ => onEvent (fun _ _ e => e.failsRefund && (truthy e.providerRefundId).any b.moved) s l

/-- A failed or cancelled refund is matched to a refund of the store that is another one at the
    provider. -/
def Books.blames (b : Books) (s : Sys) (l : Label) : Bool :=
  onEvent (fun seen db e => match refundTarget seen e with
    | .ok target => target.refund.any fun refund => (db.refunds.get? refund.id).any fun r =>
        e.failsRefund && !r.status.final && decide (truthy e.providerRefundId ≠ some (b.refundOf r.idempotencyKey))
    | .error _ => false) s l

/-- A refund that was submitted and has failed moved no money. -/
def Books.Unpaid (b : Books) (db : Db) : Prop :=
  ∀ r ∈ db.refunds.rows, 0 < r.attempts → r.status = .failed →
    b.moved (b.refundOf r.idempotencyKey) = false

/-- A report of failure that is applied to a refund is about the refund the provider made for it. -/
theorem Books.unmoved_of_report {b : Books} {r : Refund} {t : RefundReport}
    (hcause : Reports s l r.id t) (hr : r ∈ s.db.refunds.rows) (hopen : r.status.final = false)
    (hfails : t.saysFailed = true) (hcall : ∀ pid a, s.proc? pid = some (.refund a) → a.Of s.db)
    (htrue : b.lies s l = false) (hmatch : b.blames s l = false) :
    b.moved (b.refundOf r.idempotencyKey) = false := by
  have hget : s.db.refunds.get? r.id = some r := Table.get?_of_mem hr
  cases hcause with
  | answer hl hproc hid =>
    rename_i pid now a
    obtain ⟨r', hr', _, hkey, _⟩ := hcall pid a hproc
    rw [hid, hget] at hr'
    cases hr'
    subst hl
    simpa [Books.lies, hproc, hfails, hkey] using htrue
  | event hh htype htarget hrefund hid ht =>
    rename_i e seen suffix target refund
    subst ht
    have hev : e.failsRefund = true := by
      unfold WebhookEvent.failsRefund
      rw [htype]
      exact hfails
    have hsame : truthy e.providerRefundId = some (b.refundOf r.idempotencyKey) := by
      unfold Books.blames at hmatch
      rw [hh.onEvent, htarget] at hmatch
      simpa [hrefund, hid, hget, hev, hopen] using hmatch
    have htrue' : (e.failsRefund && (truthy e.providerRefundId).any b.moved) = false := by
      rw [← htrue]
      unfold Books.lies
      rcases hh with ⟨pid, newId, now, rfl, hproc⟩ | ⟨pid, newId, now, row, rfl, hproc, rfl⟩
      · simp [onEvent, hproc]
      · simp [onEvent, hproc]
    simpa [hev, hsame] using htrue'

theorem step_unpaid {b : Books} (h : step cfg s l = some s') (hu : b.Unpaid s.db)
    (hcall : ∀ pid a, s.proc? pid = some (.refund a) → a.Of s.db) (htrue : b.lies s l = false)
    (hmatch : b.blames s l = false) : b.Unpaid s'.db := by
  intro r' hr' hcount hfailed
  rcases step_refund h hr' with ⟨r, hr, _, hmove⟩ | ⟨_, hreq | ⟨_, _, _, hrec⟩⟩
  · rw [hmove.grows.idempotencyKey]
    cases hmove with
    | same heq =>
      rw [heq] at hcount hfailed
      exact hu r hr hcount hfailed
    | attempted _ hreq _ heq =>
      rw [heq, show (r.patch _).status = r.status from rfl, hreq] at hfailed
      cases hfailed
    | blocked _ _ _ hfirst heq =>
      rw [heq, show (r.patch _).attempts = r.attempts from rfl, hfirst] at hcount
      exact absurd hcount (lt_irrefl 0)
    | uncertain _ _ _ _ _ heq =>
      rw [heq] at hfailed
      cases hfailed
    | saved hcause hstatus _ hattempts heq =>
      rw [heq] at hcount hfailed
      rcases hstatus with hnone | ⟨hopen, ⟨hc, hword⟩ | ⟨hc, _⟩⟩
      · have hcount' : 0 < r.attempts := by simpa [Refund.patch, hattempts] using hcount
        have hfailed' : r.status = .failed := by simpa [Refund.patch, hnone] using hfailed
        exact hu r hr hcount' hfailed'
      · exact Books.unmoved_of_report hcause hr hopen (decide_eq_true hword) hcall htrue hmatch
      · simp [Refund.patch, hc] at hfailed
    | confirmed _ _ _ heq =>
      rw [heq] at hfailed
      cases hfailed
  · rw [hreq.attempts] at hcount
    exact absurd hcount (lt_irrefl 0)
  · obtain ⟨_, hrow⟩ := hrec.row
    rw [hrow.attempts] at hcount
    exact absurd hcount (lt_irrefl 0)

/-- What was paid out counts against the payment. -/
theorem Books.paidOut_le {b : Books} (hu : b.Unpaid db) (hc : Covered db) {p : Payment}
    (hp : p ∈ db.payments.rows) : b.paidOut db p.id ≤ p.amountCents := by
  refine le_trans (Table.total_mono fun r hr => ?_) (hc.within p hp)
  split
  · rename_i hpaid
    obtain ⟨hpid, _, hcount, hmoved⟩ := hpaid
    have hactive : r.status.active = true := by
      cases hst : r.status with
      | failed =>
        rw [hu r hr hcount hst] at hmoved
        cases hmoved
      | _ => rfl
    rw [if_pos ⟨hpid, hactive⟩]
  · exact r.counts_nonneg p.id

/-- No double refund. In every run in which the provider tells the truth about failures, and no failed
    refund is matched to another refund of the store, every call is for a refund that is there, with
    its key; a payment has at most one refund of the store in flight; no two refunds share a key; and
    the provider never pays out more for the store's calls than the payment. -/
theorem no_double_refund (b : Books) (h₀ : Initial s₀) (h : Run cfg s₀ tr s)
    (htrue : ∀ t ∈ tr, b.lies t.pre t.label = false)
    (hmatch : ∀ t ∈ tr, b.blames t.pre t.label = false) :
    (∀ pid a, s.proc? pid = some (.refund a) → a.Of s.db) ∧
    (∀ r ∈ s.db.refunds.rows, ∀ q ∈ s.db.refunds.rows, r.paymentId = q.paymentId →
      r.origin = .requested → q.origin = .requested → r.status.inFlight = true →
      q.status.inFlight = true → r = q) ∧
    (∀ r ∈ s.db.refunds.rows, ∀ q ∈ s.db.refunds.rows, r.idempotencyKey = q.idempotencyKey → r = q) ∧
    ∀ p ∈ s.db.payments.rows, b.paidOut s.db p.id ≤ p.amountCents := by
  have hd := distinct_of_run h₀ h
  have hu : b.Unpaid s.db := by
    clear hd
    induction h with
    | nil =>
      intro r hr
      rw [h₀.refunds] at hr
      cases hr
    | cons run hs ih =>
      have htrue' := List.forall_mem_cons.mp htrue
      have hmatch' := List.forall_mem_cons.mp hmatch
      exact step_unpaid hs (ih htrue'.2 hmatch'.2) (fun _ _ hproc => call_of_run h₀ run hproc)
        htrue'.1 hmatch'.1
  exact ⟨fun _ _ hproc => call_of_run h₀ h hproc, hd.inFlight, hd.keys,
    fun p hp => b.paidOut_le hu (covered_of_run h₀ h) hp⟩

/-- A provider that names its refunds after their keys and pays out all but one of them. -/
def paysAllBut (unpaid : String) : Books where
  refundOf := id
  moved prid := prid ≠ unpaid

/-- The first refund fails at the provider, the second succeeds. -/
theorem no_double_refund_second : ∃ tr s, Run smallSettings smallShop tr s ∧
    (∃ r ∈ s.db.refunds.rows, r.id = 1 ∧ r.status = .failed) ∧
    (∃ r ∈ s.db.refunds.rows, r.id = 2 ∧ r.status = .succeeded) ∧
    ∀ p ∈ s.db.payments.rows, (paysAllBut "refund:1:0").paidOut s.db p.id ≤ p.amountCents := by
  obtain ⟨tr, s, hrun, hfirst, hsecond, htrue, hmatch⟩ := exists_exec (step smallSettings) smallShop
    (P := fun tr s => (∃ r ∈ s.db.refunds.rows, r.id = 1 ∧ r.status = .failed) ∧
      (∃ r ∈ s.db.refunds.rows, r.id = 2 ∧ r.status = .succeeded) ∧
      (∀ t ∈ tr, (paysAllBut "refund:1:0").lies t.pre t.label = false) ∧
      ∀ t ∈ tr, (paysAllBut "refund:1:0").blames t.pre t.label = false)
    (paidOrder ++ submittedRefund ++ [.refundAnswer 1 { refundSucceeded with status := some "failed" } 0,
      .begin_ 1 (.requestRefund 1 9 none false 2), .commit 1 0, .refundBegin 1 2,
      .refundAnswer 1 { refundSucceeded with providerRefundId := some "re_2" } 0]) (by decide)
  exact ⟨tr, s, hrun, hfirst, hsecond, (no_double_refund _ smallShop_initial hrun htrue hmatch).2.2.2⟩

/-- A refund tried in the provider's dashboard fails while the store's own refund is in flight. The
    store takes the failure for its own, and the administrator asks again: the provider, which lied
    about nothing, pays out the payment twice. -/
theorem double_refund_after_foreign_failure : ∃ tr s, Run smallSettings smallShop tr s ∧
    (∀ t ∈ tr, (paysAllBut "re_x").lies t.pre t.label = false) ∧
    ∃ p ∈ s.db.payments.rows, p.amountCents = 200 ∧ (paysAllBut "re_x").paidOut s.db p.id = 400 :=
  exists_exec (step smallSettings) smallShop
    (P := fun tr s => (∀ t ∈ tr, (paysAllBut "re_x").lies t.pre t.label = false) ∧
      ∃ p ∈ s.db.payments.rows, p.amountCents = 200 ∧ (paysAllBut "re_x").paidOut s.db p.id = 400)
    (paidOrder ++ submittedRefund ++
      [.deliver 2 { dashboardRefund "evt_2" "re_x" with refundStatus := some "failed" }, .process 2 0 0,
       .begin_ 2 (.requestRefund 1 9 none false 2), .commit 2 0, .refundBegin 2 2]) (by decide)

end NovaCart
