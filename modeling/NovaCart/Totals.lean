import NovaCart.Finality

/-! What is refunded of a payment.

    `Covered` is what the cumulative trigger keeps: the refunds of a payment that count never exceed
    it. `Exact` is the running total on the payment row: it is the sum of the refunds that succeeded,
    and the payment is refunded when that is all of it. The first holds in every run; the second in
    every run in which each confirmation reports the refund's own amount and adds it to a total that
    is still the row's, and no transaction sets the status of a refunded payment. -/

namespace NovaCart

open Schemes

variable {cfg : Settings} {s s' s₀ : Sys} {l : Label} {tr : List (Taken Sys Label)} {db db' : Db}

/-! ### The cumulative limit -/

structure Covered (db : Db) : Prop where
  refunds : ∀ r ∈ db.refunds.rows, db.payments.get? r.paymentId ≠ none
  within : ∀ p ∈ db.payments.rows, db.committedAmount p.id ≤ p.amountCents

/-- What a refund counts for against its payment. -/
def Refund.counts (r : Refund) (id : Id) : ℤ :=
  if r.paymentId = id ∧ r.status.active then r.amountCents else 0

theorem committedAmount_eq (db : Db) (id : Id) :
    db.committedAmount id = db.refunds.total fun r => r.counts id := rfl

theorem Refund.counts_nonneg (r : Refund) (id : Id) : 0 ≤ r.counts id := by
  unfold counts
  split
  · exact r.amountPositive.le
  · exact le_rfl

/-- The trigger's own sum leaves the row out that is being written. -/
theorem guardSum_eq (db : Db) (r : Refund) :
    (db.refunds.total fun x =>
      if x.paymentId = r.paymentId ∧ x.id ≠ r.id ∧ x.status.active then x.amountCents else 0)
      = db.refunds.total fun x => if Keyed.key x = r.id then 0 else x.counts r.paymentId := by
  refine Table.total_congr fun x _ => ?_
  have hkey : Keyed.key x = x.id := rfl
  unfold Refund.counts
  rw [hkey]
  by_cases hid : x.id = r.id
  · simp [hid]
  · simp [hid]

/-- What the trigger checked, for the payment the refund is of. -/
theorem refundsCumulativeGuard_le {r : Refund} {p : Payment} (hguard : db.refundsCumulativeGuard r)
    (hp : p ∈ db.payments.rows) (hmine : r.paymentId = p.id ∧ r.status.active = true) :
    (db.refunds.total fun x => if Keyed.key x = r.id then 0 else x.counts p.id) + r.counts p.id
      ≤ p.amountCents := by
  obtain ⟨q, hq, hsum⟩ := hguard hmine.2
  have hget : db.payments.get? p.id = some p := Table.get?_of_mem hp
  rw [hmine.1, hget] at hq
  cases hq
  rw [guardSum_eq, hmine.1] at hsum
  have hr : r.counts p.id = r.amountCents := if_pos hmine
  rw [hr]
  exact hsum

/-- An insert that passes the trigger keeps its payment covered. -/
theorem insertRefund_covered {r : Refund} {t : Table Refund} (hc : Covered db)
    (hguard : db.refundsCumulativeGuard r) (hpayment : db.payments.get? r.paymentId ≠ none)
    (ht : db.refunds.insert? r = some t) : Covered { db with refunds := t } := by
  refine ⟨fun x hx => ?_, fun p hp => ?_⟩
  · rcases (Table.mem_insert? ht).mp hx with rfl | hold
    · exact hpayment
    · exact hc.refunds x hold
  · have hbefore := hc.within p hp
    rw [committedAmount_eq] at hbefore ⊢
    rw [Table.total_insert? ht]
    by_cases hmine : r.paymentId = p.id ∧ r.status.active = true
    · have hsum := refundsCumulativeGuard_le hguard hp hmine
      have hfree := (Table.insert?_eq_some.mp ht).1
      have hall : (db.refunds.total fun x => if Keyed.key x = r.id then 0 else x.counts p.id)
          = db.refunds.total fun x => x.counts p.id :=
        Table.total_congr fun x hx => if_neg (Table.get?_eq_none.mp hfree x hx)
      omega
    · have hr : r.counts p.id = 0 := if_neg hmine
      omega

/-- So does an update. -/
theorem updateRefund_covered {old r : Refund} (hc : Covered db) (hguard : db.refundsCumulativeGuard r)
    (hold : db.refunds.get? r.id = some old) (hsame : old.Same r) :
    Covered { db with refunds := db.refunds.replace r } := by
  have hget : db.refunds.get? (Keyed.key r) = some old := hold
  refine ⟨fun x hx => ?_, fun p hp => ?_⟩
  · rcases (Table.mem_replace hget).mp hx with rfl | ⟨hx, _⟩
    · rw [hsame.paymentId]
      exact hc.refunds old (Table.mem_of_get? hold)
    · exact hc.refunds x hx
  · have hbefore := hc.within p hp
    rw [committedAmount_eq] at hbefore ⊢
    rw [Table.total_replace hget]
    by_cases hmine : r.paymentId = p.id ∧ r.status.active = true
    · have hsum := refundsCumulativeGuard_le hguard hp hmine
      rw [Table.total_without hold] at hsum
      omega
    · have hr : r.counts p.id = 0 := if_neg hmine
      have hpos := old.counts_nonneg p.id
      omega

/-- A payment that is just recorded has no refunds. -/
theorem counts_of_new (hc : Covered db) {id : Id} (hnew : db.payments.get? id = none) :
    ∀ r ∈ db.refunds.rows, r.paymentId ≠ id := by
  intro r hr heq
  rw [← heq] at hnew
  exact hc.refunds r hr hnew

theorem write_covered {w : Write} (h : db.write w = .ok db') (hc : Covered db) : Covered db' := by
  cases w with
  | insertPayment row =>
    obtain ⟨_, _, _, _, t, ht, rfl⟩ := insertPayment_ok h
    have hnew := (Table.insert?_eq_some.mp ht).1
    refine ⟨fun r hr hnone => ?_, fun p hp => ?_⟩
    · obtain ⟨q, hq⟩ := Option.ne_none_iff_exists'.mp (hc.refunds r hr)
      have := Table.get?_insert?_of_some ht hq
      rw [hnone] at this
      cases this
    · rcases (Table.mem_insert? ht).mp hp with rfl | hold
      · have hzero : db.refunds.total (fun r => r.counts p.id) = db.refunds.total fun _ => 0 :=
          Table.total_congr fun r hr => if_neg fun hmine => counts_of_new hc hnew r hr hmine.1
        have hsum : db.refunds.total (fun _ => 0) = 0 := by simp [Table.total]
        show db.committedAmount p.id ≤ p.amountCents
        rw [committedAmount_eq, hzero, hsum]
        exact p.amountPositive.le
      · exact hc.within p hold
  | payment id c =>
    obtain ⟨old, hold, _, rfl⟩ := updatePayment_ok h
    have hget : db.payments.get? (Keyed.key (old.patch c)) = some old :=
      Table.get?_of_mem (Table.mem_of_get? hold)
    refine ⟨fun r hr hnone => ?_, fun p hp => ?_⟩
    · obtain ⟨q, hq⟩ := Option.ne_none_iff_exists'.mp (hc.refunds r hr)
      obtain ⟨q', hq', _⟩ :=
        Table.kept_replace Payment.Same.refl hget (old.patch_same c) r.paymentId q hq
      rw [hnone] at hq'
      cases hq'
    · rcases (Table.mem_replace hget).mp hp with rfl | ⟨hold', _⟩
      · exact hc.within old (Table.mem_of_get? hold)
      · exact hc.within p hold'
  | insertRefund row =>
    obtain ⟨_, hpayment, _, _, hguard, t, ht, rfl⟩ := insertRefund_ok h
    exact insertRefund_covered hc hguard hpayment ht
  | refund id c =>
    obtain ⟨old, hold, hfinal, _, hguard, rfl⟩ := updateRefund_ok h
    have hid : old.id = id := Table.key_of_get? hold
    have hget : db.refunds.get? (old.patch c).id = some old := by
      show db.refunds.get? old.id = some old
      rw [hid]
      exact hold
    exact updateRefund_covered hc hguard hget (Refund.patch_same hfinal)
  | order id c =>
    rw [write_mask h, order_mask]
    exact ⟨hc.refunds, hc.within⟩
  | reconcile row =>
    rw [write_mask h, reconcile_mask]
    exact ⟨hc.refunds, hc.within⟩
  | _ =>
    rw [write_mask h]
    exact ⟨hc.refunds, hc.within⟩

theorem covered_of_run (h₀ : Initial s₀) (h : Run cfg s₀ tr s) : Covered s.db := by
  refine h.invariant (I := fun s => Covered s.db) ⟨?_, ?_⟩ fun {s l s'} hs hc => ?_
  · intro r hr
    rw [h₀.refunds] at hr
    cases hr
  · intro p hp
    rw [h₀.payments] at hp
    cases hp
  · obtain ⟨K, hK⟩ := (step_change hs).within
    exact Writes.invariant (fun _ hw hc => write_covered hw hc) hK hc

/-! ### The running total -/

/-- What a refund has given back of its payment. -/
def Refund.pays (r : Refund) (id : Id) : ℤ :=
  if r.paymentId = id ∧ r.status = .succeeded then r.amountCents else 0

/-- The sum of the payment's refunds that succeeded. -/
def Db.refundedTotal (db : Db) (id : Id) : ℤ := db.refunds.total fun r => r.pays id

structure Payment.Exact (db : Db) (p : Payment) : Prop where
  total : p.refundedAmountCents.getD 0 = db.refundedTotal p.id
  bound : p.refundedAmountCents.getD 0 ≤ p.amountCents
  status : p.status = .refunded ↔ p.refundedAmountCents.getD 0 = p.amountCents

theorem refundedTotal_le (hc : Covered db) {p : Payment} (hp : p ∈ db.payments.rows) :
    db.refundedTotal p.id ≤ p.amountCents := by
  refine le_trans (Table.total_mono fun r _ => ?_) (hc.within p hp)
  unfold Refund.pays
  split
  · rename_i hmine
    rw [if_pos ⟨hmine.1, by rw [hmine.2]; rfl⟩]
  · exact r.counts_nonneg p.id

theorem Refund.pays_of_open {r : Refund} (h : r.status ≠ .succeeded) (id : Id) : r.pays id = 0 :=
  if_neg fun hmine => h hmine.2

/-- A write on a refund that neither was nor becomes succeeded moves no total. -/
theorem refundedTotal_replace {r r' : Refund} (hr : db.refunds.get? r'.id = some r)
    (href : db'.refunds = db.refunds.replace r') (id : Id) :
    db'.refundedTotal id = db.refundedTotal id + (r'.pays id - r.pays id) := by
  have hget : db.refunds.get? (Keyed.key r') = some r := hr
  unfold Db.refundedTotal
  rw [href, Table.total_replace hget]

theorem Payment.Exact.of_total {p : Payment} (h : p.Exact db)
    (htotal : db'.refundedTotal p.id = db.refundedTotal p.id) : p.Exact db' :=
  ⟨h.total.trans htotal.symm, h.bound, h.status⟩

/-- One payment row is written: it is exact, and the others keep their totals. -/
theorem exact_replace {id : Id} {old : Payment} {c : PaymentPatch}
    (hexact : ∀ p ∈ db.payments.rows, p.Exact db) (hold : db.payments.get? id = some old)
    (hpay : db'.payments = db.payments.replace (old.patch c)) (hnew : (old.patch c).Exact db')
    (htotal : ∀ k, k ≠ old.id → db'.refundedTotal k = db.refundedTotal k) :
    ∀ p ∈ db'.payments.rows, p.Exact db' := by
  have hget : db.payments.get? (Keyed.key (old.patch c)) = some old :=
    Table.get?_of_mem (Table.mem_of_get? hold)
  intro p hp
  rw [hpay] at hp
  rcases (Table.mem_replace hget).mp hp with rfl | ⟨hp, hne⟩
  · exact hnew
  · exact (hexact p hp).of_total (htotal p.id hne)

/-- A refund is added to the total the session knows, which is the row's. -/
theorem addRefunded_exact {old q : Payment} {prid : Option String} {amount : ℤ} (hold : old.Exact db)
    (htotal : q.refundedAmountCents = old.refundedAmountCents)
    (hamount : q.amountCents = old.amountCents)
    (hq : q.status = .refunded → q.refundedAmountCents.getD 0 = q.amountCents) (hpos : 0 < amount)
    (hmore : db'.refundedTotal old.id = db.refundedTotal old.id + amount)
    (hle : db'.refundedTotal old.id ≤ old.amountCents) :
    (old.patch (addRefundedPatch q prid amount)).Exact db' := by
  have hbefore := hold.total
  have hstatus := hold.status
  have hopen : old.status ≠ .refunded := by
    intro href
    have := hstatus.mp href
    omega
  have hqopen : q.status ≠ .refunded := by
    intro href
    have hfull := hq href
    rw [htotal, hamount] at hfull
    exact hopen (hstatus.mpr hfull)
  have hnew : (old.patch (addRefundedPatch q prid amount)).refundedAmountCents.getD 0
      = old.refundedAmountCents.getD 0 + amount := by
    have hne : some (old.refundedAmountCents.getD 0 + amount) ≠ old.refundedAmountCents := by
      intro heq
      have : old.refundedAmountCents.getD 0 = old.refundedAmountCents.getD 0 + amount := by
        nth_rewrite 1 [← heq]
        rfl
      omega
    simp [Payment.patch, addRefundedPatch, Payment.addRefunded, changed, htotal, hne]
  have hid : (old.patch (addRefundedPatch q prid amount)).id = old.id := rfl
  have hcents : (old.patch (addRefundedPatch q prid amount)).amountCents = old.amountCents := rfl
  refine ⟨?_, ?_, ?_⟩
  · rw [hnew, hid, hmore, hbefore]
  · rw [hnew, hcents]
    omega
  · rw [hnew, hcents]
    have hword : (old.patch (addRefundedPatch q prid amount)).status
        = if old.amountCents ≤ old.refundedAmountCents.getD 0 + amount then .refunded
          else old.status := by
      simp only [Payment.patch, addRefundedPatch, Payment.addRefunded, changed, htotal, hamount]
      split
      · rw [if_neg (Ne.symm hqopen)]
        rfl
      · simp
    rw [hword]
    split
    · rename_i hfull
      simp only [true_iff]
      omega
    · rename_i hpart
      simp only [hopen, false_iff]
      omega

/-! ### What lets the total drift -/

/-- The session's payment object has a refunded total that is no longer the row's. -/
def Db.staleTotal (db : Db) (loaded : Option Payment) (id : Id) : Bool :=
  loaded.any fun p => p.id = id ∧
    (db.payments.get? id).any fun row => row.refundedAmountCents ≠ p.refundedAmountCents

/-- The report confirms the refund with another amount than the refund's, or in a session that adds
    to a stale total. -/
def confirmsWrongly (db : Db) (r : Refund) (t : RefundReport) (loaded : Option Payment) : Bool :=
  r.status.final = false ∧ t.status = some "succeeded" ∧
    (confirmedAmount r t.amount ≠ r.amountCents ∨ db.staleTotal loaded r.paymentId = true)

/-- A refund of unknown origin that can be recorded on the payment. -/
def recordable (db : Db) (e : WebhookEvent) (p : Payment) (prid : String) : Bool :=
  match db.byProviderRefundId prid with
  | .ok none => 0 < e.amount.getD 0 ∧ e.currency = some p.currency
  | _ => false

def eventDrifts (seen db : Db) (e : WebhookEvent) : Bool :=
  match e.eventType, refundTarget seen e with
  | .refund _, .ok target =>
    match target.refund with
    | some refund => (db.refunds.get? refund.id).any fun locked =>
      confirmsWrongly db locked e.report target.loaded
    | none => (externalTarget seen e target.providerPaymentId).any fun x =>
      recordable db e x.1 x.2 && db.staleTotal (some x.1) x.1.id
  | _, _ => false

/-- The step adds a refund to a payment with the wrong amount or on a stale total. -/
def driftsTotal (s : Sys) : Label → Bool
  | .refundAnswer pid report _ =>
    match s.proc? pid with
    | some (.refund attempt) => (s.db.refunds.get? attempt.refundId).any fun r =>
      confirmsWrongly s.db r report none
    | _ => false
  | .process pid _ _ =>
    match s.proc? pid with
    | some (.delivery e seen) => eventDrifts seen s.db e
    | _ => false
  | .recoverCommit pid _ _ =>
    match s.proc? pid with
    | some (.recovery row seen) => eventDrifts seen s.db row.rebuild
    | _ => false
  | _ => false

theorem eventDrifts_of_handling {e : WebhookEvent} {seen : Db} (hh : Handling s l e seen)
    (hdrift : driftsTotal s l = false) : eventDrifts seen s.db e = false := by
  rcases hh with ⟨pid, newId, now, rfl, hproc⟩ | ⟨pid, newId, now, row, rfl, hproc, rfl⟩
  · simpa [driftsTotal, hproc] using hdrift
  · simpa [driftsTotal, hproc] using hdrift

/-- The payment the session adds to is the row, as far as its total goes. -/
theorem total_of_not_stale {p old : Payment} (hold : db.payments.get? p.id = some old)
    (h : db.staleTotal (some p) p.id = false) : p.refundedAmountCents = old.refundedAmountCents := by
  have hsame : old.refundedAmountCents = p.refundedAmountCents := by
    simpa [Db.staleTotal, hold] using h
  exact hsame.symm

/-- What a session knows of a payment it has loaded: the row, perhaps as it was earlier. -/
def Payment.Knows (db : Db) (q : Payment) : Prop :=
  ∃ old, db.payments.get? q.id = some old ∧ q.Same old ∧
    (q.status = .refunded → q.refundedAmountCents.getD 0 = q.amountCents)

/-- A refund is added in a session that knows the row's total. -/
theorem exact_added {q old : Payment} {prid : Option String} {amount : ℤ}
    (hexact : ∀ p ∈ db.payments.rows, p.Exact db) (hc : Covered db')
    (hold : db.payments.get? q.id = some old)
    (hpay : db'.payments = db.payments.replace (old.patch (addRefundedPatch q prid amount)))
    (hq : q.Knows db) (hfresh : q.refundedAmountCents = old.refundedAmountCents) (hpos : 0 < amount)
    (hmore : ∀ id, db'.refundedTotal id = db.refundedTotal id + if q.id = id then amount else 0) :
    ∀ p ∈ db'.payments.rows, p.Exact db' := by
  obtain ⟨old', hold', hsame, hfull⟩ := hq
  rw [hold] at hold'
  cases hold'
  have hid : old.id = q.id := Table.key_of_get? hold
  have hget : db.payments.get? (Keyed.key (old.patch (addRefundedPatch q prid amount))) = some old :=
    Table.get?_of_mem (Table.mem_of_get? hold)
  have hmem : old.patch (addRefundedPatch q prid amount) ∈ db'.payments.rows := by
    rw [hpay]
    exact (Table.mem_replace hget).mpr (.inl rfl)
  have hle : db'.refundedTotal old.id ≤ old.amountCents :=
    refundedTotal_le (p := old.patch (addRefundedPatch q prid amount)) hc hmem
  refine exact_replace hexact hold hpay ?_ ?_
  · refine addRefunded_exact (hexact old (Table.mem_of_get? hold)) hfresh hsame.amountCents.symm hfull
      hpos ?_ hle
    rw [hmore, if_pos hid.symm]
  · intro k hk
    rw [hmore, if_neg (by rw [← hid]; exact Ne.symm hk), add_zero]

/-- A report that does not confirm wrongly keeps every payment exact. -/
theorem ReportMove.exact {r : Refund} {t : RefundReport} {loaded : Option Payment}
    (h : ReportMove db r t loaded db') (hr : db.refunds.get? r.id = some r)
    (hexact : ∀ p ∈ db.payments.rows, p.Exact db) (hc : Covered db')
    (hloaded : ∀ q, loaded = some q → q.Knows db)
    (hright : confirmsWrongly db r t loaded = false) : ∀ p ∈ db'.payments.rows, p.Exact db' := by
  cases h with
  | saved hstatus hprid hattempts hpay href =>
    rename_i c
    have hr' : db.refunds.get? (r.patch c).id = some r := hr
    have htotal : ∀ id, db'.refundedTotal id = db.refundedTotal id := by
      intro id
      rw [refundedTotal_replace hr' href]
      rcases hstatus with hnone | ⟨hopen, hword⟩
      · have hsame : (r.patch c).pays id = r.pays id := by
          simp [Refund.pays, Refund.patch, hnone]
        omega
      · have hold : r.status ≠ .succeeded := by
          intro hs
          rw [hs] at hopen
          cases hopen
        have hnew : (r.patch c).status ≠ .succeeded := by
          rcases hword with ⟨hc, _⟩ | ⟨hc, _⟩
          · simp [Refund.patch, hc]
          · simp [Refund.patch, hc]
        rw [Refund.pays_of_open hold, Refund.pays_of_open hnew]
        omega
    intro p hp
    rw [hpay] at hp
    exact (hexact p hp).of_total (htotal p.id)
  | confirmed hopen hs hp hold hpay href =>
    rename_i q old
    obtain ⟨hamount, hfresh⟩ : confirmedAmount r t.amount = r.amountCents ∧
        db.staleTotal loaded r.paymentId = false := by
      simpa [confirmsWrongly, hopen, hs] using hright
    have hr' : db.refunds.get? (r.patch {
        status := some .succeeded, providerRefundId := t.newRefundId r }).id = some r := hr
    have hnot : r.status ≠ .succeeded := by
      intro hs
      rw [hs] at hopen
      cases hopen
    -- the session's payment is the loaded one, or the row read now
    obtain ⟨hqid, hknows, htotal⟩ : q.id = r.paymentId ∧ q.Knows db ∧
        q.refundedAmountCents = old.refundedAmountCents := by
      rcases sessionPayment_ok hp with ⟨hl, hid⟩ | hrow
      · rw [hl, ← hid] at hfresh
        exact ⟨hid, hloaded q hl, total_of_not_stale hold hfresh⟩
      · have hid : q.id = r.paymentId := Table.key_of_get? hrow
        have hmem := Table.mem_of_get? hrow
        rw [hid, hrow] at hold
        cases hold
        exact ⟨hid, ⟨q, Table.get?_of_mem hmem, .refl q, (hexact q hmem).status.mp⟩, rfl⟩
    refine exact_added hexact hc hold (by rw [hpay, hamount]) hknows htotal r.amountPositive ?_
    intro id
    rw [refundedTotal_replace hr' href, Refund.pays_of_open hnot, hqid]
    simp [Refund.pays, Refund.patch]

/-! ### Steps -/

theorem Payment.Exact.patched {p : Payment} (h : p.Exact db) (c : PaymentPatch)
    (hcents : c.refundedAmountCents = none) (hword : c.status ≠ some .refunded)
    (hkept : p.status = .refunded → (p.patch c).status = .refunded)
    (href : db'.refunds = db.refunds) : (p.patch c).Exact db' := by
  have htotal : (p.patch c).refundedAmountCents = p.refundedAmountCents := by
    simp [Payment.patch, hcents]
  have hsum : db'.refundedTotal p.id = db.refundedTotal p.id := by
    unfold Db.refundedTotal
    rw [href]
  have hstatus : (p.patch c).status = .refunded ↔ p.status = .refunded := by
    refine ⟨fun hnew => ?_, hkept⟩
    cases hc : c.status with
    | none => simpa [Payment.patch, hc] using hnew
    | some word =>
      simp only [Payment.patch, hc, Option.getD_some] at hnew
      rw [hnew] at hc
      exact absurd hc hword
  refine ⟨?_, ?_, ?_⟩
  · rw [htotal]
    exact h.total.trans hsum.symm
  · rw [htotal]
    exact h.bound
  · rw [htotal, hstatus]
    exact h.status

/-- A step that is not too late leaves a refunded payment refunded. -/
theorem PaymentMove.refunded_kept {p p' : Payment} (h : PaymentMove s l p p')
    (hp : p ∈ s.db.payments.rows) (hlate : actsTooLate (· = .refunded) s l = false)
    (href : p.status = .refunded) : p'.status = .refunded := by
  rcases h.kept (Table.get?_of_mem hp) hlate (by simp [href]) with hsame | hr | ⟨hnot, _⟩
  · rw [hsame, href]
  · exact hr
  · exact absurd href hnot

/-- The same for all rows of a payment statement. -/
theorem exact_patched {id : Id} {old : Payment} {c : PaymentPatch}
    (hexact : ∀ p ∈ s.db.payments.rows, p.Exact s.db) (hold : s.db.payments.get? id = some old)
    (hlate : actsTooLate (· = .refunded) s l = false) (hcents : c.refundedAmountCents = none)
    (hword : c.status ≠ some .refunded) (hmove : PaymentMove s l old (old.patch c))
    (hpay : db'.payments = s.db.payments.replace (old.patch c)) (href : db'.refunds = s.db.refunds) :
    ∀ p ∈ db'.payments.rows, p.Exact db' := by
  have hmem := Table.mem_of_get? hold
  refine exact_replace hexact hold hpay ?_ fun k _ => ?_
  · exact (hexact old hmem).patched c hcents hword (hmove.refunded_kept hmem hlate) href
  · unfold Db.refundedTotal
    rw [href]

/-- A statement on a refund that is open before and after. -/
theorem exact_openRefund {id : Id} {r : Refund} {c : RefundPatch}
    (hexact : ∀ p ∈ db.payments.rows, p.Exact db) (hr : db.refunds.get? id = some r)
    (hreq : r.status = .requested) (hword : c.status ≠ some .succeeded)
    (href : db'.refunds = db.refunds.replace (r.patch c)) (hpay : db'.payments = db.payments) :
    ∀ p ∈ db'.payments.rows, p.Exact db' := by
  have hr' : db.refunds.get? (r.patch c).id = some r := Table.get?_of_mem (Table.mem_of_get? hr)
  have hold : r.status ≠ .succeeded := by rw [hreq]; decide
  have hnew : (r.patch c).status ≠ .succeeded := by
    intro hs
    cases hc : c.status with
    | none => exact hold (by simpa [Refund.patch, hc] using hs)
    | some word =>
      simp only [Refund.patch, hc, Option.getD_some] at hs
      exact hword (by rw [hc, hs])
  intro p hp
  rw [hpay] at hp
  refine (hexact p hp).of_total ?_
  rw [refundedTotal_replace hr' href, Refund.pays_of_open hold, Refund.pays_of_open hnew]
  omega

theorem refundTarget_loaded {seen : Db} {e : WebhookEvent} {target : RefundTarget} {q : Payment}
    (h : refundTarget seen e = .ok target) (hq : target.loaded = some q) : q ∈ seen.payments.rows := by
  rcases refundTarget_ok h with ⟨_, _, _, _, rfl⟩ | ⟨_, rfl | ⟨p, hp, _, rfl⟩⟩
  · cases hq
  · cases hq
  · cases hq
    exact hp

/-- An event handled without drift keeps every payment exact. -/
theorem EventMove.exact {e : WebhookEvent} {seen : Db} (h : EventMove seen s.db e db')
    (hh : Handling s l e seen) (hexact : ∀ p ∈ s.db.payments.rows, p.Exact s.db) (hc : Covered db')
    (hseen : ∀ q ∈ seen.payments.rows, q.Knows s.db)
    (hlate : actsTooLate (· = .refunded) s l = false) (hdrift : driftsTotal s l = false) :
    ∀ p ∈ db'.payments.rows, p.Exact db' := by
  have hdrift := eventDrifts_of_handling hh hdrift
  cases h with
  | still hpay href =>
    intro p hp
    rw [hpay] at hp
    exact (hexact p hp).of_total (by unfold Db.refundedTotal; rw [href])
  | succeeded htype hp hmatch hold hpay href =>
    rename_i q old
    have hid : old.id = q.id := Table.key_of_get? hold
    refine exact_patched hexact hold hlate rfl ?_ (.succeeded hh htype hp hid.symm hmatch rfl) hpay href
    unfold succeededPatch
    dsimp only
    split
    · simp
    · simp
  | failed htype hp hs hold hpay href =>
    rename_i q old
    have hid : old.id = q.id := Table.key_of_get? hold
    exact exact_patched hexact hold hlate rfl (by simp) (.failed hh htype hp hid.symm hs rfl) hpay href
  | reported htype htarget hrefund hlocked hmove =>
    rename_i refund locked
    have hr : s.db.refunds.get? locked.id = some locked :=
      Table.get?_of_mem (Table.mem_of_get? hlocked)
    refine hmove.exact hr hexact hc (fun q hq => hseen q (refundTarget_loaded htarget hq)) ?_
    simpa [eventDrifts, htype, htarget, hrefund, hlocked] using hdrift
  | external htype htarget hnone hext hnew hvalid hrow href hold hpay =>
    rename_i p old prid id row
    have hmem := (byProviderPaymentId_some (externalTarget_some hext).2.1).1
    have hfresh : s.db.staleTotal (some p) p.id = false := by
      simpa [eventDrifts, htype, htarget, hnone, hext, recordable, hnew, hvalid] using hdrift
    refine exact_added hexact hc hold hpay (hseen p hmem) (total_of_not_stale hold hfresh)
      row.amountPositive fun k => ?_
    unfold Db.refundedTotal
    rw [Table.total_insert? href]
    simp [Refund.pays, hrow.status, hrow.paymentId, add_comm]

theorem step_exact (h : step cfg s l = some s') (hexact : ∀ p ∈ s.db.payments.rows, p.Exact s.db)
    (hcov : Covered s.db) (hc : Covered s'.db)
    (hseen : ∀ e seen, Handling s l e seen → ∀ q ∈ seen.payments.rows, q.Knows s.db)
    (hlate : actsTooLate (· = .refunded) s l = false) (hdrift : driftsTotal s l = false) :
    ∀ p ∈ s'.db.payments.rows, p.Exact s'.db := by
  cases step_money h with
  | still hpay href =>
    intro p hp
    rw [hpay] at hp
    exact (hexact p hp).of_total (by unfold Db.refundedTotal; rw [href])
  | requested hreq href hpay =>
    rename_i row
    have hopen : row.status ≠ .succeeded := by rw [hreq.status]; decide
    intro p hp
    rw [hpay] at hp
    refine (hexact p hp).of_total ?_
    unfold Db.refundedTotal
    rw [Table.total_insert? href, Refund.pays_of_open hopen, zero_add]
  | attempted hl hrefund hreq hpayment hfirst href hpay =>
    exact exact_openRefund hexact hrefund hreq (by simp) href hpay
  | blocked hl hrefund hpayment hdispute hreq hfirst href hpay =>
    exact exact_openRefund hexact hrefund hreq (by simp) href hpay
  | uncertain hl hproc hrefund hreq hmax href hpay =>
    exact exact_openRefund hexact hrefund hreq (by simp) href hpay
  | answered hl hproc hrefund hmove =>
    rename_i r
    subst hl
    have hr : s.db.refunds.get? r.id = some r := Table.get?_of_mem (Table.mem_of_get? hrefund)
    refine hmove.exact hr hexact hc (fun q hq => by cases hq) ?_
    simpa [driftsTotal, hproc, hrefund] using hdrift
  | event hh hmove => exact hmove.exact hh hexact hc (hseen _ _ hh) hlate hdrift
  | recorded hl hproc hstage hrow hnew hpay href =>
    rename_i row
    have htotal : ∀ id, s'.db.refundedTotal id = s.db.refundedTotal id := by
      intro id
      unfold Db.refundedTotal
      rw [href]
    intro p hp
    rcases (Table.mem_insert? hpay).mp hp with rfl | hold
    · have hfree := (Table.insert?_eq_some.mp hpay).1
      have hzero : s'.db.refundedTotal p.id = 0 := by
        rw [htotal]
        calc s.db.refundedTotal p.id = s.db.refunds.total fun _ => 0 :=
              Table.total_congr fun r hr => if_neg fun hmine => counts_of_new hcov hfree r hr hmine.1
          _ = 0 := by simp [Table.total]
      have hpos := p.amountPositive
      refine ⟨?_, ?_, ?_⟩
      · rw [hnew, hzero]
        rfl
      · rw [hnew]
        exact hpos.le
      · rw [hnew, hrow.status]
        simp only [Option.getD_none]
        exact ⟨(fun h => by cases h), by omega⟩
    · exact (hexact p hold).of_total (htotal p.id)
  | reused hl hproc hstage horder hpending hold hword hpay href =>
    rename_i old
    have hid := Table.key_of_get? hold
    refine exact_patched hexact hold hlate rfl ?_
      (.reused hl hproc (by rw [hstage, ← hid]; rfl) horder hpending hword rfl) hpay href
    unfold reusedStatus
    split
    · simp
    · simp
  | cancelled hl hproc horder hpending hnone hfail hpay href =>
    intro p' hp'
    rw [hpay] at hp'
    obtain ⟨p, hp, hsame⟩ := (failPending_within hfail).payments_stem (by simp) p' hp'
    obtain ⟨p'', hp'', hcase⟩ := failPending_rows hfail (Table.get?_of_mem hp)
    have hid : p'.id = p.id := hsame.id
    have hget := Table.get?_of_mem hp'
    rw [show Keyed.key p' = p.id from hid, hp''] at hget
    cases hget
    rcases hcase with rfl | ⟨⟨q, hq, hqid, hqs⟩, rfl⟩
    · exact (hexact _ hp).of_total (by unfold Db.refundedTotal; rw [href])
    · refine (hexact p hp).patched { status := some .failed } rfl (by simp) ?_ href
      exact PaymentMove.refunded_kept (.cancelled hl hproc horder hpending hnone hq hqid hqs rfl) hp hlate

/-- In every run whose confirmations report the refund's own amount and add it to the row's total, and
    in which nothing sets the status of a refunded payment, the refunded total of every payment is the
    sum of its succeeded refunds, at most the payment, and all of it exactly when it is refunded. -/
theorem refunded_total_exact (h₀ : Initial s₀) (h : Run cfg s₀ tr s)
    (hlate : ∀ t ∈ tr, actsTooLate (· = .refunded) t.pre t.label = false)
    (hdrift : ∀ t ∈ tr, driftsTotal t.pre t.label = false) :
    ∀ p ∈ s.db.payments.rows, p.Exact s.db := by
  -- the snapshots of open handlers are earlier states, so exactness is carried for those too
  suffices hall : (∀ p ∈ s.db.payments.rows, p.Exact s.db) ∧
      ∀ t ∈ tr, ∀ p ∈ t.pre.db.payments.rows, p.Exact t.pre.db from hall.1
  induction h with
  | nil =>
    refine ⟨fun p hp => ?_, fun t ht => by cases ht⟩
    rw [h₀.payments] at hp
    cases hp
  | cons run hs ih =>
    rename_i tr s s' l
    have hlate' := List.forall_mem_cons.mp hlate
    have hdrift' := List.forall_mem_cons.mp hdrift
    obtain ⟨hnow, hpast⟩ := ih hlate'.2 hdrift'.2
    have hknows : ∀ e seen, Handling s l e seen → ∀ q ∈ seen.payments.rows, q.Knows s.db := by
      intro e seen hh q hq
      obtain ⟨t, ht, rfl⟩ := hh.taken h₀ run
      obtain ⟨old, hold, hsame⟩ := (run_evolves run t ht).payment_of_mem hq
      exact ⟨old, hold, hsame, (hpast t ht q hq).status.mp⟩
    refine ⟨step_exact hs hnow (covered_of_run h₀ run) (covered_of_run h₀ (.cons run hs)) hknows
      hlate'.1 hdrift'.1, ?_⟩
    exact List.forall_mem_cons.mpr ⟨hnow, hpast⟩

/-- A payment refunded in full by the refund job. -/
theorem refunded_total_exact_full : ∃ tr s, Run smallSettings smallShop tr s ∧
    (∃ p ∈ s.db.payments.get? 1, p.status = .refunded ∧ p.refundedAmountCents = some 200) ∧
    ∀ p ∈ s.db.payments.rows, p.Exact s.db := by
  obtain ⟨tr, s, hrun, hp, hlate, hdrift⟩ := exists_exec (step smallSettings) smallShop
    (P := fun tr s => (∃ p ∈ s.db.payments.get? 1, p.status = .refunded ∧
        p.refundedAmountCents = some 200) ∧
      (∀ t ∈ tr, actsTooLate (· = .refunded) t.pre t.label = false) ∧
      ∀ t ∈ tr, driftsTotal t.pre t.label = false)
    (paidOrder ++ submittedRefund ++ [.refundAnswer 1 refundSucceeded 0]) (by decide)
  exact ⟨tr, s, hrun, hp, refunded_total_exact smallShop_initial hrun hlate hdrift⟩

/-- The provider's word that a refund of half the order, which the store did not ask for, was made. -/
def dashboardRefund (eventId prid : String) : WebhookEvent :=
  { eventId := eventId, eventType := .refund "updated", providerPaymentId := "pi_1"
    amount := some 100, currency := some "usd", refundStatus := some "succeeded"
    providerRefundId := some prid }

/-- Two refunds made at the provider are reported at the same time. Both handlers read the payment
    before either writes, so the second total overwrites the first: the refunds add up to the whole
    payment, half of it counts as refunded. -/
theorem refunded_total_lost_update : ∃ tr s, Run smallSettings smallShop tr s ∧
    ∃ p ∈ s.db.payments.rows, p.refundedAmountCents = some 100 ∧ s.db.refundedTotal p.id = 200 ∧
      p.amountCents = 200 ∧ p.status = .succeeded :=
  exists_exec (step smallSettings) smallShop
    (P := fun _ s => ∃ p ∈ s.db.payments.rows, p.refundedAmountCents = some 100 ∧
      s.db.refundedTotal p.id = 200 ∧ p.amountCents = 200 ∧ p.status = .succeeded)
    (paidOrder ++ [.deliver 1 (dashboardRefund "evt_2" "re_1"), .deliver 2 (dashboardRefund "evt_3" "re_2"),
      .process 1 1 0, .process 2 2 0]) (by decide)

end NovaCart
