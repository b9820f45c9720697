import NovaCart.Bindings
import NovaCart.Schemes.Batch

/-! Disputes.

    `DisputeMove` says what one dispute event can do: nothing, open the row of its dispute, or move a
    row that is not closed. A dispute that is closed never changes again, so the events of one dispute
    can come in any order and any number of times, and the status it is closed with is the one the
    provider closed it with. -/

namespace NovaCart

open Schemes

variable {cfg : Settings} {s s' s₀ : Sys} {l : Label} {tr : List (Taken Sys Label)}
variable {db db' db₀ seen : Db} {e : WebhookEvent} {now : Time}

/-! ### Records -/

/-- There is a record under the key, open or resolved. -/
def Db.filed (db : Db) (k : DedupeKey) : Prop := db.reconciliations.get? k ≠ none

theorem record_filed (row : PaymentReconciliation) (k : DedupeKey) :
    (db.record row).filed k ↔ db.filed k ∨ k = row.dedupeKey := by
  unfold Db.filed Db.record
  split
  · rename_i hnone
    have hthere : db.reconciliations.get? row.dedupeKey ≠ none := Table.insert?_eq_none.mp hnone
    refine ⟨.inl, ?_⟩
    rintro (h | rfl)
    · exact h
    · exact hthere
  · rename_i t ht
    have hkey : Keyed.key row = row.dedupeKey := rfl
    rw [Table.get?_insert? ht, hkey]
    by_cases hk : row.dedupeKey = k
    · simp [hk]
    · simp [hk, Ne.symm hk]

theorem reconcileIf_filed (c : Prop) [Decidable c] (kind : ReconciliationKind) (k k' : DedupeKey)
    (p : Option Payment) (o : Option Id) (ppid : Option String) :
    (reconcileIf c db kind k p o ppid).filed k' ↔ db.filed k' ∨ (c ∧ k' = k) := by
  unfold reconcileIf
  split
  · rename_i hc
    unfold reconcile
    rw [record_filed]
    simp [hc]
  · rename_i hc
    simp [hc]

theorem lostKey_inj {a b : Id} :
    ReconciliationKind.disputeLost.key a = ReconciliationKind.disputeLost.key b ↔ a = b :=
  ⟨fun h => toString_inj (congrArg DedupeKey.arg h), fun h => by rw [h]⟩

/-! ### One event -/

/-- The row of a dispute that an event opens. -/
structure DisputeRow (p : Payment) (e : WebhookEvent) (pdid : String) (id : Id) (d : Dispute) : Prop where
  id : d.id = id
  provider : d.provider = e.provider
  providerDisputeId : d.providerDisputeId = pdid
  paymentId : d.paymentId = p.id
  status : d.status = disputeStatusMap e.disputeStatus

/-- What `apply_dispute_event` does to the disputes and to the records of lost ones. -/
inductive DisputeMove (seen db : Db) (e : WebhookEvent) (id : Id) (db' : Db) : Prop
  | unmatched (hnone : e.providerPaymentId = "" ∨
        seen.byProviderPaymentId e.providerPaymentId e.provider = none ∨
        truthy e.providerDisputeId = none)
      (hdisputes : db'.disputes = db.disputes)
      (hlost : ∀ k, db'.filed (ReconciliationKind.disputeLost.key k) ↔
        db.filed (ReconciliationKind.disputeLost.key k))
  | settled {pdid : String} {d : Dispute} (hpdid : truthy e.providerDisputeId = some pdid)
      (hd : db.byProviderDisputeId e.provider pdid = some d)
      (hwhy : d.status.final = true ∨ disputeStatusMap e.disputeStatus = d.status) (hdb : db' = db)
  | opened {known p : Payment} {pdid : String} {row : Dispute} {db₁ : Db}
      (hpdid : truthy e.providerDisputeId = some pdid)
      (hp : db.payments.get? known.id = some p) (hnew : db.byProviderDisputeId e.provider pdid = none)
      (hins : db.disputes.insert? row = some db'.disputes) (hrow : DisputeRow p e pdid id row)
      (hlost : ∀ k, db'.filed (ReconciliationKind.disputeLost.key k) ↔
        db.filed (ReconciliationKind.disputeLost.key k) ∨ (k = id ∧ row.status = .lost))
      (hover : db₁ = reconcileIf (row.status.final = false ∧ db.hasSubmittedRefund p.id)
        { db with disputes := db'.disputes } .disputeDuringRefund (overlapKey id) (some p) none none)
      (hrest : Within [.reconcile] db₁ db')
  | moved {pdid : String} {d : Dispute} {c : DisputePatch}
      (hpdid : truthy e.providerDisputeId = some pdid)
      (hd : db.byProviderDisputeId e.provider pdid = some d) (hopen : d.status.final = false)
      (hnew : disputeStatusMap e.disputeStatus ≠ d.status)
      (hdisputes : db'.disputes = db.disputes.replace (d.patch c))
      (hc : c.status = disputeStatusMap e.disputeStatus)
      (hlost : ∀ k, db'.filed (ReconciliationKind.disputeLost.key k) ↔
        db.filed (ReconciliationKind.disputeLost.key k) ∨ (k = d.id ∧ c.status = .lost))

theorem byProviderDisputeId_some {provider : Provider} {pdid : String} {d : Dispute}
    (h : db.byProviderDisputeId provider pdid = some d) :
    db.disputes.get? d.id = some d ∧ d.provider = provider ∧ d.providerDisputeId = pdid :=
  ⟨Table.get?_of_mem (List.mem_of_find?_eq_some h), by simpa using List.find?_some h⟩

@[simp] theorem reconcileIf_disputes (c : Prop) [Decidable c] (kind : ReconciliationKind)
    (k : DedupeKey) (p : Option Payment) (o : Option Id) (ppid : Option String) :
    (reconcileIf c db kind k p o ppid).disputes = db.disputes := by
  unfold reconcileIf reconcile
  split
  · exact record_disputes ..
  · rfl

theorem openDispute_move {known p : Payment} {pdid : String} {id : Id} {db₁ : Db}
    (hpdid : truthy e.providerDisputeId = some pdid) (hp : db.payments.get? known.id = some p)
    (hnew : db.byProviderDisputeId e.provider pdid = none)
    (h : openDispute db p e pdid id now = .ok db₁) :
    DisputeMove seen db e id (reconcileIf (disputeStatusMap e.disputeStatus = .lost) db₁ .disputeLost
      (ReconciliationKind.disputeLost.key id) (some p) none none) := by
  obtain ⟨_, hthere⟩ := openDispute_within h
  obtain ⟨db₂, h₂, h⟩ := bind_ok h
  obtain ⟨_, t, ht, rfl⟩ := insertDispute_ok h₂
  cases h
  refine .opened hpdid hp hnew (by simpa using ht) ⟨rfl, rfl, rfl, rfl, rfl⟩ (fun k => ?_)
    (by simp only [reconcileIf_disputes]; rfl) ?_
  · have hopened : ReconciliationKind.disputeLost.key k ≠ ReconciliationKind.disputeOpened.key id :=
      fun heq => by cases congrArg DedupeKey.tag heq
    have hover : ReconciliationKind.disputeLost.key k ≠ overlapKey id :=
      fun heq => by cases congrArg DedupeKey.tag heq
    rw [reconcileIf_filed, reconcileIf_filed, reconcileIf_filed, lostKey_inj]
    have hbase : ({ db with disputes := t } : Db).filed (ReconciliationKind.disputeLost.key k) ↔
        db.filed (ReconciliationKind.disputeLost.key k) := Iff.rfl
    rw [hbase]
    simp only [hopened, and_false, or_false]
    rw [or_assoc]
    refine or_congr_right ?_
    rw [or_iff_right fun h => hover h.2, and_comm]
  · refine Writes.trans (reconcileIf_within (by decide) (by rfl) ..) (lostRecord_within _ p ?_)
    exact hthere

theorem applyDisputeEvent_move {id : Id} (h : applyDisputeEvent seen db e id now = .ok db') :
    DisputeMove seen db e id db' := by
  unfold applyDisputeEvent at h
  dsimp only at h
  split at h
  · rename_i known pdid hfound hpdid
    obtain ⟨payment, hpayment, h⟩ := need_bind_ok h
    split at h
    · rename_i hnew
      obtain ⟨db₁, h₁, h⟩ := bind_ok h
      cases h
      exact openDispute_move hpdid hpayment hnew h₁
    · rename_i d hd
      split at h
      · rename_i hwhy
        cases h
        exact .settled hpdid hd hwhy rfl
      · rename_i hwhy
        obtain ⟨hopen, hne⟩ := not_or.mp hwhy
        obtain ⟨db₁, h₁, h⟩ := bind_ok h
        obtain ⟨old, hold, _, rfl⟩ := updateDispute_ok h₁
        rw [(byProviderDisputeId_some hd).1] at hold
        cases hold
        cases h
        refine .moved hpdid hd (by simpa using hopen) hne (reconcileIf_disputes ..) rfl fun k => ?_
        rw [reconcileIf_filed, lostKey_inj, and_comm]
        rfl
  · rename_i hno
    cases h
    refine .unmatched ?_ (record_disputes ..) fun k => ?_
    · by_cases hppid : e.providerPaymentId = ""
      · exact .inl hppid
      · rw [if_neg hppid] at hno
        refine .inr ?_
        by_contra hboth
        obtain ⟨hfound, hpdid⟩ := not_or.mp hboth
        obtain ⟨p, hp⟩ := Option.ne_none_iff_exists'.mp hfound
        obtain ⟨pdid, hpdid⟩ := Option.ne_none_iff_exists'.mp hpdid
        exact hno p pdid hp hpdid
    · unfold reconcile
      rw [record_filed]
      refine or_iff_left fun heq => ?_
      cases congrArg DedupeKey.tag heq

/-- A closed dispute stays as it is, whatever the event. -/
theorem applyDisputeEvent_final {id : Id} (h : applyDisputeEvent seen db e id now = .ok db')
    {d : Dispute} (hd : db.disputes.get? d.id = some d) (hfinal : d.status.final = true) :
    db'.disputes.get? d.id = some d := by
  cases applyDisputeEvent_move h with
  | unmatched _ hdisputes _ =>
    rw [hdisputes]
    exact hd
  | settled _ _ _ hdb =>
    rw [hdb]
    exact hd
  | opened _ _ _ hins _ _ _ _ => exact Table.get?_insert?_of_some hins hd
  | moved hpdid hfound hopen hnew hdisputes hc hlost =>
    rename_i d' c
    obtain ⟨hd', _, _⟩ := byProviderDisputeId_some hfound
    rw [hdisputes, Table.get?_replace_of_ne]
    · exact hd
    · intro heq
      have hid : d.id = d'.id := heq
      rw [hid, hd'] at hd
      cases hd
      rw [hopen] at hfinal
      cases hfinal

/-! ### The events of one dispute -/

/-- A delivery of a dispute event, with the id a new row would get. -/
structure DisputeReport where
  event : WebhookEvent
  newId : Id
  now : Time

/-- What the provider's word means for the dispute. -/
def DisputeReport.status (x : DisputeReport) : DisputeStatus := disputeStatusMap x.event.disputeStatus

/-- `apply_dispute_event` in a transaction of its own. -/
def applyDisputeReport (db : Db) (x : DisputeReport) : Result Db :=
  applyDisputeEvent db db x.event x.newId x.now

/-- A well-formed event about dispute `pdid` of the payment; the id it brings is used nowhere yet. -/
structure DisputeReport.About (db : Db) (p : Payment) (pdid : String) (x : DisputeReport) : Prop where
  provider : x.event.provider = p.provider
  payment : x.event.providerPaymentId = p.providerPaymentId
  named : x.event.providerPaymentId ≠ ""
  dispute : truthy x.event.providerDisputeId = some pdid
  currency : ∀ code, truthy x.event.currency = some code → currencyFormat code = true
  fresh : db.disputes.get? x.newId = none ∧ ¬db.filed (ReconciliationKind.disputeLost.key x.newId)

theorem insertDispute_succeeds {d : Dispute} (hcurrency : currencyFormat d.currency = true)
    (hpayment : db.payments.get? d.paymentId ≠ none)
    (hunique : db.byProviderDisputeId d.provider d.providerDisputeId = none)
    (hfresh : db.disputes.get? d.id = none) : ∃ db', db.write (.insertDispute d) = .ok db' := by
  have hother : ∀ q ∈ db.disputes.rows,
      (q.provider, q.providerDisputeId) ≠ (d.provider, d.providerDisputeId) := by
    intro q hq heq
    have hno := List.find?_eq_none.mp hunique q hq
    rw [decide_eq_true_eq] at hno
    exact hno ⟨congrArg Prod.fst heq, congrArg Prod.snd heq⟩
  obtain ⟨t, ht⟩ := Option.ne_none_iff_exists'.mp fun hnone =>
    Table.insert?_eq_none (t := db.disputes) (r := d) |>.mp hnone hfresh
  refine bind_succeeds ⟨(), require_eq_ok.mpr hcurrency⟩ fun _ _ => ?_
  refine bind_succeeds ⟨(), require_eq_ok.mpr hpayment⟩ fun _ _ => ?_
  refine bind_succeeds ⟨(), require_eq_ok.mpr hother⟩ fun _ _ => ?_
  exact bind_succeeds ⟨t, need_eq_ok.mpr ht⟩ fun _ _ => ⟨_, rfl⟩

/-- Such an event is always applied. -/
theorem applyDisputeReport_ok {p : Payment} {pdid : String} {x : DisputeReport}
    (hx : x.About db₀ p pdid) (hp : p ∈ db.payments.rows) (hcurrency : currencyFormat p.currency = true)
    (hfound : db.byProviderPaymentId p.providerPaymentId p.provider = some p)
    (hfresh : db.byProviderDisputeId p.provider pdid = none → db.disputes.get? x.newId = none) :
    ∃ db', applyDisputeReport db x = .ok db' := by
  have hget : db.payments.get? p.id = some p := Table.get?_of_mem hp
  unfold applyDisputeReport applyDisputeEvent
  dsimp only
  rw [if_neg hx.named, hx.payment, hx.provider, hfound, hx.dispute]
  simp only [hget, need, ok_bind]
  cases hd : db.byProviderDisputeId p.provider pdid with
  | none =>
    refine bind_succeeds (bind_succeeds (insertDispute_succeeds ?_ ?_ ?_ ?_) fun _ _ => ⟨_, rfl⟩)
      fun _ _ => ⟨_, rfl⟩
    · dsimp only
      cases hc : truthy x.event.currency with
      | none => exact hcurrency
      | some code => exact hx.currency code hc
    · simp [hget]
    · rw [hx.provider]
      exact hd
    · exact hfresh hd
  | some d =>
    dsimp only
    split
    · exact ⟨_, rfl⟩
    · rename_i hwhy
      have hopen : ¬d.status.final = true := (not_or.mp hwhy).1
      have hrow := (byProviderDisputeId_some hd).1
      refine bind_succeeds (bind_succeeds ⟨d, need_eq_ok.mpr hrow⟩ fun old hold => ?_) fun _ _ => ⟨_, rfl⟩
      rw [need_eq_ok, hrow] at hold
      cases hold
      exact bind_succeeds ⟨(), require_eq_ok.mpr fun hfinal => absurd hfinal hopen⟩ fun _ _ => ⟨_, rfl⟩

/-- What the events handled so far have made of the dispute. -/
structure Tracked (db₀ : Db) (p : Payment) (pdid : String) (done : List DisputeReport) (db : Db) :
    Prop where
  payments : db.payments = db₀.payments
  start : done = [] → db = db₀
  row : done ≠ [] → ∃ d, db.byProviderDisputeId p.provider pdid = some d ∧
    (d.status.final = true ↔ ∃ x ∈ done, x.status.final = true) ∧
    (d.status.final = true → ∃ x ∈ done, x.status = d.status) ∧
    (db.filed (ReconciliationKind.disputeLost.key d.id) ↔ d.status = .lost)

theorem byProviderDisputeId_replace {provider : Provider} {pdid : String} {d : Dispute}
    {c : DisputePatch} (hd : db.byProviderDisputeId provider pdid = some d)
    (hdisputes : db'.disputes = db.disputes.replace (d.patch c)) :
    db'.byProviderDisputeId provider pdid = some (d.patch c) := by
  have hget : db.disputes.get? (Keyed.key (d.patch c)) = some d := (byProviderDisputeId_some hd).1
  unfold Db.byProviderDisputeId at hd ⊢
  rw [hdisputes, Table.find?_replace hget rfl, hd]
  exact congrArg some (if_pos rfl)

theorem byProviderDisputeId_insert {provider : Provider} {pdid : String} {row : Dispute}
    (hins : db.disputes.insert? row = some db'.disputes) (hprovider : row.provider = provider)
    (hpdid : row.providerDisputeId = pdid) : db'.byProviderDisputeId provider pdid = some row := by
  unfold Db.byProviderDisputeId
  rw [Table.rows_of_insert? hins, List.find?_cons_of_pos]
  simp [hprovider, hpdid]

theorem tracked_step {p : Payment} {pdid : String} {done : List DisputeReport}
    {x : DisputeReport} (ht : Tracked db₀ p pdid done db) (hx : x.About db₀ p pdid)
    (hnew : db₀.byProviderDisputeId p.provider pdid = none)
    (hfound : db₀.byProviderPaymentId p.providerPaymentId p.provider = some p)
    (h : applyDisputeReport db x = .ok db') : Tracked db₀ p pdid (done ++ [x]) db' := by
  have hpay : db'.payments = db₀.payments :=
    ((applyDisputeEvent_within h).payments (by decide) (by decide)).trans ht.payments
  refine ⟨hpay, by simp, fun _ => ?_⟩
  cases applyDisputeEvent_move h with
  | unmatched hnone _ _ =>
    exfalso
    rcases hnone with hppid | hunknown | hpdid
    · exact hx.named hppid
    · unfold Db.byProviderPaymentId at hunknown hfound
      rw [ht.payments, hx.payment, hx.provider, hfound] at hunknown
      cases hunknown
    · rw [hx.dispute] at hpdid
      cases hpdid
  | settled hpdid hd hwhy hdb =>
    rw [hx.dispute] at hpdid
    cases hpdid
    rw [hx.provider] at hd
    subst hdb
    have hne : done ≠ [] := by
      intro hnil
      rw [ht.start hnil, hnew] at hd
      cases hd
    obtain ⟨d, hd', hfinal, hsome, hlost⟩ := ht.row hne
    rw [hd'] at hd
    cases hd
    refine ⟨_, hd', ?_, ?_, hlost⟩
    · rcases hwhy with hf | hsame
      · obtain ⟨y, hy, hyf⟩ := hfinal.mp hf
        exact ⟨fun _ => ⟨y, List.mem_append_left _ hy, hyf⟩, fun _ => hf⟩
      · rw [hfinal]
        refine ⟨fun ⟨y, hy, hyf⟩ => ⟨y, List.mem_append_left _ hy, hyf⟩, fun ⟨y, hy, hyf⟩ => ?_⟩
        rcases List.mem_append.mp hy with hy | hy
        · exact ⟨y, hy, hyf⟩
        · rw [List.mem_singleton.mp hy, DisputeReport.status, hsame] at hyf
          exact hfinal.mp hyf
    · intro hf
      obtain ⟨y, hy, heq⟩ := hsome hf
      exact ⟨y, List.mem_append_left _ hy, heq⟩
  | opened hpdid hp hnone hins hrow hlost hover hrest =>
    rw [hx.dispute] at hpdid
    cases hpdid
    rw [hx.provider] at hnone
    have hnil : done = [] := by
      by_contra hne
      obtain ⟨d, hd, _⟩ := ht.row hne
      rw [hd] at hnone
      cases hnone
    have hdb := ht.start hnil
    subst hnil hdb
    have hstatus := hrow.status
    refine ⟨_, byProviderDisputeId_insert hins (hrow.provider.trans hx.provider)
      hrow.providerDisputeId, ?_, ?_, ?_⟩
    · simp [DisputeReport.status, hstatus]
    · intro _
      exact ⟨x, by simp, hstatus.symm⟩
    · rw [hlost, hrow.id]
      exact ⟨fun h => h.elim (absurd · hx.fresh.2) (·.2), fun h => .inr ⟨rfl, h⟩⟩
  | moved hpdid hd hopen hne hdisputes hc hlost =>
    rename_i d c
    rw [hx.dispute] at hpdid
    cases hpdid
    rw [hx.provider] at hd
    have hdone : done ≠ [] := by
      intro hnil
      rw [ht.start hnil, hnew] at hd
      cases hd
    obtain ⟨d', hd', hfinal, _, hlost'⟩ := ht.row hdone
    rw [hd'] at hd
    cases hd
    -- no event so far closed the dispute, so this one decides
    have hnone : ¬∃ y ∈ done, y.status.final = true := by
      rw [← hfinal, hopen]
      simp
    have hnotlost : ¬db.filed (ReconciliationKind.disputeLost.key d.id) := by
      rw [hlost']
      intro hl
      rw [hl] at hopen
      cases hopen
    have hstatus : (d.patch c).status = x.status := hc
    refine ⟨_, byProviderDisputeId_replace hd' hdisputes, ?_, ?_, ?_⟩
    · rw [hstatus]
      refine ⟨fun hf => ⟨x, by simp, hf⟩, fun ⟨y, hy, hyf⟩ => ?_⟩
      rcases List.mem_append.mp hy with hy | hy
      · exact absurd ⟨y, hy, hyf⟩ hnone
      · rw [← List.mem_singleton.mp hy]
        exact hyf
    · intro _
      exact ⟨x, by simp, hstatus.symm⟩
    · rw [hlost]
      exact ⟨fun h => h.elim (absurd · hnotlost) (·.2), fun h => .inr ⟨rfl, h⟩⟩

/-- The events of one dispute whose payment is there, in any order and any number of times: the
    dispute ends as the provider closed it, its loss is recorded exactly when it is lost, and nothing
    else moves. A closed dispute is changed by no event at all. -/
theorem dispute_events_settle (h₀ : Initial s₀) (h : Run cfg s₀ tr s) {p : Payment} {pdid : String}
    {xs ys : List DisputeReport} {last : DisputeStatus} (hp : p ∈ s.db.payments.rows)
    (hnew : s.db.byProviderDisputeId p.provider pdid = none) (hxs : ∀ x ∈ xs, x.About s.db p pdid)
    (hclosed : ∀ x ∈ xs, x.status.final = true → x.status = last) (hys : ∀ x, x ∈ ys ↔ x ∈ xs) :
    ((∃ x ∈ xs, x.status.final = true) →
      ∃ d, (commitAll applyDisputeReport s.db ys).byProviderDisputeId p.provider pdid = some d ∧
        d.status = last) ∧
    (∀ d, (commitAll applyDisputeReport s.db ys).byProviderDisputeId p.provider pdid = some d →
      ((commitAll applyDisputeReport s.db ys).filed (ReconciliationKind.disputeLost.key d.id) ↔
        d.status = .lost)) ∧
    (∀ db x, (∀ d ∈ db.disputes.rows, d.status.final = true →
        (commit applyDisputeReport db x).disputes.get? d.id = some d) ∧
      (commit applyDisputeReport db x).orders = db.orders ∧
      (commit applyDisputeReport db x).stock = db.stock ∧
      (commit applyDisputeReport db x).payments = db.payments ∧
      (commit applyDisputeReport db x).refunds = db.refunds) := by
  have hl := listed_of_run h₀ h
  have hfound := hl.find hp
  have htracked : Tracked s.db p pdid ys (commitAll applyDisputeReport s.db ys) := by
    refine commitAll_invariant (I := Tracked s.db p pdid) ys ⟨rfl, fun _ => rfl, by simp⟩ ?_
    intro done db x hx ht
    have habout := hxs x ((hys x).mp hx)
    obtain ⟨db', hdb'⟩ : ∃ db', applyDisputeReport db x = .ok db' := by
      refine applyDisputeReport_ok habout (by rw [ht.payments]; exact hp) (hl.currency p hp) ?_ ?_
      · unfold Db.byProviderPaymentId at hfound ⊢
        rw [ht.payments]
        exact hfound
      · intro hnone
        have hnil : done = [] := by
          by_contra hne
          obtain ⟨d, hd, _⟩ := ht.row hne
          rw [hd] at hnone
          cases hnone
        rw [ht.start hnil]
        exact habout.fresh.1
    rw [commit_of_ok hdb']
    exact tracked_step ht habout hnew hfound hdb'
  refine ⟨?_, ?_, ?_⟩
  · rintro ⟨x, hx, hfinal⟩
    have hxy := (hys x).mpr hx
    obtain ⟨d, hd, hiff, hsome, _⟩ := htracked.row (List.ne_nil_of_mem hxy)
    have hdf := hiff.mpr ⟨x, hxy, hfinal⟩
    obtain ⟨y, hy, heq⟩ := hsome hdf
    refine ⟨d, hd, ?_⟩
    rw [← heq]
    exact hclosed y ((hys y).mp hy) (by rw [heq]; exact hdf)
  · intro d hd
    by_cases hnil : ys = []
    · rw [hnil, commitAll_nil, hnew] at hd
      cases hd
    · obtain ⟨d', hd', _, _, hlost⟩ := htracked.row hnil
      rw [hd'] at hd
      cases hd
      exact hlost
  · intro db x
    rcases commit_cases applyDisputeReport db x with hok | hsame
    · have hw := applyDisputeEvent_within hok
      refine ⟨fun d hd hfinal => applyDisputeEvent_final hok (Table.get?_of_mem hd) hfinal, ?_, ?_, ?_, ?_⟩
      · exact hw.orders (by decide) (by decide) (by decide)
      · exact hw.stock (by decide)
      · exact hw.payments (by decide) (by decide)
      · exact hw.refunds (by decide) (by decide)
    · rw [hsame]
      exact ⟨fun d hd _ => Table.get?_of_mem hd, rfl, rfl, rfl, rfl⟩

/-- A word of the provider about the dispute `dp_1` of the payment `pi_1`. -/
def disputeReport (word : String) (newId : Id) : DisputeReport where
  event := { eventId := "evt_" ++ word, eventType := .dispute "updated", providerPaymentId := "pi_1"
             providerDisputeId := some "dp_1", disputeStatus := some word }
  newId := newId
  now := 0

/-- The loss arrives twice and before the news that the dispute was opened. -/
theorem dispute_events_settle_lost : ∃ tr s, Run smallSettings smallShop tr s ∧
    ∃ d, (commitAll applyDisputeReport s.db [disputeReport "lost" 1, disputeReport "needs_response" 2,
      disputeReport "lost" 1]).byProviderDisputeId .stripe "dp_1" = some d ∧ d.status = .lost := by
  obtain ⟨tr, s, hrun, hp, hdisputes, hrecords⟩ := exists_exec (step smallSettings) smallShop
    (P := fun _ s => (∃ p ∈ s.db.payments.rows, p.provider = .stripe ∧ p.providerPaymentId = "pi_1") ∧
      s.db.disputes.rows.length = 0 ∧ s.db.reconciliations.rows.length = 0) paidOrder (by decide)
  obtain ⟨p, hp, hprovider, hppid⟩ := hp
  have hnone : ∀ k, s.db.reconciliations.get? k = none := by
    intro k
    simp [Table.get?, List.length_eq_zero_iff.mp hrecords]
  have habout : ∀ word newId, (disputeReport word newId).About s.db p "dp_1" := by
    intro word newId
    refine ⟨hprovider.symm, hppid.symm, by simp [disputeReport], rfl, ?_, ?_, ?_⟩
    · intro code hcode
      cases hcode
    · simp [Table.get?, List.length_eq_zero_iff.mp hdisputes]
    · simp [Db.filed, hnone]
  have hxs : ∀ x ∈ [disputeReport "needs_response" 2, disputeReport "lost" 1],
      x.About s.db p "dp_1" := by
    simp [habout]
  have hclosed : ∀ x ∈ [disputeReport "needs_response" 2, disputeReport "lost" 1],
      x.status.final = true → x.status = .lost := by
    decide
  have hys : ∀ x, x ∈ [disputeReport "lost" 1, disputeReport "needs_response" 2, disputeReport "lost" 1] ↔
      x ∈ [disputeReport "needs_response" 2, disputeReport "lost" 1] := by
    simp [or_comm]
  have hnew : s.db.byProviderDisputeId p.provider "dp_1" = none := by
    simp [Db.byProviderDisputeId, List.length_eq_zero_iff.mp hdisputes]
  have hsettle := dispute_events_settle smallShop_initial hrun hp hnew hxs hclosed hys
  rw [hprovider] at hsettle
  exact ⟨tr, s, hrun, hsettle.1 ⟨disputeReport "lost" 1, by simp, by decide⟩⟩

end NovaCart
