import NovaCart.Jobs

/-! Refunds and the end of their jobs.

    Two counters run beside each other: the job's attempts, counted at the claim, and the refund's, counted
    before the provider is asked. The job ends at `jobs_default_max_attempts`, the refund is given up at
    `refund_max_attempts`. `Attended` is what holds as long as the job's last attempt gets through: a job
    that has ended leaves no refund merely requested. -/

namespace NovaCart

open Schemes

variable {cfg : Settings} {maxAttempts : Nat} {s s' s₀ : Shop} {l : JobLabel}
variable {tr : List (Taken Shop JobLabel)} {db db' : Db}

/-! ### Refunds that were handled -/

/-- The refund is there, and no longer merely requested. -/
def Db.handled (db : Db) (id : Id) : Prop := ∃ r, db.refunds.get? id = some r ∧ r.status ≠ .requested

theorem RefundMove.unrequested {s : Sys} {l : Label} {r r' : Refund} (h : RefundMove cfg s l r r')
    (hr : r.status ≠ .requested) : r'.status ≠ .requested := by
  cases h with
  | same h => exact h ▸ hr
  | attempted _ hreq _ _ => exact absurd hreq hr
  | blocked _ hreq _ _ _ => exact absurd hreq hr
  | uncertain _ _ _ hreq _ _ => exact absurd hreq hr
  | saved _ hstatus _ _ h =>
    rw [h]
    rcases hstatus with hnone | ⟨_, ⟨hc, _⟩ | ⟨_, hreq⟩⟩
    · simpa [Refund.patch, hnone] using hr
    · simp [Refund.patch, hc]
    · exact absurd hreq hr
  | confirmed _ _ _ h => simp [h, Refund.patch]

theorem step_handled {s s' : Sys} {l : Label} (h : step cfg s l = some s') {id : Id}
    (hid : s.db.handled id) : s'.db.handled id := by
  obtain ⟨r, hr, hst⟩ := hid
  obtain ⟨r', hr', hmove⟩ := step_refund_kept h (Table.mem_of_get? hr)
  rw [show r.id = id from Table.key_of_get? hr] at hr'
  exact ⟨r', hr', hmove.unrequested hst⟩

/-- An answer that is recorded leaves the refund handled. -/
theorem finishRefund_handled {id : Id} {report : RefundReport} {now : Time} {r : Refund}
    (hr : db.refunds.get? id = some r) (h : finishRefund db id report now = .ok db') : db'.handled id := by
  rw [finishRefund_eq_tell] at h
  cases hopen : r.status.final with
  | true =>
    rw [tell_final hr hopen] at h
    refine ⟨_, get?_saved hr h, ?_⟩
    intro hreq
    rw [show r.status = .requested from hreq] at hopen
    cases hopen
  | false =>
    rcases ending_cases report.status with hk | hk
    · rw [tell_soft hr hopen hk] at h
      exact ⟨_, get?_saved hr h, (softPatch_spec report hopen).2.2⟩
    · obtain ⟨r', hr', hfinal, _⟩ := tell_ends hr hopen (by rcases hk with hk | hk <;> simp [hk]) h
      refine ⟨r', hr', ?_⟩
      intro hreq
      rw [hreq] at hfinal
      cases hfinal

theorem write_handled {id : Id} {c : RefundPatch} {status : RefundStatus}
    (h : db.write (.refund id c) = .ok db') (hc : c.status = some status) (hne : status ≠ .requested) :
    db'.handled id := by
  obtain ⟨old, hold, _, _, _, rfl⟩ := updateRefund_ok h
  have hid : old.id = id := Table.key_of_get? hold
  have hget : db.refunds.get? (Keyed.key (old.patch c)) = some old := by
    rw [show Keyed.key (old.patch c) = old.id from rfl, hid]
    exact hold
  refine ⟨old.patch c, ?_, by simpa [Refund.patch, hc] using hne⟩
  rw [← hid]
  exact Table.get?_replace_self hget

theorem beginRefundAttempt_handled {id : Id} {r : Refund} (hr : db.refunds.get? id = some r)
    (h : beginRefundAttempt db id = .ok (db', none)) : db'.handled id := by
  rcases beginRefundAttempt_ok h with ⟨rfl, _, hreq⟩ | ⟨refund, payment, hrefund, _, _, hexit⟩
  · exact ⟨r, hr, hreq r hr⟩
  · have hid : refund.id = id := Table.key_of_get? hrefund
    rcases hexit with ⟨_, _, _, db₁, hwrite, rfl⟩ | ⟨_, _, _, ha, _⟩
    · have hdone := write_handled hwrite rfl (by decide)
      rw [hid] at hdone
      unfold Db.handled
      simp only [reconcile, record_refunds]
      exact hdone
    · cases ha

/-- An error that is recorded leaves the refund handled, unless it is to be tried again. -/
theorem recordRefundAttemptFailed_handled {id : Id} {message : String} {r : Refund}
    (hr : db.refunds.get? id = some r) (hretry : Shop.retries cfg db id = false)
    (h : recordRefundAttemptFailed cfg db id message = .ok db') : db'.handled id := by
  rcases recordRefundAttemptFailed_ok h with ⟨rfl, hless⟩ | ⟨refund, db₁, hrefund, _, _, hwrite, rfl⟩
  · refine ⟨r, hr, fun hreq => ?_⟩
    have hlt := hless r hr hreq
    simp [Shop.retries, hr, hreq, hlt] at hretry
  · have hid : refund.id = id := Table.key_of_get? hrefund
    have hdone := write_handled hwrite rfl (by decide)
    rw [hid] at hdone
    unfold Db.handled
    simp only [reconcile, record_refunds]
    exact hdone

/-! ### What a step can be -/

theorem attempt?_some {w : Worker} {pid : Id} {a : RefundAttempt} (h : s.attempt? w = some (pid, a)) :
    w.phase = .calling pid ∧ s.sys.proc? pid = some (.refund a) ∧ a.refundId = w.refundId := by
  unfold Shop.attempt? at h
  split at h
  · rename_i hphase
    split at h
    · rename_i hproc
      split at h
      · rename_i hid
        cases h
        exact ⟨hphase, hproc, hid⟩
      · cases h
    · cases h
  · cases h

/-- Every step of the store with its workers, with what it relied on. -/
inductive JobMove (cfg : Settings) (maxAttempts : Nat) (s : Shop) : JobLabel → Shop → Prop
  | store {l : Label} {sys : Sys} (hstep : step cfg s.sys l = some sys) :
      JobMove cfg maxAttempts s (.store l) { s with
        sys := sys, jobs := (Shop.requested s.sys.db sys.db).foldl (Shop.enqueue maxAttempts) s.jobs }
  | claimed {wid refundId : Id} {j : BackgroundJob} {workers : Table Worker}
      (hj : s.jobs.get? refundId = some j) (hless : j.attempts < j.maxAttempts)
      (hopen : j.status.terminal = false)
      (hins : s.workers.insert? ⟨wid, refundId, j.attempts + 1, j.maxAttempts, .claimed⟩ = some workers) :
      JobMove cfg maxAttempts s (.claim wid refundId) { s with
        jobs := s.jobs.replace { j with status := .running, attempts := j.attempts + 1 }
        workers := workers }
  | called {wid pid : Id} {w : Worker} {sys : Sys} (hw : s.workers.get? wid = some w)
      (hphase : w.phase = .claimed) (hstep : step cfg s.sys (.refundBegin pid w.refundId) = some sys) :
      JobMove cfg maxAttempts s (.begin_ wid pid) (s.goOn w (.calling pid) sys)
  | skipped {wid pid : Id} {w : Worker} {sys : Sys} (hw : s.workers.get? wid = some w)
      (hphase : w.phase = .claimed) (hstep : step cfg s.sys (.refundBegin pid w.refundId) = some sys)
      (hrun : beginRefundAttempt s.sys.db w.refundId = .ok (sys.db, none)) :
      JobMove cfg maxAttempts s (.begin_ wid pid) (s.goOn w .returned sys)
  | answered {wid pid : Id} {w : Worker} {a : RefundAttempt} {report : RefundReport} {now : Time}
      {sys : Sys} (hw : s.workers.get? wid = some w) (ha : s.attempt? w = some (pid, a))
      (hstep : step cfg s.sys (.refundAnswer pid report now) = some sys)
      (hrun : finishRefund s.sys.db w.refundId report now = .ok sys.db) :
      JobMove cfg maxAttempts s (.answer wid report now) (s.goOn w .returned sys)
  | errored {wid pid : Id} {w : Worker} {a : RefundAttempt} {message : String} {sys : Sys}
      (hw : s.workers.get? wid = some w) (ha : s.attempt? w = some (pid, a))
      (hstep : step cfg s.sys (.refundError pid message) = some sys)
      (hrun : recordRefundAttemptFailed cfg s.sys.db w.refundId message = .ok sys.db) :
      JobMove cfg maxAttempts s (.providerError wid message)
        (s.goOn w (if Shop.retries cfg s.sys.db w.refundId then .raised else .returned) sys)
  | raised {wid : Id} {w : Worker} (hw : s.workers.get? wid = some w) (hphase : w.phase ≠ .raised) :
      JobMove cfg maxAttempts s (.raise wid) (s.goOn w .raised (s.hangUp cfg w))
  | crashed {wid : Id} {w : Worker} (hw : s.workers.get? wid = some w) :
      JobMove cfg maxAttempts s (.crash wid) { s with
        sys := s.hangUp cfg w, workers := s.workers.erase wid }
  | completed {wid : Id} {w : Worker} (hw : s.workers.get? wid = some w) (hphase : w.phase = .returned) :
      JobMove cfg maxAttempts s (.complete wid) (s.settle w .succeeded)
  | failed {wid : Id} {w : Worker} (hw : s.workers.get? wid = some w) (hphase : w.phase = .raised) :
      JobMove cfg maxAttempts s (.fail wid) (s.settle w (if w.last then .failed else .pending))
  | exhausted {refundId : Id} {j : BackgroundJob} (hj : s.jobs.get? refundId = some j)
      (hrunning : j.status = .running) (hlast : j.maxAttempts ≤ j.attempts) :
      JobMove cfg maxAttempts s (.exhaust refundId) { s with
        jobs := s.jobs.replace { j with status := .failed } }

/-- The step of the store that begins an attempt leaves what the transaction left. -/
theorem refundBegin_db {s s' : Sys} {pid id : Id} {a : Option RefundAttempt}
    (h : step cfg s (.refundBegin pid id) = some s') (hrun : beginRefundAttempt s.db id = .ok (db', a)) :
    s'.db = db' := by
  simp only [step, hrun] at h
  cases a with
  | none =>
    cases h
    rfl
  | some a => exact spawn_db h

theorem jobStep_move (h : jobStep cfg maxAttempts s l = some s') : JobMove cfg maxAttempts s l s' := by
  cases l with
  | store l =>
    simp only [jobStep] at h
    split at h
    · cases h
    · obtain ⟨sys, hstep, rfl⟩ := Option.map_eq_some_iff.mp h
      exact .store hstep
  | claim wid refundId =>
    simp only [jobStep, Shop.claim] at h
    split at h
    · rename_i j hj
      split at h
      · rename_i hc
        obtain ⟨workers, hins, rfl⟩ := Option.map_eq_some_iff.mp h
        refine .claimed hj hc.1 ?_ hins
        rcases hc.2 with hst | hst <;> rw [hst] <;> rfl
      · cases h
    · cases h
  | begin_ wid pid =>
    simp only [jobStep] at h
    split at h
    · rename_i w hw
      split at h
      · rename_i hphase
        unfold Shop.begin_ at h
        split at h
        · obtain ⟨sys, hstep, rfl⟩ := Option.map_eq_some_iff.mp h
          exact .called hw hphase hstep
        · rename_i db₁ hrun
          obtain ⟨sys, hstep, rfl⟩ := Option.map_eq_some_iff.mp h
          rw [← refundBegin_db hstep hrun] at hrun
          exact .skipped hw hphase hstep hrun
        · cases h
      · cases h
    · cases h
  | answer wid report now =>
    simp only [jobStep] at h
    split at h
    · rename_i w hw
      split at h
      · rename_i pid a ha
        obtain ⟨_, hproc, hid⟩ := attempt?_some ha
        split at h
        · rename_i db₁ hrun
          obtain ⟨sys, hstep, rfl⟩ := Option.map_eq_some_iff.mp h
          have hdb : sys.db = db₁ := by
            simp only [step, hproc, hrun, Option.some.injEq] at hstep
            rw [← hstep]
            rfl
          rw [hid, ← hdb] at hrun
          exact .answered hw ha hstep hrun
        · cases h
      · cases h
    · cases h
  | providerError wid message =>
    simp only [jobStep] at h
    split at h
    · rename_i w hw
      split at h
      · rename_i pid a ha
        obtain ⟨_, hproc, hid⟩ := attempt?_some ha
        split at h
        · rename_i db₁ hrun
          obtain ⟨sys, hstep, rfl⟩ := Option.map_eq_some_iff.mp h
          have hdb : sys.db = db₁ := by
            simp only [step, hproc, hrun, Option.some.injEq] at hstep
            rw [← hstep]
            rfl
          rw [hid, ← hdb] at hrun
          rw [hid]
          exact .errored hw ha hstep hrun
        · cases h
      · cases h
    · cases h
  | raise wid =>
    simp only [jobStep] at h
    split at h
    · rename_i w hw
      split at h
      · rename_i hphase
        cases h
        exact .raised hw hphase
      · cases h
    · cases h
  | crash wid =>
    simp only [jobStep] at h
    split at h
    · rename_i w hw
      cases h
      exact .crashed hw
    · cases h
  | complete wid =>
    simp only [jobStep] at h
    split at h
    · rename_i w hw
      split at h
      · rename_i hphase
        cases h
        exact .completed hw hphase
      · cases h
    · cases h
  | fail wid =>
    simp only [jobStep] at h
    split at h
    · rename_i w hw
      split at h
      · rename_i hphase
        cases h
        exact .failed hw hphase
      · cases h
    · cases h
  | exhaust refundId =>
    simp only [jobStep, Shop.exhaust] at h
    split at h
    · rename_i j hj
      split at h
      · rename_i hc
        cases h
        exact .exhausted hj hc.1 hc.2
      · cases h
    · cases h

/-! ### The store below the workers -/

theorem hangUp_sys (cfg : Settings) (s : Shop) (w : Worker) :
    s.hangUp cfg w = s.sys ∨ ∃ l, step cfg s.sys l = some (s.hangUp cfg w) := by
  unfold Shop.hangUp
  split
  · rename_i pid _
    cases hstep : step cfg s.sys (.crash pid) with
    | none => exact .inl rfl
    | some sys => exact .inr ⟨_, hstep⟩
  · exact .inl rfl

theorem settle_sys (s : Shop) (w : Worker) (status : JobStatus) : (s.settle w status).sys = s.sys := by
  unfold Shop.settle
  split
  · split
    · rfl
    · rfl
  · rfl

/-- What a step with workers does to the store is a step of the store, or nothing. -/
theorem JobMove.sys (h : JobMove cfg maxAttempts s l s') :
    s'.sys = s.sys ∨ ∃ l', step cfg s.sys l' = some s'.sys := by
  cases h with
  | store hstep => exact .inr ⟨_, hstep⟩
  | claimed _ _ _ _ => exact .inl rfl
  | called _ _ hstep => exact .inr ⟨_, hstep⟩
  | skipped _ _ hstep _ => exact .inr ⟨_, hstep⟩
  | answered _ _ hstep _ => exact .inr ⟨_, hstep⟩
  | errored _ _ hstep _ => exact .inr ⟨_, hstep⟩
  | raised _ _ => exact hangUp_sys cfg s _
  | crashed _ => exact hangUp_sys cfg s _
  | completed _ _ => exact .inl (settle_sys ..)
  | failed _ _ => exact .inl (settle_sys ..)
  | exhausted _ _ _ => exact .inl rfl

/-- A run with workers is, below them, a run of the store. -/
theorem JobRun.sys (h : JobRun cfg maxAttempts s₀ tr s) : ∃ tr', Run cfg s₀.sys tr' s.sys := by
  induction h with
  | nil => exact ⟨[], .nil⟩
  | cons _ hs ih =>
    obtain ⟨tr', hrun⟩ := ih
    rcases (jobStep_move hs).sys with hsame | ⟨l', hstep⟩
    · rw [hsame]
      exact ⟨tr', hrun⟩
    · exact ⟨_, .cons hrun hstep⟩

/-! ### Jobs and their refunds -/

/-- The last attempt of a job is lost: its worker dies or is stopped before the outcome is recorded, its
    lock expires while it is at work, or the provider fails and the refund is to be tried again. -/
def abandons (cfg : Settings) (s : Shop) : JobLabel → Bool
  | .raise wid | .crash wid => (s.workers.get? wid).any fun w => w.working && decide w.last
  | .providerError wid _ =>
    (s.workers.get? wid).any fun w => decide w.last && Shop.retries cfg s.sys.db w.refundId
  | .exhaust refundId => s.workers.rows.any fun w => w.refundId = refundId ∧ w.working ∧ w.last
  | _ => false

/-- How jobs, workers and refunds stand to each other as long as no last attempt is lost. -/
structure Attended (s : Shop) : Prop where
  there : ∀ j ∈ s.jobs.rows, ∃ r, s.sys.db.refunds.get? j.refundId = some r
  done : ∀ j ∈ s.jobs.rows, j.status.terminal = true → s.sys.db.handled j.refundId
  claims : ∀ w ∈ s.workers.rows, ∃ j, s.jobs.get? w.refundId = some j ∧ w.maxAttempts = j.maxAttempts
  returned : ∀ w ∈ s.workers.rows, w.phase = .returned → s.sys.db.handled w.refundId
  raised : ∀ w ∈ s.workers.rows, w.phase = .raised → w.last → s.sys.db.handled w.refundId
  last : ∀ j ∈ s.jobs.rows, j.status = .running → j.maxAttempts ≤ j.attempts →
    s.sys.db.handled j.refundId ∨
      ∃ w ∈ s.workers.rows, w.refundId = j.refundId ∧ w.attempts = j.attempts ∧ w.working = true

/-- What the workers rely on survives every step of the store. -/
structure Onward (db db' : Db) : Prop where
  there : ∀ id, (∃ r, db.refunds.get? id = some r) → ∃ r, db'.refunds.get? id = some r
  handled : ∀ id, db.handled id → db'.handled id

theorem Onward.of_sys {a b : Sys} (h : b = a ∨ ∃ l, step cfg a l = some b) : Onward a.db b.db := by
  rcases h with rfl | ⟨l, hstep⟩
  · exact ⟨fun _ h => h, fun _ h => h⟩
  · refine ⟨fun id ⟨r, hr⟩ => ?_, fun id hid => step_handled hstep hid⟩
    obtain ⟨r', hr', _⟩ := step_refund_kept hstep (Table.mem_of_get? hr)
    rw [show r.id = id from Table.key_of_get? hr] at hr'
    exact ⟨r', hr'⟩

/-- A worker at work on the last attempt knows that it is the last. -/
theorem Attended.isLast (ht : Attended s) {w : Worker} {j : BackgroundJob} (hw : w ∈ s.workers.rows)
    (hj : j ∈ s.jobs.rows) (hid : w.refundId = j.refundId) (hcount : w.attempts = j.attempts)
    (hlast : j.maxAttempts ≤ j.attempts) : w.last := by
  obtain ⟨j', hj', hmax⟩ := ht.claims w hw
  rw [hid, show s.jobs.get? j.refundId = some j from Table.get?_of_mem hj] at hj'
  cases hj'
  unfold Worker.last
  omega

theorem Attended.refund_there (ht : Attended s) {w : Worker} {wid : Id} (hw : s.workers.get? wid = some w) :
    ∃ r, s.sys.db.refunds.get? w.refundId = some r := by
  obtain ⟨j, hj, _⟩ := ht.claims w (Table.mem_of_get? hw)
  have hid : j.refundId = w.refundId := Table.key_of_get? hj
  rw [← hid]
  exact ht.there j (Table.mem_of_get? hj)

/-- A worker goes on: it is still at work, or another attempt is left, or the refund was handled. -/
theorem Attended.goOn (ht : Attended s) {w : Worker} {wid : Id} (hw : s.workers.get? wid = some w)
    {phase : Phase} {sys : Sys} (hon : Onward s.sys.db sys.db)
    (hcan : (∃ pid, phase = .calling pid) ∨ (phase = .raised ∧ ¬w.last) ∨ sys.db.handled w.refundId) :
    Attended (s.goOn w phase sys) := by
  have hmemw := Table.mem_of_get? hw
  have hget : s.workers.get? (Keyed.key ({ w with phase := phase } : Worker)) = some w :=
    Table.get?_of_mem hmemw
  have hmem : ∀ w' ∈ (s.goOn w phase sys).workers.rows,
      w' = { w with phase := phase } ∨ w' ∈ s.workers.rows := by
    intro w' hw'
    rcases (Table.mem_replace hget).mp hw' with rfl | ⟨hold, _⟩
    · exact .inl rfl
    · exact .inr hold
  refine ⟨fun j hj => hon.there _ (ht.there j hj), fun j hj hdone => hon.handled _ (ht.done j hj hdone),
    fun w' hw' => ?_, fun w' hw' hret => ?_, fun w' hw' hraise hlast => ?_, fun j hj hrun hlast => ?_⟩
  · rcases hmem w' hw' with rfl | hold
    · exact ht.claims w hmemw
    · exact ht.claims w' hold
  · rcases hmem w' hw' with rfl | hold
    · rcases hcan with ⟨pid, hcall⟩ | ⟨hraised, _⟩ | hdone
      · rw [show phase = .returned from hret] at hcall
        cases hcall
      · rw [show phase = .returned from hret] at hraised
        cases hraised
      · exact hdone
    · exact hon.handled _ (ht.returned w' hold hret)
  · rcases hmem w' hw' with rfl | hold
    · rcases hcan with ⟨pid, hcall⟩ | ⟨_, hmore⟩ | hdone
      · rw [show phase = .raised from hraise] at hcall
        cases hcall
      · exact absurd hlast hmore
      · exact hdone
    · exact hon.handled _ (ht.raised w' hold hraise hlast)
  · rcases ht.last j hj hrun hlast with hdone | ⟨w₀, hw₀, hid, hcount, hwork⟩
    · exact .inl (hon.handled _ hdone)
    by_cases hsame : w₀.wid = w.wid
    · obtain rfl : w₀ = w := s.workers.eq_of_key_eq hw₀ hmemw hsame
      rcases hcan with ⟨pid, rfl⟩ | ⟨_, hmore⟩ | hdone
      · exact .inr ⟨_, (Table.mem_replace hget).mpr (.inl rfl), hid, hcount, rfl⟩
      · exact absurd (ht.isLast hw₀ hj hid hcount hlast) hmore
      · rw [← hid]
        exact .inl hdone
    · exact .inr ⟨w₀, (Table.mem_replace hget).mpr (.inr ⟨hw₀, hsame⟩), hid, hcount, hwork⟩

/-- A worker leaves the queue with a verdict on its job: a final one only when the refund was handled. -/
theorem Attended.settle (ht : Attended s) {w : Worker} {wid : Id} (hw : s.workers.get? wid = some w)
    (hidle : w.working = false) {status : JobStatus} (hrun : status ≠ .running)
    (hend : status.terminal = true → s.sys.db.handled w.refundId) : Attended (s.settle w status) := by
  have hmemw := Table.mem_of_get? hw
  -- the worker that leaves was not at work
  have hgone : ∀ {j : BackgroundJob}, (∃ w₀ ∈ s.workers.rows, w₀.refundId = j.refundId ∧
      w₀.attempts = j.attempts ∧ w₀.working = true) →
      ∃ w₀ ∈ (s.workers.erase w.wid).rows, w₀.refundId = j.refundId ∧ w₀.attempts = j.attempts ∧
        w₀.working = true := by
    rintro j ⟨w₀, hw₀, hid, hcount, hwork⟩
    refine ⟨w₀, Table.mem_erase.mpr ⟨hw₀, fun hsame => ?_⟩, hid, hcount, hwork⟩
    obtain rfl : w₀ = w := s.workers.eq_of_key_eq hw₀ hmemw hsame
    rw [hidle] at hwork
    cases hwork
  have hleft : Attended { s with workers := s.workers.erase w.wid } :=
    { there := ht.there
      done := ht.done
      claims := fun w' hw' => ht.claims w' (Table.mem_erase.mp hw').1
      returned := fun w' hw' => ht.returned w' (Table.mem_erase.mp hw').1
      raised := fun w' hw' => ht.raised w' (Table.mem_erase.mp hw').1
      last := fun j hj hrun hlast => (ht.last j hj hrun hlast).imp id hgone }
  unfold Shop.settle
  split
  · rename_i j hj
    split
    · have hjid : j.refundId = w.refundId := Table.key_of_get? hj
      have hget : s.jobs.get? (Keyed.key ({ j with status := status } : BackgroundJob)) = some j :=
        Table.get?_of_mem (Table.mem_of_get? hj)
      have hmem : ∀ j' ∈ (s.jobs.replace { j with status := status }).rows,
          j' = { j with status := status } ∨ j' ∈ s.jobs.rows := by
        intro j' hj'
        rcases (Table.mem_replace hget).mp hj' with rfl | ⟨hold, _⟩
        · exact .inl rfl
        · exact .inr hold
      refine ⟨fun j' hj' => ?_, fun j' hj' hdone => ?_, fun w' hw' => ?_, hleft.returned, hleft.raised,
        fun j' hj' hrun' hlast => ?_⟩
      · rcases hmem j' hj' with rfl | hold
        · exact ht.there j (Table.mem_of_get? hj)
        · exact ht.there j' hold
      · rcases hmem j' hj' with rfl | hold
        · rw [show ({ j with status := status } : BackgroundJob).refundId = w.refundId from hjid]
          exact hend hdone
        · exact ht.done j' hold hdone
      · obtain ⟨j', hj', hmax⟩ := hleft.claims w' hw'
        by_cases hsame : w'.refundId = w.refundId
        · rw [hsame] at hj' ⊢
          obtain rfl : j = j' := Option.some.inj (hj.symm.trans hj')
          refine ⟨{ j with status := status }, ?_, hmax⟩
          rw [← hjid]
          exact Table.get?_replace_self hget
        · have hne : w'.refundId ≠ Keyed.key ({ j with status := status } : BackgroundJob) :=
            fun heq => hsame (heq.trans hjid)
          exact ⟨j', (Table.get?_replace_of_ne hne).trans hj', hmax⟩
      · rcases hmem j' hj' with rfl | hold
        · exact absurd hrun' hrun
        · exact hleft.last j' hold hrun' hlast
    · exact hleft
  · exact hleft

/-! ### Queueing -/

theorem mem_enqueue {jobs : Table BackgroundJob} {id : Id} {j : BackgroundJob}
    (hj : j ∈ (Shop.enqueue maxAttempts jobs id).rows) :
    j ∈ jobs.rows ∨ (j.refundId = id ∧ j.status = .pending) := by
  unfold Shop.enqueue at hj
  cases hins : jobs.insert? ⟨id, .pending, 0, maxAttempts⟩ with
  | none =>
    rw [hins] at hj
    exact .inl hj
  | some t =>
    rw [hins] at hj
    rcases (Table.mem_insert? hins).mp hj with rfl | hold
    · exact .inr ⟨rfl, rfl⟩
    · exact .inl hold

theorem get?_enqueue {jobs : Table BackgroundJob} {id k : Id} {j : BackgroundJob}
    (hj : jobs.get? k = some j) : (Shop.enqueue maxAttempts jobs id).get? k = some j := by
  unfold Shop.enqueue
  cases hins : jobs.insert? ⟨id, .pending, 0, maxAttempts⟩ with
  | none => exact hj
  | some t => exact Table.get?_insert?_of_some hins hj

theorem enqueue_there (maxAttempts : Nat) (jobs : Table BackgroundJob) (id : Id) :
    ∃ j, (Shop.enqueue maxAttempts jobs id).get? id = some j := by
  unfold Shop.enqueue
  cases hins : jobs.insert? ⟨id, .pending, 0, maxAttempts⟩ with
  | none =>
    have hthere := Table.insert?_eq_none.mp hins
    exact Option.ne_none_iff_exists'.mp hthere
  | some t => exact ⟨_, (Table.get?_insert? hins).trans (if_pos rfl)⟩

theorem mem_enqueued {ids : List Id} {jobs : Table BackgroundJob} {j : BackgroundJob}
    (hj : j ∈ (ids.foldl (Shop.enqueue maxAttempts) jobs).rows) :
    j ∈ jobs.rows ∨ (j.refundId ∈ ids ∧ j.status = .pending) := by
  induction ids generalizing jobs with
  | nil => exact .inl hj
  | cons id ids ih =>
    rcases ih hj with hj | ⟨hid, hst⟩
    · rcases mem_enqueue hj with hj | ⟨hid, hst⟩
      · exact .inl hj
      · exact .inr ⟨by simp [hid], hst⟩
    · exact .inr ⟨List.mem_cons_of_mem _ hid, hst⟩

theorem get?_enqueued {ids : List Id} {jobs : Table BackgroundJob} {k : Id} {j : BackgroundJob}
    (hj : jobs.get? k = some j) : (ids.foldl (Shop.enqueue maxAttempts) jobs).get? k = some j := by
  induction ids generalizing jobs with
  | nil => exact hj
  | cons id ids ih => exact ih (get?_enqueue hj)

theorem enqueued_there {ids : List Id} {jobs : Table BackgroundJob} {id : Id} (hid : id ∈ ids) :
    ∃ j, (ids.foldl (Shop.enqueue maxAttempts) jobs).get? id = some j := by
  induction ids generalizing jobs with
  | nil => cases hid
  | cons x ids ih =>
    rcases List.mem_cons.mp hid with rfl | hid
    · obtain ⟨j, hj⟩ := enqueue_there maxAttempts jobs id
      have hfold : (ids.foldl (Shop.enqueue maxAttempts) (Shop.enqueue maxAttempts jobs id)).get? id
          = some j := get?_enqueued hj
      exact ⟨j, hfold⟩
    · exact ih hid

/-- A job changes: it is still there, and every other one is as it was. -/
theorem Attended.claims_replace (ht : Attended s) {j j' : BackgroundJob} (hj : j ∈ s.jobs.rows)
    (hid : j'.refundId = j.refundId) (hmax : j'.maxAttempts = j.maxAttempts) :
    ∀ w ∈ s.workers.rows, ∃ i, (s.jobs.replace j').get? w.refundId = some i ∧
      w.maxAttempts = i.maxAttempts := by
  intro w hw
  obtain ⟨i, hi, hwmax⟩ := ht.claims w hw
  have hget : s.jobs.get? (Keyed.key j') = some j := by
    rw [show Keyed.key j' = j.refundId from hid]
    exact Table.get?_of_mem hj
  rw [Table.get?_replace]
  split
  · rename_i hkey
    rw [hkey, hget] at hi
    cases hi
    exact ⟨j', by rw [hkey, hget]; rfl, hwmax.trans hmax.symm⟩
  · exact ⟨i, hi, hwmax⟩

theorem mem_changed {jobs : Table BackgroundJob} {j j' i : BackgroundJob} (hj : j ∈ jobs.rows)
    (hid : j'.refundId = j.refundId) (hi : i ∈ (jobs.replace j').rows) : i = j' ∨ i ∈ jobs.rows := by
  have hget : jobs.get? (Keyed.key j') = some j := by
    rw [show Keyed.key j' = j.refundId from hid]
    exact Table.get?_of_mem hj
  rcases (Table.mem_replace hget).mp hi with rfl | ⟨hold, _⟩
  · exact .inl rfl
  · exact .inr hold

theorem step_attended (h : jobStep cfg maxAttempts s l = some s') (ht : Attended s)
    (hkept : abandons cfg s l = false) : Attended s' := by
  have hmove := jobStep_move h
  have hon := Onward.of_sys hmove.sys
  cases hmove with
  | store hstep =>
    rename_i l sys
    refine ⟨fun j hj => ?_, fun j hj hdone => ?_, fun w hw => ?_,
      fun w hw hret => hon.handled _ (ht.returned w hw hret),
      fun w hw hraise hlast => hon.handled _ (ht.raised w hw hraise hlast), fun j hj hrun hlast => ?_⟩
    · rcases mem_enqueued hj with hold | ⟨hid, _⟩
      · exact hon.there _ (ht.there j hold)
      · obtain ⟨r, hr, hrid⟩ := List.mem_map.mp hid
        rw [← hrid]
        exact ⟨r, Table.get?_of_mem (List.mem_filter.mp hr).1⟩
    · rcases mem_enqueued hj with hold | ⟨_, hpending⟩
      · exact hon.handled _ (ht.done j hold hdone)
      · rw [hpending] at hdone
        cases hdone
    · obtain ⟨j, hj, hmax⟩ := ht.claims w hw
      exact ⟨j, get?_enqueued hj, hmax⟩
    · rcases mem_enqueued hj with hold | ⟨_, hpending⟩
      · exact (ht.last j hold hrun hlast).imp (hon.handled _) id
      · rw [hpending] at hrun
        cases hrun
  | claimed hj hless hopen hins =>
    rename_i wid refundId j workers
    have hmemj := Table.mem_of_get? hj
    have hjid : j.refundId = refundId := Table.key_of_get? hj
    have hmem : ∀ i ∈ (s.jobs.replace { j with status := .running, attempts := j.attempts + 1 }).rows,
        i = { j with status := .running, attempts := j.attempts + 1 } ∨ i ∈ s.jobs.rows :=
      fun i hi => mem_changed hmemj rfl hi
    have hclaims : ∀ w ∈ s.workers.rows, ∃ i, (s.jobs.replace
        { j with status := .running, attempts := j.attempts + 1 }).get? w.refundId = some i ∧
          w.maxAttempts = i.maxAttempts := ht.claims_replace hmemj rfl rfl
    refine ⟨fun i hi => ?_, fun i hi hdone => ?_, fun w hw => ?_, fun w hw hret => ?_,
      fun w hw hraise hlast => ?_, fun i hi hrun hlast => ?_⟩
    · rcases hmem i hi with rfl | hold
      · exact ht.there j hmemj
      · exact ht.there i hold
    · rcases hmem i hi with rfl | hold
      · cases hdone
      · exact ht.done i hold hdone
    · rcases (Table.mem_insert? hins).mp hw with rfl | hold
      · refine ⟨{ j with status := .running, attempts := j.attempts + 1 }, ?_, rfl⟩
        have hget : s.jobs.get? (Keyed.key
            ({ j with status := .running, attempts := j.attempts + 1 } : BackgroundJob)) = some j :=
          Table.get?_of_mem hmemj
        rw [← hjid]
        exact Table.get?_replace_self hget
      · exact hclaims w hold
    · rcases (Table.mem_insert? hins).mp hw with rfl | hold
      · cases hret
      · exact ht.returned w hold hret
    · rcases (Table.mem_insert? hins).mp hw with rfl | hold
      · cases hraise
      · exact ht.raised w hold hraise hlast
    · rcases hmem i hi with rfl | hold
      · exact .inr ⟨_, (Table.mem_insert? hins).mpr (.inl rfl), hjid.symm, rfl, rfl⟩
      · refine (ht.last i hold hrun hlast).imp id ?_
        rintro ⟨w, hw, hrest⟩
        exact ⟨w, (Table.mem_insert? hins).mpr (.inr hw), hrest⟩
  | called hw hphase hstep => exact ht.goOn hw hon (.inl ⟨_, rfl⟩)
  | skipped hw hphase hstep hrun =>
    obtain ⟨r, hr⟩ := ht.refund_there hw
    exact ht.goOn hw hon (.inr (.inr (beginRefundAttempt_handled hr hrun)))
  | answered hw ha hstep hrun =>
    obtain ⟨r, hr⟩ := ht.refund_there hw
    exact ht.goOn hw hon (.inr (.inr (finishRefund_handled hr hrun)))
  | errored hw ha hstep hrun =>
    rename_i wid pid w a message sys
    obtain ⟨r, hr⟩ := ht.refund_there hw
    refine ht.goOn hw hon (.inr ?_)
    cases hretry : Shop.retries cfg s.sys.db w.refundId with
    | false => exact .inr (recordRefundAttemptFailed_handled hr hretry hrun)
    | true =>
      refine .inl ⟨by simp, fun hlast => ?_⟩
      simp [abandons, hw, hlast, hretry] at hkept
  | raised hw hphase =>
    rename_i wid w
    refine ht.goOn hw hon (.inr ?_)
    cases hwork : w.working with
    | true =>
      refine .inl ⟨rfl, fun hlast => ?_⟩
      simp [abandons, hw, hwork, hlast] at hkept
    | false =>
      right
      cases hcase : w.phase with
      | returned => exact hon.handled _ (ht.returned w (Table.mem_of_get? hw) hcase)
      | raised => exact absurd hcase hphase
      | _ => simp [Worker.working, hcase] at hwork
  | crashed hw =>
    rename_i wid w
    refine ⟨fun j hj => hon.there _ (ht.there j hj), fun j hj hdone => hon.handled _ (ht.done j hj hdone),
      fun w' hw' => ht.claims w' (Table.mem_erase.mp hw').1,
      fun w' hw' hret => hon.handled _ (ht.returned w' (Table.mem_erase.mp hw').1 hret),
      fun w' hw' hraise hlast => hon.handled _ (ht.raised w' (Table.mem_erase.mp hw').1 hraise hlast),
      fun j hj hrun hlast => ?_⟩
    rcases ht.last j hj hrun hlast with hdone | ⟨w₀, hw₀, hid, hcount, hwork⟩
    · exact .inl (hon.handled _ hdone)
    · refine .inr ⟨w₀, Table.mem_erase.mpr ⟨hw₀, fun hsame => ?_⟩, hid, hcount, hwork⟩
      have hlast' := ht.isLast hw₀ hj hid hcount hlast
      have hget : s.workers.get? wid = some w₀ := by
        rw [← hsame]
        exact Table.get?_of_mem hw₀
      simp [abandons, hget, hwork, hlast'] at hkept
  | completed hw hphase =>
    refine ht.settle hw (by simp [Worker.working, hphase]) (by decide) fun _ => ?_
    exact ht.returned _ (Table.mem_of_get? hw) hphase
  | failed hw hphase =>
    refine ht.settle hw (by simp [Worker.working, hphase]) ?_ fun hend => ?_
    · split <;> decide
    · split at hend
      · exact ht.raised _ (Table.mem_of_get? hw) hphase ‹_›
      · cases hend
  | exhausted hj hrunning hlast =>
    rename_i refundId j
    have hmemj := Table.mem_of_get? hj
    have hmem : ∀ i ∈ (s.jobs.replace { j with status := .failed }).rows,
        i = { j with status := .failed } ∨ i ∈ s.jobs.rows := fun i hi => mem_changed hmemj rfl hi
    refine ⟨fun i hi => ?_, fun i hi hdone => ?_, ht.claims_replace hmemj rfl rfl, ht.returned, ht.raised,
      fun i hi hrun hlast' => ?_⟩
    · rcases hmem i hi with rfl | hold
      · exact ht.there j hmemj
      · exact ht.there i hold
    · rcases hmem i hi with rfl | hold
      · rcases ht.last j hmemj hrunning hlast with hdone | ⟨w, hw, hid, hcount, hwork⟩
        · exact hdone
        · -- somebody is still at work on it
          have hlast' := ht.isLast hw hmemj hid hcount hlast
          have hjid : j.refundId = refundId := Table.key_of_get? hj
          have hany : abandons cfg s (.exhaust refundId) = true :=
            List.any_eq_true.mpr ⟨w, hw, decide_eq_true ⟨hid.trans hjid, hwork, hlast'⟩⟩
          rw [hany] at hkept
          cases hkept
      · exact ht.done i hold hdone
    · rcases hmem i hi with rfl | hold
      · cases hrun
      · exact ht.last i hold hrun hlast'

/-! ### Runs -/

theorem attended_of_run (h₀ : s₀.Opening) (h : JobRun cfg maxAttempts s₀ tr s)
    (hkept : ∀ t ∈ tr, abandons cfg t.pre t.label = false) : Attended s := by
  induction h with
  | nil =>
    constructor
    all_goals
      intro x hx
      first
      | rw [h₀.jobs] at hx
        cases hx
      | rw [h₀.workers] at hx
        cases hx
  | cons run hs ih =>
    have hkept' := List.forall_mem_cons.mp hkept
    exact step_attended hs (ih hkept'.2) hkept'.1

/-- A refund that was given up has its record. -/
def UncertainFiled (db : Db) : Prop :=
  ∀ r ∈ db.refunds.rows, r.status = .uncertain → db.filed (ReconciliationKind.refundUncertain.key r.id)

theorem refundError_files {s s' : Sys} {pid : Id} {message : String} {attempt : RefundAttempt} {r r' : Refund}
    (h : step cfg s (.refundError pid message) = some s') (hproc : s.proc? pid = some (.refund attempt))
    (hid : attempt.refundId = r.id) (hr : r ∈ s.db.refunds.rows) (hreq : r.status = .requested)
    (hmax : cfg.refundMaxAttempts ≤ r.attempts) (hr' : s'.db.refunds.get? r.id = some r')
    (hdone : r'.status = .uncertain) : s'.db.filed (ReconciliationKind.refundUncertain.key r.id) := by
  have hget : s.db.refunds.get? r.id = some r := Table.get?_of_mem hr
  simp only [step, hproc, Option.some.injEq] at h
  subst h
  rcases finishWith_cases s pid (recordRefundAttemptFailed cfg s.db attempt.refundId message) with
    ⟨db', hok, heq⟩ | heq
  · rw [heq] at hr' ⊢
    rw [hid] at hok
    rcases recordRefundAttemptFailed_ok hok with ⟨_, hless⟩ | ⟨refund, db₁, hrefund, _, _, _, rfl⟩
    · exact absurd hmax (not_le.mpr (hless r hget hreq))
    · rw [hget] at hrefund
      cases hrefund
      exact (record_filed _ _).mpr (.inr rfl)
  · -- rolled back: the refund is as it was
    rw [heq] at hr'
    have hsame : some r = some r' := hget.symm.trans hr'
    cases hsame
    rw [hreq] at hdone
    cases hdone

theorem uncertain_of_run {s₀ s : Sys} {tr : List (Taken Sys Label)} (h₀ : Initial s₀) (h : Run cfg s₀ tr s) :
    UncertainFiled s.db := by
  refine h.invariant (I := fun s => UncertainFiled s.db) ?_ fun {s l s'} hs hI r' hr' hdone => ?_
  · intro r hr
    rw [h₀.refunds] at hr
    cases hr
  · have hkept : ∀ k, s.db.filed k → s'.db.filed k := fun k hk => filed_of_kept (step_records_kept hs) hk
    rcases step_refund hs hr' with ⟨r, hr, hid, hmove⟩ | ⟨_, hreq | ⟨_, _, _, hrec⟩⟩
    · rw [← hid]
      have hget : s'.db.refunds.get? r.id = some r' := by
        rw [hid]
        exact Table.get?_of_mem hr'
      cases hmove with
      | same heq => exact hkept _ (hI r hr (heq ▸ hdone))
      | attempted _ hreq _ heq =>
        rw [heq, show (r.patch _).status = r.status from rfl, hreq] at hdone
        cases hdone
      | blocked _ _ _ _ heq =>
        rw [heq] at hdone
        cases hdone
      | uncertain hl hproc haid hreq hmax heq =>
        subst hl
        exact refundError_files hs hproc haid hr hreq hmax hget hdone
      | saved _ hstatus _ _ heq =>
        rename_i t c hprid hattempts
        rw [heq] at hdone
        rcases hstatus with hnone | ⟨_, ⟨hc, _⟩ | ⟨hc, _⟩⟩
        · exact hkept _ (hI r hr (by simpa [Refund.patch, hnone] using hdone))
        · simp [Refund.patch, hc] at hdone
        · simp [Refund.patch, hc] at hdone
      | confirmed _ _ _ heq =>
        rw [heq] at hdone
        cases hdone
    · rw [hreq.status] at hdone
      cases hdone
    · obtain ⟨_, hrow⟩ := hrec.row
      rw [hrow.status] at hdone
      cases hdone

/-- No stranded refund. In every run in which no job's last attempt is lost, for any limits on the
    attempts, the refund of a job that has ended was handled: it is pending, succeeded, failed, or given
    up as uncertain, and then there is a record that says so. -/
theorem no_stranded_refund (h₀ : s₀.Opening) (h : JobRun cfg maxAttempts s₀ tr s)
    (hkept : ∀ t ∈ tr, abandons cfg t.pre t.label = false) :
    ∀ j ∈ s.jobs.rows, j.status.terminal = true → ∃ r, s.sys.db.refunds.get? j.refundId = some r ∧
      r.status ≠ .requested ∧
      (r.status = .uncertain → s.sys.db.filed (ReconciliationKind.refundUncertain.key r.id)) := by
  intro j hj hdone
  obtain ⟨r, hr, hst⟩ := (attended_of_run h₀ h hkept).done j hj hdone
  obtain ⟨tr', hrun⟩ := JobRun.sys h
  exact ⟨r, hr, hst, uncertain_of_run h₀.sys hrun r (Table.mem_of_get? hr)⟩

/-- Refund 1 of a paid order is requested; its job is queued with it. -/
def requestedRefund : List JobLabel :=
  (paidOrder ++ ([.begin_ 1 (.requestRefund 1 9 none false 1), .commit 1 0] : List Label)).map .store

/-- One attempt of the job, by worker 1, in which the provider fails. -/
def failedAttempt : List JobLabel := [.claim 1 1, .begin_ 1 1, .providerError 1 "timeout"]

/-- Three attempts fail, as many as the refund has; the job would have had two more. -/
theorem no_stranded_refund_uncertain : ∃ tr s, JobRun smallSettings 5 smallShopJobs tr s ∧
    (∃ j ∈ s.jobs.rows, j.refundId = 1 ∧ j.status = .succeeded ∧ j.attempts = 3) ∧
    (∃ r ∈ s.sys.db.refunds.rows, r.id = 1 ∧ r.status = .uncertain) ∧
    ∀ j ∈ s.jobs.rows, j.status.terminal = true → ∃ r, s.sys.db.refunds.get? j.refundId = some r ∧
      r.status ≠ .requested ∧
      (r.status = .uncertain → s.sys.db.filed (ReconciliationKind.refundUncertain.key r.id)) := by
  obtain ⟨tr, s, hrun, hjob, hrefund, hkept⟩ := exists_exec (jobStep smallSettings 5) smallShopJobs
    (P := fun tr s => (∃ j ∈ s.jobs.rows, j.refundId = 1 ∧ j.status = .succeeded ∧ j.attempts = 3) ∧
      (∃ r ∈ s.sys.db.refunds.rows, r.id = 1 ∧ r.status = .uncertain) ∧
      ∀ t ∈ tr, abandons smallSettings t.pre t.label = false)
    (requestedRefund ++ failedAttempt ++ [.fail 1] ++ failedAttempt ++ [.fail 1] ++ failedAttempt ++
      [.complete 1]) (by decide)
  exact ⟨tr, s, hrun, hjob, hrefund, no_stranded_refund smallShopJobs_opening hrun hkept⟩

/-- The job may be tried twice, the refund three times: after two errors the job has failed, and the
    refund is still requested. -/
theorem stranded_by_limits : ∃ tr s, JobRun smallSettings 2 smallShopJobs tr s ∧
    (∃ j ∈ s.jobs.rows, j.refundId = 1 ∧ j.status = .failed) ∧
    ∃ r ∈ s.sys.db.refunds.rows, r.id = 1 ∧ r.status = .requested :=
  exists_exec (jobStep smallSettings 2) smallShopJobs
    (P := fun _ s => (∃ j ∈ s.jobs.rows, j.refundId = 1 ∧ j.status = .failed) ∧
      ∃ r ∈ s.sys.db.refunds.rows, r.id = 1 ∧ r.status = .requested)
    (requestedRefund ++ failedAttempt ++ [.fail 1] ++ failedAttempt ++ [.fail 1]) (by decide)

end NovaCart
