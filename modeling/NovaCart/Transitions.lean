import NovaCart.CallFootprints

/-! Inversion of the step function.

    `Transition` lists what a step can be: a transaction that committed, with the function that
    computed its result, or one of three steps that leave the database alone (a process starts, goes
    on or ends). Invariants are proved by cases on it and never unfold `step`. -/

namespace NovaCart

open Schemes

/-- How a process comes to be, with what it read on the way. -/
inductive Started (cfg : Settings) (s : Sys) : Proc → Prop
  | tx (op : Op) : Started cfg s (.tx op s.db)
  | delivery {e : WebhookEvent} (hverified : verified s.db e)
      (hfree : s.keyHeld e.provider e.eventId = false) (hclaim : claimable s.db e = true) :
      Started cfg s (.delivery e s.db)
  | recovery {row : DeferredWebhookEvent} {provider : Provider} {eventId : String}
      (hrow : s.db.deferred.get? (provider, eventId) = some row) (hpending : row.status = .pending)
      (hfree : s.rowLocked provider eventId = false) : Started cfg s (.recovery row s.db)
  | cancel {call : CancelCall} {orderId : Id} {actor : Option Id} {reason : String}
      (hbegin : cancelBegin s.db orderId actor reason = .ok (some call)) :
      Started cfg s (.cancel call)
  | pay {call : PayCall} {orderId : Id} (hplan : planPayment cfg s.db orderId = .ok call) :
      Started cfg s (.pay call)

/-- How a process goes on without a transaction of its own. -/
inductive Continued (s : Sys) : Proc → Proc → Prop
  | failed (e : WebhookEvent) (seen : Db) : Continued s (.delivery e seen) (.failed e)
  | asked {call call' : CancelCall} {answer : Option String}
      (hask : cancelAsk s.db call answer = some call') : Continued s (.cancel call) (.cancel call')
  | created {call : PayCall} (ppid : String) (hstage : call.stage = .creating) :
      Continued s (.pay call) (.pay { call with stage := .recording ppid })

/-- One of the transactions of the payment call of process `pid`, with the label that runs it. -/
inductive PayTx (db : Db) (pid : Id) (call : PayCall) : Label → Db → Option PayCall → Prop
  | reuse {paymentId : Id} {word : String} {db' : Db} {next : Option PayCall}
      (hstage : call.stage = .retrieving paymentId)
      (hok : payReuse db call paymentId word = .ok (db', next)) :
      PayTx db pid call (.payRetrieved pid word) db' next
  | record {ppid : String} {newId : Id} {db' : Db} {next : Option PayCall}
      (hstage : call.stage = .recording ppid)
      (hok : payRecord db call ppid newId = .ok (db', next)) :
      PayTx db pid call (.payRecord pid newId) db' next
  | orphan {ppid : String} {winner : Option Id} {answer : Option String} {db' : Db}
      {next : Option PayCall} (hstage : call.stage = .orphaned ppid winner)
      (hdb : db' = cancelOrphanIntent db call ppid answer) (hnext : next = call.afterOrphan winner) :
      PayTx db pid call (.payOrphan pid answer) db' next

inductive Transition (cfg : Settings) (s : Sys) : Label → Sys → Prop
  | op {pid : Id} {now : Time} {op : Op} {seen db : Db} (hproc : s.proc? pid = some (.tx op seen))
      (hrun : op.run cfg seen s.db now = .ok db) : Transition cfg s (.commit pid now) (s.finish pid db)
  | process {pid newId : Id} {now : Time} {e : WebhookEvent} {seen db : Db}
      (hproc : s.proc? pid = some (.delivery e seen))
      (hrun : processWebhookEvent cfg seen (markWebhookVerified s.db e.configId) e newId now = .ok db) :
      Transition cfg s (.process pid newId now) (s.finish pid db)
  | duplicate {pid : Id} {e : WebhookEvent} (hverified : verified s.db e)
      (hclaim : claimable s.db e = false) :
      Transition cfg s (.deliver pid e) { s with db := markWebhookVerified s.db e.configId }
  | failure {pid : Id} {message : String} {e : WebhookEvent} {db : Db}
      (hproc : s.proc? pid = some (.failed e)) (hfree : s.keyHeld e.provider e.eventId = false)
      (hrun : recordFailedEvent s.db e message = .ok db) :
      Transition cfg s (.recordFailure pid message) (s.finish pid db)
  | recover {pid newId : Id} {now : Time} {row : DeferredWebhookEvent} {seen : Db}
      (hproc : s.proc? pid = some (.recovery row seen)) :
      Transition cfg s (.recoverCommit pid newId now)
        (s.finish pid (recoverRow cfg seen s.db row newId now))
  | cancelReport {pid : Id} {call : CancelCall} (hproc : s.proc? pid = some (.cancel call)) :
      Transition cfg s (.cancelReport pid) (s.finish pid (cancelReport s.db call))
  | cancelFinish {pid : Id} {now : Time} {call : CancelCall} {db : Db}
      (hproc : s.proc? pid = some (.cancel call)) (hasked : call.toCancel = [])
      (hanswers : ∀ a ∈ call.outcomes, a.completed = false ∧ a.uncertain = false)
      (hrun : cancelFinish s.db call now = .ok db) :
      Transition cfg s (.cancelFinish pid now) (s.finish pid db)
  | payDone {l : Label} {pid : Id} {call : PayCall} {db : Db} (hproc : s.proc? pid = some (.pay call))
      (hrun : PayTx s.db pid call l db none) : Transition cfg s l (s.finish pid db)
  | payNext {l : Label} {pid : Id} {call call' : PayCall} {db : Db}
      (hproc : s.proc? pid = some (.pay call)) (hrun : PayTx s.db pid call l db (some call')) :
      Transition cfg s l (s.continue_ pid db (.pay call'))
  | refundBegin {pid refundId : Id} {db : Db} {attempt : RefundAttempt} {s' : Sys}
      (hrun : beginRefundAttempt s.db refundId = .ok (db, some attempt))
      (hspawn : s.spawn pid db (.refund attempt) = some s') :
      Transition cfg s (.refundBegin pid refundId) s'
  | refundBlocked {pid refundId : Id} {db : Db}
      (hrun : beginRefundAttempt s.db refundId = .ok (db, none)) :
      Transition cfg s (.refundBegin pid refundId) { s with db := db }
  | refundAnswer {pid : Id} {report : RefundReport} {now : Time} {attempt : RefundAttempt} {db : Db}
      (hproc : s.proc? pid = some (.refund attempt))
      (hrun : finishRefund s.db attempt.refundId report now = .ok db) :
      Transition cfg s (.refundAnswer pid report now) (s.finish pid db)
  | refundError {pid : Id} {message : String} {attempt : RefundAttempt} {db : Db}
      (hproc : s.proc? pid = some (.refund attempt))
      (hrun : recordRefundAttemptFailed cfg s.db attempt.refundId message = .ok db) :
      Transition cfg s (.refundError pid message) (s.finish pid db)
  | started {l : Label} {pid : Id} {p : Proc} {s' : Sys} (hp : Started cfg s p)
      (hspawn : s.spawn pid s.db p = some s') : Transition cfg s l s'
  | continued {l : Label} {pid : Id} {p p' : Proc} (hproc : s.proc? pid = some p)
      (hp : Continued s p p') : Transition cfg s l (s.continue_ pid s.db p')
  | ended {l : Label} {pid : Id} {p : Proc} (hproc : s.proc? pid = some p) :
      Transition cfg s l (s.finish pid s.db)

variable {cfg : Settings} {s s' : Sys} {l : Label}

/-- The last transaction of a process either committed or rolled back. -/
theorem finishWith_cases (s : Sys) (pid : Id) (r : Result Db) :
    (∃ db, r = .ok db ∧ s.finishWith pid r = s.finish pid db) ∨
      s.finishWith pid r = s.finish pid s.db := by
  cases r with
  | ok db => exact .inl ⟨db, rfl, rfl⟩
  | error e => exact .inr rfl

theorem continueWith_transition {pid : Id} {call : PayCall} {r : Result (Db × Option PayCall)}
    (hproc : s.proc? pid = some (.pay call))
    (hr : ∀ db next, r = .ok (db, next) → PayTx s.db pid call l db next) :
    Transition cfg s l (s.continueWith pid r) := by
  match r with
  | .ok (db, some call') => exact .payNext hproc (hr db _ rfl)
  | .ok (db, none) => exact .payDone hproc (hr db _ rfl)
  | .error _ => exact .ended hproc

theorem deliver_transition {pid : Id} {e : WebhookEvent} (h : deliver s pid e = some s') :
    Transition cfg s (.deliver pid e) s' := by
  unfold deliver at h
  split at h
  · rename_i hv
    split at h
    · rename_i hclaim
      exact .started (.delivery hv.1 hv.2 hclaim) h
    · rename_i hclaim
      cases h
      exact .duplicate hv.1 (by simpa using hclaim)
  · cases h

theorem recoverBegin_transition {pid : Id} {provider : Provider} {eventId : String} {now : Time}
    (h : recoverBegin s pid provider eventId now = some s') : Transition cfg s l s' := by
  unfold recoverBegin at h
  split at h
  · cases h
  · rename_i row hrow
    split at h
    · rename_i hc
      exact .started (.recovery hrow hc.1 hc.2.2) h
    · cases h

/-- Every step is one of the listed transitions. -/
theorem step_transition (h : step cfg s l = some s') : Transition cfg s l s' := by
  cases l with
  | begin_ pid op => exact .started (.tx op) h
  | commit pid now =>
    simp only [step] at h
    split at h
    · rename_i op seen hproc
      cases h
      rcases finishWith_cases s pid (op.run cfg seen s.db now) with ⟨db, hrun, heq⟩ | heq
      · rw [heq]; exact .op hproc hrun
      · rw [heq]; exact .ended hproc
    · cases h
  | crash pid =>
    simp only [step, Option.map_eq_some_iff] at h
    obtain ⟨p, hproc, rfl⟩ := h
    exact .ended hproc
  | deliver pid e => exact deliver_transition h
  | process pid newId now =>
    simp only [step] at h
    split at h
    · rename_i e seen hproc
      cases h
      unfold NovaCart.process
      split
      · rename_i db hrun
        exact .process hproc hrun
      · exact .continued hproc (.failed e seen)
    · cases h
  | abort pid =>
    simp only [step] at h
    split at h
    · rename_i e seen hproc
      cases h
      exact .continued hproc (.failed e seen)
    · cases h
  | recordFailure pid message =>
    simp only [step] at h
    split at h
    · rename_i e hproc
      split at h
      · cases h
      · rename_i hfree
        cases h
        rcases finishWith_cases s pid (recordFailedEvent s.db e message) with
          ⟨db, hrun, heq⟩ | heq
        · rw [heq]; exact .failure hproc (by simpa using hfree) hrun
        · rw [heq]; exact .ended hproc
    · cases h
  | recoverBegin pid provider eventId now => exact recoverBegin_transition h
  | recoverCommit pid newId now =>
    simp only [step] at h
    split at h
    · rename_i row seen hproc
      cases h
      exact .recover hproc
    · cases h
  | cancelBegin pid orderId actor reason =>
    simp only [step] at h
    split at h
    · rename_i call hbegin
      exact .started (.cancel hbegin) h
    · cases h
  | cancelAsk pid answer =>
    simp only [step] at h
    split at h
    · rename_i call hproc
      obtain ⟨call', hask, rfl⟩ := Option.map_eq_some_iff.mp h
      exact .continued hproc (.asked hask)
    · cases h
  | cancelReport pid =>
    simp only [step] at h
    split at h
    · rename_i call hproc
      split at h
      · cases h; exact .cancelReport hproc
      · cases h
    · cases h
  | cancelFinish pid now =>
    simp only [step] at h
    split at h
    · rename_i call hproc
      split at h
      · rename_i hc
        cases h
        rcases finishWith_cases s pid (cancelFinish s.db call now) with ⟨db, hrun, heq⟩ | heq
        · rw [heq]
          exact .cancelFinish hproc hc.1 (by simpa [List.all_eq_true] using hc.2) hrun
        · rw [heq]; exact .ended hproc
      · cases h
    · cases h
  | payBegin pid orderId =>
    simp only [step] at h
    split at h
    · rename_i call hplan
      exact .started (.pay hplan) h
    · cases h
  | payRetrieved pid word =>
    simp only [step] at h
    split at h
    · rename_i call hproc
      split at h
      · rename_i paymentId hstage
        cases h
        exact continueWith_transition hproc fun _ _ hok => .reuse hstage hok
      · cases h
    · cases h
  | payCreated pid ppid =>
    simp only [step] at h
    split at h
    · rename_i call hproc
      split at h
      · rename_i hstage
        cases h
        exact .continued hproc (.created ppid hstage)
      · cases h
    · cases h
  | payRecord pid newId =>
    simp only [step] at h
    split at h
    · rename_i call hproc
      split at h
      · rename_i ppid hstage
        cases h
        exact continueWith_transition hproc fun _ _ hok => .record hstage hok
      · cases h
    · cases h
  | payOrphan pid answer =>
    simp only [step] at h
    split at h
    · rename_i call hproc
      split at h
      · rename_i ppid winner hstage
        cases h
        refine continueWith_transition hproc fun db next hok => ?_
        cases hok
        exact .orphan hstage rfl rfl
      · cases h
    · cases h
  | payWinner pid word =>
    simp only [step] at h
    split at h
    · rename_i call hproc
      split at h
      · cases h
        exact .ended hproc
      · cases h
    · cases h
  | refundBegin pid refundId =>
    simp only [step] at h
    split at h
    · rename_i db attempt hrun
      exact .refundBegin hrun h
    · rename_i db hrun
      cases h
      exact .refundBlocked hrun
    · cases h
  | refundAnswer pid report now =>
    simp only [step] at h
    split at h
    · rename_i attempt hproc
      cases h
      rcases finishWith_cases s pid (finishRefund s.db attempt.refundId report now) with
        ⟨db, hrun, heq⟩ | heq
      · rw [heq]; exact .refundAnswer hproc hrun
      · rw [heq]; exact .ended hproc
    · cases h
  | refundError pid message =>
    simp only [step] at h
    split at h
    · rename_i attempt hproc
      cases h
      rcases finishWith_cases s pid
          (recordRefundAttemptFailed cfg s.db attempt.refundId message) with ⟨db, hrun, heq⟩ | heq
      · rw [heq]; exact .refundError hproc hrun
      · rw [heq]; exact .ended hproc
    · cases h

end NovaCart
