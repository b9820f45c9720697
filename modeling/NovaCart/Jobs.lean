import NovaCart.RefundReports

/-! The job that executes a refund, and the worker that runs it (`core/jobs`, `execute_refund`).

    Every refund that is requested has one job, queued in the same transaction. A worker claims the job,
    which counts the job's attempt, runs the handler, and records how it went. The handler counts the
    refund's own attempt, calls the provider, and records the answer or the error. A worker may die at
    any point, and the handler may be stopped at any point (the time limit, a lost connection, a
    transaction that fails); a lock may expire at any time, so the clock is left out. -/

namespace NovaCart

open Schemes

inductive JobStatus
  | pending | running | succeeded | failed
  deriving DecidableEq, Repr

def JobStatus.terminal : JobStatus → Bool
  | .succeeded | .failed => true
  | .pending | .running => false

/-- The `EXECUTE_REFUND` job of a refund; its dedupe key is the refund. -/
structure BackgroundJob where
  refundId : Id
  status : JobStatus
  attempts : Nat
  maxAttempts : Nat
  deriving DecidableEq, Repr

instance : Keyed BackgroundJob Id := ⟨BackgroundJob.refundId⟩

/-- How far a worker is with the job it claimed. -/
inductive Phase
  | claimed
  /-- the provider is being asked; the attempt is an open call of the store -/
  | calling (pid : Id)
  | returned
  | raised
  deriving DecidableEq, Repr

/-- `ClaimedJob`, and the worker that runs it. -/
structure Worker where
  wid : Id
  refundId : Id
  attempts : Nat
  maxAttempts : Nat
  phase : Phase
  deriving DecidableEq, Repr

instance : Keyed Worker Id := ⟨Worker.wid⟩

namespace Worker

/-- The handler has neither returned nor raised. -/
def working (w : Worker) : Bool :=
  match w.phase with
  | .claimed | .calling _ => true
  | .returned | .raised => false

/-- The claim that used up the job's attempts. -/
def last (w : Worker) : Prop := w.maxAttempts ≤ w.attempts

instance (w : Worker) : Decidable w.last := inferInstanceAs (Decidable (_ ≤ _))

end Worker

/-- The store with its queue and workers. -/
structure Shop where
  sys : Sys
  jobs : Table BackgroundJob
  workers : Table Worker

inductive JobLabel
  /-- a step of the store that is not the refund job's -/
  | store (l : Label)
  | claim (wid refundId : Id)
  | begin_ (wid pid : Id)
  | answer (wid : Id) (report : RefundReport) (now : Time)
  /-- the provider call failed or timed out, and that was recorded -/
  | providerError (wid : Id) (message : String)
  /-- the handler is stopped, or raises anything else -/
  | raise (wid : Id)
  | crash (wid : Id)
  | complete (wid : Id)
  | fail (wid : Id)
  /-- the lock of a job that is out of attempts has expired -/
  | exhaust (refundId : Id)

namespace Shop

/-- `enqueue` with the refund as dedupe key. -/
def enqueue (maxAttempts : Nat) (jobs : Table BackgroundJob) (refundId : Id) : Table BackgroundJob :=
  (jobs.insert? ⟨refundId, .pending, 0, maxAttempts⟩).getD jobs

/-- The refunds a step requested, whose jobs its transaction queued. -/
def requested (old new : Db) : List Id :=
  (new.refunds.rows.filter fun r => r.origin = .requested ∧ old.refunds.get? r.id = none).map (·.id)

/-- Steps of the store that belong to the refund job: only a worker takes them. -/
def ofJob (s : Sys) : Label → Bool
  | .refundBegin _ _ | .refundAnswer _ _ _ | .refundError _ _ => true
  | .crash pid =>
    match s.proc? pid with
    | some (.refund _) => true
    | _ => false
  | _ => false

/-- The worker goes on in another phase, after a step of the store. -/
def goOn (s : Shop) (w : Worker) (phase : Phase) (sys : Sys) : Shop :=
  { s with sys := sys, workers := s.workers.replace { w with phase := phase } }

/-- The open call of a worker, if it has one, ends with it. -/
def hangUp (cfg : Settings) (s : Shop) (w : Worker) : Sys :=
  match w.phase with
  | .calling pid => (step cfg s.sys (.crash pid)).getD s.sys
  | _ => s.sys

/-- Whether `record_refund_attempt_failed` says "retry". -/
def retries (cfg : Settings) (db : Db) (refundId : Id) : Bool :=
  match db.refunds.get? refundId with
  | some r => r.status = .requested ∧ r.attempts < cfg.refundMaxAttempts
  | none => false

/-- The worker's result counts only while the job is running its attempt. -/
def settle (s : Shop) (w : Worker) (status : JobStatus) : Shop :=
  match s.jobs.get? w.refundId with
  | some j =>
    if j.status = .running ∧ j.attempts = w.attempts then
      { s with jobs := s.jobs.replace { j with status := status }, workers := s.workers.erase w.wid }
    else { s with workers := s.workers.erase w.wid }
  | none => { s with workers := s.workers.erase w.wid }

/-- `_CLAIM_SQL`: a job that is due, or one whose worker's lock has expired. -/
def claim (s : Shop) (wid refundId : Id) : Option Shop :=
  match s.jobs.get? refundId with
  | some j =>
    if j.attempts < j.maxAttempts ∧ (j.status = .pending ∨ j.status = .running) then
      (s.workers.insert? ⟨wid, refundId, j.attempts + 1, j.maxAttempts, .claimed⟩).map fun workers =>
        { s with
          jobs := s.jobs.replace { j with status := .running, attempts := j.attempts + 1 }
          workers := workers }
    else none
  | none => none

/-- `_FAIL_EXHAUSTED_SQL` for one job. -/
def exhaust (s : Shop) (refundId : Id) : Option Shop :=
  match s.jobs.get? refundId with
  | some j =>
    if j.status = .running ∧ j.maxAttempts ≤ j.attempts then
      some { s with jobs := s.jobs.replace { j with status := .failed } }
    else none
  | none => none

/-- The handler up to the provider call: it returns at once when there is nothing to do. -/
def begin_ (cfg : Settings) (s : Shop) (w : Worker) (pid : Id) : Option Shop :=
  match beginRefundAttempt s.sys.db w.refundId with
  | .ok (_, some _) => (step cfg s.sys (.refundBegin pid w.refundId)).map (s.goOn w (.calling pid))
  | .ok (_, none) => (step cfg s.sys (.refundBegin pid w.refundId)).map (s.goOn w .returned)
  | .error _ => none

/-- The attempt a worker is calling the provider about. -/
def attempt? (s : Shop) (w : Worker) : Option (Id × RefundAttempt) :=
  match w.phase with
  | .calling pid =>
    match s.sys.proc? pid with
    | some (.refund a) => if a.refundId = w.refundId then some (pid, a) else none
    | _ => none
  | _ => none

end Shop

/-- One step of the store with its workers; `maxAttempts` is `jobs_default_max_attempts`. A transaction
    of the handler that fails is not a step of its own: the handler raises. -/
def jobStep (cfg : Settings) (maxAttempts : Nat) (s : Shop) : JobLabel → Option Shop
  | .store l =>
    if Shop.ofJob s.sys l then none
    else (step cfg s.sys l).map fun sys =>
      { s with sys := sys, jobs := (Shop.requested s.sys.db sys.db).foldl (Shop.enqueue maxAttempts) s.jobs }
  | .claim wid refundId => s.claim wid refundId
  | .begin_ wid pid =>
    match s.workers.get? wid with
    | some w => if w.phase = .claimed then s.begin_ cfg w pid else none
    | none => none
  | .answer wid report now =>
    match s.workers.get? wid with
    | some w =>
      match s.attempt? w with
      | some (pid, a) =>
        match finishRefund s.sys.db a.refundId report now with
        | .ok _ => (step cfg s.sys (.refundAnswer pid report now)).map (s.goOn w .returned)
        | .error _ => none
      | none => none
    | none => none
  | .providerError wid message =>
    match s.workers.get? wid with
    | some w =>
      match s.attempt? w with
      | some (pid, a) =>
        match recordRefundAttemptFailed cfg s.sys.db a.refundId message with
        | .ok _ => (step cfg s.sys (.refundError pid message)).map
            (s.goOn w (if Shop.retries cfg s.sys.db a.refundId then .raised else .returned))
        | .error _ => none
      | none => none
    | none => none
  | .raise wid =>
    match s.workers.get? wid with
    | some w => if w.phase ≠ .raised then some (s.goOn w .raised (s.hangUp cfg w)) else none
    | none => none
  | .crash wid =>
    match s.workers.get? wid with
    | some w => some { s with sys := s.hangUp cfg w, workers := s.workers.erase wid }
    | none => none
  | .complete wid =>
    match s.workers.get? wid with
    | some w => if w.phase = .returned then some (s.settle w .succeeded) else none
    | none => none
  | .fail wid =>
    match s.workers.get? wid with
    | some w =>
      if w.phase = .raised then some (s.settle w (if w.last then .failed else .pending)) else none
    | none => none
  | .exhaust refundId => s.exhaust refundId

/-- The runs of the store with its workers. -/
abbrev JobRun (cfg : Settings) (maxAttempts : Nat) (s₀ : Shop) (tr : List (Taken Shop JobLabel))
    (s : Shop) : Prop :=
  Exec (jobStep cfg maxAttempts) s₀ tr s

/-- Where every run starts: nothing sold, nothing queued. -/
structure Shop.Opening (s : Shop) : Prop where
  sys : Initial s.sys
  jobs : s.jobs = .empty
  workers : s.workers = .empty

/-- The small shop, with a queue. -/
def smallShopJobs : Shop := ⟨smallShop, .empty, .empty⟩

theorem smallShopJobs_opening : smallShopJobs.Opening := ⟨smallShop_initial, rfl, rfl⟩

end NovaCart
