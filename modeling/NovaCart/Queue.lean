import NovaCart.Jobs

/-! The job queue (`core/jobs`): `JobQueue.enqueue`, `claim_next`, `complete_job`, `fail_job`.

    A claim is a transaction of two statements: it fails the jobs whose workers stopped with no attempt
    left, then takes the next job that is due. Its writes are seen when it commits; until then the rows
    it wrote are locked, a statement that must write one of them waits, and the choice of a job skips
    them. `now()` is the time the transaction began. The other operations are one statement each; a
    worker may send the result of a claim at any time, any number of times, or never. -/

namespace NovaCart

open Schemes

structure JobRow where
  id : Id
  jobType : String
  payload : String
  status : JobStatus
  attempts : Nat
  maxAttempts : Nat
  runAt : Time
  lockedUntil : Option Time
  finishedAt : Option Time
  lastError : Option String
  dedupeKey : Option String
  /-- the open transaction that inserted the row, the only one to see it -/
  insertedBy : Option Nat
  /-- `ck_background_jobs_attempts` -/
  someAttempt : 1 ≤ maxAttempts
  deriving DecidableEq, Repr

structure ClaimedJob where
  id : Id
  jobType : String
  payload : String
  attempts : Nat
  maxAttempts : Nat
  deriving DecidableEq, Repr

/-- How far the transaction of a claim is. -/
inductive ClaimPhase
  | begun
  | swept (failed : List Id)
  | picked (failed : List Id) (job : Option Id)
  deriving DecidableEq, Repr

structure ClaimTx where
  id : Nat
  now : Time
  phase : ClaimPhase
  deriving DecidableEq, Repr

instance : Keyed JobRow Id := ⟨JobRow.id⟩
instance : Keyed ClaimTx Nat := ⟨ClaimTx.id⟩

structure QueueSettings where
  jobsLockSeconds : Nat
  jobsRetryBaseSeconds : Nat
  jobsRetryMaxSeconds : Nat

structure QueueState where
  clock : Time
  jobs : Table JobRow
  txs : Table ClaimTx
  /-- the claims that were handed to a worker, newest first -/
  claims : List ClaimedJob
  next : Nat

structure EnqueueRequest where
  jobType : String
  payload : String
  dedupeKey : Option String
  delaySeconds : Nat
  maxAttempts : Nat

/-- The delay before the next try, after `attempts` tries so far. -/
def retryDelaySeconds (cfg : QueueSettings) (attempts : Nat) : Nat :=
  min (cfg.jobsRetryBaseSeconds * 2 ^ (attempts - 1)) cfg.jobsRetryMaxSeconds

namespace JobRow

/-- The row is committed. -/
def visible (j : JobRow) : Prop := j.insertedBy = none

/-- The lock is over. -/
def lockExpired (now : Time) (j : JobRow) : Prop := ∃ until_ ∈ j.lockedUntil, until_ < now

/-- What `_FAIL_EXHAUSTED_SQL` asks for. -/
def exhausted (now : Time) (j : JobRow) : Prop :=
  j.status = .running ∧ j.lockExpired now ∧ j.maxAttempts ≤ j.attempts

/-- What `_CLAIM_SQL` asks for. -/
def due (now : Time) (j : JobRow) : Prop :=
  j.attempts < j.maxAttempts ∧ ((j.status = .pending ∧ j.runAt ≤ now) ∨ (j.status = .running ∧ j.lockExpired now))

/-- `ORDER BY run_at, id`. -/
def before (a b : JobRow) : Prop := a.runAt < b.runAt ∨ (a.runAt = b.runAt ∧ a.id ≤ b.id)

instance (j : JobRow) : Decidable j.visible := inferInstanceAs (Decidable (_ = _))
instance (now : Time) (j : JobRow) : Decidable (j.lockExpired now) :=
  inferInstanceAs (Decidable (∃ until_ ∈ j.lockedUntil, _))
instance (now : Time) (j : JobRow) : Decidable (j.exhausted now) := inferInstanceAs (Decidable (_ ∧ _))
instance (now : Time) (j : JobRow) : Decidable (j.due now) := inferInstanceAs (Decidable (_ ∧ _))
instance : DecidableRel before := fun _ _ => inferInstanceAs (Decidable (_ ∨ _))

def failExhausted (now : Time) (j : JobRow) : JobRow :=
  { j with
    status := .failed, finishedAt := some now, lockedUntil := none
    lastError := some (j.lastError.getD "" ++ " [worker stopped before finishing; out of attempts]") }

def claim (cfg : QueueSettings) (now : Time) (j : JobRow) : JobRow :=
  { j with status := .running, attempts := j.attempts + 1, lockedUntil := some (now + cfg.jobsLockSeconds) }

def complete (now : Time) (j : JobRow) : JobRow :=
  { j with status := .succeeded, finishedAt := some now, lockedUntil := none, lastError := none }

def fail (cfg : QueueSettings) (now : Time) (c : ClaimedJob) (error : String) (j : JobRow) : JobRow :=
  let final := c.maxAttempts ≤ c.attempts
  { j with
    status := if final then .failed else .pending
    runAt := now + retryDelaySeconds cfg c.attempts
    finishedAt := if final then some now else none
    lockedUntil := none
    lastError := some (String.ofList (error.toList.take 4000)) }

/-- The transaction that inserted the row commits. -/
def commit (tx : Nat) (j : JobRow) : JobRow := if j.insertedBy = some tx then { j with insertedBy := none } else j

theorem commit_id (tx : Nat) (j : JobRow) : (j.commit tx).id = j.id := by
  rw [commit]
  split <;> rfl

/-- The row as it is returned to the worker that claimed it. -/
def claimed (j : JobRow) : ClaimedJob := ⟨j.id, j.jobType, j.payload, j.attempts, j.maxAttempts⟩

end JobRow

namespace ClaimTx

/-- The jobs the transaction failed. -/
def failed (tx : ClaimTx) : List Id :=
  match tx.phase with
  | .begun => []
  | .swept failed => failed
  | .picked failed _ => failed

/-- The job it took. -/
def job (tx : ClaimTx) : Option Id :=
  match tx.phase with
  | .picked _ job => job
  | _ => none

/-- The rows it has locked. -/
def locks (tx : ClaimTx) : List Id := tx.failed ++ tx.job.toList

/-- What its commit does to a row. -/
def write (cfg : QueueSettings) (tx : ClaimTx) (j : JobRow) : JobRow :=
  if j.id ∈ tx.failed then j.failExhausted tx.now
  else if tx.job = some j.id then j.claim cfg tx.now
  else j

theorem write_id (cfg : QueueSettings) (tx : ClaimTx) (j : JobRow) : (tx.write cfg j).id = j.id := by
  rw [write]
  split
  · rfl
  · split <;> rfl

end ClaimTx

namespace QueueState

def locked (s : QueueState) (id : Id) : Prop := ∃ tx ∈ s.txs.rows, id ∈ tx.locks

instance (s : QueueState) (id : Id) : Decidable (s.locked id) :=
  inferInstanceAs (Decidable (∃ tx ∈ s.txs.rows, _))

/-- A transaction goes on. -/
def goOn (s : QueueState) (tx : ClaimTx) (phase : ClaimPhase) : QueueState :=
  { s with txs := s.txs.replace { tx with phase := phase } }

/-- `_FAIL_EXHAUSTED_SQL`: the rows it writes. -/
def exhausted (s : QueueState) (now : Time) : List Id :=
  (s.jobs.rows.filter fun j => j.visible ∧ j.exhausted now).map JobRow.id

/-- `_CLAIM_SQL`: the row it takes. -/
def nextDue (s : QueueState) (now : Time) : Option Id :=
  ((s.jobs.rows.filter fun j => j.visible ∧ j.due now ∧ ¬s.locked j.id).insertionSort JobRow.before).head?.map JobRow.id

/-- The row a result is for, if the worker still owns it. -/
def owned (s : QueueState) (c : ClaimedJob) : Option JobRow :=
  (s.jobs.get? c.id).filter fun j => j.visible ∧ j.status = .running ∧ j.attempts = c.attempts

/-- `complete_job` and `fail_job`: one guarded update. -/
def report (s : QueueState) (c : ClaimedJob) (f : JobRow → JobRow) : QueueState :=
  match s.owned c with
  | none => s
  | some j => { s with jobs := s.jobs.replace (f j) }

end QueueState

inductive QueueLabel
  /-- time passes -/
  | tick
  /-- `JobQueue.enqueue` in the transaction `tx` -/
  | enqueue (tx : Nat) (req : EnqueueRequest) (now : Time)
  | commit (tx : Nat)
  | rollback (tx : Nat)
  | claimBegin
  | sweep (id : Nat)
  | pick (id : Nat)
  | claimCommit (id : Nat)
  /-- the worker or its connection is gone before the commit -/
  | claimAbort (id : Nat)
  | complete (c : ClaimedJob) (now : Time)
  | fail (c : ClaimedJob) (error : String) (now : Time)

/-- `JobQueue.enqueue`: nothing is added when the key is there, and an uncommitted row with the key is waited for. -/
def QueueState.enqueue (s : QueueState) (tx : Nat) (req : EnqueueRequest) (now : Time) : Option QueueState :=
  match s.jobs.rows.find? fun j => j.dedupeKey = req.dedupeKey && req.dedupeKey.isSome with
  | some j => if j.insertedBy = none ∨ j.insertedBy = some tx then some s else none
  | none =>
    if h : 1 ≤ req.maxAttempts then
      (s.jobs.insert? ⟨s.next, req.jobType, req.payload, .pending, 0, req.maxAttempts, now + req.delaySeconds, none, none,
        none, req.dedupeKey, some tx, h⟩).map fun jobs => { s with jobs := jobs, next := s.next + 1 }
    else none

def queueStep (cfg : QueueSettings) (s : QueueState) : QueueLabel → Option QueueState
  | .tick => some { s with clock := s.clock + 1 }
  | .enqueue tx req now => if now ≤ s.clock then s.enqueue tx req now else none
  | .commit tx =>
    some { s with jobs := s.jobs.map (JobRow.commit tx) (JobRow.commit_id tx) }
  | .rollback tx => some { s with jobs := s.jobs.keep fun j => j.insertedBy ≠ some tx }
  | .claimBegin => do
    let txs ← s.txs.insert? ⟨s.next, s.clock, .begun⟩
    some { s with txs := txs, next := s.next + 1 }
  | .sweep id => do
    let tx ← s.txs.get? id
    let rows := s.exhausted tx.now
    if tx.phase = .begun ∧ ∀ i ∈ rows, ¬s.locked i then some (s.goOn tx (.swept rows)) else none
  | .pick id => do
    let tx ← s.txs.get? id
    if tx.phase = .swept tx.failed then some (s.goOn tx (.picked tx.failed (s.nextDue tx.now))) else none
  | .claimCommit id => do
    let tx ← s.txs.get? id
    if tx.phase = .picked tx.failed tx.job then
      let jobs := s.jobs.map (tx.write cfg) (tx.write_id cfg)
      some { s with
        jobs := jobs, txs := s.txs.erase id
        claims := ((tx.job.bind jobs.get?).map JobRow.claimed).toList ++ s.claims }
    else none
  | .claimAbort id => some { s with txs := s.txs.erase id }
  | .complete c now =>
    if c ∈ s.claims ∧ now ≤ s.clock ∧ ¬s.locked c.id then some (s.report c (JobRow.complete now)) else none
  | .fail c error now =>
    if c ∈ s.claims ∧ now ≤ s.clock ∧ ¬s.locked c.id then some (s.report c (JobRow.fail cfg now c error)) else none

abbrev QueueRun (cfg : QueueSettings) (s₀ : QueueState) (tr : List (Taken QueueState QueueLabel)) (s : QueueState) : Prop :=
  Exec (queueStep cfg) s₀ tr s

/-- An empty queue. -/
structure QueueState.Initial (s : QueueState) : Prop where
  jobs : s.jobs = .empty
  txs : s.txs = .empty
  claims : s.claims = []

end NovaCart
