import NovaCart.Webhooks
import NovaCart.Schemes.Run
import NovaCart.Schemes.Batch

/-! The scheduled job that re-applies deferred webhook events (`reprocess_deferred_events`), as it is run by any number
    of workers. -/

namespace NovaCart.Recovery

open Schemes Schemes.Keyed

/-- The row after a try that found a payment record or not, and that an exception ended or not. -/
def settle (cfg : Settings) (row : DeferredWebhookEvent) (found raised : Bool) (now : Time) : DeferredWebhookEvent :=
  if raised then row.retry cfg now (cfg.webhookRecoveryMaxAttempts ≤ row.attempts + 1)
  else if found then { row with attempts := row.attempts + 1, status := .recovered }
  else row.retry cfg now (cfg.webhookRecoveryMaxAttempts ≤ row.attempts + 1 ∨ row.expiresAt ≤ now)

/-- The recovery of one row in `recoverRow` leaves the same row. -/
theorem recoverRow_eq_settle (cfg : Settings) (seen db : Db) (row : DeferredWebhookEvent) (newId : Id) (now : Time) :
    recoverRow cfg seen db row newId now =
      if seen.byProviderPaymentId row.providerPaymentId row.provider = none then
        { db with deferred := db.deferred.replace (settle cfg row false false now) }
      else
        match applyDeferredEvent cfg seen db row.rebuild newId now with
        | .ok db' =>
          resolveRecovered { db' with deferred := db'.deferred.replace (settle cfg row true false now) }
            (recoveredKeys row)
        | .error _ => { db with deferred := db.deferred.replace (settle cfg row true true now) } := by
  unfold recoverRow
  split
  · rfl
  · cases applyDeferredEvent cfg seen db row.rebuild newId now with
    | ok db' => rfl
    | error _ => rfl

/-! ### One transaction -/

/-- What the job does to the rest of the database, `σ`. -/
structure Handlers (σ : Type) where
  /-- `get_by_provider_payment_id` is not `None` -/
  found : σ → DeferredWebhookEvent → Bool
  /-- `apply_deferred_event`, with the records it closes and its audit entry -/
  apply : σ → DeferredWebhookEvent → Time → Except Err σ
  /-- the audit entry of an event that expires -/
  logExpired : σ → DeferredWebhookEvent → Time → Except Err σ

namespace Handlers

variable {σ : Type} (h : Handlers σ) (cfg : Settings)

/-- The inside of the savepoint. -/
def inSavepoint (s : σ) (entry : DeferredWebhookEvent × Time) : Except Err σ :=
  let (row, now) := entry
  if h.found s row then h.apply s row now
  else if cfg.webhookRecoveryMaxAttempts ≤ row.attempts + 1 ∨ row.expiresAt ≤ now then h.logExpired s row now
  else .ok s

def raises (s : σ) (entry : DeferredWebhookEvent × Time) : Bool :=
  match h.inSavepoint cfg s entry with
  | .ok _ => false
  | .error _ => true

/-- The loop over the claimed rows, each with the time at which its turn comes. -/
def reprocess : List (DeferredWebhookEvent × Time) → σ → List DeferredWebhookEvent × σ
  | [], s => ([], s)
  | entry :: rest, s =>
    let settled := settle cfg entry.1 (h.found s entry.1) (h.raises cfg s entry) entry.2
    let (rows, s') := reprocess rest (Schemes.commit (h.inSavepoint cfg) s entry)
    (settled :: rows, s')

end Handlers

/-! ### Workers -/

/-- A transaction of the job: the rows it has locked, before and after their turn. -/
structure Batch where
  worker : Id
  todo : List DeferredWebhookEvent
  done : List DeferredWebhookEvent
  deriving DecidableEq

instance : Keyed Batch Id := ⟨Batch.worker⟩

def Batch.rows (b : Batch) : List DeferredWebhookEvent := b.done ++ b.todo

structure RecoverySys where
  deferred : Table DeferredWebhookEvent
  batches : Table Batch

def RecoverySys.locked (s : RecoverySys) (k : Provider × String) : Bool :=
  s.batches.rows.any fun b => decide (k ∈ b.rows.map key)

/-- The rows a claim may take (`FOR UPDATE SKIP LOCKED`). -/
def RecoverySys.due (s : RecoverySys) (now : Time) : List DeferredWebhookEvent :=
  s.deferred.rows.filter fun r => r.status = .pending ∧ r.nextAttemptAt ≤ now ∧ s.locked (key r) = false

def claimLimit : ℕ := 50

/-- The first `limit` rows by `next_attempt_at`; ties are broken in any way. -/
structure Claims (due batch : List DeferredWebhookEvent) : Prop where
  nodup : batch.Nodup
  subset : batch ⊆ due
  length : batch.length = min claimLimit due.length
  sorted : batch.Pairwise fun r r' => r.nextAttemptAt ≤ r'.nextAttemptAt
  first : ∀ r ∈ due, r ∉ batch → ∀ r' ∈ batch, r'.nextAttemptAt ≤ r.nextAttemptAt

instance (due batch : List DeferredWebhookEvent) : Decidable (Claims due batch) :=
  decidable_of_iff
    (batch.Nodup ∧ batch ⊆ due ∧ batch.length = min claimLimit due.length ∧
      batch.Pairwise (fun r r' => r.nextAttemptAt ≤ r'.nextAttemptAt) ∧
      ∀ r ∈ due, r ∉ batch → ∀ r' ∈ batch, r'.nextAttemptAt ≤ r.nextAttemptAt)
    ⟨fun ⟨h1, h2, h3, h4, h5⟩ => ⟨h1, h2, h3, h4, h5⟩, fun h => ⟨h.1, h.2, h.3, h.4, h.5⟩⟩

/-- The rows of a transaction in the place of those that were committed. -/
def publish (done : List DeferredWebhookEvent) (r : DeferredWebhookEvent) : DeferredWebhookEvent :=
  (done.find? fun d => key d = key r).getD r

theorem key_publish (done : List DeferredWebhookEvent) (r : DeferredWebhookEvent) : key (publish done r) = key r := by
  unfold publish
  cases hfind : done.find? fun d => key d = key r with
  | none => rfl
  | some d => simpa using List.find?_some hfind

inductive Label
  /-- `_defer_event` of a delivery -/
  | defer (e : WebhookEvent) (now : Time)
  | claim (worker : Id) (batch : List DeferredWebhookEvent) (now : Time)
  /-- the turn of the next row -/
  | handle (worker : Id) (found raised : Bool) (now : Time)
  | commit (worker : Id)

def RecoverySys.defer (cfg : Settings) (s : RecoverySys) (e : WebhookEvent) (now : Time) : RecoverySys :=
  if e.providerPaymentId = "" ∨ cfg.webhookRecoveryIntervalSeconds ≤ 0 then s
  else { s with deferred := (s.deferred.insert? (deferredRow cfg e now)).getD s.deferred }

def RecoverySys.handle (cfg : Settings) (s : RecoverySys) (worker : Id) (found raised : Bool) (now : Time) :
    Option RecoverySys :=
  match s.batches.get? worker with
  | some ⟨_, row :: todo, done⟩ =>
    some { s with batches := s.batches.replace ⟨worker, todo, done ++ [settle cfg row found raised now]⟩ }
  | _ => none

def step (cfg : Settings) (s : RecoverySys) : Label → Option RecoverySys
  | .defer e now => some (s.defer cfg e now)
  | .claim worker batch now =>
    if Claims (s.due now) batch then
      (s.batches.insert? ⟨worker, batch, []⟩).map fun batches => { s with batches := batches }
    else none
  | .handle worker found raised now => s.handle cfg worker found raised now
  | .commit worker =>
    match s.batches.get? worker with
    | some ⟨_, [], done⟩ =>
      some { deferred := s.deferred.map (publish done) (key_publish done), batches := s.batches.erase worker }
    | _ => none

/-! ### What a run did -/

/-- One turn of a row. -/
structure Try where
  row : DeferredWebhookEvent
  found : Bool
  raised : Bool
  now : Time
  deriving DecidableEq

/-- The event was applied. -/
def Try.applies (t : Try) : Bool := t.found && !t.raised

def tryOf (x : Taken RecoverySys Label) : Option Try :=
  match x.label with
  | .handle worker found raised now =>
    ((x.pre.batches.get? worker).bind fun b => b.todo.head?).map fun row => ⟨row, found, raised, now⟩
  | _ => none

def tries (tr : List (Taken RecoverySys Label)) : List Try := tr.filterMap tryOf

def triesOf (k : Provider × String) (tr : List (Taken RecoverySys Label)) : List Try :=
  (tries tr).filter fun t => key t.row = k

def applicationsOf (k : Provider × String) (tr : List (Taken RecoverySys Label)) : List Try :=
  (triesOf k tr).filter Try.applies

def init : RecoverySys := ⟨.empty, .empty⟩

end NovaCart.Recovery
