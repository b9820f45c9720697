import NovaCart.QueueRuns
import NovaCart.CheckoutRuns

/-! The periodic jobs (`core/jobs/schedule.py`): `register_schedule`, `enqueue_due`, `run_scheduler`.

    Every worker process runs the scheduler loop over the same queue. A pass enqueues each job for the
    bucket of the time it reads just before, each in a transaction of its own; then the loop waits for half
    of the shortest interval. Time is that of the workers' clock, which they share; it passes between any
    two steps. Whatever else uses the queue goes on in between. -/

namespace NovaCart

open Schemes

structure Schedule where
  jobType : String
  intervalSeconds : ℤ
  deriving DecidableEq, Repr

/-- `register_schedule`: a second registration of a job type is ignored. -/
def registerSchedule (schedules : List Schedule) (x : Schedule) : List Schedule :=
  if schedules.any (fun s => s.jobType = x.jobType) then schedules else schedules ++ [x]

namespace Schedule

/-- `int(time.time() // interval)`. -/
def bucket (x : Schedule) (time : ℚ) : ℤ := ⌊time / x.intervalSeconds⌋

def dedupeKey (x : Schedule) (bucket : ℤ) : String := "schedule:" ++ x.jobType ++ ":" ++ toString bucket

/-- What `enqueue_due` asks the queue for. -/
def request (x : Schedule) (time : ℚ) : EnqueueRequest := ⟨x.jobType, "\x7b\x7d", some (x.dedupeKey (x.bucket time)), 0, 3⟩

end Schedule

/-- The wait between two passes, in seconds; none when every job is disabled. -/
def tickSeconds (schedules : List Schedule) : Option ℚ :=
  (((schedules.map Schedule.intervalSeconds).filter (0 < ·)).min?).map fun shortest : ℤ => max 1 ((shortest : ℚ) / 2)

inductive SchedulerPhase
  /-- in `enqueue_due`, with these jobs still to go -/
  | pass (rest : List Schedule)
  /-- the INSERT for the time it read is in the open transaction `tx` -/
  | sent (x : Schedule) (time : ℚ) (tx : Nat) (rest : List Schedule)
  | waiting (since : ℚ)

structure SchedulerWorker where
  pid : Id
  phase : SchedulerPhase

instance : Keyed SchedulerWorker Id := ⟨SchedulerWorker.pid⟩

structure SchedulerState where
  queue : QueueState
  clock : ℚ
  workers : Table SchedulerWorker

inductive SchedulerLabel
  | advance (seconds : ℚ)
  | start (pid : Id)
  /-- the job is disabled -/
  | skip (pid : Id)
  | send (pid : Id) (tx : Nat) (now : Time)
  | commit (pid : Id)
  /-- the pass raises: its transaction rolls back, and the loop waits for the next tick -/
  | fail (pid : Id)
  | finish (pid : Id)
  | wake (pid : Id)
  /-- the worker stops or dies -/
  | stop (pid : Id)
  /-- a step of another user of the queue -/
  | other (l : QueueLabel)

namespace SchedulerState

/-- The transaction a worker has open. -/
def openTx (w : SchedulerWorker) : Option Nat :=
  match w.phase with
  | .sent _ _ tx _ => some tx
  | _ => none

/-- A scheduler has this transaction open. -/
def owned (s : SchedulerState) (tx : Nat) : Bool := s.workers.rows.any fun w => openTx w = some tx

/-- No transaction of this number is open. -/
def freeTx (s : SchedulerState) (tx : Nat) : Bool :=
  !s.owned tx && s.queue.jobs.rows.all fun j => j.insertedBy ≠ some tx

/-- The rest of the system leaves the transactions of the schedulers and their keys alone. -/
def foreign (s : SchedulerState) : QueueLabel → Bool
  | .enqueue tx req _ => !s.owned tx && req.dedupeKey.all fun k => !"schedule:".toList.isPrefixOf k.toList
  | .commit tx => !s.owned tx
  | .rollback tx => !s.owned tx
  | _ => true

def phase? (s : SchedulerState) (pid : Id) : Option SchedulerPhase := (s.workers.get? pid).map SchedulerWorker.phase

/-- The worker goes on in another phase. -/
def goOn (s : SchedulerState) (pid : Id) (phase : SchedulerPhase) : SchedulerState :=
  { s with workers := s.workers.replace ⟨pid, phase⟩ }

/-- The queue after the transaction of a worker rolled back. -/
def rolledBack (s : SchedulerState) (phase : SchedulerPhase) : QueueState :=
  match phase with
  | .sent _ _ tx _ => { s.queue with jobs := s.queue.jobs.keep fun j => j.insertedBy ≠ some tx }
  | _ => s.queue

end SchedulerState

/-- One step of the schedulers and of what else uses the queue. -/
def schedulerStep (cfg : QueueSettings) (schedules : List Schedule) (s : SchedulerState) :
    SchedulerLabel → Option SchedulerState
  | .advance seconds => if 0 ≤ seconds then some { s with clock := s.clock + seconds } else none
  | .start pid =>
    if tickSeconds schedules = none then none
    else (s.workers.insert? ⟨pid, .pass schedules⟩).map fun workers => { s with workers := workers }
  | .skip pid =>
    match s.phase? pid with
    | some (.pass (x :: rest)) => if x.intervalSeconds ≤ 0 then some (s.goOn pid (.pass rest)) else none
    | _ => none
  | .send pid tx now =>
    match s.phase? pid with
    | some (.pass (x :: rest)) =>
      if 0 < x.intervalSeconds ∧ s.freeTx tx then
        (queueStep cfg s.queue (.enqueue tx (x.request s.clock) now)).map fun queue =>
          { s.goOn pid (.sent x s.clock tx rest) with queue := queue }
      else none
    | _ => none
  | .commit pid =>
    match s.phase? pid with
    | some (.sent _ _ tx rest) =>
      (queueStep cfg s.queue (.commit tx)).map fun queue => { s.goOn pid (.pass rest) with queue := queue }
    | _ => none
  | .fail pid =>
    match s.phase? pid with
    | some (.waiting _) => none
    | some phase => some { s.goOn pid (.waiting s.clock) with queue := s.rolledBack phase }
    | none => none
  | .finish pid =>
    match s.phase? pid with
    | some (.pass []) => some (s.goOn pid (.waiting s.clock))
    | _ => none
  | .wake pid =>
    match s.phase? pid with
    | some (.waiting since) =>
      if ∃ tick ∈ tickSeconds schedules, since + tick ≤ s.clock then some (s.goOn pid (.pass schedules)) else none
    | _ => none
  | .stop pid =>
    (s.phase? pid).map fun phase => { s with queue := s.rolledBack phase, workers := s.workers.erase pid }
  | .other l =>
    if s.foreign l then (queueStep cfg s.queue l).map fun queue => { s with queue := queue } else none

abbrev SchedulerRun (cfg : QueueSettings) (schedules : List Schedule) (s₀ : SchedulerState)
    (tr : List (Taken SchedulerState SchedulerLabel)) (s : SchedulerState) : Prop :=
  Exec (schedulerStep cfg schedules) s₀ tr s

/-- An empty queue and no worker yet. -/
structure SchedulerState.Initial (s : SchedulerState) : Prop where
  queue : s.queue.Initial
  workers : s.workers = .empty

/-! ### Keys -/

/-- Where a separator stands first is told by the text. -/
theorem cut_inj {α : Type} {x : α} : ∀ {d d' r r' : List α}, x ∉ d → x ∉ d' → d ++ x :: r = d' ++ x :: r' →
    d = d' ∧ r = r'
  | [], [], r, r', _, _, h => by simpa using h
  | [], y :: d', r, r', _, hd', h => by
      have hxy : x = y := (List.cons.inj h).1
      exact absurd (hxy ▸ List.mem_cons_self) hd'
  | y :: d, [], r, r', hd, _, h => by
      have hyx : y = x := (List.cons.inj h).1
      exact absurd (hyx ▸ List.mem_cons_self) hd
  | y :: d, z :: d', r, r', hd, hd', h => by
      rw [List.cons_append, List.cons_append, List.cons.injEq] at h
      obtain ⟨hyz, hrest⟩ := h
      obtain ⟨hdd, hr⟩ := cut_inj (fun hx => hd (List.mem_cons_of_mem y hx))
        (fun hx => hd' (List.mem_cons_of_mem z hx)) hrest
      exact ⟨by rw [hyz, hdd], hr⟩

/-- The key tells the job and the bucket. -/
theorem dedupeKey_inj {x y : Schedule} {b c : ℤ} (h : x.dedupeKey b = y.dedupeKey c) :
    x.jobType = y.jobType ∧ b = c := by
  have hfree : ∀ n : ℤ, ':' ∉ (toString n).toList.reverse := by
    intro n hn
    rcases chars_of_int (List.mem_reverse.mp hn) with hdigit | hminus
    · revert hdigit
      decide
    · revert hminus
      decide
  have hlist := congrArg String.toList h
  simp only [Schedule.dedupeKey, String.toList_append, List.append_assoc, List.append_cancel_left_eq] at hlist
  have hcolon : ":".toList = [':'] := rfl
  -- read from the end, the digits come first and hold no colon
  have hrev := congrArg List.reverse hlist
  simp only [hcolon, List.reverse_append, List.reverse_cons, List.append_assoc, List.singleton_append] at hrev
  obtain ⟨hdigits, htype⟩ := cut_inj (hfree b) (hfree c) hrev
  exact ⟨String.toList_inj.mp (List.reverse_injective htype),
    Int.repr_injective (String.toList_inj.mp (List.reverse_injective hdigits))⟩

theorem dedupeKey_prefix (x : Schedule) (b : ℤ) :
    "schedule:".toList.isPrefixOf (x.dedupeKey b).toList = true := by
  rw [List.isPrefixOf_iff_prefix, Schedule.dedupeKey, String.append_assoc, String.append_assoc, String.toList_append]
  exact List.prefix_append _ _

/-! ### Rows of the queue -/

section

variable {cfg : QueueSettings} {q q' : QueueState} {l : QueueLabel}

theorem report_row {c : ClaimedJob} {f : JobRow → JobRow} (hf : Report cfg c f) (j : JobRow) :
    (f j).id = j.id ∧ (f j).jobType = j.jobType ∧ (f j).dedupeKey = j.dedupeKey ∧ (f j).insertedBy = j.insertedBy := by
  cases hf with
  | complete now => exact ⟨rfl, rfl, rfl, rfl⟩
  | fail now error => exact ⟨rfl, rfl, rfl, rfl⟩

theorem write_row (cfg : QueueSettings) (tx : ClaimTx) (j : JobRow) : (tx.write cfg j).jobType = j.jobType ∧
    (tx.write cfg j).dedupeKey = j.dedupeKey ∧ (tx.write cfg j).insertedBy = j.insertedBy := by
  rw [ClaimTx.write]
  split
  · exact ⟨rfl, rfl, rfl⟩
  · split
    · exact ⟨rfl, rfl, rfl⟩
    · exact ⟨rfl, rfl, rfl⟩

theorem commit_row (tx : Nat) (j : JobRow) : (j.commit tx).jobType = j.jobType ∧ (j.commit tx).dedupeKey = j.dedupeKey ∧
    ((j.commit tx).insertedBy = j.insertedBy ∨ (j.commit tx).visible) := by
  rw [JobRow.commit]
  split
  · exact ⟨rfl, rfl, .inr rfl⟩
  · exact ⟨rfl, rfl, .inl rfl⟩

/-- Only the rollback of the transaction that inserted a row takes it away. -/
theorem row_stays (h : queueStep cfg q l = some q') {j : JobRow} (hj : j ∈ q.jobs.rows)
    (hl : ∀ tx, l = .rollback tx → j.insertedBy ≠ some tx) :
    ∃ j' ∈ q'.jobs.rows, j'.jobType = j.jobType ∧ j'.dedupeKey = j.dedupeKey ∧
      (j'.insertedBy = j.insertedBy ∨ j'.visible) := by
  have hsame (hmem : j ∈ q'.jobs.rows) : ∃ j' ∈ q'.jobs.rows, j'.jobType = j.jobType ∧
      j'.dedupeKey = j.dedupeKey ∧ (j'.insertedBy = j.insertedBy ∨ j'.visible) := ⟨j, hmem, rfl, rfl, .inl rfl⟩
  cases queueStep_cases h with
  | insert hins => exact hsame ((Table.mem_insert? hins).mpr (.inr hj))
  | commit tx => exact ⟨_, List.mem_map.mpr ⟨j, hj, rfl⟩, commit_row tx j⟩
  | rollback tx => exact hsame (Table.mem_keep.mpr ⟨hj, by simpa using hl tx rfl⟩)
  | @claim tx htx =>
    obtain ⟨htype, hkey, hby⟩ := write_row cfg tx j
    exact ⟨_, List.mem_map.mpr ⟨j, hj, rfl⟩, htype, hkey, .inl hby⟩
  | @report _ c f x hc hfree hx hf =>
    obtain ⟨hrow, _⟩ := owned_eq hx
    obtain ⟨hid, htype, hkey, hby⟩ := report_row hf x
    have hget : q.jobs.get? (Keyed.key (f x)) = some x := by
      rw [show (Keyed.key (f x) : Id) = x.id from hid]
      exact Table.get?_of_mem hrow
    rcases eq_or_ne j x with rfl | hne
    · exact ⟨_, (Table.mem_replace hget).mpr (.inl rfl), htype, hkey, .inl hby⟩
    · refine hsame ((Table.mem_replace hget).mpr (.inr ⟨hj, fun heq => hne ?_⟩))
      exact q.jobs.eq_of_key_eq hj hrow (heq.trans hid)
  | tick => exact hsame hj
  | nothing => exact hsame hj
  | begin => exact hsame hj
  | sweep => exact hsame hj
  | pick => exact hsame hj
  | abort => exact hsame hj

/-- An enqueue finds the row of its key or inserts it. -/
theorem enqueue_row {tx : Nat} {req : EnqueueRequest} {now : Time} {k : String}
    (h : queueStep cfg q (.enqueue tx req now) = some q') (hk : req.dedupeKey = some k) :
    ∃ j ∈ q'.jobs.rows, j.dedupeKey = some k ∧ (j.visible ∨ j.insertedBy = some tx) := by
  simp only [queueStep, Option.ite_none_right_eq_some] at h
  obtain ⟨_, h⟩ := h
  rw [QueueState.enqueue] at h
  cases hclash : q.jobs.rows.find? fun j => j.dedupeKey = req.dedupeKey && req.dedupeKey.isSome with
  | some j =>
    simp only [hclash, Option.ite_none_right_eq_some] at h
    obtain ⟨hvisible, h⟩ := h
    cases h
    have hfound := List.find?_some hclash
    simp only [hk, Option.isSome_some, Bool.and_true, decide_eq_true_eq] at hfound
    exact ⟨j, List.mem_of_find?_eq_some hclash, hfound, hvisible⟩
  | none =>
    simp only [hclash, Option.dite_none_right_eq_some] at h
    obtain ⟨_, h⟩ := h
    obtain ⟨jobs, hins, rfl⟩ := Option.map_eq_some_iff.mp h
    exact ⟨_, (Table.mem_insert? hins).mpr (.inl rfl), hk, .inr rfl⟩

theorem enqueue_stems {tx : Nat} {req : EnqueueRequest} {now : Time}
    (h : queueStep cfg q (.enqueue tx req now) = some q') {j' : JobRow} (hj' : j' ∈ q'.jobs.rows) :
    j' ∈ q.jobs.rows ∨ (j'.jobType = req.jobType ∧ j'.dedupeKey = req.dedupeKey) := by
  simp only [queueStep, Option.ite_none_right_eq_some] at h
  obtain ⟨_, h⟩ := h
  rw [QueueState.enqueue] at h
  split at h
  · simp only [Option.ite_none_right_eq_some] at h
    obtain ⟨_, h⟩ := h
    cases h
    exact .inl hj'
  · simp only [Option.dite_none_right_eq_some] at h
    obtain ⟨_, h⟩ := h
    obtain ⟨jobs, hins, rfl⟩ := Option.map_eq_some_iff.mp h
    rcases (Table.mem_insert? hins).mp hj' with rfl | hold
    · exact .inr ⟨rfl, rfl⟩
    · exact .inl hold

/-- A row of the queue was there before, perhaps in another state, or the step enqueued it. -/
theorem row_stems (h : queueStep cfg q l = some q') {j' : JobRow} (hj' : j' ∈ q'.jobs.rows) :
    (∃ j ∈ q.jobs.rows, j'.jobType = j.jobType ∧ j'.dedupeKey = j.dedupeKey) ∨
      ∃ tx req now, l = .enqueue tx req now ∧ j'.jobType = req.jobType ∧ j'.dedupeKey = req.dedupeKey := by
  cases queueStep_cases h with
  | insert _ _ _ _ _ =>
    rcases enqueue_stems h hj' with hold | hnew
    · exact .inl ⟨j', hold, rfl, rfl⟩
    · exact .inr ⟨_, _, _, rfl, hnew⟩
  | commit tx =>
    obtain ⟨j, hj, rfl⟩ := List.mem_map.mp hj'
    exact .inl ⟨j, hj, (commit_row tx j).1, (commit_row tx j).2.1⟩
  | rollback tx => exact .inl ⟨j', (Table.mem_keep.mp hj').1, rfl, rfl⟩
  | @claim tx htx =>
    obtain ⟨j, hj, rfl⟩ := List.mem_map.mp hj'
    exact .inl ⟨j, hj, (write_row cfg tx j).1, (write_row cfg tx j).2.1⟩
  | @report _ c f x hc hfree hx hf =>
    obtain ⟨hrow, _⟩ := owned_eq hx
    obtain ⟨hid, htype, hkey, _⟩ := report_row hf x
    have hget : q.jobs.get? (Keyed.key (f x)) = some x := by
      rw [show (Keyed.key (f x) : Id) = x.id from hid]
      exact Table.get?_of_mem hrow
    rcases (Table.mem_replace hget).mp hj' with rfl | ⟨hold, _⟩
    · exact .inl ⟨x, hrow, htype, hkey⟩
    · exact .inl ⟨j', hold, rfl, rfl⟩
  | tick => exact .inl ⟨j', hj', rfl, rfl⟩
  | nothing => exact .inl ⟨j', hj', rfl, rfl⟩
  | begin => exact .inl ⟨j', hj', rfl, rfl⟩
  | sweep => exact .inl ⟨j', hj', rfl, rfl⟩
  | pick => exact .inl ⟨j', hj', rfl, rfl⟩
  | abort => exact .inl ⟨j', hj', rfl, rfl⟩

end

/-! ### Steps -/

section

variable {cfg : QueueSettings} {schedules : List Schedule} {s s' s₀ : SchedulerState} {l : SchedulerLabel}
variable {tr : List (Taken SchedulerState SchedulerLabel)}

/-- What a step of the schedulers does to the queue and to the workers. -/
inductive SchedulerChange (cfg : QueueSettings) (s : SchedulerState) (s' : SchedulerState) : SchedulerLabel → Prop
  /-- a worker comes, goes on or waits, without a transaction -/
  | quiet {l : SchedulerLabel} (hqueue : s'.queue = s.queue) (hl : ∀ pid, l ≠ .commit pid)
      (hopen : ∀ w ∈ s'.workers.rows, w ∈ s.workers.rows ∨ SchedulerState.openTx w = none) :
      SchedulerChange cfg s s' l
  | send {pid : Id} {x : Schedule} {tx : Nat} {rest : List Schedule} {now : Time} (hfree : s.freeTx tx = true)
      (hrun : queueStep cfg s.queue (.enqueue tx (x.request s.clock) now) = some s'.queue)
      (hworkers : ∀ w ∈ s'.workers.rows, w = ⟨pid, .sent x s.clock tx rest⟩ ∨ (w ∈ s.workers.rows ∧ w.pid ≠ pid)) :
      SchedulerChange cfg s s' (.send pid tx now)
  | commit {pid : Id} {x : Schedule} {time : ℚ} {tx : Nat} {rest : List Schedule}
      (hworker : s.workers.get? pid = some ⟨pid, .sent x time tx rest⟩)
      (hrun : queueStep cfg s.queue (.commit tx) = some s'.queue)
      (hworkers : ∀ w ∈ s'.workers.rows, w = ⟨pid, .pass rest⟩ ∨ (w ∈ s.workers.rows ∧ w.pid ≠ pid)) :
      SchedulerChange cfg s s' (.commit pid)
  | rollback {l : SchedulerLabel} {pid : Id} {x : Schedule} {time : ℚ} {tx : Nat} {rest : List Schedule}
      (hworker : s.workers.get? pid = some ⟨pid, .sent x time tx rest⟩) (hl : ∀ pid, l ≠ .commit pid)
      (hrun : queueStep cfg s.queue (.rollback tx) = some s'.queue)
      (hworkers : ∀ w ∈ s'.workers.rows, SchedulerState.openTx w = none ∨ (w ∈ s.workers.rows ∧ w.pid ≠ pid)) :
      SchedulerChange cfg s s' l
  | other {l : QueueLabel} (hforeign : s.foreign l = true) (hrun : queueStep cfg s.queue l = some s'.queue)
      (hworkers : s'.workers = s.workers) : SchedulerChange cfg s s' (.other l)

theorem phase?_eq_some {pid : Id} {phase : SchedulerPhase} :
    s.phase? pid = some phase ↔ s.workers.get? pid = some ⟨pid, phase⟩ := by
  rw [SchedulerState.phase?, Option.map_eq_some_iff]
  constructor
  · rintro ⟨w, hw, rfl⟩
    have hpid : w.pid = pid := Table.key_of_get? hw
    rw [hw, ← hpid]
  · intro hw
    exact ⟨_, hw, rfl⟩

theorem mem_schedulerGoOn {pid : Id} {phase phase' : SchedulerPhase} (h : s.phase? pid = some phase)
    {w : SchedulerWorker} : w ∈ (s.goOn pid phase').workers.rows ↔
      w = ⟨pid, phase'⟩ ∨ (w ∈ s.workers.rows ∧ w.pid ≠ pid) := Table.mem_replace (phase?_eq_some.mp h)

/-- The rollback of a worker's transaction, if it has one open. -/
theorem rolledBack_change {pid : Id} {phase : SchedulerPhase} (h : s.phase? pid = some phase)
    (hl : ∀ pid, l ≠ .commit pid) (hqueue : s'.queue = s.rolledBack phase)
    (hworkers : ∀ w ∈ s'.workers.rows, SchedulerState.openTx w = none ∨ (w ∈ s.workers.rows ∧ w.pid ≠ pid)) :
    SchedulerChange cfg s s' l := by
  have hquiet : s.rolledBack phase = s.queue → SchedulerChange cfg s s' l := fun hsame =>
    .quiet (hqueue.trans hsame) hl fun w hw => (hworkers w hw).symm.imp And.left id
  cases phase with
  | pass rest => exact hquiet rfl
  | waiting since => exact hquiet rfl
  | sent x time tx rest =>
    refine .rollback (phase?_eq_some.mp h) hl ?_ hworkers
    rw [hqueue]
    rfl

theorem schedulerStep_cases (h : schedulerStep cfg schedules s l = some s') : SchedulerChange cfg s s' l := by
  have hgoOn : ∀ {pid : Id} {phase phase' : SchedulerPhase}, s.phase? pid = some phase →
      SchedulerState.openTx ⟨pid, phase'⟩ = none → (∀ p, l ≠ .commit p) →
      SchedulerChange cfg s (s.goOn pid phase') l := by
    intro pid phase phase' hphase hopen hl
    refine .quiet rfl hl fun w hw => ?_
    rcases (mem_schedulerGoOn hphase).mp hw with rfl | hold
    · exact .inr hopen
    · exact .inl hold.1
  cases l with
  | advance seconds =>
    simp only [schedulerStep, Option.ite_none_right_eq_some] at h
    obtain ⟨_, h⟩ := h
    cases h
    exact .quiet rfl (by simp) fun w hw => .inl hw
  | start pid =>
    simp only [schedulerStep, Option.ite_none_left_eq_some] at h
    obtain ⟨workers, hins, rfl⟩ := Option.map_eq_some_iff.mp h.2
    refine .quiet rfl (by simp) fun w hw => ?_
    rcases (Table.mem_insert? hins).mp hw with rfl | hold
    · exact .inr rfl
    · exact .inl hold
  | skip pid =>
    simp only [schedulerStep] at h
    split at h
    · rename_i hphase
      simp only [Option.ite_none_right_eq_some] at h
      cases h.2
      exact hgoOn hphase rfl (by simp)
    · cases h
  | send pid tx now =>
    simp only [schedulerStep] at h
    split at h
    · rename_i x rest hphase
      simp only [Option.ite_none_right_eq_some] at h
      obtain ⟨⟨_, hfree⟩, h⟩ := h
      obtain ⟨queue, hrun, rfl⟩ := Option.map_eq_some_iff.mp h
      exact .send hfree hrun fun w hw => (mem_schedulerGoOn hphase).mp hw
    · cases h
  | commit pid =>
    simp only [schedulerStep] at h
    split at h
    · rename_i x time tx rest hphase
      obtain ⟨queue, hrun, rfl⟩ := Option.map_eq_some_iff.mp h
      exact .commit (phase?_eq_some.mp hphase) hrun fun w hw => (mem_schedulerGoOn hphase).mp hw
    · cases h
  | fail pid =>
    simp only [schedulerStep] at h
    split at h
    · cases h
    · rename_i phase _ hphase
      cases h
      refine rolledBack_change hphase (by simp) rfl fun w hw => ?_
      rcases (mem_schedulerGoOn hphase).mp hw with rfl | hold
      · exact .inl rfl
      · exact .inr hold
    · cases h
  | finish pid =>
    simp only [schedulerStep] at h
    split at h
    · rename_i hphase
      cases h
      exact hgoOn hphase rfl (by simp)
    · cases h
  | wake pid =>
    simp only [schedulerStep] at h
    split at h
    · rename_i hphase
      simp only [Option.ite_none_right_eq_some] at h
      cases h.2
      exact hgoOn hphase rfl (by simp)
    · cases h
  | stop pid =>
    obtain ⟨phase, hphase, rfl⟩ := Option.map_eq_some_iff.mp h
    exact rolledBack_change hphase (by simp) rfl fun w hw => .inr (Table.mem_erase.mp hw)
  | other l =>
    simp only [schedulerStep, Option.ite_none_right_eq_some] at h
    obtain ⟨hforeign, h⟩ := h
    obtain ⟨queue, hrun, rfl⟩ := Option.map_eq_some_iff.mp h
    exact .other hforeign hrun rfl

/-! ### What is kept -/

structure ScheduleInv (s : SchedulerState) : Prop where
  queue : QueueInv s.queue
  /-- a row under a schedule's key is a job of that schedule -/
  typed : ∀ j ∈ s.queue.jobs.rows, ∀ (x : Schedule) b, j.dedupeKey = some (x.dedupeKey b) → j.jobType = x.jobType
  /-- the row of an open transaction is there, and committed or its own -/
  opened : ∀ w ∈ s.workers.rows, ∀ x time tx rest, w.phase = .sent x time tx rest →
    ∃ j ∈ s.queue.jobs.rows, j.dedupeKey = some (x.dedupeKey (x.bucket time)) ∧ (j.visible ∨ j.insertedBy = some tx)
  apart : ∀ w ∈ s.workers.rows, ∀ w' ∈ s.workers.rows, ∀ tx, SchedulerState.openTx w = some tx →
    SchedulerState.openTx w' = some tx → w.pid = w'.pid

theorem owned_of_mem {w : SchedulerWorker} {tx : Nat} (hw : w ∈ s.workers.rows)
    (htx : SchedulerState.openTx w = some tx) : s.owned tx = true :=
  List.any_eq_true.mpr ⟨w, hw, by simpa using htx⟩

theorem SchedulerChange.typed (hinv : ScheduleInv s) (h : SchedulerChange cfg s s' l) :
    ∀ j ∈ s'.queue.jobs.rows, ∀ (x : Schedule) b, j.dedupeKey = some (x.dedupeKey b) → j.jobType = x.jobType := by
  intro j' hj' y b hkey
  -- rows that were there keep their type; the only new one is the row a worker sends
  have hstems : ∀ {ql : QueueLabel}, queueStep cfg s.queue ql = some s'.queue →
      (∀ tx req now, ql = .enqueue tx req now → req.dedupeKey = some (y.dedupeKey b) → req.jobType = y.jobType) →
      j'.jobType = y.jobType := by
    intro ql hrun hnew
    rcases row_stems hrun hj' with ⟨j, hj, htype, hsame⟩ | ⟨tx, req, now, hl, htype, hsame⟩
    · rw [htype]
      exact hinv.typed j hj y b (hsame ▸ hkey)
    · rw [htype]
      exact hnew tx req now hl (hsame ▸ hkey)
  cases h with
  | quiet hqueue _ _ =>
    rw [hqueue] at hj'
    exact hinv.typed j' hj' y b hkey
  | send _ hrun _ =>
    refine hstems hrun fun tx req now hl hreq => ?_
    cases hl
    exact (dedupeKey_inj (Option.some.inj hreq)).1
  | commit _ hrun _ => exact hstems hrun fun _ _ _ hl => by cases hl
  | rollback _ _ hrun _ => exact hstems hrun fun _ _ _ hl => by cases hl
  | other hforeign hrun _ =>
    refine hstems hrun fun tx req now hl hreq => ?_
    subst hl
    simp only [SchedulerState.foreign, hreq, Option.all_some, dedupeKey_prefix, Bool.not_true, Bool.and_false,
      Bool.false_eq_true] at hforeign

theorem SchedulerChange.opened (hinv : ScheduleInv s) (h : SchedulerChange cfg s s' l) :
    ∀ w ∈ s'.workers.rows, ∀ x time tx rest, w.phase = .sent x time tx rest →
      ∃ j ∈ s'.queue.jobs.rows, j.dedupeKey = some (x.dedupeKey (x.bucket time)) ∧
        (j.visible ∨ j.insertedBy = some tx) := by
  intro w hw x time tx rest hphase
  have hopen : SchedulerState.openTx w = some tx := by rw [SchedulerState.openTx, hphase]
  -- a worker that had the transaction open still has its row, unless that transaction is rolled back
  have hstays : ∀ {ql : QueueLabel}, w ∈ s.workers.rows → queueStep cfg s.queue ql = some s'.queue →
      (∀ tx', ql = .rollback tx' → tx' ≠ tx) → ∃ j ∈ s'.queue.jobs.rows,
        j.dedupeKey = some (x.dedupeKey (x.bucket time)) ∧ (j.visible ∨ j.insertedBy = some tx) := by
    intro ql hold hrun hl
    obtain ⟨j, hj, hkey, hby⟩ := hinv.opened w hold x time tx rest hphase
    obtain ⟨j', hj', _, hkey', hby'⟩ := row_stays hrun hj fun tx' htx' hins => by
      rcases hby with hv | hown
      · rw [JobRow.visible, hins] at hv
        cases hv
      · rw [hins] at hown
        exact hl tx' htx' (Option.some.inj hown)
    refine ⟨j', hj', hkey'.trans hkey, ?_⟩
    rcases hby' with hsame | hv
    · rw [JobRow.visible, hsame]
      exact hby
    · exact .inl hv
  cases h with
  | quiet hqueue _ hworkers =>
    rw [hqueue]
    rcases hworkers w hw with hold | hnone
    · exact hinv.opened w hold x time tx rest hphase
    · rw [hopen] at hnone
      cases hnone
  | send hfree hrun hworkers =>
    rcases hworkers w hw with rfl | ⟨hold, _⟩
    · cases hphase
      exact enqueue_row hrun rfl
    · exact hstays hold hrun fun _ hl => by cases hl
  | commit _ hrun hworkers =>
    rcases hworkers w hw with rfl | ⟨hold, _⟩
    · cases hphase
    · exact hstays hold hrun fun _ hl => by cases hl
  | rollback hworker _ hrun hworkers =>
    rcases hworkers w hw with hnone | ⟨hold, hne⟩
    · rw [hopen] at hnone
      cases hnone
    · refine hstays hold hrun fun tx' hl heq => hne ?_
      cases hl
      exact hinv.apart w hold _ (Table.mem_of_get? hworker) tx hopen (by rw [SchedulerState.openTx, heq])
  | @other ql hforeign hrun hworkers =>
    rw [hworkers] at hw
    refine hstays hw hrun fun tx' hl heq => ?_
    subst hl heq
    simp [SchedulerState.foreign, owned_of_mem hw hopen] at hforeign

theorem SchedulerChange.apart (hinv : ScheduleInv s) (h : SchedulerChange cfg s s' l) :
    ∀ w ∈ s'.workers.rows, ∀ w' ∈ s'.workers.rows, ∀ tx, SchedulerState.openTx w = some tx →
      SchedulerState.openTx w' = some tx → w.pid = w'.pid := by
  intro w hw w' hw' tx hopen hopen'
  have hold : ∀ {x : SchedulerWorker}, SchedulerState.openTx x = some tx →
      (x ∈ s.workers.rows ∨ SchedulerState.openTx x = none) → x ∈ s.workers.rows := by
    intro x hx hcases
    refine hcases.resolve_right fun hnone => ?_
    rw [hx] at hnone
    cases hnone
  cases h with
  | quiet _ _ hworkers =>
    exact hinv.apart w (hold hopen (hworkers w hw)) w' (hold hopen' (hworkers w' hw')) tx hopen hopen'
  | @send pid x tx' rest now hfree hrun hworkers =>
    -- the new transaction is nobody else's
    have hnew : ∀ {x : SchedulerWorker}, x ∈ s.workers.rows → SchedulerState.openTx x ≠ some tx' := by
      intro x hx heq
      have := owned_of_mem hx heq
      simp [SchedulerState.freeTx, this] at hfree
    rcases hworkers w hw with rfl | ⟨hw, _⟩
    · rcases hworkers w' hw' with rfl | ⟨hw', _⟩
      · rfl
      · cases hopen
        exact absurd hopen' (hnew hw')
    · rcases hworkers w' hw' with rfl | ⟨hw', _⟩
      · cases hopen'
        exact absurd hopen (hnew hw)
      · exact hinv.apart w hw w' hw' tx hopen hopen'
  | commit _ _ hworkers =>
    have hcases : ∀ {x : SchedulerWorker}, x ∈ s'.workers.rows → x ∈ s.workers.rows ∨ SchedulerState.openTx x = none := by
      intro x hx
      rcases hworkers x hx with rfl | hkept
      · exact .inr rfl
      · exact .inl hkept.1
    exact hinv.apart w (hold hopen (hcases hw)) w' (hold hopen' (hcases hw')) tx hopen hopen'
  | rollback _ _ _ hworkers =>
    have hcases : ∀ {x : SchedulerWorker}, x ∈ s'.workers.rows → x ∈ s.workers.rows ∨ SchedulerState.openTx x = none :=
      fun hx => (hworkers _ hx).symm.imp And.left id
    exact hinv.apart w (hold hopen (hcases hw)) w' (hold hopen' (hcases hw')) tx hopen hopen'
  | other _ _ hworkers =>
    rw [hworkers] at hw hw'
    exact hinv.apart w hw w' hw' tx hopen hopen'

theorem ScheduleInv.step (hinv : ScheduleInv s) (h : schedulerStep cfg schedules s l = some s') : ScheduleInv s' := by
  have hchange := schedulerStep_cases h
  refine ⟨?_, hchange.typed hinv, hchange.opened hinv, hchange.apart hinv⟩
  cases hchange with
  | quiet hqueue _ _ =>
    rw [hqueue]
    exact hinv.queue
  | send _ hrun _ => exact hinv.queue.step hrun
  | commit _ hrun _ => exact hinv.queue.step hrun
  | rollback _ _ hrun _ => exact hinv.queue.step hrun
  | other _ hrun _ => exact hinv.queue.step hrun

theorem SchedulerState.Initial.inv (h₀ : s₀.Initial) : ScheduleInv s₀ where
  queue := h₀.queue.inv
  typed j hj := by
    rw [h₀.queue.jobs] at hj
    cases hj
  opened w hw := by
    rw [h₀.workers] at hw
    cases hw
  apart w hw := by
    rw [h₀.workers] at hw
    cases hw

theorem SchedulerRun.inv (h₀ : s₀.Initial) (run : SchedulerRun cfg schedules s₀ tr s) : ScheduleInv s :=
  Exec.invariant h₀.inv (fun hs hinv => hinv.step hs) run

/-! ### Runs -/

/-- The time that was read for the job `x` by the pass of the worker `pid`, when the step commits it. -/
def readOf (pid : Id) (x : Schedule) (t : Taken SchedulerState SchedulerLabel) : Option ℚ :=
  match t.label with
  | .commit p =>
    match t.pre.phase? p with
    | some (.sent y time _ _) => if p = pid ∧ y = x then some time else none
    | _ => none
  | _ => none

/-- The times for which the worker `pid` enqueued the job `x`, newest first. -/
def reads (pid : Id) (x : Schedule) (tr : List (Taken SchedulerState SchedulerLabel)) : List ℚ :=
  tr.filterMap (readOf pid x)

/-- The job of this bucket is on the queue: committed, under its key, and as a job of this type. -/
def Enqueued (s : SchedulerState) (x : Schedule) (bucket : ℤ) : Prop :=
  ∃ j ∈ s.queue.jobs.rows, j.visible ∧ j.dedupeKey = some (x.dedupeKey bucket) ∧ j.jobType = x.jobType

theorem Enqueued.of_queueStep {ql : QueueLabel} {x : Schedule} {b : ℤ} (h : Enqueued s x b)
    (hrun : queueStep cfg s.queue ql = some s'.queue) : Enqueued s' x b := by
  obtain ⟨j, hj, hv, hkey, htype⟩ := h
  obtain ⟨j', hj', htype', hkey', hby⟩ := row_stays hrun hj fun tx _ hins => by
    rw [JobRow.visible, hins] at hv
    cases hv
  refine ⟨j', hj', ?_, hkey'.trans hkey, htype'.trans htype⟩
  rcases hby with hsame | hv'
  · exact hsame.trans hv
  · exact hv'

theorem Enqueued.step {x : Schedule} {b : ℤ} (h : Enqueued s x b) (hs : schedulerStep cfg schedules s l = some s') :
    Enqueued s' x b := by
  cases schedulerStep_cases hs with
  | quiet hqueue _ _ =>
    rw [Enqueued, hqueue]
    exact h
  | send _ hrun _ => exact h.of_queueStep hrun
  | commit _ hrun _ => exact h.of_queueStep hrun
  | rollback _ _ hrun _ => exact h.of_queueStep hrun
  | other _ hrun _ => exact h.of_queueStep hrun

/-- A commit leaves the job of the bucket it was for on the queue. -/
theorem enqueued_of_commit {pid : Id} {x : Schedule} {time : ℚ} (hinv : ScheduleInv s)
    (hs : schedulerStep cfg schedules s l = some s') (hread : readOf pid x ⟨s, l, s'⟩ = some time) :
    Enqueued s' x (x.bucket time) := by
  unfold readOf at hread
  split at hread
  · rename_i p hl
    split at hread
    · rename_i y time' tx rest hphase
      simp only [Option.ite_none_right_eq_some, Option.some.injEq] at hread
      obtain ⟨⟨rfl, rfl⟩, rfl⟩ := hread
      have hl : l = .commit p := hl
      subst hl
      have hw := phase?_eq_some.mp hphase
      obtain ⟨j, hj, hkey, hby⟩ := hinv.opened _ (Table.mem_of_get? hw) y time' tx rest rfl
      have htype := hinv.typed j hj y _ hkey
      simp only [schedulerStep, hphase, queueStep, Option.map_some, Option.some.injEq] at hs
      subst hs
      refine ⟨j.commit tx, List.mem_map.mpr ⟨j, hj, rfl⟩, ?_, ?_, ?_⟩
      · rw [JobRow.commit]
        rcases hby with hv | hown
        · rw [if_neg (by rw [hv]; simp)]
          exact hv
        · rw [if_pos hown]
          rfl
      · rw [(commit_row tx j).2.1, hkey]
      · rw [(commit_row tx j).1, htype]
    · cases hread
  · cases hread

theorem enqueued_of_read (h₀ : s₀.Initial) (run : SchedulerRun cfg schedules s₀ tr s) {pid : Id} {x : Schedule} :
    ∀ time ∈ reads pid x tr, Enqueued s x (x.bucket time) := by
  induction run with
  | nil =>
    intro time ht
    cases ht
  | cons run hs ih =>
    intro time ht
    obtain ⟨t, ht, hread⟩ := List.mem_filterMap.mp ht
    rcases List.mem_cons.mp ht with rfl | hold
    · exact enqueued_of_commit (SchedulerRun.inv h₀ run) hs hread
    · exact (ih time (List.mem_filterMap.mpr ⟨t, hold, hread⟩)).step hs

/-! ### Buckets -/

/-- From one read to a read at most an interval later, no bucket is passed over. -/
theorem bucket_le_succ {x : Schedule} {earlier later : ℚ} (hx : 0 < x.intervalSeconds)
    (h : later ≤ earlier + x.intervalSeconds) : x.bucket later ≤ x.bucket earlier + 1 := by
  have hx' : (0 : ℚ) < x.intervalSeconds := by exact_mod_cast hx
  have hdiv : later / x.intervalSeconds ≤ earlier / x.intervalSeconds + 1 := by
    rw [div_add_one hx'.ne', div_le_div_iff_of_pos_right hx']
    exact h
  calc x.bucket later ≤ ⌊earlier / x.intervalSeconds + 1⌋ := Int.floor_le_floor hdiv
    _ = x.bucket earlier + 1 := Int.floor_add_one _

/-- Reads that follow each other within an interval leave no bucket out, from the oldest to the newest. -/
theorem buckets_covered {x : Schedule} (hx : 0 < x.intervalSeconds) : ∀ {times : List ℚ} {newest : ℚ},
    (newest :: times).IsChain (fun later earlier : ℚ => later ≤ earlier + x.intervalSeconds) →
    ∀ oldest ∈ (newest :: times).getLast?, ∀ b, x.bucket oldest ≤ b → b ≤ x.bucket newest →
      ∃ time ∈ newest :: times, x.bucket time = b
  | [], newest, _, oldest, holdest, b, hlow, hhigh => by
      have : newest = oldest := by simpa using holdest
      subst this
      exact ⟨newest, List.mem_cons_self, le_antisymm hlow hhigh⟩
  | earlier :: times, newest, hchain, oldest, holdest, b, hlow, hhigh => by
      rw [List.isChain_cons_cons] at hchain
      by_cases hb : b ≤ x.bucket earlier
      · obtain ⟨time, htime, heq⟩ := buckets_covered hx hchain.2 oldest
          (by simpa [List.getLast?_cons_cons] using holdest) b hlow hb
        exact ⟨time, List.mem_cons_of_mem newest htime, heq⟩
      · have hstep := bucket_le_succ hx hchain.1
        exact ⟨newest, List.mem_cons_self, by omega⟩

/-- The wait is at most half of every interval of two seconds or more. -/
theorem tickSeconds_le {tick : ℚ} (h : tickSeconds schedules = some tick) {x : Schedule} (hx : x ∈ schedules)
    (hslow : ∀ y ∈ schedules, 0 < y.intervalSeconds → 2 ≤ y.intervalSeconds) (hpos : 0 < x.intervalSeconds) :
    tick ≤ x.intervalSeconds / 2 := by
  obtain ⟨shortest, hmin, rfl⟩ := Option.map_eq_some_iff.mp h
  obtain ⟨hmem, hle⟩ := List.min?_eq_some_iff.mp hmin
  obtain ⟨hmem, hshort⟩ := List.mem_filter.mp hmem
  obtain ⟨y, hy, rfl⟩ := List.mem_map.mp hmem
  have hy2 : 2 ≤ y.intervalSeconds := hslow y hy (by simpa using hshort)
  have hyx : y.intervalSeconds ≤ x.intervalSeconds :=
    hle _ (List.mem_filter.mpr ⟨List.mem_map.mpr ⟨x, hx, rfl⟩, by simpa using hpos⟩)
  have hy2' : (2 : ℚ) ≤ y.intervalSeconds := by exact_mod_cast hy2
  have hyx' : (y.intervalSeconds : ℚ) ≤ x.intervalSeconds := by exact_mod_cast hyx
  rw [max_le_iff]
  constructor
  · linarith
  · linarith

-- an interval of one second is not halved, so a pass that takes any time can step over a bucket
example : tickSeconds [⟨"sweep_stale_orders", 1⟩] = some 1 := by decide +kernel

/-- What the schedulers and the queue promise together. -/
structure ScheduledOnce (schedules : List Schedule) (tr : List (Taken SchedulerState SchedulerLabel))
    (s : SchedulerState) : Prop where
  /-- a bucket of a job is enqueued at most once, whoever is first -/
  once : ∀ (x : Schedule) b, ∀ j ∈ s.queue.jobs.rows, ∀ j' ∈ s.queue.jobs.rows,
    j.dedupeKey = some (x.dedupeKey b) → j'.dedupeKey = some (x.dedupeKey b) → j = j'
  /-- and once a worker committed it, it stays -/
  kept : ∀ pid x, ∀ time ∈ reads pid x tr, Enqueued s x (x.bucket time)
  /-- a worker whose passes take no more than half an interval leaves no bucket out -/
  covered : ∀ tick ∈ tickSeconds schedules, (∀ y ∈ schedules, 0 < y.intervalSeconds → 2 ≤ y.intervalSeconds) →
    ∀ pid, ∀ x ∈ schedules, 0 < x.intervalSeconds →
    (reads pid x tr).IsChain (fun later earlier => later ≤ earlier + tick + x.intervalSeconds / 2) →
    ∀ newest ∈ (reads pid x tr).head?, ∀ oldest ∈ (reads pid x tr).getLast?,
    ∀ b, x.bucket oldest ≤ b → b ≤ x.bucket newest → Enqueued s x b

/-- The periodic jobs, for any number of workers, any order of their steps and whatever else uses the queue. -/
theorem scheduled_once (h₀ : s₀.Initial) (run : SchedulerRun cfg schedules s₀ tr s) : ScheduledOnce schedules tr s := by
  have hinv := SchedulerRun.inv h₀ run
  refine ⟨fun x b j hj j' hj' hkey hkey' => ?_, fun pid x time ht => enqueued_of_read h₀ run time ht, ?_⟩
  · exact s.queue.jobs.eq_of_key_eq hj hj' (hinv.queue.rows.keys j hj j' hj' _ hkey hkey')
  · intro tick htick hslow pid x hx hpos hchain newest hnewest oldest holdest b hlow hhigh
    have hhalf := tickSeconds_le htick hx hslow hpos
    have hchain' : (reads pid x tr).IsChain (fun later earlier : ℚ => later ≤ earlier + x.intervalSeconds) :=
      hchain.imp fun later earlier h => by linarith
    cases hreads : reads pid x tr with
    | nil =>
      rw [hreads] at hnewest
      cases hnewest
    | cons first times =>
      rw [hreads] at hchain' hnewest holdest
      cases hnewest
      obtain ⟨time, htime, rfl⟩ := buckets_covered hpos hchain' oldest holdest b hlow hhigh
      exact enqueued_of_read h₀ run time (hreads ▸ htime)

end

/-! ### Two workers -/

def sweepStaleOrders : Schedule := ⟨"sweep_stale_orders", 60⟩

def noSchedulers : SchedulerState := ⟨emptyQueue, 0, .empty⟩

theorem noSchedulers_initial : noSchedulers.Initial := ⟨emptyQueue_initial, rfl⟩

/-- Two workers pass over the first minute, then one of them over the second. -/
theorem scheduled_once_two_workers : ∃ tr s, SchedulerRun ⟨60, 0, 0⟩ [sweepStaleOrders] noSchedulers tr s ∧
    s.queue.jobs.rows.length = 2 ∧ (reads 1 sweepStaleOrders tr).length = 3 ∧ (reads 2 sweepStaleOrders tr).length = 1 ∧
      ScheduledOnce [sweepStaleOrders] tr s := by
  obtain ⟨tr, s, run, hrows, hfirst, hsecond⟩ := exists_exec (schedulerStep ⟨60, 0, 0⟩ [sweepStaleOrders]) noSchedulers
    (P := fun tr s => s.queue.jobs.rows.length = 2 ∧ (reads 1 sweepStaleOrders tr).length = 3 ∧
      (reads 2 sweepStaleOrders tr).length = 1)
    [.start 1, .start 2, .send 1 1 0, .commit 1, .send 2 2 0, .commit 2, .finish 1, .finish 2,
      .advance 30, .wake 1, .send 1 3 0, .commit 1, .finish 1, .advance 30, .wake 1, .send 1 4 0, .commit 1]
    (by decide +kernel)
  exact ⟨tr, s, run, hrows, hfirst, hsecond, scheduled_once noSchedulers_initial run⟩

end NovaCart
