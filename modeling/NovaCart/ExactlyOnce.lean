import NovaCart.Processes

/-! Webhook events take effect once.

    Deliveries of one event serialise on its row in `processed_webhook_events`: an open delivery holds
    the key, so while it runs the row stays claimable (`KeyLock`). Counting the deliveries that
    committed and the failures that were recorded, the row tells both numbers (`Tally`). -/

namespace NovaCart

open Schemes

variable {cfg : Settings} {s s' s₀ : Sys} {l : Label} {tr : List (Taken Sys Label)}

/-! ### The row of an event -/

/-- The identity under which deliveries of an event are recognised. -/
def WebhookEvent.key (e : WebhookEvent) : Provider × String := (e.provider, e.eventId)

theorem upsertEvent_get? (db : Db) (row : ProcessedWebhookEvent) (k : Provider × String) :
    (db.upsertEvent row).events.get? k
      = if k = (row.provider, row.eventId) then some row else db.events.get? k := by
  have hkey : Keyed.key row = (row.provider, row.eventId) := rfl
  unfold Db.upsertEvent
  cases hins : db.events.insert? row with
  | none =>
    have htaken := Table.insert?_eq_none.mp hins
    obtain ⟨old, hold⟩ := Option.ne_none_iff_exists'.mp htaken
    by_cases hk : k = (row.provider, row.eventId)
    · rw [hkey] at hold
      simp [Table.get?_replace, hkey, hk, hold]
    · simp [Table.get?_replace, hkey, hk]
  | some t =>
    rw [Table.get?_insert? hins, hkey]
    by_cases hk : k = (row.provider, row.eventId)
    · simp [hk]
    · simp [hk, Ne.symm hk]

/-- The row that a committed delivery leaves. -/
def finalRow (db : Db) (e : WebhookEvent) : ProcessedWebhookEvent where
  provider := e.provider
  eventId := e.eventId
  eventType := e.eventType
  status := if e.eventType.handled then .processed else .ignored
  attempts := claimAttempts db e
  lastError := none

theorem finalRow_status (db : Db) (e : WebhookEvent) : (finalRow db e).status ≠ .failed := by
  unfold finalRow
  by_cases hh : e.eventType.handled = true
  · simp [hh]
  · simp [hh]

theorem markWebhookVerified_events (db : Db) (c : Option Id) :
    (markWebhookVerified db c).events = db.events :=
  (markWebhookVerified_within db c).events (by simp)

theorem claimAttempts_congr {db db' : Db} (h : db'.events = db.events) (e : WebhookEvent) :
    claimAttempts db' e = claimAttempts db e := by
  unfold claimAttempts
  rw [h]

/-- A committed delivery writes the final row of its own event and no other row. -/
theorem processWebhookEvent_events {seen db db' : Db} {e : WebhookEvent} {id : Id} {now : Time}
    (h : processWebhookEvent cfg seen db e id now = .ok db') (k : Provider × String) :
    db'.events.get? k = if k = e.key then some (finalRow db e) else db.events.get? k := by
  obtain ⟨db₁, h₁, h⟩ := processWebhookEvent_ok h
  have hframe : db₁.events = db.events := (handleEvent_within h₁).events (by decide)
  have hdb' : db' = db₁.upsertEvent (finalRow db e) := (Except.ok.inj h).symm
  rw [hdb', upsertEvent_get?, hframe]
  rfl

/-- The row that a recorded failure leaves. -/
def failedRow (db : Db) (e : WebhookEvent) (message : String) : ProcessedWebhookEvent :=
  match db.events.get? e.key with
  | none => ⟨e.provider, e.eventId, e.eventType, .failed, 1, some message⟩
  | some row => { row with attempts := row.attempts + 1, lastError := some message }

theorem failedRow_attempts (db : Db) (e : WebhookEvent) (message : String) :
    (failedRow db e message).attempts = claimAttempts db e := by
  unfold failedRow claimAttempts WebhookEvent.key
  cases db.events.get? (e.provider, e.eventId) with
  | none => rfl
  | some row => rfl

theorem failedRow_status {db : Db} {e : WebhookEvent} (hc : claimable db e = true)
    (message : String) : (failedRow db e message).status = .failed := by
  unfold claimable at hc
  unfold failedRow WebhookEvent.key
  cases hrow : db.events.get? (e.provider, e.eventId) with
  | none => rfl
  | some row =>
    rw [hrow] at hc
    simpa using hc

/-- A failure is recorded on an event that may still be claimed; a processed event stays as it is. -/
theorem recordFailedEvent_cases {db db' : Db} {e : WebhookEvent} {message : String}
    (h : recordFailedEvent db e message = .ok db') :
    (claimable db e = false ∧ db' = db) ∨
      (claimable db e = true ∧ db' = db.upsertEvent (failedRow db e message)) := by
  unfold recordFailedEvent at h
  unfold claimable failedRow WebhookEvent.key
  cases hrow : db.events.get? (e.provider, e.eventId) with
  | none =>
    rw [hrow] at h
    exact .inr ⟨rfl, (Except.ok.inj h).symm⟩
  | some row =>
    rw [hrow] at h
    dsimp only at h
    by_cases hs : row.status = .failed
    · rw [if_pos hs] at h
      exact .inr ⟨by simp [hs], (Except.ok.inj h).symm⟩
    · rw [if_neg hs] at h
      exact .inl ⟨by simp [hs], (Except.ok.inj h).symm⟩

theorem failedRow_key (db : Db) (e : WebhookEvent) (message : String) :
    ((failedRow db e message).provider, (failedRow db e message).eventId) = e.key := by
  unfold failedRow
  cases hrow : db.events.get? e.key with
  | none => rfl
  | some row => exact Table.key_of_get? hrow

theorem recordFailedEvent_events (db : Db) (e : WebhookEvent) (message : String)
    (k : Provider × String) :
    (db.upsertEvent (failedRow db e message)).events.get? k
      = if k = e.key then some (failedRow db e message) else db.events.get? k := by
  rw [upsertEvent_get?, failedRow_key]

/-! ### An open delivery holds its key -/

structure KeyLock (s : Sys) : Prop where
  claimable : ∀ pid e seen, ⟨pid, .delivery e seen⟩ ∈ s.procs.rows → claimable s.db e = true
  unique : ∀ pid pid' e e' seen seen', ⟨pid, .delivery e seen⟩ ∈ s.procs.rows →
    ⟨pid', .delivery e' seen'⟩ ∈ s.procs.rows → e.key = e'.key → pid = pid'

theorem keyHeld_false {e e' : WebhookEvent} {pid : Id} {seen : Db}
    (hfree : s.keyHeld e.provider e.eventId = false)
    (hmem : ⟨pid, .delivery e' seen⟩ ∈ s.procs.rows) : e'.key ≠ e.key := by
  intro heq
  have hheld : s.keyHeld e.provider e.eventId = true := by
    refine List.any_eq_true.mpr ⟨_, hmem, ?_⟩
    simpa [Proc.holdsKey, WebhookEvent.key] using heq
  rw [hheld] at hfree
  cases hfree

theorem claimable_congr {db db' : Db} {e : WebhookEvent}
    (h : db'.events.get? e.key = db.events.get? e.key) : claimable db' e = claimable db e := by
  unfold claimable
  unfold WebhookEvent.key at h
  rw [h]

theorem recoverRow_events (seen db : Db) (row : DeferredWebhookEvent) (id : Id) (now : Time) :
    (recoverRow cfg seen db row id now).events = db.events :=
  (recoverRow_within cfg seen db row id now).events (by decide)

/-- The row of an open delivery is not written by the steps of others. -/
theorem KeyLock.row_kept (hk : KeyLock s) (h : Transition cfg s l s') {pid : Id} {e : WebhookEvent}
    {seen : Db} (hold : ⟨pid, .delivery e seen⟩ ∈ s.procs.rows)
    (hstays : ⟨pid, .delivery e seen⟩ ∈ s'.procs.rows) :
    s'.db.events.get? e.key = s.db.events.get? e.key := by
  rcases h.webhook_or_plain with ⟨pid', newId, now, e', seen', db, rfl, hproc, hrun, rfl⟩ |
    ⟨pid', message, e', db, rfl, hproc, hfree, hrun, rfl⟩ | ⟨pid', newId, now, row, seen', rfl, _, rfl⟩ |
    hplain
  · have hne : e.key ≠ e'.key := by
      intro heq
      have hpid := hk.unique _ _ _ _ _ _ hold (proc?_eq_some.mp hproc) heq
      exact (mem_finish.mp hstays).2 hpid
    have hrow := processWebhookEvent_events hrun e.key
    rw [if_neg hne, markWebhookVerified_events] at hrow
    exact hrow
  · have hne : e.key ≠ e'.key := keyHeld_false hfree hold
    rcases recordFailedEvent_cases hrun with ⟨_, rfl⟩ | ⟨_, rfl⟩
    · rfl
    · have hrow := recordFailedEvent_events s.db e' message e.key
      rw [if_neg hne] at hrow
      exact hrow
  · exact congrArg (·.get? e.key) (recoverRow_events seen' s.db row newId now)
  · exact congrArg (·.get? e.key) (hplain.events (by decide))

theorem Born.delivery {db' : Db} {pid : Id} {e : WebhookEvent} {seen : Db}
    (h : Born cfg s db' ⟨pid, .delivery e seen⟩) :
    NovaCart.claimable s.db e = true ∧ s.keyHeld e.provider e.eventId = false ∧ db' = s.db := by
  cases h with
  | started hp hdb =>
    cases hp with
    | delivery _ hfree hclaim => exact ⟨hclaim, hfree, hdb⟩
  | continued _ hp _ => cases hp

theorem keyLock_step (h : step cfg s l = some s') (hk : KeyLock s) : KeyLock s' := by
  have ht := step_transition h
  refine ⟨fun pid e seen hmem => ?_, fun pid pid' e e' seen seen' hmem hmem' heq => ?_⟩
  · rcases ht.entries hmem with hold | hborn
    · rw [claimable_congr (hk.row_kept ht hold hmem)]
      exact hk.claimable pid e seen hold
    · obtain ⟨hclaim, _, hdb⟩ := hborn.delivery
      rw [hdb]
      exact hclaim
  · by_cases hold : ⟨pid, .delivery e seen⟩ ∈ s.procs.rows
    · rcases ht.entries hmem' with hold' | hborn'
      · exact hk.unique _ _ _ _ _ _ hold hold' heq
      · obtain ⟨_, hfree, _⟩ := hborn'.delivery
        exact absurd heq (keyHeld_false hfree hold)
    · obtain ⟨_, hfree, _⟩ := ((ht.entries hmem).resolve_left hold).delivery
      by_cases hold' : ⟨pid', .delivery e' seen'⟩ ∈ s.procs.rows
      · exact absurd heq.symm (keyHeld_false hfree hold')
      · have hsame := ht.newcomer hmem hold hmem' hold'
        exact congrArg Entry.pid hsame

theorem Initial.keyLock (h₀ : Initial s₀) : KeyLock s₀ := by
  have hnone : ∀ x : Entry, x ∉ s₀.procs.rows := by
    intro x hx
    rw [h₀.procs] at hx
    cases hx
  exact ⟨fun _ _ _ hmem => absurd hmem (hnone _), fun _ _ _ _ _ _ hmem => absurd hmem (hnone _)⟩

theorem keyLock_of_run (h₀ : Initial s₀) (h : Run cfg s₀ tr s) : KeyLock s :=
  h.invariant h₀.keyLock keyLock_step

/-! ### Counting attempts -/

/-- A delivery of the event with key `k` committed in this step. -/
def commitsEvent (cfg : Settings) (k : Provider × String) (t : Taken Sys Label) : Bool :=
  match t.label with
  | .process pid newId now =>
    match t.pre.proc? pid with
    | some (.delivery e seen) => e.key = k ∧
        (processWebhookEvent cfg seen (markWebhookVerified t.pre.db e.configId) e newId now).isOk
    | _ => false
  | _ => false

/-- A failed delivery of the event with key `k` was recorded in this step. -/
def recordsFailure (k : Provider × String) (t : Taken Sys Label) : Bool :=
  match t.label with
  | .recordFailure pid _ =>
    match t.pre.proc? pid with
    | some (.failed e) => e.key = k ∧ claimable t.pre.db e
    | _ => false
  | _ => false

/-- A delivery failed midway in this step: its handler raised, something around it did, or its process
    died. -/
def attemptFails (cfg : Settings) (t : Taken Sys Label) : Bool :=
  match t.label with
  | .process pid newId now =>
    match t.pre.proc? pid with
    | some (.delivery e seen) =>
      !(processWebhookEvent cfg seen (markWebhookVerified t.pre.db e.configId) e newId now).isOk
    | _ => false
  | .abort _ => true
  | .crash pid =>
    match t.pre.proc? pid with
    | some (.delivery _ _) => true
    | _ => false
  | _ => false

/-- What the row of an event tells about its deliveries: none counted, only failures, or exactly one
    that committed. -/
def Tally (row : Option ProcessedWebhookEvent) (commits failures : Nat) : Prop :=
  match row with
  | none => commits = 0 ∧ failures = 0
  | some r => (r.status = .failed ∧ commits = 0 ∧ r.attempts = failures) ∨
      (r.status ≠ .failed ∧ commits = 1 ∧ r.attempts = failures + 1)

theorem Tally.claimable {db : Db} {e : WebhookEvent} {commits failures : Nat}
    (h : Tally (db.events.get? e.key) commits failures) (hc : NovaCart.claimable db e = true) :
    commits = 0 ∧ claimAttempts db e = failures + 1 := by
  unfold NovaCart.claimable at hc
  unfold claimAttempts
  unfold WebhookEvent.key at h
  cases hrow : db.events.get? (e.provider, e.eventId) with
  | none =>
    rw [hrow] at h
    obtain ⟨hcommits, hfailures⟩ := h
    exact ⟨hcommits, by simp [hfailures]⟩
  | some row =>
    rw [hrow] at h hc
    have hs : row.status = .failed := by simpa using hc
    rcases h with ⟨_, hcommits, hattempts⟩ | ⟨hne, _⟩
    · exact ⟨hcommits, by simp [hattempts]⟩
    · exact absurd hs hne

/-- Steps other than a delivery's and a failure recorder's write no event row. -/
theorem events_kept (h : step cfg s l = some s') (hp : ∀ pid newId now, l ≠ .process pid newId now)
    (hf : ∀ pid message, l ≠ .recordFailure pid message) : s'.db.events = s.db.events := by
  rcases (step_transition h).webhook_or_plain with ⟨pid, newId, now, _, _, _, rfl, _⟩ |
    ⟨pid, message, _, _, rfl, _⟩ | ⟨pid, newId, now, row, seen, rfl, _, rfl⟩ | hplain
  · exact absurd rfl (hp pid newId now)
  · exact absurd rfl (hf pid message)
  · exact recoverRow_events seen s.db row newId now
  · exact hplain.events (by decide)

/-- The step of a delivery: it commits its final row, or nothing. -/
theorem process_step {pid newId : Id} {now : Time} (h : step cfg s (.process pid newId now) = some s') :
    ∃ e seen, s.proc? pid = some (.delivery e seen) ∧
      ((∃ db, processWebhookEvent cfg seen (markWebhookVerified s.db e.configId) e newId now = .ok db ∧
          s'.db = db) ∨
        ((processWebhookEvent cfg seen (markWebhookVerified s.db e.configId) e newId now).isOk = false ∧
          s'.db = s.db)) := by
  simp only [step] at h
  split at h
  · rename_i e seen hproc
    refine ⟨e, seen, hproc, ?_⟩
    cases h
    unfold NovaCart.process
    cases hrun : processWebhookEvent cfg seen (markWebhookVerified s.db e.configId) e newId now with
    | ok db => exact .inl ⟨db, rfl, rfl⟩
    | error err => exact .inr ⟨rfl, rfl⟩
  · cases h

/-- The step of a failure recorder. -/
theorem recordFailure_step {pid : Id} {message : String}
    (h : step cfg s (.recordFailure pid message) = some s') :
    ∃ e, s.proc? pid = some (.failed e) ∧
      ((claimable s.db e = false ∧ s'.db = s.db) ∨
        (claimable s.db e = true ∧ s'.db = s.db.upsertEvent (failedRow s.db e message))) := by
  simp only [step] at h
  split at h
  · rename_i e hproc
    refine ⟨e, hproc, ?_⟩
    split at h
    · cases h
    · cases h
      cases hrun : recordFailedEvent s.db e message with
      | ok db => exact recordFailedEvent_cases hrun
      | error err =>
        -- the recorder sends an upsert, which no constraint refuses
        exfalso
        unfold recordFailedEvent at hrun
        split at hrun
        · cases hrun
        · split at hrun
          · cases hrun
          · cases hrun
  · cases h

/-- One step keeps the tally of every event. -/
theorem tally_step (hk : KeyLock s) (h : step cfg s l = some s') (k : Provider × String)
    {commits failures : Nat} (hT : Tally (s.db.events.get? k) commits failures) :
    Tally (s'.db.events.get? k) (commits + if commitsEvent cfg k ⟨s, l, s'⟩ then 1 else 0)
      (failures + if recordsFailure k ⟨s, l, s'⟩ then 1 else 0) := by
  have hother : (∀ pid newId now, l ≠ .process pid newId now) →
      (∀ pid message, l ≠ .recordFailure pid message) →
      Tally (s'.db.events.get? k) (commits + 0) (failures + 0) := by
    intro hp hf
    rw [events_kept h hp hf]
    exact hT
  cases l with
  | process pid newId now =>
    obtain ⟨e, seen, hproc, hcase⟩ := process_step h
    simp only [commitsEvent, recordsFailure, hproc]
    rcases hcase with ⟨db, hrun, hdb⟩ | ⟨herr, hdb⟩
    · have hrow := processWebhookEvent_events hrun k
      rw [hdb, hrow, hrun, markWebhookVerified_events]
      by_cases hkey : k = e.key
      · -- the holder's row is claimable, so nothing was committed for the event before
        subst hkey
        obtain ⟨hzero, hattempts⟩ :=
          hT.claimable (hk.claimable pid e seen (proc?_eq_some.mp hproc))
        rw [if_pos rfl]
        refine .inr ⟨finalRow_status _ e, ?_, ?_⟩
        · simp [hzero, Except.isOk, Except.toBool]
        · have hcongr := claimAttempts_congr (markWebhookVerified_events s.db e.configId) e
          simpa [finalRow, hcongr] using hattempts
      · simpa [hkey, Ne.symm hkey] using hT
    · rw [hdb]
      simpa [herr] using hT
  | recordFailure pid message =>
    obtain ⟨e, hproc, hcase⟩ := recordFailure_step h
    simp only [commitsEvent, recordsFailure, hproc]
    rcases hcase with ⟨hc, hdb⟩ | ⟨hc, hdb⟩
    · rw [hdb]
      simpa [hc] using hT
    · rw [hdb, recordFailedEvent_events]
      by_cases hkey : k = e.key
      · subst hkey
        obtain ⟨hzero, hattempts⟩ := hT.claimable hc
        rw [if_pos rfl]
        refine .inl ⟨failedRow_status hc message, by simp [hzero], ?_⟩
        rw [failedRow_attempts, hattempts]
        simp [hc]
      · simpa [hkey, Ne.symm hkey] using hT
  | _ => exact hother (by simp) (by simp)

theorem tally_of_run (h₀ : Initial s₀) (h : Run cfg s₀ tr s) (k : Provider × String) :
    Tally (s.db.events.get? k) (tr.countP (commitsEvent cfg k)) (tr.countP (recordsFailure k)) := by
  refine Exec.history (I := fun tr s =>
    Tally (s.db.events.get? k) (tr.countP (commitsEvent cfg k)) (tr.countP (recordsFailure k))) ?_
    (fun {tr s l s'} run hs ih => ?_) h
  · rw [h₀.events]
    exact ⟨rfl, rfl⟩
  · rw [List.countP_cons, List.countP_cons]
    exact tally_step (keyLock_of_run h₀ run) hs k ih

/-! ### Failed attempts and late failures -/

theorem attemptFails_db (h : step cfg s l = some s') (hf : attemptFails cfg ⟨s, l, s'⟩ = true) :
    s'.db = s.db := by
  cases l with
  | process pid newId now =>
    obtain ⟨e, seen, hproc, ⟨db, hrun, _⟩ | ⟨_, hdb⟩⟩ := process_step h
    · simp [attemptFails, hproc, hrun, Except.isOk, Except.toBool] at hf
    · exact hdb
  | abort pid =>
    simp only [step] at h
    split at h
    · cases h; rfl
    · cases h
  | crash pid =>
    simp only [step, Option.map_eq_some_iff] at h
    obtain ⟨_, _, rfl⟩ := h
    rfl
  | _ => simp [attemptFails] at hf

/-- An event that was processed keeps its row for good. -/
theorem finalRow_kept (hk : KeyLock s) (h : step cfg s l = some s') {k : Provider × String}
    {row : ProcessedWebhookEvent} (hrow : s.db.events.get? k = some row) (hs : row.status ≠ .failed) :
    s'.db.events.get? k = some row := by
  have hfinal : ∀ e : WebhookEvent, claimable s.db e = true → k ≠ e.key := by
    rintro e hc rfl
    unfold claimable at hc
    unfold WebhookEvent.key at hrow
    rw [hrow] at hc
    exact hs (by simpa using hc)
  cases l with
  | process pid newId now =>
    obtain ⟨e, seen, hproc, ⟨db, hrun, hdb⟩ | ⟨_, hdb⟩⟩ := process_step h
    · have hne := hfinal e (hk.claimable pid e seen (proc?_eq_some.mp hproc))
      rw [hdb, processWebhookEvent_events hrun k, if_neg hne, markWebhookVerified_events, hrow]
    · rw [hdb, hrow]
  | recordFailure pid message =>
    obtain ⟨e, hproc, ⟨_, hdb⟩ | ⟨hc, hdb⟩⟩ := recordFailure_step h
    · rw [hdb, hrow]
    · rw [hdb, recordFailedEvent_events, if_neg (hfinal e hc), hrow]
  | _ => rw [events_kept h (by simp) (by simp), hrow]

/-- For every event identity and every interleaving of its deliveries: at most one delivery commits
    the handler's effects, and exactly one has as soon as the event's row says so; a failed attempt
    changes nothing; recording it writes one `failed` row with its attempt count, on this event only,
    and never on an event that was processed, whose row is final. -/
theorem webhook_exactly_once (h₀ : Initial s₀) (h : Run cfg s₀ tr s) (k : Provider × String) :
    tr.countP (commitsEvent cfg k) ≤ 1 ∧
      (tr.countP (commitsEvent cfg k) = 1 ↔
        ∃ row, s.db.events.get? k = some row ∧ row.status ≠ .failed) ∧
      (∀ row, s.db.events.get? k = some row →
        row.attempts = tr.countP (recordsFailure k) + tr.countP (commitsEvent cfg k)) ∧
      (∀ t ∈ tr, attemptFails cfg t = true → t.post.db = t.pre.db) ∧
      (∀ t ∈ tr, ∀ pid message, t.label = .recordFailure pid message →
        ∃ e, t.pre.proc? pid = some (.failed e) ∧
          ((claimable t.pre.db e = false ∧ t.post.db = t.pre.db) ∨
            (claimable t.pre.db e = true ∧ t.post.db = t.pre.db.upsertEvent (failedRow t.pre.db e message)
              ∧ (failedRow t.pre.db e message).status = .failed))) ∧
      (∀ t ∈ tr, ∀ row, t.pre.db.events.get? k = some row → row.status ≠ .failed →
        t.post.db.events.get? k = some row) := by
  have hT := tally_of_run h₀ h k
  refine ⟨?_, ?_, ?_, ?_, ?_, ?_⟩
  · cases hrow : s.db.events.get? k with
    | none => rw [hrow] at hT; rw [hT.1]; omega
    | some row =>
      rw [hrow] at hT
      rcases hT with ⟨_, hc, _⟩ | ⟨_, hc, _⟩ <;> omega
  · constructor
    · intro hone
      cases hrow : s.db.events.get? k with
      | none =>
        rw [hrow] at hT
        rw [hT.1] at hone
        cases hone
      | some row =>
        rw [hrow] at hT
        rcases hT with ⟨_, hc, _⟩ | ⟨hs, _, _⟩
        · rw [hc] at hone
          cases hone
        · exact ⟨row, rfl, hs⟩
    · rintro ⟨row, hrow, hs⟩
      rw [hrow] at hT
      rcases hT with ⟨hf, _, _⟩ | ⟨_, hc, _⟩
      · exact absurd hf hs
      · exact hc
  · intro row hrow
    rw [hrow] at hT
    rcases hT with ⟨_, hc, ha⟩ | ⟨_, hc, ha⟩ <;> omega
  · intro t ht hf
    exact attemptFails_db (h.taken ht).2 hf
  · intro t ht pid message hl
    obtain ⟨_, hs⟩ := h.taken ht
    rw [hl] at hs
    obtain ⟨e, hproc, hcase⟩ := recordFailure_step hs
    refine ⟨e, hproc, ?_⟩
    rcases hcase with hskip | ⟨hc, hdb⟩
    · exact .inl hskip
    · exact .inr ⟨hc, hdb, failedRow_status hc message⟩
  · intro t ht row hrow hs
    obtain ⟨⟨before, hbefore⟩, hstep⟩ := h.taken ht
    exact finalRow_kept (keyLock_of_run h₀ hbefore) hstep hrow hs

/-- A delivery that fails, is recorded and delivered again takes effect once, at the second attempt. -/
theorem webhook_exactly_once_redelivery : ∃ tr s, Run smallSettings smallShop tr s ∧
    (∃ row, s.db.events.get? (.stripe, "evt_1") = some row ∧ row.status = .processed ∧
      row.attempts = 2) ∧
    tr.countP (commitsEvent smallSettings (.stripe, "evt_1")) = 1 := by
  let e : WebhookEvent :=
    { eventId := "evt_1", eventType := .paymentFailed, providerPaymentId := "pi_1" }
  obtain ⟨tr, s, hrun, hrow⟩ := exists_exec (step smallSettings) smallShop
    (P := fun _ s => ∃ row ∈ s.db.events.get? (.stripe, "evt_1"),
      row.status = .processed ∧ row.attempts = 2)
    [.deliver 1 e, .abort 1, .recordFailure 1 "connection lost", .deliver 2 e, .process 2 1 0]
    (by decide)
  obtain ⟨row, hrow, hs, ha⟩ := hrow
  have hone := (webhook_exactly_once smallShop_initial hrun (.stripe, "evt_1")).2.1
  exact ⟨tr, s, hrun, ⟨row, hrow, hs, ha⟩, hone.mpr ⟨row, hrow, by rw [hs]; decide⟩⟩

end NovaCart
