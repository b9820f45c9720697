import NovaCart.Queue

/-! Runs of the job queue. -/

namespace NovaCart

open Schemes

section

variable {cfg : QueueSettings} {s₀ s s' : QueueState} {l : QueueLabel} {tr : List (Taken QueueState QueueLabel)}

/-! ### What one step can do -/

/-- What a worker reports about a claim. -/
inductive Report (cfg : QueueSettings) (c : ClaimedJob) : (JobRow → JobRow) → Prop
  | complete (now : Time) : Report cfg c (JobRow.complete now)
  | fail (now : Time) (error : String) : Report cfg c (JobRow.fail cfg now c error)

inductive QueueChange (cfg : QueueSettings) (s : QueueState) : QueueLabel → QueueState → Prop
  | tick : QueueChange cfg s .tick { s with clock := s.clock + 1 }
  | nothing {l : QueueLabel} : QueueChange cfg s l s
  | insert {tx : Nat} {req : EnqueueRequest} {now : Time} {j : JobRow} {jobs : Table JobRow}
      (hins : s.jobs.insert? j = some jobs) (hstatus : j.status = .pending) (hattempts : j.attempts = 0)
      (htx : j.insertedBy = some tx) (hkey : ∀ k, j.dedupeKey = some k → ∀ x ∈ s.jobs.rows, x.dedupeKey ≠ some k) :
      QueueChange cfg s (.enqueue tx req now) { s with jobs := jobs, next := s.next + 1 }
  | commit (tx : Nat) :
      QueueChange cfg s (.commit tx) { s with jobs := s.jobs.map (JobRow.commit tx) (JobRow.commit_id tx) }
  | rollback (tx : Nat) :
      QueueChange cfg s (.rollback tx) { s with jobs := s.jobs.keep fun j => j.insertedBy ≠ some tx }
  | begin {txs : Table ClaimTx} (hins : s.txs.insert? ⟨s.next, s.clock, .begun⟩ = some txs) :
      QueueChange cfg s .claimBegin { s with txs := txs, next := s.next + 1 }
  | sweep {tx : ClaimTx} (htx : s.txs.get? tx.id = some tx) (hphase : tx.phase = .begun)
      (hfree : ∀ i ∈ s.exhausted tx.now, ¬s.locked i) :
      QueueChange cfg s (.sweep tx.id) (s.goOn tx (.swept (s.exhausted tx.now)))
  | pick {tx : ClaimTx} (htx : s.txs.get? tx.id = some tx) (hphase : tx.phase = .swept tx.failed) :
      QueueChange cfg s (.pick tx.id) (s.goOn tx (.picked tx.failed (s.nextDue tx.now)))
  | claim {tx : ClaimTx} (htx : s.txs.get? tx.id = some tx) (hphase : tx.phase = .picked tx.failed tx.job) :
      QueueChange cfg s (.claimCommit tx.id) { s with
        jobs := s.jobs.map (tx.write cfg) (tx.write_id cfg), txs := s.txs.erase tx.id
        claims := ((tx.job.bind (s.jobs.map (tx.write cfg) (tx.write_id cfg)).get?).map JobRow.claimed).toList ++ s.claims }
  | abort (id : Nat) : QueueChange cfg s (.claimAbort id) { s with txs := s.txs.erase id }
  | report {l : QueueLabel} {c : ClaimedJob} {f : JobRow → JobRow} {j : JobRow} (hc : c ∈ s.claims) (hfree : ¬s.locked c.id)
      (hj : s.owned c = some j) (hf : Report cfg c f) :
      QueueChange cfg s l { s with jobs := s.jobs.replace (f j) }

theorem enqueue_cases {tx : Nat} {req : EnqueueRequest} {now : Time} (h : s.enqueue tx req now = some s') :
    QueueChange cfg s (.enqueue tx req now) s' := by
  rw [QueueState.enqueue] at h
  cases hclash : s.jobs.rows.find? fun j => j.dedupeKey = req.dedupeKey && req.dedupeKey.isSome with
  | some j =>
    simp only [hclash, Option.ite_none_right_eq_some] at h
    cases h.2; exact .nothing
  | none =>
    simp only [hclash, Option.dite_none_right_eq_some] at h
    obtain ⟨_, h⟩ := h
    obtain ⟨jobs, hins, rfl⟩ := Option.map_eq_some_iff.mp h
    refine .insert hins rfl rfl rfl fun k hk x hx heq => ?_
    have hk : req.dedupeKey = some k := hk
    have hno := List.find?_eq_none.mp hclash x hx
    rw [heq, hk] at hno
    simp at hno

theorem report_cases {c : ClaimedJob} {f : JobRow → JobRow} (hc : c ∈ s.claims) (hfree : ¬s.locked c.id)
    (hf : Report cfg c f) : QueueChange cfg s l (s.report c f) := by
  rw [QueueState.report]
  cases hj : s.owned c with
  | none => exact .nothing
  | some j => exact .report hc hfree hj hf

theorem queueStep_cases (h : queueStep cfg s l = some s') : QueueChange cfg s l s' := by
  cases l with
  | tick => cases h; exact .tick
  | enqueue tx req now =>
    simp only [queueStep, Option.ite_none_right_eq_some] at h
    exact enqueue_cases h.2
  | commit tx => cases h; exact .commit tx
  | rollback tx => cases h; exact .rollback tx
  | claimBegin =>
    obtain ⟨txs, hins, h⟩ := Option.bind_eq_some_iff.mp h
    cases h; exact .begin hins
  | sweep id =>
    obtain ⟨tx, htx, hs⟩ := Option.bind_eq_some_iff.mp h
    obtain rfl := Table.key_of_get? htx
    simp only [Option.ite_none_right_eq_some] at hs
    obtain ⟨⟨hphase, hfree⟩, hs⟩ := hs
    cases hs; exact .sweep htx hphase hfree
  | pick id =>
    obtain ⟨tx, htx, hs⟩ := Option.bind_eq_some_iff.mp h
    obtain rfl := Table.key_of_get? htx
    simp only [Option.ite_none_right_eq_some] at hs
    cases hs.2; exact .pick htx hs.1
  | claimCommit id =>
    obtain ⟨tx, htx, hs⟩ := Option.bind_eq_some_iff.mp h
    obtain rfl := Table.key_of_get? htx
    simp only [Option.ite_none_right_eq_some] at hs
    cases hs.2; exact .claim htx hs.1
  | claimAbort id => cases h; exact .abort id
  | complete c now =>
    simp only [queueStep, Option.ite_none_right_eq_some] at h
    obtain ⟨⟨hc, _, hfree⟩, h⟩ := h
    cases h; exact report_cases hc hfree (.complete now)
  | fail c error now =>
    simp only [queueStep, Option.ite_none_right_eq_some] at h
    obtain ⟨⟨hc, _, hfree⟩, h⟩ := h
    cases h; exact report_cases hc hfree (.fail now error)

/-! ### Rows -/

/-- What a step may do to a row. -/
structure JobRow.Grows (j j' : JobRow) : Prop where
  id : j'.id = j.id
  maxAttempts : j'.maxAttempts = j.maxAttempts
  dedupeKey : j'.dedupeKey = j.dedupeKey
  attempts : j.attempts ≤ j'.attempts
  visible : j.visible → j'.visible
  final : j.visible → j.status.terminal = true → j' = j

theorem JobRow.Grows.refl (j : JobRow) : j.Grows j := ⟨rfl, rfl, rfl, Nat.le_refl _, fun h => h, fun _ _ => rfl⟩

theorem JobRow.Grows.trans {j₁ j₂ j₃ : JobRow} (h₁ : j₁.Grows j₂) (h₂ : j₂.Grows j₃) : j₁.Grows j₃ where
  id := h₂.id.trans h₁.id
  maxAttempts := h₂.maxAttempts.trans h₁.maxAttempts
  dedupeKey := h₂.dedupeKey.trans h₁.dedupeKey
  attempts := h₁.attempts.trans h₂.attempts
  visible hv := h₂.visible (h₁.visible hv)
  final hv ht := by
    obtain rfl := h₁.final hv ht
    exact h₂.final hv ht

theorem commit_grows (tx : Nat) (j : JobRow) : j.Grows (j.commit tx) := by
  rw [JobRow.commit]
  split
  · next htx =>
    have hhidden (hv : j.visible) : False := by
      rw [JobRow.visible, htx] at hv; cases hv
    exact ⟨rfl, rfl, rfl, Nat.le_refl _, fun _ => rfl, fun hv _ => (hhidden hv).elim⟩
  · exact .refl j

theorem owned_eq {c : ClaimedJob} {j : JobRow} (h : s.owned c = some j) : j ∈ s.jobs.rows ∧ j.id = c.id ∧ j.visible
    ∧ j.status = .running ∧ j.attempts = c.attempts := by
  obtain ⟨hget, hguard⟩ := Option.filter_eq_some_iff.mp h
  obtain ⟨hj, hid⟩ := Table.get?_eq_some.mp hget
  exact ⟨hj, hid, of_decide_eq_true hguard⟩

theorem report_fields {c : ClaimedJob} {f : JobRow → JobRow} (hf : Report cfg c f) (j : JobRow) :
    (f j).id = j.id ∧ (f j).maxAttempts = j.maxAttempts ∧ (f j).dedupeKey = j.dedupeKey ∧ (f j).attempts = j.attempts
      ∧ (f j).insertedBy = j.insertedBy ∧ (f j).status ≠ .running
      ∧ ((f j).status = .pending → c.attempts < c.maxAttempts) := by
  cases hf with
  | complete now => exact ⟨rfl, rfl, rfl, rfl, rfl, (fun h => by cases h), (fun h => by cases h)⟩
  | fail now error =>
    refine ⟨rfl, rfl, rfl, rfl, rfl, ?_, ?_⟩
    · simp only [JobRow.fail]
      split <;> simp
    · simp only [JobRow.fail]
      split
      · simp
      · omega

theorem report_grows {c : ClaimedJob} {f : JobRow → JobRow} {j : JobRow} (hf : Report cfg c f) (hj : s.owned c = some j) :
    j.Grows (f j) := by
  obtain ⟨hid, hmax, hkey, hattempts, hby, _⟩ := report_fields hf j
  obtain ⟨_, _, _, hruns, _⟩ := owned_eq hj
  refine ⟨hid, hmax, hkey, hattempts.ge, fun hv => hby.trans hv, fun _ hterminal => ?_⟩
  rw [hruns] at hterminal; cases hterminal

/-! ### What is kept -/

/-- The rows: attempts are bounded, a job that is pending has some left, one that runs is locked, and keys are unique. -/
structure RowsSane (s : QueueState) : Prop where
  bounded : ∀ j ∈ s.jobs.rows, j.attempts ≤ j.maxAttempts
  someLeft : ∀ j ∈ s.jobs.rows, j.status = .pending → j.attempts < j.maxAttempts
  lockedRun : ∀ j ∈ s.jobs.rows, j.status = .running → j.lockedUntil ≠ none
  keys : ∀ j ∈ s.jobs.rows, ∀ j' ∈ s.jobs.rows, ∀ k, j.dedupeKey = some k → j'.dedupeKey = some k → j.id = j'.id

/-- The locks: an open claim has locked the rows it writes, and nobody else has. -/
structure LocksHeld (s : QueueState) : Prop where
  spent : ∀ tx ∈ s.txs.rows, ∀ i ∈ tx.failed, ∃ j ∈ s.jobs.rows, j.id = i ∧ j.visible ∧ j.status = .running
    ∧ j.maxAttempts ≤ j.attempts
  taken : ∀ tx ∈ s.txs.rows, ∀ i ∈ tx.job, ∃ j ∈ s.jobs.rows, j.id = i ∧ j.visible ∧ j.status.terminal = false
    ∧ j.attempts < j.maxAttempts
  apart : ∀ tx ∈ s.txs.rows, ∀ tx' ∈ s.txs.rows, ∀ i ∈ tx.locks, i ∈ tx'.locks → tx.id = tx'.id
  fresh : ∀ tx ∈ s.txs.rows, tx.id < s.next

/-- The claims: each is of a job whose attempts have not gone back since, and newer ones have higher numbers. -/
structure ClaimsKnown (s : QueueState) : Prop where
  known : ∀ c ∈ s.claims, ∃ j ∈ s.jobs.rows, j.id = c.id ∧ j.visible ∧ c.attempts ≤ j.attempts
    ∧ c.maxAttempts = j.maxAttempts
  numbered : s.claims.Pairwise fun later earlier => later.id = earlier.id → earlier.attempts < later.attempts

theorem mem_locks {tx : ClaimTx} {i : Id} : i ∈ tx.locks ↔ i ∈ tx.failed ∨ i ∈ tx.job := by
  rw [ClaimTx.locks, List.mem_append, Option.mem_toList, Option.mem_def]

/-- The rows that the open claims have locked are the same rows after the step. -/
theorem LocksHeld.of_kept (hinv : LocksHeld s) (htxs : s'.txs.rows ⊆ s.txs.rows) (hnext : s.next ≤ s'.next)
    (hrows : ∀ tx ∈ s'.txs.rows, ∀ j ∈ s.jobs.rows, j.id ∈ tx.locks → j.visible → j ∈ s'.jobs.rows) : LocksHeld s' where
  spent tx htx i hi := by
    obtain ⟨j, hj, rfl, hv, hrest⟩ := hinv.spent tx (htxs htx) i hi
    exact ⟨j, hrows tx htx j hj (mem_locks.mpr (.inl hi)) hv, rfl, hv, hrest⟩
  taken tx htx i hi := by
    obtain ⟨j, hj, rfl, hv, hrest⟩ := hinv.taken tx (htxs htx) i hi
    exact ⟨j, hrows tx htx j hj (mem_locks.mpr (.inr hi)) hv, rfl, hv, hrest⟩
  apart tx htx tx' htx' := hinv.apart tx (htxs htx) tx' (htxs htx')
  fresh tx htx := (hinv.fresh tx (htxs htx)).trans_le hnext

theorem mem_goOn_txs {tx x : ClaimTx} {phase : ClaimPhase} (htx : s.txs.get? tx.id = some tx)
    (hx : x ∈ (s.goOn tx phase).txs.rows) : x = { tx with phase := phase } ∨ (x ∈ s.txs.rows ∧ x.id ≠ tx.id) :=
  (Table.mem_replace (q := { tx with phase := phase }) htx).mp hx

/-- A claim that goes on may lock rows that nobody has locked. -/
theorem LocksHeld.goOn {tx : ClaimTx} {phase : ClaimPhase} (hinv : LocksHeld s) (htx : s.txs.get? tx.id = some tx)
    (hspent : ∀ i ∈ ({ tx with phase := phase } : ClaimTx).failed, ∃ j ∈ s.jobs.rows, j.id = i ∧ j.visible
      ∧ j.status = .running ∧ j.maxAttempts ≤ j.attempts)
    (htaken : ∀ i ∈ ({ tx with phase := phase } : ClaimTx).job, ∃ j ∈ s.jobs.rows, j.id = i ∧ j.visible
      ∧ j.status.terminal = false ∧ j.attempts < j.maxAttempts)
    (hfree : ∀ i ∈ ({ tx with phase := phase } : ClaimTx).locks, i ∈ tx.locks ∨ ¬s.locked i) :
    LocksHeld (s.goOn tx phase) := by
  have hmem := Table.mem_of_get? htx
  -- another claim shares none of the rows that this one has locked now
  have hothers : ∀ x ∈ s.txs.rows, ∀ i ∈ ({ tx with phase := phase } : ClaimTx).locks, i ∈ x.locks → x.id = tx.id := by
    intro x hx i hi hix
    rcases hfree i hi with hold | hnone
    · exact hinv.apart x hx tx hmem i hix hold
    · exact absurd ⟨x, hx, hix⟩ hnone
  refine ⟨?_, ?_, ?_, ?_⟩
  · intro x hx i hi
    rcases mem_goOn_txs htx hx with rfl | ⟨hx, _⟩
    · exact hspent i hi
    · exact hinv.spent x hx i hi
  · intro x hx i hi
    rcases mem_goOn_txs htx hx with rfl | ⟨hx, _⟩
    · exact htaken i hi
    · exact hinv.taken x hx i hi
  · intro x hx x' hx' i hi hi'
    rcases mem_goOn_txs htx hx with rfl | ⟨hx, _⟩ <;> rcases mem_goOn_txs htx hx' with rfl | ⟨hx', _⟩
    · rfl
    · exact (hothers x' hx' i hi hi').symm
    · exact hothers x hx i hi' hi
    · exact hinv.apart x hx x' hx' i hi hi'
  · intro x hx
    rcases mem_goOn_txs htx hx with rfl | ⟨hx, _⟩
    · exact hinv.fresh tx hmem
    · exact hinv.fresh x hx

theorem mem_exhausted {now : Time} {i : Id} : i ∈ s.exhausted now ↔ ∃ j ∈ s.jobs.rows, j.id = i ∧ j.visible
    ∧ j.exhausted now := by
  simp only [QueueState.exhausted, List.mem_map, List.mem_filter, decide_eq_true_eq]
  constructor
  · rintro ⟨j, ⟨hj, hv, he⟩, hid⟩
    exact ⟨j, hj, hid, hv, he⟩
  · rintro ⟨j, hj, hid, hv, he⟩
    exact ⟨j, ⟨hj, hv, he⟩, hid⟩

theorem nextDue_spec {now : Time} {i : Id} (h : s.nextDue now = some i) : ∃ j ∈ s.jobs.rows, j.id = i ∧ j.visible
    ∧ j.due now ∧ ¬s.locked i := by
  obtain ⟨j, hhead, rfl⟩ := Option.map_eq_some_iff.mp h
  have hj := (List.mem_insertionSort _).mp (List.mem_of_mem_head? hhead)
  simp only [List.mem_filter, decide_eq_true_eq] at hj
  exact ⟨j, hj.1, rfl, hj.2⟩

/-- A row that no claim has locked stays as it is when a claim commits. -/
theorem write_of_not_locked {tx : ClaimTx} {j : JobRow} (h : j.id ∉ tx.locks) : tx.write cfg j = j := by
  rw [mem_locks, not_or] at h
  rw [ClaimTx.write, if_neg h.1, if_neg (show ¬tx.job = some j.id from h.2)]

theorem LocksHeld.step (hinv : LocksHeld s) (h : QueueChange cfg s l s') : LocksHeld s' := by
  cases h with
  | tick => exact hinv.of_kept (List.Subset.refl _) (Nat.le_refl _) fun _ _ _ hj _ _ => hj
  | nothing => exact hinv
  | insert hins =>
    exact hinv.of_kept (List.Subset.refl _) (Nat.le_succ _) fun _ _ _ hj _ _ => (Table.mem_insert? hins).mpr (.inr hj)
  | commit tx =>
    refine hinv.of_kept (List.Subset.refl _) (Nat.le_refl _) fun _ _ j hj _ hv => ?_
    have hsame : j.commit tx = j := by
      rw [JobRow.commit, if_neg]
      rw [JobRow.visible] at hv
      rw [hv]; simp
    exact List.mem_map.mpr ⟨j, hj, hsame⟩
  | rollback tx =>
    refine hinv.of_kept (List.Subset.refl _) (Nat.le_refl _) fun _ _ j hj _ hv => Table.mem_keep.mpr ⟨hj, ?_⟩
    rw [JobRow.visible] at hv
    simp [hv]
  | begin hins =>
    have hnew {x : ClaimTx} (hx : x = ⟨s.next, s.clock, .begun⟩) : x.failed = [] ∧ x.job = none := by
      rw [hx]; exact ⟨rfl, rfl⟩
    refine ⟨?_, ?_, ?_, ?_⟩
    · intro x hx i hi
      rcases (Table.mem_insert? hins).mp hx with heq | hx
      · rw [(hnew heq).1] at hi; cases hi
      · exact hinv.spent x hx i hi
    · intro x hx i hi
      rcases (Table.mem_insert? hins).mp hx with heq | hx
      · rw [(hnew heq).2] at hi; cases hi
      · exact hinv.taken x hx i hi
    · intro x hx x' hx' i hi hi'
      rcases (Table.mem_insert? hins).mp hx with heq | hx
      · rw [ClaimTx.locks, (hnew heq).1, (hnew heq).2] at hi; cases hi
      · rcases (Table.mem_insert? hins).mp hx' with heq | hx'
        · rw [ClaimTx.locks, (hnew heq).1, (hnew heq).2] at hi'; cases hi'
        · exact hinv.apart x hx x' hx' i hi hi'
    · intro x hx
      rcases (Table.mem_insert? hins).mp hx with rfl | hx
      · exact Nat.lt_succ_self _
      · exact (hinv.fresh x hx).trans (Nat.lt_succ_self _)
  | @sweep tx htx hphase hfree =>
    refine hinv.goOn htx (fun i hi => ?_) (fun i hi => by cases hi) fun i hi => .inr ?_
    · obtain ⟨j, hj, hid, hv, hruns, _, hspent⟩ := mem_exhausted.mp hi
      exact ⟨j, hj, hid, hv, hruns, hspent⟩
    · exact hfree i (by simpa [ClaimTx.locks, ClaimTx.failed, ClaimTx.job] using hi)
  | @pick tx htx hphase =>
    refine hinv.goOn htx (fun i hi => hinv.spent tx (Table.mem_of_get? htx) i hi) (fun i hi => ?_) fun i hi => ?_
    · obtain ⟨j, hj, hid, hv, ⟨hleft, hstatus⟩, _⟩ := nextDue_spec hi
      refine ⟨j, hj, hid, hv, ?_, hleft⟩
      rcases hstatus with ⟨hstatus, _⟩ | ⟨hstatus, _⟩ <;> rw [hstatus] <;> rfl
    · rcases mem_locks.mp hi with hold | hnew
      · exact .inl (mem_locks.mpr (.inl hold))
      · obtain ⟨_, _, _, _, _, hfree⟩ := nextDue_spec hnew
        exact .inr hfree
  | @claim tx htx hphase =>
    refine hinv.of_kept (fun x hx => (Table.mem_erase.mp hx).1) (Nat.le_refl _) fun x hx j hj hid hv => ?_
    obtain ⟨hx, hne⟩ := Table.mem_erase.mp hx
    have hother : j.id ∉ tx.locks := fun hmem => hne (hinv.apart x hx tx (Table.mem_of_get? htx) _ hid hmem)
    exact List.mem_map.mpr ⟨j, hj, write_of_not_locked hother⟩
  | abort id =>
    exact hinv.of_kept (fun x hx => (Table.mem_erase.mp hx).1) (Nat.le_refl _) fun _ _ _ hj _ _ => hj
  | @report _ c f j hc hfree hj hf =>
    refine hinv.of_kept (List.Subset.refl _) (Nat.le_refl _) fun x hx r hr hid _ => ?_
    obtain ⟨hrow, hidj, _⟩ := owned_eq hj
    have hkey : s.jobs.get? (Keyed.key (f j)) = some j := by
      rw [show (Keyed.key (f j) : Id) = j.id from (report_fields hf j).1]; exact Table.get?_of_mem hrow
    refine (Table.mem_replace hkey).mpr (.inr ⟨hr, fun heq => hfree ⟨x, hx, ?_⟩⟩)
    have heq : r.id = (f j).id := heq
    rw [(report_fields hf j).1, hidj] at heq
    rwa [← heq]

/-- A commit of a claim: a row it has failed, the row it took, or another. -/
theorem write_grows (hlocks : LocksHeld s) {tx : ClaimTx} (htx : tx ∈ s.txs.rows) {j : JobRow}
    (hj : j ∈ s.jobs.rows) : j.Grows (tx.write cfg j) := by
  rw [ClaimTx.write]
  by_cases hfailed : j.id ∈ tx.failed
  · rw [if_pos hfailed]
    obtain ⟨x, hx, hid, _, hruns, _⟩ := hlocks.spent tx htx _ hfailed
    obtain rfl := s.jobs.eq_of_key_eq hx hj hid
    refine ⟨rfl, rfl, rfl, Nat.le_refl _, fun hv => hv, fun _ hterminal => ?_⟩
    rw [hruns] at hterminal; cases hterminal
  · rw [if_neg hfailed]
    by_cases hjob : tx.job = some j.id
    · rw [if_pos hjob]
      obtain ⟨x, hx, hid, _, hopen, _⟩ := hlocks.taken tx htx _ hjob
      obtain rfl := s.jobs.eq_of_key_eq hx hj hid
      refine ⟨rfl, rfl, rfl, Nat.le_succ _, fun hv => hv, fun _ hterminal => ?_⟩
      rw [hopen] at hterminal; cases hterminal
    · rw [if_neg hjob]
      exact .refl j

/-- A step keeps every row that is committed. -/
theorem rows_grow (hlocks : LocksHeld s) (h : QueueChange cfg s l s') :
    ∀ j ∈ s.jobs.rows, j.visible → ∃ j' ∈ s'.jobs.rows, j.Grows j' := by
  intro j hj hv
  have hsame (hmem : j ∈ s'.jobs.rows) : ∃ j' ∈ s'.jobs.rows, j.Grows j' := ⟨j, hmem, .refl j⟩
  cases h with
  | insert hins => exact hsame ((Table.mem_insert? hins).mpr (.inr hj))
  | commit tx => exact ⟨_, List.mem_map.mpr ⟨j, hj, rfl⟩, commit_grows tx j⟩
  | rollback tx =>
    refine hsame (Table.mem_keep.mpr ⟨hj, ?_⟩)
    rw [JobRow.visible] at hv
    simp [hv]
  | claim htx => exact ⟨_, List.mem_map.mpr ⟨j, hj, rfl⟩, write_grows hlocks (Table.mem_of_get? htx) hj⟩
  | @report _ c f x hc hfree hx hf =>
    obtain ⟨hrow, _⟩ := owned_eq hx
    have hkey : s.jobs.get? (Keyed.key (f x)) = some x := by
      rw [show (Keyed.key (f x) : Id) = x.id from (report_fields hf x).1]; exact Table.get?_of_mem hrow
    rcases eq_or_ne j x with rfl | hne
    · exact ⟨_, (Table.mem_replace hkey).mpr (.inl rfl), report_grows hf hx⟩
    · refine hsame ((Table.mem_replace hkey).mpr (.inr ⟨hj, fun heq => hne ?_⟩))
      exact s.jobs.eq_of_key_eq hj hrow (heq.trans (report_fields hf x).1)
  | tick => exact hsame hj
  | nothing => exact hsame hj
  | begin => exact hsame hj
  | sweep => exact hsame hj
  | pick => exact hsame hj
  | abort => exact hsame hj

/-- The invariants of single rows, for rows that come from others. -/
def JobRow.Sane (j : JobRow) : Prop :=
  j.attempts ≤ j.maxAttempts ∧ (j.status = .pending → j.attempts < j.maxAttempts)
    ∧ (j.status = .running → j.lockedUntil ≠ none)

theorem RowsSane.sane (hinv : RowsSane s) {j : JobRow} (hj : j ∈ s.jobs.rows) : j.Sane :=
  ⟨hinv.bounded j hj, hinv.someLeft j hj, hinv.lockedRun j hj⟩

theorem RowsSane.of_rows (hinv : RowsSane s) (h : ∀ j' ∈ s'.jobs.rows, j'.Sane ∧ ∃ j ∈ s.jobs.rows, j.id = j'.id
    ∧ j.dedupeKey = j'.dedupeKey) : RowsSane s' where
  bounded j hj := (h j hj).1.1
  someLeft j hj := (h j hj).1.2.1
  lockedRun j hj := (h j hj).1.2.2
  keys j hj j' hj' k hk hk' := by
    obtain ⟨_, x, hx, hid, hkey⟩ := h j hj
    obtain ⟨_, x', hx', hid', hkey'⟩ := h j' hj'
    rw [← hid, ← hid']
    exact hinv.keys x hx x' hx' k (hkey.trans hk) (hkey'.trans hk')

theorem write_sane (hlocks : LocksHeld s) (hrows : RowsSane s) {tx : ClaimTx} (htx : tx ∈ s.txs.rows) {j : JobRow}
    (hj : j ∈ s.jobs.rows) : (tx.write cfg j).Sane := by
  rw [ClaimTx.write]
  by_cases hfailed : j.id ∈ tx.failed
  · rw [if_pos hfailed]
    exact ⟨hrows.bounded j hj, (fun h => by cases h), (fun h => by cases h)⟩
  · rw [if_neg hfailed]
    by_cases hjob : tx.job = some j.id
    · rw [if_pos hjob]
      obtain ⟨x, hx, hid, _, _, hleft⟩ := hlocks.taken tx htx _ hjob
      obtain rfl := s.jobs.eq_of_key_eq hx hj hid
      exact ⟨hleft, (fun h => by cases h), fun _ h => by cases h⟩
    · rw [if_neg hjob]
      exact hrows.sane hj

theorem RowsSane.step (hinv : RowsSane s) (hlocks : LocksHeld s) (hclaims : ClaimsKnown s) (h : QueueChange cfg s l s') :
    RowsSane s' := by
  have hsame : ∀ j' ∈ s.jobs.rows, j'.Sane ∧ ∃ j ∈ s.jobs.rows, j.id = j'.id ∧ j.dedupeKey = j'.dedupeKey :=
    fun j hj => ⟨hinv.sane hj, j, hj, rfl, rfl⟩
  cases h with
  | @insert _ _ _ j jobs hins hstatus hattempts _ hkey =>
    have hmem {x : JobRow} := Table.mem_insert? (x := x) hins
    have hpos := j.someAttempt
    refine ⟨?_, ?_, ?_, ?_⟩
    · intro x hx
      rcases hmem.mp hx with rfl | hx
      · omega
      · exact hinv.bounded x hx
    · intro x hx hpending
      rcases hmem.mp hx with rfl | hx
      · omega
      · exact hinv.someLeft x hx hpending
    · intro x hx hruns
      rcases hmem.mp hx with rfl | hx
      · rw [hstatus] at hruns; cases hruns
      · exact hinv.lockedRun x hx hruns
    · intro x hx x' hx' k hk hk'
      rcases hmem.mp hx with rfl | hx <;> rcases hmem.mp hx' with rfl | hx'
      · rfl
      · exact absurd hk' (hkey k hk x' hx')
      · exact absurd hk (hkey k hk' x hx)
      · exact hinv.keys x hx x' hx' k hk hk'
  | commit tx =>
    refine hinv.of_rows fun j' hj' => ?_
    obtain ⟨j, hj, rfl⟩ := List.mem_map.mp hj'
    refine ⟨?_, j, hj, (commit_grows tx j).id.symm, (commit_grows tx j).dedupeKey.symm⟩
    rw [JobRow.commit]
    split <;> exact ⟨hinv.bounded j hj, hinv.someLeft j hj, hinv.lockedRun j hj⟩
  | rollback tx => exact hinv.of_rows fun j hj => hsame j (Table.mem_keep.mp hj).1
  | @claim tx htx _ =>
    refine hinv.of_rows fun j' hj' => ?_
    obtain ⟨j, hj, rfl⟩ := List.mem_map.mp hj'
    have hgrows : j.Grows (tx.write cfg j) := write_grows hlocks (Table.mem_of_get? htx) hj
    exact ⟨write_sane hlocks hinv (Table.mem_of_get? htx) hj, j, hj, hgrows.id.symm, hgrows.dedupeKey.symm⟩
  | @report _ c f j hc hfree hj hf =>
    obtain ⟨hrow, hidc, _, _, hattempts⟩ := owned_eq hj
    obtain ⟨hid, hmax, hkeyf, hsameAttempts, _, hstops, hleft⟩ := report_fields hf j
    have hkey : s.jobs.get? (Keyed.key (f j)) = some j := by
      rw [show (Keyed.key (f j) : Id) = j.id from hid]; exact Table.get?_of_mem hrow
    refine hinv.of_rows fun x hx => ?_
    rcases (Table.mem_replace hkey).mp hx with rfl | ⟨hx, _⟩
    · refine ⟨⟨?_, fun hpending => ?_, fun hruns => absurd hruns hstops⟩, j, hrow, hid.symm, hkeyf.symm⟩
      · have hbound := hinv.bounded j hrow
        omega
      · -- the worker's claim carries the job's own limit
        obtain ⟨y, hy, hidy, _, _, hlimit⟩ := hclaims.known c hc
        obtain rfl := s.jobs.eq_of_key_eq hy hrow (hidy.trans hidc.symm)
        have hlt := hleft hpending
        omega
    · exact hsame x hx
  | tick => exact hinv.of_rows hsame
  | nothing => exact hinv
  | begin => exact hinv.of_rows hsame
  | sweep => exact hinv.of_rows hsame
  | pick => exact hinv.of_rows hsame
  | abort => exact hinv.of_rows hsame

/-- The job that a claim took is not among those it failed, and its attempt is counted. -/
theorem claim_takes (hlocks : LocksHeld s) {tx : ClaimTx} (htx : tx ∈ s.txs.rows) {i : Id} (hjob : tx.job = some i) :
    ∃ j ∈ s.jobs.rows, j.id = i ∧ j.visible
      ∧ (s.jobs.map (tx.write cfg) (tx.write_id cfg)).get? i = some (j.claim cfg tx.now) := by
  obtain ⟨j, hj, rfl, hv, _, hleft⟩ := hlocks.taken tx htx i hjob
  have hnot : j.id ∉ tx.failed := by
    intro hfailed
    obtain ⟨x, hx, hid, _, _, hspent⟩ := hlocks.spent tx htx _ hfailed
    obtain rfl := s.jobs.eq_of_key_eq hx hj hid
    omega
  have hwrite : tx.write cfg j = j.claim cfg tx.now := by rw [ClaimTx.write, if_neg hnot, if_pos hjob]
  refine ⟨j, hj, rfl, hv, ?_⟩
  rw [Table.get?_map, show s.jobs.get? j.id = some j from Table.get?_of_mem hj, Option.map_some, hwrite]

theorem ClaimsKnown.step (hinv : ClaimsKnown s) (hlocks : LocksHeld s) (h : QueueChange cfg s l s') :
    ClaimsKnown s' := by
  have hold : ∀ c ∈ s.claims, ∃ j ∈ s'.jobs.rows, j.id = c.id ∧ j.visible ∧ c.attempts ≤ j.attempts
      ∧ c.maxAttempts = j.maxAttempts := by
    intro c hc
    obtain ⟨j, hj, hid, hv, hattempts, hmax⟩ := hinv.known c hc
    obtain ⟨j', hj', hg⟩ := rows_grow hlocks h j hj hv
    exact ⟨j', hj', hg.id.trans hid, hg.visible hv, hattempts.trans hg.attempts, hmax.trans hg.maxAttempts.symm⟩
  cases h with
  | @claim tx htx _ =>
    cases hjob : tx.job with
    | none => exact ⟨hold, hinv.numbered⟩
    | some i =>
      obtain ⟨j, hj, rfl, hv, hget⟩ := @claim_takes cfg _ hlocks tx (Table.mem_of_get? htx) i hjob
      have hnew : ((some j.id).bind (s.jobs.map (tx.write cfg) (tx.write_id cfg)).get?).map JobRow.claimed
          = some (j.claim cfg tx.now).claimed := by rw [Option.bind_some, hget]; rfl
      refine ⟨fun c hc => ?_, ?_⟩
      · rw [hnew] at hc
        rcases List.mem_append.mp hc with hc | hc
        · obtain rfl := List.mem_singleton.mp hc
          exact ⟨_, Table.mem_of_get? hget, rfl, hv, Nat.le_refl _, rfl⟩
        · exact hold c hc
      · rw [hnew]
        refine .cons (fun c hc heq => ?_) hinv.numbered
        obtain ⟨x, hx, hid, _, hattempts, _⟩ := hinv.known c hc
        obtain rfl := s.jobs.eq_of_key_eq hx hj (hid.trans heq.symm)
        exact Nat.lt_succ_of_le hattempts
  | tick => exact ⟨hold, hinv.numbered⟩
  | nothing => exact ⟨hold, hinv.numbered⟩
  | insert => exact ⟨hold, hinv.numbered⟩
  | commit => exact ⟨hold, hinv.numbered⟩
  | rollback => exact ⟨hold, hinv.numbered⟩
  | begin => exact ⟨hold, hinv.numbered⟩
  | sweep => exact ⟨hold, hinv.numbered⟩
  | pick => exact ⟨hold, hinv.numbered⟩
  | abort => exact ⟨hold, hinv.numbered⟩
  | report => exact ⟨hold, hinv.numbered⟩

/-! ### Runs -/

structure QueueInv (s : QueueState) : Prop where
  rows : RowsSane s
  locks : LocksHeld s
  claims : ClaimsKnown s

theorem QueueInv.step (hinv : QueueInv s) (h : queueStep cfg s l = some s') : QueueInv s' :=
  ⟨hinv.rows.step hinv.locks hinv.claims (queueStep_cases h), hinv.locks.step (queueStep_cases h),
    hinv.claims.step hinv.locks (queueStep_cases h)⟩

theorem QueueState.Initial.inv (h₀ : s₀.Initial) : QueueInv s₀ := by
  have hjobs : s₀.jobs.rows = [] := by rw [h₀.jobs]; rfl
  have htxs : s₀.txs.rows = [] := by rw [h₀.txs]; rfl
  refine ⟨⟨?_, ?_, ?_, ?_⟩, ⟨?_, ?_, ?_, ?_⟩, ?_, ?_⟩
  · intro j hj; rw [hjobs] at hj; cases hj
  · intro j hj; rw [hjobs] at hj; cases hj
  · intro j hj; rw [hjobs] at hj; cases hj
  · intro j hj; rw [hjobs] at hj; cases hj
  · intro tx htx; rw [htxs] at htx; cases htx
  · intro tx htx; rw [htxs] at htx; cases htx
  · intro tx htx; rw [htxs] at htx; cases htx
  · intro tx htx; rw [htxs] at htx; cases htx
  · intro c hc; rw [h₀.claims] at hc; cases hc
  · rw [h₀.claims]; exact .nil

theorem QueueRun.inv (h₀ : s₀.Initial) (run : QueueRun cfg s₀ tr s) : QueueInv s :=
  Exec.invariant h₀.inv (fun hstep hinv => hinv.step hstep) run

theorem QueueInv.forward (hinv : QueueInv s) (run : QueueRun cfg s tr s') : ∀ j ∈ s.jobs.rows, j.visible →
    ∃ j' ∈ s'.jobs.rows, j.Grows j' := by
  induction run with
  | nil => exact fun j hj _ => ⟨j, hj, .refl j⟩
  | cons run hstep ih =>
    intro j hj hv
    obtain ⟨j₁, hj₁, hg₁⟩ := ih j hj hv
    have hinv₁ := Exec.invariant hinv (fun hstep hinv => hinv.step hstep) run
    obtain ⟨j₂, hj₂, hg₂⟩ := rows_grow hinv₁.locks (queueStep_cases hstep) j₁ hj₁ (hg₁.visible hv)
    exact ⟨j₂, hj₂, hg₁.trans hg₂⟩

/-- The claim `id` has failed the job `i` and is open, or it is over. -/
def FailedOrOver (id : Nat) (i : Id) (s : QueueState) : Prop :=
  (∃ tx ∈ s.txs.rows, tx.id = id ∧ i ∈ tx.failed) ∨ ((∀ tx ∈ s.txs.rows, tx.id ≠ id) ∧ id < s.next)

theorem failedOrOver_step {id : Nat} {i : Id} (hlocks : LocksHeld s) (h : QueueChange cfg s l s')
    (hinv : FailedOrOver id i s) : FailedOrOver id i s' := by
  have hgoOn {tx : ClaimTx} {phase : ClaimPhase} (htx : s.txs.get? tx.id = some tx)
      (hkeep : i ∈ tx.failed → i ∈ ({ tx with phase := phase } : ClaimTx).failed) : FailedOrOver id i (s.goOn tx phase) := by
    have hmem {x : ClaimTx} := Table.mem_replace (x := x) (q := { tx with phase := phase }) htx
    rcases hinv with ⟨x, hx, hid, hfailed⟩ | ⟨hover, hlt⟩
    · rcases eq_or_ne x.id tx.id with heq | hne
      · obtain rfl := s.txs.eq_of_key_eq hx (Table.mem_of_get? htx) heq
        exact .inl ⟨_, hmem.mpr (.inl rfl), hid, hkeep hfailed⟩
      · exact .inl ⟨x, hmem.mpr (.inr ⟨hx, hne⟩), hid, hfailed⟩
    · refine .inr ⟨fun x hx => ?_, hlt⟩
      rcases hmem.mp hx with rfl | ⟨hx, _⟩
      · exact hover tx (Table.mem_of_get? htx)
      · exact hover x hx
  have herase (k : Nat) (s' : QueueState) (htxs : s'.txs = s.txs.erase k) (hnext : s'.next = s.next) :
      FailedOrOver id i s' := by
    have hmem (x : ClaimTx) : x ∈ s'.txs.rows ↔ x ∈ s.txs.rows ∧ x.id ≠ k := by rw [htxs]; exact Table.mem_erase
    rcases hinv with ⟨x, hx, rfl, hfailed⟩ | ⟨hover, hlt⟩
    · rcases eq_or_ne x.id k with heq | hne
      · refine .inr ⟨fun y hy hid => ((hmem y).mp hy).2 (hid.trans heq), ?_⟩
        rw [hnext]; exact hlocks.fresh x hx
      · exact .inl ⟨x, (hmem x).mpr ⟨hx, hne⟩, rfl, hfailed⟩
    · exact .inr ⟨fun x hx => hover x ((hmem x).mp hx).1, by rw [hnext]; exact hlt⟩
  have hsame (s' : QueueState) (htxs : s'.txs = s.txs) (hnext : s.next ≤ s'.next) : FailedOrOver id i s' := by
    rcases hinv with hopen | ⟨hover, hlt⟩
    · rw [← htxs] at hopen; exact .inl hopen
    · rw [← htxs] at hover; exact .inr ⟨hover, hlt.trans_le hnext⟩
  cases h with
  | @sweep tx htx hphase _ =>
    refine hgoOn htx fun hfailed => ?_
    rw [ClaimTx.failed, hphase] at hfailed; cases hfailed
  | pick htx _ => exact hgoOn htx fun hfailed => hfailed
  | @claim tx _ _ => exact herase tx.id _ rfl rfl
  | abort k => exact herase k _ rfl rfl
  | begin hins =>
    have hmem {x : ClaimTx} := Table.mem_insert? (x := x) hins
    rcases hinv with ⟨x, hx, hrest⟩ | ⟨hover, hlt⟩
    · exact .inl ⟨x, hmem.mpr (.inr hx), hrest⟩
    · refine .inr ⟨fun x hx => ?_, hlt.trans (Nat.lt_succ_self _)⟩
      rcases hmem.mp hx with rfl | hx
      · exact hlt.ne'
      · exact hover x hx
  | tick => exact hsame _ rfl (Nat.le_refl _)
  | nothing => exact hinv
  | insert => exact hsame _ rfl (Nat.le_succ _)
  | commit => exact hsame _ rfl (Nat.le_refl _)
  | rollback => exact hsame _ rfl (Nat.le_refl _)
  | report => exact hsame _ rfl (Nat.le_refl _)

/-- A committing claim: what it had failed is failed. -/
theorem claim_fails {id : Nat} {i : Id} (hlocks : LocksHeld s) (hstep : queueStep cfg s (.claimCommit id) = some s')
    (hinv : FailedOrOver id i s) : ∃ j ∈ s'.jobs.rows, j.id = i ∧ j.status = .failed := by
  obtain ⟨tx, htx, hs⟩ := Option.bind_eq_some_iff.mp hstep
  obtain ⟨hmem, rfl⟩ := Table.get?_eq_some.mp htx
  simp only [Option.ite_none_right_eq_some, Option.some.injEq] at hs
  obtain ⟨_, rfl⟩ := hs
  rcases hinv with ⟨x, hx, hid, hfailed⟩ | ⟨hover, _⟩
  · obtain rfl := s.txs.eq_of_key_eq hx hmem hid
    obtain ⟨j, hj, rfl, _⟩ := hlocks.spent x hx i hfailed
    refine ⟨x.write cfg j, List.mem_map.mpr ⟨j, hj, rfl⟩, x.write_id cfg j, ?_⟩
    rw [ClaimTx.write, if_pos hfailed]; rfl
  · exact absurd rfl (hover tx hmem)

/-- The sweep of a claim fails every job that is out of attempts and whose lock is over. -/
theorem sweep_fails {id : Nat} {tx : ClaimTx} {j : JobRow} (hstep : queueStep cfg s (.sweep id) = some s')
    (htx : s.txs.get? id = some tx) (hj : j ∈ s.jobs.rows) (hv : j.visible) (hexhausted : j.exhausted tx.now) :
    FailedOrOver id j.id s' := by
  obtain ⟨x, hx, hs⟩ := Option.bind_eq_some_iff.mp hstep
  rw [htx] at hx
  cases hx
  obtain rfl := Table.key_of_get? htx
  simp only [Option.ite_none_right_eq_some, Option.some.injEq] at hs
  obtain ⟨_, rfl⟩ := hs
  refine .inl ⟨{ tx with phase := .swept (s.exhausted tx.now) }, ?_, rfl, mem_exhausted.mpr ⟨j, hj, rfl, hv, hexhausted⟩⟩
  exact (Table.mem_replace (q := { tx with phase := .swept (s.exhausted tx.now) }) htx).mpr (.inl rfl)

/-- The claim that a label reports on. -/
def QueueLabel.result : QueueLabel → Option ClaimedJob
  | .complete c _ => some c
  | .fail c _ _ => some c
  | _ => none

/-- What the queue keeps, after the steps `tr` that lead to `s`. -/
structure QueueKept (tr : List (Taken QueueState QueueLabel)) (s : QueueState) : Prop where
  /-- a job is never handed out twice at one attempt number -/
  numbered : s.claims.Pairwise fun later earlier => later.id = earlier.id → earlier.attempts < later.attempts
  bounded : ∀ j ∈ s.jobs.rows, j.attempts ≤ j.maxAttempts
  monotone : ∀ t ∈ tr, ∀ j ∈ t.pre.jobs.rows, j.visible → ∃ j' ∈ s.jobs.rows, j'.id = j.id ∧ j.attempts ≤ j'.attempts
    ∧ j'.maxAttempts = j.maxAttempts
  /-- the result of a claim that another one has followed is ignored -/
  superseded : ∀ t ∈ tr, ∀ c ∈ t.label.result, (∃ c' ∈ t.pre.claims, c'.id = c.id ∧ c.attempts < c'.attempts) →
    t.post = t.pre
  final : ∀ t ∈ tr, ∀ j ∈ t.pre.jobs.rows, j.visible → j.status.terminal = true → j ∈ s.jobs.rows
  /-- a claim fails only jobs that have no attempt left -/
  sweptSpent : ∀ t ∈ tr, ∀ id, t.label = .claimCommit id → ∀ j ∈ t.pre.jobs.rows, ∀ j' ∈ t.post.jobs.rows, j'.id = j.id →
    j'.status = .failed → j.status ≠ .failed → j.maxAttempts ≤ j.attempts
  /-- a job that runs is locked until some time -/
  lockedRun : ∀ j ∈ s.jobs.rows, j.status = .running → j.lockedUntil ≠ none
  /-- and when that is over and no attempt is left, the next claim fails it -/
  spentSwept : ∀ later t earlier, tr = later ++ t :: earlier → ∀ id, t.label = .sweep id → ∀ tx ∈ t.pre.txs.get? id,
    ∀ j ∈ t.pre.jobs.rows, j.visible → j.exhausted tx.now → ∀ u ∈ later, u.label = .claimCommit id →
    ∃ j' ∈ u.post.jobs.rows, j'.id = j.id ∧ j'.status = .failed
  keys : ∀ j ∈ s.jobs.rows, ∀ j' ∈ s.jobs.rows, ∀ k, j.dedupeKey = some k → j'.dedupeKey = some k → j = j'

theorem superseded_ignored (hinv : QueueInv s) {c c' : ClaimedJob} (hstep : queueStep cfg s l = some s')
    (hc : c ∈ l.result) (hc' : c' ∈ s.claims) (hid : c'.id = c.id) (hlt : c.attempts < c'.attempts) : s' = s := by
  have hlost : s.owned c = none := by
    by_contra hne
    obtain ⟨j, hj⟩ := Option.ne_none_iff_exists'.mp hne
    obtain ⟨hrow, hidj, _, _, hattempts⟩ := owned_eq hj
    obtain ⟨x, hx, hidx, _, hle, _⟩ := hinv.claims.known c' hc'
    obtain rfl := s.jobs.eq_of_key_eq hx hrow (hidx.trans (hid.trans hidj.symm))
    omega
  have hreport (f : JobRow → JobRow) : s.report c f = s := by rw [QueueState.report, hlost]
  cases l with
  | complete c₁ now =>
    obtain rfl : c₁ = c := Option.some.inj hc
    simp only [queueStep, Option.ite_none_right_eq_some, Option.some.injEq, hreport] at hstep
    exact hstep.2.symm
  | fail c₁ error now =>
    obtain rfl : c₁ = c := Option.some.inj hc
    simp only [queueStep, Option.ite_none_right_eq_some, Option.some.injEq, hreport] at hstep
    exact hstep.2.symm
  | _ => cases hc

theorem claim_fails_spent (hinv : QueueInv s) {id : Nat} (hstep : queueStep cfg s (.claimCommit id) = some s')
    {j j' : JobRow} (hj : j ∈ s.jobs.rows) (hj' : j' ∈ s'.jobs.rows) (hid : j'.id = j.id) (hfailed : j'.status = .failed)
    (hnot : j.status ≠ .failed) : j.maxAttempts ≤ j.attempts := by
  obtain ⟨tx, htx, hs⟩ := Option.bind_eq_some_iff.mp hstep
  simp only [Option.ite_none_right_eq_some, Option.some.injEq] at hs
  obtain ⟨_, rfl⟩ := hs
  obtain ⟨x, hx, rfl⟩ := List.mem_map.mp hj'
  obtain rfl := s.jobs.eq_of_key_eq hx hj ((tx.write_id cfg x).symm.trans hid)
  rw [ClaimTx.write] at hfailed
  by_cases hswept : x.id ∈ tx.failed
  · obtain ⟨y, hy, hidy, _, _, hspent⟩ := hinv.locks.spent tx (Table.mem_of_get? htx) _ hswept
    obtain rfl := s.jobs.eq_of_key_eq hy hx hidy
    exact hspent
  · rw [if_neg hswept] at hfailed
    by_cases hjob : tx.job = some x.id
    · rw [if_pos hjob] at hfailed; cases hfailed
    · rw [if_neg hjob] at hfailed; exact absurd hfailed hnot

theorem sweep_then_commit (hinv : QueueInv s) {id : Nat} {i : Id} (hfailed : FailedOrOver id i s)
    (run : QueueRun cfg s tr s') : FailedOrOver id i s' ∧ ∀ u ∈ tr, u.label = .claimCommit id →
    ∃ j ∈ u.post.jobs.rows, j.id = i ∧ j.status = .failed := by
  induction run with
  | nil => exact ⟨hfailed, fun u hu => absurd hu List.not_mem_nil⟩
  | cons run hstep ih =>
    have hinv' := Exec.invariant hinv (fun hstep hinv => hinv.step hstep) run
    refine ⟨failedOrOver_step hinv'.locks (queueStep_cases hstep) ih.1, fun u hu hlabel => ?_⟩
    rcases List.mem_cons.mp hu with rfl | hu
    · obtain rfl : _ = _ := hlabel
      exact claim_fails hinv'.locks hstep ih.1
    · exact ih.2 u hu hlabel

/-- The job queue, for any jobs, any workers and any order of their steps. -/
theorem queue_kept (h₀ : s₀.Initial) (run : QueueRun cfg s₀ tr s) : QueueKept tr s := by
  have hinv := QueueRun.inv h₀ run
  have hforward : ∀ t ∈ tr, ∀ j ∈ t.pre.jobs.rows, j.visible → ∃ j' ∈ s.jobs.rows, j.Grows j' := by
    intro t ht
    obtain ⟨later, earlier, rfl⟩ := List.append_of_mem ht
    obtain ⟨hbefore, hstep, hafter⟩ := run.split
    intro j hj hv
    have hpre := QueueRun.inv h₀ hbefore
    obtain ⟨j₁, hj₁, hg₁⟩ := rows_grow hpre.locks (queueStep_cases hstep) j hj hv
    obtain ⟨j₂, hj₂, hg₂⟩ := (hpre.step hstep).forward hafter j₁ hj₁ (hg₁.visible hv)
    exact ⟨j₂, hj₂, hg₁.trans hg₂⟩
  refine ⟨hinv.claims.numbered, hinv.rows.bounded, ?_, ?_, ?_, ?_, hinv.rows.lockedRun, ?_, ?_⟩
  · intro t ht j hj hv
    obtain ⟨j', hj', hg⟩ := hforward t ht j hj hv
    exact ⟨j', hj', hg.id, hg.attempts, hg.maxAttempts⟩
  · rintro t ht c hc ⟨c', hc', hid, hlt⟩
    obtain ⟨⟨_, hbefore⟩, hstep⟩ := run.taken ht
    exact superseded_ignored (QueueRun.inv h₀ hbefore) hstep hc hc' hid hlt
  · intro t ht j hj hv hterminal
    obtain ⟨j', hj', hg⟩ := hforward t ht j hj hv
    rwa [hg.final hv hterminal] at hj'
  · intro t ht id hlabel j hj j' hj' hid hfailed hnot
    obtain ⟨⟨_, hbefore⟩, hstep⟩ := run.taken ht
    rw [hlabel] at hstep
    exact claim_fails_spent (QueueRun.inv h₀ hbefore) hstep hj hj' hid hfailed hnot
  · rintro later t earlier rfl id hlabel tx htx j hj hv hexhausted u hu hcommit
    obtain ⟨hbefore, hstep, hafter⟩ := run.split
    have hpre := QueueRun.inv h₀ hbefore
    have hfailed : FailedOrOver id j.id t.post := by
      rw [hlabel] at hstep
      exact sweep_fails hstep htx hj hv hexhausted
    exact (sweep_then_commit (hpre.step hstep) hfailed hafter).2 u hu hcommit
  · intro j hj j' hj' k hk hk'
    exact s.jobs.eq_of_key_eq hj hj' (hinv.rows.keys j hj j' hj' k hk hk')

end

/-! ### A slow worker -/

def emptyQueue : QueueState := ⟨0, .empty, .empty, [], 0⟩

theorem emptyQueue_initial : emptyQueue.Initial := ⟨rfl, rfl, rfl⟩

/-- The first worker is slower than its lock: a second one takes the job over and completes it, and the result of the
    first comes too late. -/
def slowWorker : List QueueLabel :=
  [.enqueue 1 ⟨"send_order_confirmation", "", some "order:1", 0, 2⟩ 0, .commit 1,
   .claimBegin, .sweep 1, .pick 1, .claimCommit 1, .tick, .tick,
   .claimBegin, .sweep 2, .pick 2, .claimCommit 2, .complete ⟨0, "send_order_confirmation", "", 2, 2⟩ 2,
   .fail ⟨0, "send_order_confirmation", "", 1, 2⟩ "too late" 2]

theorem slow_worker_ignored : ∃ tr s, QueueRun ⟨1, 0, 0⟩ emptyQueue tr s
    ∧ s.jobs.rows.map (fun j => (j.status, j.attempts)) = [(.succeeded, 2)] ∧ s.claims.length = 2 ∧ QueueKept tr s := by
  obtain ⟨tr, s, run, hrow, hclaims⟩ := exists_exec (queueStep ⟨1, 0, 0⟩) emptyQueue
    (P := fun _ s => s.jobs.rows.map (fun j => (j.status, j.attempts)) = [(.succeeded, 2)] ∧ s.claims.length = 2)
    slowWorker (by decide)
  exact ⟨tr, s, run, hrow, hclaims, queue_kept emptyQueue_initial run⟩

end NovaCart
