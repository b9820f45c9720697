import NovaCart.Transitions

/-! Where the processes of a state come from, and which steps write which group of tables.

    An entry of the process table after a step was there before or was born in the step, so a
    property of processes is an invariant once it holds at birth and survives the steps of others. -/

namespace NovaCart

open Schemes

variable {cfg : Settings} {s s' s₀ : Sys} {l : Label} {tr : List (Taken Sys Label)}

theorem proc?_eq_some {pid : Id} {p : Proc} : s.proc? pid = some p ↔ ⟨pid, p⟩ ∈ s.procs.rows := by
  unfold Sys.proc?
  rw [Option.map_eq_some_iff]
  constructor
  · rintro ⟨x, hx, rfl⟩
    obtain ⟨hmem, hkey⟩ := Table.get?_eq_some.mp hx
    have hpid : x.pid = pid := hkey
    rw [← hpid]
    exact hmem
  · intro hmem
    exact ⟨⟨pid, p⟩, Table.get?_eq_some.mpr ⟨hmem, rfl⟩, rfl⟩

theorem mem_finish {pid : Id} {db : Db} {x : Entry} :
    x ∈ (s.finish pid db).procs.rows ↔ x ∈ s.procs.rows ∧ x.pid ≠ pid := Table.mem_erase

theorem mem_continue {pid : Id} {db : Db} {p p' : Proc} {x : Entry} (hp : s.proc? pid = some p) :
    x ∈ (s.continue_ pid db p').procs.rows ↔ x = ⟨pid, p'⟩ ∨ (x ∈ s.procs.rows ∧ x.pid ≠ pid) := by
  have hget : s.procs.get? pid = some ⟨pid, p⟩ := Table.get?_of_mem (proc?_eq_some.mp hp)
  exact Table.mem_replace hget

theorem mem_spawn {pid : Id} {db : Db} {p : Proc} {x : Entry} (h : s.spawn pid db p = some s') :
    x ∈ s'.procs.rows ↔ x = ⟨pid, p⟩ ∨ x ∈ s.procs.rows := by
  obtain ⟨t, ht, rfl⟩ := Option.map_eq_some_iff.mp h
  exact Table.mem_insert? ht

theorem spawn_db {pid : Id} {db : Db} {p : Proc} (h : s.spawn pid db p = some s') : s'.db = db := by
  obtain ⟨t, _, rfl⟩ := Option.map_eq_some_iff.mp h
  rfl

/-- How an entry came into the process table in a step from `s` to a database `db'`. -/
inductive Born (cfg : Settings) (s : Sys) (db' : Db) : Entry → Prop
  | started {pid : Id} {p : Proc} (hp : Started cfg s p) (hdb : db' = s.db) : Born cfg s db' ⟨pid, p⟩
  | continued {pid : Id} {p p' : Proc} (hproc : s.proc? pid = some p) (hp : Continued s p p')
      (hdb : db' = s.db) : Born cfg s db' ⟨pid, p'⟩
  | payNext {l : Label} {pid : Id} {call call' : PayCall} (hproc : s.proc? pid = some (.pay call))
      (hrun : PayTx s.db pid call l db' (some call')) : Born cfg s db' ⟨pid, .pay call'⟩
  | refund {pid refundId : Id} {attempt : RefundAttempt}
      (hrun : beginRefundAttempt s.db refundId = .ok (db', some attempt)) :
      Born cfg s db' ⟨pid, .refund attempt⟩

theorem Transition.entries (h : Transition cfg s l s') {x : Entry} (hx : x ∈ s'.procs.rows) :
    x ∈ s.procs.rows ∨ Born cfg s s'.db x := by
  cases h with
  | duplicate _ _ => exact .inl hx
  | refundBlocked _ => exact .inl hx
  | payNext hproc hrun =>
    rcases (mem_continue hproc).mp hx with rfl | hold
    · exact .inr (.payNext hproc hrun)
    · exact .inl hold.1
  | refundBegin hrun hspawn =>
    rcases (mem_spawn hspawn).mp hx with rfl | hold
    · rw [spawn_db hspawn]
      exact .inr (.refund hrun)
    · exact .inl hold
  | started hp hspawn =>
    rcases (mem_spawn hspawn).mp hx with rfl | hold
    · exact .inr (.started hp (spawn_db hspawn))
    · exact .inl hold
  | continued hproc hp =>
    rcases (mem_continue hproc).mp hx with rfl | hold
    · exact .inr (.continued hproc hp rfl)
    · exact .inl hold.1
  | _ => exact .inl (mem_finish.mp hx).1

/-- A step brings at most one new entry. -/
theorem Transition.newcomer (h : Transition cfg s l s') {x y : Entry} (hx : x ∈ s'.procs.rows)
    (hx' : x ∉ s.procs.rows) (hy : y ∈ s'.procs.rows) (hy' : y ∉ s.procs.rows) : x = y := by
  cases h with
  | duplicate _ _ => exact absurd hx hx'
  | refundBlocked _ => exact absurd hx hx'
  | payNext hproc hrun =>
    have hxe := ((mem_continue hproc).mp hx).resolve_right fun hold => hx' hold.1
    have hye := ((mem_continue hproc).mp hy).resolve_right fun hold => hy' hold.1
    rw [hxe, hye]
  | refundBegin hrun hspawn =>
    rw [((mem_spawn hspawn).mp hx).resolve_right hx', ((mem_spawn hspawn).mp hy).resolve_right hy']
  | started hp hspawn =>
    rw [((mem_spawn hspawn).mp hx).resolve_right hx', ((mem_spawn hspawn).mp hy).resolve_right hy']
  | continued hproc hp =>
    have hxe := ((mem_continue hproc).mp hx).resolve_right fun hold => hx' hold.1
    have hye := ((mem_continue hproc).mp hy).resolve_right fun hold => hy' hold.1
    rw [hxe, hye]
  | _ => exact absurd (mem_finish.mp hx).1 hx'

/-- A property that every process has when it is born, and that the steps of others and its own
    continuation keep, holds of all processes in every run. -/
theorem procs_invariant {J : Db → Proc → Prop} (h₀ : Initial s₀)
    (hstable : ∀ {tr s l s' p}, Run cfg s₀ tr s → step cfg s l = some s' → J s.db p → J s'.db p)
    (hstart : ∀ {tr s p}, Run cfg s₀ tr s → Started cfg s p → J s.db p)
    (hcont : ∀ {tr s p p'}, Run cfg s₀ tr s → Continued s p p' → J s.db p → J s.db p')
    (hpay : ∀ {tr s pid call l db' call'}, Run cfg s₀ tr s → PayTx s.db pid call l db' (some call') →
      J s.db (.pay call) → J db' (.pay call'))
    (hrefund : ∀ {tr s refundId db' a}, Run cfg s₀ tr s →
      beginRefundAttempt s.db refundId = .ok (db', some a) → J db' (.refund a)) (h : Run cfg s₀ tr s) :
    ∀ x ∈ s.procs.rows, J s.db x.proc := by
  refine Exec.history (I := fun _ s => ∀ x ∈ s.procs.rows, J s.db x.proc) ?_
    (fun {tr s l s'} run hs ih x hx => ?_) h
  · intro x hx
    rw [h₀.procs] at hx
    cases hx
  · rcases (step_transition hs).entries hx with hold | hborn
    · exact hstable run hs (ih x hold)
    · cases hborn with
      | started hp hdb => rw [hdb]; exact hstart run hp
      | continued hproc hp hdb =>
        rw [hdb]
        exact hcont run hp (ih _ (proc?_eq_some.mp hproc))
      | payNext hproc hrun => exact hpay run hrun (ih _ (proc?_eq_some.mp hproc))
      | refund hrun => exact hrefund run hrun

/-! ### Webhook steps and others -/

/-- What a step that handles no event may write. -/
def plainKinds : List WriteKind :=
  [.stock, .insertOrder, .orderStatus, .orderRest, .history, .insertPayment, .payment, .insertRefund,
   .refund, .reconcile, .resolve, .config, .returns, .shipment, .invoice]

theorem run_within_plain {op : Op} {seen db db' : Db} {now : Time}
    (h : op.run cfg seen db now = .ok db') : Within plainKinds db db' := by
  refine (run_within h).mono ?_
  cases op with
  | _ => simp [plainKinds]

theorem payTx_within {db db' : Db} {pid : Id} {call : PayCall} {next : Option PayCall}
    (h : PayTx db pid call l db' next) : Within [.payment, .insertPayment, .reconcile] db db' := by
  cases h with
  | reuse _ hok => exact (payReuse_within hok).mono (by simp)
  | record _ hok => exact (payRecord_within hok).mono (by simp)
  | orphan _ hdb _ =>
    subst hdb
    exact (reconcileIf_within (by decide) (by rfl) ..).mono (by simp)

/-- A step handles an event, records a failure, recovers a deferred event, or does none of these. -/
theorem Transition.webhook_or_plain (h : Transition cfg s l s') :
    (∃ pid newId now e seen db, l = .process pid newId now ∧ s.proc? pid = some (.delivery e seen) ∧
        processWebhookEvent cfg seen (markWebhookVerified s.db e.configId) e newId now = .ok db ∧
        s' = s.finish pid db) ∨
      (∃ pid message e db, l = .recordFailure pid message ∧ s.proc? pid = some (.failed e) ∧
        s.keyHeld e.provider e.eventId = false ∧ recordFailedEvent s.db e message = .ok db ∧
        s' = s.finish pid db) ∨
      (∃ pid newId now row seen, l = .recoverCommit pid newId now ∧
        s.proc? pid = some (.recovery row seen) ∧
        s' = s.finish pid (recoverRow cfg seen s.db row newId now)) ∨
      Within plainKinds s.db s'.db := by
  cases h with
  | process hproc hrun => exact .inl ⟨_, _, _, _, _, _, rfl, hproc, hrun, rfl⟩
  | failure hproc hfree hrun => exact .inr (.inl ⟨_, _, _, _, rfl, hproc, hfree, hrun, rfl⟩)
  | recover hproc => exact .inr (.inr (.inl ⟨_, _, _, _, _, rfl, hproc, rfl⟩))
  | op hproc hrun => exact .inr (.inr (.inr (run_within_plain hrun)))
  | duplicate _ _ => exact .inr (.inr (.inr ((markWebhookVerified_within _ _).mono (by decide))))
  | cancelReport _ => exact .inr (.inr (.inr ((cancelReport_within _ _).mono (by decide))))
  | cancelFinish _ _ _ hrun => exact .inr (.inr (.inr ((cancelFinish_within hrun).mono (by decide))))
  | payDone _ hrun => exact .inr (.inr (.inr ((payTx_within hrun).mono (by decide))))
  | payNext _ hrun => exact .inr (.inr (.inr ((payTx_within hrun).mono (by decide))))
  | refundBegin hrun hspawn =>
    rw [spawn_db hspawn]
    exact .inr (.inr (.inr ((beginRefundAttempt_within hrun).mono (by decide))))
  | refundBlocked hrun => exact .inr (.inr (.inr ((beginRefundAttempt_within hrun).mono (by decide))))
  | refundAnswer _ hrun => exact .inr (.inr (.inr ((finishRefund_within hrun).mono (by decide))))
  | refundError _ hrun =>
    exact .inr (.inr (.inr ((recordRefundAttemptFailed_within hrun).mono (by decide))))
  | started _ hspawn => rw [spawn_db hspawn]; exact .inr (.inr (.inr (.refl _)))
  | continued _ _ => exact .inr (.inr (.inr (.refl _)))
  | ended _ => exact .inr (.inr (.inr (.refl _)))

end NovaCart
