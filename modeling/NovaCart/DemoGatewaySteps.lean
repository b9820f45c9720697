import NovaCart.DemoGateway

/-! The store and its demo gateway agree.

    A payment of the gateway has an intent over the same amount, it succeeded only if the customer paid that
    intent, and a customer who paid it finds the order paid, or a record that the payment came too late. The
    invariant says what an open transaction may have done to the intents it holds, and for which event. -/

namespace NovaCart

open Schemes

variable {token : String → String} {cfg : Settings} {s s' s₀ : Sys} {l : Label} {d d' d₀ : DemoSys}
variable {tr : List (Taken DemoSys DemoLabel)} {db db' seen : Db} {e : WebhookEvent} {now : Time}

/-! ### What a step does to the processes -/

/-- The process that takes the step. -/
def Label.pid : Label → Id
  | .begin_ pid _ | .commit pid _ | .crash pid | .deliver pid _ | .process pid _ _ | .abort pid
  | .recordFailure pid _ | .recoverBegin pid _ _ _ | .recoverCommit pid _ _ | .cancelBegin pid _ _ _
  | .cancelAsk pid _ | .cancelReport pid | .cancelFinish pid _ | .payBegin pid _ | .payRetrieved pid _
  | .payCreated pid _ | .payRecord pid _ | .payOrphan pid _ | .payWinner pid _ | .refundBegin pid _
  | .refundAnswer pid _ _ | .refundError pid _ => pid

theorem proc?_finish_self (s : Sys) (pid : Id) (db : Db) : (s.finish pid db).proc? pid = none := by
  unfold Sys.proc? Sys.finish
  rw [Table.get?_erase, if_pos rfl]
  rfl

theorem proc?_finish {pid q : Id} (hq : q ≠ pid) (s : Sys) (db : Db) : (s.finish pid db).proc? q = s.proc? q := by
  unfold Sys.proc? Sys.finish
  rw [Table.get?_erase, if_neg hq]

theorem proc?_continue {pid q : Id} (hq : q ≠ pid) (s : Sys) (db : Db) (p : Proc) :
    (s.continue_ pid db p).proc? q = s.proc? q := by
  unfold Sys.proc? Sys.continue_
  rw [Table.get?_replace_of_ne hq]

theorem proc?_continue_self {pid : Id} {p p' : Proc} (h : s.proc? pid = some p) (db : Db) :
    (s.continue_ pid db p').proc? pid = some p' := proc?_eq_some.mpr ((mem_continue h).mpr (.inl rfl))

theorem spawn_some {pid : Id} {p : Proc} (h : s.spawn pid db p = some s') :
    s.proc? pid = none ∧ s'.proc? pid = some p ∧ ∀ q, q ≠ pid → s'.proc? q = s.proc? q := by
  obtain ⟨t, ht, rfl⟩ := Option.map_eq_some_iff.mp h
  have hfree := (Table.insert?_eq_some.mp ht).1
  refine ⟨by unfold Sys.proc?; rw [show s.procs.get? pid = none from hfree]; rfl, ?_, fun q hq => ?_⟩
  · exact proc?_eq_some.mpr ((Table.mem_insert? ht).mpr (.inl rfl))
  · unfold Sys.proc?
    rw [Table.get?_insert? ht, if_neg (show Keyed.key (⟨pid, p⟩ : Entry) ≠ q from Ne.symm hq)]

theorem proc?_finishWith {pid q : Id} (hq : q ≠ pid) (s : Sys) (r : Result Db) :
    (s.finishWith pid r).proc? q = s.proc? q := by
  cases r with
  | ok db => exact proc?_finish hq s db
  | error err => exact proc?_finish hq s s.db

theorem proc?_finishWith_self (s : Sys) (pid : Id) (r : Result Db) : (s.finishWith pid r).proc? pid = none := by
  cases r with
  | ok db => exact proc?_finish_self s pid db
  | error err => exact proc?_finish_self s pid s.db

theorem proc?_continueWith {pid q : Id} (hq : q ≠ pid) (s : Sys) (r : Result (Db × Option PayCall)) :
    (s.continueWith pid r).proc? q = s.proc? q := by
  rcases r with err | ⟨db, next⟩
  · exact proc?_finish hq s s.db
  · cases next with
    | none => exact proc?_finish hq s db
    | some call => exact proc?_continue hq s db (.pay call)

/-- A step leaves the other processes alone. -/
theorem step_other (h : step cfg s l = some s') {q : Id} (hq : q ≠ l.pid) : s'.proc? q = s.proc? q := by
  cases l with
  | begin_ pid op => exact (spawn_some h).2.2 q hq
  | payBegin pid orderId =>
    simp only [step] at h
    split at h
    · exact (spawn_some h).2.2 q hq
    · cases h
  | cancelBegin pid orderId actor reason =>
    simp only [step] at h
    split at h
    · exact (spawn_some h).2.2 q hq
    · cases h
  | deliver pid e =>
    simp only [step, deliver] at h
    split at h
    · split at h
      · exact (spawn_some h).2.2 q hq
      · cases h
        rfl
    · cases h
  | recoverBegin pid provider eventId now =>
    simp only [step, recoverBegin] at h
    split at h
    · cases h
    split at h
    · exact (spawn_some h).2.2 q hq
    · cases h
  | refundBegin pid refundId =>
    simp only [step] at h
    split at h
    · exact (spawn_some h).2.2 q hq
    · cases h
      rfl
    · cases h
  | crash pid =>
    simp only [step, Option.map_eq_some_iff] at h
    obtain ⟨p, _, rfl⟩ := h
    exact proc?_finish hq s s.db
  | process pid newId now =>
    simp only [step] at h
    split at h
    · cases h
      unfold NovaCart.process
      split
      · exact proc?_finish hq s _
      · exact proc?_continue hq s s.db _
    · cases h
  | recordFailure pid message =>
    simp only [step] at h
    split at h
    · split at h
      · cases h
      · cases h
        exact proc?_finishWith hq s _
    · cases h
  | cancelAsk pid answer =>
    simp only [step] at h
    split at h
    · obtain ⟨call, _, rfl⟩ := Option.map_eq_some_iff.mp h
      exact proc?_continue hq s s.db _
    · cases h
  | cancelReport pid =>
    simp only [step] at h
    split at h
    · split at h
      · cases h
        exact proc?_finish hq s _
      · cases h
    · cases h
  | cancelFinish pid now =>
    simp only [step] at h
    split at h
    · split at h
      · cases h
        exact proc?_finishWith hq s _
      · cases h
    · cases h
  | payCreated pid ppid =>
    simp only [step] at h
    split at h
    · split at h
      · cases h
        exact proc?_continue hq s s.db _
      · cases h
    · cases h
  | payRetrieved pid word | payRecord pid newId | payOrphan pid answer =>
    simp only [step] at h
    split at h
    · split at h
      · cases h
        exact proc?_continueWith hq s _
      · cases h
    · cases h
  | payWinner pid word =>
    simp only [step] at h
    split at h
    · split at h
      · cases h
        exact proc?_finish hq s s.db
      · cases h
    · cases h
  | commit pid now | refundAnswer pid report now | refundError pid message =>
    simp only [step] at h
    split at h
    · cases h
      exact proc?_finishWith hq s _
    · cases h
  | abort pid =>
    simp only [step] at h
    split at h
    · cases h
      exact proc?_continue hq s s.db _
    · cases h
  | recoverCommit pid newId now =>
    simp only [step] at h
    split at h
    · cases h
      exact proc?_finish hq s _
    · cases h

/-- The next call of a payment transaction waits for no intent to be recorded. -/
theorem payTx_next {pid : Id} {call call' : PayCall} (h : PayTx db pid call l db' (some call')) :
    ∃ stage, (∀ ppid, stage ≠ .recording ppid) ∧ call' = { call with stage := stage } := by
  cases h with
  | reuse _ hok =>
    obtain ⟨_, _, _, _, _, _, _, hnext⟩ := payReuse_ok hok
    split at hnext
    · cases hnext
    · cases hnext
      exact ⟨.creating, by simp, rfl⟩
  | record _ hok =>
    obtain ⟨_, _, ⟨_, _, hnext⟩ | ⟨_, _, ⟨_, _, _, hnext⟩ | ⟨_, ⟨winner, _, _, _, hnext⟩ | ⟨hnext, _⟩⟩⟩⟩ := payRecord_ok hok
    · cases hnext
      exact ⟨_, by simp, rfl⟩
    · cases hnext
    · cases hnext
      exact ⟨_, by simp, rfl⟩
    · cases hnext
  | orphan hstage hdb hnext =>
    rename_i ppid winner answer
    cases winner with
    | none => cases hnext
    | some winner =>
      cases hnext
      exact ⟨_, by simp, rfl⟩

theorem planPayment_stage {o : Id} {call : PayCall} (h : planPayment cfg db o = .ok call) (ppid : String) :
    call.stage ≠ .recording ppid := by
  obtain ⟨order, _, h⟩ := bind_ok h
  obtain ⟨_, _, h⟩ := bind_ok h
  obtain ⟨currency, _, h⟩ := need_bind_ok h
  obtain ⟨⟨provider, configId⟩, _, h⟩ := bind_ok h
  obtain ⟨_, _, h⟩ := bind_ok h
  obtain ⟨_, h⟩ := require_bind_ok h
  obtain ⟨_, h⟩ := require_bind_ok h
  split at h
  · cases h
    dsimp only
    split
    · simp
    · simp
  · cases h

/-- What is left of a process whose transaction ended. -/
def Sys.Left (s : Sys) (pid : Id) (commits : Bool) : Prop :=
  s.proc? pid = none ∨ (∃ e, s.proc? pid = some (.failed e)) ∨
    commits = true ∧ ∃ call, s.proc? pid = some (.pay call) ∧ ∀ ppid, call.stage ≠ .recording ppid

theorem continueWith_left {pid : Id} {call : PayCall} {r : Result (Db × Option PayCall)}
    (hproc : s.proc? pid = some (.pay call)) (hr : ∀ db next, r = .ok (db, next) → PayTx s.db pid call l db next) :
    (s.continueWith pid r).Left pid r.isOk := by
  rcases r with err | ⟨db, next⟩
  · exact .inl (proc?_finish_self s _ _)
  · cases next with
    | none => exact .inl (proc?_finish_self s _ _)
    | some call' =>
      obtain ⟨stage, hstage, rfl⟩ := payTx_next (hr db _ rfl)
      exact .inr (.inr ⟨rfl, _, proc?_continue_self hproc db, hstage⟩)

theorem ended_proc {pid : Id} {commits : Bool} (h : step cfg s l = some s')
    (hend : s.ends cfg l = some (pid, commits)) : l.pid = pid ∧ s'.Left pid commits := by
  cases l with
  | crash pid' =>
    cases hend
    obtain ⟨p, _, rfl⟩ := Option.map_eq_some_iff.mp h
    exact ⟨rfl, .inl (proc?_finish_self s _ _)⟩
  | abort pid' =>
    cases hend
    simp only [step] at h
    split at h
    · rename_i hproc
      cases h
      exact ⟨rfl, .inr (.inl ⟨_, proc?_continue_self hproc s.db⟩)⟩
    · cases h
  | process pid' newId now =>
    simp only [step] at h
    simp only [Sys.ends] at hend
    split at h
    · rename_i e seen hproc
      rw [hproc] at hend
      cases hend
      cases h
      unfold NovaCart.process
      split
      · exact ⟨rfl, .inl (proc?_finish_self s _ _)⟩
      · exact ⟨rfl, .inr (.inl ⟨_, proc?_continue_self hproc s.db⟩)⟩
    · cases h
  | cancelReport pid' =>
    cases hend
    simp only [step] at h
    split at h
    · split at h
      · cases h
        exact ⟨rfl, .inl (proc?_finish_self s _ _)⟩
      · cases h
    · cases h
  | cancelFinish pid' now =>
    simp only [step] at h
    simp only [Sys.ends] at hend
    split at h
    · rename_i call hproc
      rw [hproc] at hend
      cases hend
      split at h
      · cases h
        exact ⟨rfl, .inl (proc?_finishWith_self s _ _)⟩
      · cases h
    · cases h
  | payRetrieved pid' word =>
    simp only [step] at h
    simp only [Sys.ends] at hend
    split at h
    · rename_i call hproc
      rw [hproc] at hend
      split at h
      · rename_i paymentId hstage
        simp only [hstage] at hend
        cases hend
        cases h
        exact ⟨rfl, continueWith_left hproc fun _ _ hok => .reuse hstage hok⟩
      · cases h
    · cases h
  | payRecord pid' newId =>
    simp only [step] at h
    simp only [Sys.ends] at hend
    split at h
    · rename_i call hproc
      rw [hproc] at hend
      split at h
      · rename_i ppid hstage
        simp only [hstage] at hend
        cases hend
        cases h
        exact ⟨rfl, continueWith_left hproc fun _ _ hok => .record hstage hok⟩
      · cases h
    · cases h
  | payOrphan pid' answer =>
    simp only [step] at h
    simp only [Sys.ends] at hend
    split at h
    · rename_i call hproc
      rw [hproc] at hend
      split at h
      · rename_i ppid winner hstage
        simp only [hstage] at hend
        cases h
        have hleft : (s.continueWith pid' (.ok (cancelOrphanIntent s.db call ppid answer, call.afterOrphan winner))).Left
            pid' true := continueWith_left (l := .payOrphan pid' answer) hproc fun db next hok => by
          cases hok
          exact .orphan hstage rfl rfl
        split at hend
        · cases hend
          exact ⟨rfl, hleft⟩
        split at hend
        · rename_i hwinner
          cases hend
          subst hwinner
          exact ⟨rfl, .inl (proc?_finish_self s _ _)⟩
        · cases hend
      · cases h
    · cases h
  | payWinner pid' word =>
    cases hend
    simp only [step] at h
    split at h
    · split at h
      · cases h
        exact ⟨rfl, .inl (proc?_finish_self s _ _)⟩
      · cases h
    · cases h
  | _ => cases hend

/-- The steps that a process starts with. -/
def Label.starts : Label → Bool
  | .begin_ _ _ | .deliver _ _ | .recoverBegin _ _ _ _ | .cancelBegin _ _ _ _ | .payBegin _ _ | .refundBegin _ _ => true
  | _ => false

/-- A process starts under a free name, or not at all. -/
theorem step_starts (h : step cfg s l = some s') (hl : l.starts = true) :
    s.proc? l.pid = none ∨ s'.procs = s.procs := by
  cases l with
  | begin_ pid op => exact .inl (spawn_some h).1
  | payBegin pid orderId =>
    simp only [step] at h
    split at h
    · exact .inl (spawn_some h).1
    · cases h
  | cancelBegin pid orderId actor reason =>
    simp only [step] at h
    split at h
    · exact .inl (spawn_some h).1
    · cases h
  | deliver pid e =>
    simp only [step, deliver] at h
    split at h
    · split at h
      · exact .inl (spawn_some h).1
      · cases h
        exact .inr rfl
    · cases h
  | recoverBegin pid provider eventId now =>
    simp only [step, recoverBegin] at h
    split at h
    · cases h
    split at h
    · exact .inl (spawn_some h).1
    · cases h
  | refundBegin pid refundId =>
    simp only [step] at h
    split at h
    · exact .inl (spawn_some h).1
    · cases h
      exact .inr rfl
    · cases h
  | _ => cases hl

theorem proc?_of_procs {pid : Id} (h : s'.procs = s.procs) : s'.proc? pid = s.proc? pid := by
  unfold Sys.proc?
  rw [h]

/-- A delivery stays as it is until its transaction ends. -/
theorem delivery_stays (h : step cfg s l = some s') {pid : Id} (hproc : s.proc? pid = some (.delivery e seen)) :
    s'.proc? pid = some (.delivery e seen) ∨ ∃ commits, s.ends cfg l = some (pid, commits) := by
  by_cases hpid : pid = l.pid
  · subst hpid
    by_cases hl : l.starts = true
    · rcases step_starts h hl with hfree | hsame
      · rw [hfree] at hproc
        cases hproc
      · exact .inl ((proc?_of_procs hsame).trans hproc)
    cases l with
    | crash | abort => exact .inr ⟨_, rfl⟩
    | process pid newId now =>
      simp only [Label.pid] at hproc
      exact .inr ⟨_, by simp only [Sys.ends, hproc, Label.pid]; rfl⟩
    | begin_ | payBegin | cancelBegin | deliver | recoverBegin | refundBegin => exact absurd rfl hl
    | _ =>
      simp only [Label.pid] at hproc
      simp only [step, hproc] at h
      cases h
  · rw [step_other h hpid]
    exact .inl hproc

/-- What a process has become in a step of its own. -/
inductive Became (s : Sys) : Label → Proc → Prop
  | delivery {pid : Id} {e : WebhookEvent} : Became s (.deliver pid e) (.delivery e s.db)
  | recording {pid : Id} {ppid : String} {call : PayCall} (hproc : s.proc? pid = some (.pay call)) :
      Became s (.payCreated pid ppid) (.pay { call with stage := .recording ppid })
  | other {l : Label} {p : Proc} (hdelivery : ∀ e seen, p ≠ .delivery e seen)
      (hrecording : ∀ call ppid, p = .pay call → call.stage ≠ .recording ppid) : Became s l p

theorem Became.of_pay {call : PayCall} (h : ∀ ppid, call.stage ≠ .recording ppid) : Became s l (.pay call) := by
  refine .other (by simp) fun call' ppid heq => ?_
  cases heq
  exact h ppid

theorem continueWith_became {pid : Id} {call : PayCall} {r : Result (Db × Option PayCall)} {p : Proc}
    (hproc : s.proc? pid = some (.pay call)) (hr : ∀ db next, r = .ok (db, next) → PayTx s.db pid call l db next)
    (hp : (s.continueWith pid r).proc? pid = some p) : Became s l p := by
  rcases r with err | ⟨db, next⟩
  · rw [Sys.continueWith, proc?_finish_self] at hp
    cases hp
  · cases next with
    | none =>
      rw [Sys.continueWith, proc?_finish_self] at hp
      cases hp
    | some call' =>
      rw [Sys.continueWith, proc?_continue_self hproc] at hp
      cases hp
      obtain ⟨stage, hstage, rfl⟩ := payTx_next (hr db _ rfl)
      exact .of_pay hstage

theorem step_became (h : step cfg s l = some s') {p : Proc} (hp : s'.proc? l.pid = some p) :
    s.proc? l.pid = some p ∨ Became s l p := by
  have hspawned : ∀ {db : Db} {q : Proc}, s.spawn l.pid db q = some s' → p = q := by
    intro db q hs
    rw [(spawn_some hs).2.1] at hp
    exact (Option.some.inj hp).symm
  cases l with
  | begin_ pid op => exact .inr (hspawned h ▸ .other (by simp) (by simp))
  | deliver pid e =>
    simp only [step, deliver] at h
    split at h
    · split at h
      · exact .inr (hspawned h ▸ .delivery)
      · cases h
        exact .inl hp
    · cases h
  | recoverBegin pid provider eventId now =>
    simp only [step, recoverBegin] at h
    split at h
    · cases h
    split at h
    · exact .inr (hspawned h ▸ .other (by simp) (by simp))
    · cases h
  | cancelBegin pid orderId actor reason =>
    simp only [step] at h
    split at h
    · exact .inr (hspawned h ▸ .other (by simp) (by simp))
    · cases h
  | payBegin pid orderId =>
    simp only [step] at h
    split at h
    · rename_i call hplan
      exact .inr (hspawned h ▸ .of_pay (planPayment_stage hplan))
    · cases h
  | refundBegin pid refundId =>
    simp only [step] at h
    split at h
    · exact .inr (hspawned h ▸ .other (by simp) (by simp))
    · cases h
      exact .inl hp
    · cases h
  | crash pid =>
    simp only [step, Option.map_eq_some_iff] at h
    obtain ⟨q, _, rfl⟩ := h
    simp only [Label.pid, proc?_finish_self, reduceCtorEq] at hp
  | process pid newId now =>
    simp only [step] at h
    split at h
    · rename_i e seen hproc
      cases h
      simp only [Label.pid, NovaCart.process] at hp
      split at hp
      · rw [proc?_finish_self] at hp
        cases hp
      · rw [proc?_continue_self hproc] at hp
        cases hp
        exact .inr (.other (by simp) (by simp))
    · cases h
  | abort pid =>
    simp only [step] at h
    split at h
    · rename_i hproc
      cases h
      simp only [Label.pid, proc?_continue_self hproc] at hp
      cases hp
      exact .inr (.other (by simp) (by simp))
    · cases h
  | cancelAsk pid answer =>
    simp only [step] at h
    split at h
    · rename_i hproc
      obtain ⟨call, _, rfl⟩ := Option.map_eq_some_iff.mp h
      simp only [Label.pid, proc?_continue_self hproc] at hp
      cases hp
      exact .inr (.other (by simp) (by simp))
    · cases h
  | payCreated pid ppid =>
    simp only [step] at h
    split at h
    · rename_i call hproc
      split at h
      · cases h
        simp only [Label.pid, proc?_continue_self hproc] at hp
        cases hp
        exact .inr (.recording hproc)
      · cases h
    · cases h
  | payRetrieved pid word =>
    simp only [step] at h
    split at h
    · rename_i call hproc
      split at h
      · rename_i paymentId hstage
        cases h
        exact .inr (continueWith_became hproc (fun _ _ hok => .reuse hstage hok) hp)
      · cases h
    · cases h
  | payRecord pid newId =>
    simp only [step] at h
    split at h
    · rename_i call hproc
      split at h
      · rename_i ppid hstage
        cases h
        exact .inr (continueWith_became hproc (fun _ _ hok => .record hstage hok) hp)
      · cases h
    · cases h
  | payOrphan pid answer =>
    simp only [step] at h
    split at h
    · rename_i call hproc
      split at h
      · rename_i ppid winner hstage
        cases h
        refine .inr (continueWith_became (l := .payOrphan pid answer) hproc (fun db next hok => ?_) hp)
        cases hok
        exact .orphan hstage rfl rfl
      · cases h
    · cases h
  | payWinner pid word =>
    simp only [step] at h
    split at h
    · split at h
      · cases h
        simp only [Label.pid, proc?_finish_self, reduceCtorEq] at hp
      · cases h
    · cases h
  | cancelReport pid | recoverCommit pid newId now =>
    simp only [step] at h
    split at h
    · first
        | split at h
        | skip
      all_goals cases h
      simp only [Label.pid, proc?_finish_self, reduceCtorEq] at hp
    · cases h
  | cancelFinish pid now | recordFailure pid message =>
    simp only [step] at h
    split at h
    · split at h
      · cases h <;> simp only [Label.pid, proc?_finishWith_self, reduceCtorEq] at hp
      · cases h <;> simp only [Label.pid, proc?_finishWith_self, reduceCtorEq] at hp
    · cases h
  | commit pid now | refundAnswer pid report now | refundError pid message =>
    simp only [step] at h
    split at h
    · cases h
      simp only [Label.pid, proc?_finishWith_self, reduceCtorEq] at hp
    · cases h

/-- A delivery that was not there begins with this step, and reads the database as it is. -/
theorem delivery_born (h : step cfg s l = some s') {pid : Id} (hproc : s'.proc? pid = some (.delivery e seen)) :
    s.proc? pid = some (.delivery e seen) ∨ (l = .deliver pid e ∧ seen = s.db) := by
  by_cases hpid : pid = l.pid
  · subst hpid
    rcases step_became h hproc with hold | hnew
    · exact .inl hold
    · generalize hp : Proc.delivery e seen = p at hnew
      cases hnew with
      | delivery =>
        cases hp
        exact .inr ⟨rfl, rfl⟩
      | recording => cases hp
      | other hdelivery => exact absurd hp.symm (hdelivery e seen)
  · rw [step_other h hpid] at hproc
    exact .inl hproc

/-- A call that waits to record an intent did so before, or the provider just answered with it. -/
theorem recording_born (h : step cfg s l = some s') {pid : Id} {call : PayCall} {ppid : String}
    (hproc : s'.proc? pid = some (.pay call)) (hstage : call.stage = .recording ppid) :
    s.proc? pid = some (.pay call) ∨ ∃ call₀, s.proc? pid = some (.pay call₀) ∧ l = .payCreated pid ppid ∧
      call = { call₀ with stage := .recording ppid } := by
  by_cases hpid : pid = l.pid
  · subst hpid
    rcases step_became h hproc with hold | hnew
    · exact .inl hold
    · generalize hp : Proc.pay call = p at hnew
      cases hnew with
      | delivery => cases hp
      | recording hbefore =>
        cases hp
        cases hstage
        exact .inr ⟨_, hbefore, rfl, rfl⟩
      | other _ hrecording => exact absurd hstage (hrecording call ppid hp.symm)
  · rw [step_other h hpid] at hproc
    exact .inl hproc

/-! ### What handling an event defers -/

/-- An event that a handler defers is its own. -/
theorem deferEvent_deferred {row : DeferredWebhookEvent} (h : row ∈ (deferEvent cfg db e now).deferred.rows) :
    row.provider = e.provider ∨ row ∈ db.deferred.rows := by
  unfold deferEvent at h
  split at h
  · exact .inr h
  unfold Db.insertDeferred at h
  split at h
  · exact .inr h
  · rename_i t ht
    rcases (Table.mem_insert? ht).mp h with rfl | hold
    · exact .inl rfl
    · exact .inr hold

theorem deferIfPaymentUnknown_deferred {row : DeferredWebhookEvent}
    (h : row ∈ (deferIfPaymentUnknown cfg db e now).deferred.rows) :
    row.provider = e.provider ∨ row ∈ db.deferred.rows := by
  unfold deferIfPaymentUnknown at h
  split at h
  · exact deferEvent_deferred h
  · exact .inr h

theorem Within.deferred_rows {K : List WriteKind} (h : Within K db db') (hdefer : WriteKind.defer ∉ K)
    (hupdate : WriteKind.deferred ∉ K) {row : DeferredWebhookEvent} (hrow : row ∈ db'.deferred.rows) :
    row ∈ db.deferred.rows := by
  rwa [h.deferredEvents hdefer hupdate] at hrow

theorem handlePaymentSucceeded_deferred {row : DeferredWebhookEvent}
    (h : handlePaymentSucceeded cfg seen db e now = .ok db') (hrow : row ∈ db'.deferred.rows) :
    row.provider = e.provider ∨ row ∈ db.deferred.rows := by
  rcases handlePaymentSucceeded_ok h with ⟨_, rfl⟩ | ⟨p, hp, ⟨kind, hkind, rfl⟩ | ⟨_, db₁, hsave, hset⟩⟩
  · rcases deferEvent_deferred hrow with hown | hrow
    · exact .inl hown
    · have hrec : Within [.reconcile] db (reconcile db .unmatchedPayment
          (unmatchedPaymentKey e.providerPaymentId) none none (some e.providerPaymentId)) :=
        reconcile_within (by decide) (by rfl) ..
      exact .inr (hrec.deferred_rows (by simp) (by simp) hrow)
  · exact .inr ((flagPayment_within (eventMismatch_flags hkind _) ..).deferred_rows (by simp) (by simp) hrow)
  · exact .inr ((savePayment_within hsave).deferred_rows (by simp) (by simp)
      ((settleOrder_within hset).deferred_rows (by simp) (by simp) hrow))

theorem handleRefundEvent_deferred {id : Id} {row : DeferredWebhookEvent}
    (h : handleRefundEvent cfg seen db e id now = .ok db') (hrow : row ∈ db'.deferred.rows) :
    row.provider = e.provider ∨ row ∈ db.deferred.rows := by
  obtain ⟨target, _, ⟨_, _, _, _, happly⟩ | ⟨_, _, _, _, hext⟩ | ⟨_, _, rfl⟩⟩ := handleRefundEvent_ok h
  · exact .inr ((applyRefundState_within happly).deferred_rows (by decide) (by decide) hrow)
  · exact .inr ((recordExternalRefund_within hext).deferred_rows (by decide) (by decide) hrow)
  · have hrec : Within [.reconcile] _ (reconcile (deferIfPaymentUnknown cfg db
        { e with providerPaymentId := target.providerPaymentId } now) .refundMismatch
        (unknownRefundKey e.providerRefundId) none none (some target.providerPaymentId)) :=
      reconcile_within (by decide) (by rfl) ..
    have hdefer := deferIfPaymentUnknown_deferred (hrec.deferred_rows (by simp) (by simp) hrow)
    exact hdefer

theorem handleEvent_deferred {id : Id} {row : DeferredWebhookEvent}
    (h : handleEvent cfg seen db e id now = .ok db') (hrow : row ∈ db'.deferred.rows) :
    row.provider = e.provider ∨ row ∈ db.deferred.rows := by
  unfold handleEvent at h
  split at h
  · exact handlePaymentSucceeded_deferred h hrow
  · exact .inr ((handlePaymentFailed_within h).deferred_rows (by simp) (by simp) hrow)
  · exact handleRefundEvent_deferred h hrow
  · obtain ⟨db₁, h₁, h⟩ := bind_ok h
    cases h
    exact (deferIfPaymentUnknown_deferred hrow).imp_right
      ((applyDisputeEvent_within h₁).deferred_rows (by decide) (by decide))
  · cases h
    exact .inr hrow

theorem processWebhookEvent_deferred {id : Id} {row : DeferredWebhookEvent}
    (h : processWebhookEvent cfg seen db e id now = .ok db') (hrow : row ∈ db'.deferred.rows) :
    row.provider = e.provider ∨ row ∈ db.deferred.rows := by
  obtain ⟨db₁, hhandle, hfinish⟩ := processWebhookEvent_ok h
  have hevent : Within [.event] db₁ db' := Within.one hfinish (by simp)
  exact handleEvent_deferred hhandle (hevent.deferred_rows (by simp) (by simp) hrow)

theorem applyDeferredEvent_deferred {id : Id} {row : DeferredWebhookEvent}
    (h : applyDeferredEvent cfg seen db e id now = .ok db') (hrow : row ∈ db'.deferred.rows) :
    row.provider = e.provider ∨ row ∈ db.deferred.rows := by
  unfold applyDeferredEvent at h
  split at h
  · exact handlePaymentSucceeded_deferred h hrow
  · exact handleRefundEvent_deferred h hrow
  · exact .inr ((applyDisputeEvent_within h).deferred_rows (by decide) (by decide) hrow)
  · cases h
    exact .inr hrow
  · cases h
    exact .inr hrow

theorem mem_of_replace {α κ : Type} [Keyed α κ] [DecidableEq κ] {t : Table α} {r x : α}
    (h : x ∈ (t.replace r).rows) : x = r ∨ x ∈ t.rows := by
  obtain ⟨y, hy, rfl⟩ := List.mem_map.mp h
  split
  · exact .inl rfl
  · exact .inr hy

theorem recoverRow_deferred {row old : DeferredWebhookEvent} {id : Id}
    (hrow : row ∈ (recoverRow cfg seen db old id now).deferred.rows) :
    row.provider = old.provider ∨ row ∈ db.deferred.rows := by
  obtain ⟨giveUp, heq⟩ | ⟨_, db₁, happly, heq⟩ := recoverRow_cases cfg seen db old id now
  · rw [heq] at hrow
    rcases mem_of_replace hrow with rfl | hold
    · refine .inl ?_
      unfold DeferredWebhookEvent.retry
      split <;> rfl
    · exact .inr hold
  · rw [heq] at hrow
    rcases mem_of_replace ((resolveRecovered_within _ _).deferred_rows (by simp) (by simp) hrow) with rfl | hold
    · exact .inl rfl
    · exact applyDeferredEvent_deferred happly hold

/-- The one-transaction operations neither record payments nor touch deferred events. -/
theorem Op.kinds_foreign (op : Op) :
    WriteKind.insertPayment ∉ op.kinds ∧ WriteKind.defer ∉ op.kinds ∧ WriteKind.deferred ∉ op.kinds := by
  cases op with
  | _ => simp

/-- A deferred event was there before the step, was deferred by a delivery of its provider, or is the one
    that a worker holds. -/
theorem Change.deferred (h : Change cfg s db') {row : DeferredWebhookEvent} (hrow : row ∈ db'.deferred.rows) :
    row ∈ s.db.deferred.rows ∨
      (∃ pid newId now e seen, s.proc? pid = some (.delivery e seen) ∧ row.provider = e.provider ∧
        processWebhookEvent cfg seen (markWebhookVerified s.db e.configId) e newId now = .ok db') ∨
      ∃ pid old seen, s.proc? pid = some (.recovery old seen) ∧ row.provider = old.provider := by
  cases h with
  | op _ hrun =>
    obtain ⟨_, hdefer, hdeferred⟩ := Op.kinds_foreign _
    exact .inl ((run_within hrun).deferred_rows hdefer hdeferred hrow)
  | process hproc hrun =>
    rcases processWebhookEvent_deferred hrun hrow with hown | hold
    · exact .inr (.inl ⟨_, _, _, _, _, hproc, hown, hrun⟩)
    · exact .inl ((markWebhookVerified_within ..).deferred_rows (by simp) (by simp) hold)
  | recover hproc hdb =>
    subst hdb
    rcases recoverRow_deferred hrow with hown | hold
    · exact .inr (.inr ⟨_, _, _, hproc, hown⟩)
    · exact .inl hold
  | cancel _ hrun => exact .inl ((cancelFinish_within hrun).deferred_rows (by simp) (by simp) hrow)
  | pay _ hrun => exact .inl ((payTx_within hrun).deferred_rows (by decide) (by decide) hrow)
  | answer hrun => exact .inl ((finishRefund_within hrun).deferred_rows (by decide) (by decide) hrow)
  | quiet h => exact .inl (h.deferred_rows (by decide) (by decide) hrow)

/-- An event about a known payment that is a success or a failure is not deferred. -/
theorem handleEvent_known {id : Id} {p : Payment} (h : handleEvent cfg seen db e id now = .ok db')
    (htype : e.eventType = .paymentSucceeded ∨ e.eventType = .paymentFailed)
    (hp : seen.byProviderPaymentId e.providerPaymentId e.provider = some p) : db'.deferred = db.deferred := by
  rcases htype with htype | htype
  · simp only [handleEvent, htype] at h
    rcases handlePaymentSucceeded_ok h with ⟨hnone, _⟩ | ⟨p, _, ⟨kind, hkind, rfl⟩ | ⟨_, db₁, hsave, hset⟩⟩
    · rw [hnone] at hp
      cases hp
    · exact (flagPayment_within (eventMismatch_flags hkind _) ..).deferredEvents (by simp) (by simp)
    · rw [(settleOrder_within hset).deferredEvents (by simp) (by simp),
        (savePayment_within hsave).deferredEvents (by simp) (by simp)]
  · simp only [handleEvent, htype] at h
    exact (handlePaymentFailed_within h).deferredEvents (by simp) (by simp)

theorem processWebhookEvent_known {id : Id} {p : Payment} (h : processWebhookEvent cfg seen db e id now = .ok db')
    (htype : e.eventType = .paymentSucceeded ∨ e.eventType = .paymentFailed)
    (hp : seen.byProviderPaymentId e.providerPaymentId e.provider = some p) : db'.deferred = db.deferred := by
  obtain ⟨db₁, hhandle, hfinish⟩ := processWebhookEvent_ok h
  have hevent : Within [.event] db₁ db' := Within.one hfinish (by simp)
  rw [hevent.deferredEvents (by simp) (by simp), handleEvent_known hhandle htype hp]

/-! ### Where payments come from -/

/-- The payment of a call that recorded it. -/
theorem payRecord_payments {call : PayCall} {ppid : String} {id : Id} {next : Option PayCall}
    (h : payRecord db call ppid id = .ok (db', next)) {p : Payment} (hp : p ∈ db'.payments.rows) :
    p ∈ db.payments.rows ∨ (p.providerPaymentId = ppid ∧ call.Records p) := by
  obtain ⟨_, _, ⟨_, rfl, _⟩ | ⟨_, _, ⟨_, _, rfl, _⟩ | ⟨_, ⟨_, _, _, rfl, _⟩ | ⟨_, hins⟩⟩⟩⟩ := payRecord_ok h
  · exact .inl hp
  · exact .inl hp
  · exact .inl hp
  · obtain ⟨_, _, _, _, t, ht, rfl⟩ := insertPayment_ok hins
    rcases (Table.mem_insert? ht).mp hp with rfl | hold
    · exact .inr ⟨rfl, rfl, rfl, rfl, rfl, rfl, rfl⟩
    · exact .inl hold

/-- A payment was there before the step, or a call just recorded it. -/
theorem payment_born (h : step cfg s l = some s') {p : Payment} (hp : p ∈ s'.db.payments.rows) :
    (∃ p₀ ∈ s.db.payments.rows, p₀.Same p) ∨
      ∃ pid newId call, l = .payRecord pid newId ∧ s.proc? pid = some (.pay call) ∧
        call.stage = .recording p.providerPaymentId ∧ call.Records p ∧
        (payRecord s.db call p.providerPaymentId newId).isOk = true := by
  have hstem : Table.Stems Payment.Same s.db.payments s'.db.payments →
      ∃ p₀ ∈ s.db.payments.rows, p₀.Same p := fun hst => hst p hp
  have htx : ∀ {pid : Id} {call : PayCall} {next : Option PayCall}, s.proc? pid = some (.pay call) →
      PayTx s.db pid call l s'.db next → (∃ p₀ ∈ s.db.payments.rows, p₀.Same p) ∨
        ∃ pid newId call, l = .payRecord pid newId ∧ s.proc? pid = some (.pay call) ∧
          call.stage = .recording p.providerPaymentId ∧ call.Records p ∧
          (payRecord s.db call p.providerPaymentId newId).isOk = true := by
    intro pid call next hproc hrun
    cases hrun with
    | reuse _ hok => exact .inl (hstem ((payReuse_within hok).payments_stem (by simp)))
    | record hstage hok =>
      rcases payRecord_payments hok hp with hold | ⟨hppid, hrec⟩
      · exact .inl ⟨p, hold, .refl p⟩
      · subst hppid
        exact .inr ⟨_, _, call, rfl, hproc, hstage, hrec, by rw [hok]; rfl⟩
    | orphan _ hdb _ =>
      refine .inl (hstem ?_)
      rw [hdb]
      exact (reconcileIf_within (by decide) (by rfl) ..).payments_stem (by simp)
  cases step_transition h with
  | op _ hrun =>
    exact .inl (hstem ((run_within hrun).payments_stem (Op.kinds_foreign _).1))
  | process _ hrun => exact .inl (hstem ((process_within hrun).payments_stem (by decide)))
  | duplicate _ _ => exact .inl (hstem ((markWebhookVerified_within ..).payments_stem (by simp)))
  | failure _ _ hrun => exact .inl (hstem ((recordFailedEvent_within hrun).payments_stem (by simp)))
  | recover _ => exact .inl (hstem ((recoverRow_within ..).payments_stem (by decide)))
  | cancelReport _ => exact .inl (hstem ((cancelReport_within ..).payments_stem (by simp)))
  | cancelFinish _ _ _ hrun => exact .inl (hstem ((cancelFinish_within hrun).payments_stem (by simp)))
  | payDone hproc hrun => exact htx hproc hrun
  | payNext hproc hrun => exact htx hproc hrun
  | refundBegin hrun hspawn =>
    refine .inl (hstem ?_)
    rw [spawn_db hspawn]
    exact (beginRefundAttempt_within hrun).payments_stem (by simp)
  | refundBlocked hrun => exact .inl (hstem ((beginRefundAttempt_within hrun).payments_stem (by simp)))
  | refundAnswer _ hrun => exact .inl (hstem ((finishRefund_within hrun).payments_stem (by decide)))
  | refundError _ hrun => exact .inl (hstem ((recordRefundAttemptFailed_within hrun).payments_stem (by simp)))
  | started _ hspawn =>
    rw [spawn_db hspawn] at hp
    exact .inl ⟨p, hp, .refl p⟩
  | continued _ _ => exact .inl ⟨p, hp, .refl p⟩
  | ended _ => exact .inl ⟨p, hp, .refl p⟩

end NovaCart
