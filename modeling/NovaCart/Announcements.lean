import NovaCart.Caching
import NovaCart.Processes

/-! Who announces a committed change of the catalogue (`_collect_changed_namespaces`, `flush_pending`).

    The hooks mark a session with the namespaces of the tables it writes, and whoever commits the session is to call
    `flush_pending` after that. A session is the sequence of what the hooks and `flush_pending` see of it. -/

namespace NovaCart

open Schemes

/-! ### Sessions -/

inductive TableName
  | products | productVariants | productOptions | productOptionValues | categories
  | other (name : String)
  deriving DecidableEq, Repr

/-- `_TABLE_NAMESPACES`. -/
def tableNamespaces : TableName → List Namespace
  | .products | .productVariants | .productOptions | .productOptionValues => [.products]
  | .categories => [.categories, .products]
  | .other _ => []

def namespacesOf (tables : List TableName) : List Namespace := tables.flatMap tableNamespaces

inductive SessionEvent
  /-- a flush, with the tables of the new, dirty and deleted objects -/
  | flush (tables : List TableName)
  /-- a bulk `insert`, `update` or `delete` -/
  | bulk (table : TableName)
  | beginNested | releaseNested | rollbackNested
  | commit
  /-- of the outermost transaction -/
  | rollback
  | flushPending
  deriving DecidableEq, Repr

structure WriteSession where
  /-- `info["cache_pending_namespaces"]` -/
  pending : List Namespace
  /-- the tables that the open transaction changed, the innermost savepoint first -/
  levels : List (List TableName)
  /-- what committed transactions changed and no invalidation followed -/
  unannounced : List Namespace
  deriving DecidableEq, Repr

namespace WriteSession

def fresh : WriteSession := ⟨[], [[]], []⟩

/-- The two hooks. -/
def note (s : WriteSession) (tables : List TableName) : WriteSession :=
  { s with
    pending := s.pending ++ namespacesOf tables
    levels := match s.levels with
      | [] => [tables]
      | level :: levels => (level ++ tables) :: levels }

def step (s : WriteSession) : SessionEvent → WriteSession
  | .flush tables => s.note tables
  | .bulk table => s.note [table]
  | .beginNested => { s with levels := [] :: s.levels }
  | .releaseNested =>
    match s.levels with
    | inner :: outer :: levels => { s with levels := (outer ++ inner) :: levels }
    | _ => s
  | .rollbackNested =>
    -- the marks of a savepoint stay
    match s.levels with
    | _ :: outer :: levels => { s with levels := outer :: levels }
    | _ => s
  | .commit => { s with levels := [[]], unannounced := s.unannounced ++ namespacesOf s.levels.flatten }
  | .rollback => { s with pending := [], levels := [[]] }
  | .flushPending => { s with pending := [], unannounced := s.unannounced.filter (· ∉ s.pending) }

def run (s : WriteSession) (events : List SessionEvent) : WriteSession := events.foldl step s

end WriteSession

/-- Every committed change of the session was followed by an invalidation of its namespaces. -/
def Announced (events : List SessionEvent) : Prop := (WriteSession.fresh.run events).unannounced = []

instance (events : List SessionEvent) : Decidable (Announced events) :=
  inferInstanceAs (Decidable (_ = []))

/-- The work inside one transaction. -/
def SessionEvent.plain : SessionEvent → Bool
  | .commit | .rollback | .flushPending => false
  | _ => true

/-- The tables that the work changed, without what its savepoints rolled back. -/
def changedBy (body : List SessionEvent) : List TableName := (WriteSession.fresh.run body).levels.flatten

/-! ### Who commits -/

inductive Committer
  /-- `get_db`, when the endpoint returns -/
  | request
  /-- a service in the middle of a request or a job, before it talks to a provider -/
  | midway
  | expireOrder
  | executeRefund
  | reprocessDeferredEvents
  /-- the end of `session.begin()` -/
  | beginBlock
  deriving DecidableEq, Repr

/-- What may become of the session after this work; a request that goes on may still raise. -/
def Committer.sessions (body : List SessionEvent) : Committer → List (List SessionEvent)
  | .request | .expireOrder => [body ++ [.commit, .flushPending]]
  | .midway => [body ++ [.commit, .commit, .flushPending], body ++ [.commit, .rollback]]
  | .executeRefund | .reprocessDeferredEvents | .beginBlock => [body ++ [.commit]]

def Committer.flushes : Committer → Bool
  | .request | .expireOrder => true
  | _ => false

/-- Who commits the transaction of a step. -/
def Label.committers : Label → List Committer
  | .begin_ .. | .commit .. | .crash .. | .deliver .. | .process .. | .abort .. => [.request]
  | .recordFailure .. => [.beginBlock]
  | .recoverBegin .. | .recoverCommit .. => [.reprocessDeferredEvents]
  | .cancelBegin .. | .cancelAsk .. => [.midway]
  | .cancelReport .. => [.midway]
  | .cancelFinish .. => [.request, .expireOrder]
  | .payBegin .. | .payRetrieved .. | .payCreated .. | .payRecord .. | .payOrphan .. | .payWinner .. => [.midway, .request]
  | .refundBegin .. | .refundAnswer .. | .refundError .. => [.executeRefund]

/-- The refund job's record of the provider's answer, and the recovery of a deferred event. -/
def Label.silent : Label → Bool
  | .refundAnswer .. | .recoverCommit .. => true
  | _ => false

/-- The catalogue tables whose rows a step changed. -/
def changedTables (t : Taken Sys Label) : List TableName :=
  (if t.pre.db.stock.products.rows = t.post.db.stock.products.rows then [] else [.products])
    ++ if t.pre.db.stock.variants.rows = t.post.db.stock.variants.rows then [] else [.productVariants]

/-- Every session that may commit this work announces it. -/
def AnnouncedBy (committers : List Committer) (body : List SessionEvent) : Prop :=
  ∀ c ∈ committers, ∀ events ∈ c.sessions body, Announced events

instance (committers : List Committer) (body : List SessionEvent) : Decidable (AnnouncedBy committers body) :=
  inferInstanceAs (Decidable (∀ c ∈ committers, ∀ events ∈ c.sessions body, Announced events))

/-! ### What the hooks keep -/

variable {s : WriteSession} {body : List SessionEvent}

/-- Everything the open transaction changed is marked. -/
def Marked (s : WriteSession) : Prop := ∀ ns ∈ namespacesOf s.levels.flatten, ns ∈ s.pending

theorem mem_namespacesOf {tables : List TableName} {ns : Namespace} :
    ns ∈ namespacesOf tables ↔ ∃ t ∈ tables, ns ∈ tableNamespaces t := List.mem_flatMap

theorem Marked.of_tables {s s' : WriteSession} (hs : Marked s) (hpending : ∀ ns ∈ s.pending, ns ∈ s'.pending)
    (htables : ∀ t ∈ s'.levels.flatten, t ∈ s.levels.flatten ∨ ∀ ns ∈ tableNamespaces t, ns ∈ s'.pending) :
    Marked s' := by
  intro ns hns
  obtain ⟨t, ht, hns⟩ := mem_namespacesOf.mp hns
  rcases htables t ht with hold | hnew
  · exact hpending ns (hs ns (mem_namespacesOf.mpr ⟨t, hold, hns⟩))
  · exact hnew ns hns

theorem note_marked (hs : Marked s) (tables : List TableName) : Marked (s.note tables) := by
  refine hs.of_tables (fun ns hns => List.mem_append_left _ hns) fun t ht => ?_
  have hmarked : t ∈ tables → ∀ ns ∈ tableNamespaces t, ns ∈ (s.note tables).pending := fun hmem ns hns =>
    List.mem_append_right _ (mem_namespacesOf.mpr ⟨t, hmem, hns⟩)
  unfold WriteSession.note at ht
  cases hlevels : s.levels with
  | nil =>
    rw [hlevels] at ht
    exact .inr (hmarked (by simpa using ht))
  | cons level levels =>
    rw [hlevels] at ht
    simp only [List.flatten_cons, List.mem_append] at ht ⊢
    rcases ht with (hold | hnew) | hold
    · exact .inl (.inl hold)
    · exact .inr (hmarked hnew)
    · exact .inl (.inr hold)

/-- Work inside a transaction keeps the marks and commits nothing. -/
theorem step_plain {e : SessionEvent} (he : e.plain = true) (hs : Marked s) :
    Marked (s.step e) ∧ (s.step e).unannounced = s.unannounced := by
  cases e with
  | flush tables => exact ⟨note_marked hs tables, rfl⟩
  | bulk table => exact ⟨note_marked hs [table], rfl⟩
  | beginNested => exact ⟨hs.of_tables (fun _ h => h) fun t ht => .inl (by simpa [WriteSession.step] using ht), rfl⟩
  | releaseNested =>
    unfold WriteSession.step
    match hlevels : s.levels with
    | [] | [_] => exact ⟨hs, rfl⟩
    | inner :: outer :: levels =>
      refine ⟨hs.of_tables (fun _ h => h) fun t ht => .inl ?_, rfl⟩
      rw [hlevels]
      simp only [List.flatten_cons, List.mem_append] at ht ⊢
      tauto
  | rollbackNested =>
    unfold WriteSession.step
    match hlevels : s.levels with
    | [] | [_] => exact ⟨hs, rfl⟩
    | inner :: outer :: levels =>
      refine ⟨hs.of_tables (fun _ h => h) fun t ht => .inl ?_, rfl⟩
      rw [hlevels]
      exact List.mem_flatten.mpr (by
        obtain ⟨level, hlevel, ht⟩ := List.mem_flatten.mp ht
        exact ⟨level, List.mem_cons_of_mem _ hlevel, ht⟩)
  | commit | rollback | flushPending => cases he

theorem run_plain (hbody : ∀ e ∈ body, e.plain = true) (hs : Marked s) :
    Marked (s.run body) ∧ (s.run body).unannounced = s.unannounced := by
  induction body generalizing s with
  | nil => exact ⟨hs, rfl⟩
  | cons e body ih =>
    obtain ⟨hmarked, hsame⟩ := step_plain (hbody e List.mem_cons_self) hs
    obtain ⟨hrun, hunannounced⟩ := ih (fun x hx => hbody x (List.mem_cons_of_mem _ hx)) hmarked
    exact ⟨hrun, hunannounced.trans hsame⟩

theorem fresh_marked : Marked .fresh := fun _ h => by cases h

theorem run_append (s : WriteSession) (body rest : List SessionEvent) : s.run (body ++ rest) = (s.run body).run rest :=
  List.foldl_append

/-- After the commit, `flush_pending` finds every change marked. -/
theorem announced_flushed (hbody : ∀ e ∈ body, e.plain = true) : Announced (body ++ [.commit, .flushPending]) := by
  obtain ⟨hmarked, hnone⟩ := run_plain hbody fresh_marked
  rw [Announced, run_append]
  show List.filter _ (_ ++ _) = []
  rw [hnone, List.filter_eq_nil_iff]
  intro ns hns
  rw [show WriteSession.fresh.unannounced = [] from rfl, List.nil_append] at hns
  exact fun hnot => of_decide_eq_true hnot (hmarked ns hns)

/-- Without `flush_pending` only a transaction that changed nothing of the catalogue is announced. -/
theorem announced_committed (hbody : ∀ e ∈ body, e.plain = true) :
    Announced (body ++ [.commit]) ↔ namespacesOf (changedBy body) = [] := by
  obtain ⟨_, hnone⟩ := run_plain hbody fresh_marked
  rw [Announced, run_append]
  show _ ++ namespacesOf (changedBy body) = [] ↔ _
  rw [hnone, show WriteSession.fresh.unannounced = [] from rfl, List.nil_append]

theorem announced_midway (hbody : ∀ e ∈ body, e.plain = true) :
    Announced (body ++ [.commit, .commit, .flushPending]) := by
  obtain ⟨hmarked, hnone⟩ := run_plain hbody fresh_marked
  rw [Announced, run_append]
  show List.filter _ ((_ ++ _) ++ []) = []
  rw [hnone, List.filter_eq_nil_iff, List.append_nil]
  intro ns hns
  rw [show WriteSession.fresh.unannounced = [] from rfl, List.nil_append] at hns
  exact fun hnot => of_decide_eq_true hnot (hmarked ns hns)

/-- A committer announces the work if it calls `flush_pending` whatever comes, or if the work left the catalogue alone. -/
theorem announced_iff (hbody : ∀ e ∈ body, e.plain = true) (c : Committer) :
    (∀ events ∈ c.sessions body, Announced events) ↔ c.flushes = true ∨ namespacesOf (changedBy body) = [] := by
  have hraises : Announced (body ++ [.commit, .rollback]) ↔ namespacesOf (changedBy body) = [] := by
    rw [← announced_committed hbody, Announced, Announced, run_append, run_append]
    rfl
  cases c with
  | request | expireOrder => simpa [Committer.sessions, Committer.flushes] using announced_flushed hbody
  | midway =>
    simp only [Committer.sessions, List.forall_mem_cons, hraises, Committer.flushes]
    simpa using fun _ => announced_midway hbody
  | executeRefund | reprocessDeferredEvents | beginBlock =>
    simpa [Committer.sessions, Committer.flushes] using announced_committed hbody

/-! ### Which steps change the catalogue -/

variable {cfg : Settings} {s₀ s₁ s₂ : Sys} {l : Label} {tr : List (Taken Sys Label)} {t : Taken Sys Label}

theorem changedTables_of_stock (h : s₂.db.stock = s₁.db.stock) : changedTables ⟨s₁, l, s₂⟩ = [] := by
  unfold changedTables
  rw [h, if_pos rfl, if_pos rfl]
  rfl

theorem changedTables_namespaces {x : TableName} (h : x ∈ changedTables t) : Namespace.products ∈ tableNamespaces x := by
  unfold changedTables at h
  rcases List.mem_append.mp h with h | h
  · split at h
    · cases h
    · obtain rfl := List.mem_singleton.mp h
      exact List.mem_singleton_self _
  · split at h
    · cases h
    · obtain rfl := List.mem_singleton.mp h
      exact List.mem_singleton_self _

/-- A transaction that changes the catalogue is committed by `get_db` or by the expiry job, or its step is silent. -/
theorem Transition.changes (h : Transition cfg s₁ l s₂) (hchange : changedTables ⟨s₁, l, s₂⟩ ≠ []) :
    l.silent = true ∨ ∀ c ∈ l.committers, c.flushes = true := by
  have hsame (hstock : s₂.db.stock = s₁.db.stock) : l.silent = true ∨ ∀ c ∈ l.committers, c.flushes = true :=
    absurd (changedTables_of_stock hstock) hchange
  cases h with
  | op _ _ => exact .inr (by simp [Label.committers, Committer.flushes])
  | process _ _ => exact .inr (by simp [Label.committers, Committer.flushes])
  | duplicate _ _ => exact hsame ((markWebhookVerified_within _ _).stock (by simp))
  | failure _ _ hrun => exact hsame ((recordFailedEvent_within hrun).stock (by simp))
  | recover _ => exact .inl rfl
  | cancelReport _ => exact hsame ((cancelReport_within _ _).stock (by simp))
  | cancelFinish _ _ _ _ => exact .inr (by simp [Label.committers, Committer.flushes])
  | payDone _ hrun => exact hsame ((payTx_within hrun).stock (by simp))
  | payNext _ hrun => exact hsame ((payTx_within hrun).stock (by simp))
  | refundBegin hrun hspawn =>
    rw [← spawn_db hspawn] at hrun
    exact hsame ((beginRefundAttempt_within hrun).stock (by simp))
  | refundBlocked hrun => exact hsame ((beginRefundAttempt_within hrun).stock (by simp))
  | refundAnswer _ _ => exact .inl rfl
  | refundError _ hrun => exact hsame ((recordRefundAttemptFailed_within hrun).stock (by simp))
  | started _ hspawn => exact hsame (by rw [spawn_db hspawn])
  | continued _ _ => exact hsame rfl
  | ended _ => exact hsame rfl

theorem silent_flushes (h : l.silent = true) : ∃ c ∈ l.committers, c.flushes = false := by
  cases l with
  | refundAnswer => exact ⟨.executeRefund, List.mem_singleton_self _, rfl⟩
  | recoverCommit => exact ⟨.reprocessDeferredEvents, List.mem_singleton_self _, rfl⟩
  | _ => cases h

/-! ### Every committed change -/

/-- Work of any kind is announced by whoever commits it exactly when the committer calls `flush_pending` or the work left
    the catalogue alone; and of the transactions of the store that change the catalogue, exactly those of the refund job
    and of the recovery are not announced. -/
theorem catalogue_announced (h : Run cfg s₀ tr s₁) :
    (∀ body, (∀ e ∈ body, SessionEvent.plain e = true) → ∀ c : Committer,
      (∀ events ∈ c.sessions body, Announced events) ↔ c.flushes = true ∨ namespacesOf (changedBy body) = []) ∧
    ∀ t ∈ tr, changedTables t ≠ [] → ∀ body, (∀ e ∈ body, SessionEvent.plain e = true) →
      (∀ x, x ∈ changedBy body ↔ x ∈ changedTables t) →
        (AnnouncedBy t.label.committers body ↔ t.label.silent = false) := by
  refine ⟨fun body hbody c => announced_iff hbody c, fun t ht hchange body hbody hsame => ?_⟩
  obtain ⟨_, hstep⟩ := h.taken ht
  have hcatalogue : namespacesOf (changedBy body) ≠ [] := by
    obtain ⟨x, hx⟩ := List.exists_mem_of_ne_nil _ hchange
    exact List.ne_nil_of_mem (mem_namespacesOf.mpr ⟨x, (hsame x).mpr hx, changedTables_namespaces hx⟩)
  constructor
  · intro hannounced
    by_contra hsilent
    obtain ⟨c, hc, hflushes⟩ := silent_flushes (Bool.not_eq_false _ ▸ hsilent)
    rcases (announced_iff hbody c).mp (hannounced c hc) with htrue | hnone
    · rw [hflushes] at htrue
      cases htrue
    · exact hcatalogue hnone
  · intro hloud c hc
    refine (announced_iff hbody c).mpr (.inl ?_)
    rcases (step_transition hstep).changes hchange with hsilent | hflushes
    · rw [hloud] at hsilent
      cases hsilent
    · exact hflushes c hc

/-- The stock that a checkout takes is announced. -/
theorem catalogue_announced_checkout : ∃ tr s, Run smallSettings smallShop tr s ∧ ∃ t ∈ tr,
    changedTables t ≠ [] ∧ AnnouncedBy t.label.committers [.flush (changedTables t)] := by
  obtain ⟨tr, s, h, t, ht, hchange, hloud⟩ := exists_exec (step smallSettings) smallShop
    (P := fun tr _ => ∃ t ∈ tr, changedTables t ≠ [] ∧ t.label.silent = false)
    [.begin_ 1 (buyTwo 1), .commit 1 0] (by decide)
  have hplain : ∀ e ∈ [SessionEvent.flush (changedTables t)], e.plain = true := by
    intro e he
    obtain rfl := List.mem_singleton.mp he
    rfl
  have hchanged : ∀ x, x ∈ changedBy [.flush (changedTables t)] ↔ x ∈ changedTables t := fun x => by
    rw [show changedBy [.flush (changedTables t)] = changedTables t ++ [] from rfl, List.append_nil]
  exact ⟨tr, s, h, t, ht, hchange, ((catalogue_announced h).2 t ht hchange _ hplain hchanged).mpr hloud⟩

/-- The stock that a cancelling refund puts back is announced by nobody, when the refund job records the provider's
    answer and when a deferred event brings it. -/
theorem restock_not_announced :
    (∃ tr s, Run smallSettings smallShop tr s ∧ ∃ t ∈ tr, changedTables t = [.products] ∧
      t.label.committers = [.executeRefund] ∧ ¬AnnouncedBy t.label.committers [.bulk .products]) ∧
    ∃ tr s, Run smallSettings smallShop tr s ∧ ∃ t ∈ tr, changedTables t = [.products] ∧
      t.label.committers = [.reprocessDeferredEvents] ∧ ¬AnnouncedBy t.label.committers [.bulk .products] := by
  constructor
  · exact exists_exec (step smallSettings) smallShop
      (P := fun tr _ => ∃ t ∈ tr, changedTables t = [.products] ∧ t.label.committers = [.executeRefund] ∧
        ¬AnnouncedBy t.label.committers [.bulk .products])
      (paidOrder ++ [.begin_ 1 (.requestRefund 1 9 none true 1), .commit 1 0, .refundBegin 1 1,
        .refundAnswer 1 refundSucceeded 0])
      (by decide)
  · exact exists_exec (step smallSettings) smallShop
      (P := fun tr _ => ∃ t ∈ tr, changedTables t = [.products] ∧ t.label.committers = [.reprocessDeferredEvents] ∧
        ¬AnnouncedBy t.label.committers [.bulk .products])
      ([.begin_ 1 (buyTwo 1), .commit 1 0, .payBegin 1 1, .payCreated 1 "pi_1",
        .deliver 2 { eventId := "evt_r", eventType := .refund "updated", providerPaymentId := "pi_1", amount := some 200
                     currency := some "usd", providerRefundId := some "re_1", refundStatus := some "succeeded" },
        .process 2 0 0, .payRecord 1 1, .deliver 1 (paidEvent "evt_1" "pi_1"), .process 1 0 0,
        .begin_ 1 (.requestRefund 1 9 none true 1), .commit 1 0, .recoverBegin 2 .stripe "evt_r" 60,
        .recoverCommit 2 0 60])
      (by decide)

end NovaCart
