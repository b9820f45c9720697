import NovaCart.System
import NovaCart.Recovery

/-! Every run of the recovery tries an event a bounded number of times and applies it at most once. It applies an event
    in time as long as no payment record is found for an event that has expired. -/

namespace NovaCart.Recovery

open Schemes Schemes.Keyed

variable {cfg : Settings} {s s' : RecoverySys} {l : Label} {tr : List (Taken RecoverySys Label)}
  {r row : DeferredWebhookEvent}

/-! ### One row -/

/-- A row that says how often its event was tried (`n`) and applied (`a`). -/
structure Accounts (cfg : Settings) (r : DeferredWebhookEvent) (n a : ℕ) : Prop where
  attempts : r.attempts = n
  le : n ≤ cfg.webhookRecoveryMaxAttempts
  pending : r.status = .pending → n < cfg.webhookRecoveryMaxAttempts
  applied : a = if r.status = .recovered then 1 else 0

@[simp] theorem key_retry (giveUp : Bool) (now : Time) : key (r.retry cfg now giveUp) = key r := by
  unfold DeferredWebhookEvent.retry
  split <;> rfl

@[simp] theorem key_settle (found raised : Bool) (now : Time) : key (settle cfg r found raised now) = key r := by
  unfold settle
  split_ifs
  · exact key_retry _ _
  · rfl
  · exact key_retry _ _

theorem retry_accounts {n : ℕ} (h : Accounts cfg r n 0) (hpending : r.status = .pending) {giveUp : Bool} {now : Time}
    (hbound : cfg.webhookRecoveryMaxAttempts ≤ r.attempts + 1 → giveUp = true) :
    Accounts cfg (r.retry cfg now giveUp) (n + 1) 0 := by
  have hlt := h.pending hpending
  unfold DeferredWebhookEvent.retry
  cases giveUp with
  | true => exact ⟨congrArg (· + 1) h.attempts, hlt, by simp, by simp⟩
  | false =>
    have hroom : ¬cfg.webhookRecoveryMaxAttempts ≤ r.attempts + 1 := fun hle => by simpa using hbound hle
    have hattempts := h.attempts
    refine ⟨congrArg (· + 1) hattempts, hlt, fun _ => ?_, by simp [hpending]⟩
    omega

/-- A try of a pending row is counted by the row it leaves. -/
theorem settle_accounts {n : ℕ} (h : Accounts cfg r n 0) (hpending : r.status = .pending) (found raised : Bool)
    (now : Time) :
    Accounts cfg (settle cfg r found raised now) (n + 1) (if found && !raised then 1 else 0) := by
  have hlt := h.pending hpending
  unfold settle
  cases raised with
  | true =>
    simp only [if_true, Bool.not_true, Bool.and_false, Bool.false_eq_true, if_false]
    exact retry_accounts h hpending fun hle => decide_eq_true hle
  | false =>
    cases found with
    | true => exact ⟨congrArg (· + 1) h.attempts, hlt, by simp, by simp⟩
    | false =>
      simp only [Bool.false_eq_true, if_false, Bool.not_false, Bool.and_true]
      exact retry_accounts h hpending fun hle => decide_eq_true (.inl hle)

/-! ### Tries -/

theorem triesOf_cons_of_none {x : Taken RecoverySys Label} (h : tryOf x = none) (k : Provider × String) :
    triesOf k (x :: tr) = triesOf k tr := by
  rw [triesOf, tries, List.filterMap_cons_none h]
  rfl

theorem triesOf_cons_of_eq {x : Taken RecoverySys Label} {t : Try} (h : tryOf x = some t) {k : Provider × String}
    (hk : key t.row = k) : triesOf k (x :: tr) = t :: triesOf k tr := by
  rw [triesOf, tries, List.filterMap_cons_some h, List.filter_cons_of_pos (by simpa using hk)]
  rfl

theorem triesOf_cons_of_ne {x : Taken RecoverySys Label} {t : Try} (h : tryOf x = some t) {k : Provider × String}
    (hk : key t.row ≠ k) : triesOf k (x :: tr) = triesOf k tr := by
  rw [triesOf, tries, List.filterMap_cons_some h, List.filter_cons_of_neg (by simpa using hk)]
  rfl

/-- The row tells what was done with its event. -/
def Accounted (cfg : Settings) (tr : List (Taken RecoverySys Label)) (r : DeferredWebhookEvent) : Prop :=
  Accounts cfg r (triesOf (key r) tr).length (applicationsOf (key r) tr).length

theorem Accounted.of_triesOf_eq {tr' : List (Taken RecoverySys Label)} (h : Accounted cfg tr r)
    (heq : triesOf (key r) tr' = triesOf (key r) tr) : Accounted cfg tr' r := by
  unfold Accounted applicationsOf at h ⊢
  rwa [heq]

/-- The turn of a pending row. -/
theorem Accounted.settle {x : Taken RecoverySys Label} {found raised : Bool} {now : Time} (h : Accounted cfg tr r)
    (hpending : r.status = .pending) (hx : tryOf x = some ⟨r, found, raised, now⟩) :
    Accounted cfg (x :: tr) (settle cfg r found raised now) := by
  have hzero : (applicationsOf (key r) tr).length = 0 := by simpa [hpending] using h.applied
  have hold : Accounts cfg r (triesOf (key r) tr).length 0 := by
    unfold Accounted at h
    rwa [hzero] at h
  have hnext := settle_accounts hold hpending found raised now
  unfold Accounted applicationsOf
  rw [key_settle, triesOf_cons_of_eq hx rfl, List.length_cons]
  have happ : (List.filter Try.applies (⟨r, found, raised, now⟩ :: triesOf (key r) tr)).length
      = if found && !raised then 1 else 0 := by
    have hnone : List.filter Try.applies (triesOf (key r) tr) = [] := List.eq_nil_of_length_eq_zero hzero
    cases hnow : Try.applies ⟨r, found, raised, now⟩ with
    | true =>
      have hyes : (found && !raised) = true := hnow
      rw [List.filter_cons_of_pos hnow, hnone, if_pos hyes]
      rfl
    | false =>
      have hnot : ¬(found && !raised) = true := Bool.eq_false_iff.mp hnow
      rw [List.filter_cons_of_neg (Bool.eq_false_iff.mp hnow), hnone, if_neg hnot]
      rfl
  rw [happ]
  exact hnext

/-! ### The invariant -/

/-- Two transactions have locked one row. -/
def Shares (b b' : Batch) : Prop := ∃ k, k ∈ b.rows.map key ∧ k ∈ b'.rows.map key

structure Inv (cfg : Settings) (tr : List (Taken RecoverySys Label)) (s : RecoverySys) : Prop where
  free : ∀ r ∈ s.deferred.rows, s.locked (key r) = false → Accounted cfg tr r
  todo : ∀ b ∈ s.batches.rows, ∀ r ∈ b.todo, r ∈ s.deferred.rows ∧ r.status = .pending ∧ Accounted cfg tr r
  done : ∀ b ∈ s.batches.rows, ∀ r ∈ b.done, Accounted cfg tr r ∧
    ∃ r₀ ∈ s.deferred.rows, key r₀ = key r ∧ r₀.status = .pending
  exclusive : ∀ b ∈ s.batches.rows, ∀ b' ∈ s.batches.rows, Shares b b' → key b = key b'
  nodup : ∀ b ∈ s.batches.rows, (b.rows.map key).Nodup
  fresh : ∀ k, s.deferred.get? k = none → triesOf k tr = []

theorem locked_iff {k : Provider × String} : s.locked k ↔ ∃ b ∈ s.batches.rows, k ∈ b.rows.map key := by
  simp [RecoverySys.locked]

theorem not_locked_iff {k : Provider × String} : s.locked k = false ↔ ∀ b ∈ s.batches.rows, k ∉ b.rows.map key := by
  rw [← Bool.not_eq_true, locked_iff]
  simp only [not_exists, not_and]

/-- A locked row was pending when it was committed. -/
theorem Inv.pending_of_locked (hinv : Inv cfg tr s) (hr : r ∈ s.deferred.rows) (hlocked : s.locked (key r)) :
    r.status = .pending := by
  obtain ⟨b, hb, hk⟩ := locked_iff.mp hlocked
  obtain ⟨r', hr', heq⟩ := List.mem_map.mp hk
  rcases List.mem_append.mp hr' with hdone | htodo
  · obtain ⟨-, r₀, hr₀, hkey, hstatus⟩ := hinv.done b hb r' hdone
    exact s.deferred.eq_of_key_eq hr hr₀ (heq.symm.trans hkey.symm) ▸ hstatus
  · obtain ⟨hmem, hstatus, -⟩ := hinv.todo b hb r' htodo
    exact s.deferred.eq_of_key_eq hr hmem heq.symm ▸ hstatus

/-- What is known of an event, from its row or from the transaction that has locked it. -/
theorem Inv.bounds (hinv : Inv cfg tr s) (k : Provider × String) :
    (triesOf k tr).length ≤ cfg.webhookRecoveryMaxAttempts ∧ (applicationsOf k tr).length ≤ 1 := by
  have haccounted : ∀ {r}, Accounted cfg tr r → key r = k → (triesOf k tr).length ≤ cfg.webhookRecoveryMaxAttempts ∧
      (applicationsOf k tr).length ≤ 1 := by
    rintro r h rfl
    refine ⟨h.le, ?_⟩
    rw [h.applied]
    split_ifs <;> omega
  cases hget : s.deferred.get? k with
  | none => simp [applicationsOf, hinv.fresh k hget]
  | some r =>
    obtain ⟨hr, hkey⟩ := Table.get?_eq_some.mp hget
    cases hlocked : s.locked (key r) with
    | false => exact haccounted (hinv.free r hr hlocked) hkey
    | true =>
      obtain ⟨b, hb, hk⟩ := locked_iff.mp hlocked
      obtain ⟨r', hr', heq⟩ := List.mem_map.mp hk
      rcases List.mem_append.mp hr' with hdone | htodo
      · exact haccounted (hinv.done b hb r' hdone).1 (heq.trans hkey)
      · exact haccounted (hinv.todo b hb r' htodo).2.2 (heq.trans hkey)

/-! ### Steps -/

/-- Steps without a turn leave the counts as they are. -/
theorem Accounted.keep {x : Taken RecoverySys Label} (hx : tryOf x = none) (h : Accounted cfg tr r) :
    Accounted cfg (x :: tr) r := h.of_triesOf_eq (triesOf_cons_of_none hx _)

theorem Inv.defer (hmax : 1 ≤ cfg.webhookRecoveryMaxAttempts) (hinv : Inv cfg tr s) (e : WebhookEvent) (now : Time)
    {x : Taken RecoverySys Label} (hx : tryOf x = none) : Inv cfg (x :: tr) (s.defer cfg e now) := by
  have hkept : Inv cfg (x :: tr) s :=
    ⟨fun r hr hfree => (hinv.free r hr hfree).keep hx,
      fun b hb r hr => (hinv.todo b hb r hr).imp_right fun h => h.imp_right fun h => h.keep hx,
      fun b hb r hr => (hinv.done b hb r hr).imp_left fun h => h.keep hx, hinv.exclusive, hinv.nodup,
      fun k hk => (triesOf_cons_of_none hx k).trans (hinv.fresh k hk)⟩
  unfold RecoverySys.defer
  split_ifs
  · exact hkept
  cases hinsert : s.deferred.insert? (deferredRow cfg e now) with
  | none => exact hkept
  | some deferred =>
    have hmem := fun {r} => Table.mem_insert? hinsert (x := r)
    have hnone := (Table.insert?_eq_some.mp hinsert).1
    refine ⟨fun r hr hfree => ?_, fun b hb r hr => ?_, fun b hb r hr => ?_, hkept.exclusive, hkept.nodup,
      fun k hk => ?_⟩
    · rcases hmem.mp hr with rfl | hold
      · have htries := hkept.fresh _ hnone
        refine ⟨?_, ?_, fun _ => ?_, ?_⟩
        · rw [htries]; rfl
        · rw [htries]; exact Nat.zero_le _
        · rw [htries]; exact hmax
        · rw [applicationsOf, htries]
          simp [deferredRow]
      · exact hkept.free r hold hfree
    · exact (hkept.todo b hb r hr).imp_left fun h => hmem.mpr (.inr h)
    · refine (hkept.done b hb r hr).imp_right fun ⟨r₀, hr₀, h⟩ => ⟨r₀, hmem.mpr (.inr hr₀), h⟩
    · refine hkept.fresh k ?_
      rw [Option.getD_some, Table.get?_insert? hinsert] at hk
      split_ifs at hk
      exact hk

theorem mem_due {now : Time} :
    r ∈ s.due now ↔ r ∈ s.deferred.rows ∧ r.status = .pending ∧ r.nextAttemptAt ≤ now ∧ s.locked (key r) = false := by
  simp [RecoverySys.due]

theorem Inv.claim (hinv : Inv cfg tr s) {worker : Id} {batch : List DeferredWebhookEvent} {now : Time}
    (hclaims : Claims (s.due now) batch) {batches : Table Batch}
    (hinsert : s.batches.insert? ⟨worker, batch, []⟩ = some batches) {x : Taken RecoverySys Label}
    (hx : tryOf x = none) : Inv cfg (x :: tr) { s with batches := batches } := by
  have hmem := fun {b} => Table.mem_insert? hinsert (x := b)
  have hdue : ∀ r ∈ batch, r ∈ s.deferred.rows ∧ r.status = .pending ∧ s.locked (key r) = false := by
    intro r hr
    obtain ⟨hin, hpending, -, hfree⟩ := mem_due.mp (hclaims.subset hr)
    exact ⟨hin, hpending, hfree⟩
  refine ⟨fun r hr hfree => ?_, fun b hb r hr => ?_, fun b hb r hr => ?_, ?_, fun b hb => ?_, fun k hk => ?_⟩
  · refine (hinv.free r hr ?_).keep hx
    exact not_locked_iff.mpr fun b hb => not_locked_iff.mp hfree b (hmem.mpr (.inr hb))
  · rcases hmem.mp hb with rfl | hold
    · obtain ⟨hin, hpending, hfree⟩ := hdue r hr
      exact ⟨hin, hpending, (hinv.free r hin hfree).keep hx⟩
    · exact (hinv.todo b hold r hr).imp_right fun h => h.imp_right fun h => h.keep hx
  · rcases hmem.mp hb with rfl | hold
    · cases hr
    · exact (hinv.done b hold r hr).imp_left fun h => h.keep hx
  · -- the claimed rows were not locked
    refine Table.pairs_insert? hinsert hinv.exclusive fun b hb => ?_
    have hnot : ∀ k ∈ batch.map key, k ∉ b.rows.map key := by
      intro k hk
      obtain ⟨r, hr, rfl⟩ := List.mem_map.mp hk
      exact not_locked_iff.mp (hdue r hr).2.2 b hb
    exact ⟨fun ⟨k, hk, hk'⟩ => hnot k hk' hk, fun ⟨k, hk, hk'⟩ => hnot k hk hk'⟩
  · rcases hmem.mp hb with rfl | hold
    · refine hclaims.nodup.map_on fun r hr r' hr' => ?_
      exact s.deferred.eq_of_key_eq (hdue r hr).1 (hdue r' hr').1
    · exact hinv.nodup b hold
  · exact (triesOf_cons_of_none hx k).trans (hinv.fresh k hk)

theorem Inv.commit (hinv : Inv cfg tr s) {worker : Id} {done : List DeferredWebhookEvent}
    (hget : s.batches.get? worker = some ⟨worker, [], done⟩) {x : Taken RecoverySys Label} (hx : tryOf x = none) :
    Inv cfg (x :: tr) ⟨s.deferred.map (publish done) (key_publish done), s.batches.erase worker⟩ := by
  obtain ⟨hb₀, -⟩ := Table.get?_eq_some.mp hget
  have hother : ∀ b ∈ (s.batches.erase worker).rows, b ∈ s.batches.rows ∧ ∀ k ∈ b.rows.map key, k ∉ done.map key := by
    intro b hb
    obtain ⟨hin, hne⟩ := Table.mem_erase.mp hb
    refine ⟨hin, fun k hk hdone => hne ?_⟩
    exact hinv.exclusive b hin _ hb₀ ⟨k, hk, by simpa [Batch.rows] using hdone⟩
  have hsame : ∀ r, key r ∉ done.map key → publish done r = r := by
    intro r hr
    have hnone : (done.find? fun d => key d = key r) = none :=
      List.find?_eq_none.mpr fun d hd => by
        simpa using fun heq : key d = key r => hr (List.mem_map.mpr ⟨d, hd, heq⟩)
    rw [publish, hnone, Option.getD_none]
  refine ⟨fun r hr hfree => ?_, fun b hb r hr => ?_, fun b hb r hr => ?_, ?_, fun b hb => ?_, fun k hk => ?_⟩
  · obtain ⟨r₁, hr₁, rfl⟩ := List.mem_map.mp hr
    rw [key_publish] at hfree
    by_cases hdone : key r₁ ∈ done.map key
    · obtain ⟨d, hfind⟩ : ∃ d, (done.find? fun d => key d = key r₁) = some d := by
        obtain ⟨d, hd, heq⟩ := List.mem_map.mp hdone
        exact Option.isSome_iff_exists.mp (List.find?_isSome.mpr ⟨d, hd, by simpa using heq⟩)
      rw [publish, hfind, Option.getD_some]
      exact (hinv.done _ hb₀ d (List.mem_of_find?_eq_some hfind)).1.keep hx
    · rw [hsame r₁ hdone]
      refine (hinv.free r₁ hr₁ (not_locked_iff.mpr fun b hb hk => ?_)).keep hx
      by_cases hworker : key b = worker
      · have hsame : b = ⟨worker, [], done⟩ := s.batches.eq_of_key_eq hb hb₀ hworker
        rw [hsame] at hk
        exact hdone (by simpa [Batch.rows] using hk)
      · exact not_locked_iff.mp hfree b (Table.mem_erase.mpr ⟨hb, hworker⟩) hk
  · obtain ⟨hin, hnot⟩ := hother b hb
    obtain ⟨hrow, hpending, hacc⟩ := hinv.todo b hin r hr
    have hkey : key r ∈ b.rows.map key := List.mem_map_of_mem (List.mem_append_right _ hr)
    have hrow' : r ∈ (s.deferred.map (publish done) (key_publish done)).rows :=
      Table.mem_map.mpr ⟨r, hrow, hsame r (hnot _ hkey)⟩
    exact ⟨hrow', hpending, hacc.keep hx⟩
  · obtain ⟨hin, hnot⟩ := hother b hb
    obtain ⟨hacc, r₀, hr₀, hkey₀, hpending⟩ := hinv.done b hin r hr
    have hkey : key r ∈ b.rows.map key := List.mem_map_of_mem (List.mem_append_left _ hr)
    have hr₀' : publish done r₀ = r₀ := hsame r₀ (hkey₀ ▸ hnot _ hkey)
    have hmem : r₀ ∈ (s.deferred.map (publish done) (key_publish done)).rows := Table.mem_map.mpr ⟨r₀, hr₀, hr₀'⟩
    exact ⟨hacc.keep hx, r₀, hmem, hkey₀, hpending⟩
  · exact fun b hb b' hb' => hinv.exclusive b (hother b hb).1 b' (hother b' hb').1
  · exact hinv.nodup b (hother b hb).1
  · refine (triesOf_cons_of_none hx k).trans (hinv.fresh k ?_)
    rwa [Table.get?_map, Option.map_eq_none_iff] at hk

theorem Inv.handle (hinv : Inv cfg tr s) {worker : Id} {todo done : List DeferredWebhookEvent} {found raised : Bool}
    {now : Time} (hget : s.batches.get? worker = some ⟨worker, row :: todo, done⟩) {x : Taken RecoverySys Label}
    (hx : tryOf x = some ⟨row, found, raised, now⟩) :
    Inv cfg (x :: tr)
      { s with batches := s.batches.replace ⟨worker, todo, done ++ [settle cfg row found raised now]⟩ } := by
  obtain ⟨hb₀, -⟩ := Table.get?_eq_some.mp hget
  set next : Batch := ⟨worker, todo, done ++ [settle cfg row found raised now]⟩ with hnext
  have hmem := fun {b} => Table.mem_replace (q := next) hget (x := b)
  have hkeys : next.rows.map key = (Batch.rows ⟨worker, row :: todo, done⟩).map key := by simp [Batch.rows, hnext]
  have hnodup := hinv.nodup _ hb₀
  obtain ⟨hrow, hpending, hacc⟩ := hinv.todo _ hb₀ row List.mem_cons_self
  -- whoever does not have the key of the row keeps its count
  have hkeep : ∀ {r}, Accounted cfg tr r → key r ≠ key row → Accounted cfg (x :: tr) r := fun h hne =>
    h.of_triesOf_eq (triesOf_cons_of_ne hx hne.symm)
  have hother : ∀ b ∈ s.batches.rows, key b ≠ key next → key row ∉ b.rows.map key := by
    intro b hb hne hk
    refine hne (hinv.exclusive b hb ⟨worker, row :: todo, done⟩ hb₀ ⟨_, hk, ?_⟩)
    exact List.mem_map_of_mem (List.mem_append_right _ List.mem_cons_self)
  have hne_of_mem : ∀ {b : Batch} {r}, key row ∉ b.rows.map key → r ∈ b.rows → key r ≠ key row := fun hnot hr heq =>
    hnot (List.mem_map.mpr ⟨_, hr, heq⟩)
  have hdistinct : ∀ r ∈ done ++ todo, key r ≠ key row := by
    simp only [Batch.rows, List.map_append, List.map_cons] at hnodup
    have hcons := (List.perm_middle.nodup_iff).mp hnodup
    intro r hr heq
    refine (List.nodup_cons.mp hcons).1 ?_
    rw [← List.map_append]
    exact List.mem_map.mpr ⟨r, hr, heq⟩
  refine ⟨fun r hr hfree => ?_, fun b hb r hr => ?_, fun b hb r hr => ?_, ?_, fun b hb => ?_, fun k hk => ?_⟩
  · have hnot := not_locked_iff.mp hfree
    have hne : key r ≠ key row := fun heq => hnot next (hmem.mpr (.inl rfl)) (by
      rw [hkeys, heq]
      exact List.mem_map_of_mem (List.mem_append_right _ List.mem_cons_self))
    refine hkeep (hinv.free r hr (not_locked_iff.mpr fun b hb hk => ?_)) hne
    by_cases hb' : key b = key next
    · have hsame : b = ⟨worker, row :: todo, done⟩ := s.batches.eq_of_key_eq hb hb₀ hb'
      exact hnot next (hmem.mpr (.inl rfl)) (by rw [hkeys, ← hsame]; exact hk)
    · exact hnot b (hmem.mpr (.inr ⟨hb, hb'⟩)) hk
  · rcases hmem.mp hb with rfl | ⟨hold, hne⟩
    · obtain ⟨hin, hstatus, h⟩ := hinv.todo _ hb₀ r (List.mem_cons_of_mem _ hr)
      exact ⟨hin, hstatus, hkeep h (hdistinct r (List.mem_append_right _ hr))⟩
    · obtain ⟨hin, hstatus, h⟩ := hinv.todo b hold r hr
      exact ⟨hin, hstatus, hkeep h (hne_of_mem (hother b hold hne) (List.mem_append_right _ hr))⟩
  · rcases hmem.mp hb with rfl | ⟨hold, hne⟩
    · rcases List.mem_append.mp hr with hbefore | hnow
      · obtain ⟨h, hrest⟩ := hinv.done _ hb₀ r hbefore
        exact ⟨hkeep h (hdistinct r (List.mem_append_left _ hbefore)), hrest⟩
      · obtain rfl := List.mem_singleton.mp hnow
        exact ⟨hacc.settle hpending hx, row, hrow, (key_settle ..).symm, hpending⟩
    · obtain ⟨h, hrest⟩ := hinv.done b hold r hr
      exact ⟨hkeep h (hne_of_mem (hother b hold hne) (List.mem_append_left _ hr)), hrest⟩
  · refine Table.pairs_replace hget hinv.exclusive fun b hb hne => ?_
    have hshares : ∀ k, k ∈ b.rows.map key → k ∉ next.rows.map key := by
      intro k hk hk'
      rw [hkeys] at hk'
      exact hne (hinv.exclusive b hb ⟨worker, row :: todo, done⟩ hb₀ ⟨k, hk, hk'⟩)
    exact ⟨fun ⟨k, hk, hk'⟩ => hshares k hk hk', fun ⟨k, hk, hk'⟩ => hshares k hk' hk⟩
  · rcases hmem.mp hb with rfl | ⟨hold, -⟩
    · rw [hkeys]
      exact hnodup
    · exact hinv.nodup b hold
  · have hne : key row ≠ k := by
      rintro rfl
      exact absurd (Table.get?_of_mem hrow) (by rw [hk]; simp)
    exact (triesOf_cons_of_ne hx hne).trans (hinv.fresh k hk)

/-- A step and what it tries. -/
theorem Inv.step (hmax : 1 ≤ cfg.webhookRecoveryMaxAttempts) (hinv : Inv cfg tr s)
    (hstep : step cfg s l = some s') : Inv cfg (⟨s, l, s'⟩ :: tr) s' := by
  cases l with
  | defer e now =>
    obtain rfl := Option.some.inj hstep
    exact hinv.defer hmax e now rfl
  | claim worker batch now =>
    simp only [Recovery.step] at hstep
    split_ifs at hstep with hclaims
    obtain ⟨batches, hinsert, rfl⟩ := Option.map_eq_some_iff.mp hstep
    exact hinv.claim hclaims hinsert rfl
  | handle worker found raised now =>
    simp only [Recovery.step, RecoverySys.handle] at hstep
    split at hstep
    · rename_i w row todo done hget
      obtain rfl : w = worker := Table.key_of_get? hget
      obtain rfl := Option.some.inj hstep
      exact hinv.handle hget (by simp [tryOf, hget])
    · cases hstep
  | commit worker =>
    simp only [Recovery.step] at hstep
    split at hstep
    · rename_i w done hget
      obtain rfl : w = worker := Table.key_of_get? hget
      obtain rfl := Option.some.inj hstep
      exact hinv.commit hget rfl
    · cases hstep

theorem inv_of_exec (hmax : 1 ≤ cfg.webhookRecoveryMaxAttempts) (h : Exec (step cfg) init tr s) : Inv cfg tr s :=
  h.history
    { free := fun _ hr => absurd hr List.not_mem_nil
      todo := fun _ hb => absurd hb List.not_mem_nil
      done := fun _ hb => absurd hb List.not_mem_nil
      exclusive := fun _ hb => absurd hb List.not_mem_nil
      nodup := fun _ hb => absurd hb List.not_mem_nil
      fresh := fun _ _ => rfl }
    fun _ hstep hinv => hinv.step hmax hstep

/-! ### Rows that are settled for good -/

/-- A row that is recovered or expired stays as it is, and its event is not tried. -/
theorem Inv.settled_step (hinv : Inv cfg tr s) (hr : r ∈ s.deferred.rows) (hstatus : r.status ≠ .pending)
    (hstep : Recovery.step cfg s l = some s') :
    r ∈ s'.deferred.rows ∧ ∀ t ∈ tryOf ⟨s, l, s'⟩, key t.row ≠ key r := by
  have hfree : s.locked (key r) = false :=
    Bool.eq_false_iff.mpr fun hlocked => hstatus (hinv.pending_of_locked hr hlocked)
  cases l with
  | defer e now =>
    obtain rfl := Option.some.inj hstep
    refine ⟨?_, by simp [tryOf]⟩
    unfold RecoverySys.defer
    split_ifs
    · exact hr
    cases hinsert : s.deferred.insert? (deferredRow cfg e now) with
    | none => exact hr
    | some deferred => exact (Table.mem_insert? hinsert).mpr (.inr hr)
  | claim worker batch now =>
    simp only [Recovery.step] at hstep
    split_ifs at hstep with hclaims
    obtain ⟨batches, hinsert, rfl⟩ := Option.map_eq_some_iff.mp hstep
    exact ⟨hr, by simp [tryOf]⟩
  | handle worker found raised now =>
    simp only [Recovery.step, RecoverySys.handle] at hstep
    split at hstep
    · rename_i w row todo done hget
      obtain rfl := Option.some.inj hstep
      refine ⟨hr, fun t ht heq => ?_⟩
      obtain rfl : (⟨row, found, raised, now⟩ : Try) = t := by simpa [tryOf, hget] using ht
      have hkey : key r ∈ (Batch.rows ⟨w, row :: todo, done⟩).map key :=
        heq ▸ List.mem_map_of_mem (List.mem_append_right _ List.mem_cons_self)
      exact not_locked_iff.mp hfree _ (Table.mem_of_get? hget) hkey
    · cases hstep
  | commit worker =>
    simp only [Recovery.step] at hstep
    split at hstep
    · rename_i w done hget
      obtain rfl := Option.some.inj hstep
      have hnone : (done.find? fun d => key d = key r) = none := by
        refine List.find?_eq_none.mpr fun d hd heq => ?_
        have hkey : key r ∈ (Batch.rows ⟨w, [], done⟩).map key :=
          List.mem_map.mpr ⟨d, List.mem_append_left _ hd, by simpa using heq⟩
        exact not_locked_iff.mp hfree _ (Table.mem_of_get? hget) hkey
      have hsame : publish done r = r := by rw [publish, hnone, Option.getD_none]
      exact ⟨List.mem_map.mpr ⟨r, hr, hsame⟩, by simp [tryOf]⟩
    · cases hstep

theorem settled_stays (hmax : 1 ≤ cfg.webhookRecoveryMaxAttempts) {later earlier : List (Taken RecoverySys Label)}
    {s₁ : RecoverySys} (hbefore : Exec (step cfg) init earlier s₁) (h : Exec (step cfg) s₁ later s)
    (hr : r ∈ s₁.deferred.rows) (hstatus : r.status ≠ .pending) :
    r ∈ s.deferred.rows ∧ ∀ t ∈ tries later, key t.row ≠ key r := by
  induction h with
  | nil => exact ⟨hr, fun t ht => (nomatch ht)⟩
  | @cons later s s' l run hstep ih =>
    obtain ⟨hrow, htries⟩ := ih
    obtain ⟨hrow', htry⟩ := (inv_of_exec hmax (hbefore.append run)).settled_step hrow hstatus hstep
    refine ⟨hrow', fun t ht => ?_⟩
    obtain ⟨x, hx, hxt⟩ := List.mem_filterMap.mp ht
    rcases List.mem_cons.mp hx with rfl | hold
    · exact htry t hxt
    · exact htries t (List.mem_filterMap.mpr ⟨x, hold, hxt⟩)

/-! ### One failure in a batch -/

/-- A turn that raises takes nothing away from the others: without it they leave the same rows and the same database. -/
def Isolated {σ : Type} (h : Handlers σ) (cfg : Settings) : Prop :=
  ∀ before entry after s, h.raises cfg (h.reprocess cfg before s).2 entry = true →
    ∃ rows rows' row, rows.length = before.length ∧
      (h.reprocess cfg (before ++ after) s).1 = rows ++ rows' ∧
      (h.reprocess cfg (before ++ entry :: after) s).1 = rows ++ row :: rows' ∧
      (h.reprocess cfg (before ++ entry :: after) s).2 = (h.reprocess cfg (before ++ after) s).2

variable {σ : Type} {h : Handlers σ}

theorem reprocess_append (before after : List (DeferredWebhookEvent × Time)) (s : σ) :
    h.reprocess cfg (before ++ after) s =
      ((h.reprocess cfg before s).1 ++ (h.reprocess cfg after (h.reprocess cfg before s).2).1,
        (h.reprocess cfg after (h.reprocess cfg before s).2).2) := by
  induction before generalizing s with
  | nil => rfl
  | cons entry before ih => simp only [List.cons_append, Handlers.reprocess, ih]

theorem length_reprocess (entries : List (DeferredWebhookEvent × Time)) (s : σ) :
    (h.reprocess cfg entries s).1.length = entries.length := by
  induction entries generalizing s with
  | nil => rfl
  | cons entry entries ih => simp only [Handlers.reprocess, List.length_cons, ih]

theorem commit_of_raises {s : σ} {entry : DeferredWebhookEvent × Time} (hraises : h.raises cfg s entry = true) :
    Schemes.commit (h.inSavepoint cfg) s entry = s := by
  unfold Handlers.raises at hraises
  rcases commit_cases (h.inSavepoint cfg) s entry with hok | hsame
  · rw [hok] at hraises
    cases hraises
  · exact hsame

theorem isolated (h : Handlers σ) (cfg : Settings) : Isolated h cfg := by
  intro before entry after s hraises
  refine ⟨(h.reprocess cfg before s).1, (h.reprocess cfg after (h.reprocess cfg before s).2).1,
    settle cfg entry.1 (h.found (h.reprocess cfg before s).2 entry.1) true entry.2, length_reprocess before s,
    congrArg Prod.fst (reprocess_append before after s), ?_, ?_⟩
  · rw [reprocess_append]
    simp only [Handlers.reprocess, commit_of_raises hraises, hraises]
  · rw [reprocess_append, reprocess_append]
    simp only [Handlers.reprocess, commit_of_raises hraises]

/-! ### The bounds of the recovery -/

structure Bounded (cfg : Settings) (tr : List (Taken RecoverySys Label)) (s : RecoverySys) : Prop where
  atMost : ∀ k, (triesOf k tr).length ≤ cfg.webhookRecoveryMaxAttempts
  once : ∀ k, (applicationsOf k tr).length ≤ 1
  inTime : ∀ t ∈ tries tr, t.applies → t.now < t.row.expiresAt
  settled : ∀ later x earlier, tr = later ++ x :: earlier → ∀ r ∈ x.post.deferred.rows, r.status ≠ .pending →
    r ∈ s.deferred.rows ∧ ∀ t ∈ tries later, key t.row ≠ key r

/-- The recovery is bounded and its failures are isolated in every run in which no payment record is found for an event
    whose window has closed. -/
theorem recovery_bounded (hmax : 1 ≤ cfg.webhookRecoveryMaxAttempts) (hrun : Exec (step cfg) init tr s)
    (hopen : ∀ t ∈ tries tr, t.found → t.now < t.row.expiresAt) (h : Handlers σ) :
    Bounded cfg tr s ∧ Isolated h cfg := by
  have hinv := inv_of_exec hmax hrun
  refine ⟨⟨fun k => (hinv.bounds k).1, fun k => (hinv.bounds k).2, fun t ht happlies => hopen t ht ?_, ?_⟩,
    isolated h cfg⟩
  · exact (Bool.and_eq_true_iff.mp happlies).1
  · rintro later x earlier rfl r hr hstatus
    obtain ⟨hbefore, hstep, hafter⟩ := hrun.split
    exact settled_stays hmax (.cons hbefore hstep) hafter hr hstatus

/-- A payment event that is deferred at the start and claimed at some time, when its payment record exists. -/
def claimedAt (now : Time) : List Label :=
  let e : WebhookEvent := { eventId := "evt_1", eventType := .paymentSucceeded, providerPaymentId := "pi_1" }
  [.defer e 0, .claim 1 [deferredRow smallSettings e 0] now, .handle 1 true false now, .commit 1]

theorem recovery_bounded_minute : ∃ tr s, Exec (step smallSettings) init tr s ∧
    Bounded smallSettings tr s ∧ (tries tr).length = 1 := by
  obtain ⟨tr, s, hrun, htries, hopen⟩ := exists_exec (step smallSettings) init
    (P := fun tr _ => (tries tr).length = 1 ∧ ∀ t ∈ tries tr, t.found → t.now < t.row.expiresAt) (claimedAt 60)
    (by decide +kernel)
  exact ⟨tr, s, hrun, (recovery_bounded (by decide) hrun hopen (σ := Unit) ⟨fun _ _ => true, fun _ _ _ => .ok (),
    fun _ _ _ => .ok ()⟩).1, htries⟩

/-- Two hours later the event is applied all the same. -/
theorem not_bounded : ¬∀ tr s, Exec (step smallSettings) init tr s → Bounded smallSettings tr s := by
  intro hbounded
  obtain ⟨tr, s, hrun, t, ht, happlies, hlate⟩ := exists_exec (step smallSettings) init
    (P := fun tr _ => ∃ t ∈ tries tr, t.applies ∧ t.row.expiresAt ≤ t.now) (claimedAt 7200) (by decide +kernel)
  exact absurd ((hbounded tr s hrun).inTime t ht happlies) (not_lt.mpr hlate)

end NovaCart.Recovery
