import NovaCart.Sessions

/-! Refreshes that overlap a revocation, under READ COMMITTED.

    A refresh locks the row of its token, decides, and commits its writes. A family revocation and the
    revocation in a password change or reset are one UPDATE: it picks its rows in a snapshot of what was
    committed when it started, waits for those that are locked, and commits. A refresh that commits in
    between adds a token that the UPDATE never sees. -/

namespace NovaCart

open Schemes Table
open Keyed (key)

/-! ### Transactions in progress -/

/-- Why sessions are revoked. -/
inductive RevokeCause
  /-- a refresh found that its token, which it has locked, was stolen -/
  | reuse (stored : RefreshToken)
  /-- `reset_password` or `change_password` of a user, and when it began -/
  | password (op : AccountOp) (userId : Id) (startedAt : Time)
  deriving DecidableEq, Repr

/-- The `WHERE` of the UPDATE. -/
def RevokeCause.covers : RevokeCause → RefreshToken → Bool
  | .reuse stored, t => t.familyId = stored.familyId
  | .password _ userId _, t => t.userId = userId

/-- An UPDATE on its way: what it covered in its snapshot, and which rows it set out to change. -/
structure Revoking where
  cause : RevokeCause
  seen : List RefreshToken
  deriving DecidableEq, Repr

def Revoking.targets (r : Revoking) : List String := (r.seen.filter fun t => !t.revoked).map RefreshToken.jti

/-- The families it is meant to end. -/
def Revoking.families (r : Revoking) : List Id := r.seen.map RefreshToken.familyId

inductive SessionTx
  /-- a refresh that has locked its token's row -/
  | locked (stored : RefreshToken) (newJti : String)
  /-- a refresh that goes on, since the time of its decision -/
  | granted (stored : RefreshToken) (newJti : String) (decidedAt : Time)
  /-- a refresh that found its token stolen -/
  | detected (stored : RefreshToken)
  | revoking (r : Revoking)
  deriving DecidableEq, Repr

/-- The token whose row the transaction locked before it writes. -/
def SessionTx.stored? : SessionTx → Option RefreshToken
  | .locked stored _ => some stored
  | .granted stored _ _ => some stored
  | .detected stored => some stored
  | .revoking ⟨.reuse stored, _⟩ => some stored
  | .revoking ⟨.password _ _ _, _⟩ => none

structure OpenTx where
  id : Nat
  tx : SessionTx
  deriving DecidableEq, Repr

instance : Keyed OpenTx Nat := ⟨OpenTx.id⟩

/-- The committed tables, the clock, the transactions in progress and the number of the next one. -/
structure SessionSys where
  db : Accounts
  now : Time
  txs : Table OpenTx
  next : Nat

def SessionTx.locks (tx : SessionTx) (jti : String) : Bool := ∃ stored ∈ tx.stored?, stored.jti = jti

def SessionSys.locked (s : SessionSys) (jti : String) : Bool := s.txs.rows.any fun o => o.tx.locks jti

/-- The row is locked by a transaction other than `id`. -/
def SessionSys.lockedByOther (s : SessionSys) (id : Nat) (jti : String) : Bool :=
  s.txs.rows.any fun o => o.id ≠ id ∧ o.tx.locks jti

/-! ### Steps -/

/-- The writes of a password operation besides the revocation, and whose password it sets. -/
def AccountOp.credentials (cfg : AuthConfig) (db : Accounts) (now : Time) :
    AccountOp → Except AccountErr (Accounts × Id)
  | .resetPassword token newPassword salt => resetCredentials cfg db token newPassword salt now
  | .changePassword userId current newPassword salt _ _ => do
    let db ← changeCredentials cfg db userId current newPassword salt now
    .ok (db, userId)
  | _ => .error .invalidCredentials

/-- The pair a password change returns. -/
def AccountOp.reissue (cfg : AuthConfig) (db : Accounts) (now : Time) : AccountOp → Except AccountErr Accounts
  | .changePassword userId _ _ _ jti familyId => issueTokens cfg db userId jti familyId now
  | _ => .ok db

/-- The commit of a revocation: only the rows picked in the snapshot are revoked. -/
def Revoking.commit (cfg : AuthConfig) (db : Accounts) (r : Revoking) : Except AccountErr Accounts :=
  match r.cause with
  | .reuse _ => .ok (db.revokeWhere fun t => t.jti ∈ r.targets)
  | .password op _ startedAt => do
    let (db, _) ← op.credentials cfg db startedAt
    op.reissue cfg (db.revokeWhere fun t => t.jti ∈ r.targets) startedAt

/-- The token of a logout, whose row it writes. -/
def AccountOp.loggedOut : AccountOp → Option String
  | .logout jti => some jti
  | _ => none

/-- Operations that run as one step beside the transactions. -/
def AccountOp.beside : AccountOp → Bool
  | .register .. | .login .. | .logout _ | .sendPasswordReset .. | .deactivateUser _ => true
  | _ => false

inductive SessionLabel
  | op (op : AccountOp)
  /-- a refresh reads and locks the row of its token -/
  | lock (jti newJti : String)
  | decide (id : Nat)
  /-- the UPDATE of a family revocation starts -/
  | sweep (id : Nat)
  /-- a password operation has made its other writes, and its UPDATE starts -/
  | password (op : AccountOp)
  | commit (id : Nat)
  | rollback (id : Nat)
  | wait (d : Nat)
  deriving DecidableEq, Repr

def SessionSys.start (s : SessionSys) (tx : SessionTx) : Option SessionSys :=
  (s.txs.insert? ⟨s.next, tx⟩).map fun txs => { s with txs := txs, next := s.next + 1 }

/-- The UPDATE starts: its snapshot is what is committed. -/
def SessionSys.snapshot (s : SessionSys) (cause : RevokeCause) : Revoking :=
  ⟨cause, s.db.refreshTokens.rows.filter fun t => cause.covers t⟩

def SessionSys.finish (s : SessionSys) (id : Nat) (db : Accounts) : SessionSys :=
  { s with db := db, txs := s.txs.erase id }

def sessionStep (cfg : AuthConfig) (s : SessionSys) : SessionLabel → Option SessionSys
  | .op op =>
    -- a logout waits for the row of its token
    if op.beside && !op.loggedOut.any s.locked then some { s with db := op.run cfg s.db s.now }
    else none
  | .lock jti newJti =>
    match decoded s.db jti s.now with
    | none => none
    | some stored => if s.locked stored.jti then none else s.start (.locked stored newJti)
  | .decide id =>
    match s.txs.get? id with
    | some ⟨_, .locked stored newJti⟩ =>
      match refreshVerdict cfg s.db stored s.now with
      | .refused => some (s.finish id s.db)
      | .reuse => some { s with txs := s.txs.replace ⟨id, .detected stored⟩ }
      | .rotate | .replay => some { s with txs := s.txs.replace ⟨id, .granted stored newJti s.now⟩ }
    | _ => none
  | .sweep id =>
    match s.txs.get? id with
    | some ⟨_, .detected stored⟩ =>
      some { s with txs := s.txs.replace ⟨id, .revoking (s.snapshot (.reuse stored))⟩ }
    | _ => none
  | .password op =>
    match op.credentials cfg s.db s.now with
    | .error _ => none
    | .ok (_, userId) => s.start (.revoking (s.snapshot (.password op userId s.now)))
  | .commit id =>
    match s.txs.get? id with
    | some ⟨_, .granted stored newJti decidedAt⟩ =>
      (grantRefresh cfg s.db stored newJti decidedAt).toOption.map (s.finish id)
    | some ⟨_, .revoking r⟩ =>
      -- the UPDATE waits for the rows that others have locked
      if r.targets.any (s.lockedByOther id) then none else (r.commit cfg s.db).toOption.map (s.finish id)
    | _ => none
  | .rollback id => if (s.txs.get? id).isSome then some (s.finish id s.db) else none
  | .wait d => some { s with now := s.now + d }

abbrev SessionRun (cfg : AuthConfig) (s₀ : SessionSys) (tr : List (Taken SessionSys SessionLabel))
    (s : SessionSys) : Prop := Exec (sessionStep cfg) s₀ tr s

/-- No accounts, and no transaction in progress. -/
def noSessions : SessionSys := ⟨⟨.empty, .empty, .empty⟩, 0, .empty, 0⟩

variable {cfg : AuthConfig} {s s' : SessionSys}

/-- What a step does. -/
inductive SessionMove (cfg : AuthConfig) (s s' : SessionSys) : SessionLabel → Prop
  | op {op : AccountOp} (hbeside : op.beside = true) (hfree : ∀ jti ∈ op.loggedOut, s.locked jti = false)
      (hdb : s'.db = op.run cfg s.db s.now) (htxs : s'.txs = s.txs) : SessionMove cfg s s' (.op op)
  | lock {jti newJti : String} (stored : RefreshToken)
      (hstored : s.db.refreshTokens.get? stored.jti = some stored) (hfree : s.locked stored.jti = false)
      (hdb : s'.db = s.db) (hinsert : s.txs.insert? ⟨s.next, .locked stored newJti⟩ = some s'.txs) :
      SessionMove cfg s s' (.lock jti newJti)
  | password {op : AccountOp} (userId : Id) (hdb : s'.db = s.db)
      (hinsert : s.txs.insert? ⟨s.next, .revoking (s.snapshot (.password op userId s.now))⟩ = some s'.txs) :
      SessionMove cfg s s' (.password op)
  | grant {id : Nat} (stored : RefreshToken) (newJti : String)
      (hget : s.txs.get? id = some ⟨id, .locked stored newJti⟩)
      (hverdict : refreshVerdict cfg s.db stored s.now = .rotate ∨ refreshVerdict cfg s.db stored s.now = .replay)
      (hdb : s'.db = s.db) (htxs : s'.txs = s.txs.replace ⟨id, .granted stored newJti s.now⟩) :
      SessionMove cfg s s' (.decide id)
  | detect {id : Nat} (stored : RefreshToken) (newJti : String)
      (hget : s.txs.get? id = some ⟨id, .locked stored newJti⟩)
      (hdb : s'.db = s.db) (htxs : s'.txs = s.txs.replace ⟨id, .detected stored⟩) :
      SessionMove cfg s s' (.decide id)
  | sweep {id : Nat} (stored : RefreshToken) (hget : s.txs.get? id = some ⟨id, .detected stored⟩)
      (hdb : s'.db = s.db) (htxs : s'.txs = s.txs.replace ⟨id, .revoking (s.snapshot (.reuse stored))⟩) :
      SessionMove cfg s s' (.sweep id)
  | exchange {id : Nat} (stored : RefreshToken) (newJti : String) (decidedAt : Time)
      (hget : s.txs.get? id = some ⟨id, .granted stored newJti decidedAt⟩)
      (hgrant : grantRefresh cfg s.db stored newJti decidedAt = .ok s'.db) (htxs : s'.txs = s.txs.erase id) :
      SessionMove cfg s s' (.commit id)
  | revoke {id : Nat} (r : Revoking) (hget : s.txs.get? id = some ⟨id, .revoking r⟩)
      (hfree : ∀ jti ∈ r.targets, s.lockedByOther id jti = false) (hcommit : r.commit cfg s.db = .ok s'.db)
      (htxs : s'.txs = s.txs.erase id) : SessionMove cfg s s' (.commit id)
  | drop {l : SessionLabel} (id : Nat) (hdb : s'.db = s.db) (htxs : s'.txs = s.txs.erase id) :
      SessionMove cfg s s' l
  | wait {d : Nat} (hdb : s'.db = s.db) (htxs : s'.txs = s.txs) : SessionMove cfg s s' (.wait d)

theorem start_eq_some {tx : SessionTx} (h : s.start tx = some s') :
    s'.db = s.db ∧ s.txs.insert? ⟨s.next, tx⟩ = some s'.txs := by
  obtain ⟨txs, hinsert, rfl⟩ := Option.map_eq_some_iff.mp h
  exact ⟨rfl, hinsert⟩

theorem commit_eq_some {id : Nat} {result : Except AccountErr Accounts}
    (h : result.toOption.map (s.finish id) = some s') : result = .ok s'.db ∧ s'.txs = s.txs.erase id := by
  cases result with
  | error e => cases h
  | ok db => cases h; exact ⟨rfl, rfl⟩

theorem sessionStep_move {l : SessionLabel} (h : sessionStep cfg s l = some s') : SessionMove cfg s s' l := by
  cases l with
  | op op =>
    simp only [sessionStep, Option.ite_none_right_eq_some, Bool.and_eq_true, Bool.not_eq_true'] at h
    obtain ⟨⟨hbeside, hfree⟩, h⟩ := h
    cases h
    refine .op hbeside (fun jti hjti => ?_) rfl rfl
    rw [Option.mem_def] at hjti
    rw [hjti] at hfree
    exact hfree
  | lock jti newJti =>
    simp only [sessionStep] at h
    split at h
    · cases h
    · rename_i stored hdecoded
      obtain ⟨hfree, h⟩ := Option.ite_none_left_eq_some.mp h
      obtain ⟨hdb, hinsert⟩ := start_eq_some h
      exact .lock stored (get?_of_mem (mem_of_get? (decoded_eq_some.mp hdecoded).1)) (by simpa using hfree)
        hdb hinsert
  | decide id =>
    simp only [sessionStep] at h
    split at h
    · rename_i id' stored newJti hget
      obtain rfl : id' = id := key_of_get? hget
      split at h
      · cases h; exact .drop id' rfl rfl
      · cases h; exact .detect stored newJti hget rfl rfl
      · rename_i hverdict
        cases h; exact .grant stored newJti hget (.inl hverdict) rfl rfl
      · rename_i hverdict
        cases h; exact .grant stored newJti hget (.inr hverdict) rfl rfl
    · cases h
  | sweep id =>
    simp only [sessionStep] at h
    split at h
    · rename_i id' stored hget
      obtain rfl : id' = id := key_of_get? hget
      cases h
      exact .sweep stored hget rfl rfl
    · cases h
  | password op =>
    simp only [sessionStep] at h
    split at h
    · cases h
    · obtain ⟨hdb, hinsert⟩ := start_eq_some h
      exact .password _ hdb hinsert
  | commit id =>
    simp only [sessionStep] at h
    split at h
    · rename_i id' stored newJti decidedAt hget
      obtain rfl : id' = id := key_of_get? hget
      obtain ⟨hgrant, htxs⟩ := commit_eq_some h
      exact .exchange stored newJti decidedAt hget hgrant htxs
    · rename_i id' r hget
      obtain rfl : id' = id := key_of_get? hget
      obtain ⟨hfree, h⟩ := Option.ite_none_left_eq_some.mp h
      obtain ⟨hcommit, htxs⟩ := commit_eq_some h
      exact .revoke r hget (by simpa using hfree) hcommit htxs
    · cases h
  | rollback id =>
    simp only [sessionStep, Option.ite_none_right_eq_some] at h
    obtain ⟨_, h⟩ := h
    cases h
    exact .drop id rfl rfl
  | wait d =>
    cases h
    exact .wait rfl rfl

/-! ### Rows and their locks -/

/-- A locked row is as the transaction that locked it read it, and no two have locked the same. -/
structure Held (s : SessionSys) : Prop where
  rows : ∀ o ∈ s.txs.rows, ∀ t ∈ o.tx.stored?, s.db.refreshTokens.get? t.jti = some t
  apart : ∀ o ∈ s.txs.rows, ∀ o' ∈ s.txs.rows, o.id ≠ o'.id →
    ∀ t ∈ o.tx.stored?, ∀ t' ∈ o'.tx.stored?, t.jti ≠ t'.jti

theorem locked_of_mem {o : OpenTx} (ho : o ∈ s.txs.rows) {t : RefreshToken} (ht : t ∈ o.tx.stored?) :
    s.locked t.jti = true := by
  refine List.any_eq_true.mpr ⟨o, ho, ?_⟩
  rw [SessionTx.locks, decide_eq_true_iff]
  exact ⟨t, ht, rfl⟩

/-- Fewer transactions hold fewer rows. -/
theorem Held.of_subset (h : Held s) (hsub : ∀ o ∈ s'.txs.rows, o ∈ s.txs.rows)
    (hrows : ∀ o ∈ s'.txs.rows, ∀ t ∈ o.tx.stored?, s.db.refreshTokens.get? t.jti = some t →
      s'.db.refreshTokens.get? t.jti = some t) : Held s' where
  rows o ho t ht := hrows o ho t ht (h.rows o (hsub o ho) t ht)
  apart o ho o' ho' := h.apart o (hsub o ho) o' (hsub o' ho')

/-- A transaction that goes on holds the row it held. -/
theorem Held.of_replace (h : Held s) {id : Nat} {tx tx' : SessionTx} (hget : s.txs.get? id = some ⟨id, tx⟩)
    (hstored : tx'.stored? = tx.stored?) (hdb : s'.db = s.db) (htxs : s'.txs = s.txs.replace ⟨id, tx'⟩) :
    Held s' := by
  have hold : s.txs.get? (key (⟨id, tx'⟩ : OpenTx)) = some ⟨id, tx⟩ := hget
  -- each transaction now holds what one with its id held before
  have hback : ∀ o ∈ s'.txs.rows, ∃ o₀ ∈ s.txs.rows, o₀.id = o.id ∧ o₀.tx.stored? = o.tx.stored? := by
    intro o ho
    rw [htxs] at ho
    rcases (mem_replace hold).mp ho with rfl | ⟨ho, _⟩
    · exact ⟨_, mem_of_get? hget, rfl, hstored.symm⟩
    · exact ⟨o, ho, rfl, rfl⟩
  refine ⟨fun o ho t ht => ?_, fun o ho o' ho' hne t ht t' ht' => ?_⟩
  · obtain ⟨o₀, ho₀, _, hsame⟩ := hback o ho
    rw [hdb]
    exact h.rows o₀ ho₀ t (by rw [hsame]; exact ht)
  · obtain ⟨o₀, ho₀, hid, hsame⟩ := hback o ho
    obtain ⟨o₁, ho₁, hid', hsame'⟩ := hback o' ho'
    exact h.apart o₀ ho₀ o₁ ho₁ (by rw [hid, hid']; exact hne) t (by rw [hsame]; exact ht) t'
      (by rw [hsame']; exact ht')

/-- A new transaction holds no row that was held. -/
theorem Held.of_start (h : Held s) {tx : SessionTx}
    (hnew : ∀ t ∈ tx.stored?, s.db.refreshTokens.get? t.jti = some t ∧ s.locked t.jti = false)
    (hdb : s'.db = s.db) (hinsert : s.txs.insert? ⟨s.next, tx⟩ = some s'.txs) : Held s' := by
  have hfree : ∀ o ∈ s.txs.rows, ∀ t ∈ o.tx.stored?, ∀ t' ∈ tx.stored?, t.jti ≠ t'.jti := by
    intro o ho t ht t' ht' heq
    have hlocked := locked_of_mem ho ht
    rw [heq, (hnew t' ht').2] at hlocked
    cases hlocked
  refine ⟨fun o ho t ht => ?_, fun o ho o' ho' hne t ht t' ht' => ?_⟩
  · rw [hdb]
    rcases (mem_insert? hinsert).mp ho with rfl | ho
    · exact (hnew t ht).1
    · exact h.rows o ho t ht
  · rcases (mem_insert? hinsert).mp ho with rfl | ho
    · rcases (mem_insert? hinsert).mp ho' with rfl | ho'
      · exact absurd rfl hne
      · exact (hfree o' ho' t' ht' t ht).symm
    · rcases (mem_insert? hinsert).mp ho' with rfl | ho'
      · exact hfree o ho t ht t' ht'
      · exact h.apart o ho o' ho' hne t ht t' ht'

/-- An operation beside the transactions leaves every row but that of a logout. -/
theorem AccountOp.row_kept {db : Accounts} {now : Time} {op : AccountOp} (hbeside : op.beside = true) {t : RefreshToken}
    (hne : ∀ jti ∈ op.loggedOut, t.jti ≠ jti) (hget : db.refreshTokens.get? t.jti = some t) :
    (op.run cfg db now).refreshTokens.get? t.jti = some t := by
  rcases op.run_cases cfg db now with hok | hsame
  swap
  · rw [hsame]
    exact hget
  cases op with
  | register id email password salt =>
    obtain ⟨_, h⟩ := require_bind_ok hok
    obtain ⟨_, _, h⟩ := need_bind_ok h
    rw [← Except.ok.inj h]
    exact hget
  | login email password jti familyId =>
    obtain ⟨user, _, h⟩ := need_bind_ok hok
    obtain ⟨_, h⟩ := require_bind_ok h
    obtain ⟨_, h⟩ := require_bind_ok h
    obtain ⟨_, _, new, _, _, _, hinsert⟩ := issueTokens_ok h
    exact get?_insert?_of_some hinsert hget
  | logout jti =>
    have hrun : AccountOp.run cfg db now (.logout jti) = NovaCart.logout db jti now := rfl
    rw [hrun]
    rcases logout_cases db jti now with ⟨_, h⟩ | ⟨stored, hdecoded, _, h⟩
    · rw [h]
      exact hget
    · rw [h]
      have hjti : stored.jti = jti := key_of_get? (decoded_eq_some.mp hdecoded).1
      refine (get?_replace_of_ne fun heq => ?_).trans hget
      exact hne jti rfl (Eq.trans heq hjti)
  | sendPasswordReset email token =>
    rcases sendPasswordReset_cases hok with h | ⟨_, _, _, h⟩
    · rw [h]
      exact hget
    · rw [issueLink_tokens h]
      exact hget
  | deactivateUser userId =>
    obtain ⟨user, _, h⟩ := need_bind_ok hok
    rw [← Except.ok.inj h]
    exact hget
  | _ => cases hbeside

/-- The commit of a revocation: the rows picked are revoked, then a password change opens a family. -/
theorem Revoking.commit_tokens {db db' : Accounts} {r : Revoking} (h : r.commit cfg db = .ok db') :
    ∃ mid : Accounts, mid.refreshTokens = db.refreshTokens ∧
      (db'.refreshTokens = (mid.revokeWhere fun t => t.jti ∈ r.targets).refreshTokens ∨
        ∃ userId jti familyId now,
          issueTokens cfg (mid.revokeWhere fun t => t.jti ∈ r.targets) userId jti familyId now = .ok db') := by
  unfold Revoking.commit at h
  split at h
  · cases h
    exact ⟨db, rfl, .inl rfl⟩
  · rename_i op userId startedAt _
    obtain ⟨⟨mid, owner⟩, hmid, h⟩ := bind_ok h
    cases op with
    | resetPassword token newPassword salt =>
      cases h
      exact ⟨mid, resetCredentials_tokens hmid, .inl rfl⟩
    | changePassword userId current newPassword salt jti familyId =>
      obtain ⟨db₁, hchange, hmid⟩ := bind_ok hmid
      cases hmid
      exact ⟨mid, changeCredentials_tokens hchange, .inr ⟨_, jti, familyId, startedAt, h⟩⟩
    | _ => cases hmid

theorem Revoking.row_kept {db db' : Accounts} {r : Revoking} (h : r.commit cfg db = .ok db') {t : RefreshToken}
    (hno : t.jti ∉ r.targets) (hget : db.refreshTokens.get? t.jti = some t) :
    db'.refreshTokens.get? t.jti = some t := by
  obtain ⟨mid, hmid, hcase⟩ := r.commit_tokens h
  have hrevoked : (mid.revokeWhere fun t => t.jti ∈ r.targets).refreshTokens.get? t.jti = some t := by
    rw [Accounts.revokeWhere, get?_map, hmid, hget]
    simp [RefreshToken.revokedIf, hno]
  rcases hcase with htokens | ⟨userId, jti, familyId, now, hissue⟩
  · rw [htokens]
    exact hrevoked
  · obtain ⟨_, _, new, _, _, _, hinsert⟩ := issueTokens_ok hissue
    exact get?_insert?_of_some hinsert hrevoked

theorem Held.step {l : SessionLabel} (h : Held s) (hmove : SessionMove cfg s s' l) : Held s' := by
  have hsame : ∀ {s' : SessionSys}, s'.db = s.db → (∀ o ∈ s'.txs.rows, o ∈ s.txs.rows) → Held s' := by
    intro s' hdb hsub
    exact h.of_subset hsub fun o ho t ht hget => by rw [hdb]; exact hget
  cases hmove with
  | op hbeside hfree hdb htxs =>
    refine h.of_subset (by rw [htxs]; exact fun o ho => ho) fun o ho t ht hget => ?_
    rw [hdb]
    refine AccountOp.row_kept hbeside (fun jti hjti heq => ?_) hget
    rw [htxs] at ho
    have hlocked := locked_of_mem ho ht
    rw [heq, hfree jti hjti] at hlocked
    cases hlocked
  | lock stored hstored hfree hdb hinsert =>
    refine h.of_start (fun t ht => ?_) hdb hinsert
    obtain rfl : stored = t := Option.some.inj ht
    exact ⟨hstored, hfree⟩
  | password userId hdb hinsert => exact h.of_start (fun t ht => by cases ht) hdb hinsert
  | grant stored newJti hget _ hdb htxs => exact h.of_replace hget (by rfl) hdb htxs
  | detect stored newJti hget hdb htxs => exact h.of_replace hget (by rfl) hdb htxs
  | sweep stored hget hdb htxs => exact h.of_replace hget (by rfl) hdb htxs
  | @exchange id stored newJti decidedAt hget hgrant htxs =>
    refine h.of_subset (by rw [htxs]; exact fun o ho => (mem_erase.mp ho).1) fun o ho t ht hrow => ?_
    rw [htxs] at ho
    obtain ⟨ho, hne⟩ := mem_erase.mp ho
    have hjti : t.jti ≠ stored.jti := h.apart o ho _ (mem_of_get? hget) hne t ht stored rfl
    refine get?_insert?_of_some (grantRefresh_ok hgrant).2 ?_
    rw [get?_replace_of_ne (by rw [key_exchanged]; exact hjti)]
    exact hrow
  | @revoke id r hget hfree hcommit htxs =>
    refine h.of_subset (by rw [htxs]; exact fun o ho => (mem_erase.mp ho).1) fun o ho t ht hrow => ?_
    rw [htxs] at ho
    obtain ⟨ho, hne⟩ := mem_erase.mp ho
    refine r.row_kept hcommit (fun htarget => ?_) hrow
    -- the UPDATE waited for this row
    have hother := hfree t.jti htarget
    rw [SessionSys.lockedByOther, List.any_eq_false] at hother
    refine hother o ho (decide_eq_true ⟨hne, ?_⟩)
    rw [SessionTx.locks, decide_eq_true_iff]
    exact ⟨t, ht, rfl⟩
  | drop id hdb htxs => exact hsame hdb (by rw [htxs]; exact fun o ho => (mem_erase.mp ho).1)
  | wait hdb htxs => exact hsame hdb (by rw [htxs]; exact fun o ho => ho)

theorem held_noSessions : Held noSessions := ⟨nofun, nofun⟩

/-! ### The tokens of a step -/

/-- The commit of a refresh that goes on. -/
def SessionLabel.Grants (s : SessionSys) (l : SessionLabel) (stored : RefreshToken) : Prop :=
  ∃ id newJti decidedAt, l = .commit id ∧ s.txs.get? id = some ⟨id, .granted stored newJti decidedAt⟩

theorem SessionMove.token_effect {l : SessionLabel} (h : Held s) (hmove : SessionMove cfg s s' l) :
    TokenEffect cfg (l.Grants s) s.db.refreshTokens s'.db.refreshTokens := by
  have hsame : s'.db = s.db → TokenEffect cfg (l.Grants s) s.db.refreshTokens s'.db.refreshTokens :=
    fun hdb => .same (by rw [hdb])
  cases hmove with
  | @op op hbeside _ hdb _ =>
    rw [hdb]
    rcases op.run_cases cfg s.db s.now with hok | hrun
    · refine (op.token_effect hok).mono ?_
      rintro stored ⟨jti, newJti, rfl, _⟩
      cases hbeside
    · rw [hrun]
      exact .same rfl
  | lock _ _ _ hdb _ => exact hsame hdb
  | password _ hdb _ => exact hsame hdb
  | grant _ _ _ _ hdb _ => exact hsame hdb
  | detect _ _ _ hdb _ => exact hsame hdb
  | sweep _ _ hdb _ => exact hsame hdb
  | @exchange id stored newJti decidedAt hget hgrant _ =>
    exact .exchanged stored newJti decidedAt ⟨id, newJti, decidedAt, rfl, hget⟩
      (h.rows _ (mem_of_get? hget) stored rfl) (grantRefresh_ok hgrant).2
  | revoke r _ _ hcommit _ =>
    obtain ⟨mid, hmid, htokens | ⟨userId, jti, familyId, now, hissue⟩⟩ := r.commit_tokens hcommit
    · rw [htokens, ← hmid]
      exact .revoked _
    · rw [← hmid]
      exact .issue _ hissue
  | drop _ hdb _ => exact hsame hdb
  | wait hdb _ => exact hsame hdb

/-- A revocation on its way: the tokens of its snapshot are still there, and those revoked then still are. -/
def Sweeping (s : SessionSys) : Prop :=
  ∀ o ∈ s.txs.rows, ∀ r, o.tx = .revoking r →
    ∀ t ∈ r.seen, ∃ t', s.db.refreshTokens.get? t.jti = some t' ∧ TokenKept t t'

theorem sweeping_snapshot (s : SessionSys) (cause : RevokeCause) :
    ∀ t ∈ (s.snapshot cause).seen, ∃ t', s.db.refreshTokens.get? t.jti = some t' ∧ TokenKept t t' :=
  fun t ht => ⟨t, get?_of_mem (List.mem_filter.mp ht).1, .refl t⟩

theorem Sweeping.step {l : SessionLabel} (hheld : Held s) (h : Sweeping s) (hmove : SessionMove cfg s s' l) :
    Sweeping s' := by
  have hkept := (hmove.token_effect hheld).kept
  -- a revocation that was on its way before
  have hold : ∀ o ∈ s.txs.rows, ∀ r, o.tx = .revoking r →
      ∀ t ∈ r.seen, ∃ t', s'.db.refreshTokens.get? t.jti = some t' ∧ TokenKept t t' := by
    intro o ho r hr t ht
    obtain ⟨t₁, ht₁, hkept₁⟩ := h o ho r hr t ht
    obtain ⟨t₂, ht₂, hkept₂⟩ := hkept _ t₁ ht₁
    exact ⟨t₂, ht₂, hkept₁.trans hkept₂⟩
  have hreplaced : ∀ {id : Nat} {tx tx' : SessionTx}, s.txs.get? id = some ⟨id, tx⟩ →
      s'.txs = s.txs.replace ⟨id, tx'⟩ → (∀ r, tx' = .revoking r → ∀ t ∈ r.seen,
        ∃ t', s'.db.refreshTokens.get? t.jti = some t' ∧ TokenKept t t') → Sweeping s' := by
    intro id tx tx' hget htxs hnew o ho r hr
    have hget' : s.txs.get? (key (⟨id, tx'⟩ : OpenTx)) = some ⟨id, tx⟩ := hget
    rw [htxs] at ho
    rcases (mem_replace hget').mp ho with rfl | ⟨ho, _⟩
    · exact hnew r hr
    · exact hold o ho r hr
  cases hmove with
  | op _ _ _ htxs =>
    intro o ho
    rw [htxs] at ho
    exact hold o ho
  | lock stored _ _ hdb hinsert =>
    intro o ho r hr
    rcases (mem_insert? hinsert).mp ho with rfl | ho
    · cases hr
    · exact hold o ho r hr
  | password userId hdb hinsert =>
    intro o ho r hr
    rcases (mem_insert? hinsert).mp ho with rfl | ho
    · cases hr
      rw [hdb]
      exact sweeping_snapshot s _
    · exact hold o ho r hr
  | grant stored newJti hget _ hdb htxs => exact hreplaced hget htxs nofun
  | detect stored newJti hget hdb htxs => exact hreplaced hget htxs nofun
  | sweep stored hget hdb htxs =>
    refine hreplaced hget htxs fun r hr => ?_
    cases hr
    rw [hdb]
    exact sweeping_snapshot s _
  | exchange _ _ _ _ _ htxs =>
    intro o ho
    rw [htxs] at ho
    exact hold o (mem_erase.mp ho).1
  | revoke _ _ _ _ htxs =>
    intro o ho
    rw [htxs] at ho
    exact hold o (mem_erase.mp ho).1
  | drop _ _ htxs =>
    intro o ho
    rw [htxs] at ho
    exact hold o (mem_erase.mp ho).1
  | wait _ htxs =>
    intro o ho
    rw [htxs] at ho
    exact hold o ho

theorem sessions_of_run {tr : List (Taken SessionSys SessionLabel)} (h : SessionRun cfg noSessions tr s) :
    Held s ∧ Sweeping s := by
  refine h.invariant (I := fun s => Held s ∧ Sweeping s) ⟨held_noSessions, nofun⟩ ?_
  rintro s₁ l s₂ hstep ⟨hheld, hsweeping⟩
  have hmove := sessionStep_move hstep
  exact ⟨hheld.step hmove, hsweeping.step hheld hmove⟩

/-! ### After a revocation has committed -/

/-- Every token of the families is revoked. -/
def AllRevoked (families : List Id) (db : Accounts) : Prop :=
  ∀ t ∈ db.refreshTokens.rows, t.familyId ∈ families → t.revoked = true

/-- A revocation whose snapshot holds every token of its families leaves all of them revoked. -/
theorem Revoking.commit_allRevoked {r : Revoking} (hsweeping : Sweeping s) {id : Nat}
    (hget : s.txs.get? id = some ⟨id, .revoking r⟩) (hcommit : r.commit cfg s.db = .ok s'.db)
    (hseen : ∀ t ∈ s.db.refreshTokens.rows, t.familyId ∈ r.families → t.jti ∈ r.seen.map RefreshToken.jti) :
    AllRevoked r.families s'.db := by
  have hrow := hsweeping _ (mem_of_get? hget) r rfl
  obtain ⟨mid, hmid, hcase⟩ := r.commit_tokens hcommit
  have hrevoked : AllRevoked r.families (mid.revokeWhere fun t => t.jti ∈ r.targets) := by
    intro t' ht' hfamily
    obtain ⟨t, ht, rfl⟩ := List.mem_map.mp ht'
    rw [RefreshToken.revokedIf_familyId] at hfamily
    rw [hmid] at ht
    obtain ⟨t₀, ht₀, hjti⟩ := List.mem_map.mp (hseen t ht hfamily)
    cases hbefore : t₀.revoked with
    | true =>
      -- revoked in the snapshot already
      obtain ⟨t₁, ht₁, hkept⟩ := hrow t₀ ht₀
      rw [hjti, show s.db.refreshTokens.get? t.jti = some t from get?_of_mem ht] at ht₁
      cases ht₁
      exact (faded_revokedIf _ t).2.2.2.2 (hkept.2 hbefore)
    | false =>
      have htarget : t.jti ∈ r.targets :=
        List.mem_map.mpr ⟨t₀, List.mem_filter.mpr ⟨ht₀, by simp [hbefore]⟩, hjti⟩
      cases hnow : t.revoked with
      | true => exact (faded_revokedIf _ t).2.2.2.2 hnow
      | false => simp [RefreshToken.revokedIf, htarget, hnow]
  rcases hcase with htokens | ⟨userId, jti, familyId, now, hissue⟩
  · rw [AllRevoked, htokens]
    exact hrevoked
  · -- the family a password change opens is none of them
    obtain ⟨hfresh, _, new, hnew, _, _, hinsert⟩ := issueTokens_ok hissue
    intro t ht hfamily
    rcases (mem_insert? hinsert).mp ht with rfl | ht
    · obtain ⟨t₀, ht₀, hfamily₀⟩ := List.mem_map.mp hfamily
      obtain ⟨t₁, ht₁, hkept⟩ := hrow t₀ ht₀
      have hmem : t₁.revokedIf (fun t => t.jti ∈ r.targets) ∈
          (mid.revokeWhere fun t => t.jti ∈ r.targets).refreshTokens.rows :=
        List.mem_map.mpr ⟨t₁, by rw [hmid]; exact mem_of_get? ht₁, rfl⟩
      have hne := hfresh _ hmem
      rw [RefreshToken.revokedIf_familyId, hkept.1, hfamily₀] at hne
      exact absurd hnew hne
    · exact hrevoked t ht hfamily

/-- Nothing goes on with a token of the families but what had been decided before, and they are revoked. -/
structure Closed (families : List Id) (x s : SessionSys) : Prop where
  revoked : AllRevoked families s.db
  used : ∀ f ∈ families, ∃ t ∈ s.db.refreshTokens.rows, t.familyId = f
  granted : ∀ o ∈ s.txs.rows, ∀ stored newJti decidedAt, o.tx = .granted stored newJti decidedAt →
    stored.familyId ∈ families → x.txs.get? o.id = some o

/-- A step that does not commit one of these refreshes keeps that. -/
theorem Closed.step {families : List Id} {x : SessionSys} {l : SessionLabel} (hheld : Held s)
    (h : Closed families x s) (hmove : SessionMove cfg s s' l)
    (hno : ∀ stored, l.Grants s stored → stored.familyId ∉ families) : Closed families x s' := by
  have heffect := hmove.token_effect hheld
  have hkeep : ∀ {s' : SessionSys}, (∀ o ∈ s'.txs.rows, ∀ stored newJti decidedAt,
      o.tx = .granted stored newJti decidedAt → o ∈ s.txs.rows) →
      ∀ o ∈ s'.txs.rows, ∀ stored newJti decidedAt, o.tx = .granted stored newJti decidedAt →
        stored.familyId ∈ families → x.txs.get? o.id = some o :=
    fun hsub o ho stored newJti decidedAt htx => h.granted o (hsub o ho stored newJti decidedAt htx) stored
      newJti decidedAt htx
  refine ⟨?_, ?_, ?_⟩
  · intro t' ht' hfamily
    obtain ⟨t, ht, hfaded⟩ := heffect.family_fades (h.used _ hfamily)
      (fun stored hgrants heq => hno stored hgrants (heq ▸ hfamily)) t' ht' rfl
    exact hfaded.2.2.2.2 (h.revoked t ht (hfaded.1 ▸ hfamily))
  · intro f hf
    obtain ⟨t, ht, hfamily⟩ := h.used f hf
    obtain ⟨t', ht', hkept⟩ := heffect.kept _ t (get?_of_mem ht)
    exact ⟨t', mem_of_get? ht', hkept.1.trans hfamily⟩
  cases hmove with
  | op _ _ _ htxs => exact hkeep fun o ho _ _ _ _ => by rw [htxs] at ho; exact ho
  | lock stored _ _ _ hinsert =>
    refine hkeep fun o ho _ _ _ htx => ?_
    rcases (mem_insert? hinsert).mp ho with rfl | ho
    · cases htx
    · exact ho
  | password _ _ hinsert =>
    refine hkeep fun o ho _ _ _ htx => ?_
    rcases (mem_insert? hinsert).mp ho with rfl | ho
    · cases htx
    · exact ho
  | @grant id stored newJti hget hverdict _ htxs =>
    intro o ho stored' newJti' decidedAt' htx hfamily
    have hget' : s.txs.get? (key (⟨id, .granted stored newJti s.now⟩ : OpenTx)) = _ := hget
    rw [htxs] at ho
    rcases (mem_replace hget').mp ho with rfl | ⟨ho, _⟩
    · -- the token is revoked with its whole family, so it is taken for stolen
      cases htx
      have hrow := mem_of_get? (hheld.rows _ (mem_of_get? hget) stored rfl)
      have hreuse : refreshVerdict cfg s.db stored s.now = .reuse := reuse_of_revoked (h.revoked stored hrow hfamily)
        fun _ t ht heq => h.revoked t ht (heq ▸ hfamily)
      rw [hreuse] at hverdict
      rcases hverdict with hverdict | hverdict
      · cases hverdict
      · cases hverdict
    · exact h.granted o ho stored' newJti' decidedAt' htx hfamily
  | @detect id stored newJti hget _ htxs =>
    refine hkeep fun o ho _ _ _ htx => ?_
    have hget' : s.txs.get? (key (⟨id, .detected stored⟩ : OpenTx)) = _ := hget
    rw [htxs] at ho
    rcases (mem_replace hget').mp ho with rfl | ⟨ho, _⟩
    · cases htx
    · exact ho
  | @sweep id stored hget _ htxs =>
    refine hkeep fun o ho _ _ _ htx => ?_
    have hget' : s.txs.get? (key (⟨id, .revoking (s.snapshot (.reuse stored))⟩ : OpenTx)) = _ := hget
    rw [htxs] at ho
    rcases (mem_replace hget').mp ho with rfl | ⟨ho, _⟩
    · cases htx
    · exact ho
  | exchange _ _ _ _ _ htxs =>
    exact hkeep fun o ho _ _ _ _ => by rw [htxs] at ho; exact (mem_erase.mp ho).1
  | revoke _ _ _ _ htxs =>
    exact hkeep fun o ho _ _ _ _ => by rw [htxs] at ho; exact (mem_erase.mp ho).1
  | drop _ _ htxs =>
    exact hkeep fun o ho _ _ _ _ => by rw [htxs] at ho; exact (mem_erase.mp ho).1
  | wait _ htxs => exact hkeep fun o ho _ _ _ _ => by rw [htxs] at ho; exact ho

instance (families : List Id) (db : Accounts) : Decidable (AllRevoked families db) :=
  inferInstanceAs (Decidable (∀ _ ∈ _, _))

/-- No refresh that had been decided in `x`, with a token of one of the families, is committed in the
    steps. -/
def NoneOverlaps (families : List Id) (x : SessionSys) (steps : List (Taken SessionSys SessionLabel)) : Prop :=
  ∀ y ∈ steps, ∀ id stored newJti decidedAt, y.label = .commit id →
    x.txs.get? id = some ⟨id, .granted stored newJti decidedAt⟩ → stored.familyId ∉ families

theorem closed_of_run {families : List Id} {x s s' : SessionSys} {tr : List (Taken SessionSys SessionLabel)}
    (h : SessionRun cfg s tr s') (hheld : Held s) (hclosed : Closed families x s)
    (hnone : NoneOverlaps families x tr) :
    Held s' ∧ Closed families x s' ∧ ∀ y ∈ tr, AllRevoked families y.post.db := by
  induction h with
  | nil => exact ⟨hheld, hclosed, nofun⟩
  | @cons tr s₁ s₂ l _ hstep ih =>
    obtain ⟨hheld₁, hclosed₁, hall⟩ := ih fun y hy => hnone y (List.mem_cons_of_mem _ hy)
    have hmove := sessionStep_move hstep
    have hclosed₂ : Closed families x s₂ := by
      refine hclosed₁.step hheld₁ hmove ?_
      rintro stored ⟨id, newJti, decidedAt, hl, hget⟩ hfamily
      have hearlier := hclosed₁.granted _ (mem_of_get? hget) stored newJti decidedAt rfl hfamily
      exact hnone _ List.mem_cons_self id stored newJti decidedAt hl hearlier hfamily
    exact ⟨hheld₁.step hmove, hclosed₂, List.forall_mem_cons.mpr ⟨hclosed₂.revoked, hall⟩⟩

/-- A revocation that no refresh of its families overlaps is complete: none committed since its snapshot
    was taken, and none decided before commits after it. Then every token of the families is revoked from
    its commit on. -/
theorem revocation_complete {tr later earlier : List (Taken SessionSys SessionLabel)}
    {x : Taken SessionSys SessionLabel} {id : Nat} {r : Revoking} (h : SessionRun cfg noSessions tr s)
    (htr : tr = later ++ x :: earlier) (hx : x.label = .commit id)
    (hr : x.pre.txs.get? id = some ⟨id, .revoking r⟩)
    (hseen : ∀ t ∈ x.pre.db.refreshTokens.rows, t.familyId ∈ r.families → t.jti ∈ r.seen.map RefreshToken.jti)
    (hnone : NoneOverlaps r.families x.pre later) :
    AllRevoked r.families x.post.db ∧ ∀ y ∈ later, AllRevoked r.families y.post.db := by
  rw [htr] at h
  obtain ⟨hbefore, hstep, hafter⟩ := h.split
  obtain ⟨hheld, hsweeping⟩ := sessions_of_run hbefore
  have hmove := sessionStep_move hstep
  have hkept := (hmove.token_effect hheld).kept
  have hheld' := hheld.step hmove
  rw [hx] at hstep
  simp only [sessionStep, hr] at hstep
  obtain ⟨hcommit, htxs⟩ := commit_eq_some (Option.ite_none_left_eq_some.mp hstep).2
  have hrevoked := r.commit_allRevoked hsweeping hr hcommit hseen
  refine ⟨hrevoked, (closed_of_run hafter hheld' ⟨hrevoked, ?_, ?_⟩ hnone).2.2⟩
  · intro f hf
    obtain ⟨t, ht, hfamily⟩ := List.mem_map.mp hf
    obtain ⟨t₁, ht₁, hkept₁⟩ := hsweeping _ (mem_of_get? hr) r rfl t ht
    obtain ⟨t₂, ht₂, hkept₂⟩ := hkept _ t₁ ht₁
    exact ⟨t₂, mem_of_get? ht₂, by rw [hkept₂.1, hkept₁.1, hfamily]⟩
  · intro o ho _ _ _ _ _
    rw [htxs] at ho
    exact get?_of_mem (mem_erase.mp ho).1

/-- A password change between two refreshes ends the family for good. -/
theorem revocation_complete_change : ∃ tr s, SessionRun smallAuth noSessions tr s ∧
    ∃ y ∈ tr, y.label = .lock "j2" "j3" ∧ AllRevoked [1] y.post.db := by
  obtain ⟨earlier, s, hrun, hr, hseen, hcommits⟩ := exists_exec (sessionStep smallAuth) noSessions
    (P := fun _ s =>
      s.txs.get? 1 = some ⟨1, .revoking ⟨.password (.changePassword 1 "first" "second" 1 "k1" 2) 1 1,
        [⟨"j2", 1, 1, 1001, false, none, 0⟩, ⟨"j1", 1, 1, 1000, true, some 1, 0⟩]⟩⟩ ∧
      (∀ t ∈ s.db.refreshTokens.rows, t.familyId ∈ [1, 1] → t.jti ∈ ["j2", "j1"]) ∧
      ∃ s₁ ∈ sessionStep smallAuth s (.commit 1), (sessionStep smallAuth s₁ (.lock "j2" "j3")).isSome)
    [.op (.register 1 "ann@shop" "first" 0), .op (.login "ann@shop" "first" "j1" 1), .wait 1, .lock "j1" "j2",
      .decide 0, .commit 0, .password (.changePassword 1 "first" "second" 1 "k1" 2)]
    (by decide)
  obtain ⟨s₁, hs₁, hlocks⟩ := hcommits
  obtain ⟨s₂, hs₂⟩ := Option.isSome_iff_exists.mp hlocks
  have hrun' := (hrun.cons hs₁).cons hs₂
  have hall := revocation_complete hrun' (show _ = [_] ++ _ :: _ from rfl) rfl hr hseen (by
    intro y hy id stored newJti decidedAt hl
    rw [List.mem_singleton.mp hy] at hl
    cases hl)
  have hfamilies := hall.2 _ (List.mem_singleton_self _)
  exact ⟨_, _, hrun', _, List.mem_cons_self, rfl, fun t ht hf => hfamilies t ht (List.mem_cons_of_mem _ hf)⟩

/-- A refresh that commits while a password change is on its way adds a token the change does not revoke. -/
theorem rotation_escapes_change : ∃ (tr later earlier : List (Taken SessionSys SessionLabel)) (s : SessionSys)
    (x : Taken SessionSys SessionLabel) (r : Revoking), SessionRun smallAuth noSessions tr s ∧
    tr = later ++ x :: earlier ∧ x.label = .commit 1 ∧ x.pre.txs.get? 1 = some ⟨1, .revoking r⟩ ∧
    ∃ t ∈ x.post.db.refreshTokens.rows, t.jti = "j2" ∧ t.familyId ∈ r.families ∧ t.revoked = false ∧
      (refresh smallAuth x.post.db "j2" "j3" x.post.now).2.toOption = some "j3" := by
  obtain ⟨earlier, s, hrun, hr, hcommits⟩ := exists_exec (sessionStep smallAuth) noSessions
    (P := fun _ s =>
      s.txs.get? 1 = some ⟨1, .revoking ⟨.password (.changePassword 1 "first" "second" 1 "k1" 2) 1 1,
        [⟨"j1", 1, 1, 1000, false, none, 0⟩]⟩⟩ ∧
      ∃ s₁ ∈ sessionStep smallAuth s (.commit 1), ∃ t ∈ s₁.db.refreshTokens.rows, t.jti = "j2" ∧
        t.familyId ∈ [1] ∧ t.revoked = false ∧
        (refresh smallAuth s₁.db "j2" "j3" s₁.now).2.toOption = some "j3")
    [.op (.register 1 "ann@shop" "first" 0), .op (.login "ann@shop" "first" "j1" 1), .wait 1, .lock "j1" "j2",
      .password (.changePassword 1 "first" "second" 1 "k1" 2), .decide 0, .commit 0]
    (by decide)
  obtain ⟨s₁, hs₁, htoken⟩ := hcommits
  exact ⟨_, [], earlier, s₁, _, _, hrun.cons hs₁, rfl, rfl, hr, htoken⟩

end NovaCart
