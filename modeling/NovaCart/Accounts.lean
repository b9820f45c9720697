import NovaCart.Schemes.Run
import NovaCart.Schema

/-! Accounts, sessions and emailed links (`AuthService`, `AccountService`, `AuthRepository`, the jobs that
    send the links).

    A refresh token is named by its `jti`: a string that does not decode to one is refused before the
    tables are read, and so is a token past its expiry, which the row and the token both carry. A link is named by the secret in it, of which the table keeps the hash. New `jti`s,
    family ids and secrets come from the caller of each operation and must be unused, as random ones are. -/

namespace NovaCart

open Schemes
open Keyed (key)

inductive UserRole
  | user | admin
  deriving DecidableEq, Repr

structure User where
  id : Id
  email : String
  passwordHash : String
  role : UserRole
  isActive : Bool
  emailVerifiedAt : Option Time
  deriving DecidableEq, Repr

structure RefreshToken where
  jti : String
  userId : Id
  familyId : Id
  expiresAt : Time
  revoked : Bool
  /-- set only when the token was revoked by a rotation -/
  rotatedAt : Option Time
  graceReplays : Nat
  deriving DecidableEq, Repr

inductive TokenPurpose
  | passwordReset | emailVerification | emailChange
  deriving DecidableEq, Repr

structure AuthToken where
  tokenHash : String
  userId : Id
  purpose : TokenPurpose
  /-- the address the link was issued for -/
  email : String
  expiresAt : Time
  usedAt : Option Time
  createdAt : Time
  deriving DecidableEq, Repr

instance : Keyed User Id := ⟨User.id⟩
instance : Keyed RefreshToken String := ⟨RefreshToken.jti⟩
instance : Keyed AuthToken String := ⟨AuthToken.tokenHash⟩

structure Accounts where
  users : Table User
  refreshTokens : Table RefreshToken
  authTokens : Table AuthToken

/-- The token after an UPDATE that revokes those that meet `p`. -/
def RefreshToken.revokedIf (p : RefreshToken → Bool) (t : RefreshToken) : RefreshToken :=
  if p t ∧ t.revoked = false then { t with revoked := true } else t

/-- The link after an UPDATE that uses up those that meet `p`. -/
def AuthToken.usedIf (p : AuthToken → Bool) (now : Time) (t : AuthToken) : AuthToken :=
  if p t ∧ t.usedAt = none then { t with usedAt := some now } else t

theorem RefreshToken.jti_revokedIf {p : RefreshToken → Bool} {t : RefreshToken} :
    (t.revokedIf p).jti = t.jti := by
  unfold revokedIf
  split
  · rfl
  · rfl

theorem AuthToken.tokenHash_usedIf {p : AuthToken → Bool} {now : Time} {t : AuthToken} :
    (t.usedIf p now).tokenHash = t.tokenHash := by
  unfold usedIf
  split
  · rfl
  · rfl

@[simp] theorem RefreshToken.revokedIf_familyId (p : RefreshToken → Bool) (t : RefreshToken) :
    (t.revokedIf p).familyId = t.familyId := by
  unfold revokedIf
  split
  · rfl
  · rfl

/-- The settings the account services read, and the functions they call for hashes and letter case. -/
structure AuthConfig where
  /-- `refresh_reuse_grace_seconds`, in units of the clock -/
  graceWindow : Nat
  graceMaxReplays : Nat
  refreshLifetime : Nat
  passwordResetLifetime : Nat
  emailVerificationLifetime : Nat
  emailChangeLifetime : Nat
  passwordResetEmailsPerHour : Nat
  hour : Nat
  sha256 : String → String
  lower : String → String
  hashPassword : String → Nat → String
  verifyPassword : String → String → Bool

inductive AccountErr
  | integrity (rule : String)
  | emailAlreadyExists (email : String)
  | invalidCredentials
  | invalidRefreshToken
  | invalidAccountToken
  | currentPasswordIncorrect
  | samePassword
  | userNotFound
  deriving DecidableEq, Repr

namespace Accounts

/-! ### Queries -/

def byEmail (db : Accounts) (email : String) : Option User := db.users.rows.find? fun u => u.email = email

/-- `find_user_by_email_ci`: the exact address first, then the oldest account that has it in other
    letter case. -/
def byEmailCi (cfg : AuthConfig) (db : Accounts) (email : String) : Option User :=
  (db.byEmail email).or
    (db.users.rows.reverse.find? fun u => cfg.lower u.email = cfg.lower email)

/-- The tokens of one login and its refreshes. -/
def family (db : Accounts) (familyId : Id) : List RefreshToken :=
  db.refreshTokens.rows.filter fun t => t.familyId = familyId

/-- `family_has_active_token`. -/
def familyHasActiveToken (db : Accounts) (familyId : Id) : Bool :=
  db.refreshTokens.rows.any fun t => t.familyId = familyId ∧ t.revoked = false

/-! ### Statements -/

/-- `UPDATE refresh_tokens SET revoked = true WHERE p AND NOT revoked`. -/
def revokeWhere (db : Accounts) (p : RefreshToken → Bool) : Accounts :=
  { db with refreshTokens := db.refreshTokens.map (RefreshToken.revokedIf p) fun _ => RefreshToken.jti_revokedIf }

/-- `revoke_family`. -/
def revokeFamily (db : Accounts) (familyId : Id) : Accounts :=
  db.revokeWhere fun t => t.familyId = familyId

/-- `revoke_all_refresh_tokens`. -/
def revokeAllRefreshTokens (db : Accounts) (userId : Id) : Accounts :=
  db.revokeWhere fun t => t.userId = userId

/-- `store_refresh_token`; a `jti` is unique. -/
def storeRefreshToken (db : Accounts) (t : RefreshToken) : Except AccountErr Accounts := do
  let tokens ← need (db.refreshTokens.insert? t) (.integrity "refresh_tokens_jti_key")
  .ok { db with refreshTokens := tokens }

/-- `create_auth_token`. -/
def createAuthToken (db : Accounts) (t : AuthToken) : Except AccountErr Accounts := do
  let tokens ← need (db.authTokens.insert? t) (.integrity "auth_tokens_token_hash_key")
  .ok { db with authTokens := tokens }

/-- `consume_auth_token`: the unused, unexpired link of that purpose, marked used. -/
def consumeAuthToken (db : Accounts) (tokenHash : String) (purpose : TokenPurpose) (now : Time) :
    Option (Accounts × AuthToken) :=
  match db.authTokens.get? tokenHash with
  | none => none
  | some row =>
    if row.purpose = purpose ∧ row.usedAt = none ∧ now < row.expiresAt then
      some ({ db with authTokens := db.authTokens.replace { row with usedAt := some now } }, row)
    else none

/-- `invalidate_auth_tokens`. -/
def invalidateAuthTokens (db : Accounts) (userId : Id) (purposes : List TokenPurpose) (now : Time) : Accounts :=
  let ofUser (t : AuthToken) : Bool := t.userId = userId ∧ t.purpose ∈ purposes
  { db with authTokens := db.authTokens.map (AuthToken.usedIf ofUser now) fun _ => AuthToken.tokenHash_usedIf }

/-- `count_recent_auth_tokens`. -/
def countRecentAuthTokens (db : Accounts) (userId : Id) (purpose : TokenPurpose) (since : Time) : Nat :=
  db.authTokens.rows.countP fun t => t.userId = userId ∧ t.purpose = purpose ∧ since ≤ t.createdAt

/-- The UPDATE of a user's row; addresses are unique. -/
def updateUser (db : Accounts) (u : User) : Except AccountErr Accounts := do
  require (∀ v ∈ db.users.rows, v.id ≠ u.id → v.email ≠ u.email) (.integrity "users_email_key")
  .ok { db with users := db.users.replace u }

end Accounts

/-! ### Sessions -/

/-- `issue_tokens`: the refresh token of a new family. -/
def issueTokens (cfg : AuthConfig) (db : Accounts) (userId : Id) (jti : String) (familyId : Id) (now : Time) :
    Except AccountErr Accounts := do
  require (∀ t ∈ db.refreshTokens.rows, t.familyId ≠ familyId) (.integrity "a family id is random")
  db.storeRefreshToken {
    jti := jti, userId := userId, familyId := familyId, expiresAt := now + cfg.refreshLifetime
    revoked := false, rotatedAt := none, graceReplays := 0 }

def login (cfg : AuthConfig) (db : Accounts) (email password jti : String) (familyId : Id) (now : Time) :
    Except AccountErr Accounts := do
  let user ← need (db.byEmail email) .invalidCredentials
  require (cfg.verifyPassword password user.passwordHash = true) .invalidCredentials
  require (user.isActive = true) .invalidCredentials
  issueTokens cfg db user.id jti familyId now

/-- The token was rotated a moment ago and has replays left. -/
def RefreshToken.graceOpen (cfg : AuthConfig) (t : RefreshToken) (now : Time) : Prop :=
  0 < cfg.graceWindow ∧ (∃ r ∈ t.rotatedAt, now ≤ r + cfg.graceWindow) ∧ t.graceReplays < cfg.graceMaxReplays

instance (cfg : AuthConfig) (t : RefreshToken) (now : Time) : Decidable (t.graceOpen cfg now) :=
  inferInstanceAs (Decidable (_ ∧ _ ∧ _))

/-- `_is_benign_replay`. -/
def isBenignReplay (cfg : AuthConfig) (db : Accounts) (stored : RefreshToken) (now : Time) : Bool :=
  decide (stored.graceOpen cfg now) && db.familyHasActiveToken stored.familyId

/-- What `refresh` decides about the token it has locked. -/
inductive RefreshVerdict
  | rotate
  | replay
  /-- the token was stolen: its family is revoked and the call is refused -/
  | reuse
  | refused
  deriving DecidableEq, Repr

def refreshVerdict (cfg : AuthConfig) (db : Accounts) (stored : RefreshToken) (now : Time) : RefreshVerdict :=
  if stored.revoked = true ∧ isBenignReplay cfg db stored now = false then .reuse
  else if stored.expiresAt < now then .refused
  else
    match db.users.get? stored.userId with
    | none => .refused
    | some user =>
      if user.isActive = false then .refused
      else if stored.revoked then .replay
      else .rotate

/-- The token after it was exchanged: rotated, or one more replay of it counted. -/
def RefreshToken.exchanged (t : RefreshToken) (now : Time) : RefreshToken :=
  if t.revoked then { t with graceReplays := t.graceReplays + 1 }
  else { t with revoked := true, rotatedAt := some now }

/-- The token it was exchanged for, of the same family. -/
def RefreshToken.successor (cfg : AuthConfig) (t : RefreshToken) (newJti : String) (now : Time) : RefreshToken where
  jti := newJti
  userId := t.userId
  familyId := t.familyId
  expiresAt := now + cfg.refreshLifetime
  revoked := false
  rotatedAt := none
  graceReplays := 0

/-- The writes of a refresh that goes on. -/
def grantRefresh (cfg : AuthConfig) (db : Accounts) (stored : RefreshToken) (newJti : String) (now : Time) :
    Except AccountErr Accounts :=
  { db with refreshTokens := db.refreshTokens.replace (stored.exchanged now) }.storeRefreshToken
    (stored.successor cfg newJti now)

/-- The row of a token that `decode_token` accepts. -/
def decoded (db : Accounts) (jti : String) (now : Time) : Option RefreshToken :=
  (db.refreshTokens.get? jti).filter fun t => now < t.expiresAt

/-- `refresh` as one transaction: the tables afterwards, and the new token if the call succeeded. -/
def refresh (cfg : AuthConfig) (db : Accounts) (jti newJti : String) (now : Time) :
    Accounts × Except AccountErr String :=
  match decoded db jti now with
  | none => (db, .error .invalidRefreshToken)
  | some stored =>
    match refreshVerdict cfg db stored now with
    | .reuse => (db.revokeFamily stored.familyId, .error .invalidRefreshToken)
    | .refused => (db, .error .invalidRefreshToken)
    | .rotate | .replay =>
      match grantRefresh cfg db stored newJti now with
      | .ok db' => (db', .ok newJti)
      | .error e => (db, .error e)

/-- `logout`: revokes the presented token, if it is known and not revoked. -/
def logout (db : Accounts) (jti : String) (now : Time) : Accounts :=
  match decoded db jti now with
  | none => db
  | some stored =>
    if stored.revoked then db
    else { db with refreshTokens := db.refreshTokens.replace { stored with revoked := true } }

/-! ### Links -/

/-- `_issue`: a new link of a user. -/
def issueLink (cfg : AuthConfig) (db : Accounts) (userId : Id) (purpose : TokenPurpose) (email token : String)
    (now : Time) : Except AccountErr Accounts :=
  let lifetime := match purpose with
    | .passwordReset => cfg.passwordResetLifetime
    | .emailVerification => cfg.emailVerificationLifetime
    | .emailChange => cfg.emailChangeLifetime
  db.createAuthToken {
    tokenHash := cfg.sha256 token, userId := userId, purpose := purpose, email := email
    expiresAt := now + lifetime, usedAt := none, createdAt := now }

/-- `send_password_reset`. -/
def sendPasswordReset (cfg : AuthConfig) (db : Accounts) (email token : String) (now : Time) :
    Except AccountErr Accounts :=
  match db.byEmailCi cfg email with
  | none => .ok db
  | some user =>
    if user.isActive = false then .ok db
    else if cfg.passwordResetEmailsPerHour ≤
        db.countRecentAuthTokens user.id .passwordReset (now - cfg.hour) then .ok db
    else issueLink cfg db user.id .passwordReset user.email token now

/-- `send_email_verification`. -/
def sendEmailVerification (cfg : AuthConfig) (db : Accounts) (userId : Id) (token : String) (now : Time) :
    Except AccountErr Accounts :=
  match db.users.get? userId with
  | none => .ok db
  | some user =>
    if user.isActive = false ∨ user.emailVerifiedAt ≠ none then .ok db
    else issueLink cfg db user.id .emailVerification user.email token now

/-- `send_email_change`. The password was checked when the change was requested. -/
def sendEmailChange (cfg : AuthConfig) (db : Accounts) (userId : Id) (newEmail token : String) (now : Time) :
    Except AccountErr Accounts :=
  match db.users.get? userId with
  | none => .ok db
  | some user =>
    if user.isActive = false then .ok db
    else if ∃ taken ∈ db.byEmailCi cfg newEmail, taken.id ≠ user.id then .ok db
    else issueLink cfg db user.id .emailChange newEmail token now

/-- The user of a link that was just consumed: active, and for a link to the account's own address still
    at that address. -/
def linkUser (db : Accounts) (row : AuthToken) (sameEmail : Bool) : Except AccountErr User := do
  let user ← need (db.users.get? row.userId) .invalidAccountToken
  require (user.isActive = true) .invalidAccountToken
  require (sameEmail = true → user.email = row.email) .invalidAccountToken
  .ok user

/-- `reset_password` up to the revocation of the sessions: the tables, and whose password was reset. -/
def resetCredentials (cfg : AuthConfig) (db : Accounts) (token newPassword : String) (salt : Nat) (now : Time) :
    Except AccountErr (Accounts × Id) := do
  let (db, row) ← need (db.consumeAuthToken (cfg.sha256 token) .passwordReset now) .invalidAccountToken
  let user ← linkUser db row true
  let db ← db.updateUser { user with
    passwordHash := cfg.hashPassword newPassword salt
    emailVerifiedAt := user.emailVerifiedAt.or (some now) }
  .ok (db.invalidateAuthTokens user.id [.passwordReset] now, user.id)

/-- `reset_password`. -/
def resetPassword (cfg : AuthConfig) (db : Accounts) (token newPassword : String) (salt : Nat) (now : Time) :
    Except AccountErr Accounts := do
  let (db, userId) ← resetCredentials cfg db token newPassword salt now
  .ok (db.revokeAllRefreshTokens userId)

/-- `change_password` by the signed-in user, up to the revocation of the sessions. -/
def changeCredentials (cfg : AuthConfig) (db : Accounts) (userId : Id) (currentPassword newPassword : String)
    (salt : Nat) (now : Time) : Except AccountErr Accounts := do
  let user ← need (db.users.get? userId) .userNotFound
  require (user.isActive = true) .userNotFound
  require (cfg.verifyPassword currentPassword user.passwordHash = true) .currentPasswordIncorrect
  require (currentPassword ≠ newPassword) .samePassword
  let db ← db.updateUser { user with passwordHash := cfg.hashPassword newPassword salt }
  .ok (db.invalidateAuthTokens userId [.passwordReset] now)

/-- `change_password`. -/
def changePassword (cfg : AuthConfig) (db : Accounts) (userId : Id) (currentPassword newPassword : String)
    (salt : Nat) (jti : String) (familyId : Id) (now : Time) : Except AccountErr Accounts := do
  let db ← changeCredentials cfg db userId currentPassword newPassword salt now
  issueTokens cfg (db.revokeAllRefreshTokens userId) userId jti familyId now

/-- `verify_email`. -/
def verifyEmail (cfg : AuthConfig) (db : Accounts) (token : String) (now : Time) :
    Except AccountErr Accounts := do
  let (db, row) ← need (db.consumeAuthToken (cfg.sha256 token) .emailVerification now) .invalidAccountToken
  let user ← linkUser db row true
  db.updateUser { user with emailVerifiedAt := user.emailVerifiedAt.or (some now) }

/-- `confirm_email_change`. -/
def confirmEmailChange (cfg : AuthConfig) (db : Accounts) (token : String) (now : Time) :
    Except AccountErr Accounts := do
  let (db, row) ← need (db.consumeAuthToken (cfg.sha256 token) .emailChange now) .invalidAccountToken
  let user ← linkUser db row false
  require (∀ taken ∈ db.byEmailCi cfg row.email, taken.id = user.id) (.emailAlreadyExists row.email)
  let db ← db.updateUser { user with email := row.email, emailVerifiedAt := some now }
  .ok (db.invalidateAuthTokens user.id [.passwordReset, .emailVerification, .emailChange] now)

/-! ### Users -/

/-- `register`; user names are left out. -/
def register (cfg : AuthConfig) (db : Accounts) (id : Id) (email password : String) (salt : Nat) :
    Except AccountErr Accounts := do
  require (db.byEmail email = none) (.emailAlreadyExists email)
  let users ← need (db.users.insert? {
    id := id, email := email, passwordHash := cfg.hashPassword password salt, role := .user, isActive := true
    emailVerifiedAt := none }) (.integrity "users_pkey")
  .ok { db with users := users }

/-- An administrator corrects the address of an account. -/
def correctEmail (db : Accounts) (userId : Id) (email : String) : Except AccountErr Accounts := do
  let user ← need (db.users.get? userId) .userNotFound
  if user.email = email then .ok db
  else db.updateUser { user with email := email, emailVerifiedAt := none }

def deactivateUser (db : Accounts) (userId : Id) : Except AccountErr Accounts := do
  let user ← need (db.users.get? userId) .userNotFound
  .ok { db with users := db.users.replace { user with isActive := false } }

/-! ### Histories -/

/-- The operations on accounts, each one transaction. -/
inductive AccountOp
  | register (id : Id) (email password : String) (salt : Nat)
  | login (email password jti : String) (familyId : Id)
  | refresh (jti newJti : String)
  | logout (jti : String)
  | sendPasswordReset (email token : String)
  | sendEmailVerification (userId : Id) (token : String)
  | sendEmailChange (userId : Id) (newEmail token : String)
  | resetPassword (token newPassword : String) (salt : Nat)
  | changePassword (userId : Id) (currentPassword newPassword : String) (salt : Nat) (jti : String)
      (familyId : Id)
  | verifyEmail (token : String)
  | confirmEmailChange (token : String)
  | correctEmail (userId : Id) (email : String)
  | deactivateUser (userId : Id)
  deriving DecidableEq, Repr

/-- What an operation does; `refresh` and `logout` are apart, as they never roll back. -/
def AccountOp.body (cfg : AuthConfig) (db : Accounts) (now : Time) : AccountOp → Except AccountErr Accounts
  | .register id email password salt => NovaCart.register cfg db id email password salt
  | .login email password jti familyId => NovaCart.login cfg db email password jti familyId now
  | .refresh jti newJti => .ok (NovaCart.refresh cfg db jti newJti now).1
  | .logout jti => .ok (NovaCart.logout db jti now)
  | .sendPasswordReset email token => NovaCart.sendPasswordReset cfg db email token now
  | .sendEmailVerification userId token => NovaCart.sendEmailVerification cfg db userId token now
  | .sendEmailChange userId newEmail token => NovaCart.sendEmailChange cfg db userId newEmail token now
  | .resetPassword token newPassword salt => NovaCart.resetPassword cfg db token newPassword salt now
  | .changePassword userId current new salt jti familyId =>
    NovaCart.changePassword cfg db userId current new salt jti familyId now
  | .verifyEmail token => NovaCart.verifyEmail cfg db token now
  | .confirmEmailChange token => NovaCart.confirmEmailChange cfg db token now
  | .correctEmail userId email => NovaCart.correctEmail db userId email
  | .deactivateUser userId => NovaCart.deactivateUser db userId

/-- An operation that fails rolls its transaction back. -/
def AccountOp.run (cfg : AuthConfig) (db : Accounts) (now : Time) (op : AccountOp) : Accounts :=
  match op.body cfg db now with
  | .ok db' => db'
  | .error _ => db

/-- The tables and the clock. -/
structure AccountSys where
  db : Accounts
  now : Time

inductive AccountLabel
  | op (op : AccountOp)
  | wait (d : Nat)
  deriving DecidableEq, Repr

def accountStep (cfg : AuthConfig) (s : AccountSys) : AccountLabel → Option AccountSys
  | .op op => some { s with db := op.run cfg s.db s.now }
  | .wait d => some { s with now := s.now + d }

abbrev AccountRun (cfg : AuthConfig) (s₀ : AccountSys) (tr : List (Taken AccountSys AccountLabel))
    (s : AccountSys) : Prop := Exec (accountStep cfg) s₀ tr s

/-- A store without accounts. -/
def noAccounts : AccountSys := ⟨⟨.empty, .empty, .empty⟩, 0⟩

end NovaCart
