import NovaCart.Sessions

/-! What a password reset or change does to the emailed links of the account.

    A link stays the same row for good, and once used up it stays used up. So a link is harmless for good
    once it is used or expired, and a reset or change that finds no open email-change link leaves no link
    that could change the account again. -/

namespace NovaCart

open Schemes Table
open Keyed (key)

variable {cfg : AuthConfig} {db db' : Accounts} {now : Time}

/-! ### Links over time -/

/-- What happens to a link's row: it can be used up, and is never changed otherwise. -/
def LinkKept (t t' : AuthToken) : Prop :=
  t'.userId = t.userId ∧ t'.purpose = t.purpose ∧ t'.expiresAt = t.expiresAt ∧
    (t.usedAt ≠ none → t'.usedAt ≠ none)

theorem LinkKept.refl (t : AuthToken) : LinkKept t t := ⟨rfl, rfl, rfl, id⟩

theorem LinkKept.trans {a b c : AuthToken} (h₁ : LinkKept a b) (h₂ : LinkKept b c) : LinkKept a c :=
  ⟨h₂.1.trans h₁.1, h₂.2.1.trans h₁.2.1, h₂.2.2.1.trans h₁.2.2.1, fun h => h₂.2.2.2 (h₁.2.2.2 h)⟩

/-- A link that can no longer be consumed. -/
def AuthToken.Dead (t : AuthToken) (now : Time) : Prop := t.usedAt ≠ none ∨ t.expiresAt ≤ now

instance (t : AuthToken) (now : Time) : Decidable (t.Dead now) := inferInstanceAs (Decidable (_ ∨ _))

theorem LinkKept.dead {t t' : AuthToken} (h : LinkKept t t') {now now' : Time} (hnow : now ≤ now')
    (hdead : t.Dead now) : t'.Dead now' := by
  rcases hdead with hused | hexpired
  · exact .inl (h.2.2.2 hused)
  · exact .inr (h.2.2.1.le.trans (hexpired.trans hnow))

theorem linkKept_usedIf (p : AuthToken → Bool) (t : AuthToken) : LinkKept t (t.usedIf p now) := by
  unfold AuthToken.usedIf
  split
  · exact ⟨rfl, rfl, rfl, by simp⟩
  · exact .refl t

theorem kept_invalidateAuthTokens (userId : Id) (purposes : List TokenPurpose) :
    Kept LinkKept db.authTokens (db.invalidateAuthTokens userId purposes now).authTokens :=
  kept_map (fun _ => AuthToken.tokenHash_usedIf) fun t => linkKept_usedIf _ t

/-! ### The operations on links -/

/-- A consumed link was open, of the purpose asked for, and is marked used. -/
theorem consumeAuthToken_eq_some {hash : String} {purpose : TokenPurpose} {row : AuthToken} :
    db.consumeAuthToken hash purpose now = some (db', row) ↔
      db.authTokens.get? hash = some row ∧ row.purpose = purpose ∧ ¬ row.Dead now ∧
        db' = { db with authTokens := db.authTokens.replace { row with usedAt := some now } } := by
  unfold Accounts.consumeAuthToken AuthToken.Dead
  cases hget : db.authTokens.get? hash with
  | none => simp
  | some row' =>
    simp only [Option.some.injEq]
    split
    · rename_i hlive
      constructor
      · rintro h
        cases h
        exact ⟨rfl, hlive.1, by simpa [hlive.2.1] using hlive.2.2, rfl⟩
      · rintro ⟨rfl, _, _, rfl⟩
        rfl
    · rename_i hlive
      constructor
      · intro h
        cases h
      · rintro ⟨rfl, hpurpose, hopen, _⟩
        simp only [not_or, ne_eq, not_not, not_le] at hopen
        exact absurd ⟨hpurpose, hopen⟩ hlive

theorem kept_consumeAuthToken {hash : String} {purpose : TokenPurpose} {row : AuthToken}
    (h : db.consumeAuthToken hash purpose now = some (db', row)) :
    Kept LinkKept db.authTokens db'.authTokens := by
  obtain ⟨hget, _, _, rfl⟩ := consumeAuthToken_eq_some.mp h
  have hkey : row.tokenHash = hash := key_of_get? hget
  have hrow : LinkKept row { row with usedAt := some now } := ⟨rfl, rfl, rfl, by simp⟩
  rw [← hkey] at hget
  exact kept_replace .refl hget hrow

theorem linkUser_ok {row : AuthToken} {sameEmail : Bool} {user : User}
    (h : linkUser db row sameEmail = .ok user) :
    db.users.get? row.userId = some user ∧ user.isActive = true ∧
      (sameEmail = true → user.email = row.email) := by
  obtain ⟨_, huser, h⟩ := need_bind_ok h
  obtain ⟨hactive, h⟩ := require_bind_ok h
  obtain ⟨hemail, h⟩ := require_bind_ok h
  cases h
  exact ⟨huser, hactive, hemail⟩

/-- The address and the password of an account. -/
def Accounts.credentials (db : Accounts) (userId : Id) : Option (String × String) :=
  (db.users.get? userId).map fun u => (u.email, u.passwordHash)

/-- Writing a user's row changes no other account. -/
theorem credentials_of_ne {u : User} (h : db'.users = db.users.replace u) {userId : Id} (hne : userId ≠ u.id) :
    db'.credentials userId = db.credentials userId := by
  unfold Accounts.credentials
  rw [h, get?_replace_of_ne hne]

theorem resetCredentials_ok {token newPassword : String} {salt : Nat} {userId : Id}
    (h : resetCredentials cfg db token newPassword salt now = .ok (db', userId)) :
    ∃ row user mid, db.consumeAuthToken (cfg.sha256 token) .passwordReset now = some (mid, row) ∧
      user.id = row.userId ∧ userId = row.userId ∧ db'.users = db.users.replace user ∧
      db'.authTokens = (mid.invalidateAuthTokens userId [.passwordReset] now).authTokens := by
  obtain ⟨⟨mid, row⟩, hconsume, h⟩ := need_bind_ok h
  obtain ⟨user, huser, h⟩ := bind_ok h
  obtain ⟨db₁, hupdate, h⟩ := bind_ok h
  cases h
  obtain ⟨hget, _, _⟩ := linkUser_ok huser
  have hid : user.id = row.userId := key_of_get? hget
  obtain ⟨_, _, _, rfl⟩ := consumeAuthToken_eq_some.mp hconsume
  rw [updateUser_ok hupdate]
  refine ⟨row, _, _, hconsume, ?_, hid, rfl, rfl⟩
  exact hid

theorem changeCredentials_ok {userId : Id} {current newPassword : String} {salt : Nat}
    (h : changeCredentials cfg db userId current newPassword salt now = .ok db') :
    db'.authTokens = (db.invalidateAuthTokens userId [.passwordReset] now).authTokens := by
  obtain ⟨user, _, h⟩ := need_bind_ok h
  obtain ⟨_, h⟩ := require_bind_ok h
  obtain ⟨_, h⟩ := require_bind_ok h
  obtain ⟨_, h⟩ := require_bind_ok h
  obtain ⟨db₁, hupdate, h⟩ := bind_ok h
  cases h
  rw [updateUser_ok hupdate]
  rfl

theorem verifyEmail_ok {token : String} (h : verifyEmail cfg db token now = .ok db') :
    ∃ row user user', db.authTokens.get? (cfg.sha256 token) = some row ∧
      db.users.get? row.userId = some user ∧ user'.email = user.email ∧
      user'.passwordHash = user.passwordHash ∧ user'.id = user.id ∧ db'.users = db.users.replace user' ∧
      Kept LinkKept db.authTokens db'.authTokens := by
  obtain ⟨⟨mid, row⟩, hconsume, h⟩ := need_bind_ok h
  obtain ⟨user, huser, h⟩ := bind_ok h
  have hkept := kept_consumeAuthToken hconsume
  obtain ⟨hget, _, _, rfl⟩ := consumeAuthToken_eq_some.mp hconsume
  rw [updateUser_ok h]
  refine ⟨row, user, _, hget, (linkUser_ok huser).1, ?_, ?_, ?_, rfl, hkept⟩
  · rfl
  · rfl
  · rfl

theorem confirmEmailChange_ok {token : String} (h : confirmEmailChange cfg db token now = .ok db') :
    ∃ row user, db.authTokens.get? (cfg.sha256 token) = some row ∧ row.purpose = .emailChange ∧
      ¬ row.Dead now ∧ user.id = row.userId ∧ db'.users = db.users.replace user ∧
      Kept LinkKept db.authTokens db'.authTokens := by
  obtain ⟨⟨mid, row⟩, hconsume, h⟩ := need_bind_ok h
  obtain ⟨user, huser, h⟩ := bind_ok h
  obtain ⟨_, h⟩ := require_bind_ok h
  obtain ⟨db₁, hupdate, h⟩ := bind_ok h
  cases h
  have hkept := kept_consumeAuthToken hconsume
  obtain ⟨hget, hpurpose, hopen, rfl⟩ := consumeAuthToken_eq_some.mp hconsume
  have hid : user.id = row.userId := key_of_get? (linkUser_ok huser).1
  rw [updateUser_ok hupdate]
  refine ⟨row, _, hget, hpurpose, hopen, ?_, rfl, hkept.trans .trans (kept_invalidateAuthTokens _ _)⟩
  exact hid

theorem issueLink_kept {userId : Id} {purpose : TokenPurpose} {email token : String}
    (h : issueLink cfg db userId purpose email token now = .ok db') :
    Kept LinkKept db.authTokens db'.authTokens := by
  obtain ⟨tokens, hinsert, h⟩ := need_bind_ok h
  cases h
  exact kept_insert? .refl hinsert

theorem issueTokens_authTokens {userId : Id} {jti : String} {familyId : Id}
    (h : issueTokens cfg db userId jti familyId now = .ok db') : db'.authTokens = db.authTokens := by
  obtain ⟨_, h⟩ := require_bind_ok h
  obtain ⟨tokens, _, h⟩ := need_bind_ok h
  cases h
  rfl

theorem refresh_authTokens (jti newJti : String) :
    (refresh cfg db jti newJti now).1.authTokens = db.authTokens := by
  rcases refresh_cases cfg db jti newJti now with ⟨e, h⟩ | ⟨stored, _, _, h⟩ | ⟨stored, db', _, _, hgrant, h⟩
  · rw [h]
  · rw [h]; rfl
  · rw [h]
    obtain ⟨tokens, _, hgrant⟩ := need_bind_ok hgrant
    cases hgrant
    rfl

theorem logout_authTokens (jti : String) : (logout db jti now).authTokens = db.authTokens := by
  rcases logout_cases db jti now with ⟨_, h⟩ | ⟨stored, _, _, h⟩
  · rw [h]
  · rw [h]

/-! ### Every operation -/

/-- No operation does more to a link than use it up. -/
theorem AccountOp.links_kept {op : AccountOp} (h : op.body cfg db now = .ok db') :
    Kept LinkKept db.authTokens db'.authTokens := by
  have hsame : ∀ {db' : Accounts}, db'.authTokens = db.authTokens →
      Kept LinkKept db.authTokens db'.authTokens := fun h => by rw [h]; exact .refl .refl _
  cases op with
  | register id email password salt =>
    obtain ⟨_, h⟩ := require_bind_ok h
    obtain ⟨_, _, h⟩ := need_bind_ok h
    cases h
    exact hsame rfl
  | login email password jti familyId =>
    obtain ⟨_, _, h⟩ := need_bind_ok h
    obtain ⟨_, h⟩ := require_bind_ok h
    obtain ⟨_, h⟩ := require_bind_ok h
    exact hsame (issueTokens_authTokens h)
  | refresh jti newJti =>
    cases h
    exact hsame (refresh_authTokens jti newJti)
  | logout jti =>
    cases h
    exact hsame (logout_authTokens jti)
  | sendPasswordReset email token =>
    rcases sendPasswordReset_cases h with rfl | ⟨_, _, _, h⟩
    · exact hsame rfl
    · exact issueLink_kept h
  | sendEmailVerification userId token =>
    rcases sendEmailVerification_cases h with rfl | ⟨_, _, _, h⟩
    · exact hsame rfl
    · exact issueLink_kept h
  | sendEmailChange userId newEmail token =>
    rcases sendEmailChange_cases h with rfl | ⟨_, _, _, h⟩
    · exact hsame rfl
    · exact issueLink_kept h
  | resetPassword token newPassword salt =>
    obtain ⟨⟨db₁, userId⟩, hreset, h⟩ := bind_ok h
    cases h
    obtain ⟨row, user, mid, hconsume, _, _, _, htokens⟩ := resetCredentials_ok hreset
    have hafter : Kept LinkKept mid.authTokens (mid.invalidateAuthTokens userId [.passwordReset] now).authTokens :=
      kept_invalidateAuthTokens userId [.passwordReset]
    have hkept := (kept_consumeAuthToken hconsume).trans .trans hafter
    rw [← htokens] at hkept
    exact hkept
  | changePassword userId current newPassword salt jti familyId =>
    obtain ⟨db₁, hchange, h⟩ := bind_ok h
    rw [issueTokens_authTokens h, Accounts.revokeAllRefreshTokens, Accounts.revokeWhere,
      changeCredentials_ok hchange]
    exact kept_invalidateAuthTokens _ _
  | verifyEmail token =>
    obtain ⟨_, _, _, _, _, _, _, _, _, hkept⟩ := verifyEmail_ok h
    exact hkept
  | confirmEmailChange token =>
    obtain ⟨_, _, _, _, _, _, _, hkept⟩ := confirmEmailChange_ok h
    exact hkept
  | correctEmail userId email =>
    obtain ⟨user, _, h⟩ := need_bind_ok h
    split at h
    · cases h; exact hsame rfl
    · rw [updateUser_ok h]
      exact hsame rfl
  | deactivateUser userId =>
    obtain ⟨user, _, h⟩ := need_bind_ok h
    cases h
    exact hsame rfl

/-- What one step keeps of the links, and of the clock. -/
theorem accountStep_links {s s' : AccountSys} {l : AccountLabel} (h : accountStep cfg s l = some s') :
    Kept LinkKept s.db.authTokens s'.db.authTokens ∧ s.now ≤ s'.now := by
  cases l with
  | op op =>
    cases h
    refine ⟨?_, le_rfl⟩
    rcases op.run_cases cfg s.db s.now with hok | hsame
    · exact op.links_kept hok
    · show Kept LinkKept s.db.authTokens (op.run cfg s.db s.now).authTokens
      rw [hsame]
      exact .refl .refl _
  | wait d =>
    cases h
    exact ⟨.refl .refl _, Nat.le_add_right ..⟩

/-- What a run keeps of them. -/
theorem links_kept_of_run {s s' : AccountSys} {tr : List (Taken AccountSys AccountLabel)}
    (h : AccountRun cfg s tr s') : Kept LinkKept s.db.authTokens s'.db.authTokens ∧ s.now ≤ s'.now := by
  refine h.invariant (I := fun t => Kept LinkKept s.db.authTokens t.db.authTokens ∧ s.now ≤ t.now)
    ⟨.refl .refl _, le_rfl⟩ ?_
  rintro t l t' hstep ⟨hkept, hnow⟩
  obtain ⟨hkept', hnow'⟩ := accountStep_links hstep
  exact ⟨hkept.trans .trans hkept', hnow.trans hnow'⟩

/-! ### After a password reset or change -/

/-- The account whose password the operation would set. -/
def AccountOp.takesBack (cfg : AuthConfig) (db : Accounts) (now : Time) : AccountOp → Option Id
  | .resetPassword token newPassword salt =>
    (resetCredentials cfg db token newPassword salt now).toOption.map Prod.snd
  | .changePassword userId current newPassword salt jti familyId =>
    (NovaCart.changePassword cfg db userId current newPassword salt jti familyId now).toOption.map fun _ => userId
  | _ => none

/-- The link an operation presents. -/
def AccountOp.link (cfg : AuthConfig) : AccountOp → Option String
  | .resetPassword token _ _ => some (cfg.sha256 token)
  | .verifyEmail token => some (cfg.sha256 token)
  | .confirmEmailChange token => some (cfg.sha256 token)
  | _ => none

/-- An operation that presents a dead link, or one of another account, leaves the account's address and
    password; so does every link that only verifies an address. -/
theorem AccountOp.credentials_of_link {op : AccountOp} {hash : String} {row : AuthToken} {userId : Id}
    (hlink : op.link cfg = some hash) (hrow : db.authTokens.get? hash = some row)
    (hsafe : row.userId = userId → row.purpose = .emailVerification ∨ row.Dead now)
    (hok : op.body cfg db now = .ok db') : db'.credentials userId = db.credentials userId := by
  cases op with
  | resetPassword token newPassword salt =>
    cases hlink
    obtain ⟨⟨db₁, owner⟩, hreset, h⟩ := bind_ok hok
    obtain ⟨row', user, mid, hconsume, hid, _, husers, _⟩ := resetCredentials_ok hreset
    obtain ⟨hget, hpurpose, hopen, _⟩ := consumeAuthToken_eq_some.mp hconsume
    rw [hrow] at hget
    cases hget
    have hne : userId ≠ user.id := by
      intro heq
      rcases hsafe (hid.symm.trans heq.symm) with hverification | hdead
      · rw [hpurpose] at hverification
        cases hverification
      · exact hopen hdead
    cases h
    exact credentials_of_ne husers hne
  | verifyEmail token =>
    cases hlink
    obtain ⟨row', user, user', hget, huser, hemail, hpassword, hid, husers, _⟩ := verifyEmail_ok hok
    by_cases heq : userId = user'.id
    · have hold : db.users.get? (key user') = some user := by
        show db.users.get? user'.id = some user
        rw [hid, show user.id = row'.userId from key_of_get? huser]
        exact huser
      unfold Accounts.credentials
      rw [husers, heq, show user'.id = key user' from rfl, get?_replace_self hold, hold]
      simp [hemail, hpassword]
    · exact credentials_of_ne husers heq
  | confirmEmailChange token =>
    cases hlink
    obtain ⟨row', user, hget, hpurpose, hopen, hid, husers, _⟩ := confirmEmailChange_ok hok
    rw [hrow] at hget
    cases hget
    have hne : userId ≠ user.id := by
      intro heq
      rcases hsafe (hid.symm.trans heq.symm) with hverification | hdead
      · rw [hpurpose] at hverification
        cases hverification
      · exact hopen hdead
    exact credentials_of_ne husers hne
  | _ => cases hlink

theorem usedIf_dead {p : AuthToken → Bool} {t : AuthToken} (h : p t = true) : (t.usedIf p now).Dead now := by
  by_cases hused : t.usedAt = none
  · exact .inl (by simp [AuthToken.usedIf, h, hused])
  · exact .inl (by simp [AuthToken.usedIf, hused])

theorem invalidated_dead {userId : Id} {purposes : List TokenPurpose} {hash : String} {row : AuthToken}
    (hrow : db.authTokens.get? hash = some row) (hmine : row.userId = userId) (hpurpose : row.purpose ∈ purposes)
    {row' : AuthToken} (hrow' : (db.invalidateAuthTokens userId purposes now).authTokens.get? hash = some row') :
    row'.Dead now := by
  rw [Accounts.invalidateAuthTokens, get?_map, hrow] at hrow'
  cases hrow'
  exact usedIf_dead (by simp [hmine, hpurpose])

/-- A reset or change uses up the account's password-reset links. -/
theorem AccountOp.resets_dead {op : AccountOp} {userId : Id} (hback : op.takesBack cfg db now = some userId)
    (hok : op.body cfg db now = .ok db') {hash : String} {row row' : AuthToken}
    (hrow : db.authTokens.get? hash = some row) (hmine : row.userId = userId)
    (hpurpose : row.purpose = .passwordReset) (hrow' : db'.authTokens.get? hash = some row') :
    row'.Dead now := by
  cases op with
  | resetPassword token newPassword salt =>
    obtain ⟨⟨db₁, owner⟩, hreset, h⟩ := bind_ok hok
    obtain ⟨_, _, mid, hconsume, _, _, _, htokens⟩ := resetCredentials_ok hreset
    have howner : owner = userId := by simpa [takesBack, hreset, Except.toOption] using hback
    obtain ⟨r, hr, hkept⟩ := kept_consumeAuthToken hconsume hash row hrow
    cases h
    replace hrow' : db₁.authTokens.get? hash = some row' := hrow'
    rw [htokens] at hrow'
    refine invalidated_dead hr (hkept.1.trans (hmine.trans howner.symm)) ?_ hrow'
    simp [hkept.2.1, hpurpose]
  | changePassword owner current newPassword salt jti familyId =>
    have howner : owner = userId := by
      obtain ⟨_, _, howner⟩ := Option.map_eq_some_iff.mp hback
      exact howner
    obtain ⟨db₁, hchange, h⟩ := bind_ok hok
    rw [issueTokens_authTokens h, Accounts.revokeAllRefreshTokens, Accounts.revokeWhere,
      changeCredentials_ok hchange] at hrow'
    exact invalidated_dead hrow (hmine.trans howner.symm) (by simp [hpurpose]) hrow'
  | _ => cases hback

/-- An operation that sets a password commits. -/
theorem AccountOp.body_of_takesBack {op : AccountOp} {userId : Id}
    (hback : op.takesBack cfg db now = some userId) : op.body cfg db now = .ok (op.run cfg db now) := by
  have hok : ∃ db', op.body cfg db now = .ok db' := by
    cases op with
    | resetPassword token newPassword salt =>
      simp only [takesBack] at hback
      cases hreset : resetCredentials cfg db token newPassword salt now with
      | error e => rw [hreset] at hback; cases hback
      | ok r => exact ⟨r.1.revokeAllRefreshTokens r.2, by simp [body, NovaCart.resetPassword, hreset]⟩
    | changePassword owner current newPassword salt jti familyId =>
      simp only [takesBack] at hback
      cases hchange : NovaCart.changePassword cfg db owner current newPassword salt jti familyId now with
      | error e => rw [hchange] at hback; cases hback
      | ok db₁ => exact ⟨db₁, hchange⟩
    | _ => cases hback
  obtain ⟨db', hok⟩ := hok
  rcases op.run_cases cfg db now with hrun | hsame
  · exact hrun
  · rw [hok, AccountOp.run, hok]

/-- After a reset or change that found no open email-change link, the account's links are dead or only
    verify an address. -/
theorem AccountOp.links_closed {op : AccountOp} {userId : Id} (hback : op.takesBack cfg db now = some userId)
    (hclosed : ∀ t ∈ db.authTokens.rows, t.userId = userId → t.purpose = .emailChange → t.Dead now)
    {hash : String} {row : AuthToken} (hrow : db.authTokens.get? hash = some row)
    (hmine : row.userId = userId) :
    ∃ row', (op.run cfg db now).authTokens.get? hash = some row' ∧ LinkKept row row' ∧
      (row'.purpose = .emailVerification ∨ row'.Dead now) := by
  have hok := body_of_takesBack hback
  obtain ⟨row', hrow', hkept⟩ := op.links_kept hok hash row hrow
  refine ⟨row', hrow', hkept, ?_⟩
  cases hpurpose : row.purpose with
  | passwordReset => exact .inr (resets_dead hback hok hrow hmine hpurpose hrow')
  | emailVerification => exact .inl (hkept.2.1.trans hpurpose)
  | emailChange => exact .inr (hkept.dead le_rfl (hclosed row (mem_of_get? hrow) hmine hpurpose))

/-- A reset or change that finds no open email-change link of the account takes the account back: no link
    issued before it changes the account's address or password afterwards. -/
theorem links_dead_after_password_change {tr later earlier : List (Taken AccountSys AccountLabel)}
    {s : AccountSys} {x : Taken AccountSys AccountLabel} {op : AccountOp} {userId : Id}
    (h : AccountRun cfg noAccounts tr s) (htr : tr = later ++ x :: earlier) (hx : x.label = .op op)
    (hback : op.takesBack cfg x.pre.db x.pre.now = some userId)
    (hclosed : ∀ t ∈ x.pre.db.authTokens.rows, t.userId = userId → t.purpose = .emailChange →
      t.Dead x.pre.now) :
    ∀ y ∈ later, ∀ use hash, y.label = .op use → use.link cfg = some hash →
      (x.pre.db.authTokens.get? hash).isSome → y.post.db.credentials userId = y.pre.db.credentials userId := by
  intro y hy use hash hlabel hlink hissued
  rw [htr] at h
  obtain ⟨_, hstep, hafter⟩ := h.split
  obtain ⟨⟨before, hbefore⟩, hstep'⟩ := hafter.taken hy
  obtain ⟨row, hrow⟩ := Option.isSome_iff_exists.mp hissued
  -- the link's row after the reset and when it is presented
  obtain ⟨hkept₁, _⟩ := accountStep_links hstep
  obtain ⟨row₁, hrow₁, hsame₁⟩ := hkept₁ hash row hrow
  obtain ⟨hkept, hnow⟩ := links_kept_of_run hbefore
  obtain ⟨row₂, hrow₂, hsame₂⟩ := hkept hash row₁ hrow₁
  rw [hx] at hstep
  rw [hlabel] at hstep'
  obtain ⟨hpost, hpostnow⟩ := accountStep_op hstep
  obtain ⟨hpost', _⟩ := accountStep_op hstep'
  rcases use.run_cases cfg y.pre.db y.pre.now with hok | hsame
  · refine use.credentials_of_link hlink hrow₂ (fun hmine => ?_) (hpost' ▸ hok)
    have hmine₁ : row.userId = userId := by rw [← hmine, hsame₂.1, hsame₁.1]
    obtain ⟨row', hrow', _, hsafe⟩ := op.links_closed hback hclosed hrow hmine₁
    rw [← hpost, hrow₁] at hrow'
    cases hrow'
    rcases hsafe with hverification | hdead
    · exact .inl (hsame₂.2.1.trans hverification)
    · exact .inr (hsame₂.dead (hpostnow ▸ hnow) hdead)
  · rw [hpost', hsame]

/-- A reset link that was issued before a change of the password does nothing after it. -/
theorem links_dead_after_password_change_once : ∃ tr s, AccountRun smallAuth noAccounts tr s ∧
    s.db.credentials 1 = some ("ann@shop", "second") ∧
    ∃ y ∈ tr, y.label = .op (.resetPassword "link" "third" 2) ∧
      y.post.db.credentials 1 = y.pre.db.credentials 1 := by
  obtain ⟨earlier, s, hrun, hback, hclosed, hissued, hend⟩ := exists_exec (accountStep smallAuth) noAccounts
    (P := fun _ s =>
      (AccountOp.changePassword 1 "first" "second" 1 "j2" 2).takesBack smallAuth s.db s.now = some 1 ∧
      (∀ t ∈ s.db.authTokens.rows, t.userId = 1 → t.purpose = .emailChange → t.Dead s.now) ∧
      (s.db.authTokens.get? "link").isSome = true ∧
      ((AccountOp.resetPassword "link" "third" 2).run smallAuth
        ((AccountOp.changePassword 1 "first" "second" 1 "j2" 2).run smallAuth s.db s.now)
        s.now).credentials 1 = some ("ann@shop", "second"))
    [.op (.register 1 "ann@shop" "first" 0), .op (.login "ann@shop" "first" "j1" 1),
      .op (.sendPasswordReset "ann@shop" "link"), .wait 1]
    (by decide)
  have hrun' := (hrun.cons (l := .op (.changePassword 1 "first" "second" 1 "j2" 2)) rfl).cons
    (l := .op (.resetPassword "link" "third" 2)) rfl
  exact ⟨_, _, hrun', hend, _, List.mem_cons_self, rfl,
    links_dead_after_password_change hrun' (show _ = [_] ++ _ :: _ from rfl) rfl hback hclosed _
      (List.mem_singleton_self _) _ _ rfl rfl hissued⟩

/-- An email-change link outlives a change of the password and moves the account to another address. -/
theorem email_change_link_survives : ∃ (tr later earlier : List (Taken AccountSys AccountLabel)) (s : AccountSys)
    (x : Taken AccountSys AccountLabel) (op : AccountOp), AccountRun smallAuth noAccounts tr s ∧
    tr = later ++ x :: earlier ∧ x.label = .op op ∧ op.takesBack smallAuth x.pre.db x.pre.now = some 1 ∧
    ∃ y ∈ later, ∃ use hash, y.label = .op use ∧ use.link smallAuth = some hash ∧
      (x.pre.db.authTokens.get? hash).isSome ∧ y.post.db.credentials 1 ≠ y.pre.db.credentials 1 := by
  obtain ⟨earlier, s, hrun, hback, hissued, hmoved⟩ := exists_exec (accountStep smallAuth) noAccounts
    (P := fun _ s =>
      (AccountOp.changePassword 1 "first" "second" 1 "j2" 2).takesBack smallAuth s.db s.now = some 1 ∧
      (s.db.authTokens.get? "link").isSome = true ∧
      let db := (AccountOp.changePassword 1 "first" "second" 1 "j2" 2).run smallAuth s.db s.now
      ((AccountOp.confirmEmailChange "link").run smallAuth db s.now).credentials 1 ≠ db.credentials 1)
    [.op (.register 1 "ann@shop" "first" 0), .op (.login "ann@shop" "first" "j1" 1),
      .op (.sendEmailChange 1 "eve@shop" "link"), .wait 1]
    (by decide)
  have hrun' := (hrun.cons (l := .op (.changePassword 1 "first" "second" 1 "j2" 2)) rfl).cons
    (l := .op (.confirmEmailChange "link")) rfl
  exact ⟨_, [_], earlier, _, _, _, hrun', rfl, rfl, hback, _, List.mem_singleton_self _, _, _, rfl, rfl,
    hissued, hmoved⟩

end NovaCart
