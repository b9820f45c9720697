import NovaCart.Accounts
import NovaCart.Schemes.Outcome

/-! Refresh tokens over time, and what a logout leaves of its family. -/

namespace NovaCart

open Schemes Table
open Keyed (key)

variable {cfg : AuthConfig} {db db' : Accounts} {now : Time}

/-- Settings with plain text in place of hashes. -/
def smallAuth : AuthConfig where
  graceWindow := 10
  graceMaxReplays := 3
  refreshLifetime := 1000
  passwordResetLifetime := 100
  emailVerificationLifetime := 100
  emailChangeLifetime := 100
  passwordResetEmailsPerHour := 5
  hour := 60
  sha256 := id
  lower := id
  hashPassword password _ := password
  verifyPassword password hash := password = hash

/-! ### Steps -/

/-- An operation commits, or changes nothing. -/
theorem AccountOp.run_cases (cfg : AuthConfig) (db : Accounts) (now : Time) (op : AccountOp) :
    op.body cfg db now = .ok (op.run cfg db now) ∨ op.run cfg db now = db := by
  unfold AccountOp.run
  cases op.body cfg db now with
  | ok db' => exact .inl rfl
  | error _ => exact .inr rfl

theorem accountStep_op {s s' : AccountSys} {op : AccountOp} (h : accountStep cfg s (.op op) = some s') :
    s'.db = op.run cfg s.db s.now ∧ s'.now = s.now := by
  cases h
  exact ⟨rfl, rfl⟩

/-! ### The calls on sessions -/

theorem decoded_eq_some {jti : String} {t : RefreshToken} :
    decoded db jti now = some t ↔ db.refreshTokens.get? jti = some t ∧ now < t.expiresAt := by
  simp [decoded, Option.filter_eq_some_iff]

/-- A refresh is refused, finds its token stolen, or goes on. -/
theorem refresh_cases (cfg : AuthConfig) (db : Accounts) (jti newJti : String) (now : Time) :
    (∃ e, refresh cfg db jti newJti now = (db, .error e)) ∨
    (∃ stored, decoded db jti now = some stored ∧ refreshVerdict cfg db stored now = .reuse ∧
      refresh cfg db jti newJti now = (db.revokeFamily stored.familyId, .error .invalidRefreshToken)) ∨
    (∃ stored db', decoded db jti now = some stored ∧
      (refreshVerdict cfg db stored now = .rotate ∨ refreshVerdict cfg db stored now = .replay) ∧
      grantRefresh cfg db stored newJti now = .ok db' ∧ refresh cfg db jti newJti now = (db', .ok newJti)) := by
  unfold refresh
  cases hdecoded : decoded db jti now with
  | none => exact .inl ⟨_, rfl⟩
  | some stored =>
    cases hverdict : refreshVerdict cfg db stored now with
    | refused => exact .inl ⟨.invalidRefreshToken, by simp only [hverdict]⟩
    | reuse => exact .inr (.inl ⟨stored, rfl, hverdict, by simp only [hverdict]⟩)
    | rotate =>
      cases hgrant : grantRefresh cfg db stored newJti now with
      | error e => exact .inl ⟨e, by simp only [hverdict, hgrant]⟩
      | ok db' => exact .inr (.inr ⟨stored, db', rfl, .inl hverdict, hgrant, by simp only [hverdict, hgrant]⟩)
    | replay =>
      cases hgrant : grantRefresh cfg db stored newJti now with
      | error e => exact .inl ⟨e, by simp only [hverdict, hgrant]⟩
      | ok db' => exact .inr (.inr ⟨stored, db', rfl, .inr hverdict, hgrant, by simp only [hverdict, hgrant]⟩)

/-- A logout finds nothing to revoke, or revokes the presented token. -/
theorem logout_cases (db : Accounts) (jti : String) (now : Time) :
    ((∀ t, decoded db jti now = some t → t.revoked = true) ∧ logout db jti now = db) ∨
    (∃ stored, decoded db jti now = some stored ∧ stored.revoked = false ∧
      logout db jti now =
        { db with refreshTokens := db.refreshTokens.replace { stored with revoked := true } }) := by
  unfold logout
  cases hdecoded : decoded db jti now with
  | none => exact .inl ⟨nofun, rfl⟩
  | some stored =>
    cases hrevoked : stored.revoked with
    | true => exact .inl ⟨by rintro t ⟨⟩; exact hrevoked, by simp only [hrevoked, ↓reduceIte]⟩
    | false => exact .inr ⟨stored, rfl, hrevoked, by simp only [hrevoked, Bool.false_eq_true, ↓reduceIte]⟩

theorem grantRefresh_ok {stored : RefreshToken} {newJti : String}
    (h : grantRefresh cfg db stored newJti now = .ok db') :
    db'.users = db.users ∧ (db.refreshTokens.replace (stored.exchanged now)).insert?
      (stored.successor cfg newJti now) = some db'.refreshTokens := by
  obtain ⟨tokens, hinsert, h⟩ := need_bind_ok h
  cases h
  exact ⟨rfl, hinsert⟩

theorem issueTokens_ok {userId : Id} {jti : String} {familyId : Id}
    (h : issueTokens cfg db userId jti familyId now = .ok db') :
    (∀ t ∈ db.refreshTokens.rows, t.familyId ≠ familyId) ∧ db'.users = db.users ∧
      ∃ t, t.familyId = familyId ∧ t.userId = userId ∧ t.jti = jti ∧
        db.refreshTokens.insert? t = some db'.refreshTokens := by
  obtain ⟨hfresh, h⟩ := require_bind_ok h
  obtain ⟨tokens, hinsert, h⟩ := need_bind_ok h
  cases h
  exact ⟨hfresh, rfl, _, rfl, rfl, rfl, hinsert⟩

/-! ### Tokens over time -/

/-- What happens to a token's row without its being exchanged: it can be revoked. -/
def Faded (t t' : RefreshToken) : Prop :=
  t'.familyId = t.familyId ∧ t'.expiresAt = t.expiresAt ∧ t'.rotatedAt = t.rotatedAt ∧
    t'.graceReplays = t.graceReplays ∧ (t.revoked = true → t'.revoked = true)

theorem Faded.refl (t : RefreshToken) : Faded t t := ⟨rfl, rfl, rfl, rfl, id⟩

theorem faded_revokedIf (p : RefreshToken → Bool) (t : RefreshToken) : Faded t (t.revokedIf p) := by
  unfold RefreshToken.revokedIf
  split
  · exact ⟨rfl, rfl, rfl, rfl, fun _ => rfl⟩
  · exact .refl t

/-- A token stays in its family, and once revoked it stays so. -/
def TokenKept (t t' : RefreshToken) : Prop :=
  t'.familyId = t.familyId ∧ (t.revoked = true → t'.revoked = true)

theorem TokenKept.refl (t : RefreshToken) : TokenKept t t := ⟨rfl, id⟩

theorem TokenKept.trans {a b c : RefreshToken} (h₁ : TokenKept a b) (h₂ : TokenKept b c) : TokenKept a c :=
  ⟨h₂.1.trans h₁.1, fun h => h₂.2 (h₁.2 h)⟩

theorem exchanged_familyId (t : RefreshToken) (now : Time) : (t.exchanged now).familyId = t.familyId := by
  unfold RefreshToken.exchanged
  split
  · rfl
  · rfl

theorem exchanged_revoked (t : RefreshToken) (now : Time) : (t.exchanged now).revoked = true := by
  unfold RefreshToken.exchanged
  split
  · assumption
  · rfl

theorem exchanged_jti (t : RefreshToken) (now : Time) : (t.exchanged now).jti = t.jti := by
  unfold RefreshToken.exchanged
  split
  · rfl
  · rfl

/-- The tokens before and after a transaction: some were revoked, then a login or a password change opened a
    new family; or one token that meets `E` was exchanged. -/
inductive TokenEffect (cfg : AuthConfig) (E : RefreshToken → Prop) (before after : Table RefreshToken) : Prop
  | faded (hstems : Stems Faded before after) (hkept : Kept Faded before after)
  | issued (mid : Table RefreshToken) (new : RefreshToken) (hstems : Stems Faded before mid)
      (hkept : Kept Faded before mid) (hfresh : ∀ t ∈ mid.rows, t.familyId ≠ new.familyId)
      (hinsert : mid.insert? new = some after)
  | exchanged (stored : RefreshToken) (newJti : String) (now : Time) (hE : E stored)
      (hstored : before.get? stored.jti = some stored)
      (hinsert : (before.replace (stored.exchanged now)).insert? (stored.successor cfg newJti now) = some after)

variable {E : RefreshToken → Prop} {before after : Table RefreshToken}

theorem TokenEffect.same (h : after = before) : TokenEffect cfg E before after := by
  rw [h]
  exact .faded (.refl .refl _) (.refl .refl _)

theorem TokenEffect.mono {E' : RefreshToken → Prop} (h : TokenEffect cfg E before after) (hE : ∀ t, E t → E' t) :
    TokenEffect cfg E' before after := by
  cases h with
  | faded hstems hkept => exact .faded hstems hkept
  | issued mid new hstems hkept hfresh hinsert => exact .issued mid new hstems hkept hfresh hinsert
  | exchanged stored newJti now hstored hget hinsert =>
    exact .exchanged stored newJti now (hE stored hstored) hget hinsert

theorem TokenEffect.revoked (p : RefreshToken → Bool) :
    TokenEffect cfg E db.refreshTokens (db.revokeWhere p).refreshTokens :=
  .faded (stems_map (fun _ => RefreshToken.jti_revokedIf) (faded_revokedIf p))
    (kept_map (fun _ => RefreshToken.jti_revokedIf) (faded_revokedIf p))

/-- A new family after some tokens were revoked. -/
theorem TokenEffect.issue (p : RefreshToken → Bool) {userId : Id} {jti : String} {familyId : Id}
    (h : issueTokens cfg (db.revokeWhere p) userId jti familyId now = .ok db') :
    TokenEffect cfg E db.refreshTokens db'.refreshTokens := by
  obtain ⟨hfresh, _, new, hfamily, _, _, hinsert⟩ := issueTokens_ok h
  exact .issued _ new (stems_map (fun _ => RefreshToken.jti_revokedIf) (faded_revokedIf _))
    (kept_map (fun _ => RefreshToken.jti_revokedIf) (faded_revokedIf _)) (by rw [hfamily]; exact hfresh) hinsert

theorem key_exchanged (stored : RefreshToken) (now : Time) : key (stored.exchanged now) = stored.jti :=
  exchanged_jti stored now

/-- Every token's row is kept. -/
theorem TokenEffect.kept (h : TokenEffect cfg E before after) : Kept TokenKept before after := by
  have hsame : ∀ {t t' : RefreshToken}, Faded t t' → TokenKept t t' := fun h => ⟨h.1, h.2.2.2.2⟩
  cases h with
  | faded _ hkept => exact hkept.mono hsame
  | issued mid new _ hkept _ hinsert => exact (hkept.mono hsame).trans .trans (kept_insert? .refl hinsert)
  | exchanged stored newJti now _ hstored hinsert =>
    rw [← key_exchanged stored now] at hstored
    have hfamily : TokenKept stored (stored.exchanged now) :=
      ⟨exchanged_familyId stored now, fun _ => exchanged_revoked stored now⟩
    exact (kept_replace .refl hstored hfamily).trans .trans (kept_insert? .refl hinsert)

/-- The tokens of the family come from tokens of it that were there before. -/
def FamilyFades (familyId : Id) (before after : Table RefreshToken) : Prop :=
  ∀ t' ∈ after.rows, t'.familyId = familyId → ∃ t ∈ before.rows, Faded t t'

/-- Only an exchange of one of its tokens brings a family a new one. -/
theorem TokenEffect.family_fades (h : TokenEffect cfg E before after) {familyId : Id}
    (hused : ∃ t ∈ before.rows, t.familyId = familyId)
    (hother : ∀ stored, E stored → stored.familyId ≠ familyId) : FamilyFades familyId before after := by
  intro t' ht' hfamily
  cases h with
  | faded hstems _ => exact hstems t' ht'
  | issued mid new hstems hkept hfresh hinsert =>
    rcases (mem_insert? hinsert).mp ht' with rfl | hold
    · obtain ⟨t, ht, htfamily⟩ := hused
      obtain ⟨t₁, ht₁, hfaded⟩ := hkept _ t (get?_of_mem ht)
      exact absurd (hfaded.1.trans (htfamily.trans hfamily.symm)) (hfresh t₁ (mem_of_get? ht₁))
    · exact hstems t' hold
  | exchanged stored newJti now hE hstored hinsert =>
    rw [← key_exchanged stored now] at hstored
    rcases (mem_insert? hinsert).mp ht' with rfl | hold
    · exact absurd hfamily (hother stored hE)
    · rcases (mem_replace hstored).mp hold with rfl | ⟨hold, _⟩
      · exact absurd ((exchanged_familyId stored now).symm.trans hfamily) (hother stored hE)
      · exact ⟨t', hold, .refl t'⟩

theorem updateUser_ok {u : User} (h : db.updateUser u = .ok db') :
    db' = { db with users := db.users.replace u } := by
  obtain ⟨_, h⟩ := require_bind_ok h
  cases h
  rfl

theorem issueLink_tokens {userId : Id} {purpose : TokenPurpose} {email token : String}
    (h : issueLink cfg db userId purpose email token now = .ok db') : db'.refreshTokens = db.refreshTokens := by
  obtain ⟨tokens, _, h⟩ := need_bind_ok h
  cases h
  rfl

theorem consumeAuthToken_tokens {hash : String} {purpose : TokenPurpose} {row : AuthToken}
    (h : db.consumeAuthToken hash purpose now = some (db', row)) : db'.refreshTokens = db.refreshTokens := by
  unfold Accounts.consumeAuthToken at h
  split at h
  · cases h
  · split at h
    · cases h
      rfl
    · cases h

/-! ### Each operation -/

/-- The jobs that send links issue one, or find nothing to send. -/
theorem sendPasswordReset_cases {email token : String} (h : sendPasswordReset cfg db email token now = .ok db') :
    db' = db ∨ ∃ userId purpose address, issueLink cfg db userId purpose address token now = .ok db' := by
  unfold sendPasswordReset at h
  split at h
  · cases h; exact .inl rfl
  · split at h
    · cases h; exact .inl rfl
    · split at h
      · cases h; exact .inl rfl
      · exact .inr ⟨_, _, _, h⟩

theorem sendEmailVerification_cases {userId : Id} {token : String}
    (h : sendEmailVerification cfg db userId token now = .ok db') :
    db' = db ∨ ∃ userId purpose address, issueLink cfg db userId purpose address token now = .ok db' := by
  unfold sendEmailVerification at h
  split at h
  · cases h; exact .inl rfl
  · split at h
    · cases h; exact .inl rfl
    · exact .inr ⟨_, _, _, h⟩

theorem sendEmailChange_cases {userId : Id} {newEmail token : String}
    (h : sendEmailChange cfg db userId newEmail token now = .ok db') :
    db' = db ∨ ∃ userId purpose address, issueLink cfg db userId purpose address token now = .ok db' := by
  unfold sendEmailChange at h
  split at h
  · cases h; exact .inl rfl
  · split at h
    · cases h; exact .inl rfl
    · split at h
      · cases h; exact .inl rfl
      · exact .inr ⟨_, _, _, h⟩

theorem resetCredentials_tokens {token newPassword : String} {salt : Nat} {userId : Id}
    (h : resetCredentials cfg db token newPassword salt now = .ok (db', userId)) :
    db'.refreshTokens = db.refreshTokens := by
  obtain ⟨⟨mid, row⟩, hconsume, h⟩ := need_bind_ok h
  obtain ⟨user, _, h⟩ := bind_ok h
  obtain ⟨db₁, hupdate, h⟩ := bind_ok h
  have htokens : mid.refreshTokens = db.refreshTokens := consumeAuthToken_tokens hconsume
  cases h
  rw [updateUser_ok hupdate]
  exact htokens

theorem changeCredentials_tokens {userId : Id} {current newPassword : String} {salt : Nat}
    (h : changeCredentials cfg db userId current newPassword salt now = .ok db') :
    db'.refreshTokens = db.refreshTokens := by
  obtain ⟨user, _, h⟩ := need_bind_ok h
  obtain ⟨_, h⟩ := require_bind_ok h
  obtain ⟨_, h⟩ := require_bind_ok h
  obtain ⟨_, h⟩ := require_bind_ok h
  obtain ⟨db₁, hupdate, h⟩ := bind_ok h
  cases h
  rw [updateUser_ok hupdate]
  rfl

/-- The refresh of a token that goes on. -/
def AccountOp.Exchanges (cfg : AuthConfig) (db : Accounts) (now : Time) (op : AccountOp) (stored : RefreshToken) :
    Prop :=
  ∃ jti newJti, op = .refresh jti newJti ∧ decoded db jti now = some stored ∧
    (refreshVerdict cfg db stored now = .rotate ∨ refreshVerdict cfg db stored now = .replay)

/-- What an operation does to the tokens. -/
theorem AccountOp.token_effect {op : AccountOp} (h : op.body cfg db now = .ok db') :
    TokenEffect cfg (op.Exchanges cfg db now) db.refreshTokens db'.refreshTokens := by
  cases op with
  | register id email password salt =>
    obtain ⟨_, h⟩ := require_bind_ok h
    obtain ⟨_, _, h⟩ := need_bind_ok h
    cases h
    exact .same rfl
  | login email password jti familyId =>
    obtain ⟨user, _, h⟩ := need_bind_ok h
    obtain ⟨_, h⟩ := require_bind_ok h
    obtain ⟨_, h⟩ := require_bind_ok h
    obtain ⟨hfresh, _, new, hfamily, _, _, hinsert⟩ := issueTokens_ok h
    exact .issued _ new (.refl .refl _) (.refl .refl _) (by rw [hfamily]; exact hfresh) hinsert
  | refresh jti newJti =>
    cases h
    rcases refresh_cases cfg db jti newJti now with ⟨e, h⟩ | ⟨stored, _, _, h⟩ |
      ⟨stored, db', hdecoded, hverdict, hgrant, h⟩
    · rw [h]
      exact .same rfl
    · rw [h]
      exact .revoked _
    · rw [h]
      exact .exchanged stored newJti now ⟨jti, newJti, rfl, hdecoded, hverdict⟩
        (get?_of_mem (mem_of_get? (decoded_eq_some.mp hdecoded).1)) (grantRefresh_ok hgrant).2
  | logout jti =>
    cases h
    rcases logout_cases db jti now with ⟨_, h⟩ | ⟨stored, hdecoded, _, h⟩
    · rw [h]
      exact .same rfl
    · rw [h]
      have hget := (decoded_eq_some.mp hdecoded).1
      rw [show jti = key { stored with revoked := true } from (key_of_get? hget).symm] at hget
      have hfaded : Faded stored { stored with revoked := true } := ⟨rfl, rfl, rfl, rfl, fun _ => rfl⟩
      exact .faded (stems_replace .refl hget hfaded) (kept_replace .refl hget hfaded)
  | sendPasswordReset email token =>
    rcases sendPasswordReset_cases h with rfl | ⟨_, _, _, h⟩
    · exact .same rfl
    · exact .same (issueLink_tokens h)
  | sendEmailVerification userId token =>
    rcases sendEmailVerification_cases h with rfl | ⟨_, _, _, h⟩
    · exact .same rfl
    · exact .same (issueLink_tokens h)
  | sendEmailChange userId newEmail token =>
    rcases sendEmailChange_cases h with rfl | ⟨_, _, _, h⟩
    · exact .same rfl
    · exact .same (issueLink_tokens h)
  | resetPassword token newPassword salt =>
    obtain ⟨⟨db₁, userId⟩, hreset, h⟩ := bind_ok h
    cases h
    rw [Accounts.revokeAllRefreshTokens, Accounts.revokeWhere, resetCredentials_tokens hreset]
    exact .revoked _
  | changePassword userId current newPassword salt jti familyId =>
    obtain ⟨db₁, hchange, h⟩ := bind_ok h
    rw [← changeCredentials_tokens hchange]
    exact .issue _ h
  | verifyEmail token =>
    obtain ⟨⟨mid, row⟩, hconsume, h⟩ := need_bind_ok h
    obtain ⟨user, _, h⟩ := bind_ok h
    have htokens : mid.refreshTokens = db.refreshTokens := consumeAuthToken_tokens hconsume
    rw [updateUser_ok h]
    exact .same htokens
  | confirmEmailChange token =>
    obtain ⟨⟨mid, row⟩, hconsume, h⟩ := need_bind_ok h
    obtain ⟨user, _, h⟩ := bind_ok h
    obtain ⟨_, h⟩ := require_bind_ok h
    obtain ⟨db₁, hupdate, h⟩ := bind_ok h
    cases h
    have htokens : mid.refreshTokens = db.refreshTokens := consumeAuthToken_tokens hconsume
    rw [updateUser_ok hupdate]
    exact .same htokens
  | correctEmail userId email =>
    obtain ⟨user, _, h⟩ := need_bind_ok h
    split at h
    · cases h
      exact .same rfl
    · rw [updateUser_ok h]
      exact .same rfl
  | deactivateUser userId =>
    obtain ⟨user, _, h⟩ := need_bind_ok h
    cases h
    exact .same rfl

/-! ### Families that have ended -/

/-- No token of the family can be exchanged any more: each is revoked or past its expiry, and while one of
    them is not revoked none can be replayed. -/
def Ended (cfg : AuthConfig) (familyId : Id) (db : Accounts) (now : Time) : Prop :=
  (∀ t ∈ db.refreshTokens.rows, t.familyId = familyId → t.revoked = true ∨ t.expiresAt ≤ now) ∧
    ((∃ t ∈ db.refreshTokens.rows, t.familyId = familyId ∧ t.revoked = false) →
      ∀ t ∈ db.refreshTokens.rows, t.familyId = familyId → t.expiresAt ≤ now ∨ ¬ t.graceOpen cfg now)

theorem not_graceOpen_later {t t' : RefreshToken} (h : Faded t t') {now now' : Time} (hnow : now ≤ now')
    (hclosed : ¬ t.graceOpen cfg now) : ¬ t'.graceOpen cfg now' := by
  rintro ⟨hwindow, ⟨r, hr, hr'⟩, hreplays⟩
  refine hclosed ⟨hwindow, ⟨r, by rw [← h.2.2.1]; exact hr, hnow.trans hr'⟩, ?_⟩
  rw [← h.2.2.2.1]
  exact hreplays

theorem Ended.later {familyId : Id} {now' : Time} (h : Ended cfg familyId db now)
    (hfades : FamilyFades familyId db.refreshTokens db'.refreshTokens) (hnow : now ≤ now') : Ended cfg familyId db' now' := by
  obtain ⟨hall, hreplay⟩ := h
  refine ⟨?_, ?_⟩
  · intro t' ht' hfamily
    obtain ⟨t, ht, hfaded⟩ := hfades t' ht' hfamily
    rcases hall t ht (hfaded.1.symm.trans hfamily) with hrevoked | hexpired
    · exact .inl (hfaded.2.2.2.2 hrevoked)
    · exact .inr (hfaded.2.1.le.trans (hexpired.trans hnow))
  · rintro ⟨a', ha', hafamily, hactive⟩ t' ht' hfamily
    obtain ⟨a, ha, hfadedA⟩ := hfades a' ha' hafamily
    obtain ⟨t, ht, hfaded⟩ := hfades t' ht' hfamily
    have hactive' : a.revoked = false := by
      cases hrevoked : a.revoked with
      | false => rfl
      | true => rw [hfadedA.2.2.2.2 hrevoked] at hactive; cases hactive
    rcases hreplay ⟨a, ha, hfadedA.1.symm.trans hafamily, hactive'⟩ t ht (hfaded.1.symm.trans hfamily)
      with hexpired | hclosed
    · exact .inl (hfaded.2.1.le.trans (hexpired.trans hnow))
    · exact .inr (not_graceOpen_later hfaded hnow hclosed)

/-- A revoked token that cannot be replayed, or has no active sibling left, is taken for stolen. -/
theorem reuse_of_revoked {stored : RefreshToken} (hrevoked : stored.revoked = true)
    (hnone : stored.graceOpen cfg now →
      ∀ t ∈ db.refreshTokens.rows, t.familyId = stored.familyId → t.revoked = true) :
    refreshVerdict cfg db stored now = .reuse := by
  have hreuse : isBenignReplay cfg db stored now = false := by
    by_cases hopen : stored.graceOpen cfg now
    · have hinactive : db.familyHasActiveToken stored.familyId = false := by
        rw [Accounts.familyHasActiveToken, List.any_eq_false]
        intro t ht hactive
        obtain ⟨hmine, hactive⟩ := of_decide_eq_true hactive
        rw [hnone hopen t ht hmine] at hactive
        cases hactive
      rw [isBenignReplay, hinactive, Bool.and_false]
    · rw [isBenignReplay, decide_eq_false hopen, Bool.false_and]
  exact if_pos ⟨hrevoked, hreuse⟩

/-- A token of a family that has ended is not exchanged. -/
theorem Ended.verdict {familyId : Id} (h : Ended cfg familyId db now) {jti : String} {stored : RefreshToken}
    (hdecoded : decoded db jti now = some stored) (hfamily : stored.familyId = familyId) :
    refreshVerdict cfg db stored now ≠ .rotate ∧ refreshVerdict cfg db stored now ≠ .replay := by
  obtain ⟨hget, hlive⟩ := decoded_eq_some.mp hdecoded
  have hmem := mem_of_get? hget
  have hrevoked : stored.revoked = true := by
    rcases h.1 stored hmem hfamily with hrevoked | hexpired
    · exact hrevoked
    · exact absurd hlive (Nat.not_lt.mpr hexpired)
  have hverdict : refreshVerdict cfg db stored now = .reuse := by
    refine reuse_of_revoked hrevoked fun hopen t ht hmine => ?_
    cases hactive : t.revoked with
    | true => rfl
    | false =>
      rcases h.2 ⟨t, ht, hmine.trans hfamily, hactive⟩ stored hmem hfamily with hexpired | hclosed
      · exact absurd hlive (Nat.not_lt.mpr hexpired)
      · exact absurd hopen hclosed
  rw [hverdict]
  exact ⟨nofun, nofun⟩

/-- A family that has ended stays ended. -/
theorem Ended.of_run {familyId : Id} {s s' : AccountSys} {tr : List (Taken AccountSys AccountLabel)}
    (h : AccountRun cfg s tr s') (hused : ∃ t ∈ s.db.refreshTokens.rows, t.familyId = familyId)
    (hended : Ended cfg familyId s.db s.now) : Ended cfg familyId s'.db s'.now ∧
      Kept TokenKept s.db.refreshTokens s'.db.refreshTokens := by
  refine h.invariant (I := fun s' => Ended cfg familyId s'.db s'.now ∧
    Kept TokenKept s.db.refreshTokens s'.db.refreshTokens) ⟨hended, .refl .refl _⟩ ?_
  rintro s₁ l s₂ hstep ⟨hended, hkept⟩
  cases l with
  | wait d =>
    cases hstep
    exact ⟨hended.later (fun t ht _ => ⟨t, ht, .refl t⟩) (Nat.le_add_right ..), hkept⟩
  | op op =>
    obtain ⟨hdb, hnow⟩ := accountStep_op hstep
    rw [hdb, hnow]
    rcases op.run_cases cfg s₁.db s₁.now with hok | hsame
    · obtain ⟨t, ht, hfamily⟩ := hused
      obtain ⟨t₁, ht₁, hfamily₁⟩ := hkept _ t (get?_of_mem ht)
      refine ⟨hended.later ((op.token_effect hok).family_fades
        ⟨t₁, mem_of_get? ht₁, hfamily₁.1.trans hfamily⟩ ?_) le_rfl, hkept.trans .trans (op.token_effect hok).kept⟩
      rintro stored ⟨_, _, _, hdecoded, hverdict⟩ hmine
      obtain ⟨hrotate, hreplay⟩ := hended.verdict hdecoded hmine
      rcases hverdict with hverdict | hverdict
      · exact hrotate hverdict
      · exact hreplay hverdict
    · rw [hsame]
      exact ⟨hended, hkept⟩

/-! ### Logout -/

instance (cfg : AuthConfig) (familyId : Id) (db : Accounts) (now : Time) : Decidable (Ended cfg familyId db now) :=
  inferInstanceAs (Decidable (_ ∧ _))

/-- The presented token is the last of its family: no other can be exchanged, and if one that is past its
    expiry was never revoked, none can be replayed. -/
def LastOfFamily (cfg : AuthConfig) (familyId : Id) (jti : String) (db : Accounts) (now : Time) : Prop :=
  (∀ t ∈ db.refreshTokens.rows, t.familyId = familyId → t.jti ≠ jti → t.revoked = true ∨ t.expiresAt ≤ now) ∧
    ((∃ t ∈ db.refreshTokens.rows, t.familyId = familyId ∧ t.revoked = false ∧
        (t.jti = jti → t.expiresAt ≤ now)) →
      ∀ t ∈ db.refreshTokens.rows, t.familyId = familyId → t.expiresAt ≤ now ∨ ¬ t.graceOpen cfg now)

instance (cfg : AuthConfig) (familyId : Id) (jti : String) (db : Accounts) (now : Time) :
    Decidable (LastOfFamily cfg familyId jti db now) := inferInstanceAs (Decidable (_ ∧ _))

theorem logout_ends {familyId : Id} {jti : String} (h : LastOfFamily cfg familyId jti db now) :
    Ended cfg familyId (logout db jti now) now := by
  obtain ⟨hothers, hreplay⟩ := h
  rcases logout_cases db jti now with ⟨hdone, hsame⟩ | ⟨stored, hdecoded, _, hlogout⟩
  · -- the presented token was revoked or has expired
    have hpresented : ∀ t ∈ db.refreshTokens.rows, t.jti = jti → t.revoked = true ∨ t.expiresAt ≤ now := by
      intro t ht hjti
      by_cases hlive : now < t.expiresAt
      · have hget : db.refreshTokens.get? jti = some t := by rw [← hjti]; exact get?_of_mem ht
        exact .inl (hdone t (decoded_eq_some.mpr ⟨hget, hlive⟩))
      · exact .inr (Nat.not_lt.mp hlive)
    rw [hsame]
    refine ⟨fun t ht hfamily => ?_, ?_⟩
    · by_cases hjti : t.jti = jti
      · exact hpresented t ht hjti
      · exact hothers t ht hfamily hjti
    · rintro ⟨a, ha, hfamily, hactive⟩
      refine hreplay ⟨a, ha, hfamily, hactive, fun hjti => ?_⟩
      rcases hpresented a ha hjti with hrevoked | hexpired
      · rw [hactive] at hrevoked
        cases hrevoked
      · exact hexpired
  · have hget := (decoded_eq_some.mp hdecoded).1
    have hjti : stored.jti = jti := key_of_get? hget
    have hold : db.refreshTokens.get? (key { stored with revoked := true }) = some stored := by
      show db.refreshTokens.get? stored.jti = some stored
      rw [hjti]
      exact hget
    rw [hlogout]
    refine ⟨fun t ht hfamily => ?_, ?_⟩
    · rcases (mem_replace hold).mp ht with rfl | ⟨ht, hne⟩
      · exact .inl rfl
      · exact hothers t ht hfamily fun heq => hne (Eq.trans heq hjti.symm)
    · rintro ⟨a, ha, hafamily, hactive⟩ t ht hfamily
      rcases (mem_replace hold).mp ha with rfl | ⟨ha, hne⟩
      · cases hactive
      · have hopen := hreplay ⟨a, ha, hafamily, hactive, fun heq => absurd (Eq.trans heq hjti.symm) hne⟩
        rcases (mem_replace hold).mp ht with rfl | ⟨ht, _⟩
        · exact hopen stored (mem_of_get? hget) hfamily
        · exact hopen t ht hfamily

/-- A logout with the last token of its family ends it: no token of the family that was issued before is
    exchanged for a new one afterwards. -/
theorem logout_ends_family {tr later earlier : List (Taken AccountSys AccountLabel)} {s : AccountSys}
    {x : Taken AccountSys AccountLabel} {jti : String} {presented : RefreshToken}
    (h : AccountRun cfg noAccounts tr s) (htr : tr = later ++ x :: earlier) (hx : x.label = .op (.logout jti))
    (hpresented : x.pre.db.refreshTokens.get? jti = some presented)
    (hlast : LastOfFamily cfg presented.familyId jti x.pre.db x.pre.now) :
    ∀ y ∈ later, ∀ old newJti t, y.label = .op (.refresh old newJti) →
      x.pre.db.refreshTokens.get? old = some t → t.familyId = presented.familyId →
      ∃ e, (refresh cfg y.pre.db old newJti y.pre.now).2 = .error e := by
  intro y hy old newJti t _ hold hfamily
  rw [htr] at h
  obtain ⟨_, hstep, hafter⟩ := h.split
  obtain ⟨⟨before, hbefore⟩, _⟩ := hafter.taken hy
  rw [hx] at hstep
  obtain ⟨hpost, hpostnow⟩ := accountStep_op hstep
  -- the family right after the logout
  have hok : (AccountOp.logout jti).body cfg x.pre.db x.pre.now = .ok x.post.db := by rw [hpost]; rfl
  have hkept := (AccountOp.token_effect hok).kept
  obtain ⟨p₁, hp₁, hpfamily⟩ := hkept jti presented hpresented
  have hended : Ended cfg presented.familyId x.post.db x.post.now := by
    rw [hpost, hpostnow]
    exact logout_ends hlast
  obtain ⟨hended', hkept'⟩ := Ended.of_run hbefore ⟨p₁, mem_of_get? hp₁, hpfamily.1⟩ hended
  obtain ⟨t₁, ht₁, hfamily₁⟩ := hkept old t hold
  obtain ⟨t₂, ht₂, hfamily₂⟩ := hkept' old t₁ ht₁
  rcases refresh_cases cfg y.pre.db old newJti y.pre.now with ⟨e, hr⟩ | ⟨_, _, _, hr⟩ |
    ⟨stored, _, hdecoded, hverdict, _, _⟩
  · exact ⟨e, by rw [hr]⟩
  · exact ⟨_, by rw [hr]⟩
  · have hstored : stored = t₂ := Option.some.inj ((decoded_eq_some.mp hdecoded).1.symm.trans ht₂)
    have hmine : stored.familyId = presented.familyId := by
      rw [hstored, hfamily₂.1, hfamily₁.1, hfamily]
    obtain ⟨hrotate, hreplay⟩ := hended'.verdict hdecoded hmine
    rcases hverdict with hverdict | hverdict
    · exact absurd hverdict hrotate
    · exact absurd hverdict hreplay

/-- After a rotation, a logout with the new token: the old one is not exchanged although its grace window
    is still open. -/
theorem logout_ends_family_rotated : ∃ tr s, AccountRun smallAuth noAccounts tr s ∧
    ∃ y ∈ tr, y.label = .op (.refresh "j1" "j3") ∧
      (∃ t, y.pre.db.refreshTokens.get? "j1" = some t ∧ t.graceOpen smallAuth y.pre.now) ∧
      ∃ e, (refresh smallAuth y.pre.db "j1" "j3" y.pre.now).2 = .error e := by
  obtain ⟨earlier, s, hrun, hpresented, hlast, hold, hopen⟩ := exists_exec (accountStep smallAuth) noAccounts
    (P := fun _ s =>
      s.db.refreshTokens.get? "j2" = some ⟨"j2", 1, 1, 1002, false, none, 0⟩ ∧
      LastOfFamily smallAuth 1 "j2" s.db s.now ∧
      s.db.refreshTokens.get? "j1" = some ⟨"j1", 1, 1, 1001, true, some 2, 0⟩ ∧
      ((AccountOp.logout "j2").run smallAuth s.db s.now).refreshTokens.get? "j1"
        = some ⟨"j1", 1, 1, 1001, true, some 2, 0⟩ ∧
      RefreshToken.graceOpen smallAuth ⟨"j1", 1, 1, 1001, true, some 2, 0⟩ s.now)
    [.op (.register 1 "ann@shop" "first" 0), .wait 1, .op (.login "ann@shop" "first" "j1" 1), .wait 1,
      .op (.refresh "j1" "j2"), .wait 3]
    (by decide)
  have hrun' := (hrun.cons (l := .op (.logout "j2")) rfl).cons (l := .op (.refresh "j1" "j3")) rfl
  exact ⟨_, _, hrun', _, List.mem_cons_self, rfl, ⟨_, hopen⟩,
    logout_ends_family hrun' (show _ = [_] ++ _ :: _ from rfl) rfl hpresented hlast _
      (List.mem_singleton_self _) _ _ _ rfl hold rfl⟩

/-- A token handed to a second tab in the grace window outlives the logout of the first. -/
theorem logout_leaves_sibling : ∃ (tr later earlier : List (Taken AccountSys AccountLabel)) (s : AccountSys)
    (x : Taken AccountSys AccountLabel) (presented : RefreshToken), AccountRun smallAuth noAccounts tr s ∧
    tr = later ++ x :: earlier ∧ x.label = .op (.logout "j2") ∧
    x.pre.db.refreshTokens.get? "j2" = some presented ∧
    ∃ y ∈ later, ∃ t, y.label = .op (.refresh "j3" "j4") ∧ x.pre.db.refreshTokens.get? "j3" = some t ∧
      t.familyId = presented.familyId ∧ (refresh smallAuth y.pre.db "j3" "j4" y.pre.now).2.toOption = some "j4" := by
  obtain ⟨earlier, s, hrun, hpresented, hsibling, hexchanged⟩ := exists_exec (accountStep smallAuth) noAccounts
    (P := fun _ s =>
      s.db.refreshTokens.get? "j2" = some ⟨"j2", 1, 1, 1002, false, none, 0⟩ ∧
      s.db.refreshTokens.get? "j3" = some ⟨"j3", 1, 1, 1003, false, none, 0⟩ ∧
      (refresh smallAuth ((AccountOp.logout "j2").run smallAuth s.db s.now) "j3" "j4" s.now).2.toOption
        = some "j4")
    [.op (.register 1 "ann@shop" "first" 0), .wait 1, .op (.login "ann@shop" "first" "j1" 1), .wait 1,
      .op (.refresh "j1" "j2"), .wait 1, .op (.refresh "j1" "j3")]
    (by decide)
  have hrun' := (hrun.cons (l := .op (.logout "j2")) rfl).cons (l := .op (.refresh "j3" "j4")) rfl
  exact ⟨_, [_], earlier, _, _, _, hrun', rfl, rfl, hpresented, _, List.mem_singleton_self _, _, rfl, hsibling,
    rfl, hexchanged⟩

end NovaCart
