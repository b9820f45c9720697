import NovaCart.Gateways

/-! Which gateway takes real money, and what its credentials were tested with.

    A step changes a configuration quietly, or it rotates it, prefers it or writes a verdict about
    it. While live payments are active the preferred live configuration is the one that was
    activated, as long as no other live one is preferred by hand. The evidence of a configuration
    was gathered with the credentials it has, as long as no rotation overtakes a call or a passed check. -/

namespace NovaCart

open Schemes

variable {g g₁ g' : Gateways} {l : GatewayLabel} {c c' x : ProviderConfig} {configId : Id}

/-! ### Changes of one configuration -/

/-- The same configuration with the same evidence. -/
structure ProviderConfig.Alike (c c' : ProviderConfig) : Prop where
  id : c'.id = c.id
  provider : c'.provider = c.provider
  mode : c'.mode = c.mode
  credentials : c'.credentials = c.credentials
  status : c'.credentialsStatus = c.credentialsStatus
  checked : c'.lastCheckOk = c.lastCheckOk

/-- A change that leaves the evidence alone and prefers nothing. -/
structure ProviderConfig.Quiet (c c' : ProviderConfig) : Prop extends c.Alike c' where
  preferred : c'.isPreferred = true → c.isPreferred = true

theorem ProviderConfig.Alike.refl (c : ProviderConfig) : c.Alike c := ⟨rfl, rfl, rfl, rfl, rfl, rfl⟩

theorem ProviderConfig.Alike.trans {c₁ c₂ c₃ : ProviderConfig} (h₁ : c₁.Alike c₂) (h₂ : c₂.Alike c₃) : c₁.Alike c₃ :=
  ⟨h₂.id.trans h₁.id, h₂.provider.trans h₁.provider, h₂.mode.trans h₁.mode, h₂.credentials.trans h₁.credentials,
    h₂.status.trans h₁.status, h₂.checked.trans h₁.checked⟩

theorem ProviderConfig.Quiet.refl (c : ProviderConfig) : c.Quiet c := ⟨.refl c, fun h => h⟩

theorem pause_quiet (c : ProviderConfig) : c.Quiet c.pause := by
  unfold ProviderConfig.pause
  by_cases h : c.status = .enabled
  · rw [if_pos h]
    exact ⟨⟨rfl, rfl, rfl, rfl, rfl, rfl⟩, nofun⟩
  · rw [if_neg h]
    exact .refl c

theorem disable_quiet (c : ProviderConfig) : c.Quiet c.disable := ⟨⟨rfl, rfl, rfl, rfl, rfl, rfl⟩, nofun⟩

/-- Nothing was validated or checked yet; only the demo gateway, which has no credentials, is taken for valid. -/
structure ProviderConfig.Unproved (c : ProviderConfig) : Prop where
  status : c.provider ≠ .demo → c.credentialsStatus = .unvalidated
  unchecked : c.lastCheckOk = none

theorem ProviderConfig.Unproved.alike (h : c.Unproved) (halike : c.Alike c') : c'.Unproved where
  status hdemo := halike.status.trans (h.status (halike.provider ▸ hdemo))
  unchecked := halike.checked.trans h.unchecked

/-- What the write of one row leaves in the table. -/
theorem mem_put (hget : g.configs.get? c.id = some c) (hid : c'.id = c.id) (hx : x ∈ (g.put c').configs.rows) :
    x = c' ∨ x ∈ g.configs.rows := by
  have hkey : g.configs.get? (Keyed.key c') = some c := by
    rw [show Keyed.key c' = c.id from hid]
    exact hget
  rcases (Table.mem_replace hkey).mp hx with rfl | ⟨hold, _⟩
  · exact .inl rfl
  · exact .inr hold

/-- What is stored is what was given. -/
theorem parseCredentials_ok {p : Provider} {mode : GatewayMode} {raw parsed : Credentials}
    (h : parseCredentials p mode raw = .ok parsed) : parsed = raw := by
  obtain ⟨_, h⟩ := require_bind_ok h
  obtain ⟨_, _, h⟩ := bind_ok h
  cases h
  rfl

theorem get_ok (h : g.get configId = .ok c) : g.configs.get? c.id = some c ∧ c.id = configId := by
  have hget : g.configs.get? configId = some c := need_eq_ok.mp h
  have hid : c.id = configId := Table.key_of_get? hget
  rw [hid]
  exact ⟨hget, rfl⟩

/-! ### What each operation writes -/

/-- The table after a quiet operation: one row changed quietly, or nothing. -/
def QuietPut (g g' : Gateways) : Prop :=
  g'.settings = g.settings ∧ (g'.configs = g.configs ∨
    ∃ c c', g.configs.get? c.id = some c ∧ c.Quiet c' ∧ g' = g.put c')

theorem QuietPut.of_put (hget : g.get configId = .ok c) (hquiet : c.Quiet c') : QuietPut g (g.put c') :=
  ⟨rfl, .inr ⟨c, c', (get_ok hget).1, hquiet, rfl⟩⟩

/-- The rows after a quiet operation come quietly from those before. -/
theorem QuietPut.stems (h : QuietPut g g') (hx : x ∈ g'.configs.rows) : ∃ c ∈ g.configs.rows, c.Quiet x := by
  rcases h.2 with heq | ⟨c, c', hget, hquiet, rfl⟩
  · rw [heq] at hx
    exact ⟨x, hx, .refl x⟩
  · rcases mem_put hget hquiet.id hx with rfl | hold
    · exact ⟨c, Table.mem_of_get? hget, hquiet⟩
    · exact ⟨x, hold, .refl x⟩

theorem retirePreviousWebhookSecret_quiet (h : g.retirePreviousWebhookSecret configId = .ok g') : QuietPut g g' := by
  obtain ⟨c, hget, h⟩ := bind_ok h
  cases h
  exact .of_put hget ⟨⟨rfl, rfl, rfl, rfl, rfl, rfl⟩, fun h => h⟩

theorem setCurrencies_quiet {currencies : List String} (h : g.setCurrencies configId currencies = .ok g') :
    QuietPut g g' := by
  obtain ⟨c, hget, h⟩ := bind_ok h
  obtain ⟨normalized, _, h⟩ := bind_ok h
  obtain ⟨_, h⟩ := require_bind_ok h
  cases h
  exact .of_put hget ⟨⟨rfl, rfl, rfl, rfl, rfl, rfl⟩, fun h => h⟩

theorem enable_quiet (h : g.enable configId = .ok g') : QuietPut g g' := by
  obtain ⟨c, hget, h⟩ := bind_ok h
  by_cases hready : c.enableBlockers g.livePaymentsEnabled = []
  · rw [dif_pos hready] at h
    cases h
    exact .of_put hget ⟨⟨rfl, rfl, rfl, rfl, rfl, rfl⟩, fun h => h⟩
  · rw [dif_neg hready] at h
    cases h

theorem disable_ok (h : g.disable configId = .ok g') : QuietPut g g' := by
  obtain ⟨c, hget, h⟩ := bind_ok h
  cases h
  exact .of_put hget (disable_quiet c)

theorem attest_quiet {kind : Attestation} (h : g.attest configId kind = .ok g') : QuietPut g g' := by
  obtain ⟨c, hget, h⟩ := bind_ok h
  cases kind with
  | sandboxVerified =>
    cases h
    exact .of_put hget ⟨⟨rfl, rfl, rfl, rfl, rfl, rfl⟩, fun h => h⟩
  | productionReview =>
    obtain ⟨_, h⟩ := require_bind_ok h
    cases h
    exact .of_put hget ⟨⟨rfl, rfl, rfl, rfl, rfl, rfl⟩, fun h => h⟩

theorem markWebhookVerified_quiet {secret : String} (h : g.markWebhookVerified configId secret = .ok g') :
    QuietPut g g' := by
  obtain ⟨c, hget, h⟩ := bind_ok h
  obtain ⟨_, h⟩ := require_bind_ok h
  cases h
  by_cases hverified : c.webhookVerified = true
  · rw [if_pos hverified]
    exact ⟨rfl, .inl rfl⟩
  · rw [if_neg hverified]
    exact .of_put hget ⟨⟨rfl, rfl, rfl, rfl, rfl, rfl⟩, fun h => h⟩

theorem disableDemo_quiet (h : g.disableDemo = .ok g') : QuietPut g g' := by
  obtain ⟨c, _, h⟩ := bind_ok h
  exact disable_ok h

theorem insert_ok (h : g.insert c = .ok g') (hx : x ∈ g'.configs.rows) : x = c ∨ x ∈ g.configs.rows := by
  obtain ⟨configs, hinsert, h⟩ := bind_ok h
  cases h
  exact (Table.mem_insert? (need_eq_ok.mp hinsert)).mp hx

theorem insert_settings (h : g.insert c = .ok g') : g'.settings = g.settings := by
  obtain ⟨configs, _, h⟩ := bind_ok h
  cases h
  rfl

theorem create_ok {p : Provider} {mode : GatewayMode} {raw : Credentials} {webhookSecret : Option String}
    {currencies : Option (List String)} (h : g.create p mode raw webhookSecret currencies = .ok g') :
    g'.settings = g.settings ∧ ∀ x ∈ g'.configs.rows, x.Unproved ∧ x.isPreferred = false ∨ x ∈ g.configs.rows := by
  unfold Gateways.create at h
  by_cases hdemo : p = .demo
  · rw [dif_pos hdemo] at h
    cases h
  · rw [dif_neg hdemo] at h
    obtain ⟨_, h⟩ := require_bind_ok h
    obtain ⟨credentials, _, h⟩ := bind_ok h
    obtain ⟨secret, _, h⟩ := bind_ok h
    obtain ⟨codes, _, h⟩ := bind_ok h
    refine ⟨insert_settings h, fun x hx => ?_⟩
    rcases insert_ok h hx with rfl | hold
    · exact .inl ⟨⟨fun _ => rfl, rfl⟩, rfl⟩
    · exact .inr hold

theorem createDemo_ok {random : String} (h : g.createDemo random = .ok (g', c)) :
    g'.settings = g.settings ∧ c.provider = .demo ∧ c ∈ g'.configs.rows ∧
      ∀ x ∈ g'.configs.rows, x.Unproved ∧ x.isPreferred = false ∨ x ∈ g.configs.rows := by
  unfold Gateways.createDemo at h
  cases hfind : g.byProviderMode .demo .test with
  | some c₁ =>
    rw [hfind] at h
    cases h
    have hmode := List.find?_some hfind
    simp only [Bool.and_eq_true, decide_eq_true_eq] at hmode
    exact ⟨rfl, hmode.1, List.mem_of_find?_eq_some hfind, fun x hx => .inr hx⟩
  | none =>
    rw [hfind] at h
    obtain ⟨g₁, hinsert, h⟩ := bind_ok h
    cases h
    refine ⟨insert_settings hinsert, rfl, ?_, fun x hx => ?_⟩
    · obtain ⟨configs, hconfigs, hg⟩ := bind_ok hinsert
      cases hg
      exact (Table.mem_insert? (need_eq_ok.mp hconfigs)).mpr (.inl rfl)
    · rcases insert_ok hinsert hx with rfl | hold
      · exact .inl ⟨⟨fun hdemo => absurd rfl hdemo, rfl⟩, rfl⟩
      · exact .inr hold

theorem prefer_ok (h : g.prefer configId = .ok g') :
    ∃ c, ∃ henabled : c.status = .enabled, g.configs.get? configId = some c ∧ c.credentialsStatus = .valid ∧
      g' = g.clearPreferred.put (c.prefer henabled) := by
  obtain ⟨c, hget, h⟩ := bind_ok h
  obtain ⟨_, h⟩ := require_bind_ok h
  by_cases hready : c.status = .enabled ∧ c.credentialsStatus = .valid
  · rw [dif_pos hready] at h
    obtain ⟨_, h⟩ := require_bind_ok h
    cases h
    exact ⟨c, hready.1, need_eq_ok.mp hget, hready.2, rfl⟩
  · rw [dif_neg hready] at h
    cases h

theorem mem_clearPreferred (h : x ∈ g.clearPreferred.configs.rows) :
    ∃ c ∈ g.configs.rows, c.Alike x ∧ x.isPreferred = false := by
  have hmap : x ∈ (g.configs.map ProviderConfig.unprefer ProviderConfig.key_unprefer).rows := h
  obtain ⟨c, hc, rfl⟩ := Table.mem_map.mp hmap
  exact ⟨c, hc, ⟨rfl, rfl, rfl, rfl, rfl, rfl⟩, rfl⟩

/-- After a preference was given, the row it was given to is the only one that may be preferred. -/
theorem prefer_rows (h : g.prefer configId = .ok g') (hx : x ∈ g'.configs.rows) :
    (∃ c ∈ g.configs.rows, c.Alike x) ∧ (x.isPreferred = true → x.id = configId) := by
  obtain ⟨c, henabled, hget, _, rfl⟩ := prefer_ok h
  have hcleared : g.clearPreferred.configs.get? c.unprefer.id = some c.unprefer := by
    rw [show c.unprefer.id = configId from Table.key_of_get? hget]
    rw [show g.clearPreferred.configs = g.configs.map _ ProviderConfig.key_unprefer from rfl, Table.get?_map, hget]
    rfl
  have hid : (c.prefer henabled).id = c.unprefer.id := rfl
  rcases mem_put hcleared hid hx with rfl | hold
  · exact ⟨⟨c, Table.mem_of_get? hget, rfl, rfl, rfl, rfl, rfl, rfl⟩, fun _ => Table.key_of_get? hget⟩
  · obtain ⟨y, hy, halike, hnot⟩ := mem_clearPreferred hold
    exact ⟨⟨y, hy, halike⟩, fun hpref => by rw [hnot] at hpref; cases hpref⟩

theorem prefer_settings (h : g.prefer configId = .ok g') : g'.settings = g.settings := by
  obtain ⟨c, henabled, _, _, rfl⟩ := prefer_ok h
  rfl

theorem enableDemo_ok {random : String} (h : g.enableDemo random = .ok g') :
    g'.settings = g.settings ∧ ∀ x ∈ g'.configs.rows,
      (x.Unproved ∨ ∃ c ∈ g.configs.rows, c.Alike x) ∧ (x.isPreferred = true → x.provider = .demo) := by
  obtain ⟨_, h⟩ := require_bind_ok h
  obtain ⟨⟨g₁, demo⟩, hcreate, h⟩ := bind_ok h
  obtain ⟨g₂, henable, hprefer⟩ := bind_ok h
  obtain ⟨hset₁, hdemo, hmem, hrows₁⟩ := createDemo_ok hcreate
  have hquiet : QuietPut g₁ g₂ := by
    unfold Gateways.ensureEnabled at henable
    by_cases hon : demo.status = .enabled
    · rw [if_pos hon] at henable
      cases henable
      exact ⟨rfl, .inl rfl⟩
    · rw [if_neg hon] at henable
      exact enable_quiet henable
  refine ⟨(prefer_settings hprefer).trans (hquiet.1.trans hset₁), fun x hx => ?_⟩
  obtain ⟨⟨c₂, hc₂, halike₂⟩, hid⟩ := prefer_rows hprefer hx
  obtain ⟨c₁, hc₁, hquiet₁⟩ := hquiet.stems hc₂
  have halike : c₁.Alike x := hquiet₁.toAlike.trans halike₂
  constructor
  · rcases hrows₁ c₁ hc₁ with ⟨hnew, _⟩ | hold
    · exact .inl (hnew.alike halike)
    · exact .inr ⟨c₁, hold, halike⟩
  · intro hpref
    have hsame : c₁ = demo := g₁.configs.eq_of_key_eq hc₁ hmem (halike.id.symm.trans (hid hpref))
    rw [halike.provider, hsame]
    exact hdemo

theorem activateLive_ok {confirmation : String} (h : g.activateLive configId confirmation = .ok g') :
    ∃ c, g.configs.get? configId = some c ∧ c.activationBlockers g.livePaymentsEnabled g.now = [] ∧
      g'.settings.livePaymentsActive = true ∧ g'.settings.liveActivatedConfigId = some configId ∧
      ∀ x ∈ g'.configs.rows, (∃ c ∈ g.configs.rows, c.Alike x) ∧ (x.isPreferred = true → x.id = configId) := by
  obtain ⟨_, h⟩ := require_bind_ok h
  obtain ⟨c, hget, h⟩ := bind_ok h
  obtain ⟨hblockers, h⟩ := require_bind_ok h
  have hc : g.configs.get? configId = some c := need_eq_ok.mp hget
  have hid : c.id = configId := Table.key_of_get? hc
  have hset := prefer_settings h
  refine ⟨c, hc, hblockers, by rw [hset], by rw [hset, ← hid], fun x hx => ?_⟩
  have hrows := prefer_rows h hx
  rw [hid] at hrows
  exact hrows

theorem deactivateLive_ok (h : g.deactivateLive = .ok g') :
    g'.settings.livePaymentsActive = false ∧
      ∀ x ∈ g'.configs.rows, ∃ c ∈ g.configs.rows, c.Alike x ∧ x.isPreferred = false := by
  obtain ⟨_, h⟩ := require_bind_ok h
  cases h
  exact ⟨rfl, fun x hx => mem_clearPreferred hx⟩

/-- What `rotate` makes of the row. -/
theorem rotate_ok {credentials : Option Credentials} {secret : Option String}
    (h : g.rotate configId credentials secret = .ok g') :
    ∃ c c', g.configs.get? c.id = some c ∧ c.id = configId ∧ g' = g.put c' ∧ c'.id = c.id ∧ c'.provider = c.provider ∧
      c'.mode = c.mode ∧ (c'.isPreferred = true → c.isPreferred = true) ∧ c'.lastCheckOk = c.lastCheckOk ∧
      match credentials with
      | none => c'.credentials = c.credentials ∧ c'.credentialsStatus = c.credentialsStatus
      | some raw => c'.credentials = some raw ∧ c'.credentialsStatus = .unvalidated := by
  obtain ⟨c, hget, h⟩ := bind_ok h
  obtain ⟨_, h⟩ := require_bind_ok h
  obtain ⟨_, h⟩ := require_bind_ok h
  obtain ⟨c₁, hc₁, h⟩ := bind_ok h
  obtain ⟨c₂, hc₂, h⟩ := bind_ok h
  cases h
  have hsecret : c₁.Quiet c₂ := by
    cases secret with
    | none =>
      cases hc₂
      exact .refl c₁
    | some secret =>
      obtain ⟨parsed, _, hc₂⟩ := bind_ok hc₂
      cases hc₂
      have hpause := pause_quiet c₁
      exact ⟨⟨hpause.id, hpause.provider, hpause.mode, hpause.credentials, hpause.status, hpause.checked⟩, hpause.preferred⟩
  refine ⟨c, _, (get_ok hget).1, (get_ok hget).2, rfl, ?_⟩
  cases credentials with
  | none =>
    cases hc₁
    exact ⟨hsecret.id, hsecret.provider, hsecret.mode, hsecret.preferred, hsecret.checked, hsecret.credentials, hsecret.status⟩
  | some raw =>
    obtain ⟨parsed, hparsed, hc₁⟩ := bind_ok hc₁
    cases hc₁
    have hpause := pause_quiet c
    exact ⟨hsecret.id.trans hpause.id, hsecret.provider.trans hpause.provider, hsecret.mode.trans hpause.mode,
      fun hpref => hpause.preferred (hsecret.preferred hpref), hsecret.checked.trans hpause.checked,
      hsecret.credentials.trans (by rw [parseCredentials_ok hparsed]; rfl), hsecret.status⟩

/-! ### Verdicts -/

/-- A change that may touch the evidence, but neither the credentials nor, to its good, the preference. -/
structure ProviderConfig.Judged (c c' : ProviderConfig) : Prop where
  id : c'.id = c.id
  provider : c'.provider = c.provider
  mode : c'.mode = c.mode
  credentials : c'.credentials = c.credentials
  preferred : c'.isPreferred = true → c.isPreferred = true

theorem withVerdict_judged (c : ProviderConfig) (valid : Bool) (now : Time) : c.Judged (c.withVerdict valid now) := by
  have hpause := pause_quiet c
  cases valid with
  | true => exact ⟨rfl, rfl, rfl, rfl, fun h => h⟩
  | false => exact ⟨hpause.id, hpause.provider, hpause.mode, hpause.credentials, hpause.preferred⟩

theorem withVerdict_valid {valid : Bool} {now : Time} (h : (c.withVerdict valid now).credentialsStatus = .valid) :
    valid = true := by
  cases valid with
  | true => rfl
  | false => cases h

theorem withVerdict_checked (c : ProviderConfig) (valid : Bool) (now : Time) :
    (c.withVerdict valid now).lastCheckOk = c.lastCheckOk := by
  cases valid with
  | true => rfl
  | false => exact (pause_quiet c).checked

theorem recordCheck_ok {call : GatewayCall} {ok : Bool} (h : g.recordCheck call ok = some g') :
    ∃ c c', g.configs.get? call.configId = some c ∧ g'.settings = g.settings ∧ g'.configs = g.configs.replace c' ∧
      c.Judged c' ∧ c'.credentialsStatus = c.credentialsStatus ∧ c'.lastCheckOk = some ok := by
  obtain ⟨c, hget, h⟩ := Option.bind_eq_some_iff.mp h
  cases h
  exact ⟨c, _, hget, rfl, rfl, ⟨rfl, rfl, rfl, rfl, fun h => h⟩, rfl, rfl⟩

/-- A check without a test payment passes on a live gateway only, with credentials that were accepted. -/
theorem checksPass_skipped {check : CredentialCheck} {payment : CheckItem} {currency : Option String}
    (hskip : c.skippedPayment check = some payment)
    (hpass : checksPass (c.checkItems check currency (some payment)) = true) :
    c.mode = .live ∧ check.accepts c.mode = true := by
  unfold ProviderConfig.skippedPayment at hskip
  have hall := List.all_eq_true.mp hpass
  have haccepts : check.accepts c.mode = true := by
    have hitem := hall ⟨.credentials, passIf (check.accepts c.mode), true⟩ (by simp [ProviderConfig.checkItems])
    simpa [passIf] using hitem
  by_cases hlive : c.mode = .live
  · exact ⟨hlive, haccepts⟩
  · rw [if_neg hlive] at hskip
    obtain ⟨_, hskip⟩ := Option.ite_none_right_eq_some.mp hskip
    have hitem := hall payment (by simp [ProviderConfig.checkItems])
    rw [← Option.some.inj hskip] at hitem
    cases hitem

/-- What an answer about the credentials leaves in the row. -/
theorem answer_ok {call : GatewayCall} {sent : Option Credentials} {check : CredentialCheck}
    (h : g.answer call sent check = some g') :
    ∃ c c', g.configs.get? call.configId = some c ∧ g'.settings = g.settings ∧ g'.configs = g.configs.replace c' ∧
      c.Judged c' ∧ (c'.credentialsStatus = .valid → check.accepts c.mode = true) ∧
      (c'.lastCheckOk = some true → c.lastCheckOk = some true ∨
        call.whole = true ∧ c.mode = .live ∧ check.accepts c.mode = true) := by
  obtain ⟨c, hget, h⟩ := Option.bind_eq_some_iff.mp h
  set judged := c.withVerdict (check.accepts c.mode) g.now
  have hmove : c.Judged judged := withVerdict_judged c _ g.now
  have hvalid : judged.credentialsStatus = .valid → check.accepts c.mode = true := withVerdict_valid
  have hchecked : judged.lastCheckOk = c.lastCheckOk := withVerdict_checked c _ g.now
  by_cases hwhole : call.whole = true
  · rw [if_pos hwhole] at h
    cases hskip : judged.skippedPayment check with
    | none =>
      rw [hskip] at h
      cases h
      exact ⟨c, judged, hget, rfl, rfl, hmove, hvalid, fun hok => .inl (hchecked ▸ hok)⟩
    | some payment =>
      rw [hskip] at h
      obtain ⟨c₁, c₂, hget₁, hset, hconfigs, hmove₂, hstatus, hok⟩ := recordCheck_ok h
      have hkey : Keyed.key judged = call.configId := hmove.id.trans (Table.key_of_get? hget)
      have hsame : c₁ = judged := by
        have hfound := Table.get?_replace_self (t := g.configs) (q := judged) (by rw [hkey]; exact hget)
        rw [hkey] at hfound
        exact Option.some.inj (hget₁.symm.trans hfound)
      rw [hsame] at hmove₂ hstatus
      have hrows : (g.configs.replace judged).replace c₂ = g.configs.replace c₂ :=
        g.configs.replace_replace hmove₂.id.symm
      refine ⟨c, c₂, hget, hset, hconfigs.trans hrows, ?_, fun hv => hvalid (hstatus ▸ hv), fun hc => ?_⟩
      · exact ⟨hmove₂.id.trans hmove.id, hmove₂.provider.trans hmove.provider, hmove₂.mode.trans hmove.mode,
          hmove₂.credentials.trans hmove.credentials, fun hpref => hmove.preferred (hmove₂.preferred hpref)⟩
      · rw [hok] at hc
        have hpass := checksPass_skipped hskip (Option.some.inj hc)
        rw [hmove.mode] at hpass
        exact .inr ⟨hwhole, hpass⟩
  · rw [if_neg hwhole] at h
    cases h
    exact ⟨c, judged, hget, rfl, rfl, hmove, hvalid, fun hok => .inl (hchecked ▸ hok)⟩

/-! ### One step -/

/-- The configurations that may be preferred after the step. -/
def GatewayLabel.MayPrefer (g : Gateways) (x : ProviderConfig) : GatewayLabel → Prop
  | .op (.prefer configId) => x.id = configId ∧ ∃ c, g.configs.get? configId = some c ∧ c.mode = x.mode
  | .op (.activateLive configId _) => x.id = configId
  | .op (.enableDemo _) => x.provider = .demo
  | .op .deactivateLive => False
  | _ => ∃ c ∈ g.configs.rows, c.id = x.id ∧ c.mode = x.mode ∧ c.isPreferred = true

/-- The settings are switched on and off by their two operations only. -/
def GatewayLabel.Switches (g g' : Gateways) : GatewayLabel → Prop
  | .op (.activateLive configId _) =>
    (∃ c, g.configs.get? configId = some c ∧ c.activationBlockers g.livePaymentsEnabled g.now = []) ∧
      g'.settings.livePaymentsActive = true ∧ g'.settings.liveActivatedConfigId = some configId
  | .op .deactivateLive => g'.settings.livePaymentsActive = false
  | _ => g'.settings = g.settings

/-- The step stores these credentials. -/
def GatewayLabel.Rotates (configId : Id) (credentials : Option Credentials) (l : GatewayLabel) : Prop :=
  ∃ raw secret, l = .op (.rotate configId (some raw) secret) ∧ credentials = some raw

/-- The step writes the verdict that `sent` is good. -/
def GatewayLabel.Accepts (g : Gateways) (c : ProviderConfig) (sent : Option Credentials) (l : GatewayLabel) : Prop :=
  ∃ callId check call, l = .answer callId check ∧ g.calls.get? callId = some call ∧ call.configId = c.id ∧
    call.phase = .validating sent ∧ check.accepts c.mode = true

/-- The step ends a gateway check that passed: its validation was made with `sent`, and its test payment,
    if there was one, with `paid`. -/
inductive GatewayLabel.Passes (g : Gateways) (c : ProviderConfig) :
    Option Credentials → Option Credentials → GatewayLabel → Prop
  | live {callId : Nat} {check : CredentialCheck} {call : GatewayCall} {sent : Option Credentials}
      (hcall : g.calls.get? callId = some call) (hconfig : call.configId = c.id) (hwhole : call.whole = true)
      (hphase : call.phase = .validating sent) (hmode : c.mode = .live) (haccepts : check.accepts c.mode = true) :
      Passes g c sent sent (.answer callId check)
  | sandbox {callId : Nat} {call : GatewayCall} {sent paid : Option Credentials}
      (hcall : g.calls.get? callId = some call) (hconfig : call.configId = c.id)
      (hphase : call.phase = .testing sent paid true) : Passes g c sent paid (.testPayment callId true)

/-- What a step may do to the evidence of a configuration. -/
structure EvidenceMove (g : Gateways) (l : GatewayLabel) (c c' : ProviderConfig) : Prop where
  id : c'.id = c.id
  provider : c'.provider = c.provider
  credentials : c'.credentials = c.credentials ∨
    l.Rotates c.id c'.credentials ∧ c'.credentialsStatus = .unvalidated ∧ c'.lastCheckOk = c.lastCheckOk
  valid : c'.credentialsStatus = .valid → c.credentialsStatus = .valid ∨ ∃ sent, l.Accepts g c sent
  checked : c'.lastCheckOk = some true → c.lastCheckOk = some true ∨ ∃ sent paid, l.Passes g c sent paid

theorem ProviderConfig.Alike.move (h : c.Alike c') : EvidenceMove g l c c' where
  id := h.id
  provider := h.provider
  credentials := .inl h.credentials
  valid hvalid := .inl (h.status ▸ hvalid)
  checked hchecked := .inl (h.checked ▸ hchecked)

/-- What one step does to the settings and to the rows. -/
structure GatewayMove (g : Gateways) (l : GatewayLabel) (g' : Gateways) : Prop where
  settings : l.Switches g g'
  preferred : ∀ x ∈ g'.configs.rows, x.isPreferred = true → l.MayPrefer g x
  evidence : ∀ x ∈ g'.configs.rows, x.Unproved ∨ ∃ c ∈ g.configs.rows, EvidenceMove g l c x

/-- A quiet step, for a label that neither switches the settings nor gives the preference. -/
theorem QuietPut.move (h : QuietPut g g') (hset : g'.settings = g.settings → l.Switches g g')
    (hpref : ∀ x, (∃ c ∈ g.configs.rows, c.id = x.id ∧ c.mode = x.mode ∧ c.isPreferred = true) → l.MayPrefer g x) :
    GatewayMove g l g' where
  settings := hset h.1
  preferred x hx hp := by
    obtain ⟨c, hc, hquiet⟩ := h.stems hx
    exact hpref x ⟨c, hc, hquiet.id.symm, hquiet.mode.symm, hquiet.preferred hp⟩
  evidence x hx := by
    obtain ⟨c, hc, hquiet⟩ := h.stems hx
    exact .inr ⟨c, hc, hquiet.toAlike.move⟩

/-- A step that writes one row, given what it does to that row. -/
theorem GatewayMove.of_replace (hget : g.configs.get? c.id = some c) (hid : c'.id = c.id) (hmode : c'.mode = c.mode)
    (hpreferred : c'.isPreferred = true → c.isPreferred = true) (hconfigs : g'.configs = g.configs.replace c')
    (hset : l.Switches g g') (hmove : EvidenceMove g l c c')
    (hpref : ∀ x, (∃ c ∈ g.configs.rows, c.id = x.id ∧ c.mode = x.mode ∧ c.isPreferred = true) → l.MayPrefer g x) :
    GatewayMove g l g' where
  settings := hset
  preferred x hx hp := by
    rw [hconfigs] at hx
    rcases mem_put hget hid hx with rfl | hold
    · exact hpref x ⟨c, Table.mem_of_get? hget, hid.symm, hmode.symm, hpreferred hp⟩
    · exact hpref x ⟨x, hold, rfl, rfl, hp⟩
  evidence x hx := by
    rw [hconfigs] at hx
    rcases mem_put hget hid hx with rfl | hold
    · exact .inr ⟨c, Table.mem_of_get? hget, hmove⟩
    · exact .inr ⟨x, hold, (ProviderConfig.Alike.refl x).move⟩

theorem GatewayOp.run_move {o : GatewayOp} (h : o.run g = .ok g') : GatewayMove g (.op o) g' := by
  cases o with
  | create p mode raw secret currencies =>
    obtain ⟨hset, hrows⟩ := create_ok h
    refine ⟨hset, fun x hx hp => ?_, fun x hx => ?_⟩
    · rcases hrows x hx with ⟨_, hnot⟩ | hold
      · rw [hnot] at hp
        cases hp
      · exact ⟨x, hold, rfl, rfl, hp⟩
    · rcases hrows x hx with ⟨hnew, _⟩ | hold
      · exact .inl hnew
      · exact .inr ⟨x, hold, (ProviderConfig.Alike.refl x).move⟩
  | rotate configId credentials secret =>
    obtain ⟨c, c', hget, hid, rfl, hid', hprovider, hmode, hpref, hchecked, hnew⟩ := rotate_ok h
    refine .of_replace hget hid' hmode hpref rfl rfl ?_ fun _ h => h
    cases credentials with
    | none =>
      exact ⟨hid', hprovider, .inl hnew.1, fun hv => .inl (hnew.2 ▸ hv), fun hc => .inl (hchecked ▸ hc)⟩
    | some raw =>
      refine ⟨hid', hprovider, .inr ⟨⟨raw, secret, by rw [hid], hnew.1⟩, hnew.2, hchecked⟩, fun hv => ?_, fun hc => .inl (hchecked ▸ hc)⟩
      rw [hnew.2] at hv
      cases hv
  | retirePreviousWebhookSecret configId => exact (retirePreviousWebhookSecret_quiet h).move id fun _ h => h
  | setCurrencies configId currencies => exact (setCurrencies_quiet h).move id fun _ h => h
  | enable configId => exact (enable_quiet h).move id fun _ h => h
  | disable configId => exact (disable_ok h).move id fun _ h => h
  | attest configId kind => exact (attest_quiet h).move id fun _ h => h
  | disableDemo => exact (disableDemo_quiet h).move id fun _ h => h
  | markWebhookVerified configId secret => exact (markWebhookVerified_quiet h).move id fun _ h => h
  | prefer configId =>
    refine ⟨prefer_settings h, fun x hx hp => ?_, fun x hx => ?_⟩
    · obtain ⟨⟨c, hc, halike⟩, hid⟩ := prefer_rows h hx
      have hget := Table.get?_of_mem hc
      rw [show Keyed.key c = configId from halike.id.symm.trans (hid hp)] at hget
      exact ⟨hid hp, c, hget, halike.mode.symm⟩
    · obtain ⟨c, hc, halike⟩ := (prefer_rows h hx).1
      exact .inr ⟨c, hc, halike.move⟩
  | enableDemo random =>
    obtain ⟨hset, hrows⟩ := enableDemo_ok h
    refine ⟨hset, fun x hx => (hrows x hx).2, fun x hx => ?_⟩
    rcases (hrows x hx).1 with hnew | ⟨c, hc, halike⟩
    · exact .inl hnew
    · exact .inr ⟨c, hc, halike.move⟩
  | activateLive configId confirmation =>
    obtain ⟨c, hget, hblockers, hactive, hconfig, hrows⟩ := activateLive_ok h
    refine ⟨⟨⟨c, hget, hblockers⟩, hactive, hconfig⟩, fun x hx => (hrows x hx).2, fun x hx => ?_⟩
    obtain ⟨c, hc, halike⟩ := (hrows x hx).1
    exact .inr ⟨c, hc, halike.move⟩
  | deactivateLive =>
    obtain ⟨hset, hrows⟩ := deactivateLive_ok h
    refine ⟨hset, fun x hx hp => ?_, fun x hx => ?_⟩
    · obtain ⟨_, _, _, hnot⟩ := hrows x hx
      rw [hnot] at hp
      cases hp
    · obtain ⟨c, hc, halike, _⟩ := hrows x hx
      exact .inr ⟨c, hc, halike.move⟩

theorem gatewayStep_move (hstep : gatewayStep g l = some g') : GatewayMove g l g' := by
  cases l with
  | op o =>
    have hrun : o.run g = .ok g' := by
      simp only [gatewayStep] at hstep
      cases hres : o.run g with
      | error e => rw [hres] at hstep; cases hstep
      | ok g₁ => rw [hres] at hstep; cases hstep; rfl
    exact GatewayOp.run_move hrun
  | validate configId =>
    obtain ⟨c, _, hstep⟩ := Option.bind_eq_some_iff.mp hstep
    obtain ⟨_, hstep⟩ := Option.ite_none_right_eq_some.mp hstep
    obtain ⟨calls, _, hstep⟩ := Option.bind_eq_some_iff.mp hstep
    cases hstep
    exact QuietPut.move ⟨rfl, .inl rfl⟩ id fun _ h => h
  | runChecks configId =>
    obtain ⟨c, _, hstep⟩ := Option.bind_eq_some_iff.mp hstep
    obtain ⟨_, hstep⟩ := Option.ite_none_right_eq_some.mp hstep
    obtain ⟨calls, _, hstep⟩ := Option.bind_eq_some_iff.mp hstep
    cases hstep
    exact QuietPut.move ⟨rfl, .inl rfl⟩ id fun _ h => h
  | answer callId check =>
    obtain ⟨call, hcall, hstep⟩ := Option.bind_eq_some_iff.mp hstep
    cases hphase : call.phase with
    | testing sent paid others =>
      rw [hphase] at hstep
      cases hstep
    | validating sent =>
      rw [hphase] at hstep
      obtain ⟨c, c', hget, hset, hconfigs, hmove, hvalid, hchecked⟩ := answer_ok hstep
      have hid : c.id = call.configId := Table.key_of_get? hget
      rw [← hid] at hget
      refine .of_replace hget hmove.id hmove.mode hmove.preferred hconfigs hset ?_ fun _ h => h
      refine ⟨hmove.id, hmove.provider, .inl hmove.credentials, fun hv => ?_, fun hc => ?_⟩
      · exact .inr ⟨sent, callId, check, call, rfl, hcall, hid.symm, hphase, hvalid hv⟩
      · rcases hchecked hc with hold | ⟨hwhole, hlive, haccepts⟩
        · exact .inl hold
        · exact .inr ⟨sent, sent, .live hcall hid.symm hwhole hphase hlive haccepts⟩
  | testPayment callId accepted =>
    obtain ⟨call, hcall, hstep⟩ := Option.bind_eq_some_iff.mp hstep
    cases hphase : call.phase with
    | validating sent =>
      rw [hphase] at hstep
      cases hstep
    | testing sent paid others =>
      rw [hphase] at hstep
      obtain ⟨c, c', hget, hset, hconfigs, hmove, hstatus, hok⟩ := recordCheck_ok hstep
      have hid : c.id = call.configId := Table.key_of_get? hget
      rw [← hid] at hget
      refine .of_replace hget hmove.id hmove.mode hmove.preferred hconfigs hset ?_ fun _ h => h
      refine ⟨hmove.id, hmove.provider, .inl hmove.credentials, fun hv => .inl (hstatus ▸ hv), fun hc => ?_⟩
      rw [hok, Option.some.injEq, Bool.and_eq_true] at hc
      obtain ⟨rfl, rfl⟩ := hc
      exact .inr ⟨sent, paid, .sandbox hcall hid.symm hphase⟩
  | drop callId =>
    obtain ⟨call, _, hstep⟩ := Option.bind_eq_some_iff.mp hstep
    cases hstep
    exact QuietPut.move ⟨rfl, .inl rfl⟩ id fun _ h => h
  | deploy livePaymentsEnabled =>
    cases hstep
    exact QuietPut.move ⟨rfl, .inl rfl⟩ id fun _ h => h
  | storeCurrency currency =>
    cases hstep
    exact QuietPut.move ⟨rfl, .inl rfl⟩ id fun _ h => h
  | tick d =>
    cases hstep
    exact QuietPut.move ⟨rfl, .inl rfl⟩ id fun _ h => h

/-! ### The live gateway -/

section LiveGateway

variable {g₀ g₂ : Gateways} {tr tr' : List (Taken Gateways GatewayLabel)}

def GatewayLabel.isSwitch : GatewayLabel → Bool
  | .op (.activateLive ..) => true
  | .op .deactivateLive => true
  | _ => false

def GatewayLabel.activates : GatewayLabel → Bool
  | .op (.activateLive ..) => true
  | _ => false

/-- What an administrator must have done before live payments are activated. -/
structure ProviderConfig.ReadyForLive (c : ProviderConfig) (now : Time) : Prop where
  live : c.mode = .live
  enabled : c.status = .enabled
  valid : c.credentialsStatus = .valid
  webhook : c.webhookVerified = true
  sandbox : c.sandboxVerifiedAt.isSome = true
  review : c.productionReviewAt.isSome = true
  checked : c.lastCheckOk = some true
  recent : ∃ checkedAt, c.lastCheckAt = some checkedAt ∧ now - checkedAt ≤ ProviderConfig.checkMaxAge

theorem not_mem_useBlockers (c : ProviderConfig) : .livePaymentsDisabledOnThisDeployment ∉ c.useBlockers := by
  unfold ProviderConfig.useBlockers
  by_cases h : c.enabledCurrencies = []
  · cases c.credentials <;> cases c.credentialsStatus <;> simp [h]
  · cases c.credentials <;> cases c.credentialsStatus <;> simp [h]

theorem not_mem_liveBlockers (c : ProviderConfig) :
    .livePaymentsDisabledOnThisDeployment ∉ c.liveBlockers true := by
  unfold ProviderConfig.liveBlockers
  cases c.mode <;> cases c.webhookSecret <;> cases c.webhookVerified <;> cases c.sandboxVerifiedAt <;>
    cases c.productionReviewAt <;> simp

theorem readyForLive_of_blockers {deployed : Bool} {now : Time} (h : c.activationBlockers deployed now = []) :
    c.ReadyForLive now := by
  unfold ProviderConfig.activationBlockers at h
  by_cases hmode : c.mode = .live
  · simp only [hmode, ne_eq, not_true_eq_false, if_false, List.append_eq_nil_iff] at h
    obtain ⟨⟨hfirst, hlive⟩, hcheck⟩ := h
    by_cases henabled : c.status = .enabled
    · simp only [henabled, not_true_eq_false, if_false] at hfirst hlive
      have hdeployed : deployed = true := by
        cases deployed with
        | true => rfl
        | false => cases hfirst
      subst hdeployed
      have hready : (c.readiness true).2 = [] := by
        refine List.eq_nil_iff_forall_not_mem.mpr fun b hb => ?_
        have hb' := List.filter_eq_nil_iff.mp hlive b hb
        simp only [if_true, List.not_mem_nil, not_false_eq_true, true_and, decide_eq_true_eq, not_not] at hb'
        subst hb'
        rcases List.mem_append.mp hb with huse | hlive
        · exact not_mem_useBlockers c huse
        · exact not_mem_liveBlockers c (List.mem_filter.mp hlive).1
      obtain ⟨huse, hlive⟩ := ProviderConfig.readiness_live_eq_nil.mp hready
      obtain ⟨_, hvalid, _⟩ := ProviderConfig.useBlockers_eq_nil.mp huse
      obtain ⟨_, _, _, hwebhook, hsandbox, hreview⟩ := ProviderConfig.liveBlockers_eq_nil.mp hlive
      cases hat : c.lastCheckAt with
      | none => simp [hat] at hcheck
      | some checkedAt =>
        cases hok : c.lastCheckOk with
        | none => simp [hat, hok] at hcheck
        | some ok =>
          cases ok with
          | false => simp [hat, hok] at hcheck
          | true =>
            simp only [hat, hok, Bool.true_eq_false, if_false, ite_eq_right_iff, reduceCtorEq, imp_false, not_lt] at hcheck
            exact ⟨hmode, henabled, hvalid, hwebhook, hsandbox, hreview, hok, checkedAt, hat, hcheck⟩
    · simp [henabled] at hfirst
  · simp [hmode] at h

/-- The last switch of live payments activated this configuration, when it was ready for that. -/
def Activated (configId : Id) (tr : List (Taken Gateways GatewayLabel)) : Prop :=
  ∃ later x earlier confirmation c, tr = later ++ x :: earlier ∧ x.label = .op (.activateLive configId confirmation) ∧
    x.pre.configs.get? configId = some c ∧ c.activationBlockers x.pre.livePaymentsEnabled x.pre.now = [] ∧
    c.ReadyForLive x.pre.now ∧ ∀ t ∈ later, t.label.isSwitch = false

/-- While live payments are active, a live configuration other than the activated one is made the preferred one. -/
def PrefersOther (t : Taken Gateways GatewayLabel) : Prop :=
  ∃ configId c, t.label = .op (.prefer configId) ∧ t.pre.configs.get? configId = some c ∧ c.mode = .live ∧
    t.pre.settings.livePaymentsActive = true ∧ t.pre.settings.liveActivatedConfigId ≠ some configId

theorem Activated.append (h : Activated configId tr) (hquiet : ∀ t ∈ tr', t.label.isSwitch = false) :
    Activated configId (tr' ++ tr) := by
  obtain ⟨later, x, earlier, confirmation, c, rfl, hx, hget, hblockers, hready, hlater⟩ := h
  refine ⟨tr' ++ later, x, earlier, confirmation, c, (List.append_assoc ..).symm, hx, hget, hblockers, hready, ?_⟩
  intro t ht
  rcases List.mem_append.mp ht with ht | ht
  · exact hquiet t ht
  · exact hlater t ht

/-- While live payments are active, the preferred live configuration is the activated one. -/
def LiveInv (tr : List (Taken Gateways GatewayLabel)) (g : Gateways) : Prop :=
  g.settings.livePaymentsActive = true → ∃ configId, g.settings.liveActivatedConfigId = some configId ∧
    Activated configId tr ∧ ∀ x ∈ g.configs.rows, x.isPreferred = true → x.mode = .live → x.id = configId

/-- A step that is no switch keeps it. -/
theorem LiveInv.unswitched (h : LiveInv tr g) (hswitch : l.isSwitch = false) (hset : g'.settings = g.settings)
    (hrows : g.settings.livePaymentsActive = true → ∀ x ∈ g'.configs.rows, x.isPreferred = true → x.mode = .live →
      g.settings.liveActivatedConfigId = some x.id ∨
        ∃ c ∈ g.configs.rows, c.id = x.id ∧ c.mode = x.mode ∧ c.isPreferred = true) : LiveInv (⟨g, l, g'⟩ :: tr) g' := by
  intro hactive
  rw [hset] at hactive
  obtain ⟨configId, hconfig, hactivated, hpreferred⟩ := h hactive
  have hone : ∀ t ∈ [(⟨g, l, g'⟩ : Taken Gateways GatewayLabel)], t.label.isSwitch = false := by
    intro t ht
    rw [List.mem_singleton.mp ht]
    exact hswitch
  refine ⟨configId, hset ▸ hconfig, hactivated.append hone, fun x hx hp hmode => ?_⟩
  rcases hrows hactive x hx hp hmode with hid | ⟨c, hc, hid, hmode', hp'⟩
  · exact Option.some.inj (hid.symm.trans hconfig)
  · exact hid.symm.trans (hpreferred c hc hp' (hmode'.trans hmode))

theorem LiveInv.step (hstep : gatewayStep g l = some g') (hother : ¬PrefersOther ⟨g, l, g'⟩) (h : LiveInv tr g) :
    LiveInv (⟨g, l, g'⟩ :: tr) g' := by
  have hmove := gatewayStep_move hstep
  cases l with
  | op o =>
    cases o with
    | activateLive configId confirmation =>
      obtain ⟨⟨c, hget, hblockers⟩, _, hconfig⟩ := hmove.settings
      intro _
      refine ⟨configId, hconfig, ?_, fun x hx hp _ => hmove.preferred x hx hp⟩
      refine ⟨[], _, tr, confirmation, c, rfl, rfl, hget, hblockers, readyForLive_of_blockers hblockers, ?_⟩
      exact fun t ht => absurd ht List.not_mem_nil
    | deactivateLive =>
      intro hactive
      rw [show g'.settings.livePaymentsActive = false from hmove.settings] at hactive
      cases hactive
    | prefer configId =>
      refine h.unswitched rfl hmove.settings fun hactive x hx hp hmode => .inl ?_
      obtain ⟨hid, c, hget, hmode'⟩ := hmove.preferred x hx hp
      by_contra hne
      rw [hid] at hne
      exact hother ⟨configId, c, rfl, hget, hmode'.trans hmode, hactive, hne⟩
    | enableDemo random =>
      refine h.unswitched rfl hmove.settings fun _ x hx hp hmode => ?_
      have htest := x.demo_is_test (hmove.preferred x hx hp)
      rw [htest] at hmode
      cases hmode
    | _ => exact h.unswitched rfl hmove.settings fun _ x hx hp _ => .inr (hmove.preferred x hx hp)
  | _ => exact h.unswitched rfl hmove.settings fun _ x hx hp _ => .inr (hmove.preferred x hx hp)

theorem liveInv_of_run (hinit : g₀.Initial) (hrun : GatewayRun g₀ tr g) (hother : ∀ t ∈ tr, ¬PrefersOther t) :
    LiveInv tr g := by
  induction hrun with
  | nil =>
    intro hactive
    rw [hinit.inactive] at hactive
    cases hactive
  | cons run hs ih =>
    exact (ih fun t ht => hother t (List.mem_cons_of_mem _ ht)).step hs (hother _ (List.mem_cons_self ..))

/-- Live payments that are active after steps without an activation were active all the time. -/
theorem active_before (hrun : GatewayRun g₀ tr g) (hquiet : ∀ t ∈ tr, t.label.activates = false)
    (hactive : g.settings.livePaymentsActive = true) :
    g₀.settings.livePaymentsActive = true ∧ ∀ t ∈ tr, t.label.isSwitch = false := by
  induction hrun with
  | nil => exact ⟨hactive, fun t ht => absurd ht List.not_mem_nil⟩
  | @cons tr g g' l run hs ih =>
    have hset := (gatewayStep_move hs).settings
    have hlast : l.activates = false := hquiet _ (List.mem_cons_self ..)
    have hswitch : l.isSwitch = false ∧ g'.settings = g.settings := by
      cases l with
      | op o =>
        cases o with
        | activateLive configId confirmation => cases hlast
        | deactivateLive =>
          rw [show g'.settings.livePaymentsActive = false from hset] at hactive
          cases hactive
        | _ => exact ⟨rfl, hset⟩
      | _ => exact ⟨rfl, hset⟩
    rw [hswitch.2] at hactive
    obtain ⟨hbefore, hall⟩ := ih (fun t ht => hquiet t (List.mem_cons_of_mem _ ht)) hactive
    refine ⟨hbefore, fun t ht => ?_⟩
    rcases List.mem_cons.mp ht with rfl | ht
    · exact hswitch.1
    · exact hall t ht

theorem selectForNewPayment_ok {liveActive : Bool} {currency : String}
    (h : g.selectForNewPayment liveActive currency = .ok c) :
    c ∈ g.configs.rows ∧ c.isPreferred = true ∧ c.status = .enabled ∧ c.credentialsStatus = .valid ∧
      (c.mode = .live → liveActive = true) := by
  obtain ⟨c₁, hfind, h⟩ := need_bind_ok h
  obtain ⟨henabled, h⟩ := require_bind_ok h
  obtain ⟨hvalid, h⟩ := require_bind_ok h
  obtain ⟨_, h⟩ := require_bind_ok h
  obtain ⟨hlive, h⟩ := require_bind_ok h
  obtain ⟨_, h⟩ := require_bind_ok h
  cases h
  exact ⟨List.mem_of_find?_eq_some hfind, by simpa using List.find?_some hfind, henabled, hvalid, hlive⟩

/-- Only an activated gateway takes real money: if no other live gateway is made the preferred one while live
    payments are active, and none is activated between the two reads of the selection, then a live configuration
    that is selected is the one that the last switch of live payments activated, when it was ready. -/
theorem live_gateway_activated (hinit : g₀.Initial) (hrun : GatewayRun g₀ tr g) (hother : ∀ t ∈ tr, ¬PrefersOther t)
    (hread : GatewayRun g tr' g₂) (hquiet : ∀ t ∈ tr', t.label.activates = false) {currency : String}
    (hselect : g.selectForNewPayment g₂.liveActive currency = .ok c) (hlive : c.mode = .live) :
    Activated c.id (tr' ++ tr) := by
  obtain ⟨hmem, hpreferred, _, _, hmust⟩ := selectForNewPayment_ok hselect
  have hflags := hmust hlive
  unfold Gateways.liveActive at hflags
  rw [Bool.and_eq_true] at hflags
  obtain ⟨hactive, hswitches⟩ := active_before hread hquiet hflags.2
  obtain ⟨configId, _, hactivated, hrows⟩ := liveInv_of_run hinit hrun hother hactive
  rw [hrows c hmem hpreferred hlive]
  exact hactivated.append hswitches

/-! A store that sells in rupees and sets up two live gateways; only the first is activated. -/

def stripeKeys : Credentials := ⟨some "sk_live_1", none, none⟩

def razorpayKeys : Credentials := ⟨none, some "rzp_live_1", some "secret"⟩

def rupeeStore : Gateways where
  configs := .empty
  settings := ⟨false, none, none, none⟩
  calls := .empty
  next := 0
  livePaymentsEnabled := true
  storeCurrency := some "inr"
  now := 0

theorem rupeeStore_initial : rupeeStore.Initial := ⟨rfl, rfl, rfl⟩

/-- Creating a live gateway, up to the moment it is enabled. -/
def setUpLive (configId : Id) (p : Provider) (keys : Credentials) : List GatewayLabel :=
  [.op (.create p .live keys (some "whsec_12") none), .validate configId, .answer (configId + 1) ⟨true, some .live⟩,
    .op (.markWebhookVerified configId "whsec_12"), .op (.attest configId .sandboxVerified),
    .op (.attest configId .productionReview), .op (.enable configId)]

def activateStripe : List GatewayLabel :=
  setUpLive 0 .stripe stripeKeys ++
    [.runChecks 0, .answer 2 ⟨true, some .live⟩, .op (.activateLive 0 "ACTIVATE LIVE PAYMENTS")]

def GatewayLabel.prefers : GatewayLabel → Bool
  | .op (.prefer _) => true
  | _ => false

def GatewayLabel.activated : GatewayLabel → Option Id
  | .op (.activateLive configId _) => some configId
  | _ => none

/-- The selection of a store, as far as the examples look at it. -/
def Gateways.selected (g : Gateways) (currency : String) : Option ProviderConfig :=
  (g.selectForNewPayment g.liveActive currency).toOption

theorem selected_eq_some {currency : String} (h : g.selected currency = some c) :
    g.selectForNewPayment g.liveActive currency = .ok c := by
  unfold Gateways.selected at h
  cases hselect : g.selectForNewPayment g.liveActive currency with
  | error e => rw [hselect] at h; cases h
  | ok c₁ => rw [hselect] at h; cases h; rfl

theorem live_gateway_activated_stripe : ∃ tr g c, GatewayRun rupeeStore tr g ∧
    g.selectForNewPayment g.liveActive "inr" = .ok c ∧ c.mode = .live ∧ Activated c.id tr := by
  obtain ⟨tr, g, hrun, hselected, hprefers⟩ := exists_exec gatewayStep rupeeStore
    (P := fun tr g => (g.selected "inr").any (fun c => c.mode = .live) = true ∧
      ∀ t ∈ tr, t.label.prefers = false) activateStripe (by decide)
  obtain ⟨c, hc, hlive⟩ := (Option.any_eq_true ..).mp hselected
  rw [decide_eq_true_eq] at hlive
  have hother : ∀ t ∈ tr, ¬PrefersOther t := by
    rintro t ht ⟨configId, c, hl, _⟩
    have hnot := hprefers t ht
    rw [hl] at hnot
    cases hnot
  have hselect := selected_eq_some hc
  have hread : GatewayRun g [] g := .nil
  have hactivated := live_gateway_activated rupeeStore_initial hrun hother hread
    (fun t ht => absurd ht List.not_mem_nil) hselect hlive
  exact ⟨tr, g, c, hrun, hselect, hlive, hactivated⟩

/-- Razorpay is preferred while Stripe is the activated gateway: it takes real money, though it was never
    activated and never passed a gateway check. -/
theorem unactivated_gateway_selected : ∃ tr g c, GatewayRun rupeeStore tr g ∧
    g.selectForNewPayment g.liveActive "inr" = .ok c ∧ c.mode = .live ∧ c.lastCheckOk = none ∧ ¬Activated c.id tr := by
  obtain ⟨tr, g, hrun, hselected, hactivated⟩ := exists_exec gatewayStep rupeeStore
    (P := fun tr g => (g.selected "inr").any (fun c => c.mode = .live ∧ c.lastCheckOk = none ∧ c.id = 3) = true ∧
      ∀ t ∈ tr, t.label.activated ≠ some 3)
    (activateStripe ++ setUpLive 3 .razorpay razorpayKeys ++ [.op (.prefer 3)]) (by decide)
  obtain ⟨c, hc, hlive⟩ := (Option.any_eq_true ..).mp hselected
  rw [decide_eq_true_eq] at hlive
  refine ⟨tr, g, c, hrun, selected_eq_some hc, hlive.1, hlive.2.1, ?_⟩
  rintro ⟨later, x, earlier, confirmation, c', rfl, hx, _⟩
  refine hactivated x (by simp) ?_
  rw [hx, hlive.2.2]
  rfl

end LiveGateway

/-! ### Evidence -/

section Evidence

variable {g₀ : Gateways} {tr : List (Taken Gateways GatewayLabel)} {credentials : Option Credentials}

/-- A validation made with these credentials succeeded, and its verdict was written by this step. -/
def Validated (configId : Id) (credentials : Option Credentials) (t : Taken Gateways GatewayLabel) : Prop :=
  ∃ c, t.pre.configs.get? configId = some c ∧ t.label.Accepts t.pre c credentials

/-- A whole gateway check made with these credentials passed, and this step wrote that. -/
def Checked (configId : Id) (credentials : Option Credentials) (t : Taken Gateways GatewayLabel) : Prop :=
  ∃ c, t.pre.configs.get? configId = some c ∧ t.label.Passes t.pre c credentials credentials

/-- The step gives credentials evidence that was gathered with others: it replaces credentials whose last check
    passed, or it writes that a validation or a check succeeded that was made with other credentials than are stored. -/
def Misattributes (configId : Id) (t : Taken Gateways GatewayLabel) : Prop :=
  ∃ c, t.pre.configs.get? configId = some c ∧
    ((c.lastCheckOk = some true ∧ ∃ other, t.label.Rotates configId other ∧ other ≠ c.credentials) ∨
      (∃ sent, t.label.Accepts t.pre c sent ∧ sent ≠ c.credentials) ∨
      ∃ sent paid, t.label.Passes t.pre c sent paid ∧ ¬(sent = c.credentials ∧ paid = c.credentials))

/-- The evidence that a configuration claims was gathered with the credentials it has. -/
def Proved (tr : List (Taken Gateways GatewayLabel)) (c : ProviderConfig) : Prop :=
  (c.provider ≠ .demo → c.credentialsStatus = .valid → ∃ t ∈ tr, Validated c.id c.credentials t) ∧
    (c.lastCheckOk = some true → ∃ t ∈ tr, Checked c.id c.credentials t)

theorem Passes.not_rotates {sent paid other : Option Credentials} (h : l.Passes g c sent paid) :
    ¬l.Rotates configId other := by
  rintro ⟨raw, secret, rfl, _⟩
  cases h

theorem Proved.step (hstep : gatewayStep g l = some g') (hcalm : ¬Misattributes configId ⟨g, l, g'⟩)
    (h : ∀ c ∈ g.configs.rows, c.id = configId → Proved tr c) (hx : x ∈ g'.configs.rows) (hid : x.id = configId) :
    Proved (⟨g, l, g'⟩ :: tr) x := by
  rcases (gatewayStep_move hstep).evidence x hx with hnew | ⟨c, hc, hmove⟩
  · refine ⟨fun hdemo hvalid => ?_, fun hok => ?_⟩
    · rw [hnew.status hdemo] at hvalid
      cases hvalid
    · rw [hnew.unchecked] at hok
      cases hok
  · have hcid : c.id = configId := hmove.id.symm.trans hid
    have hget : g.configs.get? configId = some c := by
      rw [← hcid]
      exact Table.get?_of_mem hc
    obtain ⟨hold, hcheck⟩ := h c hc hcid
    constructor
    · intro hdemo hvalid
      have hsame : x.credentials = c.credentials := by
        rcases hmove.credentials with hsame | ⟨_, hstatus, _⟩
        · exact hsame
        · rw [hstatus] at hvalid
          cases hvalid
      rw [hmove.id, hsame]
      rcases hmove.valid hvalid with hbefore | ⟨sent, haccepts⟩
      · obtain ⟨t, ht, hproof⟩ := hold (hmove.provider ▸ hdemo) hbefore
        exact ⟨t, List.mem_cons_of_mem _ ht, hproof⟩
      · have hsent : sent = c.credentials := by
          by_contra hne
          exact hcalm ⟨c, hget, .inr (.inl ⟨sent, haccepts, hne⟩)⟩
        rw [hsent] at haccepts
        exact ⟨_, List.mem_cons_self .., c, hcid ▸ hget, haccepts⟩
    · intro hok
      rcases hmove.checked hok with hbefore | ⟨sent, paid, hpasses⟩
      · have hsame : x.credentials = c.credentials := by
          rcases hmove.credentials with hsame | ⟨hrotates, _, _⟩
          · exact hsame
          · by_contra hne
            exact hcalm ⟨c, hget, .inl ⟨hbefore, x.credentials, hcid ▸ hrotates, hne⟩⟩
        obtain ⟨t, ht, hproof⟩ := hcheck hbefore
        rw [hmove.id, hsame]
        exact ⟨t, List.mem_cons_of_mem _ ht, hproof⟩
      · have hsame : x.credentials = c.credentials := by
          rcases hmove.credentials with hsame | ⟨hrotates, _, _⟩
          · exact hsame
          · exact absurd hrotates (Passes.not_rotates hpasses)
        have hboth : sent = c.credentials ∧ paid = c.credentials := by
          by_contra hne
          exact hcalm ⟨c, hget, .inr (.inr ⟨sent, paid, hpasses, hne⟩)⟩
        rw [hboth.1, hboth.2] at hpasses
        rw [hmove.id, hsame]
        exact ⟨_, List.mem_cons_self .., c, hcid ▸ hget, hpasses⟩

/-- In a run that never gives credentials the evidence of others, `valid` means that a validation with the stored
    credentials succeeded, and a passed check that the whole check was made with them. -/
theorem evidence_of_current_credentials (hinit : g₀.Initial) (hrun : GatewayRun g₀ tr g)
    (hcalm : ∀ t ∈ tr, ¬Misattributes configId t) (hget : g.configs.get? configId = some c) :
    (c.provider ≠ .demo → c.credentialsStatus = .valid → ∃ t ∈ tr, Validated configId c.credentials t) ∧
      (c.lastCheckOk = some true → ∃ t ∈ tr, Checked configId c.credentials t) := by
  have hall : ∀ x ∈ g.configs.rows, x.id = configId → Proved tr x := by
    clear hget
    induction hrun with
    | nil =>
      intro x hx
      rw [hinit.configs] at hx
      cases hx
    | cons run hs ih =>
      intro x hx hid
      exact Proved.step hs (hcalm _ (List.mem_cons_self ..))
        (ih fun t ht => hcalm t (List.mem_cons_of_mem _ ht)) hx hid
  have hid : c.id = configId := Table.key_of_get? hget
  have hproved := hall c (Table.mem_of_get? hget) hid
  unfold Proved at hproved
  rw [hid] at hproved
  exact hproved

/-! Two keys of a Stripe sandbox: every call below is made with the first. -/

def firstKey : Credentials := ⟨some "sk_test_1", none, none⟩

def secondKey : Credentials := ⟨some "sk_test_2", none, none⟩

def GatewayPhase.uses (credentials : Option Credentials) : GatewayPhase → Bool
  | .validating sent => sent = credentials
  | .testing sent paid _ => sent = credentials && paid = credentials

/-- Every call that is open before the step works with these credentials. -/
def CallsUse (credentials : Option Credentials) (t : Taken Gateways GatewayLabel) : Prop :=
  ∀ call ∈ t.pre.calls.rows, call.phase.uses credentials = true

instance (t : Taken Gateways GatewayLabel) : Decidable (CallsUse credentials t) := by
  unfold CallsUse
  infer_instance

theorem CallsUse.accepts {t : Taken Gateways GatewayLabel} {sent : Option Credentials} (h : CallsUse credentials t)
    (haccepts : t.label.Accepts t.pre c sent) : sent = credentials := by
  obtain ⟨callId, check, call, _, hcall, _, hphase, _⟩ := haccepts
  have huses := h call (Table.mem_of_get? hcall)
  rw [hphase] at huses
  simpa [GatewayPhase.uses] using huses

theorem CallsUse.passes {t : Taken Gateways GatewayLabel} {sent paid : Option Credentials} (h : CallsUse credentials t)
    (hpasses : t.label.Passes t.pre c sent paid) : sent = credentials ∧ paid = credentials := by
  obtain ⟨pre, label, post⟩ := t
  cases hpasses with
  | live hcall _ _ hphase _ _ =>
    have huses := h _ (Table.mem_of_get? hcall)
    rw [hphase] at huses
    simpa [GatewayPhase.uses] using huses
  | sandbox hcall _ hphase =>
    have huses := h _ (Table.mem_of_get? hcall)
    rw [hphase] at huses
    simpa [GatewayPhase.uses] using huses

def GatewayLabel.rotates : GatewayLabel → Bool
  | .op (.rotate ..) => true
  | _ => false

/-- A gateway check of the sandbox with the first key. -/
def checkStripe : List GatewayLabel :=
  [.op (.create .stripe .test firstKey (some "whsec_12") none), .runChecks 0, .answer 1 ⟨true, some .test⟩,
    .testPayment 1 true]

theorem evidence_of_current_credentials_checked : ∃ tr g c, GatewayRun rupeeStore tr g ∧ g.configs.get? 0 = some c ∧
    c.credentialsStatus = .valid ∧ c.lastCheckOk = some true ∧
    (∃ t ∈ tr, Validated 0 c.credentials t) ∧ ∃ t ∈ tr, Checked 0 c.credentials t := by
  obtain ⟨tr, g, hrun, hrow, hsteps⟩ := exists_exec gatewayStep rupeeStore
    (P := fun tr g => (g.configs.get? 0).any (fun c => c.provider ≠ .demo ∧ c.credentialsStatus = .valid ∧
        c.lastCheckOk = some true) = true ∧
      ∀ t ∈ tr, CallsUse (some firstKey) t ∧ t.label.rotates = false ∧
        ∀ c ∈ t.pre.configs.rows, c.credentials = some firstKey) checkStripe (by decide)
  obtain ⟨c, hget, hc⟩ := (Option.any_eq_true ..).mp hrow
  rw [decide_eq_true_eq] at hc
  have hcalm : ∀ t ∈ tr, ¬Misattributes 0 t := by
    rintro t ht ⟨row, hrow, hbad⟩
    obtain ⟨huse, hrotates, hkeys⟩ := hsteps t ht
    have hkey := hkeys row (Table.mem_of_get? hrow)
    rcases hbad with ⟨_, other, ⟨raw, secret, hl, _⟩, _⟩ | ⟨sent, haccepts, hne⟩ | ⟨sent, paid, hpasses, hne⟩
    · rw [hl] at hrotates
      cases hrotates
    · exact hne ((huse.accepts haccepts).trans hkey.symm)
    · rw [hkey] at hne
      exact hne (huse.passes hpasses)
  have hproved := evidence_of_current_credentials rupeeStore_initial hrun hcalm hget
  exact ⟨tr, g, c, hrun, hget, hc.2.1, hc.2.2, hproved.1 hc.1 hc.2.1, hproved.2 hc.2.2⟩

/-- A rotation overtakes a validation: its verdict about the old key is written over the new one. And the check that
    the old key passed stays passed after a rotation. -/
theorem rotation_inherits_evidence :
    (∃ tr g c, GatewayRun rupeeStore tr g ∧ g.configs.get? 0 = some c ∧ c.provider = .stripe ∧
      c.credentialsStatus = .valid ∧ ∀ t ∈ tr, ¬Validated 0 c.credentials t) ∧
    ∃ tr g c, GatewayRun rupeeStore tr g ∧ g.configs.get? 0 = some c ∧ c.provider = .stripe ∧
      c.lastCheckOk = some true ∧ ∀ t ∈ tr, ¬Checked 0 c.credentials t := by
  have hdiffer : some secondKey ≠ some firstKey := by decide
  constructor
  · obtain ⟨tr, g, hrun, hrow, hsteps⟩ := exists_exec gatewayStep rupeeStore
      (P := fun tr g => (g.configs.get? 0).any (fun c => c.provider = .stripe ∧ c.credentialsStatus = .valid ∧
        c.credentials = some secondKey) = true ∧ ∀ t ∈ tr, CallsUse (some firstKey) t)
      [.op (.create .stripe .test firstKey none none), .validate 0, .op (.rotate 0 (some secondKey) none),
        .answer 1 ⟨true, some .test⟩] (by decide)
    obtain ⟨c, hget, hc⟩ := (Option.any_eq_true ..).mp hrow
    rw [decide_eq_true_eq] at hc
    refine ⟨tr, g, c, hrun, hget, hc.1, hc.2.1, fun t ht hvalidated => ?_⟩
    obtain ⟨row, _, haccepts⟩ := hvalidated
    rw [hc.2.2] at haccepts
    exact hdiffer ((hsteps t ht).accepts haccepts)
  · obtain ⟨tr, g, hrun, hrow, hsteps⟩ := exists_exec gatewayStep rupeeStore
      (P := fun tr g => (g.configs.get? 0).any (fun c => c.provider = .stripe ∧ c.lastCheckOk = some true ∧
        c.credentials = some secondKey) = true ∧ ∀ t ∈ tr, CallsUse (some firstKey) t)
      (checkStripe ++ [.op (.rotate 0 (some secondKey) none)]) (by decide)
    obtain ⟨c, hget, hc⟩ := (Option.any_eq_true ..).mp hrow
    rw [decide_eq_true_eq] at hc
    refine ⟨tr, g, c, hrun, hget, hc.1, hc.2.1, fun t ht hchecked => ?_⟩
    obtain ⟨row, _, hpasses⟩ := hchecked
    rw [hc.2.2] at hpasses
    exact hdiffer ((hsteps t ht).passes hpasses).1

end Evidence

end NovaCart
