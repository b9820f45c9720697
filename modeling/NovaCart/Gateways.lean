import NovaCart.Payments
import NovaCart.Schemes.Run

/-! The store's payment gateways (`ProviderConfigService`, `PaymentModeService`, `ProviderResolver`).

    A configuration carries the CHECK constraints of its row, so every operation shows that it keeps
    them. A validation and a gateway check ask the provider with no transaction open: each is a call
    that lives across several steps, and anything else may commit in between. -/

namespace NovaCart

open Schemes

inductive GatewayMode
  | test | live
  deriving DecidableEq, Repr

inductive ConfigStatus
  | draft | enabled | disabled
  deriving DecidableEq, Repr

inductive CredentialsStatus
  | unvalidated | valid | invalid
  deriving DecidableEq, Repr

/-- The credential fields of a configuration, decrypted. -/
structure Credentials where
  secretKey : Option String
  keyId : Option String
  keySecret : Option String
  deriving DecidableEq, Repr

/-- A row of `payment_provider_configs` and its CHECK constraints. -/
structure ProviderConfig where
  id : Id
  provider : Provider
  mode : GatewayMode
  status : ConfigStatus
  isPreferred : Bool
  credentials : Option Credentials
  credentialsStatus : CredentialsStatus
  credentialsValidatedAt : Option Time
  webhookSecret : Option String
  previousWebhookSecret : Option String
  webhookVerified : Bool
  webhookVerifiedAt : Option Time
  currencies : List String
  sandboxVerifiedAt : Option Time
  productionReviewAt : Option Time
  lastCheckAt : Option Time
  lastCheckOk : Option Bool
  version : Nat
  preferred_enabled : isPreferred = true → status = .enabled
  demo_is_test : provider = .demo → mode = .test
  enabled_valid : status = .enabled → credentialsStatus = .valid ∧ credentials.isSome = true
  live_requirements : mode = .live → status = .enabled →
    webhookVerified = true ∧ sandboxVerifiedAt.isSome = true ∧ productionReviewAt.isSome = true

instance : Keyed ProviderConfig Id := ⟨ProviderConfig.id⟩

/-- What keeps a configuration from being used or activated. -/
inductive Blocker
  | credentialsNotSet | credentialsNotValidated | credentialsInvalid | noSupportedCurrencyEnabled
  | notALiveConfiguration | livePaymentsDisabledOnThisDeployment | webhookSecretNotSet | webhookNotVerified
  | sandboxVerificationNotRecorded | productionReviewNotRecorded | gatewayNotEnabled
  | gatewayCheckNotRun | gatewayCheckFailed | gatewayCheckOutOfDate | confirmationTextIncorrect
  | notEnabled | credentialsNotValid
  deriving DecidableEq, Repr

inductive GatewayErr
  | notFound
  | conflict (code message : String)
  | invalid (code message : String)
  | notReady (blockers : List Blocker)
  | liveActivationBlocked (blockers : List Blocker)
  | livePaymentsActive (what : String)
  | unavailable (code : String)
  deriving DecidableEq, Repr

abbrev GatewayResult (α : Type) := Except GatewayErr α

/-! ### Input handling -/

def startsWith (s p : String) : Bool := p.toList.isPrefixOf s.toList

def Provider.label : Provider → String
  | .demo => "Demo gateway (no real money)"
  | .stripe => "Stripe"
  | .razorpay => "Razorpay"

def Provider.credentialFields : Provider → List String
  | .demo => []
  | .stripe => ["secret_key"]
  | .razorpay => ["key_id", "key_secret"]

/-- Exactly the `credential_fields` of the provider are given. -/
def Provider.fieldsFit (c : Credentials) : Provider → Bool
  | .demo => c.secretKey.isNone && c.keyId.isNone && c.keySecret.isNone
  | .stripe => c.secretKey.isSome && c.keyId.isNone && c.keySecret.isNone
  | .razorpay => c.secretKey.isNone && c.keyId.isSome && c.keySecret.isSome

/-- `CREDENTIAL_PREFIXES`: the field that shows its mode, and how it starts in each. -/
def Provider.credentialPrefixes (mode : GatewayMode) :
    Provider → List (String × (Credentials → Option String) × List String)
  | .demo => []
  | .stripe => [("secret_key", Credentials.secretKey,
      match mode with
      | .test => ["sk_test_", "rk_test_"]
      | .live => ["sk_live_", "rk_live_"])]
  | .razorpay => [("key_id", Credentials.keyId,
      match mode with
      | .test => ["rzp_test_"]
      | .live => ["rzp_live_"])]

def GatewayMode.value : GatewayMode → String
  | .test => "test"
  | .live => "live"

/-- `parse_credentials`; a blank field was turned into none before. -/
def parseCredentials (p : Provider) (mode : GatewayMode) (raw : Credentials) : GatewayResult Credentials := do
  require (p.fieldsFit raw = true) (.invalid "credentials_fields_invalid"
    (p.label ++ " needs exactly these credential fields: " ++ ", ".intercalate p.credentialFields))
  for (field, value, starts) in p.credentialPrefixes mode do
    require (starts.any (startsWith ((value raw).getD ""))) (.invalid "credentials_mode_mismatch"
      ("The " ++ field ++ " does not look like a " ++ mode.value ++ "-mode " ++ p.label ++ " credential"))
  .ok raw

/-- `parse_webhook_secret`. -/
def parseWebhookSecret (p : Provider) (secret : String) : GatewayResult String := do
  require (8 ≤ secret.length ∧ (p = .stripe → startsWith secret "whsec_" = true))
    (.invalid "webhook_secret_invalid" ("That does not look like a " ++ p.label ++ " webhook signing secret"))
  .ok secret

/-- `_check_currencies`, on normalised codes. -/
def checkCurrencies (p : Provider) (codes : List String) : GatewayResult (List String) := do
  for code in codes do
    require ((paymentVerified code).isSome = true)
      (.invalid "currency_unsupported" ("Currency '" ++ code ++ "' is not supported by this platform"))
    require (code ∈ p.currencies) (.invalid "currency_not_supported_by_provider"
      (p.label ++ " is not verified for " ++ code.toUpper ++ " on this platform"))
  .ok (codes.dedup.insertionSort (· ≤ ·))

/-! ### Readiness -/

namespace ProviderConfig

/-- The enabled currencies that the provider supports. -/
def enabledCurrencies (c : ProviderConfig) : List String := c.currencies.filter (· ∈ c.provider.currencies)

def useBlockers (c : ProviderConfig) : List Blocker :=
  List.flatten [
    if c.credentials.isNone then [.credentialsNotSet]
    else match c.credentialsStatus with
      | .unvalidated => [.credentialsNotValidated]
      | .invalid => [.credentialsInvalid]
      | .valid => [],
    if c.enabledCurrencies = [] then [.noSupportedCurrencyEnabled] else []]

def liveBlockers (c : ProviderConfig) (deployed : Bool) : List Blocker :=
  if c.mode ≠ .live then [.notALiveConfiguration]
  else List.flatten [
    if deployed then [] else [.livePaymentsDisabledOnThisDeployment],
    if c.webhookSecret.isNone then [.webhookSecretNotSet]
    else if c.webhookVerified then [] else [.webhookNotVerified],
    if c.sandboxVerifiedAt.isNone then [.sandboxVerificationNotRecorded] else [],
    if c.productionReviewAt.isNone then [.productionReviewNotRecorded] else []]

/-- `readiness`: what blocks use, and what blocks live use. -/
def readiness (c : ProviderConfig) (deployed : Bool) : List Blocker × List Blocker :=
  (c.useBlockers, c.useBlockers ++ (c.liveBlockers deployed).filter (· ∉ c.useBlockers))

/-- The blockers `enable` looks at. -/
def enableBlockers (c : ProviderConfig) (deployed : Bool) : List Blocker :=
  if c.mode = .live then (c.readiness deployed).2 else (c.readiness deployed).1

/-- `CHECK_MAX_AGE`, in seconds. -/
def checkMaxAge : Time := 24 * 60 * 60

/-- `_activation_blockers`. -/
def activationBlockers (c : ProviderConfig) (deployed : Bool) (now : Time) : List Blocker :=
  let blockers := if deployed then [] else [.livePaymentsDisabledOnThisDeployment]
  if c.mode ≠ .live then blockers ++ [.notALiveConfiguration]
  else
    let blockers := if c.status ≠ .enabled then blockers ++ [.gatewayNotEnabled] else blockers
    let live := (c.readiness deployed).2
    blockers ++ live.filter (fun b => b ∉ blockers ∧ b ≠ .livePaymentsDisabledOnThisDeployment)
      ++ match c.lastCheckAt, c.lastCheckOk with
        | some checkedAt, some ok =>
          if ok = false then [.gatewayCheckFailed]
          else if checkMaxAge < now - checkedAt then [.gatewayCheckOutOfDate] else []
        | _, _ => [.gatewayCheckNotRun]

theorem useBlockers_eq_nil {c : ProviderConfig} : c.useBlockers = [] ↔
    c.credentials.isSome = true ∧ c.credentialsStatus = .valid ∧ c.enabledCurrencies ≠ [] := by
  unfold useBlockers
  cases c.credentials with
  | none => simp
  | some _ => cases c.credentialsStatus <;> simp

theorem liveBlockers_eq_nil {c : ProviderConfig} {deployed : Bool} :
    c.liveBlockers deployed = [] ↔ c.mode = .live ∧ deployed = true ∧ c.webhookSecret.isSome = true ∧
      c.webhookVerified = true ∧ c.sandboxVerifiedAt.isSome = true ∧ c.productionReviewAt.isSome = true := by
  unfold liveBlockers
  cases c.mode <;> cases c.webhookSecret <;> cases c.sandboxVerifiedAt <;> cases c.productionReviewAt <;> simp

theorem readiness_live_eq_nil {c : ProviderConfig} {deployed : Bool} :
    (c.readiness deployed).2 = [] ↔ c.useBlockers = [] ∧ c.liveBlockers deployed = [] := by
  unfold readiness
  rw [List.append_eq_nil_iff, List.filter_eq_nil_iff]
  constructor
  · rintro ⟨huse, hlive⟩
    refine ⟨huse, List.eq_nil_iff_forall_not_mem.mpr fun b hb => ?_⟩
    simpa [huse] using hlive b hb
  · rintro ⟨huse, hlive⟩
    exact ⟨huse, by simp [hlive]⟩

theorem enableBlockers_use {c : ProviderConfig} {deployed : Bool} (h : c.enableBlockers deployed = []) :
    c.useBlockers = [] := by
  unfold enableBlockers at h
  by_cases hmode : c.mode = .live
  · rw [if_pos hmode] at h
    exact (readiness_live_eq_nil.mp h).1
  · rw [if_neg hmode] at h
    exact h

theorem enableBlockers_live {c : ProviderConfig} {deployed : Bool} (h : c.enableBlockers deployed = [])
    (hmode : c.mode = .live) : c.liveBlockers deployed = [] := by
  unfold enableBlockers at h
  rw [if_pos hmode] at h
  exact (readiness_live_eq_nil.mp h).2

/-! ### What one operation makes of a configuration -/

/-- New payments pause: an enabled configuration is disabled and no longer preferred. -/
def pause (c : ProviderConfig) : ProviderConfig :=
  if c.status = .enabled then
    { c with
      status := .disabled, isPreferred := false
      preferred_enabled := nofun, enabled_valid := nofun, live_requirements := nofun }
  else c

theorem pause_status (c : ProviderConfig) : c.pause.status ≠ .enabled := by
  unfold pause
  by_cases h : c.status = .enabled
  · rw [if_pos h]
    exact nofun
  · rw [if_neg h]
    exact h

/-- The row loses the preference; everything else stays. -/
def unprefer (c : ProviderConfig) : ProviderConfig := { c with isPreferred := false, preferred_enabled := nofun }

theorem key_unprefer (c : ProviderConfig) : Keyed.key c.unprefer = Keyed.key c := rfl

def prefer (c : ProviderConfig) (h : c.status = .enabled) : ProviderConfig :=
  { c with isPreferred := true, preferred_enabled := fun _ => h }

def disable (c : ProviderConfig) : ProviderConfig :=
  { c with
    status := .disabled, isPreferred := false
    preferred_enabled := nofun, enabled_valid := nofun, live_requirements := nofun }

def enable (c : ProviderConfig) (deployed : Bool) (h : c.enableBlockers deployed = []) : ProviderConfig :=
  { c with
    status := .enabled
    preferred_enabled := fun _ => rfl
    enabled_valid := fun _ =>
      have huse := useBlockers_eq_nil.mp (enableBlockers_use h)
      ⟨huse.2.1, huse.1⟩
    live_requirements := fun hmode _ => (liveBlockers_eq_nil.mp (enableBlockers_live h hmode)).2.2.2 }

/-- New credentials: the evidence gathered for the old ones does not carry over. -/
def withCredentials (c : ProviderConfig) (credentials : Credentials) : ProviderConfig :=
  { c.pause with
    credentials := some credentials, credentialsStatus := .unvalidated, credentialsValidatedAt := none
    sandboxVerifiedAt := none, productionReviewAt := none
    enabled_valid := fun h => absurd h c.pause_status
    live_requirements := fun _ h => absurd h c.pause_status }

/-- A new webhook secret; the old one keeps verifying events. -/
def withWebhookSecret (c : ProviderConfig) (secret : String) : ProviderConfig :=
  { c.pause with
    previousWebhookSecret := c.webhookSecret, webhookSecret := some secret
    webhookVerified := false, webhookVerifiedAt := none
    live_requirements := fun _ h => absurd h c.pause_status }

/-- The credentials part of `rotate`. -/
def newCredentials (c : ProviderConfig) : Option Credentials → GatewayResult ProviderConfig
  | none => .ok c
  | some raw => do
    let credentials ← parseCredentials c.provider c.mode raw
    .ok (c.withCredentials credentials)

/-- The webhook part of `rotate`. -/
def newWebhookSecret (c : ProviderConfig) : Option String → GatewayResult ProviderConfig
  | none => .ok c
  | some secret => do
    let secret ← parseWebhookSecret c.provider secret
    .ok (c.withWebhookSecret secret)

/-- The verdict of a validation. -/
def withVerdict (c : ProviderConfig) (valid : Bool) (now : Time) : ProviderConfig :=
  if valid then
    { c with
      credentialsStatus := .valid, credentialsValidatedAt := some now
      enabled_valid := fun h => ⟨rfl, (c.enabled_valid h).2⟩ }
  else
    { c.pause with
      credentialsStatus := .invalid, credentialsValidatedAt := none
      enabled_valid := fun h => absurd h c.pause_status }

def withWebhookVerified (c : ProviderConfig) (now : Time) : ProviderConfig :=
  { c with
    webhookVerified := true, webhookVerifiedAt := some now
    live_requirements := fun hmode h => ⟨rfl, (c.live_requirements hmode h).2⟩ }

def withSandboxVerified (c : ProviderConfig) (now : Time) : ProviderConfig :=
  { c with
    sandboxVerifiedAt := some now
    live_requirements := fun hmode h => ⟨(c.live_requirements hmode h).1, rfl, (c.live_requirements hmode h).2.2⟩ }

def withProductionReview (c : ProviderConfig) (now : Time) : ProviderConfig :=
  { c with
    productionReviewAt := some now
    live_requirements := fun hmode h => ⟨(c.live_requirements hmode h).1, (c.live_requirements hmode h).2.1, rfl⟩ }

end ProviderConfig

/-! ### The gateway check -/

inductive CheckName
  | credentials | modeMatches | currencies | webhookSecret | webhookDelivery | testPayment
  | sandboxVerification | productionReview
  deriving DecidableEq, Repr

inductive CheckStatus
  | pass | fail | warn | skipped
  deriving DecidableEq, Repr

structure CheckItem where
  check : CheckName
  status : CheckStatus
  required : Bool
  deriving DecidableEq, Repr

/-- What the provider says about credentials. -/
structure CredentialCheck where
  valid : Bool
  detectedMode : Option GatewayMode
  deriving DecidableEq, Repr

/-- The credentials are good, and of the mode of the configuration. -/
def CredentialCheck.accepts (check : CredentialCheck) (mode : GatewayMode) : Bool :=
  check.valid && (check.detectedMode = none || check.detectedMode = some mode)

def passIf (b : Bool) : CheckStatus := if b then .pass else .fail

/-- The items of `run_checks` on the row as it is after the validation, `payment` in its place. -/
def ProviderConfig.checkItems (c : ProviderConfig) (check : CredentialCheck) (storeCurrency : Option String)
    (payment : Option CheckItem) : List CheckItem :=
  let live := c.mode = .live
  [⟨.credentials, passIf (check.accepts c.mode), true⟩,
    match check.detectedMode with
    | none => ⟨.modeMatches, .warn, false⟩
    | some mode => ⟨.modeMatches, passIf (mode = c.mode), true⟩,
    ⟨.currencies, passIf (storeCurrency.any (· ∈ c.enabledCurrencies)), true⟩,
    ⟨.webhookSecret, passIf c.webhookSecret.isSome, true⟩,
    ⟨.webhookDelivery, if c.webhookVerified then .pass else if live then .fail else .warn, live⟩]
  ++ payment.toList
  ++ if live then
      [⟨.sandboxVerification, passIf c.sandboxVerifiedAt.isSome, true⟩,
        ⟨.productionReview, passIf c.productionReviewAt.isSome, true⟩]
    else []

/-- Every required item passed. -/
def checksPass (items : List CheckItem) : Bool := items.all fun i => !i.required || i.status = .pass

/-- The test payment item when no payment is made; none when one is. -/
def ProviderConfig.skippedPayment (c : ProviderConfig) (check : CredentialCheck) : Option CheckItem :=
  if c.mode = .live then some ⟨.testPayment, .skipped, false⟩
  else if check.accepts c.mode = false ∨ c.enabledCurrencies = [] then some ⟨.testPayment, .skipped, true⟩
  else none

/-! ### The store's gateways -/

/-- The single row of `payment_settings`. -/
structure PaymentSettings where
  livePaymentsActive : Bool
  liveActivatedAt : Option Time
  liveActivatedConfigId : Option Id
  lastDeactivatedAt : Option Time
  deriving DecidableEq, Repr

inductive GatewayPhase
  /-- the provider is asked about the credentials that were read -/
  | validating (sent : Option Credentials)
  /-- it is sent a test payment with the credentials that were read then; the other items passed or not -/
  | testing (sent paid : Option Credentials) (others : Bool)
  deriving DecidableEq, Repr

/-- A `validate` request, or a whole gateway check, that waits for the provider. -/
structure GatewayCall where
  id : Nat
  configId : Id
  whole : Bool
  phase : GatewayPhase
  deriving DecidableEq, Repr

instance : Keyed GatewayCall Nat := ⟨GatewayCall.id⟩

structure Gateways where
  configs : Table ProviderConfig
  settings : PaymentSettings
  calls : Table GatewayCall
  /-- the next fresh id -/
  next : Nat
  /-- `LIVE_PAYMENTS_ENABLED` -/
  livePaymentsEnabled : Bool
  /-- `effective_currency` -/
  storeCurrency : Option String
  now : Time

inductive Attestation
  | sandboxVerified | productionReview
  deriving DecidableEq, Repr

/-- `CONFIRMATION`. -/
def activationText : String := "ACTIVATE LIVE PAYMENTS"

namespace Gateways

def get (g : Gateways) (configId : Id) : GatewayResult ProviderConfig := need (g.configs.get? configId) .notFound

def put (g : Gateways) (c : ProviderConfig) : Gateways := { g with configs := g.configs.replace c }

def byProviderMode (g : Gateways) (p : Provider) (mode : GatewayMode) : Option ProviderConfig :=
  g.configs.rows.find? fun c => c.provider = p && c.mode = mode

/-- `live_payments_active` of the resolver: the deployment allows it and an administrator activated it. -/
def liveActive (g : Gateways) : Bool := g.livePaymentsEnabled && g.settings.livePaymentsActive

/-- INSERT of a row with a fresh id. -/
def insert (g : Gateways) (c : ProviderConfig) : GatewayResult Gateways := do
  let configs ← need (g.configs.insert? c) (.conflict "provider_config_exists" "")
  .ok { g with configs := configs, next := g.next + 1 }

/-- `create_demo`: the demo configuration, made now if there is none. -/
def createDemo (g : Gateways) (random : String) : GatewayResult (Gateways × ProviderConfig) :=
  match g.byProviderMode .demo .test with
  | some c => .ok (g, c)
  | none => do
    let c : ProviderConfig := {
      id := g.next, provider := .demo, mode := .test, status := .draft, isPreferred := false
      credentials := some ⟨none, none, none⟩, credentialsStatus := .valid, credentialsValidatedAt := some g.now
      webhookSecret := some ("demo_whsec_" ++ random), previousWebhookSecret := none
      webhookVerified := false, webhookVerifiedAt := none
      currencies := Provider.currencies .demo |>.insertionSort (· ≤ ·)
      sandboxVerifiedAt := none, productionReviewAt := none, lastCheckAt := none, lastCheckOk := none, version := 1
      preferred_enabled := nofun, demo_is_test := fun _ => rfl, enabled_valid := nofun, live_requirements := nofun }
    let g ← g.insert c
    .ok (g, c)

/-- `create`. -/
def create (g : Gateways) (p : Provider) (mode : GatewayMode) (raw : Credentials) (webhookSecret : Option String)
    (currencies : Option (List String)) : GatewayResult Gateways :=
  if h : p = .demo then
    .error (.invalid "use_demo_endpoint"
      "The demo gateway has no credentials: enable it with POST /admin/payments/demo/enable")
  else do
    require ((g.byProviderMode p mode).isNone = true) (.conflict "provider_config_exists"
      (p.label ++ " (" ++ mode.value ++ ") is already configured: rotate its credentials instead"))
    let credentials ← parseCredentials p mode raw
    let secret ← webhookSecret.mapM (parseWebhookSecret p)
    let currencies ← checkCurrencies p (currencies.getD (g.storeCurrency.toList.filter (· ∈ p.currencies)))
    g.insert {
      id := g.next, provider := p, mode := mode, status := .draft, isPreferred := false
      credentials := some credentials, credentialsStatus := .unvalidated, credentialsValidatedAt := none
      webhookSecret := secret, previousWebhookSecret := none, webhookVerified := false, webhookVerifiedAt := none
      currencies := currencies
      sandboxVerifiedAt := none, productionReviewAt := none, lastCheckAt := none, lastCheckOk := none, version := 1
      preferred_enabled := nofun, demo_is_test := fun hdemo => absurd hdemo h, enabled_valid := nofun
      live_requirements := nofun }

/-- `rotate`: the credentials, then the webhook secret, of which one may be left as it is. -/
def rotate (g : Gateways) (configId : Id) (credentials : Option Credentials) (webhookSecret : Option String) :
    GatewayResult Gateways := do
  let c ← g.get configId
  require (c.provider ≠ .demo) (.conflict "demo_has_no_credentials"
    "The demo gateway has no credentials or webhook secret to rotate")
  require (credentials.isSome = true ∨ webhookSecret.isSome = true)
    (.invalid "nothing_to_rotate" "Provide new credentials and/or a new webhook secret")
  let c₁ ← c.newCredentials credentials
  let c₂ ← c₁.newWebhookSecret webhookSecret
  .ok (g.put { c₂ with version := c.version + 1 })

def retirePreviousWebhookSecret (g : Gateways) (configId : Id) : GatewayResult Gateways := do
  let c ← g.get configId
  .ok (g.put { c with previousWebhookSecret := none })

def setCurrencies (g : Gateways) (configId : Id) (currencies : List String) : GatewayResult Gateways := do
  let c ← g.get configId
  let normalized ← checkCurrencies c.provider currencies
  require (¬(c.status = .enabled ∧ normalized = [])) (.conflict "currencies_required"
    "An enabled provider needs at least one currency: disable it first")
  .ok (g.put { c with currencies := normalized })

def enable (g : Gateways) (configId : Id) : GatewayResult Gateways := do
  let c ← g.get configId
  if h : c.enableBlockers g.livePaymentsEnabled = [] then .ok (g.put (c.enable g.livePaymentsEnabled h))
  else .error (.notReady (c.enableBlockers g.livePaymentsEnabled))

def disable (g : Gateways) (configId : Id) : GatewayResult Gateways := do
  let c ← g.get configId
  .ok (g.put c.disable)

/-- `clear_preferred`: one UPDATE of every preferred row. -/
def clearPreferred (g : Gateways) : Gateways :=
  { g with configs := g.configs.map ProviderConfig.unprefer ProviderConfig.key_unprefer }

/-- `prefer`. -/
def prefer (g : Gateways) (configId : Id) : GatewayResult Gateways := do
  let c ← g.get configId
  require (¬(c.provider = .demo ∧ g.settings.livePaymentsActive = true))
    (.livePaymentsActive "make the demo gateway the store's payment provider")
  if h : c.status = .enabled ∧ c.credentialsStatus = .valid then do
    let shown := (g.storeCurrency.getD "unset").toUpper
    require (g.storeCurrency.any (· ∈ c.enabledCurrencies) = true) (.conflict "provider_currency_not_supported"
      (c.provider.label ++ " is not enabled for this store's currency (" ++ shown ++ ")"))
    .ok (g.clearPreferred.put (c.prefer h.1))
  else .error (.notReady [if c.status = .enabled then .credentialsNotValid else .notEnabled])

/-- `attest`. -/
def attest (g : Gateways) (configId : Id) (kind : Attestation) : GatewayResult Gateways := do
  let c ← g.get configId
  match kind with
  | .sandboxVerified => .ok (g.put (c.withSandboxVerified g.now))
  | .productionReview => do
    require (c.sandboxVerifiedAt.isSome = true) (.conflict "sandbox_verification_required"
      "Record the sandbox verification before the production review")
    .ok (g.put (c.withProductionReview g.now))

def ensureEnabled (g : Gateways) (c : ProviderConfig) : GatewayResult Gateways :=
  if c.status = .enabled then .ok g else g.enable c.id

/-- `enable_demo`. -/
def enableDemo (g : Gateways) (random : String) : GatewayResult Gateways := do
  require (g.settings.livePaymentsActive = false) (.livePaymentsActive "switch to the demo gateway")
  let (g, c) ← g.createDemo random
  let g ← g.ensureEnabled c
  g.prefer c.id

/-- `disable_demo`. -/
def disableDemo (g : Gateways) : GatewayResult Gateways := do
  let c ← need (g.byProviderMode .demo .test) .notFound
  g.disable c.id

/-- `activate_live`, with the stripped confirmation text. -/
def activateLive (g : Gateways) (configId : Id) (confirmation : String) : GatewayResult Gateways := do
  require (confirmation = activationText) (.liveActivationBlocked [.confirmationTextIncorrect])
  let c ← g.get configId
  let blockers := c.activationBlockers g.livePaymentsEnabled g.now
  require (blockers = []) (.liveActivationBlocked blockers)
  prefer { g with
    settings := { g.settings with
      livePaymentsActive := true, liveActivatedAt := some g.now, liveActivatedConfigId := some c.id } } c.id

/-- `deactivate_live`: nothing takes over. -/
def deactivateLive (g : Gateways) : GatewayResult Gateways := do
  require (g.settings.livePaymentsActive = true)
    (.conflict "live_payments_not_active" "Live payments are not active")
  .ok { g.clearPreferred with
    settings := { g.settings with livePaymentsActive := false, lastDeactivatedAt := some g.now } }

/-- `mark_webhook_verified`, for an event signed with a secret of the configuration, the present or the previous. -/
def markWebhookVerified (g : Gateways) (configId : Id) (secret : String) : GatewayResult Gateways := do
  let c ← g.get configId
  require (c.webhookSecret = some secret ∨ c.previousWebhookSecret = some secret) .notFound
  .ok (if c.webhookVerified then g else g.put (c.withWebhookVerified g.now))

/-- `select_for_new_payment`: the preferred configuration, then `live_payments_active`, read one after the other. -/
def selectForNewPayment (g : Gateways) (liveActive : Bool) (currency : String) : GatewayResult ProviderConfig := do
  let c ← need (g.configs.rows.find? (·.isPreferred)) (.unavailable "no_payment_provider_selected")
  require (c.status = .enabled) (.unavailable "provider_disabled")
  require (c.credentialsStatus = .valid) (.unavailable "provider_credentials_not_valid")
  require (currency ∈ c.enabledCurrencies) (.unavailable "provider_currency_not_supported")
  require (c.mode = .live → liveActive = true) (.unavailable "provider_mode_not_allowed")
  require (c.provider = .demo → liveActive = false) (.unavailable "provider_mode_not_allowed")
  .ok c

end Gateways

/-- The row as the payment calls see it. -/
def ProviderConfig.row (c : ProviderConfig) : PaymentProviderConfig where
  id := c.id
  provider := c.provider
  live := c.mode = .live
  enabled := c.status = .enabled
  isPreferred := c.isPreferred
  credentialsValid := c.credentialsStatus = .valid
  webhookVerified := c.webhookVerified
  currencies := c.currencies

/-- What is selected here is what a payment call selects. -/
theorem selectForNewPayment_row {g : Gateways} {cfg : Settings} {db : Db} {liveActive : Bool} {currency : String}
    {c : ProviderConfig} (hrows : db.configs.rows = g.configs.rows.map ProviderConfig.row)
    (hlive : cfg.livePaymentsEnabled = liveActive) (h : g.selectForNewPayment liveActive currency = .ok c) :
    selectForNewPayment cfg db currency = .ok c.row := by
  obtain ⟨c₁, hfind, h⟩ := need_bind_ok h
  obtain ⟨henabled, h⟩ := require_bind_ok h
  obtain ⟨hvalid, h⟩ := require_bind_ok h
  obtain ⟨hcurrency, h⟩ := require_bind_ok h
  obtain ⟨hmode, h⟩ := require_bind_ok h
  obtain ⟨hdemo, h⟩ := require_bind_ok h
  cases h
  have hfind' : db.configs.rows.find? (·.isPreferred) = some c.row := by
    rw [hrows, List.find?_map]
    exact congrArg (Option.map ProviderConfig.row) hfind
  obtain ⟨hlisted, hverified⟩ := List.mem_filter.mp hcurrency
  have hboth : currency ∈ c.row.currencies ∧ currency ∈ c.row.provider.currencies :=
    ⟨hlisted, of_decide_eq_true hverified⟩
  have hon : c.row.enabled = true := decide_eq_true henabled
  have hgood : c.row.credentialsValid = true := decide_eq_true hvalid
  have hlives : c.row.live = true → cfg.livePaymentsEnabled = true := fun h =>
    hlive.trans (hmode (of_decide_eq_true h))
  have hdemos : c.row.provider = .demo → cfg.livePaymentsEnabled = false := fun h => hlive.trans (hdemo h)
  unfold selectForNewPayment
  rw [need_eq_ok.mpr hfind', ok_bind, (require_eq_ok (u := ())).mpr hon, ok_bind,
    (require_eq_ok (u := ())).mpr hgood, ok_bind, (require_eq_ok (u := ())).mpr hboth, ok_bind,
    (require_eq_ok (u := ())).mpr hlives, ok_bind, (require_eq_ok (u := ())).mpr hdemos, ok_bind]

/-! ### Histories -/

/-- The requests that are one transaction. -/
inductive GatewayOp
  | create (provider : Provider) (mode : GatewayMode) (credentials : Credentials) (webhookSecret : Option String)
      (currencies : Option (List String))
  | rotate (configId : Id) (credentials : Option Credentials) (webhookSecret : Option String)
  | retirePreviousWebhookSecret (configId : Id)
  | setCurrencies (configId : Id) (currencies : List String)
  | enable (configId : Id)
  | disable (configId : Id)
  | prefer (configId : Id)
  | attest (configId : Id) (kind : Attestation)
  | enableDemo (random : String)
  | disableDemo
  | activateLive (configId : Id) (confirmation : String)
  | deactivateLive
  | markWebhookVerified (configId : Id) (secret : String)
  deriving DecidableEq, Repr

def GatewayOp.run (g : Gateways) : GatewayOp → GatewayResult Gateways
  | .create provider mode credentials webhookSecret currencies =>
    g.create provider mode credentials webhookSecret currencies
  | .rotate configId credentials webhookSecret => g.rotate configId credentials webhookSecret
  | .retirePreviousWebhookSecret configId => g.retirePreviousWebhookSecret configId
  | .setCurrencies configId currencies => g.setCurrencies configId currencies
  | .enable configId => g.enable configId
  | .disable configId => g.disable configId
  | .prefer configId => g.prefer configId
  | .attest configId kind => g.attest configId kind
  | .enableDemo random => g.enableDemo random
  | .disableDemo => g.disableDemo
  | .activateLive configId confirmation => g.activateLive configId confirmation
  | .deactivateLive => g.deactivateLive
  | .markWebhookVerified configId secret => g.markWebhookVerified configId secret

namespace Gateways

/-- The call reads the credentials and commits; the provider is asked after that. -/
def ask (g : Gateways) (configId : Id) (whole : Bool) : Option Gateways := do
  let c ← g.configs.get? configId
  if c.credentials.isSome then
    let calls ← g.calls.insert? ⟨g.next, configId, whole, .validating c.credentials⟩
    some { g with calls := calls, next := g.next + 1 }
  else none

def hangUp (g : Gateways) (call : GatewayCall) : Gateways := { g with calls := g.calls.erase call.id }

/-- The end of `run_checks`: the outcome is written into the row as it is then. -/
def recordCheck (g : Gateways) (call : GatewayCall) (ok : Bool) : Option Gateways := do
  let c ← g.configs.get? call.configId
  some ((g.put { c with lastCheckAt := some g.now, lastCheckOk := some ok }).hangUp call)

/-- The provider's answer about the credentials: the verdict is written, and a gateway check goes on in the same
    transaction, up to the commit before its test payment. -/
def answer (g : Gateways) (call : GatewayCall) (sent : Option Credentials) (check : CredentialCheck) :
    Option Gateways := do
  let c ← g.configs.get? call.configId
  let c := c.withVerdict (check.accepts c.mode) g.now
  let g := g.put c
  if call.whole then
    match c.skippedPayment check with
    | some payment => g.recordCheck call (checksPass (c.checkItems check g.storeCurrency (some payment)))
    | none =>
      let others := checksPass (c.checkItems check g.storeCurrency none)
      some { g with calls := g.calls.replace { call with phase := .testing sent c.credentials others } }
  else some (g.hangUp call)

end Gateways

inductive GatewayLabel
  | op (o : GatewayOp)
  /-- `validate` reads the credentials -/
  | validate (configId : Id)
  /-- `run_checks` does -/
  | runChecks (configId : Id)
  | answer (callId : Nat) (check : CredentialCheck)
  /-- the sandbox took the test payment, or not -/
  | testPayment (callId : Nat) (accepted : Bool)
  /-- the request ends without its writes -/
  | drop (callId : Nat)
  | deploy (livePaymentsEnabled : Bool)
  | storeCurrency (currency : Option String)
  | tick (d : Time)
  deriving DecidableEq, Repr

/-- One committed transaction. A refused request changes nothing and is not a step. -/
def gatewayStep (g : Gateways) : GatewayLabel → Option Gateways
  | .op o => (o.run g).toOption
  | .validate configId => g.ask configId false
  | .runChecks configId => g.ask configId true
  | .answer callId check => do
    let call ← g.calls.get? callId
    match call.phase with
    | .validating sent => g.answer call sent check
    | .testing .. => none
  | .testPayment callId accepted => do
    let call ← g.calls.get? callId
    match call.phase with
    | .testing _ _ others => g.recordCheck call (others && accepted)
    | .validating _ => none
  | .drop callId => do
    let call ← g.calls.get? callId
    some (g.hangUp call)
  | .deploy livePaymentsEnabled => some { g with livePaymentsEnabled := livePaymentsEnabled }
  | .storeCurrency currency => some { g with storeCurrency := currency }
  | .tick d => some { g with now := g.now + d }

/-- A store without a payment gateway. -/
structure Gateways.Initial (g : Gateways) : Prop where
  configs : g.configs = .empty
  calls : g.calls = .empty
  inactive : g.settings.livePaymentsActive = false

abbrev GatewayRun (g₀ : Gateways) (tr : List (Taken Gateways GatewayLabel)) (g : Gateways) : Prop :=
  Exec gatewayStep g₀ tr g

end NovaCart
