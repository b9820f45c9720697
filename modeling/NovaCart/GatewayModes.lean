import NovaCart.GatewayRuns

/-! What the store says about payments: the admin overview (`PaymentModeService.overview`), the public payment mode
    (`StoreService._payment_mode`, `read_payment_config`) and the gateway of a new payment
    (`ProviderResolver.select_for_new_payment`). -/

namespace NovaCart

open Schemes

inductive PaymentMode
  | none | demo | test | live
  deriving DecidableEq, Repr

/-- The word for payments through a configuration. -/
def ProviderConfig.paymentMode (c : ProviderConfig) : PaymentMode :=
  if c.provider = .demo then .demo else if c.mode = .live then .live else .test

def Provider.code : Provider → String
  | .demo => "demo"
  | .stripe => "stripe"
  | .razorpay => "razorpay"

/-- `ORDER BY provider, mode` -/
def ProviderConfig.Precedes (c c' : ProviderConfig) : Prop :=
  c.provider.code < c'.provider.code ∨ c.provider = c'.provider ∧ c.mode.value ≤ c'.mode.value

instance (c c' : ProviderConfig) : Decidable (c.Precedes c') := by
  unfold ProviderConfig.Precedes
  infer_instance

structure Overview where
  paymentMode : PaymentMode
  paymentsOpen : Bool
  preferred : Option ProviderConfig

/-- Public: the gateway for a new payment, as a browser may see it. -/
structure PaymentConfigRead where
  provider : Option Provider := .none
  mode : PaymentMode := .none
  demo : Bool := false
  currencies : List String := []
  deriving DecidableEq, Repr

namespace Gateways

def listAll (g : Gateways) : List ProviderConfig := g.configs.rows.insertionSort ProviderConfig.Precedes

def getPreferred (g : Gateways) : Option ProviderConfig := g.configs.rows.find? (·.isPreferred)

/-- `payments_open`, `payment_mode` and `preferred` of the overview. -/
def overview (g : Gateways) : Overview :=
  let preferred := g.listAll.find? (·.isPreferred)
  let paymentsOpen := preferred.any fun c => c.status = .enabled ∧ c.credentialsStatus = .valid ∧
    (c.mode ≠ .live ∨ g.liveActive = true) ∧ ¬(c.provider = .demo ∧ g.liveActive = true)
  let paymentMode := if paymentsOpen then preferred.elim .none ProviderConfig.paymentMode else .none
  ⟨paymentMode, paymentsOpen, preferred⟩

/-- `_payment_mode`, with the Stripe key of the environment. -/
def paymentMode (g : Gateways) (stripeSecretKey : String) : PaymentMode :=
  match g.getPreferred with
  | none => if g.configs.rows = [] ∧ startsWith stripeSecretKey "sk_test_" = true then .test else .none
  | some c =>
    if c.status ≠ .enabled ∨ c.credentialsStatus ≠ .valid then .none
    else if c.mode = .live then if g.liveActive then .live else .none
    else if c.provider = .demo then .demo
    else .test

/-- `read_payment_config`, with the currencies of the environment's Stripe. -/
def readPaymentConfig (g : Gateways) (stripeSecretKey : String) (enabledCurrencies : List String) :
    PaymentConfigRead :=
  let mode := g.paymentMode stripeSecretKey
  if mode = .none then {}
  else
    match g.getPreferred with
    | none => { provider := some .stripe, mode := mode, currencies := enabledCurrencies.insertionSort (· ≤ ·) }
    | some c =>
      let currencies := c.currencies.insertionSort (· ≤ ·)
      if c.provider = .demo then { provider := some .demo, mode := .demo, demo := true, currencies := currencies }
      else { provider := some c.provider, mode := mode, currencies := currencies }

/-- `select_for_new_payment` takes a payment in the store currency. -/
def Takes (g : Gateways) (c : ProviderConfig) : Prop :=
  ∃ currency ∈ g.storeCurrency, g.selectForNewPayment g.liveActive currency = .ok c

/-- `ux_provider_configs_one_preferred` -/
def OnePreferred (g : Gateways) : Prop :=
  ∀ c ∈ g.configs.rows, ∀ c' ∈ g.configs.rows, c.isPreferred = true → c'.isPreferred = true → c.id = c'.id

/-- The three answers agree, in what they say and in the gateway they say it of. -/
structure Agrees (g : Gateways) (stripeSecretKey : String) (enabledCurrencies : List String) : Prop where
  announced : g.overview.paymentsOpen = true ↔ g.paymentMode stripeSecretKey ≠ .none
  taken : g.overview.paymentsOpen = true ↔ ∃ c, g.Takes c
  same : g.overview.paymentsOpen = true → ∀ c, g.Takes c →
    g.overview.preferred = some c ∧ g.overview.paymentMode = c.paymentMode ∧
      g.paymentMode stripeSecretKey = c.paymentMode ∧
      (g.readPaymentConfig stripeSecretKey enabledCurrencies).provider = some c.provider ∧
      (g.readPaymentConfig stripeSecretKey enabledCurrencies).mode = c.paymentMode

/-- The preferred gateway, unless it is a live one and live payments are not active, is enabled for the store currency,
    and it is not the demo gateway while live payments are active. -/
def Sells (g : Gateways) : Prop :=
  ∀ c ∈ g.configs.rows, c.isPreferred = true → (c.mode = .live → g.liveActive = true) →
    (∃ currency ∈ g.storeCurrency, currency ∈ c.enabledCurrencies) ∧ ¬(c.provider = .demo ∧ g.liveActive = true)

instance (g : Gateways) : Decidable g.Sells :=
  decidable_of_iff
    (∀ c ∈ g.configs.rows, c.isPreferred = true → (c.mode = .live → g.liveActive = true) →
      g.storeCurrency.any (· ∈ c.enabledCurrencies) = true ∧ ¬(c.provider = .demo ∧ g.liveActive = true))
    (by simp only [Gateways.Sells, Option.any_eq_true, decide_eq_true_eq, Option.mem_def])

end Gateways

variable {g g' g₀ : Gateways} {l : GatewayLabel} {c : ProviderConfig} {tr : List (Taken Gateways GatewayLabel)}
  {key : String} {currencies : List String}

/-! ### The preferred gateway -/

theorem getPreferred_eq_some (hone : g.OnePreferred) (hc : c ∈ g.configs.rows) (hpreferred : c.isPreferred = true) :
    g.getPreferred = some c := by
  cases hfind : g.configs.rows.find? (·.isPreferred) with
  | none => exact absurd hpreferred (List.find?_eq_none.mp hfind c hc)
  | some c' =>
    have hid := hone c' (List.mem_of_find?_eq_some hfind) c hc (List.find?_some hfind) hpreferred
    rw [Gateways.getPreferred, hfind, g.configs.eq_of_key_eq (List.mem_of_find?_eq_some hfind) hc hid]

/-- The overview looks at the same configuration, whatever the order of the rows. -/
theorem overview_preferred (hone : g.OnePreferred) : g.overview.preferred = g.getPreferred := by
  have hperm : g.listAll.Perm g.configs.rows := List.perm_insertionSort ..
  show g.listAll.find? (·.isPreferred) = g.getPreferred
  cases hfind : g.listAll.find? (·.isPreferred) with
  | none =>
    refine (List.find?_eq_none.mpr fun c hc => ?_).symm
    exact List.find?_eq_none.mp hfind c (hperm.mem_iff.mpr hc)
  | some c =>
    exact (getPreferred_eq_some hone (hperm.mem_iff.mp (List.mem_of_find?_eq_some hfind)) (List.find?_some hfind)).symm

/-- Without a preferred gateway nothing is open. -/
theorem closed_of_none (hone : g.OnePreferred) (hstored : g.configs.rows ≠ []) (hnone : g.getPreferred = none) :
    g.overview.paymentsOpen = false ∧ g.paymentMode key = .none ∧ ∀ c, ¬g.Takes c := by
  have hpreferred : g.listAll.find? (·.isPreferred) = none := (overview_preferred hone).trans hnone
  refine ⟨by simp [Gateways.overview, hpreferred], by simp [Gateways.paymentMode, hnone, hstored], ?_⟩
  rintro c ⟨currency, _, hselect⟩
  obtain ⟨c', hfind, _⟩ := need_bind_ok hselect
  exact absurd (hnone.symm.trans hfind) (by simp)

section Preferred

variable (hone : g.OnePreferred) (hc : c ∈ g.configs.rows) (hpreferred : c.isPreferred = true)
include hone hc hpreferred

theorem paymentsOpen_iff :
    g.overview.paymentsOpen = true ↔
      (c.mode = .live → g.liveActive = true) ∧ ¬(c.provider = .demo ∧ g.liveActive = true) := by
  have hfind : g.listAll.find? (·.isPreferred) = some c :=
    (overview_preferred hone).trans (getPreferred_eq_some hone hc hpreferred)
  have henabled := c.preferred_enabled hpreferred
  simp only [Gateways.overview, hfind, Option.any_some, decide_eq_true_eq, henabled, (c.enabled_valid henabled).1,
    true_and]
  exact and_congr_left' (Decidable.imp_iff_not_or).symm

theorem paymentMode_of_preferred :
    g.paymentMode key = if c.mode = .live → g.liveActive = true then c.paymentMode else .none := by
  have henabled := c.preferred_enabled hpreferred
  have hdemo := c.demo_is_test
  simp only [Gateways.paymentMode, getPreferred_eq_some hone hc hpreferred, henabled, (c.enabled_valid henabled).1,
    ProviderConfig.paymentMode]
  cases hmode : c.mode with
  | live =>
    have hreal : c.provider ≠ .demo := fun h => by rw [hdemo h] at hmode; cases hmode
    cases g.liveActive <;> simp [hreal]
  | test => simp

theorem takes_iff {c' : ProviderConfig} :
    g.Takes c' ↔ c' = c ∧ (∃ currency ∈ g.storeCurrency, currency ∈ c.enabledCurrencies) ∧
      (c.mode = .live → g.liveActive = true) ∧ ¬(c.provider = .demo ∧ g.liveActive = true) := by
  have hfind : g.configs.rows.find? (·.isPreferred) = some c := getPreferred_eq_some hone hc hpreferred
  have henabled := c.preferred_enabled hpreferred
  have hvalid := (c.enabled_valid henabled).1
  constructor
  · rintro ⟨currency, hcurrency, h⟩
    obtain ⟨c₁, hfind₁, h⟩ := need_bind_ok h
    obtain ⟨_, h⟩ := require_bind_ok h
    obtain ⟨_, h⟩ := require_bind_ok h
    obtain ⟨hlisted, h⟩ := require_bind_ok h
    obtain ⟨hlive, h⟩ := require_bind_ok h
    obtain ⟨hdemo, h⟩ := require_bind_ok h
    obtain rfl : c₁ = c := Option.some.inj (hfind₁.symm.trans hfind)
    cases h
    exact ⟨rfl, ⟨currency, hcurrency, hlisted⟩, hlive, fun h => by simpa [hdemo h.1] using h.2⟩
  · rintro ⟨rfl, ⟨currency, hcurrency, hlisted⟩, hlive, hdemo⟩
    refine ⟨currency, hcurrency, ?_⟩
    have hdemo' : c'.provider = .demo → g.liveActive = false := fun h =>
      Bool.eq_false_iff.mpr fun hactive => hdemo ⟨h, hactive⟩
    unfold Gateways.selectForNewPayment
    rw [need_eq_ok.mpr hfind, ok_bind, (require_eq_ok (u := ())).mpr henabled, ok_bind,
      (require_eq_ok (u := ())).mpr hvalid, ok_bind, (require_eq_ok (u := ())).mpr hlisted, ok_bind,
      (require_eq_ok (u := ())).mpr hlive, ok_bind, (require_eq_ok (u := ())).mpr hdemo', ok_bind]

end Preferred

theorem ProviderConfig.paymentMode_ne_none (c : ProviderConfig) : c.paymentMode ≠ .none := by
  unfold ProviderConfig.paymentMode
  split_ifs <;> simp

theorem readPaymentConfig_of_preferred (hfind : g.getPreferred = some c) (hmode : g.paymentMode key = c.paymentMode) :
    (g.readPaymentConfig key currencies).provider = some c.provider ∧
      (g.readPaymentConfig key currencies).mode = c.paymentMode := by
  have hsome := c.paymentMode_ne_none
  unfold Gateways.readPaymentConfig
  simp only [hmode, hsome, if_false, hfind]
  by_cases hdemo : c.provider = .demo
  · simp [hdemo, ProviderConfig.paymentMode]
  · simp [hdemo]

/-! ### When the three agree -/

theorem sells_of_agrees (hone : g.OnePreferred) (h : g.Agrees key currencies) : g.Sells := by
  intro c hc hpreferred hlive
  have hmode : g.paymentMode key ≠ .none := by
    rw [paymentMode_of_preferred hone hc hpreferred, if_pos hlive]
    exact c.paymentMode_ne_none
  have hopen := h.announced.mpr hmode
  obtain ⟨c', htakes⟩ := h.taken.mp hopen
  exact ⟨((takes_iff hone hc hpreferred).mp htakes).2.1, ((paymentsOpen_iff hone hc hpreferred).mp hopen).2⟩

theorem agrees_of_sells (hone : g.OnePreferred) (hstored : g.configs.rows ≠ []) (h : g.Sells) :
    g.Agrees key currencies := by
  cases hfind : g.getPreferred with
  | none =>
    obtain ⟨hclosed, hmode, hrefused⟩ := @closed_of_none _ key hone hstored hfind
    refine ⟨by simp [hclosed, hmode], ?_, by simp [hclosed]⟩
    rw [hclosed]
    exact iff_of_false (by simp) fun ⟨c, htakes⟩ => hrefused c htakes
  | some c =>
    have hc : c ∈ g.configs.rows := List.mem_of_find?_eq_some hfind
    have hpreferred : c.isPreferred = true := List.find?_some hfind
    have hopen := paymentsOpen_iff hone hc hpreferred
    have hmode : g.paymentMode key = _ := paymentMode_of_preferred hone hc hpreferred
    have htakes := fun {c'} => @takes_iff _ _ hone hc hpreferred c'
    by_cases hlive : c.mode = .live → g.liveActive = true
    · obtain ⟨hcurrency, hdemo⟩ := h c hc hpreferred hlive
      rw [if_pos hlive] at hmode
      have hyes : g.overview.paymentsOpen = true := hopen.mpr ⟨hlive, hdemo⟩
      have htaken : g.Takes c := htakes.mpr ⟨rfl, hcurrency, hlive, hdemo⟩
      refine ⟨iff_of_true hyes (hmode ▸ c.paymentMode_ne_none), iff_of_true hyes ⟨c, htaken⟩, fun _ c' htaken' => ?_⟩
      obtain rfl := (htakes.mp htaken').1
      have hpref : g.overview.preferred = some c' := (overview_preferred hone).trans hfind
      have hword : g.overview.paymentMode = c'.paymentMode := by
        have hdef : g.overview.paymentMode =
            if g.overview.paymentsOpen then g.overview.preferred.elim .none ProviderConfig.paymentMode else .none := rfl
        rw [hdef, if_pos hyes, hpref]
        rfl
      exact ⟨hpref, hword, hmode, readPaymentConfig_of_preferred hfind hmode⟩
    · rw [if_neg hlive] at hmode
      have hno : ¬g.overview.paymentsOpen = true := fun hyes => hlive (hopen.mp hyes).1
      refine ⟨iff_of_false hno (not_not.mpr hmode), iff_of_false hno fun ⟨c', htaken⟩ => ?_, fun hyes => absurd hyes hno⟩
      exact hlive (htakes.mp htaken).2.2.1

/-- With a stored configuration, the overview, the public mode and the selection agree exactly when the preferred
    gateway can take the store currency and the demo gateway is not preferred while live payments are active. -/
theorem agrees_iff (hone : g.OnePreferred) (hstored : g.configs.rows ≠ []) (key : String) (currencies : List String) :
    g.Agrees key currencies ↔ g.Sells :=
  ⟨sells_of_agrees hone, agrees_of_sells hone hstored⟩

/-! ### One preferred configuration in every run -/

theorem Gateways.OnePreferred.of_id {configId : Id} (h : ∀ x ∈ g.configs.rows, x.isPreferred = true → x.id = configId) :
    g.OnePreferred := fun c hc c' hc' hp hp' => (h c hc hp).trans (h c' hc' hp').symm

theorem onePreferred_step (hstep : gatewayStep g l = some g') (hone : g.OnePreferred) : g'.OnePreferred := by
  have hmove := (gatewayStep_move hstep).preferred
  have hkept : (∀ x ∈ g'.configs.rows, x.isPreferred = true →
      ∃ c ∈ g.configs.rows, c.id = x.id ∧ c.mode = x.mode ∧ c.isPreferred = true) → g'.OnePreferred := by
    intro hstems c hc c' hc' hp hp'
    obtain ⟨d, hd, hid, -, hdp⟩ := hstems c hc hp
    obtain ⟨d', hd', hid', -, hdp'⟩ := hstems c' hc' hp'
    exact hid.symm.trans ((hone d hd d' hd' hdp hdp').trans hid')
  cases l with
  | op o =>
    cases o with
    | prefer configId => exact .of_id fun x hx hp => (hmove x hx hp).1
    | activateLive configId confirmation => exact .of_id hmove
    | deactivateLive => exact fun c hc _ _ hp => (hmove c hc hp).elim
    | enableDemo random =>
      have hrun : g.enableDemo random = .ok g' := by
        cases hok : g.enableDemo random with
        | error e => simp [gatewayStep, GatewayOp.run, hok, Except.toOption] at hstep
        | ok g₁ => simpa [gatewayStep, GatewayOp.run, hok, Except.toOption] using hstep
      obtain ⟨_, h⟩ := require_bind_ok hrun
      obtain ⟨⟨g₁, demo⟩, _, h⟩ := bind_ok h
      obtain ⟨g₂, _, hprefer⟩ := bind_ok h
      exact .of_id fun x hx hp => (prefer_rows hprefer hx).2 hp
    | _ => exact hkept hmove
  | _ => exact hkept hmove

theorem onePreferred_of_run (hinit : g₀.Initial) (hrun : GatewayRun g₀ tr g) : g.OnePreferred := by
  refine hrun.invariant ?_ fun hstep hone => onePreferred_step hstep hone
  intro c hc
  rw [hinit.configs] at hc
  exact absurd hc List.not_mem_nil

/-- A gateway in test mode, up to the moment it is preferred. -/
def setUpTest : List GatewayLabel :=
  [.op (.create .stripe .test ⟨some "sk_test_1", none, none⟩ none none), .validate 0, .answer 1 ⟨true, some .test⟩,
    .op (.enable 0), .op (.prefer 0)]

theorem agrees_iff_test : ∃ tr g, GatewayRun rupeeStore tr g ∧ g.Agrees "" [] ∧ ∃ c, g.Takes c := by
  obtain ⟨tr, g, hrun, hstored, hsells, hopen⟩ := exists_exec gatewayStep rupeeStore
    (P := fun _ g => g.configs.rows ≠ [] ∧ g.Sells ∧ g.overview.paymentsOpen = true) setUpTest (by decide +kernel)
  have hagrees := (agrees_iff (onePreferred_of_run rupeeStore_initial hrun) hstored "" []).mpr hsells
  exact ⟨tr, g, hrun, hagrees, hagrees.taken.mp hopen⟩

/-- The currencies of a preferred gateway are changed to others: the store still announces test payments, and refuses
    each of them. -/
theorem not_agrees_currencies : ∃ tr g, GatewayRun rupeeStore tr g ∧ g.configs.rows ≠ [] ∧ ¬g.Agrees "" [] := by
  obtain ⟨tr, g, hrun, hstored, hsells⟩ := exists_exec gatewayStep rupeeStore
    (P := fun _ g => g.configs.rows ≠ [] ∧ ¬g.Sells) (setUpTest ++ [.op (.setCurrencies 0 ["usd"])])
    (by decide +kernel)
  exact ⟨tr, g, hrun, hstored, fun hagrees =>
    hsells (sells_of_agrees (onePreferred_of_run rupeeStore_initial hrun) hagrees)⟩

end NovaCart
