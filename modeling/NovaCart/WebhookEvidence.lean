import NovaCart.Gateways

/-! Which webhook secret a verified configuration was seen to use (`_verify_webhook`, `mark_webhook_verified`).

    Only the webhook columns of a configuration are here. Two encryptions of one secret differ, so a stored secret
    carries the serial number of its encryption. A delivery reads the configurations without a lock, and marks one of
    them in a later statement; anything may commit in between. -/

namespace NovaCart

open Schemes

structure StoredSecret where
  secret : String
  serial : Nat
  deriving DecidableEq, Repr

structure WebhookConfig where
  id : Id
  provider : Provider
  mode : GatewayMode
  webhookSecret : Option StoredSecret
  previousWebhookSecret : Option StoredSecret
  webhookVerified : Bool
  deriving DecidableEq, Repr

instance : Keyed WebhookConfig Id := ⟨WebhookConfig.id⟩

/-- What `verify_and_parse_webhook` makes of an event: a signed but malformed one raises another error. -/
inductive SignatureVerdict
  | accepted | invalidSignature | invalidPayload
  deriving DecidableEq, Repr

/-- A request whose event verified, before it marks the configuration. -/
structure VerifiedDelivery where
  id : Nat
  configId : Id
  /-- the secret that the signature verified with -/
  matched : StoredSecret
  deriving DecidableEq, Repr

instance : Keyed VerifiedDelivery Nat := ⟨VerifiedDelivery.id⟩

structure WebhookStore where
  configs : Table WebhookConfig
  deliveries : Table VerifiedDelivery
  /-- the next fresh id or serial number -/
  next : Nat

inductive WebhookLabel (Event : Type)
  | create (provider : Provider) (mode : GatewayMode) (webhookSecret : Option String)
  | createDemo (random : String)
  /-- the webhook part of `rotate` -/
  | rotate (configId : Id) (webhookSecret : String)
  | retirePreviousWebhookSecret (configId : Id)
  | receive (deliveryId : Nat) (provider : Provider) (event : Event)
  | mark (deliveryId : Nat)
  /-- the request rolls back -/
  | abandon (deliveryId : Nat)

namespace WebhookStore

def byProviderMode (s : WebhookStore) (p : Provider) (mode : GatewayMode) : Option WebhookConfig :=
  s.configs.rows.find? fun c => c.provider = p && c.mode = mode

/-- INSERT of a row with a fresh id, its secret encrypted now. -/
def insert (s : WebhookStore) (p : Provider) (mode : GatewayMode) (secret : Option String) : Option WebhookStore := do
  let configs ← s.configs.insert? {
    id := s.next, provider := p, mode := mode, webhookSecret := secret.map (⟨·, s.next⟩)
    previousWebhookSecret := none, webhookVerified := false }
  some { s with configs := configs, next := s.next + 1 }

/-- `create`; the demo gateway has an endpoint of its own. -/
def create (s : WebhookStore) (p : Provider) (mode : GatewayMode) (secret : Option String) : Option WebhookStore := do
  if p = .demo ∨ (s.byProviderMode p mode).isSome then none
  else
    let secret ← (secret.mapM (parseWebhookSecret p)).toOption
    s.insert p mode secret

/-- `create_demo`: asking again makes nothing. -/
def createDemo (s : WebhookStore) (random : String) : Option WebhookStore :=
  if (s.byProviderMode .demo .test).isSome then none else s.insert .demo .test (some ("demo_whsec_" ++ random))

/-- The old secret keeps verifying events, and the status starts again. -/
def rotate (s : WebhookStore) (configId : Id) (secret : String) : Option WebhookStore := do
  let c ← s.configs.get? configId
  if c.provider = .demo then none
  else
    let secret ← (parseWebhookSecret c.provider secret).toOption
    some { s with
      configs := s.configs.replace { c with
        previousWebhookSecret := c.webhookSecret, webhookSecret := some ⟨secret, s.next⟩, webhookVerified := false }
      next := s.next + 1 }

def retirePreviousWebhookSecret (s : WebhookStore) (configId : Id) : Option WebhookStore := do
  let c ← s.configs.get? configId
  some { s with configs := s.configs.replace { c with previousWebhookSecret := none } }

/-- `webhook_verifiers`: of each configuration of the provider its secret, and then the one rotated away. -/
def webhookVerifiers (s : WebhookStore) (p : Provider) : List (Id × StoredSecret) :=
  (s.configs.rows.filter fun c => c.provider = p).flatMap fun c =>
    (c.webhookSecret.toList ++ c.previousWebhookSecret.toList).map fun σ => (c.id, σ)

/-- The loop of `_verify_webhook`: the first secret that verifies; a malformed event stops it. -/
def firstMatch (judge : String → SignatureVerdict) : List (Id × StoredSecret) → Option (Id × StoredSecret)
  | [] => none
  | v :: vs =>
    match judge v.2.secret with
    | .accepted => some v
    | .invalidSignature => firstMatch judge vs
    | .invalidPayload => none

/-- A delivery up to its first write. -/
def receive (s : WebhookStore) (judge : String → SignatureVerdict) (id : Nat) (p : Provider) : Option WebhookStore := do
  let v ← firstMatch judge (s.webhookVerifiers p)
  let deliveries ← s.deliveries.insert? ⟨id, v.1, v.2⟩
  some { s with deliveries := deliveries }

/-- `mark_webhook_verified`, on the row as it is when it is locked. -/
def markWebhookVerified (s : WebhookStore) (configId : Id) : WebhookStore :=
  match s.configs.get? configId with
  | some c => if c.webhookVerified then s else { s with configs := s.configs.replace { c with webhookVerified := true } }
  | none => s

def settle (s : WebhookStore) (deliveryId : Nat) : WebhookStore :=
  { s with deliveries := s.deliveries.erase deliveryId }

end WebhookStore

variable {Event : Type}

/-- One committed transaction, or the unlocked reads of a delivery. The adapters' signature check is a parameter. -/
def webhookStep (verify : Provider → String → Event → SignatureVerdict) (s : WebhookStore) :
    WebhookLabel Event → Option WebhookStore
  | .create p mode secret => s.create p mode secret
  | .createDemo random => s.createDemo random
  | .rotate configId secret => s.rotate configId secret
  | .retirePreviousWebhookSecret configId => s.retirePreviousWebhookSecret configId
  | .receive id p event => s.receive (fun secret => verify p secret event) id p
  | .mark id => (s.deliveries.get? id).map fun d => (s.markWebhookVerified d.configId).settle id
  | .abandon id => (s.deliveries.get? id).map fun _ => s.settle id

/-- A store without a configuration. -/
structure WebhookStore.Initial (s : WebhookStore) : Prop where
  configs : s.configs = .empty
  deliveries : s.deliveries = .empty

abbrev WebhookStep (Event : Type) := Taken WebhookStore (WebhookLabel Event)

abbrev WebhookRun (verify : Provider → String → Event → SignatureVerdict) (s₀ : WebhookStore)
    (tr : List (WebhookStep Event)) (s : WebhookStore) : Prop :=
  Exec (webhookStep verify) s₀ tr s

/-! ### Evidence -/

variable {verify : Provider → String → Event → SignatureVerdict}

/-- In this step an event was received that verifies with the secret, and the configuration had it stored by then. -/
def Attests (verify : Provider → String → Event → SignatureVerdict) (c : WebhookConfig) (σ : StoredSecret)
    (t : WebhookStep Event) : Prop :=
  match t.label with
  | .receive _ p event =>
    p = c.provider ∧ verify p σ.secret event = .accepted ∧ ∃ c₀ ∈ t.pre.configs.get? c.id, c₀.webhookSecret = some σ
  | _ => False

instance (c : WebhookConfig) (σ : StoredSecret) (t : WebhookStep Event) : Decidable (Attests verify c σ t) := by
  unfold Attests
  cases t.label <;> infer_instance

/-- An event that verifies with the present secret has been received since that secret was stored. -/
def Evidence (verify : Provider → String → Event → SignatureVerdict) (tr : List (WebhookStep Event))
    (c : WebhookConfig) : Prop :=
  ∃ σ ∈ c.webhookSecret, ∃ t ∈ tr, Attests verify c σ t

instance (tr : List (WebhookStep Event)) (c : WebhookConfig) : Decidable (Evidence verify tr c) :=
  inferInstanceAs (Decidable (∃ σ ∈ c.webhookSecret, ∃ t ∈ tr, Attests verify c σ t))

/-- A mark that changes a status is made with the secret its delivery verified with still the present one. -/
def MarksPresent (t : WebhookStep Event) : Prop :=
  match t.label with
  | .mark id => ∀ d ∈ t.pre.deliveries.get? id, ∀ c ∈ t.pre.configs.get? d.configId,
      c.webhookVerified = false → c.webhookSecret = some d.matched
  | _ => True

instance (t : WebhookStep Event) : Decidable (MarksPresent t) := by
  unfold MarksPresent
  cases t.label <;> infer_instance

/-- What every run keeps when its marks are made with present secrets. -/
structure EvidenceInv (verify : Provider → String → Event → SignatureVerdict) (tr : List (WebhookStep Event))
    (s : WebhookStore) : Prop where
  ids : ∀ c ∈ s.configs.rows, c.id < s.next
  present : ∀ c ∈ s.configs.rows, ∀ σ ∈ c.webhookSecret, σ.serial < s.next
  /-- the secret rotated away is an older one -/
  previous : ∀ c ∈ s.configs.rows, ∀ σ ∈ c.previousWebhookSecret, σ.serial < s.next ∧ c.webhookSecret ≠ some σ
  matched : ∀ d ∈ s.deliveries.rows, d.matched.serial < s.next ∧ d.configId < s.next
  /-- a delivery that verified with the present secret attests it -/
  attested : ∀ d ∈ s.deliveries.rows, ∀ c ∈ s.configs.rows, c.id = d.configId → c.webhookSecret = some d.matched →
    ∃ t ∈ tr, Attests verify c d.matched t
  verified : ∀ c ∈ s.configs.rows, c.webhookVerified = true → Evidence verify tr c

variable {tr : List (WebhookStep Event)} {s s' s₀ : WebhookStore} {c c' : WebhookConfig} {σ : StoredSecret}
  {t : WebhookStep Event}

/-! ### Steps -/

theorem Attests.congr (hid : c'.id = c.id) (hprovider : c'.provider = c.provider) (h : Attests verify c σ t) :
    Attests verify c' σ t := by
  unfold Attests at h ⊢
  rw [hid, hprovider]
  exact h

theorem Evidence.congr (hid : c'.id = c.id) (hprovider : c'.provider = c.provider)
    (hsecret : c'.webhookSecret = c.webhookSecret) (h : Evidence verify tr c) : Evidence verify tr c' := by
  obtain ⟨σ, hσ, t, ht, hattests⟩ := h
  exact ⟨σ, hsecret ▸ hσ, t, ht, hattests.congr hid hprovider⟩

theorem firstMatch_mem {judge : String → SignatureVerdict} {v : Id × StoredSecret} :
    ∀ {vs : List (Id × StoredSecret)}, WebhookStore.firstMatch judge vs = some v →
      v ∈ vs ∧ judge v.2.secret = .accepted
  | [], h => by cases h
  | w :: vs, h => by
    unfold WebhookStore.firstMatch at h
    cases hjudge : judge w.2.secret with
    | accepted =>
      rw [hjudge] at h
      cases h
      exact ⟨List.mem_cons_self, hjudge⟩
    | invalidSignature =>
      rw [hjudge] at h
      obtain ⟨hmem, haccepted⟩ := firstMatch_mem h
      exact ⟨List.mem_cons_of_mem _ hmem, haccepted⟩
    | invalidPayload =>
      rw [hjudge] at h
      cases h

/-- A verifier is a secret of a configuration of the provider, its present one or the one rotated away. -/
theorem mem_webhookVerifiers {p : Provider} {v : Id × StoredSecret} (h : v ∈ s.webhookVerifiers p) :
    ∃ c ∈ s.configs.rows, c.id = v.1 ∧ c.provider = p ∧
      (c.webhookSecret = some v.2 ∨ c.previousWebhookSecret = some v.2) := by
  obtain ⟨c, hc, hv⟩ := List.mem_flatMap.mp h
  obtain ⟨hmem, hp⟩ := List.mem_filter.mp hc
  obtain ⟨σ, hσ, rfl⟩ := List.mem_map.mp hv
  refine ⟨c, hmem, rfl, of_decide_eq_true hp, ?_⟩
  rcases List.mem_append.mp hσ with h | h
  · exact .inl (Option.mem_toList.mp h)
  · exact .inr (Option.mem_toList.mp h)

namespace EvidenceInv

/-- Later steps take no evidence away. -/
theorem cons (hinv : EvidenceInv verify tr s) (t : WebhookStep Event) : EvidenceInv verify (t :: tr) s where
  ids := hinv.ids
  present := hinv.present
  previous := hinv.previous
  matched := hinv.matched
  attested d hd c hc hid hsecret := by
    obtain ⟨u, hu, hattests⟩ := hinv.attested d hd c hc hid hsecret
    exact ⟨u, List.mem_cons_of_mem _ hu, hattests⟩
  verified c hc hverified := by
    obtain ⟨σ, hσ, u, hu, hattests⟩ := hinv.verified c hc hverified
    exact ⟨σ, hσ, u, List.mem_cons_of_mem _ hu, hattests⟩

theorem settle (hinv : EvidenceInv verify tr s) (id : Nat) : EvidenceInv verify tr (s.settle id) where
  ids := hinv.ids
  present := hinv.present
  previous := hinv.previous
  matched d hd := hinv.matched d (Table.mem_erase.mp hd).1
  attested d hd := hinv.attested d (Table.mem_erase.mp hd).1
  verified := hinv.verified

theorem insert (hinv : EvidenceInv verify tr s) {p : Provider} {mode : GatewayMode} {secret : Option String}
    (h : s.insert p mode secret = some s') : EvidenceInv verify tr s' := by
  obtain ⟨configs, hinsert, h⟩ := Option.bind_eq_some_iff.mp h
  cases h
  have hrows {c : WebhookConfig} := Table.mem_insert? (x := c) hinsert
  constructor
  · intro c hc
    rcases hrows.mp hc with rfl | hold
    · exact Nat.lt_succ_self _
    · exact Nat.lt_succ_of_lt (hinv.ids c hold)
  · intro c hc σ hσ
    rcases hrows.mp hc with rfl | hold
    · obtain ⟨_, _, rfl⟩ := Option.map_eq_some_iff.mp hσ
      exact Nat.lt_succ_self _
    · exact Nat.lt_succ_of_lt (hinv.present c hold σ hσ)
  · intro c hc σ hσ
    rcases hrows.mp hc with rfl | hold
    · cases hσ
    · exact ⟨Nat.lt_succ_of_lt (hinv.previous c hold σ hσ).1, (hinv.previous c hold σ hσ).2⟩
  · intro d hd
    exact ⟨Nat.lt_succ_of_lt (hinv.matched d hd).1, Nat.lt_succ_of_lt (hinv.matched d hd).2⟩
  · intro d hd c hc hid hsecret
    rcases hrows.mp hc with rfl | hold
    · -- the new row has an id that no delivery knows
      have hlt := (hinv.matched d hd).2
      rw [show s.next = d.configId from hid] at hlt
      exact absurd hlt (Nat.lt_irrefl _)
    · exact hinv.attested d hd c hold hid hsecret
  · intro c hc hverified
    rcases hrows.mp hc with rfl | hold
    · cases hverified
    · exact hinv.verified c hold hverified

/-- A row changes and keeps its secret. -/
theorem rewrite (hinv : EvidenceInv verify tr s) (hc : c ∈ s.configs.rows) (hid : c'.id = c.id)
    (hprovider : c'.provider = c.provider) (hsecret : c'.webhookSecret = c.webhookSecret)
    (hprevious : ∀ σ ∈ c'.previousWebhookSecret, c.previousWebhookSecret = some σ)
    (hverified : c'.webhookVerified = true → Evidence verify tr c) :
    EvidenceInv verify tr { s with configs := s.configs.replace c' } := by
  have hget : s.configs.get? (Keyed.key c') = some c := by
    rw [show (Keyed.key c' : Id) = c.id from hid]
    exact Table.get?_of_mem hc
  have hrows {x : WebhookConfig} := Table.mem_replace (x := x) hget
  constructor
  · intro x hx
    rcases hrows.mp hx with rfl | ⟨hold, _⟩
    · exact hid ▸ hinv.ids c hc
    · exact hinv.ids x hold
  · intro x hx σ hσ
    rcases hrows.mp hx with rfl | ⟨hold, _⟩
    · exact hinv.present c hc σ (hsecret ▸ hσ)
    · exact hinv.present x hold σ hσ
  · intro x hx σ hσ
    rcases hrows.mp hx with rfl | ⟨hold, _⟩
    · rw [hsecret]
      exact hinv.previous c hc σ (hprevious σ hσ)
    · exact hinv.previous x hold σ hσ
  · exact hinv.matched
  · intro d hd x hx hxid hxsecret
    rcases hrows.mp hx with rfl | ⟨hold, _⟩
    · obtain ⟨t, ht, hattests⟩ := hinv.attested d hd c hc (hid ▸ hxid) (hsecret ▸ hxsecret)
      exact ⟨t, ht, hattests.congr hid hprovider⟩
    · exact hinv.attested d hd x hold hxid hxsecret
  · intro x hx hxverified
    rcases hrows.mp hx with rfl | ⟨hold, _⟩
    · exact (hverified hxverified).congr hid hprovider hsecret
    · exact hinv.verified x hold hxverified

/-- A new secret is not one that a delivery verified with. -/
theorem rotate (hinv : EvidenceInv verify tr s) {configId : Id} {secret : String}
    (h : s.rotate configId secret = some s') : EvidenceInv verify tr s' := by
  obtain ⟨c, hget, h⟩ := Option.bind_eq_some_iff.mp h
  obtain ⟨hdemo, h⟩ := Option.ite_none_left_eq_some.mp h
  obtain ⟨parsed, hparsed, h⟩ := Option.bind_eq_some_iff.mp h
  cases h
  have hc := Table.mem_of_get? hget
  have hself : s.configs.get? c.id = some c := Table.get?_of_mem hc
  have hrows {x : WebhookConfig} := Table.mem_replace (x := x) (q := { c with
    previousWebhookSecret := c.webhookSecret, webhookSecret := some ⟨parsed, s.next⟩, webhookVerified := false }) hself
  constructor
  · intro x hx
    rcases hrows.mp hx with rfl | ⟨hold, _⟩
    · exact Nat.lt_succ_of_lt (hinv.ids c hc)
    · exact Nat.lt_succ_of_lt (hinv.ids x hold)
  · intro x hx σ hσ
    rcases hrows.mp hx with rfl | ⟨hold, _⟩
    · cases hσ
      exact Nat.lt_succ_self _
    · exact Nat.lt_succ_of_lt (hinv.present x hold σ hσ)
  · intro x hx σ hσ
    rcases hrows.mp hx with rfl | ⟨hold, _⟩
    · have hlt := hinv.present c hc σ hσ
      refine ⟨Nat.lt_succ_of_lt hlt, fun heq => ?_⟩
      cases heq
      exact Nat.lt_irrefl _ hlt
    · exact ⟨Nat.lt_succ_of_lt (hinv.previous x hold σ hσ).1, (hinv.previous x hold σ hσ).2⟩
  · intro d hd
    exact ⟨Nat.lt_succ_of_lt (hinv.matched d hd).1, Nat.lt_succ_of_lt (hinv.matched d hd).2⟩
  · intro d hd x hx hid hsecret
    rcases hrows.mp hx with rfl | ⟨hold, _⟩
    · have hlt := (hinv.matched d hd).1
      rw [← Option.some.inj hsecret] at hlt
      exact absurd hlt (Nat.lt_irrefl _)
    · exact hinv.attested d hd x hold hid hsecret
  · intro x hx hverified
    rcases hrows.mp hx with rfl | ⟨hold, _⟩
    · cases hverified
    · exact hinv.verified x hold hverified

/-- A delivery that finds the present secret attests it; one that finds the other never will. -/
theorem receive (hinv : EvidenceInv verify tr s) {id : Nat} {p : Provider} {event : Event}
    (h : s.receive (fun secret => verify p secret event) id p = some s') :
    EvidenceInv verify (⟨s, .receive id p event, s'⟩ :: tr) s' := by
  obtain ⟨v, hmatch, h⟩ := Option.bind_eq_some_iff.mp h
  obtain ⟨deliveries, hinsert, h⟩ := Option.bind_eq_some_iff.mp h
  cases h
  obtain ⟨hv, haccepted⟩ := firstMatch_mem hmatch
  obtain ⟨c₀, hc₀, hid₀, hp, hone⟩ := mem_webhookVerifiers hv
  have hrows {d : VerifiedDelivery} := Table.mem_insert? (x := d) hinsert
  have hold := hinv.cons ⟨s, .receive id p event, { s with deliveries := deliveries }⟩
  refine ⟨hold.ids, hold.present, hold.previous, ?_, ?_, hold.verified⟩
  · intro d hd
    rcases hrows.mp hd with rfl | hd
    · refine ⟨?_, hid₀ ▸ hinv.ids c₀ hc₀⟩
      rcases hone with h | h
      · exact hinv.present c₀ hc₀ _ h
      · exact (hinv.previous c₀ hc₀ _ h).1
    · exact hinv.matched d hd
  · intro d hd c hc hid hsecret
    rcases hrows.mp hd with rfl | hd
    · obtain rfl : c = c₀ := s.configs.eq_of_key_eq hc hc₀ (hid.trans hid₀.symm)
      refine ⟨_, List.mem_cons_self, ?_⟩
      unfold Attests
      refine ⟨hp.symm, haccepted, c, ?_, hsecret⟩
      exact Table.get?_of_mem hc
    · exact hold.attested d hd c hc hid hsecret

/-- A mark made with the present secret has its delivery for evidence. -/
theorem mark (hinv : EvidenceInv verify tr s) {d : VerifiedDelivery} (hd : d ∈ s.deliveries.rows)
    (hpresent : ∀ c ∈ s.configs.get? d.configId, c.webhookVerified = false → c.webhookSecret = some d.matched) :
    EvidenceInv verify tr (s.markWebhookVerified d.configId) := by
  unfold WebhookStore.markWebhookVerified
  cases hget : s.configs.get? d.configId with
  | none => exact hinv
  | some c =>
    have hc := Table.mem_of_get? hget
    cases hverified : c.webhookVerified with
    | true => simpa [hverified] using hinv
    | false =>
      have hsecret := hpresent c hget hverified
      have hid : c.id = d.configId := Table.key_of_get? hget
      simp only [hverified, Bool.false_eq_true, ↓reduceIte]
      refine hinv.rewrite hc rfl rfl rfl (fun _ hσ => hσ) fun _ => ?_
      obtain ⟨t, ht, hattests⟩ := hinv.attested d hd c hc hid hsecret
      exact ⟨d.matched, hsecret, t, ht, hattests⟩

theorem step (hinv : EvidenceInv verify tr s) {l : WebhookLabel Event} (h : webhookStep verify s l = some s')
    (hmarks : MarksPresent ⟨s, l, s'⟩) : EvidenceInv verify (⟨s, l, s'⟩ :: tr) s' := by
  cases l with
  | create p mode secret =>
    obtain ⟨_, h⟩ := Option.ite_none_left_eq_some.mp h
    obtain ⟨parsed, _, h⟩ := Option.bind_eq_some_iff.mp h
    exact (hinv.insert h).cons _
  | createDemo random =>
    obtain ⟨_, h⟩ := Option.ite_none_left_eq_some.mp h
    exact (hinv.insert h).cons _
  | rotate configId secret => exact (hinv.rotate h).cons _
  | retirePreviousWebhookSecret configId =>
    obtain ⟨c, hget, h⟩ := Option.bind_eq_some_iff.mp h
    cases h
    have hc := Table.mem_of_get? hget
    have hnone : ∀ σ ∈ (none : Option StoredSecret), c.previousWebhookSecret = some σ := fun _ hσ => by cases hσ
    have hkept := @rewrite _ _ _ _ _ { c with previousWebhookSecret := none } hinv hc rfl rfl rfl hnone
    exact (hkept (hinv.verified c hc)).cons _
  | receive id p event => exact hinv.receive h
  | mark id =>
    obtain ⟨d, hget, h⟩ := Option.map_eq_some_iff.mp h
    cases h
    exact ((hinv.mark (Table.mem_of_get? hget) (hmarks d hget)).settle id).cons _
  | abandon id =>
    obtain ⟨_, _, h⟩ := Option.map_eq_some_iff.mp h
    cases h
    exact (hinv.settle id).cons _

end EvidenceInv

theorem WebhookStore.Initial.evidence (h₀ : s₀.Initial) : EvidenceInv verify [] s₀ := by
  constructor
  all_goals
    first
    | rw [h₀.configs]; exact fun _ h => by cases h
    | rw [h₀.deliveries]; exact fun _ h => by cases h

theorem evidence_run (h₀ : s₀.Initial) (h : WebhookRun verify s₀ tr s) (hmarks : ∀ t ∈ tr, MarksPresent t) :
    EvidenceInv verify tr s := by
  induction h with
  | nil => exact h₀.evidence
  | cons run hstep ih =>
    exact (ih fun t ht => hmarks t (List.mem_cons_of_mem _ ht)).step hstep (hmarks _ List.mem_cons_self)

/-! ### What a verified status proves -/

/-- Where every mark is made with the secret that is still the present one, a verified status has evidence for the
    present secret. -/
theorem verified_has_evidence (h₀ : s₀.Initial) (h : WebhookRun verify s₀ tr s) (hmarks : ∀ t ∈ tr, MarksPresent t) :
    ∀ c ∈ s.configs.rows, c.webhookVerified = true → Evidence verify tr c :=
  (evidence_run h₀ h hmarks).verified

def noWebhooks : WebhookStore := ⟨.empty, .empty, 1⟩

theorem noWebhooks_initial : noWebhooks.Initial := ⟨rfl, rfl⟩

/-- Events that carry the secret they were signed with. -/
def signedWith (_ : Provider) (secret event : String) : SignatureVerdict :=
  if event = secret then .accepted else .invalidSignature

/-- An event signed with the new secret marks the configuration after a rotation. -/
theorem verified_has_evidence_rotated : ∃ tr s, WebhookRun signedWith noWebhooks tr s ∧
    (∃ c ∈ s.configs.rows, c.webhookVerified = true ∧ c.previousWebhookSecret.isSome = true) ∧
      ∀ c ∈ s.configs.rows, c.webhookVerified = true → Evidence signedWith tr c := by
  obtain ⟨tr, s, h, hverified, hmarks⟩ := exists_exec (webhookStep signedWith) noWebhooks
    (P := fun tr s =>
      (∃ c ∈ s.configs.rows, c.webhookVerified = true ∧ c.previousWebhookSecret.isSome = true)
        ∧ ∀ t ∈ tr, MarksPresent t)
    [.create .stripe .test (some "whsec_first"), .rotate 1 "whsec_second", .receive 1 .stripe "whsec_second", .mark 1]
    (by decide)
  exact ⟨tr, s, h, hverified, verified_has_evidence noWebhooks_initial h hmarks⟩

/-- An event signed with the secret that was rotated away marks the configuration, and none has come for the new one. -/
theorem verified_by_rotated_secret : ∃ tr s, WebhookRun signedWith noWebhooks tr s ∧
    ∃ c ∈ s.configs.rows, c.webhookVerified = true ∧ ¬Evidence signedWith tr c :=
  exists_exec (webhookStep signedWith) noWebhooks
    (P := fun tr s => ∃ c ∈ s.configs.rows, c.webhookVerified = true ∧ ¬Evidence signedWith tr c)
    [.create .stripe .test (some "whsec_first"), .rotate 1 "whsec_second", .receive 1 .stripe "whsec_first", .mark 1]
    (by decide)

end NovaCart
