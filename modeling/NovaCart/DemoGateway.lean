import NovaCart.ReceivedMoney

/-! The built-in demo gateway (`DemoPaymentProvider`, `DemoCheckoutService.pay`) behind the store.

    The gateway keeps its intents in the store's own database and changes them in the transaction of the
    process that calls it. So an intent that a process created or touched is its own until that transaction
    ends, and locked for the others as long; the steps of the store are those of `step`. The secret that signs
    demo events never leaves the server: the only demo events delivered are those that `pay` builds. -/

namespace NovaCart

open Schemes

/-! ### Intents -/

/-- `DEMO_STATUSES`. -/
inductive IntentStatus
  | requiresPaymentMethod | succeeded | canceled
  deriving DecidableEq, Repr

def IntentStatus.value : IntentStatus → String
  | .requiresPaymentMethod => "requires_payment_method"
  | .succeeded => "succeeded"
  | .canceled => "canceled"

structure DemoPaymentIntent where
  id : String
  amountCents : ℤ
  currency : String
  status : IntentStatus
  lastFailureCode : Option String
  deriving DecidableEq, Repr

instance : Keyed DemoPaymentIntent String := ⟨DemoPaymentIntent.id⟩

/-- What one of the published test details stands for. -/
structure DemoOutcome where
  succeeds : Bool
  failureCode : Option String
  deriving DecidableEq, Repr

namespace DemoPaymentIntent

/-- `cancel_payment_intent` on its row: succeeded stays succeeded. -/
def cancel (i : DemoPaymentIntent) : DemoPaymentIntent :=
  if i.status = .requiresPaymentMethod then { i with status := .canceled } else i

/-- `record_outcome` on a row that is not canceled. -/
def recordOutcome (i : DemoPaymentIntent) (outcome : DemoOutcome) : DemoPaymentIntent :=
  if outcome.succeeds then { i with status := .succeeded, lastFailureCode := none }
  else if i.status ≠ .succeeded then { i with lastFailureCode := outcome.failureCode }
  else i

end DemoPaymentIntent

/-- The intent of an idempotency key; `token` is the first half of its SHA-256 digest. -/
def intentId (token : String → String) (key : String) : String := "pi_demo_" ++ token key

/-- `build_event`, as the webhook handler reads it back under the configuration that signed it. -/
def buildEvent (eventId : String) (succeeds : Bool) (ppid : String) (amount : ℤ) (currency : String)
    (configId : Id) : WebhookEvent :=
  { eventId := eventId, eventType := if succeeds then .paymentSucceeded else .paymentFailed
    providerPaymentId := ppid, amount := some amount, amountReceived := some (if succeeds then amount else 0)
    currency := some currency, provider := .demo, configId := some configId }

/-! ### The gateway's part of the open transactions -/

structure DemoTx where
  pid : Id
  /-- the intents that the process created or locked, as it left them -/
  rows : Table DemoPaymentIntent
  /-- the outcome that `pay` has not recorded yet -/
  paying : Option DemoOutcome

instance : Keyed DemoTx Id := ⟨DemoTx.pid⟩

structure DemoSys where
  sys : Sys
  /-- the committed rows -/
  intents : Table DemoPaymentIntent
  txs : Table DemoTx

namespace DemoSys

def tx (d : DemoSys) (pid : Id) : DemoTx := (d.txs.get? pid).getD ⟨pid, .empty, none⟩

/-- The row as the process sees it. -/
def intent? (d : DemoSys) (pid : Id) (id : String) : Option DemoPaymentIntent :=
  match (d.tx pid).rows.get? id with
  | some i => some i
  | none => d.intents.get? id

/-- Another process holds the row. -/
def locked (d : DemoSys) (pid : Id) (id : String) : Bool :=
  d.txs.rows.any fun t => t.pid ≠ pid ∧ (t.rows.get? id).isSome

/-- The process holds the row and leaves it as `i`; `paying` is what `pay` still has to record. -/
def hold (d : DemoSys) (pid : Id) (i : DemoPaymentIntent) (paying : Option DemoOutcome) : DemoSys :=
  { d with txs := d.txs.put ⟨pid, (d.tx pid).rows.put i, paying⟩ }

/-- The transaction of the process ends. -/
def settle (d : DemoSys) (pid : Id) (commits : Bool) : DemoSys :=
  { d with
    intents := if commits then d.intents.merge (d.tx pid).rows [] else d.intents
    txs := d.txs.erase pid }

/-- The transaction that ends, if one does. -/
def close (d : DemoSys) : Option (Id × Bool) → DemoSys
  | some (pid, commits) => d.settle pid commits
  | none => d

/-- `create_payment_intent`: INSERT ... ON CONFLICT DO NOTHING waits for the open transaction that inserts the
    same key. -/
def createPaymentIntent (d : DemoSys) (pid : Id) (id : String) (amount : ℤ) (currency : String) : Option DemoSys :=
  match d.intent? pid id with
  | some _ => some d
  | none =>
    if d.locked pid id then none
    else some (d.hold pid ⟨id, amount, currency, .requiresPaymentMethod, none⟩ (d.tx pid).paying)

/-- `retrieve_payment_intent`. -/
def retrievePaymentIntent (d : DemoSys) (pid : Id) (id : String) : Option (DemoSys × String) :=
  if d.locked pid id then none else (d.intent? pid id).map fun i => (d.hold pid i (d.tx pid).paying, i.status.value)

/-- `cancel_payment_intent`; an unknown intent is an error of the provider. -/
def cancelPaymentIntent (d : DemoSys) (pid : Id) (id : String) : Option (DemoSys × Option String) :=
  if d.locked pid id then none
  else match d.intent? pid id with
    | some i => some (d.hold pid i.cancel (d.tx pid).paying, some i.cancel.status.value)
    | none => some (d, none)

end DemoSys

/-! ### Where the transactions of the store end -/

/-- `cancel_order` answers `payment_in_progress` after its last transaction. -/
def CancelCall.inProgress (db : Db) (call : CancelCall) : Bool :=
  match db.orders.get? call.orderId with
  | none => false
  | some o => o.status ≠ .cancelled ∧ (o.status ≠ .pending ∨ (call.payments db).any (·.status = .succeeded))

/-- The process whose transaction the step ends, and whether it commits. -/
def Sys.ends (cfg : Settings) (s : Sys) : Label → Option (Id × Bool)
  | .crash pid | .abort pid => some (pid, false)
  | .process pid newId now =>
    match s.proc? pid with
    | some (.delivery e seen) =>
      some (pid, (processWebhookEvent cfg seen (markWebhookVerified s.db e.configId) e newId now).isOk)
    | _ => none
  | .cancelReport pid => some (pid, true)
  | .cancelFinish pid now =>
    match s.proc? pid with
    -- the customers' route raises while a payment is in progress, the expiry job commits
    | some (.cancel call) =>
      some (pid, (cancelFinish s.db call now).isOk && (call.actor.isNone || !call.inProgress s.db))
    | _ => none
  | .payRetrieved pid word =>
    match s.proc? pid with
    | some (.pay call) =>
      match call.stage with
      | .retrieving paymentId => some (pid, (payReuse s.db call paymentId word).isOk)
      | _ => none
    | _ => none
  | .payRecord pid newId =>
    match s.proc? pid with
    | some (.pay call) =>
      match call.stage with
      | .recording ppid => some (pid, (payRecord s.db call ppid newId).isOk)
      | _ => none
    | _ => none
  | .payOrphan pid answer =>
    match s.proc? pid with
    | some (.pay call) =>
      match call.stage with
      -- flagged and committed when the provider failed; else the call goes on, or raises
      | .orphaned _ winner =>
        if answer = none then some (pid, true) else if winner = none then some (pid, false) else none
      | _ => none
    | _ => none
  | .payWinner pid word => some (pid, word ∈ openIntentStatuses)
  | _ => none

/-- A step of the store. -/
def DemoSys.store (cfg : Settings) (d : DemoSys) (l : Label) : Option DemoSys :=
  (step cfg d.sys l).map fun s => { d.close (d.sys.ends cfg l) with sys := s }

/-! ### Steps -/

inductive DemoLabel
  /-- a step of the store in which the gateway has no part -/
  | store (l : Label)
  | create (pid : Id)
  | retrieve (pid : Id)
  | cancel (pid : Id)
  /-- `pay` reads the order's payments and takes a fresh event id -/
  | pay (pid orderId : Id) (outcome : DemoOutcome) (eventId : String)
  /-- and records the outcome, once it has the row -/
  | record (pid : Id)

/-- The gateway answers here, or the step waits until `pay` recorded its outcome. -/
def DemoSys.asks (d : DemoSys) : Label → Bool
  | .deliver _ e => e.provider = .demo
  | .process pid _ _ | .abort pid => (d.tx pid).paying.isSome
  | .payCreated pid _ =>
    match d.sys.proc? pid with
    | some (.pay call) => call.provider = .demo
    | _ => false
  | .payRetrieved pid _ | .payOrphan pid _ | .payWinner pid _ | .cancelAsk pid _ =>
    match d.sys.proc? pid with
    | some (.pay call) =>
      match call.stage with
      | .retrieving paymentId | .winning paymentId =>
        ((d.sys.db.payments.get? paymentId).map fun p => providerFor d.sys.db p.providerConfigId) = some .demo
      | _ => call.provider = .demo
    | some (.cancel call) =>
      match call.toCancel with
      | (_, _, configId) :: _ => providerFor d.sys.db configId = .demo
      | [] => false
    | _ => false
  | _ => false

/-- `pay` up to the event it will deliver. -/
def demoEvent (db : Db) (orderId : Id) (outcome : DemoOutcome) (eventId : String) : Option WebhookEvent := do
  let _ ← db.orders.get? orderId
  let payments := db.listForOrder orderId
  let payment ← payments.find? fun p => p.status = .pending ∨ p.status = .failed
  -- a demo payment that succeeded is answered without an event
  guard ((payments.find? (·.status = .succeeded)).map (·.provider) ≠ some .demo)
  guard (payment.provider = .demo)
  let configId ← payment.providerConfigId
  let config ← db.configs.get? configId
  guard (config.provider = .demo)
  let amount ← (toStripeAmount payment.amountCents payment.currency).toOption
  some (buildEvent eventId outcome.succeeds payment.providerPaymentId amount payment.currency configId)

def demoStep (token : String → String) (cfg : Settings) (d : DemoSys) : DemoLabel → Option DemoSys
  | .store l => if d.asks l then none else d.store cfg l
  | .create pid =>
    match d.sys.proc? pid with
    | some (.pay call) =>
      if call.provider = .demo then do
        let id := intentId token call.idempotencyKey
        let d ← d.createPaymentIntent pid id call.total call.currency
        d.store cfg (.payCreated pid id)
      else none
    | _ => none
  | .retrieve pid =>
    match d.sys.proc? pid with
    | some (.pay call) =>
      match call.stage with
      | .retrieving paymentId => do
        let p ← d.sys.db.payments.get? paymentId
        guard (providerFor d.sys.db p.providerConfigId = .demo)
        let (d, word) ← d.retrievePaymentIntent pid p.providerPaymentId
        d.store cfg (.payRetrieved pid word)
      | .winning paymentId => do
        let p ← d.sys.db.payments.get? paymentId
        guard (providerFor d.sys.db p.providerConfigId = .demo)
        let (d, word) ← d.retrievePaymentIntent pid p.providerPaymentId
        d.store cfg (.payWinner pid word)
      | _ => none
    | _ => none
  | .cancel pid =>
    match d.sys.proc? pid with
    | some (.cancel call) =>
      match call.toCancel with
      | (_, ppid, configId) :: _ => do
        guard (providerFor d.sys.db configId = .demo)
        let (d, answer) ← d.cancelPaymentIntent pid ppid
        d.store cfg (.cancelAsk pid answer)
      | [] => none
    | some (.pay call) =>
      match call.stage with
      | .orphaned ppid _ => do
        guard (call.provider = .demo)
        let (d, answer) ← d.cancelPaymentIntent pid ppid
        d.store cfg (.payOrphan pid answer)
      | _ => none
    | _ => none
  | .pay pid orderId outcome eventId => do
    let e ← demoEvent d.sys.db orderId outcome eventId
    -- the event id is random
    guard (d.sys.db.events.get? (.demo, eventId) = none ∧ d.sys.keyHeld .demo eventId = false)
    let s ← step cfg d.sys (.deliver pid e)
    some { d with sys := s, txs := d.txs.put ⟨pid, .empty, some outcome⟩ }
  | .record pid =>
    match d.sys.proc? pid with
    | some (.delivery e _) => do
      let outcome ← (d.tx pid).paying
      guard (d.locked pid e.providerPaymentId = false)
      let i ← d.intent? pid e.providerPaymentId
      -- paying a canceled intent is refused, and the request rolls back
      guard (i.status ≠ .canceled)
      some (d.hold pid (i.recordOutcome outcome) none)
    | _ => none

abbrev DemoRun (token : String → String) (cfg : Settings) (d₀ : DemoSys) (tr : List (Taken DemoSys DemoLabel))
    (d : DemoSys) : Prop := Exec (demoStep token cfg) d₀ tr d

/-- Nothing was sold or paid yet. -/
structure DemoSys.Initial (d : DemoSys) : Prop where
  sys : NovaCart.Initial d.sys
  intents : d.intents = .empty
  txs : d.txs = .empty

end NovaCart
