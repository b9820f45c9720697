import NovaCart.Sales
import NovaCart.Schemes.Run

/-! The store as a system of concurrent calls over one database.

    A call that spans several transactions, or one whose unlocked reads precede its writes, is a
    process: it holds what it read or decided in its earlier transactions. A step is one transaction
    (or one provider answer) of one process, so a run is any interleaving of transactions. A body
    that fails rolls its transaction back. Identifiers of new rows, instants, provider answers and
    the moment of a crash come from the labels, so they range over everything. -/

namespace NovaCart

open Schemes

/-- The operations that are one transaction. -/
inductive Op
  | checkout (req : CheckoutRequest)
  | adminChangeStatus (orderId : Id) (new : OrderStatus) (admin : Id)
  | updateStatus (orderId : Id) (new : OrderStatus) (by_ : Option Id)
  | createShipment (orderId shipmentId admin : Id) (fulfillOrder : Bool)
  | requestRefund (orderId requestedBy : Id) (paymentId : Option Id) (cancelsOrder : Bool) (refundId : Id)
  | resolveReconciliation (key : DedupeKey) (admin : Id) (resolution : Resolution) (note : String)
  | refundFromReconciliation (key : DedupeKey) (admin refundId : Id)
  | createReturn (userId orderId returnId : Id) (lines : List (Id × ℤ))
  | cancelReturn (userId returnId : Id)
  | approveReturn (returnId : Id)
  | rejectReturn (returnId : Id)
  | receiveReturn (returnId : Id) (entries : List ReceiptEntry)
  | closeReturn (returnId : Id)
  | refundReturn (returnId admin refundId : Id)
  | createProduct (row : Product)
  | updateProduct (productId : Id) (u : ProductUpdate)
  | adjustStock (productId : Id) (variantId : Option Id) (spec : StockAdjust)
  | createVariants (productId : Id) (specs : List VariantSpec) (specsValid : Bool)
  | updateVariant (variantId : Id) (active : Bool) (priceOverrideCents : Option ℤ)
  | setOptions (productId : Id) (count : Nat) (inCart : Bool)
  | convertToVariants (productId : Id) (expectedStock : ℤ) (count : Nat) (specs : List VariantSpec)
      (specsValid : Bool)
  | createConfig (row : PaymentProviderConfig)
  | updateConfig (row : PaymentProviderConfig)

/-- A change of a stored configuration: everything but its id and its provider. -/
def updateConfig (db : Db) (row : PaymentProviderConfig) : Result Db := do
  let old ← need (db.configs.get? row.id) .keyError
  require (row.provider = old.provider) (.integrity "a configuration keeps its provider")
  db.write (.config row)

def Op.run (cfg : Settings) (seen db : Db) (now : Time) : Op → Result Db
  | .checkout req => NovaCart.checkout db req now
  | .adminChangeStatus o new admin => NovaCart.adminChangeStatus db o new admin now
  | .updateStatus o new by_ => NovaCart.updateStatus seen db o new by_ now
  | .createShipment o id admin fulfill => NovaCart.createShipment db o id admin fulfill now
  | .requestRefund o by_ p cancels id => do
    let (db, _) ← NovaCart.requestRefund db o by_ p cancels id
    .ok db
  | .resolveReconciliation k admin resolution note =>
    NovaCart.resolveReconciliation db k admin resolution note
  | .refundFromReconciliation k admin id => NovaCart.refundFromReconciliation db k admin id
  | .createReturn u o id lines => NovaCart.createReturn cfg db u o id lines now
  | .cancelReturn u id => NovaCart.cancelReturn db u id
  | .approveReturn id => NovaCart.approveReturn db id
  | .rejectReturn id => NovaCart.rejectReturn db id
  | .receiveReturn id entries => NovaCart.receiveReturn db id entries
  | .closeReturn id => NovaCart.closeReturn db id
  | .refundReturn id admin refundId => NovaCart.refundReturn db id admin refundId
  | .createProduct row => db.write (.stock (.insertProduct row))
  | .updateProduct id u => NovaCart.updateProduct seen db id u
  | .adjustStock p v spec => NovaCart.adjustStock db p v spec
  | .createVariants p specs valid => NovaCart.createVariants db p specs valid
  | .updateVariant v active price => db.write (.stock (.variantDetails v active price))
  | .setOptions p count inCart => NovaCart.setOptions db p count inCart
  | .convertToVariants p expected count specs valid =>
    NovaCart.convertToVariants db p expected count specs valid
  | .createConfig row => db.write (.insertConfig row)
  | .updateConfig row => NovaCart.updateConfig db row

/-! ### Processes -/

inductive Proc
  /-- an open transaction and what its unlocked reads saw -/
  | tx (op : Op) (seen : Db)
  /-- a delivery that claimed its event and has not committed -/
  | delivery (event : WebhookEvent) (seen : Db)
  /-- a delivery that rolled back and whose failure is still to be recorded -/
  | failed (event : WebhookEvent)
  /-- a deferred event a worker has locked -/
  | recovery (row : DeferredWebhookEvent) (seen : Db)
  | cancel (call : CancelCall)
  | pay (call : PayCall)
  | refund (attempt : RefundAttempt)

namespace Proc

def holdsKey (p : Proc) (provider : Provider) (eventId : String) : Bool :=
  match p with
  | .delivery e _ => e.provider = provider ∧ e.eventId = eventId
  | _ => false

def locksRow (p : Proc) (provider : Provider) (eventId : String) : Bool :=
  match p with
  | .recovery row _ => row.provider = provider ∧ row.eventId = eventId
  | _ => false

end Proc

structure Entry where
  pid : Id
  proc : Proc

instance : Keyed Entry Id := ⟨Entry.pid⟩

structure Sys where
  db : Db
  procs : Table Entry

inductive Label
  | begin_ (pid : Id) (op : Op)
  | commit (pid : Id) (now : Time)
  /-- a process dies and its open transaction rolls back -/
  | crash (pid : Id)
  | deliver (pid : Id) (event : WebhookEvent)
  | process (pid newId : Id) (now : Time)
  /-- handling raises for a reason outside the handler, such as a lost connection -/
  | abort (pid : Id)
  | recordFailure (pid : Id) (message : String)
  | recoverBegin (pid : Id) (provider : Provider) (eventId : String) (now : Time)
  | recoverCommit (pid newId : Id) (now : Time)
  | cancelBegin (pid orderId : Id) (actor : Option Id) (reason : String)
  | cancelAsk (pid : Id) (answer : Option String)
  | cancelReport (pid : Id)
  | cancelFinish (pid : Id) (now : Time)
  | payBegin (pid orderId : Id)
  | payRetrieved (pid : Id) (word : String)
  | payCreated (pid : Id) (providerPaymentId : String)
  | payRecord (pid newId : Id)
  | payOrphan (pid : Id) (answer : Option String)
  | payWinner (pid : Id) (word : String)
  | refundBegin (pid refundId : Id)
  | refundAnswer (pid : Id) (report : RefundReport) (now : Time)
  | refundError (pid : Id) (message : String)

namespace Sys

def proc? (s : Sys) (pid : Id) : Option Proc := (s.procs.get? pid).map (·.proc)

/-- The process is gone; its last transaction left the database as `db`. -/
def finish (s : Sys) (pid : Id) (db : Db) : Sys := ⟨db, s.procs.erase pid⟩

/-- The process goes on as `p`. -/
def continue_ (s : Sys) (pid : Id) (db : Db) (p : Proc) : Sys := ⟨db, s.procs.replace ⟨pid, p⟩⟩

/-- A new process, if the name is free. -/
def spawn (s : Sys) (pid : Id) (db : Db) (p : Proc) : Option Sys :=
  (s.procs.insert? ⟨pid, p⟩).map fun procs => ⟨db, procs⟩

/-- The last transaction of a process: its result, or a rollback. -/
def finishWith (s : Sys) (pid : Id) : Result Db → Sys
  | .ok db => s.finish pid db
  | .error _ => s.finish pid s.db

/-- A transaction after which the process may go on. -/
def continueWith (s : Sys) (pid : Id) : Result (Db × Option PayCall) → Sys
  | .ok (db, some call) => s.continue_ pid db (.pay call)
  | .ok (db, none) => s.finish pid db
  | .error _ => s.finish pid s.db

/-- A delivery of this event has claimed the key and is still open: another delivery, or the failure
    recorder, waits for it. -/
def keyHeld (s : Sys) (provider : Provider) (eventId : String) : Bool :=
  s.procs.rows.any fun x => x.proc.holdsKey provider eventId

/-- A worker holds the row lock of this deferred event. -/
def rowLocked (s : Sys) (provider : Provider) (eventId : String) : Bool :=
  s.procs.rows.any fun x => x.proc.locksRow provider eventId

end Sys

/-! ### Steps -/

/-- `_verify_webhook`: the event is verified by a stored configuration of its provider, or by the
    environment's Stripe when that provider has none. -/
def verified (db : Db) (e : WebhookEvent) : Prop :=
  (∀ c ∈ e.configId, ∃ row ∈ db.configs.get? c, row.provider = e.provider) ∧
    (e.configId = none → e.provider = .stripe ∧ ∀ row ∈ db.configs.rows, row.provider ≠ .stripe)

instance (db : Db) (e : WebhookEvent) : Decidable (verified db e) :=
  inferInstanceAs (Decidable (_ ∧ _))

/-- `mark_webhook_verified`, in the transaction of the delivery. -/
def markWebhookVerified (db : Db) (configId : Option Id) : Db :=
  match configId.bind db.configs.get? with
  | some c => { db with configs := db.configs.replace { c with webhookVerified := true } }
  | none => db

/-- A delivery: a duplicate ends here, an event it may claim opens a transaction. -/
def deliver (s : Sys) (pid : Id) (e : WebhookEvent) : Option Sys :=
  if verified s.db e ∧ s.keyHeld e.provider e.eventId = false then
    if claimable s.db e then s.spawn pid s.db (.delivery e s.db)
    else some { s with db := markWebhookVerified s.db e.configId }
  else none

/-- The rest of the delivery's transaction, or its rollback. -/
def process (cfg : Settings) (s : Sys) (pid : Id) (e : WebhookEvent) (seen : Db) (newId : Id)
    (now : Time) : Sys :=
  match processWebhookEvent cfg seen (markWebhookVerified s.db e.configId) e newId now with
  | .ok db => s.finish pid db
  | .error _ => s.continue_ pid s.db (.failed e)

/-- `claim_due_deferred` for one row. -/
def recoverBegin (s : Sys) (pid : Id) (provider : Provider) (eventId : String) (now : Time) :
    Option Sys :=
  match s.db.deferred.get? (provider, eventId) with
  | none => none
  | some row =>
    if row.status = .pending ∧ row.nextAttemptAt ≤ now ∧ s.rowLocked provider eventId = false then
      s.spawn pid s.db (.recovery row s.db)
    else none

/-- One step of the store; `none` when the label is not enabled. -/
def step (cfg : Settings) (s : Sys) : Label → Option Sys
  | .begin_ pid op => s.spawn pid s.db (.tx op s.db)
  | .commit pid now =>
    match s.proc? pid with
    | some (.tx op seen) => some (s.finishWith pid (op.run cfg seen s.db now))
    | _ => none
  | .crash pid => (s.proc? pid).map fun _ => s.finish pid s.db
  | .deliver pid e => deliver s pid e
  | .process pid newId now =>
    match s.proc? pid with
    | some (.delivery e seen) => some (process cfg s pid e seen newId now)
    | _ => none
  | .abort pid =>
    match s.proc? pid with
    | some (.delivery e _) => some (s.continue_ pid s.db (.failed e))
    | _ => none
  | .recordFailure pid message =>
    match s.proc? pid with
    | some (.failed e) =>
      if s.keyHeld e.provider e.eventId then none
      else some (s.finishWith pid (recordFailedEvent s.db e message))
    | _ => none
  | .recoverBegin pid provider eventId now => recoverBegin s pid provider eventId now
  | .recoverCommit pid newId now =>
    match s.proc? pid with
    | some (.recovery row seen) => some (s.finish pid (recoverRow cfg seen s.db row newId now))
    | _ => none
  | .cancelBegin pid orderId actor reason =>
    match cancelBegin s.db orderId actor reason with
    | .ok (some call) => s.spawn pid s.db (.cancel call)
    | _ => none
  | .cancelAsk pid answer =>
    match s.proc? pid with
    | some (.cancel call) =>
      (cancelAsk s.db call answer).map fun call => s.continue_ pid s.db (.cancel call)
    | _ => none
  | .cancelReport pid =>
    match s.proc? pid with
    | some (.cancel call) =>
      if call.toCancel = [] ∧ call.outcomes.any (fun a => a.completed || a.uncertain) then
        some (s.finish pid (cancelReport s.db call))
      else none
    | _ => none
  | .cancelFinish pid now =>
    match s.proc? pid with
    | some (.cancel call) =>
      if call.toCancel = [] ∧ call.outcomes.all (fun a => !a.completed && !a.uncertain) then
        some (s.finishWith pid (cancelFinish s.db call now))
      else none
    | _ => none
  | .payBegin pid orderId =>
    match planPayment cfg s.db orderId with
    | .ok call => s.spawn pid s.db (.pay call)
    | .error _ => none
  | .payRetrieved pid word =>
    match s.proc? pid with
    | some (.pay call) =>
      match call.stage with
      | .retrieving paymentId => some (s.continueWith pid (payReuse s.db call paymentId word))
      | _ => none
    | _ => none
  | .payCreated pid ppid =>
    match s.proc? pid with
    | some (.pay call) =>
      if call.stage = .creating then some (s.continue_ pid s.db (.pay { call with stage := .recording ppid }))
      else none
    | _ => none
  | .payRecord pid newId =>
    match s.proc? pid with
    | some (.pay call) =>
      match call.stage with
      | .recording ppid => some (s.continueWith pid (payRecord s.db call ppid newId))
      | _ => none
    | _ => none
  | .payOrphan pid answer =>
    match s.proc? pid with
    | some (.pay call) =>
      match call.stage with
      | .orphaned ppid winner =>
        some (s.continueWith pid
          (.ok (cancelOrphanIntent s.db call ppid answer, call.afterOrphan winner)))
      | _ => none
    | _ => none
  | .payWinner pid _ =>
    match s.proc? pid with
    | some (.pay call) =>
      match call.stage with
      | .winning _ => some (s.finish pid s.db)
      | _ => none
    | _ => none
  | .refundBegin pid refundId =>
    match beginRefundAttempt s.db refundId with
    | .ok (db, some attempt) => s.spawn pid db (.refund attempt)
    | .ok (db, none) => some { s with db := db }
    | .error _ => none
  | .refundAnswer pid report now =>
    match s.proc? pid with
    | some (.refund attempt) => some (s.finishWith pid (finishRefund s.db attempt.refundId report now))
    | _ => none
  | .refundError pid message =>
    match s.proc? pid with
    | some (.refund attempt) =>
      some (s.finishWith pid (recordRefundAttemptFailed cfg s.db attempt.refundId message))
    | _ => none

/-- Where every run starts: some catalogue and some provider configurations, nothing sold yet. -/
structure Initial (s : Sys) : Prop where
  items : s.db.stock.items = .empty
  restocks : s.db.stock.restocks = .empty
  orders : s.db.orders = .empty
  payments : s.db.payments = .empty
  refunds : s.db.refunds = .empty
  disputes : s.db.disputes = .empty
  reconciliations : s.db.reconciliations = .empty
  events : s.db.events = .empty
  deferred : s.db.deferred = .empty
  returns : s.db.returns = .empty
  shipments : s.db.shipments = .empty
  invoices : s.db.invoices = .empty
  procs : s.procs = .empty
  /-- the foreign keys of the catalogue -/
  variantProducts : ∀ v ∈ s.db.stock.variants.rows,
    ∃ p ∈ s.db.stock.products.rows, p.id = v.productId ∧ p.optionCount = v.optionCount

/-- A store that sells one product and has no provider configuration of its own. -/
def smallShop : Sys where
  db := {
    stock := {
      products := ⟨[{ id := 1, stock := 5, optionCount := 0, status := .active, priceCents := 100
                      stockNonNegative := by decide, stockZeroWithOptions := by decide }], by decide⟩
      variants := .empty, items := .empty, restocks := .empty, movements := [] }
    orders := .empty, history := [], payments := .empty, refunds := .empty, disputes := .empty
    reconciliations := .empty, events := .empty, deferred := .empty, configs := .empty
    returns := .empty, shipments := .empty, invoices := .empty, businessProfile := false }
  procs := .empty

def smallSettings : Settings where
  webhookRecoveryIntervalSeconds := 60
  webhookRecoveryWindowMinutes := 60
  webhookRecoveryMaxAttempts := 5
  refundMaxAttempts := 3
  returnWindowDays := 30
  pendingOrderTimeoutMinutes := 30
  enabledPaymentCurrencies := ["usd"]
  livePaymentsEnabled := false

theorem smallShop_initial : Initial smallShop := by
  constructor
  all_goals first | rfl | decide

/-- Two pieces of the product, as order `id`. -/
def buyTwo (id : Id) : Op :=
  .checkout {
    orderId := id, userId := some 1, currency := "usd", firstItemId := 10 * id
    lines := [{ productId := 1, variantId := none, quantity := 2, priceCentsSnapshot := 100 }]
    pricing := fun subtotal => .ok (subtotal, false) }

/-- The provider's word that the intent of such an order was paid. -/
def paidEvent (eventId ppid : String) : WebhookEvent :=
  { eventId := eventId, eventType := .paymentSucceeded, providerPaymentId := ppid, amount := some 200
    currency := some "usd" }

/-- Order 1, paid through the intent `pi_1` of payment 1. -/
def paidOrder : List Label :=
  [.begin_ 1 (buyTwo 1), .commit 1 0, .payBegin 1 1, .payCreated 1 "pi_1", .payRecord 1 1,
   .deliver 1 (paidEvent "evt_1" "pi_1"), .process 1 0 0]

/-- Refund 1 of that payment, requested and handed to the provider by process 1. -/
def submittedRefund : List Label :=
  [.begin_ 1 (.requestRefund 1 9 none false 1), .commit 1 0, .refundBegin 1 1]

/-- The provider's word that the whole of it was refunded. -/
def refundSucceeded : RefundReport := ⟨some "succeeded", some 200, some "usd", some "re_1"⟩

/-- The runs of the store. -/
abbrev Run (cfg : Settings) (s₀ : Sys) (tr : List (Taken Sys Label)) (s : Sys) : Prop :=
  Exec (step cfg) s₀ tr s

end NovaCart
