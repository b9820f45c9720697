import NovaCart.Sales
import NovaCart.Schemes.Run

/-! The stock ledger as the database keeps it (`variant_guard.py`, `stock_context.py`), under READ COMMITTED.

    Triggers write the rows. Why the stock changed they read from settings of the session, which the
    application puts in place around its statements. Requests are interleaved statement by statement; one
    that the database refuses leaves only a rollback, of the request or to its savepoint, and these may
    come at any time. -/

namespace NovaCart

open Schemes
open Keyed (key)

/-- What has stock: a product, or a variant of it. -/
structure StockUnit where
  productId : Id
  variantId : Option Id
  deriving DecidableEq, Repr

/-! ### Settings and triggers -/

/-- `novacart.stock_kind`, `stock_actor`, `stock_reason` and `stock_order`; an empty text is as none. -/
structure StockSettings where
  kind : Option MovementKind
  actor : Option Id
  reason : Option String
  order : Option Id
  deriving DecidableEq, Repr

def StockSettings.cleared : StockSettings := ⟨none, none, none, none⟩

/-- One row of `stock_movements`. -/
structure MovementRow where
  id : Nat
  kind : MovementKind
  unit : StockUnit
  delta : ℤ
  beforeQty : ℤ
  afterQty : ℤ
  actorUserId : Option Id
  reason : Option String
  orderId : Option Id
  deriving DecidableEq, Repr

def btrim (text : String) : List Char :=
  ((text.toList.dropWhile (· = ' ')).reverse.dropWhile (· = ' ')).reverse

/-- The CHECK constraints of the table. -/
def MovementRow.admissible (r : MovementRow) : Prop :=
  r.delta ≠ 0 ∧ r.afterQty = r.beforeQty + r.delta ∧ 0 ≤ r.afterQty ∧ 0 ≤ r.beforeQty ∧
    (r.kind ∈ [MovementKind.adminSet, .adminDelta] →
      r.actorUserId.isSome = true ∧ ∃ reason ∈ r.reason, 3 ≤ (btrim reason).length)

instance (r : MovementRow) : Decidable r.admissible :=
  inferInstanceAs (Decidable (_ ∧ _ ∧ _ ∧ _ ∧ (_ → _ ∧ ∃ reason ∈ r.reason, _)))

inductive TgOp
  | insert | update | delete
  deriving DecidableEq, Repr

/-- `stock_ledger_guard`: a row is inserted from within a trigger or not at all, and stays. -/
def stockLedgerGuard (op : TgOp) (depth : Nat) : Bool :=
  match op with
  | .update | .delete => false
  | .insert => 2 ≤ depth

/-- The row of `stock_ledger_write`. -/
def stockLedgerWrite (settings : StockSettings) (op : TgOp) (id : Nat) (unit : StockUnit) (before after : ℤ) :
    MovementRow where
  id := id
  kind := settings.kind.getD (if op = .insert then .initial else .unspecified)
  unit := unit
  delta := after - before
  beforeQty := before
  afterQty := after
  actorUserId := settings.actor
  reason := settings.reason
  orderId := settings.order

/-! ### Statements -/

/-- A Python dictionary of changes. -/
structure StockDeltas where
  entries : List (StockUnit × ℤ)
  nodup : (entries.map Prod.fst).Nodup

def StockDeltas.nonzero (d : StockDeltas) : StockDeltas where
  entries := d.entries.filter fun e => e.2 ≠ 0
  nodup := d.nodup.sublist (List.filter_sublist.map _)

def StockDeltas.units (d : StockDeltas) : List StockUnit := d.entries.map Prod.fst

inductive StockSql
  | setConfig (isLocal : Bool) (settings : StockSettings)
  | insert (unit : StockUnit) (stock : ℤ)
  /-- `UPDATE ... SET stock = :stock WHERE id = :id` -/
  | setStock (unit : StockUnit) (stock : ℤ)
  /-- one UPDATE, `stock = stock + CASE`; for variants the affected rows are counted -/
  | addStock (deltas : StockDeltas) (counted : Bool)
  | delete (unit : StockUnit)

/-- `stock_change` around some statements. -/
def stockChange (kind : MovementKind) (actor : Option Id) (reason : Option String) (order : Option Id)
    (body : List StockSql) : List StockSql :=
  .setConfig true ⟨some kind, actor, reason.filter (· ≠ ""), order⟩ :: (body ++ [.setConfig true .cleared])

/-- `adjust_stock_many` and `adjust_variant_stock_many`. -/
def adjustMany (products variants : StockDeltas) : List StockSql :=
  (if products.nonzero.entries = [] then [] else [.addStock products.nonzero false]) ++
    if variants.nonzero.entries = [] then [] else [.addStock variants.nonzero true]

/-- The INSERTs of `_create_variants`. -/
def insertAll (productId : Id) (variants : List (Id × ℤ)) : List StockSql :=
  variants.map fun v => .insert ⟨productId, some v.1⟩ v.2

/-! ### Operations -/

/-- What the services do with stock; a reason is as `strip` leaves it. -/
inductive StockOp
  | createProduct (id : Id) (stock : ℤ)
  | updateProduct (id : Id) (stock : Option ℤ) (reason : String) (actor : Id)
  | createVariants (productId : Id) (variants : List (Id × ℤ)) (actor : Id)
  | adjustStock (unit : StockUnit) (spec : StockAdjust) (reason : String) (actor : Id)
  | convertToVariants (productId : Id) (expectedStock : ℤ) (variants : List (Id × ℤ)) (reason : String) (actor : Id)
  | deleteVariant (productId id : Id)
  /-- a checkout -/
  | sale (order : Id) (products variants : StockDeltas)
  /-- `_restock_once` -/
  | release (order : Id) (products variants : StockDeltas)
  /-- `_restock` of a return -/
  | returned (order returnId : Id) (actor : Id) (products variants : StockDeltas)

namespace StockOp

/-- Why the operation moves stock. -/
def kind : StockOp → MovementKind
  | createProduct .. | createVariants .. => .initial
  | updateProduct .. => .adminSet
  | adjustStock _ spec _ _ => spec.kind
  | convertToVariants .. => .conversion
  | deleteVariant .. => .unspecified
  | sale .. => .sale
  | release .. | returned .. => .restock

def orderId : StockOp → Option Id
  | sale order .. | release order .. | returned order .. => some order
  | _ => none

/-- Locks of the products, then of the variants. -/
def locksOf (products variants : StockDeltas) : List StockUnit :=
  products.units ++ variants.units.map (fun u => ⟨u.productId, none⟩) ++ variants.units

/-- The rows it has locked before it looks at their stock; `update_product` locks none. -/
def locks : StockOp → List StockUnit
  | createProduct .. | updateProduct .. => []
  | createVariants productId .. => [⟨productId, none⟩]
  | adjustStock unit .. => [⟨unit.productId, none⟩, unit]
  | convertToVariants productId .. => [⟨productId, none⟩]
  | deleteVariant productId id => [⟨productId, none⟩, ⟨productId, some id⟩]
  | sale _ products variants | release _ products variants | returned _ _ _ products variants =>
    locksOf products variants

/-- The statements it sends, with the stock as it has read it. -/
def script (read : StockUnit → Option ℤ) : StockOp → Result (List StockSql)
  | createProduct id stock => .ok [.insert ⟨id, none⟩ stock]
  | updateProduct id stock reason actor => do
    let current ← need (read ⟨id, none⟩) (.productNotFound id)
    match stock with
    | none => .ok []
    | some stock => do
      require (3 ≤ reason.length) .stockReasonRequired
      if stock = current then .ok []
      else .ok (stockChange .adminSet (some actor) (some reason) none [.setStock ⟨id, none⟩ stock])
  | createVariants productId variants actor => do
    let _ ← need (read ⟨productId, none⟩) (.productNotFound productId)
    .ok (stockChange .initial (some actor) (some "variant created") none (insertAll productId variants))
  | adjustStock unit spec reason actor => do
    let _ ← need (read ⟨unit.productId, none⟩) (.productNotFound unit.productId)
    let before ← need (read unit) .variantNotFound
    require (0 ≤ spec.after before) (.stockWouldBeNegative before)
    if spec.after before = before then .ok []
    else .ok (stockChange spec.kind (some actor) (some reason) none [.setStock unit (spec.after before)])
  | convertToVariants productId expectedStock variants reason actor => do
    let old ← need (read ⟨productId, none⟩) (.productNotFound productId)
    require (expectedStock = old) (.stockChanged old)
    let allocated := (variants.map Prod.snd).sum
    require (allocated = old) (.stockAllocationMismatch allocated old)
    .ok (stockChange .conversion (some actor) (some reason) none
      ((if old = 0 then [] else [.setStock ⟨productId, none⟩ 0]) ++ insertAll productId variants))
  | deleteVariant productId id => .ok [.delete ⟨productId, some id⟩]
  | sale order products variants => .ok (stockChange .sale none none (some order) (adjustMany products variants))
  | release order products variants =>
    .ok (stockChange .restock none none (some order) (adjustMany products variants))
  | returned order returnId actor products variants =>
    .ok (stockChange .restock (some actor) (some ("customer return " ++ toString returnId)) (some order)
      (adjustMany products variants))

end StockOp

/-! ### Requests -/

/-- What a savepoint restores. -/
structure StockSavepoint where
  settings : StockSettings
  session : StockSettings
  own : StockUnit → Option (Option ℤ)
  movements : List MovementRow

/-- A transaction on a connection of the pool. -/
structure StockTx where
  id : Nat
  connection : Nat
  settings : StockSettings
  /-- the settings that outlive the transaction -/
  session : StockSettings
  /-- the rows it has locked, as it has left them -/
  own : StockUnit → Option (Option ℤ)
  /-- ledger rows not yet committed, newest first -/
  movements : List MovementRow
  saved : List StockSavepoint
  /-- the operation it is in, or the last one -/
  op : Option StockOp
  /-- what is left to send -/
  todo : List StockSql

instance : Keyed StockTx Nat := ⟨StockTx.id⟩

structure LedgerSystem where
  /-- the committed stock of the rows there are -/
  stock : StockUnit → Option ℤ
  /-- the committed ledger, newest first -/
  movements : List MovementRow
  /-- the settings of the pooled connections -/
  connections : Nat → StockSettings
  txs : Table StockTx
  /-- the sequence of the ledger's ids -/
  nextMovement : Nat

namespace LedgerSystem

def initial : LedgerSystem := ⟨fun _ => none, [], fun _ => .cleared, .empty, 1⟩

/-- The row as the transaction sees it. -/
def view (s : LedgerSystem) (x : StockTx) (u : StockUnit) : Option ℤ := (x.own u).getD (s.stock u)

/-- Another transaction has the row. -/
def taken (s : LedgerSystem) (x : StockTx) (u : StockUnit) : Prop :=
  ∃ y ∈ s.txs.rows, y.id ≠ x.id ∧ (y.own u).isSome = true

instance (s : LedgerSystem) (x : StockTx) (u : StockUnit) : Decidable (s.taken x u) :=
  inferInstanceAs (Decidable (∃ y ∈ s.txs.rows, _))

/-- The stock trigger of a row; it fires only when the stock differs (an inserted row had none). -/
def writeLedger (x : StockTx) (next : Nat) (op : TgOp) (u : StockUnit) (before after : ℤ) : Option (StockTx × Nat) :=
  if before = after then some (x, next)
  else
    let row := stockLedgerWrite x.settings op next u before after
    if stockLedgerGuard .insert 2 = true ∧ row.admissible then
      some ({ x with movements := row :: x.movements }, next + 1)
    else none

/-- The row with other stock, locked, and the trigger. -/
def putRow (x : StockTx) (next : Nat) (op : TgOp) (u : StockUnit) (before after : ℤ) : Option (StockTx × Nat) :=
  if 0 ≤ after then
    writeLedger { x with own := Function.update x.own u (some (some after)) } next op u before after
  else none

def updateRow (s : LedgerSystem) (x : StockTx) (next : Nat) (u : StockUnit) (f : ℤ → ℤ) : Option (StockTx × Nat) :=
  if s.taken x u then none else (s.view x u).bind fun before => putRow x next .update u before (f before)

def insertRow (s : LedgerSystem) (x : StockTx) (next : Nat) (u : StockUnit) (stock : ℤ) : Option (StockTx × Nat) :=
  if s.taken x u ∨ (s.view x u).isSome = true then none else putRow x next .insert u 0 stock

/-- Only a product may be missing without an error. -/
def addRows (s : LedgerSystem) (counted : Bool) : StockTx → Nat → List (StockUnit × ℤ) → Option (StockTx × Nat)
  | x, next, [] => some (x, next)
  | x, next, (u, delta) :: rest =>
    if counted = false ∧ s.view x u = none then s.addRows counted x next rest
    else (s.updateRow x next u fun stock => stock + delta).bind fun r => s.addRows counted r.1 r.2 rest

/-- The ledger refers to its variants, so only one without a row there can go. -/
def deleteRow (s : LedgerSystem) (x : StockTx) (next : Nat) (u : StockUnit) : Option (StockTx × Nat) :=
  if s.taken x u ∨ (s.view x u).isSome = false ∨ ∃ r ∈ x.movements ++ s.movements, r.unit = u then none
  else some ({ x with own := Function.update x.own u (some none) }, next)

def send (s : LedgerSystem) (x : StockTx) (next : Nat) : StockSql → Option (StockTx × Nat)
  | .setConfig true settings => some ({ x with settings := settings }, next)
  | .setConfig false settings => some ({ x with settings := settings, session := settings }, next)
  | .insert u stock => s.insertRow x next u stock
  | .setStock u stock => s.updateRow x next u fun _ => stock
  | .addStock deltas counted => s.addRows counted x next deltas.entries
  | .delete u => s.deleteRow x next u

/-- The rows that `SELECT ... FOR UPDATE` returned. -/
def lock (s : LedgerSystem) (x : StockTx) (units : List StockUnit) : Option StockTx :=
  if ∃ u ∈ units, s.taken x u then none
  else some { x with own := fun u => if u ∈ units then some (s.view x u) else x.own u }

/-- An operation locks, reads and decides what to send. -/
def startOp (s : LedgerSystem) (x : StockTx) (op : StockOp) : Option StockTx :=
  if x.todo = [] then
    (s.lock x op.locks).bind fun x =>
      match op.script (s.view x) with
      | .error _ => none
      | .ok todo => some { x with op := some op, todo := todo }
  else none

/-- The next statement of the operation. -/
def execNext (s : LedgerSystem) (x : StockTx) : Option (StockTx × Nat) :=
  match x.todo with
  | [] => none
  | sql :: todo => s.send { x with todo := todo } s.nextMovement sql

def beginTx (s : LedgerSystem) (id connection : Nat) : Option LedgerSystem :=
  if ∃ y ∈ s.txs.rows, y.connection = connection then none
  else
    let settings := s.connections connection
    (s.txs.insert? ⟨id, connection, settings, settings, fun _ => none, [], [], none, []⟩).map fun txs =>
      { s with txs := txs }

def commitTx (s : LedgerSystem) (x : StockTx) : Option LedgerSystem :=
  if x.todo = [] then
    some { s with
      stock := s.view x
      movements := x.movements ++ s.movements
      connections := Function.update s.connections x.connection x.session
      txs := s.txs.erase x.id }
  else none

end LedgerSystem

namespace StockTx

/-- An exception leaves the block of `stock_change`, whose `finally` clears the settings. -/
def leave (x : StockTx) : Option StockTx :=
  if x.todo = [] then none else some { x with todo := [.setConfig true .cleared] }

def savepoint (x : StockTx) : Option StockTx :=
  if x.todo = [] then some { x with saved := ⟨x.settings, x.session, x.own, x.movements⟩ :: x.saved } else none

def release (x : StockTx) : Option StockTx := some { x with saved := x.saved.tail }

def rollbackTo (x : StockTx) : Option StockTx :=
  match x.saved with
  | [] => none
  | p :: saved =>
    some { x with
      settings := p.settings
      session := p.session
      own := p.own
      movements := p.movements
      saved := saved
      todo := [] }

end StockTx

inductive LedgerLabel
  | begin_ (id connection : Nat)
  | start (id : Nat) (op : StockOp)
  | exec (id : Nat)
  | leave (id : Nat)
  | savepoint (id : Nat)
  | release (id : Nat)
  | rollbackTo (id : Nat)
  | commit (id : Nat)
  | abort (id : Nat)
  /-- a client's own statement on the ledger, which would leave these rows -/
  | byHand (op : TgOp) (rows : List MovementRow)

/-- What a transaction does with itself. -/
def LedgerSystem.onTx (s : LedgerSystem) (id : Nat) (f : StockTx → Option StockTx) : Option LedgerSystem :=
  (s.txs.get? id).bind fun x => (f x).map fun x' => { s with txs := s.txs.replace x' }

def ledgerStep (s : LedgerSystem) : LedgerLabel → Option LedgerSystem
  | .begin_ id connection => s.beginTx id connection
  | .start id op => s.onTx id fun x => s.startOp x op
  | .exec id =>
    (s.txs.get? id).bind fun x => (s.execNext x).map fun r =>
      { s with txs := s.txs.replace r.1, nextMovement := r.2 }
  | .leave id => s.onTx id StockTx.leave
  | .savepoint id => s.onTx id StockTx.savepoint
  | .release id => s.onTx id StockTx.release
  | .rollbackTo id => s.onTx id StockTx.rollbackTo
  | .commit id => (s.txs.get? id).bind s.commitTx
  | .abort id => some { s with txs := s.txs.erase id }
  | .byHand op rows => if stockLedgerGuard op 1 = true then some { s with movements := rows } else none

abbrev LedgerRun (tr : List (Taken LedgerSystem LedgerLabel)) (s : LedgerSystem) : Prop :=
  Exec ledgerStep .initial tr s

end NovaCart
