import NovaCart.System

/-! Checkout as a request (`OrderService.checkout` around the sale, `OrderRepository`, `CartRepository`,
    `cart_digest`).

    A checkout is one transaction of several statements, each of which sees what is committed when it
    runs: it takes the advisory lock of its identity and key, looks for an earlier order with them,
    reads the cart, and sells. Other transactions may commit between any two of these. -/

namespace NovaCart

open Schemes

/-! ### What a request is recognised by -/

/-- Who a cart and its orders belong to. -/
inductive CartOwner
  | user (userId : Id)
  | guest (token : String)
  deriving DecidableEq, Repr

/-- Who checks out. A guest must give an email address. -/
inductive Caller
  | user (userId : Id)
  | guest (token email : String) (given : email ≠ "")
  deriving DecidableEq, Repr

def Caller.owner : Caller → CartOwner
  | .user userId => .user userId
  | .guest token _ _ => .guest token

def Caller.guestEmail : Caller → Option String
  | .user _ => none
  | .guest _ email _ => some email

def CartOwner.userId : CartOwner → Option Id
  | .user userId => some userId
  | .guest _ => none

structure ShippingAddressInput where
  recipientName : String
  line1 : String
  line2 : Option String
  city : String
  state : String
  postalCode : String
  country : String
  deriving DecidableEq, Repr

structure CheckoutCall where
  caller : Caller
  idempotencyKey : String
  addressId : Option Id
  shippingAddress : Option ShippingAddressInput
  couponCode : Option String
  deriving DecidableEq, Repr

/-- A JSON document; an object is the chain of its fields. -/
inductive Json
  | null
  | int (n : Nat)
  | str (s : String)
  | done
  | field (name : String) (value rest : Json)
  deriving DecidableEq, Repr

def Json.obj (fields : List (String × Json)) : Json :=
  fields.foldr (fun f rest => .field f.1 f.2 rest) .done

def Json.ofOption {α : Type} (f : α → Json) : Option α → Json
  | none => .null
  | some a => f a

/-- `asdict`, with sorted keys. -/
def ShippingAddressInput.json (a : ShippingAddressInput) : Json :=
  .obj [("city", .str a.city), ("country", .str a.country), ("line1", .str a.line1),
    ("line2", .ofOption .str a.line2), ("postal_code", .str a.postalCode),
    ("recipient_name", .str a.recipientName), ("state", .str a.state)]

/-- The coupon, if one was sent at all. -/
def CheckoutCall.coupon (call : CheckoutCall) : Option String := call.couponCode.filter (· ≠ "")

/-- The canonical request of `_request_fingerprint`, with sorted keys; the coupon enters only when
    there is one. -/
def CheckoutCall.canonical (call : CheckoutCall) : Json :=
  .obj ([("address_id", .ofOption .int call.addressId)]
    ++ (call.coupon.toList.map fun code => ("coupon_code", .str code))
    ++ [("guest_email", .ofOption .str call.caller.guestEmail),
      ("shipping_address", .ofOption ShippingAddressInput.json call.shippingAddress)])

/-- The advisory lock of a checkout. -/
def CheckoutCall.scope (call : CheckoutCall) : String :=
  "checkout:" ++ (match call.caller.owner with
    | .user userId => "user:" ++ toString userId
    | .guest token => "guest:" ++ token) ++ ":" ++ call.idempotencyKey

/-- `f"{product_id}:{variant_id or 0}:{quantity}"`. -/
def CartLine.digestPart (l : CartLine) : List Char :=
  [':'].intercalate
    [(toString l.productId).toList, (toString (l.variantId.getD 0)).toList, (toString l.quantity).toList]

/-- What `cart_digest` hashes: the parts in order, joined by bars. -/
def cartText (lines : List CartLine) : List Char :=
  ['|'].intercalate ((lines.map CartLine.digestPart).insertionSort (· ≤ ·))

/-- What is given to SHA-256: the text of a canonical request, or of a cart. -/
inductive Hashed
  | request (canonical : Json)
  | cart (text : List Char)
  deriving DecidableEq, Repr

/-! ### Rows -/

structure CartItem where
  id : Id
  line : CartLine
  /-- ids of variants count from 1 -/
  variantCounts : line.variantId ≠ some 0
  deriving DecidableEq, Repr

def CartItem.withPrice (i : CartItem) (priceCents : ℤ) : CartItem :=
  ⟨i.id, { i.line with priceCentsSnapshot := priceCents }, i.variantCounts⟩

def CartItem.withQuantity (i : CartItem) (quantity : ℤ) : CartItem :=
  ⟨i.id, { i.line with quantity := quantity }, i.variantCounts⟩

structure Cart where
  owner : CartOwner
  items : List CartItem
  deriving DecidableEq, Repr

/-- The columns of an order that only checkout writes and reads; `Hash` is the type of the digests. -/
structure CheckoutRecord (Hash : Type) where
  orderId : Id
  owner : CartOwner
  idempotencyKey : String
  requestHash : Option Hash
  cartDigest : Option Hash
  deriving DecidableEq, Repr

inductive CheckoutPhase (Hash : Type)
  /-- waits for the advisory lock -/
  | waiting
  | locked
  /-- an order with the identity and the key was found, and asks for the cart -/
  | found (record : CheckoutRecord Hash)
  /-- there was none -/
  | fresh
  /-- the cart was read -/
  | read (items : List CartItem)
  deriving DecidableEq, Repr

structure CheckoutSession (Hash : Type) where
  id : Nat
  call : CheckoutCall
  phase : CheckoutPhase Hash
  deriving DecidableEq, Repr

instance : Keyed Cart CartOwner := ⟨Cart.owner⟩
instance {Hash : Type} : Keyed (CheckoutRecord Hash) Id := ⟨CheckoutRecord.orderId⟩
instance {Hash : Type} : Keyed (CheckoutSession Hash) Nat := ⟨CheckoutSession.id⟩

structure Checkouts (Hash : Type) where
  db : Db
  carts : Table Cart
  records : Table (CheckoutRecord Hash)
  sessions : Table (CheckoutSession Hash)
  /-- the next fresh id -/
  next : Nat

/-- What a call is told. -/
inductive Answer
  | order (orderId : Id)
  /-- the key was used with a different request -/
  | conflict
  | emptyCart
  /-- the prices of the cart changed; it is up to date now -/
  | priceChanged
  | refused (e : Err)
  deriving DecidableEq, Repr

/-- What a sale takes from the parts of the store that are not modelled here. -/
structure SaleTerms where
  currency : String
  firstItemId : Id
  pricing : ℤ → Result (ℤ × Bool)
  now : Time

namespace Checkouts

variable {Hash : Type}

def cartItems (s : Checkouts Hash) (owner : CartOwner) : List CartItem :=
  ((s.carts.get? owner).map Cart.items).getD []

/-- `get_by_idempotency_key`. -/
def byIdempotencyKey (s : Checkouts Hash) (owner : CartOwner) (key : String) : Option (CheckoutRecord Hash) :=
  s.records.rows.find? fun r => r.owner = owner && r.idempotencyKey = key

/-- The cart of the owner with its lines rewritten. -/
def editCart (s : Checkouts Hash) (owner : CartOwner) (f : List CartItem → List CartItem) : Checkouts Hash :=
  match s.carts.get? owner with
  | none => s
  | some cart => { s with carts := s.carts.replace { cart with items := f cart.items } }

/-- The transaction ends. -/
def finish (s : Checkouts Hash) (id : Nat) : Checkouts Hash := { s with sessions := s.sessions.erase id }

def goOn (s : Checkouts Hash) (session : CheckoutSession Hash) (phase : CheckoutPhase Hash) : Checkouts Hash :=
  { s with sessions := s.sessions.replace { session with phase := phase } }

/-- The advisory lock is held by another transaction. -/
def scopeHeld (s : Checkouts Hash) (scope : String) : Prop :=
  ∃ o ∈ s.sessions.rows, o.call.scope = scope ∧ o.phase ≠ .waiting

instance [DecidableEq Hash] (s : Checkouts Hash) (scope : String) : Decidable (s.scopeHeld scope) :=
  inferInstanceAs (Decidable (∃ o ∈ s.sessions.rows, _))

/-- `CartRepository.clear`: the lines that were read are deleted, whether or not they are still there. -/
def clearLines (s : Checkouts Hash) (owner : CartOwner) (items : List CartItem) : Checkouts Hash :=
  s.editCart owner (List.filter fun i => i.id ∉ items.map CartItem.id)

/-- `set_price_snapshot` for the lines whose price changed; a line that is gone makes the update fail. -/
def refreshPrices (s : Checkouts Hash) (owner : CartOwner) (read : List CartItem) : Option (Checkouts Hash) := do
  let basket ← (Basket.addLines s.db.stock {} ((read.map CartItem.line).insertionSort CartLine.before)).toOption
  let changed := read.filterMap fun i =>
    (basket.sold.find? fun e => e.1 = i.line && e.2 ≠ i.line.priceCentsSnapshot).map fun e => (i.id, e.2)
  if ∀ c ∈ changed, ∃ i ∈ s.cartItems owner, i.id = c.1 then
    some (s.editCart owner (List.map fun i =>
      match changed.find? fun c => c.1 = i.id with
      | some c => i.withPrice c.2
      | none => i))
  else none

/-- A new line, for a product or variant the cart does not hold yet. -/
def addLine (s : Checkouts Hash) (owner : CartOwner) (line : CartLine) : Option (Checkouts Hash) :=
  if h : line.variantId ≠ some 0 then
    if 0 < line.quantity ∧ ∀ i ∈ s.cartItems owner,
        (i.line.productId, i.line.variantId) ≠ (line.productId, line.variantId) then
      let s' := { s with next := s.next + 1 }
      match s.carts.get? owner with
      | some _ => some (s'.editCart owner (· ++ [⟨s.next, line, h⟩]))
      | none => (s.carts.insert? ⟨owner, [⟨s.next, line, h⟩]⟩).map fun carts => { s' with carts := carts }
    else none
  else none

variable (sha256 : Hashed → Hash)

/-- The order of a checkout, with its columns for later calls. -/
def record (s : Checkouts Hash) (call : CheckoutCall) (items : List CartItem) : CheckoutRecord Hash where
  orderId := s.next
  owner := call.caller.owner
  idempotencyKey := call.idempotencyKey
  requestHash := some (sha256 (.request call.canonical))
  cartDigest := some (sha256 (.cart (cartText (items.map CartItem.line))))

/-- From the product locks to the end of the transaction: the sale, the order and the cart. -/
def sell (s : Checkouts Hash) (session : CheckoutSession Hash) (items : List CartItem) (terms : SaleTerms) :
    Checkouts Hash × Answer :=
  let owner := session.call.caller.owner
  match checkout s.db {
      orderId := s.next, userId := owner.userId, currency := terms.currency, lines := items.map CartItem.line
      firstItemId := terms.firstItemId, pricing := terms.pricing } terms.now with
  | .error (.priceChanged _) =>
    match s.refreshPrices owner items with
    | some s' => (s'.finish session.id, .priceChanged)
    | none => (s.finish session.id, .refused (.runtime "StaleDataError"))
  | .error e => (s.finish session.id, .refused e)
  | .ok db =>
    match s.byIdempotencyKey owner session.call.idempotencyKey,
        s.records.insert? (s.record sha256 session.call items) with
    | none, some records =>
      let sold := { s with db := db, records := records, next := s.next + 1 }
      ((sold.clearLines owner items).finish session.id, .order s.next)
    | _, _ => (s.finish session.id, .refused (.integrity "uq_orders_idempotency_key"))

end Checkouts

/-! ### Histories -/

inductive CheckoutLabel
  | begin (call : CheckoutCall)
  | lock (id : Nat)
  | lookup (id : Nat)
  | compare (id : Nat)
  /-- the request is refused before the cart is read: pricing, currency, address or delivery -/
  | refuse (id : Nat) (e : Err)
  | readCart (id : Nat)
  | sell (id : Nat) (terms : SaleTerms)
  /-- the transaction is rolled back -/
  | drop (id : Nat)
  | addLine (owner : CartOwner) (line : CartLine)
  | setQuantity (owner : CartOwner) (itemId : Id) (quantity : ℤ)
  | removeLine (owner : CartOwner) (itemId : Id)
  /-- any other transaction of the store -/
  | store (cfg : Settings) (o : Op) (now : Time)

def Op.isCheckout : Op → Bool
  | .checkout _ => true
  | _ => false

section

variable {Hash : Type} [DecidableEq Hash] (sha256 : Hashed → Hash)

/-- One committed statement or transaction, and what it tells the call it ends. -/
def checkoutRound (s : Checkouts Hash) : CheckoutLabel → Option (Checkouts Hash × Option (CheckoutCall × Answer))
  | .begin call => do
    let sessions ← s.sessions.insert? ⟨s.next, call, .waiting⟩
    some ({ s with sessions := sessions, next := s.next + 1 }, none)
  | .lock id => do
    let session ← s.sessions.get? id
    if session.phase = .waiting ∧ ¬s.scopeHeld session.call.scope then some (s.goOn session .locked, none) else none
  | .lookup id => do
    let session ← s.sessions.get? id
    if session.phase = .locked then
      let call := session.call
      match s.byIdempotencyKey call.caller.owner call.idempotencyKey with
      | none => some (s.goOn session .fresh, none)
      | some r =>
        if r.requestHash ≠ none ∧ r.requestHash ≠ some (sha256 (.request call.canonical)) then
          some (s.finish id, some (call, .conflict))
        else if r.cartDigest = none then some (s.finish id, some (call, .order r.orderId))
        else some (s.goOn session (.found r), none)
    else none
  | .compare id => do
    let session ← s.sessions.get? id
    match session.phase with
    | .found r =>
      let waiting := s.cartItems session.call.caller.owner
      let differs := waiting ≠ [] ∧ r.cartDigest ≠ some (sha256 (.cart (cartText (waiting.map CartItem.line))))
      some (s.finish id, some (session.call, if differs then .conflict else .order r.orderId))
    | _ => none
  | .refuse id e => do
    let session ← s.sessions.get? id
    if session.phase = .fresh then some (s.finish id, some (session.call, .refused e)) else none
  | .readCart id => do
    let session ← s.sessions.get? id
    if session.phase = .fresh then
      match s.cartItems session.call.caller.owner with
      | [] => some (s.finish id, some (session.call, .emptyCart))
      | items => some (s.goOn session (.read items), none)
    else none
  | .sell id terms => do
    let session ← s.sessions.get? id
    match session.phase with
    | .read items =>
      let (s', answer) := s.sell sha256 session items terms
      some (s', some (session.call, answer))
    | _ => none
  | .drop id => do
    let _ ← s.sessions.get? id
    some (s.finish id, none)
  | .addLine owner line => (s.addLine owner line).map fun s' => (s', none)
  | .setQuantity owner itemId quantity =>
    if 0 < quantity then
      some (s.editCart owner (List.map fun i =>
        if i.id = itemId then i.withQuantity quantity else i), none)
    else none
  | .removeLine owner itemId => some (s.editCart owner (List.filter fun i => i.id ≠ itemId), none)
  | .store cfg o now =>
    if o.isCheckout then none
    else do
      let db ← (o.run cfg s.db s.db now).toOption
      some ({ s with db := db }, none)

def checkoutStep (s : Checkouts Hash) (l : CheckoutLabel) : Option (Checkouts Hash) :=
  (checkoutRound sha256 s l).map Prod.fst

/-- The step ends the call with this answer. -/
def Answers (t : Taken (Checkouts Hash) CheckoutLabel) (call : CheckoutCall) (answer : Answer) : Prop :=
  (checkoutRound sha256 t.pre t.label).bind Prod.snd = some (call, answer)

abbrev CheckoutRun (s₀ : Checkouts Hash) (tr : List (Taken (Checkouts Hash) CheckoutLabel))
    (s : Checkouts Hash) : Prop :=
  Exec (checkoutStep sha256) s₀ tr s

/-- No request is under way, and no order was made with a key. -/
structure Checkouts.Initial (s : Checkouts Hash) : Prop where
  records : s.records = .empty
  sessions : s.sessions = .empty
  /-- fresh ids are fresh, and a line is in one cart -/
  lines : ∀ owner, ∀ i ∈ s.cartItems owner, i.id < s.next
  oneCart : ∀ owner owner', ∀ i ∈ s.cartItems owner, ∀ i' ∈ s.cartItems owner', i.id = i'.id → owner = owner'

end

end NovaCart
