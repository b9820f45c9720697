import NovaCart.Checkouts

/-! Carts over time (`CartService`, `CartRepository`), under READ COMMITTED.

    A request reads in several statements, each of what is committed then, and writes at its end; the rows it writes
    are locked until it commits, so its writes are taken together there. A row that the session has loaded keeps the
    values it was loaded with. Catalogue rows change at any time. -/

namespace NovaCart

open Schemes
open Keyed (key)

/-! ### Rows -/

/-- What a line is of. A variant is of one product, so the two unique indexes are one rule. -/
structure CartUnit where
  productId : Id
  variantId : Option Id
  deriving DecidableEq, Repr

structure CartRow where
  id : Id
  owner : CartOwner
  deriving DecidableEq, Repr

structure CartEntry where
  id : Id
  cartId : Id
  unit : CartUnit
  quantity : ℕ
  priceCentsSnapshot : ℤ
  deriving DecidableEq, Repr

instance : Keyed CartRow Id := ⟨CartRow.id⟩
instance : Keyed CartEntry Id := ⟨CartEntry.id⟩

structure CartStore where
  carts : Table CartRow
  entries : Table CartEntry
  /-- the next id -/
  next : Nat

inductive CartError
  | productUnavailable
  | variantUnavailable
  | variantRequired
  | insufficientStock (available : ℤ)
  | cartFull (limit : Nat)
  | cartItemNotFound (itemId : Id)
  /-- errors of the database, and of a session whose row is gone -/
  | uniqueViolation
  | foreignKey
  | checkViolation
  | outOfRange
  | staleRow
  deriving DecidableEq, Repr

def maxCartLines : Nat := 50

def maxInt32 : ℕ := 2147483647

namespace CartStore

def empty : CartStore := ⟨.empty, .empty, 0⟩

def cartOf (s : CartStore) (owner : CartOwner) : Option CartRow := s.carts.rows.find? fun c => c.owner = owner

def entriesOf (s : CartStore) (cartId : Id) : List CartEntry := s.entries.rows.filter fun e => e.cartId = cartId

/-- `get_item_by_product` -/
def getItemByProduct (s : CartStore) (cartId : Id) (unit : CartUnit) : Option CartEntry :=
  s.entries.rows.find? fun e => e.cartId = cartId ∧ e.unit = unit

/-- The lines of an owner's cart. -/
def lines (s : CartStore) (owner : CartOwner) : List CartEntry :=
  match s.cartOf owner with
  | some cart => s.entriesOf cart.id
  | none => []

/-- How much of a unit is in the owner's cart. -/
def quantityOf (s : CartStore) (owner : CartOwner) (unit : CartUnit) : ℕ :=
  (((s.lines owner).filter fun e => e.unit = unit).map (·.quantity)).sum

end CartStore

/-! ### Writes -/

inductive CartWrite
  | createCart (owner : CartOwner)
  | setQuantity (entryId : Id) (quantity : ℕ)
  | insert (cartId : Id) (unit : CartUnit) (quantity : ℕ) (priceCents : ℤ)
  /-- into the cart that was made for its owner before -/
  | insertFirst (owner : CartOwner) (unit : CartUnit) (quantity : ℕ) (priceCents : ℤ)
  | delete (entryId : Id)
  | reassign (cartId : Id) (owner : CartOwner)
  /-- with the lines that are still in it -/
  | deleteCart (cartId : Id)
  deriving DecidableEq, Repr

def CartStore.insertEntry (s : CartStore) (cartId : Id) (unit : CartUnit) (quantity : ℕ) (priceCents : ℤ) :
    Except CartError CartStore :=
  if (s.carts.get? cartId).isNone then .error .foreignKey
  else if (s.getItemByProduct cartId unit).isSome then .error .uniqueViolation
  else if quantity = 0 then .error .checkViolation
  else if maxInt32 < quantity then .error .outOfRange
  else match s.entries.insert? ⟨s.next, cartId, unit, quantity, priceCents⟩ with
    | some entries => .ok { s with entries := entries, next := s.next + 1 }
    | none => .error .uniqueViolation

def CartStore.write (s : CartStore) : CartWrite → Except CartError CartStore
  | .createCart owner =>
    if (s.cartOf owner).isSome then .error .uniqueViolation
    else match s.carts.insert? ⟨s.next, owner⟩ with
      | some carts => .ok { s with carts := carts, next := s.next + 1 }
      | none => .error .uniqueViolation
  | .setQuantity entryId quantity =>
    match s.entries.get? entryId with
    | none => .error .staleRow
    | some e =>
      if quantity = 0 then .error .checkViolation
      else if maxInt32 < quantity then .error .outOfRange
      else .ok { s with entries := s.entries.replace { e with quantity := quantity } }
  | .insert cartId unit quantity priceCents => s.insertEntry cartId unit quantity priceCents
  | .insertFirst owner unit quantity priceCents =>
    match s.cartOf owner with
    | none => .error .foreignKey
    | some cart => s.insertEntry cart.id unit quantity priceCents
  | .delete entryId => .ok { s with entries := s.entries.erase entryId }
  | .reassign cartId owner =>
    match s.carts.get? cartId with
    | none => .error .staleRow
    | some row =>
      if (s.cartOf owner).isSome then .error .uniqueViolation
      else .ok { s with carts := s.carts.replace { row with owner := owner } }
  | .deleteCart cartId => .ok { s with
      carts := s.carts.erase cartId
      entries := s.entries.keep fun e => e.cartId ≠ cartId }

def CartStore.writeAll (s : CartStore) : List CartWrite → Except CartError CartStore
  | [] => .ok s
  | w :: ws =>
    match s.write w with
    | .ok s' => s'.writeAll ws
    | .error e => .error e

/-! ### What the service decides -/

/-- `_resolve_unit`: what is bought, and what it costs now. -/
def resolveUnit (products : Table Product) (variants : Table ProductVariant) (productId variantId : Option Id)
    (requested : ℕ) : Except CartError (CartUnit × ℤ) :=
  match variantId with
  | some variantId =>
    match variants.get? variantId with
    | none => .error .variantUnavailable
    | some variant =>
      if ∃ id ∈ productId, variant.productId ≠ id then .error .variantUnavailable
      else match products.get? variant.productId with
        | none => .error .variantUnavailable
        | some product =>
          if product.status ≠ .active ∨ variant.active = false then .error .variantUnavailable
          else if variant.stock < requested then .error (.insufficientStock variant.stock)
          else .ok (⟨product.id, some variant.id⟩, variant.priceOverrideCents.getD product.priceCents)
  | none =>
    match productId.bind products.get? with
    | none => .error .productUnavailable
    | some product =>
      if product.status ≠ .active then .error .productUnavailable
      else if 0 < product.optionCount then .error .variantRequired
      else if product.stock < requested then .error (.insufficientStock product.stock)
      else .ok (⟨product.id, none⟩, product.priceCents)

/-- The cart of an owner with the lines it was loaded with. -/
structure LoadedCart where
  row : CartRow
  items : List CartEntry
  deriving DecidableEq, Repr

/-- `get_cart_by_user_id`, `get_cart_by_guest_token` -/
def CartStore.load (s : CartStore) (owner : CartOwner) : Option LoadedCart :=
  (s.cartOf owner).map fun row => ⟨row, s.entriesOf row.id⟩

/-- What `add_item` is about to write. -/
structure CartAddition where
  owner : CartOwner
  /-- the cart of the owner, if it is not a new one -/
  cart : Option LoadedCart
  unit : CartUnit
  priceCents : ℤ
  quantity : ℕ
  /-- the line that is there -/
  existing : Option CartEntry
  deriving DecidableEq, Repr

def CartAddition.writes (a : CartAddition) : List CartWrite :=
  match a.cart, a.existing with
  | _, some e => [.setQuantity e.id (e.quantity + a.quantity)]
  | some cart, none => [.insert cart.row.id a.unit a.quantity a.priceCents]
  | none, none => [.createCart a.owner, .insertFirst a.owner a.unit a.quantity a.priceCents]

/-- The lines that were loaded with the cart. -/
def loadedItems (cart : Option LoadedCart) : List CartEntry := cart.elim [] LoadedCart.items

/-- An item of `by_line`. -/
structure MergeLine where
  /-- the line of the cart, if it is not a new one -/
  entryId : Option Id
  unit : CartUnit
  quantity : ℕ
  priceCents : ℤ
  changed : Bool
  deriving DecidableEq, Repr

def CartEntry.mergeLine (e : CartEntry) : MergeLine := ⟨some e.id, e.unit, e.quantity, e.priceCentsSnapshot, false⟩

def MergeLine.addTo (lines : List MergeLine) (source : CartEntry) : List MergeLine :=
  if ∃ l ∈ lines, l.unit = source.unit then
    lines.map fun l => if l.unit = source.unit then { l with quantity := l.quantity + source.quantity, changed := true } else l
  else lines ++ [⟨none, source.unit, source.quantity, source.priceCentsSnapshot, true⟩]

def MergeLine.write (cartId : Id) (l : MergeLine) : CartWrite :=
  match l.entryId with
  | some entryId => .setQuantity entryId l.quantity
  | none => .insert cartId l.unit l.quantity l.priceCents

/-- `merge_items_into_cart` -/
def mergeItemsIntoCart (cart : LoadedCart) (incoming : List CartEntry) : List CartWrite :=
  let lines := incoming.foldl MergeLine.addTo (cart.items.map CartEntry.mergeLine)
  (lines.filter (·.changed)).map (MergeLine.write cart.row.id)

/-- `merge_guest_cart_into_user`, on what it has read. -/
def mergeWrites (userId : Id) (guest user : Option LoadedCart) : List CartWrite :=
  match guest, user with
  | none, _ => []
  | some guest, none => [.reassign guest.row.id (.user userId)]
  | some guest, some user => mergeItemsIntoCart user guest.items ++ [.deleteCart guest.row.id]

/-- The merge with nothing in between. -/
def mergeGuestCartIntoUser (s : CartStore) (userId : Id) (guestToken : String) : Except CartError CartStore :=
  s.writeAll (mergeWrites userId (s.load (.guest guestToken)) (s.load (.user userId)))

/-! ### Requests -/

inductive CartRequest
  | addItem (owner : CartOwner) (productId variantId : Option Id) (quantity : ℕ)
  | updateItem (owner : CartOwner) (itemId : Id) (quantity : ℕ)
  | removeItem (owner : CartOwner) (itemId : Id)
  | clear (owner : CartOwner)
  | merge (userId : Id) (guestToken : String)
  deriving DecidableEq, Repr

inductive CartStage
  | start
  /-- a cart that is missing is made -/
  | cartLoaded (cart : Option LoadedCart)
  | resolved (cart : Option LoadedCart) (unit : CartUnit) (priceCents : ℤ)
  /-- the line that is there was read; its new quantity is still to be checked -/
  | lineFound (a : CartAddition) (e : CartEntry)
  | adding (a : CartAddition)
  | itemLoaded (e : CartEntry)
  | guestLoaded (guest : LoadedCart)
  | merging (guest user : Option LoadedCart)
  | writing (ws : List CartWrite)
  deriving DecidableEq, Repr

structure CartTx where
  id : Nat
  request : CartRequest
  stage : CartStage
  deriving DecidableEq, Repr

instance : Keyed CartTx Nat := ⟨CartTx.id⟩

structure CartSystem where
  store : CartStore
  products : Table Product
  variants : Table ProductVariant
  txs : Table CartTx

namespace CartSystem

/-- The next statement of a request, or the error that it ends with. -/
def read (s : CartSystem) (tx : CartTx) : Except CartError CartStage :=
  match tx.request, tx.stage with
  | .addItem owner _ _ _, .start => .ok (.cartLoaded (s.store.load owner))
  | .addItem _ productId variantId quantity, .cartLoaded cart =>
    (resolveUnit s.products s.variants productId variantId quantity).map fun (unit, price) => .resolved cart unit price
  | .addItem owner _ _ quantity, .resolved cart unit price =>
    match cart.bind fun c => s.store.getItemByProduct c.row.id unit with
    | some found =>
      let e := ((loadedItems cart).find? fun e => e.id = found.id).getD found
      .ok (.lineFound ⟨owner, cart, unit, price, quantity, some e⟩ e)
    | none =>
      if maxCartLines ≤ (loadedItems cart).length then .error (.cartFull maxCartLines)
      else .ok (.adding ⟨owner, cart, unit, price, quantity, none⟩)
  | .addItem _ _ _ quantity, .lineFound a e =>
    (resolveUnit s.products s.variants (some a.unit.productId) a.unit.variantId (e.quantity + quantity)).map fun _ =>
      .adding a
  | .updateItem owner itemId _, .start | .removeItem owner itemId, .start =>
    match s.store.entries.get? itemId with
    | none => .error (.cartItemNotFound itemId)
    | some e =>
      if (s.store.carts.get? e.cartId).map CartRow.owner = some owner then .ok (.itemLoaded e)
      else .error (.cartItemNotFound itemId)
  | .updateItem _ _ quantity, .itemLoaded e =>
    (resolveUnit s.products s.variants (some e.unit.productId) e.unit.variantId quantity).map fun _ =>
      .writing (if quantity = e.quantity then [] else [.setQuantity e.id quantity])
  | .removeItem _ _, .itemLoaded e => .ok (.writing [.delete e.id])
  | .clear owner, .start =>
    match s.store.load owner with
    | some cart => .ok (.writing (cart.items.map fun e => .delete e.id))
    | none => .ok (.writing [.createCart owner])
  | .merge _ guestToken, .start =>
    match s.store.load (.guest guestToken) with
    | some guest => .ok (.guestLoaded guest)
    | none => .ok (.merging none none)
  | .merge userId _, .guestLoaded guest => .ok (.merging (some guest) (s.store.load (.user userId)))
  | _, stage => .ok stage

end CartSystem

/-- What a request writes when it has read all it reads. -/
def CartTx.writes (tx : CartTx) : Option (List CartWrite) :=
  match tx.stage with
  | .adding a => some a.writes
  | .merging guest user =>
    match tx.request with
    | .merge userId _ => some (mergeWrites userId guest user)
    | _ => none
  | .writing ws => some ws
  | _ => none

inductive CartLabel
  | begin_ (id : Nat) (request : CartRequest)
  /-- the next statement; a request that is refused is over -/
  | read (id : Nat)
  /-- the writes and the commit; if one of them fails, all are undone -/
  | commit (id : Nat)
  | drop (id : Nat)
  | catalogue (products : Table Product) (variants : Table ProductVariant)

/-- What the commit of a request comes to. -/
def CartSystem.outcome (s : CartSystem) (id : Nat) : Option (Except CartError CartStore) :=
  (s.txs.get? id).bind fun tx => tx.writes.map s.store.writeAll

def cartStep (s : CartSystem) : CartLabel → Option CartSystem
  | .begin_ id request => (s.txs.insert? ⟨id, request, .start⟩).map fun txs => { s with txs := txs }
  | .read id =>
    (s.txs.get? id).map fun tx =>
      match s.read tx with
      | .ok stage => { s with txs := s.txs.replace { tx with stage := stage } }
      | .error _ => { s with txs := s.txs.erase id }
  | .commit id =>
    (s.outcome id).map fun outcome =>
      match outcome with
      | .ok store => { s with store := store, txs := s.txs.erase id }
      | .error _ => { s with txs := s.txs.erase id }
  | .drop id => some { s with txs := s.txs.erase id }
  | .catalogue products variants => some { s with products := products, variants := variants }

def CartSystem.initial : CartSystem := ⟨.empty, .empty, .empty, .empty⟩

abbrev CartRun (tr : List (Taken CartSystem CartLabel)) (s : CartSystem) : Prop := Exec cartStep .initial tr s

end NovaCart
