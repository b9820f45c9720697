import NovaCart.Schema
import NovaCart.Schemes.Run
import Mathlib.Data.List.Sort

/-! The price range of a product: as the triggers keep it (`price_guard.py`) and as it is shown (`product_view.py`),
    under READ COMMITTED.

    A statement sees the committed rows and what its own transaction wrote. Writing a variant locks its product
    first (`lock_parent_product`). What a variant costs and whether it is active is all that counts here, and a
    variant stays with its product. -/

namespace NovaCart

open Schemes
open Keyed (key)

structure PricedVariant where
  productId : Id
  id : Id
  priceOverrideCents : Option ℤ
  /-- `status = 'active'` -/
  active : Bool
  deriving DecidableEq, Repr

structure PricedProduct where
  id : Id
  priceCents : ℤ
  optionCount : Nat
  status : ProductStatus
  priceFromCents : ℤ
  priceToCents : ℤ
  deriving DecidableEq, Repr

instance : Keyed PricedVariant (Id × Id) := ⟨fun v => (v.productId, v.id)⟩
instance : Keyed PricedProduct Id := ⟨PricedProduct.id⟩

def variantsOf (productId : Id) (rows : List PricedVariant) : List PricedVariant :=
  rows.filter fun v => v.productId = productId

/-! ### As it is shown -/

def effectivePrice (v : PricedVariant) (basePrice : ℤ) : ℤ :=
  match v.priceOverrideCents with
  | some price => price
  | none => basePrice

/-- What `view_fields` says of prices. -/
structure PriceFields where
  hasVariants : Bool
  priceCents : ℤ
  priceFromCents : ℤ
  priceToCents : ℤ
  hasPriceRange : Bool
  basePriceCents : Option ℤ
  /-- the variants of the detail view -/
  variants : List (Id × ℤ)
  deriving DecidableEq, Repr

/-- `view_fields` of a product with its variants attached. -/
def viewFields (product : PricedProduct) (variantRows : List PricedVariant) (isAdmin detail : Bool) : PriceFields :=
  let basePriceCents := if isAdmin then some product.priceCents else none
  if product.optionCount = 0 then
    ⟨false, product.priceCents, product.priceCents, product.priceCents, false, basePriceCents, []⟩
  else
    let active := variantRows.filter (·.active)
    let effective := active.map fun v => effectivePrice v product.priceCents
    let prices := if effective = [] then [product.priceCents] else effective
    let least := prices.min?.getD 0
    let greatest := prices.max?.getD 0
    let counted := if isAdmin then variantRows else active
    ⟨true, least, least, greatest, least ≠ greatest, basePriceCents,
      if detail then counted.map fun v => (v.id, effectivePrice v product.priceCents) else []⟩

/-- The prices that are shown for what one can buy. -/
def PriceFields.prices (f : PriceFields) : List ℤ :=
  if f.hasVariants then f.variants.map Prod.snd else [f.priceCents]

/-! ### As it is stored -/

/-- `product_price_range` -/
def productPriceRange (variants : List PricedVariant) (pid : Id) (base : ℤ) (options : Nat) : ℤ × ℤ :=
  if options = 0 then (base, base)
  else
    let found := (variants.filter fun v => v.productId = pid ∧ v.active = true).map fun v => v.priceOverrideCents.getD base
    match found.min?, found.max? with
    | some least, some greatest => (least, greatest)
    | _, _ => (base, base)

/-- `products_price_summary` -/
def PricedProduct.summarised (variants : List PricedVariant) (row : PricedProduct) : PricedProduct :=
  let range := productPriceRange variants row.id row.priceCents row.optionCount
  { row with priceFromCents := range.1, priceToCents := range.2 }

/-- The row after an UPDATE; the trigger is for UPDATE OF price_cents, option_count. -/
def PricedProduct.updated (variants : List PricedVariant) (row : PricedProduct) (priceCents : Option ℤ)
    (optionCount : Option Nat) (status : Option ProductStatus) : PricedProduct :=
  let row' := { row with
    priceCents := priceCents.getD row.priceCents
    optionCount := optionCount.getD row.optionCount
    status := status.getD row.status }
  if priceCents.isSome ∨ optionCount.isSome then row'.summarised variants else row'

/-- A transaction, with the rows that it wrote and did not commit. -/
structure PriceTx where
  id : Nat
  /-- the products it has locked -/
  locks : List Id
  products : Table PricedProduct
  variants : Table PricedVariant
  gone : List (Id × Id)

instance : Keyed PriceTx Nat := ⟨PriceTx.id⟩

/-- The committed rows and the open transactions. -/
structure PriceSystem where
  products : Table PricedProduct
  variants : Table PricedVariant
  txs : Table PriceTx

inductive PriceSql
  /-- `SELECT ... FOR UPDATE` -/
  | lockProduct (id : Id)
  | insertProduct (id : Id) (priceCents : ℤ) (optionCount : Nat) (status : ProductStatus)
  /-- `UPDATE products`, with the columns that are in its SET list -/
  | updateProduct (id : Id) (priceCents : Option ℤ) (optionCount : Option Nat) (status : Option ProductStatus)
  | insertVariants (productId : Id) (rows : List (Id × Option ℤ × Bool))
  /-- `UPDATE product_variants`, with those of the two columns that are in its SET list; without both of them the
      statement fires no trigger here -/
  | updateVariant (productId id : Id) (priceOverrideCents : Option (Option ℤ)) (active : Option Bool)
  | deleteVariant (productId id : Id)
  deriving DecidableEq, Repr

namespace PriceSystem

def initial : PriceSystem := ⟨.empty, .empty, .empty⟩

/-- The products as the transaction sees them. -/
def productsFor (s : PriceSystem) (x : PriceTx) : Table PricedProduct := s.products.merge x.products []

def variantsFor (s : PriceSystem) (x : PriceTx) : Table PricedVariant := s.variants.merge x.variants x.gone

/-- Another transaction has locked the product. -/
def locked (s : PriceSystem) (x : PriceTx) (productId : Id) : Prop :=
  ∃ y ∈ s.txs.rows, y.id ≠ x.id ∧ productId ∈ y.locks

instance (s : PriceSystem) (x : PriceTx) (productId : Id) : Decidable (s.locked x productId) :=
  inferInstanceAs (Decidable (∃ y ∈ s.txs.rows, _))

/-- The lock on the product's row, and the row. -/
def lockProduct (s : PriceSystem) (x : PriceTx) (productId : Id) : Option (PriceTx × PricedProduct) :=
  if s.locked x productId then none
  else ((s.productsFor x).get? productId).map fun row => ({ x with locks := productId :: x.locks }, row)

/-- `variants_price_summary` -/
def variantsPriceSummary (s : PriceSystem) (x : PriceTx) (pid : Id) : PriceTx :=
  match (s.productsFor x).get? pid with
  | none => x
  | some row =>
    let range := productPriceRange (s.variantsFor x).rows pid row.priceCents row.optionCount
    if (row.priceFromCents, row.priceToCents) = range then x
    else { x with products := x.products.put { row with priceFromCents := range.1, priceToCents := range.2 } }

def insertProduct (s : PriceSystem) (x : PriceTx) (row : PricedProduct) : Option PriceTx :=
  if s.locked x row.id ∨ ((s.productsFor x).get? row.id).isSome = true ∨ ¬0 < row.priceCents then none
  else some { x with
    locks := row.id :: x.locks
    products := x.products.put (row.summarised (s.variantsFor x).rows) }

def updateProduct (s : PriceSystem) (x : PriceTx) (id : Id) (priceCents : Option ℤ) (optionCount : Option Nat)
    (status : Option ProductStatus) : Option PriceTx :=
  (s.lockProduct x id).bind fun (x, row) =>
    let row' := row.updated (s.variantsFor x).rows priceCents optionCount status
    -- variants refer to the product by its number of options (ON UPDATE RESTRICT)
    if ¬0 < row'.priceCents ∨ (row'.optionCount ≠ row.optionCount ∧ variantsOf id (s.variantsFor x).rows ≠ []) then none
    else some { x with products := x.products.put row' }

/-- New rows, one after the other. -/
def addVariants (s : PriceSystem) (productId : Id) : PriceTx → List (Id × Option ℤ × Bool) → Option PriceTx
  | x, [] => some x
  | x, (id, override, active) :: rows =>
    if ((s.variantsFor x).get? (productId, id)).isSome = true ∨ (∃ price ∈ override, ¬0 < price) then none
    else s.addVariants productId { x with variants := x.variants.put ⟨productId, id, override, active⟩ } rows

/-- The row triggers come after the whole statement, once for each row. -/
def insertVariants (s : PriceSystem) (x : PriceTx) (productId : Id) (rows : List (Id × Option ℤ × Bool)) :
    Option PriceTx :=
  (s.lockProduct x productId).bind fun (x, product) =>
    if product.optionCount = 0 then none
    else (s.addVariants productId x rows).map fun x =>
      rows.foldl (fun x _ => s.variantsPriceSummary x productId) x

def updateVariant (s : PriceSystem) (x : PriceTx) (productId id : Id) (override : Option (Option ℤ))
    (active : Option Bool) : Option PriceTx :=
  (s.lockProduct x productId).bind fun (x, _) =>
    ((s.variantsFor x).get? (productId, id)).bind fun row =>
      let row' := { row with
        priceOverrideCents := override.getD row.priceOverrideCents
        active := active.getD row.active }
      if (override = none ∧ active = none) ∨ ∃ price ∈ row'.priceOverrideCents, ¬0 < price then none
      else some (s.variantsPriceSummary { x with variants := x.variants.put row' } productId)

def deleteVariant (s : PriceSystem) (x : PriceTx) (productId id : Id) : Option PriceTx :=
  (s.lockProduct x productId).bind fun (x, _) =>
    if ((s.variantsFor x).get? (productId, id)).isNone then none
    else
      some (s.variantsPriceSummary
        { x with variants := x.variants.erase (productId, id), gone := (productId, id) :: x.gone } productId)

def exec (s : PriceSystem) (x : PriceTx) : PriceSql → Option PriceTx
  | .lockProduct id => (s.lockProduct x id).map Prod.fst
  | .insertProduct id priceCents optionCount status => s.insertProduct x ⟨id, priceCents, optionCount, status, 0, 0⟩
  | .updateProduct id priceCents optionCount status => s.updateProduct x id priceCents optionCount status
  | .insertVariants productId rows => s.insertVariants x productId rows
  | .updateVariant productId id override active => s.updateVariant x productId id override active
  | .deleteVariant productId id => s.deleteVariant x productId id

end PriceSystem

inductive PriceLabel
  | begin_ (id : Nat)
  | exec (id : Nat) (sql : PriceSql)
  | commit (id : Nat)
  /-- after a refused statement, or anywhere else -/
  | abort (id : Nat)
  deriving DecidableEq, Repr

def priceStep (s : PriceSystem) : PriceLabel → Option PriceSystem
  | .begin_ id => (s.txs.insert? ⟨id, [], .empty, .empty, []⟩).map fun txs => { s with txs := txs }
  | .exec id sql =>
    (s.txs.get? id).bind fun x => (s.exec x sql).map fun x' => { s with txs := s.txs.replace x' }
  | .commit id =>
    (s.txs.get? id).map fun x =>
      { products := s.productsFor x, variants := s.variantsFor x, txs := s.txs.erase id }
  | .abort id => some { s with txs := s.txs.erase id }

abbrev PriceRun (tr : List (Taken PriceSystem PriceLabel)) (s : PriceSystem) : Prop := Exec priceStep .initial tr s

/-! ### The catalogue -/

/-- A page of the catalogue by price; category and search are the other conditions. -/
structure PriceQuery where
  matching : PricedProduct → Bool
  minPrice : Option ℤ
  maxPrice : Option ℤ
  descending : Bool
  includeInactive : Bool
  offset : Nat
  limit : Nat

/-- `_sort_column`, for a price -/
def sortColumn (descending : Bool) (p : PricedProduct) : ℤ := if descending then p.priceToCents else p.priceFromCents

def withinBounds (q : PriceQuery) (price : ℤ) : Prop :=
  (∀ least ∈ q.minPrice, least ≤ price) ∧ ∀ greatest ∈ q.maxPrice, price ≤ greatest

instance (q : PriceQuery) (price : ℤ) : Decidable (withinBounds q price) :=
  inferInstanceAs (Decidable ((∀ least ∈ q.minPrice, _) ∧ ∀ greatest ∈ q.maxPrice, _))

/-- `_price_condition` -/
def priceCondition (q : PriceQuery) (variants : List PricedVariant) (p : PricedProduct) : Prop :=
  (p.optionCount = 0 ∧ withinBounds q p.priceCents) ∨
    (0 < p.optionCount ∧ ∃ v ∈ variants, v.productId = p.id ∧ v.active = true ∧
      withinBounds q (v.priceOverrideCents.getD p.priceCents))

instance (q : PriceQuery) (variants : List PricedVariant) (p : PricedProduct) : Decidable (priceCondition q variants p) :=
  inferInstanceAs (Decidable (_ ∨ (_ ∧ ∃ v ∈ variants, _)))

/-- `ORDER BY`: the column, then the id. -/
def comesBefore (descending : Bool) (a b : PricedProduct) : Prop :=
  (if descending then sortColumn descending b < sortColumn descending a
    else sortColumn descending a < sortColumn descending b) ∨
  (sortColumn descending a = sortColumn descending b ∧ a.id ≤ b.id)

instance (descending : Bool) : DecidableRel (comesBefore descending) :=
  fun _ _ => inferInstanceAs (Decidable (_ ∨ _ ∧ _))

/-- `list_paginated` -/
def listPaginated (s : PriceSystem) (q : PriceQuery) : List PricedProduct :=
  let found := s.products.rows.filter fun p =>
    q.matching p ∧ ((q.minPrice.isSome ∨ q.maxPrice.isSome) → priceCondition q s.variants.rows p) ∧
      (q.includeInactive = false → p.status = .active)
  ((found.insertionSort (comesBefore q.descending)).drop q.offset).take q.limit

end NovaCart
