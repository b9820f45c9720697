import NovaCart.Processes

/-! Stock accounting.

    `held` counts the pieces of a product: on its own shelf, on its variants and out in order lines.
    One lemma says how far a single statement moves it (`write_held`); the groups of statements that
    sell, put back and convert are then shown to move it by nothing, and an administrator's operation
    by exactly the change it names. Over a run the changes add up. -/

namespace NovaCart

open Schemes

namespace Stock

/-- The product's own stock. -/
def own (s : Stock) (p : Id) : ℤ := ((s.products.get? p).map (·.stock)).getD 0

/-- The stock of a variant. -/
def ownVariant (s : Stock) (v : Id) : ℤ := ((s.variants.get? v).map (·.stock)).getD 0

/-- The pieces in stock: the product's own and those of its variants. -/
def shelf (s : Stock) (p : Id) : ℤ :=
  s.own p + s.variants.total fun v => if v.productId = p then v.stock else 0

/-- The pieces out in order lines. -/
def sold (s : Stock) (p : Id) : ℤ :=
  s.items.total fun i => if i.productId = p then i.quantity - i.restockedQuantity else 0

def held (s : Stock) (p : Id) : ℤ := s.shelf p + s.sold p

/-- The product a variant belongs to. -/
def owner (s : Stock) (v : Id) : Option Id := (s.variants.get? v).map (·.productId)

/-- The product of an order line. -/
def lineProduct (s : Stock) (i : Id) : Option Id := (s.items.get? i).map (·.productId)

/-- Foreign keys of the order lines: what was bought still exists. -/
def Linked (s : Stock) : Prop :=
  ∀ i ∈ s.items.rows, s.products.get? i.productId ≠ none ∧
    ∀ v, i.variantId = some v → s.owner v = some i.productId

variable {s s' : Stock}

/-! ### One statement -/

theorem updateProduct_ok {id : Id} {f : Product → Result Product} {ctx : StockContext}
    (h : s.updateProduct id f ctx = .ok s') :
    ∃ p p' ms, s.products.get? id = some p ∧ f p = .ok p' ∧
      s' = { s with products := s.products.replace p', movements := ms } := by
  obtain ⟨p, hp, h⟩ := need_bind_ok h
  obtain ⟨p', hf, h⟩ := bind_ok h
  exact ⟨p, p', _, hp, hf, (Except.ok.inj h).symm⟩

theorem updateVariant_ok {id : Id} {f : ProductVariant → Result ProductVariant} {ctx : StockContext}
    (h : s.updateVariant id f ctx = .ok s') :
    ∃ v v' ms, s.variants.get? id = some v ∧ f v = .ok v' ∧
      s' = { s with variants := s.variants.replace v', movements := ms } := by
  obtain ⟨v, hv, h⟩ := need_bind_ok h
  obtain ⟨v', hf, h⟩ := bind_ok h
  exact ⟨v, v', _, hv, hf, (Except.ok.inj h).symm⟩

theorem insertVariant_ok {row : ProductVariant} {ctx : StockContext}
    (h : s.insertVariant row ctx = .ok s') :
    ∃ t ms, s.variants.insert? row = some t ∧ s' = { s with variants := t, movements := ms } := by
  obtain ⟨p, _, h⟩ := need_bind_ok h
  obtain ⟨_, h⟩ := require_bind_ok h
  obtain ⟨t, ht, h⟩ := need_bind_ok h
  exact ⟨t, _, ht, (Except.ok.inj h).symm⟩

theorem insertItem_ok {row : OrderItem} (h : s.insertItem row = .ok s') :
    s.products.get? row.productId ≠ none ∧ s.variantOf row.productId row.variantId ∧
      ∃ t, s.items.insert? row = some t ∧ s' = { s with items := t } := by
  obtain ⟨p, hp, h⟩ := need_bind_ok h
  obtain ⟨_, h⟩ := require_bind_ok h
  obtain ⟨hv, h⟩ := require_bind_ok h
  obtain ⟨t, ht, h⟩ := need_bind_ok h
  exact ⟨by simp [hp], hv, t, ht, (Except.ok.inj h).symm⟩

/-- A restock event is either known, or it is new and added to its line. -/
theorem recordRestock_ok {row : OrderItemRestock} (h : s.recordRestock row = .ok s') :
    (s.restocks.get? (row.orderItemId, row.eventKey) ≠ none ∧ s' = s) ∨
      ∃ t i i', s.restocks.insert? row = some t ∧ s.items.get? row.orderItemId = some i ∧
        i.withRestock row.quantity = .ok i' ∧
        s' = { s with restocks := t, items := s.items.replace i' } := by
  unfold recordRestock at h
  split at h
  · rename_i hnone
    exact .inl ⟨Table.insert?_eq_none.mp hnone, (Except.ok.inj h).symm⟩
  · rename_i t ht
    obtain ⟨i, hi, h⟩ := need_bind_ok h
    obtain ⟨i', hi', h⟩ := bind_ok h
    exact .inr ⟨t, i, i', ht, hi, hi', (Except.ok.inj h).symm⟩

end Stock

theorem Product.withStock_ok {p p' : Product} {x : ℤ} (h : p.withStock x = .ok p') :
    p'.id = p.id ∧ p'.stock = x := by
  unfold Product.withStock at h
  split at h
  · cases h; exact ⟨rfl, rfl⟩
  · cases h

theorem Product.withOptionCount_ok {p p' : Product} {n : Nat} (h : p.withOptionCount n = .ok p') :
    p'.id = p.id ∧ p'.stock = p.stock := by
  unfold Product.withOptionCount at h
  split at h
  · cases h; exact ⟨rfl, rfl⟩
  · cases h

theorem ProductVariant.withStock_ok {v v' : ProductVariant} {x : ℤ} (h : v.withStock x = .ok v') :
    v'.id = v.id ∧ v'.productId = v.productId ∧ v'.stock = x := by
  unfold ProductVariant.withStock at h
  split at h
  · cases h; exact ⟨rfl, rfl, rfl⟩
  · cases h

/-- What identifies a line and its size never change. -/
structure OrderItem.Same (i i' : OrderItem) : Prop where
  id : i'.id = i.id
  orderId : i'.orderId = i.orderId
  productId : i'.productId = i.productId
  variantId : i'.variantId = i.variantId
  quantity : i'.quantity = i.quantity

theorem OrderItem.withRestock_ok {i i' : OrderItem} {x : ℤ} (h : i.withRestock x = .ok i') :
    0 < x ∧ i'.restockedQuantity = i.restockedQuantity + x ∧ i.Same i' := by
  unfold OrderItem.withRestock at h
  split at h
  · rename_i hx
    cases h; exact ⟨hx.1, rfl, rfl, rfl, rfl, rfl, rfl⟩
  · cases h

namespace Stock

variable {s s' : Stock}

/-- How far a statement moves what is held of product `p`. -/
def change (s : Stock) (p : Id) : StockWrite → ℤ
  | .insertProduct row => if row.id = p then row.stock else 0
  | .setProductStock id x _ => if id = p then x - s.own p else 0
  | .addProductStock id delta _ => if id = p then delta else 0
  | .insertVariant row _ => if row.productId = p then row.stock else 0
  | .setVariantStock id x _ =>
    if s.owner id = some p then x - s.ownVariant id else 0
  | .addVariantStock id delta _ => if s.owner id = some p then delta else 0
  | .insertItem row => if row.productId = p then row.quantity - row.restockedQuantity else 0
  | .recordRestock row =>
    if s.restocks.get? (row.orderItemId, row.eventKey) = none ∧ s.lineProduct row.orderItemId = some p
    then -row.quantity else 0
  | .productStatus _ _ | .productPrice _ _ | .optionCount _ _ | .variantDetails _ _ _ => 0

theorem held_replaceProduct {id : Id} {q q' : Product} {ms : List StockMovement}
    (hq : s.products.get? id = some q) (hid : q'.id = q.id) (p : Id) :
    held { s with products := s.products.replace q', movements := ms } p
      = s.held p + if id = p then q'.stock - q.stock else 0 := by
  have hkey : q'.id = id := hid.trans (Table.key_of_get? hq)
  simp only [held, shelf, own, sold, Table.get?_replace]
  by_cases hp : p = id
  · have hk : p = Keyed.key q' := hp.trans hkey.symm
    subst hp
    simp [hk.symm, hq]; ring
  · have hk : p ≠ Keyed.key q' := fun h => hp (h.trans hkey)
    simp [hk, Ne.symm hp]

theorem held_replaceVariant {id : Id} {v v' : ProductVariant} {ms : List StockMovement}
    (hv : s.variants.get? id = some v) (hid : v'.id = v.id) (hp : v'.productId = v.productId)
    (p : Id) :
    held { s with variants := s.variants.replace v', movements := ms } p
      = s.held p + if s.owner id = some p then v'.stock - v.stock else 0 := by
  have hget : s.variants.get? (Keyed.key v') = some v := by
    have : Keyed.key v' = id := hid.trans (Table.key_of_get? hv)
    rw [this]; exact hv
  simp only [held, shelf, own, sold, Table.total_replace hget, owner, hv, hp, Option.map_some,
    Option.some.injEq]
  by_cases hown : v.productId = p
  · simp [hown]; ring
  · simp [hown]

theorem held_replaceItem {id : Id} {i i' : OrderItem} {rs : Table OrderItemRestock}
    (hi : s.items.get? id = some i) (hsame : i.Same i') (p : Id) :
    held { s with restocks := rs, items := s.items.replace i' } p
      = s.held p - if s.lineProduct id = some p then i'.restockedQuantity - i.restockedQuantity else 0 := by
  have hget : s.items.get? (Keyed.key i') = some i := by
    have : Keyed.key i' = id := hsame.id.trans (Table.key_of_get? hi)
    rw [this]; exact hi
  simp only [held, shelf, own, sold, Table.total_replace hget, lineProduct, hi, hsame.productId,
    hsame.quantity, Option.map_some, Option.some.injEq]
  by_cases hown : i.productId = p
  · simp [hown]; ring
  · simp [hown]

/-- How a statement moves what is held. -/
theorem write_held {w : StockWrite} (h : s.write w = .ok s') (p : Id) :
    s'.held p = s.held p + s.change p w := by
  cases w with
  | insertProduct row =>
    obtain ⟨t, ht, h⟩ := need_bind_ok h
    cases h
    obtain ⟨hfree, _⟩ := Table.insert?_eq_some.mp ht
    simp only [held, shelf, own, sold, change, Table.get?_insert? ht]
    by_cases hp : row.id = p
    · have hnone : s.products.get? p = none := by rw [← hp]; exact hfree
      simp [Keyed.key, hp, hnone]; ring
    · simp [Keyed.key, hp]
  | productStatus id status =>
    obtain ⟨q, q', ms, hq, hf, rfl⟩ := updateProduct_ok h
    have hsame : q'.id = q.id ∧ q'.stock = q.stock := by cases hf; exact ⟨rfl, rfl⟩
    rw [held_replaceProduct hq hsame.1, hsame.2]; simp [change]
  | productPrice id price =>
    obtain ⟨q, q', ms, hq, hf, rfl⟩ := updateProduct_ok h
    have hsame : q'.id = q.id ∧ q'.stock = q.stock := by cases hf; exact ⟨rfl, rfl⟩
    rw [held_replaceProduct hq hsame.1, hsame.2]; simp [change]
  | setProductStock id x ctx =>
    obtain ⟨q, q', ms, hq, hf, rfl⟩ := updateProduct_ok h
    obtain ⟨hid, hstock⟩ := Product.withStock_ok hf
    rw [held_replaceProduct hq hid, hstock]
    by_cases hp : id = p
    · subst hp; simp [change, own, hq]
    · simp [change, hp]
  | addProductStock id delta ctx =>
    obtain ⟨q, q', ms, hq, hf, rfl⟩ := updateProduct_ok h
    obtain ⟨hid, hstock⟩ := Product.withStock_ok hf
    rw [held_replaceProduct hq hid, hstock]
    by_cases hp : id = p
    · simp [change, hp]
    · simp [change, hp]
  | optionCount id count =>
    obtain ⟨_, h⟩ := require_bind_ok h
    obtain ⟨q, q', ms, hq, hf, rfl⟩ := updateProduct_ok h
    obtain ⟨hid, hstock⟩ := Product.withOptionCount_ok hf
    rw [held_replaceProduct hq hid, hstock]; simp [change]
  | insertVariant row ctx =>
    obtain ⟨t, ms, ht, rfl⟩ := insertVariant_ok h
    simp only [held, shelf, own, sold, change, Table.total_insert? ht]; ring
  | variantDetails id active price =>
    obtain ⟨v, v', ms, hv, hf, rfl⟩ := updateVariant_ok h
    have hsame : v'.id = v.id ∧ v'.productId = v.productId ∧ v'.stock = v.stock := by
      cases hf; exact ⟨rfl, rfl, rfl⟩
    rw [held_replaceVariant hv hsame.1 hsame.2.1, hsame.2.2]; simp [change]
  | setVariantStock id x ctx =>
    obtain ⟨v, v', ms, hv, hf, rfl⟩ := updateVariant_ok h
    obtain ⟨hid, hp, hstock⟩ := ProductVariant.withStock_ok hf
    rw [held_replaceVariant hv hid hp, hstock]; simp [change, ownVariant, hv]
  | addVariantStock id delta ctx =>
    obtain ⟨v, v', ms, hv, hf, rfl⟩ := updateVariant_ok h
    obtain ⟨hid, hp, hstock⟩ := ProductVariant.withStock_ok hf
    rw [held_replaceVariant hv hid hp, hstock]; simp [change]
  | insertItem row =>
    obtain ⟨_, _, t, ht, rfl⟩ := insertItem_ok h
    simp only [held, shelf, own, sold, change, Table.total_insert? ht]; ring
  | recordRestock row =>
    rcases recordRestock_ok h with ⟨hknown, rfl⟩ | ⟨t, i, i', ht, hi, hi', rfl⟩
    · simp [change, hknown]
    · obtain ⟨_, hrestocked, hsame⟩ := OrderItem.withRestock_ok hi'
      have hfree : s.restocks.get? (row.orderItemId, row.eventKey) = none :=
        (Table.insert?_eq_some.mp ht).1
      rw [held_replaceItem hi hsame, hrestocked]
      by_cases hp : s.lineProduct row.orderItemId = some p
      · simp [change, hfree, hp]; ring
      · simp [change, hp]

/-! ### What every statement keeps -/

/-- Nothing is deleted: products, variants and lines stay, a line only gains restocked pieces. -/
structure Grows (s s' : Stock) : Prop where
  products : ∀ p, s.products.get? p ≠ none → s'.products.get? p ≠ none
  owner : ∀ v p, s.owner v = some p → s'.owner v = some p
  items : ∀ id i, s.items.get? id = some i →
    ∃ i', s'.items.get? id = some i' ∧ i.Same i' ∧ i.restockedQuantity ≤ i'.restockedQuantity

theorem Grows.refl (s : Stock) : Grows s s where
  products _ h := h
  owner _ _ h := h
  items _ i h := ⟨i, h, ⟨rfl, rfl, rfl, rfl, rfl⟩, le_refl _⟩

theorem Grows.trans {s₁ s₂ s₃ : Stock} (h₁ : Grows s₁ s₂) (h₂ : Grows s₂ s₃) : Grows s₁ s₃ where
  products p h := h₂.products p (h₁.products p h)
  owner v p h := h₂.owner v p (h₁.owner v p h)
  items id i h := by
    obtain ⟨i₂, hi₂, hsame₂, hle₂⟩ := h₁.items id i h
    obtain ⟨i₃, hi₃, hsame₃, hle₃⟩ := h₂.items id i₂ hi₂
    refine ⟨i₃, hi₃, ⟨?_, ?_, ?_, ?_, ?_⟩, hle₂.trans hle₃⟩
    · exact hsame₃.id.trans hsame₂.id
    · exact hsame₃.orderId.trans hsame₂.orderId
    · exact hsame₃.productId.trans hsame₂.productId
    · exact hsame₃.variantId.trans hsame₂.variantId
    · exact hsame₃.quantity.trans hsame₂.quantity

theorem grows_products {t : Table Product} {ms : List StockMovement}
    (h : ∀ p, s.products.get? p ≠ none → t.get? p ≠ none) :
    Grows s { s with products := t, movements := ms } :=
  { Grows.refl s with products := h }

theorem grows_replaceProduct (s : Stock) (q : Product) (ms : List StockMovement) :
    Grows s { s with products := s.products.replace q, movements := ms } := by
  refine grows_products fun p hp => ?_
  rw [Table.get?_replace]
  by_cases hk : p = Keyed.key q
  · simpa [← hk] using hp
  · simpa [hk] using hp

theorem grows_replaceVariant {id : Id} {v v' : ProductVariant} {ms : List StockMovement}
    (hv : s.variants.get? id = some v) (hid : v'.id = v.id) (hp : v'.productId = v.productId) :
    Grows s { s with variants := s.variants.replace v', movements := ms } := by
  refine { Grows.refl s with owner := fun u p hu => ?_ }
  have hkey : Keyed.key v' = id := hid.trans (Table.key_of_get? hv)
  simp only [Stock.owner, Table.get?_replace, hkey] at hu ⊢
  by_cases hk : u = id
  · subst hk
    simpa [hv, hp] using hu
  · simpa [hk] using hu

theorem grows_replaceItem {id : Id} {i i' : OrderItem} {rs : Table OrderItemRestock}
    (hi : s.items.get? id = some i) (hsame : i.Same i')
    (hle : i.restockedQuantity ≤ i'.restockedQuantity) :
    Grows s { s with restocks := rs, items := s.items.replace i' } := by
  refine { Grows.refl s with items := fun id' j hj => ?_ }
  have hkey : Keyed.key i' = id := hsame.id.trans (Table.key_of_get? hi)
  simp only [Table.get?_replace, hkey]
  by_cases hk : id' = id
  · subst hk
    rw [hi] at hj
    cases hj
    exact ⟨i', by simp [hi], hsame, hle⟩
  · exact ⟨j, by simpa [hk] using hj, ⟨rfl, rfl, rfl, rfl, rfl⟩, le_refl _⟩

theorem write_grows {w : StockWrite} (h : s.write w = .ok s') : Grows s s' := by
  cases w with
  | insertProduct row =>
    obtain ⟨t, ht, h⟩ := need_bind_ok h
    cases h
    refine grows_products fun p hp => ?_
    obtain ⟨q, hq⟩ := Option.ne_none_iff_exists'.mp hp
    simp [Table.get?_insert?_of_some ht hq]
  | productStatus id status =>
    obtain ⟨q, q', ms, _, _, rfl⟩ := updateProduct_ok h; exact grows_replaceProduct s q' ms
  | productPrice id price =>
    obtain ⟨q, q', ms, _, _, rfl⟩ := updateProduct_ok h; exact grows_replaceProduct s q' ms
  | setProductStock id x ctx =>
    obtain ⟨q, q', ms, _, _, rfl⟩ := updateProduct_ok h; exact grows_replaceProduct s q' ms
  | addProductStock id delta ctx =>
    obtain ⟨q, q', ms, _, _, rfl⟩ := updateProduct_ok h; exact grows_replaceProduct s q' ms
  | optionCount id count =>
    obtain ⟨_, h⟩ := require_bind_ok h
    obtain ⟨q, q', ms, _, _, rfl⟩ := updateProduct_ok h; exact grows_replaceProduct s q' ms
  | insertVariant row ctx =>
    obtain ⟨t, ms, ht, rfl⟩ := insertVariant_ok h
    refine { Grows.refl s with owner := fun v p hv => ?_ }
    obtain ⟨row', hrow', hp⟩ := Option.map_eq_some_iff.mp hv
    simp [Stock.owner, Table.get?_insert?_of_some ht hrow', hp]
  | variantDetails id active price =>
    obtain ⟨v, v', ms, hv, hf, rfl⟩ := updateVariant_ok h
    have hsame : v'.id = v.id ∧ v'.productId = v.productId := by cases hf; exact ⟨rfl, rfl⟩
    exact grows_replaceVariant hv hsame.1 hsame.2
  | setVariantStock id x ctx =>
    obtain ⟨v, v', ms, hv, hf, rfl⟩ := updateVariant_ok h
    obtain ⟨hid, hp, _⟩ := ProductVariant.withStock_ok hf
    exact grows_replaceVariant hv hid hp
  | addVariantStock id delta ctx =>
    obtain ⟨v, v', ms, hv, hf, rfl⟩ := updateVariant_ok h
    obtain ⟨hid, hp, _⟩ := ProductVariant.withStock_ok hf
    exact grows_replaceVariant hv hid hp
  | insertItem row =>
    obtain ⟨_, _, t, ht, rfl⟩ := insertItem_ok h
    refine { Grows.refl s with items := fun id i hi => ?_ }
    exact ⟨i, Table.get?_insert?_of_some ht hi, ⟨rfl, rfl, rfl, rfl, rfl⟩, le_refl _⟩
  | recordRestock row =>
    rcases recordRestock_ok h with ⟨_, rfl⟩ | ⟨t, i, i', ht, hi, hi', rfl⟩
    · exact Grows.refl s'
    · obtain ⟨hpos, hrestocked, hsame⟩ := OrderItem.withRestock_ok hi'
      exact grows_replaceItem hi hsame (by omega)

/-- Only `insertItem` adds a line. -/
theorem write_items {w : StockWrite} (h : s.write w = .ok s') {i : OrderItem}
    (hi : i ∈ s'.items.rows) :
    (∃ j ∈ s.items.rows, j.Same i) ∨
      (w = .insertItem i ∧ s'.products.get? i.productId ≠ none ∧
        s'.variantOf i.productId i.variantId) := by
  have hsame : ∀ j : OrderItem, j.Same j := fun j => ⟨rfl, rfl, rfl, rfl, rfl⟩
  cases w with
  | insertItem row =>
    obtain ⟨hp, hv, t, ht, rfl⟩ := insertItem_ok h
    rcases (Table.mem_insert? ht).mp hi with rfl | hold
    · exact .inr ⟨rfl, hp, hv⟩
    · exact .inl ⟨i, hold, hsame i⟩
  | recordRestock row =>
    rcases recordRestock_ok h with ⟨_, rfl⟩ | ⟨t, j, j', ht, hj, hj', rfl⟩
    · exact .inl ⟨i, hi, hsame i⟩
    · obtain ⟨_, _, hsj⟩ := OrderItem.withRestock_ok hj'
      have hget : s.items.get? (Keyed.key j') = some j := by
        have : Keyed.key j' = row.orderItemId := hsj.id.trans (Table.key_of_get? hj)
        rw [this]; exact hj
      rcases (Table.mem_replace hget).mp hi with rfl | ⟨hold, _⟩
      · exact .inl ⟨j, Table.mem_of_get? hj, hsj⟩
      · exact .inl ⟨i, hold, hsame i⟩
  | insertProduct row => obtain ⟨t, _, h⟩ := need_bind_ok h; cases h; exact .inl ⟨i, hi, hsame i⟩
  | productStatus id status =>
    obtain ⟨_, _, _, _, _, rfl⟩ := updateProduct_ok h; exact .inl ⟨i, hi, hsame i⟩
  | productPrice id price =>
    obtain ⟨_, _, _, _, _, rfl⟩ := updateProduct_ok h; exact .inl ⟨i, hi, hsame i⟩
  | setProductStock id x ctx =>
    obtain ⟨_, _, _, _, _, rfl⟩ := updateProduct_ok h; exact .inl ⟨i, hi, hsame i⟩
  | addProductStock id delta ctx =>
    obtain ⟨_, _, _, _, _, rfl⟩ := updateProduct_ok h; exact .inl ⟨i, hi, hsame i⟩
  | optionCount id count =>
    obtain ⟨_, h⟩ := require_bind_ok h
    obtain ⟨_, _, _, _, _, rfl⟩ := updateProduct_ok h; exact .inl ⟨i, hi, hsame i⟩
  | insertVariant row ctx =>
    obtain ⟨_, _, _, rfl⟩ := insertVariant_ok h; exact .inl ⟨i, hi, hsame i⟩
  | variantDetails id active price =>
    obtain ⟨_, _, _, _, _, rfl⟩ := updateVariant_ok h; exact .inl ⟨i, hi, hsame i⟩
  | setVariantStock id x ctx =>
    obtain ⟨_, _, _, _, _, rfl⟩ := updateVariant_ok h; exact .inl ⟨i, hi, hsame i⟩
  | addVariantStock id delta ctx =>
    obtain ⟨_, _, _, _, _, rfl⟩ := updateVariant_ok h; exact .inl ⟨i, hi, hsame i⟩

/-- The foreign keys of the order lines survive every statement. -/
theorem write_linked {w : StockWrite} (h : s.write w = .ok s') (hl : s.Linked) : s'.Linked := by
  have hg := write_grows h
  intro i hi
  rcases write_items h hi with ⟨j, hj, hsame⟩ | ⟨_, hp, hv⟩
  · obtain ⟨hp, hv⟩ := hl j hj
    rw [hsame.productId, hsame.variantId]
    exact ⟨hg.products _ hp, fun v hvid => hg.owner v _ (hv v hvid)⟩
  · refine ⟨hp, fun v hvid => ?_⟩
    rw [hvid] at hv
    obtain ⟨row, hrow, hown⟩ := hv
    rw [Option.mem_def] at hrow
    simp [owner, hrow, hown]

end Stock

/-- A statement is either one on the stock or leaves it alone. -/
theorem write_stock {db db' : Db} {w : Write} (h : db.write w = .ok db') :
    (∃ sw, w = .stock sw ∧ db.stock.write sw = .ok db'.stock) ∨ db'.stock = db.stock := by
  cases w with
  | stock sw =>
    obtain ⟨s, hs, h⟩ := bind_ok h
    cases h
    exact .inl ⟨sw, rfl, hs⟩
  | order id c => exact .inr (by rw [write_mask h, order_mask])
  | reconcile row => exact .inr (by rw [write_mask h, reconcile_mask])
  | _ => exact .inr (by rw [write_mask h]; rfl)

end NovaCart
