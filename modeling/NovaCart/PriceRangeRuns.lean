import NovaCart.PriceRange

/-! The stored price range is the one that is shown, over every interleaving of transactions.

    A range counts on one product and its variants, and whoever changes any of these rows has the product
    locked. So it is enough that each statement leaves the ranges right that its own transaction sees. -/

namespace NovaCart

open Schemes Table
open Keyed (key)

variable {s s' : PriceSystem} {x x' : PriceTx} {rows rows' : List PricedVariant} {p : PricedProduct} {id : Id}

/-! ### Ranges -/

theorem effectivePrice_eq (v : PricedVariant) (base : ℤ) : effectivePrice v base = v.priceOverrideCents.getD base := by
  unfold effectivePrice
  cases v.priceOverrideCents <;> rfl

/-- The prices that the range of a product counts. -/
theorem found_eq (id : Id) (rows : List PricedVariant) (base : ℤ) :
    (rows.filter fun v => v.productId = id ∧ v.active = true).map (fun v => v.priceOverrideCents.getD base) =
      ((variantsOf id rows).filter (·.active)).map fun v => effectivePrice v base := by
  rw [variantsOf, List.filter_filter]
  simp only [effectivePrice_eq]
  congr 1
  refine List.filter_congr fun v _ => ?_
  simp [Bool.and_comm]

theorem productPriceRange_congr (h : variantsOf id rows = variantsOf id rows') (base : ℤ) (options : Nat) :
    productPriceRange rows id base options = productPriceRange rows' id base options := by
  unfold productPriceRange
  rw [found_eq, found_eq, h]

/-- The stored range is what the variants make it. -/
def Priced (rows : List PricedVariant) (p : PricedProduct) : Prop :=
  (p.priceFromCents, p.priceToCents) = productPriceRange rows p.id p.priceCents p.optionCount

theorem Priced.congr (h : Priced rows p) (hsame : variantsOf p.id rows' = variantsOf p.id rows) : Priced rows' p := by
  rw [Priced, productPriceRange_congr hsame]
  exact h

theorem priced_summarised (rows : List PricedVariant) (p : PricedProduct) : Priced rows (p.summarised rows) := rfl

theorem updated_id {priceCents : Option ℤ} {optionCount : Option Nat} {status : Option ProductStatus} :
    (p.updated rows priceCents optionCount status).id = p.id := by
  unfold PricedProduct.updated
  dsimp only
  split
  · rfl
  · rfl

theorem Priced.updated (h : Priced rows p) (priceCents : Option ℤ) (optionCount : Option Nat)
    (status : Option ProductStatus) : Priced rows (p.updated rows priceCents optionCount status) := by
  unfold PricedProduct.updated
  dsimp only
  split
  · exact priced_summarised _ _
  · -- neither the price nor the number of options is written
    rename_i hnone
    rw [not_or, Option.not_isSome_iff_eq_none, Option.not_isSome_iff_eq_none] at hnone
    rw [hnone.1, hnone.2]
    exact h

/-- The trigger and the view compute the same. -/
theorem Priced.shown (h : Priced rows p) (isAdmin detail : Bool) :
    p.priceFromCents = (viewFields p (variantsOf p.id rows) isAdmin detail).priceFromCents ∧
      p.priceToCents = (viewFields p (variantsOf p.id rows) isAdmin detail).priceToCents := by
  unfold Priced productPriceRange at h
  rw [found_eq] at h
  unfold viewFields
  by_cases hoptions : p.optionCount = 0
  · rw [if_pos hoptions] at h ⊢
    exact ⟨congrArg Prod.fst h, congrArg Prod.snd h⟩
  · rw [if_neg hoptions] at h ⊢
    dsimp only
    cases hlist : ((variantsOf p.id rows).filter (·.active)).map fun v => effectivePrice v p.priceCents with
    | nil =>
      rw [hlist] at h
      exact ⟨congrArg Prod.fst h, congrArg Prod.snd h⟩
    | cons price prices =>
      rw [hlist] at h
      dsimp only at h
      rw [if_neg (List.cons_ne_nil _ _)]
      rw [List.min?_cons, List.max?_cons] at h ⊢
      exact ⟨congrArg Prod.fst h, congrArg Prod.snd h⟩

/-- The lowest price is none above the highest, as the table requires. -/
theorem productPriceRange_le (rows : List PricedVariant) (id : Id) (base : ℤ) (options : Nat) :
    (productPriceRange rows id base options).1 ≤ (productPriceRange rows id base options).2 := by
  unfold productPriceRange
  split
  · exact le_rfl
  · dsimp only
    split
    · rename_i least greatest hmin hmax
      exact (List.min?_eq_some_iff.mp hmin).2 greatest (List.max?_eq_some_iff.mp hmax).1
    · exact le_rfl

/-! ### What a transaction has written -/

/-- It wrote only to products that it has locked, and to their variants. -/
structure PriceTx.Covered (x : PriceTx) : Prop where
  products : ∀ p ∈ x.products.rows, p.id ∈ x.locks
  variants : ∀ v ∈ x.variants.rows, v.productId ∈ x.locks
  gone : ∀ k ∈ x.gone, k.1 ∈ x.locks

/-- The ranges that it sees are right. -/
def PriceTx.Sees (s : PriceSystem) (x : PriceTx) : Prop :=
  ∀ p ∈ (s.productsFor x).rows, Priced (s.variantsFor x).rows p

/-- All but one of them. -/
def PriceTx.SeesBut (s : PriceSystem) (x : PriceTx) (id : Id) : Prop :=
  ∀ p ∈ (s.productsFor x).rows, p.id ≠ id → Priced (s.variantsFor x).rows p

theorem PriceTx.Sees.but (h : x.Sees s) (id : Id) : x.SeesBut s id := fun p hp _ => h p hp

/-- The variants of a product that the transaction leaves alone. -/
theorem variantsOf_merge {t own : Table PricedVariant} {gone : List (Id × Id)}
    (hown : ∀ v ∈ own.rows, v.productId ≠ id) (hgone : ∀ k ∈ gone, k.1 ≠ id) :
    variantsOf id (t.merge own gone).rows = variantsOf id t.rows := by
  unfold variantsOf merge
  rw [List.filter_append, List.filter_eq_nil_iff.mpr (fun v hv => by simpa using hown v hv), List.nil_append,
    List.filter_filter]
  refine List.filter_congr fun v _ => ?_
  by_cases hv : v.productId = id
  · have hnone : own.get? (key v) = none := by
      refine get?_eq_none.mpr fun w hw heq => hown w hw ?_
      exact (congrArg Prod.fst heq).trans hv
    have hstays : key v ∉ gone := fun hmem => hgone _ hmem hv
    simp [hv, hnone, hstays]
  · simp [hv]

/-- What it sees of a product's variants depends on the committed ones of that product. -/
theorem variantsOf_merge_congr {t t' own : Table PricedVariant} {gone : List (Id × Id)}
    (h : variantsOf id t'.rows = variantsOf id t.rows) :
    variantsOf id (t'.merge own gone).rows = variantsOf id (t.merge own gone).rows := by
  unfold variantsOf merge at *
  dsimp only
  rw [List.filter_append, List.filter_append]
  congr 1
  rw [List.filter_comm, h, List.filter_comm]

theorem variantsOf_put {v : PricedVariant} (hne : v.productId ≠ id) :
    variantsOf id (s.variantsFor { x with variants := x.variants.put v }).rows = variantsOf id (s.variantsFor x).rows := by
  unfold variantsOf PriceSystem.variantsFor merge
  dsimp only
  rw [List.filter_append, List.filter_append, List.filter_filter, List.filter_filter]
  congr 1
  · unfold put erase
    dsimp only
    rw [List.filter_cons_of_neg (by simpa using hne), List.filter_filter]
    refine List.filter_congr fun w _ => ?_
    by_cases hw : w.productId = id
    · have hkey : key w ≠ key v := fun heq => hne ((congrArg Prod.fst heq).symm.trans hw)
      simp [hw, hkey]
    · simp [hw]
  · refine List.filter_congr fun w _ => ?_
    by_cases hw : w.productId = id
    · have hkey : key w ≠ key v := fun heq => hne ((congrArg Prod.fst heq).symm.trans hw)
      rw [get?_put, if_neg hkey]
    · simp [hw]

theorem variantsOf_erase {k : Id × Id} (hne : k.1 ≠ id) :
    variantsOf id (s.variantsFor { x with variants := x.variants.erase k, gone := k :: x.gone }).rows =
      variantsOf id (s.variantsFor x).rows := by
  unfold variantsOf PriceSystem.variantsFor merge
  dsimp only
  rw [List.filter_append, List.filter_append, List.filter_filter, List.filter_filter]
  congr 1
  · unfold erase
    dsimp only
    rw [List.filter_filter]
    refine List.filter_congr fun w _ => ?_
    by_cases hw : w.productId = id
    · have hkey : key w ≠ k := fun heq => hne ((congrArg Prod.fst heq).symm.trans hw)
      simp [hw, hkey]
    · simp [hw]
  · refine List.filter_congr fun w _ => ?_
    by_cases hw : w.productId = id
    · have hkey : key w ≠ k := fun heq => hne ((congrArg Prod.fst heq).symm.trans hw)
      rw [get?_erase, if_neg hkey]
      simp [hkey]
    · simp [hw]

/-- A product written by the transaction takes the place of the one it saw. -/
theorem mem_productsFor_put {q : PricedProduct} (h : q ∈ (s.productsFor { x with products := x.products.put p }).rows) :
    q = p ∨ (q ∈ (s.productsFor x).rows ∧ q.id ≠ p.id) := by
  rcases mem_merge.mp h with hown | ⟨hq, hnone, hstays⟩
  · rcases mem_put.mp hown with rfl | ⟨hold, hne⟩
    · exact .inl rfl
    · exact .inr ⟨mem_merge.mpr (.inl hold), hne⟩
  · rw [get?_put] at hnone
    split at hnone
    · cases hnone
    · rename_i hne
      exact .inr ⟨mem_merge.mpr (.inr ⟨hq, hnone, hstays⟩), hne⟩

/-! ### Statements -/

/-- What a statement keeps, and the locks that it takes. -/
structure PriceTx.Advances (s : PriceSystem) (x x' : PriceTx) : Prop where
  id : x'.id = x.id
  covered : x'.Covered
  sees : x'.Sees s
  locks : ∀ p ∈ x'.locks, p ∈ x.locks ∨ ¬s.locked x p

theorem lockProduct_eq_some {row : PricedProduct} (h : s.lockProduct x id = some (x', row)) :
    ¬s.locked x id ∧ x' = { x with locks := id :: x.locks } ∧ (s.productsFor x).get? id = some row := by
  unfold PriceSystem.lockProduct at h
  split at h
  · cases h
  · rename_i hfree
    obtain ⟨row', hget, heq⟩ := Option.map_eq_some_iff.mp h
    cases heq
    exact ⟨hfree, rfl, hget⟩

theorem PriceTx.Covered.lock (h : x.Covered) (id : Id) : ({ x with locks := id :: x.locks } : PriceTx).Covered where
  products p hp := List.mem_cons_of_mem _ (h.products p hp)
  variants v hv := List.mem_cons_of_mem _ (h.variants v hv)
  gone k hk := List.mem_cons_of_mem _ (h.gone k hk)

theorem mem_locks_cons (hfree : ¬s.locked x id) : ∀ p ∈ id :: x.locks, p ∈ x.locks ∨ ¬s.locked x p := by
  intro p hp
  rcases List.mem_cons.mp hp with rfl | hp
  · exact .inr hfree
  · exact .inl hp

theorem PriceTx.Covered.putProduct (h : x.Covered) (hp : p.id ∈ x.locks) :
    ({ x with products := x.products.put p } : PriceTx).Covered where
  products q hq := by
    rcases mem_put.mp hq with rfl | ⟨hq, _⟩
    · exact hp
    · exact h.products q hq
  variants := h.variants
  gone := h.gone

theorem PriceTx.Covered.putVariant {v : PricedVariant} (h : x.Covered) (hv : v.productId ∈ x.locks) :
    ({ x with variants := x.variants.put v } : PriceTx).Covered where
  products := h.products
  variants w hw := by
    rcases mem_put.mp hw with rfl | ⟨hw, _⟩
    · exact hv
    · exact h.variants w hw
  gone := h.gone

theorem insertProduct_advances (hcovered : x.Covered) (hsees : x.Sees s) (h : s.insertProduct x p = some x') :
    x.Advances s x' := by
  unfold PriceSystem.insertProduct at h
  split at h
  · cases h
  · rename_i hnot
    rw [not_or] at hnot
    cases h
    refine ⟨rfl, ⟨fun q hq => ?_, (hcovered.lock p.id).variants, (hcovered.lock p.id).gone⟩, fun q hq => ?_,
      mem_locks_cons hnot.1⟩
    · rcases mem_put.mp hq with rfl | ⟨hq, _⟩
      · exact List.mem_cons_self
      · exact List.mem_cons_of_mem _ (hcovered.products q hq)
    · rcases mem_productsFor_put (x := { x with locks := p.id :: x.locks }) hq with rfl | ⟨hq, _⟩
      · exact priced_summarised _ _
      · exact hsees q hq

theorem updateProduct_advances {priceCents : Option ℤ} {optionCount : Option Nat} {status : Option ProductStatus}
    (hcovered : x.Covered) (hsees : x.Sees s) (h : s.updateProduct x id priceCents optionCount status = some x') :
    x.Advances s x' := by
  obtain ⟨⟨y, row⟩, hlock, h⟩ := Option.bind_eq_some_iff.mp h
  obtain ⟨hfree, rfl, hget⟩ := lockProduct_eq_some hlock
  dsimp only at h
  split at h
  · cases h
  · cases h
    have hid : row.id = id := key_of_get? hget
    have hrow := hsees row (mem_of_get? hget)
    refine ⟨rfl, (hcovered.lock id).putProduct ?_, fun q hq => ?_, mem_locks_cons hfree⟩
    · rw [updated_id, hid]
      exact List.mem_cons_self
    · rcases mem_productsFor_put hq with rfl | ⟨hq, _⟩
      · exact hrow.updated priceCents optionCount status
      · exact hsees q hq

theorem variantsPriceSummary_id : (s.variantsPriceSummary x id).id = x.id ∧
    (s.variantsPriceSummary x id).locks = x.locks := by
  unfold PriceSystem.variantsPriceSummary
  split
  · exact ⟨rfl, rfl⟩
  · dsimp only
    split
    · exact ⟨rfl, rfl⟩
    · exact ⟨rfl, rfl⟩

/-- The trigger sets right the one range that may be wrong. -/
theorem variantsPriceSummary_sees (hcovered : x.Covered) (hid : id ∈ x.locks) (hbut : x.SeesBut s id) :
    (s.variantsPriceSummary x id).Covered ∧ (s.variantsPriceSummary x id).Sees s := by
  unfold PriceSystem.variantsPriceSummary
  cases hget : (s.productsFor x).get? id with
  | none =>
    refine ⟨hcovered, fun p hp => hbut p hp fun heq => ?_⟩
    exact get?_eq_none.mp hget p hp heq
  | some row =>
    have hrow : row.id = id := key_of_get? hget
    dsimp only
    split
    · rename_i hsame
      refine ⟨hcovered, fun p hp => ?_⟩
      by_cases hp' : p.id = id
      · have heq : p = row := (s.productsFor x).eq_of_key_eq hp (mem_of_get? hget) (hp'.trans hrow.symm)
        rw [Priced, heq, hrow]
        exact hsame
      · exact hbut p hp hp'
    · refine ⟨hcovered.putProduct (hrow ▸ hid), fun p hp => ?_⟩
      rcases mem_productsFor_put hp with rfl | ⟨hp, hne⟩
      · rw [Priced]
        dsimp only
        rw [hrow]
        rfl
      · exact hbut p hp (hrow ▸ hne)

theorem addVariants_but {specs : List (Id × Option ℤ × Bool)} (hcovered : x.Covered) (hid : id ∈ x.locks)
    (hbut : x.SeesBut s id) (h : s.addVariants id x specs = some x') :
    x'.id = x.id ∧ x'.locks = x.locks ∧ x'.Covered ∧ x'.SeesBut s id := by
  induction specs generalizing x with
  | nil =>
    cases h
    exact ⟨rfl, rfl, hcovered, hbut⟩
  | cons spec specs ih =>
    obtain ⟨variantId, override, active⟩ := spec
    unfold PriceSystem.addVariants at h
    split at h
    · cases h
    · let v : PricedVariant := ⟨id, variantId, override, active⟩
      have hcov : ({ x with variants := x.variants.put v } : PriceTx).Covered := hcovered.putVariant hid
      have hrest := ih hcov hid (fun p hp hne => (hbut p hp hne).congr (variantsOf_put hne.symm)) h
      exact hrest

theorem insertVariants_advances {specs : List (Id × Option ℤ × Bool)} (hcovered : x.Covered) (hsees : x.Sees s)
    (h : s.insertVariants x id specs = some x') : x.Advances s x' := by
  obtain ⟨⟨y, product⟩, hlock, h⟩ := Option.bind_eq_some_iff.mp h
  obtain ⟨hfree, rfl, _⟩ := lockProduct_eq_some hlock
  dsimp only at h
  split at h
  · cases h
  · obtain ⟨y, hadd, rfl⟩ := Option.map_eq_some_iff.mp h
    obtain ⟨hyid, hylocks, hycovered, hybut⟩ := addVariants_but (hcovered.lock id) List.mem_cons_self (hsees.but id) hadd
    have hmem : id ∈ y.locks := by rw [hylocks]; exact List.mem_cons_self
    -- each row fires the trigger, and the first one is enough
    have hfold : ∀ (specs : List (Id × Option ℤ × Bool)) (z : PriceTx), id ∈ z.locks → z.Covered → z.Sees s →
        (specs.foldl (fun x _ => s.variantsPriceSummary x id) z).id = z.id ∧
        (specs.foldl (fun x _ => s.variantsPriceSummary x id) z).locks = z.locks ∧
        (specs.foldl (fun x _ => s.variantsPriceSummary x id) z).Covered ∧
        (specs.foldl (fun x _ => s.variantsPriceSummary x id) z).Sees s := by
      intro specs
      induction specs with
      | nil => exact fun z _ hcov hs => ⟨rfl, rfl, hcov, hs⟩
      | cons spec specs ih =>
        intro z hz hcov hs
        obtain ⟨hzid, hzlocks⟩ : (s.variantsPriceSummary z id).id = z.id ∧ _ := variantsPriceSummary_id
        obtain ⟨hcov', hs'⟩ := variantsPriceSummary_sees hcov hz (hs.but id)
        obtain ⟨h1, h2, h3, h4⟩ := ih (s.variantsPriceSummary z id) (hzlocks ▸ hz) hcov' hs'
        exact ⟨h1.trans hzid, h2.trans hzlocks, h3, h4⟩
    cases specs with
    | nil =>
      cases hadd
      exact ⟨rfl, hycovered, hsees, mem_locks_cons hfree⟩
    | cons spec specs =>
      obtain ⟨hzid, hzlocks⟩ : (s.variantsPriceSummary y id).id = y.id ∧ _ := variantsPriceSummary_id
      obtain ⟨hcov', hs'⟩ := variantsPriceSummary_sees hycovered hmem hybut
      obtain ⟨h1, h2, h3, h4⟩ := hfold specs (s.variantsPriceSummary y id) (hzlocks ▸ hmem) hcov' hs'
      refine ⟨h1.trans (hzid.trans hyid), h3, h4, ?_⟩
      rw [List.foldl_cons, h2, hzlocks, hylocks]
      exact mem_locks_cons hfree

theorem updateVariant_advances {variantId : Id} {override : Option (Option ℤ)} {active : Option Bool}
    (hcovered : x.Covered) (hsees : x.Sees s) (h : s.updateVariant x id variantId override active = some x') :
    x.Advances s x' := by
  obtain ⟨⟨y, product⟩, hlock, h⟩ := Option.bind_eq_some_iff.mp h
  obtain ⟨hfree, rfl, _⟩ := lockProduct_eq_some hlock
  obtain ⟨row, hget, h⟩ := Option.bind_eq_some_iff.mp h
  dsimp only at h
  split at h
  · cases h
  · have hproduct : row.productId = id := congrArg Prod.fst (key_of_get? hget)
    cases h
    have hbut : ∀ v : PricedVariant, v.productId = id →
        ({ x with locks := id :: x.locks, variants := x.variants.put v } : PriceTx).SeesBut s id := fun v hv p hp hne =>
      (hsees p hp).congr (variantsOf_put (x := { x with locks := id :: x.locks }) (by rw [hv]; exact hne.symm))
    have hcov := (hcovered.lock id).putVariant (v := { row with
      priceOverrideCents := override.getD row.priceOverrideCents
      active := active.getD row.active }) (hproduct ▸ List.mem_cons_self)
    obtain ⟨hcov', hs'⟩ := variantsPriceSummary_sees hcov List.mem_cons_self (hbut _ hproduct)
    exact ⟨variantsPriceSummary_id.1, hcov', hs', by rw [variantsPriceSummary_id.2]; exact mem_locks_cons hfree⟩

theorem deleteVariant_advances {variantId : Id} (hcovered : x.Covered) (hsees : x.Sees s)
    (h : s.deleteVariant x id variantId = some x') : x.Advances s x' := by
  obtain ⟨⟨y, product⟩, hlock, h⟩ := Option.bind_eq_some_iff.mp h
  obtain ⟨hfree, rfl, _⟩ := lockProduct_eq_some hlock
  dsimp only at h
  split at h
  · cases h
  · cases h
    have hlocked := hcovered.lock id
    have hcov : ({ x with
        locks := id :: x.locks
        variants := x.variants.erase (id, variantId)
        gone := (id, variantId) :: x.gone } : PriceTx).Covered := by
      refine ⟨hlocked.products, fun v hv => hlocked.variants v (mem_erase.mp hv).1, fun k hk => ?_⟩
      rcases List.mem_cons.mp hk with rfl | hk
      · exact List.mem_cons_self
      · exact hlocked.gone k hk
    obtain ⟨hcov', hs'⟩ := variantsPriceSummary_sees (s := s) hcov List.mem_cons_self fun p hp hne =>
      (hsees p hp).congr (variantsOf_erase (x := { x with locks := id :: x.locks }) (Ne.symm hne))
    exact ⟨variantsPriceSummary_id.1, hcov', hs', by rw [variantsPriceSummary_id.2]; exact mem_locks_cons hfree⟩

theorem exec_advances {sql : PriceSql} (hcovered : x.Covered) (hsees : x.Sees s) (h : s.exec x sql = some x') :
    x.Advances s x' := by
  cases sql with
  | lockProduct id =>
    obtain ⟨⟨y, row⟩, hlock, rfl⟩ := Option.map_eq_some_iff.mp h
    obtain ⟨hfree, rfl, _⟩ := lockProduct_eq_some hlock
    exact ⟨rfl, hcovered.lock id, hsees, mem_locks_cons hfree⟩
  | insertProduct id priceCents optionCount status => exact insertProduct_advances hcovered hsees h
  | updateProduct id priceCents optionCount status => exact updateProduct_advances hcovered hsees h
  | insertVariants productId specs => exact insertVariants_advances hcovered hsees h
  | updateVariant productId id override active => exact updateVariant_advances hcovered hsees h
  | deleteVariant productId id => exact deleteVariant_advances hcovered hsees h

/-! ### Runs -/

structure PriceInv (s : PriceSystem) : Prop where
  exclusive : ∀ x ∈ s.txs.rows, ∀ y ∈ s.txs.rows, ∀ p, p ∈ x.locks → p ∈ y.locks → x.id = y.id
  covered : ∀ x ∈ s.txs.rows, x.Covered
  sees : ∀ x ∈ s.txs.rows, x.Sees s
  priced : ∀ p ∈ s.products.rows, Priced s.variants.rows p

variable {l : PriceLabel} {tr : List (Taken PriceSystem PriceLabel)}

/-- Another one's commit is about other products. -/
theorem PriceTx.Sees.committed {y : PriceTx} (hsees : x.Sees s) (hcovered : x.Covered) (hy : y.Covered) (hysees : y.Sees s)
    (hapart : ∀ p ∈ x.locks, p ∉ y.locks) (hproducts : s'.products = s.productsFor y)
    (hvariants : s'.variants = s.variantsFor y) : x.Sees s' := by
  intro p hp
  unfold PriceSystem.productsFor at hp
  rw [hproducts] at hp
  by_cases hlock : p.id ∈ x.locks
  · -- the other one has neither the product nor its variants
    have hfree := hapart p.id hlock
    have hnone : y.products.get? p.id = none := get?_eq_none.mpr fun q hq heq => hfree (heq ▸ hy.products q hq)
    have hmem : p ∈ (s.productsFor x).rows := by
      rcases mem_merge.mp hp with hown | ⟨hq, hnot, hstays⟩
      · exact mem_merge.mpr (.inl hown)
      · rcases mem_merge.mp hq with hother | ⟨hold, _, _⟩
        · exact absurd (hy.products p hother) hfree
        · exact mem_merge.mpr (.inr ⟨hold, hnot, hstays⟩)
    refine (hsees p hmem).congr ?_
    have hsame : variantsOf p.id s'.variants.rows = variantsOf p.id s.variants.rows := by
      rw [hvariants]
      exact variantsOf_merge (fun v hv heq => hfree (heq ▸ hy.variants v hv)) fun k hk heq => hfree (heq ▸ hy.gone k hk)
    exact variantsOf_merge_congr hsame
  · have hmem : p ∈ (s.productsFor y).rows := by
      rcases mem_merge.mp hp with hown | ⟨hq, _, _⟩
      · exact absurd (hcovered.products p hown) hlock
      · exact hq
    refine (hysees p hmem).congr ?_
    rw [PriceSystem.variantsFor, hvariants]
    exact variantsOf_merge (fun v hv heq => hlock (heq ▸ hcovered.variants v hv))
      fun k hk heq => hlock (heq ▸ hcovered.gone k hk)

theorem PriceInv.begin_ (hinv : PriceInv s) {id : Nat} (h : priceStep s (.begin_ id) = some s') : PriceInv s' := by
  obtain ⟨txs, hinsert, rfl⟩ := Option.map_eq_some_iff.mp h
  have hcases : ∀ y ∈ txs.rows, y = ⟨id, [], .empty, .empty, []⟩ ∨ y ∈ s.txs.rows := fun y hy => (mem_insert? hinsert).mp hy
  refine ⟨fun y hy z hz p hyp hzp => ?_, fun y hy => ?_, fun y hy => ?_, hinv.priced⟩
  · rcases hcases y hy with rfl | hys
    · cases hyp
    · rcases hcases z hz with rfl | hzs
      · cases hzp
      · exact hinv.exclusive y hys z hzs p hyp hzp
  · rcases hcases y hy with rfl | hys
    · exact ⟨fun _ hp => absurd hp List.not_mem_nil, fun _ hv => absurd hv List.not_mem_nil,
        fun _ hk => absurd hk List.not_mem_nil⟩
    · exact hinv.covered y hys
  · rcases hcases y hy with rfl | hys
    · -- it sees what is committed
      intro p hp
      rcases mem_merge.mp hp with hown | ⟨hq, _, _⟩
      · cases hown
      · refine (hinv.priced p hq).congr (variantsOf_merge ?_ ?_)
        · exact fun _ hv => absurd hv List.not_mem_nil
        · exact fun _ hk => absurd hk List.not_mem_nil
    · exact hinv.sees y hys

theorem PriceInv.erase (hinv : PriceInv s) (id : Nat) : PriceInv { s with txs := s.txs.erase id } where
  exclusive y hy z hz := hinv.exclusive y (mem_erase.mp hy).1 z (mem_erase.mp hz).1
  covered y hy := hinv.covered y (mem_erase.mp hy).1
  sees y hy := hinv.sees y (mem_erase.mp hy).1
  priced := hinv.priced

theorem PriceInv.exec (hinv : PriceInv s) {sql : PriceSql} (hmem : x ∈ s.txs.rows) (h : s.exec x sql = some x') :
    PriceInv { s with txs := s.txs.replace x' } := by
  have hadv := exec_advances (hinv.covered x hmem) (hinv.sees x hmem) h
  have hget : s.txs.get? (key x') = some x := by
    rw [show key x' = key x from hadv.id]
    exact get?_of_mem hmem
  have hothers : ∀ y ∈ s.txs.rows, y.id ≠ x.id → ∀ p ∈ x'.locks, p ∉ y.locks := by
    intro y hy hne p hp hyp
    rcases hadv.locks p hp with hwas | hnot
    · exact hne (hinv.exclusive y hy x hmem p hyp hwas)
    · exact hnot ⟨y, hy, hne, hyp⟩
  refine ⟨fun y hy z hz p hyp hzp => ?_, fun y hy => ?_, fun y hy => ?_, hinv.priced⟩
  · rcases (mem_replace hget).mp hy with rfl | ⟨hys, hyne⟩
    · rcases (mem_replace hget).mp hz with rfl | ⟨hzs, hzne⟩
      · rfl
      · exact absurd hzp (hothers z hzs (hadv.id ▸ hzne) p hyp)
    · rcases (mem_replace hget).mp hz with rfl | ⟨hzs, _⟩
      · exact absurd hyp (hothers y hys (hadv.id ▸ hyne) p hzp)
      · exact hinv.exclusive y hys z hzs p hyp hzp
  · rcases (mem_replace hget).mp hy with rfl | ⟨hys, _⟩
    · exact hadv.covered
    · exact hinv.covered y hys
  · rcases (mem_replace hget).mp hy with rfl | ⟨hys, _⟩
    · exact hadv.sees
    · exact hinv.sees y hys

theorem PriceInv.commit (hinv : PriceInv s) (hmem : x ∈ s.txs.rows) :
    PriceInv { products := s.productsFor x, variants := s.variantsFor x, txs := s.txs.erase x.id } where
  exclusive y hy z hz := hinv.exclusive y (mem_erase.mp hy).1 z (mem_erase.mp hz).1
  covered y hy := hinv.covered y (mem_erase.mp hy).1
  sees y hy := by
    obtain ⟨hys, hne⟩ := mem_erase.mp hy
    exact (hinv.sees y hys).committed (hinv.covered y hys) (hinv.covered x hmem) (hinv.sees x hmem)
      (fun p hp hxp => hne (hinv.exclusive y hys x hmem p hp hxp)) rfl rfl
  priced := hinv.sees x hmem

theorem PriceInv.step (hinv : PriceInv s) (h : priceStep s l = some s') : PriceInv s' := by
  cases l with
  | begin_ id => exact hinv.begin_ h
  | exec id sql =>
    obtain ⟨x, hget, h⟩ := Option.bind_eq_some_iff.mp h
    obtain ⟨x', hexec, rfl⟩ := Option.map_eq_some_iff.mp h
    exact hinv.exec (mem_of_get? hget) hexec
  | commit id =>
    obtain ⟨x, hget, rfl⟩ := Option.map_eq_some_iff.mp h
    have hid : x.id = id := key_of_get? hget
    exact hid ▸ hinv.commit (mem_of_get? hget)
  | abort id =>
    cases h
    exact hinv.erase id

theorem PriceInv.of_run (h : PriceRun tr s) : PriceInv s :=
  h.invariant ⟨fun _ hx => absurd hx List.not_mem_nil, fun _ hx => absurd hx List.not_mem_nil,
    fun _ hx => absurd hx List.not_mem_nil, fun _ hp => absurd hp List.not_mem_nil⟩ fun hstep hinv => hinv.step hstep

/-! ### The catalogue -/

/-- What a shopper, or an administrator, is shown of a committed product. -/
def shownFields (s : PriceSystem) (p : PricedProduct) (isAdmin detail : Bool) : PriceFields :=
  viewFields p (variantsOf p.id s.variants.rows) isAdmin detail

instance (descending : Bool) : Std.Total (comesBefore descending) where
  total a b := by
    unfold comesBefore
    cases descending
    · rcases lt_trichotomy (sortColumn false a) (sortColumn false b) with h | h | h
      · exact .inl (.inl h)
      · rcases Nat.le_total a.id b.id with hid | hid
        · exact .inl (.inr ⟨h, hid⟩)
        · exact .inr (.inr ⟨h.symm, hid⟩)
      · exact .inr (.inl h)
    · rcases lt_trichotomy (sortColumn true a) (sortColumn true b) with h | h | h
      · exact .inr (.inl h)
      · rcases Nat.le_total a.id b.id with hid | hid
        · exact .inl (.inr ⟨h, hid⟩)
        · exact .inr (.inr ⟨h.symm, hid⟩)
      · exact .inl (.inl h)

instance (descending : Bool) : IsTrans PricedProduct (comesBefore descending) where
  trans a b c := by
    unfold comesBefore
    cases descending
    · rintro (h | ⟨h, hid⟩) (h' | ⟨h', hid'⟩)
      · exact .inl (lt_trans h h')
      · exact .inl (h' ▸ h)
      · exact .inl (h ▸ h')
      · exact .inr ⟨h.trans h', hid.trans hid'⟩
    · rintro (h | ⟨h, hid⟩) (h' | ⟨h', hid'⟩)
      · exact .inl (lt_trans h' h)
      · exact .inl (h' ▸ h)
      · exact .inl (h ▸ h')
      · exact .inr ⟨h.trans h', hid.trans hid'⟩

theorem listPaginated_pairwise (s : PriceSystem) (q : PriceQuery) :
    (listPaginated s q).Pairwise (comesBefore q.descending) :=
  ((List.pairwise_insertionSort _ _).sublist (List.drop_sublist ..)).sublist (List.take_sublist ..)

theorem mem_listPaginated {q : PriceQuery} (h : p ∈ listPaginated s q) :
    p ∈ s.products.rows ∧ ((q.minPrice.isSome ∨ q.maxPrice.isSome) → priceCondition q s.variants.rows p) := by
  have hmem := (List.mem_insertionSort _).mp (List.mem_of_mem_drop (List.mem_of_mem_take h))
  obtain ⟨hp, hcond⟩ := List.mem_filter.mp hmem
  have hcond := of_decide_eq_true hcond
  exact ⟨hp, hcond.2.1⟩

/-- What the filter accepts is shown with a price within the bounds. -/
theorem shown_of_priceCondition {q : PriceQuery} (h : priceCondition q s.variants.rows p) :
    ∃ price ∈ (shownFields s p false true).prices, withinBounds q price := by
  rcases h with ⟨hoptions, hbounds⟩ | ⟨hoptions, v, hv, hproduct, hactive, hbounds⟩
  · refine ⟨p.priceCents, ?_, hbounds⟩
    rw [shownFields, viewFields, if_pos hoptions]
    exact List.mem_singleton.mpr rfl
  · refine ⟨v.priceOverrideCents.getD p.priceCents, ?_, hbounds⟩
    rw [shownFields, viewFields, if_neg (by omega)]
    have hmem : v ∈ (variantsOf p.id s.variants.rows).filter (·.active) :=
      List.mem_filter.mpr ⟨List.mem_filter.mpr ⟨hv, by simpa using hproduct⟩, hactive⟩
    simp only [PriceFields.prices, if_true, Bool.false_eq_true, if_false, List.map_map]
    exact List.mem_map.mpr ⟨v, hmem, effectivePrice_eq v p.priceCents⟩

/-- In every committed state the stored range of a product is the one that is shown; a catalogue by price is in the
    order of the lowest (or highest) prices it shows; and what a price filter returns is shown with a price within
    the bounds. -/
theorem price_range_shown (h : PriceRun tr s) :
    (∀ p ∈ s.products.rows, ∀ isAdmin detail, p.priceFromCents = (shownFields s p isAdmin detail).priceFromCents ∧
      p.priceToCents = (shownFields s p isAdmin detail).priceToCents) ∧
    (∀ q, q.descending = false → (listPaginated s q).Pairwise fun a b => ∀ isAdmin detail,
      (shownFields s a isAdmin detail).priceFromCents ≤ (shownFields s b isAdmin detail).priceFromCents) ∧
    (∀ q, q.descending = true → (listPaginated s q).Pairwise fun a b => ∀ isAdmin detail,
      (shownFields s b isAdmin detail).priceToCents ≤ (shownFields s a isAdmin detail).priceToCents) ∧
    ∀ q, q.minPrice.isSome ∨ q.maxPrice.isSome → ∀ p ∈ listPaginated s q, p.status = .active →
      ∃ price ∈ (shownFields s p false true).prices, withinBounds q price := by
  have hinv := PriceInv.of_run h
  have hshown : ∀ p ∈ s.products.rows, ∀ isAdmin detail,
      p.priceFromCents = (shownFields s p isAdmin detail).priceFromCents ∧
        p.priceToCents = (shownFields s p isAdmin detail).priceToCents := fun p hp isAdmin detail =>
    (hinv.priced p hp).shown isAdmin detail
  refine ⟨hshown, fun q hq => ?_, fun q hq => ?_, fun q hbounded p hp _ => ?_⟩
  · refine (listPaginated_pairwise s q).imp_of_mem fun {a b} ha hb hab isAdmin detail => ?_
    rw [← (hshown a (mem_listPaginated ha).1 isAdmin detail).1, ← (hshown b (mem_listPaginated hb).1 isAdmin detail).1]
    rw [hq] at hab
    rcases hab with hlt | ⟨heq, _⟩
    · exact le_of_lt hlt
    · exact le_of_eq heq
  · refine (listPaginated_pairwise s q).imp_of_mem fun {a b} ha hb hab isAdmin detail => ?_
    rw [← (hshown a (mem_listPaginated ha).1 isAdmin detail).2, ← (hshown b (mem_listPaginated hb).1 isAdmin detail).2]
    rw [hq] at hab
    rcases hab with hlt | ⟨heq, _⟩
    · exact le_of_lt hlt
    · exact le_of_eq heq.symm
  · exact shown_of_priceCondition ((mem_listPaginated hp).2 hbounded)

/-- A product gets variants, then a new base price and an active cheap variant in one transaction, and loses its dearest
    one in another; the second product stays as it is. -/
theorem price_range_shown_conversion : ∃ tr s, PriceRun tr s ∧
    s.products.rows.map (fun p => (p.id, p.priceFromCents, p.priceToCents)) = [(7, 300, 600), (8, 450, 450)] ∧
    (listPaginated s ⟨fun _ => true, none, some 500, true, false, 0, 20⟩).map (·.id) = [7, 8] ∧
    (listPaginated s ⟨fun _ => true, none, some 500, true, false, 0, 20⟩).Pairwise fun a b => ∀ isAdmin detail,
      (shownFields s b isAdmin detail).priceToCents ≤ (shownFields s a isAdmin detail).priceToCents := by
  obtain ⟨tr, s, hrun, hrange, hpage⟩ := exists_exec priceStep .initial
    (P := fun _ s => s.products.rows.map (fun p => (p.id, p.priceFromCents, p.priceToCents)) =
        [(7, 300, 600), (8, 450, 450)] ∧
      (listPaginated s ⟨fun _ => true, none, some 500, true, false, 0, 20⟩).map (·.id) = [7, 8])
    [.begin_ 1, .exec 1 (.insertProduct 7 500 0 .active), .commit 1,
      .begin_ 2, .exec 2 (.lockProduct 7), .exec 2 (.updateProduct 7 none (some 1) none),
      .begin_ 3, .exec 2 (.insertVariants 7 [(1, none, true), (2, some 900, true), (3, some 300, false)]), .commit 2,
      .begin_ 4, .exec 4 (.insertProduct 8 450 0 .active),
      .exec 3 (.lockProduct 7), .exec 3 (.updateProduct 7 (some 600) none none), .commit 4,
      .exec 3 (.updateVariant 7 3 none (some true)), .commit 3,
      .begin_ 5, .exec 5 (.deleteVariant 7 2), .commit 5]
    (by decide +kernel)
  exact ⟨tr, s, hrun, hrange, hpage, (price_range_shown hrun).2.2.1 _ rfl⟩

end NovaCart
