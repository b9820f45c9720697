import NovaCart.OrderRuns
import NovaCart.StockRuns

/-! Stock goes back once, and a cancelled order has all of it back.

    `order-release` events are recorded only for orders whose stock is released, so the release that
    cancels an order finds none of its lines released and fills every one of them. -/

namespace NovaCart

open Schemes

variable {cfg : Settings} {s s' s₀ : Sys} {l : Label} {tr : List (Taken Sys Label)}
variable {db db' seen : Db} {now : Time}

/-! ### Order lines and release events -/

/-- The event key of `_restock_once`. -/
def releaseKey : String := "order-release"

/-- The statement adds no order line and records no release. -/
def StockWrite.calm : StockWrite → Bool
  | .insertItem _ => false
  | .recordRestock row => row.eventKey ≠ releaseKey
  | _ => true

/-- No line was added in between and no release recorded. -/
structure Stock.Calm (s s' : Stock) : Prop where
  items : ∀ i ∈ s'.items.rows, ∃ j ∈ s.items.rows, j.Same i
  restocks : ∀ x ∈ s'.restocks.rows, x ∈ s.restocks.rows ∨ x.eventKey ≠ releaseKey

theorem OrderItem.Same.refl (i : OrderItem) : i.Same i := ⟨rfl, rfl, rfl, rfl, rfl⟩

theorem OrderItem.Same.trans {i j k : OrderItem} (h₁ : i.Same j) (h₂ : j.Same k) : i.Same k where
  id := h₂.id.trans h₁.id
  orderId := h₂.orderId.trans h₁.orderId
  productId := h₂.productId.trans h₁.productId
  variantId := h₂.variantId.trans h₁.variantId
  quantity := h₂.quantity.trans h₁.quantity

namespace Stock

theorem Calm.refl (s : Stock) : s.Calm s where
  items i hi := ⟨i, hi, .refl i⟩
  restocks _ hx := .inl hx

theorem Calm.trans {s₁ s₂ s₃ : Stock} (h₁ : s₁.Calm s₂) (h₂ : s₂.Calm s₃) : s₁.Calm s₃ where
  items i hi := by
    obtain ⟨j, hj, hij⟩ := h₂.items i hi
    obtain ⟨k, hk, hjk⟩ := h₁.items j hj
    exact ⟨k, hk, hjk.trans hij⟩
  restocks x hx := by
    rcases h₂.restocks x hx with hold | hne
    · exact h₁.restocks x hold
    · exact .inr hne

variable {s s' : Stock}

/-- Only a restock statement adds a restock event, its own. -/
theorem write_restocks {w : StockWrite} (h : s.write w = .ok s') {x : OrderItemRestock}
    (hx : x ∈ s'.restocks.rows) : x ∈ s.restocks.rows ∨ w = .recordRestock x := by
  cases w with
  | recordRestock row =>
    rcases recordRestock_ok h with ⟨_, rfl⟩ | ⟨t, i, i', ht, _, _, rfl⟩
    · exact .inl hx
    · rcases (Table.mem_insert? ht).mp hx with rfl | hold
      · exact .inr rfl
      · exact .inl hold
  | insertItem row => obtain ⟨_, _, _, _, rfl⟩ := insertItem_ok h; exact .inl hx
  | insertProduct row => obtain ⟨_, _, h⟩ := need_bind_ok h; cases h; exact .inl hx
  | productStatus id status => obtain ⟨_, _, _, _, _, rfl⟩ := updateProduct_ok h; exact .inl hx
  | productPrice id price => obtain ⟨_, _, _, _, _, rfl⟩ := updateProduct_ok h; exact .inl hx
  | setProductStock id x ctx => obtain ⟨_, _, _, _, _, rfl⟩ := updateProduct_ok h; exact .inl hx
  | addProductStock id delta ctx => obtain ⟨_, _, _, _, _, rfl⟩ := updateProduct_ok h; exact .inl hx
  | optionCount id count =>
    obtain ⟨_, h⟩ := require_bind_ok h
    obtain ⟨_, _, _, _, _, rfl⟩ := updateProduct_ok h
    exact .inl hx
  | insertVariant row ctx => obtain ⟨_, _, _, rfl⟩ := insertVariant_ok h; exact .inl hx
  | variantDetails id active price => obtain ⟨_, _, _, _, _, rfl⟩ := updateVariant_ok h; exact .inl hx
  | setVariantStock id x ctx => obtain ⟨_, _, _, _, _, rfl⟩ := updateVariant_ok h; exact .inl hx
  | addVariantStock id delta ctx => obtain ⟨_, _, _, _, _, rfl⟩ := updateVariant_ok h; exact .inl hx

/-- A restock event after some statements was there before or one of them records it. -/
theorem writes_restocks : ∀ {ws : List StockWrite} {s s' : Stock}, s.writes ws = .ok s' →
    ∀ x ∈ s'.restocks.rows, x ∈ s.restocks.rows ∨ .recordRestock x ∈ ws
  | [], _, _, h, x, hx => by
      cases h
      exact .inl hx
  | w :: ws, _, _, h, x, hx => by
      obtain ⟨s₁, h₁, h⟩ := bind_ok h
      rcases writes_restocks h x hx with hold | hin
      · rcases write_restocks h₁ hold with hold | rfl
        · exact .inl hold
        · exact .inr List.mem_cons_self
      · exact .inr (List.mem_cons_of_mem w hin)

/-- A line after some statements was there before or one of them inserts it. -/
theorem writes_items : ∀ {ws : List StockWrite} {s s' : Stock}, s.writes ws = .ok s' →
    ∀ i ∈ s'.items.rows, (∃ j ∈ s.items.rows, j.Same i) ∨ ∃ row, .insertItem row ∈ ws ∧ row.Same i
  | [], _, _, h, i, hi => by
      cases h
      exact .inl ⟨i, hi, .refl i⟩
  | w :: ws, _, _, h, i, hi => by
      obtain ⟨s₁, h₁, h⟩ := bind_ok h
      rcases writes_items h i hi with ⟨j, hj, hji⟩ | ⟨row, hrow, hsame⟩
      · rcases write_items h₁ hj with ⟨k, hk, hkj⟩ | ⟨rfl, _⟩
        · exact .inl ⟨k, hk, hkj.trans hji⟩
        · exact .inr ⟨j, List.mem_cons_self, hji⟩
      · exact .inr ⟨row, List.mem_cons_of_mem w hrow, hsame⟩

theorem writes_calm {ws : List StockWrite} (h : s.writes ws = .ok s') (hw : ∀ w ∈ ws, w.calm = true) :
    s.Calm s' where
  items i hi := by
    rcases writes_items h i hi with hold | ⟨row, hrow, _⟩
    · exact hold
    · cases hw _ hrow
  restocks x hx := by
    rcases writes_restocks h x hx with hold | hrow
    · exact .inl hold
    · exact .inr (by simpa [StockWrite.calm] using hw _ hrow)

end Stock

theorem stockWrites_calm {ws : List StockWrite} (h : db.stockWrites ws = .ok db')
    (hw : ∀ w ∈ ws, w.calm = true) : db.stock.Calm db'.stock := by
  obtain ⟨s, hs, rfl⟩ := stockWrites_ok h
  exact Stock.writes_calm hs hw

theorem stockWrite_calm {w : StockWrite} (h : db.write (.stock w) = .ok db') (hw : w.calm = true) :
    db.stock.Calm db'.stock := by
  obtain ⟨s, hs, h⟩ := bind_ok h
  cases h
  have hs : db.stock.writes [w] = .ok s := by simp only [Stock.writes, hs]; rfl
  exact Stock.writes_calm hs (by simpa using hw)

theorem calm_of_stock (h : db'.stock = db.stock) : db.stock.Calm db'.stock := by
  rw [h]
  exact .refl _

/-! ### Operations that are calm -/

theorem adjustStockMany_calm (d : Deltas) (ctx : StockContext) :
    ∀ w ∈ adjustStockMany d ctx, w.calm = true := by
  intro w hw
  obtain ⟨x, _, rfl⟩ := List.mem_map.mp hw
  rfl

theorem adjustVariantStockMany_calm (d : Deltas) (ctx : StockContext) :
    ∀ w ∈ adjustVariantStockMany d ctx, w.calm = true := by
  intro w hw
  obtain ⟨x, _, rfl⟩ := List.mem_map.mp hw
  rfl

/-- The statements of a restock that are not calm are its own events. -/
theorem restockWrites_events {st : Stock} {lines : List (OrderItem × OrderItemRestock)} {ctx : StockContext}
    {w : StockWrite} (hw : w ∈ restockWrites st lines ctx) :
    w.calm = true ∨ ∃ x ∈ lines, w = .recordRestock x.2 := by
  unfold restockWrites at hw
  rcases List.mem_append.mp hw with hw | hw
  · rcases List.mem_append.mp hw with hw | hw
    · obtain ⟨x, hx, rfl⟩ := List.mem_map.mp hw
      exact .inr ⟨x, hx, rfl⟩
    · exact .inl (adjustStockMany_calm _ _ w hw)
  · exact .inl (adjustVariantStockMany_calm _ _ w hw)

/-- A restock is calm when none of its events is a release. -/
theorem restockWrites_calm {st : Stock} {lines : List (OrderItem × OrderItemRestock)} {ctx : StockContext}
    (hkeys : ∀ x ∈ lines, x.2.eventKey ≠ releaseKey) : ∀ w ∈ restockWrites st lines ctx, w.calm = true := by
  intro w hw
  rcases restockWrites_events hw with hcalm | ⟨x, hx, rfl⟩
  · exact hcalm
  · simpa [StockWrite.calm] using hkeys x hx

theorem restockTodo_keys {st : Stock} {ret : ReturnRequest} :
    ∀ {items : List ReturnRequestItem} {todo : List (OrderItem × OrderItemRestock)},
      restockTodo st ret items = .ok todo → ∀ x ∈ todo, x.2.eventKey = "return:" ++ toString ret.id
  | [], _, h => by cases h; simp
  | i :: is, todo, h => by
      unfold restockTodo at h
      split at h
      · obtain ⟨line, _, h⟩ := need_bind_ok h
        obtain ⟨rest, hrest, h⟩ := bind_ok h
        cases h
        intro x hx
        rcases List.mem_cons.mp hx with rfl | hx
        · rfl
        · exact restockTodo_keys hrest x hx
      · exact restockTodo_keys h

theorem returnKey_ne (id : Id) : "return:" ++ toString id ≠ releaseKey := by
  intro h
  have hchars := congrArg String.toList h
  simp [releaseKey] at hchars

theorem insertVariants_calm {id : Id} {count : Nat} {specs : List VariantSpec} {valid : Bool}
    {kind : MovementKind} (h : insertVariants db id count specs valid kind = .ok db') :
    db.stock.Calm db'.stock := by
  obtain ⟨_, h⟩ := require_bind_ok h
  obtain ⟨rows, _, h⟩ := bind_ok h
  refine stockWrites_calm h fun w hw => ?_
  obtain ⟨v, _, rfl⟩ := List.mem_map.mp hw
  rfl

/-- A receipt is one restock of the lines it lists, under its own key. -/
theorem receiveReturn_writes {id : Id} {entries : List ReceiptEntry} (h : receiveReturn db id entries = .ok db') :
    ∃ todo ctx, db.stock.writes (restockWrites db.stock todo ctx) = .ok db'.stock ∧
      ∀ x ∈ todo, x.2.eventKey ≠ releaseKey := by
  obtain ⟨ret, _, h⟩ := bind_ok h
  obtain ⟨_, h⟩ := require_bind_ok h
  obtain ⟨_, _, h⟩ := bind_ok h
  obtain ⟨order, _, h⟩ := bind_ok h
  obtain ⟨todo, htodo, h⟩ := bind_ok h
  obtain ⟨db₁, h₁, h⟩ := bind_ok h
  obtain ⟨db₂, h₂, h⟩ := bind_ok h
  obtain ⟨s₁, hs₁, rfl⟩ := stockWrites_ok (recordReturned_ok h₁)
  obtain ⟨s, hs₂, rfl⟩ := stockWrites_ok h₂
  cases h
  refine ⟨todo, ⟨.restock, some order.id⟩, ?_, fun x hx => ?_⟩
  · rw [List.map_map] at hs₁
    rw [restockWrites, List.append_assoc]
    exact (Stock.writes_append hs₁).trans hs₂
  · rw [restockTodo_keys htodo x hx]
    exact returnKey_ne _

theorem receiveReturn_calm {id : Id} {entries : List ReceiptEntry}
    (h : receiveReturn db id entries = .ok db') : db.stock.Calm db'.stock := by
  obtain ⟨todo, ctx, hwrites, hkeys⟩ := receiveReturn_writes h
  exact Stock.writes_calm hwrites (restockWrites_calm hkeys)

theorem updateProduct_calm {id : Id} {u : ProductUpdate} (h : updateProduct seen db id u = .ok db') :
    db.stock.Calm db'.stock := by
  obtain ⟨p, _, h⟩ := need_bind_ok h
  obtain ⟨_, h⟩ := require_bind_ok h
  obtain ⟨_, h⟩ := require_bind_ok h
  refine stockWrites_calm h fun w hw => ?_
  rcases List.mem_append.mp hw with hw | hw
  · rcases List.mem_append.mp hw with hw | hw
    · obtain ⟨x, _, rfl⟩ := List.mem_map.mp hw; rfl
    · obtain ⟨x, _, rfl⟩ := List.mem_map.mp hw; rfl
  · obtain ⟨x, _, rfl⟩ := List.mem_map.mp hw; rfl

theorem adjustStock_calm {id : Id} {v : Option Id} {spec : StockAdjust}
    (h : adjustStock db id v spec = .ok db') : db.stock.Calm db'.stock := by
  obtain ⟨p, _, h⟩ := need_bind_ok h
  cases v with
  | none =>
    obtain ⟨_, h⟩ := require_bind_ok h
    obtain ⟨_, h⟩ := require_bind_ok h
    split at h
    · cases h
      exact .refl _
    · exact stockWrite_calm h rfl
  | some v =>
    obtain ⟨row, _, h⟩ := need_bind_ok h
    obtain ⟨_, h⟩ := require_bind_ok h
    obtain ⟨_, h⟩ := require_bind_ok h
    split at h
    · cases h
      exact .refl _
    · exact stockWrite_calm h rfl

theorem convertToVariants_calm {id : Id} {expected : ℤ} {count : Nat} {specs : List VariantSpec}
    {valid : Bool} (h : convertToVariants db id expected count specs valid = .ok db') :
    db.stock.Calm db'.stock := by
  obtain ⟨p, _, h⟩ := need_bind_ok h
  obtain ⟨_, h⟩ := require_bind_ok h
  obtain ⟨_, h⟩ := require_bind_ok h
  obtain ⟨_, h⟩ := require_bind_ok h
  obtain ⟨_, h⟩ := require_bind_ok h
  obtain ⟨_, h⟩ := require_bind_ok h
  obtain ⟨db₁, h₁, h⟩ := bind_ok h
  obtain ⟨db₂, h₂, h⟩ := bind_ok h
  have hclear : db.stock.Calm db₁.stock := by
    unfold clearStock at h₁
    split at h₁
    · cases h₁
      exact .refl _
    · exact stockWrite_calm h₁ rfl
  exact (hclear.trans (stockWrite_calm h₂ rfl)).trans (insertVariants_calm h)

/-- No operation but a checkout adds lines, and none records a release. -/
theorem run_calm {op : Op} (h : op.run cfg seen db now = .ok db') (hop : ∀ req, op ≠ .checkout req) :
    db.stock.Calm db'.stock := by
  cases op with
  | checkout req => exact absurd rfl (hop req)
  | receiveReturn id entries => exact receiveReturn_calm h
  | createProduct row => exact stockWrite_calm h rfl
  | updateProduct id u => exact updateProduct_calm h
  | adjustStock id v spec => exact adjustStock_calm h
  | createVariants id specs valid =>
    obtain ⟨p, _, h⟩ := need_bind_ok h
    exact insertVariants_calm h
  | updateVariant v active price => exact stockWrite_calm h rfl
  | setOptions id count inCart =>
    obtain ⟨p, _, h⟩ := need_bind_ok h
    obtain ⟨_, h⟩ := require_bind_ok h
    obtain ⟨_, h⟩ := require_bind_ok h
    obtain ⟨_, h⟩ := require_bind_ok h
    exact stockWrite_calm h rfl
  | convertToVariants id expected count specs valid => exact convertToVariants_calm h
  | _ => exact calm_of_stock ((run_within h).stock (by simp))

/-! ### The release of an order -/

/-- A new release event fills its line and touches no other. -/
theorem recordRelease_ok {st st' : Stock} {i : OrderItem} (hi : st.items.get? i.id = some i)
    (hnew : st.restocks.get? (i.id, releaseKey) = none)
    (h : st.write (.recordRestock (releaseEvent i)) = .ok st') :
    (∃ i', st'.items.get? i.id = some i' ∧ i'.restockedQuantity = i'.quantity) ∧
      (∀ id, id ≠ i.id → st'.items.get? id = st.items.get? id) ∧
      ∀ id, id ≠ i.id → st'.restocks.get? (id, releaseKey) = st.restocks.get? (id, releaseKey) := by
  have hframe := Stock.recordRestock_frame h
  rcases Stock.recordRestock_ok h with ⟨hknown, _⟩ | ⟨t, j, j', _, hj, hj', rfl⟩
  · exact absurd hnew hknown
  · have hji : j = i := Option.some.inj (hj.symm.trans hi)
    subst hji
    obtain ⟨_, hrestocked, hsame⟩ := OrderItem.withRestock_ok hj'
    have hkey : Keyed.key j' = j.id := hsame.id
    refine ⟨⟨j', ?_, ?_⟩, fun id hid => ?_, fun id hid => ?_⟩
    · have hget : st.items.get? (Keyed.key j') = some j := by
        rw [hkey]
        exact hi
      have := Table.get?_replace_self hget
      rwa [hkey] at this
    · rw [hrestocked, hsame.quantity]
      simp only [releaseEvent]
      omega
    · exact Table.get?_replace_of_ne (by rw [hkey]; exact hid)
    · refine hframe.2.2.2 _ fun heq => hid ?_
      exact (Prod.mk.inj heq).1

/-- Releasing the lines of a list, none of which was released before, fills each of them. -/
theorem recordReleases_ok : ∀ {lines : List OrderItem} {st st' : Stock}, (lines.map (·.id)).Nodup →
    (∀ i ∈ lines, st.items.get? i.id = some i) →
    (∀ i ∈ lines, st.restocks.get? (i.id, releaseKey) = none) →
    st.writes (lines.map fun i => .recordRestock (releaseEvent i)) = .ok st' →
      (∀ i ∈ lines, ∃ i', st'.items.get? i.id = some i' ∧ i'.restockedQuantity = i'.quantity) ∧
      ∀ id, id ∉ lines.map (·.id) → st'.items.get? id = st.items.get? id
  | [], _, _, _, _, _, h => by
      cases h
      exact ⟨by simp, fun _ _ => rfl⟩
  | i :: lines, st, st', hnd, hitems, hnew, h => by
      obtain ⟨st₁, h₁, h⟩ := bind_ok h
      rw [List.map_cons, List.nodup_cons] at hnd
      obtain ⟨⟨i', hi', hfull⟩, hother, hkeys⟩ :=
        recordRelease_ok (hitems i List.mem_cons_self) (hnew i List.mem_cons_self) h₁
      have hne : ∀ j ∈ lines, j.id ≠ i.id := by
        intro j hj heq
        exact hnd.1 (List.mem_map.mpr ⟨j, hj, heq⟩)
      obtain ⟨hrest, hframe⟩ := recordReleases_ok hnd.2
        (fun j hj => by rw [hother _ (hne j hj)]; exact hitems j (List.mem_cons_of_mem i hj))
        (fun j hj => by rw [hkeys _ (hne j hj)]; exact hnew j (List.mem_cons_of_mem i hj)) h
      refine ⟨fun j hj => ?_, fun id hid => ?_⟩
      · rcases List.mem_cons.mp hj with rfl | hj
        · exact ⟨i', by rw [hframe _ hnd.1]; exact hi', hfull⟩
        · exact hrest j hj
      · rw [List.map_cons, List.mem_cons, not_or] at hid
        rw [hframe id hid.2, hother id hid.1]

/-- What `_restock_once` does to the lines: it adds none, every event it records is of a line of the
    order, and when none of the order's lines was released before, all of them are full afterwards. -/
structure Releases (orderId : Id) (st st' : Stock) : Prop where
  items : ∀ i ∈ st'.items.rows, ∃ j ∈ st.items.rows, j.Same i
  restocks : ∀ x ∈ st'.restocks.rows, x.eventKey = releaseKey → x ∈ st.restocks.rows ∨
    ∃ i ∈ st.items.rows, i.id = x.orderItemId ∧ i.orderId = orderId
  full : (∀ i ∈ st.items.rows, i.orderId = orderId → st.restocks.get? (i.id, releaseKey) = none) →
    ∀ i ∈ st'.items.rows, i.orderId = orderId → i.restockedQuantity = i.quantity

theorem mem_pendingLines {st : Stock} {orderId : Id} {i : OrderItem} : i ∈ pendingLines st orderId ↔
    i ∈ st.items.rows ∧ i.orderId = orderId ∧ i.restockedQuantity < i.quantity := by
  simp [pendingLines, Stock.itemsOf, and_assoc, and_comm]

theorem pendingLines_ids (st : Stock) (orderId : Id) : ((pendingLines st orderId).map (·.id)).Nodup :=
  ((List.filter_sublist.trans List.filter_sublist).map _).nodup st.items.nodup

theorem restockOnce_releases {o : Order} (h : restockOnce db o = .ok db') :
    Releases o.id db.stock db'.stock := by
  obtain ⟨_, h⟩ := require_bind_ok h
  obtain ⟨st, hst, rfl⟩ := stockWrites_ok h
  have hevents : ∀ w ∈ restockWrites db.stock ((pendingLines db.stock o.id).map fun i => (i, releaseEvent i))
      ⟨.restock, some o.id⟩, w.calm = true ∨ ∃ i ∈ pendingLines db.stock o.id,
        w = .recordRestock (releaseEvent i) := by
    intro w hw
    rcases restockWrites_events hw with hcalm | ⟨x, hx, rfl⟩
    · exact .inl hcalm
    · obtain ⟨i, hi, rfl⟩ := List.mem_map.mp hx
      exact .inr ⟨i, hi, rfl⟩
  have hstem : ∀ i ∈ st.items.rows, ∃ j ∈ db.stock.items.rows, j.Same i := by
    intro i hi
    rcases Stock.writes_items hst i hi with hold | ⟨row, hrow, _⟩
    · exact hold
    · rcases hevents _ hrow with hcalm | ⟨_, _, heq⟩
      · cases hcalm
      · cases heq
  refine ⟨hstem, fun x hx hkey => ?_, fun hnew i hi hio => ?_⟩
  · rcases Stock.writes_restocks hst x hx with hold | hrow
    · exact .inl hold
    · rcases hevents _ hrow with hcalm | ⟨i, hi, heq⟩
      · simp [StockWrite.calm, hkey] at hcalm
      · cases heq
        obtain ⟨hmem, ho, _⟩ := mem_pendingLines.mp hi
        exact .inr ⟨i, hmem, rfl, ho⟩
  · unfold restockWrites at hst
    obtain ⟨st₂, hst₂, hvariants⟩ := Stock.writes_append_ok hst
    obtain ⟨st₁, hst₁, hproducts⟩ := Stock.writes_append_ok hst₂
    -- moving the pieces touches no line
    have hitems : st.items = st₁.items := by
      rw [(Stock.adjustVariantStockMany_held hvariants).2, (Stock.adjustStockMany_held hproducts).2.2]
    rw [List.map_map] at hst₁
    obtain ⟨hfull, hother⟩ := recordReleases_ok (pendingLines_ids db.stock o.id)
      (fun j hj => Table.get?_of_mem (mem_pendingLines.mp hj).1)
      (fun j hj => hnew j (mem_pendingLines.mp hj).1 (mem_pendingLines.mp hj).2.1) hst₁
    have hget : st₁.items.get? i.id = some i := by
      rw [← hitems]
      exact Table.get?_of_mem hi
    obtain ⟨j, hj, hsame⟩ := hstem i hi
    by_cases hpending : j ∈ pendingLines db.stock o.id
    · obtain ⟨i', hi', hfull⟩ := hfull j hpending
      rw [← hsame.id, hget] at hi'
      cases hi'
      exact hfull
    · -- a line that had nothing left to give back is as it was
      have hid : i.id ∉ (pendingLines db.stock o.id).map (·.id) := by
        intro hin
        obtain ⟨k, hk, hki⟩ := List.mem_map.mp hin
        have : k = j := db.stock.items.eq_of_key_eq (mem_pendingLines.mp hk).1 hj (hki.trans hsame.id)
        exact hpending (this ▸ hk)
      have hold : db.stock.items.get? j.id = some j := Table.get?_of_mem hj
      rw [hother _ hid, hsame.id, hold] at hget
      cases hget
      by_contra hne
      exact hpending (mem_pendingLines.mpr ⟨hj, hio, lt_of_le_of_ne i.restockedWithinQuantity hne⟩)

/-! ### Orders whose release a call leaves alone -/

/-- The same order, released or not as before, and not cancelled meanwhile without being released. -/
structure Order.Quiet (o o' : Order) : Prop where
  id : o'.id = o.id
  stockReleasedAt : o'.stockReleasedAt = o.stockReleasedAt
  cancelled : o'.status = .cancelled → o.status = .cancelled ∨ o.stockReleasedAt ≠ none

theorem Order.Quiet.refl (o : Order) : o.Quiet o := ⟨rfl, rfl, .inl⟩

theorem Order.Quiet.trans {o₁ o₂ o₃ : Order} (h₁ : o₁.Quiet o₂) (h₂ : o₂.Quiet o₃) : o₁.Quiet o₃ where
  id := h₂.id.trans h₁.id
  stockReleasedAt := h₂.stockReleasedAt.trans h₁.stockReleasedAt
  cancelled h := by
    rcases h₂.cancelled h with hc | hr
    · exact h₁.cancelled hc
    · rw [h₁.stockReleasedAt] at hr
      exact .inr hr

/-- No order was released in between, no line added and no release recorded. -/
structure Quiet (db db' : Db) : Prop where
  kept : Table.Kept Order.Quiet db.orders db'.orders
  stems : Table.Stems Order.Quiet db.orders db'.orders
  grows : db.stock.Grows db'.stock
  calm : db.stock.Calm db'.stock

theorem Quiet.trans {db₁ db₂ db₃ : Db} (h₁ : Quiet db₁ db₂) (h₂ : Quiet db₂ db₃) : Quiet db₁ db₃ where
  kept := Table.Kept.trans (R := Order.Quiet) Order.Quiet.trans h₁.kept h₂.kept
  stems := Table.Stems.trans (R := Order.Quiet) Order.Quiet.trans h₁.stems h₂.stems
  grows := h₁.grows.trans h₂.grows
  calm := h₁.calm.trans h₂.calm

theorem quiet_of_orders (horders : db'.orders = db.orders) (hgrows : db.stock.Grows db'.stock)
    (hcalm : db.stock.Calm db'.stock) : Quiet db db' := by
  refine ⟨?_, ?_, hgrows, hcalm⟩
  · rw [horders]
    exact .refl Order.Quiet.refl _
  · rw [horders]
    exact .refl Order.Quiet.refl _

theorem quiet_of_same (horders : db'.orders = db.orders) (hstock : db'.stock = db.stock) : Quiet db db' := by
  refine quiet_of_orders horders ?_ (calm_of_stock hstock)
  rw [hstock]
  exact .refl _

/-- A call that touches neither orders nor stock. -/
theorem Within.quiet {K : List WriteKind} (h : Within K db db') (hs : WriteKind.stock ∉ K)
    (hi : WriteKind.insertOrder ∉ K) (ho : WriteKind.orderStatus ∉ K) (hr : WriteKind.orderRest ∉ K) :
    Quiet db db' := quiet_of_same (h.orders hi ho hr) (h.stock hs)

/-- An order row replaced by one that is as released as it was. -/
theorem quiet_replace {old : Order} (new : Order) (hold : db.orders.get? old.id = some old)
    (hquiet : old.Quiet new) (horders : db'.orders = db.orders.replace new)
    (hstock : db'.stock = db.stock) : Quiet db db' := by
  have hget : db.orders.get? (Keyed.key new) = some old := by
    rw [show Keyed.key new = old.id from hquiet.id]
    exact hold
  refine ⟨?_, ?_, ?_, calm_of_stock hstock⟩
  · rw [horders]
    exact Table.kept_replace Order.Quiet.refl hget hquiet
  · rw [horders]
    exact Table.stems_replace Order.Quiet.refl hget hquiet
  · rw [hstock]
    exact .refl _

/-- A status statement that sets no release time cancels only an order that is released: the lifecycle
    guard sees to it. -/
theorem updateOrderStatus_quiet {o : Order} {new : OrderStatus} {by_ : Option Id} {reason : Option String}
    (h : updateOrderStatus db o new by_ reason now = .ok db') : Quiet db db' := by
  obtain ⟨old, hold, hguard, rfl⟩ := updateOrderStatus_ok h
  have hget : db.orders.get? old.id = some old := Table.get?_of_mem (Table.mem_of_get? hold)
  refine quiet_replace (old.patch { status := some new }) hget ⟨rfl, rfl, fun hc => ?_⟩ rfl rfl
  by_cases hsame : (old.patch { status := some new }).status = old.status
  · exact .inl (hsame ▸ hc)
  · exact .inr (((ordersLifecycleGuard_ok hguard).2 hsame).2.2.2 hc)

/-- Nor does a statement that sets neither the status nor the release time. -/
theorem updateOrder_quiet {id : Id} {c : OrderPatch} (h : db.write (.order id c) = .ok db')
    (hstatus : c.status = none) (hreleased : c.stockReleasedAt = none) : Quiet db db' := by
  obtain ⟨old, hold, _, rfl⟩ := updateOrder_ok h
  refine quiet_replace (old.patch c) (Table.get?_of_mem (Table.mem_of_get? hold)) ⟨rfl, ?_, fun hc => ?_⟩ rfl rfl
  · simp [Order.patch, hreleased]
  · simp only [Order.patch, hstatus, Option.getD_none] at hc
    exact .inl hc

/-! ### The invariant -/

/-- Stock is released once per order: the lines of a released order are full, a cancelled order is
    released, and a release was recorded only for lines of released orders. -/
structure ReleasedOnce (db : Db) : Prop where
  full : ∀ o ∈ db.orders.rows, o.stockReleasedAt ≠ none →
    ∀ i ∈ db.stock.items.rows, i.orderId = o.id → i.restockedQuantity = i.quantity
  cancelled : ∀ o ∈ db.orders.rows, o.status = .cancelled → o.stockReleasedAt ≠ none
  events : ∀ x ∈ db.stock.restocks.rows, x.eventKey = releaseKey →
    ∃ i, db.stock.items.get? x.orderItemId = some i ∧
      ∃ o, db.orders.get? i.orderId = some o ∧ o.stockReleasedAt ≠ none
  placed : ∀ i ∈ db.stock.items.rows, db.orders.get? i.orderId ≠ none

/-- A line that was full stays full. -/
theorem Stock.Grows.full {st st' : Stock} (h : st.Grows st') {i : OrderItem} (hi : i ∈ st.items.rows)
    (hfull : i.restockedQuantity = i.quantity) {i' : OrderItem} (hi' : i' ∈ st'.items.rows)
    (hid : i'.id = i.id) : i'.restockedQuantity = i'.quantity := by
  obtain ⟨i'', hi'', hsame, hle⟩ := h.items i.id i (Table.get?_of_mem hi)
  have hget : st'.items.get? i.id = some i' := by
    rw [← hid]
    exact Table.get?_of_mem hi'
  rw [hget] at hi''
  cases hi''
  have hmax := i'.restockedWithinQuantity
  rw [hsame.quantity] at hmax ⊢
  omega

/-- An event that was recorded stays one of a line of a released order. -/
theorem event_kept {orderId : Id} (hgrows : db.stock.Grows db'.stock) {x : OrderItemRestock} {i : OrderItem}
    (hi : db.stock.items.get? x.orderItemId = some i) (hio : i.orderId = orderId)
    (ho : ∃ o, db'.orders.get? orderId = some o ∧ o.stockReleasedAt ≠ none) :
    ∃ i, db'.stock.items.get? x.orderItemId = some i ∧
      ∃ o, db'.orders.get? i.orderId = some o ∧ o.stockReleasedAt ≠ none := by
  obtain ⟨i', hi', hsame, _⟩ := hgrows.items _ i hi
  refine ⟨i', hi', ?_⟩
  rw [hsame.orderId, hio]
  exact ho

theorem ReleasedOnce.quiet (h : ReleasedOnce db) (hq : Quiet db db') : ReleasedOnce db' where
  full o' ho' hreleased i' hi' hio := by
    obtain ⟨o, ho, hoq⟩ := hq.stems o' ho'
    obtain ⟨i, hi, hsame⟩ := hq.calm.items i' hi'
    rw [hoq.stockReleasedAt] at hreleased
    have hfull := h.full o ho hreleased i hi (by rw [← hsame.orderId, hio, hoq.id])
    exact hq.grows.full hi hfull hi' hsame.id
  cancelled o' ho' hc := by
    obtain ⟨o, ho, hoq⟩ := hq.stems o' ho'
    rw [hoq.stockReleasedAt]
    rcases hoq.cancelled hc with hold | hreleased
    · exact h.cancelled o ho hold
    · exact hreleased
  events x hx hkey := by
    rcases hq.calm.restocks x hx with hold | hne
    · obtain ⟨i, hi, o, ho, hreleased⟩ := h.events x hold hkey
      obtain ⟨o', ho', hoq⟩ := hq.kept _ o ho
      exact event_kept hq.grows hi rfl ⟨o', ho', by rw [hoq.stockReleasedAt]; exact hreleased⟩
    · exact absurd hkey hne
  placed i' hi' := by
    obtain ⟨i, hi, hsame⟩ := hq.calm.items i' hi'
    obtain ⟨o, ho⟩ := Option.ne_none_iff_exists'.mp (h.placed i hi)
    obtain ⟨o', ho', _⟩ := hq.kept _ o ho
    rw [hsame.orderId, ho']
    exact Option.some_ne_none o'

/-- Restocking an order that was not released and marking it so releases it. -/
theorem ReleasedOnce.release (h : ReleasedOnce db) {o old : Order} (new : Order) {db₁ : Db}
    (hrun : restockOnce db o = .ok db₁) (hold : db.orders.get? o.id = some old)
    (hnone : old.stockReleasedAt = none) (hid : new.id = old.id) (hnew : new.stockReleasedAt ≠ none)
    (horders : db'.orders = db.orders.replace new) (hstock : db'.stock = db₁.stock) : ReleasedOnce db' := by
  have hrel := restockOnce_releases hrun
  have hgrows : db.stock.Grows db'.stock := by
    rw [hstock]
    exact (restockOnce_within hrun).evolves.stock
  have hoid : old.id = o.id := Table.key_of_get? hold
  have hget : db.orders.get? (Keyed.key new) = some old := by
    rw [show Keyed.key new = o.id from hid.trans hoid]
    exact hold
  have hself : db'.orders.get? o.id = some new := by
    rw [horders]
    have := Table.get?_replace_self hget
    rwa [show Keyed.key new = o.id from hid.trans hoid] at this
  -- no line of the order was released before
  have hfresh : ∀ i ∈ db.stock.items.rows, i.orderId = o.id →
      db.stock.restocks.get? (i.id, releaseKey) = none := by
    intro i hi hio
    by_contra hne
    obtain ⟨x, hx⟩ := Option.ne_none_iff_exists'.mp hne
    have hkey : (x.orderItemId, x.eventKey) = (i.id, releaseKey) := Table.key_of_get? hx
    obtain ⟨j, hj, o', ho', hreleased⟩ := h.events x (Table.mem_of_get? hx) (Prod.mk.inj hkey).2
    have hji : j = i := by
      have hi' : db.stock.items.get? i.id = some i := Table.get?_of_mem hi
      rw [(Prod.mk.inj hkey).1, hi'] at hj
      exact (Option.some.inj hj).symm
    rw [hji, hio, hold] at ho'
    cases ho'
    exact hreleased hnone
  refine ⟨fun o' ho' hreleased i' hi' hio => ?_, fun o' ho' hc => ?_, fun x hx hkey => ?_, fun i' hi' => ?_⟩
  · rw [hstock] at hi'
    rw [horders] at ho'
    rcases (Table.mem_replace hget).mp ho' with rfl | ⟨hmem, _⟩
    · exact hrel.full hfresh i' hi' (hio.trans (hid.trans hoid))
    · obtain ⟨i, hi, hsame⟩ := hrel.items i' hi'
      have hfull := h.full o' hmem hreleased i hi (by rw [← hsame.orderId, hio])
      exact hgrows.full hi hfull (by rw [hstock]; exact hi') hsame.id
  · rw [horders] at ho'
    rcases (Table.mem_replace hget).mp ho' with rfl | ⟨hmem, _⟩
    · exact hnew
    · exact h.cancelled o' hmem hc
  · rw [hstock] at hx
    rcases hrel.restocks x hx hkey with hold' | ⟨i, hi, hix, hio⟩
    · obtain ⟨i, hi, o', ho', hreleased⟩ := h.events x hold' hkey
      by_cases hsame : i.orderId = o.id
      · exact event_kept hgrows hi hsame ⟨new, hself, hnew⟩
      · refine event_kept hgrows hi rfl ⟨o', ?_, hreleased⟩
        rw [horders, Table.get?_replace_of_ne, ho']
        exact fun hk => hsame (hk.trans (hid.trans hoid))
    · refine event_kept hgrows (i := i) ?_ hio ⟨new, hself, hnew⟩
      rw [← hix]
      exact Table.get?_of_mem hi
  · rw [hstock] at hi'
    obtain ⟨i, hi, hsame⟩ := hrel.items i' hi'
    rw [hsame.orderId, horders]
    by_cases hk : i.orderId = o.id
    · have := hself
      rw [horders] at this
      rw [hk, this]
      exact Option.some_ne_none new
    · rw [Table.get?_replace_of_ne fun he => hk (he.trans (hid.trans hoid))]
      exact h.placed i hi

/-! ### Steps -/

theorem orderItems_order {orderId : Id} : ∀ {sold : List (CartLine × ℤ)} {id : Id} {items : List OrderItem},
    orderItems orderId id sold = .ok items → ∀ i ∈ items, i.orderId = orderId
  | [], _, _, h, i, hi => by
      cases h
      cases hi
  | (l, price) :: rest, id, items, h, i, hi => by
      unfold orderItems at h
      split at h
      · obtain ⟨items', h', h⟩ := bind_ok h
        cases h
        rcases List.mem_cons.mp hi with rfl | hi
        · rfl
        · exact orderItems_order h' i hi
      · cases h

/-- The lines that a checkout adds are of its own order, and it records no release. -/
theorem checkout_stock {req : CheckoutRequest} (h : checkout db req now = .ok db') :
    (∀ i ∈ db'.stock.items.rows, (∃ j ∈ db.stock.items.rows, j.Same i) ∨ i.orderId = req.orderId) ∧
      ∀ x ∈ db'.stock.restocks.rows, x ∈ db.stock.restocks.rows ∨ x.eventKey ≠ releaseKey := by
  obtain ⟨_, h⟩ := require_bind_ok h
  obtain ⟨_, _, h⟩ := bind_ok h
  obtain ⟨_, h⟩ := require_bind_ok h
  obtain ⟨⟨total, gst⟩, _, h⟩ := bind_ok h
  obtain ⟨db₁, h₁, h⟩ := bind_ok h
  obtain ⟨db₂, h₂, h⟩ := bind_ok h
  obtain ⟨db₃, h₃, h⟩ := bind_ok h
  obtain ⟨items, hitems, h⟩ := bind_ok h
  obtain ⟨db₄, h₄, h⟩ := bind_ok h
  obtain ⟨st₁, hst₁, rfl⟩ := stockWrites_ok h₁
  obtain ⟨st₂, hst₂, rfl⟩ := stockWrites_ok h₂
  obtain ⟨t, ht, h₃⟩ := need_bind_ok h₃
  cases h₃
  obtain ⟨st₄, hst₄, rfl⟩ := stockWrites_ok h₄
  cases h
  have hcalm := (Stock.writes_calm hst₁ (adjustStockMany_calm _ _)).trans
    (Stock.writes_calm hst₂ (adjustVariantStockMany_calm _ _))
  refine ⟨fun i hi => ?_, fun x hx => ?_⟩
  · rcases Stock.writes_items hst₄ i hi with ⟨j, hj, hji⟩ | ⟨row, hrow, hsame⟩
    · obtain ⟨k, hk, hkj⟩ := hcalm.items j hj
      exact .inl ⟨k, hk, hkj.trans hji⟩
    · obtain ⟨item, hitem, heq⟩ := List.mem_map.mp hrow
      cases heq
      exact .inr (hsame.orderId.trans (orderItems_order hitems _ hitem))
  · rcases Stock.writes_restocks hst₄ x hx with hold | hrow
    · exact hcalm.restocks x hold
    · obtain ⟨_, _, heq⟩ := List.mem_map.mp hrow
      cases heq

theorem ReleasedOnce.checkout {req : CheckoutRequest} (h : ReleasedOnce db)
    (hrun : checkout db req now = .ok db') : ReleasedOnce db' := by
  obtain ⟨row, hrow, hid, hplaced⟩ := checkout_order hrun
  obtain ⟨hitems, hrestocks⟩ := checkout_stock hrun
  have hgrows := (checkout_within hrun).evolves.stock
  have hfree : db.orders.get? row.id = none := (Table.insert?_eq_some.mp hrow).1
  have hself : db'.orders.get? row.id = some row := by
    rw [Table.get?_insert? hrow]
    exact if_pos rfl
  have hkeep : ∀ {id o}, db.orders.get? id = some o → db'.orders.get? id = some o := fun ho =>
    Table.get?_insert?_of_some hrow ho
  refine ⟨fun o ho hreleased i' hi' hio => ?_, fun o ho hc => ?_, fun x hx hkey => ?_, fun i' hi' => ?_⟩
  · rcases (Table.mem_insert? hrow).mp ho with rfl | hold
    · exact absurd hplaced.stockReleasedAt hreleased
    · rcases hitems i' hi' with ⟨i, hi, hsame⟩ | hnew
      · have hfull := h.full o hold hreleased i hi (by rw [← hsame.orderId, hio])
        exact hgrows.full hi hfull hi' hsame.id
      · -- the order of the new lines is new
        have hoid : o.id = row.id := by rw [← hio, hnew, hid]
        have hfound : db.orders.get? o.id = some o := Table.get?_of_mem hold
        rw [hoid, hfree] at hfound
        cases hfound
  · rcases (Table.mem_insert? hrow).mp ho with rfl | hold
    · rw [hplaced.status] at hc
      cases hc
    · exact h.cancelled o hold hc
  · rcases hrestocks x hx with hold | hne
    · obtain ⟨i, hi, o, ho, hreleased⟩ := h.events x hold hkey
      exact event_kept hgrows hi rfl ⟨o, hkeep ho, hreleased⟩
    · exact absurd hkey hne
  · rcases hitems i' hi' with ⟨i, hi, hsame⟩ | hnew
    · obtain ⟨o, ho⟩ := Option.ne_none_iff_exists'.mp (h.placed i hi)
      rw [hsame.orderId, hkeep ho]
      exact Option.some_ne_none o
    · rw [hnew, ← hid, hself]
      exact Option.some_ne_none row

theorem ReleasedOnce.cancel {o : Order} {by_ : Option Id} {reason : String} (h : ReleasedOnce db)
    (hfound : db.orders.get? o.id = some o) (hrun : releaseStockAndCancel db o by_ reason now = .ok db') :
    ReleasedOnce db' := by
  rcases releaseStockAndCancel_ok hrun with ⟨hnone, db₁, hrestock, hmove⟩ | ⟨_, hmove⟩
  · have horders : db₁.orders = db.orders :=
      (restockOnce_within hrestock).orders (by simp) (by simp) (by simp)
    obtain ⟨old, hold, _, rfl⟩ := updateOrderStatus_ok hmove
    rw [horders, hfound] at hold
    cases hold
    refine h.release (o.patch { status := some .cancelled, stockReleasedAt := some now }) hrestock
      hfound hnone rfl ?_ ?_ rfl
    · simp [Order.patch]
    · rw [horders]
  · exact h.quiet (updateOrderStatus_quiet hmove)

theorem ReleasedOnce.refund {o : Order} {r : Refund} (h : ReleasedOnce db)
    (hfound : db.orders.get? o.id = some o) (hrun : refundOrder db o r now = .ok db') : ReleasedOnce db' := by
  obtain ⟨db₁, db₂, hmove, hcredit, hrest⟩ := refundOrder_ok hrun
  have hquiet : Quiet db db₂ := (updateOrderStatus_quiet hmove).trans
    ((issueCreditNote_within hcredit).quiet (by simp) (by simp) (by simp) (by simp))
  rcases hrest with ⟨hc, db₃, hrestock, hwrite⟩ | ⟨_, rfl⟩
  · have horders : db₃.orders = db₂.orders :=
      (restockOnce_within hrestock).orders (by simp) (by simp) (by simp)
    obtain ⟨old, hold, _, rfl⟩ := updateOrder_ok hwrite
    obtain ⟨o₂, ho₂, hoq⟩ := hquiet.kept o.id o hfound
    rw [horders, ho₂] at hold
    cases hold
    refine (h.quiet hquiet).release (old.patch { stockReleasedAt := some now }) hrestock
      ho₂ ?_ rfl ?_ ?_ rfl
    · rw [hoq.stockReleasedAt]
      exact hc.2.2
    · simp [Order.patch]
    · rw [horders]
  · exact h.quiet hquiet

theorem step_releasedOnce (hs : step cfg s l = some s') (h : ReleasedOnce s.db) : ReleasedOnce s'.db := by
  cases step_order hs with
  | still horders hstock =>
    refine h.quiet (quiet_of_orders horders (step_evolves hs).stock ?_)
    rcases hstock with heq | ⟨pid, now, op, seen, _, _, hrun, hop⟩
    · exact calm_of_stock heq
    · exact run_calm hrun hop
  | placed _ _ hrun => exact h.checkout hrun
  | named hl hproc hnames hbefore hmove hafter =>
    exact h.quiet (((hbefore.quiet (by simp) (by simp) (by simp) (by simp)).trans
      (updateOrderStatus_quiet hmove)).trans (hafter.quiet (by simp) (by simp) (by simp) (by simp)))
  | paid hh htype hp hmatch hmark hsave hfound hpending hmove hdemo hafter =>
    have hbefore := (hmark.quiet (by simp) (by simp) (by simp) (by simp)).trans
      ((savePayment_within hsave).quiet (by simp) (by simp) (by simp) (by simp))
    have hmoved := hbefore.trans (updateOrderStatus_quiet hmove)
    have hwrote := updateOrder_quiet hdemo rfl rfl
    exact h.quiet ((hmoved.trans hwrote).trans (hafter.quiet (by simp) (by simp) (by simp) (by simp)))
  | cancelled hl hproc hfound hpending hnone hfail hrun =>
    have hfailed := failPending_within hfail
    refine (h.quiet (hfailed.quiet (by simp) (by simp) (by simp) (by simp))).cancel ?_ hrun
    rw [hfailed.orders (by simp) (by simp) (by simp)]
    exact Table.get?_of_mem (Table.mem_of_get? hfound)
  | refunded hcause hr hloaded hmark hmove hafter =>
    have hbefore := (hmark.quiet (by simp) (by simp) (by simp) (by simp)).trans
      (hmove.before.quiet (by simp) (by simp) (by simp) (by simp))
    refine ((h.quiet hbefore).refund ?_ hmove.run).quiet
      (hafter.quiet (by simp) (by simp) (by simp) (by simp))
    rw [hmove.before.orders (by simp) (by simp) (by simp)]
    exact Table.get?_of_mem (Table.mem_of_get? hmove.found)

/-! ### Runs -/

theorem Initial.releasedOnce (h₀ : Initial s₀) : ReleasedOnce s₀.db where
  full o ho := by
    rw [h₀.orders] at ho
    cases ho
  cancelled o ho := by
    rw [h₀.orders] at ho
    cases ho
  events x hx := by
    rw [h₀.restocks] at hx
    cases hx
  placed i hi := by
    rw [h₀.items] at hi
    cases hi

/-- In every run, the stock of every cancelled order went back, all of it and once. -/
theorem stock_released_once (h₀ : Initial s₀) (h : Run cfg s₀ tr s) : ReleasedOnce s.db :=
  h.invariant (I := fun s => ReleasedOnce s.db) h₀.releasedOnce fun hs ih => step_releasedOnce hs ih

/-- An order of two pieces is cancelled: its line is full and the shelf as it was. -/
theorem stock_released_cancelled_order : ∃ tr s, Run smallSettings smallShop tr s ∧
    (∃ o ∈ s.db.orders.rows, o.status = .cancelled) ∧ (∃ i ∈ s.db.stock.items.rows, i.restockedQuantity = 2) ∧
      ReleasedOnce s.db := by
  obtain ⟨tr, s, hrun, hcancelled, hline⟩ := exists_exec (step smallSettings) smallShop
    (P := fun _ s => (∃ o ∈ s.db.orders.rows, o.status = .cancelled) ∧
      ∃ i ∈ s.db.stock.items.rows, i.restockedQuantity = 2)
    [.begin_ 1 (buyTwo 1), .commit 1 0, .cancelBegin 3 1 none "changed my mind", .cancelFinish 3 2]
    (by decide +kernel)
  exact ⟨tr, s, hrun, hcancelled, hline, stock_released_once smallShop_initial hrun⟩

end NovaCart
