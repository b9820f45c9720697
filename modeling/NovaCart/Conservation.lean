import NovaCart.StockLaw

/-! Conservation of stock: the groups of statements that sell, put back and convert, the operations
    made of them, and whole runs. -/

namespace NovaCart

open Schemes

namespace Stock

variable {s s' : Stock}

/-! ### Groups of statements -/

theorem writes_append_ok : ∀ {ws ws' : List StockWrite} {s : Stock},
    s.writes (ws ++ ws') = .ok s' → ∃ s₁, s.writes ws = .ok s₁ ∧ s₁.writes ws' = .ok s'
  | [], _, s, h => ⟨s, rfl, h⟩
  | w :: ws, _, s, h => by
      obtain ⟨s₁, h₁, h⟩ := bind_ok h
      obtain ⟨s₂, h₂, h⟩ := writes_append_ok h
      exact ⟨s₂, by simp [writes, h₁, h₂], h⟩

theorem writes_append : ∀ {ws ws' : List StockWrite} {s s₁ : Stock},
    s.writes ws = .ok s₁ → s.writes (ws ++ ws') = s₁.writes ws'
  | [], _, _, _, h => by cases h; rfl
  | w :: ws, _, s, _, h => by
      obtain ⟨s₂, h₂, h⟩ := bind_ok h
      rw [List.cons_append, writes, h₂]
      exact writes_append h

/-- Pieces added to products, unit by unit. -/
theorem adjustStockMany_held {ctx : StockContext} : ∀ {d : Deltas} {s : Stock},
    s.writes (adjustStockMany d ctx) = .ok s' →
      (∀ p, s'.held p = s.held p + d.sumOn (· = p)) ∧ s'.variants = s.variants ∧ s'.items = s.items
  | [], s, h => by cases h; simp [Deltas.sumOn]
  | (k, x) :: d, s, h => by
      by_cases hx : x = 0
      · have hskip : adjustStockMany ((k, x) :: d) ctx = adjustStockMany d ctx := by
          simp [adjustStockMany, hx]
        obtain ⟨hheld, hframe⟩ := adjustStockMany_held (hskip ▸ h)
        refine ⟨fun p => ?_, hframe⟩
        simp [hheld p, Deltas.sumOn, hx]
      · have hcons : adjustStockMany ((k, x) :: d) ctx
            = .addProductStock k x ctx :: adjustStockMany d ctx := by
          simp [adjustStockMany, hx]
        rw [hcons] at h
        obtain ⟨s₁, h₁, h⟩ := bind_ok h
        obtain ⟨hheld, hv, hi⟩ := adjustStockMany_held h
        obtain ⟨_, _, _, _, _, rfl⟩ := updateProduct_ok h₁
        refine ⟨fun p => ?_, hv, hi⟩
        rw [hheld p, write_held h₁ p]
        simp only [change, Deltas.sumOn, List.map_cons, List.sum_cons]
        ring

theorem addVariantStock_owner {id : Id} {delta : ℤ} {ctx : StockContext}
    (h : s.write (.addVariantStock id delta ctx) = .ok s') : s'.owner = s.owner := by
  obtain ⟨v, v', ms, hv, hf, rfl⟩ := updateVariant_ok h
  obtain ⟨hid, hp, _⟩ := ProductVariant.withStock_ok hf
  have hkey : Keyed.key v' = id := hid.trans (Table.key_of_get? hv)
  funext u
  simp only [owner, Table.get?_replace, hkey]
  by_cases hk : u = id
  · subst hk; simp [hv, hp]
  · simp [hk]

/-- Pieces added to variants, unit by unit. -/
theorem adjustVariantStockMany_held {ctx : StockContext} : ∀ {d : Deltas} {s : Stock},
    s.writes (adjustVariantStockMany d ctx) = .ok s' →
      (∀ p, s'.held p = s.held p + d.sumOn (fun v => s.owner v = some p)) ∧ s'.items = s.items
  | [], s, h => by cases h; simp [Deltas.sumOn]
  | (k, x) :: d, s, h => by
      by_cases hx : x = 0
      · have hskip : adjustVariantStockMany ((k, x) :: d) ctx = adjustVariantStockMany d ctx := by
          simp [adjustVariantStockMany, hx]
        obtain ⟨hheld, hframe⟩ := adjustVariantStockMany_held (hskip ▸ h)
        refine ⟨fun p => ?_, hframe⟩
        simp [hheld p, Deltas.sumOn, hx]
      · have hcons : adjustVariantStockMany ((k, x) :: d) ctx
            = .addVariantStock k x ctx :: adjustVariantStockMany d ctx := by
          simp [adjustVariantStockMany, hx]
        rw [hcons] at h
        obtain ⟨s₁, h₁, h⟩ := bind_ok h
        have howner := addVariantStock_owner h₁
        obtain ⟨hheld, hi⟩ := adjustVariantStockMany_held h
        obtain ⟨_, _, _, _, _, rfl⟩ := updateVariant_ok h₁
        refine ⟨fun p => ?_, hi⟩
        rw [hheld p, write_held h₁ p, howner]
        simp only [change, Deltas.sumOn, List.map_cons, List.sum_cons]
        ring

/-- A restock event changes neither the catalogue nor what the lines are of, and no other event. -/
theorem recordRestock_frame {row : OrderItemRestock} (h : s.write (.recordRestock row) = .ok s') :
    s'.products = s.products ∧ s'.variants = s.variants ∧ s'.lineProduct = s.lineProduct ∧
      ∀ k, k ≠ (row.orderItemId, row.eventKey) → s'.restocks.get? k = s.restocks.get? k := by
  rcases recordRestock_ok h with ⟨_, rfl⟩ | ⟨t, i, i', ht, hi, hi', rfl⟩
  · exact ⟨rfl, rfl, rfl, fun _ _ => rfl⟩
  · obtain ⟨_, _, hsame⟩ := OrderItem.withRestock_ok hi'
    have hkey : Keyed.key i' = row.orderItemId := hsame.id.trans (Table.key_of_get? hi)
    refine ⟨rfl, rfl, ?_, fun k hk => ?_⟩
    · funext u
      simp only [lineProduct, Table.get?_replace, hkey]
      by_cases hu : u = row.orderItemId
      · subst hu; simp [hi, hsame.productId]
      · simp [hu]
    · rw [Table.get?_insert? ht, if_neg]
      exact fun heq => hk heq.symm

/-- The restock events of a list that the database does not know yet. -/
def freshEvents (s : Stock) (rows : List OrderItemRestock) : List OrderItemRestock :=
  rows.filter fun r => s.restocks.get? (r.orderItemId, r.eventKey) = none

/-- Recording events of distinct keys takes what the new ones name out of the order lines. -/
theorem recordRestocks_held : ∀ {rows : List OrderItemRestock} {s : Stock},
    (rows.map fun r => (r.orderItemId, r.eventKey)).Nodup →
    s.writes (rows.map .recordRestock) = .ok s' →
      s'.products = s.products ∧ s'.variants = s.variants ∧
        ∀ p, s'.held p = s.held p - ((s.freshEvents rows).map fun r =>
          if s.lineProduct r.orderItemId = some p then r.quantity else 0).sum
  | [], s, _, h => by cases h; simp [freshEvents]
  | r :: rows, s, hnd, h => by
      obtain ⟨s₁, h₁, h⟩ := bind_ok h
      obtain ⟨hnew, hnd⟩ := List.nodup_cons.mp hnd
      obtain ⟨hp₁, hv₁, hline, hother⟩ := recordRestock_frame h₁
      obtain ⟨hp, hv, hheld⟩ := recordRestocks_held hnd h
      refine ⟨hp.trans hp₁, hv.trans hv₁, fun p => ?_⟩
      -- the remaining events have other keys, so the same ones are new before and after
      have hfresh : s₁.freshEvents rows = s.freshEvents rows := by
        refine List.filter_congr fun r' hr' => ?_
        rw [hother]
        exact fun heq => hnew (List.mem_map.mpr ⟨r', hr', heq⟩)
      rw [hheld p, write_held h₁ p, hfresh, hline]
      by_cases hr : s.restocks.get? (r.orderItemId, r.eventKey) = none
      · by_cases hl : s.lineProduct r.orderItemId = some p
        · simp [change, freshEvents, hr, hl]; ring
        · simp [change, freshEvents, hr, hl]
      · simp [change, freshEvents, hr]

end Stock

theorem foldl_bump_sumOn {α : Type} (f : Deltas → α → Deltas) (g : α → ℤ) (P : Id → Prop)
    [DecidablePred P] (hf : ∀ d a, (f d a).sumOn P = d.sumOn P + g a) :
    ∀ (l : List α) (d : Deltas), (l.foldl f d).sumOn P = d.sumOn P + (l.map g).sum
  | [], d => by simp
  | a :: l, d => by
      rw [List.foldl_cons, foldl_bump_sumOn f g P hf l, hf]
      simp only [List.map_cons, List.sum_cons]; ring

theorem productBack_sumOn (s : Stock) (lines : List (OrderItem × ℤ)) (p : Id) :
    (productBack s lines).sumOn (· = p) = (lines.map fun l =>
      if l.1.variantId = none ∧ s.products.get? l.1.productId ≠ none ∧ l.1.productId = p
      then l.2 else 0).sum := by
  refine (foldl_bump_sumOn _ (fun l : OrderItem × ℤ =>
    if l.1.variantId = none ∧ s.products.get? l.1.productId ≠ none ∧ l.1.productId = p
    then l.2 else 0) _ (fun d l => ?_) lines []).trans (zero_add _)
  by_cases hc : l.1.variantId = none ∧ s.products.get? l.1.productId ≠ none
  · rw [if_pos hc, Deltas.sumOn_bump]
    by_cases hp : l.1.productId = p
    · simp [hp, hc.1, hp ▸ hc.2]
    · simp [hp]
  · rw [if_neg hc, if_neg fun h => hc ⟨h.1, h.2.1⟩, add_zero]

theorem variantBack_sumOn (s : Stock) (lines : List (OrderItem × ℤ)) (p : Id) :
    (variantBack s lines).sumOn (fun v => s.owner v = some p) = (lines.map fun l =>
      if l.1.variantId.bind s.owner = some p then l.2 else 0).sum := by
  refine (foldl_bump_sumOn _ (fun l : OrderItem × ℤ =>
    if l.1.variantId.bind s.owner = some p then l.2 else 0) _ (fun d l => ?_) lines []).trans
    (zero_add _)
  cases hv : l.1.variantId with
  | none => simp
  | some v =>
    by_cases hc : s.variants.get? v ≠ none
    · simp only [hc, ne_eq, not_false_eq_true, ↓reduceIte, Deltas.sumOn_bump, Option.bind_some]
    · have hown : s.owner v = none := by simpa [Stock.owner] using hc
      simp [not_not.mp hc, hown]

/-- The event rows behind some lines are the new ones among their events. -/
theorem freshEvents_map (s : Stock) (lines : List (OrderItem × OrderItemRestock)) :
    s.freshEvents (lines.map (·.2))
      = (lines.filter fun l => s.restocks.get? (l.2.orderItemId, l.2.eventKey) = none).map (·.2) := by
  simp [Stock.freshEvents, List.filter_map, Function.comp_def]

/-- Putting lines back moves their pieces from the order lines to the shelf, and no piece is lost. -/
theorem restockWrites_held {s s' : Stock} {lines : List (OrderItem × OrderItemRestock)}
    {ctx : StockContext} (hlinked : s.Linked)
    (hlines : ∀ l ∈ lines, s.items.get? l.2.orderItemId = some l.1)
    (hkeys : (lines.map fun l => (l.2.orderItemId, l.2.eventKey)).Nodup)
    (h : s.writes (restockWrites s lines ctx) = .ok s') (p : Id) : s'.held p = s.held p := by
  obtain ⟨s₂, h₁₂, h₃⟩ := Stock.writes_append_ok h
  obtain ⟨s₁, h₁, h₂⟩ := Stock.writes_append_ok h₁₂
  have hmap : lines.map (fun l => StockWrite.recordRestock l.2)
      = (lines.map (·.2)).map .recordRestock := by simp
  rw [hmap] at h₁
  obtain ⟨_, hv₁, hheld₁⟩ := Stock.recordRestocks_held (by simpa [Function.comp_def] using hkeys) h₁
  obtain ⟨hheld₂, hv₂, _⟩ := Stock.adjustStockMany_held h₂
  obtain ⟨hheld₃, _⟩ := Stock.adjustVariantStockMany_held h₃
  have howner : s₂.owner = s.owner := by funext v; simp only [Stock.owner, hv₂, hv₁]
  rw [hheld₃ p, hheld₂ p, hheld₁ p, howner, productBack_sumOn, variantBack_sumOn, freshEvents_map]
  simp only [List.map_map, Function.comp_def]
  generalize hfresh : (lines.filter fun l =>
    decide (s.restocks.get? (l.2.orderItemId, l.2.eventKey) = none)) = fresh
  have hmem : ∀ l ∈ fresh, l ∈ lines := fun l hl => List.mem_of_mem_filter (hfresh ▸ hl)
  -- line by line: the piece count that leaves the line goes to its product or to its variant
  have hsum : ∀ ls : List (OrderItem × OrderItemRestock), (∀ l ∈ ls, l ∈ lines) →
      (ls.map fun l => if s.lineProduct l.2.orderItemId = some p then l.2.quantity else 0).sum
        = (ls.map fun l => if l.1.variantId = none ∧ s.products.get? l.1.productId ≠ none ∧
            l.1.productId = p then l.2.quantity else 0).sum
          + (ls.map fun l => if l.1.variantId.bind s.owner = some p then l.2.quantity else 0).sum := by
    intro ls hls
    rw [← List.sum_map_add]
    refine congrArg List.sum (List.map_congr_left fun l hl => ?_)
    have hi := hlines l (hls l hl)
    obtain ⟨hprod, hvar⟩ := hlinked l.1 (Table.mem_of_get? hi)
    have hline : s.lineProduct l.2.orderItemId = some l.1.productId := by
      simp [Stock.lineProduct, hi]
    cases hv : l.1.variantId with
    | none =>
      by_cases hp : l.1.productId = p
      · simp [hline, hp, hp ▸ hprod]
      · simp [hline, hp]
    | some v =>
      have hown := hvar v hv
      by_cases hp : l.1.productId = p
      · simp [hline, hown, hp]
      · simp [hline, hown, hp]
  have := hsum fresh hmem
  omega

theorem stockWrites_ok : ∀ {ws : List StockWrite} {db db' : Db}, db.stockWrites ws = .ok db' →
    ∃ s, db.stock.writes ws = .ok s ∧ db' = { db with stock := s }
  | [], db, _, h => ⟨db.stock, rfl, (Except.ok.inj h).symm⟩
  | w :: ws, db, db', h => by
      obtain ⟨db₁, h₁, h⟩ := bind_ok h
      obtain ⟨s₁, hs₁, h₁⟩ := bind_ok h₁
      cases h₁
      obtain ⟨s, hs, rfl⟩ := stockWrites_ok h
      exact ⟨s, by simp [Stock.writes, hs₁, hs], rfl⟩

theorem Stock.writes_linked : ∀ {ws : List StockWrite} {s s' : Stock}, s.writes ws = .ok s' →
    s.Linked → s'.Linked
  | [], _, _, h, hl => by cases h; exact hl
  | _ :: _, _, _, h, hl => by
      obtain ⟨s₁, h₁, h⟩ := bind_ok h
      exact writes_linked h (write_linked h₁ hl)

/-- Statements whose change does not depend on the state move what is held by its sum. -/
theorem Stock.writes_held {p : Id} {g : StockWrite → ℤ} : ∀ {ws : List StockWrite} {s s' : Stock},
    (∀ w ∈ ws, ∀ s : Stock, s.change p w = g w) → s.writes ws = .ok s' →
      s'.held p = s.held p + (ws.map g).sum
  | [], _, _, _, h => by cases h; simp
  | w :: ws, s, s', hg, h => by
      obtain ⟨s₁, h₁, h⟩ := bind_ok h
      rw [writes_held (fun w' hw' => hg w' (List.mem_cons_of_mem w hw')) h, write_held h₁ p,
        hg w List.mem_cons_self]
      simp only [List.map_cons, List.sum_cons]; ring

/-! ### Operations that move no piece in or out -/

/-- From a database with sound foreign keys, the call keeps them and everything that is held. -/
def Conserves (db db' : Db) : Prop :=
  db.stock.Linked → db'.stock.Linked ∧ ∀ p, db'.stock.held p = db.stock.held p

theorem Conserves.trans {db₁ db₂ db₃ : Db} (h₁ : Conserves db₁ db₂) (h₂ : Conserves db₂ db₃) :
    Conserves db₁ db₃ := by
  intro hl
  obtain ⟨hl₂, hheld₂⟩ := h₁ hl
  obtain ⟨hl₃, hheld₃⟩ := h₂ hl₂
  exact ⟨hl₃, fun p => (hheld₃ p).trans (hheld₂ p)⟩

theorem Conserves.of_stock {db db' : Db} (h : db'.stock = db.stock) : Conserves db db' := by
  intro hl
  rw [h]
  exact ⟨hl, fun _ => rfl⟩

/-- A call that sends no stock statement. -/
theorem Within.conserves {K : List WriteKind} {db db' : Db} (h : Within K db db')
    (hK : WriteKind.stock ∉ K) : Conserves db db' := .of_stock (h.stock hK)

section Restock

variable {db db' : Db} {now : Time}

theorem restockOnce_conserves {o : Order} (h : restockOnce db o = .ok db') : Conserves db db' := by
  intro hl
  obtain ⟨_, h⟩ := require_bind_ok h
  obtain ⟨s, hs, rfl⟩ := stockWrites_ok h
  refine ⟨Stock.writes_linked hs hl, restockWrites_held hl ?_ ?_ hs⟩
  · intro l hl'
    obtain ⟨i, hi, rfl⟩ := List.mem_map.mp hl'
    exact Table.get?_of_mem (List.mem_of_mem_filter (List.mem_of_mem_filter hi))
  · -- the lines of one order have distinct ids
    have hids : ((pendingLines db.stock o.id).map (·.id)).Nodup :=
      ((List.filter_sublist.trans List.filter_sublist).map _).nodup db.stock.items.nodup
    rw [List.map_map]
    exact (List.Nodup.of_map Prod.fst (by simpa [List.map_map, Function.comp_def, releaseEvent] using hids))

theorem releaseStockAndCancel_conserves {o : Order} {by_ : Option Id} {reason : String}
    (h : releaseStockAndCancel db o by_ reason now = .ok db') : Conserves db db' := by
  rcases releaseStockAndCancel_ok h with ⟨_, db₁, h₁, h⟩ | ⟨_, h⟩
  · exact (restockOnce_conserves h₁).trans ((updateOrderStatus_within h).conserves (by simp))
  · exact (updateOrderStatus_within h).conserves (by simp)

theorem cancelFinish_conserves {call : CancelCall} (h : cancelFinish db call now = .ok db') :
    Conserves db db' := by
  obtain ⟨order, _, rfl | ⟨_, _, db₁, h₁, h⟩⟩ := cancelFinish_ok h
  · exact .of_stock rfl
  · exact ((failPending_within h₁).conserves (by simp)).trans (releaseStockAndCancel_conserves h)

theorem refundOrder_conserves {o : Order} {r : Refund} (h : refundOrder db o r now = .ok db') :
    Conserves db db' := by
  obtain ⟨db₁, db₂, h₁, h₂, h⟩ := refundOrder_ok h
  have h₁₂ : Conserves db db₂ := ((updateOrderStatus_within h₁).conserves (by simp)).trans
    ((issueCreditNote_within h₂).conserves (by simp))
  rcases h with ⟨_, db₃, h₃, h⟩ | ⟨_, rfl⟩
  · exact h₁₂.trans ((restockOnce_conserves h₃).trans
      ((Within.one (K := [.orderRest]) h (by simp)).conserves (by simp)))
  · exact h₁₂

theorem confirmRefund_conserves {r : Refund} {prid : Option String} {amount : Option ℤ}
    {loaded : Option Payment} (h : confirmRefund db r prid amount loaded now = .ok db') :
    Conserves db db' := by
  obtain ⟨order, payment, db₁, db₂, _, _, h₁, hdb₂, h⟩ := confirmRefund_ok h
  have h₁₂ : Conserves db db₂ := by
    refine ((Within.one (K := [.payment]) h₁ (by simp)).conserves (by simp)).trans ?_
    rw [hdb₂]
    exact (overlapRecord_within ..).conserves (by simp)
  rcases h with ⟨_, h⟩ | ⟨_, rfl⟩
  · exact h₁₂.trans (refundOrder_conserves h)
  · exact h₁₂

theorem applyRefundState_conserves {r : Refund} {t : RefundReport} {loaded : Option Payment}
    (h : applyRefundState db r t loaded now = .ok db') : Conserves db db' := by
  have hhead : Conserves db (afterMismatch db r t) := (reconcileIf_within (by decide) (by rfl) ..).conserves (by simp)
  rcases applyRefundState_ok h with ⟨c, hsave, _⟩ | ⟨_, _, db₁, hsave, h⟩
  · exact hhead.trans ((saveRefund_within hsave).conserves (by simp))
  · exact hhead.trans (((saveRefund_within hsave).conserves (by simp)).trans
      (confirmRefund_conserves h))

theorem finishRefund_conserves {id : Id} {t : RefundReport} (h : finishRefund db id t now = .ok db') :
    Conserves db db' := by
  rcases finishRefund_ok h with rfl | ⟨r, _, h⟩
  · exact .of_stock rfl
  · exact applyRefundState_conserves h

variable {cfg : Settings} {seen : Db} {e : WebhookEvent} {id : Id}

theorem handleRefundEvent_conserves (h : handleRefundEvent cfg seen db e id now = .ok db') :
    Conserves db db' := by
  obtain ⟨target, _, ⟨refund, locked, _, _, h⟩ | ⟨_, p, prid, _, h⟩ | ⟨_, _, rfl⟩⟩ :=
    handleRefundEvent_ok h
  · exact applyRefundState_conserves h
  · exact (recordExternalRefund_within h).conserves (by simp)
  · exact ((deferIfPaymentUnknown_within ..).conserves (by simp)).trans
      ((reconcile_within (by decide) (by rfl) ..).conserves (by simp))

theorem handleEvent_conserves (h : handleEvent cfg seen db e id now = .ok db') : Conserves db db' := by
  unfold handleEvent at h
  split at h
  · exact (handlePaymentSucceeded_within h).conserves (by decide)
  · exact (handlePaymentFailed_within h).conserves (by decide)
  · exact handleRefundEvent_conserves h
  · exact (handleDisputeEvent_within h).conserves (by decide)
  · cases h; exact .of_stock rfl

theorem applyDeferredEvent_conserves (h : applyDeferredEvent cfg seen db e id now = .ok db') :
    Conserves db db' := by
  unfold applyDeferredEvent at h
  split at h
  · exact (handlePaymentSucceeded_within h).conserves (by decide)
  · exact handleRefundEvent_conserves h
  · exact (applyDisputeEvent_within h).conserves (by decide)
  · cases h; exact .of_stock rfl
  · cases h; exact .of_stock rfl

theorem processWebhookEvent_conserves (h : processWebhookEvent cfg seen db e id now = .ok db') :
    Conserves db db' := by
  obtain ⟨db₁, h₁, h⟩ := processWebhookEvent_ok h
  exact (handleEvent_conserves h₁).trans
    ((Within.one (K := [.event]) h (by simp)).conserves (by simp))

theorem recoverRow_conserves (row : DeferredWebhookEvent) :
    Conserves db (recoverRow cfg seen db row id now) := by
  rcases recoverRow_cases cfg seen db row id now with ⟨giveUp, heq⟩ | ⟨_, db₁, h₁, heq⟩
  · rw [heq]; exact .of_stock rfl
  · rw [heq]
    refine (applyDeferredEvent_conserves h₁).trans (Within.conserves (K := [.deferred, .resolve]) ?_
      (by simp))
    exact (Within.one (w := .deferred _) rfl (by simp)).trans
      ((resolveRecovered_within _ _).mono (by simp))

end Restock

/-! ### Checkout and returns -/

/-- What the basket takes from the shelf is what its lines sell. -/
def Basket.Balanced (s : Stock) (b : Basket) : Prop :=
  ∀ p, b.stockDeltas.sumOn (· = p) + b.variantDeltas.sumOn (fun v => s.owner v = some p)
    + (b.sold.map fun l => if l.1.productId = p then l.1.quantity else 0).sum = 0

theorem Basket.addLine_balanced {s : Stock} {b b' : Basket} {l : CartLine}
    (h : b.addLine s l = .ok b') (hb : b.Balanced s) : b'.Balanced s := by
  intro p
  have hp := hb p
  unfold Basket.addLine at h
  split at h
  · obtain ⟨q, hq, h⟩ := need_bind_ok h
    obtain ⟨v, hv, h⟩ := need_bind_ok h
    obtain ⟨⟨hown, _, _⟩, h⟩ := require_bind_ok h
    obtain ⟨_, h⟩ := require_bind_ok h
    cases h
    have hqid : q.id = l.productId := Table.key_of_get? hq
    have hvid : Keyed.key v = v.id := rfl
    have howner : s.owner v.id = some l.productId := by
      rw [← hvid, Stock.owner, Table.get?_of_mem (Table.mem_of_get? hv)]
      simp [hown, hqid]
    simp only [Basket.sell, Deltas.sumOn_bump, howner, List.map_append, List.map_cons, List.map_nil,
      List.sum_append, List.sum_cons, List.sum_nil, Option.some.injEq]
    by_cases hl : l.productId = p
    · simp only [hl, ↓reduceIte]; linarith
    · simp only [hl, ↓reduceIte]; linarith
  · obtain ⟨q, hq, h⟩ := need_bind_ok h
    obtain ⟨_, h⟩ := require_bind_ok h
    obtain ⟨_, h⟩ := require_bind_ok h
    obtain ⟨_, h⟩ := require_bind_ok h
    cases h
    have hqid : q.id = l.productId := Table.key_of_get? hq
    simp only [Basket.sell, Deltas.sumOn_bump, hqid, List.map_append, List.map_cons, List.map_nil,
      List.sum_append, List.sum_cons, List.sum_nil]
    by_cases hl : l.productId = p
    · simp only [hl, ↓reduceIte]; linarith
    · simp only [hl, ↓reduceIte]; linarith

theorem Basket.addLines_balanced {s : Stock} : ∀ {ls : List CartLine} {b b' : Basket},
    b.addLines s ls = .ok b' → b.Balanced s → b'.Balanced s
  | [], _, _, h, hb => by cases h; exact hb
  | _ :: _, _, _, h, hb => by
      obtain ⟨b₁, h₁, h⟩ := bind_ok h
      exact addLines_balanced h (addLine_balanced h₁ hb)

/-- The order lines of a basket hold what the basket sold. -/
theorem orderItems_sold {orderId : Id} (p : Id) : ∀ {sold : List (CartLine × ℤ)} {id : Id}
    {items : List OrderItem}, orderItems orderId id sold = .ok items →
      (items.map fun i => if i.productId = p then i.quantity - i.restockedQuantity else 0).sum
        = (sold.map fun l => if l.1.productId = p then l.1.quantity else 0).sum
  | [], _, _, h => by cases h; rfl
  | (l, price) :: rest, id, items, h => by
      unfold orderItems at h
      split at h
      · obtain ⟨items', h', h⟩ := bind_ok h
        cases h
        simp only [List.map_cons, List.sum_cons, sub_zero, orderItems_sold p h']
      · cases h

/-- What a written order line takes out of a product's stock. -/
def StockWrite.takenOut (p : Id) : StockWrite → ℤ
  | .insertItem i => if i.productId = p then i.quantity - i.restockedQuantity else 0
  | _ => 0

theorem checkout_conserves {db db' : Db} {req : CheckoutRequest} {now : Time}
    (h : checkout db req now = .ok db') : Conserves db db' := by
  intro hl
  obtain ⟨_, h⟩ := require_bind_ok h
  obtain ⟨basket, hbasket, h⟩ := bind_ok h
  obtain ⟨_, h⟩ := require_bind_ok h
  obtain ⟨⟨total, gst⟩, _, h⟩ := bind_ok h
  obtain ⟨db₁, h₁, h⟩ := bind_ok h
  obtain ⟨db₂, h₂, h⟩ := bind_ok h
  obtain ⟨db₃, h₃, h⟩ := bind_ok h
  obtain ⟨items, hitems, h⟩ := bind_ok h
  obtain ⟨db₄, h₄, h⟩ := bind_ok h
  obtain ⟨s₁, hs₁, rfl⟩ := stockWrites_ok h₁
  obtain ⟨s₂, hs₂, rfl⟩ := stockWrites_ok h₂
  have hs₃ : db₃.stock = s₂ := by obtain ⟨t, _, h₃⟩ := need_bind_ok h₃; cases h₃; rfl
  obtain ⟨s₄, hs₄, rfl⟩ := stockWrites_ok h₄
  cases h
  rw [hs₃] at hs₄
  refine ⟨Stock.writes_linked hs₄ (Stock.writes_linked hs₂ (Stock.writes_linked hs₁ hl)), fun p => ?_⟩
  have hempty : ({} : Basket).Balanced db.stock := fun p => by simp [Deltas.sumOn]
  have hbal := Basket.addLines_balanced hbasket hempty p
  obtain ⟨hheld₁, hv₁, _⟩ := Stock.adjustStockMany_held hs₁
  obtain ⟨hheld₂, _⟩ := Stock.adjustVariantStockMany_held hs₂
  have howner : s₁.owner = db.stock.owner := by funext v; simp only [Stock.owner, hv₁]
  have hheld₄ := Stock.writes_held (p := p) (g := StockWrite.takenOut p)
    (fun w hw s => by obtain ⟨i, _, rfl⟩ := List.mem_map.mp hw; rfl) hs₄
  rw [List.map_map, show StockWrite.takenOut p ∘ StockWrite.insertItem = fun i : OrderItem =>
    if i.productId = p then i.quantity - i.restockedQuantity else 0 from rfl,
    orderItems_sold p hitems] at hheld₄
  rw [hheld₄, hheld₂ p, hheld₁ p, howner]
  linarith

/-- The lines a receipt puts back are lines of the order, each once. -/
theorem restockTodo_ok {s : Stock} {ret : ReturnRequest} : ∀ {is : List ReturnRequestItem}
    {todo : List (OrderItem × OrderItemRestock)}, restockTodo s ret is = .ok todo →
      (∀ l ∈ todo, l.2.orderItemId = l.1.id ∧ l.1 ∈ s.itemsOf ret.orderId) ∧
        (todo.map fun l => l.2.orderItemId).Sublist (is.map (·.orderItemId))
  | [], _, h => by cases h; simp
  | i :: is, todo, h => by
      unfold restockTodo at h
      split at h
      · obtain ⟨line, hline, h⟩ := need_bind_ok h
        obtain ⟨rest, hrest, h⟩ := bind_ok h
        cases h
        obtain ⟨hmem, hsub⟩ := restockTodo_ok hrest
        have hid : line.id = i.orderItemId := by simpa using List.find?_some hline
        refine ⟨?_, ?_⟩
        · intro l hl
          rcases List.mem_cons.mp hl with rfl | hl
          · exact ⟨rfl, List.mem_of_find?_eq_some hline⟩
          · exact hmem l hl
        · simp only [List.map_cons, hid]
          exact hsub.cons_cons _
      · obtain ⟨hmem, hsub⟩ := restockTodo_ok h
        exact ⟨hmem, hsub.cons _⟩

theorem receiveReturn_conserves {db db' : Db} {id : Id} {entries : List ReceiptEntry}
    (h : receiveReturn db id entries = .ok db') : Conserves db db' := by
  intro hl
  obtain ⟨ret, _, h⟩ := bind_ok h
  obtain ⟨_, h⟩ := require_bind_ok h
  obtain ⟨_, _, h⟩ := bind_ok h
  obtain ⟨order, _, h⟩ := bind_ok h
  obtain ⟨todo, htodo, h⟩ := bind_ok h
  obtain ⟨db₁, h₁, h⟩ := bind_ok h
  obtain ⟨db₂, h₂, h⟩ := bind_ok h
  obtain ⟨s₁, hs₁, rfl⟩ := stockWrites_ok (recordReturned_ok h₁)
  obtain ⟨s, hs₂, rfl⟩ := stockWrites_ok h₂
  cases h
  have hs : db.stock.writes (restockWrites db.stock todo ⟨.restock, some order.id⟩) = .ok s := by
    rw [List.map_map] at hs₁
    rw [restockWrites, List.append_assoc]
    exact (Stock.writes_append hs₁).trans hs₂
  obtain ⟨hmem, hsub⟩ := restockTodo_ok htodo
  refine ⟨Stock.writes_linked hs hl, restockWrites_held hl ?_ ?_ hs⟩
  · intro l hl'
    obtain ⟨hid, hin⟩ := hmem l hl'
    rw [hid]
    exact Table.get?_of_mem (List.mem_of_mem_filter hin)
  · have hids : (todo.map fun l => l.2.orderItemId).Nodup :=
      hsub.nodup (ret.mapItems (·.received entries) fun i => i.received_orderItemId entries).lineOnce
    exact List.Nodup.of_map Prod.fst (by simpa [List.map_map, Function.comp_def] using hids)

end NovaCart
