import NovaCart.Returns

/-! Returned quantities over every run. -/

namespace NovaCart

open Schemes

/-! ### Sums over the lines of a return -/

theorem sum_filter_map {α : Type} (l : List α) (p : α → Bool) (f : α → ℤ) :
    ((l.filter p).map f).sum = (l.map fun x => if p x then f x else 0).sum := by
  induction l with
  | nil => rfl
  | cons x xs ih =>
    by_cases hx : p x = true
    · simp [hx, ih]
    · simp [hx, ih]

/-- Of rows with distinct keys, at most one has the key. -/
theorem sum_filter_key_le {α κ : Type} [DecidableEq κ] {key : α → κ} {f : α → ℤ} {k : κ} {b : ℤ} :
    ∀ {l : List α}, (l.map key).Nodup → 0 ≤ b → (∀ x ∈ l, key x = k → f x ≤ b) →
      ((l.filter fun x => key x = k).map f).sum ≤ b
  | [], _, hb, _ => by simpa using hb
  | x :: xs, hnd, hb, h => by
    rw [List.map_cons, List.nodup_cons] at hnd
    by_cases hx : key x = k
    · have hrest : xs.filter (fun y => key y = k) = [] := by
        rw [List.filter_eq_nil_iff]
        intro y hy hyk
        exact hnd.1 (List.mem_map.mpr ⟨y, hy, (of_decide_eq_true hyk).trans hx.symm⟩)
      simpa [hx, hrest] using h x List.mem_cons_self hx
    · simpa [hx] using sum_filter_key_le hnd.2 hb fun y hy => h y (List.mem_cons_of_mem _ hy)

theorem sumOf_mapItems (r : ReturnRequest) (f : ReturnRequestItem → ReturnRequestItem)
    (hf : ∀ i, (f i).orderItemId = i.orderItemId) (g : ReturnRequestItem → ℤ) (itemId : Id) :
    (r.mapItems f hf).sumOf g itemId = r.sumOf (fun i => g (f i)) itemId := by
  have hfilter : (r.items.map f).filter (fun i => i.orderItemId = itemId)
      = (r.items.filter fun i => i.orderItemId = itemId).map f := by
    rw [List.filter_map]
    congr 2
    funext i
    simp [hf]
  rw [ReturnRequest.sumOf, ReturnRequest.sumOf]
  show (((r.items.map f).filter _).map g).sum = _
  rw [hfilter, List.map_map]
  rfl

theorem sumOf_congr {r : ReturnRequest} {f g : ReturnRequestItem → ℤ} (h : ∀ l ∈ r.items, f l = g l) (itemId : Id) :
    r.sumOf f itemId = r.sumOf g itemId := by
  rw [ReturnRequest.sumOf, ReturnRequest.sumOf]
  exact congrArg List.sum (List.map_congr_left fun l hl => h l (List.mem_filter.mp hl).1)

theorem sumOf_nonneg {r : ReturnRequest} {f : ReturnRequestItem → ℤ} (h : ∀ l ∈ r.items, 0 ≤ f l) (itemId : Id) :
    0 ≤ r.sumOf f itemId := by
  refine List.sum_nonneg fun x hx => ?_
  obtain ⟨l, hl, rfl⟩ := List.mem_map.mp hx
  exact h l (List.mem_filter.mp hl).1

theorem sumOf_mono {r : ReturnRequest} {f g : ReturnRequestItem → ℤ} (h : ∀ l ∈ r.items, f l ≤ g l) (itemId : Id) :
    r.sumOf f itemId ≤ r.sumOf g itemId :=
  List.sum_le_sum fun l hl => h l (List.mem_filter.mp hl).1

/-! ### One return -/

def RestockKey.isReturn : RestockKey → Bool
  | .orderRelease => false
  | .ofReturn _ => true

/-- The units of a line that returns put back in stock. -/
def throughReturns (events : List LineRestock) (itemId : Id) : ℤ :=
  ((events.filter fun e => e.orderItemId = itemId ∧ e.eventKey.isReturn = true).map (·.quantity)).sum

theorem throughReturns_append (es es' : List LineRestock) (itemId : Id) :
    throughReturns (es ++ es') itemId = throughReturns es itemId + throughReturns es' itemId := by
  rw [throughReturns, List.filter_append, List.map_append, List.sum_append]; rfl

/-- What holds of a return's lines. -/
structure ReturnRequest.Sound (r : ReturnRequest) : Prop where
  received : ∀ l ∈ r.items, 0 ≤ l.receivedQuantity.getD 0 ∧ l.receivedQuantity.getD 0 ≤ l.quantity
  restocked : ∀ l ∈ r.items, 0 ≤ l.restockedQuantity ∧ l.restockedQuantity ≤ l.receivedQuantity.getD 0
  unopened : r.status ∉ cameBack → ∀ l ∈ r.items, l.receivedQuantity = none ∧ l.restockedQuantity = 0

theorem ReturnRequest.Sound.backOf_nonneg {r : ReturnRequest} (h : r.Sound) (itemId : Id) : 0 ≤ r.backOf itemId := by
  rw [ReturnRequest.backOf]
  split
  · exact sumOf_nonneg (fun l hl => (h.received l hl).1) itemId
  · exact le_refl 0

/-- What a decision may do to a return: it uses up no more, no less has come back. -/
structure ReturnRequest.Changes (old row : ReturnRequest) (events : List LineRestock) : Prop where
  used : ∀ itemId, row.usedOf itemId ≤ old.usedOf itemId
  back : ∀ itemId, old.backOf itemId ≤ row.backOf itemId
  sound : row.Sound
  restocked : ∀ itemId, row.sumOf (·.restockedQuantity) itemId
    = old.sumOf (·.restockedQuantity) itemId + throughReturns events itemId

/-- A decision that only changes the status. -/
theorem changes_of_items {old row : ReturnRequest} (hitems : row.items = old.items) (hsound : old.Sound)
    (hused : row.status ∈ counted → old.status ∈ counted) (hback : old.status ∈ cameBack → row.status ∈ cameBack)
    (hquantity : ∀ l ∈ old.items, 0 ≤ l.quantity) : old.Changes row [] := by
  have hsum (f : ReturnRequestItem → ℤ) (itemId : Id) : row.sumOf f itemId = old.sumOf f itemId := by
    rw [ReturnRequest.sumOf, hitems]; rfl
  have hrow : row.Sound := by
    refine ⟨?_, ?_, fun hnot => ?_⟩
    · rw [hitems]; exact hsound.received
    · rw [hitems]; exact hsound.restocked
    · rw [hitems]; exact hsound.unopened fun h => hnot (hback h)
  refine ⟨fun itemId => ?_, fun itemId => ?_, hrow, fun itemId => ?_⟩
  · rw [ReturnRequest.usedOf, ReturnRequest.usedOf, hsum]
    by_cases hnew : row.status ∈ counted
    · rw [if_pos hnew, if_pos (hused hnew)]
    · rw [if_neg hnew]
      split
      · exact sumOf_nonneg hquantity itemId
      · exact le_refl 0
  · by_cases hold : old.status ∈ cameBack
    · rw [ReturnRequest.backOf, ReturnRequest.backOf, if_pos hold, if_pos (hback hold), hsum]
    · rw [ReturnRequest.backOf, if_neg hold]
      exact hrow.backOf_nonneg itemId
  · rw [hsum]
    exact (add_zero _).symm

theorem ReturnRequest.Sound.quantity {r : ReturnRequest} (h : r.Sound) : ∀ l ∈ r.items, 0 ≤ l.quantity := by
  intro l hl
  obtain ⟨h₁, h₂⟩ := h.received l hl
  omega

theorem checkReceipt_ok {ret : ReturnRequest} : ∀ {entries : List ReceiptEntry}, checkReceipt ret entries = .ok () →
    ∀ e ∈ entries, 0 ≤ e.receivedQuantity
      ∧ ∀ i ∈ ret.items, i.orderItemId = e.orderItemId → e.receivedQuantity ≤ i.quantity
  | [], _, _, he => by cases he
  | e :: es, h, e', he => by
    rw [checkReceipt] at h
    obtain ⟨hfits, h⟩ := require_bind_ok h
    obtain ⟨_, h⟩ := require_bind_ok h
    rcases List.mem_cons.mp he with rfl | he
    · exact hfits
    · exact checkReceipt_ok h e' he

/-! ### A receipt -/

section

variable {s₀ s s' : OrderReturns} {l : ReturnsLabel} {tr : List (Taken OrderReturns ReturnsLabel)} {tx tx' : ReturnTx}
  {ret : ReturnRequest} {entries : List ReceiptEntry}

theorem received_quantity (i : ReturnRequestItem) : (i.received entries).quantity = i.quantity := by
  unfold ReturnRequestItem.received
  cases entries.find? fun e => e.orderItemId = i.orderItemId with
  | none => rfl
  | some e => rfl

theorem received_restockedQuantity (i : ReturnRequestItem) :
    (i.received entries).restockedQuantity = i.restockedQuantity := by
  unfold ReturnRequestItem.received
  cases entries.find? fun e => e.orderItemId = i.orderItemId with
  | none => rfl
  | some e => rfl

theorem restocked_restockedQuantity (i : ReturnRequestItem) (fresh : List Id) : (i.restocked fresh).restockedQuantity
    = if i.orderItemId ∈ fresh then i.receivedQuantity.getD 0 else i.restockedQuantity := rfl

/-- What arrived of a line is within what was requested. -/
theorem received_within (hfits : OrderReturns.receiptFits ret entries) {i : ReturnRequestItem} (hi : i ∈ ret.items) :
    0 ≤ (i.received entries).receivedQuantity.getD 0 ∧ (i.received entries).receivedQuantity.getD 0 ≤ i.quantity := by
  obtain ⟨_, _, _, hall, hcheck⟩ := hfits
  obtain ⟨e, he, heq⟩ := List.mem_map.mp (hall _ (List.mem_map_of_mem hi))
  unfold ReturnRequestItem.received
  cases hfind : entries.find? fun e => e.orderItemId = i.orderItemId with
  | none => exact absurd heq (by simpa using List.find?_eq_none.mp hfind e he)
  | some e' =>
    obtain ⟨h₁, h₂⟩ := checkReceipt_ok hcheck e' (List.mem_of_find?_eq_some hfind)
    have hsame : e'.orderItemId = i.orderItemId := by simpa using List.find?_some hfind
    exact ⟨h₁, h₂ i hi hsame.symm⟩

/-- A return with its lines as they arrived, the lines in `fresh` put back. -/
def arrivedRow (ret : ReturnRequest) (entries : List ReceiptEntry) (fresh : List Id) : ReturnRequest :=
  { ((ret.mapItems (·.received entries) fun i => i.received_orderItemId entries).mapItems (.restocked fresh) fun _ => rfl)
    with status := .received }

theorem arrivedRow_items (fresh : List Id) :
    (arrivedRow ret entries fresh).items = ret.items.map fun i => (i.received entries).restocked fresh := List.map_map

theorem arrivedRow_sumOf (fresh : List Id) (f : ReturnRequestItem → ℤ) (itemId : Id) :
    (arrivedRow ret entries fresh).sumOf f itemId = ret.sumOf (fun i => f ((i.received entries).restocked fresh)) itemId := by
  refine Eq.trans ?_ (sumOf_mapItems ret (fun i => (i.received entries).restocked fresh)
    (fun i => i.received_orderItemId entries) f itemId)
  rw [ReturnRequest.sumOf, ReturnRequest.sumOf, arrivedRow_items]
  rfl

theorem arrivedRow_sound (hsound : ret.Sound) (hfits : OrderReturns.receiptFits ret entries) (fresh : List Id) :
    (arrivedRow ret entries fresh).Sound := by
  have hline (l : ReturnRequestItem) (hl : l ∈ (arrivedRow ret entries fresh).items) :
      ∃ i ∈ ret.items, (i.received entries).restocked fresh = l := by
    rw [arrivedRow_items] at hl
    exact List.mem_map.mp hl
  refine ⟨fun l hl => ?_, fun l hl => ?_, fun hnot => absurd (by simp [arrivedRow, cameBack]) hnot⟩
  · obtain ⟨i, hi, rfl⟩ := hline l hl
    obtain ⟨h₁, h₂⟩ := received_within hfits hi
    exact ⟨h₁, h₂.trans_eq (received_quantity i).symm⟩
  · obtain ⟨i, hi, rfl⟩ := hline l hl
    obtain ⟨h₁, _⟩ := received_within hfits hi
    have hzero := (hsound.unopened (by rw [hfits.1]; decide) i hi).2
    rw [restocked_restockedQuantity]
    show _ ∧ _ ≤ (i.received entries).receivedQuantity.getD 0
    split
    · exact ⟨h₁, le_refl _⟩
    · rw [received_restockedQuantity, hzero]
      exact ⟨le_refl 0, h₁⟩

/-- What the new restock events of a return put back is what its lines say. -/
theorem throughReturns_todo (s : OrderReturns) (row : ReturnRequest) (itemId : Id) :
    throughReturns (s.newEvents (OrderReturns.todo row)) itemId
      = row.sumOf (fun i => if i.orderItemId ∈ (s.newEvents (OrderReturns.todo row)).map (·.orderItemId)
          then i.receivedQuantity.getD 0 else 0) itemId := by
  -- a line is put back exactly if it is to be, and its event is new
  let isNew (i : ReturnRequestItem) : Bool :=
    (i.restock = true ∧ 0 < i.receivedQuantity.getD 0)
      ∧ ∀ x ∈ s.restocks, ¬(x.orderItemId = i.orderItemId ∧ x.eventKey = .ofReturn row.id)
  have hevents : s.newEvents (OrderReturns.todo row)
      = (row.items.filter isNew).map fun i => ⟨i.orderItemId, .ofReturn row.id, i.receivedQuantity.getD 0⟩ := by
    rw [OrderReturns.newEvents, OrderReturns.todo, List.filter_map, List.filter_filter]
    congr 2
    funext i
    simp only [isNew, Function.comp_apply, Bool.decide_and, Bool.and_comm]
  have hmem (i : ReturnRequestItem) (hi : i ∈ row.items) :
      i.orderItemId ∈ (s.newEvents (OrderReturns.todo row)).map (·.orderItemId) ↔ isNew i = true := by
    rw [hevents, List.map_map, List.mem_map]
    constructor
    · rintro ⟨j, hj, heq⟩
      obtain ⟨hj, hnew⟩ := List.mem_filter.mp hj
      have hij : j = i := List.inj_on_of_nodup_map row.lineOnce hj hi heq
      exact hij ▸ hnew
    · intro hnew
      exact ⟨i, List.mem_filter.mpr ⟨hi, hnew⟩, rfl⟩
  have hsum : row.sumOf (fun i => if i.orderItemId ∈ (s.newEvents (OrderReturns.todo row)).map (·.orderItemId)
      then i.receivedQuantity.getD 0 else 0) itemId
      = row.sumOf (fun i => if isNew i = true then i.receivedQuantity.getD 0 else 0) itemId :=
    sumOf_congr (fun i hi => if_congr (hmem i hi) rfl rfl) itemId
  rw [hsum, throughReturns, hevents, List.filter_map, List.map_map, List.filter_filter, ReturnRequest.sumOf,
    sum_filter_map, sum_filter_map]
  refine congrArg List.sum (List.map_congr_left fun i _ => ?_)
  by_cases hitem : i.orderItemId = itemId
  · by_cases hnew : isNew i = true
    · simp [hitem, hnew, RestockKey.isReturn]
    · simp [hitem, hnew]
  · simp [hitem]

/-- The goods of an approved return arrive. -/
theorem changes_of_receipt (hsound : ret.Sound) (hfits : OrderReturns.receiptFits ret entries) (s : OrderReturns) :
    let events := s.newEvents
      (OrderReturns.todo (ret.mapItems (·.received entries) fun i => i.received_orderItemId entries))
    ret.Changes (arrivedRow ret entries (events.map (·.orderItemId))) events := by
  intro events
  have happroved := hfits.1
  have hrow := arrivedRow_sound hsound hfits (events.map (·.orderItemId))
  have hzero := hsound.unopened (by rw [happroved]; decide)
  refine ⟨fun itemId => ?_, fun itemId => ?_, hrow, fun itemId => ?_⟩
  · have hcounted : ret.status ∈ counted := by rw [happroved]; decide
    rw [ReturnRequest.usedOf, ReturnRequest.usedOf, if_pos hcounted, if_pos (by simp [arrivedRow, counted]),
      arrivedRow_sumOf]
    exact (sumOf_congr (fun i _ => received_quantity i) itemId).le
  · rw [ReturnRequest.backOf, if_neg (by rw [happroved]; decide)]
    exact hrow.backOf_nonneg itemId
  · have hold : ret.sumOf (·.restockedQuantity) itemId = 0 := by
      rw [sumOf_congr (g := fun _ => 0) (fun i hi => (hzero i hi).2) itemId, ReturnRequest.sumOf]
      simp
    rw [hold, zero_add, throughReturns_todo, arrivedRow_sumOf, sumOf_mapItems]
    refine sumOf_congr (fun i hi => ?_) itemId
    rw [restocked_restockedQuantity, received_restockedQuantity, (hzero i hi).2]

/-! ### What is kept -/

/-- Every line has come back whole. -/
def OrderReturns.Covered (s : OrderReturns) : Prop := ∀ i ∈ s.items.rows, i.quantity ≤ s.back i.id

/-- What an open transaction has locked, and what its commit will do. -/
structure ReturnTx.Fits (s : OrderReturns) (tx : ReturnTx) : Prop where
  order : tx.stage = .orderLocked ∨ (∃ ret, tx.stage = .bothLocked ret) → tx.locksOrder = true
  unlocked : tx.stage = .start ∨ tx.stage = .orderLocked → tx.locksReturn = none
  locked : ∀ ret, tx.stage = .returnLocked ret ∨ tx.stage = .bothLocked ret →
    tx.locksReturn = some ret.id ∧ s.returns.get? ret.id = some ret
  receipt : ∀ ret rid entries, tx.stage = .bothLocked ret → tx.call = .receive rid entries →
    OrderReturns.receiptFits ret entries
  received : ∀ ret rid, tx.stage = .bothLocked ret → tx.call = .refund rid → ret.status = .received
  blank : tx.stage ≠ .done → tx.row = none ∧ tx.restocks = [] ∧ tx.refund = none
  rowless : tx.row = none → tx.restocks = []
  /-- a new return fits beside those that are there -/
  inserted : ∀ row, tx.row = some row → tx.locksReturn = none → tx.locksOrder = true ∧ tx.restocks = [] ∧ row.Sound
    ∧ row.status ∉ cameBack ∧ ∀ i ∈ s.items.rows, s.used i.id + row.usedOf i.id ≤ i.quantity
  changed : ∀ row rid, tx.row = some row → tx.locksReturn = some rid →
    rid = row.id ∧ ∃ old, s.returns.get? row.id = some old ∧ old.Changes row tx.restocks
  covers : tx.refund ≠ none → s.Covered

structure ReturnsInv (s : OrderReturns) : Prop where
  orderLock : ∀ x ∈ s.txs.rows, ∀ y ∈ s.txs.rows, x.locksOrder = true → y.locksOrder = true → x.id = y.id
  returnLock : ∀ x ∈ s.txs.rows, ∀ y ∈ s.txs.rows, ∀ rid, x.locksReturn = some rid → y.locksReturn = some rid → x.id = y.id
  fits : ∀ x ∈ s.txs.rows, x.Fits s
  bound : ∀ i ∈ s.items.rows, s.used i.id ≤ i.quantity
  sound : ∀ r ∈ s.returns.rows, r.Sound
  restocked : ∀ itemId, throughReturns s.restocks itemId = s.returns.total fun r => r.sumOf (·.restockedQuantity) itemId

/-- What the others may do between two statements of a transaction. -/
theorem ReturnTx.Fits.mono (h : tx.Fits s) (hitems : s'.items = s.items)
    (hrows : ∀ rid old, tx.locksReturn = some rid → s.returns.get? rid = some old → s'.returns.get? rid = some old)
    (hused : tx.locksOrder = true → ∀ itemId, s'.used itemId ≤ s.used itemId)
    (hback : ∀ itemId, s.back itemId ≤ s'.back itemId) : tx.Fits s' := by
  refine ⟨h.order, h.unlocked, fun ret hstage => ?_, h.receipt, h.received, h.blank, h.rowless, fun row hrow hnone => ?_,
    fun row rid hrow hlock => ?_, fun hrefund i hi => ?_⟩
  · obtain ⟨hlock, hget⟩ := h.locked ret hstage
    exact ⟨hlock, hrows _ _ hlock hget⟩
  · obtain ⟨horder, hnil, hsound, hstatus, hfit⟩ := h.inserted row hrow hnone
    refine ⟨horder, hnil, hsound, hstatus, fun i hi => ?_⟩
    rw [hitems] at hi
    have hle := hused horder i.id
    have hold := hfit i hi
    omega
  · obtain ⟨rfl, old, hget, hchanges⟩ := h.changed row rid hrow hlock
    exact ⟨rfl, old, hrows _ _ hlock hget, hchanges⟩
  · rw [hitems] at hi
    exact (h.covers hrefund i hi).trans (hback i.id)

/-! ### Statements -/

/-- What a statement comes to. -/
inductive ReturnTx.Advances (s : OrderReturns) (tx : ReturnTx) : ReturnTx → Prop
  | order (stage : ReturnStage) (hfree : ∀ x ∈ s.txs.rows, x.id ≠ tx.id → x.locksOrder = false)
      (hstage : stage = .orderLocked ∧ tx.locksReturn = none
        ∨ ∃ ret, tx.stage = .returnLocked ret ∧ stage = .bothLocked ret
          ∧ (∀ rid entries, tx.call = .receive rid entries → OrderReturns.receiptFits ret entries)
          ∧ ∀ rid, tx.call = .refund rid → ret.status = .received) :
      tx.Advances s { tx with locksOrder := true, stage := stage }
  | return_ (ret : ReturnRequest) (hget : s.returns.get? ret.id = some ret)
      (hfree : ∀ x ∈ s.txs.rows, x.id ≠ tx.id → x.locksReturn ≠ some ret.id) :
      tx.Advances s { tx with locksReturn := some ret.id, stage := .returnLocked ret }
  | insert (row : ReturnRequest) (horder : tx.locksOrder = true) (hnone : tx.locksReturn = none) (hsound : row.Sound)
      (hstatus : row.status ∉ cameBack) (hfit : ∀ i ∈ s.items.rows, s.used i.id + row.usedOf i.id ≤ i.quantity) :
      tx.Advances s { tx with stage := .done, row := some row, restocks := [], refund := none }
  | change (old row : ReturnRequest) (restocks : List LineRestock) (refund : Option Id) (hlock : tx.locksReturn = some row.id)
      (hget : s.returns.get? row.id = some old) (hchanges : old.Changes row restocks)
      (hcovers : refund ≠ none → s.Covered) :
      tx.Advances s { tx with stage := .done, row := some row, restocks := restocks, refund := refund }

theorem lockOrder_advances {stage : ReturnStage} (h : s.lockOrder tx stage = some tx')
    (hstage : stage = .orderLocked ∧ tx.locksReturn = none
      ∨ ∃ ret, tx.stage = .returnLocked ret ∧ stage = .bothLocked ret
        ∧ (∀ rid entries, tx.call = .receive rid entries → OrderReturns.receiptFits ret entries)
        ∧ ∀ rid, tx.call = .refund rid → ret.status = .received) : tx.Advances s tx' := by
  rw [OrderReturns.lockOrder] at h
  by_cases hbusy : ∃ x ∈ s.txs.rows, x.id ≠ tx.id ∧ x.locksOrder = true
  · rw [if_pos hbusy] at h; cases h
  rw [if_neg hbusy] at h
  cases h
  refine .order stage (fun x hx hne => ?_) hstage
  by_contra hlock
  exact hbusy ⟨x, hx, hne, by simpa using hlock⟩

theorem lockReturn_advances (h : s.lockReturn tx = some tx') : tx.Advances s tx' := by
  obtain ⟨ret, hget, hs⟩ := Option.bind_eq_some_iff.mp h
  by_cases hbusy : ∃ x ∈ s.txs.rows, x.id ≠ tx.id ∧ x.locksReturn = some ret.id
  · rw [if_pos hbusy] at hs; cases hs
  rw [if_neg hbusy] at hs
  cases hs
  have hid : ret.id = tx.call.returnId := Table.key_of_get? hget
  exact .return_ ret (hid ▸ hget) fun x hx hne hlock => hbusy ⟨x, hx, hne, hlock⟩

/-- A request for a return fits beside those that are there. -/
theorem request_advances (hinv : ReturnsInv s) (horder : tx.locksOrder = true) (hnone : tx.locksReturn = none)
    (hblank : tx.restocks = [] ∧ tx.refund = none) {returnId userId : Id} {lines : List (Id × ℤ)} {now : Time}
    (h : s.request tx returnId userId lines now = some tx') : tx.Advances s tx' := by
  rw [OrderReturns.request] at h
  by_cases hok : s.userId = some userId ∧ s.eligible now ∧ s.linesReturnable lines
  swap
  · rw [if_neg hok] at h; cases h
  rw [if_pos hok] at h
  by_cases hnd : (lines.map (·.1)).Nodup
  swap
  · rw [dif_neg hnd] at h; cases h
  rw [dif_pos hnd] at h
  obtain ⟨_, _, hlines⟩ := hok
  have hblank' : tx = { tx with restocks := [], refund := none } := by rw [← hblank.1, ← hblank.2]
  rw [← Option.some.inj h, hblank']
  refine .insert _ horder hnone ⟨fun l hl => ?_, fun l hl => ?_, fun _ l hl => ?_⟩ (by simp [cameBack]) fun i hi => ?_
  · obtain ⟨x, hx, rfl⟩ := List.mem_map.mp hl
    exact ⟨le_refl 0, (hlines x hx).1.le⟩
  · obtain ⟨x, _, rfl⟩ := List.mem_map.mp hl
    exact ⟨le_refl 0, le_refl 0⟩
  · obtain ⟨x, _, rfl⟩ := List.mem_map.mp hl
    exact ⟨rfl, rfl⟩
  · have hbound := hinv.bound i hi
    have hle : ((lines.filter fun x => x.1 = i.id).map (·.2)).sum ≤ i.quantity - s.used i.id := by
      refine sum_filter_key_le hnd (by omega) fun x hx hkey => ?_
      obtain ⟨hpos, i', hi', hreturnable⟩ := hlines x hx
      rw [hkey, show s.items.get? i.id = some i from Table.get?_of_mem hi] at hi'
      cases hi'
      rw [OrderReturns.returnable] at hreturnable
      omega
    have hsum : ReturnRequest.usedOf i.id
        { id := returnId, orderId := s.orderId, userId := userId, status := .requested
          items := lines.map fun l => ⟨l.1, l.2, none, false, 0⟩
          refundId := none
          lineOnce := by simpa [List.map_map, Function.comp_def] using hnd }
        = ((lines.filter fun x => x.1 = i.id).map (·.2)).sum := by
      rw [ReturnRequest.usedOf, if_pos (by simp [counted]), ReturnRequest.sumOf, List.filter_map, List.map_map]
      rfl
    rw [hsum]
    omega

/-- A decision about a locked return. -/
theorem decide_advances (hinv : ReturnsInv s) {allowed : List ReturnStatus} {status : ReturnStatus}
    (hlock : tx.locksReturn = some ret.id) (hget : s.returns.get? ret.id = some ret)
    (hblank : tx.restocks = [] ∧ tx.refund = none) (hallowed : ∀ st ∈ allowed, st ∈ counted)
    (hback : ∀ st ∈ allowed, st ∈ cameBack → status ∈ cameBack)
    (h : OrderReturns.decideReturn tx ret allowed status = some tx') : tx.Advances s tx' := by
  rw [OrderReturns.decideReturn] at h
  by_cases hst : ret.status ∈ allowed
  swap
  · rw [if_neg hst] at h; cases h
  rw [if_pos hst] at h
  have hsound := hinv.sound ret (Table.mem_of_get? hget)
  have hblank' : tx = { tx with restocks := [], refund := none } := by rw [← hblank.1, ← hblank.2]
  rw [← Option.some.inj h, hblank']
  exact .change ret { ret with status := status } [] none hlock hget
    (changes_of_items rfl hsound (fun _ => hallowed _ hst) (hback _ hst) hsound.quantity) fun hne => absurd rfl hne

theorem putBack_advances (hinv : ReturnsInv s) (hlock : tx.locksReturn = some ret.id)
    (hget : s.returns.get? ret.id = some ret) (hblank : tx.refund = none) (hfits : OrderReturns.receiptFits ret entries)
    (h : s.putBack tx ret entries = some tx') : tx.Advances s tx' := by
  rw [OrderReturns.putBack] at h
  dsimp only at h
  split at h
  · have hsound := hinv.sound ret (Table.mem_of_get? hget)
    have hblank' : tx = { tx with refund := none } := by rw [← hblank]
    rw [← Option.some.inj h, hblank']
    exact .change ret (arrivedRow ret entries _) _ none hlock hget (changes_of_receipt hsound hfits s)
      fun hne => absurd rfl hne
  · cases h

theorem startRefund_advances (hinv : ReturnsInv s) (hlock : tx.locksReturn = some ret.id)
    (hget : s.returns.get? ret.id = some ret) (hblank : tx.restocks = []) (hreceived : ret.status = .received)
    {answer : Option Id} (h : s.startRefund tx ret answer = some tx') : tx.Advances s tx' := by
  rw [OrderReturns.startRefund] at h
  by_cases hmissing : ∃ i ∈ s.items.rows, s.back i.id < i.quantity
  · rw [if_pos hmissing] at h; cases h
  rw [if_neg hmissing] at h
  obtain ⟨refundId, _, hs⟩ := Option.bind_eq_some_iff.mp h
  have hsound := hinv.sound ret (Table.mem_of_get? hget)
  have hblank' : tx = { tx with restocks := [] } := by rw [← hblank]
  rw [← Option.some.inj hs, hblank']
  refine .change ret { ret with status := .closed, refundId := some refundId } [] (some refundId) hlock hget
    (changes_of_items rfl hsound (fun _ => by rw [hreceived]; decide) (fun _ => by simp [cameBack]) hsound.quantity) fun _ i hi => ?_
  by_contra hlt
  exact hmissing ⟨i, hi, by omega⟩

theorem returns_advance_cases (hinv : ReturnsInv s) (hfits : tx.Fits s) {now : Time} {answer : Option Id}
    (h : s.advance tx now answer = some tx') : tx.stage ≠ .done ∧ tx.Advances s tx' := by
  cases hstage : tx.stage with
  | start =>
    refine ⟨by decide, ?_⟩
    have hnone := hfits.unlocked (.inl hstage)
    rw [OrderReturns.advance, hstage] at h
    cases hcall : tx.call with
    | create returnId userId lines =>
      rw [hcall] at h
      exact lockOrder_advances h (.inl ⟨rfl, hnone⟩)
    | cancel | approve | reject | receive | refund | close =>
      rw [hcall] at h
      exact lockReturn_advances h
  | orderLocked =>
    refine ⟨by decide, ?_⟩
    have hnone := hfits.unlocked (.inr hstage)
    have hblank := (hfits.blank (by rw [hstage]; decide)).2
    rw [OrderReturns.advance, hstage] at h
    cases hcall : tx.call with
    | create returnId userId lines =>
      rw [hcall] at h
      exact request_advances hinv (hfits.order (.inl hstage)) hnone hblank h
    | cancel | approve | reject | receive | refund | close => rw [hcall] at h; cases h
  | returnLocked ret =>
    refine ⟨by simp, ?_⟩
    obtain ⟨hlock, hget⟩ := hfits.locked ret (.inl hstage)
    have hblank := (hfits.blank (by rw [hstage]; simp)).2
    rw [OrderReturns.advance, hstage] at h
    cases hcall : tx.call with
    | create returnId userId lines => rw [hcall] at h; cases h
    | cancel returnId userId =>
      rw [hcall] at h
      dsimp only at h
      split at h
      · exact decide_advances hinv hlock hget hblank (by decide) (by decide) h
      · cases h
    | approve returnId => rw [hcall] at h; exact decide_advances hinv hlock hget hblank (by decide) (by decide) h
    | reject returnId => rw [hcall] at h; exact decide_advances hinv hlock hget hblank (by decide) (by decide) h
    | close returnId => rw [hcall] at h; exact decide_advances hinv hlock hget hblank (by decide) (by decide) h
    | receive returnId entries =>
      rw [hcall] at h
      dsimp only at h
      split at h
      · rename_i hfit
        refine lockOrder_advances h (.inr ⟨ret, hstage, rfl, fun rid es hc => ?_, fun rid hc => ?_⟩)
        · rw [hcall] at hc; cases hc; exact hfit
        · rw [hcall] at hc; cases hc
      · cases h
    | refund returnId =>
      rw [hcall] at h
      dsimp only at h
      split at h
      · rename_i hreceived
        refine lockOrder_advances h (.inr ⟨ret, hstage, rfl, fun rid es hc => ?_, fun rid hc => hreceived⟩)
        rw [hcall] at hc; cases hc
      · cases h
  | bothLocked ret =>
    refine ⟨by simp, ?_⟩
    obtain ⟨hlock, hget⟩ := hfits.locked ret (.inr hstage)
    have hblank := (hfits.blank (by rw [hstage]; simp)).2
    rw [OrderReturns.advance, hstage] at h
    cases hcall : tx.call with
    | receive returnId entries =>
      rw [hcall] at h
      exact putBack_advances hinv hlock hget hblank.2 (hfits.receipt ret _ _ hstage hcall) h
    | refund returnId =>
      rw [hcall] at h
      exact startRefund_advances hinv hlock hget hblank.1 (hfits.received ret _ hstage hcall) h
    | create | cancel | approve | reject | close => rw [hcall] at h; cases h
  | done => rw [OrderReturns.advance, hstage] at h; cases h

/-- A statement leaves the transaction fitting. -/
theorem ReturnTx.Advances.fits (hadv : tx.Advances s tx') (hstage : tx.stage ≠ .done) (hfits : tx.Fits s) : tx'.Fits s := by
  obtain ⟨hrow, hrestocks, hrefund⟩ := hfits.blank hstage
  cases hadv with
  | order stage _ hnext =>
    have hinserted (row : ReturnRequest) (h : tx.row = some row) : False := by rw [hrow] at h; cases h
    rcases hnext with ⟨rfl, hnone⟩ | ⟨ret, hwas, rfl, hreceipt, hreceived⟩
    · exact ⟨fun _ => rfl, fun _ => hnone, (by rintro ret (h | h) <;> cases h), by rintro _ _ _ ⟨⟩, by rintro _ _ ⟨⟩,
        fun _ => ⟨hrow, hrestocks, hrefund⟩, hfits.rowless, fun row h => (hinserted row h).elim,
        fun row _ h => (hinserted row h).elim, hfits.covers⟩
    · refine ⟨fun _ => rfl, (by rintro (h | h) <;> cases h), ?_, ?_, ?_,
        fun _ => ⟨hrow, hrestocks, hrefund⟩, hfits.rowless, fun row h => (hinserted row h).elim,
        fun row _ h => (hinserted row h).elim, hfits.covers⟩
      · rintro ret' (h | h)
        · cases h
        · cases h; exact hfits.locked ret (.inl hwas)
      · rintro ret' rid entries h hcall
        cases h; exact hreceipt rid entries hcall
      · rintro ret' rid h hcall
        cases h; exact hreceived rid hcall
  | return_ ret hget _ =>
    refine ⟨(by rintro (h | ⟨_, h⟩) <;> cases h), (by rintro (h | h) <;> cases h), ?_, by rintro _ _ _ ⟨⟩, by rintro _ _ ⟨⟩,
      fun _ => ⟨hrow, hrestocks, hrefund⟩, hfits.rowless, fun row h => ?_, fun row _ h => ?_, hfits.covers⟩
    · rintro ret' (h | h)
      · cases h; exact ⟨rfl, hget⟩
      · cases h
    · rw [show tx.row = some row from h] at hrow; cases hrow
    · rw [show tx.row = some row from h] at hrow; cases hrow
  | insert row horder hnone hsound hstatus hfit =>
    refine ⟨fun _ => horder, fun _ => hnone, (by rintro _ (h | h) <;> cases h), by rintro _ _ _ ⟨⟩, by rintro _ _ ⟨⟩,
      fun h => absurd rfl h, by rintro ⟨⟩, ?_, ?_, fun h => absurd rfl h⟩
    · rintro _ ⟨⟩ _
      exact ⟨horder, rfl, hsound, hstatus, hfit⟩
    · rintro _ rid ⟨⟩ hlock
      rw [show tx.locksReturn = some rid from hlock] at hnone
      cases hnone
  | change old row restocks refund hlock hget hchanges hcovers =>
    refine ⟨(by rintro (h | ⟨_, h⟩) <;> cases h), (by rintro (h | h) <;> cases h), (by rintro _ (h | h) <;> cases h),
      by rintro _ _ _ ⟨⟩, by rintro _ _ ⟨⟩, fun h => absurd rfl h, by rintro ⟨⟩, ?_, ?_, hcovers⟩
    · rintro _ ⟨⟩ hnone
      rw [show tx.locksReturn = none from hnone] at hlock
      cases hlock
    · rintro _ rid ⟨⟩ hrid
      rw [show tx.locksReturn = some rid from hrid] at hlock
      cases hlock
      exact ⟨rfl, old, hget, hchanges⟩

theorem ReturnTx.Advances.id (hadv : tx.Advances s tx') : tx'.id = tx.id := by cases hadv <;> rfl

/-- A lock a statement takes is free. -/
theorem ReturnTx.Advances.locks (hadv : tx.Advances s tx') {x : ReturnTx} (hx : x ∈ s.txs.rows) (hne : x.id ≠ tx.id) :
    (tx'.locksOrder = true → tx.locksOrder = true ∨ x.locksOrder = false)
      ∧ ∀ rid, tx'.locksReturn = some rid → tx.locksReturn = some rid ∨ x.locksReturn ≠ some rid := by
  cases hadv with
  | order stage hfree _ => exact ⟨fun _ => .inr (hfree x hx hne), fun _ h => .inl h⟩
  | return_ ret _ hfree =>
    refine ⟨fun h => .inl h, ?_⟩
    rintro rid ⟨⟩
    exact .inr (hfree x hx hne)
  | insert => exact ⟨fun h => .inl h, fun _ h => .inl h⟩
  | change => exact ⟨fun h => .inl h, fun _ h => .inl h⟩

theorem ReturnsInv.statement (hinv : ReturnsInv s) (htx : s.txs.get? tx.id = some tx) (hadv : tx.Advances s tx')
    (hstage : tx.stage ≠ .done) : ReturnsInv { s with txs := s.txs.replace tx' } := by
  have hmem := Table.mem_of_get? htx
  have hid := hadv.id
  have hrows : ∀ x, x ∈ (s.txs.replace tx').rows ↔ x = tx' ∨ (x ∈ s.txs.rows ∧ x.id ≠ tx.id) := by
    intro x
    rw [← hid] at htx
    rw [Table.mem_replace (r := tx) htx, ← hid]
    rfl
  -- the transaction and another have not both a lock
  have horder {x : ReturnTx} (hx : x ∈ s.txs.rows) (hne : x.id ≠ tx.id) (h' : tx'.locksOrder = true) :
      x.locksOrder = false := by
    rcases (hadv.locks hx hne).1 h' with hold | hfree
    · by_contra hlock
      exact hne (hinv.orderLock x hx tx hmem (by simpa using hlock) hold)
    · exact hfree
  have hreturn {x : ReturnTx} (hx : x ∈ s.txs.rows) (hne : x.id ≠ tx.id) {rid : Id} (h' : tx'.locksReturn = some rid) :
      x.locksReturn ≠ some rid := by
    rcases (hadv.locks hx hne).2 rid h' with hold | hfree
    · exact fun hlock => hne (hinv.returnLock x hx tx hmem rid hlock hold)
    · exact hfree
  refine ⟨?_, ?_, ?_, hinv.bound, hinv.sound, hinv.restocked⟩
  · intro x hx y hy hxl hyl
    rcases (hrows x).mp hx with rfl | ⟨hxs, hxne⟩
    · rcases (hrows y).mp hy with rfl | ⟨hys, hyne⟩
      · rfl
      · rw [horder hys hyne hxl] at hyl; cases hyl
    · rcases (hrows y).mp hy with rfl | ⟨hys, hyne⟩
      · rw [horder hxs hxne hyl] at hxl; cases hxl
      · exact hinv.orderLock x hxs y hys hxl hyl
  · intro x hx y hy rid hxl hyl
    rcases (hrows x).mp hx with rfl | ⟨hxs, hxne⟩
    · rcases (hrows y).mp hy with rfl | ⟨hys, hyne⟩
      · rfl
      · exact absurd hyl (hreturn hys hyne hxl)
    · rcases (hrows y).mp hy with rfl | ⟨hys, hyne⟩
      · exact absurd hxl (hreturn hxs hxne hyl)
      · exact hinv.returnLock x hxs y hys rid hxl hyl
  · intro x hx
    have hsame {x : ReturnTx} (h : x.Fits s) : x.Fits { s with txs := s.txs.replace tx' } :=
      h.mono rfl (fun _ _ _ h => h) (fun _ _ => le_refl _) fun _ => le_refl _
    rcases (hrows x).mp hx with rfl | ⟨hxs, _⟩
    · exact hsame (hadv.fits hstage (hinv.fits tx hmem))
    · exact hsame (hinv.fits x hxs)

/-! ### Commits -/

/-- What a commit makes of the returns. -/
structure OrderReturns.Stores (s : OrderReturns) (tx : ReturnTx) (returns : Table ReturnRequest) : Prop where
  used : (∀ itemId, returns.total (ReturnRequest.usedOf itemId) ≤ s.used itemId)
    ∨ tx.locksOrder = true ∧ ∀ i ∈ s.items.rows, returns.total (ReturnRequest.usedOf i.id) ≤ i.quantity
  back : ∀ itemId, s.back itemId ≤ returns.total (ReturnRequest.backOf itemId)
  kept : ∀ rid old, tx.locksReturn ≠ some rid → s.returns.get? rid = some old → returns.get? rid = some old
  sound : ∀ r ∈ returns.rows, r.Sound
  restocked : ∀ itemId, returns.total (fun r => r.sumOf (·.restockedQuantity) itemId)
    = s.returns.total (fun r => r.sumOf (·.restockedQuantity) itemId) + throughReturns tx.restocks itemId

theorem stores_insert (hinv : ReturnsInv s) {row : ReturnRequest} {returns : Table ReturnRequest}
    (hins : s.returns.insert? row = some returns) (horder : tx.locksOrder = true) (hnil : tx.restocks = [])
    (hsound : row.Sound) (hstatus : row.status ∉ cameBack)
    (hfit : ∀ i ∈ s.items.rows, s.used i.id + row.usedOf i.id ≤ i.quantity) : s.Stores tx returns := by
  refine ⟨.inr ⟨horder, fun i hi => ?_⟩, fun itemId => ?_, fun rid old _ hget => ?_, fun r hr => ?_, fun itemId => ?_⟩
  · rw [Table.total_insert? hins]
    have hle := hfit i hi
    rw [OrderReturns.used] at hle
    omega
  · rw [Table.total_insert? hins]
    have hpos := hsound.backOf_nonneg itemId
    rw [OrderReturns.back]
    omega
  · exact Table.get?_insert?_of_some hins hget
  · rcases (Table.mem_insert? hins).mp hr with rfl | hr
    · exact hsound
    · exact hinv.sound r hr
  · have hzero : row.sumOf (·.restockedQuantity) itemId = 0 := by
      rw [sumOf_congr (g := fun _ => 0) (fun l hl => (hsound.unopened hstatus l hl).2) itemId, ReturnRequest.sumOf]
      simp
    rw [Table.total_insert? hins, hzero, hnil, zero_add]
    exact (add_zero _).symm

theorem stores_replace (hinv : ReturnsInv s) {old row : ReturnRequest} (hlock : tx.locksReturn = some row.id)
    (hget : s.returns.get? row.id = some old) (hchanges : old.Changes row tx.restocks) :
    s.Stores tx (s.returns.replace row) := by
  have htotal := fun g => Table.total_replace (r := old) (q := row) hget g
  refine ⟨.inl fun itemId => ?_, fun itemId => ?_, fun rid x hne hx => ?_, fun r hr => ?_, fun itemId => ?_⟩
  · rw [htotal, OrderReturns.used]
    have hle := hchanges.used itemId
    omega
  · rw [htotal, OrderReturns.back]
    have hle := hchanges.back itemId
    omega
  · refine (Table.get?_replace_of_ne ?_).trans hx
    rintro rfl
    exact hne hlock
  · rcases (Table.mem_replace (r := old) hget).mp hr with rfl | ⟨hr, _⟩
    · exact hchanges.sound
    · exact hinv.sound r hr
  · rw [htotal, hchanges.restocked]
    ring

theorem stored_stores (hinv : ReturnsInv s) (hfits : tx.Fits s) {returns : Table ReturnRequest}
    (h : s.stored tx = some returns) : s.Stores tx returns := by
  rw [OrderReturns.stored] at h
  cases hrow : tx.row with
  | none =>
    rw [hrow] at h
    cases h
    refine ⟨.inl fun _ => le_refl _, fun _ => le_refl _, fun _ _ _ h => h, hinv.sound, fun itemId => ?_⟩
    rw [hfits.rowless hrow]
    exact (add_zero _).symm
  | some row =>
    cases hlock : tx.locksReturn with
    | none =>
      rw [hrow, hlock] at h
      obtain ⟨horder, hnil, hsound, hstatus, hfit⟩ := hfits.inserted row hrow hlock
      exact stores_insert hinv h horder hnil hsound hstatus hfit
    | some rid =>
      rw [hrow, hlock] at h
      cases h
      obtain ⟨rfl, old, hget, hchanges⟩ := hfits.changed row rid hrow hlock
      exact stores_replace hinv hlock hget hchanges

theorem ReturnsInv.commit (hinv : ReturnsInv s) (htx : tx ∈ s.txs.rows) {returns : Table ReturnRequest}
    (h : s.stored tx = some returns) :
    ReturnsInv { s with returns := returns, restocks := tx.restocks ++ s.restocks, txs := s.txs.erase tx.id } := by
  have hstores := stored_stores hinv (hinv.fits tx htx) h
  have hstay : ∀ x ∈ (s.txs.erase tx.id).rows, x ∈ s.txs.rows ∧ x.id ≠ tx.id := fun x hx => Table.mem_erase.mp hx
  refine ⟨fun x hx y hy => hinv.orderLock x (hstay x hx).1 y (hstay y hy).1,
    fun x hx y hy => hinv.returnLock x (hstay x hx).1 y (hstay y hy).1, fun x hx => ?_, fun i hi => ?_, hstores.sound,
    fun itemId => ?_⟩
  · obtain ⟨hx, hne⟩ := hstay x hx
    refine (hinv.fits x hx).mono rfl (fun rid old hlock hget => hstores.kept rid old ?_ hget) (fun horder itemId => ?_)
      hstores.back
    · exact fun hmine => hne (hinv.returnLock x hx tx htx rid hlock hmine)
    · rcases hstores.used with hle | ⟨hmine, _⟩
      · exact hle itemId
      · exact absurd (hinv.orderLock x hx tx htx horder hmine) hne
  · rcases hstores.used with hle | ⟨_, hbound⟩
    · exact (hle i.id).trans (hinv.bound i hi)
    · exact hbound i hi
  · show throughReturns (tx.restocks ++ s.restocks) itemId = _
    rw [throughReturns_append, hinv.restocked itemId, hstores.restocked itemId]
    ring

theorem newEvents_release (itemId : Id) : throughReturns (s.newEvents s.releaseEvents) itemId = 0 := by
  have hnone : (s.newEvents s.releaseEvents).filter (fun e => e.orderItemId = itemId ∧ e.eventKey.isReturn = true) = [] := by
    rw [List.filter_eq_nil_iff]
    intro e he
    obtain ⟨i, _, rfl⟩ := List.mem_map.mp (List.mem_filter.mp (List.mem_filter.mp he).1).1
    simp [RestockKey.isReturn]
  rw [throughReturns, hnone]
  rfl

/-- A step that leaves the returns and the transactions alone. -/
theorem ReturnsInv.congr (hinv : ReturnsInv s) (hitems : s'.items = s.items) (hreturns : s'.returns = s.returns)
    (htxs : s'.txs = s.txs) (hrestocks : ∀ itemId, throughReturns s'.restocks itemId = throughReturns s.restocks itemId) :
    ReturnsInv s' := by
  have hused (itemId : Id) : s'.used itemId = s.used itemId := by rw [OrderReturns.used, hreturns]; rfl
  have hback (itemId : Id) : s'.back itemId = s.back itemId := by rw [OrderReturns.back, hreturns]; rfl
  refine ⟨by rw [htxs]; exact hinv.orderLock, by rw [htxs]; exact hinv.returnLock, fun x hx => ?_, fun i hi => ?_,
    by rw [hreturns]; exact hinv.sound, fun itemId => by rw [hrestocks, hreturns]; exact hinv.restocked itemId⟩
  · rw [htxs] at hx
    exact (hinv.fits x hx).mono hitems (fun _ _ _ h => hreturns ▸ h) (fun _ itemId => (hused itemId).le)
      fun itemId => (hback itemId).ge
  · rw [hitems] at hi
    rw [hused]
    exact hinv.bound i hi

theorem ReturnsInv.step (hinv : ReturnsInv s) (h : returnsStep s l = some s') : ReturnsInv s' := by
  cases l with
  | begin call =>
    obtain ⟨txs, hins, hs⟩ := Option.bind_eq_some_iff.mp h
    cases hs
    have hrows := fun x => Table.mem_insert? (x := x) hins
    have hnew : ReturnTx.Fits s ⟨s.next, call, .start, false, none, none, [], none⟩ := by
      refine ⟨(by rintro (h | ⟨_, h⟩) <;> cases h), fun _ => rfl, (by rintro _ (h | h) <;> cases h), by rintro _ _ _ ⟨⟩,
        by rintro _ _ ⟨⟩, fun _ => ⟨rfl, rfl, rfl⟩, fun _ => rfl, by rintro _ ⟨⟩, by rintro _ _ ⟨⟩, fun h => absurd rfl h⟩
    refine ⟨?_, ?_, ?_, hinv.bound, hinv.sound, hinv.restocked⟩
    · intro x hx y hy hxl hyl
      rcases (hrows x).mp hx with rfl | hx
      · cases hxl
      · rcases (hrows y).mp hy with rfl | hy
        · cases hyl
        · exact hinv.orderLock x hx y hy hxl hyl
    · intro x hx y hy rid hxl hyl
      rcases (hrows x).mp hx with rfl | hx
      · cases hxl
      · rcases (hrows y).mp hy with rfl | hy
        · cases hyl
        · exact hinv.returnLock x hx y hy rid hxl hyl
    · intro x hx
      have hsame {x : ReturnTx} (h : x.Fits s) : x.Fits { s with txs := txs, next := s.next + 1 } :=
        h.mono rfl (fun _ _ _ h => h) (fun _ _ => le_refl _) fun _ => le_refl _
      rcases (hrows x).mp hx with rfl | hx
      · exact hsame hnew
      · exact hsame (hinv.fits x hx)
  | statement id now answer =>
    obtain ⟨tx, htx, hs⟩ := Option.bind_eq_some_iff.mp h
    obtain ⟨tx', hadvance, hs⟩ := Option.bind_eq_some_iff.mp hs
    cases hs
    obtain rfl : tx.id = id := Table.key_of_get? htx
    obtain ⟨hstage, hadv⟩ := returns_advance_cases hinv (hinv.fits tx (Table.mem_of_get? htx)) hadvance
    exact hinv.statement htx hadv hstage
  | commit id =>
    obtain ⟨tx, htx, hs⟩ := Option.bind_eq_some_iff.mp h
    obtain rfl : tx.id = id := Table.key_of_get? htx
    by_cases hdone : tx.stage = .done
    · rw [if_pos hdone] at hs
      obtain ⟨returns, hstored, hs⟩ := Option.bind_eq_some_iff.mp hs
      cases hs
      exact hinv.commit (Table.mem_of_get? htx) hstored
    · rw [if_neg hdone] at hs; cases hs
  | rollback id =>
    cases h
    have hstay : ∀ x ∈ (s.txs.erase id).rows, x ∈ s.txs.rows := fun x hx => (Table.mem_erase.mp hx).1
    exact ⟨fun x hx y hy => hinv.orderLock x (hstay x hx) y (hstay y hy),
      fun x hx y hy => hinv.returnLock x (hstay x hx) y (hstay y hy),
      fun x hx => (hinv.fits x (hstay x hx)).mono rfl (fun _ _ _ h => h) (fun _ _ => le_refl _) fun _ => le_refl _,
      hinv.bound, hinv.sound, hinv.restocked⟩
  | orderStatus status =>
    rw [returnsStep] at h
    split at h
    · cases h; exact hinv.congr rfl rfl rfl fun _ => rfl
    · cases h
  | releaseStock =>
    rw [returnsStep] at h
    split at h
    · cases h
      refine hinv.congr rfl rfl rfl fun itemId => ?_
      show throughReturns (s.newEvents s.releaseEvents ++ s.restocks) itemId = _
      rw [throughReturns_append, newEvents_release, zero_add]
    · cases h
  | dispatched at_ => cases h; exact hinv.congr rfl rfl rfl fun _ => rfl
  | delivered at_ => cases h; exact hinv.congr rfl rfl rfl fun _ => rfl

theorem ReturnsInv.initial (h : s.Initial) : ReturnsInv s := by
  have htotal (g : ReturnRequest → ℤ) : s.returns.total g = 0 := by rw [h.returns]; rfl
  refine ⟨?_, ?_, ?_, fun i _ => ?_, ?_, fun itemId => ?_⟩
  · rw [h.txs]; rintro x ⟨⟩
  · rw [h.txs]; rintro x ⟨⟩
  · rw [h.txs]; rintro x ⟨⟩
  · rw [OrderReturns.used, htotal]
    exact i.quantityPositive.le
  · rw [h.returns]; rintro r ⟨⟩
  · rw [htotal, h.restocks]; rfl

theorem returns_run (h₀ : s₀.Initial) (run : ReturnsRun s₀ tr s) : ReturnsInv s :=
  run.invariant (.initial h₀) fun hs hinv => hinv.step hs

/-- The step starts the order's refund from a return, or commits it. -/
def StartsRefund (t : Taken OrderReturns ReturnsLabel) : Prop :=
  ∃ id, (∃ now answer, t.label = .statement id now answer ∧ ∃ tx ∈ t.post.txs.get? id, tx.refund ≠ none)
    ∨ (t.label = .commit id ∧ ∃ tx ∈ t.pre.txs.get? id, tx.refund ≠ none)

theorem covered_of_starts (hpre : ReturnsInv s) (hpost : ReturnsInv s') (h : returnsStep s l = some s')
    (hstarts : StartsRefund ⟨s, l, s'⟩) : s.Covered := by
  obtain ⟨id, ⟨now, answer, hl, tx, htx, hr⟩ | ⟨_, tx, htx, hr⟩⟩ := hstarts
  · obtain rfl : l = .statement id now answer := hl
    obtain ⟨old, _, hs⟩ := Option.bind_eq_some_iff.mp h
    obtain ⟨new, _, hs⟩ := Option.bind_eq_some_iff.mp hs
    cases hs
    exact (hpost.fits tx (Table.mem_of_get? htx)).covers hr
  · exact (hpre.fits tx (Table.mem_of_get? htx)).covers hr

/-- The units of a line that returns put back are units that came back. -/
theorem throughReturns_le (hinv : ReturnsInv s) (itemId : Id) : throughReturns s.restocks itemId ≤ s.back itemId := by
  rw [hinv.restocked itemId, OrderReturns.back]
  refine Table.total_mono fun r hr => ?_
  have hsound := hinv.sound r hr
  rw [ReturnRequest.backOf]
  split
  · exact sumOf_mono (fun l hl => (hsound.restocked l hl).2) itemId
  · rename_i hnot
    rw [sumOf_congr (g := fun _ => 0) (fun l hl => (hsound.unopened hnot l hl).2) itemId, ReturnRequest.sumOf]
    simp

theorem returns_bounded (h₀ : s₀.Initial) (run : ReturnsRun s₀ tr s) :
    (∀ i ∈ s.items.rows, s.used i.id ≤ i.quantity)
    ∧ (∀ r ∈ s.returns.rows, ∀ l ∈ r.items, l.receivedQuantity.getD 0 ≤ l.quantity
        ∧ l.restockedQuantity ≤ l.receivedQuantity.getD 0)
    ∧ (∀ itemId, throughReturns s.restocks itemId ≤ s.back itemId)
    ∧ ∀ t ∈ tr, StartsRefund t → t.pre.Covered := by
  have hinv := returns_run h₀ run
  refine ⟨hinv.bound, fun r hr l hl => ?_, throughReturns_le hinv, fun t ht hstarts => ?_⟩
  · exact ⟨((hinv.sound r hr).received l hl).2, ((hinv.sound r hr).restocked l hl).2⟩
  · obtain ⟨⟨before, hbefore⟩, hstep⟩ := run.taken ht
    have hpre := returns_run h₀ hbefore
    exact covered_of_starts hpre (hpre.step hstep) hstep hstarts

end

/-- A delivered order of two pieces. -/
def deliveredPair : OrderReturns where
  orderId := 7
  userId := some 1
  status := .fulfilled
  createdAt := 0
  delivered := some 0
  shipped := none
  returnWindowDays := 14
  items := ⟨[⟨1, 2, by decide⟩], by decide⟩
  returns := .empty
  restocks := []
  txs := .empty
  next := 0

theorem deliveredPair_initial : deliveredPair.Initial := ⟨rfl, rfl, rfl⟩

/-- Both pieces are returned and put back in stock, and the order is refunded. -/
def returnedWhole : List ReturnsLabel :=
  [.begin (.create 10 1 [(1, 2)]), .statement 0 0 none, .statement 0 0 none, .commit 0,
   .begin (.approve 10), .statement 1 0 none, .statement 1 0 none, .commit 1,
   .begin (.receive 10 [⟨1, 2, true⟩]), .statement 2 0 none, .statement 2 0 none, .statement 2 0 none, .commit 2,
   .begin (.refund 10), .statement 3 0 none, .statement 3 0 none, .statement 3 0 (some 20), .commit 3]

theorem returned_whole : ∃ tr s, ReturnsRun deliveredPair tr s
    ∧ (s.used 1 = 2 ∧ throughReturns s.restocks 1 = 2 ∧ ∃ t ∈ tr, t.label = .commit 3
        ∧ ∃ tx ∈ t.pre.txs.get? 3, tx.refund = some 20)
    ∧ (∀ i ∈ s.items.rows, s.used i.id ≤ i.quantity)
    ∧ (∀ r ∈ s.returns.rows, ∀ l ∈ r.items, l.receivedQuantity.getD 0 ≤ l.quantity
        ∧ l.restockedQuantity ≤ l.receivedQuantity.getD 0)
    ∧ (∀ itemId, throughReturns s.restocks itemId ≤ s.back itemId)
    ∧ ∀ t ∈ tr, StartsRefund t → t.pre.Covered := by
  obtain ⟨tr, s, run, hend⟩ := exists_exec returnsStep deliveredPair
    (P := fun tr s => s.used 1 = 2 ∧ throughReturns s.restocks 1 = 2 ∧ ∃ t ∈ tr, t.label = .commit 3
      ∧ ∃ tx ∈ t.pre.txs.get? 3, tx.refund = some 20) returnedWhole (by decide)
  exact ⟨tr, s, run, hend, returns_bounded deliveredPair_initial run⟩

end NovaCart
