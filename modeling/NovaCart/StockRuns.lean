import NovaCart.Conservation

/-! What an administrator's operation changes, and the stock equation over whole runs. -/

namespace NovaCart

open Schemes

/-! ### Administration -/

/-- The change of a product's stock that an operation is asked for: a product's opening stock, an
    edit, an adjustment, and the stock of variants created outside a conversion. -/
def Op.adminChange (seen db : Db) (p : Id) : Op → ℤ
  | .createProduct row => if row.id = p then row.stock else 0
  | .updateProduct id u =>
    match u.stock with
    | some x => if id = p ∧ x ≠ seen.stock.own id then x - db.stock.own p else 0
    | none => 0
  | .adjustStock id none spec => if id = p then spec.after (db.stock.own p) - db.stock.own p else 0
  | .adjustStock id (some v) spec =>
    if id = p then spec.after (db.stock.ownVariant v) - db.stock.ownVariant v else 0
  | .createVariants id specs _ => if id = p then (specs.map (·.stock)).sum else 0
  | _ => 0

theorem Stock.own_eq {s : Stock} {id : Id} {q : Product} (h : s.products.get? id = some q) :
    s.own id = q.stock := by simp [own, h]

theorem Stock.updateProduct_own {s s' : Stock} {id : Id} {f : Product → Result Product}
    {ctx : StockContext} (hf : ∀ q q', f q = .ok q' → q'.id = q.id ∧ q'.stock = q.stock)
    (h : s.updateProduct id f ctx = .ok s') : s'.own = s.own := by
  obtain ⟨q, q', ms, hq, hq', rfl⟩ := updateProduct_ok h
  obtain ⟨hid, hstock⟩ := hf q q' hq'
  have hkey : Keyed.key q' = id := hid.trans (Table.key_of_get? hq)
  funext p
  simp only [own, Table.get?_replace, hkey]
  by_cases hp : p = id
  · subst hp; simp [hq, hstock]
  · simp [hp]

/-- The parts of `update_product` that leave the stock alone. -/
theorem productDetails_held {s s' : Stock} {ws : List StockWrite}
    (hws : ∀ w ∈ ws, (∃ id x, w = .productStatus id x) ∨ ∃ id x, w = .productPrice id x)
    (h : s.writes ws = .ok s') : s'.own = s.own ∧ ∀ p, s'.held p = s.held p := by
  induction ws generalizing s with
  | nil => cases h; exact ⟨rfl, fun _ => rfl⟩
  | cons w ws ih =>
    obtain ⟨s₁, h₁, h⟩ := bind_ok h
    obtain ⟨hown, hheld⟩ := ih (fun w' hw' => hws w' (List.mem_cons_of_mem w hw')) h
    have h₁' : s₁.own = s.own ∧ ∀ p, s₁.held p = s.held p := by
      rcases hws w List.mem_cons_self with ⟨id, x, rfl⟩ | ⟨id, x, rfl⟩
      · refine ⟨Stock.updateProduct_own (fun q q' hq => ?_) h₁, fun p => ?_⟩
        · cases hq; exact ⟨rfl, rfl⟩
        · simp [Stock.write_held h₁ p, Stock.change]
      · refine ⟨Stock.updateProduct_own (fun q q' hq => ?_) h₁, fun p => ?_⟩
        · cases hq; exact ⟨rfl, rfl⟩
        · simp [Stock.write_held h₁ p, Stock.change]
    exact ⟨hown.trans h₁'.1, fun p => (hheld p).trans (h₁'.2 p)⟩

theorem updateProduct_held {seen db db' : Db} {id : Id} {u : ProductUpdate}
    (h : updateProduct seen db id u = .ok db') (p : Id) :
    db'.stock.held p = db.stock.held p + (Op.updateProduct id u).adminChange seen db p := by
  obtain ⟨q, hq, h⟩ := need_bind_ok h
  obtain ⟨_, h⟩ := require_bind_ok h
  obtain ⟨_, h⟩ := require_bind_ok h
  obtain ⟨s, hs, rfl⟩ := stockWrites_ok h
  obtain ⟨s₁, hs₁, hs₂⟩ := Stock.writes_append_ok hs
  obtain ⟨hown, hheld⟩ := productDetails_held (fun w hw => by
    rcases List.mem_append.mp hw with hw | hw
    · obtain ⟨x, _, rfl⟩ := List.mem_map.mp hw; exact .inl ⟨id, x, rfl⟩
    · obtain ⟨x, _, rfl⟩ := List.mem_map.mp hw; exact .inr ⟨id, x, rfl⟩) hs₁
  rw [← hheld p]
  simp only [Op.adminChange, Stock.own_eq hq, ← hown]
  cases hu : u.stock with
  | none =>
    rw [hu] at hs₂
    cases hs₂
    simp
  | some x =>
    rw [hu] at hs₂
    by_cases hx : x = q.stock
    · simp only [hx, ne_eq, Option.filter_some, not_true_eq_false, decide_false, Bool.false_eq_true,
        ↓reduceIte, Option.toList_none, List.map_nil] at hs₂
      cases hs₂
      simp [hx]
    · simp only [hx, ne_eq, Option.filter_some, not_false_eq_true, decide_true, ↓reduceIte,
        Option.toList_some, List.map_cons, List.map_nil] at hs₂
      obtain ⟨s₂, h₂, hs₂⟩ := bind_ok hs₂
      cases hs₂
      simp [Stock.write_held h₂ p, Stock.change, hx]

theorem adjustStock_held {db db' : Db} {id : Id} {v : Option Id} {spec : StockAdjust}
    (seen : Db) (h : adjustStock db id v spec = .ok db') (p : Id) :
    db'.stock.held p = db.stock.held p + (Op.adjustStock id v spec).adminChange seen db p := by
  obtain ⟨q, hq, h⟩ := need_bind_ok h
  have hid : q.id = id := Table.key_of_get? hq
  have hown := Stock.own_eq hq
  cases v with
  | none =>
    obtain ⟨_, h⟩ := require_bind_ok h
    obtain ⟨_, h⟩ := require_bind_ok h
    by_cases hp : id = p
    · subst hp
      split at h
      · rename_i hsame
        cases h
        simp [Op.adminChange, hown, hsame]
      · obtain ⟨s, hs, h⟩ := bind_ok h
        cases h
        simp [Stock.write_held hs, Stock.change, Op.adminChange, hid, hown]
    · split at h
      · cases h
        simp [Op.adminChange, hp]
      · obtain ⟨s, hs, h⟩ := bind_ok h
        cases h
        simp [Stock.write_held hs, Stock.change, Op.adminChange, hid, hp]
  | some v =>
    obtain ⟨row, hrow, h⟩ := need_bind_ok h
    obtain ⟨hprod, h⟩ := require_bind_ok h
    obtain ⟨_, h⟩ := require_bind_ok h
    have hvid : row.id = v := Table.key_of_get? hrow
    have howner : db.stock.owner v = some id := by simp [Stock.owner, hrow, hprod]
    have hstock : db.stock.ownVariant v = row.stock := by simp [Stock.ownVariant, hrow]
    split at h
    · rename_i hsame
      cases h
      simp [Op.adminChange, hstock, hsame]
    · obtain ⟨s, hs, h⟩ := bind_ok h
      cases h
      simp [Stock.write_held hs, Stock.change, Op.adminChange, hvid, howner, hstock]

theorem variantRows_stock {id : Id} {count : Nat} (p : Id) : ∀ {specs : List VariantSpec}
    {rows : List ProductVariant}, variantRows id count specs = .ok rows →
      (rows.map fun v => if v.productId = p then v.stock else 0).sum
        = if id = p then (specs.map (·.stock)).sum else 0
  | [], _, h => by cases h; simp
  | spec :: specs, rows, h => by
      unfold variantRows at h
      split at h
      · obtain ⟨rows', h', h⟩ := bind_ok h
        cases h
        simp only [List.map_cons, List.sum_cons, variantRows_stock p h']
        by_cases hp : id = p
        · simp [hp]
        · simp [hp]
      · cases h

theorem insertVariants_held {db db' : Db} {id : Id} {count : Nat} {specs : List VariantSpec}
    {valid : Bool} {kind : MovementKind} (h : insertVariants db id count specs valid kind = .ok db')
    (p : Id) :
    db'.stock.held p = db.stock.held p + if id = p then (specs.map (·.stock)).sum else 0 := by
  obtain ⟨_, h⟩ := require_bind_ok h
  obtain ⟨rows, hrows, h⟩ := bind_ok h
  obtain ⟨s, hs, rfl⟩ := stockWrites_ok h
  rw [← variantRows_stock p hrows]
  have hheld := Stock.writes_held (p := p) (g := fun w => match w with
    | .insertVariant v _ => if v.productId = p then v.stock else 0
    | _ => 0) (fun w hw s => by obtain ⟨v, _, rfl⟩ := List.mem_map.mp hw; rfl) hs
  rw [List.map_map] at hheld
  exact hheld

/-- A conversion moves the product's stock to its new variants. -/
theorem convertToVariants_held {db db' : Db} {id : Id} {expected : ℤ} {count : Nat}
    {specs : List VariantSpec} {valid : Bool}
    (h : convertToVariants db id expected count specs valid = .ok db') (p : Id) :
    db'.stock.held p = db.stock.held p := by
  obtain ⟨q, hq, h⟩ := need_bind_ok h
  obtain ⟨_, h⟩ := require_bind_ok h
  obtain ⟨_, h⟩ := require_bind_ok h
  obtain ⟨_, h⟩ := require_bind_ok h
  obtain ⟨hallocated, h⟩ := require_bind_ok h
  obtain ⟨_, h⟩ := require_bind_ok h
  obtain ⟨db₁, h₁, h⟩ := bind_ok h
  obtain ⟨db₂, h₂, h⟩ := bind_ok h
  have hqid : q.id = id := Table.key_of_get? hq
  have hclear : db₁.stock.held p = db.stock.held p - if q.id = p then q.stock else 0 := by
    unfold clearStock at h₁
    split at h₁
    · rename_i hzero
      cases h₁
      simp [hzero]
    · obtain ⟨s, hs, h₁⟩ := bind_ok h₁
      cases h₁
      by_cases hp : q.id = p
      · have hown : db.stock.own p = q.stock := by rw [← hp, hqid]; exact Stock.own_eq hq
        simp [Stock.write_held hs, Stock.change, hp, hown]; ring
      · simp [Stock.write_held hs, Stock.change, hp]
  have hcount : db₂.stock.held p = db₁.stock.held p := by
    obtain ⟨s, hs, h₂⟩ := bind_ok h₂
    cases h₂
    simp [Stock.write_held hs, Stock.change]
  rw [insertVariants_held h p, hcount, hclear, hallocated]
  ring

/-- An operation moves what is held by exactly the change an administrator asked for. -/
theorem run_held {cfg : Settings} {seen db db' : Db} {now : Time} {op : Op}
    (hl : db.stock.Linked) (h : op.run cfg seen db now = .ok db') (p : Id) :
    db'.stock.held p = db.stock.held p + op.adminChange seen db p := by
  have hzero : ∀ {K : List WriteKind}, Within K db db' → WriteKind.stock ∉ K →
      db'.stock.held p = db.stock.held p + 0 := fun hw hK => by
    rw [add_zero]; exact (hw.conserves hK hl).2 p
  cases op with
  | checkout req => simpa [Op.adminChange] using (checkout_conserves h hl).2 p
  | receiveReturn id entries => simpa [Op.adminChange] using (receiveReturn_conserves h hl).2 p
  | createProduct row =>
    obtain ⟨s, hs, h⟩ := bind_ok h
    cases h
    exact Stock.write_held hs p
  | updateProduct id u => exact updateProduct_held h p
  | adjustStock id v spec => exact adjustStock_held seen h p
  | createVariants id specs valid =>
    obtain ⟨q, hq, h⟩ := need_bind_ok h
    have hqid : q.id = id := Table.key_of_get? hq
    rw [insertVariants_held h p, hqid]
    rfl
  | updateVariant v active price =>
    obtain ⟨s, hs, h⟩ := bind_ok h
    cases h
    exact Stock.write_held hs p
  | setOptions id count inCart =>
    obtain ⟨q, hq, h⟩ := need_bind_ok h
    obtain ⟨_, h⟩ := require_bind_ok h
    obtain ⟨_, h⟩ := require_bind_ok h
    obtain ⟨_, h⟩ := require_bind_ok h
    obtain ⟨s, hs, h⟩ := bind_ok h
    cases h
    exact Stock.write_held hs p
  | convertToVariants id expected count specs valid =>
    simpa [Op.adminChange] using convertToVariants_held h p
  | adminChangeStatus _ _ _ => exact hzero (run_within h) (by simp)
  | updateStatus _ _ _ => exact hzero (run_within h) (by simp)
  | createShipment _ _ _ _ => exact hzero (run_within h) (by simp)
  | requestRefund _ _ _ _ _ => exact hzero (run_within h) (by simp)
  | resolveReconciliation _ _ _ _ => exact hzero (run_within h) (by simp)
  | refundFromReconciliation _ _ _ => exact hzero (run_within h) (by simp)
  | createReturn _ _ _ _ => exact hzero (run_within h) (by simp)
  | cancelReturn _ _ => exact hzero (run_within h) (by simp)
  | approveReturn _ => exact hzero (run_within h) (by simp)
  | rejectReturn _ => exact hzero (run_within h) (by simp)
  | closeReturn _ => exact hzero (run_within h) (by simp)
  | refundReturn _ _ _ => exact hzero (run_within h) (by simp)
  | createConfig _ => exact hzero (run_within h) (by simp)
  | updateConfig _ => exact hzero (run_within h) (by simp)

/-! ### Runs -/

theorem Within.linked {K : List WriteKind} {db db' : Db} (h : Within K db db')
    (hl : db.stock.Linked) : db'.stock.Linked := by
  refine Writes.invariant (I := fun db => db.stock.Linked) (fun {a w b} _ hw ha => ?_) h hl
  rcases write_stock hw with ⟨sw, _, hsw⟩ | heq
  · exact Stock.write_linked hsw ha
  · rw [heq]; exact ha

/-- The change an administrator committed in a step. -/
def adminChange (cfg : Settings) (p : Id) (t : Taken Sys Label) : ℤ :=
  match t.label with
  | .commit pid now =>
    match t.pre.proc? pid with
    | some (.tx op seen) =>
      match op.run cfg seen t.pre.db now with
      | .ok _ => op.adminChange seen t.pre.db p
      | .error _ => 0
    | _ => 0
  | _ => 0

variable {cfg : Settings} {s s' : Sys} {l : Label}

/-- No transaction but an operation's commit moves stock in or out. -/
theorem Transition.conserves (h : Transition cfg s l s') (hl : ∀ pid now, l ≠ .commit pid now) :
    Conserves s.db s'.db := by
  cases h with
  | op _ _ => exact absurd rfl (hl _ _)
  | process _ hrun =>
    exact ((markWebhookVerified_within _ _).conserves (by simp)).trans
      (processWebhookEvent_conserves hrun)
  | duplicate _ _ => exact (markWebhookVerified_within _ _).conserves (by simp)
  | failure _ _ hrun => exact (recordFailedEvent_within hrun).conserves (by simp)
  | recover _ => exact recoverRow_conserves _
  | cancelReport _ => exact (cancelReport_within _ _).conserves (by simp)
  | cancelFinish _ _ _ hrun => exact cancelFinish_conserves hrun
  | payDone _ hrun => exact (payTx_within hrun).conserves (by simp)
  | payNext _ hrun => exact (payTx_within hrun).conserves (by simp)
  | refundBegin hrun hspawn =>
    have := (beginRefundAttempt_within hrun).conserves (by simp)
    rwa [← spawn_db hspawn] at this
  | refundBlocked hrun => exact (beginRefundAttempt_within hrun).conserves (by simp)
  | refundAnswer _ hrun => exact finishRefund_conserves hrun
  | refundError _ hrun => exact (recordRefundAttemptFailed_within hrun).conserves (by simp)
  | started _ hspawn => exact .of_stock (by rw [spawn_db hspawn])
  | continued _ _ => exact .of_stock rfl
  | ended _ => exact .of_stock rfl

/-- One step: the foreign keys stay sound, and what is held moves by the administrator's change. -/
theorem step_held (h : step cfg s l = some s') (hl : s.db.stock.Linked) :
    s'.db.stock.Linked ∧
      ∀ p, s'.db.stock.held p = s.db.stock.held p + adminChange cfg p ⟨s, l, s'⟩ := by
  have hother : (∀ pid now, l ≠ .commit pid now) → s'.db.stock.Linked ∧
      ∀ p, s'.db.stock.held p = s.db.stock.held p + 0 := fun hne => by
    obtain ⟨hl', hheld⟩ := (step_transition h).conserves hne hl
    exact ⟨hl', fun p => by rw [hheld p, add_zero]⟩
  cases l with
  | commit pid now =>
    simp only [step] at h
    split at h
    · rename_i op seen hproc
      simp only [adminChange, hproc]
      cases hrun : op.run cfg seen s.db now with
      | ok db =>
        rw [hrun] at h
        cases h
        exact ⟨(run_within hrun).linked hl, fun p => run_held hl hrun p⟩
      | error err =>
        rw [hrun] at h
        cases h
        exact ⟨hl, fun p => (add_zero _).symm⟩
    · cases h
  | _ => exact hother (by simp)

/-- Over a run, what is held moves by the sum of the administrators' changes. -/
theorem held_of_run {s₀ : Sys} {tr : List (Taken Sys Label)} (h₀ : s₀.db.stock.Linked)
    (h : Run cfg s₀ tr s) :
    s.db.stock.Linked ∧
      ∀ p, s.db.stock.held p = s₀.db.stock.held p + (tr.map (adminChange cfg p)).sum := by
  refine Exec.history (I := fun tr s => s.db.stock.Linked ∧
    ∀ p, s.db.stock.held p = s₀.db.stock.held p + (tr.map (adminChange cfg p)).sum)
    ⟨h₀, fun p => by simp⟩ (fun {tr s l s'} _ hs ih => ?_) h
  obtain ⟨hl, hheld⟩ := step_held hs ih.1
  refine ⟨hl, fun p => ?_⟩
  rw [hheld p, ih.2 p, List.map_cons, List.sum_cons]
  ring

theorem Initial.linked {s₀ : Sys} (h₀ : Initial s₀) : s₀.db.stock.Linked := by
  intro i hi
  rw [h₀.items] at hi
  cases hi

/-- In every run, stock and restocked quantities stay within their bounds, and for every product the
    pieces in stock and in order lines are those it started with plus what administrators changed. -/
theorem stock_conserved {s₀ : Sys} {tr : List (Taken Sys Label)} (h₀ : Initial s₀)
    (h : Run cfg s₀ tr s) :
    (∀ q ∈ s.db.stock.products.rows, 0 ≤ q.stock) ∧
      (∀ v ∈ s.db.stock.variants.rows, 0 ≤ v.stock) ∧
      (∀ i ∈ s.db.stock.items.rows, 0 ≤ i.restockedQuantity ∧ i.restockedQuantity ≤ i.quantity) ∧
      ∀ p, s.db.stock.shelf p + s.db.stock.sold p
        = s₀.db.stock.shelf p + (tr.map (adminChange cfg p)).sum := by
  refine ⟨fun q _ => q.stockNonNegative, fun v _ => v.stockNonNegative,
    fun i _ => ⟨i.restockedNonNegative, i.restockedWithinQuantity⟩, fun p => ?_⟩
  have hsold : s₀.db.stock.sold p = 0 := by simp [Stock.sold, h₀.items]
  have hheld := (held_of_run h₀.linked h).2 p
  simp only [Stock.held, hsold, add_zero] at hheld
  exact hheld

/-- An order of two pieces, an adjustment by four and a cancellation: nine pieces are back. -/
theorem stock_conserved_cancelled_order : ∃ tr s, Run smallSettings smallShop tr s ∧
    s.db.stock.shelf 1 = 9 ∧ s.db.stock.shelf 1 + s.db.stock.sold 1
      = smallShop.db.stock.shelf 1 + (tr.map (adminChange smallSettings 1)).sum := by
  obtain ⟨tr, s, hrun, hshelf⟩ := exists_exec (step smallSettings) smallShop
    (P := fun _ s => s.db.stock.shelf 1 = 9)
    [.begin_ 1 (buyTwo 1), .commit 1 0, .begin_ 2 (.adjustStock 1 none (.delta 4)), .commit 2 1,
      .cancelBegin 3 1 none "changed my mind", .cancelFinish 3 2] (by decide)
  exact ⟨tr, s, hrun, hshelf, (stock_conserved smallShop_initial hrun).2.2.2 1⟩

end NovaCart
