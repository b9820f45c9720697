import NovaCart.SalesReport

/-! What the orders paid through the demo gateway do to the sales reports.

    Everything about sales starts from the orders first paid in the period, demo orders left out. Refunds are another
    query, on their own table. -/

namespace NovaCart

open Schemes Table
open Keyed (key)

/-! ### Grouping -/

theorem lookup_map_self {β : Type} (f : ℤ → β) (d : ℤ) (l : List ℤ) :
    (l.map fun d => (d, f d)).lookup d = if d ∈ l then some (f d) else none := by
  induction l with
  | nil => rfl
  | cons d' l ih =>
    rw [List.map_cons, List.lookup_cons]
    by_cases h : d = d'
    · subst h
      simp
    · have hne : (d == d') = false := by simpa using h
      rw [hne]
      simp only [List.mem_cons, h, false_or]
      exact ih

/-- A day without rows is not in the result. -/
theorem lookup_groupByDay {α β : Type} (day : α → ℤ) (figures : List α → β) (rows : List α) (d : ℤ) :
    (groupByDay day figures rows).lookup d =
      if rows.filter (fun r => day r = d) = [] then none else some (figures (rows.filter fun r => day r = d)) := by
  rw [groupByDay, lookup_map_self]
  by_cases h : ∃ r ∈ rows, day r = d
  · have hne : rows.filter (fun r => day r = d) ≠ [] := by
      obtain ⟨r, hr, hd⟩ := h
      exact List.ne_nil_of_mem (List.mem_filter.mpr ⟨hr, decide_eq_true hd⟩)
    rw [if_neg hne, if_pos (List.mem_dedup.mpr (List.mem_map.mpr h))]
  · have hnil : rows.filter (fun r => day r = d) = [] :=
      List.filter_eq_nil_iff.mpr fun r hr hd => h ⟨r, hr, of_decide_eq_true hd⟩
    rw [if_pos hnil, if_neg fun hmem => h (List.mem_map.mp (List.mem_dedup.mp hmem))]

/-! ### Demo orders -/

namespace SalesBook

variable {a b : SalesBook}

def demoOrder (b : SalesBook) (orderId : Id) : Prop := ∃ od ∈ b.orders.get? orderId, od.paidInDemoMode = true

instance (b : SalesBook) (orderId : Id) : Decidable (b.demoOrder orderId) :=
  inferInstanceAs (Decidable (∃ od ∈ b.orders.get? orderId, _))

/-- An order that was not paid through the demo gateway. -/
def realOrder (b : SalesBook) (orderId : Id) : Prop := ∃ od ∈ b.orders.get? orderId, od.paidInDemoMode = false

instance (b : SalesBook) (orderId : Id) : Decidable (b.realOrder orderId) :=
  inferInstanceAs (Decidable (∃ od ∈ b.orders.get? orderId, _))

def realOrders (b : SalesBook) : List ReportOrder := b.orders.rows.filter fun od => od.paidInDemoMode = false

/-- Everything is the same but the orders paid through the demo gateway, with all that belongs to them. -/
structure DifferInDemo (a b : SalesBook) : Prop where
  currency : a.currency = b.currency
  orders : a.realOrders = b.realOrders
  history : (a.history.filter fun h => ¬a.demoOrder h.orderId) = b.history.filter fun h => ¬b.demoOrder h.orderId
  items : (a.items.filter fun oi => ¬a.demoOrder oi.orderId) = b.items.filter fun oi => ¬b.demoOrder oi.orderId
  refunds : (a.refunds.filter fun r => ¬a.demoOrder r.orderId) = b.refunds.filter fun r => ¬b.demoOrder r.orderId
  users : a.users = b.users

theorem realOrder.not_demo {orderId : Id} (h : b.realOrder orderId) : ¬b.demoOrder orderId := by
  rintro ⟨od', hod', hdemo⟩
  obtain ⟨od, hod, hreal⟩ := h
  cases hod'.symm.trans hod
  rw [hreal] at hdemo
  cases hdemo

theorem get?_of_realOrders (h : a.realOrders = b.realOrders) {orderId : Id} {od : ReportOrder}
    (hod : a.orders.get? orderId = some od) (hreal : od.paidInDemoMode = false) : b.orders.get? orderId = some od := by
  have hmem : od ∈ a.realOrders := List.mem_filter.mpr ⟨mem_of_get? hod, decide_eq_true hreal⟩
  rw [h] at hmem
  have hget := get?_of_mem (List.mem_filter.mp hmem).1
  rwa [show key od = orderId from key_of_get? hod] at hget

theorem DifferInDemo.real_iff (h : a.DifferInDemo b) (orderId : Id) : a.realOrder orderId ↔ b.realOrder orderId := by
  constructor
  · rintro ⟨od, hod, hreal⟩
    exact ⟨od, get?_of_realOrders h.orders hod hreal, hreal⟩
  · rintro ⟨od, hod, hreal⟩
    exact ⟨od, get?_of_realOrders h.orders.symm hod hreal, hreal⟩

/-- The rows of the orders that count are the same. -/
theorem filter_real {α : Type} {orderId : α → Id} {rows rows' : List α}
    (hrows : (rows.filter fun r => ¬a.demoOrder (orderId r)) = rows'.filter fun r => ¬b.demoOrder (orderId r))
    (p p' : α → Bool) (hp : ∀ r, p r = true → a.realOrder (orderId r)) (hp' : ∀ r, p' r = true → b.realOrder (orderId r))
    (hsame : ∀ r, p r = p' r) : rows.filter p = rows'.filter p' := by
  have hleft : rows.filter p = (rows.filter fun r => ¬a.demoOrder (orderId r)).filter p := by
    rw [List.filter_filter]
    refine List.filter_congr fun r _ => ?_
    cases hr : p r with
    | false => rfl
    | true => simpa using (hp r hr).not_demo
  have hright : rows'.filter p' = (rows'.filter fun r => ¬b.demoOrder (orderId r)).filter p' := by
    rw [List.filter_filter]
    refine List.filter_congr fun r _ => ?_
    cases hr : p' r with
    | false => rfl
    | true => simpa using (hp' r hr).not_demo
  rw [hleft, hright, hrows]
  exact List.filter_congr fun r _ => hsame r

theorem paidRows_real {s e : ℤ} {h : ReportHistory} (hmem : h ∈ b.paidRows false s e) : b.realOrder h.orderId :=
  (of_decide_eq_true (List.mem_filter.mp hmem).2).2.1

theorem DifferInDemo.firstPaid (h : a.DifferInDemo b) (s e : ℤ) : a.firstPaid s e = b.firstPaid s e := by
  have hrows : a.paidRows false s e = b.paidRows false s e := by
    refine filter_real h.history _ _ (fun r hr => (of_decide_eq_true hr).2.1) (fun r hr => (of_decide_eq_true hr).2.1)
      fun r => ?_
    have := h.real_iff r.orderId
    unfold realOrder at this
    simp only [this]
  unfold SalesBook.firstPaid
  rw [hrows]

theorem firstPaid_real {s e : ℤ} {p : Id × ℤ} (hmem : p ∈ b.firstPaid s e) : b.realOrder p.1 := by
  obtain ⟨orderId, hid, rfl⟩ := List.mem_map.mp hmem
  obtain ⟨r, hr, rfl⟩ := List.mem_map.mp (List.mem_dedup.mp hid)
  exact paidRows_real hr

theorem DifferInDemo.soldOrders (h : a.DifferInDemo b) (s e : ℤ) : a.soldOrders s e = b.soldOrders s e := by
  rw [SalesBook.soldOrders, SalesBook.soldOrders, ← h.firstPaid]
  refine List.filterMap_congr fun p hp => ?_
  obtain ⟨od, hod, hreal⟩ := firstPaid_real hp
  rw [hod, get?_of_realOrders h.orders hod hreal]

theorem soldIn_real {s e : ℤ} {cur : String} {p : ReportOrder × ℤ} (hmem : p ∈ b.soldIn s e cur) : b.realOrder p.1.id := by
  obtain ⟨q, hq, hsold⟩ := List.mem_filterMap.mp (List.mem_filter.mp hmem).1
  obtain ⟨od, hod, rfl⟩ := Option.map_eq_some_iff.mp hsold
  rw [show od.id = q.1 from key_of_get? hod]
  exact firstPaid_real hq

theorem DifferInDemo.soldIn (h : a.DifferInDemo b) (s e : ℤ) (cur : String) : a.soldIn s e cur = b.soldIn s e cur := by
  rw [SalesBook.soldIn, SalesBook.soldIn, h.soldOrders]

theorem DifferInDemo.salesByDay (h : a.DifferInDemo b) (s e : ℤ) (tz : ReportZone) (cur : String) :
    a.salesByDay s e tz cur = b.salesByDay s e tz cur := by
  rw [SalesBook.salesByDay, SalesBook.salesByDay, h.soldIn]

theorem DifferInDemo.unitsByDay (h : a.DifferInDemo b) (s e : ℤ) (tz : ReportZone) (cur : String) :
    a.unitsByDay s e tz cur = b.unitsByDay s e tz cur := by
  have hitems : ∀ p ∈ b.soldIn s e cur, (a.items.filter fun oi => oi.orderId = p.1.id) =
      b.items.filter fun oi => oi.orderId = p.1.id := by
    intro p hp
    have hreal := soldIn_real hp
    refine filter_real h.items _ _ (fun oi hoi => ?_) (fun oi hoi => ?_) fun _ => rfl
    · rw [of_decide_eq_true hoi]
      exact (h.real_iff _).mpr hreal
    · rw [of_decide_eq_true hoi]
      exact hreal
  rw [SalesBook.unitsByDay, SalesBook.unitsByDay, h.soldIn]
  congr 1
  exact List.flatMap_congr fun p hp => by rw [hitems p hp]

theorem DifferInDemo.excludedOrders (h : a.DifferInDemo b) (s e : ℤ) (cur : String) :
    a.excludedOrders s e cur = b.excludedOrders s e cur := by
  rw [SalesBook.excludedOrders, SalesBook.excludedOrders, h.soldOrders]

/-! ### Refunds -/

/-- The refunds of demo orders that are counted on a day. -/
def demoRefundsOn (b : SalesBook) (s e : ℤ) (tz : ReportZone) (cur : String) (day : ℤ) : List ReportRefund :=
  b.refunds.filter fun r => b.demoOrder r.orderId ∧ r.status = .succeeded ∧ r.currency = cur ∧
    s ≤ r.updatedAt ∧ r.updatedAt < e ∧ tz.localDay r.updatedAt = day

/-- What the refund row of a day says. -/
def refundRow (b : SalesBook) (s e : ℤ) (tz : ReportZone) (cur : String) (day : ℤ) : RefundFigures :=
  ((b.refundsByDay s e tz cur).lookup day).getD ⟨0, 0⟩

theorem refundRow_eq (b : SalesBook) (s e : ℤ) (tz : ReportZone) (cur : String) (day : ℤ) :
    b.refundRow s e tz cur day =
      ⟨((b.refundsIn s e cur).filter fun r => tz.localDay r.updatedAt = day).length,
        (((b.refundsIn s e cur).filter fun r => tz.localDay r.updatedAt = day).map (·.amountCents)).sum⟩ := by
  rw [refundRow, refundsByDay, lookup_groupByDay]
  split
  case isTrue hnil =>
    rw [hnil]
    rfl
  case isFalse => rfl

/-- A list parts into the rows that meet a condition and the others. -/
theorem length_and_sum_partition {α : Type} (rows : List α) (g : α → ℤ) (p : α → Bool) :
    rows.length = (rows.filter p).length + (rows.filter fun r => !p r).length ∧
      (rows.map g).sum = ((rows.filter p).map g).sum + ((rows.filter fun r => !p r).map g).sum := by
  induction rows with
  | nil => exact ⟨rfl, rfl⟩
  | cons r rows ih =>
    obtain ⟨hlen, hsum⟩ := ih
    cases hr : p r with
    | true =>
      simp only [List.filter_cons, hr, if_true, Bool.not_true, Bool.false_eq_true, if_false, List.length_cons, List.map_cons,
        List.sum_cons]
      omega
    | false =>
      simp only [List.filter_cons, hr, if_true, Bool.not_false, Bool.false_eq_true, if_false, List.length_cons, List.map_cons,
        List.sum_cons]
      omega

/-- A row of refunds is the same just when the demo orders' refunds of that day are alike in number and amount. -/
theorem DifferInDemo.refundRow_iff (h : a.DifferInDemo b) (s e : ℤ) (tz : ReportZone) (cur : String) (day : ℤ) :
    a.refundRow s e tz cur day = b.refundRow s e tz cur day ↔
      (a.demoRefundsOn s e tz cur day).length = (b.demoRefundsOn s e tz cur day).length ∧
      ((a.demoRefundsOn s e tz cur day).map (·.amountCents)).sum =
        ((b.demoRefundsOn s e tz cur day).map (·.amountCents)).sum := by
  have hparts : ∀ c : SalesBook,
      ((c.refundsIn s e cur).filter fun r => tz.localDay r.updatedAt = day).filter (fun r => c.demoOrder r.orderId) =
        c.demoRefundsOn s e tz cur day := by
    intro c
    rw [refundsIn, demoRefundsOn, List.filter_filter, List.filter_filter]
    refine List.filter_congr fun r _ => ?_
    simp only [Bool.decide_and]
    grind
  have hothers : ((a.refundsIn s e cur).filter fun r => tz.localDay r.updatedAt = day).filter
        (fun r => !decide (a.demoOrder r.orderId)) =
      ((b.refundsIn s e cur).filter fun r => tz.localDay r.updatedAt = day).filter
        (fun r => !decide (b.demoOrder r.orderId)) := by
    have hcomm : ∀ c : SalesBook, ((c.refundsIn s e cur).filter fun r => tz.localDay r.updatedAt = day).filter
          (fun r => !decide (c.demoOrder r.orderId)) =
        (c.refunds.filter fun r => ¬c.demoOrder r.orderId).filter fun r => tz.localDay r.updatedAt = day ∧
          r.status = .succeeded ∧ r.currency = cur ∧ s ≤ r.updatedAt ∧ r.updatedAt < e := by
      intro c
      rw [refundsIn, List.filter_filter, List.filter_filter, List.filter_filter]
      refine List.filter_congr fun r _ => ?_
      simp only [Bool.decide_and, decide_not]
      grind
    rw [hcomm a, hcomm b, h.refunds]
  obtain ⟨hlenA, hsumA⟩ := length_and_sum_partition ((a.refundsIn s e cur).filter fun r => tz.localDay r.updatedAt = day)
    (·.amountCents) fun r => a.demoOrder r.orderId
  obtain ⟨hlenB, hsumB⟩ := length_and_sum_partition ((b.refundsIn s e cur).filter fun r => tz.localDay r.updatedAt = day)
    (·.amountCents) fun r => b.demoOrder r.orderId
  rw [hparts a, hothers] at hlenA hsumA
  rw [hparts b] at hlenB hsumB
  rw [refundRow_eq, refundRow_eq, RefundFigures.mk.injEq]
  omega

/-! ### Reports -/

/-- All of a row but the refunds is about sales. -/
theorem DifferInDemo.days_eq_iff (h : a.DifferInDemo b) (zone : ReportZone) (p : ReportPeriod) :
    a.days zone p = b.days zone p ↔
      ∀ day ∈ p.days, a.refundRow p.s p.e zone p.cur day = b.refundRow p.s p.e zone p.cur day := by
  unfold days
  rw [h.salesByDay, h.unitsByDay, List.map_inj_left]
  refine forall₂_congr fun day _ => ?_
  change DayRow.mk .. = DayRow.mk .. ↔ _
  rw [DayRow.mk.injEq, ← refundRow, ← refundRow]
  constructor
  · rintro ⟨_, _, _, _, _, _, _, _, hcount, hamount, _⟩
    cases hrow : a.refundRow p.s p.e zone p.cur day
    cases hrow' : b.refundRow p.s p.e zone p.cur day
    rw [hrow, hrow'] at hcount hamount
    exact congrArg₂ _ hcount hamount
  · intro heq
    rw [heq]
    exact ⟨rfl, rfl, rfl, rfl, rfl, rfl, rfl, rfl, rfl, rfl, rfl⟩

theorem mem_days {p : ReportPeriod} {day : ℤ} : day ∈ p.days ↔ p.start ≤ day ∧ day ≤ p.end_ := by
  constructor
  · intro h
    obtain ⟨i, hi, rfl⟩ := List.mem_map.mp h
    have := List.mem_range.mp hi
    omega
  · rintro ⟨hstart, hend⟩
    refine List.mem_map.mpr ⟨(day - p.start).toNat, List.mem_range.mpr ?_, ?_⟩
    · omega
    · omega

end SalesBook

/-- What a report says apart from the number of demo orders. -/
def SalesByDay.figures (r : SalesByDay) : SalesByDay := { r with demoOrdersExcluded := 0 }

/-- What a summary says apart from demo orders, the orders by status and the open refunds. -/
def Summary.figures (r : Summary) : Summary := { r with ordersByStatus := [], openRefunds := 0, demoOrdersExcluded := 0 }

/-- Both reports say the same. -/
def SameFigures (a b : SalesBook) (q : ReportRequest) : Prop :=
  (reportSalesByDay a q).map SalesByDay.figures = (reportSalesByDay b q).map SalesByDay.figures ∧
    (reportSummary a q).map Summary.figures = (reportSummary b q).map Summary.figures

/-- The succeeded refunds of demo orders, in the store currency, are alike on every day; and where no currency is
    recorded a demo order does not change that one is assumed. -/
structure DemoRefundsAlike (a b : SalesBook) (q : ReportRequest) : Prop where
  assumed : a.currency = none → a.realOrders = [] → (a.orders.rows = [] ↔ b.orders.rows = [])
  alike : ∀ cur ∈ a.currency, (currencies.find? fun c => c.1 = cur).isSome →
    ∀ day, q.firstDay ≤ day → day ≤ q.lastDay →
      let refunds (c : SalesBook) :=
        c.demoRefundsOn (q.zone.midnight q.firstDay) (q.zone.midnight (q.lastDay + 1)) q.zone cur day
      (refunds a).length = (refunds b).length ∧
        ((refunds a).map (·.amountCents)).sum = ((refunds b).map (·.amountCents)).sum

variable {a b : SalesBook} {q : ReportRequest}

theorem period_eq_of_effectiveCurrency
    (h : a.effectiveCurrency q.defaultStoreCurrency = b.effectiveCurrency q.defaultStoreCurrency) :
    a.period q = b.period q := by
  rw [SalesBook.period, SalesBook.period, h]

theorem period_eq_ok {p : ReportPeriod} (h : a.period q = .ok p) :
    (currencies.find? fun c => c.1 = p.cur).isSome ∧ a.effectiveCurrency q.defaultStoreCurrency = some p.cur ∧
      p.start = q.firstDay ∧ p.end_ = q.lastDay ∧ p.s = q.zone.midnight q.firstDay ∧
      p.e = q.zone.midnight (q.lastDay + 1) := by
  unfold SalesBook.period at h
  split at h
  · cases h
  · split at h
    · cases h
    · split at h
      · cases h
      · rename_i code hcode
        split at h
        · cases h
        · rename_i currency hfind
          cases h
          have hcur : currency.1 = code := by simpa using List.find?_some hfind
          refine ⟨?_, ?_, rfl, rfl, rfl, rfl⟩
          · rw [hcur, hfind]
            rfl
          · rw [hcode, hcur]

/-- A report starts with its period. -/
theorem SameFigures.period (h : SameFigures a b q) : a.period q = b.period q := by
  obtain ⟨h, -⟩ := h
  unfold reportSalesByDay at h
  cases ha : a.period q with
  | error err =>
    cases hb : b.period q with
    | error err' =>
      rw [ha, hb] at h
      cases h
      rfl
    | ok p' =>
      rw [ha, hb] at h
      cases h
  | ok p =>
    cases hb : b.period q with
    | error err' =>
      rw [ha, hb] at h
      cases h
    | ok p' =>
      rw [ha, hb] at h
      have hfigures := Except.ok.inj h
      exact congrArg Except.ok (congrArg SalesByDay.header hfigures)

/-- With one period for both it is the rows of refunds that decide. -/
theorem sameFigures_iff (h : a.DifferInDemo b) :
    SameFigures a b q ↔ a.period q = b.period q ∧ ∀ p, a.period q = .ok p →
      ∀ day ∈ p.days, a.refundRow p.s p.e q.zone p.cur day = b.refundRow p.s p.e q.zone p.cur day := by
  constructor
  · intro hsame
    refine ⟨hsame.period, fun p hp => (h.days_eq_iff q.zone p).mp ?_⟩
    have hp' : b.period q = .ok p := hsame.period.symm.trans hp
    have hreport := hsame.1
    unfold reportSalesByDay at hreport
    rw [hp, hp'] at hreport
    exact congrArg SalesByDay.days (Except.ok.inj hreport)
  · rintro ⟨hperiod, hrows⟩
    unfold SameFigures reportSalesByDay reportSummary
    rw [← hperiod]
    cases hp : a.period q with
    | error err => exact ⟨rfl, rfl⟩
    | ok p =>
      have hdays := (h.days_eq_iff q.zone p).mpr (hrows p hp)
      have hcustomers : a.newCustomers p.s p.e = b.newCustomers p.s p.e := by
        rw [SalesBook.newCustomers, SalesBook.newCustomers, h.users]
      simp only [Except.map, SalesByDay.figures, Summary.figures, hdays, h.excludedOrders, hcustomers, and_self]

/-- Nobody's orders are demo orders where there are none. -/
theorem demoRefundsOn_of_no_orders (h : a.orders.rows = []) (s e : ℤ) (tz : ReportZone) (cur : String) (day : ℤ) :
    a.demoRefundsOn s e tz cur day = [] := by
  refine List.filter_eq_nil_iff.mpr fun r _ hr => ?_
  obtain ⟨⟨od, hod, _⟩, _⟩ := of_decide_eq_true hr
  have hmem := mem_of_get? hod
  rw [h] at hmem
  cases hmem

theorem rows_ne_nil_of_realOrders (h : a.realOrders ≠ []) : a.orders.rows ≠ [] := by
  intro hnil
  rw [SalesBook.realOrders, hnil] at h
  exact h rfl

/-- Whether the reports know a currency, and which. -/
theorem effectiveCurrency_eq_iff (h : a.DifferInDemo b) (default_ : String) :
    a.effectiveCurrency default_ = b.effectiveCurrency default_ ↔
      (a.currency = none → a.realOrders = [] → (a.orders.rows = [] ↔ b.orders.rows = [])) := by
  unfold SalesBook.effectiveCurrency
  rw [← h.currency]
  cases a.currency with
  | some code => exact ⟨fun _ hnone => (nomatch hnone), fun _ => rfl⟩
  | none =>
    dsimp only
    by_cases hreal : a.realOrders = []
    · by_cases ha : a.orders.rows = []
      · by_cases hb : b.orders.rows = []
        · simp [ha, hb]
        · simp [hreal, ha, hb]
      · by_cases hb : b.orders.rows = []
        · simp [hreal, ha, hb]
        · simp [ha, hb]
    · rw [if_neg (rows_ne_nil_of_realOrders hreal), if_neg (rows_ne_nil_of_realOrders (h.orders ▸ hreal))]
      exact ⟨fun _ _ hnil => absurd hnil hreal, fun _ => rfl⟩

theorem currencies_find_eq {code : String} {currency : String × ℕ × Bool}
    (h : (currencies.find? fun c => c.1 = code) = some currency) : currency.1 = code := by
  simpa using List.find?_some h

/-- An accepted range reports on the currency, or refuses for it. -/
theorem effectiveCurrency_of_period (hrange : q.firstDay ≤ q.lastDay) (hlength : q.lastDay - q.firstDay + 1 ≤ maxRangeDays)
    (h : a.period q = b.period q) :
    a.effectiveCurrency q.defaultStoreCurrency = b.effectiveCurrency q.defaultStoreCurrency := by
  unfold SalesBook.period at h
  rw [if_neg (by omega), if_neg (by omega), if_neg (by omega), if_neg (by omega)] at h
  cases ha : a.effectiveCurrency q.defaultStoreCurrency with
  | none =>
    cases hb : b.effectiveCurrency q.defaultStoreCurrency with
    | none => rfl
    | some code =>
      rw [ha, hb] at h
      dsimp only at h
      split at h
      · cases h
      · cases h
  | some code =>
    cases hb : b.effectiveCurrency q.defaultStoreCurrency with
    | none =>
      rw [ha, hb] at h
      dsimp only at h
      split at h
      · cases h
      · cases h
    | some code' =>
      rw [ha, hb] at h
      dsimp only at h
      split at h
      · split at h
        · cases h
          rfl
        · cases h
      · rename_i currency hfind
        split at h
        · cases h
        · rename_i currency' hfind'
          have hcur : currency.1 = currency'.1 := congrArg ReportPeriod.cur (Except.ok.inj h)
          rw [← currencies_find_eq hfind, ← currencies_find_eq hfind', hcur]

theorem period_of_currency (hrange : q.firstDay ≤ q.lastDay) (hlength : q.lastDay - q.firstDay + 1 ≤ maxRangeDays)
    {cur : String} (hcur : a.currency = some cur) (hknown : (currencies.find? fun c => c.1 = cur).isSome) :
    ∃ p, a.period q = .ok p ∧ p.cur = cur := by
  obtain ⟨currency, hfind⟩ := Option.isSome_iff_exists.mp hknown
  unfold SalesBook.period SalesBook.effectiveCurrency
  rw [if_neg (by omega), if_neg (by omega), hcur]
  dsimp only
  rw [hfind]
  exact ⟨_, rfl, currencies_find_eq hfind⟩

/-- The reports of an accepted range are the same just when the refunds of the demo orders are alike. -/
theorem demo_orders_in_reports (h : a.DifferInDemo b) (q : ReportRequest) :
    SameFigures a b q ↔
      (q.firstDay ≤ q.lastDay → q.lastDay - q.firstDay + 1 ≤ maxRangeDays → DemoRefundsAlike a b q) := by
  rw [sameFigures_iff h]
  constructor
  · rintro ⟨hperiod, hrows⟩ hrange hlength
    refine ⟨(effectiveCurrency_eq_iff h _).mp (effectiveCurrency_of_period hrange hlength hperiod), ?_⟩
    intro cur hcur hknown day hfirst hlast
    obtain ⟨p, hp, rfl⟩ := period_of_currency hrange hlength hcur hknown
    obtain ⟨_, _, hstart, hend, hs, he⟩ := period_eq_ok hp
    have hrow := hrows p hp day (SalesBook.mem_days.mpr ⟨hstart ▸ hfirst, hend ▸ hlast⟩)
    rw [h.refundRow_iff, hs, he] at hrow
    exact hrow
  · intro halike
    by_cases hrange : q.firstDay ≤ q.lastDay ∧ q.lastDay - q.firstDay + 1 ≤ maxRangeDays
    · have halike := halike hrange.1 hrange.2
      have heffective := (effectiveCurrency_eq_iff h q.defaultStoreCurrency).mpr halike.assumed
      refine ⟨period_eq_of_effectiveCurrency heffective, fun p hp day hday => ?_⟩
      obtain ⟨hknown, hcur, hstart, hend, hs, he⟩ := period_eq_ok hp
      obtain ⟨hfirst, hlast⟩ := SalesBook.mem_days.mp hday
      rw [h.refundRow_iff, hs, he]
      cases hrecorded : a.currency with
      | some code =>
        have hsame : code = p.cur := by
          unfold SalesBook.effectiveCurrency at hcur
          rw [hrecorded] at hcur
          exact Option.some.inj hcur
        exact halike.alike p.cur (hsame ▸ hrecorded) hknown day (hstart ▸ hfirst) (hend ▸ hlast)
      | none =>
        -- a currency is assumed only where there are no orders
        have hempty : ∀ c : SalesBook, c.currency = none → c.effectiveCurrency q.defaultStoreCurrency = some p.cur →
            c.orders.rows = [] := by
          intro c hnone hsome
          unfold SalesBook.effectiveCurrency at hsome
          rw [hnone] at hsome
          by_contra hne
          simp [hne] at hsome
        have ha := hempty a hrecorded hcur
        have hb := hempty b (h.currency ▸ hrecorded) (heffective ▸ hcur)
        rw [demoRefundsOn_of_no_orders ha, demoRefundsOn_of_no_orders hb]
        exact ⟨rfl, rfl⟩
    · -- the range is refused for both
      have hrefused : ∀ c : SalesBook, c.period q = if q.lastDay < q.firstDay then .error .endBeforeStart
          else .error .tooManyDays := by
        intro c
        unfold SalesBook.period
        split
        · rfl
        · rw [if_pos (by omega)]
      refine ⟨(hrefused a).trans (hrefused b).symm, fun p hp => ?_⟩
      rw [hrefused a] at hp
      split at hp
      · cases hp
      · cases hp

def utc : ReportZone := ⟨"UTC", fun t => t / 86400, fun day => day * 86400⟩

/-- The first ten days. -/
def tenDays : ReportRequest := ⟨some 0, some 9, 20, utc, "usd"⟩

/-- One order is paid for real, and one through the demo gateway, by now with these refunds. -/
def demoBook (refunds : List ReportRefund) : SalesBook where
  currency := some "usd"
  orders := ⟨[⟨1, some "usd", false, .paid, 900, 800, 0, 50, 50, 3600⟩, ⟨2, some "usd", true, .paid, 500, 500, 0, 0, 0, 7200⟩],
    by decide⟩
  history := [⟨1, .paid, 4000⟩, ⟨2, .paid, 8000⟩]
  items := [⟨1, 2⟩, ⟨2, 1⟩]
  refunds := refunds
  users := []

/-- The demo order is refunded through the demo gateway, and the report has a refund more and takes it off. -/
theorem demo_refund_in_report :
    (demoBook [⟨2, .succeeded, "usd", 500, 90000⟩]).DifferInDemo (demoBook []) ∧
    ((reportSalesByDay (demoBook [⟨2, .succeeded, "usd", 500, 90000⟩]) tenDays).toOption.map fun r =>
      (r.days.map fun d => (d.refundCount, d.netCents)).take 2) = some [(0, 900), (1, -500)] ∧
    ((reportSalesByDay (demoBook []) tenDays).toOption.map fun r =>
      (r.days.map fun d => (d.refundCount, d.netCents)).take 2) = some [(0, 900), (0, 0)] ∧
    ¬∀ a b q, a.DifferInDemo b → SameFigures a b q := by
  have hdiffer : (demoBook [⟨2, .succeeded, "usd", 500, 90000⟩]).DifferInDemo (demoBook []) :=
    ⟨rfl, rfl, rfl, rfl, by decide, rfl⟩
  refine ⟨hdiffer, by decide +kernel, by decide +kernel, fun h => ?_⟩
  have hsame := (h _ _ tenDays hdiffer).1
  revert hsame
  decide +kernel

/-- A demo refund that is only asked for changes nothing. -/
theorem demo_orders_in_reports_requested :
    (demoBook [⟨2, .requested, "usd", 500, 90000⟩]).DifferInDemo (demoBook []) ∧
    SameFigures (demoBook [⟨2, .requested, "usd", 500, 90000⟩]) (demoBook []) tenDays := by
  have hdiffer : (demoBook [⟨2, .requested, "usd", 500, 90000⟩]).DifferInDemo (demoBook []) :=
    ⟨rfl, rfl, rfl, rfl, by decide, rfl⟩
  refine ⟨hdiffer, (demo_orders_in_reports hdiffer tenDays).mpr fun _ _ => ⟨fun hnone => (nomatch hnone), ?_⟩⟩
  intro cur _ _ day _ _
  have hnone : ∀ s e, (demoBook [⟨2, .requested, "usd", 500, 90000⟩]).demoRefundsOn s e utc cur day = [] := by
    intro s e
    refine List.filter_eq_nil_iff.mpr fun r hr hcond => ?_
    cases List.mem_singleton.mp hr
    exact absurd (of_decide_eq_true hcond).2.1 (by decide)
  exact ⟨congrArg List.length (hnone _ _), congrArg (fun l => (l.map (·.amountCents)).sum) (hnone _ _)⟩

end NovaCart
