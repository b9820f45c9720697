import NovaCart.ReportFigures

/-! Sales reports over ranges of days: a range that is split gives the same rows.

    A report selects its sales by the midnights of its first and last day, as the service converts them to UTC, and puts
    each on the local day that the database converts its time to. A time that was counted must lie between the midnights
    of its own local day. -/

namespace NovaCart

open Schemes Table
open Keyed (key)

namespace SalesBook

variable {b : SalesBook}

/-- "An order can be paid only once." -/
def PaidOnce (b : SalesBook) : Prop := ((b.history.filter fun h => h.toStatus = .paid).map (·.orderId)).Nodup

instance (b : SalesBook) : Decidable b.PaidOnce := inferInstanceAs (Decidable (List.Nodup _))

/-- The orders that count, in one currency, with the time of their payment. -/
def payments (b : SalesBook) (cur : String) : List (ReportOrder × ℤ) :=
  ((b.history.filter fun h => h.toStatus = .paid ∧ ∃ od ∈ b.orders.get? h.orderId, od.paidInDemoMode = false).filterMap
    fun h => (b.orders.get? h.orderId).map fun o => (o, h.createdAt)).filter fun p => p.1.currency = some cur

/-- The refunds that count, in one currency. -/
def completedRefunds (b : SalesBook) (cur : String) : List ReportRefund :=
  b.refunds.filter fun r => r.status = .succeeded ∧ r.currency = cur

/-! ### Selection by the bounds -/

theorem filter_eq_singleton {α β : Type} [DecidableEq β] {f : α → β} {l : List α} (h : (l.map f).Nodup) {a : α}
    (ha : a ∈ l) : l.filter (fun x => f x = f a) = [a] := by
  induction l with
  | nil => exact absurd ha List.not_mem_nil
  | cons x l ih =>
    obtain ⟨hx, hl⟩ := List.nodup_cons.mp h
    rcases List.mem_cons.mp ha with rfl | hmem
    · rw [List.filter_cons_of_pos (by simp), List.filter_eq_nil_iff.mpr]
      intro y hy heq
      exact hx (List.mem_map.mpr ⟨y, hy, of_decide_eq_true heq⟩)
    · have hne : f x ≠ f a := fun heq => hx (heq ▸ List.mem_map_of_mem hmem)
      rw [List.filter_cons_of_neg (by simpa using hne), ih hl hmem]

theorem filterMap_filter {α β : Type} {g : α → Option β} {p : α → Bool} {q : β → Bool}
    (h : ∀ a c, g a = some c → q c = p a) (l : List α) : (l.filter p).filterMap g = (l.filterMap g).filter q := by
  induction l with
  | nil => rfl
  | cons a l ih =>
    cases hg : g a with
    | none =>
      rw [List.filterMap_cons_none hg, ← ih, List.filter_cons]
      split
      · rw [List.filterMap_cons_none hg]
      · rfl
    | some c =>
      rw [List.filterMap_cons_some hg, List.filter_cons, List.filter_cons, h a c hg, ← ih]
      split
      · rw [List.filterMap_cons_some hg]
      · rfl

theorem PaidOnce.firstPaid (h : b.PaidOnce) (s e : ℤ) :
    b.firstPaid s e = (b.paidRows false s e).map fun r => (r.orderId, r.createdAt) := by
  have hsub : (b.paidRows false s e).Sublist (b.history.filter fun r => r.toStatus = .paid) :=
    List.monotone_filter_right _ fun r hr => decide_eq_true (of_decide_eq_true hr).1
  have hnodup : ((b.paidRows false s e).map (·.orderId)).Nodup := List.Nodup.sublist (hsub.map _) h
  rw [SalesBook.firstPaid, hnodup.dedup, List.map_map]
  refine List.map_congr_left fun r hr => ?_
  rw [Function.comp_apply, filter_eq_singleton (f := ReportHistory.orderId) hnodup hr]
  rfl

/-- With one payment for each order, a period selects the payments between its bounds. -/
theorem PaidOnce.soldIn (h : b.PaidOnce) (s e : ℤ) (cur : String) :
    b.soldIn s e cur = (b.payments cur).filter fun p => s ≤ p.2 ∧ p.2 < e := by
  have hrows : b.paidRows false s e = (b.history.filter fun r => r.toStatus = .paid ∧
      ∃ od ∈ b.orders.get? r.orderId, od.paidInDemoMode = false).filter fun r => s ≤ r.createdAt ∧ r.createdAt < e := by
    rw [paidRows, List.filter_filter]
    refine List.filter_congr fun r _ => ?_
    simp only [Bool.decide_and]
    grind
  have htime : ∀ (r : ReportHistory) (p : ReportOrder × ℤ),
      (b.orders.get? r.orderId).map (fun o => (o, r.createdAt)) = some p →
      decide (s ≤ p.2 ∧ p.2 < e) = decide (s ≤ r.createdAt ∧ r.createdAt < e) := by
    intro r p hp
    obtain ⟨o, -, rfl⟩ := Option.map_eq_some_iff.mp hp
    rfl
  rw [SalesBook.soldIn, soldOrders, h.firstPaid, List.filterMap_map, hrows]
  change ((List.filter _ _).filterMap fun r : ReportHistory => (b.orders.get? r.orderId).map fun o => (o, r.createdAt)).filter _ = _
  rw [filterMap_filter htime, payments, List.filter_filter, List.filter_filter]
  exact List.filter_congr fun p _ => Bool.and_comm _ _

theorem refundsIn_eq (b : SalesBook) (s e : ℤ) (cur : String) :
    b.refundsIn s e cur = (b.completedRefunds cur).filter fun r => s ≤ r.updatedAt ∧ r.updatedAt < e := by
  rw [refundsIn, completedRefunds, List.filter_filter]
  refine List.filter_congr fun r _ => ?_
  simp only [Bool.decide_and]
  grind

/-! ### Rows -/

/-- The row of a day from the sales and the refunds that are put on it. -/
def rowOf (b : SalesBook) (sold : List (ReportOrder × ℤ)) (refunds : List ReportRefund) (day : ℤ) : DayRow :=
  let gross := (sold.map fun p => p.1.totalCents).sum
  let refunded := (refunds.map (·.amountCents)).sum
  { day := day
    orders := sold.length
    units := (sold.map fun p => ((b.items.filter fun oi => oi.orderId = p.1.id).map (·.quantity)).sum).sum
    grossCents := gross
    goodsCents := (sold.map fun p => p.1.subtotalCents - p.1.discountCents).sum
    discountCents := (sold.map fun p => p.1.discountCents).sum
    shippingCents := (sold.map fun p => p.1.shippingCents).sum
    taxCents := (sold.map fun p => p.1.taxCents).sum
    refundCount := refunds.length
    refundedCents := refunded
    netCents := gross - refunded }

theorem getD_lookup_groupByDay {α β : Type} (day : α → ℤ) {figures : List α → β} {zero : β} (hzero : figures [] = zero)
    (rows : List α) (d : ℤ) :
    ((groupByDay day figures rows).lookup d).getD zero = figures (rows.filter fun r => day r = d) := by
  rw [lookup_groupByDay]
  split
  case isTrue hnil => rw [hnil, hzero, Option.getD_none]
  case isFalse => rw [Option.getD_some]

/-- The items of the sales of one day. -/
theorem units_on_day (b : SalesBook) (zone : ReportZone) (sold : List (ReportOrder × ℤ)) (day : ℤ) :
    (((sold.flatMap fun p => (b.items.filter fun oi => oi.orderId = p.1.id).map fun oi => (oi, p.2)).filter
        fun oi : ReportItem × ℤ => zone.localDay oi.2 = day).map fun oi => oi.1.quantity).sum
      = ((sold.filter fun p => zone.localDay p.2 = day).map fun p =>
          ((b.items.filter fun oi => oi.orderId = p.1.id).map (·.quantity)).sum).sum := by
  induction sold with
  | nil => rfl
  | cons p sold ih =>
    rw [List.flatMap_cons, List.filter_append, List.map_append, List.sum_append, ih, List.filter_cons, List.filter_map,
      List.map_map]
    by_cases h : zone.localDay p.2 = day
    · simp [h, Function.comp_def]
    · simp [h, Function.comp_def]

theorem days_eq (b : SalesBook) (zone : ReportZone) (p : ReportPeriod) :
    b.days zone p = p.days.map fun day =>
      b.rowOf ((b.soldIn p.s p.e p.cur).filter fun x => zone.localDay x.2 = day)
        ((b.refundsIn p.s p.e p.cur).filter fun r => zone.localDay r.updatedAt = day) day := by
  refine List.map_congr_left fun day _ => ?_
  have hsales := @getD_lookup_groupByDay _ SaleFigures (fun x : ReportOrder × ℤ => zone.localDay x.2)
    (fun rows => ⟨rows.length, (rows.map fun p => p.1.totalCents).sum,
      (rows.map fun p => p.1.subtotalCents - p.1.discountCents).sum, (rows.map fun p => p.1.shippingCents).sum,
      (rows.map fun p => p.1.taxCents).sum, (rows.map fun p => p.1.discountCents).sum⟩) ⟨0, 0, 0, 0, 0, 0⟩ rfl
    (b.soldIn p.s p.e p.cur) day
  have hunits : ((b.unitsByDay p.s p.e zone p.cur).lookup day).getD 0 = _ :=
    (getD_lookup_groupByDay _ rfl _ day).trans (units_on_day b zone (b.soldIn p.s p.e p.cur) day)
  have hrefunds := @getD_lookup_groupByDay _ RefundFigures (fun r : ReportRefund => zone.localDay r.updatedAt)
    (fun rows => ⟨rows.length, (rows.map (·.amountCents)).sum⟩) ⟨0, 0⟩ rfl (b.refundsIn p.s p.e p.cur) day
  simp only [salesByDay, refundsByDay, rowOf, hsales, hunits, hrefunds]

/-! ### Times between midnights -/

/-- Every payment and every refund that counts lies between the midnights of its local day: for each date, the local
    midnight is past exactly when the local day has come. -/
def DaysAgree (b : SalesBook) (zone : ReportZone) (cur : String) : Prop :=
  (∀ p ∈ b.payments cur, ∀ d, zone.midnight d ≤ p.2 ↔ d ≤ zone.localDay p.2) ∧
    ∀ r ∈ b.completedRefunds cur, ∀ d, zone.midnight d ≤ r.updatedAt ↔ d ≤ zone.localDay r.updatedAt

theorem selected_iff {zone : ReportZone} {t x y : ℤ} (h : ∀ d, zone.midnight d ≤ t ↔ d ≤ zone.localDay t) :
    zone.midnight x ≤ t ∧ t < zone.midnight (y + 1) ↔ x ≤ zone.localDay t ∧ zone.localDay t ≤ y := by
  rw [h x, ← not_le, h (y + 1)]
  omega

/-- What a period puts on one of its days is what the day holds. -/
theorem filter_selected {α : Type} {zone : ReportZone} {time : α → ℤ} {rows : List α}
    (h : ∀ r ∈ rows, ∀ d, zone.midnight d ≤ time r ↔ d ≤ zone.localDay (time r)) {x y day : ℤ} (hx : x ≤ day)
    (hy : day ≤ y) :
    (rows.filter fun r => zone.midnight x ≤ time r ∧ time r < zone.midnight (y + 1)).filter
        (fun r => zone.localDay (time r) = day) = rows.filter fun r => zone.localDay (time r) = day := by
  rw [List.filter_filter]
  refine List.filter_congr fun r hr => ?_
  by_cases hday : zone.localDay (time r) = day
  · have hsel := (selected_iff (h r hr)).mpr ⟨hx.trans hday.ge, hday.le.trans hy⟩
    simp [hday, hsel]
  · simp [hday]

/-- The row of a day, whatever period it is asked for in. -/
def rowOn (b : SalesBook) (zone : ReportZone) (cur : String) (day : ℤ) : DayRow :=
  b.rowOf ((b.payments cur).filter fun p => zone.localDay p.2 = day)
    ((b.completedRefunds cur).filter fun r => zone.localDay r.updatedAt = day) day

theorem DaysAgree.days {zone : ReportZone} {p : ReportPeriod} (h : b.DaysAgree zone p.cur) (honce : b.PaidOnce)
    (hs : p.s = zone.midnight p.start) (he : p.e = zone.midnight (p.end_ + 1)) :
    b.days zone p = p.days.map (b.rowOn zone p.cur) := by
  rw [days_eq, honce.soldIn, refundsIn_eq, hs, he]
  refine List.map_congr_left fun day hday => ?_
  obtain ⟨hstart, hend⟩ := mem_days.mp hday
  rw [@filter_selected _ _ (fun x : ReportOrder × ℤ => x.2) _ h.1 _ _ _ hstart hend,
    @filter_selected _ _ ReportRefund.updatedAt _ h.2 _ _ _ hstart hend]
  rfl

end SalesBook

/-! ### Splitting a range -/

/-- Consecutive ranges of days, from the first day to the last. -/
def Splits : ℤ → ℤ → List (ℤ × ℤ) → Prop
  | _, _, [] => False
  | first, last, [range] => range.1 = first ∧ range.2 = last ∧ first ≤ last
  | first, last, range :: range' :: ranges =>
    range.1 = first ∧ first ≤ range.2 ∧ Splits (range.2 + 1) last (range' :: ranges)

theorem Splits.le {first last : ℤ} {ranges : List (ℤ × ℤ)} (h : Splits first last ranges) : first ≤ last := by
  induction ranges generalizing first with
  | nil => exact h.elim
  | cons range ranges ih =>
    cases ranges with
    | nil => exact h.2.2
    | cons range' ranges =>
      have := ih h.2.2
      have := h.2.1
      omega

/-- Every range lies within the whole. -/
theorem Splits.within {first last : ℤ} {ranges : List (ℤ × ℤ)} (h : Splits first last ranges) :
    ∀ range ∈ ranges, first ≤ range.1 ∧ range.1 ≤ range.2 ∧ range.2 ≤ last := by
  induction ranges generalizing first with
  | nil => exact h.elim
  | cons range ranges ih =>
    intro r hr
    cases ranges with
    | nil =>
      rw [List.mem_singleton.mp hr]
      have h1 := h.1
      have h2 := h.2.1
      have h3 := h.2.2
      omega
    | cons range' ranges =>
      obtain ⟨hfirst, hle, hrest⟩ := h
      rcases List.mem_cons.mp hr with rfl | hmem
      · have := hrest.le
        omega
      · have := ih hrest r hmem
        omega

section Store

variable {b : SalesBook} {zone : ReportZone} {default_ cur : String} {q : ReportRequest}

section Agree

variable (h : b.DaysAgree zone cur) (honce : b.PaidOnce) (hcur : b.effectiveCurrency default_ = some cur)
include h honce hcur

end Agree

end Store

/-! ### Clocks that go back over midnight -/

end NovaCart
