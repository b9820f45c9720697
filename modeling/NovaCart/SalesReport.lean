import NovaCart.GstCalc
import NovaCart.StoreCurrency

/-! Sales reports (`report_repository.py`, `report_service.py`), on what is committed when they run.

    Times are seconds of UTC and days are numbered; what the calendar makes of them in the reporting timezone is a
    parameter. -/

namespace NovaCart

open Schemes

structure ReportOrder where
  id : Id
  currency : Option String
  paidInDemoMode : Bool
  status : OrderStatus
  totalCents : ℤ
  subtotalCents : ℤ
  discountCents : ℤ
  shippingCents : ℤ
  taxCents : ℤ
  createdAt : ℤ
  deriving DecidableEq, Repr

instance : Keyed ReportOrder Id := ⟨ReportOrder.id⟩

/-- `order_status_history`; the status as it is in upper case. -/
structure ReportHistory where
  orderId : Id
  toStatus : OrderStatus
  createdAt : ℤ
  deriving DecidableEq, Repr

structure ReportItem where
  orderId : Id
  quantity : ℕ
  deriving DecidableEq, Repr

structure ReportRefund where
  orderId : Id
  status : RefundStatus
  currency : String
  amountCents : ℤ
  updatedAt : ℤ
  deriving DecidableEq, Repr

structure ReportUser where
  /-- `role = 'user'` -/
  customer : Bool
  createdAt : ℤ
  deriving DecidableEq, Repr

/-- The tables that reports read. -/
structure SalesBook where
  /-- `store_settings.currency` -/
  currency : Option String
  orders : Table ReportOrder
  history : List ReportHistory
  items : List ReportItem
  refunds : List ReportRefund
  users : List ReportUser

structure ReportZone where
  name : String
  /-- `LOCAL_DAY` -/
  localDay : ℤ → ℤ
  /-- local midnight, in UTC -/
  midnight : ℤ → ℤ

/-! ### Queries -/

/-- `GROUP BY 1` -/
def groupByDay {α β : Type} (day : α → ℤ) (figures : List α → β) (rows : List α) : List (ℤ × β) :=
  (rows.map day).dedup.map fun d => (d, figures (rows.filter fun r => day r = d))

structure SaleFigures where
  orders : ℕ
  gross : ℤ
  goods : ℤ
  shipping : ℤ
  tax : ℤ
  discounts : ℤ
  deriving DecidableEq, Repr

structure RefundFigures where
  n : ℕ
  amount : ℤ
  deriving DecidableEq, Repr

namespace SalesBook

/-- The history joined to its orders: what became PAID in the period, in demo mode or not. -/
def paidRows (b : SalesBook) (demo : Bool) (s e : ℤ) : List ReportHistory :=
  b.history.filter fun h => h.toStatus = .paid ∧ (∃ od ∈ b.orders.get? h.orderId, od.paidInDemoMode = demo) ∧
    s ≤ h.createdAt ∧ h.createdAt < e

/-- `FIRST_PAID` -/
def firstPaid (b : SalesBook) (s e : ℤ) : List (Id × ℤ) :=
  let rows := b.paidRows false s e
  (rows.map (·.orderId)).dedup.map fun orderId =>
    (orderId, ((rows.filter fun h => h.orderId = orderId).map (·.createdAt)).min?.getD 0)

/-- `first_paid p JOIN orders o`, with `paid_at` -/
def soldOrders (b : SalesBook) (s e : ℤ) : List (ReportOrder × ℤ) :=
  (b.firstPaid s e).filterMap fun p => (b.orders.get? p.1).map fun o => (o, p.2)

def soldIn (b : SalesBook) (s e : ℤ) (cur : String) : List (ReportOrder × ℤ) :=
  (b.soldOrders s e).filter fun p => p.1.currency = some cur

def salesByDay (b : SalesBook) (s e : ℤ) (tz : ReportZone) (cur : String) : List (ℤ × SaleFigures) :=
  groupByDay (fun p => tz.localDay p.2)
    (fun rows => {
      orders := rows.length
      gross := (rows.map fun p => p.1.totalCents).sum
      goods := (rows.map fun p => p.1.subtotalCents - p.1.discountCents).sum
      shipping := (rows.map fun p => p.1.shippingCents).sum
      tax := (rows.map fun p => p.1.taxCents).sum
      discounts := (rows.map fun p => p.1.discountCents).sum })
    (b.soldIn s e cur)

def unitsByDay (b : SalesBook) (s e : ℤ) (tz : ReportZone) (cur : String) : List (ℤ × ℕ) :=
  groupByDay (fun oi : ReportItem × ℤ => tz.localDay oi.2) (fun rows => (rows.map fun oi => oi.1.quantity).sum)
    ((b.soldIn s e cur).flatMap fun p => (b.items.filter fun oi => oi.orderId = p.1.id).map fun oi => (oi, p.2))

/-- The refunds that succeeded in the period. -/
def refundsIn (b : SalesBook) (s e : ℤ) (cur : String) : List ReportRefund :=
  b.refunds.filter fun r => r.status = .succeeded ∧ r.currency = cur ∧ s ≤ r.updatedAt ∧ r.updatedAt < e

def refundsByDay (b : SalesBook) (s e : ℤ) (tz : ReportZone) (cur : String) : List (ℤ × RefundFigures) :=
  groupByDay (fun r => tz.localDay r.updatedAt) (fun rows => ⟨rows.length, (rows.map (·.amountCents)).sum⟩)
    (b.refundsIn s e cur)

def demoOrders (b : SalesBook) (s e : ℤ) : ℕ := ((b.paidRows true s e).map (·.orderId)).dedup.length

def excludedOrders (b : SalesBook) (s e : ℤ) (cur : String) : ℕ :=
  ((b.soldOrders s e).filter fun p => p.1.currency ≠ some cur).length

def ordersByStatus (b : SalesBook) (s e : ℤ) : List (OrderStatus × ℕ) :=
  let found := (b.orders.rows.filter fun o => s ≤ o.createdAt ∧ o.createdAt < e).map (·.status)
  found.dedup.map fun status => (status, found.count status)

def newCustomers (b : SalesBook) (s e : ℤ) : ℕ :=
  (b.users.filter fun u => u.customer = true ∧ s ≤ u.createdAt ∧ u.createdAt < e).length

def openRefunds (b : SalesBook) : ℕ := (b.refunds.filter fun r => r.status ∈ [.requested, .pending, .uncertain]).length

/-- `StoreRepository.effective_currency` -/
def effectiveCurrency (b : SalesBook) (default_ : String) : Option String :=
  match b.currency with
  | some code => some code
  | none => if b.orders.rows = [] then some default_ else none

end SalesBook

/-! ### The service -/

inductive ReportError
  /-- `end` is before `start` -/
  | endBeforeStart
  | tooManyDays
  | currencyUnknown
  | currencyUnsupported (code : String)
  deriving DecidableEq, Repr

def maxRangeDays : ℤ := 366

structure ReportPeriod where
  start : ℤ
  end_ : ℤ
  tz : String
  cur : String
  exp : ℕ
  s : ℤ
  e : ℤ
  deriving DecidableEq, Repr

/-- What a report is asked for, and where. -/
structure ReportRequest where
  start : Option ℤ
  end_ : Option ℤ
  today : ℤ
  zone : ReportZone
  defaultStoreCurrency : String

def ReportRequest.lastDay (q : ReportRequest) : ℤ := q.end_.getD q.today

def ReportRequest.firstDay (q : ReportRequest) : ℤ := q.start.getD (q.lastDay - 29)

/-- `_period` -/
def SalesBook.period (b : SalesBook) (q : ReportRequest) : Except ReportError ReportPeriod :=
  if q.lastDay < q.firstDay then .error .endBeforeStart
  else if maxRangeDays < q.lastDay - q.firstDay + 1 then .error .tooManyDays
  else match b.effectiveCurrency q.defaultStoreCurrency with
    | none => .error .currencyUnknown
    | some code => match currencies.find? fun c => c.1 = code with
      | none => .error (.currencyUnsupported code)
      | some currency => .ok {
          start := q.firstDay
          end_ := q.lastDay
          tz := q.zone.name
          cur := currency.1
          exp := currency.2.1
          s := q.zone.midnight q.firstDay
          e := q.zone.midnight (q.lastDay + 1) }

/-- The days of the period, oldest first. -/
def ReportPeriod.days (p : ReportPeriod) : List ℤ := (List.range (p.end_ - p.start + 1).toNat).map fun (i : ℕ) => p.start + i

structure DayRow where
  day : ℤ
  orders : ℕ
  units : ℕ
  grossCents : ℤ
  goodsCents : ℤ
  discountCents : ℤ
  shippingCents : ℤ
  taxCents : ℤ
  refundCount : ℕ
  refundedCents : ℤ
  netCents : ℤ
  deriving DecidableEq, Repr

/-- `_days` -/
def SalesBook.days (b : SalesBook) (zone : ReportZone) (p : ReportPeriod) : List DayRow :=
  let sales := b.salesByDay p.s p.e zone p.cur
  let units := b.unitsByDay p.s p.e zone p.cur
  let refunds := b.refundsByDay p.s p.e zone p.cur
  p.days.map fun day =>
    let sale := (sales.lookup day).getD ⟨0, 0, 0, 0, 0, 0⟩
    let refund := (refunds.lookup day).getD ⟨0, 0⟩
    { day := day
      orders := sale.orders
      units := (units.lookup day).getD 0
      grossCents := sale.gross
      goodsCents := sale.goods
      discountCents := sale.discounts
      shippingCents := sale.shipping
      taxCents := sale.tax
      refundCount := refund.n
      refundedCents := refund.amount
      netCents := sale.gross - refund.amount }

structure SalesByDay where
  header : ReportPeriod
  days : List DayRow
  excludedOrders : ℕ
  demoOrdersExcluded : ℕ
  deriving DecidableEq, Repr

structure Summary where
  header : ReportPeriod
  orders : ℕ
  units : ℕ
  grossCents : ℤ
  goodsCents : ℤ
  discountCents : ℤ
  shippingCents : ℤ
  taxCents : ℤ
  refundCount : ℕ
  refundedCents : ℤ
  netCents : ℤ
  averageOrderCents : ℤ
  ordersByStatus : List (OrderStatus × ℕ)
  newCustomers : ℕ
  openRefunds : ℕ
  excludedOrders : ℕ
  demoOrdersExcluded : ℕ
  deriving DecidableEq, Repr

/-- `sales_by_day` -/
def reportSalesByDay (b : SalesBook) (q : ReportRequest) : Except ReportError SalesByDay :=
  (b.period q).map fun p => ⟨p, b.days q.zone p, b.excludedOrders p.s p.e p.cur, b.demoOrders p.s p.e⟩

/-- `summary` -/
def reportSummary (b : SalesBook) (q : ReportRequest) : Except ReportError Summary :=
  (b.period q).map fun p =>
    let days := b.days q.zone p
    let orders := (days.map (·.orders)).sum
    let gross := (days.map (·.grossCents)).sum
    { header := p
      orders := orders
      units := (days.map (·.units)).sum
      grossCents := gross
      goodsCents := (days.map (·.goodsCents)).sum
      discountCents := (days.map (·.discountCents)).sum
      shippingCents := (days.map (·.shippingCents)).sum
      taxCents := (days.map (·.taxCents)).sum
      refundCount := (days.map (·.refundCount)).sum
      refundedCents := (days.map (·.refundedCents)).sum
      netCents := (days.map (·.netCents)).sum
      averageOrderCents := if orders = 0 then 0 else halfUp (decDiv gross orders)
      ordersByStatus := b.ordersByStatus p.s p.e
      newCustomers := b.newCustomers p.s p.e
      openRefunds := b.openRefunds
      excludedOrders := b.excludedOrders p.s p.e p.cur
      demoOrdersExcluded := b.demoOrders p.s p.e }

end NovaCart
