import NovaCart.DemoGatewaySteps
import NovaCart.StoreCurrency

/-! The review of legacy orders whose currency was never recorded (`OrderCurrencyRemediationService`).

    A review is one transaction on the locked order. It is recorded whatever it concludes, also when the evidence
    is refused and the request fails: the record is committed first. Only an established review sets the currency
    of the order, which the store's own steps never change. -/

namespace NovaCart

open Schemes

/-! ### Reviews -/

/-- `EVIDENCE_TYPES`. -/
inductive EvidenceType
  | providerRecord | accountingRecord | storeHistoryReviewed
  deriving DecidableEq, Repr

/-- `DECISIONS`. -/
inductive CurrencyDecision
  | established | unresolvedConflicting | unresolvedInconclusive
  deriving DecidableEq, Repr

structure OrderCurrencyRemediation where
  id : Id
  orderId : Id
  decision : CurrencyDecision
  currency : Option String
  remediation : String
  evidenceType : EvidenceType
  evidenceReference : String
  note : Option String
  establishedByUserId : Id
  /-- `ck_currency_remediations_decision_currency` -/
  decisionCurrency : decision = .established ↔ currency ≠ none
  deriving Repr

instance : Keyed OrderCurrencyRemediation Id := ⟨OrderCurrencyRemediation.id⟩

/-- What the reviewer sends. -/
structure CurrencyReview where
  orderId : Id
  adminUserId : Id
  /-- the reviewer concluded that the evidence does not settle it -/
  unresolved : Bool
  currency : Option String
  evidenceType : EvidenceType
  evidenceReference : String
  note : Option String
  reason : Option String
  storeHistoryUnambiguous : Bool

inductive ReviewError
  | orderNotFound (orderId : Id)
  | orderCurrencyAlreadyKnown
  | currencyUnsupported (code : String)
  | currencyConflictsWithPayment (currency : String)
  | evidenceNotSpecificToOrder (why : String)
  | storeHistoryAmbiguous (why : String)
  | integrity (constraint : String)
  deriving DecidableEq, Repr

/-- `str.lower` and `str.strip`. -/
structure Casing where
  lower : String → String
  strip : String → String

/-- What a review read of the store's settings and of the audit log. -/
structure StoreHistory where
  /-- `effective_currency` -/
  current : Option String
  /-- the entries that changed a recorded store currency -/
  changes : Nat

/-- `needle in text`. -/
def occursIn (needle text : String) : Bool := text.toList.tails.any fun rest => needle.toList.isPrefixOf rest

/-- `any(pid in ref for pid in provider_ids)`. -/
def citesPayment (t : Casing) (payments : List Payment) (ref : String) : Bool :=
  payments.any fun p => occursIn (t.lower p.providerPaymentId) ref

/-- `_check`: nothing when the evidence establishes `code` for the order, else whether it conflicts, the error and
    why. -/
def checkEvidence (t : Casing) (orderId : Id) (payments : List Payment) (code : String) (evidenceType : EvidenceType)
    (reference : String) (storeHistoryUnambiguous : Bool) (store : StoreHistory) :
    Option (Bool × ReviewError × String) :=
  match payments.find? fun p => p.currency ≠ code with
  | some payment =>
    some (true, .currencyConflictsWithPayment payment.currency,
      "a payment was recorded in " ++ payment.currency ++ ", not " ++ code)
  | none =>
    let ref := t.lower reference
    let notSpecific (why : String) := some (false, .evidenceNotSpecificToOrder why, why)
    let ambiguous (why : String) := some (false, .storeHistoryAmbiguous why, why)
    match evidenceType with
    | .providerRecord =>
      if payments = [] then notSpecific "this order has no payment, so there is no provider record of it to cite"
      else if citesPayment t payments ref then none
      else notSpecific "the reference does not cite a provider payment id of this order"
    | .accountingRecord =>
      if occursIn (t.lower (toString orderId)) ref ∨ citesPayment t payments ref then none
      else notSpecific "the reference does not cite this order's id or a provider payment id of this order"
    | .storeHistoryReviewed =>
      if ¬storeHistoryUnambiguous then
        ambiguous "the reviewer did not attest that the store history is unambiguous for this order"
      else if store.current ≠ some code then
        ambiguous ("the store's current currency is " ++ (truthy store.current).getD "unset" ++ ", not " ++ code)
      else if store.changes ≠ 0 then ambiguous "the store currency has been changed since it was first set"
      else none

/-! ### The state -/

structure ReviewSys where
  sys : Sys
  reviews : Table OrderCurrencyRemediation

namespace ReviewSys

/-- `add_currency_remediation`, with the constraints of the table. -/
def record (s : ReviewSys) (row : OrderCurrencyRemediation) : Except ReviewError ReviewSys :=
  if row.evidenceReference.toList.all (· = ' ') then .error (.integrity "ck_currency_remediations_reference")
  else if row.decision = .established ∧ ∃ r ∈ s.reviews.rows, r.orderId = row.orderId ∧ r.decision = .established then
    .error (.integrity "ux_currency_remediations_one_established")
  else match s.reviews.insert? row with
    | some reviews => .ok { s with reviews := reviews }
    | none => .error (.integrity "order_currency_remediations_pkey")

/-- The record of a review that leaves the currency open; `err` is raised after it is committed. -/
def leaveUnresolved (s : ReviewSys) (r : CurrencyReview) (newId : Id) (orderId : Id) (reference : String)
    (conflicting : Bool) (remediation : String) (err : Option ReviewError) :
    Except ReviewError (ReviewSys × Option ReviewError) :=
  (s.record ⟨newId, orderId, if conflicting then .unresolvedConflicting else .unresolvedInconclusive, none,
    "Left unresolved; manual review required" ++ remediation, r.evidenceType, reference, r.note, r.adminUserId,
    by cases conflicting <;> simp⟩).map fun s => (s, err)

/-- The record of a review that settles it, and the one change of the order that the database allows. -/
def establish (s : ReviewSys) (r : CurrencyReview) (newId : Id) (order : Order) (reference code : String) :
    Except ReviewError (ReviewSys × Option ReviewError) :=
  (s.record ⟨newId, order.id, .established, some code, "Order currency set to " ++ code, r.evidenceType, reference,
    r.note, r.adminUserId, by simp⟩).map fun s =>
      ({ s with sys := { s.sys with db := { s.sys.db with
        orders := s.sys.db.orders.replace { order with currency := some code } } } }, none)

/-- `review`. An error on the left rolls back, one on the right is raised after a commit. -/
def review (t : Casing) (s : ReviewSys) (r : CurrencyReview) (store : StoreHistory) (newId : Id) :
    Except ReviewError (ReviewSys × Option ReviewError) :=
  match s.sys.db.orders.get? r.orderId with
  | none => .error (.orderNotFound r.orderId)
  | some order =>
    if order.currency ≠ none then .error .orderCurrencyAlreadyKnown
    else
      let reference := t.strip r.evidenceReference
      if r.unresolved then
        s.leaveUnresolved r newId order.id reference (r.reason = some "conflicting")
          (" (" ++ r.reason.getD "None" ++ "): " ++ r.note.getD "None") none
      else
        let sent := t.lower (t.strip (r.currency.getD "None"))
        match getCurrency sent with
        | none => .error (.currencyUnsupported sent)
        | some code =>
          match checkEvidence t order.id (s.sys.db.listForOrder order.id) code r.evidenceType reference
              r.storeHistoryUnambiguous store with
          | some (conflicting, err, why) =>
            s.leaveUnresolved r newId order.id reference conflicting (": " ++ why) (some err)
          | none => s.establish r newId order reference code

end ReviewSys

inductive ReviewLabel
  | store (l : Label)
  | review (r : CurrencyReview) (store : StoreHistory) (newId : Id)

/-- A review that fails before it recorded anything leaves no trace. -/
def reviewStep (t : Casing) (cfg : Settings) (s : ReviewSys) : ReviewLabel → Option ReviewSys
  | .store l => (step cfg s.sys l).map fun sys => { s with sys := sys }
  | .review r store newId =>
    match s.review t r store newId with
    | .ok (s', _) => some s'
    | .error _ => some s

abbrev ReviewRun (t : Casing) (cfg : Settings) (s₀ : ReviewSys) (tr : List (Taken ReviewSys ReviewLabel))
    (s : ReviewSys) : Prop := Exec (reviewStep t cfg) s₀ tr s

variable {t : Casing} {cfg : Settings} {s s' s₀ : ReviewSys} {db db' : Db}
variable {tr : List (Taken ReviewSys ReviewLabel)}

/-! ### What a review does -/

/-- The row is new, and the only established one of its order if it is established. -/
structure Reviewed (s s' : ReviewSys) (row : OrderCurrencyRemediation) : Prop where
  sys : s'.sys = s.sys
  reviews : s.reviews.insert? row = some s'.reviews
  first : row.decision = .established → ∀ r ∈ s.reviews.rows, r.orderId = row.orderId → r.decision ≠ .established

theorem record_ok {row : OrderCurrencyRemediation} (h : s.record row = .ok s') : Reviewed s s' row := by
  unfold ReviewSys.record at h
  split at h
  · cases h
  split at h
  · cases h
  rename_i hfirst
  split at h
  · rename_i reviews hreviews
    cases h
    exact ⟨rfl, hreviews, fun hrow r hr horder hest => hfirst ⟨hrow, r, hr, horder, hest⟩⟩
  · cases h

/-- The evidence that an established review has. -/
structure CurrencyEvidence (t : Casing) (orderId : Id) (payments : List Payment) (code : String)
    (evidenceType : EvidenceType) (reference : String) (store : StoreHistory) : Prop where
  agree : ∀ p ∈ payments, p.currency = code
  provider : evidenceType = .providerRecord → citesPayment t payments (t.lower reference) = true
  accounting : evidenceType = .accountingRecord → occursIn (t.lower (toString orderId)) (t.lower reference) = true ∨
    citesPayment t payments (t.lower reference) = true
  store : evidenceType = .storeHistoryReviewed → store.current = some code ∧ store.changes = 0

theorem checkEvidence_none {orderId : Id} {payments : List Payment} {code : String} {evidenceType : EvidenceType}
    {reference : String} {unambiguous : Bool} {store : StoreHistory}
    (h : checkEvidence t orderId payments code evidenceType reference unambiguous store = none) :
    CurrencyEvidence t orderId payments code evidenceType reference store := by
  unfold checkEvidence at h
  split at h
  · cases h
  rename_i hsame
  have hpayments : ∀ p ∈ payments, p.currency = code := by simpa using hsame
  dsimp only at h
  cases evidenceType with
  | providerRecord =>
    dsimp only at h
    split at h
    · cases h
    split at h
    · rename_i hcites
      exact ⟨hpayments, fun _ => hcites, by simp, by simp⟩
    · cases h
  | accountingRecord =>
    dsimp only at h
    split at h
    · rename_i hcites
      exact ⟨hpayments, by simp, fun _ => hcites, by simp⟩
    · cases h
  | storeHistoryReviewed =>
    dsimp only at h
    split at h
    · cases h
    split at h
    · cases h
    rename_i hcurrent
    split at h
    · cases h
    rename_i hchanges
    exact ⟨hpayments, by simp, by simp, fun _ => ⟨not_not.mp hcurrent, not_not.mp hchanges⟩⟩

/-- What a review does: it is recorded as unresolved, or it is recorded as established and sets the currency. -/
inductive ReviewMove (t : Casing) (s s' : ReviewSys) : Prop
  | unresolved {row : OrderCurrencyRemediation} {order : Order} (horder : s.sys.db.orders.get? row.orderId = some order)
      (hopen : order.currency = none) (hrow : row.decision ≠ .established) (h : Reviewed s s' row)
  | established {row : OrderCurrencyRemediation} {order : Order} {code : String} {store : StoreHistory} {s₁ : ReviewSys}
      (horder : s.sys.db.orders.get? row.orderId = some order) (hopen : order.currency = none)
      (hrow : row.decision = .established) (hcode : row.currency = some code) (h : Reviewed s s₁ row)
      (hevidence : CurrencyEvidence t row.orderId (s.sys.db.listForOrder row.orderId) code row.evidenceType
        row.evidenceReference store)
      (hs' : s' = { s₁ with sys := { s.sys with db := { s.sys.db with
        orders := s.sys.db.orders.replace { order with currency := some code } } } })

theorem leaveUnresolved_ok {r : CurrencyReview} {newId orderId : Id} {reference remediation : String}
    {conflicting : Bool} {err err' : Option ReviewError} {order : Order}
    (horder : s.sys.db.orders.get? orderId = some order) (hopen : order.currency = none)
    (h : s.leaveUnresolved r newId orderId reference conflicting remediation err = .ok (s', err')) :
    ReviewMove t s s' := by
  unfold ReviewSys.leaveUnresolved at h
  cases hrec : s.record _ with
  | error e =>
    rw [hrec] at h
    cases h
  | ok s₁ =>
    rw [hrec] at h
    cases h
    exact .unresolved horder hopen (by cases conflicting <;> simp) (record_ok hrec)

theorem review_ok {r : CurrencyReview} {store : StoreHistory} {newId : Id} {err : Option ReviewError}
    (h : s.review t r store newId = .ok (s', err)) : ReviewMove t s s' := by
  unfold ReviewSys.review at h
  split at h
  · cases h
  rename_i order horder
  have hid : order.id = r.orderId := Table.key_of_get? horder
  rw [← hid] at horder
  split at h
  · cases h
  rename_i hopen
  have hopen : order.currency = none := not_not.mp hopen
  dsimp only at h
  split at h
  · exact leaveUnresolved_ok horder hopen h
  split at h
  · cases h
  rename_i code _
  split at h
  · exact leaveUnresolved_ok horder hopen h
  · rename_i hcheck
    unfold ReviewSys.establish at h
    cases hrec : s.record _ with
    | error e =>
      rw [hrec] at h
      cases h
    | ok s₁ =>
      rw [hrec] at h
      cases h
      have hreviewed := record_ok hrec
      exact .established horder hopen rfl rfl hreviewed (checkEvidence_none hcheck) (by rw [hreviewed.sys])

/-! ### What every step keeps -/

/-- A payment belongs to an order, in its currency if that is known. -/
def Agreed (db : Db) : Prop :=
  ∀ p ∈ db.payments.rows, ∃ o, db.orders.get? p.orderId = some o ∧ ∀ c, o.currency = some c → p.currency = c

/-- A known currency stays. -/
structure Order.Settles (o o' : Order) : Prop where
  totalCents : o'.totalCents = o.totalCents
  currency : ∀ c, o.currency = some c → o'.currency = some c

theorem Order.Settles.refl (o : Order) : o.Settles o := ⟨rfl, fun _ h => h⟩

theorem Order.Settles.trans {o₁ o₂ o₃ : Order} (h : o₁.Settles o₂) (h' : o₂.Settles o₃) : o₁.Settles o₃ :=
  ⟨h'.totalCents.trans h.totalCents, fun c hc => h'.currency c (h.currency c hc)⟩

/-- Orders settle, and nothing that was recorded is lost or changed. -/
structure ReviewSys.Leads (s s' : ReviewSys) : Prop where
  orders : Table.Kept Order.Settles s.sys.db.orders s'.sys.db.orders
  reviews : s.reviews.rows ⊆ s'.reviews.rows

/-- The reference names the payment or the order, as its type of evidence requires. -/
def Cites (t : Casing) (db : Db) (r : OrderCurrencyRemediation) : Prop :=
  (r.evidenceType = .providerRecord → ∃ p ∈ db.payments.rows, p.orderId = r.orderId ∧
      occursIn (t.lower p.providerPaymentId) (t.lower r.evidenceReference) = true) ∧
    (r.evidenceType = .accountingRecord → occursIn (t.lower (toString r.orderId)) (t.lower r.evidenceReference) = true ∨
      ∃ p ∈ db.payments.rows, p.orderId = r.orderId ∧
        occursIn (t.lower p.providerPaymentId) (t.lower r.evidenceReference) = true)

theorem citesPayment_some {db : Db} {orderId : Id} {ref : String}
    (h : citesPayment t (db.listForOrder orderId) ref = true) :
    ∃ p ∈ db.payments.rows, p.orderId = orderId ∧ occursIn (t.lower p.providerPaymentId) ref = true := by
  obtain ⟨p, hp, hcites⟩ := List.any_eq_true.mp h
  obtain ⟨hmem, horder⟩ := List.mem_filter.mp hp
  exact ⟨p, hmem, by simpa using horder, hcites⟩

theorem Evolves.cites (h : Evolves db db') {r : OrderCurrencyRemediation} (hr : Cites t db r) : Cites t db' r := by
  have hpayment : (∃ p ∈ db.payments.rows, p.orderId = r.orderId ∧
      occursIn (t.lower p.providerPaymentId) (t.lower r.evidenceReference) = true) →
      ∃ p ∈ db'.payments.rows, p.orderId = r.orderId ∧
        occursIn (t.lower p.providerPaymentId) (t.lower r.evidenceReference) = true := by
    rintro ⟨p, hp, horder, hcites⟩
    obtain ⟨p', hp', hsame⟩ := h.payment_of_mem hp
    exact ⟨p', Table.mem_of_get? hp', hsame.orderId.trans horder, by rw [hsame.providerPaymentId]; exact hcites⟩
  exact ⟨fun htype => hpayment (hr.1 htype), fun htype => (hr.2 htype).imp_right hpayment⟩

/-- The invariant, for a run that began with the orders of `s₀`. -/
structure ReviewInv (t : Casing) (s₀ s : ReviewSys) : Prop where
  settled : Table.Kept Order.Settles s₀.sys.db.orders s.sys.db.orders
  payments : Agreed s.sys.db
  calls : ∀ {pid call}, s.sys.proc? pid = some (.pay call) → call.Bound s.sys.db
  known : ∀ {id o₀ c}, s₀.sys.db.orders.get? id = some o₀ → o₀.currency = some c →
    ∀ r ∈ s.reviews.rows, r.orderId = id → r.decision ≠ .established
  unknown : ∀ {id o₀ o c}, s₀.sys.db.orders.get? id = some o₀ → o₀.currency = none →
    s.sys.db.orders.get? id = some o → o.currency = some c →
      ∃ r ∈ s.reviews.rows, r.orderId = id ∧ r.decision = .established ∧ r.currency = some c
  reviews : ∀ r ∈ s.reviews.rows, r.decision = .established →
    (∃ o, s.sys.db.orders.get? r.orderId = some o ∧ o.currency = r.currency) ∧ Cites t s.sys.db r
  once : ∀ r ∈ s.reviews.rows, ∀ r' ∈ s.reviews.rows, r.orderId = r'.orderId → r.decision = .established →
    r'.decision = .established → r = r'

/-- A payment call is about an order's exact total and currency, from one step to the next. -/
theorem payCall_bound_step {sys sys' : Sys} {l : Label} (h : step cfg sys l = some sys')
    (hcalls : ∀ {pid call}, sys.proc? pid = some (.pay call) → call.Bound sys.db) {pid : Id} {call : PayCall}
    (hproc : sys'.proc? pid = some (.pay call)) : call.Bound sys'.db := by
  have hkeep : ∀ {call : PayCall}, call.Bound sys.db → call.Bound sys'.db := fun hb =>
    ⟨(step_evolves h).orderFor hb.order, (step_evolves h).configuredBy hb.provider⟩
  rcases (step_transition h).entries (proc?_eq_some.mp hproc) with hold | hborn
  · exact hkeep (hcalls (proc?_eq_some.mpr hold))
  · generalize hx : (⟨pid, .pay call⟩ : Entry) = x at hborn
    cases hborn with
    | started hp hdb =>
      cases hx
      cases hp with
      | pay hplan =>
        rw [hdb]
        exact planPayment_bound hplan
    | continued hbefore hp hdb =>
      cases hx
      cases hp with
      | created ppid _ =>
        have hb := hcalls hbefore
        rw [hdb]
        exact ⟨hb.order, hb.provider⟩
    | payNext hbefore hrun =>
      cases hx
      exact payTx_bound hrun (hcalls hbefore)
    | refund => cases hx

/-- A step of the store settles nothing and keeps payments in the currency of their order. -/
theorem ReviewInv.store (hinv : ReviewInv t s₀ s) {l : Label} {sys : Sys} (h : step cfg s.sys l = some sys) :
    ReviewInv t s₀ { s with sys := sys } ∧ s.Leads { s with sys := sys } := by
  have hev := step_evolves h
  have hfrom : ∀ {id o}, sys.db.orders.get? id = some o → ∀ {o₁}, s.sys.db.orders.get? id = some o₁ →
      o.currency = o₁.currency := by
    intro id o ho o₁ ho₁
    obtain ⟨o', ho', hsame⟩ := hev.orders id o₁ ho₁
    rw [ho] at ho'
    cases ho'
    exact hsame.currency
  have hsettles : Table.Kept Order.Settles s.sys.db.orders sys.db.orders :=
    hev.orders.mono fun hsame => ⟨hsame.totalCents, fun c hc => hsame.currency.trans hc⟩
  refine ⟨?_, hsettles, List.Subset.refl _⟩
  · constructor
    · exact .trans (fun h h' => h.trans h') hinv.settled hsettles
    · intro p hp
      rcases payment_born h hp with ⟨p₀, hp₀, hsame⟩ | ⟨pid, newId, call, _, hproc, _, hrec, _⟩
      · obtain ⟨o, ho, hagree⟩ := hinv.payments p₀ hp₀
        obtain ⟨o', ho', hosame⟩ := hev.orders _ o ho
        refine ⟨o', by rw [hsame.orderId]; exact ho', fun c hc => ?_⟩
        rw [hsame.currency]
        exact hagree c (hosame.currency.symm.trans hc)
      · obtain ⟨o, ho, _, hcurrency⟩ := hev.orderFor (hinv.calls hproc).order
        refine ⟨o, by rw [hrec.orderId]; exact ho, fun c hc => ?_⟩
        rw [hrec.currency]
        exact Option.some.inj (hcurrency.symm.trans hc)
    · exact fun hproc => payCall_bound_step h hinv.calls hproc
    · exact hinv.known
    · intro id o₀ o c ho₀ hopen ho hc
      obtain ⟨o₁, ho₁, _⟩ := hinv.settled id o₀ ho₀
      exact hinv.unknown ho₀ hopen ho₁ ((hfrom ho ho₁).symm.trans hc)
    · intro r hr hest
      obtain ⟨⟨o, ho, hcurrency⟩, hcites⟩ := hinv.reviews r hr hest
      obtain ⟨o', ho', hsame⟩ := hev.orders _ o ho
      exact ⟨⟨o', ho', hsame.currency.trans hcurrency⟩, hev.cites hcites⟩
    · exact hinv.once

/-- The order takes the currency; no other row changes. -/
theorem get?_settled {orders : Table Order} {order : Order} {id : Id} (ho : orders.get? id = some order) (c : String)
    (id' : Id) : (orders.replace { order with currency := some c }).get? id'
      = if id' = id then some { order with currency := some c } else orders.get? id' := by
  have hid : order.id = id := Table.key_of_get? ho
  have hkey : Keyed.key { order with currency := some c } = id := hid
  by_cases h : id' = id
  · have hget : orders.get? (Keyed.key { order with currency := some c }) = some order := by
      rw [hkey]
      exact ho
    have := Table.get?_replace_self hget
    rw [hkey] at this
    rw [if_pos h, h]
    exact this
  · rw [if_neg h]
    exact Table.get?_replace_of_ne fun hk => h (hk.trans hkey)

theorem ReviewInv.unresolved (hinv : ReviewInv t s₀ s) {row : OrderCurrencyRemediation}
    (hrow : row.decision ≠ .established) (h : Reviewed s s' row) : ReviewInv t s₀ s' ∧ s.Leads s' := by
  have hmem : ∀ r ∈ s'.reviews.rows, r = row ∨ r ∈ s.reviews.rows := fun r hr => (Table.mem_insert? h.reviews).mp hr
  have hold : ∀ r ∈ s'.reviews.rows, r.decision = .established → r ∈ s.reviews.rows := by
    intro r hr hest
    rcases hmem r hr with rfl | hold
    · exact absurd hest hrow
    · exact hold
  have hkept : s.reviews.rows ⊆ s'.reviews.rows := fun r hr => (Table.mem_insert? h.reviews).mpr (.inr hr)
  refine ⟨?_, ?_, hkept⟩
  · constructor
    · rw [h.sys]
      exact hinv.settled
    · rw [h.sys]
      exact hinv.payments
    · intro pid call hproc
      rw [h.sys] at hproc ⊢
      exact hinv.calls hproc
    · intro id o₀ c ho₀ hc r hr horder hest
      exact hinv.known ho₀ hc r (hold r hr hest) horder hest
    · intro id o₀ o c ho₀ hopen ho hc
      rw [h.sys] at ho
      obtain ⟨r, hr, hrest⟩ := hinv.unknown ho₀ hopen ho hc
      exact ⟨r, hkept hr, hrest⟩
    · intro r hr hest
      rw [h.sys]
      exact hinv.reviews r (hold r hr hest) hest
    · intro r hr r' hr' horder hest hest'
      exact hinv.once r (hold r hr hest) r' (hold r' hr' hest') horder hest hest'
  · rw [h.sys]
    exact .refl Order.Settles.refl _

/-- An established review finds the order without a currency, and all its payments in the one it sets. -/
theorem ReviewInv.established (hinv : ReviewInv t s₀ s) {row : OrderCurrencyRemediation} {order : Order} {code : String}
    {store : StoreHistory} {s₁ : ReviewSys} (horder : s.sys.db.orders.get? row.orderId = some order)
    (hopen : order.currency = none) (hrow : row.decision = .established) (hcode : row.currency = some code)
    (h : Reviewed s s₁ row) (hevidence : CurrencyEvidence t row.orderId (s.sys.db.listForOrder row.orderId) code
      row.evidenceType row.evidenceReference store) (hs' : s' = { s₁ with sys := { s.sys with db := { s.sys.db with
        orders := s.sys.db.orders.replace { order with currency := some code } } } }) :
    ReviewInv t s₀ s' ∧ s.Leads s' := by
  subst hs'
  have hget := get?_settled horder code
  have hkept : s.reviews.rows ⊆ s₁.reviews.rows := fun r hr => (Table.mem_insert? h.reviews).mpr (.inr hr)
  have hnew : row ∈ s₁.reviews.rows := (Table.mem_insert? h.reviews).mpr (.inl rfl)
  have hsettles : Table.Kept Order.Settles s.sys.db.orders
      (s.sys.db.orders.replace { order with currency := some code }) := by
    intro id o ho
    rw [hget]
    split
    · rename_i hid
      subst hid
      rw [horder] at ho
      cases ho
      exact ⟨_, rfl, rfl, fun c hc => by rw [hopen] at hc; cases hc⟩
    · exact ⟨o, ho, .refl o⟩
  have hfirst : ∀ r ∈ s.reviews.rows, r.orderId = row.orderId → r.decision ≠ .established := h.first hrow
  refine ⟨?_, hsettles, hkept⟩
  constructor
  · exact .trans (fun h h' => h.trans h') hinv.settled hsettles
  · intro p hp
    show ∃ o, (s.sys.db.orders.replace _).get? p.orderId = some o ∧ _
    rw [hget]
    split
    · rename_i hid
      refine ⟨_, rfl, fun c hc => ?_⟩
      cases hc
      exact hevidence.agree p (List.mem_filter.mpr ⟨hp, by simpa using hid⟩)
    · exact hinv.payments p hp
  · intro pid call hproc
    obtain ⟨⟨o, ho, htotal, hcurrency⟩, hprovider⟩ := hinv.calls hproc
    refine ⟨⟨o, ?_, htotal, hcurrency⟩, hprovider⟩
    show (s.sys.db.orders.replace _).get? call.orderId = some o
    rw [hget, if_neg]
    · exact ho
    · -- the call is about an order with a known currency
      rintro hid
      rw [hid, horder] at ho
      cases ho
      rw [hopen] at hcurrency
      cases hcurrency
  · intro id o₀ c ho₀ hc r hr hid hest
    rcases (Table.mem_insert? h.reviews).mp hr with rfl | hold
    · obtain ⟨o, ho, hsettled⟩ := hinv.settled id o₀ ho₀
      rw [← hid, horder] at ho
      cases ho
      rw [hsettled.currency c hc] at hopen
      cases hopen
    · exact hinv.known ho₀ hc r hold hid hest
  · intro id o₀ o c ho₀ hunknown ho hc
    rw [show (ReviewSys.sys _).db.orders = s.sys.db.orders.replace { order with currency := some code } from rfl, hget]
      at ho
    split at ho
    · rename_i hid
      cases ho
      cases hc
      exact ⟨row, hnew, hid.symm, hrow, hcode⟩
    · obtain ⟨r, hr, hrest⟩ := hinv.unknown ho₀ hunknown ho hc
      exact ⟨r, hkept hr, hrest⟩
  · intro r hr hest
    show (∃ o, (s.sys.db.orders.replace _).get? r.orderId = some o ∧ _) ∧ _
    rw [hget]
    rcases (Table.mem_insert? h.reviews).mp hr with rfl | hold
    · rw [if_pos rfl]
      refine ⟨⟨_, rfl, hcode.symm⟩, fun htype => citesPayment_some (hevidence.provider htype), fun htype => ?_⟩
      exact (hevidence.accounting htype).imp_right citesPayment_some
    · rw [if_neg fun hid => hfirst r hold hid hest]
      obtain ⟨⟨o, ho, hcurrency⟩, hcites⟩ := hinv.reviews r hold hest
      exact ⟨⟨o, ho, hcurrency⟩, hcites⟩
  · intro r hr r' hr' hid hest hest'
    rcases (Table.mem_insert? h.reviews).mp hr with rfl | hold
    · rcases (Table.mem_insert? h.reviews).mp hr' with rfl | hold'
      · rfl
      · exact absurd hest' (hfirst r' hold' hid.symm)
    · rcases (Table.mem_insert? h.reviews).mp hr' with rfl | hold'
      · exact absurd hest (hfirst r hold hid)
      · exact hinv.once r hold r' hold' hid hest hest'

theorem ReviewInv.step (hinv : ReviewInv t s₀ s) {l : ReviewLabel} (h : reviewStep t cfg s l = some s') :
    ReviewInv t s₀ s' ∧ s.Leads s' := by
  cases l with
  | store l =>
    obtain ⟨sys, hs, rfl⟩ := Option.map_eq_some_iff.mp h
    exact hinv.store hs
  | review r store newId =>
    simp only [reviewStep] at h
    split at h
    · rename_i s₁ err hreview
      cases h
      cases review_ok hreview with
      | unresolved _ _ hrow hreviewed => exact hinv.unresolved hrow hreviewed
      | established horder hopen hrow hcode hreviewed hevidence hs' =>
        exact hinv.established horder hopen hrow hcode hreviewed hevidence hs'
    · cases h
      exact ⟨hinv, .refl Order.Settles.refl _, List.Subset.refl _⟩

/-! ### Runs -/

/-- A store with legacy orders: some have no currency, and nothing was reviewed yet. -/
structure Legacy (s : ReviewSys) : Prop where
  procs : s.sys.procs = .empty
  reviews : s.reviews = .empty
  payments : Agreed s.sys.db

theorem Legacy.inv (h₀ : Legacy s₀) : ReviewInv t s₀ s₀ where
  settled := .refl Order.Settles.refl _
  payments := h₀.payments
  calls := by
    intro pid call hproc
    unfold Sys.proc? at hproc
    rw [h₀.procs] at hproc
    cases hproc
  known := by
    intro _ _ _ _ _ r hr
    rw [h₀.reviews] at hr
    cases hr
  unknown := by
    intro id o₀ o c ho₀ hopen ho hc
    rw [ho₀] at ho
    cases ho
    rw [hopen] at hc
    cases hc
  reviews := by
    intro r hr
    rw [h₀.reviews] at hr
    cases hr
  once := by
    intro r hr
    rw [h₀.reviews] at hr
    cases hr

theorem reviewInv_of_run (h₀ : Legacy s₀) (h : ReviewRun t cfg s₀ tr s) : ReviewInv t s₀ s :=
  h.invariant h₀.inv fun hs hinv => (hinv.step hs).1

theorem review_leads (h₀ : Legacy s₀) (h : ReviewRun t cfg s₀ tr s) : ∀ x ∈ tr, x.pre.Leads s := by
  induction h with
  | nil => simp
  | cons run hs ih =>
    have hlast := ((reviewInv_of_run h₀ run).step hs).2
    intro x hx
    rcases List.mem_cons.mp hx with rfl | hold
    · exact hlast
    · have hbefore := ih x hold
      exact ⟨.trans (fun h h' => h.trans h') hbefore.orders hlast.orders, List.Subset.trans hbefore.reviews hlast.reviews⟩

/-- What the reviews of a run that began with the orders of `s₀` have settled. -/
structure Settled (t : Casing) (s₀ s : ReviewSys) : Prop where
  /-- a currency that was known stays, and is reviewed by nobody -/
  known : ∀ id o₀ c, s₀.sys.db.orders.get? id = some o₀ → o₀.currency = some c →
    (∃ o, s.sys.db.orders.get? id = some o ∧ o.totalCents = o₀.totalCents ∧ o.currency = some c) ∧
      ∀ r ∈ s.reviews.rows, r.orderId = id → r.decision ≠ .established
  /-- one that was not is what an established review says, over the same amount -/
  unknown : ∀ id o₀, s₀.sys.db.orders.get? id = some o₀ → o₀.currency = none →
    ∃ o, s.sys.db.orders.get? id = some o ∧ o.totalCents = o₀.totalCents ∧
      ∀ c, o.currency = some c ↔ ∃ r ∈ s.reviews.rows, r.orderId = id ∧ r.decision = .established ∧ r.currency = some c
  once : ∀ r ∈ s.reviews.rows, ∀ r' ∈ s.reviews.rows, r.orderId = r'.orderId → r.decision = .established →
    r'.decision = .established → r = r'
  evidence : ∀ r ∈ s.reviews.rows, r.decision = .established → Cites t s.sys.db r
  payments : Agreed s.sys.db

/-- Along every run of the store with reviews of its legacy orders, a currency is established once, by evidence about
    that order, and agrees with every payment; what was known or recorded stays. -/
theorem currency_established (h₀ : Legacy s₀) (h : ReviewRun t cfg s₀ tr s) :
    Settled t s₀ s ∧ ∀ x ∈ tr, x.pre.Leads s := by
  have hinv := reviewInv_of_run h₀ h
  refine ⟨⟨?_, ?_, hinv.once, fun r hr hest => (hinv.reviews r hr hest).2, hinv.payments⟩, review_leads h₀ h⟩
  · intro id o₀ c ho₀ hc
    obtain ⟨o, ho, hsettled⟩ := hinv.settled id o₀ ho₀
    exact ⟨⟨o, ho, hsettled.totalCents, hsettled.currency c hc⟩, hinv.known ho₀ hc⟩
  · intro id o₀ ho₀ hopen
    obtain ⟨o, ho, hsettled⟩ := hinv.settled id o₀ ho₀
    refine ⟨o, ho, hsettled.totalCents, fun c => ⟨hinv.unknown ho₀ hopen ho, ?_⟩⟩
    rintro ⟨r, hr, rfl, hest, hcurrency⟩
    obtain ⟨⟨o', ho', heq⟩, _⟩ := hinv.reviews r hr hest
    rw [ho] at ho'
    cases ho'
    rw [heq, hcurrency]

/-- A paid order of 200 whose currency was not recorded, and its payment. -/
def legacyShop : ReviewSys where
  sys := { smallShop with
    db := { smallShop.db with
      orders := ⟨[{ id := 1, userId := some 1, status := .paid, totalCents := 200, currency := none
                    stockReleasedAt := none, paidInDemoMode := false, createdAt := 0, gstCalculated := false }], by decide⟩
      payments := ⟨[{ id := 1, orderId := 1, provider := .stripe, providerConfigId := none, providerReference := none
                      providerPaymentId := "pi_1", status := .succeeded, amountCents := 200, currency := "usd"
                      providerRefundId := none, refundedAmountCents := none, amountPositive := by decide }],
        by decide⟩ } }
  reviews := .empty

theorem legacyShop_legacy : Legacy legacyShop where
  procs := rfl
  reviews := rfl
  payments := by
    intro p hp
    cases List.mem_singleton.mp hp
    refine ⟨_, rfl, fun c hc => ?_⟩
    cases hc

/-- A review of its order by administrator 9. -/
def legacyReview (currency evidenceReference : String) : CurrencyReview where
  orderId := 1
  adminUserId := 9
  unresolved := false
  currency := some currency
  evidenceType := .providerRecord
  evidenceReference := evidenceReference
  note := none
  reason := none
  storeHistoryUnambiguous := false

/-- A currency that the payment contradicts, a reference to nothing, and the provider's record. -/
theorem currency_established_legacy : ∃ tr s, ReviewRun ⟨String.toLower, id⟩ smallSettings legacyShop tr s ∧
    (Settled ⟨String.toLower, id⟩ legacyShop s ∧ ∀ x ∈ tr, x.pre.Leads s) ∧
      s.sys.db.orders.rows.map (·.currency) = [some "usd"] ∧ s.reviews.rows.map (·.decision)
        = [.established, .unresolvedInconclusive, .unresolvedConflicting] := by
  obtain ⟨tr, s, hrun, horders, hreviews⟩ := exists_exec (reviewStep ⟨String.toLower, id⟩ smallSettings) legacyShop
    (P := fun _ s => s.sys.db.orders.rows.map (·.currency) = [some "usd"] ∧ s.reviews.rows.map (·.decision)
      = [.established, .unresolvedInconclusive, .unresolvedConflicting])
    [.review (legacyReview "inr" "Charge PI_1") ⟨none, 0⟩ 1, .review (legacyReview "usd" "Our books") ⟨none, 0⟩ 2,
     .review (legacyReview "usd" "Charge PI_1") ⟨none, 0⟩ 3] (by decide +kernel)
  exact ⟨tr, s, hrun, currency_established legacyShop_legacy hrun, horders, hreviews⟩

end NovaCart
