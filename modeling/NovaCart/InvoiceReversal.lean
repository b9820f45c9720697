import NovaCart.Schema
import NovaCart.Schemes.Run

/-! The documents of one order (`issue_invoice`, `issue_credit_note` and the transactions that call them).

    Fulfilment, shipment creation and refund confirmation lock the order for update before they decide. The explicit
    request of an administrator reads the order without a lock; storing its invoice takes the key-share lock of the
    foreign key, so it waits for a transaction that has the order locked, but it does not read the order again. A
    statement sees what is committed when it runs and what its own transaction wrote. -/

namespace NovaCart

open Schemes

structure InvoicedOrder where
  status : OrderStatus
  paidInDemoMode : Bool
  /-- `is_gst_order` -/
  gst : Bool
  totalCents : ℤ
  deriving DecidableEq, Repr

structure OrderDocument where
  docType : DocType
  totalPaise : ℤ
  deriving DecidableEq, Repr

inductive OrderLock
  | none | keyShare | update
  deriving DecidableEq, Repr

/-- How far a transaction is. -/
inductive DocumentStep
  /-- `POST /orders/{id}/invoice` -/
  | explicit
  | loaded
  /-- the order it read may be invoiced -/
  | invoicing
  | fulfil
  | ship (fulfillOrder : Bool)
  /-- whether the refund was requested here and covers the whole payment -/
  | confirmRefund (fully : Bool)
  | fulfilLocked
  | shipLocked (fulfillOrder : Bool)
  | confirmLocked (fully : Bool)
  | done
  deriving DecidableEq, Repr

structure DocumentTx where
  id : Nat
  step : DocumentStep
  lock : OrderLock
  /-- the order as it was read -/
  seen : InvoicedOrder
  status : Option OrderStatus
  documents : List OrderDocument
  deriving DecidableEq, Repr

instance : Keyed DocumentTx Nat := ⟨DocumentTx.id⟩

structure OrderBooks where
  order : InvoicedOrder
  documents : List OrderDocument
  businessProfile : Bool
  txs : Table DocumentTx
  next : Nat

inductive DocumentRequest
  | explicit
  | fulfil
  | ship (fulfillOrder : Bool)
  | confirmRefund (fully : Bool)
  deriving DecidableEq, Repr

def DocumentRequest.step : DocumentRequest → DocumentStep
  | .explicit => .explicit
  | .fulfil => .fulfil
  | .ship fulfillOrder => .ship fulfillOrder
  | .confirmRefund fully => .confirmRefund fully

inductive DocumentLabel
  | begin (request : DocumentRequest)
  | statement (id : Nat)
  | commit (id : Nat)
  | rollback (id : Nat)
  /-- the payment of the pending order succeeds -/
  | markPaid (demo : Bool)
  | cancel
  | setProfile
  deriving DecidableEq

namespace OrderBooks

/-- `invoice_for`. -/
def hasDocument (s : OrderBooks) (tx : DocumentTx) (docType : DocType) : Prop :=
  ∃ d ∈ tx.documents ++ s.documents, d.docType = docType

instance (s : OrderBooks) (tx : DocumentTx) (docType : DocType) : Decidable (s.hasDocument tx docType) :=
  inferInstanceAs (Decidable (∃ d ∈ _, _))

/-- The row lock `SELECT ... FOR UPDATE` of the order, unless it must wait. -/
def lockOrder (s : OrderBooks) (tx : DocumentTx) (step : DocumentStep) : Option DocumentTx :=
  if ∃ x ∈ s.txs.rows, x.id ≠ tx.id ∧ x.lock ≠ .none then none
  else some { tx with lock := .update, seen := s.order, step := step }

/-- `_issue`: waits for the lock of the order and for another document of the type that is not committed. -/
def issue (s : OrderBooks) (tx : DocumentTx) (docType : DocType) : Option DocumentTx :=
  if s.businessProfile = false then none
  else if ∃ x ∈ s.txs.rows, x.id ≠ tx.id ∧ (x.lock = .update ∨ ∃ d ∈ x.documents, d.docType = docType) then none
  else if s.hasDocument tx docType then none
  else some { tx with
    step := .done, lock := if tx.lock = .update then .update else .keyShare
    documents := ⟨docType, tx.seen.totalCents⟩ :: tx.documents }

/-- The order is marked fulfilled, and `issue_invoice`. -/
def fulfilAndInvoice (s : OrderBooks) (tx : DocumentTx) : Option DocumentTx :=
  let tx := { tx with status := some .fulfilled }
  if s.hasDocument tx .invoice ∨ tx.seen.paidInDemoMode = true ∨ tx.seen.gst = false then some { tx with step := .done }
  else s.issue tx .invoice

/-- The next statements of a transaction, up to one that another may wait for; nothing if it waits or fails. -/
def advance (s : OrderBooks) (tx : DocumentTx) : Option DocumentTx :=
  match tx.step with
  | .explicit => some { tx with step := .loaded, seen := s.order }
  | .loaded =>
    if s.hasDocument tx .invoice then some { tx with step := .done }
    else if tx.seen.paidInDemoMode = true ∨ tx.seen.gst = false then none
    else if tx.seen.status = .paid ∨ tx.seen.status = .fulfilled then some { tx with step := .invoicing }
    else none
  | .invoicing => s.issue tx .invoice
  | .fulfil => s.lockOrder tx .fulfilLocked
  | .ship fulfillOrder => s.lockOrder tx (.shipLocked fulfillOrder)
  | .confirmRefund fully => s.lockOrder tx (.confirmLocked fully)
  | .fulfilLocked =>
    if tx.seen.status = .fulfilled then some { tx with step := .done }
    else if tx.seen.status = .paid then s.fulfilAndInvoice tx
    else none
  | .shipLocked fulfillOrder =>
    if tx.seen.status = .paid ∨ tx.seen.status = .fulfilled then
      if fulfillOrder = true ∧ tx.seen.status = .paid then s.fulfilAndInvoice tx
      else some { tx with step := .done }
    else none
  | .confirmLocked fully =>
    if fully = true ∧ (tx.seen.status = .paid ∨ tx.seen.status = .fulfilled) then
      let tx := { tx with status := some .refunded }
      if s.hasDocument tx .invoice ∧ ¬s.hasDocument tx .creditNote then s.issue tx .creditNote
      else some { tx with step := .done }
    else some { tx with step := .done }
  | .done => none

/-- Nobody has the order locked. -/
def unlocked (s : OrderBooks) : Prop := ∀ x ∈ s.txs.rows, x.lock = .none

instance (s : OrderBooks) : Decidable s.unlocked := inferInstanceAs (Decidable (∀ x ∈ s.txs.rows, _))

end OrderBooks

def documentStep (s : OrderBooks) : DocumentLabel → Option OrderBooks
  | .begin request => do
    let txs ← s.txs.insert? ⟨s.next, request.step, .none, s.order, none, []⟩
    some { s with txs := txs, next := s.next + 1 }
  | .statement id => do
    let tx ← s.txs.get? id
    let tx' ← s.advance tx
    some { s with txs := s.txs.replace tx' }
  | .commit id => do
    let tx ← s.txs.get? id
    if tx.step = .done then
      some { s with
        order := { s.order with status := tx.status.getD s.order.status }
        documents := tx.documents ++ s.documents, txs := s.txs.erase id }
    else none
  | .rollback id => some { s with txs := s.txs.erase id }
  | .markPaid demo =>
    if s.order.status = .pending ∧ s.unlocked then
      some { s with order := { s.order with status := .paid, paidInDemoMode := demo } }
    else none
  | .cancel =>
    if s.order.status = .pending ∧ s.unlocked then some { s with order := { s.order with status := .cancelled } } else none
  | .setProfile => some { s with businessProfile := true }

abbrev DocumentRun (s₀ : OrderBooks) (tr : List (Taken OrderBooks DocumentLabel)) (s : OrderBooks) : Prop :=
  Exec documentStep s₀ tr s

/-- An order that was just placed. -/
structure OrderBooks.Initial (s : OrderBooks) : Prop where
  status : s.order.status = .pending
  documents : s.documents = []
  txs : s.txs = .empty

/-- An administrator's invoice is stored only for an order that no refund has closed since it was read. -/
def StillOpen (t : Taken OrderBooks DocumentLabel) : Prop :=
  ∀ id, t.label = .statement id → ∀ tx ∈ t.pre.txs.get? id, tx.step = .invoicing → t.pre.order.status ≠ .refunded

/-! ### What is kept -/

section

variable {s₀ s s' : OrderBooks} {l : DocumentLabel} {tr : List (Taken OrderBooks DocumentLabel)} {tx tx' : DocumentTx}

/-- Whether a list has a document of the type. -/
def Has (documents : List OrderDocument) (docType : DocType) : Prop := ∃ d ∈ documents, d.docType = docType

/-- What an open transaction has written, and what it knows of the order. -/
structure DocumentTx.Fits (s : OrderBooks) (tx : DocumentTx) : Prop where
  total : tx.seen.totalCents = s.order.totalCents
  totals : ∀ d ∈ tx.documents, d.totalPaise = s.order.totalCents
  /-- a transaction with the order locked knows its status -/
  locked : tx.lock = .update → tx.seen.status = s.order.status
  mustLock : tx.lock ≠ .update → tx.status = none ∧ ∀ f, tx.step ≠ .fulfilLocked ∧ tx.step ≠ .shipLocked f
    ∧ tx.step ≠ .confirmLocked f
  unlocked : tx.lock = .none → tx.documents = []
  /-- nothing is written before the last statement -/
  clean : tx.step ≠ .done → tx.documents = [] ∧ tx.status = none
  /-- an invoice is for an order that is open, and the first -/
  invoice : Has tx.documents .invoice → s.order.status ≠ .refunded ∧ ¬Has s.documents .invoice ∧ tx.status ≠ some .refunded
  /-- a refund stores a credit note exactly if there is an invoice -/
  refund : tx.status = some .refunded → (s.order.status = .paid ∨ s.order.status = .fulfilled)
    ∧ (Has tx.documents .creditNote ↔ Has s.documents .invoice)
  credit : Has tx.documents .creditNote → tx.status = some .refunded ∧ ¬Has s.documents .creditNote
  single : (tx.documents.map OrderDocument.docType).Nodup
  fulfils : ∀ status, tx.status = some status → status = .fulfilled ∨ status = .refunded
  fulfilsPaid : tx.status = some .fulfilled → s.order.status = .paid

structure ReversalInv (s : OrderBooks) : Prop where
  alone : ∀ x ∈ s.txs.rows, ∀ y ∈ s.txs.rows, x.lock = .update → y.lock ≠ .none → x.id = y.id
  fits : ∀ x ∈ s.txs.rows, x.Fits s
  /-- two transactions do not store a document of one type -/
  apart : ∀ x ∈ s.txs.rows, ∀ y ∈ s.txs.rows, ∀ docType, Has x.documents docType → Has y.documents docType → x.id = y.id
  reversed : s.order.status = .refunded → (Has s.documents .invoice ↔ Has s.documents .creditNote)
  uncredited : s.order.status ≠ .refunded → ¬Has s.documents .creditNote
  totals : ∀ d ∈ s.documents, d.totalPaise = s.order.totalCents
  single : (s.documents.map OrderDocument.docType).Nodup

theorem has_nil (docType : DocType) : ¬Has [] docType := by rintro ⟨_, h, _⟩; cases h

theorem has_cons {d : OrderDocument} {ds : List OrderDocument} {docType : DocType} :
    Has (d :: ds) docType ↔ d.docType = docType ∨ Has ds docType := by
  simp only [Has, List.mem_cons, exists_eq_or_imp]

theorem has_append {ds ds' : List OrderDocument} {docType : DocType} :
    Has (ds ++ ds') docType ↔ Has ds docType ∨ Has ds' docType := by
  simp only [Has, List.mem_append, or_and_right, exists_or]

theorem DocumentTx.Fits.congr (h : tx.Fits s) (ho : s'.order = s.order) (hd : s'.documents = s.documents) : tx.Fits s' := by
  refine ⟨?_, ?_, ?_, h.mustLock, h.unlocked, h.clean, ?_, ?_, ?_, h.single, h.fulfils, ?_⟩
  · rw [ho]; exact h.total
  · rw [ho]; exact h.totals
  · rw [ho]; exact h.locked
  · rw [ho, hd]; exact h.invoice
  · rw [ho, hd]; exact h.refund
  · rw [hd]; exact h.credit
  · rw [ho]; exact h.fulfilsPaid

/-- A transaction that has written nothing fits, whatever becomes of the order. -/
theorem DocumentTx.Fits.of_clean (h : tx.Fits s) (hlock : tx.lock = .none)
    (htotal : s'.order.totalCents = s.order.totalCents) : tx.Fits s' := by
  have hdocs := h.unlocked hlock
  have hstatus : tx.status = none := (h.mustLock (by rw [hlock]; decide)).1
  refine ⟨h.total.trans htotal.symm, ?_, fun hu => absurd (hlock.symm.trans hu) (by decide), h.mustLock, h.unlocked,
    h.clean, fun hi => ?_, fun hr => ?_, fun hc => ?_, h.single, h.fulfils, fun hf => ?_⟩
  · rw [hdocs]; rintro d ⟨⟩
  · exact absurd (hdocs ▸ hi) (has_nil _)
  · rw [hstatus] at hr; cases hr
  · exact absurd (hdocs ▸ hc) (has_nil _)
  · rw [hstatus] at hf; cases hf

/-- What the statements of a transaction come to. -/
inductive DocumentTx.Advances (s : OrderBooks) (tx : DocumentTx) : DocumentTx → Prop
  | read : tx.Advances s { tx with step := .loaded, seen := s.order }
  | go (step : DocumentStep) (hstep : step = .invoicing ∨ step = .done) : tx.Advances s { tx with step := step }
  | lock (step : DocumentStep) (hothers : ∀ x ∈ s.txs.rows, x.id ≠ tx.id → x.lock = .none) :
      tx.Advances s { tx with lock := .update, seen := s.order, step := step }
  | fulfil (hlock : tx.lock = .update) (hpaid : s.order.status = .paid) :
      tx.Advances s { tx with status := some .fulfilled, step := .done }
  | invoice (status : Option OrderStatus)
      (hstatus : status = none ∧ s.order.status ≠ .refunded
        ∨ status = some .fulfilled ∧ s.order.status = .paid ∧ tx.lock = .update)
      (hothers : ∀ x ∈ s.txs.rows, x.id ≠ tx.id → x.lock ≠ .update ∧ ¬Has x.documents .invoice)
      (hfirst : ¬Has s.documents .invoice) :
      tx.Advances s { tx with
        step := .done, lock := if tx.lock = .update then .update else .keyShare, status := status
        documents := [⟨.invoice, tx.seen.totalCents⟩] }
  | refund (hlock : tx.lock = .update) (hopen : s.order.status = .paid ∨ s.order.status = .fulfilled)
      (documents : List OrderDocument)
      (hdocs : documents = [] ∧ ¬Has s.documents .invoice
        ∨ documents = [⟨.creditNote, tx.seen.totalCents⟩] ∧ Has s.documents .invoice) :
      tx.Advances s { tx with status := some .refunded, step := .done, documents := documents }

theorem lockOrder_some {step : DocumentStep} (h : s.lockOrder tx step = some tx') : tx.Advances s tx' := by
  rw [OrderBooks.lockOrder] at h
  split at h
  · cases h
  · rename_i hfree
    cases h
    refine .lock step fun x hx hne => ?_
    by_contra hlock
    exact hfree ⟨x, hx, hne, hlock⟩

theorem issue_some {docType : DocType} (h : s.issue tx docType = some tx') :
    (∀ x ∈ s.txs.rows, x.id ≠ tx.id → x.lock ≠ .update ∧ ¬Has x.documents docType) ∧ ¬s.hasDocument tx docType
    ∧ tx' = { tx with
        step := .done, lock := if tx.lock = .update then .update else .keyShare
        documents := ⟨docType, tx.seen.totalCents⟩ :: tx.documents } := by
  rw [OrderBooks.issue] at h
  by_cases hp : s.businessProfile = false
  · rw [if_pos hp] at h; cases h
  rw [if_neg hp] at h
  by_cases hw : ∃ x ∈ s.txs.rows, x.id ≠ tx.id ∧ (x.lock = .update ∨ ∃ d ∈ x.documents, d.docType = docType)
  · rw [if_pos hw] at h; cases h
  rw [if_neg hw] at h
  by_cases hd : s.hasDocument tx docType
  · rw [if_pos hd] at h; cases h
  rw [if_neg hd] at h
  refine ⟨fun x hx hne => ⟨fun hu => hw ⟨x, hx, hne, .inl hu⟩, fun hh => hw ⟨x, hx, hne, .inr hh⟩⟩, hd, ?_⟩
  exact (Option.some.inj h).symm

theorem hasDocument_clean {docType : DocType} (hdocs : tx.documents = []) :
    s.hasDocument tx docType ↔ Has s.documents docType := by
  rw [OrderBooks.hasDocument, hdocs, List.nil_append]; rfl

theorem fulfilAndInvoice_some (hdocs : tx.documents = []) (hlock : tx.lock = .update) (hpaid : s.order.status = .paid)
    (h : s.fulfilAndInvoice tx = some tx') : tx.Advances s tx' := by
  rw [OrderBooks.fulfilAndInvoice] at h
  dsimp only at h
  split at h
  · cases h
    exact .fulfil hlock hpaid
  · obtain ⟨hothers, hfirst, rfl⟩ := issue_some h
    rw [hasDocument_clean (by exact hdocs)] at hfirst
    have hadv := DocumentTx.Advances.invoice (some .fulfilled) (.inr ⟨rfl, hpaid, hlock⟩) hothers hfirst
    rw [hdocs]
    exact hadv

theorem advance_cases (hfits : tx.Fits s) (hrev : ReversalInv s)
    (hopen : tx.step = .invoicing → s.order.status ≠ .refunded) (h : s.advance tx = some tx') :
    tx.step ≠ .done ∧ tx.Advances s tx' := by
  have hlocked : ∀ f, (tx.step = .fulfilLocked ∨ tx.step = .shipLocked f ∨ tx.step = .confirmLocked f) →
      tx.lock = .update := by
    intro f hstep
    by_contra hne
    have hnot := (hfits.mustLock hne).2 f
    tauto
  cases hstep : tx.step with
  | explicit => 
    rw [OrderBooks.advance, hstep] at h
    cases h
    exact ⟨by decide, .read⟩
  | loaded =>
    rw [OrderBooks.advance, hstep] at h
    refine ⟨by decide, ?_⟩
    dsimp only at h
    split at h
    · cases h; exact .go _ (.inr rfl)
    · split at h
      · cases h
      · split at h
        · cases h; exact .go _ (.inl rfl)
        · cases h
  | invoicing =>
    obtain ⟨hdocs, hstatus⟩ := hfits.clean (by rw [hstep]; decide)
    rw [OrderBooks.advance, hstep] at h
    obtain ⟨hothers, hfirst, rfl⟩ := issue_some h
    rw [hasDocument_clean hdocs] at hfirst
    have hadv := DocumentTx.Advances.invoice none (.inl ⟨rfl, hopen hstep⟩) hothers hfirst
    rw [← hstatus] at hadv
    rw [hdocs]
    exact ⟨by decide, hadv⟩
  | fulfil =>
    rw [OrderBooks.advance, hstep] at h
    exact ⟨by decide, lockOrder_some h⟩
  | ship f =>
    rw [OrderBooks.advance, hstep] at h
    exact ⟨by simp, lockOrder_some h⟩
  | confirmRefund f =>
    rw [OrderBooks.advance, hstep] at h
    exact ⟨by simp, lockOrder_some h⟩
  | fulfilLocked =>
    have hlock := hlocked true (.inl hstep)
    have hdocs := (hfits.clean (by rw [hstep]; decide)).1
    rw [OrderBooks.advance, hstep] at h
    refine ⟨by decide, ?_⟩
    dsimp only at h
    split at h
    · cases h; exact .go _ (.inr rfl)
    · split at h
      · rename_i hpaid
        exact fulfilAndInvoice_some hdocs hlock ((hfits.locked hlock).symm.trans hpaid) h
      · cases h
  | shipLocked f =>
    have hlock := hlocked f (.inr (.inl hstep))
    have hdocs := (hfits.clean (by rw [hstep]; simp)).1
    rw [OrderBooks.advance, hstep] at h
    refine ⟨by simp, ?_⟩
    dsimp only at h
    split at h
    · split at h
      · rename_i hpaid
        exact fulfilAndInvoice_some hdocs hlock ((hfits.locked hlock).symm.trans hpaid.2) h
      · cases h; exact .go _ (.inr rfl)
    · cases h
  | confirmLocked f =>
    have hlock := hlocked f (.inr (.inr hstep))
    have hdocs := (hfits.clean (by rw [hstep]; simp)).1
    rw [OrderBooks.advance, hstep] at h
    refine ⟨by simp, ?_⟩
    dsimp only at h
    split at h
    · rename_i hfull
      have hpaid : s.order.status = .paid ∨ s.order.status = .fulfilled := by rw [← hfits.locked hlock]; exact hfull.2
      have hfree : ¬Has s.documents .creditNote := hrev.uncredited (by rcases hpaid with h | h <;> rw [h] <;> decide)
      split at h
      · rename_i hinvoice
        obtain ⟨_, _, rfl⟩ := issue_some h
        have hadv := DocumentTx.Advances.refund hlock hpaid _ (.inr ⟨rfl, (hasDocument_clean hdocs).mp hinvoice.1⟩)
        rw [hdocs]
        simpa only [hlock, if_true] using hadv
      · rename_i hnone
        cases h
        have hadv := DocumentTx.Advances.refund hlock hpaid _ (.inl ⟨rfl, fun hi =>
          hnone ⟨(hasDocument_clean hdocs).mpr hi, (hasDocument_clean hdocs).not.mpr hfree⟩⟩)
        rw [← hdocs] at hadv
        exact hadv
    · cases h; exact .go _ (.inr rfl)
  | done => rw [OrderBooks.advance, hstep] at h; cases h

theorem has_single {d : OrderDocument} {docType : DocType} : Has [d] docType ↔ d.docType = docType := by
  rw [has_cons]
  exact or_iff_left (has_nil _)

/-- The transaction that stores a document is the only one that may store one of its type. -/
theorem DocumentTx.Advances.fits (hadv : tx.Advances s tx') (hstep : tx.step ≠ .done) (hfits : tx.Fits s) (hrev : ReversalInv s) :
    tx'.Fits s := by
  obtain ⟨hdocs, hstatus⟩ := hfits.clean hstep
  cases hadv with
  | read =>
    refine ⟨rfl, hfits.totals, fun _ => rfl, fun hne => ⟨hstatus, by simp⟩, hfits.unlocked, fun _ => ⟨hdocs, hstatus⟩,
      hfits.invoice, hfits.refund, hfits.credit, hfits.single, hfits.fulfils, hfits.fulfilsPaid⟩
  | go step hgo =>
    refine ⟨hfits.total, hfits.totals, hfits.locked, fun hne => ⟨hstatus, ?_⟩, hfits.unlocked,
      fun _ => ⟨hdocs, hstatus⟩, hfits.invoice, hfits.refund, hfits.credit, hfits.single, hfits.fulfils, hfits.fulfilsPaid⟩
    rcases hgo with rfl | rfl
    · simp
    · simp
  | lock step hothers =>
    refine ⟨rfl, hfits.totals, fun _ => rfl, fun hne => absurd rfl hne, fun hnone => (by cases hnone),
      fun _ => ⟨hdocs, hstatus⟩, hfits.invoice, hfits.refund, hfits.credit, hfits.single, hfits.fulfils, hfits.fulfilsPaid⟩
  | fulfil hlock hpaid =>
    refine ⟨hfits.total, hfits.totals, hfits.locked, fun hne => absurd hlock hne, hfits.unlocked,
      fun hne => absurd rfl hne, fun hi => ?_, ?_, fun hc => ?_, hfits.single, ?_, fun _ => hpaid⟩
    · exact absurd (hdocs ▸ hi) (has_nil _)
    · rintro ⟨⟩
    · exact absurd (hdocs ▸ hc) (has_nil _)
    · rintro _ ⟨⟩; exact .inl rfl
  | invoice status hwrite hothers hfirst =>
    have hclosed : s.order.status ≠ .refunded := by
      rcases hwrite with ⟨_, hopen⟩ | ⟨_, hpaid, _⟩
      · exact hopen
      · rw [hpaid]; decide
    have hnot : status ≠ some .refunded := by
      rcases hwrite with ⟨rfl, _⟩ | ⟨rfl, _⟩ <;> decide
    refine ⟨hfits.total, ?_, ?_, ?_, ?_, fun hne => absurd rfl hne, fun _ => ⟨hclosed, hfirst, hnot⟩,
      fun hr => absurd hr hnot, fun hc => ?_, List.nodup_singleton _, ?_, ?_⟩
    · intro d hd
      rw [List.mem_singleton.mp hd]
      exact hfits.total
    · intro hu
      refine hfits.locked ?_
      by_contra hne
      rw [if_neg hne] at hu
      cases hu
    · intro hne
      refine ⟨?_, by simp⟩
      rcases hwrite with ⟨rfl, _⟩ | ⟨_, _, hlock⟩
      · rfl
      · exact absurd (if_pos hlock) hne
    · intro hnone
      by_cases hlock : tx.lock = .update
      · rw [if_pos hlock] at hnone; cases hnone
      · rw [if_neg hlock] at hnone; cases hnone
    · cases has_single.mp hc
    · rintro _ rfl
      rcases hwrite with ⟨h, _⟩ | ⟨h, _⟩
      · cases h
      · cases h; exact .inl rfl
    · rintro rfl
      rcases hwrite with ⟨h, _⟩ | ⟨_, hpaid, _⟩
      · cases h
      · exact hpaid
  | refund hlock hopen documents hwrite =>
    have hnot : s.order.status ≠ .refunded := by rcases hopen with h | h <;> rw [h] <;> decide
    refine ⟨hfits.total, ?_, hfits.locked, fun hne => absurd hlock hne, fun hnone => ?_, fun hne => absurd rfl hne,
      fun hi => ?_, fun _ => ⟨hopen, ?_⟩, fun _ => ⟨rfl, hrev.uncredited hnot⟩, ?_, ?_, by rintro ⟨⟩⟩
    · rcases hwrite with ⟨rfl, _⟩ | ⟨rfl, _⟩
      · rintro d ⟨⟩
      · intro d hd
        rw [List.mem_singleton.mp hd]
        exact hfits.total
    · rw [hlock] at hnone; cases hnone
    · rcases hwrite with ⟨rfl, _⟩ | ⟨rfl, _⟩
      · exact absurd hi (has_nil _)
      · cases has_single.mp hi
    · rcases hwrite with ⟨rfl, hno⟩ | ⟨rfl, hyes⟩
      · exact iff_of_false (has_nil _) hno
      · exact iff_of_true (has_single.mpr rfl) hyes
    · rcases hwrite with ⟨rfl, _⟩ | ⟨rfl, _⟩
      · exact List.nodup_nil
      · exact List.nodup_singleton _
    · rintro _ ⟨⟩; exact .inr rfl

/-- What a transaction that goes on owes to the others. -/
theorem DocumentTx.Advances.others (hadv : tx.Advances s tx') (hstep : tx.step ≠ .done) (hrev : ReversalInv s)
    (htx : tx ∈ s.txs.rows) : ∀ x ∈ s.txs.rows, x.id ≠ tx.id →
    (tx'.lock = .update → x.lock = .none) ∧ (x.lock = .update → tx'.lock = .none)
      ∧ ∀ docType, Has tx'.documents docType → ¬Has x.documents docType := by
  intro x hx hne
  have hdocs := ((hrev.fits tx htx).clean hstep).1
  have hmine (hu : tx.lock = .update) : x.lock = .none := by
    by_contra hxl
    exact hne (hrev.alone tx htx x hx hu hxl).symm
  have hyours (hu : x.lock = .update) : tx.lock = .none := by
    by_contra hxl
    exact hne (hrev.alone x hx tx htx hu hxl)
  have hnothing (docType : DocType) (hd : Has tx.documents docType) : ¬Has x.documents docType :=
    absurd (hdocs ▸ hd) (has_nil _)
  have hclean (hlock : x.lock = .none) (docType : DocType) : ¬Has x.documents docType := by
    rw [(hrev.fits x hx).unlocked hlock]
    exact has_nil _
  cases hadv with
  | read => exact ⟨hmine, hyours, hnothing⟩
  | go step _ => exact ⟨hmine, hyours, hnothing⟩
  | lock step hothers =>
    refine ⟨fun _ => hothers x hx hne, fun hu => ?_, hnothing⟩
    rw [hothers x hx hne] at hu; cases hu
  | fulfil hlock hpaid => exact ⟨hmine, hyours, hnothing⟩
  | invoice status hwrite hothers hfirst =>
    obtain ⟨hfree, hnone⟩ := hothers x hx hne
    refine ⟨fun hu => hmine ?_, fun hu => absurd hu hfree, fun docType hd => ?_⟩
    · by_contra hnu
      rw [if_neg hnu] at hu
      cases hu
    · rw [← has_single.mp hd]; exact hnone
  | refund hlock hopen documents hwrite => exact ⟨hmine, hyours, fun docType _ => hclean (hmine hlock) docType⟩

theorem DocumentTx.Advances.id (hadv : tx.Advances s tx') : tx'.id = tx.id := by cases hadv <;> rfl

theorem ReversalInv.statement (hrev : ReversalInv s) (htx : s.txs.get? tx.id = some tx) (hadv : tx.Advances s tx')
    (hstep : tx.step ≠ .done) : ReversalInv { s with txs := s.txs.replace tx' } := by
  have hmem := Table.mem_of_get? htx
  have hid := hadv.id
  have hothers := hadv.others hstep hrev hmem
  have hfits := hadv.fits hstep (hrev.fits tx hmem) hrev
  have hrows : ∀ x, x ∈ (s.txs.replace tx').rows ↔ x = tx' ∨ (x ∈ s.txs.rows ∧ x.id ≠ tx.id) := by
    intro x
    rw [← hid] at htx
    rw [Table.mem_replace (r := tx) htx, ← hid]
    rfl
  refine ⟨?_, ?_, ?_, hrev.reversed, hrev.uncredited, hrev.totals, hrev.single⟩
  · intro x hx y hy hxl hyl
    rcases (hrows x).mp hx with rfl | ⟨hxs, hxne⟩
    · rcases (hrows y).mp hy with rfl | ⟨hy, hyne⟩
      · rfl
      · exact absurd ((hothers y hy hyne).1 hxl) hyl
    · rcases (hrows y).mp hy with rfl | ⟨hy, hyne⟩
      · exact absurd ((hothers x hxs hxne).2.1 hxl) hyl
      · exact hrev.alone x hxs y hy hxl hyl
  · intro x hx
    rcases (hrows x).mp hx with rfl | ⟨hx, _⟩
    · exact hfits.congr rfl rfl
    · exact (hrev.fits x hx).congr rfl rfl
  · intro x hx y hy docType hxd hyd
    rcases (hrows x).mp hx with rfl | ⟨hxs, hxne⟩
    · rcases (hrows y).mp hy with rfl | ⟨hy, hyne⟩
      · rfl
      · exact absurd hyd ((hothers y hy hyne).2.2 docType hxd)
    · rcases (hrows y).mp hy with rfl | ⟨hy, hyne⟩
      · exact absurd hxd ((hothers x hxs hxne).2.2 docType hyd)
      · exact hrev.apart x hxs y hy docType hxd hyd

/-- The documents of the order after a commit. -/
theorem ReversalInv.commit (hrev : ReversalInv s) (htx : tx ∈ s.txs.rows) :
    ReversalInv { s with
      order := { s.order with status := tx.status.getD s.order.status }
      documents := tx.documents ++ s.documents, txs := s.txs.erase tx.id } := by
  have hfits := hrev.fits tx htx
  have hstay : ∀ x ∈ (s.txs.erase tx.id).rows, x ∈ s.txs.rows ∧ x.id ≠ tx.id := fun x hx => Table.mem_erase.mp hx
  refine ⟨fun x hx y hy => hrev.alone x (hstay x hx).1 y (hstay y hy).1, fun x hx => ?_,
    fun x hx y hy => hrev.apart x (hstay x hx).1 y (hstay y hy).1, fun hrefunded => ?_, fun hopen => ?_, fun d hd => ?_, ?_⟩
  · obtain ⟨hx, hne⟩ := hstay x hx
    have hxfits := hrev.fits x hx
    by_cases hlock : x.lock = .none
    · exact hxfits.of_clean hlock rfl
    · -- another transaction has a lock, so this one has not the order's and changes no status
      have hnone : tx.status = none := by
        refine (hfits.mustLock fun hu => hne ?_).1
        exact (hrev.alone tx htx x hx hu hlock).symm
      have hsame : ({ s.order with status := tx.status.getD s.order.status } : InvoicedOrder) = s.order := by
        rw [hnone]; rfl
      have hapart (docType : DocType) (hd : Has x.documents docType) : ¬Has tx.documents docType :=
        fun hh => hne (hrev.apart x hx tx htx docType hd hh)
      have hunrefunded (hr : x.status = some .refunded) : ¬Has tx.documents .invoice := by
        intro hi
        have hlock : x.lock = .update := by
          by_contra hu
          rw [(hxfits.mustLock hu).1] at hr; cases hr
        have hclean := hfits.unlocked (by
          by_contra hl
          exact hne (hrev.alone x hx tx htx hlock hl))
        rw [hclean] at hi
        exact has_nil _ hi
      refine ⟨hxfits.total, hxfits.totals, ?_, hxfits.mustLock, hxfits.unlocked, hxfits.clean, fun hi => ?_, fun hr => ?_,
        fun hc => ?_, hxfits.single, hxfits.fulfils, ?_⟩
      · show _ → _ = (InvoicedOrder.status _)
        rw [hsame]; exact hxfits.locked
      · obtain ⟨h₁, h₂, h₃⟩ := hxfits.invoice hi
        refine ⟨?_, ?_, h₃⟩
        · show InvoicedOrder.status _ ≠ _
          rw [hsame]; exact h₁
        · rw [has_append, not_or]
          exact ⟨hapart _ hi, h₂⟩
      · obtain ⟨h₁, h₂⟩ := hxfits.refund hr
        refine ⟨?_, ?_⟩
        · show InvoicedOrder.status _ = _ ∨ InvoicedOrder.status _ = _
          rw [hsame]; exact h₁
        · rw [h₂, has_append]
          exact (or_iff_right (hunrefunded hr)).symm
      · obtain ⟨h₁, h₂⟩ := hxfits.credit hc
        refine ⟨h₁, ?_⟩
        rw [has_append, not_or]
        exact ⟨hapart _ hc, h₂⟩
      · show _ → InvoicedOrder.status _ = _
        rw [hsame]; exact hxfits.fulfilsPaid
  · show Has (tx.documents ++ s.documents) _ ↔ Has (tx.documents ++ s.documents) _
    replace hrefunded : tx.status.getD s.order.status = .refunded := hrefunded
    rw [has_append, has_append]
    cases hstatus : tx.status with
    | none =>
      rw [hstatus] at hrefunded
      have hi : ¬Has tx.documents .invoice := fun hi => (hfits.invoice hi).1 hrefunded
      have hc : ¬Has tx.documents .creditNote := by
        intro hc
        have := (hfits.credit hc).1
        rw [hstatus] at this; cases this
      rw [or_iff_right hi, or_iff_right hc]
      exact hrev.reversed hrefunded
    | some status =>
      rw [hstatus] at hrefunded
      obtain rfl : status = .refunded := hrefunded
      obtain ⟨hopen, hiff⟩ := hfits.refund hstatus
      have hi : ¬Has tx.documents .invoice := fun hi => (hfits.invoice hi).2.2 hstatus
      have hc : ¬Has s.documents .creditNote := hrev.uncredited (by rcases hopen with h | h <;> rw [h] <;> decide)
      rw [or_iff_right hi, or_iff_left hc, hiff]
  · show ¬Has (tx.documents ++ s.documents) _
    replace hopen : tx.status.getD s.order.status ≠ .refunded := hopen
    rw [has_append, not_or]
    refine ⟨fun hc => ?_, hrev.uncredited fun hr => ?_⟩
    · rw [(hfits.credit hc).1] at hopen
      exact hopen rfl
    · cases hstatus : tx.status with
      | none => rw [hstatus] at hopen; exact hopen hr
      | some status =>
        rcases hfits.fulfils status hstatus with rfl | rfl
        · rw [hfits.fulfilsPaid hstatus] at hr; cases hr
        · rw [hstatus] at hopen; exact hopen rfl
  · rcases List.mem_append.mp hd with hd | hd
    · exact hfits.totals d hd
    · exact hrev.totals d hd
  · show ((tx.documents ++ s.documents).map _).Nodup
    rw [List.map_append]
    refine List.nodup_append.mpr ⟨hfits.single, hrev.single, ?_⟩
    rintro docType hmine _ hcommitted rfl
    obtain ⟨d, hd, rfl⟩ := List.mem_map.mp hmine
    obtain ⟨d', hd', heq⟩ := List.mem_map.mp hcommitted
    have hhas : Has s.documents d.docType := ⟨d', hd', heq⟩
    cases htype : d.docType with
    | invoice => exact (hfits.invoice ⟨d, hd, htype⟩).2.1 (htype ▸ hhas)
    | creditNote => exact (hfits.credit ⟨d, hd, htype⟩).2 (htype ▸ hhas)

/-- The order changes while nobody has it locked. -/
theorem ReversalInv.unlocked (hrev : ReversalInv s) (hfree : s.unlocked) {order : InvoicedOrder}
    (hwas : s.order.status ≠ .refunded) (hstatus : order.status ≠ .refunded)
    (htotal : order.totalCents = s.order.totalCents) : ReversalInv { s with order := order } := by
  refine ⟨hrev.alone, fun x hx => (hrev.fits x hx).of_clean (hfree x hx) htotal, hrev.apart,
    fun h => absurd h hstatus, fun _ => hrev.uncredited hwas, fun d hd => ?_, hrev.single⟩
  rw [hrev.totals d hd]
  exact htotal.symm

theorem ReversalInv.step (hrev : ReversalInv s) (hopen : StillOpen ⟨s, l, s'⟩) (h : documentStep s l = some s') :
    ReversalInv s' := by
  cases l with
  | begin request =>
    obtain ⟨txs, hins, hs⟩ := Option.bind_eq_some_iff.mp h
    cases hs
    have hrows := fun x => Table.mem_insert? (x := x) hins
    have hnew : DocumentTx.Fits s ⟨s.next, request.step, .none, s.order, none, []⟩ := by
      refine ⟨rfl, by rintro d ⟨⟩, by rintro ⟨⟩, fun _ => ⟨rfl, fun f => ?_⟩, fun _ => rfl, fun _ => ⟨rfl, rfl⟩,
        fun hi => absurd hi (has_nil _), by rintro ⟨⟩, fun hc => absurd hc (has_nil _), List.nodup_nil, by rintro _ ⟨⟩,
        by rintro ⟨⟩⟩
      cases request <;> simp [DocumentRequest.step]
    refine ⟨?_, ?_, ?_, hrev.reversed, hrev.uncredited, hrev.totals, hrev.single⟩
    · intro x hx y hy hxl hyl
      rcases (hrows x).mp hx with rfl | hx
      · cases hxl
      · rcases (hrows y).mp hy with rfl | hy
        · exact absurd rfl hyl
        · exact hrev.alone x hx y hy hxl hyl
    · intro x hx
      rcases (hrows x).mp hx with rfl | hx
      · exact hnew.congr rfl rfl
      · exact (hrev.fits x hx).congr rfl rfl
    · intro x hx y hy docType hxd hyd
      rcases (hrows x).mp hx with rfl | hx
      · exact absurd hxd (has_nil _)
      · rcases (hrows y).mp hy with rfl | hy
        · exact absurd hyd (has_nil _)
        · exact hrev.apart x hx y hy docType hxd hyd
  | statement id =>
    obtain ⟨tx, htx, hs⟩ := Option.bind_eq_some_iff.mp h
    obtain ⟨tx', hadvance, hs⟩ := Option.bind_eq_some_iff.mp hs
    cases hs
    obtain rfl : tx.id = id := Table.key_of_get? htx
    obtain ⟨hstep, hadv⟩ := advance_cases (hrev.fits tx (Table.mem_of_get? htx)) hrev (hopen _ rfl tx htx) hadvance
    exact hrev.statement htx hadv hstep
  | commit id =>
    obtain ⟨tx, htx, hs⟩ := Option.bind_eq_some_iff.mp h
    obtain rfl : tx.id = id := Table.key_of_get? htx
    split at hs
    · cases hs
      exact hrev.commit (Table.mem_of_get? htx)
    · cases hs
  | rollback id =>
    cases h
    have hstay : ∀ x ∈ (s.txs.erase id).rows, x ∈ s.txs.rows := fun x hx => (Table.mem_erase.mp hx).1
    exact ⟨fun x hx y hy => hrev.alone x (hstay x hx) y (hstay y hy), fun x hx => (hrev.fits x (hstay x hx)).congr rfl rfl,
      fun x hx y hy => hrev.apart x (hstay x hx) y (hstay y hy), hrev.reversed, hrev.uncredited, hrev.totals, hrev.single⟩
  | markPaid demo =>
    rw [documentStep] at h
    split at h
    · rename_i hpending
      cases h
      exact hrev.unlocked hpending.2 (by rw [hpending.1]; decide) (fun hr => by cases hr) rfl
    · cases h
  | cancel =>
    rw [documentStep] at h
    split at h
    · rename_i hpending
      cases h
      exact hrev.unlocked hpending.2 (by rw [hpending.1]; decide) (fun hr => by cases hr) rfl
    · cases h
  | setProfile =>
    cases h
    exact ⟨hrev.alone, fun x hx => (hrev.fits x hx).congr rfl rfl, hrev.apart, hrev.reversed, hrev.uncredited, hrev.totals,
      hrev.single⟩

theorem ReversalInv.initial (h : s.Initial) : ReversalInv s := by
  refine ⟨?_, ?_, ?_, fun hr => ?_, fun _ => ?_, ?_, ?_⟩
  · rw [h.txs]; rintro x ⟨⟩
  · rw [h.txs]; rintro x ⟨⟩
  · rw [h.txs]; rintro x ⟨⟩
  · rw [h.status] at hr; cases hr
  · rw [h.documents]; exact has_nil _
  · rw [h.documents]; rintro d ⟨⟩
  · rw [h.documents]; exact List.nodup_nil

theorem reversal_run (h₀ : s₀.Initial) (run : DocumentRun s₀ tr s) (hopen : ∀ t ∈ tr, StillOpen t) : ReversalInv s := by
  induction run with
  | nil => exact .initial h₀
  | cons run hstep ih =>
    exact (ih fun t ht => hopen t (List.mem_cons_of_mem _ ht)).step (hopen _ List.mem_cons_self) hstep

/-- A refunded order's invoice has its credit note; one document of a type at most, over the whole order. -/
structure OrderBooks.Reversed (s : OrderBooks) : Prop where
  reversed : s.order.status = .refunded → (Has s.documents .invoice ↔ Has s.documents .creditNote)
  single : (s.documents.map OrderDocument.docType).Nodup
  totals : ∀ d ∈ s.documents, d.totalPaise = s.order.totalCents

/-- The step writes an invoice, or commits one. -/
def IssuesInvoice (t : Taken OrderBooks DocumentLabel) : Prop :=
  ∃ id, (t.label = .statement id ∧ ∃ tx ∈ t.post.txs.get? id, Has tx.documents .invoice)
    ∨ (t.label = .commit id ∧ ∃ tx ∈ t.pre.txs.get? id, Has tx.documents .invoice)

theorem not_refunded_of_issues (hpre : ReversalInv s) (hpost : ReversalInv s') (h : documentStep s l = some s')
    (hissues : IssuesInvoice ⟨s, l, s'⟩) : s.order.status ≠ .refunded := by
  obtain ⟨id, ⟨hl, tx, htx, hi⟩ | ⟨_, tx, htx, hi⟩⟩ := hissues
  · obtain rfl : l = .statement id := hl
    obtain ⟨old, _, hs⟩ := Option.bind_eq_some_iff.mp h
    obtain ⟨new, _, hs⟩ := Option.bind_eq_some_iff.mp hs
    cases hs
    exact ((hpost.fits tx (Table.mem_of_get? htx)).invoice hi).1
  · exact ((hpre.fits tx (Table.mem_of_get? htx)).invoice hi).1

theorem invoice_reversed (h₀ : s₀.Initial) (run : DocumentRun s₀ tr s) (hopen : ∀ t ∈ tr, StillOpen t) :
    s.Reversed ∧ ∀ t ∈ tr, IssuesInvoice t → t.pre.order.status ≠ .refunded := by
  have hrev := reversal_run h₀ run hopen
  refine ⟨⟨hrev.reversed, hrev.single, hrev.totals⟩, fun t ht hissues => ?_⟩
  obtain ⟨before, hbefore, hsub⟩ := run.before ht
  have hstep := (run.taken ht).2
  have hpre := reversal_run h₀ hbefore fun u hu => hopen u (hsub hu)
  exact not_refunded_of_issues hpre (hpre.step (hopen t ht) hstep) hstep hissues

end

def gstOrder : OrderBooks := ⟨⟨.pending, false, true, 11800⟩, [], true, .empty, 0⟩

theorem gstOrder_initial : gstOrder.Initial := ⟨rfl, rfl, rfl⟩

instance (ds : List OrderDocument) (docType : DocType) : Decidable (Has ds docType) :=
  inferInstanceAs (Decidable (∃ d ∈ ds, _))

/-- The order is paid, shipped with its invoice and refunded with its credit note. -/
def shippedAndRefunded : List DocumentLabel :=
  [.markPaid false, .begin (.ship true), .statement 0, .statement 0, .commit 0,
   .begin (.confirmRefund true), .statement 1, .statement 1, .commit 1]

theorem shipped_and_refunded : ∃ tr s, DocumentRun gstOrder tr s
    ∧ (s.order.status = .refunded ∧ s.documents.map OrderDocument.docType = [.creditNote, .invoice])
    ∧ s.Reversed ∧ ∀ t ∈ tr, IssuesInvoice t → t.pre.order.status ≠ .refunded := by
  obtain ⟨tr, s, run, hend, hfinds⟩ := exists_exec documentStep gstOrder
    (P := fun tr s => (s.order.status = .refunded ∧ s.documents.map OrderDocument.docType = [.creditNote, .invoice])
      ∧ ∀ t ∈ tr, ∀ x ∈ t.pre.txs.rows, x.step ≠ .invoicing) shippedAndRefunded (by decide)
  exact ⟨tr, s, run, hend, invoice_reversed gstOrder_initial run fun t ht id _ tx htx hstep =>
    absurd hstep (hfinds t ht tx (Table.mem_of_get? htx))⟩

/-- An administrator's request reads the order before the refund is confirmed and stores its invoice after. -/
def invoicedAfterRefund : List DocumentLabel :=
  [.markPaid false, .begin .explicit, .statement 0, .statement 0,
   .begin (.confirmRefund true), .statement 1, .statement 1, .commit 1, .statement 0, .commit 0]

theorem refunded_without_credit_note : gstOrder.Initial ∧ ∃ tr s, DocumentRun gstOrder tr s
    ∧ s.order.status = .refunded ∧ Has s.documents .invoice ∧ ¬Has s.documents .creditNote
    ∧ ∃ t ∈ tr, t.label = .commit 0 ∧ t.pre.order.status = .refunded ∧ ¬Has t.pre.documents .invoice
        ∧ Has t.post.documents .invoice :=
  ⟨gstOrder_initial, exists_exec documentStep gstOrder
    (P := fun tr s => s.order.status = .refunded ∧ Has s.documents .invoice ∧ ¬Has s.documents .creditNote
      ∧ ∃ t ∈ tr, t.label = .commit 0 ∧ t.pre.order.status = .refunded ∧ ¬Has t.pre.documents .invoice
          ∧ Has t.post.documents .invoice) invoicedAfterRefund (by decide)⟩

end NovaCart
