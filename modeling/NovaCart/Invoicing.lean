import NovaCart.Schema
import NovaCart.Schemes.Run

/-! Invoice numbers (`fiscal_year`, `format_number`, `_next_sequence`, `_issue`).

    A document takes the next number of its series, one series for each document type and financial year, in the
    transaction that stores it. The row of a series is locked from the upsert to the end of the transaction, so
    another issuer of the series waits; a transaction that rolls back gives its numbers back. The prefix is the one of
    the business profile when the transaction read it. The order and the content of a document are left out. -/

namespace NovaCart

open Schemes

/-- A date, with the year in four digits. -/
structure Day where
  year : Nat
  month : Nat
  fourDigits : 1000 < year ∧ year < 9999
  deriving DecidableEq, Repr

/-- `^[A-Z0-9]{1,5}$`. -/
structure InvoicePrefix where
  chars : List Char
  allowed : (1 ≤ chars.length ∧ chars.length ≤ 5) ∧ ∀ c ∈ chars, c.isUpper ∨ c.isDigit
  deriving DecidableEq

/-- `CREDIT_NOTE_PREFIX`. -/
def creditNotePrefix : InvoicePrefix := ⟨['C', 'N'], by simp⟩

/-- The year in which the financial year of a day starts. -/
def Day.fiscalStart (d : Day) : Nat := if 4 ≤ d.month then d.year else d.year - 1

/-- `fiscal_year`: `2026-27`. -/
def fiscalYear (d : Day) : List Char :=
  Nat.toDigits 10 d.fiscalStart ++ '-' :: (Nat.toDigits 10 (d.fiscalStart + 1)).drop 2

/-- `f"{sequence:06d}"`. -/
def sixDigits (sequence : Nat) : List Char :=
  List.replicate (6 - (Nat.toDigits 10 sequence).length) '0' ++ Nat.toDigits 10 sequence

/-- The digits of a financial year that are printed: `fy[2:4]` and `fy[5:7]`. -/
def printedYear (fy : List Char) : List Char := (fy.drop 2).take 2 ++ (fy.drop 5).take 2

/-- `format_number`. -/
def formatNumber (invoicePrefix : InvoicePrefix) (fy : List Char) (sequence : Nat) : List Char :=
  invoicePrefix.chars ++ printedYear fy ++ '/' :: sixDigits sequence

/-- One series of numbers. -/
structure Series where
  docType : DocType
  fy : List Char
  deriving DecidableEq, Repr

structure IssuedDocument where
  series : Series
  sequence : Nat
  number : List Char
  deriving DecidableEq, Repr

/-- An issuing transaction. -/
structure IssueTx where
  id : Nat
  /-- the prefix in the profile it read -/
  invoicePrefix : Option InvoicePrefix
  /-- the rows of `invoice_sequences` it has written -/
  sequences : Series → Option Nat
  /-- the documents it has stored, newest first -/
  documents : List IssuedDocument

instance : Keyed IssueTx Nat := ⟨IssueTx.id⟩

structure Invoicing where
  invoicePrefix : Option InvoicePrefix
  /-- `last_value` of each series, 0 while it has no row -/
  sequences : Series → Nat
  /-- newest first -/
  documents : List IssuedDocument
  txs : Table IssueTx
  next : Nat

/-- Why a document is not stored. -/
inductive IssueError
  | businessProfileIncomplete
  /-- `uq_invoices_number` -/
  | numberTaken
  /-- `ck_invoices_number_length` -/
  | numberTooLong
  deriving DecidableEq, Repr

namespace Invoicing

/-- `_next_sequence`: the number it takes. -/
def nextSequence (s : Invoicing) (tx : IssueTx) (σ : Series) : Nat := (tx.sequences σ).getD (s.sequences σ) + 1

/-- The prefix printed on a document. -/
def prefixFor (docType : DocType) (profilePrefix : InvoicePrefix) : InvoicePrefix :=
  match docType with
  | .invoice => profilePrefix
  | .creditNote => creditNotePrefix

/-- The documents that an insert of the transaction is checked against. -/
def seenBy (s : Invoicing) (tx : IssueTx) : List IssuedDocument := tx.documents ++ s.documents

/-- Another transaction has written the row of the series, or has stored a document with the number. -/
def mustWait (s : Invoicing) (tx : IssueTx) (σ : Series) (number : List Char) : Prop :=
  ∃ x ∈ s.txs.rows, x.id ≠ tx.id ∧ (x.sequences σ ≠ none ∨ ∃ d ∈ x.documents, d.number = number)

instance (s : Invoicing) (tx : IssueTx) (σ : Series) (number : List Char) : Decidable (s.mustWait tx σ number) :=
  inferInstanceAs (Decidable (∃ x ∈ s.txs.rows, _))

/-- `_issue`, unless it must wait. -/
def issue (s : Invoicing) (tx : IssueTx) (docType : DocType) (day : Day) : Option (Except IssueError IssueTx) :=
  match tx.invoicePrefix with
  | none => some (.error .businessProfileIncomplete)
  | some profilePrefix =>
    let σ : Series := ⟨docType, fiscalYear day⟩
    let sequence := s.nextSequence tx σ
    let number := formatNumber (prefixFor docType profilePrefix) σ.fy sequence
    if s.mustWait tx σ number then none
    else if ∃ d ∈ s.seenBy tx, d.number = number then some (.error .numberTaken)
    else if 16 < number.length then some (.error .numberTooLong)
    else some (.ok { tx with
      sequences := Function.update tx.sequences σ (some sequence)
      documents := ⟨σ, sequence, number⟩ :: tx.documents })

end Invoicing

inductive InvoicingLabel
  | setProfile (invoicePrefix : InvoicePrefix)
  | begin
  /-- `get_profile` -/
  | readProfile (id : Nat)
  | issue (id : Nat) (docType : DocType) (day : Day)
  | commit (id : Nat)
  | rollback (id : Nat)

/-- The outcome of a step: an error is that of an `_issue`, which rolls its transaction back. -/
def invoicingRound (s : Invoicing) : InvoicingLabel → Option (Invoicing × Option IssueError)
  | .setProfile invoicePrefix => some ({ s with invoicePrefix := some invoicePrefix }, none)
  | .begin => do
    let txs ← s.txs.insert? ⟨s.next, none, fun _ => none, []⟩
    some ({ s with txs := txs, next := s.next + 1 }, none)
  | .readProfile id => do
    let tx ← s.txs.get? id
    some ({ s with txs := s.txs.replace { tx with invoicePrefix := s.invoicePrefix } }, none)
  | .issue id docType day => do
    let tx ← s.txs.get? id
    match ← s.issue tx docType day with
    | .ok tx' => some ({ s with txs := s.txs.replace tx' }, none)
    | .error e => some ({ s with txs := s.txs.erase id }, some e)
  | .commit id => do
    let tx ← s.txs.get? id
    some ({ s with
      sequences := fun σ => (tx.sequences σ).getD (s.sequences σ)
      documents := s.seenBy tx, txs := s.txs.erase id }, none)
  | .rollback id => some ({ s with txs := s.txs.erase id }, none)

def invoicingStep (s : Invoicing) (l : InvoicingLabel) : Option Invoicing := (invoicingRound s l).map Prod.fst

abbrev InvoicingRun (s₀ : Invoicing) (tr : List (Taken Invoicing InvoicingLabel)) (s : Invoicing) : Prop :=
  Exec invoicingStep s₀ tr s

/-- Nothing was issued yet. -/
structure Invoicing.Initial (s : Invoicing) : Prop where
  invoicePrefix : s.invoicePrefix = none
  sequences : ∀ σ, s.sequences σ = 0
  documents : s.documents = []
  txs : s.txs = .empty

/-- The error with which the step ends, if it does. -/
def issueError (t : Taken Invoicing InvoicingLabel) : Option IssueError := (invoicingRound t.pre t.label).bind Prod.snd

/-- The number that the transaction is about to print is free among the other series, and short enough. -/
def NumberFits (s : Invoicing) (tx : IssueTx) (docType : DocType) (day : Day) : Prop :=
  ∀ profilePrefix ∈ tx.invoicePrefix,
    let σ : Series := ⟨docType, fiscalYear day⟩
    let printed := Invoicing.prefixFor docType profilePrefix
    let sequence := s.nextSequence tx σ
    (∀ d ∈ s.seenBy tx, d.series ≠ σ → d.number ≠ formatNumber printed σ.fy sequence)
      ∧ printed.chars.length + 5 + max 6 (Nat.toDigits 10 sequence).length ≤ 16

/-- The numbers of a series, newest first. -/
def seriesNumbers (documents : List IssuedDocument) (σ : Series) : List Nat :=
  (documents.filter fun d => d.series = σ).map IssuedDocument.sequence

end NovaCart
