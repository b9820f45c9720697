import NovaCart.PlainText
import NovaCart.Schema
import NovaCart.Schemes.Run
import NovaCart.Schemes.Periods

/-! The GST master: classifications and their rules, registrations and the tax configurations under them.

    Both halves are records that are drafted, approved and retired, and dated records that belong to one of them. A
    change locks its record; the parent of a dated record is only read, but storing a reference to it takes the
    key-share lock of the foreign key. The exclusion constraint of a table waits for another transaction that writes a
    row in conflict. The trigger that guards the tables is left out: the service keeps what it guards. -/

namespace NovaCart

open Schemes

/-! ### Records -/

inductive TaxStatus
  | draft | approved | retired
  deriving DecidableEq, Repr

/-- A classification or a registration. -/
structure MasterRecord (π : Type) where
  id : Id
  status : TaxStatus
  details : π
  sourceReference : Option String
  createdBy : Option Id
  approvedBy : Option Id
  deriving DecidableEq

/-- A rule of a classification, or a tax configuration under a registration. -/
structure DatedRecord (τ : Type) where
  id : Id
  parentId : Id
  status : TaxStatus
  terms : τ
  effective : Period ℤ
  sourceReference : Option String
  createdBy : Option Id
  approvedBy : Option Id
  deriving DecidableEq

instance {π : Type} : Keyed (MasterRecord π) Id := ⟨MasterRecord.id⟩
instance {τ : Type} : Keyed (DatedRecord τ) Id := ⟨DatedRecord.id⟩

/-- What one half of the master has that the other has not. -/
structure TaxFamily (π τ : Type) where
  /-- the unique key of a record -/
  sameKey : π → π → Bool
  /-- what an update of a draft may change -/
  editable : π → π → Bool
  /-- approving a record needs its source reference -/
  sourceRequired : Bool
  onProducts : Bool
  shapeOk : τ → Bool
  /-- a draft may move to another parent -/
  moves : Bool
  closable : Bool
  /-- the exclusion constraint compares the rows of one parent only -/
  perParent : Bool
  allowSelfApproval : Bool

/-- `_blank` -/
def blank (value : Option String) : Bool := (value.getD "").toList.all isSpace

/-! ### Transactions -/

inductive TaxCall (π τ : Type)
  | create (newId : Id) (details : π) (source : Option String) (actor : Id)
  | update (id : Id) (details : π) (source : Option String)
  | approve (id actor : Id) (note : Option String)
  | retire (id : Id)
  | createDated (newId parentId : Id) (terms : τ) (effective : Period ℤ) (source : Option String) (actor : Id)
  | updateDated (id parentId : Id) (terms : τ) (effective : Period ℤ) (source : Option String)
  | approveDated (id actor : Id) (note : Option String)
  | close (id : Id) (effectiveTo : ℤ)
  | retireDated (id : Id)

inductive TaxStage (π τ : Type)
  | start
  | locked (r : MasterRecord π)
  /-- nothing that is not retired belongs to the record -/
  | unused (r : MasterRecord π)
  /-- the parent of a new dated record was read -/
  | parentRead
  | datedLocked (c : DatedRecord τ)
  | parentApproved (c : DatedRecord τ)
  | noOverlap (c : DatedRecord τ)
  | done

structure TaxTx (π τ : Type) where
  id : Nat
  call : TaxCall π τ
  stage : TaxStage π τ
  /-- `FOR UPDATE` -/
  locksParent : Option Id
  /-- `FOR KEY SHARE`, by the foreign key -/
  sharesParent : Option Id
  locksDated : Option Id
  /-- the row it inserted or changed -/
  parentRow : Option (MasterRecord π)
  datedRow : Option (DatedRecord τ)

instance {π τ : Type} : Keyed (TaxTx π τ) Nat := ⟨TaxTx.id⟩

/-- One half of the master. -/
structure TaxBooks (π τ : Type) where
  parents : Table (MasterRecord π)
  dated : Table (DatedRecord τ)
  /-- the classifications the products have -/
  onProducts : List Id
  txs : Table (TaxTx π τ)
  next : Nat

namespace TaxBooks

variable {π τ : Type}

def lockParent (s : TaxBooks π τ) (tx : TaxTx π τ) (id : Id) : Option (TaxTx π τ) := do
  let r ← s.parents.get? id
  if ∃ x ∈ s.txs.rows, x.id ≠ tx.id ∧ (x.locksParent = some r.id ∨ x.sharesParent = some r.id) then none
  else some { tx with locksParent := some r.id, stage := .locked r }

def lockDated (s : TaxBooks π τ) (tx : TaxTx π τ) (id : Id) : Option (TaxTx π τ) := do
  let c ← s.dated.get? id
  if ∃ x ∈ s.txs.rows, x.id ≠ tx.id ∧ x.locksDated = some c.id then none
  else some { tx with locksDated := some c.id, stage := .datedLocked c }

/-- The foreign key finds the parent, and no one has it locked for update. -/
def parentFree (s : TaxBooks π τ) (tx : TaxTx π τ) (parentId : Id) : Prop :=
  (s.parents.get? parentId).isSome = true ∧ ∀ x ∈ s.txs.rows, x.id ≠ tx.id → x.locksParent ≠ some parentId

instance (s : TaxBooks π τ) (tx : TaxTx π τ) (parentId : Id) : Decidable (s.parentFree tx parentId) :=
  inferInstanceAs (Decidable (_ ∧ ∀ x ∈ s.txs.rows, _))

/-- `_approve`: a draft, by another than who made it unless that is allowed and explained. -/
def mayApprove (F : TaxFamily π τ) (status : TaxStatus) (createdBy : Option Id) (actor : Id) (note : Option String) :
    Prop :=
  status = .draft ∧ (createdBy = some actor → F.allowSelfApproval = true ∧ blank note = false)

instance (F : TaxFamily π τ) (status : TaxStatus) (createdBy : Option Id) (actor : Id) (note : Option String) :
    Decidable (mayApprove F status createdBy actor note) := inferInstanceAs (Decidable (_ ∧ _))

/-- Two rows that the exclusion constraint compares are in conflict. -/
def clash (F : TaxFamily π τ) (c c' : DatedRecord τ) : Prop :=
  c.status = .approved ∧ c'.status = .approved ∧ (F.perParent = true → c.parentId = c'.parentId)
    ∧ c.effective.overlaps c'.effective

instance (F : TaxFamily π τ) (c c' : DatedRecord τ) : Decidable (clash F c c') := inferInstanceAs (Decidable (_ ∧ _))

/-- The overlap query: approved rows whose days intersect those of `c`, without `c`. -/
def overlappingApproved (F : TaxFamily π τ) (s : TaxBooks π τ) (c : DatedRecord τ) : Prop :=
  ∃ c' ∈ s.dated.rows, (F.perParent = true → c'.parentId = c.parentId) ∧ c'.status = .approved ∧ c'.id ≠ c.id
    ∧ (c'.effective.stop = none ∨ ∃ t ∈ c'.effective.stop, c.effective.start < t)
    ∧ ∀ t ∈ c.effective.stop, c'.effective.start < t

instance (F : TaxFamily π τ) (s : TaxBooks π τ) (c : DatedRecord τ) : Decidable (s.overlappingApproved F c) :=
  inferInstanceAs (Decidable (∃ c' ∈ s.dated.rows, _))

/-- `has_open_rules`, `registration_has_open_settings` -/
def hasOpen (s : TaxBooks π τ) (parentId : Id) : Prop := ∃ c ∈ s.dated.rows, c.parentId = parentId ∧ c.status ≠ .retired

instance (s : TaxBooks π τ) (parentId : Id) : Decidable (s.hasOpen parentId) :=
  inferInstanceAs (Decidable (∃ c ∈ s.dated.rows, _))

/-- A dated row is written, if the exclusion constraint lets it. -/
def writeDated (F : TaxFamily π τ) (s : TaxBooks π τ) (tx : TaxTx π τ) (row : DatedRecord τ) : Option (TaxTx π τ) :=
  if (∃ c ∈ s.dated.rows, c.id ≠ row.id ∧ clash F row c)
      ∨ ∃ x ∈ s.txs.rows, x.id ≠ tx.id ∧ ∃ c ∈ x.datedRow, clash F row c then none
  else some { tx with stage := .done, datedRow := some row }

def writeParent (tx : TaxTx π τ) (row : MasterRecord π) : Option (TaxTx π τ) :=
  some { tx with stage := .done, parentRow := some row }

/-- The next statement of a transaction; nothing if it waits or is refused. -/
def advance (F : TaxFamily π τ) (s : TaxBooks π τ) (tx : TaxTx π τ) : Option (TaxTx π τ) :=
  match tx.call with
  | .create newId details source actor =>
    match tx.stage with
    | .start =>
      if ∃ r ∈ s.parents.rows, F.sameKey r.details details = true then none
      else writeParent tx ⟨newId, .draft, details, source, some actor, none⟩
    | _ => none
  | .update id details source =>
    match tx.stage with
    | .start => s.lockParent tx id
    | .locked r =>
      if r.status = .draft ∧ F.editable r.details details = true then
        writeParent tx { r with details := details, sourceReference := source }
      else none
    | _ => none
  | .approve id actor note =>
    match tx.stage with
    | .start => s.lockParent tx id
    | .locked r =>
      if mayApprove F r.status r.createdBy actor note ∧ (F.sourceRequired = true → blank r.sourceReference = false) then
        writeParent tx { r with status := .approved, approvedBy := some actor }
      else none
    | _ => none
  | .retire id =>
    match tx.stage with
    | .start => s.lockParent tx id
    | .locked r => if r.status ≠ .retired ∧ ¬s.hasOpen r.id then some { tx with stage := .unused r } else none
    | .unused r =>
      if F.onProducts = true ∧ r.id ∈ s.onProducts then none else writeParent tx { r with status := .retired }
    | _ => none
  | .createDated newId parentId terms effective source actor =>
    match tx.stage with
    | .start =>
      match s.parents.get? parentId with
      | some r => if r.status = .retired ∨ F.shapeOk terms = false then none else some { tx with stage := .parentRead }
      | none => none
    | .parentRead =>
      if s.parentFree tx parentId then
        writeDated F s { tx with sharesParent := some parentId }
          ⟨newId, parentId, .draft, terms, effective, source, some actor, none⟩
      else none
    | _ => none
  | .updateDated id parentId terms effective source =>
    match tx.stage with
    | .start => s.lockDated tx id
    | .datedLocked c =>
      if c.status = .draft ∧ F.shapeOk terms = true then
        let row := { c with terms := terms, effective := effective, sourceReference := source }
        if F.moves = true ∧ parentId ≠ c.parentId then
          if s.parentFree tx parentId then
            writeDated F s { tx with sharesParent := some parentId } { row with parentId := parentId }
          else none
        else writeDated F s tx row
      else none
    | _ => none
  | .approveDated id actor note =>
    match tx.stage with
    | .start => s.lockDated tx id
    | .datedLocked c =>
      if c.status = .draft ∧ blank c.sourceReference = false
          ∧ (∃ r ∈ s.parents.get? c.parentId, r.status = .approved) then some { tx with stage := .parentApproved c }
      else none
    | .parentApproved c => if s.overlappingApproved F c then none else some { tx with stage := .noOverlap c }
    | .noOverlap c =>
      if mayApprove F c.status c.createdBy actor note then
        writeDated F s tx { c with status := .approved, approvedBy := some actor }
      else none
    | _ => none
  | .close id effectiveTo =>
    match tx.stage with
    | .start => if F.closable = true then s.lockDated tx id else none
    | .datedLocked c =>
      if c.status = .approved ∧ ∀ old ∈ c.effective.stop, effectiveTo ≤ old then
        if h : c.effective.start < effectiveTo then
          writeDated F s tx { c with effective := c.effective.endAt effectiveTo h }
        else none
      else none
    | _ => none
  | .retireDated id =>
    match tx.stage with
    | .start => s.lockDated tx id
    | .datedLocked c => if c.status ≠ .retired then writeDated F s tx { c with status := .retired } else none
    | _ => none

/-- A table with the row a transaction wrote: inserted if it has locked none. -/
def stored {α : Type} [Keyed α Id] (t : Table α) (row : Option α) (locks : Option Id) : Option (Table α) :=
  match row, locks with
  | none, _ => some t
  | some row, none => t.insert? row
  | some row, some _ => some (t.replace row)

/-- The commit of a transaction whose statements are all done. -/
def apply (s : TaxBooks π τ) (tx : TaxTx π τ) : Option (TaxBooks π τ) :=
  match tx.stage with
  | .done =>
    (stored s.parents tx.parentRow tx.locksParent).bind fun parents =>
      (stored s.dated tx.datedRow tx.locksDated).map fun dated =>
        { s with parents := parents, dated := dated, txs := s.txs.erase tx.id }
  | _ => none

end TaxBooks

inductive TaxLabel (π τ : Type)
  | begin (call : TaxCall π τ)
  | statement (id : Nat)
  | commit (id : Nat)
  | rollback (id : Nat)
  /-- products are given other classifications -/
  | assign (onProducts : List Id)

def taxStep {π τ : Type} (F : TaxFamily π τ) (s : TaxBooks π τ) : TaxLabel π τ → Option (TaxBooks π τ)
  | .begin call => do
    let txs ← s.txs.insert? ⟨s.next, call, .start, none, none, none, none, none⟩
    some { s with txs := txs, next := s.next + 1 }
  | .statement id => do
    let tx ← s.txs.get? id
    let tx' ← s.advance F tx
    some { s with txs := s.txs.replace tx' }
  | .commit id => do
    let tx ← s.txs.get? id
    s.apply tx
  | .rollback id => some { s with txs := s.txs.erase id }
  | .assign onProducts => some { s with onProducts := onProducts }

/-! ### The two halves -/

structure ClassificationDetails where
  kind : String
  code : String
  description : String
  deriving DecidableEq, Repr

inductive TaxTreatment
  | taxable | exempt | nilRated | nonGst
  deriving DecidableEq, Repr

/-- Rates in thousandths of a percent. -/
structure RuleTerms where
  treatment : TaxTreatment
  cgstRate : ℤ
  sgstUtgstRate : ℤ
  igstRate : ℤ
  deriving DecidableEq, Repr

/-- `check_rule_shape` -/
def checkRuleShape (t : RuleTerms) : Bool :=
  if t.treatment = .taxable then 0 < t.igstRate ∧ t.cgstRate + t.sgstUtgstRate = t.igstRate
  else t.cgstRate = 0 ∧ t.sgstUtgstRate = 0 ∧ t.igstRate = 0

structure RegistrationDetails where
  gstin : String
  legalName : String
  stateCode : String
  valid : Period ℤ
  deriving DecidableEq

structure SettingsTerms where
  pricingMode : String
  placeOfSupplyBasis : String
  shippingTaxTreatment : String
  roundingPolicy : String
  deriving DecidableEq, Repr

abbrev TaxClassification := MasterRecord ClassificationDetails
abbrev TaxRule := DatedRecord RuleTerms
abbrev GstRegistration := MasterRecord RegistrationDetails
abbrev BusinessTaxSettings := DatedRecord SettingsTerms

/-- Classifications and rules. -/
def classificationRules (allowSelfApproval : Bool) : TaxFamily ClassificationDetails RuleTerms where
  sameKey a b := a.kind = b.kind ∧ a.code = b.code
  editable a b := a.kind = b.kind ∧ a.code = b.code
  sourceRequired := true
  onProducts := true
  shapeOk := checkRuleShape
  moves := false
  closable := true
  perParent := true
  allowSelfApproval := allowSelfApproval

/-- Registrations and tax configurations. -/
def registrationSettings (allowSelfApproval : Bool) : TaxFamily RegistrationDetails SettingsTerms where
  sameKey a b := a.gstin = b.gstin
  editable a b := a.gstin = b.gstin ∧ a.stateCode = b.stateCode
  sourceRequired := false
  onProducts := false
  shapeOk _ := true
  moves := true
  closable := false
  perParent := false
  allowSelfApproval := allowSelfApproval

structure TaxMaster where
  rules : TaxBooks ClassificationDetails RuleTerms
  settings : TaxBooks RegistrationDetails SettingsTerms

inductive MasterLabel
  | rules (l : TaxLabel ClassificationDetails RuleTerms)
  | settings (l : TaxLabel RegistrationDetails SettingsTerms)

def masterStep (allowSelfApproval : Bool) (s : TaxMaster) : MasterLabel → Option TaxMaster
  | .rules l => (taxStep (classificationRules allowSelfApproval) s.rules l).map fun rules => { s with rules := rules }
  | .settings l =>
    (taxStep (registrationSettings allowSelfApproval) s.settings l).map fun settings => { s with settings := settings }

abbrev MasterRun (allowSelfApproval : Bool) (s₀ : TaxMaster) (tr : List (Taken TaxMaster MasterLabel)) (s : TaxMaster) :
    Prop := Exec (masterStep allowSelfApproval) s₀ tr s

end NovaCart
