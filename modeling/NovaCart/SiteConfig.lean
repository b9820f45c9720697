import NovaCart.Schema
import NovaCart.Schemes.Run

/-! The storefront's configuration (`SiteConfigService`, `SiteConfigRepository`), under READ COMMITTED.

    One row says which version is published and holds the working draft; `state` creates it on first use
    and locks it. The versions are rows of their own, numbered by the application. A document is compared
    by value only. -/

namespace NovaCart

open Schemes
open Keyed (key)

structure SiteConfigVersion (δ : Type) where
  version : ℤ
  document : δ
  note : Option String
  createdByUserId : Id
  deriving DecidableEq, Repr

instance {δ : Type} : Keyed (SiteConfigVersion δ) ℤ := ⟨SiteConfigVersion.version⟩

structure SiteConfigState (δ : Type) where
  publishedVersion : Option ℤ
  draft : Option δ
  draftUpdatedByUserId : Option Id
  deriving DecidableEq, Repr

/-- `SiteConfigState(id=1)` -/
def SiteConfigState.empty {δ : Type} : SiteConfigState δ := ⟨none, none, none⟩

inductive SiteConfigError
  | configVersionNotFound (version : ℤ)
  | noDraft
  | nothingToChange
  | publishedElsewhere
  /-- a unique key of the database -/
  | integrity
  deriving DecidableEq, Repr

inductive SiteConfigOp (δ : Type)
  /-- an endpoint that only reads: `state` without the lock -/
  | read
  | saveDraft (document : δ)
  | discardDraft
  | publish (note : Option String) (expectedPublishedVersion : Option ℤ)
  | rollback (version : ℤ) (note : Option String)
  deriving DecidableEq, Repr

def SiteConfigOp.locks {δ : Type} : SiteConfigOp δ → Bool
  | .read => false
  | _ => true

/-- Ends in `_publish`. -/
def SiteConfigOp.publishes {δ : Type} : SiteConfigOp δ → Bool
  | .publish .. | .rollback .. => true
  | _ => false

inductive SiteConfigPhase (δ : Type)
  | start
  /-- the SELECT of `state` found no row -/
  | missing
  | loaded (state : SiteConfigState δ)
  /-- `_publish` was called -/
  | publishing (document : δ) (note : Option String)
  /-- `add_version` has read the highest number -/
  | numbered (document : δ) (note : Option String) (latest : ℤ)
  | added (row : SiteConfigVersion δ)
  /-- `published_version` was written -/
  | pointed
  | done
  deriving DecidableEq, Repr

/-- A request, with what it has written and not committed. -/
structure SiteConfigTx (δ : Type) where
  id : Nat
  admin : Id
  op : SiteConfigOp δ
  phase : SiteConfigPhase δ
  /-- has the row of `state` locked, or inserted -/
  holds : Bool
  row : Option (SiteConfigState δ)
  added : Option (SiteConfigVersion δ)
  deriving DecidableEq, Repr

instance {δ : Type} : Keyed (SiteConfigTx δ) Nat := ⟨SiteConfigTx.id⟩

/-- The committed rows and the open requests. -/
structure SiteConfigSystem (δ : Type) where
  state : Option (SiteConfigState δ)
  versions : Table (SiteConfigVersion δ)
  txs : Table (SiteConfigTx δ)
  /-- the identifier of the next request -/
  next : Nat

/-- What becomes of the next statement of a request. -/
inductive SiteConfigTurn (δ : Type)
  | waits
  | raises (error : SiteConfigError)
  | goes (tx : SiteConfigTx δ)

namespace SiteConfigSystem

variable {δ : Type}

def initial : SiteConfigSystem δ := ⟨none, .empty, .empty, 0⟩

/-- The committed state; where the row is missing, as it would be created. -/
def current (s : SiteConfigSystem δ) : SiteConfigState δ := s.state.getD .empty

/-- The row as the request sees it. -/
def stateFor (s : SiteConfigSystem δ) (tx : SiteConfigTx δ) : Option (SiteConfigState δ) := tx.row.or s.state

def versionsFor (s : SiteConfigSystem δ) (tx : SiteConfigTx δ) : List (SiteConfigVersion δ) :=
  tx.added.toList ++ s.versions.rows

def getVersion (s : SiteConfigSystem δ) (tx : SiteConfigTx δ) (version : ℤ) : Option (SiteConfigVersion δ) :=
  (s.versionsFor tx).find? fun r => r.version = version

/-- `coalesce(max(version), 0)` -/
def latest (rows : List (SiteConfigVersion δ)) : ℤ := (rows.map (·.version)).max?.getD 0

/-- Another request has the row. -/
def taken (s : SiteConfigSystem δ) (tx : SiteConfigTx δ) : Prop := ∃ u ∈ s.txs.rows, u.holds = true ∧ u.id ≠ tx.id

instance (s : SiteConfigSystem δ) (tx : SiteConfigTx δ) : Decidable (s.taken tx) :=
  inferInstanceAs (Decidable (∃ u ∈ s.txs.rows, _))

/-- An UPDATE of the row. -/
def update (s : SiteConfigSystem δ) (tx : SiteConfigTx δ) (f : SiteConfigState δ → SiteConfigState δ) :
    Option (SiteConfigState δ) := (s.stateFor tx).map f

/-- `save_draft` of the repository. -/
def saveDraft (s : SiteConfigSystem δ) (tx : SiteConfigTx δ) (draft : Option δ) : SiteConfigTx δ :=
  { tx with
    phase := .done
    row := s.update tx fun st => { st with draft := draft, draftUpdatedByUserId := some tx.admin } }

/-- `state` -/
def select (s : SiteConfigSystem δ) (tx : SiteConfigTx δ) : SiteConfigTurn δ :=
  match s.stateFor tx with
  | none => .goes { tx with phase := .missing }
  | some row =>
    if tx.op.locks = false then .goes { tx with phase := .loaded row }
    else if s.taken tx then .waits
    else .goes { tx with phase := .loaded row, holds := true }

/-- The INSERT of `state`: it waits for another one, and fails once that is committed. -/
def create (s : SiteConfigSystem δ) (tx : SiteConfigTx δ) : SiteConfigTurn δ :=
  if s.state.isSome then .raises .integrity
  else if s.taken tx then .waits
  else .goes { tx with phase := .loaded .empty, holds := true, row := some .empty }

variable [DecidableEq δ]

/-- What the service does once it has the row. -/
def check (s : SiteConfigSystem δ) (tx : SiteConfigTx δ) (state : SiteConfigState δ) : SiteConfigTurn δ :=
  match tx.op with
  | .read => .goes { tx with phase := .done }
  | .saveDraft document => .goes (s.saveDraft tx (some document))
  | .discardDraft => .goes (s.saveDraft tx none)
  | .publish note expected =>
    if ∃ v ∈ expected, v ≠ state.publishedVersion.getD 0 then .raises .publishedElsewhere
    else
      match state.draft with
      | none => .raises .noDraft
      | some document =>
        let published := (state.publishedVersion.filter fun v => v ≠ 0).bind (s.getVersion tx)
        if ∃ row ∈ published, row.document = document then .raises .nothingToChange
        else .goes { tx with phase := .publishing document note }
  | .rollback version note =>
    match s.getVersion tx version with
    | none => .raises (.configVersionNotFound version)
    | some target =>
      if state.publishedVersion = some version then .raises .nothingToChange
      else
        let note := (note.filter fun text => text ≠ "").getD ("Rollback to version " ++ toString version)
        .goes { tx with phase := .publishing target.document (some note) }

/-- The INSERT of `add_version`. -/
def addVersion (s : SiteConfigSystem δ) (tx : SiteConfigTx δ) (row : SiteConfigVersion δ) : SiteConfigTurn δ :=
  if (s.versions.get? row.version).isSome then .raises .integrity
  else if ∃ u ∈ s.txs.rows, u.id ≠ tx.id ∧ ∃ r ∈ u.added, r.version = row.version then .waits
  else .goes { tx with phase := .added row, added := some row }

/-- The next statement of a request. -/
def turn (s : SiteConfigSystem δ) (tx : SiteConfigTx δ) : SiteConfigTurn δ :=
  match tx.phase with
  | .start => s.select tx
  | .missing => s.create tx
  | .loaded state => s.check tx state
  | .publishing document note => .goes { tx with phase := .numbered document note (latest (s.versionsFor tx)) }
  | .numbered document note latest => s.addVersion tx ⟨latest + 1, document, note, tx.admin⟩
  | .added row =>
    -- the row of `state` is locked already, so that selecting it again changes nothing
    .goes { tx with phase := .pointed, row := s.update tx fun st => { st with publishedVersion := some row.version } }
  | .pointed =>
    match tx.op with
    | .publish .. => .goes (s.saveDraft tx none)
    | _ => .goes { tx with phase := .done }
  | .done => .waits

/-- COMMIT -/
def apply (s : SiteConfigSystem δ) (tx : SiteConfigTx δ) : Option (SiteConfigSystem δ) :=
  if tx.phase = .done then
    (match tx.added with
      | none => some s.versions
      | some row => s.versions.insert? row).map fun versions =>
      { s with state := s.stateFor tx, versions := versions, txs := s.txs.erase tx.id }
  else none

end SiteConfigSystem

inductive SiteConfigLabel (δ : Type)
  | begin_ (admin : Id) (op : SiteConfigOp δ)
  | turn (id : Nat)
  | commit (id : Nat)
  /-- the request fails anywhere, and is rolled back -/
  | abort (id : Nat)
  deriving DecidableEq, Repr

def siteConfigStep {δ : Type} [DecidableEq δ] (s : SiteConfigSystem δ) :
    SiteConfigLabel δ → Option (SiteConfigSystem δ)
  | .begin_ admin op =>
    (s.txs.insert? ⟨s.next, admin, op, .start, false, none, none⟩).map fun txs =>
      { s with txs := txs, next := s.next + 1 }
  | .turn id =>
    (s.txs.get? id).bind fun tx =>
      match s.turn tx with
      | .waits => none
      | .raises _ => some { s with txs := s.txs.erase id }
      | .goes tx' => some { s with txs := s.txs.replace tx' }
  | .commit id => (s.txs.get? id).bind s.apply
  | .abort id => some { s with txs := s.txs.erase id }

abbrev SiteConfigRun {δ : Type} [DecidableEq δ] (tr : List (Taken (SiteConfigSystem δ) (SiteConfigLabel δ)))
    (s : SiteConfigSystem δ) : Prop := Exec siteConfigStep .initial tr s

/-- The version that a step publishes. -/
def publication {δ : Type} (t : Taken (SiteConfigSystem δ) (SiteConfigLabel δ)) : Option (SiteConfigVersion δ) :=
  match t.label with
  | .commit id => (t.pre.txs.get? id).bind fun tx => if tx.op.publishes then tx.added else none
  | _ => none

/-- What was published, newest first. -/
def publications {δ : Type} (tr : List (Taken (SiteConfigSystem δ) (SiteConfigLabel δ))) :
    List (SiteConfigVersion δ) := tr.filterMap publication

end NovaCart
