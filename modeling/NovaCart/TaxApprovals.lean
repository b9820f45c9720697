import NovaCart.TaxMasterRuns

/-! Who made, edited and approved the records of the GST master.

    A record says who created it and who approved it; who edited a draft is in the audit log only. Here every
    transaction is begun by an administrator, and what is committed is logged with what it did to which record. -/

namespace NovaCart

open Schemes

inductive TaxRecord
  /-- a classification or a registration -/
  | parent (id : Id)
  /-- a rule or a tax configuration -/
  | dated (id : Id)
  deriving DecidableEq, Repr

inductive TaxAct
  | created | updated | approved | ended
  deriving DecidableEq, Repr

structure TaxLogged where
  record : TaxRecord
  act : TaxAct
  actor : Id
  deriving DecidableEq, Repr

section

variable {π τ : Type}

def TaxCall.record : TaxCall π τ → TaxRecord
  | .create newId .. => .parent newId
  | .update id .. => .parent id
  | .approve id .. => .parent id
  | .retire id => .parent id
  | .createDated newId .. => .dated newId
  | .updateDated id .. => .dated id
  | .approveDated id .. => .dated id
  | .close id _ => .dated id
  | .retireDated id => .dated id

def TaxCall.act : TaxCall π τ → TaxAct
  | .create .. | .createDated .. => .created
  | .update .. | .updateDated .. => .updated
  | .approve .. | .approveDated .. => .approved
  | .retire _ | .close .. | .retireDated _ => .ended

/-- The administrator that a call writes into its record. -/
def TaxCall.signer : TaxCall π τ → Option Id
  | .create _ _ _ actor => some actor
  | .approve _ actor _ => some actor
  | .createDated _ _ _ _ _ actor => some actor
  | .approveDated _ actor _ => some actor
  | _ => none

structure TaxDesk (π τ : Type) where
  books : TaxBooks π τ
  /-- who began each transaction -/
  actors : List (Nat × Id)
  log : List TaxLogged

inductive DeskLabel (π τ : Type)
  | begin (actor : Id) (call : TaxCall π τ)
  | statement (id : Nat)
  | commit (id : Nat)
  | rollback (id : Nat)
  | assign (onProducts : List Id)

/-- What the commit of a transaction is logged as. -/
def TaxDesk.entry (d : TaxDesk π τ) (id : Nat) : Option TaxLogged := do
  let tx ← d.books.txs.get? id
  let actor ← d.actors.lookup id
  some ⟨tx.call.record, tx.call.act, actor⟩

def deskStep (F : TaxFamily π τ) (d : TaxDesk π τ) : DeskLabel π τ → Option (TaxDesk π τ)
  | .begin actor call =>
    if ∀ signer ∈ call.signer, signer = actor then
      (taxStep F d.books (.begin call)).map fun books =>
        { d with books := books, actors := (d.books.next, actor) :: d.actors }
    else none
  | .statement id => (taxStep F d.books (.statement id)).map fun books => { d with books := books }
  | .commit id =>
    (d.entry id).bind fun entry =>
      (taxStep F d.books (.commit id)).map fun books => { d with books := books, log := entry :: d.log }
  | .rollback id => (taxStep F d.books (.rollback id)).map fun books => { d with books := books }
  | .assign onProducts => (taxStep F d.books (.assign onProducts)).map fun books => { d with books := books }

def TaxDesk.initial : TaxDesk π τ := ⟨⟨.empty, .empty, [], .empty, 0⟩, [], []⟩

abbrev DeskRun (F : TaxFamily π τ) (tr : List (Taken (TaxDesk π τ) (DeskLabel π τ))) (d : TaxDesk π τ) : Prop :=
  Exec (deskStep F) .initial tr d

/-! ### What the log says of a record -/

variable {F : TaxFamily π τ} {d d' : TaxDesk π τ} {s : TaxBooks π τ} {tx tx' : TaxTx π τ} {r : MasterRecord π}
  {c : DatedRecord τ} {log log' : List TaxLogged} {actor : Id}

/-- The log tells who created the record, and who approved it. -/
structure Vouched (log : List TaxLogged) (record : TaxRecord) (status : TaxStatus) (createdBy approvedBy : Option Id) :
    Prop where
  created : ∃ a, createdBy = some a ∧ ⟨record, .created, a⟩ ∈ log
  approved : status = .approved → ∃ a, approvedBy = some a ∧ ⟨record, .approved, a⟩ ∈ log

def MasterRecord.Vouched (log : List TaxLogged) (r : MasterRecord π) : Prop :=
  NovaCart.Vouched log (.parent r.id) r.status r.createdBy r.approvedBy

def DatedRecord.Vouched (log : List TaxLogged) (c : DatedRecord τ) : Prop :=
  NovaCart.Vouched log (.dated c.id) c.status c.createdBy c.approvedBy

theorem Vouched.mono {record : TaxRecord} {status : TaxStatus} {createdBy approvedBy : Option Id}
    (h : Vouched log record status createdBy approvedBy) (hsub : log ⊆ log') :
    Vouched log' record status createdBy approvedBy where
  created := by
    obtain ⟨a, ha, hmem⟩ := h.created
    exact ⟨a, ha, hsub hmem⟩
  approved hs := by
    obtain ⟨a, ha, hmem⟩ := h.approved hs
    exact ⟨a, ha, hsub hmem⟩

/-- What a call of an administrator makes of a record, if self-approval is off. -/
inductive Wrote (log : List TaxLogged) (call : TaxCall π τ) (actor : Id) (record : TaxRecord) (status : TaxStatus)
    (createdBy approvedBy : Option Id) : Prop
  | created (hact : call.act = .created) (hstatus : status = .draft) (hby : createdBy = some actor)
  | approved (hact : call.act = .approved) (hdraft : ∃ a, createdBy = some a ∧ a ≠ actor ∧ ⟨record, .created, a⟩ ∈ log)
      (hby : approvedBy = some actor)
  | other (hact : call.act = .updated ∨ call.act = .ended) (hkept : Vouched log record status createdBy approvedBy)

theorem Wrote.mono {call : TaxCall π τ} {record : TaxRecord} {status : TaxStatus} {createdBy approvedBy : Option Id}
    (h : Wrote log call actor record status createdBy approvedBy) (hsub : log ⊆ log') :
    Wrote log' call actor record status createdBy approvedBy := by
  cases h with
  | created hact hstatus hby => exact .created hact hstatus hby
  | approved hact hdraft hby =>
    obtain ⟨a, ha, hne, hmem⟩ := hdraft
    exact .approved hact ⟨a, ha, hne, hsub hmem⟩ hby
  | other hact hkept => exact .other hact (hkept.mono hsub)

/-- A transaction of an administrator. -/
structure TaxTx.SignedBy (log : List TaxLogged) (actor : Id) (tx : TaxTx π τ) : Prop where
  signer : ∀ signer ∈ tx.call.signer, signer = actor
  start : tx.stage = .start → tx.locksParent = none ∧ tx.locksDated = none
  creating : tx.call.act = .created → tx.locksParent = none ∧ tx.locksDated = none
  locked : ∀ r, tx.stage = .locked r ∨ tx.stage = .unused r →
    tx.call.record = .parent r.id ∧ tx.locksParent = some r.id ∧ r.Vouched log
  datedLocked : ∀ c, tx.stage = .datedLocked c ∨ tx.stage = .parentApproved c ∨ tx.stage = .noOverlap c →
    tx.call.record = .dated c.id ∧ tx.locksDated = some c.id ∧ c.Vouched log
  blank : tx.stage ≠ .done → tx.parentRow = none ∧ tx.datedRow = none
  done : tx.stage = .done → tx.parentRow.isSome ∨ tx.datedRow.isSome
  parentRow : ∀ r, tx.parentRow = some r → tx.call.record = .parent r.id ∧
    (tx.call.act = .created ∨ tx.locksParent = some r.id) ∧
    Wrote log tx.call actor (.parent r.id) r.status r.createdBy r.approvedBy
  datedRow : ∀ c, tx.datedRow = some c → tx.call.record = .dated c.id ∧
    (tx.call.act = .created ∨ tx.locksDated = some c.id) ∧
    Wrote log tx.call actor (.dated c.id) c.status c.createdBy c.approvedBy

theorem TaxTx.SignedBy.mono (h : tx.SignedBy log actor) (hsub : log ⊆ log') : tx.SignedBy log' actor where
  signer := h.signer
  start := h.start
  creating := h.creating
  locked r hr := by
    obtain ⟨hrecord, hlock, hvouched⟩ := h.locked r hr
    exact ⟨hrecord, hlock, hvouched.mono hsub⟩
  datedLocked c hc := by
    obtain ⟨hrecord, hlock, hvouched⟩ := h.datedLocked c hc
    exact ⟨hrecord, hlock, hvouched.mono hsub⟩
  blank := h.blank
  done := h.done
  parentRow r hr := by
    obtain ⟨hrecord, hlock, hwrote⟩ := h.parentRow r hr
    exact ⟨hrecord, hlock, hwrote.mono hsub⟩
  datedRow c hc := by
    obtain ⟨hrecord, hlock, hwrote⟩ := h.datedRow c hc
    exact ⟨hrecord, hlock, hwrote.mono hsub⟩

/-! ### Statements -/

theorem lockParent_signed {id : Id} (h : tx.SignedBy log actor) (hrows : ∀ r ∈ s.parents.rows, r.Vouched log)
    (hwas : tx.stage = .start) (hrecord : tx.call.record = .parent id) (hact : tx.call.act ≠ .created)
    (hlock : s.lockParent tx id = some tx') : tx'.SignedBy log actor := by
  obtain ⟨r, hget, hlock⟩ := Option.bind_eq_some_iff.mp hlock
  split at hlock
  · cases hlock
  · cases hlock
    obtain ⟨hparent, hdated⟩ := h.blank (by rw [hwas]; nofun)
    have hid : r.id = id := Table.key_of_get? hget
    refine ⟨h.signer, nofun, fun hcreated => absurd hcreated hact, fun r' hr' => ?_, fun c hc => ?_, fun _ => ⟨hparent, hdated⟩,
      nofun, fun r' hr' => ?_, fun c hc => ?_⟩
    · rcases hr' with hr' | hr'
      · cases hr'
        exact ⟨hid ▸ hrecord, rfl, hrows r (Table.mem_of_get? hget)⟩
      · cases hr'
    · rcases hc with hc | hc | hc
      · cases hc
      · cases hc
      · cases hc
    · cases hparent.symm.trans hr'
    · cases hdated.symm.trans hc

theorem lockDated_signed {id : Id} (h : tx.SignedBy log actor) (hrows : ∀ c ∈ s.dated.rows, c.Vouched log)
    (hwas : tx.stage = .start) (hrecord : tx.call.record = .dated id) (hact : tx.call.act ≠ .created)
    (hlock : s.lockDated tx id = some tx') : tx'.SignedBy log actor := by
  obtain ⟨c, hget, hlock⟩ := Option.bind_eq_some_iff.mp hlock
  split at hlock
  · cases hlock
  · cases hlock
    obtain ⟨hparent, hdated⟩ := h.blank (by rw [hwas]; nofun)
    have hid : c.id = id := Table.key_of_get? hget
    refine ⟨h.signer, nofun, fun hcreated => absurd hcreated hact, fun r hr => ?_, fun c' hc' => ?_,
      fun _ => ⟨hparent, hdated⟩, nofun, fun r hr => ?_, fun c' hc' => ?_⟩
    · rcases hr with hr | hr
      · cases hr
      · cases hr
    · rcases hc' with hc' | hc' | hc'
      · cases hc'
        exact ⟨hid ▸ hrecord, rfl, hrows c (Table.mem_of_get? hget)⟩
      · cases hc'
      · cases hc'
    · cases hparent.symm.trans hr
    · cases hdated.symm.trans hc'

/-- The transaction goes on with the rows and locks it has. -/
theorem TaxTx.SignedBy.goOn {stage : TaxStage π τ} (h : tx.SignedBy log actor) (hnot : tx.stage ≠ .done)
    (hstart : stage ≠ .start) (hdone : stage ≠ .done)
    (hlocked : ∀ r, stage = .locked r ∨ stage = .unused r →
      tx.call.record = .parent r.id ∧ tx.locksParent = some r.id ∧ r.Vouched log)
    (hdated : ∀ c, stage = .datedLocked c ∨ stage = .parentApproved c ∨ stage = .noOverlap c →
      tx.call.record = .dated c.id ∧ tx.locksDated = some c.id ∧ c.Vouched log) :
    ({ tx with stage := stage } : TaxTx π τ).SignedBy log actor where
  signer := h.signer
  start hs := absurd hs hstart
  creating := h.creating
  locked := hlocked
  datedLocked := hdated
  blank _ := h.blank hnot
  done hs := absurd hs hdone
  parentRow := h.parentRow
  datedRow := h.datedRow

theorem writeParent_signed (hwrite : TaxBooks.writeParent tx r = some tx') (h : tx.SignedBy log actor)
    (hnot : tx.stage ≠ .done) (hrecord : tx.call.record = .parent r.id)
    (hlock : tx.call.act = .created ∨ tx.locksParent = some r.id)
    (hwrote : Wrote log tx.call actor (.parent r.id) r.status r.createdBy r.approvedBy) : tx'.SignedBy log actor := by
  cases hwrite
  obtain ⟨_, hdated⟩ := h.blank hnot
  refine ⟨h.signer, nofun, h.creating, fun r' hr' => ?_, fun c hc => ?_, fun hs => absurd rfl hs, fun _ => .inl rfl,
    fun r' hr' => ?_, fun c hc => ?_⟩
  · rcases hr' with hr' | hr'
    · cases hr'
    · cases hr'
  · rcases hc with hc | hc | hc
    · cases hc
    · cases hc
    · cases hc
  · cases hr'
    exact ⟨hrecord, hlock, hwrote⟩
  · cases hdated.symm.trans hc

theorem shareDated_signed {share : Option Id}
    (hwrite : TaxBooks.writeDated F s { tx with sharesParent := share } c = some tx') (h : tx.SignedBy log actor)
    (hnot : tx.stage ≠ .done) (hrecord : tx.call.record = .dated c.id)
    (hlock : tx.call.act = .created ∨ tx.locksDated = some c.id)
    (hwrote : Wrote log tx.call actor (.dated c.id) c.status c.createdBy c.approvedBy) : tx'.SignedBy log actor := by
  rw [TaxBooks.writeDated] at hwrite
  split at hwrite
  · cases hwrite
  · cases hwrite
    obtain ⟨hparent, _⟩ := h.blank hnot
    refine ⟨h.signer, (fun h => by cases h), h.creating, fun r hr => ?_, fun c' hc' => ?_, fun hs => absurd rfl hs, fun _ => .inr rfl,
      fun r hr => ?_, fun c' hc' => ?_⟩
    · rcases hr with hr | hr
      · cases hr
      · cases hr
    · rcases hc' with hc' | hc' | hc'
      · cases hc'
      · cases hc'
      · cases hc'
    · cases hparent.symm.trans hr
    · cases hc'
      exact ⟨hrecord, hlock, hwrote⟩

theorem writeDated_signed (hwrite : TaxBooks.writeDated F s tx c = some tx') (h : tx.SignedBy log actor)
    (hnot : tx.stage ≠ .done) (hrecord : tx.call.record = .dated c.id)
    (hlock : tx.call.act = .created ∨ tx.locksDated = some c.id)
    (hwrote : Wrote log tx.call actor (.dated c.id) c.status c.createdBy c.approvedBy) : tx'.SignedBy log actor :=
  @shareDated_signed _ _ _ _ _ _ _ _ _ tx.sharesParent hwrite h hnot hrecord hlock hwrote

/-- Another status, or other contents, of a record that is not approved. -/
theorem Vouched.edited {record : TaxRecord} {status status' : TaxStatus} {createdBy approvedBy : Option Id}
    (h : Vouched log record status createdBy approvedBy) (hstatus : status' ≠ .approved) :
    Vouched log record status' createdBy approvedBy :=
  ⟨h.created, fun hs => absurd hs hstatus⟩

/-- Who may approve a draft did not create it. -/
theorem wrote_of_mayApprove {status : TaxStatus} {createdBy approvedBy : Option Id} {record : TaxRecord} {note : Option String}
    {call : TaxCall π τ} (hoff : F.allowSelfApproval = false) (hact : call.act = .approved)
    (hmay : TaxBooks.mayApprove F status createdBy actor note) (h : Vouched log record status createdBy approvedBy) :
    Wrote log call actor record .approved createdBy (some actor) := by
  obtain ⟨a, ha, hmem⟩ := h.created
  refine .approved hact ⟨a, ha, fun hself => ?_, hmem⟩ rfl
  have hallowed := (hmay.2 (hself ▸ ha)).1
  rw [hoff] at hallowed
  cases hallowed

theorem advance_signed (hoff : F.allowSelfApproval = false) (h : tx.SignedBy log actor)
    (hparents : ∀ r ∈ s.parents.rows, r.Vouched log) (hdated : ∀ c ∈ s.dated.rows, c.Vouched log)
    (hadv : s.advance F tx = some tx') : tx'.SignedBy log actor := by
  have hdone {stage : TaxStage π τ} (hstage : tx.stage = stage) (hne : stage ≠ .done) : tx.stage ≠ .done := by
    rw [hstage]; exact hne
  rw [TaxBooks.advance.eq_def] at hadv
  cases hcall : tx.call with
  | create newId details source signer =>
    have hsigner : signer = actor := h.signer signer (by rw [hcall]; rfl)
    have hact : tx.call.act = .created := by rw [hcall]; rfl
    cases hstage : tx.stage with
    | start =>
      rw [hcall, hstage] at hadv
      dsimp only at hadv
      split at hadv
      · cases hadv
      · exact writeParent_signed hadv h (hdone hstage (fun h => by cases h)) (by rw [hcall]; rfl) (.inl hact)
          (.created hact rfl (congrArg some hsigner))
    | _ => rw [hcall, hstage] at hadv; cases hadv
  | update id details source =>
    have hact : tx.call.act = .updated := by rw [hcall]; rfl
    cases hstage : tx.stage with
    | start =>
      rw [hcall, hstage] at hadv
      exact lockParent_signed h hparents hstage (by rw [hcall]; rfl) (by rw [hact]; simp) hadv
    | locked r =>
      obtain ⟨hrecord, hlock, hvouched⟩ := h.locked r (.inl hstage)
      rw [hcall, hstage] at hadv
      dsimp only at hadv
      split at hadv
      · rename_i hok
        exact writeParent_signed hadv h (hdone hstage (fun h => by cases h)) hrecord (.inr hlock) (.other (.inl hact) hvouched)
      · cases hadv
    | _ => rw [hcall, hstage] at hadv; cases hadv
  | approve id signer note =>
    have hsigner : signer = actor := h.signer signer (by rw [hcall]; rfl)
    have hact : tx.call.act = .approved := by rw [hcall]; rfl
    cases hstage : tx.stage with
    | start =>
      rw [hcall, hstage] at hadv
      exact lockParent_signed h hparents hstage (by rw [hcall]; rfl) (by rw [hact]; simp) hadv
    | locked r =>
      obtain ⟨hrecord, hlock, hvouched⟩ := h.locked r (.inl hstage)
      rw [hcall, hstage] at hadv
      dsimp only at hadv
      split at hadv
      · rename_i hok
        subst hsigner
        exact writeParent_signed hadv h (hdone hstage (fun h => by cases h)) hrecord (.inr hlock) (wrote_of_mayApprove hoff hact hok.1 hvouched)
      · cases hadv
    | _ => rw [hcall, hstage] at hadv; cases hadv
  | retire id =>
    have hact : tx.call.act = .ended := by rw [hcall]; rfl
    cases hstage : tx.stage with
    | start =>
      rw [hcall, hstage] at hadv
      exact lockParent_signed h hparents hstage (by rw [hcall]; rfl) (by rw [hact]; simp) hadv
    | locked r =>
      have hlocked := h.locked r (.inl hstage)
      rw [hcall, hstage] at hadv
      dsimp only at hadv
      split at hadv
      · cases hadv
        rw [← hcall]
        refine h.goOn (hdone hstage (fun h => by cases h)) (fun h => by cases h) (fun h => by cases h) (fun r' hr' => ?_) fun c hc => ?_
        · rcases hr' with hr' | hr'
          · cases hr'
          · cases hr'
            exact hlocked
        · rcases hc with hc | hc | hc
          · cases hc
          · cases hc
          · cases hc
      · cases hadv
    | unused r =>
      obtain ⟨hrecord, hlock, hvouched⟩ := h.locked r (.inr hstage)
      rw [hcall, hstage] at hadv
      dsimp only at hadv
      split at hadv
      · cases hadv
      · exact writeParent_signed hadv h (hdone hstage (fun h => by cases h)) hrecord (.inr hlock) (.other (.inr hact) (hvouched.edited (fun h => by cases h)))
    | _ => rw [hcall, hstage] at hadv; cases hadv
  | createDated newId parentId terms effective source signer =>
    have hsigner : signer = actor := h.signer signer (by rw [hcall]; rfl)
    have hact : tx.call.act = .created := by rw [hcall]; rfl
    cases hstage : tx.stage with
    | start =>
      rw [hcall, hstage] at hadv
      dsimp only at hadv
      cases hr : s.parents.get? parentId with
      | none => rw [hr] at hadv; cases hadv
      | some r =>
        rw [hr] at hadv
        dsimp only at hadv
        split at hadv
        · cases hadv
        · cases hadv
          rw [← hcall]
          refine h.goOn (hdone hstage (fun h => by cases h)) (fun h => by cases h) (fun h => by cases h) (fun r' hr' => ?_) fun c hc => ?_
          · rcases hr' with hr' | hr'
            · cases hr'
            · cases hr'
          · rcases hc with hc | hc | hc
            · cases hc
            · cases hc
            · cases hc
    | parentRead =>
      rw [hcall, hstage] at hadv
      dsimp only at hadv
      split at hadv
      · rw [← hcall, ← hstage] at hadv
        exact shareDated_signed hadv h (hdone hstage (fun h => by cases h)) (by rw [hcall]; rfl) (.inl hact)
          (.created hact rfl (congrArg some hsigner))
      · cases hadv
    | _ => rw [hcall, hstage] at hadv; cases hadv
  | updateDated id parentId terms effective source =>
    have hact : tx.call.act = .updated := by rw [hcall]; rfl
    cases hstage : tx.stage with
    | start =>
      rw [hcall, hstage] at hadv
      exact lockDated_signed h hdated hstage (by rw [hcall]; rfl) (by rw [hact]; simp) hadv
    | datedLocked c =>
      obtain ⟨hrecord, hlock, hvouched⟩ := h.datedLocked c (.inl hstage)
      rw [hcall, hstage] at hadv
      dsimp only at hadv
      split at hadv
      · split at hadv
        · split at hadv
          · rw [← hcall, ← hstage] at hadv
            exact shareDated_signed hadv h (hdone hstage (fun h => by cases h)) hrecord (.inr hlock) (.other (.inl hact) hvouched)
          · cases hadv
        · exact writeDated_signed hadv h (hdone hstage (fun h => by cases h)) hrecord (.inr hlock)
            (.other (.inl hact) hvouched)
      · cases hadv
    | _ => rw [hcall, hstage] at hadv; cases hadv
  | approveDated id signer note =>
    have hsigner : signer = actor := h.signer signer (by rw [hcall]; rfl)
    have hact : tx.call.act = .approved := by rw [hcall]; rfl
    cases hstage : tx.stage with
    | start =>
      rw [hcall, hstage] at hadv
      exact lockDated_signed h hdated hstage (by rw [hcall]; rfl) (by rw [hact]; simp) hadv
    | datedLocked c =>
      have hlocked := h.datedLocked c (.inl hstage)
      rw [hcall, hstage] at hadv
      dsimp only at hadv
      split at hadv
      · cases hadv
        rw [← hcall]
        refine h.goOn (hdone hstage (fun h => by cases h)) (fun h => by cases h) (fun h => by cases h) (fun r hr => ?_) fun c' hc' => ?_
        · rcases hr with hr | hr
          · cases hr
          · cases hr
        · rcases hc' with hc' | hc' | hc'
          · cases hc'
          · cases hc'
            exact hlocked
          · cases hc'
      · cases hadv
    | parentApproved c =>
      have hlocked := h.datedLocked c (.inr (.inl hstage))
      rw [hcall, hstage] at hadv
      dsimp only at hadv
      split at hadv
      · cases hadv
      · cases hadv
        rw [← hcall]
        refine h.goOn (hdone hstage (fun h => by cases h)) (fun h => by cases h) (fun h => by cases h) (fun r hr => ?_) fun c' hc' => ?_
        · rcases hr with hr | hr
          · cases hr
          · cases hr
        · rcases hc' with hc' | hc' | hc'
          · cases hc'
          · cases hc'
          · cases hc'
            exact hlocked
    | noOverlap c =>
      obtain ⟨hrecord, hlock, hvouched⟩ := h.datedLocked c (.inr (.inr hstage))
      rw [hcall, hstage] at hadv
      dsimp only at hadv
      split at hadv
      · rename_i hmay
        subst hsigner
        exact writeDated_signed hadv h (hdone hstage (fun h => by cases h)) hrecord (.inr hlock)
          (wrote_of_mayApprove hoff hact hmay hvouched)
      · cases hadv
    | _ => rw [hcall, hstage] at hadv; cases hadv
  | close id effectiveTo =>
    have hact : tx.call.act = .ended := by rw [hcall]; rfl
    cases hstage : tx.stage with
    | start =>
      rw [hcall, hstage] at hadv
      dsimp only at hadv
      split at hadv
      · exact lockDated_signed h hdated hstage (by rw [hcall]; rfl) (by rw [hact]; simp) hadv
      · cases hadv
    | datedLocked c =>
      obtain ⟨hrecord, hlock, hvouched⟩ := h.datedLocked c (.inl hstage)
      rw [hcall, hstage] at hadv
      dsimp only at hadv
      split at hadv
      · split at hadv
        · exact writeDated_signed hadv h (hdone hstage (fun h => by cases h)) hrecord (.inr hlock)
            (.other (.inr hact) hvouched)
        · cases hadv
      · cases hadv
    | _ => rw [hcall, hstage] at hadv; cases hadv
  | retireDated id =>
    have hact : tx.call.act = .ended := by rw [hcall]; rfl
    cases hstage : tx.stage with
    | start =>
      rw [hcall, hstage] at hadv
      exact lockDated_signed h hdated hstage (by rw [hcall]; rfl) (by rw [hact]; simp) hadv
    | datedLocked c =>
      obtain ⟨hrecord, hlock, hvouched⟩ := h.datedLocked c (.inl hstage)
      rw [hcall, hstage] at hadv
      dsimp only at hadv
      split at hadv
      · exact writeDated_signed hadv h (hdone hstage (fun h => by cases h)) hrecord (.inr hlock)
          (.other (.inr hact) (hvouched.edited (fun h => by cases h)))
      · cases hadv
    | _ => rw [hcall, hstage] at hadv; cases hadv

/-! ### Runs -/

def TaxBooks.holds (s : TaxBooks π τ) : TaxRecord → Bool
  | .parent id => (s.parents.get? id).isSome
  | .dated id => (s.dated.get? id).isSome

structure DeskInv (F : TaxFamily π τ) (d : TaxDesk π τ) : Prop where
  tax : TaxInv F d.books
  parents : ∀ r ∈ d.books.parents.rows, r.Vouched d.log
  dated : ∀ c ∈ d.books.dated.rows, c.Vouched d.log
  signed : ∀ x ∈ d.books.txs.rows, ∃ actor, d.actors.lookup x.id = some actor ∧ x.SignedBy d.log actor
  fresh : ∀ x ∈ d.books.txs.rows, x.id < d.books.next
  holds : ∀ e ∈ d.log, e.act = .created → d.books.holds e.record = true
  once : ∀ e ∈ d.log, ∀ e' ∈ d.log, e.act = .created → e'.act = .created → e.record = e'.record → e.actor = e'.actor
  fourEyes : ∀ later e earlier, d.log = later ++ e :: earlier → e.act = .approved →
    ∃ m ∈ earlier, m.record = e.record ∧ m.act = .created ∧ m.actor ≠ e.actor

section stored

variable {α : Type} [Keyed α Id] {t t' : Table α} {row : Option α} {locks : Option Id} {x : α}

theorem mem_stored (h : TaxBooks.stored t row locks = some t') (hx : x ∈ t'.rows) : x ∈ t.rows ∨ row = some x := by
  cases row with
  | none =>
    cases h
    exact .inl hx
  | some r =>
    cases locks with
    | none =>
      rcases (Table.mem_insert? h).mp hx with rfl | hold
      · exact .inr rfl
      · exact .inl hold
    | some id =>
      cases h
      rw [Table.replace] at hx
      obtain ⟨y, hy, hyx⟩ := List.mem_map.mp hx
      split at hyx
      · exact .inr (congrArg some hyx)
      · exact .inl (hyx ▸ hy)

theorem stored_holds (h : TaxBooks.stored t row locks = some t') {id : Id} (hid : (t.get? id).isSome = true) :
    (t'.get? id).isSome = true := by
  cases row with
  | none =>
    cases h
    exact hid
  | some r =>
    cases locks with
    | none =>
      obtain ⟨y, hy⟩ := Option.isSome_iff_exists.mp hid
      rw [Table.get?_insert?_of_some h hy]
      rfl
    | some k =>
      cases h
      rw [Option.isSome_iff_ne_none, ne_eq, Table.get?_replace_eq_none, ← ne_eq, ← Option.isSome_iff_ne_none]
      exact hid

/-- A row that is inserted is new. -/
theorem stored_new {r : α} (h : TaxBooks.stored t (some r) none = some t') :
    (t.get? (Keyed.key r)).isSome = false ∧ (t'.get? (Keyed.key r)).isSome = true := by
  obtain ⟨hnone, _⟩ := Table.insert?_eq_some.mp h
  rw [hnone, Table.get?_of_mem ((Table.mem_insert? h).mpr (.inl rfl))]
  exact ⟨rfl, rfl⟩

end stored

/-- The row that a committed transaction leaves is vouched for by the log with its entry. -/
theorem Wrote.vouched {call : TaxCall π τ} {record : TaxRecord} {status : TaxStatus} {createdBy approvedBy : Option Id}
    (h : Wrote log call actor record status createdBy approvedBy) :
    Vouched (⟨record, call.act, actor⟩ :: log) record status createdBy approvedBy := by
  cases h with
  | created hact hstatus hby =>
    rw [hact]
    exact ⟨⟨actor, hby, List.mem_cons_self⟩, fun hs => absurd (hstatus.symm.trans hs) nofun⟩
  | approved hact hdraft hby =>
    obtain ⟨a, ha, _, hmem⟩ := hdraft
    rw [hact]
    exact ⟨⟨a, ha, List.mem_cons_of_mem _ hmem⟩, fun _ => ⟨actor, hby, List.mem_cons_self⟩⟩
  | other hact hkept => exact hkept.mono (List.subset_cons_self ..)

/-- A transaction that creates a record inserts its row. -/
theorem TaxTx.SignedBy.creates (h : tx.SignedBy log actor) (hdone : tx.stage = .done) (hact : tx.call.act = .created)
    {parents : Table (MasterRecord π)} {dated : Table (DatedRecord τ)}
    (hparents : TaxBooks.stored s.parents tx.parentRow tx.locksParent = some parents)
    (hdated : TaxBooks.stored s.dated tx.datedRow tx.locksDated = some dated) :
    s.holds tx.call.record = false ∧
      ({ s with parents := parents, dated := dated, txs := s.txs.erase tx.id } : TaxBooks π τ).holds tx.call.record =
        true := by
  obtain ⟨hlocksParent, hlocksDated⟩ := h.creating hact
  rcases h.done hdone with hrow | hrow
  · obtain ⟨r, hr⟩ := Option.isSome_iff_exists.mp hrow
    rw [(h.parentRow r hr).1]
    rw [hr, hlocksParent] at hparents
    exact stored_new hparents
  · obtain ⟨c, hc⟩ := Option.isSome_iff_exists.mp hrow
    rw [(h.datedRow c hc).1]
    rw [hc, hlocksDated] at hdated
    exact stored_new hdated

/-- A transaction that approves a record is of another administrator than the one who created it. -/
theorem TaxTx.SignedBy.approves (h : tx.SignedBy log actor) (hdone : tx.stage = .done) (hact : tx.call.act = .approved) :
    ∃ m ∈ log, m.record = tx.call.record ∧ m.act = .created ∧ m.actor ≠ actor := by
  have hfound : ∀ {record : TaxRecord} {status : TaxStatus} {createdBy approvedBy : Option Id},
      Wrote log tx.call actor record status createdBy approvedBy →
      ∃ m ∈ log, m.record = record ∧ m.act = .created ∧ m.actor ≠ actor := by
    intro record status createdBy approvedBy hwrote
    cases hwrote with
    | created hcreated _ _ => exact absurd (hcreated.symm.trans hact) nofun
    | approved _ hdraft _ =>
      obtain ⟨a, _, hne, hmem⟩ := hdraft
      exact ⟨_, hmem, rfl, rfl, hne⟩
    | other hother _ =>
      rcases hother with hother | hother
      · exact absurd (hother.symm.trans hact) nofun
      · exact absurd (hother.symm.trans hact) nofun
  rcases h.done hdone with hrow | hrow
  · obtain ⟨r, hr⟩ := Option.isSome_iff_exists.mp hrow
    obtain ⟨hrecord, _, hwrote⟩ := h.parentRow r hr
    exact hrecord ▸ hfound hwrote
  · obtain ⟨c, hc⟩ := Option.isSome_iff_exists.mp hrow
    obtain ⟨hrecord, _, hwrote⟩ := h.datedRow c hc
    exact hrecord ▸ hfound hwrote

theorem DeskInv.commit {id : Nat} (hinv : DeskInv F d) (h : deskStep F d (.commit id) = some d') : DeskInv F d' := by
  obtain ⟨entry, hentry, h⟩ := Option.bind_eq_some_iff.mp h
  obtain ⟨books, hbooks, rfl⟩ := Option.map_eq_some_iff.mp h
  obtain ⟨tx, hget, happly⟩ := Option.bind_eq_some_iff.mp hbooks
  obtain ⟨tx', hget', hentry⟩ := Option.bind_eq_some_iff.mp hentry
  obtain ⟨actor, hactor, hentry⟩ := Option.bind_eq_some_iff.mp hentry
  cases hget.symm.trans hget'
  cases hentry
  have hid : tx.id = id := Table.key_of_get? hget
  obtain ⟨actor', hactor', hsigned⟩ := hinv.signed tx (Table.mem_of_get? hget)
  rw [hid, hactor] at hactor'
  cases hactor'
  have hdone : tx.stage = .done := by
    rw [TaxBooks.apply] at happly
    split at happly
    · assumption
    · cases happly
  obtain ⟨parents, dated, hparents, hdated, rfl⟩ := apply_some happly
  have hsub : d.log ⊆ ⟨tx.call.record, tx.call.act, actor⟩ :: d.log := List.subset_cons_self ..
  refine ⟨(hinv.tax.step hbooks).1, fun r hr => ?_, fun c hc => ?_, fun x hx => ?_, fun x hx => ?_, fun e he hact => ?_, fun e he e' he' hact hact' hsame => ?_,
    fun later e earlier hlog hact => ?_⟩
  · rcases mem_stored hparents hr with hold | hrow
    · exact (hinv.parents r hold).mono hsub
    · obtain ⟨hrecord, _, hwrote⟩ := hsigned.parentRow r hrow
      rw [hrecord]
      exact hwrote.vouched
  · rcases mem_stored hdated hc with hold | hrow
    · exact (hinv.dated c hold).mono hsub
    · obtain ⟨hrecord, _, hwrote⟩ := hsigned.datedRow c hrow
      rw [hrecord]
      exact hwrote.vouched
  · obtain ⟨a, ha, hx'⟩ := hinv.signed x (Table.mem_erase.mp hx).1
    exact ⟨a, ha, hx'.mono hsub⟩
  · exact hinv.fresh x (Table.mem_erase.mp hx).1
  · rcases List.mem_cons.mp he with rfl | hold
    · exact (hsigned.creates hdone hact hparents hdated).2
    · have hwas := hinv.holds e hold hact
      cases hrecord : e.record with
      | parent k =>
        rw [hrecord] at hwas
        exact stored_holds hparents hwas
      | dated k =>
        rw [hrecord] at hwas
        exact stored_holds hdated hwas
  · have hnew : ∀ e ∈ d.log, e.act = .created → tx.call.act = .created → e.record ≠ tx.call.record := by
      intro e he hact hnew hsame
      have hwas := hinv.holds e he hact
      rw [hsame, (hsigned.creates hdone hnew hparents hdated).1] at hwas
      cases hwas
    rcases List.mem_cons.mp he with rfl | hold
    · rcases List.mem_cons.mp he' with rfl | hold'
      · rfl
      · exact absurd hsame.symm (hnew e' hold' hact' hact)
    · rcases List.mem_cons.mp he' with rfl | hold'
      · exact absurd hsame (hnew e hold hact hact')
      · exact hinv.once e hold e' hold' hact hact' hsame
  · cases later with
    | nil =>
      cases hlog
      exact hsigned.approves hdone hact
    | cons e' later =>
      exact hinv.fourEyes later e earlier (List.cons.inj hlog).2 hact

theorem DeskInv.step {l : DeskLabel π τ} (hoff : F.allowSelfApproval = false) (hinv : DeskInv F d)
    (h : deskStep F d l = some d') : DeskInv F d' := by
  cases l with
  | begin actor call =>
    rw [deskStep] at h
    split at h
    · rename_i hsigner
      obtain ⟨books, hbooks, rfl⟩ := Option.map_eq_some_iff.mp h
      have htax := (hinv.tax.step hbooks).1
      obtain ⟨txs, hinsert, hbooks⟩ := Option.bind_eq_some_iff.mp hbooks
      cases hbooks
      refine ⟨htax, hinv.parents, hinv.dated, fun x hx => ?_, fun x hx => ?_, hinv.holds, hinv.once, hinv.fourEyes⟩
      · rcases (Table.mem_insert? hinsert).mp hx with rfl | hold
        · refine ⟨actor, by simp, hsigner, fun _ => ⟨rfl, rfl⟩, fun _ => ⟨rfl, rfl⟩, fun r hr => ?_, fun c hc => ?_,
            fun _ => ⟨rfl, rfl⟩, nofun, nofun, nofun⟩
          · rcases hr with hr | hr
            · cases hr
            · cases hr
          · rcases hc with hc | hc | hc
            · cases hc
            · cases hc
            · cases hc
        · obtain ⟨a, ha, hx'⟩ := hinv.signed x hold
          have hlt := hinv.fresh x hold
          refine ⟨a, ?_, hx'⟩
          rw [List.lookup_cons, show (x.id == d.books.next) = false by simp; omega]
          exact ha
      · rcases (Table.mem_insert? hinsert).mp hx with rfl | hold
        · exact Nat.lt_succ_self _
        · exact Nat.lt_succ_of_lt (hinv.fresh x hold)
    · cases h
  | statement id =>
    obtain ⟨books, hbooks, rfl⟩ := Option.map_eq_some_iff.mp h
    have htax := (hinv.tax.step hbooks).1
    obtain ⟨tx, hget, hbooks⟩ := Option.bind_eq_some_iff.mp hbooks
    obtain ⟨tx', hadv, hbooks⟩ := Option.bind_eq_some_iff.mp hbooks
    cases hbooks
    obtain ⟨actor, hactor, hsigned⟩ := hinv.signed tx (Table.mem_of_get? hget)
    have hsigned' := advance_signed hoff hsigned hinv.parents hinv.dated hadv
    have hid : tx'.id = tx.id := (tax_advance_cases (hinv.tax.fits tx (Table.mem_of_get? hget)) hadv).id
    have hfound : d.books.txs.get? (Keyed.key tx') = some tx := by
      rw [show Keyed.key tx' = Keyed.key tx from hid]
      exact Table.get?_of_mem (Table.mem_of_get? hget)
    refine ⟨htax, hinv.parents, hinv.dated, fun x hx => ?_, fun x hx => ?_, hinv.holds, hinv.once, hinv.fourEyes⟩
    · rcases (Table.mem_replace hfound).mp hx with rfl | ⟨hold, _⟩
      · exact ⟨actor, hid ▸ hactor, hsigned'⟩
      · exact hinv.signed x hold
    · rcases (Table.mem_replace hfound).mp hx with rfl | ⟨hold, _⟩
      · rw [hid]
        exact hinv.fresh tx (Table.mem_of_get? hget)
      · exact hinv.fresh x hold
  | commit id => exact hinv.commit h
  | rollback id =>
    have htax : TaxInv F { d.books with txs := d.books.txs.erase id } := (hinv.tax.step (l := .rollback id) rfl).1
    cases h
    exact ⟨htax, hinv.parents, hinv.dated, fun x hx => hinv.signed x (Table.mem_erase.mp hx).1,
      fun x hx => hinv.fresh x (Table.mem_erase.mp hx).1, hinv.holds, hinv.once, hinv.fourEyes⟩
  | assign onProducts =>
    have htax : TaxInv F { d.books with onProducts := onProducts } := (hinv.tax.step (l := .assign onProducts) rfl).1
    cases h
    exact ⟨htax, hinv.parents, hinv.dated, hinv.signed, hinv.fresh, hinv.holds, hinv.once, hinv.fourEyes⟩

theorem DeskInv.initial : DeskInv F .initial where
  tax := .initial ⟨rfl, rfl, rfl⟩
  parents _ h := absurd h List.not_mem_nil
  dated _ h := absurd h List.not_mem_nil
  signed _ h := absurd h List.not_mem_nil
  fresh _ h := absurd h List.not_mem_nil
  holds _ h := absurd h List.not_mem_nil
  once _ h := absurd h List.not_mem_nil
  fourEyes later e _ h := absurd h.symm (List.append_ne_nil_of_right_ne_nil later (List.cons_ne_nil e _))

theorem DeskInv.of_run {tr : List (Taken (TaxDesk π τ) (DeskLabel π τ))} (hoff : F.allowSelfApproval = false)
    (run : DeskRun F tr d) : DeskInv F d :=
  run.invariant .initial fun hstep hinv => hinv.step hoff hstep

/-- Who approved a record is logged after another one who created it. -/
theorem DeskInv.apart (hinv : DeskInv F d) {e m : TaxLogged} (he : e ∈ d.log) (hact : e.act = .approved) (hm : m ∈ d.log)
    (hrecord : m.record = e.record) (hcreated : m.act = .created) : m.actor ≠ e.actor := by
  obtain ⟨later, earlier, hlog⟩ := List.append_of_mem he
  obtain ⟨m', hm', hrecord', hcreated', hne⟩ := hinv.fourEyes later e earlier hlog hact
  have hmem : m' ∈ d.log := by
    rw [hlog]
    exact List.mem_append_right _ (List.mem_cons_of_mem _ hm')
  rw [hinv.once m hm m' hmem hcreated hcreated' (hrecord.trans hrecord'.symm)]
  exact hne

theorem Vouched.apart {record : TaxRecord} {status : TaxStatus} {createdBy approvedBy : Option Id} (hinv : DeskInv F d)
    (h : Vouched d.log record status createdBy approvedBy) (hs : status = .approved) :
    ∃ c a, createdBy = some c ∧ approvedBy = some a ∧ c ≠ a ∧
      ⟨record, .created, c⟩ ∈ d.log ∧ ⟨record, .approved, a⟩ ∈ d.log := by
  obtain ⟨c, hc, hcreated⟩ := h.created
  obtain ⟨a, ha, happroved⟩ := h.approved hs
  exact ⟨c, a, hc, ha, hinv.apart happroved rfl hcreated rfl rfl, hcreated, happroved⟩

/-- With self-approval off, in every run whatever is approved was created before, by another administrator than the one
    who approves it, and an approved record names the two. -/
theorem approver_is_not_creator (hoff : F.allowSelfApproval = false) {tr : List (Taken (TaxDesk π τ) (DeskLabel π τ))}
    (run : DeskRun F tr d) :
    (∀ later e earlier, d.log = later ++ e :: earlier → e.act = .approved →
      (∃ m ∈ earlier, m.record = e.record ∧ m.act = .created) ∧
      ∀ m ∈ d.log, m.record = e.record → m.act = .created → m.actor ≠ e.actor) ∧
    (∀ r ∈ d.books.parents.rows, r.status = .approved → ∃ c a, r.createdBy = some c ∧ r.approvedBy = some a ∧ c ≠ a ∧
      ⟨.parent r.id, .created, c⟩ ∈ d.log ∧ ⟨.parent r.id, .approved, a⟩ ∈ d.log) ∧
    ∀ r ∈ d.books.dated.rows, r.status = .approved → ∃ c a, r.createdBy = some c ∧ r.approvedBy = some a ∧ c ≠ a ∧
      ⟨.dated r.id, .created, c⟩ ∈ d.log ∧ ⟨.dated r.id, .approved, a⟩ ∈ d.log := by
  have hinv := DeskInv.of_run hoff run
  refine ⟨fun later e earlier hlog hact => ⟨?_, fun m hm hrecord hcreated => ?_⟩, fun r hr hs => ?_, fun r hr hs => ?_⟩
  · obtain ⟨m, hm, hrecord, hcreated, _⟩ := hinv.fourEyes later e earlier hlog hact
    exact ⟨m, hm, hrecord, hcreated⟩
  · have he : e ∈ d.log := by
      rw [hlog]
      exact List.mem_append_right _ List.mem_cons_self
    exact hinv.apart he hact hm hrecord hcreated
  · exact (hinv.parents r hr).apart hinv hs
  · exact (hinv.dated r hr).apart hinv hs

end

/-- A classification is made by administrator 1, edited by administrator 2 and approved by administrator 2. -/
theorem editor_approves : ∃ tr d, DeskRun (classificationRules false) tr d ∧
    d.log = [⟨.parent 1, .approved, 2⟩, ⟨.parent 1, .updated, 2⟩, ⟨.parent 1, .created, 1⟩] ∧
    d.books.parents.rows.map (fun r => (r.status, r.details.description, r.createdBy, r.approvedBy)) =
      [(.approved, "shirts of 2", some 1, some 2)] :=
  exists_exec (deskStep (classificationRules false)) .initial
    (P := fun _ d => d.log = [⟨.parent 1, .approved, 2⟩, ⟨.parent 1, .updated, 2⟩, ⟨.parent 1, .created, 1⟩] ∧
      d.books.parents.rows.map (fun r => (r.status, r.details.description, r.createdBy, r.approvedBy)) =
        [(.approved, "shirts of 2", some 1, some 2)])
    [.begin 1 (.create 1 ⟨"hsn", "6109", "shirts"⟩ (some "notification") 1), .statement 0, .commit 0,
      .begin 2 (.update 1 ⟨"hsn", "6109", "shirts of 2"⟩ (some "notification")), .statement 1, .statement 1, .commit 1,
      .begin 2 (.approve 1 2 none), .statement 2, .statement 2, .commit 2]
    (by decide)

/-- A registration and the tax configuration under it, each approved by the one who did not make it. -/
theorem approver_is_not_creator_settings : ∃ tr d, DeskRun (registrationSettings false) tr d ∧
    d.books.dated.rows.map (fun c => (c.createdBy, c.approvedBy)) = [(some 2, some 1)] ∧
    ∀ r ∈ d.books.dated.rows, r.status = .approved → ∃ c a, r.createdBy = some c ∧ r.approvedBy = some a ∧ c ≠ a ∧
      ⟨.dated r.id, .created, c⟩ ∈ d.log ∧ ⟨.dated r.id, .approved, a⟩ ∈ d.log := by
  obtain ⟨tr, d, run, hrows⟩ := exists_exec (deskStep (registrationSettings false)) .initial
    (P := fun _ d => d.books.dated.rows.map (fun c => (c.createdBy, c.approvedBy)) = [(some 2, some 1)])
    [.begin 1 (.create 1 ⟨"29ABCDE1234F1Z5", "Nova", "29", .openFrom 0⟩ none 1), .statement 0, .commit 0,
      .begin 2 (.approve 1 2 none), .statement 1, .statement 1, .commit 1,
      .begin 2 (.createDated 3 1 ⟨"exclusive", "delivery_state", "principal_supply", "line_half_up_paise"⟩ (.openFrom 0)
        (some "letter") 2), .statement 2, .statement 2, .commit 2,
      .begin 1 (.approveDated 3 1 none), .statement 3, .statement 3, .statement 3, .statement 3, .commit 3]
    (by decide)
  exact ⟨tr, d, run, hrows, (approver_is_not_creator rfl run).2.2⟩

end NovaCart
