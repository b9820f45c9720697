import NovaCart.TaxMaster

/-! The GST master over every run. -/

namespace NovaCart

open Schemes

section

variable {π τ : Type} {F : TaxFamily π τ} {s₀ s s' : TaxBooks π τ} {l : TaxLabel π τ}
  {tr : List (Taken (TaxBooks π τ) (TaxLabel π τ))} {tx tx' : TaxTx π τ} {r : MasterRecord π} {c : DatedRecord τ}

namespace TaxBooks

/-- Whatever belongs to the record is retired. -/
def Unused (s : TaxBooks π τ) (p : Id) : Prop := ∀ c ∈ s.dated.rows, c.parentId = p → c.status = .retired

def ParentApproved (s : TaxBooks π τ) (p : Id) : Prop := ∃ r ∈ s.parents.get? p, r.status = .approved

end TaxBooks

/-! ### What the transactions owe each other -/

/-- What a change of a record comes to. -/
inductive ParentWrite (s : TaxBooks π τ) (tx : TaxTx π τ) (r : MasterRecord π) : Prop
  | insert (hnone : tx.locksParent = none) (hdraft : r.status = .draft)
  | edit (old : MasterRecord π) (hlock : tx.locksParent = some r.id) (hget : s.parents.get? r.id = some old)
      (hdraft : old.status = .draft)
  | retire (old : MasterRecord π) (hlock : tx.locksParent = some r.id) (hget : s.parents.get? r.id = some old)
      (hrow : r = { old with status := .retired }) (hunused : s.Unused r.id)

/-- A dated record with its end brought forward. -/
def DatedRecord.EndsEarlier (c c' : DatedRecord τ) : Prop :=
  ∃ t, ∃ h : c.effective.start < t, (∀ old ∈ c.effective.stop, t ≤ old)
    ∧ c' = { c with effective := c.effective.endAt t h }

/-- What a change of a dated record comes to. -/
inductive DatedWrite (s : TaxBooks π τ) (tx : TaxTx π τ) (c : DatedRecord τ) : Prop
  | insert (hnone : tx.locksDated = none) (hdraft : c.status = .draft) (hshare : tx.sharesParent = some c.parentId)
  | edit (old : DatedRecord τ) (hlock : tx.locksDated = some c.id) (hget : s.dated.get? c.id = some old)
      (hold : old.status = .draft) (hdraft : c.status = .draft)
      (hparent : c.parentId = old.parentId ∨ tx.sharesParent = some c.parentId)
  | approve (old : DatedRecord τ) (hlock : tx.locksDated = some c.id) (hget : s.dated.get? c.id = some old)
      (hold : old.status = .draft) (hsame : c.parentId = old.parentId) (hparent : s.ParentApproved c.parentId)
  | close (old : DatedRecord τ) (hlock : tx.locksDated = some c.id) (hget : s.dated.get? c.id = some old)
      (hold : old.status = .approved) (hends : old.EndsEarlier c)
  | retire (old : DatedRecord τ) (hlock : tx.locksDated = some c.id) (hget : s.dated.get? c.id = some old)
      (hrow : c = { old with status := .retired })

/-- One of two transactions would have waited for the other. -/
def TaxTx.Excludes (F : TaxFamily π τ) (x y : TaxTx π τ) : Prop :=
  (∃ p, x.locksParent = some p ∧ (y.locksParent = some p ∨ y.sharesParent = some p))
    ∨ (∃ cid, x.locksDated = some cid ∧ y.locksDated = some cid)
    ∨ ∃ c c', x.datedRow = some c ∧ y.datedRow = some c' ∧ TaxBooks.clash F c c'

structure TaxTx.Fits (F : TaxFamily π τ) (s : TaxBooks π τ) (tx : TaxTx π τ) : Prop where
  free : tx.stage = .start ∨ tx.stage = .parentRead → tx.locksParent = none ∧ tx.locksDated = none
  locked : ∀ r, tx.stage = .locked r ∨ tx.stage = .unused r →
    tx.locksParent = some r.id ∧ s.parents.get? r.id = some r
  unused : ∀ r, tx.stage = .unused r → s.Unused r.id
  datedLocked : ∀ c, tx.stage = .datedLocked c ∨ tx.stage = .parentApproved c ∨ tx.stage = .noOverlap c →
    tx.locksDated = some c.id ∧ s.dated.get? c.id = some c
  apart : ∀ c, tx.stage = .datedLocked c → tx.locksParent = none
  approved : ∀ c, tx.stage = .parentApproved c ∨ tx.stage = .noOverlap c →
    c.status = .draft ∧ s.ParentApproved c.parentId
  blank : tx.stage ≠ .done → tx.parentRow = none ∧ tx.datedRow = none
  parentRow : ∀ r, tx.parentRow = some r → tx.datedRow = none ∧ ParentWrite s tx r
  datedRow : ∀ c, tx.datedRow = some c → tx.parentRow = none ∧ DatedWrite s tx c
    ∧ ∀ c' ∈ s.dated.rows, TaxBooks.clash F c c' → c'.id = c.id

structure TaxInv (F : TaxFamily π τ) (s : TaxBooks π τ) : Prop where
  exclusive : ∀ x ∈ s.txs.rows, ∀ y ∈ s.txs.rows, x.Excludes F y → x.id = y.id
  fits : ∀ x ∈ s.txs.rows, x.Fits F s
  apart : ∀ c ∈ s.dated.rows, ∀ c' ∈ s.dated.rows, TaxBooks.clash F c c' → c.id = c'.id
  parentApproved : ∀ c ∈ s.dated.rows, c.status = .approved → s.ParentApproved c.parentId

/-- What the others may do between two statements of a transaction. -/
theorem TaxTx.Fits.mono (h : tx.Fits F s)
    (hparents : ∀ p r, tx.locksParent = some p → s.parents.get? p = some r → s'.parents.get? p = some r)
    (hdated : ∀ cid c, tx.locksDated = some cid → s.dated.get? cid = some c → s'.dated.get? cid = some c)
    (hunused : ∀ p, tx.locksParent = some p → s.Unused p → s'.Unused p)
    (happroved : ∀ c ∈ s.dated.rows, tx.locksDated = some c.id → c.status = .draft → s.ParentApproved c.parentId →
      s'.ParentApproved c.parentId)
    (hclash : ∀ c, tx.datedRow = some c → ∀ c' ∈ s'.dated.rows, TaxBooks.clash F c c' → c' ∈ s.dated.rows) :
    tx.Fits F s' := by
  refine ⟨h.free, fun r hstage => ?_, fun r hstage => ?_, fun c hstage => ?_, h.apart, fun c hstage => ?_, h.blank,
    fun r hrow => ?_, fun c hrow => ?_⟩
  · obtain ⟨hlock, hget⟩ := h.locked r hstage
    exact ⟨hlock, hparents _ _ hlock hget⟩
  · exact hunused _ (h.locked r (.inr hstage)).1 (h.unused r hstage)
  · obtain ⟨hlock, hget⟩ := h.datedLocked c hstage
    exact ⟨hlock, hdated _ _ hlock hget⟩
  · obtain ⟨hlock, hget⟩ := h.datedLocked c (.inr hstage)
    obtain ⟨hdraft, hparent⟩ := h.approved c hstage
    exact ⟨hdraft, happroved c (Table.mem_of_get? hget) hlock hdraft hparent⟩
  · obtain ⟨hnone, hwrite⟩ := h.parentRow r hrow
    refine ⟨hnone, ?_⟩
    cases hwrite with
    | insert hno hdraft => exact .insert hno hdraft
    | edit old hlock hget hdraft => exact .edit old hlock (hparents _ _ hlock hget) hdraft
    | retire old hlock hget hr hun => exact .retire old hlock (hparents _ _ hlock hget) hr (hunused _ hlock hun)
  · obtain ⟨hnone, hwrite, hapart⟩ := h.datedRow c hrow
    refine ⟨hnone, ?_, fun c' hc' hcl => hapart c' (hclash c hrow c' hc' hcl) hcl⟩
    cases hwrite with
    | insert hno hdraft hshare => exact .insert hno hdraft hshare
    | edit old hlock hget hold hdraft hparent => exact .edit old hlock (hdated _ _ hlock hget) hold hdraft hparent
    | approve old hlock hget hold hsame hparent =>
      refine .approve old hlock (hdated _ _ hlock hget) hold hsame ?_
      have hid : old.id = c.id := Table.key_of_get? hget
      rw [hsame] at hparent ⊢
      exact happroved old (Table.mem_of_get? hget) (hid ▸ hlock) hold hparent
    | close old hlock hget hold hends => exact .close old hlock (hdated _ _ hlock hget) hold hends
    | retire old hlock hget hr => exact .retire old hlock (hdated _ _ hlock hget) hr

/-! ### Statements -/

/-- What a statement comes to. -/
inductive TaxTx.Advances (F : TaxFamily π τ) (s : TaxBooks π τ) (tx : TaxTx π τ) : TaxTx π τ → Prop
  | lockParent (r : MasterRecord π) (hwas : tx.stage = .start) (hget : s.parents.get? r.id = some r)
      (hfree : ∀ x ∈ s.txs.rows, x.id ≠ tx.id → x.locksParent ≠ some r.id ∧ x.sharesParent ≠ some r.id) :
      tx.Advances F s { tx with locksParent := some r.id, stage := .locked r }
  | lockDated (c : DatedRecord τ) (hwas : tx.stage = .start) (hget : s.dated.get? c.id = some c)
      (hfree : ∀ x ∈ s.txs.rows, x.id ≠ tx.id → x.locksDated ≠ some c.id) :
      tx.Advances F s { tx with locksDated := some c.id, stage := .datedLocked c }
  | read (hwas : tx.stage = .start) : tx.Advances F s { tx with stage := .parentRead }
  | unused (r : MasterRecord π) (hwas : tx.stage = .locked r) (hunused : s.Unused r.id) :
      tx.Advances F s { tx with stage := .unused r }
  | parentApproved (c : DatedRecord τ) (hwas : tx.stage = .datedLocked c) (hdraft : c.status = .draft)
      (hparent : s.ParentApproved c.parentId) : tx.Advances F s { tx with stage := .parentApproved c }
  | noOverlap (c : DatedRecord τ) (hwas : tx.stage = .parentApproved c) : tx.Advances F s { tx with stage := .noOverlap c }
  | parent (r : MasterRecord π) (hnot : tx.stage ≠ .done) (hwrite : ParentWrite s tx r) :
      tx.Advances F s { tx with stage := .done, parentRow := some r }
  | dated (share : Option Id) (c : DatedRecord τ) (hnot : tx.stage ≠ .done)
      (hshare : share = tx.sharesParent
        ∨ ∃ p, share = some p ∧ tx.locksParent = none ∧ ∀ x ∈ s.txs.rows, x.id ≠ tx.id → x.locksParent ≠ some p)
      (hwrite : DatedWrite s { tx with sharesParent := share } c)
      (hrows : ∀ c' ∈ s.dated.rows, TaxBooks.clash F c c' → c'.id = c.id)
      (htxs : ∀ x ∈ s.txs.rows, x.id ≠ tx.id → ∀ c' ∈ x.datedRow, ¬TaxBooks.clash F c c') :
      tx.Advances F s { tx with sharesParent := share, stage := .done, datedRow := some c }

theorem lockParent_advances {id : Id} (hwas : tx.stage = .start) (h : s.lockParent tx id = some tx') :
    tx.Advances F s tx' := by
  obtain ⟨r, hget, hs⟩ := Option.bind_eq_some_iff.mp h
  split at hs
  · cases hs
  · rename_i hbusy
    cases hs
    obtain rfl : r.id = id := Table.key_of_get? hget
    exact .lockParent r hwas hget fun x hx hne =>
      ⟨fun hl => hbusy ⟨x, hx, hne, .inl hl⟩, fun hl => hbusy ⟨x, hx, hne, .inr hl⟩⟩

theorem lockDated_advances {id : Id} (hwas : tx.stage = .start) (h : s.lockDated tx id = some tx') :
    tx.Advances F s tx' := by
  obtain ⟨c, hget, hs⟩ := Option.bind_eq_some_iff.mp h
  split at hs
  · cases hs
  · rename_i hbusy
    cases hs
    obtain rfl : c.id = id := Table.key_of_get? hget
    exact .lockDated c hwas hget fun x hx hne hl => hbusy ⟨x, hx, hne, hl⟩

theorem shareDated_advances {share : Option Id} (h : TaxBooks.writeDated F s { tx with sharesParent := share } c = some tx')
    (hnot : tx.stage ≠ .done)
    (hshare : share = tx.sharesParent
      ∨ ∃ p, share = some p ∧ tx.locksParent = none ∧ ∀ x ∈ s.txs.rows, x.id ≠ tx.id → x.locksParent ≠ some p)
    (hwrite : DatedWrite s { tx with sharesParent := share } c) : tx.Advances F s tx' := by
  rw [TaxBooks.writeDated] at h
  split at h
  · cases h
  · rename_i hclash
    rw [not_or] at hclash
    cases h
    refine .dated share c hnot hshare hwrite (fun c' hc' hcl => ?_) fun x hx hne c' hc' hcl =>
      hclash.2 ⟨x, hx, hne, c', hc', hcl⟩
    by_contra hne
    exact hclash.1 ⟨c', hc', hne, hcl⟩

theorem writeDated_advances (h : TaxBooks.writeDated F s tx c = some tx') (hnot : tx.stage ≠ .done)
    (hwrite : DatedWrite s tx c) : tx.Advances F s tx' :=
  @shareDated_advances _ _ _ _ _ _ _ tx.sharesParent h hnot (.inl rfl) hwrite

theorem unused_of_not_open {p : Id} (h : ¬s.hasOpen p) : s.Unused p := by
  intro c hc hp
  by_contra hne
  exact h ⟨c, hc, hp, hne⟩

theorem tax_advance_cases (hfits : tx.Fits F s) (h : s.advance F tx = some tx') : tx.Advances F s tx' := by
  have hdone {stage : TaxStage π τ} (hstage : tx.stage = stage) (hne : stage ≠ .done) : tx.stage ≠ .done := by
    rw [hstage]; exact hne
  rw [TaxBooks.advance.eq_def] at h
  cases hcall : tx.call with
  | create newId details source actor =>
    cases hstage : tx.stage with
    | start =>
      rw [hcall, hstage] at h
      dsimp only at h
      split at h
      · cases h
      · cases h
        exact .parent _ (hdone hstage (fun h => by cases h)) (.insert (hfits.free (.inl hstage)).1 rfl)
    | _ => rw [hcall, hstage] at h; cases h
  | update id details source =>
    cases hstage : tx.stage with
    | start => rw [hcall, hstage] at h; exact lockParent_advances hstage h
    | locked r =>
      obtain ⟨hlock, hget⟩ := hfits.locked r (.inl hstage)
      rw [hcall, hstage] at h
      dsimp only at h
      split at h
      · rename_i hok
        cases h
        exact .parent _ (hdone hstage (fun h => by cases h)) (.edit r hlock hget hok.1)
      · cases h
    | _ => rw [hcall, hstage] at h; cases h
  | approve id actor note =>
    cases hstage : tx.stage with
    | start => rw [hcall, hstage] at h; exact lockParent_advances hstage h
    | locked r =>
      obtain ⟨hlock, hget⟩ := hfits.locked r (.inl hstage)
      rw [hcall, hstage] at h
      dsimp only at h
      split at h
      · rename_i hok
        cases h
        exact .parent _ (hdone hstage (fun h => by cases h)) (.edit r hlock hget hok.1.1)
      · cases h
    | _ => rw [hcall, hstage] at h; cases h
  | retire id =>
    cases hstage : tx.stage with
    | start => rw [hcall, hstage] at h; exact lockParent_advances hstage h
    | locked r =>
      rw [hcall, hstage] at h
      dsimp only at h
      split at h
      · rename_i hok
        cases h
        rw [← hcall]
        exact .unused r hstage (unused_of_not_open hok.2)
      · cases h
    | unused r =>
      obtain ⟨hlock, hget⟩ := hfits.locked r (.inr hstage)
      rw [hcall, hstage] at h
      dsimp only at h
      split at h
      · cases h
      · cases h
        exact .parent _ (hdone hstage (fun h => by cases h)) (.retire r hlock hget rfl (hfits.unused r hstage))
    | _ => rw [hcall, hstage] at h; cases h
  | createDated newId parentId terms effective source actor =>
    cases hstage : tx.stage with
    | start =>
      rw [hcall, hstage] at h
      dsimp only at h
      cases hr : s.parents.get? parentId with
      | none => rw [hr] at h; cases h
      | some r =>
        rw [hr] at h
        dsimp only at h
        split at h
        · cases h
        · cases h
          rw [← hcall]
          exact .read hstage
    | parentRead =>
      obtain ⟨hfree, hnone⟩ := hfits.free (.inr hstage)
      rw [hcall, hstage] at h
      dsimp only at h
      split at h
      · rename_i hparent
        rw [← hcall, ← hstage] at h
        exact shareDated_advances h (hdone hstage (fun h => by cases h)) (.inr ⟨parentId, rfl, hfree, hparent.2⟩) (.insert hnone rfl rfl)
      · cases h
    | _ => rw [hcall, hstage] at h; cases h
  | updateDated id parentId terms effective source =>
    cases hstage : tx.stage with
    | start => rw [hcall, hstage] at h; exact lockDated_advances hstage h
    | datedLocked c =>
      obtain ⟨hlock, hget⟩ := hfits.datedLocked c (.inl hstage)
      rw [hcall, hstage] at h
      dsimp only at h
      split at h
      · rename_i hok
        split at h
        · split at h
          · rename_i hparent
            rw [← hcall, ← hstage] at h
            exact shareDated_advances h (hdone hstage (fun h => by cases h)) (.inr ⟨parentId, rfl, hfits.apart c hstage, hparent.2⟩)
              (.edit c hlock hget hok.1 hok.1 (.inr rfl))
          · cases h
        · exact writeDated_advances h (hdone hstage (fun h => by cases h)) (.edit c hlock hget hok.1 hok.1 (.inl rfl))
      · cases h
    | _ => rw [hcall, hstage] at h; cases h
  | approveDated id actor note =>
    cases hstage : tx.stage with
    | start => rw [hcall, hstage] at h; exact lockDated_advances hstage h
    | datedLocked c =>
      rw [hcall, hstage] at h
      dsimp only at h
      split at h
      · rename_i hok
        cases h
        rw [← hcall]
        exact .parentApproved c hstage hok.1 hok.2.2
      · cases h
    | parentApproved c =>
      rw [hcall, hstage] at h
      dsimp only at h
      split at h
      · cases h
      · cases h
        rw [← hcall]
        exact .noOverlap c hstage
    | noOverlap c =>
      obtain ⟨hlock, hget⟩ := hfits.datedLocked c (.inr (.inr hstage))
      obtain ⟨hdraft, hparent⟩ := hfits.approved c (.inr hstage)
      rw [hcall, hstage] at h
      dsimp only at h
      split at h
      · exact writeDated_advances h (hdone hstage (fun h => by cases h)) (.approve c hlock hget hdraft rfl hparent)
      · cases h
    | _ => rw [hcall, hstage] at h; cases h
  | close id effectiveTo =>
    cases hstage : tx.stage with
    | start =>
      rw [hcall, hstage] at h
      dsimp only at h
      split at h
      · exact lockDated_advances hstage h
      · cases h
    | datedLocked c =>
      obtain ⟨hlock, hget⟩ := hfits.datedLocked c (.inl hstage)
      rw [hcall, hstage] at h
      dsimp only at h
      split at h
      · rename_i hok
        split at h
        · rename_i hlt
          exact writeDated_advances h (hdone hstage (fun h => by cases h)) (.close c hlock hget hok.1 ⟨effectiveTo, hlt, hok.2, rfl⟩)
        · cases h
      · cases h
    | _ => rw [hcall, hstage] at h; cases h
  | retireDated id =>
    cases hstage : tx.stage with
    | start => rw [hcall, hstage] at h; exact lockDated_advances hstage h
    | datedLocked c =>
      obtain ⟨hlock, hget⟩ := hfits.datedLocked c (.inl hstage)
      rw [hcall, hstage] at h
      dsimp only at h
      split at h
      · exact writeDated_advances h (hdone hstage (fun h => by cases h)) (.retire c hlock hget rfl)
      · cases h
    | _ => rw [hcall, hstage] at h; cases h

theorem TaxTx.Advances.id (hadv : tx.Advances F s tx') : tx'.id = tx.id := by cases hadv <;> rfl

theorem TaxTx.Advances.not_done (hadv : tx.Advances F s tx') : tx.stage ≠ .done := by
  cases hadv with
  | lockParent _ hwas _ _ => rw [hwas]; nofun
  | lockDated _ hwas _ _ => rw [hwas]; nofun
  | read hwas => rw [hwas]; nofun
  | unused _ hwas _ => rw [hwas]; nofun
  | parentApproved _ hwas _ _ => rw [hwas]; nofun
  | noOverlap _ hwas => rw [hwas]; nofun
  | parent _ hnot _ => exact hnot
  | dated _ _ hnot _ _ _ _ => exact hnot

theorem TaxBooks.clash_symm {c' : DatedRecord τ} (h : TaxBooks.clash F c c') : TaxBooks.clash F c' c :=
  ⟨h.2.1, h.1, fun hp => (h.2.2.1 hp).symm, Period.overlaps_symm h.2.2.2⟩

/-- What a statement newly locks or writes, no other transaction has. -/
theorem TaxTx.Advances.apart (hadv : tx.Advances F s tx') {x : TaxTx π τ} (hx : x ∈ s.txs.rows) (hne : x.id ≠ tx.id) :
    (x.Excludes F tx' → x.Excludes F tx) ∧ (tx'.Excludes F x → tx.Excludes F x) := by
  have hnone := hadv.not_done
  cases hadv with
  | lockParent r hwas hget hfree =>
    obtain ⟨h₁, h₂⟩ := hfree x hx hne
    constructor
    · rintro (⟨p, hp, hq | hq⟩ | h | h)
      · cases hq; exact absurd hp h₁
      · exact .inl ⟨p, hp, .inr hq⟩
      · exact .inr (.inl h)
      · exact .inr (.inr h)
    · rintro (⟨p, hp, hq⟩ | h | h)
      · cases hp
        rcases hq with hq | hq
        · exact absurd hq h₁
        · exact absurd hq h₂
      · exact .inr (.inl h)
      · exact .inr (.inr h)
  | lockDated c hwas hget hfree =>
    have h₁ := hfree x hx hne
    constructor
    · rintro (h | ⟨cid, hc, hq⟩ | h)
      · exact .inl h
      · cases hq; exact absurd hc h₁
      · exact .inr (.inr h)
    · rintro (h | ⟨cid, hc, hq⟩ | h)
      · exact .inl h
      · cases hc; exact absurd hq h₁
      · exact .inr (.inr h)
  | read | unused | parentApproved | noOverlap | parent => exact ⟨fun h => h, fun h => h⟩
  | dated share c hnot hshare hwrite hrows htxs =>
    have hrow := htxs x hx hne
    constructor
    · rintro (⟨p, hp, hq | hq⟩ | h | ⟨c₁, c₂, hc₁, hc₂, hcl⟩)
      · exact .inl ⟨p, hp, .inl hq⟩
      · rcases hshare with rfl | ⟨p', rfl, _, hfree⟩
        · exact .inl ⟨p, hp, .inr hq⟩
        · cases hq; exact absurd hp (hfree x hx hne)
      · exact .inr (.inl h)
      · cases hc₂; exact absurd (TaxBooks.clash_symm hcl) (hrow c₁ hc₁)
    · rintro (⟨p, hp, hq⟩ | h | ⟨c₁, c₂, hc₁, hc₂, hcl⟩)
      · exact .inl ⟨p, hp, hq⟩
      · exact .inr (.inl h)
      · cases hc₁; exact absurd hcl (hrow c₂ hc₂)

/-- A statement leaves the transaction fitting. -/
theorem TaxTx.Advances.fits (hadv : tx.Advances F s tx') (hfits : tx.Fits F s) : tx'.Fits F s := by
  obtain ⟨hparent, hdated⟩ := hfits.blank hadv.not_done
  have hnoParent (r : MasterRecord π) (h : tx.parentRow = some r) : False := by rw [hparent] at h; cases h
  have hnoDated (c : DatedRecord τ) (h : tx.datedRow = some c) : False := by rw [hdated] at h; cases h
  cases hadv with
  | lockParent r hwas hget _ =>
    refine ⟨(by rintro (h | h) <;> cases h), ?_, by rintro _ ⟨⟩, (by rintro _ (h | h | h) <;> cases h), by rintro _ ⟨⟩,
      (by rintro _ (h | h) <;> cases h), fun _ => ⟨hparent, hdated⟩, fun r h => (hnoParent r h).elim,
      fun c h => (hnoDated c h).elim⟩
    rintro r' (h | h)
    · cases h; exact ⟨rfl, hget⟩
    · cases h
  | lockDated c hwas hget _ =>
    refine ⟨(by rintro (h | h) <;> cases h), (by rintro _ (h | h) <;> cases h), by rintro _ ⟨⟩, ?_,
      fun _ _ => (hfits.free (.inl hwas)).1,
      (by rintro _ (h | h) <;> cases h), fun _ => ⟨hparent, hdated⟩, fun r h => (hnoParent r h).elim,
      fun c h => (hnoDated c h).elim⟩
    rintro c' (h | h | h)
    · cases h; exact ⟨rfl, hget⟩
    · cases h
    · cases h
  | read hwas =>
    exact ⟨fun _ => hfits.free (.inl hwas), (by rintro _ (h | h) <;> cases h), by rintro _ ⟨⟩,
      (by rintro _ (h | h | h) <;> cases h), by rintro _ ⟨⟩, (by rintro _ (h | h) <;> cases h),
      fun _ => ⟨hparent, hdated⟩, fun r h => (hnoParent r h).elim, fun c h => (hnoDated c h).elim⟩
  | unused r hwas hunused =>
    refine ⟨(by rintro (h | h) <;> cases h), ?_, ?_, (by rintro _ (h | h | h) <;> cases h), by rintro _ ⟨⟩,
      (by rintro _ (h | h) <;> cases h), fun _ => ⟨hparent, hdated⟩, fun r h => (hnoParent r h).elim,
      fun c h => (hnoDated c h).elim⟩
    · rintro r' (h | h)
      · cases h
      · cases h; exact hfits.locked r (.inl hwas)
    · rintro r' h
      cases h; exact hunused
  | parentApproved c hwas hdraft hok =>
    refine ⟨(by rintro (h | h) <;> cases h), (by rintro _ (h | h) <;> cases h), by rintro _ ⟨⟩, ?_, by rintro _ ⟨⟩, ?_,
      fun _ => ⟨hparent, hdated⟩, fun r h => (hnoParent r h).elim, fun c h => (hnoDated c h).elim⟩
    · rintro c' (h | h | h)
      · cases h
      · cases h; exact hfits.datedLocked c (.inl hwas)
      · cases h
    · rintro c' (h | h)
      · cases h; exact ⟨hdraft, hok⟩
      · cases h
  | noOverlap c hwas =>
    refine ⟨(by rintro (h | h) <;> cases h), (by rintro _ (h | h) <;> cases h), by rintro _ ⟨⟩, ?_, by rintro _ ⟨⟩, ?_,
      fun _ => ⟨hparent, hdated⟩, fun r h => (hnoParent r h).elim, fun c h => (hnoDated c h).elim⟩
    · rintro c' (h | h | h)
      · cases h
      · cases h
      · cases h; exact hfits.datedLocked c (.inr (.inl hwas))
    · rintro c' (h | h)
      · cases h
      · cases h; exact hfits.approved c (.inl hwas)
  | parent r hnot hwrite =>
    refine ⟨(by rintro (h | h) <;> cases h), (by rintro _ (h | h) <;> cases h), by rintro _ ⟨⟩,
      (by rintro _ (h | h | h) <;> cases h), by rintro _ ⟨⟩, (by rintro _ (h | h) <;> cases h), fun h => absurd rfl h, ?_,
      fun c h => (hnoDated c h).elim⟩
    rintro _ ⟨⟩
    refine ⟨hdated, ?_⟩
    cases hwrite with
    | insert hno hdraft => exact .insert hno hdraft
    | edit old hlock hget hdraft => exact .edit old hlock hget hdraft
    | retire old hlock hget hr hun => exact .retire old hlock hget hr hun
  | dated share c hnot hshare hwrite hrows htxs =>
    refine ⟨(by rintro (h | h) <;> cases h), (by rintro _ (h | h) <;> cases h), by rintro _ ⟨⟩,
      (by rintro _ (h | h | h) <;> cases h), by rintro _ ⟨⟩, (by rintro _ (h | h) <;> cases h), fun h => absurd rfl h,
      fun r h => (hnoParent r h).elim, ?_⟩
    rintro _ ⟨⟩
    refine ⟨hparent, ?_, hrows⟩
    cases hwrite with
    | insert hno hdraft hsh => exact .insert hno hdraft hsh
    | edit old hlock hget hold hdraft hp => exact .edit old hlock hget hold hdraft hp
    | approve old hlock hget hold hsame hp => exact .approve old hlock hget hold hsame hp
    | close old hlock hget hold hends => exact .close old hlock hget hold hends
    | retire old hlock hget hr => exact .retire old hlock hget hr

/-- Nothing of the tables has changed. -/
theorem TaxTx.Fits.congr (h : tx.Fits F s) (hparents : s'.parents = s.parents) (hdated : s'.dated = s.dated) :
    tx.Fits F s' := by
  refine h.mono (fun _ _ _ hg => hparents ▸ hg) (fun _ _ _ hg => hdated ▸ hg) (fun p _ hun => ?_) (fun c _ _ _ hp => ?_)
    fun c _ c' hc' _ => hdated ▸ hc'
  · rw [TaxBooks.Unused, hdated]; exact hun
  · rw [TaxBooks.ParentApproved, hparents]; exact hp

theorem TaxInv.statement (hinv : TaxInv F s) (htx : s.txs.get? tx.id = some tx) (hadv : tx.Advances F s tx') :
    TaxInv F { s with txs := s.txs.replace tx' } := by
  have hmem := Table.mem_of_get? htx
  have hid := hadv.id
  have hget : s.txs.get? tx'.id = some tx := hid.symm ▸ htx
  refine ⟨Table.pairs_replace (P := TaxTx.Excludes F) hget hinv.exclusive fun z hz hne => ?_, fun x hx => ?_, hinv.apart,
    hinv.parentApproved⟩
  · have hne' : z.id ≠ tx.id := fun h => hne (h.trans hid.symm)
    obtain ⟨h₁, h₂⟩ := hadv.apart hz hne'
    exact ⟨fun h => hne' (hinv.exclusive z hz tx hmem (h₁ h)), fun h => hne' (hinv.exclusive tx hmem z hz (h₂ h)).symm⟩
  · rcases (Table.mem_replace (r := tx) hget).mp hx with rfl | ⟨hxs, _⟩
    · exact (hadv.fits (hinv.fits tx hmem)).congr rfl rfl
    · exact (hinv.fits x hxs).congr rfl rfl

/-! ### Commits -/

/-- What a commit makes of the records. -/
structure StoresParents (s : TaxBooks π τ) (tx : TaxTx π τ) (parents : Table (MasterRecord π)) : Prop where
  kept : ∀ p r, tx.locksParent ≠ some p → s.parents.get? p = some r → parents.get? p = some r
  approved : ∀ p, s.ParentApproved p → ¬s.Unused p → ∃ r ∈ parents.get? p, r.status = .approved
  keeps : ∀ r ∈ s.parents.rows, r.status = .approved →
    ∃ r' ∈ parents.get? r.id, r' = r ∨ r' = { r with status := .retired }

theorem stores_parents (hfits : tx.Fits F s) {parents : Table (MasterRecord π)}
    (h : TaxBooks.stored s.parents tx.parentRow tx.locksParent = some parents) : StoresParents s tx parents := by
  cases hrow : tx.parentRow with
  | none =>
    rw [hrow] at h
    cases h
    exact ⟨fun _ _ _ hg => hg, fun _ hp _ => hp, fun r hr _ => ⟨r, Table.get?_of_mem hr, .inl rfl⟩⟩
  | some row =>
    obtain ⟨_, hwrite⟩ := hfits.parentRow row hrow
    rw [hrow] at h
    -- a record that is replaced was a draft, or is retired
    have hreplace (old : MasterRecord π) (hlock : tx.locksParent = some row.id) (hget : s.parents.get? row.id = some old)
        (hold : old.status = .approved → row = { old with status := .retired } ∧ s.Unused row.id) :
        StoresParents s tx (s.parents.replace row) := by
      refine ⟨fun p r hne hg => (Table.get?_replace_of_ne ?_).trans hg, fun p hp hused => ?_, fun r hr happroved => ?_⟩
      · rintro rfl; exact hne hlock
      · obtain ⟨r, hg, happroved⟩ := hp
        by_cases hp : p = row.id
        · subst hp
          obtain rfl : r = old := Option.some.inj ((Option.mem_def.mp hg).symm.trans hget)
          exact absurd (hold happroved).2 hused
        · exact ⟨r, (Table.get?_replace_of_ne hp).trans hg, happroved⟩
      · by_cases hp : r.id = row.id
        · have hg : s.parents.get? r.id = some r := Table.get?_of_mem hr
          rw [hp] at hg
          obtain rfl : r = old := Option.some.inj (hg.symm.trans hget)
          refine ⟨row, ?_, .inr (hold happroved).1⟩
          rw [hp]
          exact Table.get?_replace_self (q := row) hget
        · exact ⟨r, (Table.get?_replace_of_ne hp).trans (Table.get?_of_mem hr), .inl rfl⟩
    cases hwrite with
    | insert hno hdraft =>
      rw [hno] at h
      have hins : s.parents.insert? row = some parents := h
      have hkept {p : Id} {r : MasterRecord π} (hg : s.parents.get? p = some r) : parents.get? p = some r :=
        Table.get?_insert?_of_some hins hg
      refine ⟨fun p r _ hg => hkept hg, fun p hp _ => ?_, fun r hr _ => ⟨r, hkept (Table.get?_of_mem hr), .inl rfl⟩⟩
      obtain ⟨r, hg, happroved⟩ := hp
      exact ⟨r, hkept hg, happroved⟩
    | edit old hlock hget hdraft =>
      rw [hlock] at h
      cases h
      exact hreplace old hlock hget fun happroved => by rw [hdraft] at happroved; cases happroved
    | retire old hlock hget hr hun =>
      rw [hlock] at h
      cases h
      exact hreplace old hlock hget fun _ => ⟨hr, hun⟩

/-- What a commit makes of the dated records. -/
structure StoresDated (s : TaxBooks π τ) (tx : TaxTx π τ) (dated : Table (DatedRecord τ)) : Prop where
  kept : ∀ cid c, tx.locksDated ≠ some cid → s.dated.get? cid = some c → dated.get? cid = some c
  mem : ∀ c ∈ dated.rows, c ∈ s.dated.rows ∨ tx.datedRow = some c
  unused : ∀ p, tx.sharesParent ≠ some p → s.Unused p → ∀ c ∈ dated.rows, c.parentId = p → c.status = .retired
  keeps : ∀ c ∈ s.dated.rows, c.status = .approved →
    ∃ c' ∈ dated.get? c.id, c' = c ∨ c' = { c with status := .retired } ∨ c.EndsEarlier c'

theorem stores_dated (hfits : tx.Fits F s) {dated : Table (DatedRecord τ)}
    (h : TaxBooks.stored s.dated tx.datedRow tx.locksDated = some dated) : StoresDated s tx dated := by
  cases hrow : tx.datedRow with
  | none =>
    rw [hrow] at h
    cases h
    exact ⟨fun _ _ _ hg => hg, fun c hc => .inl hc, fun p _ hun => hun, fun c hc _ => ⟨c, Table.get?_of_mem hc, .inl rfl⟩⟩
  | some row =>
    obtain ⟨_, hwrite, _⟩ := hfits.datedRow row hrow
    rw [hrow] at h
    have hreplace (old : DatedRecord τ) (hlock : tx.locksDated = some row.id) (hget : s.dated.get? row.id = some old)
        (hparent : ∀ p, tx.sharesParent ≠ some p → s.Unused p → row.parentId = p → row.status = .retired)
        (hold : old.status = .approved → row = { old with status := .retired } ∨ old.EndsEarlier row) :
        StoresDated s tx (s.dated.replace row) := by
      refine ⟨fun cid c hne hg => (Table.get?_replace_of_ne ?_).trans hg, fun c hc => ?_, fun p hne hun c hc hp => ?_,
        fun c hc happroved => ?_⟩
      · rintro rfl; exact hne hlock
      · rcases (Table.mem_replace (r := old) hget).mp hc with rfl | ⟨hc, _⟩
        · exact .inr hrow
        · exact .inl hc
      · rcases (Table.mem_replace (r := old) hget).mp hc with rfl | ⟨hc, _⟩
        · exact hparent p hne hun hp
        · exact hun c hc hp
      · by_cases hid : c.id = row.id
        · have hg : s.dated.get? c.id = some c := Table.get?_of_mem hc
          rw [hid] at hg
          obtain rfl : c = old := Option.some.inj (hg.symm.trans hget)
          refine ⟨row, ?_, .inr (hold happroved)⟩
          rw [hid]
          exact Table.get?_replace_self (q := row) hget
        · exact ⟨c, (Table.get?_replace_of_ne hid).trans (Table.get?_of_mem hc), .inl rfl⟩
    cases hwrite with
    | insert hno hdraft hshare =>
      rw [hno] at h
      have hins : s.dated.insert? row = some dated := h
      refine ⟨fun cid c _ hg => Table.get?_insert?_of_some hins hg, fun c hc => ?_, fun p hne hun c hc hp => ?_,
        fun c hc _ => ⟨c, Table.get?_insert?_of_some hins (Table.get?_of_mem hc), .inl rfl⟩⟩
      · rcases (Table.mem_insert? hins).mp hc with rfl | hc
        · exact .inr hrow
        · exact .inl hc
      · rcases (Table.mem_insert? hins).mp hc with rfl | hc
        · exact absurd (hp ▸ hshare) hne
        · exact hun c hc hp
    | edit old hlock hget hold hdraft hparent =>
      rw [hlock] at h
      cases h
      refine hreplace old hlock hget (fun p hne hun hp => ?_) fun happroved => by rw [hold] at happroved; cases happroved
      rcases hparent with hsame | hshare
      · have hretired := hun old (Table.mem_of_get? hget) (hsame ▸ hp)
        rw [hold] at hretired; cases hretired
      · exact absurd (hp ▸ hshare) hne
    | approve old hlock hget hold hsame hparent =>
      rw [hlock] at h
      cases h
      refine hreplace old hlock hget (fun p _ hun hp => ?_) fun happroved => by rw [hold] at happroved; cases happroved
      have hretired := hun old (Table.mem_of_get? hget) (hsame ▸ hp)
      rw [hold] at hretired; cases hretired
    | close old hlock hget hold hends =>
      rw [hlock] at h
      cases h
      refine hreplace old hlock hget (fun p _ hun hp => ?_) fun _ => .inr hends
      obtain ⟨t, ht, _, rfl⟩ := hends
      exact hun old (Table.mem_of_get? hget) hp
    | retire old hlock hget hr =>
      rw [hlock] at h
      cases h
      exact hreplace old hlock hget (fun p _ _ _ => by rw [hr]) fun _ => .inl hr

/-- An approved record changes only to end earlier, or to be retired. -/
def TaxBooks.Keeps (s s' : TaxBooks π τ) : Prop :=
  (∀ r ∈ s.parents.rows, r.status = .approved →
      ∃ r' ∈ s'.parents.get? r.id, r' = r ∨ r' = { r with status := .retired })
  ∧ ∀ c ∈ s.dated.rows, c.status = .approved →
      ∃ c' ∈ s'.dated.get? c.id, c' = c ∨ c' = { c with status := .retired } ∨ c.EndsEarlier c'

theorem TaxBooks.Keeps.of_eq (hparents : s'.parents = s.parents) (hdated : s'.dated = s.dated) : s.Keeps s' := by
  refine ⟨fun r hr _ => ⟨r, ?_, .inl rfl⟩, fun c hc _ => ⟨c, ?_, .inl rfl⟩⟩
  · rw [hparents]; exact Table.get?_of_mem hr
  · rw [hdated]; exact Table.get?_of_mem hc

theorem apply_some (h : s.apply tx = some s') : ∃ parents dated,
    TaxBooks.stored s.parents tx.parentRow tx.locksParent = some parents
    ∧ TaxBooks.stored s.dated tx.datedRow tx.locksDated = some dated
    ∧ s' = { s with parents := parents, dated := dated, txs := s.txs.erase tx.id } := by
  rw [TaxBooks.apply] at h
  cases hstage : tx.stage with
  | done =>
    rw [hstage] at h
    obtain ⟨parents, hparents, h⟩ := Option.bind_eq_some_iff.mp h
    obtain ⟨dated, hdated, h⟩ := Option.map_eq_some_iff.mp h
    exact ⟨parents, dated, hparents, hdated, h.symm⟩
  | _ => rw [hstage] at h; cases h

/-- An approved row that is written belongs to an approved record. -/
theorem parentApproved_of_write (hinv : TaxInv F s) (hwrite : DatedWrite s tx c) (happroved : c.status = .approved) :
    s.ParentApproved c.parentId ∧ ¬s.Unused c.parentId := by
  have hopen {old : DatedRecord τ} (hget : s.dated.get? c.id = some old) (hsame : c.parentId = old.parentId)
      (hold : old.status ≠ .retired) : ¬s.Unused c.parentId :=
    fun hun => hold (hun old (Table.mem_of_get? hget) hsame.symm)
  cases hwrite with
  | insert hno hdraft _ => rw [hdraft] at happroved; cases happroved
  | edit old _ _ _ hdraft _ => rw [hdraft] at happroved; cases happroved
  | approve old hlock hget hold hsame hparent => exact ⟨hparent, hopen hget hsame (by rw [hold]; decide)⟩
  | close old hlock hget hold hends =>
    obtain ⟨t, ht, _, rfl⟩ := hends
    exact ⟨hinv.parentApproved old (Table.mem_of_get? hget) hold, hopen hget rfl (by rw [hold]; decide)⟩
  | retire old hlock hget hr => rw [hr] at happroved; cases happroved

theorem TaxInv.commit (hinv : TaxInv F s) (htx : tx ∈ s.txs.rows) (h : s.apply tx = some s') :
    TaxInv F s' ∧ s.Keeps s' := by
  obtain ⟨parents, dated, hparents, hdated, rfl⟩ := apply_some h
  have hfits := hinv.fits tx htx
  have hsp := stores_parents hfits hparents
  have hsd := stores_dated hfits hdated
  have hstay : ∀ x ∈ (s.txs.erase tx.id).rows, x ∈ s.txs.rows ∧ x.id ≠ tx.id := fun x hx => Table.mem_erase.mp hx
  have hopen {c : DatedRecord τ} (hc : c ∈ s.dated.rows) (hne : c.status ≠ .retired) : ¬s.Unused c.parentId :=
    fun hun => hne (hun c hc rfl)
  refine ⟨⟨fun x hx y hy => hinv.exclusive x (hstay x hx).1 y (hstay y hy).1, fun x hx => ?_, fun c hc c' hc' hcl => ?_,
    fun c hc happroved => ?_⟩, hsp.keeps, hsd.keeps⟩
  · obtain ⟨hx, hne⟩ := hstay x hx
    have hnot (hex : x.Excludes F tx) : False := hne (hinv.exclusive x hx tx htx hex)
    refine (hinv.fits x hx).mono (fun p r hlock hg => hsp.kept p r (fun hm => hnot (.inl ⟨p, hlock, .inl hm⟩)) hg)
      (fun cid c hlock hg => hsd.kept cid c (fun hm => hnot (.inr (.inl ⟨cid, hlock, hm⟩))) hg)
      (fun p hlock hun => hsd.unused p (fun hm => hnot (.inl ⟨p, hlock, .inr hm⟩)) hun)
      (fun c hc _ hdraft hp => hsp.approved _ hp (hopen hc (by rw [hdraft]; decide))) fun c hrow c' hc' hcl => ?_
    rcases hsd.mem c' hc' with hold | hnew
    · exact hold
    · exact (hnot (.inr (.inr ⟨c, c', hrow, hnew, hcl⟩))).elim
  · rcases hsd.mem c hc with hold | hnew
    · rcases hsd.mem c' hc' with hold' | hnew'
      · exact hinv.apart c hold c' hold' hcl
      · exact (hfits.datedRow c' hnew').2.2 c hold (TaxBooks.clash_symm hcl)
    · rcases hsd.mem c' hc' with hold' | hnew'
      · exact ((hfits.datedRow c hnew).2.2 c' hold' hcl).symm
      · rw [hnew] at hnew'
        cases hnew'
        rfl
  · rcases hsd.mem c hc with hold | hnew
    · exact hsp.approved _ (hinv.parentApproved c hold happroved) (hopen hold (by rw [happroved]; decide))
    · obtain ⟨hp, hused⟩ := parentApproved_of_write hinv (hfits.datedRow c hnew).2.1 happroved
      exact hsp.approved _ hp hused

theorem TaxInv.step (hinv : TaxInv F s) (h : taxStep F s l = some s') : TaxInv F s' ∧ s.Keeps s' := by
  cases l with
  | begin call =>
    obtain ⟨txs, hins, hs⟩ := Option.bind_eq_some_iff.mp h
    cases hs
    have hnew : TaxTx.Fits F s ⟨s.next, call, .start, none, none, none, none, none⟩ :=
      ⟨fun _ => ⟨rfl, rfl⟩, (by rintro _ (h | h) <;> cases h), by rintro _ ⟨⟩, (by rintro _ (h | h | h) <;> cases h),
        by rintro _ ⟨⟩, (by rintro _ (h | h) <;> cases h), fun _ => ⟨rfl, rfl⟩, by rintro _ ⟨⟩, by rintro _ ⟨⟩⟩
    refine ⟨⟨Table.pairs_insert? (P := TaxTx.Excludes F) hins hinv.exclusive fun x _ => ⟨?_, ?_⟩, fun x hx => ?_,
      hinv.apart, hinv.parentApproved⟩, .of_eq rfl rfl⟩
    · rintro (⟨_, _, h | h⟩ | ⟨_, _, h⟩ | ⟨_, _, _, h, _⟩) <;> cases h
    · rintro (⟨_, h, _⟩ | ⟨_, h, _⟩ | ⟨_, _, h, _⟩) <;> cases h
    · rcases (Table.mem_insert? hins).mp hx with rfl | hx
      · exact hnew.congr rfl rfl
      · exact (hinv.fits x hx).congr rfl rfl
  | statement id =>
    obtain ⟨tx, htx, hs⟩ := Option.bind_eq_some_iff.mp h
    obtain ⟨tx', hadvance, hs⟩ := Option.bind_eq_some_iff.mp hs
    cases hs
    obtain rfl : tx.id = id := Table.key_of_get? htx
    have hadv := tax_advance_cases (hinv.fits tx (Table.mem_of_get? htx)) hadvance
    exact ⟨hinv.statement htx hadv, .of_eq rfl rfl⟩
  | commit id =>
    obtain ⟨tx, htx, hs⟩ := Option.bind_eq_some_iff.mp h
    exact hinv.commit (Table.mem_of_get? htx) hs
  | rollback id =>
    cases h
    have hstay : ∀ x ∈ (s.txs.erase id).rows, x ∈ s.txs.rows := fun x hx => (Table.mem_erase.mp hx).1
    exact ⟨⟨fun x hx y hy => hinv.exclusive x (hstay x hx) y (hstay y hy),
      fun x hx => (hinv.fits x (hstay x hx)).congr rfl rfl, hinv.apart, hinv.parentApproved⟩, .of_eq rfl rfl⟩
  | assign onProducts =>
    cases h
    exact ⟨⟨hinv.exclusive, fun x hx => (hinv.fits x hx).congr rfl rfl, hinv.apart, hinv.parentApproved⟩, .of_eq rfl rfl⟩

/-- A half of the master before any record is made. -/
structure TaxBooks.Initial (s : TaxBooks π τ) : Prop where
  parents : s.parents = .empty
  dated : s.dated = .empty
  txs : s.txs = .empty

theorem TaxInv.initial (h : s.Initial) : TaxInv F s := by
  refine ⟨?_, ?_, ?_, ?_⟩
  · rw [h.txs]; rintro x ⟨⟩
  · rw [h.txs]; rintro x ⟨⟩
  · rw [h.dated]; rintro c ⟨⟩
  · rw [h.dated]; rintro c ⟨⟩

/-- No day is covered by two approved rows that the exclusion constraint compares. -/
theorem TaxInv.covered_once (hinv : TaxInv F s) {c c' : DatedRecord τ} (hc : c ∈ s.dated.rows) (hc' : c' ∈ s.dated.rows)
    (ha : c.status = .approved) (ha' : c'.status = .approved) (hparent : F.perParent = true → c.parentId = c'.parentId)
    {day : ℤ} (hd : c.effective.covers day) (hd' : c'.effective.covers day) : c = c' :=
  s.dated.eq_of_key_eq hc hc' (hinv.apart c hc c' hc' ⟨ha, ha', hparent, Period.overlaps_of_covers hd hd'⟩)

end

/-! ### The whole master -/

section

variable {b : Bool} {s₀ s s' : TaxMaster} {l : MasterLabel} {tr : List (Taken TaxMaster MasterLabel)}

structure TaxMaster.Initial (s : TaxMaster) : Prop where
  rules : s.rules.Initial
  settings : s.settings.Initial

def TaxMaster.Inv (b : Bool) (s : TaxMaster) : Prop :=
  TaxInv (classificationRules b) s.rules ∧ TaxInv (registrationSettings b) s.settings

def TaxMaster.Keeps (s s' : TaxMaster) : Prop := s.rules.Keeps s'.rules ∧ s.settings.Keeps s'.settings

theorem master_step (hinv : s.Inv b) (h : masterStep b s l = some s') : s'.Inv b ∧ s.Keeps s' := by
  cases l with
  | rules l =>
    obtain ⟨rules, hstep, rfl⟩ := Option.map_eq_some_iff.mp h
    obtain ⟨hrules, hkeeps⟩ := hinv.1.step hstep
    exact ⟨⟨hrules, hinv.2⟩, hkeeps, .of_eq rfl rfl⟩
  | settings l =>
    obtain ⟨settings, hstep, rfl⟩ := Option.map_eq_some_iff.mp h
    obtain ⟨hsettings, hkeeps⟩ := hinv.2.step hstep
    exact ⟨⟨hinv.1, hsettings⟩, .of_eq rfl rfl, hkeeps⟩

theorem master_run (h₀ : s₀.Initial) (run : MasterRun b s₀ tr s) : s.Inv b :=
  run.invariant ⟨.initial h₀.rules, .initial h₀.settings⟩ fun hs hinv => (master_step hinv hs).1

theorem tax_master_integrity (h₀ : s₀.Initial) (run : MasterRun b s₀ tr s) :
    (∀ c ∈ s.rules.dated.rows, ∀ c' ∈ s.rules.dated.rows, c.status = .approved → c'.status = .approved →
        c.parentId = c'.parentId → ∀ day, c.effective.covers day → c'.effective.covers day → c = c')
    ∧ (∀ c ∈ s.settings.dated.rows, ∀ c' ∈ s.settings.dated.rows, c.status = .approved → c'.status = .approved →
        ∀ day, c.effective.covers day → c'.effective.covers day → c = c')
    ∧ (∀ c ∈ s.rules.dated.rows, c.status = .approved → s.rules.ParentApproved c.parentId)
    ∧ (∀ c ∈ s.settings.dated.rows, c.status = .approved → s.settings.ParentApproved c.parentId)
    ∧ ∀ t ∈ tr, t.pre.Keeps t.post := by
  obtain ⟨hrules, hsettings⟩ := master_run h₀ run
  refine ⟨fun c hc c' hc' ha ha' hp day hd hd' => ?_, fun c hc c' hc' ha ha' day hd hd' => ?_, hrules.parentApproved,
    hsettings.parentApproved, fun t ht => ?_⟩
  · exact hrules.covered_once hc hc' ha ha' (fun _ => hp) hd hd'
  · exact hsettings.covered_once hc hc' ha ha' (fun h => by cases h) hd hd'
  · obtain ⟨⟨before, hbefore⟩, hstep⟩ := run.taken ht
    exact (master_step (master_run h₀ hbefore) hstep).2

end

def emptyMaster : TaxMaster := ⟨⟨.empty, .empty, [], .empty, 0⟩, ⟨.empty, .empty, [], .empty, 0⟩⟩

theorem emptyMaster_initial : emptyMaster.Initial := ⟨⟨rfl, rfl, rfl⟩, ⟨rfl, rfl, rfl⟩⟩

/-- A transaction that runs `n` statements without the others. -/
def taxCall (id n : Nat) (call : TaxCall ClassificationDetails RuleTerms) : List MasterLabel :=
  (.begin call :: List.replicate n (.statement id) ++ [.commit id] : List (TaxLabel _ _)).map .rules

/-- A rule is approved, closed and followed by another. -/
def ruleReplaced : List MasterLabel :=
  taxCall 0 1 (.create 1 ⟨"hsn", "6109", "T-shirts"⟩ (some "notification") 1)
  ++ taxCall 1 2 (.approve 1 2 none)
  ++ taxCall 2 2 (.createDated 5 1 ⟨.taxable, 250, 250, 500⟩ ⟨0, none, nofun⟩ (some "notification") 1)
  ++ taxCall 3 4 (.approveDated 5 2 none)
  ++ taxCall 4 2 (.close 5 100)
  ++ taxCall 5 2 (.createDated 6 1 ⟨.taxable, 600, 600, 1200⟩ ⟨100, none, nofun⟩ (some "notification") 1)
  ++ taxCall 6 4 (.approveDated 6 2 none)

theorem rule_replaced : ∃ tr s, MasterRun false emptyMaster tr s
    ∧ (s.rules.dated.rows.map fun c => (c.id, c.status, c.effective.stop))
        = [(6, .approved, none), (5, .approved, some 100)]
    ∧ (∀ c ∈ s.rules.dated.rows, ∀ c' ∈ s.rules.dated.rows, c.status = .approved → c'.status = .approved →
        c.parentId = c'.parentId → ∀ day, c.effective.covers day → c'.effective.covers day → c = c')
    ∧ (∀ c ∈ s.settings.dated.rows, ∀ c' ∈ s.settings.dated.rows, c.status = .approved → c'.status = .approved →
        ∀ day, c.effective.covers day → c'.effective.covers day → c = c')
    ∧ (∀ c ∈ s.rules.dated.rows, c.status = .approved → s.rules.ParentApproved c.parentId)
    ∧ (∀ c ∈ s.settings.dated.rows, c.status = .approved → s.settings.ParentApproved c.parentId)
    ∧ ∀ t ∈ tr, t.pre.Keeps t.post := by
  obtain ⟨tr, s, run, hend⟩ := exists_exec (masterStep false) emptyMaster
    (P := fun _ s => (s.rules.dated.rows.map fun c => (c.id, c.status, c.effective.stop))
      = [(6, .approved, none), (5, .approved, some 100)]) ruleReplaced (by decide)
  exact ⟨tr, s, run, hend, tax_master_integrity emptyMaster_initial run⟩

end NovaCart
