import NovaCart.SiteConfig

/-! The history of the storefront's configuration, over every interleaving of requests.

    Whoever has the row of `state` reads and writes as if it were alone: the committed rows stay as they
    are until it is done. So the versions are numbered in the order of the commits. -/

namespace NovaCart

open Schemes Table
open Keyed (key)

variable {δ : Type}

/-! ### Numbers -/

/-- n, …, 1 -/
def countdown : Nat → List ℤ
  | 0 => []
  | n + 1 => ((n : ℤ) + 1) :: countdown n

theorem countdown_reverse (n : Nat) : (countdown n).reverse = (List.range n).map fun i : Nat => (i : ℤ) + 1 := by
  induction n with
  | zero => rfl
  | succ n ih => rw [countdown, List.reverse_cons, ih, List.range_succ, List.map_append]; rfl

theorem le_of_mem_countdown {n : Nat} {v : ℤ} (h : v ∈ countdown n) : v ≤ n := by
  induction n with
  | zero => cases h
  | succ n ih =>
    rcases List.mem_cons.mp h with rfl | hv
    · omega
    · have := ih hv
      omega

theorem max?_countdown (n : Nat) : (countdown n).max?.getD 0 = n := by
  induction n with
  | zero => rfl
  | succ n ih =>
    rw [countdown, List.max?_cons]
    cases hmax : (countdown n).max? with
    | none =>
      rw [hmax] at ih
      simp at ih
      simp [← ih]
    | some m =>
      rw [hmax] at ih
      simp at ih ⊢
      omega

variable {s s' : SiteConfigSystem δ} {tx tx' : SiteConfigTx δ} {rows : List (SiteConfigVersion δ)}

/-- The versions, newest first, are numbered without a gap. -/
def Numbered (rows : List (SiteConfigVersion δ)) : Prop := rows.map (·.version) = countdown rows.length

theorem Numbered.latest (h : Numbered rows) : SiteConfigSystem.latest rows = rows.length := by
  rw [SiteConfigSystem.latest, h, max?_countdown]

theorem Numbered.cons (h : Numbered rows) {row : SiteConfigVersion δ}
    (hrow : row.version = SiteConfigSystem.latest rows + 1) : Numbered (row :: rows) := by
  rw [h.latest] at hrow
  rw [Numbered, List.map_cons, List.length_cons, countdown, hrow, h]

theorem Numbered.head (h : Numbered rows) : (rows.head?.map (·.version)).getD 0 = rows.length := by
  cases rows with
  | nil => rfl
  | cons row rows =>
    rw [Numbered, List.map_cons, List.length_cons, countdown] at h
    simpa using (List.cons.inj h).1

/-! ### What a request owes -/

/-- The checks of `publish` and `rollback` that a document passed. -/
def SiteConfigTx.Checked (s : SiteConfigSystem δ) (tx : SiteConfigTx δ) (document : δ) : Prop :=
  match tx.op with
  | .publish _ expected =>
    s.current.draft = some document ∧ ∀ v, expected = some v → v = s.current.publishedVersion.getD 0
  | .rollback version _ => ∃ target ∈ s.versions.rows, target.version = version ∧ target.document = document
  | _ => False

theorem SiteConfigTx.Checked.publishes {document : δ} (h : tx.Checked s document) : tx.op.publishes = true := by
  unfold SiteConfigTx.Checked at h
  unfold SiteConfigOp.publishes
  cases hop : tx.op with
  | publish note expected => rfl
  | rollback version note => rfl
  | _ => rw [hop] at h; exact h.elim

/-- A request without the row has written nothing. -/
def SiteConfigTx.Idle (tx : SiteConfigTx δ) : Prop :=
  tx.row = none ∧ tx.added = none ∧
    match tx.phase with
    | .start | .missing => True
    | .loaded _ | .done => tx.op = .read
    | _ => False

/-- What a request that has the row has read and written. -/
def SiteConfigTx.Stands (s : SiteConfigSystem δ) (tx : SiteConfigTx δ) : Prop :=
  match tx.phase with
  | .start | .missing => False
  | .loaded st => st = s.current ∧ s.stateFor tx = some s.current ∧ tx.added = none
  | .publishing document _ => s.stateFor tx = some s.current ∧ tx.added = none ∧ tx.Checked s document
  | .numbered document _ latest =>
    s.stateFor tx = some s.current ∧ tx.added = none ∧ tx.Checked s document ∧
      latest = SiteConfigSystem.latest s.versions.rows
  | .added row =>
    s.stateFor tx = some s.current ∧ tx.added = some row ∧ tx.Checked s row.document ∧
      row.version = SiteConfigSystem.latest s.versions.rows + 1
  | .pointed =>
    ∃ row, s.stateFor tx = some { s.current with publishedVersion := some row.version } ∧ tx.added = some row ∧
      tx.Checked s row.document ∧ row.version = SiteConfigSystem.latest s.versions.rows + 1
  | .done =>
    ∃ st, s.stateFor tx = some st ∧
      ((tx.added = none ∧ tx.op.publishes = false ∧ st.publishedVersion = s.current.publishedVersion) ∨
        ∃ row, tx.added = some row ∧ tx.Checked s row.document ∧ st.publishedVersion = some row.version ∧
          row.version = SiteConfigSystem.latest s.versions.rows + 1)

structure SiteConfigTx.Fits (s : SiteConfigSystem δ) (tx : SiteConfigTx δ) : Prop where
  idle : tx.holds = false → tx.Idle
  stands : tx.holds = true → tx.Stands s

/-- Only the committed rows matter. -/
theorem SiteConfigTx.Fits.congr (h : tx.Fits s) (hstate : s'.state = s.state) (hversions : s'.versions = s.versions) :
    tx.Fits s' := by
  obtain ⟨st, versions, txs, next⟩ := s
  obtain ⟨st', versions', txs', next'⟩ := s'
  cases hstate
  cases hversions
  exact ⟨h.idle, h.stands⟩

/-- The requests that wait may find anything. -/
theorem SiteConfigTx.Fits.of_idle (h : tx.Fits s) (hholds : tx.holds = false) : tx.Fits s' :=
  ⟨h.idle, fun hh => absurd hh (by simp [hholds])⟩

structure SiteConfigInv (s : SiteConfigSystem δ) : Prop where
  fresh : ∀ x ∈ s.txs.rows, x.id < s.next
  exclusive : ∀ x ∈ s.txs.rows, ∀ y ∈ s.txs.rows, x.holds = true → y.holds = true → x.id = y.id
  fits : ∀ x ∈ s.txs.rows, x.Fits s
  numbered : Numbered s.versions.rows
  published : s.current.publishedVersion = s.versions.rows.head?.map (·.version)

/-! ### Statements -/

/-- What one statement comes to. -/
structure SiteConfigTx.Advances (s : SiteConfigSystem δ) (tx tx' : SiteConfigTx δ) : Prop where
  id : tx'.id = tx.id
  op : tx'.op = tx.op
  fits : tx'.Fits s
  /-- the row is taken once nobody else has it -/
  holds : tx'.holds = true → tx.holds = true ∨ ¬s.taken tx
  keeps : tx.holds = true → tx'.holds = true

/-- A statement of a request that has the row. -/
theorem SiteConfigTx.Advances.of_stands (hid : tx'.id = tx.id) (hop : tx'.op = tx.op)
    (hholds : tx.holds = true) (hholds' : tx'.holds = true) (hstands : tx'.Stands s) : tx.Advances s tx' where
  id := hid
  op := hop
  fits := ⟨fun h => absurd h (by simp [hholds']), fun _ => hstands⟩
  holds := fun _ => .inl hholds
  keeps := fun _ => hholds'

/-- A statement of a request that does not get the row. -/
theorem SiteConfigTx.Advances.of_idle (hid : tx'.id = tx.id) (hop : tx'.op = tx.op) (hholds : tx.holds = false)
    (hholds' : tx'.holds = false) (hidle : tx'.Idle) : tx.Advances s tx' where
  id := hid
  op := hop
  fits := ⟨fun _ => hidle, fun h => absurd h (by simp [hholds'])⟩
  holds := fun h => absurd h (by simp [hholds'])
  keeps := fun h => absurd h (by simp [hholds])

/-- A request that takes the row, free until now. -/
theorem SiteConfigTx.Advances.of_taken (hid : tx'.id = tx.id) (hop : tx'.op = tx.op) (hfree : ¬s.taken tx)
    (hholds' : tx'.holds = true) (hstands : tx'.Stands s) : tx.Advances s tx' where
  id := hid
  op := hop
  fits := ⟨fun h => absurd h (by simp [hholds']), fun _ => hstands⟩
  holds := fun _ => .inr hfree
  keeps := fun _ => hholds'

theorem select_advances (hfits : tx.Fits s) (hphase : tx.phase = .start) (h : s.select tx = .goes tx') :
    tx.Advances s tx' := by
  have hfree : tx.holds = false := by
    by_contra hh
    have hstands := hfits.stands (by simpa using hh)
    rw [SiteConfigTx.Stands, hphase] at hstands
    exact hstands
  obtain ⟨hrow, hadded, _⟩ := hfits.idle hfree
  unfold SiteConfigSystem.select at h
  split at h
  · cases h
    exact .of_idle rfl rfl hfree hfree ⟨hrow, hadded, trivial⟩
  · rename_i st hstate
    have hcurrent : st = s.current := by
      rw [SiteConfigSystem.stateFor, hrow, Option.none_or] at hstate
      rw [SiteConfigSystem.current, hstate, Option.getD_some]
    split at h
    · rename_i hlocks
      cases h
      have hread : tx.op = .read := by
        unfold SiteConfigOp.locks at hlocks
        split at hlocks
        · assumption
        · cases hlocks
      exact .of_idle rfl rfl hfree hfree ⟨hrow, hadded, hread⟩
    · split at h
      · cases h
      · rename_i hnot
        cases h
        exact .of_taken rfl rfl hnot rfl ⟨hcurrent, by rw [← hcurrent]; exact hstate, hadded⟩

theorem create_advances (hfits : tx.Fits s) (hphase : tx.phase = .missing) (h : s.create tx = .goes tx') :
    tx.Advances s tx' := by
  have hfree : tx.holds = false := by
    by_contra hh
    have hstands := hfits.stands (by simpa using hh)
    rw [SiteConfigTx.Stands, hphase] at hstands
    exact hstands
  obtain ⟨hrow, hadded, _⟩ := hfits.idle hfree
  unfold SiteConfigSystem.create at h
  split at h
  · cases h
  · rename_i hmissing
    split at h
    · cases h
    · rename_i hnot
      cases h
      have hcurrent : s.current = .empty := by
        rw [SiteConfigSystem.current, Option.not_isSome_iff_eq_none.mp hmissing]
        rfl
      exact .of_taken rfl rfl hnot rfl ⟨hcurrent.symm, by rw [hcurrent]; rfl, hadded⟩

/-- An UPDATE of the row by who has it. -/
theorem stateFor_update {st : SiteConfigState δ} {f : SiteConfigState δ → SiteConfigState δ}
    (h : s.stateFor tx = some st) : (s.update tx f).or s.state = some (f st) := by
  rw [SiteConfigSystem.update, h]
  rfl

theorem getVersion_eq_some {version : ℤ} {row : SiteConfigVersion δ} (hadded : tx.added = none)
    (h : s.getVersion tx version = some row) : row ∈ s.versions.rows ∧ row.version = version := by
  have hrows : s.versionsFor tx = s.versions.rows := by rw [SiteConfigSystem.versionsFor, hadded]; rfl
  rw [SiteConfigSystem.getVersion, hrows] at h
  exact ⟨List.mem_of_find?_eq_some h, by simpa using List.find?_some h⟩

section

variable [DecidableEq δ]

theorem check_advances {st : SiteConfigState δ} (hfits : tx.Fits s) (hphase : tx.phase = .loaded st)
    (h : s.check tx st = .goes tx') : tx.Advances s tx' := by
  by_cases hholds : tx.holds = true
  · have hstands := hfits.stands hholds
    rw [SiteConfigTx.Stands, hphase] at hstands
    obtain ⟨rfl, hstate, hadded⟩ := hstands
    unfold SiteConfigSystem.check at h
    cases hop : tx.op with
    | read =>
      rw [hop] at h
      cases h
      exact .of_stands rfl hop.symm hholds hholds ⟨_, hstate, .inl ⟨hadded, rfl, rfl⟩⟩
    | saveDraft document =>
      rw [hop] at h
      cases h
      exact .of_stands rfl rfl hholds hholds
        ⟨_, stateFor_update hstate, .inl ⟨hadded, congrArg SiteConfigOp.publishes hop, rfl⟩⟩
    | discardDraft =>
      rw [hop] at h
      cases h
      exact .of_stands rfl rfl hholds hholds
        ⟨_, stateFor_update hstate, .inl ⟨hadded, congrArg SiteConfigOp.publishes hop, rfl⟩⟩
    | publish note expected =>
      simp only [hop] at h
      split at h
      · cases h
      · rename_i hexpected
        split at h
        · cases h
        · rename_i document hdraft
          split at h
          · cases h
          · cases h
            refine .of_stands rfl hop.symm hholds hholds ⟨hstate, hadded, hdraft, fun v hv => ?_⟩
            by_contra hne
            exact hexpected ⟨v, hv, hne⟩
    | rollback version note =>
      simp only [hop] at h
      split at h
      · cases h
      · rename_i target htarget
        split at h
        · cases h
        · cases h
          obtain ⟨hmem, hversion⟩ := getVersion_eq_some hadded htarget
          exact .of_stands rfl hop.symm hholds hholds ⟨hstate, hadded, target, hmem, hversion, rfl⟩
  · have hfree : tx.holds = false := by simpa using hholds
    obtain ⟨hrow, hadded, hread⟩ := hfits.idle hfree
    rw [hphase] at hread
    have hread : tx.op = .read := hread
    rw [SiteConfigSystem.check, hread] at h
    cases h
    exact .of_idle rfl hread.symm hfree hfree ⟨hrow, hadded, rfl⟩

omit [DecidableEq δ] in
/-- Only who has the row gets beyond the checks. -/
theorem SiteConfigTx.Fits.beyond (hfits : tx.Fits s) (h : match tx.phase with
    | .publishing .. | .numbered .. | .added _ | .pointed => True
    | _ => False) : tx.holds = true ∧ tx.Stands s := by
  have hholds : tx.holds = true := by
    by_contra hfree
    have hidle := (hfits.idle (by simpa using hfree)).2.2
    split at h <;> simp_all
  exact ⟨hholds, hfits.stands hholds⟩

/-- `_publish` -/
theorem publish_advances (hfits : tx.Fits s) (h : s.turn tx = .goes tx') (hphase : match tx.phase with
    | .publishing .. | .numbered .. | .added _ | .pointed => True
    | _ => False) : tx.Advances s tx' := by
  obtain ⟨hholds, hstands⟩ := hfits.beyond hphase
  unfold SiteConfigSystem.turn at h
  unfold SiteConfigTx.Stands at hstands
  split at h
  case h_4 document note heq =>
    rw [heq] at hstands
    obtain ⟨hstate, hadded, hchecked⟩ := hstands
    cases h
    refine .of_stands rfl rfl hholds hholds ⟨hstate, hadded, hchecked, ?_⟩
    rw [SiteConfigSystem.versionsFor, hadded]
    rfl
  case h_5 document note latest heq =>
    rw [heq] at hstands
    obtain ⟨hstate, hadded, hchecked, rfl⟩ := hstands
    unfold SiteConfigSystem.addVersion at h
    split at h
    · cases h
    · split at h
      · cases h
      · cases h
        exact .of_stands rfl rfl hholds hholds ⟨hstate, rfl, hchecked, rfl⟩
  case h_6 row heq =>
    rw [heq] at hstands
    obtain ⟨hstate, hadded, hchecked, hversion⟩ := hstands
    cases h
    exact .of_stands rfl rfl hholds hholds ⟨row, stateFor_update hstate, hadded, hchecked, hversion⟩
  case h_7 heq =>
    rw [heq] at hstands
    obtain ⟨row, hstate, hadded, hchecked, hversion⟩ := hstands
    split at h
    · cases h
      exact .of_stands rfl rfl hholds hholds
        ⟨_, stateFor_update hstate, .inr ⟨row, hadded, hchecked, rfl, hversion⟩⟩
    · cases h
      exact .of_stands rfl rfl hholds hholds ⟨_, hstate, .inr ⟨row, hadded, hchecked, rfl, hversion⟩⟩
  all_goals
    rename_i heq
    rw [heq] at hphase
    exact hphase.elim

/-- One statement of an open request. -/
theorem turn_advances (hfits : tx.Fits s) (h : s.turn tx = .goes tx') : tx.Advances s tx' := by
  cases hphase : tx.phase with
  | start =>
    rw [SiteConfigSystem.turn, hphase] at h
    exact select_advances hfits hphase h
  | missing =>
    rw [SiteConfigSystem.turn, hphase] at h
    exact create_advances hfits hphase h
  | loaded st =>
    rw [SiteConfigSystem.turn, hphase] at h
    exact check_advances hfits hphase h
  | done =>
    rw [SiteConfigSystem.turn, hphase] at h
    cases h
  | _ => exact publish_advances hfits h (by rw [hphase]; trivial)

/-! ### Commits -/

/-- What a COMMIT comes to. -/
inductive SiteConfigTx.Commits (s : SiteConfigSystem δ) (tx : SiteConfigTx δ) : SiteConfigSystem δ → Prop
  | idle (hholds : tx.holds = false) (hop : tx.op.publishes = false) :
      tx.Commits s { s with txs := s.txs.erase tx.id }
  | draft (st : SiteConfigState δ) (hholds : tx.holds = true) (hop : tx.op.publishes = false)
      (hpublished : st.publishedVersion = s.current.publishedVersion) :
      tx.Commits s { s with state := some st, txs := s.txs.erase tx.id }
  | publish (st : SiteConfigState δ) (row : SiteConfigVersion δ) (versions : Table (SiteConfigVersion δ))
      (hholds : tx.holds = true) (hadded : tx.added = some row) (hchecked : tx.Checked s row.document)
      (hpublished : st.publishedVersion = some row.version)
      (hversion : row.version = SiteConfigSystem.latest s.versions.rows + 1)
      (hrows : versions.rows = row :: s.versions.rows) :
      tx.Commits s { s with state := some st, versions := versions, txs := s.txs.erase tx.id }

theorem apply_commits (hfits : tx.Fits s) (h : s.apply tx = some s') : tx.Commits s s' := by
  unfold SiteConfigSystem.apply at h
  split at h
  · rename_i hphase
    by_cases hholds : tx.holds = true
    · have hstands := hfits.stands hholds
      rw [SiteConfigTx.Stands, hphase] at hstands
      obtain ⟨st, hstate, hcase⟩ := hstands
      rw [hstate] at h
      rcases hcase with ⟨hadded, hop, hpublished⟩ | ⟨row, hadded, hchecked, hpublished, hversion⟩
      · rw [hadded] at h
        cases h
        exact .draft st hholds hop hpublished
      · rw [hadded] at h
        obtain ⟨versions, hinsert, rfl⟩ := Option.map_eq_some_iff.mp h
        exact .publish st row versions hholds hadded hchecked hpublished hversion (rows_of_insert? hinsert)
    · have hfree : tx.holds = false := by simpa using hholds
      obtain ⟨hrow, hadded, hread⟩ := hfits.idle hfree
      rw [hphase] at hread
      have hread : tx.op = .read := hread
      have hstate : s.stateFor tx = s.state := by rw [SiteConfigSystem.stateFor, hrow, Option.none_or]
      rw [hadded, hstate] at h
      cases h
      exact .idle hfree (by rw [hread]; rfl)
  · cases h

/-- A request that is done can always be committed. -/
theorem commit_ready (hinv : SiteConfigInv s) (hfits : tx.Fits s) (hphase : tx.phase = .done) :
    ∃ s', s.apply tx = some s' := by
  rw [SiteConfigSystem.apply, if_pos hphase]
  cases hadded : tx.added with
  | none => exact ⟨_, rfl⟩
  | some row =>
    have hholds : tx.holds = true := by
      by_contra hfree
      rw [(hfits.idle (by simpa using hfree)).2.1] at hadded
      cases hadded
    have hstands := hfits.stands hholds
    rw [SiteConfigTx.Stands, hphase] at hstands
    obtain ⟨_, _, ⟨hnone, _⟩ | ⟨row', hrow', _, _, hversion⟩⟩ := hstands
    · rw [hnone] at hadded
      cases hadded
    · rw [hadded] at hrow'
      cases hrow'
      have hnone : s.versions.get? (key row) = none := by
        refine get?_eq_none.mpr fun r hr heq => ?_
        have hmem : r.version ∈ countdown s.versions.rows.length :=
          hinv.numbered ▸ List.mem_map.mpr ⟨r, hr, rfl⟩
        have hle := le_of_mem_countdown hmem
        have hkey : r.version = row.version := heq
        rw [hkey, hversion, hinv.numbered.latest] at hle
        omega
      cases hinsert : s.versions.insert? row with
      | none => exact absurd hnone (insert?_eq_none.mp hinsert)
      | some versions => exact ⟨_, by simp only [hinsert]; rfl⟩

/-! ### Steps -/

variable {l : SiteConfigLabel δ}

omit [DecidableEq δ] in
theorem mem_erase_txs {txs : Table (SiteConfigTx δ)} {id : Nat} {x : SiteConfigTx δ} (h : x ∈ (txs.erase id).rows) :
    x ∈ txs.rows ∧ x.id ≠ id := mem_erase.mp h

theorem SiteConfigInv.begin_ (hinv : SiteConfigInv s) {admin : Id} {op : SiteConfigOp δ}
    (h : siteConfigStep s (.begin_ admin op) = some s') : SiteConfigInv s' := by
  obtain ⟨txs, hinsert, rfl⟩ := Option.map_eq_some_iff.mp h
  have hcases : ∀ x ∈ txs.rows, (x.id = s.next ∧ x.holds = false ∧ x.Idle) ∨ x ∈ s.txs.rows := by
    intro x hx
    rcases (mem_insert? hinsert).mp hx with rfl | hold
    · exact .inl ⟨rfl, rfl, rfl, rfl, trivial⟩
    · exact .inr hold
  refine ⟨fun x hx => ?_, fun x hx y hy hxh hyh => ?_, fun x hx => ?_, hinv.numbered, hinv.published⟩
  · rcases hcases x hx with ⟨hid, _⟩ | hold
    · exact hid ▸ Nat.lt_succ_self _
    · exact Nat.lt_succ_of_lt (hinv.fresh x hold)
  · rcases hcases x hx with ⟨_, hfree, _⟩ | hxs
    · rw [hfree] at hxh
      cases hxh
    · rcases hcases y hy with ⟨_, hfree, _⟩ | hys
      · rw [hfree] at hyh
        cases hyh
      · exact hinv.exclusive x hxs y hys hxh hyh
  · rcases hcases x hx with ⟨_, hfree, hidle⟩ | hold
    · exact ⟨fun _ => hidle, fun hh => absurd hh (by simp [hfree])⟩
    · exact (hinv.fits x hold).congr rfl rfl

omit [DecidableEq δ] in
/-- A request goes. -/
theorem SiteConfigInv.erase (hinv : SiteConfigInv s) (id : Nat) :
    SiteConfigInv { s with txs := s.txs.erase id } where
  fresh x hx := hinv.fresh x (mem_erase_txs hx).1
  exclusive x hx y hy := hinv.exclusive x (mem_erase_txs hx).1 y (mem_erase_txs hy).1
  fits x hx := (hinv.fits x (mem_erase_txs hx).1).congr rfl rfl
  numbered := hinv.numbered
  published := hinv.published

theorem SiteConfigInv.turn (hinv : SiteConfigInv s) (hmem : tx ∈ s.txs.rows) (h : s.turn tx = .goes tx') :
    SiteConfigInv { s with txs := s.txs.replace tx' } := by
  have hadv := turn_advances (hinv.fits tx hmem) h
  have hget : s.txs.get? (key tx') = some tx := by
    rw [show key tx' = key tx from hadv.id]
    exact get?_of_mem hmem
  have hothers : ∀ y ∈ s.txs.rows, y.id ≠ tx.id → tx'.holds = true → y.holds = false := by
    intro y hy hne hholds
    by_contra hyh
    have hyh : y.holds = true := by simpa using hyh
    rcases hadv.holds hholds with hwas | hnot
    · exact hne (hinv.exclusive y hy tx hmem hyh hwas)
    · exact hnot ⟨y, hy, hyh, hne⟩
  refine ⟨fun x hx => ?_, fun x hx y hy hxh hyh => ?_, fun x hx => ?_, hinv.numbered, hinv.published⟩
  · rcases (mem_replace hget).mp hx with rfl | ⟨hxs, _⟩
    · rw [hadv.id]
      exact hinv.fresh tx hmem
    · exact hinv.fresh x hxs
  · rcases (mem_replace hget).mp hx with rfl | ⟨hxs, hxne⟩
    · rcases (mem_replace hget).mp hy with rfl | ⟨hys, hyne⟩
      · rfl
      · rw [hothers y hys (hadv.id ▸ hyne) hxh] at hyh
        cases hyh
    · rcases (mem_replace hget).mp hy with rfl | ⟨hys, _⟩
      · rw [hothers x hxs (hadv.id ▸ hxne) hyh] at hxh
        cases hxh
      · exact hinv.exclusive x hxs y hys hxh hyh
  · rcases (mem_replace hget).mp hx with rfl | ⟨hxs, _⟩
    · exact hadv.fits.congr rfl rfl
    · exact (hinv.fits x hxs).congr rfl rfl

omit [DecidableEq δ] in
/-- While a request has the row, the others have nothing to lose. -/
theorem SiteConfigInv.others (hinv : SiteConfigInv s) (hmem : tx ∈ s.txs.rows) (hholds : tx.holds = true)
    {x : SiteConfigTx δ} (hx : x ∈ s.txs.rows) (hne : x.id ≠ tx.id) : x.holds = false := by
  by_contra hh
  exact hne (hinv.exclusive x hx tx hmem (by simpa using hh) hholds)

theorem SiteConfigInv.commit (hinv : SiteConfigInv s) (hmem : tx ∈ s.txs.rows) (h : s.apply tx = some s') :
    SiteConfigInv s' := by
  cases apply_commits (hinv.fits tx hmem) h with
  | idle hholds hop => exact hinv.erase tx.id
  | draft st hholds hop hpublished =>
    have hrest := hinv.erase tx.id
    refine ⟨hrest.fresh, hrest.exclusive, fun x hx => ?_, hinv.numbered, hpublished.trans hinv.published⟩
    obtain ⟨hxs, hne⟩ := mem_erase_txs hx
    exact (hinv.fits x hxs).of_idle (hinv.others hmem hholds hxs hne)
  | publish st row versions hholds hadded hchecked hpublished hversion hrows =>
    have hrest := hinv.erase tx.id
    refine ⟨hrest.fresh, hrest.exclusive, fun x hx => ?_, ?_, ?_⟩
    · obtain ⟨hxs, hne⟩ := mem_erase_txs hx
      exact (hinv.fits x hxs).of_idle (hinv.others hmem hholds hxs hne)
    · rw [hrows]
      exact hinv.numbered.cons hversion
    · rw [hrows]
      exact hpublished

theorem SiteConfigInv.step (hinv : SiteConfigInv s) (h : siteConfigStep s l = some s') : SiteConfigInv s' := by
  cases l with
  | begin_ admin op => exact hinv.begin_ h
  | turn id =>
    obtain ⟨tx, hget, h⟩ := Option.bind_eq_some_iff.mp h
    split at h
    · cases h
    · cases h
      exact hinv.erase id
    · rename_i tx' hturn
      cases h
      exact hinv.turn (mem_of_get? hget) hturn
  | commit id =>
    obtain ⟨tx, hget, h⟩ := Option.bind_eq_some_iff.mp h
    exact hinv.commit (mem_of_get? hget) h
  | abort id =>
    cases h
    exact hinv.erase id

variable {tr : List (Taken (SiteConfigSystem δ) (SiteConfigLabel δ))}

omit [DecidableEq δ] in
theorem siteConfigInv_initial : SiteConfigInv (.initial : SiteConfigSystem δ) where
  fresh x hx := by cases hx
  exclusive x hx := by cases hx
  fits x hx := by cases hx
  numbered := rfl
  published := rfl

theorem SiteConfigInv.of_run (h : SiteConfigRun tr s) : SiteConfigInv s :=
  h.invariant siteConfigInv_initial fun hstep hinv => hinv.step hstep

/-! ### What was published -/

/-- A step and the requests that were open before it. -/
theorem step_kept (hinv : SiteConfigInv s) (h : siteConfigStep s l = some s') {x' : SiteConfigTx δ}
    (hx' : x' ∈ s'.txs.rows) : x'.id = s.next ∨ ∃ x ∈ s.txs.rows, x.id = x'.id ∧
      (x.holds = true → x'.holds = true ∧ s'.current = s.current) := by
  cases l with
  | begin_ admin op =>
    obtain ⟨txs, hinsert, rfl⟩ := Option.map_eq_some_iff.mp h
    rcases (mem_insert? hinsert).mp hx' with rfl | hold
    · exact .inl rfl
    · exact .inr ⟨x', hold, rfl, fun hholds => ⟨hholds, rfl⟩⟩
  | turn id =>
    obtain ⟨tx, hget, h⟩ := Option.bind_eq_some_iff.mp h
    split at h
    · cases h
    · cases h
      exact .inr ⟨x', (mem_erase_txs hx').1, rfl, fun hholds => ⟨hholds, rfl⟩⟩
    · rename_i tx' hturn
      cases h
      have hmem := mem_of_get? hget
      have hadv := turn_advances (hinv.fits tx hmem) hturn
      have hget' : s.txs.get? (key tx') = some tx := by
        rw [show key tx' = key tx from hadv.id]
        exact get?_of_mem hmem
      rcases (mem_replace hget').mp hx' with rfl | ⟨hold, _⟩
      · exact .inr ⟨tx, hmem, hadv.id.symm, fun hholds => ⟨hadv.keeps hholds, rfl⟩⟩
      · exact .inr ⟨x', hold, rfl, fun hholds => ⟨hholds, rfl⟩⟩
  | commit id =>
    obtain ⟨tx, hget, h⟩ := Option.bind_eq_some_iff.mp h
    have hmem := mem_of_get? hget
    have hx : x' ∈ s.txs.rows ∧ x'.id ≠ tx.id := by
      cases apply_commits (hinv.fits tx hmem) h with
      | idle => exact mem_erase_txs hx'
      | draft => exact mem_erase_txs hx'
      | publish => exact mem_erase_txs hx'
    refine .inr ⟨x', hx.1, rfl, fun hholds => ⟨hholds, ?_⟩⟩
    -- the other one had the row, so this one wrote nothing
    have hfree := hinv.others hx.1 hholds hmem hx.2.symm
    cases apply_commits (hinv.fits tx hmem) h with
    | idle => rfl
    | draft _ htaken => rw [hfree] at htaken; cases htaken
    | publish _ _ _ htaken => rw [hfree] at htaken; cases htaken
  | abort id =>
    cases h
    exact .inr ⟨x', (mem_erase_txs hx').1, rfl, fun hholds => ⟨hholds, rfl⟩⟩

theorem next_le_of_step (h : siteConfigStep s l = some s') (hinv : SiteConfigInv s) : s.next ≤ s'.next := by
  cases l with
  | begin_ admin op =>
    obtain ⟨txs, _, rfl⟩ := Option.map_eq_some_iff.mp h
    exact Nat.le_succ _
  | turn id =>
    obtain ⟨tx, _, h⟩ := Option.bind_eq_some_iff.mp h
    split at h
    · cases h
    · cases h
      exact le_rfl
    · cases h
      exact le_rfl
  | commit id =>
    obtain ⟨tx, hget, h⟩ := Option.bind_eq_some_iff.mp h
    cases apply_commits (hinv.fits tx (mem_of_get? hget)) h <;> exact le_rfl
  | abort id =>
    cases h
    exact le_rfl

/-- The step that publishes stores what it publishes, and no other one touches the versions. -/
theorem versions_of_step (hinv : SiteConfigInv s) (h : siteConfigStep s l = some s') :
    s'.versions.rows = (publication ⟨s, l, s'⟩).toList ++ s.versions.rows := by
  cases l with
  | begin_ admin op =>
    obtain ⟨txs, _, rfl⟩ := Option.map_eq_some_iff.mp h
    rfl
  | turn id =>
    obtain ⟨tx, _, h⟩ := Option.bind_eq_some_iff.mp h
    split at h
    · cases h
    · cases h
      rfl
    · cases h
      rfl
  | commit id =>
    obtain ⟨tx, hget, h⟩ := Option.bind_eq_some_iff.mp h
    simp only [publication, hget, Option.bind_some]
    cases apply_commits (hinv.fits tx (mem_of_get? hget)) h with
    | idle _ hop => rw [hop]; rfl
    | draft _ _ hop => rw [hop]; rfl
    | publish st row versions _ hadded hchecked _ _ hrows =>
      rw [if_pos hchecked.publishes, hadded]
      exact hrows
  | abort id =>
    cases h
    rfl

/-- What the steps taken so far leave behind. -/
structure SiteConfigLaw (tr : List (Taken (SiteConfigSystem δ) (SiteConfigLabel δ))) (s : SiteConfigSystem δ) :
    Prop where
  filed : s.versions.rows = publications tr
  kept : ∀ t ∈ tr, t.pre.versions.rows <:+ s.versions.rows
  older : ∀ t ∈ tr, ∀ u ∈ t.pre.txs.rows, u.id < s.next
  held : ∀ t ∈ tr, ∀ u ∈ t.pre.txs.rows, u.holds = true → ∀ x ∈ s.txs.rows, x.id = u.id →
    x.holds = true ∧ t.pre.current = s.current

theorem SiteConfigLaw.step (hlaw : SiteConfigLaw tr s) (hinv : SiteConfigInv s)
    (h : siteConfigStep s l = some s') : SiteConfigLaw (⟨s, l, s'⟩ :: tr) s' := by
  have hversions := versions_of_step hinv h
  have hsuffix : s.versions.rows <:+ s'.versions.rows := ⟨_, hversions.symm⟩
  have hnext := next_le_of_step h hinv
  have hold : ∀ t ∈ (⟨s, l, s'⟩ :: tr), ∀ u ∈ t.pre.txs.rows, u.id < s.next := by
    intro t ht u hu
    rcases List.mem_cons.mp ht with rfl | ht
    · exact hinv.fresh u hu
    · exact hlaw.older t ht u hu
  refine ⟨?_, fun t ht => ?_, fun t ht u hu => lt_of_lt_of_le (hold t ht u hu) hnext,
    fun t ht u hu hholds x' hx' hid => ?_⟩
  · rw [hversions, hlaw.filed, publications, publications, List.filterMap_cons]
    cases publication ⟨s, l, s'⟩ <;> rfl
  · rcases List.mem_cons.mp ht with rfl | ht
    · exact hsuffix
    · exact (hlaw.kept t ht).trans hsuffix
  · have hlt := hold t ht u hu
    rcases step_kept hinv h hx' with hnew | ⟨x, hx, hxid, hkeep⟩
    · rw [hid] at hnew
      omega
    · rcases List.mem_cons.mp ht with rfl | ht
      · have hsame : x = u := s.txs.eq_of_key_eq hx hu (hxid.trans hid)
        rw [hsame] at hkeep
        obtain ⟨hx'holds, hcurrent⟩ := hkeep hholds
        exact ⟨hx'holds, hcurrent.symm⟩
      · obtain ⟨hxholds, hsame⟩ := hlaw.held t ht u hu hholds x hx (hxid.trans hid)
        obtain ⟨hx'holds, hcurrent⟩ := hkeep hxholds
        exact ⟨hx'holds, hsame.trans hcurrent.symm⟩

theorem SiteConfigLaw.of_run (h : SiteConfigRun tr s) : SiteConfigLaw tr s := by
  refine h.history ⟨rfl, fun t ht => ?_, fun t ht => ?_, fun t ht => ?_⟩ fun hrun hstep hlaw =>
    hlaw.step (.of_run hrun) hstep
  · cases ht
  · cases ht
  · cases ht

/-- No publish and no rollback was committed since v became the published version; 0 stands for none. -/
def UnchangedSince (v : ℤ) (tr : List (Taken (SiteConfigSystem δ) (SiteConfigLabel δ))) : Prop :=
  (v = 0 ∧ publications tr = []) ∨
    ∃ later t earlier row, tr = later ++ t :: earlier ∧ publication t = some row ∧ row.version = v ∧
      publications later = []

theorem unchangedSince_of_published {v : ℤ} (h : SiteConfigRun tr s) (hv : v = s.current.publishedVersion.getD 0) :
    UnchangedSince v tr := by
  have hfiled := (SiteConfigLaw.of_run h).filed
  rw [(SiteConfigInv.of_run h).published, hfiled] at hv
  cases hpublications : publications tr with
  | nil =>
    rw [hpublications] at hv
    exact .inl ⟨hv, hpublications⟩
  | cons row rest =>
    rw [hpublications] at hv
    obtain ⟨later, t, earlier, htr, hnone, hrow, _⟩ := List.filterMap_eq_cons_iff.mp hpublications
    exact .inr ⟨later, t, earlier, row, htr, hrow, hv.symm, List.filterMap_eq_nil_iff.mpr hnone⟩

/-- A publish or rollback that is committed stores one version. -/
theorem publication_of_commit {id : Nat} (hinv : SiteConfigInv s) (h : siteConfigStep s (.commit id) = some s')
    (hget : s.txs.get? id = some tx) (hop : tx.op.publishes = true) :
    ∃ row, tx.added = some row ∧ publication ⟨s, .commit id, s'⟩ = some row ∧ tx.Checked s row.document := by
  obtain ⟨tx₀, hget₀, h⟩ := Option.bind_eq_some_iff.mp h
  rw [hget] at hget₀
  cases hget₀
  cases apply_commits (hinv.fits tx (mem_of_get? hget)) h with
  | idle _ hnot => rw [hop] at hnot; cases hnot
  | draft _ _ hnot => rw [hop] at hnot; cases hnot
  | publish st row versions _ hadded hchecked _ _ _ =>
    refine ⟨row, hadded, ?_, hchecked⟩
    simp only [publication, hget, Option.bind_some]
    rw [if_pos hop, hadded]

/-- The history of the configuration: the committed versions are numbered 1 to n, and they are what was published,
    in this order; the last one is the published one; a stored version stays as it is. What a publish stores is the
    draft as it was from the moment it had the row until its commit, and an expected version is one since which
    nothing was published. -/
theorem site_config_history (h : SiteConfigRun tr s) :
    (s.versions.rows.map (·.version)).reverse = (List.range s.versions.rows.length).map (fun i : Nat => (i : ℤ) + 1) ∧
    s.versions.rows = publications tr ∧
    s.current.publishedVersion = (publications tr).head?.map (·.version) ∧
    (∀ t ∈ tr, ∀ row ∈ t.pre.versions.rows, row ∈ s.versions.rows) ∧
    ∀ later t earlier id tx, tr = later ++ t :: earlier → t.label = .commit id → t.pre.txs.get? id = some tx →
      (tx.op.publishes = true → ∃ row, publication t = some row) ∧
      ∀ note expected, tx.op = .publish note expected → ∃ row, publication t = some row ∧
        t.pre.current.draft = some row.document ∧
        (∀ t' ∈ earlier, ∀ u ∈ t'.pre.txs.rows, u.id = id → u.holds = true →
          t'.pre.current.draft = some row.document) ∧
        ∀ v, expected = some v → UnchangedSince v earlier := by
  have hinv := SiteConfigInv.of_run h
  have hlaw := SiteConfigLaw.of_run h
  refine ⟨?_, hlaw.filed, hlaw.filed ▸ hinv.published, fun t ht row hrow => (hlaw.kept t ht).subset hrow, ?_⟩
  · rw [hinv.numbered, countdown_reverse]
  · rintro later ⟨pre, label, post⟩ earlier id tx rfl rfl hget
    obtain ⟨hrun, hstep, _⟩ := h.split
    have hbefore := SiteConfigInv.of_run hrun
    have hmem : tx ∈ pre.txs.rows := mem_of_get? hget
    have hid : tx.id = id := key_of_get? hget
    refine ⟨fun hop => ?_, fun note expected hop => ?_⟩
    · obtain ⟨row, _, hrow, _⟩ := publication_of_commit hbefore hstep hget hop
      exact ⟨row, hrow⟩
    · obtain ⟨row, _, hrow, hchecked⟩ := publication_of_commit hbefore hstep hget (by rw [hop]; rfl)
      rw [SiteConfigTx.Checked, hop] at hchecked
      obtain ⟨hdraft, hexpected⟩ := hchecked
      refine ⟨row, hrow, hdraft, fun t' ht' u hu huid hholds => ?_, fun v hv => ?_⟩
      · obtain ⟨_, hsame⟩ := (SiteConfigLaw.of_run hrun).held t' ht' u hu hholds tx hmem (hid.trans huid.symm)
        rw [hsame]
        exact hdraft
      · exact unchangedSince_of_published hrun (hexpected v hv)

end

/-- Two administrators publish the same draft and the second finds the configuration changed; then a second version,
    and a rollback to the first one while a new draft is waiting. -/
theorem site_config_history_rollback : ∃ tr s, SiteConfigRun (δ := ℕ) tr s ∧
    s.versions.rows.map (fun r => (r.version, r.document)) = [(3, 7), (2, 8), (1, 7)] ∧
    s.current.publishedVersion = some 3 ∧ s.current.draft = some 9 ∧
    s.versions.rows = publications tr := by
  obtain ⟨tr, s, hrun, hrows, hpublished, hdraft⟩ := exists_exec siteConfigStep .initial
    (P := fun _ s => s.versions.rows.map (fun r => (r.version, r.document)) = [(3, 7), (2, 8), (1, 7)] ∧
      s.current.publishedVersion = some 3 ∧ s.current.draft = some 9)
    [.begin_ 1 (.saveDraft 7), .turn 0, .turn 0, .turn 0, .commit 0,
      .begin_ 1 (.publish none (some 0)), .begin_ 2 (.publish none (some 0)),
      .turn 1, .turn 1, .turn 1, .turn 1, .turn 1, .turn 1, .commit 1, .turn 2, .turn 2,
      .begin_ 2 (.saveDraft 8), .turn 3, .turn 3, .commit 3,
      .begin_ 2 (.publish none (some 1)), .turn 4, .turn 4, .turn 4, .turn 4, .turn 4, .turn 4, .commit 4,
      .begin_ 1 (.rollback 1 none), .begin_ 2 (.saveDraft 9),
      .turn 5, .turn 5, .turn 5, .turn 5, .turn 5, .turn 5, .commit 5, .turn 6, .turn 6, .commit 6]
    (by decide +kernel)
  exact ⟨tr, s, hrun, hrows, hpublished, hdraft, (site_config_history hrun).2.1⟩

end NovaCart
