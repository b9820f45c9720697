import NovaCart.Lifecycle
import NovaCart.Schemes.Run

/-! The store currency (`StoreRepository`, `StoreService.set_currency`, `OrderService._resolve_currency`).

    It is recorded once, by an administrator or by the first checkout, which records the configured
    default. Both insert the one row of `store_settings` if it is absent. Every statement sees what is
    committed when it runs and what its own transaction wrote; an insert waits for another one that is
    not committed yet. Codes are stripped and lower-case. -/

namespace NovaCart

open Schemes

/-- `get_currency(code).code`. -/
def getCurrency (code : String) : Option String := (currencies.find? fun c => c.1 = code).map fun c => c.1

/-- How far a transaction is. -/
inductive CurrencyStep
  /-- a checkout, with the default configured for its process -/
  | checkout (default_ : String)
  /-- no currency was recorded -/
  | unrecorded (default_ : String)
  /-- and there were no orders -/
  | defaulted (code : String)
  | inserted (code : String)
  | resolved (code : String)
  | ordered
  /-- `set_currency` -/
  | setting (code : String)
  | unset (code : String)
  /-- somebody else recorded one first -/
  | late (code : String)
  | success (code : String)
  deriving DecidableEq, Repr

structure CurrencyTx where
  id : Nat
  step : CurrencyStep
  /-- the row it inserted -/
  row : Option String
  /-- the currency of the order it created -/
  order : Option String
  deriving DecidableEq, Repr

instance : Keyed CurrencyTx Nat := ⟨CurrencyTx.id⟩

structure CurrencyState where
  recorded : Option String
  /-- the currencies of the orders -/
  orders : List String
  txs : Table CurrencyTx
  next : Nat

inductive CurrencyLabel
  | checkout (default_ : String)
  | setCurrency (code : String)
  /-- the next statement of a transaction -/
  | statement (id : Nat)
  | commit (id : Nat)
  | rollback (id : Nat)

namespace CurrencyState

/-- `get_currency` of the repository: the row as the transaction sees it. -/
def currency (s : CurrencyState) (tx : CurrencyTx) : Option String := tx.row.or s.recorded

/-- `INSERT ... ON CONFLICT DO NOTHING RETURNING`, unless it must wait: the row of the transaction afterwards, and
    whether this statement inserted it. -/
def insertIfAbsent (s : CurrencyState) (tx : CurrencyTx) (code : String) : Option (Option String × Bool) :=
  if ∃ x ∈ s.txs.rows, x.id ≠ tx.id ∧ x.row ≠ none then none
  else if s.currency tx = none then some (some code, true)
  else some (tx.row, false)

/-- The next statement: the transaction after it, or nothing if it waits or the request fails. -/
def advance (s : CurrencyState) (tx : CurrencyTx) : Option CurrencyTx :=
  match tx.step with
  | .checkout default_ =>
    match s.currency tx with
    | some code => (getCurrency code).map fun code => { tx with step := .resolved code }
    | none => some { tx with step := .unrecorded default_ }
  | .unrecorded default_ => if s.orders = [] then some { tx with step := .defaulted default_ } else none
  | .defaulted code => (s.insertIfAbsent tx code).map fun r => { tx with step := .inserted code, row := r.1 }
  | .inserted code =>
    (getCurrency ((s.currency tx).getD code)).map fun code => { tx with step := .resolved code }
  | .resolved code => some { tx with step := .ordered, order := some code }
  | .setting code =>
    match s.currency tx with
    | some current => if current = code then some { tx with step := .success code } else none
    | none => some { tx with step := .unset code }
  | .unset code =>
    (s.insertIfAbsent tx code).map fun r =>
      { tx with step := if r.2 then .success code else .late code, row := r.1 }
  | .late code => if s.currency tx = some code then some { tx with step := .success code } else none
  | .ordered | .success _ => none

def begin_ (s : CurrencyState) (step : CurrencyStep) : Option CurrencyState :=
  (s.txs.insert? ⟨s.next, step, none, none⟩).map fun txs => { s with txs := txs, next := s.next + 1 }

end CurrencyState

/-- A request that ends without an error commits: one with an order, one that asks for new prices, or `set_currency`. -/
def CurrencyStep.commits : CurrencyStep → Bool
  | .resolved _ | .ordered | .success _ => true
  | _ => false

def currencyStep (s : CurrencyState) : CurrencyLabel → Option CurrencyState
  | .checkout default_ => if getCurrency default_ = some default_ then s.begin_ (.checkout default_) else none
  | .setCurrency code => (getCurrency code).bind fun code => s.begin_ (.setting code)
  | .statement id => do
    let tx ← s.txs.get? id
    let tx' ← s.advance tx
    some { s with txs := s.txs.replace tx' }
  | .commit id => do
    let tx ← s.txs.get? id
    if tx.step.commits then
      some { s with recorded := s.currency tx, orders := tx.order.toList ++ s.orders, txs := s.txs.erase id }
    else none
  | .rollback id => some { s with txs := s.txs.erase id }

abbrev CurrencyRun (s₀ : CurrencyState) (tr : List (Taken CurrencyState CurrencyLabel)) (s : CurrencyState) : Prop :=
  Exec currencyStep s₀ tr s

/-- A new store. -/
structure CurrencyState.Initial (s : CurrencyState) : Prop where
  recorded : s.recorded = none
  orders : s.orders = []
  txs : s.txs = .empty

/-! ### What is kept -/

theorem getCurrency_eq {code code' : String} (h : getCurrency code = some code') : code' = code := by
  obtain ⟨c, hfind, rfl⟩ := Option.map_eq_some_iff.mp h
  simpa using List.find?_some hfind

/-- What a transaction knows of the currency. -/
def CurrencyStep.Knows (seen : Option String) : CurrencyStep → Prop
  | .inserted _ => seen ≠ none
  | .resolved code => seen = some code
  | .success code => seen = some code
  | _ => True

/-- At most one transaction has inserted the row, none has once it is recorded, and what an order or an answer
    was decided on is still what its transaction sees. -/
structure CurrencyInv (s : CurrencyState) : Prop where
  oneRow : ∀ tx ∈ s.txs.rows, ∀ tx' ∈ s.txs.rows, tx.row ≠ none → tx'.row ≠ none → tx.id = tx'.id
  absent : ∀ tx ∈ s.txs.rows, tx.row ≠ none → s.recorded = none
  knows : ∀ tx ∈ s.txs.rows, tx.step.Knows (s.currency tx)
  priced : ∀ tx ∈ s.txs.rows, ∀ code, tx.order = some code → s.currency tx = some code
  orders : ∀ code ∈ s.orders, s.recorded = some code

section

variable {s₀ s s' : CurrencyState} {l : CurrencyLabel} {tr : List (Taken CurrencyState CurrencyLabel)}

/-- An insert: no other transaction has the row, and it is inserted only where none is seen. -/
theorem insertIfAbsent_spec {tx : CurrencyTx} {code : String} {r : Option String × Bool}
    (h : s.insertIfAbsent tx code = some r) : (∀ x ∈ s.txs.rows, x.id ≠ tx.id → x.row = none)
      ∧ ((s.currency tx = none ∧ r = (some code, true)) ∨ (s.currency tx ≠ none ∧ r = (tx.row, false))) := by
  simp only [CurrencyState.insertIfAbsent, Option.ite_none_left_eq_some] at h
  obtain ⟨halone, h⟩ := h
  refine ⟨fun x hx hne => ?_, ?_⟩
  · by_contra hrow
    exact halone ⟨x, hx, hne, hrow⟩
  · by_cases hseen : s.currency tx = none
    · rw [if_pos hseen] at h; cases h; exact .inl ⟨hseen, rfl⟩
    · rw [if_neg hseen] at h; cases h; exact .inr ⟨hseen, rfl⟩

/-- A statement: the row is inserted only where none is seen and no other transaction has one. -/
theorem advance_spec {tx tx' : CurrencyTx} (h : s.advance tx = some tx') (hknows : tx.step.Knows (s.currency tx))
    (hpriced : ∀ code, tx.order = some code → s.currency tx = some code) :
    tx'.id = tx.id ∧ tx'.step.Knows (s.currency tx') ∧ (∀ code, tx'.order = some code → s.currency tx' = some code)
      ∧ (tx'.row = tx.row ∨ (s.currency tx = none ∧ ∀ x ∈ s.txs.rows, x.id ≠ tx.id → x.row = none)) := by
  obtain ⟨id, step, row, order⟩ := tx
  cases step with
  | checkout default_ =>
    simp only [CurrencyState.advance] at h
    cases hseen : s.currency ⟨id, .checkout default_, row, order⟩ with
    | none => rw [hseen] at h; cases h; exact ⟨rfl, trivial, hpriced, .inl rfl⟩
    | some code =>
      rw [hseen] at h
      obtain ⟨code', hcode, rfl⟩ := Option.map_eq_some_iff.mp h
      obtain rfl := getCurrency_eq hcode
      exact ⟨rfl, hseen, hpriced, .inl rfl⟩
  | unrecorded default_ =>
    simp only [CurrencyState.advance, Option.ite_none_right_eq_some] at h
    cases h.2; exact ⟨rfl, trivial, hpriced, .inl rfl⟩
  | defaulted code =>
    obtain ⟨r, hins, rfl⟩ := Option.map_eq_some_iff.mp h
    obtain ⟨halone, ⟨hnone, rfl⟩ | ⟨hseen, rfl⟩⟩ := insertIfAbsent_spec hins
    · refine ⟨rfl, nofun, fun c hc => ?_, .inr ⟨hnone, halone⟩⟩
      have hsome := hpriced c hc
      rw [hnone] at hsome; cases hsome
    · exact ⟨rfl, hseen, hpriced, .inl rfl⟩
  | inserted code =>
    obtain ⟨code', hcode, rfl⟩ := Option.map_eq_some_iff.mp h
    obtain ⟨current, hcurrent⟩ := Option.ne_none_iff_exists'.mp hknows
    rw [hcurrent] at hcode
    obtain rfl := getCurrency_eq hcode
    exact ⟨rfl, hcurrent, hpriced, .inl rfl⟩
  | resolved code => cases h; exact ⟨rfl, trivial, fun c hc => by cases hc; exact hknows, .inl rfl⟩
  | setting code =>
    simp only [CurrencyState.advance] at h
    cases hseen : s.currency ⟨id, .setting code, row, order⟩ with
    | none => rw [hseen] at h; cases h; exact ⟨rfl, trivial, hpriced, .inl rfl⟩
    | some current =>
      simp only [hseen, Option.ite_none_right_eq_some] at h
      obtain ⟨rfl, h⟩ := h
      cases h; exact ⟨rfl, hseen, hpriced, .inl rfl⟩
  | unset code =>
    obtain ⟨r, hins, rfl⟩ := Option.map_eq_some_iff.mp h
    obtain ⟨halone, ⟨hnone, rfl⟩ | ⟨hseen, rfl⟩⟩ := insertIfAbsent_spec hins
    · refine ⟨rfl, rfl, fun c hc => ?_, .inr ⟨hnone, halone⟩⟩
      have hsome := hpriced c hc
      rw [hnone] at hsome; cases hsome
    · exact ⟨rfl, trivial, hpriced, .inl rfl⟩
  | late code =>
    simp only [CurrencyState.advance, Option.ite_none_right_eq_some] at h
    obtain ⟨hseen, h⟩ := h
    cases h; exact ⟨rfl, hseen, hpriced, .inl rfl⟩
  | ordered => cases h
  | success code => cases h

theorem CurrencyInv.advance {tx tx' : CurrencyTx} (hinv : CurrencyInv s) (htx : s.txs.get? tx.id = some tx)
    (h : s.advance tx = some tx') : CurrencyInv { s with txs := s.txs.replace tx' } := by
  have hmem := Table.mem_of_get? htx
  obtain ⟨hid, hknows, hpriced, hrow⟩ := advance_spec h (hinv.knows tx hmem) (hinv.priced tx hmem)
  have hget : s.txs.get? (Keyed.key tx') = some tx := by
    rw [show (Keyed.key tx' : Nat) = tx.id from hid]; exact htx
  have hcases {x : CurrencyTx} (hx : x ∈ (s.txs.replace tx').rows) : x = tx' ∨ (x ∈ s.txs.rows ∧ x.id ≠ tx.id) := by
    rcases (Table.mem_replace hget).mp hx with rfl | ⟨hx, hne⟩
    · exact .inl rfl
    · exact .inr ⟨hx, by rwa [← hid]⟩
  -- if this transaction has the row now, no other has it, and it is not recorded
  have hnew (hsome : tx'.row ≠ none) : (∀ x ∈ s.txs.rows, x.id ≠ tx.id → x.row = none) ∧ s.recorded = none := by
    rcases hrow with hsame | ⟨hnone, halone⟩
    · rw [hsame] at hsome
      refine ⟨fun x hx hne => ?_, hinv.absent tx hmem hsome⟩
      by_contra hx'
      exact hne (hinv.oneRow x hx tx hmem hx' hsome)
    · exact ⟨halone, (Option.or_eq_none_iff.mp hnone).2⟩
  refine ⟨?_, ?_, ?_, ?_, hinv.orders⟩
  · intro x hx x' hx' hsome hsome'
    rcases hcases hx with rfl | ⟨hold, hne⟩ <;> rcases hcases hx' with rfl | ⟨hold', hne'⟩
    · rfl
    · exact absurd ((hnew hsome).1 x' hold' hne') hsome'
    · exact absurd ((hnew hsome').1 x hold hne) hsome
    · exact hinv.oneRow x hold x' hold' hsome hsome'
  · intro x hx hsome
    rcases hcases hx with rfl | ⟨hx, _⟩
    · exact (hnew hsome).2
    · exact hinv.absent x hx hsome
  · intro x hx
    rcases hcases hx with rfl | ⟨hx, _⟩
    · exact hknows
    · exact hinv.knows x hx
  · intro x hx
    rcases hcases hx with rfl | ⟨hx, _⟩
    · exact hpriced
    · exact hinv.priced x hx

/-- What is recorded when a transaction commits is what every other one sees from then on. -/
theorem currency_after_commit {tx x : CurrencyTx} (hinv : CurrencyInv s) (htx : tx ∈ s.txs.rows) {code : String}
    (hseen : s.currency x = some code) : x.row.or (s.currency tx) = some code := by
  rw [CurrencyState.currency] at hseen ⊢
  cases hrow : x.row with
  | some c => rw [hrow] at hseen; exact hseen
  | none =>
    rw [hrow, Option.none_or] at hseen
    have htxRow : tx.row = none := by
      by_contra hsome
      rw [hinv.absent tx htx hsome] at hseen; cases hseen
    rw [htxRow, Option.none_or, Option.none_or, hseen]

theorem CurrencyInv.commit {tx : CurrencyTx} (hinv : CurrencyInv s) (htx : s.txs.get? tx.id = some tx) :
    CurrencyInv { s with
      recorded := s.currency tx, orders := tx.order.toList ++ s.orders, txs := s.txs.erase tx.id } := by
  have hmem := Table.mem_of_get? htx
  have hothers {x : CurrencyTx} (hx : x ∈ (s.txs.erase tx.id).rows) : x ∈ s.txs.rows ∧ x.id ≠ tx.id := Table.mem_erase.mp hx
  refine ⟨?_, ?_, ?_, ?_, ?_⟩
  · intro x hx x' hx'
    exact hinv.oneRow x (hothers hx).1 x' (hothers hx').1
  · intro x hx hsome
    obtain ⟨hx, hne⟩ := hothers hx
    have htxRow : tx.row = none := by
      by_contra hrow
      exact hne (hinv.oneRow x hx tx hmem hsome hrow)
    rw [CurrencyState.currency, htxRow, hinv.absent x hx hsome]; rfl
  · intro x hx
    obtain ⟨hx, hne⟩ := hothers hx
    have hknows := hinv.knows x hx
    cases hstep : x.step with
    | inserted code =>
      rw [hstep] at hknows
      obtain ⟨current, hcurrent⟩ := Option.ne_none_iff_exists'.mp hknows
      exact fun hnone => by cases (currency_after_commit hinv hmem hcurrent).symm.trans hnone
    | resolved code =>
      rw [hstep] at hknows
      exact currency_after_commit hinv hmem hknows
    | success code =>
      rw [hstep] at hknows
      exact currency_after_commit hinv hmem hknows
    | _ => trivial
  · intro x hx code hcode
    obtain ⟨hx, hne⟩ := hothers hx
    exact currency_after_commit hinv hmem (hinv.priced x hx code hcode)
  · intro code hcode
    rcases List.mem_append.mp hcode with hnew | hold
    · exact hinv.priced tx hmem code (Option.mem_toList.mp hnew)
    · have hrecorded := hinv.orders code hold
      have htxRow : tx.row = none := by
        by_contra hsome
        rw [hinv.absent tx hmem hsome] at hrecorded; cases hrecorded
      rw [CurrencyState.currency, htxRow]; exact hrecorded

theorem CurrencyInv.begin_ {step : CurrencyStep} (hinv : CurrencyInv s) (h : s.begin_ step = some s')
    (hstep : ∀ seen, step.Knows seen) : CurrencyInv s' := by
  obtain ⟨txs, hins, rfl⟩ := Option.map_eq_some_iff.mp h
  have hmem {x : CurrencyTx} := Table.mem_insert? (x := x) hins
  refine ⟨?_, ?_, ?_, ?_, hinv.orders⟩
  · intro x hx x' hx' hsome hsome'
    rcases hmem.mp hx with rfl | hx
    · exact absurd rfl hsome
    · rcases hmem.mp hx' with rfl | hx'
      · exact absurd rfl hsome'
      · exact hinv.oneRow x hx x' hx' hsome hsome'
  · intro x hx hsome
    rcases hmem.mp hx with rfl | hx
    · exact absurd rfl hsome
    · exact hinv.absent x hx hsome
  · intro x hx
    rcases hmem.mp hx with rfl | hx
    · exact hstep _
    · exact hinv.knows x hx
  · intro x hx code hcode
    rcases hmem.mp hx with rfl | hx
    · cases hcode
    · exact hinv.priced x hx code hcode

theorem CurrencyInv.step (hinv : CurrencyInv s) (h : currencyStep s l = some s') : CurrencyInv s' := by
  cases l with
  | checkout default_ =>
    simp only [currencyStep, Option.ite_none_right_eq_some] at h
    exact hinv.begin_ h.2 fun _ => trivial
  | setCurrency code =>
    obtain ⟨_, _, h⟩ := Option.bind_eq_some_iff.mp h
    exact hinv.begin_ h fun _ => trivial
  | statement id =>
    obtain ⟨tx, htx, hs⟩ := Option.bind_eq_some_iff.mp h
    obtain ⟨tx', htx', hs⟩ := Option.bind_eq_some_iff.mp hs
    obtain rfl := Table.key_of_get? htx
    cases hs; exact hinv.advance htx htx'
  | commit id =>
    obtain ⟨tx, htx, hs⟩ := Option.bind_eq_some_iff.mp h
    obtain rfl := Table.key_of_get? htx
    simp only [Option.ite_none_right_eq_some, Option.some.injEq] at hs
    obtain ⟨_, rfl⟩ := hs
    exact hinv.commit htx
  | rollback id =>
    cases h
    have hmem {x : CurrencyTx} (hx : x ∈ (s.txs.erase id).rows) : x ∈ s.txs.rows := (Table.mem_erase.mp hx).1
    exact ⟨fun x hx x' hx' => hinv.oneRow x (hmem hx) x' (hmem hx'), fun x hx => hinv.absent x (hmem hx),
      fun x hx => hinv.knows x (hmem hx), fun x hx => hinv.priced x (hmem hx), hinv.orders⟩

theorem CurrencyState.Initial.inv (h₀ : s₀.Initial) : CurrencyInv s₀ := by
  have htxs : s₀.txs.rows = [] := by rw [h₀.txs]; rfl
  refine ⟨?_, ?_, ?_, ?_, ?_⟩
  · intro x hx; rw [htxs] at hx; cases hx
  · intro x hx; rw [htxs] at hx; cases hx
  · intro x hx; rw [htxs] at hx; cases hx
  · intro x hx; rw [htxs] at hx; cases hx
  · intro code hcode; rw [h₀.orders] at hcode; cases hcode

theorem CurrencyRun.inv (h₀ : s₀.Initial) (run : CurrencyRun s₀ tr s) : CurrencyInv s :=
  Exec.invariant h₀.inv (fun hstep hinv => hinv.step hstep) run

/-- A step never changes a recorded currency. -/
theorem recorded_step (hinv : CurrencyInv s) (h : currencyStep s l = some s') {code : String} (hc : s.recorded = some code) :
    s'.recorded = some code := by
  have hbegin {step : CurrencyStep} (h : s.begin_ step = some s') : s'.recorded = some code := by
    obtain ⟨_, _, rfl⟩ := Option.map_eq_some_iff.mp h
    exact hc
  cases l with
  | checkout default_ =>
    simp only [currencyStep, Option.ite_none_right_eq_some] at h
    exact hbegin h.2
  | setCurrency code =>
    obtain ⟨_, _, h⟩ := Option.bind_eq_some_iff.mp h
    exact hbegin h
  | statement id =>
    obtain ⟨_, _, hs⟩ := Option.bind_eq_some_iff.mp h
    obtain ⟨_, _, hs⟩ := Option.bind_eq_some_iff.mp hs
    cases hs; exact hc
  | commit id =>
    obtain ⟨tx, htx, hs⟩ := Option.bind_eq_some_iff.mp h
    simp only [Option.ite_none_right_eq_some, Option.some.injEq] at hs
    obtain ⟨_, rfl⟩ := hs
    have hrow : tx.row = none := by
      by_contra hsome
      rw [hinv.absent tx (Table.mem_of_get? htx) hsome] at hc; cases hc
    rw [CurrencyState.currency, hrow]; exact hc
  | rollback id => cases h; exact hc

theorem recorded_run (hinv : CurrencyInv s) (run : CurrencyRun s tr s') {code : String} (hc : s.recorded = some code) :
    s'.recorded = some code := by
  induction run with
  | nil => exact hc
  | cons run hstep ih => exact recorded_step (Exec.invariant hinv (fun hstep hinv => hinv.step hstep) run) hstep ih

/-- One store currency, in whatever order first checkouts and administrators record it: what is recorded stays, every
    order carries it, and `set_currency` succeeds with no other code. -/
theorem one_currency (h₀ : s₀.Initial) (run : CurrencyRun s₀ tr s) :
    (∀ t ∈ tr, ∀ code, t.pre.recorded = some code → s.recorded = some code)
    ∧ (∀ code ∈ s.orders, s.recorded = some code)
    ∧ (∀ t ∈ tr, ∀ id tx code, t.label = .commit id → t.pre.txs.get? id = some tx → tx.step = .success code →
        s.recorded = some code) := by
  have hlater : ∀ t ∈ tr, ∀ code, t.post.recorded = some code → s.recorded = some code := by
    intro t ht code hc
    obtain ⟨later, earlier, rfl⟩ := List.append_of_mem ht
    obtain ⟨hbefore, hstep, hafter⟩ := run.split
    exact recorded_run ((CurrencyRun.inv h₀ hbefore).step hstep) hafter hc
  refine ⟨fun t ht code hc => hlater t ht code ?_, (CurrencyRun.inv h₀ run).orders, ?_⟩
  · obtain ⟨⟨_, hbefore⟩, hstep⟩ := run.taken ht
    exact recorded_step (CurrencyRun.inv h₀ hbefore) hstep hc
  · intro t ht id tx code hlabel htx hsuccess
    obtain ⟨⟨_, hbefore⟩, hstep⟩ := run.taken ht
    rw [hlabel] at hstep
    obtain ⟨x, hx, hs⟩ := Option.bind_eq_some_iff.mp hstep
    rw [htx] at hx
    cases hx
    simp only [Option.ite_none_right_eq_some, Option.some.injEq] at hs
    refine hlater t ht code ?_
    rw [← hs.2]
    have hknows := (CurrencyRun.inv h₀ hbefore).knows tx (Table.mem_of_get? htx)
    rw [hsuccess] at hknows
    exact hknows

end

/-! ### A race -/

def newStore : CurrencyState := ⟨none, [], .empty, 0⟩

theorem newStore_initial : newStore.Initial := ⟨rfl, rfl, rfl⟩

/-- The first checkout and an administrator both find nothing recorded; the administrator's insert comes second, waits
    for the checkout and is refused. -/
def currencyRace : List CurrencyLabel :=
  [.checkout "inr", .setCurrency "usd", .setCurrency "inr", .statement 0, .statement 1, .statement 2, .statement 0,
   .statement 0, .statement 0, .statement 0, .commit 0, .statement 1, .rollback 1, .statement 2, .statement 2, .commit 2]

theorem currency_race : ∃ tr s, CurrencyRun newStore tr s ∧ s.orders = ["inr"]
    ∧ (∃ t ∈ tr, ∃ tx ∈ t.pre.txs.get? 2, tx.step = .success "inr")
    ∧ ∀ code ∈ s.orders, s.recorded = some code := by
  obtain ⟨tr, s, run, horders, hsuccess⟩ := exists_exec currencyStep newStore
    (P := fun tr s => s.orders = ["inr"] ∧ ∃ t ∈ tr, ∃ tx ∈ t.pre.txs.get? 2, tx.step = .success "inr")
    currencyRace (by decide)
  exact ⟨tr, s, run, horders, hsuccess, (one_currency newStore_initial run).2.1⟩

end NovaCart
