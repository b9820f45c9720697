import NovaCart.Schemes.Run
import NovaCart.Schemes.Table

/-! Transactions that lock rows.

    A transaction is the list of the locks it holds, newest first, and the list of the requests it has
    still to make. A request is granted as soon as no other transaction holds a clashing lock on its row;
    a transaction that has made its last request ends, any transaction may be rolled back, and both
    release everything. `Waits` is the waits-for relation of a state and `Deadlocked` says that it has a
    cycle.

    Two ways to rule a cycle out. A height that grows along every edge between two waiting transactions
    leaves no way back (`not_deadlocked_of_height`). And two transactions of which each holds what the
    other has still to ask for (`Txn.opposes`) are never met in a run that keeps `crosses` false; a pair
    that does stand so can only end by a rollback (`opposed_stuck`). -/

namespace Schemes

/-- The modes in which a row is locked, with the table of those that exclude each other. -/
class LockModes (μ : Type) where
  conflicts : μ → μ → Bool
  conflicts_comm : ∀ m m', conflicts m m' = conflicts m' m

structure Request (ρ μ : Type) where
  row : ρ
  mode : μ
  deriving DecidableEq, Repr

structure Txn (ρ μ : Type) where
  pid : Nat
  held : List (Request ρ μ)
  rest : List (Request ρ μ)

variable {ρ μ : Type}

instance : Keyed (Txn ρ μ) Nat := ⟨Txn.pid⟩

abbrev LockTable (ρ μ : Type) := Table (Txn ρ μ)

/-- A transaction opens with the requests it is going to make. -/
inductive LockLabel (ρ μ : Type)
  | start (pid : Nat) (path : List (Request ρ μ))
  | acquire (pid : Nat)
  | finish (pid : Nat)
  | rollback (pid : Nat)

/-! ### Disciplines -/

/-- The requests follow a discipline: `D held q` says that `q` may be made while `held` is held. -/
def Disciplined (D : List (Request ρ μ) → Request ρ μ → Prop) :
    List (Request ρ μ) → List (Request ρ μ) → Prop
  | _, [] => True
  | held, q :: rest => D held q ∧ Disciplined D (q :: held) rest

/-- Every lock that is held was requested in accordance with the discipline. -/
def Built (D : List (Request ρ μ) → Request ρ μ → Prop) : List (Request ρ μ) → Prop
  | [] => True
  | q :: held => D held q ∧ Built D held

theorem disciplined_append {D : List (Request ρ μ) → Request ρ μ → Prop} : ∀ {held path path' : List (Request ρ μ)},
    Disciplined D held (path ++ path') ↔
      Disciplined D held path ∧ Disciplined D (path.reverse ++ held) path'
  | _, [], _ => by simp [Disciplined]
  | held, q :: path, path' => by
      simp only [List.cons_append, Disciplined, disciplined_append, List.reverse_cons,
        List.append_assoc, List.nil_append, and_assoc]

section

variable [LockModes μ]

/-- Two locks that cannot be held by two transactions at once. -/
def Request.clashes (q q' : Request ρ μ) : Prop :=
  q.row = q'.row ∧ LockModes.conflicts q.mode q'.mode = true

instance [DecidableEq ρ] (q q' : Request ρ μ) : Decidable (q.clashes q') :=
  inferInstanceAs (Decidable (_ ∧ _))

theorem Request.clashes.symm {q q' : Request ρ μ} (h : q.clashes q') : q'.clashes q :=
  ⟨h.1.symm, (LockModes.conflicts_comm ..).trans h.2⟩

namespace Txn

/-- The transaction holds a lock that the request has to wait for. -/
def blocks (u : Txn ρ μ) (q : Request ρ μ) : Prop := ∃ h ∈ u.held, h.clashes q

instance [DecidableEq ρ] (u : Txn ρ μ) (q : Request ρ μ) : Decidable (u.blocks q) :=
  inferInstanceAs (Decidable (∃ h ∈ u.held, h.clashes q))

/-- The transaction after its next request was granted. -/
def next (t : Txn ρ μ) : Txn ρ μ :=
  match t.rest with
  | [] => t
  | q :: rest => ⟨t.pid, q :: t.held, rest⟩

/-- Each of the two holds a lock that the other has still to ask for. -/
def opposes (t u : Txn ρ μ) : Prop := (∃ q ∈ u.rest, t.blocks q) ∧ ∃ q ∈ t.rest, u.blocks q

instance [DecidableEq ρ] (t u : Txn ρ μ) : Decidable (t.opposes u) :=
  inferInstanceAs (Decidable (_ ∧ _))

theorem opposes.symm {t u : Txn ρ μ} (h : t.opposes u) : u.opposes t := ⟨h.2, h.1⟩

/-- A lock that `u` does not refuse leaves the two opposite. -/
theorem opposes.granted {t u : Txn ρ μ} {q : Request ρ μ} {rest : List (Request ρ μ)} (h : t.opposes u)
    (hrest : t.rest = q :: rest) (hfree : ¬u.blocks q) :
    (⟨t.pid, q :: t.held, rest⟩ : Txn ρ μ).opposes u := by
  obtain ⟨⟨x, hx, y, hy, hclash⟩, z, hz, hblocks⟩ := h
  refine ⟨⟨x, hx, y, List.mem_cons_of_mem _ hy, hclash⟩, z, ?_, hblocks⟩
  rw [hrest] at hz
  rcases List.mem_cons.mp hz with rfl | hz
  · exact absurd hblocks hfree
  · exact hz

end Txn

/-- No other transaction holds a lock that clashes with the request. -/
def grantable (s : LockTable ρ μ) (pid : Nat) (q : Request ρ μ) : Prop :=
  ∀ u ∈ s.rows, u.pid ≠ pid → ¬u.blocks q

instance [DecidableEq ρ] (s : LockTable ρ μ) (pid : Nat) (q : Request ρ μ) : Decidable (grantable s pid q) :=
  inferInstanceAs (Decidable (∀ u ∈ s.rows, _))

variable {s s' s₀ : LockTable ρ μ}

/-! ### Waiting -/

/-- The next request of `t` has to wait for a lock of `u`. -/
def Waits (s : LockTable ρ μ) (t u : Txn ρ μ) : Prop :=
  t ∈ s.rows ∧ u ∈ s.rows ∧ t.pid ≠ u.pid ∧ ∃ q rest, t.rest = q :: rest ∧ u.blocks q

def Deadlocked (s : LockTable ρ μ) : Prop := ∃ t, Relation.TransGen (Waits s) t t

/-- Two transactions that wait for each other are deadlocked. -/
theorem Deadlocked.of_pair {t u : Txn ρ μ} (h : Waits s t u) (h' : Waits s u t) : Deadlocked s :=
  ⟨t, .tail (.single h) h'⟩

theorem Waits.opposes {t u : Txn ρ μ} (h : Waits s t u) {q : Request ρ μ} (hq : q ∈ u.rest)
    (hblocks : t.blocks q) : t.opposes u := by
  obtain ⟨_, _, _, q', rest, hrest, hq'⟩ := h
  exact ⟨⟨q, hq, hblocks⟩, q', by rw [hrest]; exact List.mem_cons_self .., hq'⟩

/-- No way of waiting leads back when a height grows along it. -/
theorem not_deadlocked_of_height {α : Type} [Preorder α] (height : Txn ρ μ → α)
    (h : ∀ t u v, Waits s t u → Waits s u v → height t < height u) : ¬Deadlocked s := by
  rintro ⟨t, hcycle⟩
  have hgrows : ∀ u, Relation.TransGen (Waits s) t u → ∀ v, Waits s u v → height t < height u := by
    intro u hpath
    induction hpath with
    | single hfirst => exact fun v hv => h t _ v hfirst hv
    | tail _ hlast ih => exact fun v hv => (ih _ hlast).trans (h _ _ v hlast hv)
  obtain ⟨u, hu, _⟩ := Relation.TransGen.head'_iff.mp hcycle
  exact lt_irrefl _ (hgrows t hcycle u hu)

/-! ### Steps -/

/-- What one step can do. -/
inductive LockMove (s : LockTable ρ μ) : LockLabel ρ μ → LockTable ρ μ → Prop
  | start {pid : Nat} {path : List (Request ρ μ)} {s' : LockTable ρ μ}
      (h : s.insert? ⟨pid, [], path⟩ = some s') : LockMove s (.start pid path) s'
  | acquire {t : Txn ρ μ} {q : Request ρ μ} {rest : List (Request ρ μ)} (ht : s.get? t.pid = some t)
      (hrest : t.rest = q :: rest) (hfree : grantable s t.pid q) :
      LockMove s (.acquire t.pid) (s.replace ⟨t.pid, q :: t.held, rest⟩)
  | finish {t : Txn ρ μ} (ht : s.get? t.pid = some t) (hrest : t.rest = []) :
      LockMove s (.finish t.pid) (s.erase t.pid)
  | rollback {t : Txn ρ μ} (ht : s.get? t.pid = some t) : LockMove s (.rollback t.pid) (s.erase t.pid)

variable {l : LockLabel ρ μ} {tr : List (Taken (LockTable ρ μ) (LockLabel ρ μ))}

omit [LockModes μ] in
theorem mem_granted {t x : Txn ρ μ} {q : Request ρ μ} {rest : List (Request ρ μ)}
    (ht : s.get? t.pid = some t) : x ∈ (s.replace ⟨t.pid, q :: t.held, rest⟩).rows ↔
      x = ⟨t.pid, q :: t.held, rest⟩ ∨ (x ∈ s.rows ∧ x.pid ≠ t.pid) := Table.mem_replace ht

/-- What holds of every transaction after a step, when it held of those before it, of a new one and of
    one that was granted a request. -/
theorem LockMove.forall_rows {P : Txn ρ μ → Prop} (h : LockMove s l s') (hP : ∀ t ∈ s.rows, P t)
    (hnew : ∀ pid path, l = .start pid path → P ⟨pid, [], path⟩)
    (htake : ∀ t q rest, t ∈ s.rows → t.rest = q :: rest → grantable s t.pid q → l = .acquire t.pid →
      P ⟨t.pid, q :: t.held, rest⟩) : ∀ t ∈ s'.rows, P t := by
  intro t ht
  cases h with
  | start h =>
    rcases (Table.mem_insert? h).mp ht with rfl | hold
    · exact hnew _ _ rfl
    · exact hP t hold
  | acquire hget hrest hfree =>
    rcases (mem_granted hget).mp ht with rfl | ⟨hold, _⟩
    · exact htake _ _ _ (Table.mem_of_get? hget) hrest hfree rfl
    · exact hP t hold
  | finish _ _ => exact hP t (Table.mem_erase.mp ht).1
  | rollback _ => exact hP t (Table.mem_erase.mp ht).1

/-- The same for pairs of transactions and a symmetric relation. -/
theorem LockMove.forall_pairs {R : Txn ρ μ → Txn ρ μ → Prop} (hsymm : ∀ {t u}, R t u → R u t)
    (h : LockMove s l s') (hR : ∀ t ∈ s.rows, ∀ u ∈ s.rows, t.pid ≠ u.pid → R t u)
    (hnew : ∀ pid path u, R ⟨pid, [], path⟩ u)
    (htake : ∀ t q rest, t ∈ s.rows → t.rest = q :: rest → grantable s t.pid q → l = .acquire t.pid →
      ∀ u ∈ s.rows, t.pid ≠ u.pid → R ⟨t.pid, q :: t.held, rest⟩ u) :
    ∀ t ∈ s'.rows, ∀ u ∈ s'.rows, t.pid ≠ u.pid → R t u := by
  intro t ht u hu hne
  cases h with
  | start h =>
    rcases (Table.mem_insert? h).mp ht with rfl | htold
    · exact hnew _ _ u
    · rcases (Table.mem_insert? h).mp hu with rfl | huold
      · exact hsymm (hnew _ _ t)
      · exact hR t htold u huold hne
  | acquire hget hrest hfree =>
    have hmem := Table.mem_of_get? hget
    rcases (mem_granted hget).mp ht with rfl | ⟨htold, htne⟩
    · rcases (mem_granted hget).mp hu with rfl | ⟨huold, _⟩
      · exact absurd rfl hne
      · exact htake _ _ _ hmem hrest hfree rfl u huold hne
    · rcases (mem_granted hget).mp hu with rfl | ⟨huold, _⟩
      · exact hsymm (htake _ _ _ hmem hrest hfree rfl t htold (Ne.symm hne))
      · exact hR t htold u huold hne
  | finish _ _ => exact hR t (Table.mem_erase.mp ht).1 u (Table.mem_erase.mp hu).1 hne
  | rollback _ => exact hR t (Table.mem_erase.mp ht).1 u (Table.mem_erase.mp hu).1 hne

section

variable [DecidableEq ρ]

def lockStep (s : LockTable ρ μ) : LockLabel ρ μ → Option (LockTable ρ μ)
  | .start pid path => s.insert? ⟨pid, [], path⟩
  | .acquire pid =>
    match s.get? pid with
    | some ⟨_, held, q :: rest⟩ =>
      if grantable s pid q then some (s.replace ⟨pid, q :: held, rest⟩) else none
    | _ => none
  | .finish pid =>
    match s.get? pid with
    | some ⟨_, _, []⟩ => some (s.erase pid)
    | _ => none
  | .rollback pid => (s.get? pid).map fun _ => s.erase pid

theorem lockStep_cases (h : lockStep s l = some s') : LockMove s l s' := by
  cases l with
  | start pid path => exact .start h
  | acquire pid =>
    simp only [lockStep] at h
    split at h
    · rename_i pid' held q rest hget
      obtain rfl : pid' = pid := Table.key_of_get? hget
      split at h
      · rename_i hfree
        cases h
        exact LockMove.acquire (t := ⟨pid', held, q :: rest⟩) hget rfl hfree
      · cases h
    · cases h
  | finish pid =>
    simp only [lockStep] at h
    split at h
    · rename_i pid' held hget
      obtain rfl : pid' = pid := Table.key_of_get? hget
      cases h
      exact LockMove.finish (t := ⟨pid', held, []⟩) hget rfl
    · cases h
  | rollback pid =>
    simp only [lockStep, Option.map_eq_some_iff] at h
    obtain ⟨t, hget, rfl⟩ := h
    obtain rfl : t.pid = pid := Table.key_of_get? hget
    exact .rollback hget

/-! ### Mutual exclusion -/

/-- No lock that one transaction holds clashes with a lock of another. -/
def Exclusive (s : LockTable ρ μ) : Prop :=
  ∀ t ∈ s.rows, ∀ u ∈ s.rows, t.pid ≠ u.pid → ∀ h ∈ t.held, ∀ h' ∈ u.held, ¬h.clashes h'

theorem lockStep_exclusive (h : lockStep s l = some s') (hex : Exclusive s) : Exclusive s' := by
  refine (lockStep_cases h).forall_pairs
    (R := fun t u => ∀ h ∈ t.held, ∀ h' ∈ u.held, ¬h.clashes h') ?_ hex ?_ ?_
  · intro t u hR q hq q' hq' hclash
    exact hR q' hq' q hq hclash.symm
  · intro pid path u q hq
    cases hq
  · intro t q rest ht hrest hfree _ u hu hne x hx y hy hclash
    rcases List.mem_cons.mp hx with rfl | hold
    · exact hfree u hu (Ne.symm hne) ⟨y, hy, hclash.symm⟩
    · exact hex t ht u hu hne x hold y hy hclash

theorem exclusive_of_run (h : Exec lockStep .empty tr s) : Exclusive s :=
  h.invariant (fun _ ht => by cases ht) lockStep_exclusive

/-! ### Disciplined runs -/

variable {D : List (Request ρ μ) → Request ρ μ → Prop}

def Txn.keeps (D : List (Request ρ μ) → Request ρ μ → Prop) (t : Txn ρ μ) : Prop :=
  Built D t.held ∧ Disciplined D t.held t.rest

/-- When every transaction starts with a disciplined path, none ever leaves its discipline. -/
theorem keeps_of_run (h : Exec lockStep .empty tr s)
    (hstart : ∀ x ∈ tr, ∀ pid path, x.label = .start pid path → Disciplined D [] path) :
    ∀ t ∈ s.rows, t.keeps D := by
  induction h with
  | nil => exact fun _ ht => by cases ht
  | cons run hs ih =>
    have hstart' := List.forall_mem_cons.mp hstart
    refine (lockStep_cases hs).forall_rows (ih hstart'.2) ?_ ?_
    · intro pid path hl
      exact ⟨trivial, hstart'.1 pid path hl⟩
    · intro t q rest ht hrest _ _
      obtain ⟨hbuilt, hdisc⟩ := ih hstart'.2 t ht
      rw [hrest] at hdisc
      exact ⟨⟨hdisc.1, hbuilt⟩, hdisc.2⟩

/-! ### Opposite transactions -/

/-- The step is the acquisition of a lock that makes its transaction and another one opposite. -/
def crosses (s : LockTable ρ μ) : LockLabel ρ μ → Bool
  | .acquire pid =>
    match s.get? pid with
    | some t => s.rows.any fun u => u.pid ≠ pid ∧ t.next.opposes u
    | none => false
  | _ => false

theorem not_opposes_of_run (h : Exec lockStep .empty tr s)
    (hcross : ∀ x ∈ tr, crosses x.pre x.label = false) :
    ∀ t ∈ s.rows, ∀ u ∈ s.rows, t.pid ≠ u.pid → ¬t.opposes u := by
  induction h with
  | nil => exact fun _ ht => by cases ht
  | @cons tr s s' l run hs ih =>
    have hcross' := List.forall_mem_cons.mp hcross
    refine (lockStep_cases hs).forall_pairs (R := fun t u => ¬t.opposes u) ?_ (ih hcross'.2) ?_ ?_
    · intro t u hnot hop
      exact hnot hop.symm
    · rintro pid path u ⟨⟨q, _, x, hx, _⟩, _⟩
      cases hx
    · rintro t q rest ht hrest _ rfl u hu hne hop
      have hnext : t.next = ⟨t.pid, q :: t.held, rest⟩ := by
        rw [Txn.next, hrest]
      have hfalse := hcross'.1
      simp only [crosses, show s.get? t.pid = some t from Table.get?_of_mem ht, List.any_eq_false,
        decide_eq_true_eq, not_and] at hfalse
      exact hfalse u hu (Ne.symm hne) (by rw [hnext]; exact hop)

/-- Opposite transactions stay where they are: neither can take the lock the other holds, so neither
    ends, until one of them is rolled back. -/
theorem opposed_stuck (h : Exec lockStep s₀ tr s) {p p' : Nat} (hne : p ≠ p')
    (hop : ∃ t u, s₀.get? p = some t ∧ s₀.get? p' = some u ∧ t.opposes u)
    (hno : ∀ x ∈ tr, x.label ≠ .rollback p ∧ x.label ≠ .rollback p') :
    ∃ t u, s.get? p = some t ∧ s.get? p' = some u ∧ t.opposes u := by
  induction h with
  | nil => exact hop
  | @cons tr s s' l run hs ih =>
    have hno' := List.forall_mem_cons.mp hno
    obtain ⟨t, u, ht, hu, hopp⟩ := ih hno'.2
    obtain rfl : t.pid = p := Table.key_of_get? ht
    obtain rfl : u.pid = p' := Table.key_of_get? hu
    cases lockStep_cases hs with
    | start h => exact ⟨t, u, Table.get?_insert?_of_some h ht, Table.get?_insert?_of_some h hu, hopp⟩
    | @acquire v q rest hv hrest hfree =>
      by_cases hvt : v.pid = t.pid
      · rw [hvt] at hv
        obtain rfl : v = t := Option.some.inj (hv.symm.trans ht)
        exact ⟨_, u, Table.get?_replace_self hv, (Table.get?_replace_of_ne (Ne.symm hne)).trans hu,
          hopp.granted hrest (hfree u (Table.mem_of_get? hu) (Ne.symm hne))⟩
      · by_cases hvu : v.pid = u.pid
        · rw [hvu] at hv
          obtain rfl : v = u := Option.some.inj (hv.symm.trans hu)
          exact ⟨t, _, (Table.get?_replace_of_ne hne).trans ht, Table.get?_replace_self hv,
            (hopp.symm.granted hrest (hfree t (Table.mem_of_get? ht) hne)).symm⟩
        · exact ⟨t, u, (Table.get?_replace_of_ne (Ne.symm hvt)).trans ht,
            (Table.get?_replace_of_ne (Ne.symm hvu)).trans hu, hopp⟩
    | @finish v hv hrest =>
      have hkeep : ∀ x : Txn ρ μ, s.get? x.pid = some x → x.rest ≠ [] →
          (s.erase v.pid).get? x.pid = some x := by
        intro x hx hpending
        rw [Table.get?_erase]
        split
        · rename_i heq
          rw [heq] at hx
          obtain rfl : v = x := Option.some.inj (hv.symm.trans hx)
          exact absurd hrest hpending
        · exact hx
      obtain ⟨x, hx, _⟩ := hopp.1
      obtain ⟨y, hy, _⟩ := hopp.2
      exact ⟨t, u, hkeep t ht (List.ne_nil_of_mem hy), hkeep u hu (List.ne_nil_of_mem hx), hopp⟩
    | @rollback v hv =>
      obtain ⟨hnt, hnu⟩ := hno'.1
      refine ⟨t, u, ?_, ?_, hopp⟩
      · rw [Table.get?_erase, if_neg fun heq => hnt (by rw [heq])]
        exact ht
      · rw [Table.get?_erase, if_neg fun heq => hnu (by rw [heq])]
        exact hu

end

end

end Schemes
