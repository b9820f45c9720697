import Mathlib.Algebra.BigOperators.Group.List.Basic
import Mathlib.Data.List.Count
import Mathlib.Data.List.Sort
import Mathlib.Order.Basic
import Mathlib.Tactic.Ring

/-! Positions ranked by a key, and one more for the first of them.

    The largest key comes first, and equal keys go by position. The first `k` of the ranking lie within a set of
    positions that come before all others when the set has `k` members, and contain it when it has no more. -/

namespace Schemes

variable {κ : Type} [LinearOrder κ]

/-- `i` comes no later than `j`. -/
def Ranked (key : ℕ → κ) (i j : ℕ) : Prop := key j < key i ∨ key i = key j ∧ i ≤ j

instance (key : ℕ → κ) : DecidableRel (Ranked key) := fun _ _ => inferInstanceAs (Decidable (_ ∨ _ ∧ _))

/-- The positions below `n`, the largest key first. -/
def ranking (key : ℕ → κ) (n : ℕ) : List ℕ := (List.range n).insertionSort (Ranked key)

variable {key : ℕ → κ} {n : ℕ}

instance : Std.Total (Ranked key) where
  total i j := by
    rcases lt_trichotomy (key i) (key j) with h | h | h
    · exact .inr (.inl h)
    · rcases Nat.le_total i j with hij | hij
      · exact .inl (.inr ⟨h, hij⟩)
      · exact .inr (.inr ⟨h.symm, hij⟩)
    · exact .inl (.inl h)

instance : IsTrans ℕ (Ranked key) where
  trans i j k := by
    rintro (hij | ⟨hij, hle⟩) (hjk | ⟨hjk, hle'⟩)
    · exact .inl (hjk.trans hij)
    · exact .inl (hjk ▸ hij)
    · exact .inl (hij ▸ hjk)
    · exact .inr ⟨hij.trans hjk, hle.trans hle'⟩

theorem Ranked.antisymm {i j : ℕ} (h : Ranked key i j) (h' : Ranked key j i) : i = j := by
  rcases h with hlt | ⟨heq, hle⟩
  · rcases h' with hlt' | ⟨heq', -⟩
    · exact absurd hlt' hlt.not_gt
    · exact absurd heq' hlt.ne
  · rcases h' with hlt' | ⟨-, hle'⟩
    · exact absurd heq hlt'.ne
    · exact Nat.le_antisymm hle hle'

theorem ranking_perm (key : ℕ → κ) (n : ℕ) : (ranking key n).Perm (List.range n) := List.perm_insertionSort _ _

theorem ranking_pairwise (key : ℕ → κ) (n : ℕ) : (ranking key n).Pairwise (Ranked key) :=
  List.pairwise_insertionSort _ _

@[simp] theorem length_ranking (key : ℕ → κ) (n : ℕ) : (ranking key n).length = n := by
  simp [(ranking_perm key n).length_eq]

@[simp] theorem mem_ranking {i : ℕ} : i ∈ ranking key n ↔ i < n := by
  simp [(ranking_perm key n).mem_iff]

theorem nodup_take_ranking (k : ℕ) : ((ranking key n).take k).Nodup :=
  ((ranking_perm key n).nodup_iff.mpr List.nodup_range).sublist (List.take_sublist _ _)

theorem lt_of_mem_take {k i : ℕ} (h : i ∈ (ranking key n).take k) : i < n := mem_ranking.mp (List.mem_of_mem_take h)

theorem mem_drop_ranking {k i : ℕ} (hi : i < n) (h : i ∉ (ranking key n).take k) : i ∈ (ranking key n).drop k := by
  have hmem : i ∈ (ranking key n).take k ++ (ranking key n).drop k := by
    rw [List.take_append_drop]
    exact mem_ranking.mpr hi
  exact (List.mem_append.mp hmem).resolve_left h

/-- Who stands behind is in no set that comes first unless who stands before is. -/
theorem ranked_take_drop {k i j : ℕ} (hi : i ∈ (ranking key n).take k) (hj : j ∈ (ranking key n).drop k) :
    Ranked key i j := by
  have hp := ranking_pairwise key n
  rw [← List.take_append_drop k (ranking key n), List.pairwise_append] at hp
  exact hp.2.2 i hi j hj

section First

variable {P : ℕ → Prop} [DecidablePred P] (hfirst : ∀ i j, i < n → j < n → P i → ¬P j → Ranked key i j)
include hfirst

theorem of_ranked {i j : ℕ} (hi : i < n) (hj : j < n) (h : Ranked key i j) (hp : P j) : P i := by
  by_contra hn
  exact hn (h.antisymm (hfirst j i hj hi hp hn) ▸ hp)

/-- The first `k` are all in a set that comes first and has at least `k` members. -/
theorem forall_take_ranking {k : ℕ} (hk : k ≤ (List.range n).countP (P ·)) : ∀ i ∈ (ranking key n).take k, P i := by
  intro i hi
  by_contra hn
  have hdrop : ((ranking key n).drop k).countP (P ·) = 0 := by
    rw [List.countP_eq_zero]
    intro j hj hp
    have hjn := mem_ranking.mp (List.mem_of_mem_drop hj)
    exact hn (of_ranked hfirst (lt_of_mem_take hi) hjn (ranked_take_drop hi hj) (by simpa using hp))
  have htake : ((ranking key n).take k).countP (P ·) < ((ranking key n).take k).length := by
    refine lt_of_le_of_ne List.countP_le_length fun h => hn ?_
    simpa using List.countP_eq_length.mp h i hi
  have hcount : (List.range n).countP (P ·) = ((ranking key n).take k).countP (P ·) := by
    rw [← (ranking_perm key n).countP_eq, ← List.take_append_drop k (ranking key n), List.countP_append, hdrop]
    simp
  have hlen : ((ranking key n).take k).length ≤ k := List.length_take_le _ _
  omega

/-- And contain one of at most `k`. -/
theorem mem_take_ranking {k i : ℕ} (hk : (List.range n).countP (P ·) ≤ k) (hi : i < n) (hp : P i) :
    i ∈ (ranking key n).take k := by
  by_contra hn
  have hmem : i ∈ (ranking key n).drop k := mem_drop_ranking hi hn
  have hall : ((ranking key n).take k).countP (P ·) = ((ranking key n).take k).length := by
    refine List.countP_eq_length.mpr fun j hj => ?_
    simpa using of_ranked hfirst (lt_of_mem_take hj) hi (ranked_take_drop hj hmem) hp
  have hone : 0 < ((ranking key n).drop k).countP (P ·) := List.countP_pos_iff.mpr ⟨i, hmem, by simpa using hp⟩
  have hcount : (List.range n).countP (P ·)
      = ((ranking key n).take k).countP (P ·) + ((ranking key n).drop k).countP (P ·) := by
    rw [← List.countP_append, List.take_append_drop, (ranking_perm key n).countP_eq]
  have hlen : 0 < ((ranking key n).drop k).length := List.length_pos_of_mem hmem
  rw [List.length_drop] at hlen
  rw [hall, List.length_take] at hcount
  omega

end First

/-- A second key that keeps the strict order of the first chooses the same positions exactly when it keeps the order of
    those that tie where the choice ends. -/
theorem take_ranking_iff {f g : ℕ → κ} (hfg : ∀ i j, i < n → j < n → f i < f j → g i < g j) (k : ℕ) :
    (∀ i < n, i ∈ (ranking g n).take k ↔ i ∈ (ranking f n).take k) ↔
      ∀ i j, i < j → j < n → f i = f j → i ∈ (ranking f n).take k → j ∉ (ranking f n).take k → g j ≤ g i := by
  constructor
  · intro hsame i j hij hj _ hi hnot
    have hranked : Ranked g i j :=
      ranked_take_drop ((hsame i (hij.trans hj)).mpr hi) (mem_drop_ranking hj (mt (hsame j hj).mp hnot))
    rcases hranked with hlt | ⟨heq, -⟩
    · exact hlt.le
    · exact heq.ge
  · intro hties
    -- whoever the first key chooses comes, by the second key, before whoever it does not
    have hfirst : ∀ i j, i < n → j < n → i ∈ (ranking f n).take k → j ∉ (ranking f n).take k → Ranked g i j := by
      intro i j hi hj hin hnot
      rcases ranked_take_drop hin (mem_drop_ranking hj hnot) with hlt | ⟨heq, hle⟩
      · exact .inl (hfg j i hj hi hlt)
      · have hij : i < j := lt_of_le_of_ne hle fun h => hnot (h ▸ hin)
        rcases (hties i j hij hj heq hin hnot).lt_or_eq with hlt | hge
        · exact .inl hlt
        · exact .inr ⟨hge.symm, hle⟩
    have hcount : (List.range n).countP (fun i => decide (i ∈ (ranking f n).take k)) = min k n := by
      rw [← (ranking_perm f n).countP_eq, ← List.take_append_drop k (ranking f n), List.countP_append,
        List.countP_eq_length.mpr, List.countP_eq_zero.mpr, List.length_take, length_ranking,
        Nat.add_zero]
      · intro j hj hin
        have hnodup := (ranking_perm f n).nodup_iff.mpr List.nodup_range
        rw [← List.take_append_drop k (ranking f n)] at hnodup
        exact (List.nodup_append.mp hnodup).2.2 j (by simpa using hin) j hj rfl
      · intro i hi
        simpa using hi
    have htake : (ranking g n).take k = (ranking g n).take (min k n) := by
      rcases Nat.le_total k n with h | h
      · rw [Nat.min_eq_left h]
      · rw [Nat.min_eq_right h, List.take_of_length_le (by simpa using h), List.take_of_length_le (by simp)]
    intro i hi
    rw [htake]
    exact ⟨forall_take_ranking hfirst hcount.ge i, mem_take_ranking hfirst hcount.le hi⟩

/-! ### One more for each of some positions -/

/-- One is added at every position of the list. -/
def raiseAt (is : List ℕ) (parts : List ℤ) : List ℤ := is.foldl (fun parts i => parts.modify i (· + 1)) parts

@[simp] theorem raiseAt_nil (parts : List ℤ) : raiseAt [] parts = parts := rfl

theorem raiseAt_cons (i : ℕ) (is : List ℕ) (parts : List ℤ) :
    raiseAt (i :: is) parts = raiseAt is (parts.modify i (· + 1)) := rfl

@[simp] theorem length_raiseAt (is : List ℕ) (parts : List ℤ) : (raiseAt is parts).length = parts.length := by
  induction is generalizing parts with
  | nil => rfl
  | cons i is ih => simp [raiseAt_cons, ih]

theorem getElem?_raiseAt (is : List ℕ) (parts : List ℤ) (j : ℕ) :
    (raiseAt is parts)[j]? = parts[j]?.map fun x => x + (is.count j : ℤ) := by
  induction is generalizing parts with
  | nil => simp
  | cons i is ih =>
    rw [raiseAt_cons, ih, List.getElem?_modify, List.count_cons]
    rcases eq_or_ne i j with rfl | hij
    · cases parts[i]? with
      | none => rfl
      | some x =>
        simp
        ring
    · simp [hij]

/-- A position is raised once when it is listed and there are no repetitions. -/
theorem getElem?_raiseAt_nodup {is : List ℕ} (h : is.Nodup) (parts : List ℤ) (j : ℕ) :
    (raiseAt is parts)[j]? = parts[j]?.map fun x => x + if j ∈ is then 1 else 0 := by
  rw [getElem?_raiseAt]
  by_cases hj : j ∈ is
  · simp [hj, List.count_eq_one_of_mem h hj]
  · simp [hj, List.count_eq_zero_of_not_mem hj]

theorem sum_modify_succ (parts : List ℤ) {i : ℕ} (hi : i < parts.length) :
    (parts.modify i (· + 1)).sum = parts.sum + 1 := by
  induction parts generalizing i with
  | nil => simp at hi
  | cons x parts ih =>
    cases i with
    | zero =>
      simp
      ring
    | succ i =>
      rw [List.modify_succ_cons, List.sum_cons, List.sum_cons, ih (by simpa using hi)]
      ring

theorem sum_raiseAt {is : List ℕ} {parts : List ℤ} (h : ∀ i ∈ is, i < parts.length) :
    (raiseAt is parts).sum = parts.sum + is.length := by
  induction is generalizing parts with
  | nil => simp
  | cons i is ih =>
    have hi := h i List.mem_cons_self
    rw [raiseAt_cons, ih fun j hj => by simpa using h j (List.mem_cons_of_mem _ hj), sum_modify_succ parts hi]
    push_cast [List.length_cons]
    ring

end Schemes
