import Mathlib.Algebra.BigOperators.Ring.List
import Mathlib.Algebra.Order.BigOperators.Group.List
import NovaCart.GstCalc

/-! What `allocate` returns: non-negative parts that add up to the total, each within its weight when the total is
    within their sum, and the weights themselves when it is their sum.

    A share is a decimal, so it may differ from the exact one in its last digits; all the shares together differ from
    the total by less than one paisa as long as the total is below 10^20. -/

namespace NovaCart

open Schemes

/-! ### Products and quotients -/

theorem decMul_nonneg {a b : ℚ} (ha : 0 ≤ a) (hb : 0 ≤ b) : 0 ≤ decMul a b := toDigits_nonneg _ (mul_nonneg ha hb)

theorem decDiv_nonneg {a b : ℚ} (ha : 0 ≤ a) (hb : 0 ≤ b) : 0 ≤ decDiv a b := toDigits_nonneg _ (div_nonneg ha hb)

theorem decMul_intCast {a b : ℤ} (h : |a * b| < 10 ^ 28) : decMul a b = ((a * b : ℤ) : ℚ) := by
  rw [decMul, ← Int.cast_mul, toDigits_intCast h]

theorem abs_decMul_sub_le (a b : ℚ) : |decMul a b - a * b| ≤ |a * b| / (2 * 10 ^ 27) := abs_toDigits_sub_le 27 _

theorem abs_decDiv_sub_le (a b : ℚ) : |decDiv a b - a / b| ≤ |a / b| / (2 * 10 ^ 27) := abs_toDigits_sub_le 27 _

@[simp] theorem decMul_zero (a : ℚ) : decMul a 0 = 0 := by simp [decMul]

@[simp] theorem zero_decMul (a : ℚ) : decMul 0 a = 0 := by simp [decMul]

@[simp] theorem zero_decDiv (a : ℚ) : decDiv 0 a = 0 := by simp [decDiv]

/-! ### Shares -/

section Share

variable {total weightSum w : ℤ}

/-- The part of a weight without the loss of digits. -/
def exactShare (total weightSum w : ℤ) : ℚ := total * w / weightSum

@[simp] theorem share_zero (total weightSum : ℤ) : share total weightSum 0 = 0 := by simp [share]

theorem share_nonneg (ht : 0 ≤ total) (hs : 0 ≤ weightSum) (hw : 0 ≤ w) : 0 ≤ share total weightSum w :=
  decDiv_nonneg (decMul_nonneg (by exact_mod_cast ht) (by exact_mod_cast hw)) (by exact_mod_cast hs)

/-- The digits that are lost are those of the product and those of the quotient. -/
theorem abs_share_sub_le (ht : 0 ≤ total) (hs : 0 < weightSum) (hw : 0 ≤ w) :
    |share total weightSum w - exactShare total weightSum w| ≤ exactShare total weightSum w / 10 ^ 26 := by
  have ht' : (0 : ℚ) ≤ total := by exact_mod_cast ht
  have hs' : (0 : ℚ) < weightSum := by exact_mod_cast hs
  have hw' : (0 : ℚ) ≤ w := by exact_mod_cast hw
  set q := exactShare total weightSum w with hq
  rw [exactShare] at hq
  have hq0 : 0 ≤ q := hq ▸ div_nonneg (mul_nonneg ht' hw') hs'.le
  set m : ℚ := decMul total w / weightSum with hm
  have hproduct : |m - q| ≤ q / (2 * 10 ^ 27) := by
    have h := abs_decMul_sub_le total w
    rw [abs_of_nonneg (mul_nonneg ht' hw')] at h
    calc |m - q| = |decMul total w - total * w| / weightSum := by
          rw [hm, hq, ← sub_div, abs_div, abs_of_pos hs']
      _ ≤ total * w / (2 * 10 ^ 27) / weightSum := div_le_div_of_nonneg_right h hs'.le
      _ = q / (2 * 10 ^ 27) := by
          rw [hq]
          ring
  have hquotient : |share total weightSum w - m| ≤ |m| / (2 * 10 ^ 27) := abs_decDiv_sub_le _ _
  have hm0 : 0 ≤ m := div_nonneg (decMul_nonneg ht' hw') hs'.le
  rw [abs_of_nonneg hm0] at hquotient
  rw [abs_le] at hproduct hquotient ⊢
  constructor <;> linarith [hproduct.1, hproduct.2, hquotient.1, hquotient.2]

/-- A whole share of few digits is exact. -/
theorem share_eq (hs : 0 < weightSum) {n : ℤ} (h : total * w = n * weightSum) (hprod : |total * w| < 10 ^ 28)
    (hn : |n| < 10 ^ 28) : share total weightSum w = n := by
  have hs' : (weightSum : ℚ) ≠ 0 := by exact_mod_cast hs.ne'
  rw [share, decMul_intCast hprod, decDiv, h]
  push_cast
  rw [mul_div_cancel_right₀ _ hs', toDigits_intCast hn]

end Share

/-! ### The parts -/

theorem map_getD_range {α : Type} (l : List α) (d : α) : (List.range l.length).map (l.getD · d) = l := by
  refine List.ext_getElem (by simp) fun i h₁ h₂ => ?_
  simp [List.getD_eq_getElem?_getD, List.getElem?_eq_getElem h₂]

theorem getD_mem {l : List ℤ} {i : ℕ} (h : i < l.length) : l.getD i 0 ∈ l := by
  simp [List.getD_eq_getElem?_getD, h]

/-- Positions counted by what stands there. -/
theorem countP_range {α : Type} (l : List α) (d : α) (p : α → Bool) :
    (List.range l.length).countP (fun i => p (l.getD i d)) = l.countP p := by
  conv_rhs => rw [← map_getD_range l d]
  rw [List.countP_map]
  rfl

@[simp] theorem length_allocate (total : ℤ) (weights : List ℤ) :
    (allocate total weights).length = weights.length := by
  simp only [allocate]
  split_ifs
  · simp
  · simp

/-- How many parts are rounded up. -/
def leftover (total : ℤ) (weights : List ℤ) : ℤ :=
  total - (weights.map fun w => ⌊share total weights.sum w⌋).sum

/-- What decides who is rounded up. -/
def remainder (total : ℤ) (weights : List ℤ) (i : ℕ) : ℚ := Int.fract (share total weights.sum (weights.getD i 0))

theorem sum_exactShare (total : ℤ) {weights : List ℤ} (hs : 0 < weights.sum) :
    (weights.map (exactShare total weights.sum)).sum = total := by
  have hs' : (weights.sum : ℚ) ≠ 0 := by exact_mod_cast hs.ne'
  have hsum : (weights.map fun w : ℤ => (w : ℚ)).sum = (weights.sum : ℚ) := (map_list_sum (Int.castRingHom ℚ) weights).symm
  calc (weights.map (exactShare total weights.sum)).sum
      = (weights.map fun w : ℤ => (total / weights.sum : ℚ) * w).sum := by
        congr 2
        funext w
        rw [exactShare]
        ring
    _ = total / weights.sum * (weights.map fun w : ℤ => (w : ℚ)).sum := by rw [List.sum_map_mul_left]
    _ = total := by rw [hsum, div_mul_cancel₀ _ hs']

section Parts

variable {total : ℤ} {weights : List ℤ} (ht : 0 ≤ total) (hw : ∀ w ∈ weights, 0 ≤ w) (hs : 0 < weights.sum)
include ht hw hs

theorem map_truncate_share :
    (weights.map (share total weights.sum)).map truncate = weights.map fun w => ⌊share total weights.sum w⌋ := by
  rw [List.map_map]
  exact List.map_congr_left fun w hmem => truncate_of_nonneg (share_nonneg ht hs.le (hw w hmem))

/-- `allocate` when there is something to spread and to spread it over. -/
theorem allocate_eq (h0 : total ≠ 0) :
    allocate total weights
      = raiseAt (upTo (ranking (remainder total weights) weights.length) (leftover total weights))
          (weights.map fun w => ⌊share total weights.sum w⌋) := by
  have hkey : (fun i => (weights.map (share total weights.sum)).getD i 0
      - (((weights.map fun w => ⌊share total weights.sum w⌋).getD i 0 : ℤ) : ℚ)) = remainder total weights := by
    funext i
    simp only [remainder, Int.fract, List.getD_eq_getElem?_getD, List.getElem?_map]
    cases weights[i]? with
    | none => simp
    | some w => rfl
  simp only [allocate, h0, hs.ne', or_self, if_false]
  rw [map_truncate_share ht hw hs, hkey]
  rfl

/-- Together the shares are the total, but for the digits that are lost. -/
theorem abs_sum_share_sub_le :
    |(weights.map (share total weights.sum)).sum - total| ≤ total / 10 ^ 26 := by
  have hterms : ∀ ws : List ℤ, (∀ w ∈ ws, 0 ≤ w) →
      |(ws.map (share total weights.sum)).sum - (ws.map (exactShare total weights.sum)).sum|
        ≤ (ws.map (exactShare total weights.sum)).sum / 10 ^ 26 := by
    intro ws
    induction ws with
    | nil => simp
    | cons w ws ih =>
      intro hws
      have hhead := abs_share_sub_le ht hs (hws w List.mem_cons_self)
      have htail := ih fun v hv => hws v (List.mem_cons_of_mem _ hv)
      simp only [List.map_cons, List.sum_cons]
      rw [abs_le] at hhead htail ⊢
      constructor <;> linarith [hhead.1, hhead.2, htail.1, htail.2]
  have h := hterms weights hw
  rwa [sum_exactShare total hs] at h

end Parts

/-- Rounding down loses less than one for every share that is not whole. -/
theorem sum_floor_bounds (f : ℤ → ℚ) (ws : List ℤ) :
    (((ws.map fun w => ⌊f w⌋).sum : ℤ) : ℚ) ≤ (ws.map f).sum ∧
      (ws.map f).sum ≤ ((ws.map fun w => ⌊f w⌋).sum : ℤ) + (ws.countP fun w => 0 < Int.fract (f w) : ℕ) := by
  induction ws with
  | nil => simp
  | cons w ws ih =>
    have hfloor := Int.floor_add_fract (f w)
    have hnonneg := Int.fract_nonneg (f w)
    have hlt := Int.fract_lt_one (f w)
    simp only [List.map_cons, List.sum_cons, List.countP_cons]
    by_cases hpos : 0 < Int.fract (f w)
    · simp only [hpos, decide_true, if_true]
      simp only [Int.cast_add, Nat.cast_add, Nat.cast_one]
      constructor <;> linarith [ih.1, ih.2]
    · have hzero : Int.fract (f w) = 0 := le_antisymm (not_lt.mp hpos) hnonneg
      simp only [hpos, decide_false, Bool.false_eq_true, if_false]
      simp only [Int.cast_add, Nat.cast_add, Nat.cast_zero]
      constructor <;> linarith [ih.1, ih.2]

section Bounds

variable {total : ℤ} {weights : List ℤ} (ht : 0 ≤ total) (hsmall : total < 10 ^ 20)
  (hw : ∀ w ∈ weights, 0 ≤ w) (hs : 0 < weights.sum)
include ht hsmall hw hs

/-- At most one paisa is left over for each share that is not whole. -/
theorem leftover_bounds :
    0 ≤ leftover total weights ∧
      leftover total weights ≤ (weights.countP fun w => 0 < Int.fract (share total weights.sum w) : ℕ) := by
  have hsum := abs_sum_share_sub_le ht hw hs
  obtain ⟨hlow, hhigh⟩ := sum_floor_bounds (share total weights.sum) weights
  have hbound : (total : ℚ) / 10 ^ 26 < 1 := by
    have h : (total : ℚ) < 10 ^ 20 := by exact_mod_cast hsmall
    rw [div_lt_one (by norm_num)]
    linarith
  rw [abs_le] at hsum
  unfold leftover
  set floors := (weights.map fun w => ⌊share total weights.sum w⌋).sum
  set rounded := weights.countP fun w => 0 < Int.fract (share total weights.sum w)
  constructor
  · have h : ((floors : ℤ) : ℚ) < ((total + 1 : ℤ) : ℚ) := by
      push_cast
      linarith [hsum.2]
    have : floors < total + 1 := by exact_mod_cast h
    omega
  · have h : (total : ℚ) < ((floors + rounded + 1 : ℤ) : ℚ) := by
      push_cast
      linarith [hsum.1]
    have : total < floors + rounded + 1 := by exact_mod_cast h
    omega

/-- Who is rounded up has a remainder. -/
theorem remainder_pos_of_mem_take {i : ℕ}
    (hmem : i ∈ (ranking (remainder total weights) weights.length).take (leftover total weights).toNat) :
    0 < remainder total weights i := by
  have hbounds := leftover_bounds ht hsmall hw hs
  have hcount : (leftover total weights).toNat
      ≤ (List.range weights.length).countP fun j => decide (0 < remainder total weights j) := by
    unfold remainder
    rw [countP_range weights 0 fun w => decide (0 < Int.fract (share total weights.sum w))]
    omega
  exact forall_take_ranking (fun _ _ _ _ hi hj => .inl (lt_of_le_of_lt (not_lt.mp hj) hi)) hcount i hmem

theorem leftover_le_length : leftover total weights ≤ weights.length := by
  have h := (leftover_bounds ht hsmall hw hs).2
  have hcount : weights.countP (fun w => 0 < Int.fract (share total weights.sum w)) ≤ weights.length :=
    List.countP_le_length
  omega

/-- Each part is its share rounded down, and one more when it is among the first of the ranking. -/
theorem getElem?_allocate (h0 : total ≠ 0) (i : ℕ) :
    (allocate total weights)[i]? = weights[i]?.map fun w =>
      ⌊share total weights.sum w⌋
        + if i ∈ (ranking (remainder total weights) weights.length).take (leftover total weights).toNat then 1 else 0 := by
  rw [allocate_eq ht hw hs h0, upTo, if_pos (leftover_bounds ht hsmall hw hs).1,
    getElem?_raiseAt_nodup (nodup_take_ranking _), List.getElem?_map, Option.map_map]
  rfl

theorem sum_allocate_of_pos : (allocate total weights).sum = total := by
  rcases eq_or_ne total 0 with rfl | h0
  · simp [allocate]
  have hbounds := leftover_bounds ht hsmall hw hs
  have hlen := leftover_le_length ht hsmall hw hs
  rw [allocate_eq ht hw hs h0, upTo, if_pos hbounds.1, sum_raiseAt, List.length_take, length_ranking]
  · have hparts : (weights.map fun w => ⌊share total weights.sum w⌋).sum = total - leftover total weights := by
      unfold leftover
      ring
    rw [hparts]
    omega
  · intro i hi
    simpa using lt_of_mem_take hi

end Bounds

/-! ### Laws of `allocate` -/

/-- With nothing to spread, or nothing to spread it over, every part is zero. -/
theorem allocate_eq_replicate {total : ℤ} {weights : List ℤ} (h : total = 0 ∨ weights.sum = 0) :
    allocate total weights = List.replicate weights.length 0 := if_pos h

section Laws

variable {total : ℤ} {weights : List ℤ} (ht : 0 ≤ total) (hw : ∀ w ∈ weights, 0 ≤ w)
include ht hw

theorem allocate_nonneg : ∀ part ∈ allocate total weights, 0 ≤ part := by
  by_cases h : total = 0 ∨ weights.sum = 0
  · rw [allocate_eq_replicate h]
    intro part hpart
    exact (List.eq_of_mem_replicate hpart).ge
  push Not at h
  have hs : 0 < weights.sum := lt_of_le_of_ne (List.sum_nonneg hw) h.2.symm
  intro part hpart
  obtain ⟨i, hi⟩ := List.getElem?_of_mem hpart
  rw [allocate_eq ht hw hs h.1, getElem?_raiseAt, List.getElem?_map, Option.map_map, Option.map_eq_some_iff] at hi
  obtain ⟨w, hmem, rfl⟩ := hi
  have hfloor := Int.floor_nonneg.mpr (share_nonneg ht hs.le (hw w (List.mem_of_getElem? hmem)))
  exact add_nonneg hfloor (Nat.cast_nonneg _)

/-- The parts add up to the total, unless there is nothing to spread it over. -/
theorem sum_allocate (hsmall : total < 10 ^ 20) :
    (allocate total weights).sum = if weights.sum = 0 then 0 else total := by
  split_ifs with h
  · simp [allocate_eq_replicate (.inr h)]
  · exact sum_allocate_of_pos ht hsmall hw (lt_of_le_of_ne (List.sum_nonneg hw) (Ne.symm h))

/-- No part exceeds its weight when the total is within the sum of the weights. -/
theorem allocate_le (hle : total ≤ weights.sum) (hsmall : weights.sum < 10 ^ 13) {i : ℕ} {part w : ℤ}
    (hpart : (allocate total weights)[i]? = some part) (hweight : weights[i]? = some w) : part ≤ w := by
  have hw0 := hw w (List.mem_of_getElem? hweight)
  by_cases h : total = 0 ∨ weights.sum = 0
  · rw [allocate_eq_replicate h] at hpart
    exact (List.eq_of_mem_replicate (List.mem_of_getElem? hpart)).trans_le hw0
  push Not at h
  have hs : 0 < weights.sum := lt_of_le_of_ne (List.sum_nonneg hw) h.2.symm
  have hwle : w ≤ weights.sum := List.single_le_sum hw w (List.mem_of_getElem? hweight)
  rw [getElem?_allocate ht (by omega) hw hs h.1, hweight, Option.map_some, Option.some.injEq] at hpart
  -- a share equal to its weight is exact, and any other is below it by more than the digits that are lost
  have hshare : share total weights.sum w ≤ w := by
    have hprod : total * w ≤ w * weights.sum := by
      rw [mul_comm w]
      exact mul_le_mul_of_nonneg_right hle hw0
    have hsquare : w * weights.sum ≤ 10 ^ 13 * 10 ^ 13 := by nlinarith
    have hprod0 : 0 ≤ total * w := mul_nonneg ht hw0
    rcases hprod.eq_or_lt with heq | hlt
    · refine le_of_eq (share_eq hs heq ?_ ?_)
      · rw [abs_of_nonneg hprod0]
        omega
      · rw [abs_of_nonneg hw0]
        omega
    · have hnear := (abs_le.mp (abs_share_sub_le ht hs hw0)).2
      have hs' : (0 : ℚ) < weights.sum := by exact_mod_cast hs
      set q := exactShare total weights.sum w with hq
      rw [exactShare] at hq
      have hgap : q ≤ w - 1 / weights.sum := by
        have hstep : ((total * w : ℤ) : ℚ) ≤ ((w * weights.sum - 1 : ℤ) : ℚ) := by exact_mod_cast (by omega)
        rw [Int.cast_mul, Int.cast_sub, Int.cast_mul, Int.cast_one] at hstep
        rw [hq, div_le_iff₀ hs', sub_mul, one_div, inv_mul_cancel₀ hs'.ne']
        exact hstep
      have hlost : q / 10 ^ 26 ≤ 1 / weights.sum := by
        rw [hq, div_div, mul_comm (weights.sum : ℚ), ← div_div]
        refine div_le_div_of_nonneg_right ?_ hs'.le
        rw [div_le_one (by norm_num)]
        have : ((total * w : ℤ) : ℚ) ≤ ((10 ^ 13 * 10 ^ 13 : ℤ) : ℚ) := by exact_mod_cast (by omega)
        push_cast at this
        linarith
      linarith
  have hfloor : ⌊share total weights.sum w⌋ ≤ w := by
    have := (Int.floor_le (share total weights.sum w)).trans hshare
    exact_mod_cast this
  rw [← hpart]
  split_ifs with hmem
  · -- who is rounded up has a share that is not whole
    have hpos := remainder_pos_of_mem_take ht (by omega) hw hs hmem
    have hget : weights.getD i 0 = w := by simp [List.getD_eq_getElem?_getD, hweight]
    rw [remainder, hget] at hpos
    have hne : ⌊share total weights.sum w⌋ ≠ w := by
      intro heq
      have := Int.floor_add_fract (share total weights.sum w)
      rw [heq] at this
      linarith
    omega
  · omega

end Laws

/-! ### The sum of the weights -/

section Close

variable {x : ℚ} {w : ℤ} (h : |x - w| ≤ 1 / 10 ^ 6)
include h

theorem floor_of_close : ⌊x⌋ = if x < w then w - 1 else w := by
  rw [abs_le] at h
  split_ifs with hlt
  · rw [Int.floor_eq_iff]
    push_cast
    constructor <;> linarith [h.1, h.2]
  · rw [Int.floor_eq_iff]
    constructor <;> linarith [h.1, h.2]

theorem fract_of_close : if x < w then 1 / 2 < Int.fract x else Int.fract x < 1 / 2 := by
  have hfloor := floor_of_close h
  rw [abs_le] at h
  rw [Int.fract]
  split_ifs with hlt
  · rw [hfloor, if_pos hlt]
    push_cast
    linarith [h.1]
  · rw [hfloor, if_neg hlt]
    linarith [h.2]

end Close

/-- The sum of the weights is spread as the weights: a share differs from its weight by less than one half, and those
    below their weight are the ones that are rounded up. -/
theorem allocate_self {weights : List ℤ} (hw : ∀ w ∈ weights, 0 ≤ w) (hsmall : weights.sum < 10 ^ 20) :
    allocate weights.sum weights = weights := by
  have hs0 : 0 ≤ weights.sum := List.sum_nonneg hw
  rcases hs0.eq_or_lt with h | hs
  · rw [allocate_eq_replicate (.inl h.symm)]
    refine List.ext_getElem (by simp) fun i h₁ h₂ => ?_
    have hle := List.single_le_sum hw _ (List.getElem_mem h₂)
    have hge := hw _ (List.getElem_mem h₂)
    simp only [List.getElem_replicate]
    omega
  set below : ℤ → Prop := fun w => share weights.sum weights.sum w < w with hbelow
  have hclose : ∀ w ∈ weights, |share weights.sum weights.sum w - w| ≤ 1 / 10 ^ 6 := by
    intro w hmem
    have hs' : (weights.sum : ℚ) ≠ 0 := by exact_mod_cast hs.ne'
    have hexact : exactShare weights.sum weights.sum w = w := mul_div_cancel_left₀ _ hs'
    have hle : (w : ℚ) ≤ 10 ^ 20 := by
      have := List.single_le_sum hw w hmem
      exact_mod_cast (this.trans hsmall.le)
    have h := abs_share_sub_le hs0 hs (hw w hmem)
    rw [hexact] at h
    linarith
  have hleft : leftover weights.sum weights = (weights.countP fun w => decide (below w) : ℕ) := by
    have hcount : ∀ ws : List ℤ, (∀ w ∈ ws, w ∈ weights) →
        (ws.map fun w => ⌊share weights.sum weights.sum w⌋).sum + (ws.countP fun w => decide (below w) : ℕ) = ws.sum := by
      intro ws
      induction ws with
      | nil => simp
      | cons w ws ih =>
        intro hws
        have htail := ih fun v hv => hws v (List.mem_cons_of_mem _ hv)
        have hfloor := floor_of_close (hclose w (hws w List.mem_cons_self))
        simp only [List.map_cons, List.sum_cons, List.countP_cons, hfloor]
        by_cases hb : share weights.sum weights.sum w < w
        · simp only [hbelow, hb, if_true, decide_true] at htail ⊢
          push_cast
          linarith
        · simp only [hbelow, hb, if_false, decide_false, Bool.false_eq_true] at htail ⊢
          push_cast
          linarith
    have h := hcount weights fun w hmem => hmem
    rw [leftover]
    omega
  refine List.ext_getElem? fun i => ?_
  rw [getElem?_allocate hs0 hsmall hw hs hs.ne']
  cases hi : weights[i]? with
  | none => rfl
  | some w =>
    have hilt : i < weights.length := (List.getElem?_eq_some_iff.mp hi).1
    have hfirst : ∀ j k, j < weights.length → k < weights.length → below (weights.getD j 0) →
        ¬below (weights.getD k 0) → Ranked (remainder weights.sum weights) j k := by
      intro j k hj hk hbj hbk
      have h₁ := fract_of_close (hclose _ (getD_mem hj))
      have h₂ := fract_of_close (hclose _ (getD_mem hk))
      rw [if_pos hbj] at h₁
      rw [if_neg hbk] at h₂
      exact .inl (h₂.trans h₁)
    have hk : (leftover weights.sum weights).toNat
        = (List.range weights.length).countP fun j => decide (below (weights.getD j 0)) := by
      rw [hleft, Int.toNat_natCast, countP_range weights 0 fun w => decide (below w)]
    have hget : weights.getD i 0 = w := by simp [List.getD_eq_getElem?_getD, hi]
    have hmem : i ∈ (ranking (remainder weights.sum weights) weights.length).take (leftover weights.sum weights).toNat
        ↔ below w := by
      constructor
      · intro h
        have := forall_take_ranking hfirst hk.le i h
        rwa [hget] at this
      · intro h
        exact mem_take_ranking hfirst hk.ge hilt (by rwa [hget])
    simp only [Option.map_some, hmem, floor_of_close (hclose w (List.mem_of_getElem? hi))]
    by_cases hb : share weights.sum weights.sum w < w
    · simp [hbelow, hb]
    · simp [hbelow, hb]

end NovaCart
