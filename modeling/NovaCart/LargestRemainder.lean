import NovaCart.Allocation

/-! `allocate` against the largest-remainder method with exact remainders.

    Below 10^13 the product of a share has all its digits and only the quotient is rounded. Its whole part is the exact
    one, and two different remainders stay in their order. Equal remainders need not stay equal: a quotient with more
    digits before its point keeps fewer behind it. -/

namespace NovaCart

open Schemes

/-! ### Quotients of whole numbers -/

/-- The fractional part of a quotient, to the digits that are left behind its point. -/
def roundedRemainder (q : ℚ) : ℚ :=
  let e : ℤ := 27 - Int.log 10 |q|
  roundEven (Int.fract q * 10 ^ e) / 10 ^ e

theorem roundEven_add_even (m : ℤ) (q : ℚ) : roundEven ((2 * m : ℤ) + q) = 2 * m + roundEven q := by
  have hfloor : ⌊((2 * m : ℤ) : ℚ) + q⌋ = 2 * m + ⌊q⌋ := Int.floor_intCast_add _ _
  have hfract : ((2 * m : ℤ) : ℚ) + q - ((2 * m + ⌊q⌋ : ℤ) : ℚ) = q - ⌊q⌋ := by
    push_cast
    ring
  have hparity : (2 * m + ⌊q⌋) % 2 = ⌊q⌋ % 2 := by omega
  simp only [roundEven, hfloor, hfract, hparity]
  split_ifs <;> ring

section Quotient

variable {a b s : ℤ}

theorem fract_intCast_div (hs : 0 < s) (a : ℤ) : Int.fract (a / s : ℚ) = (a % s : ℤ) / s := by
  obtain ⟨d, rfl⟩ := Int.eq_ofNat_of_zero_le hs.le
  exact Int.fract_div_intCast_eq_div_intCast_mod

/-- Two different remainders differ by at least one part of the divisor. -/
theorem fract_div_gap (hs : 0 < s) (h : Int.fract (a / s : ℚ) < Int.fract (b / s : ℚ)) :
    Int.fract (a / s : ℚ) + 1 / s ≤ Int.fract (b / s : ℚ) := by
  have hs' : (0 : ℚ) < s := by exact_mod_cast hs
  rw [fract_intCast_div hs, fract_intCast_div hs] at h ⊢
  have hlt : a % s < b % s := by exact_mod_cast (div_lt_div_iff_of_pos_right hs').mp h
  rw [← add_div]
  exact div_le_div_of_nonneg_right (by exact_mod_cast (by omega : a % s + 1 ≤ b % s)) hs'.le

/-- A remainder stays as far below one. -/
theorem fract_div_le (hs : 0 < s) (a : ℤ) : Int.fract (a / s : ℚ) + 1 / s ≤ 1 := by
  have hs' : (0 : ℚ) < s := by exact_mod_cast hs
  have hhigh := Int.emod_lt_of_pos a hs
  rw [fract_intCast_div hs, ← add_div, div_le_one hs']
  exact_mod_cast (by omega : a % s + 1 ≤ s)

/-- A positive remainder is at least one part. -/
theorem le_fract_div (hs : 0 < s) (h : 0 < Int.fract (a / s : ℚ)) : 1 / (s : ℚ) ≤ Int.fract (a / s : ℚ) := by
  have hzero : Int.fract ((0 : ℤ) / s : ℚ) = 0 := by simp
  have := fract_div_gap (a := 0) (b := a) hs (by rwa [hzero])
  rwa [hzero, zero_add] at this

end Quotient

/-! ### Shares below 10^13 -/

section Share

variable {total weightSum w : ℤ} (ht : 0 ≤ total) (ht13 : total < 10 ^ 13) (hs : 0 < weightSum)
  (hs13 : weightSum < 10 ^ 13) (hw : 0 ≤ w) (hle : w ≤ weightSum)

theorem exactShare_eq_div (total weightSum w : ℤ) :
    exactShare total weightSum w = ((total * w : ℤ) : ℚ) / weightSum := by
  rw [exactShare]
  push_cast
  rfl

include ht ht13 hs hle

theorem exactShare_lt : exactShare total weightSum w < 10 ^ 13 := by
  have hs' : (0 : ℚ) < weightSum := by exact_mod_cast hs
  rw [exactShare_eq_div, div_lt_iff₀ hs']
  have hprod : total * w ≤ total * weightSum := mul_le_mul_of_nonneg_left hle ht
  have hlt : total * weightSum < 10 ^ 13 * weightSum := mul_lt_mul_of_pos_right ht13 hs
  exact_mod_cast lt_of_le_of_lt hprod hlt

include hs13 hw

omit hs in
/-- Only the quotient is rounded. -/
theorem share_eq_toDigits : share total weightSum w = toDigits 28 (exactShare total weightSum w) := by
  have hprod0 : 0 ≤ total * w := mul_nonneg ht hw
  have hprod : total * w ≤ 10 ^ 13 * 10 ^ 13 := mul_le_mul ht13.le (hle.trans hs13.le) hw (by norm_num)
  rw [share, decMul_intCast (by rw [abs_of_nonneg hprod0]; omega), decDiv, exactShare_eq_div]

theorem abs_share_sub_lt :
    |share total weightSum w - exactShare total weightSum w| < 1 / (4 * weightSum) := by
  have hs' : (0 : ℚ) < weightSum := by exact_mod_cast hs
  have hs13' : (weightSum : ℚ) < 10 ^ 13 := by exact_mod_cast hs13
  have hnonneg : 0 ≤ exactShare total weightSum w :=
    div_nonneg (mul_nonneg (by exact_mod_cast ht) (by exact_mod_cast hw)) hs'.le
  have hlt := exactShare_lt ht ht13 hs hle
  have hlost := abs_toDigits_sub_le 27 (exactShare total weightSum w)
  rw [abs_of_nonneg hnonneg] at hlost
  rw [share_eq_toDigits ht ht13 hs13 hw hle]
  calc |toDigits 28 (exactShare total weightSum w) - exactShare total weightSum w|
      ≤ exactShare total weightSum w / (2 * 10 ^ 27) := hlost
    _ < 1 / (4 * 10 ^ 13) := by
      rw [div_lt_div_iff₀ (by positivity) (by positivity)]
      linarith
    _ < 1 / (4 * weightSum) := one_div_lt_one_div_of_lt (by linarith) (by linarith)

/-- The whole part of a share is that of the exact one. -/
theorem floor_share : ⌊share total weightSum w⌋ = ⌊exactShare total weightSum w⌋ := by
  have hs' : (0 : ℚ) < weightSum := by exact_mod_cast hs
  have hfloor := Int.floor_add_fract (exactShare total weightSum w)
  have hclose := abs_lt.mp (abs_share_sub_lt ht ht13 hs hs13 hw hle)
  have hquarter : 1 / (4 * weightSum : ℚ) = 1 / weightSum / 4 := by
    field_simp
  have hpart : (0 : ℚ) < 1 / weightSum := by positivity
  rcases (Int.fract_nonneg (exactShare total weightSum w)).eq_or_lt with hzero | hpos
  · -- a whole share is exact
    have hwhole : exactShare total weightSum w = ⌊exactShare total weightSum w⌋ := by linarith
    have hprod0 : 0 ≤ total * w := mul_nonneg ht hw
    have hprod : total * w ≤ 10 ^ 13 * 10 ^ 13 := mul_le_mul ht13.le (hle.trans hs13.le) hw (by norm_num)
    have heq : total * w = ⌊exactShare total weightSum w⌋ * weightSum := by
      have h := hwhole
      rw [exactShare_eq_div, div_eq_iff hs'.ne'] at h
      rw [exactShare_eq_div]
      exact_mod_cast h
    have hfloor0 : 0 ≤ ⌊exactShare total weightSum w⌋ :=
      Int.floor_nonneg.mpr (div_nonneg (mul_nonneg (by exact_mod_cast ht) (by exact_mod_cast hw)) hs'.le)
    have hfloor13 : ⌊exactShare total weightSum w⌋ < 10 ^ 13 :=
      Int.floor_lt.mpr (by exact_mod_cast exactShare_lt ht ht13 hs hle)
    rw [share_eq hs heq (by rw [abs_of_nonneg hprod0]; omega) (by rw [abs_of_nonneg hfloor0]; omega), Int.floor_intCast]
  · have hlow : 1 / (weightSum : ℚ) ≤ Int.fract (exactShare total weightSum w) := by
      rw [exactShare_eq_div] at hpos ⊢
      exact le_fract_div hs hpos
    have hhigh : Int.fract (exactShare total weightSum w) + 1 / weightSum ≤ 1 := by
      rw [exactShare_eq_div]
      exact fract_div_le hs _
    rw [Int.floor_eq_iff]
    constructor <;> linarith [hclose.1, hclose.2]

theorem abs_fract_share_sub_lt :
    |Int.fract (share total weightSum w) - Int.fract (exactShare total weightSum w)| < 1 / (4 * weightSum) := by
  have h := abs_share_sub_lt ht ht13 hs hs13 hw hle
  rwa [Int.fract, Int.fract, floor_share ht ht13 hs hs13 hw hle, sub_sub_sub_cancel_right]

/-- The decimal remainder is the exact one rounded to the digits that the quotient leaves for it. -/
theorem fract_share :
    Int.fract (share total weightSum w) = roundedRemainder (exactShare total weightSum w) := by
  set q := exactShare total weightSum w with hq
  have hq0 : 0 ≤ q :=
    div_nonneg (mul_nonneg (by exact_mod_cast ht) (by exact_mod_cast hw)) (by exact_mod_cast hs.le)
  have hq13 : q < 10 ^ 13 := exactShare_lt ht ht13 hs hle
  have hlog : Int.log 10 |q| ≤ 12 := by
    rw [abs_of_nonneg hq0]
    rcases hq0.eq_or_lt with hzero | hpos
    · rw [← hzero]
      simp
    · have hpow : ((10 : ℕ) : ℚ) ^ Int.log 10 q ≤ q := Int.zpow_log_le_self (by norm_num) hpos
      have hlt : (10 : ℚ) ^ Int.log 10 q < 10 ^ (13 : ℤ) := by
        refine lt_of_le_of_lt (by exact_mod_cast hpow) ?_
        exact_mod_cast hq13
      have := (zpow_lt_zpow_iff_right₀ (by norm_num : (1 : ℚ) < 10)).mp hlt
      omega
  -- the digits behind the point are at least fifteen, so what stands before it is moved to an even number
  obtain ⟨d, hd⟩ := Int.eq_ofNat_of_zero_le (by omega : 0 ≤ 26 - Int.log 10 |q|)
  have he : 27 - Int.log 10 |q| = ((d + 1 : ℕ) : ℤ) := by omega
  have hsplit : q * 10 ^ (d + 1) = ((2 * (5 * ⌊q⌋ * 10 ^ d) : ℤ) : ℚ) + Int.fract q * 10 ^ (d + 1) := by
    conv_lhs => rw [← Int.floor_add_fract q]
    push_cast
    ring
  have hunit : (0 : ℚ) < 10 ^ (d + 1) := by positivity
  rw [Int.fract, floor_share ht ht13 hs hs13 hw hle, share_eq_toDigits ht ht13 hs13 hw hle, ← hq, toDigits,
    roundedRemainder]
  have he' : ((28 : ℕ) : ℤ) - 1 - Int.log 10 |q| = ((d + 1 : ℕ) : ℤ) := by omega
  rw [he, he', zpow_natCast, hsplit, roundEven_add_even, sub_eq_iff_eq_add, div_add' _ _ _ hunit.ne']
  push_cast
  ring

end Share

/-! ### The parts below 10^13 -/

/-- The largest-remainder method: who is rounded up has one of the largest exact remainders, the first of equal ones
    before the others. -/
def exactRemainder (total : ℤ) (weights : List ℤ) (i : ℕ) : ℚ :=
  Int.fract (exactShare total weights.sum (weights.getD i 0))

def exactFloors (total : ℤ) (weights : List ℤ) : List ℤ := weights.map fun w => ⌊exactShare total weights.sum w⌋

/-- The positions that it rounds up. -/
def roundedUp (total : ℤ) (weights : List ℤ) : List ℕ :=
  (ranking (exactRemainder total weights) weights.length).take (total - (exactFloors total weights).sum).toNat

def largestRemainder (total : ℤ) (weights : List ℤ) : List ℤ :=
  raiseAt (roundedUp total weights) (exactFloors total weights)

/-- Where the method stops between two equal remainders, the earlier one is not smaller after it has been rounded to the
    digits of its quotient. -/
def TiesKept (total : ℤ) (weights : List ℤ) : Prop :=
  ∀ i j, i < j → j < weights.length → exactRemainder total weights i = exactRemainder total weights j →
    i ∈ roundedUp total weights → j ∉ roundedUp total weights →
    roundedRemainder (exactShare total weights.sum (weights.getD j 0))
      ≤ roundedRemainder (exactShare total weights.sum (weights.getD i 0))

section Parts

variable {total : ℤ} {weights : List ℤ} (ht : 0 ≤ total) (ht13 : total < 10 ^ 13) (hw : ∀ w ∈ weights, 0 ≤ w)
  (hs : 0 < weights.sum) (hs13 : weights.sum < 10 ^ 13)
include ht ht13 hw hs hs13

theorem floors_eq : (weights.map fun w => ⌊share total weights.sum w⌋) = exactFloors total weights :=
  List.map_congr_left fun w hmem => floor_share ht ht13 hs hs13 (hw w hmem) (List.single_le_sum hw w hmem)

theorem leftover_eq : leftover total weights = total - (exactFloors total weights).sum := by
  rw [leftover, floors_eq ht ht13 hw hs hs13]

/-- What is left over is less than one for each weight. -/
theorem leftover_lt_length : leftover total weights < weights.length := by
  have hsum := sum_exactShare total hs
  have hlt : ∀ ws : List ℤ, ws ≠ [] → (ws.map (exactShare total weights.sum)).sum
      < (((ws.map fun w => ⌊exactShare total weights.sum w⌋).sum + ws.length : ℤ) : ℚ) := by
    intro ws hne
    induction ws with
    | nil => exact absurd rfl hne
    | cons w ws ih =>
      have hhead := Int.lt_floor_add_one (exactShare total weights.sum w)
      rcases eq_or_ne ws [] with rfl | hrest
      · simp
      · have htail := ih hrest
        simp only [List.map_cons, List.sum_cons, List.length_cons]
        push_cast at htail ⊢
        linarith
  have hne : weights ≠ [] := by
    rintro rfl
    simp at hs
  have h := hlt weights hne
  rw [hsum] at h
  rw [leftover_eq ht ht13 hw hs hs13]
  have : total < (exactFloors total weights).sum + weights.length := by exact_mod_cast h
  omega

/-- Different remainders keep their order. -/
theorem remainder_lt {i j : ℕ} (hi : i < weights.length) (hj : j < weights.length)
    (h : exactRemainder total weights i < exactRemainder total weights j) :
    remainder total weights i < remainder total weights j := by
  have hclose : ∀ k < weights.length, |remainder total weights k - exactRemainder total weights k|
      < 1 / (4 * weights.sum) := by
    intro k hk
    exact abs_fract_share_sub_lt ht ht13 hs hs13 (hw _ (getD_mem hk)) (List.single_le_sum hw _ (getD_mem hk))
  have hi' := abs_lt.mp (hclose i hi)
  have hj' := abs_lt.mp (hclose j hj)
  have hgap : exactRemainder total weights i + 1 / weights.sum ≤ exactRemainder total weights j := by
    rw [exactRemainder, exactRemainder, exactShare_eq_div, exactShare_eq_div] at h ⊢
    exact fract_div_gap hs h
  have hs' : (0 : ℚ) < weights.sum := by exact_mod_cast hs
  have hquarter : 1 / (4 * weights.sum : ℚ) = 1 / weights.sum / 4 := by
    field_simp
  have hpart : (0 : ℚ) < 1 / weights.sum := by positivity
  linarith [hi'.1, hi'.2, hj'.1, hj'.2]

/-- A part is the exact share rounded down, and one more where the decimal remainders come first. -/
theorem getElem?_allocate_exact (h0 : total ≠ 0) (i : ℕ) :
    (allocate total weights)[i]? = weights[i]?.map fun w =>
      ⌊exactShare total weights.sum w⌋
        + if i ∈ (ranking (remainder total weights) weights.length).take (leftover total weights).toNat then 1 else 0 := by
  rw [getElem?_allocate ht (by omega) hw hs h0]
  cases hi : weights[i]? with
  | none => rfl
  | some w =>
    have hmem := List.mem_of_getElem? hi
    simp only [Option.map_some, floor_share ht ht13 hs hs13 (hw w hmem) (List.single_le_sum hw w hmem)]

/-- Who is rounded up has a share that is not whole. -/
theorem fract_pos_of_raised {i : ℕ} {w : ℤ} (hweight : weights[i]? = some w)
    (hmem : i ∈ (ranking (remainder total weights) weights.length).take (leftover total weights).toNat) :
    0 < Int.fract (exactShare total weights.sum w) := by
  have hget : weights.getD i 0 = w := by simp [List.getD_eq_getElem?_getD, hweight]
  have hpos := remainder_pos_of_mem_take ht (by omega) hw hs hmem
  refine lt_of_le_of_ne (Int.fract_nonneg _) fun hzero => ?_
  rw [remainder, hget, fract_share ht ht13 hs hs13 (hw w (List.mem_of_getElem? hweight))
    (List.single_le_sum hw w (List.mem_of_getElem? hweight)), roundedRemainder, ← hzero] at hpos
  simp [roundEven] at hpos

/-- What `allocate` promises for every split: whole parts that add up to the total, each less than one from its exact
    share, nothing for a weight of zero, and no more than the weight when the total is within the sum of the weights. -/
theorem allocate_splits :
    (allocate total weights).length = weights.length ∧ (∀ part ∈ allocate total weights, 0 ≤ part) ∧
      (allocate total weights).sum = total ∧ 0 ≤ leftover total weights ∧ leftover total weights < weights.length ∧
      ∀ (i : ℕ) (part w : ℤ), (allocate total weights)[i]? = some part → weights[i]? = some w →
        |(part : ℚ) - exactShare total weights.sum w| < 1 ∧ (w = 0 → part = 0) ∧ (total ≤ weights.sum → part ≤ w) := by
  refine ⟨length_allocate total weights, allocate_nonneg ht hw, sum_allocate_of_pos ht (by omega) hw hs,
    (leftover_bounds ht (by omega) hw hs).1, leftover_lt_length ht ht13 hw hs hs13, ?_⟩
  intro i part w hpart hweight
  refine ⟨?_, ?_, fun hle => allocate_le ht hw hle hs13 hpart hweight⟩
  · have hfloor := Int.floor_add_fract (exactShare total weights.sum w)
    have hlow := Int.fract_nonneg (exactShare total weights.sum w)
    have hhigh := Int.fract_lt_one (exactShare total weights.sum w)
    rcases eq_or_ne total 0 with rfl | h0
    · rw [allocate_eq_replicate (.inl rfl)] at hpart
      rw [List.eq_of_mem_replicate (List.mem_of_getElem? hpart), exactShare]
      simp
    rw [getElem?_allocate_exact ht ht13 hw hs hs13 h0, hweight, Option.map_some, Option.some.injEq] at hpart
    rw [← hpart, abs_lt]
    split_ifs with hmem
    · have hpos := fract_pos_of_raised ht ht13 hw hs hs13 hweight hmem
      push_cast
      constructor <;> linarith
    · push_cast
      constructor <;> linarith
  · rintro rfl
    rcases eq_or_ne total 0 with rfl | h0
    · rw [allocate_eq_replicate (.inl rfl)] at hpart
      exact List.eq_of_mem_replicate (List.mem_of_getElem? hpart)
    rw [getElem?_allocate_exact ht ht13 hw hs hs13 h0, hweight, Option.map_some, Option.some.injEq] at hpart
    have hzero : exactShare total weights.sum 0 = 0 := by simp [exactShare]
    rw [← hpart, if_neg]
    · simp [hzero]
    · intro hmem
      have hpos := fract_pos_of_raised ht ht13 hw hs hs13 hweight hmem
      rw [hzero, Int.fract_zero] at hpos
      exact hpos.false

/-- The two methods round up the same positions exactly when their results are equal. -/
theorem allocate_eq_iff_mem (h0 : total ≠ 0) :
    allocate total weights = largestRemainder total weights ↔
      ∀ i < weights.length,
        i ∈ (ranking (remainder total weights) weights.length).take (leftover total weights).toNat ↔
          i ∈ roundedUp total weights := by
  have hnodup : (roundedUp total weights).Nodup := nodup_take_ranking _
  have hparts : ∀ i : ℕ, (largestRemainder total weights)[i]? = weights[i]?.map fun w =>
      ⌊exactShare total weights.sum w⌋ + if i ∈ roundedUp total weights then 1 else 0 := by
    intro i
    rw [largestRemainder, getElem?_raiseAt_nodup hnodup, exactFloors, List.getElem?_map, Option.map_map]
    rfl
  rw [List.ext_getElem?_iff]
  refine ⟨fun h i hi => ?_, fun h i => ?_⟩
  · have hget : weights[i]? = some weights[i] := List.getElem?_eq_getElem hi
    have hi' := h i
    rw [getElem?_allocate_exact ht ht13 hw hs hs13 h0, hparts, hget] at hi'
    simp only [Option.map_some, Option.some.injEq, add_right_inj] at hi'
    split_ifs at hi' with hin hin'
    · exact iff_of_true hin hin'
    · exact absurd hi' (by norm_num)
    · exact absurd hi' (by norm_num)
    · exact iff_of_false hin ‹_›
  · rw [getElem?_allocate_exact ht ht13 hw hs hs13 h0, hparts]
    cases hget : weights[i]? with
    | none => rfl
    | some w =>
      have hi := (List.getElem?_eq_some_iff.mp hget).1
      simp only [Option.map_some, h i hi]

/-- `allocate` is the largest-remainder method exactly where no tie is broken by the rounding. -/
theorem allocate_eq_largestRemainder_iff :
    allocate total weights = largestRemainder total weights ↔ TiesKept total weights := by
  have hround : ∀ k < weights.length,
      remainder total weights k = roundedRemainder (exactShare total weights.sum (weights.getD k 0)) := fun k hk =>
    fract_share ht ht13 hs hs13 (hw _ (getD_mem hk)) (List.single_le_sum hw _ (getD_mem hk))
  rcases eq_or_ne total 0 with rfl | h0
  · have hfloors : exactFloors 0 weights = List.replicate weights.length 0 := by
      simp [exactFloors, exactShare]
    have hnone : roundedUp 0 weights = [] := by simp [roundedUp, hfloors]
    refine iff_of_true ?_ fun i j _ _ _ hi _ => ?_
    · rw [allocate_eq_replicate (.inl rfl), largestRemainder, hnone, hfloors, raiseAt_nil]
    · rw [hnone] at hi
      exact absurd hi List.not_mem_nil
  rw [allocate_eq_iff_mem ht ht13 hw hs hs13 h0, leftover_eq ht ht13 hw hs hs13, roundedUp,
    take_ranking_iff (fun i j hi hj => remainder_lt ht ht13 hw hs hs13 hi hj)]
  refine forall_congr' fun i => forall_congr' fun j => forall_congr' fun hij => forall_congr' fun hj => ?_
  rw [hround j hj, hround i (hij.trans hj)]
  rfl

end Parts

/-- 4/3 keeps one digit less behind its point than 1/3. -/
theorem not_allocate_eq_largestRemainder :
    ¬∀ (total : ℤ) (weights : List ℤ), 0 ≤ total → total < 10 ^ 13 → (∀ w ∈ weights, 0 ≤ w) → 0 < weights.sum →
      weights.sum < 10 ^ 13 → allocate total weights = largestRemainder total weights := fun h =>
  absurd (h 2 [4, 1, 1] (by decide) (by decide) (by decide) (by decide) (by decide)) (by decide +kernel)

theorem allocate_eq_largestRemainder_iff_thirds :
    (allocate 7 [1, 1, 1] = largestRemainder 7 [1, 1, 1] ↔ TiesKept 7 [1, 1, 1]) ∧
      largestRemainder 7 [1, 1, 1] = [3, 2, 2] :=
  ⟨allocate_eq_largestRemainder_iff (by decide) (by decide) (by decide) (by decide) (by decide), by decide +kernel⟩

theorem allocate_splits_thirds : (allocate 7 [1, 1, 1]).sum = 7 ∧ leftover 7 [1, 1, 1] < 3 :=
  have h := @allocate_splits 7 [1, 1, 1] (by decide) (by decide) (by decide) (by decide) (by decide)
  ⟨h.2.2.1, h.2.2.2.2.1⟩

end NovaCart
