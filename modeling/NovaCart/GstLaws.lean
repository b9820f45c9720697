import Mathlib.Algebra.Order.BigOperators.Group.Finset
import Mathlib.Algebra.BigOperators.Group.Finset.Sigma
import NovaCart.Allocation

/-! What `calculate` returns: what each line carries, what the totals add up to, and how much is rounded off.

    A slab is rounded at most three times, the taxable value and the two halves of the tax, so with a rate below 100 %
    it is off by less than two paise, and by at most one. Under `lineHalfUp` each line is a slab of its own; under
    `invoiceHalfUp` the lines of a slab share what the slab is off by. -/

namespace NovaCart

open Schemes

/-! ### One slab -/

@[simp] theorem taxOn_zero_rate (value : ℤ) : taxOn value ⟨0⟩ = 0 := by
  simp [taxOn, halfUp, Rate.percent]

@[simp] theorem taxOn_zero (r : Rate) : taxOn 0 r = 0 := by
  simp [taxOn, halfUp]

@[simp] theorem taxableOf_zero (r : Rates) : taxableOf 0 r = 0 := by
  simp [taxableOf, halfUp]

theorem Rate.percent_nonneg (r : Rate) : 0 ≤ r.percent := div_nonneg (Nat.cast_nonneg _) (by norm_num)

theorem Rates.total_eq (r : Rates) :
    r.total = ((r.cgst.thousandths + r.sgst.thousandths + r.igst.thousandths : ℕ) : ℚ) / 10 ^ 3 := by
  simp only [Rates.total, Rate.percent]
  push_cast
  ring

theorem Rates.total_nonneg (r : Rates) : 0 ≤ r.total := by
  rw [r.total_eq]
  positivity

theorem Rates.total_lt_iff (r : Rates) :
    r.total < 100 ↔ r.cgst.thousandths + r.sgst.thousandths + r.igst.thousandths < 10 ^ 5 := by
  rw [r.total_eq, div_lt_iff₀ (by norm_num)]
  constructor
  · intro h
    have : ((r.cgst.thousandths + r.sgst.thousandths + r.igst.thousandths : ℕ) : ℚ) < ((10 ^ 5 : ℕ) : ℚ) := by
      push_cast
      push_cast at h
      linarith
    exact_mod_cast this
  · intro h
    have : ((r.cgst.thousandths + r.sgst.thousandths + r.igst.thousandths : ℕ) : ℚ) < ((10 ^ 5 : ℕ) : ℚ) := by
      exact_mod_cast h
    push_cast at this ⊢
    linarith

/-- Within the state there is no IGST, and between states nothing else. -/
def Rates.OneSided (r : Rates) : Prop := r.igst = ⟨0⟩ ∨ r.cgst = ⟨0⟩ ∧ r.sgst = ⟨0⟩

theorem CalcLine.rates_oneSided (line : CalcLine) (intraState : Bool) : (line.rates intraState).OneSided := by
  unfold CalcLine.rates Rates.OneSided
  split_ifs <;> simp

theorem CalcLine.rates_total_of_ne {line : CalcLine} (h : line.treatment ≠ .taxable) (intraState : Bool) :
    (line.rates intraState).total = 0 := by
  simp [CalcLine.rates, h, Rates.total, Rate.percent]

section Slab

variable {value : ℤ} {r : Rates} {mode : PricingMode}

theorem taxOn_nonneg (h : 0 ≤ value) (r : Rate) : 0 ≤ taxOn value r :=
  roundHalfUp_nonneg (decDiv_nonneg (decMul_nonneg (by exact_mod_cast h) r.percent_nonneg) (by norm_num))

theorem taxableOf_nonneg (h : 0 ≤ value) (r : Rates) : 0 ≤ taxableOf value r :=
  roundHalfUp_nonneg (decDiv_nonneg (decMul_nonneg (by exact_mod_cast h) (by norm_num))
    (by linarith [r.total_nonneg]))

/-- No amount of the slab is negative. -/
theorem slabTax_nonneg (h : 0 ≤ value) (r : Rates) (mode : PricingMode) :
    0 ≤ (slabTax value r mode).taxable ∧ 0 ≤ (slabTax value r mode).cgst
      ∧ 0 ≤ (slabTax value r mode).sgst ∧ 0 ≤ (slabTax value r mode).igst := by
  unfold slabTax
  split_ifs
  · simp [h]
  · cases mode with
    | exclusive => exact ⟨h, taxOn_nonneg h _, taxOn_nonneg h _, taxOn_nonneg h _⟩
    | inclusive =>
      have ht := taxableOf_nonneg h r
      exact ⟨ht, taxOn_nonneg ht _, taxOn_nonneg ht _, taxOn_nonneg ht _⟩

theorem slabTax_of_total_eq_zero (h : r.total = 0) : slabTax value r mode = ⟨value, 0, 0, 0⟩ := if_pos h

@[simp] theorem slabTax_exclusive_taxable (value : ℤ) (r : Rates) : (slabTax value r .exclusive).taxable = value := by
  unfold slabTax
  split_ifs <;> rfl

@[simp] theorem slabTax_zero (r : Rates) (mode : PricingMode) : slabTax 0 r mode = ⟨0, 0, 0, 0⟩ := by
  unfold slabTax
  split_ifs
  · rfl
  · cases mode <;> simp

/-- The two halves are worked out alike. -/
theorem slabTax_cgst_eq (h : r.cgst = r.sgst) : (slabTax value r mode).cgst = (slabTax value r mode).sgst := by
  unfold slabTax
  split_ifs
  · rfl
  · cases mode <;> simp [h]

/-- Where no rate is set nothing is charged. -/
theorem slabTax_cgst_zero (h : r.cgst = ⟨0⟩) : (slabTax value r mode).cgst = 0 := by
  unfold slabTax
  split_ifs
  · rfl
  · cases mode <;> simp [h]

theorem slabTax_igst_zero (h : r.igst = ⟨0⟩) : (slabTax value r mode).igst = 0 := by
  unfold slabTax
  split_ifs
  · rfl
  · cases mode <;> simp [h]

/-- A rate of a value is exact before it is rounded. -/
theorem abs_taxOn_sub_le (h : 0 ≤ value) (hsmall : value < 10 ^ 21) {r : Rate} (hr : r.thousandths < 10 ^ 5) :
    |(taxOn value r : ℚ) - value * r.thousandths / 10 ^ 5| ≤ 1 / 2 := by
  have hproduct : |value * (r.thousandths : ℤ)| < 10 ^ 28 := by
    rw [abs_of_nonneg (mul_nonneg h (by omega))]
    nlinarith
  have hmul : decMul value r.percent = ((value * (r.thousandths : ℤ) : ℤ) : ℚ) / 10 ^ 3 := by
    rw [← toDigits_eq 3 hproduct, decMul, Rate.percent]
    congr 1
    push_cast
    ring
  have hdiv : decDiv (decMul value r.percent) 100 = ((value * (r.thousandths : ℤ) : ℤ) : ℚ) / 10 ^ 5 := by
    rw [← toDigits_eq 5 hproduct, decDiv, hmul]
    congr 1
    ring
  have hround := abs_roundHalfUp_sub_le (decDiv (decMul value r.percent) 100)
  rw [hdiv] at hround
  rw [taxOn, halfUp, hdiv]
  push_cast at hround ⊢
  exact hround

/-- A tax at a rate below 100 % is no more than what it is on. -/
theorem taxOn_le (h : 0 ≤ value) (hsmall : value < 10 ^ 21) {r : Rate} (hr : r.thousandths < 10 ^ 5) :
    taxOn value r ≤ value := by
  have hnear := (abs_le.mp (abs_taxOn_sub_le h hsmall hr)).2
  have hpart : (value * r.thousandths / 10 ^ 5 : ℚ) ≤ value := by
    have h' : (0 : ℚ) ≤ value := by exact_mod_cast h
    have hr' : (r.thousandths : ℚ) ≤ 10 ^ 5 := by exact_mod_cast hr.le
    rw [div_le_iff₀ (by norm_num)]
    exact mul_le_mul_of_nonneg_left hr' h'
  have hlt : (taxOn value r : ℚ) < ((value + 1 : ℤ) : ℚ) := by
    push_cast
    linarith
  have : taxOn value r < value + 1 := by exact_mod_cast hlt
  omega

/-- The taxable value is rounded from the exact quotient, but for the digits that are lost. -/
theorem abs_taxableOf_sub_le (h : 0 ≤ value) (hsmall : value < 10 ^ 20) (r : Rates) :
    |(taxableOf value r : ℚ) - value * 100 / (100 + r.total)| ≤ 1 / 2 + 1 / 10 ^ 7 := by
  have h' : (0 : ℚ) ≤ value := by exact_mod_cast h
  have ht := r.total_nonneg
  have hmul : decMul value 100 = value * 100 := by
    have := decMul_intCast (a := value) (b := 100) (by
      rw [abs_of_nonneg (by omega)]
      omega)
    push_cast at this
    exact this
  have hq0 : (0 : ℚ) ≤ value * 100 / (100 + r.total) := div_nonneg (by linarith) (by linarith)
  have hq : (value * 100 / (100 + r.total) : ℚ) ≤ 10 ^ 20 := by
    have hv : (value : ℚ) ≤ 10 ^ 20 := by exact_mod_cast hsmall.le
    rw [div_le_iff₀ (by linarith)]
    nlinarith
  have hlost := abs_decDiv_sub_le (value * 100) (100 + r.total)
  rw [abs_of_nonneg hq0] at hlost
  have hround := abs_roundHalfUp_sub_le (decDiv (decMul value 100) (100 + r.total))
  rw [hmul] at hround
  rw [taxableOf, halfUp, hmul]
  rw [abs_le] at hlost hround ⊢
  constructor <;> linarith [hlost.1, hlost.2, hround.1, hround.2]

theorem taxableOf_le (h : 0 ≤ value) (hsmall : value < 10 ^ 20) (r : Rates) : taxableOf value r ≤ value := by
  have h' : (0 : ℚ) ≤ value := by exact_mod_cast h
  have ht := r.total_nonneg
  have hnear := (abs_le.mp (abs_taxableOf_sub_le h hsmall r)).2
  have hq : (value * 100 / (100 + r.total) : ℚ) ≤ value := by
    rw [div_le_iff₀ (by linarith)]
    nlinarith
  have hlt : (taxableOf value r : ℚ) < ((value + 1 : ℤ) : ℚ) := by
    push_cast
    linarith
  have : taxableOf value r < value + 1 := by exact_mod_cast hlt
  omega

/-- No amount of the slab is more than its value. -/
theorem slabTax_le (h : 0 ≤ value) (hsmall : value < 10 ^ 20) (hr : r.total < 100) (mode : PricingMode) :
    (slabTax value r mode).taxable ≤ value ∧ (slabTax value r mode).cgst ≤ value
      ∧ (slabTax value r mode).sgst ≤ value ∧ (slabTax value r mode).igst ≤ value := by
  rw [r.total_lt_iff] at hr
  have hon : ∀ base : ℤ, 0 ≤ base → base ≤ value →
      taxOn base r.cgst ≤ value ∧ taxOn base r.sgst ≤ value ∧ taxOn base r.igst ≤ value := by
    intro base hbase hle
    refine ⟨?_, ?_, ?_⟩ <;> refine (taxOn_le hbase (by omega) (by omega)).trans hle
  unfold slabTax
  split_ifs
  · simp [h]
  · cases mode with
    | exclusive => exact ⟨le_refl _, hon value h le_rfl⟩
    | inclusive => exact ⟨taxableOf_le h hsmall r, hon _ (taxableOf_nonneg h r) (taxableOf_le h hsmall r)⟩

/-- What an inclusive slab is off by: at most one paisa. -/
theorem abs_roundOff_le (h : 0 ≤ value) (hsmall : value < 10 ^ 20) (hr : r.total < 100) (hone : r.OneSided) :
    |value - (slabTax value r .inclusive).taxable - (slabTax value r .inclusive).cgst
      - (slabTax value r .inclusive).sgst - (slabTax value r .inclusive).igst| ≤ 1 := by
  by_cases h0 : r.total = 0
  · rw [slabTax_of_total_eq_zero h0]
    simp
  rw [slabTax, if_neg h0]
  simp only []
  set taxable := taxableOf value r with htaxable
  have hbelow := r.total_lt_iff.mp hr
  have hnear := abs_taxableOf_sub_le h hsmall r
  have hon : ∀ rate : Rate, rate.thousandths < 10 ^ 5 →
      |(taxOn taxable rate : ℚ) - taxable * rate.thousandths / 10 ^ 5| ≤ 1 / 2 := fun rate hrate =>
    abs_taxOn_sub_le (taxableOf_nonneg h r) (by have := taxableOf_le h hsmall r; omega) hrate
  -- the value is the exact taxable value and the exact tax on it
  set exact : ℚ := value * 100 / (100 + r.total) with hexact
  have hvalue : (value : ℚ) = exact * (1 + r.total / 100) := by
    have : (100 + r.total : ℚ) ≠ 0 := by linarith [r.total_nonneg]
    rw [hexact]
    field_simp
  have hscale : |(taxable - exact) * (1 + r.total / 100)| < 1 := by
    have hfactor : 1 + r.total / 100 ≤ 199999 / 100000 := by
      have hle : ((r.cgst.thousandths + r.sgst.thousandths + r.igst.thousandths : ℕ) : ℚ) ≤ 99999 := by
        exact_mod_cast (by omega)
      rw [r.total_eq]
      linarith
    have hfactor0 : 0 ≤ 1 + r.total / 100 := by linarith [r.total_nonneg]
    rw [abs_mul, abs_of_nonneg hfactor0]
    calc |(taxable : ℚ) - exact| * (1 + r.total / 100) ≤ (1 / 2 + 1 / 10 ^ 7) * (199999 / 100000) :=
          mul_le_mul hnear hfactor hfactor0 (by norm_num)
      _ < 1 := by norm_num
  have hlt : |((value - taxable - taxOn taxable r.cgst - taxOn taxable r.sgst - taxOn taxable r.igst : ℤ) : ℚ)| < 2 := by
    have hc := hon r.cgst (by omega)
    have hs := hon r.sgst (by omega)
    have hi := hon r.igst (by omega)
    have htotal := r.total_eq
    push_cast at htotal
    push_cast
    rw [abs_lt] at hscale ⊢
    rw [abs_le] at hc hs hi
    rcases hone with hzero | ⟨hzero, hzero'⟩
    · simp only [hzero, taxOn_zero_rate, Nat.cast_zero, Int.cast_zero] at htotal hi ⊢
      rw [hvalue]
      rw [htotal] at hscale ⊢
      constructor <;> linarith [hscale.1, hscale.2, hc.1, hc.2, hs.1, hs.2]
    · simp only [hzero, hzero', taxOn_zero_rate, Nat.cast_zero, Int.cast_zero] at htotal hc hs ⊢
      rw [hvalue]
      rw [htotal] at hscale ⊢
      constructor <;> linarith [hscale.1, hscale.2, hi.1, hi.2]
  have : |value - taxable - taxOn taxable r.cgst - taxOn taxable r.sgst - taxOn taxable r.igst| < 2 := by
    exact_mod_cast hlt
  omega

end Slab

/-! ### The lines of a slab -/

section Lines

variable {grosses : List ℤ} {rates : List Rates} {mode : PricingMode} {r : Rates}

theorem mem_slabMembers {i : ℕ} : i ∈ slabMembers rates r ↔ rates[i]? = some r := by
  simp only [slabMembers, List.mem_filter, List.mem_range, decide_eq_true_eq, and_iff_right_iff_imp]
  exact fun h => (List.getElem?_eq_some_iff.mp h).1

theorem nodup_slabMembers (rates : List Rates) (r : Rates) : (slabMembers rates r).Nodup :=
  List.nodup_range.filter _

/-- What the lines of a slab weigh. -/
def slabWeights (grosses : List ℤ) (rates : List Rates) (r : Rates) : List ℤ :=
  (slabMembers rates r).map (grosses.getD · 0)

theorem slabWeights_nonneg (h : ∀ g ∈ grosses, 0 ≤ g) : ∀ w ∈ slabWeights grosses rates r, 0 ≤ w := by
  intro w hw
  obtain ⟨i, -, rfl⟩ := List.mem_map.mp hw
  rw [List.getD_eq_getElem?_getD]
  cases hi : grosses[i]? with
  | none => exact le_rfl
  | some g => exact h g (List.mem_of_getElem? hi)

/-- The part of an amount that the line at a position takes. -/
def slabPart (grosses : List ℤ) (rates : List Rates) (r : Rates) (amount : ℤ) (i : ℕ) : ℤ :=
  (allocate amount (slabWeights grosses rates r)).getD ((slabMembers rates r).idxOf i) 0

/-- The amounts of a line under `invoiceHalfUp`. -/
def slabAmounts (grosses : List ℤ) (rates : List Rates) (mode : PricingMode) (r : Rates) (i : ℕ) : SlabTax :=
  let slab := slabTax (slabWeights grosses rates r).sum r mode
  ⟨slabPart grosses rates r slab.taxable i, slabPart grosses rates r slab.cgst i, slabPart grosses rates r slab.sgst i,
    slabPart grosses rates r slab.igst i⟩

theorem taxSlab_apply (target : ℕ → SlabTax) (i : ℕ) :
    taxSlab grosses rates mode target r i
      = if rates[i]? = some r then slabAmounts grosses rates mode r i else target i := by
  simp only [taxSlab, mem_slabMembers]
  rfl

/-- Each position is written by its own slab and by no other. -/
theorem foldl_taxSlab (slabs : List Rates) (target : ℕ → SlabTax) {i : ℕ} (hi : rates[i]? = some r) :
    slabs.foldl (taxSlab grosses rates mode) target i
      = if r ∈ slabs then slabAmounts grosses rates mode r i else target i := by
  induction slabs generalizing target with
  | nil => simp
  | cons k slabs ih =>
    rw [List.foldl_cons, ih, taxSlab_apply, hi]
    by_cases hk : r = k
    · subst hk
      simp
    · simp [hk]

theorem lineAmounts_invoice {i : ℕ} (hi : rates[i]? = some r) :
    lineAmounts grosses rates mode .invoiceHalfUp i = slabAmounts grosses rates mode r i := by
  rw [lineAmounts, foldl_taxSlab _ _ hi, if_pos (List.mem_eraseDups.mpr (List.mem_of_getElem? hi))]

theorem lineAmounts_line {i : ℕ} (hi : rates[i]? = some r) :
    lineAmounts grosses rates mode .lineHalfUp i = slabTax (grosses.getD i 0) r mode := by
  simp [lineAmounts, List.getD_eq_getElem?_getD, hi]

/-- The member at a place takes what stands at that place. -/
theorem map_getD_idxOf {α : Type} {members : List ℕ} (hn : members.Nodup) {l : List α} (hl : l.length = members.length)
    (d : α) : members.map (fun i => l.getD (members.idxOf i) d) = l := by
  refine List.ext_getElem (by simp [hl]) fun k h₁ h₂ => ?_
  rw [List.getElem_map, hn.idxOf_getElem]
  simp [List.getD_eq_getElem?_getD, h₂]

theorem slabPart_nonneg (hg : ∀ g ∈ grosses, 0 ≤ g) {amount : ℤ} (h : 0 ≤ amount) (i : ℕ) :
    0 ≤ slabPart grosses rates r amount i := by
  rw [slabPart, List.getD_eq_getElem?_getD]
  cases hp : (allocate amount (slabWeights grosses rates r))[(slabMembers rates r).idxOf i]? with
  | none => exact le_rfl
  | some part => exact allocate_nonneg h (slabWeights_nonneg hg) part (List.mem_of_getElem? hp)

@[simp] theorem slabPart_zero (i : ℕ) : slabPart grosses rates r 0 i = 0 := by
  rw [slabPart, allocate_eq_replicate (.inl rfl), List.getD_eq_getElem?_getD, List.getElem?_replicate]
  split_ifs <;> rfl

/-- The whole slab, spread over its lines, is their values. -/
theorem slabPart_self (hg : ∀ g ∈ grosses, 0 ≤ g) (hsmall : (slabWeights grosses rates r).sum < 10 ^ 20) {i : ℕ}
    (hi : rates[i]? = some r) :
    slabPart grosses rates r (slabWeights grosses rates r).sum i = grosses.getD i 0 := by
  have hmem := mem_slabMembers.mpr hi
  rw [slabPart, allocate_self (slabWeights_nonneg hg) hsmall, slabWeights, List.getD_eq_getElem?_getD,
    List.getElem?_map, List.getElem?_idxOf hmem]
  rfl

/-- The lines of a slab take all of an amount that is zero when the slab is. -/
theorem sum_slabPart (hg : ∀ g ∈ grosses, 0 ≤ g) {amount : ℤ} (h : 0 ≤ amount) (hsmall : amount < 10 ^ 20)
    (hzero : (slabWeights grosses rates r).sum = 0 → amount = 0) :
    ((slabMembers rates r).map (slabPart grosses rates r amount)).sum = amount := by
  have hlen : (allocate amount (slabWeights grosses rates r)).length = (slabMembers rates r).length := by
    simp [slabWeights]
  have hmap := map_getD_idxOf (nodup_slabMembers rates r) hlen 0
  calc ((slabMembers rates r).map (slabPart grosses rates r amount)).sum
      = (allocate amount (slabWeights grosses rates r)).sum := by
        conv_rhs => rw [← hmap]
        rfl
    _ = amount := by
        rw [sum_allocate h (slabWeights_nonneg hg) hsmall]
        split_ifs with h0
        · exact (hzero h0).symm
        · rfl

/-- A sum over the lines, slab by slab. -/
theorem sum_by_slab (rates : List Rates) (f : ℕ → ℤ) :
    ((List.range rates.length).map f).sum = ∑ r ∈ rates.toFinset, ((slabMembers rates r).map f).sum := by
  have hlist : ∀ l : List ℕ, l.Nodup → (l.map f).sum = ∑ i ∈ l.toFinset, f i := fun l hl => (List.sum_toFinset f hl).symm
  rw [hlist _ List.nodup_range]
  have hmaps : ∀ i ∈ (List.range rates.length).toFinset, rates.getD i ⟨⟨0⟩, ⟨0⟩, ⟨0⟩⟩ ∈ rates.toFinset := by
    intro i hi
    have hlt : i < rates.length := by simpa using hi
    rw [List.mem_toFinset, List.getD_eq_getElem?_getD, List.getElem?_eq_getElem hlt]
    exact List.getElem_mem hlt
  rw [← Finset.sum_fiberwise_of_maps_to hmaps]
  refine Finset.sum_congr rfl fun r hr => ?_
  rw [hlist _ (nodup_slabMembers rates r)]
  refine Finset.sum_congr ?_ fun i _ => rfl
  ext i
  rw [Finset.mem_filter, List.mem_toFinset, List.mem_toFinset, List.mem_range, mem_slabMembers]
  constructor
  · rintro ⟨hlt, h⟩
    rw [List.getD_eq_getElem?_getD, List.getElem?_eq_getElem hlt] at h
    rw [List.getElem?_eq_getElem hlt]
    exact congrArg some h
  · intro h
    refine ⟨(List.getElem?_eq_some_iff.mp h).1, ?_⟩
    rw [List.getD_eq_getElem?_getD, h]
    rfl

theorem sum_slabWeights_le (hg : ∀ g ∈ grosses, 0 ≤ g) (hlen : grosses.length = rates.length) (r : Rates) :
    (slabWeights grosses rates r).sum ≤ grosses.sum := by
  by_cases hr : r ∈ rates
  · have hall := sum_by_slab rates (grosses.getD · 0)
    rw [← hlen, map_getD_range] at hall
    rw [hall]
    exact Finset.single_le_sum (f := fun r => (slabWeights grosses rates r).sum)
      (fun k _ => List.sum_nonneg (slabWeights_nonneg hg)) (List.mem_toFinset.mpr hr)
  · have hnone : slabMembers rates r = [] := by
      rw [List.eq_nil_iff_forall_not_mem]
      exact fun i hi => hr (List.mem_of_getElem? (mem_slabMembers.mp hi))
    rw [slabWeights, hnone]
    simpa using List.sum_nonneg hg

end Lines

/-! ### The amounts of a line -/

section Amounts

variable {grosses : List ℤ} {rates : List Rates} {mode : PricingMode} {r : Rates}
  (hg : ∀ g ∈ grosses, 0 ≤ g) (hlen : grosses.length = rates.length) (hsmall : grosses.sum < 10 ^ 20)
include hg hlen hsmall

theorem slab_bounds (r : Rates) :
    0 ≤ (slabWeights grosses rates r).sum ∧ (slabWeights grosses rates r).sum < 10 ^ 20 :=
  ⟨List.sum_nonneg (slabWeights_nonneg hg), (sum_slabWeights_le hg hlen r).trans_lt hsmall⟩

theorem gross_bounds {i : ℕ} (hi : rates[i]? = some r) :
    0 ≤ grosses.getD i 0 ∧ grosses.getD i 0 < 10 ^ 20 := by
  have hlt : i < grosses.length := hlen ▸ (List.getElem?_eq_some_iff.mp hi).1
  have hmem := getD_mem hlt
  exact ⟨hg _ hmem, (List.single_le_sum hg _ hmem).trans_lt hsmall⟩

omit hlen hsmall in
theorem lineAmounts_nonneg (policy : RoundingPolicy) {i : ℕ} (hi : rates[i]? = some r) :
    0 ≤ (lineAmounts grosses rates mode policy i).taxable ∧ 0 ≤ (lineAmounts grosses rates mode policy i).cgst
      ∧ 0 ≤ (lineAmounts grosses rates mode policy i).sgst ∧ 0 ≤ (lineAmounts grosses rates mode policy i).igst := by
  cases policy with
  | lineHalfUp =>
    have hgross : 0 ≤ grosses.getD i 0 := by
      rw [List.getD_eq_getElem?_getD]
      cases h : grosses[i]? with
      | none => exact le_rfl
      | some g => exact hg g (List.mem_of_getElem? h)
    rw [lineAmounts_line hi]
    exact slabTax_nonneg hgross r mode
  | invoiceHalfUp =>
    obtain ⟨ht, hc, hs, hgst⟩ := slabTax_nonneg (List.sum_nonneg (slabWeights_nonneg hg)) r mode
    rw [lineAmounts_invoice hi]
    exact ⟨slabPart_nonneg hg ht i, slabPart_nonneg hg hc i, slabPart_nonneg hg hs i, slabPart_nonneg hg hgst i⟩

theorem lineAmounts_exclusive (policy : RoundingPolicy) {i : ℕ} (hi : rates[i]? = some r) :
    (lineAmounts grosses rates .exclusive policy i).taxable = grosses.getD i 0 := by
  cases policy with
  | lineHalfUp => rw [lineAmounts_line hi, slabTax_exclusive_taxable]
  | invoiceHalfUp =>
    rw [lineAmounts_invoice hi, slabAmounts, slabTax_exclusive_taxable]
    exact slabPart_self hg (slab_bounds hg hlen hsmall r).2 hi

omit hg hlen hsmall in
theorem lineAmounts_untaxed (h : r.total = 0) (policy : RoundingPolicy) {i : ℕ} (hi : rates[i]? = some r) :
    (lineAmounts grosses rates mode policy i).cgst = 0 ∧ (lineAmounts grosses rates mode policy i).sgst = 0
      ∧ (lineAmounts grosses rates mode policy i).igst = 0 := by
  cases policy with
  | lineHalfUp =>
    rw [lineAmounts_line hi, slabTax_of_total_eq_zero h]
    exact ⟨rfl, rfl, rfl⟩
  | invoiceHalfUp =>
    rw [lineAmounts_invoice hi, slabAmounts, slabTax_of_total_eq_zero h]
    exact ⟨slabPart_zero i, slabPart_zero i, slabPart_zero i⟩

omit hg hlen hsmall in
theorem lineAmounts_halves (h : r.cgst = r.sgst) (policy : RoundingPolicy) {i : ℕ} (hi : rates[i]? = some r) :
    (lineAmounts grosses rates mode policy i).cgst = (lineAmounts grosses rates mode policy i).sgst := by
  cases policy with
  | lineHalfUp =>
    rw [lineAmounts_line hi]
    exact slabTax_cgst_eq h
  | invoiceHalfUp =>
    rw [lineAmounts_invoice hi]
    simp only [slabAmounts, slabTax_cgst_eq h]

omit hg hlen hsmall in
theorem lineAmounts_cgst_zero (h : r.cgst = ⟨0⟩) (policy : RoundingPolicy) {i : ℕ} (hi : rates[i]? = some r) :
    (lineAmounts grosses rates mode policy i).cgst = 0 := by
  cases policy with
  | lineHalfUp =>
    rw [lineAmounts_line hi]
    exact slabTax_cgst_zero h
  | invoiceHalfUp =>
    rw [lineAmounts_invoice hi]
    simp only [slabAmounts, slabTax_cgst_zero h, slabPart_zero]

omit hg hlen hsmall in
theorem lineAmounts_igst_zero (h : r.igst = ⟨0⟩) (policy : RoundingPolicy) {i : ℕ} (hi : rates[i]? = some r) :
    (lineAmounts grosses rates mode policy i).igst = 0 := by
  cases policy with
  | lineHalfUp =>
    rw [lineAmounts_line hi]
    exact slabTax_igst_zero h
  | invoiceHalfUp =>
    rw [lineAmounts_invoice hi]
    simp only [slabAmounts, slabTax_igst_zero h, slabPart_zero]

/-- What the lines of an inclusive slab are off by is what the slab is off by. -/
theorem sum_slab_roundOff (hr : r.total < 100) :
    ((slabMembers rates r).map fun i =>
        grosses.getD i 0 - (slabAmounts grosses rates .inclusive r i).taxable
          - (slabAmounts grosses rates .inclusive r i).cgst - (slabAmounts grosses rates .inclusive r i).sgst
          - (slabAmounts grosses rates .inclusive r i).igst).sum
      = (slabWeights grosses rates r).sum - (slabTax (slabWeights grosses rates r).sum r .inclusive).taxable
        - (slabTax (slabWeights grosses rates r).sum r .inclusive).cgst
        - (slabTax (slabWeights grosses rates r).sum r .inclusive).sgst
        - (slabTax (slabWeights grosses rates r).sum r .inclusive).igst := by
  obtain ⟨hw, hws⟩ := slab_bounds hg hlen hsmall r
  obtain ⟨ht, hc, hs, hgst⟩ := slabTax_nonneg hw r .inclusive
  obtain ⟨ht', hc', hs', hgst'⟩ := slabTax_le hw hws hr .inclusive
  have hzero : (slabWeights grosses rates r).sum = 0 →
      slabTax (slabWeights grosses rates r).sum r .inclusive = ⟨0, 0, 0, 0⟩ := fun h => by rw [h, slabTax_zero]
  have hsub : ∀ (l : List ℕ) (a b c d e : ℕ → ℤ), (l.map fun i => a i - b i - c i - d i - e i).sum
      = (l.map a).sum - (l.map b).sum - (l.map c).sum - (l.map d).sum - (l.map e).sum := by
    intro l a b c d e
    induction l with
    | nil => rfl
    | cons i l ih =>
      simp only [List.map_cons, List.sum_cons, ih]
      ring
  rw [hsub]
  have hpart : ∀ amount : ℤ, 0 ≤ amount → amount < 10 ^ 20 →
      ((slabWeights grosses rates r).sum = 0 → amount = 0) →
      ((slabMembers rates r).map (slabPart grosses rates r amount)).sum = amount :=
    fun amount h h' h0 => sum_slabPart hg h h' h0
  refine congrArg₂ _ (congrArg₂ _ (congrArg₂ _ (congrArg₂ _ rfl ?_) ?_) ?_) ?_
  · exact hpart _ ht (by omega) fun h => by rw [hzero h]
  · exact hpart _ hc (by omega) fun h => by rw [hzero h]
  · exact hpart _ hs (by omega) fun h => by rw [hzero h]
  · exact hpart _ hgst (by omega) fun h => by rw [hzero h]

/-- All lines together are off by at most one paisa for each slab. -/
theorem abs_sum_roundOff_le (hrates : ∀ r ∈ rates, r.total < 100 ∧ r.OneSided) :
    |((List.range rates.length).map fun i =>
        grosses.getD i 0 - (lineAmounts grosses rates .inclusive .invoiceHalfUp i).taxable
          - (lineAmounts grosses rates .inclusive .invoiceHalfUp i).cgst
          - (lineAmounts grosses rates .inclusive .invoiceHalfUp i).sgst
          - (lineAmounts grosses rates .inclusive .invoiceHalfUp i).igst).sum| ≤ (rates.toFinset.card : ℤ) := by
  rw [sum_by_slab]
  refine (Finset.abs_sum_le_sum_abs _ _).trans ?_
  refine (Finset.sum_le_card_nsmul _ _ 1 fun r hr => ?_).trans (by simp)
  obtain ⟨hlt, hone⟩ := hrates r (List.mem_toFinset.mp hr)
  have hslab : ((slabMembers rates r).map fun i =>
      grosses.getD i 0 - (lineAmounts grosses rates .inclusive .invoiceHalfUp i).taxable
        - (lineAmounts grosses rates .inclusive .invoiceHalfUp i).cgst
        - (lineAmounts grosses rates .inclusive .invoiceHalfUp i).sgst
        - (lineAmounts grosses rates .inclusive .invoiceHalfUp i).igst)
      = (slabMembers rates r).map fun i =>
        grosses.getD i 0 - (slabAmounts grosses rates .inclusive r i).taxable
          - (slabAmounts grosses rates .inclusive r i).cgst - (slabAmounts grosses rates .inclusive r i).sgst
          - (slabAmounts grosses rates .inclusive r i).igst := by
    refine List.map_congr_left fun i hi => ?_
    rw [lineAmounts_invoice (mem_slabMembers.mp hi)]
  rw [hslab, sum_slab_roundOff hg hlen hsmall hlt]
  obtain ⟨hw, hws⟩ := slab_bounds hg hlen hsmall r
  simpa using abs_roundOff_le hw hws hlt hone

end Amounts

/-! ### The lines of the calculation -/

/-- What each line carries. -/
structure LineTax.Lawful (mode : PricingMode) (policy : RoundingPolicy) (rates : Rates) (line : CalcLine)
    (tax : LineTax) : Prop where
  nonneg : 0 ≤ tax.taxablePaise ∧ 0 ≤ tax.cgstPaise ∧ 0 ≤ tax.sgstPaise ∧ 0 ≤ tax.igstPaise
  untaxed : line.treatment ≠ .taxable → tax.taxPaise = 0
  halves : rates.cgst = rates.sgst → tax.cgstPaise = tax.sgstPaise
  exclusive : mode = .exclusive → tax.taxablePaise = tax.grossPaise ∧ tax.roundOffPaise = 0
  inclusive : mode = .inclusive → tax.grossPaise = tax.taxablePaise + tax.taxPaise + tax.roundOffPaise
  roundOff : mode = .inclusive → policy = .lineHalfUp → |tax.roundOffPaise| ≤ 1

/-- What the totals add up to, over so many slabs. -/
structure GstResult.Lawful (mode : PricingMode) (policy : RoundingPolicy) (slabs : ℕ) (result : GstResult) : Prop where
  taxable : result.taxablePaise = (result.lines.map (·.taxablePaise)).sum
  cgst : result.cgstPaise = (result.lines.map (·.cgstPaise)).sum
  sgst : result.sgstPaise = (result.lines.map (·.sgstPaise)).sum
  igst : result.igstPaise = (result.lines.map (·.igstPaise)).sum
  tax : result.taxPaise = (result.lines.map (·.taxPaise)).sum
  exclusive : mode = .exclusive → result.roundOffPaise = 0
  inclusive : mode = .inclusive →
    (result.lines.map (·.grossPaise)).sum = result.taxablePaise + result.taxPaise + result.roundOffPaise
  roundOff : mode = .inclusive → policy = .invoiceHalfUp → |result.roundOffPaise| ≤ slabs

section Calculation

variable {lines : List CalcLine} {shippingPaise : ℤ} {intraState : Bool} {mode : PricingMode}
  {treatment : ShippingTreatment} {policy : RoundingPolicy}

@[simp] theorem length_shipLines : (shipLines lines shippingPaise treatment).1.length = lines.length := by
  unfold shipLines
  split_ifs <;> simp

/-- What the customer sees of each line, with the shipping spread onto it. -/
def grossesOf (lines : List CalcLine) (shippingPaise : ℤ) (treatment : ShippingTreatment) : List ℤ :=
  List.zipWith (· + ·) (lines.map (·.valuePaise)) (shipLines lines shippingPaise treatment).1

@[simp] theorem length_grossesOf : (grossesOf lines shippingPaise treatment).length = lines.length := by
  simp [grossesOf]

theorem sum_zipWith_add {xs ys : List ℤ} (h : xs.length = ys.length) :
    (List.zipWith (· + ·) xs ys).sum = xs.sum + ys.sum := by
  induction xs generalizing ys with
  | nil => simp [List.length_eq_zero_iff.mp h.symm]
  | cons x xs ih =>
    cases ys with
    | nil => simp at h
    | cons y ys =>
      rw [List.zipWith_cons_cons, List.sum_cons, List.sum_cons, List.sum_cons, ih (by simpa using h)]
      ring

theorem sum_grossesOf : (grossesOf lines shippingPaise treatment).sum
    = (lines.map (·.valuePaise)).sum + (shipLines lines shippingPaise treatment).1.sum :=
  sum_zipWith_add (by simp)

/-- The amounts of each line. -/
def amountsOf (lines : List CalcLine) (shippingPaise : ℤ) (intraState : Bool) (mode : PricingMode)
    (treatment : ShippingTreatment) (policy : RoundingPolicy) : ℕ → SlabTax :=
  lineAmounts (grossesOf lines shippingPaise treatment) (lines.map (·.rates intraState)) mode policy

/-- What is returned for the line at a position. -/
def lineTaxOf (lines : List CalcLine) (shippingPaise : ℤ) (intraState : Bool) (mode : PricingMode)
    (treatment : ShippingTreatment) (policy : RoundingPolicy) (line : CalcLine) (i : ℕ) : LineTax :=
  let gross := (grossesOf lines shippingPaise treatment).getD i 0
  let amounts := amountsOf lines shippingPaise intraState mode treatment policy i
  { key := line.key, shippingPaise := (shipLines lines shippingPaise treatment).1.getD i 0, grossPaise := gross,
    taxablePaise := amounts.taxable, cgstPaise := amounts.cgst, sgstPaise := amounts.sgst, igstPaise := amounts.igst,
    roundOffPaise := match mode with
      | .inclusive => gross - amounts.taxable - amounts.cgst - amounts.sgst - amounts.igst
      | .exclusive => 0 }

theorem calculate_lines : (calculate lines shippingPaise intraState mode treatment policy).lines
    = lines.zipIdx.map fun p => lineTaxOf lines shippingPaise intraState mode treatment policy p.1 p.2 := rfl

@[simp] theorem length_calculate_lines :
    (calculate lines shippingPaise intraState mode treatment policy).lines.length = lines.length := by
  simp [calculate_lines]

theorem getElem?_calculate_lines (i : ℕ) :
    (calculate lines shippingPaise intraState mode treatment policy).lines[i]?
      = lines[i]?.map fun line => lineTaxOf lines shippingPaise intraState mode treatment policy line i := by
  rw [calculate_lines, List.getElem?_map, List.getElem?_zipIdx]
  cases lines[i]? <;> simp

/-- A column of the result. -/
theorem map_calculate_lines {α : Type} {f : LineTax → α} {g : ℕ → α}
    (h : ∀ line i, f (lineTaxOf lines shippingPaise intraState mode treatment policy line i) = g i) :
    (calculate lines shippingPaise intraState mode treatment policy).lines.map f = (List.range lines.length).map g := by
  refine List.ext_getElem (by simp) fun i h₁ h₂ => ?_
  simp [calculate_lines, h]

theorem sum_gross : ((calculate lines shippingPaise intraState mode treatment policy).lines.map (·.grossPaise)).sum
    = (grossesOf lines shippingPaise treatment).sum := by
  rw [map_calculate_lines (g := ((grossesOf lines shippingPaise treatment).getD · 0)) fun _ _ => rfl]
  conv_rhs => rw [← map_getD_range (grossesOf lines shippingPaise treatment) 0]
  rw [length_grossesOf]

theorem values_nonneg (hvalues : ∀ line ∈ lines, 0 ≤ line.valuePaise) :
    ∀ v ∈ lines.map (·.valuePaise), 0 ≤ v := by
  intro v hv
  obtain ⟨line, hline, rfl⟩ := List.mem_map.mp hv
  exact hvalues line hline

theorem sum_map_add₃ {l : List LineTax} {f g h k : LineTax → ℤ} (hall : ∀ t ∈ l, k t = f t + g t + h t) :
    (l.map k).sum = (l.map f).sum + (l.map g).sum + (l.map h).sum := by
  induction l with
  | nil => simp
  | cons t l ih =>
    simp only [List.map_cons, List.sum_cons, hall t List.mem_cons_self,
      ih fun t' ht' => hall t' (List.mem_cons_of_mem _ ht')]
    ring

theorem calculate_taxPaise : (calculate lines shippingPaise intraState mode treatment policy).taxPaise
    = ((calculate lines shippingPaise intraState mode treatment policy).lines.map (·.taxPaise)).sum :=
  (sum_map_add₃ fun _ _ => rfl).symm

theorem calculate_taxAdded : (calculate lines shippingPaise intraState mode treatment policy).taxAddedPaise
    = mode.added ((calculate lines shippingPaise intraState mode treatment policy).lines.map (·.taxPaise)).sum :=
  congrArg mode.added calculate_taxPaise

section Laws

variable (mode treatment policy)
variable (hvalues : ∀ line ∈ lines, 0 ≤ line.valuePaise) (hshipping : 0 ≤ shippingPaise)
  (hsmall : (lines.map (·.valuePaise)).sum + shippingPaise < 10 ^ 20)
include hvalues hshipping hsmall

omit hsmall in
theorem shipLines_nonneg : ∀ s ∈ (shipLines lines shippingPaise treatment).1, 0 ≤ s := by
  unfold shipLines
  split_ifs
  · exact allocate_nonneg hshipping (values_nonneg hvalues)
  · intro s hs
    exact (List.eq_of_mem_replicate hs).ge

/-- The shipping that is spread, and the shipping that is not. -/
theorem sum_shipLines :
    (shipLines lines shippingPaise treatment).1.sum + (shipLines lines shippingPaise treatment).2
      = if treatment = .taxableWithGoods ∧ (lines.map (·.valuePaise)).sum = 0 then 0 else shippingPaise := by
  have hsum := List.sum_nonneg (values_nonneg hvalues)
  by_cases hspread : treatment = .taxableWithGoods ∧ shippingPaise ≠ 0
  · rw [shipLines, if_pos hspread]
    simp only [sum_allocate hshipping (values_nonneg hvalues) (by omega), hspread.1, true_and, add_zero]
  · rw [shipLines, if_neg hspread]
    have hzero : (List.replicate lines.length (0 : ℤ)).sum = 0 := by simp
    rw [hzero, zero_add]
    split_ifs with h
    · by_contra hne
      exact hspread ⟨h.1, hne⟩
    · rfl

omit hsmall in
theorem grossesOf_nonneg : ∀ g ∈ grossesOf lines shippingPaise treatment, 0 ≤ g := by
  intro g hg
  obtain ⟨i, hi⟩ := List.getElem?_of_mem hg
  rw [grossesOf, List.getElem?_zipWith] at hi
  cases hv : (lines.map (·.valuePaise))[i]? with
  | none => simp [hv] at hi
  | some v =>
    cases hs : (shipLines lines shippingPaise treatment).1[i]? with
    | none => simp [hv, hs] at hi
    | some s =>
      simp only [hv, hs, Option.some.injEq] at hi
      have h₁ := values_nonneg hvalues v (List.mem_of_getElem? hv)
      have h₂ := shipLines_nonneg treatment hvalues hshipping s (List.mem_of_getElem? hs)
      omega

theorem sum_grossesOf_lt : (grossesOf lines shippingPaise treatment).sum < 10 ^ 20 := by
  have hship := sum_shipLines treatment hvalues hshipping hsmall
  have huntaxed : 0 ≤ (shipLines lines shippingPaise treatment).2 := by
    unfold shipLines
    split_ifs
    · exact le_rfl
    · exact hshipping
  rw [sum_grossesOf]
  split_ifs at hship <;> omega

omit hsmall in
theorem lineTaxOf_nonneg {line : CalcLine} {i : ℕ} (hi : lines[i]? = some line) :
    0 ≤ (lineTaxOf lines shippingPaise intraState mode treatment policy line i).cgstPaise
      ∧ 0 ≤ (lineTaxOf lines shippingPaise intraState mode treatment policy line i).sgstPaise
      ∧ 0 ≤ (lineTaxOf lines shippingPaise intraState mode treatment policy line i).igstPaise := by
  have hri : (lines.map (·.rates intraState))[i]? = some (line.rates intraState) := by simp [hi]
  exact (lineAmounts_nonneg (grossesOf_nonneg treatment hvalues hshipping) policy hri).2

omit hsmall in
/-- What is added to the price is never negative. -/
theorem taxAdded_nonneg : 0 ≤ (calculate lines shippingPaise intraState mode treatment policy).taxAddedPaise := by
  have hcolumn : ∀ f : LineTax → ℤ, (∀ line i, lines[i]? = some line →
        0 ≤ f (lineTaxOf lines shippingPaise intraState mode treatment policy line i)) →
      0 ≤ ((calculate lines shippingPaise intraState mode treatment policy).lines.map f).sum := by
    intro f hf
    refine List.sum_nonneg fun x hx => ?_
    obtain ⟨tax, htax, rfl⟩ := List.mem_map.mp hx
    obtain ⟨i, hi⟩ := List.getElem?_of_mem htax
    rw [getElem?_calculate_lines, Option.map_eq_some_iff] at hi
    obtain ⟨line, hline, rfl⟩ := hi
    exact hf line i hline
  cases mode with
  | exclusive =>
    have hc := hcolumn (·.cgstPaise) fun line i hi =>
      (lineTaxOf_nonneg .exclusive treatment policy hvalues hshipping hi).1
    have hs := hcolumn (·.sgstPaise) fun line i hi =>
      (lineTaxOf_nonneg .exclusive treatment policy hvalues hshipping hi).2.1
    have hgst := hcolumn (·.igstPaise) fun line i hi =>
      (lineTaxOf_nonneg .exclusive treatment policy hvalues hshipping hi).2.2
    exact add_nonneg (add_nonneg hc hs) hgst
  | inclusive => exact le_rfl

omit hvalues hshipping hsmall in
/-- CGST and SGST within the state, IGST between states. -/
theorem lineTaxOf_side {line : CalcLine} {i : ℕ} (hi : lines[i]? = some line) :
    (intraState = true → (lineTaxOf lines shippingPaise intraState mode treatment policy line i).igstPaise = 0)
      ∧ (intraState = false → (lineTaxOf lines shippingPaise intraState mode treatment policy line i).cgstPaise = 0
        ∧ (lineTaxOf lines shippingPaise intraState mode treatment policy line i).sgstPaise = 0) := by
  have hri : (lines.map (·.rates intraState))[i]? = some (line.rates intraState) := by simp [hi]
  constructor
  · rintro rfl
    exact lineAmounts_igst_zero (by unfold CalcLine.rates; split_ifs <;> simp_all) policy hri
  · rintro rfl
    have hc : (line.rates false).cgst = ⟨0⟩ := by
      unfold CalcLine.rates
      split_ifs <;> simp_all
    have hs : (line.rates false).cgst = (line.rates false).sgst := by
      unfold CalcLine.rates
      split_ifs <;> simp_all
    have hzero : (amountsOf lines shippingPaise false mode treatment policy i).cgst = 0 :=
      lineAmounts_cgst_zero hc policy hri
    exact ⟨hzero, (lineAmounts_halves hs policy hri).symm.trans hzero⟩

/-- Every line keeps to the laws. -/
theorem lineTaxOf_lawful (hrates : ∀ line ∈ lines, (line.rates intraState).total < 100) {line : CalcLine} {i : ℕ}
    (hi : lines[i]? = some line) :
    (lineTaxOf lines shippingPaise intraState mode treatment policy line i).Lawful mode policy
      (line.rates intraState) line := by
  have hg := grossesOf_nonneg treatment hvalues hshipping
  have hsum := sum_grossesOf_lt treatment hvalues hshipping hsmall
  have hlen : (grossesOf lines shippingPaise treatment).length = (lines.map (·.rates intraState)).length := by simp
  have hri : (lines.map (·.rates intraState))[i]? = some (line.rates intraState) := by simp [hi]
  have hr := hrates line (List.mem_of_getElem? hi)
  constructor
  · exact lineAmounts_nonneg hg policy hri
  · intro h
    have hzero : (amountsOf lines shippingPaise intraState mode treatment policy i).cgst = 0
        ∧ (amountsOf lines shippingPaise intraState mode treatment policy i).sgst = 0
        ∧ (amountsOf lines shippingPaise intraState mode treatment policy i).igst = 0 :=
      lineAmounts_untaxed (CalcLine.rates_total_of_ne h intraState) policy hri
    simp only [LineTax.taxPaise, lineTaxOf, hzero, add_zero]
  · intro h
    exact lineAmounts_halves h policy hri
  · rintro rfl
    exact ⟨lineAmounts_exclusive hg hlen hsum policy hri, rfl⟩
  · rintro rfl
    simp only [LineTax.taxPaise, lineTaxOf]
    ring
  · rintro rfl rfl
    obtain ⟨hw, hws⟩ := gross_bounds hg hlen hsum hri
    have h := abs_roundOff_le hw hws hr (line.rates_oneSided intraState)
    simp only [lineTaxOf, amountsOf, lineAmounts_line hri]
    exact h

/-- And so do the totals. -/
theorem calculate_total_lawful (hrates : ∀ line ∈ lines, (line.rates intraState).total < 100) :
    (calculate lines shippingPaise intraState mode treatment policy).Lawful mode policy
      (lines.map (·.rates intraState)).toFinset.card := by
  constructor
  · rfl
  · rfl
  · rfl
  · rfl
  · exact calculate_taxPaise
  · rintro rfl
    change ((calculate lines shippingPaise intraState .exclusive treatment policy).lines.map (·.roundOffPaise)).sum = 0
    rw [map_calculate_lines (g := fun _ => 0) fun _ _ => rfl]
    simp
  · rintro rfl
    rw [calculate_taxPaise]
    refine sum_map_add₃ fun tax htax => ?_
    obtain ⟨i, hi⟩ := List.getElem?_of_mem htax
    rw [getElem?_calculate_lines, Option.map_eq_some_iff] at hi
    obtain ⟨line, hline, rfl⟩ := hi
    exact (lineTaxOf_lawful .inclusive treatment policy hvalues hshipping hsmall hrates hline).inclusive rfl
  · rintro rfl rfl
    change |((calculate lines shippingPaise intraState .inclusive treatment .invoiceHalfUp).lines.map
      (·.roundOffPaise)).sum| ≤ _
    rw [map_calculate_lines fun _ _ => rfl]
    have hlen : (grossesOf lines shippingPaise treatment).length = (lines.map (·.rates intraState)).length := by simp
    have h := abs_sum_roundOff_le (grossesOf_nonneg treatment hvalues hshipping) hlen
      (sum_grossesOf_lt treatment hvalues hshipping hsmall) (fun r hr => by
        obtain ⟨line, hline, rfl⟩ := List.mem_map.mp hr
        exact ⟨hrates line hline, line.rates_oneSided intraState⟩)
    rw [List.length_map] at h
    exact h

/-- The laws of the calculation, for any lines at rates below 100 % and whatever the configuration. -/
theorem calculate_lawful (hrates : ∀ line ∈ lines, (line.rates intraState).total < 100) :
    (∀ line tax, (line, tax) ∈ lines.zip (calculate lines shippingPaise intraState mode treatment policy).lines →
        tax.Lawful mode policy (line.rates intraState) line)
      ∧ (calculate lines shippingPaise intraState mode treatment policy).lines.length = lines.length
      ∧ (calculate lines shippingPaise intraState mode treatment policy).Lawful mode policy
          (lines.map (·.rates intraState)).toFinset.card := by
  refine ⟨?_, length_calculate_lines, calculate_total_lawful mode treatment policy hvalues hshipping hsmall hrates⟩
  intro line tax hmem
  obtain ⟨i, hi⟩ := List.getElem?_of_mem hmem
  rw [List.getElem?_zip_eq_some, getElem?_calculate_lines] at hi
  obtain ⟨hline, htax⟩ := hi
  rw [hline, Option.map_some, Option.some.injEq] at htax
  have h := lineTaxOf_lawful mode treatment policy hvalues hshipping hsmall hrates hline
  rwa [htax] at h

end Laws

end Calculation

/-- Two lines of one slab and an exempt one, with an odd paisa to share. -/
def mixedLines : List CalcLine :=
  [⟨0, 9999, .taxable, ⟨9000⟩, ⟨9000⟩, ⟨18000⟩⟩, ⟨1, 1, .taxable, ⟨9000⟩, ⟨9000⟩, ⟨18000⟩⟩,
    ⟨2, 500, .exempt, ⟨0⟩, ⟨0⟩, ⟨0⟩⟩]

theorem calculate_lawful_mixedLines :
    (calculate mixedLines 51 true .inclusive .taxableWithGoods .invoiceHalfUp).Lawful .inclusive .invoiceHalfUp
      (mixedLines.map (·.rates true)).toFinset.card :=
  (calculate_lawful .inclusive .taxableWithGoods .invoiceHalfUp (by decide) (by decide) (by decide)
    (by decide +kernel)).2.2

end NovaCart
