import Mathlib.Algebra.BigOperators.Group.Finset.Basic
import Mathlib.Algebra.Order.BigOperators.Group.Finset
import Mathlib.Tactic.Linarith
import NovaCart.Schemes.Decimals
import NovaCart.Schemes.Ranking

/-! The GST arithmetic: whole paise and `Decimal`, no database.

    A line is taxed at the rates of its slab. `lineHalfUp` rounds each line, `invoiceHalfUp` each slab and spreads
    the amounts back over the lines of the slab with `allocate`, which also spreads a taxed shipping charge and a
    discount. Decimal results have 28 significant digits; sums of amounts and of rates lose none. -/

namespace NovaCart

open Schemes

/-! ### Decimal -/

/-- `*` and `/` of `Decimal`. -/
def decMul (a b : ℚ) : ℚ := toDigits 28 (a * b)

def decDiv (a b : ℚ) : ℚ := toDigits 28 (a / b)

/-- `half_up` -/
def halfUp (value : ℚ) : ℤ := roundHalfUp value

/-- The slice `[:k]` of a list; a negative `k` counts from the end. -/
def upTo {α : Type} (l : List α) (k : ℤ) : List α :=
  if 0 ≤ k then l.take k.toNat else l.take (l.length - (-k).toNat)

/-! ### Spreading an amount -/

/-- The exact part of one weight, as a decimal. -/
def share (total weightSum w : ℤ) : ℚ := decDiv (decMul total w) weightSum

/-- `_allocate`: `total` over `weights` in proportion, the largest remainders rounded up. -/
def allocate (total : ℤ) (weights : List ℤ) : List ℤ :=
  let weightSum := weights.sum
  if total = 0 ∨ weightSum = 0 then List.replicate weights.length 0
  else
    let exact := weights.map (share total weightSum)
    let parts := exact.map truncate
    let leftover := total - parts.sum
    let order := ranking (fun i => exact.getD i 0 - parts.getD i 0) weights.length
    raiseAt (upTo order leftover) parts

example : allocate 7 [1, 1, 1] = [3, 2, 2] := by decide +kernel

/-! ### Lines -/

/-- A rate in percent with three decimals, in thousandths. -/
structure Rate where
  thousandths : ℕ
  deriving DecidableEq, Repr

def Rate.percent (r : Rate) : ℚ := r.thousandths / 10 ^ 3

/-- What a rule says of a classification; the column is text, and the engine knows four values. -/
inductive Treatment
  | taxable
  | exempt
  | nilRated
  | nonGst
  | other (text : String)
  deriving DecidableEq, Repr

inductive PricingMode
  | exclusive
  | inclusive
  deriving DecidableEq, Repr

/-- The part of the tax that is added to the listed price. -/
def PricingMode.added (mode : PricingMode) (taxPaise : ℤ) : ℤ :=
  match mode with
  | .exclusive => taxPaise
  | .inclusive => 0

inductive ShippingTreatment
  | notTaxed
  | taxableWithGoods
  deriving DecidableEq, Repr

inductive RoundingPolicy
  | lineHalfUp
  | invoiceHalfUp
  deriving DecidableEq, Repr

structure CalcLine where
  key : ℕ
  valuePaise : ℤ
  treatment : Treatment
  cgst : Rate
  sgst : Rate
  igst : Rate
  deriving DecidableEq, Repr

structure LineTax where
  key : ℕ
  shippingPaise : ℤ
  grossPaise : ℤ
  taxablePaise : ℤ
  cgstPaise : ℤ
  sgstPaise : ℤ
  igstPaise : ℤ
  roundOffPaise : ℤ
  deriving DecidableEq, Repr

def LineTax.taxPaise (line : LineTax) : ℤ := line.cgstPaise + line.sgstPaise + line.igstPaise

structure GstResult where
  lines : List LineTax
  shippingUntaxedPaise : ℤ
  taxablePaise : ℤ
  cgstPaise : ℤ
  sgstPaise : ℤ
  igstPaise : ℤ
  roundOffPaise : ℤ
  taxPaise : ℤ
  taxAddedPaise : ℤ
  taxIncludedPaise : ℤ
  deriving DecidableEq, Repr

/-! ### Slabs -/

structure Rates where
  cgst : Rate
  sgst : Rate
  igst : Rate
  deriving DecidableEq, Repr

/-- `sum(rates)` -/
def Rates.total (r : Rates) : ℚ := r.cgst.percent + r.sgst.percent + r.igst.percent

/-- `_rates` -/
def CalcLine.rates (line : CalcLine) (intraState : Bool) : Rates :=
  if line.treatment ≠ .taxable then ⟨⟨0⟩, ⟨0⟩, ⟨0⟩⟩
  else if intraState then ⟨line.cgst, line.sgst, ⟨0⟩⟩ else ⟨⟨0⟩, ⟨0⟩, line.igst⟩

/-- The taxable value and its tax. -/
structure SlabTax where
  taxable : ℤ
  cgst : ℤ
  sgst : ℤ
  igst : ℤ
  deriving DecidableEq, Repr

/-- A rate of a value, to the paisa. -/
def taxOn (value : ℤ) (r : Rate) : ℤ := halfUp (decDiv (decMul value r.percent) 100)

/-- The value less the tax it contains, to the paisa. -/
def taxableOf (value : ℤ) (r : Rates) : ℤ := halfUp (decDiv (decMul value 100) (100 + r.total))

/-- `_slab_tax` -/
def slabTax (value : ℤ) (r : Rates) (pricingMode : PricingMode) : SlabTax :=
  if r.total = 0 then ⟨value, 0, 0, 0⟩
  else
    match pricingMode with
    | .exclusive => ⟨value, taxOn value r.cgst, taxOn value r.sgst, taxOn value r.igst⟩
    | .inclusive =>
      let taxable := taxableOf value r
      ⟨taxable, taxOn taxable r.cgst, taxOn taxable r.sgst, taxOn taxable r.igst⟩

/-- The positions of the lines of a slab. -/
def slabMembers (rates : List Rates) (r : Rates) : List ℕ :=
  (List.range rates.length).filter fun i => rates[i]? = some r

/-- One slab of `invoice_half_up`: its tax is worked out once, and each member takes its part of every amount. -/
def taxSlab (grosses : List ℤ) (rates : List Rates) (pricingMode : PricingMode) (target : ℕ → SlabTax) (r : Rates) :
    ℕ → SlabTax :=
  let members := slabMembers rates r
  let weights := members.map (grosses.getD · 0)
  let slab := slabTax weights.sum r pricingMode
  let part amount i := (allocate amount weights).getD (members.idxOf i) 0
  fun i =>
    if i ∈ members then ⟨part slab.taxable i, part slab.cgst i, part slab.sgst i, part slab.igst i⟩ else target i

/-- The taxable value and the tax of the line at each position. -/
def lineAmounts (grosses : List ℤ) (rates : List Rates) (pricingMode : PricingMode) :
    RoundingPolicy → ℕ → SlabTax
  | .lineHalfUp => fun i => slabTax (grosses.getD i 0) (rates.getD i ⟨⟨0⟩, ⟨0⟩, ⟨0⟩⟩) pricingMode
  | .invoiceHalfUp => rates.eraseDups.foldl (taxSlab grosses rates pricingMode) fun _ => ⟨0, 0, 0, 0⟩

/-! ### The calculation -/

/-- The shipping spread onto each line, and what stays untaxed. -/
def shipLines (lines : List CalcLine) (shippingPaise : ℤ) (shippingTreatment : ShippingTreatment) : List ℤ × ℤ :=
  if shippingTreatment = .taxableWithGoods ∧ shippingPaise ≠ 0 then
    (allocate shippingPaise (lines.map (·.valuePaise)), 0)
  else (List.replicate lines.length 0, shippingPaise)

/-- `calculate`, with the configuration values its first check admits. -/
def calculate (lines : List CalcLine) (shippingPaise : ℤ) (intraState : Bool) (pricingMode : PricingMode)
    (shippingTreatment : ShippingTreatment) (roundingPolicy : RoundingPolicy) : GstResult :=
  let (shipped, untaxedShipping) := shipLines lines shippingPaise shippingTreatment
  let grosses := List.zipWith (· + ·) (lines.map (·.valuePaise)) shipped
  let rates := lines.map (·.rates intraState)
  let amounts := lineAmounts grosses rates pricingMode roundingPolicy
  let perLine := lines.zipIdx.map fun (line, i) =>
    { key := line.key, shippingPaise := shipped.getD i 0, grossPaise := grosses.getD i 0,
      taxablePaise := (amounts i).taxable, cgstPaise := (amounts i).cgst, sgstPaise := (amounts i).sgst,
      igstPaise := (amounts i).igst,
      roundOffPaise := match pricingMode with
        | .inclusive => grosses.getD i 0 - (amounts i).taxable - (amounts i).cgst - (amounts i).sgst - (amounts i).igst
        | .exclusive => 0 : LineTax }
  let total (f : LineTax → ℤ) := (perLine.map f).sum
  let taxTotal := total (·.cgstPaise) + total (·.sgstPaise) + total (·.igstPaise)
  { lines := perLine, shippingUntaxedPaise := untaxedShipping, taxablePaise := total (·.taxablePaise),
    cgstPaise := total (·.cgstPaise), sgstPaise := total (·.sgstPaise), igstPaise := total (·.igstPaise),
    roundOffPaise := total (·.roundOffPaise), taxPaise := taxTotal,
    taxAddedPaise := pricingMode.added taxTotal,
    taxIncludedPaise := match pricingMode with
      | .exclusive => 0
      | .inclusive => taxTotal }

end NovaCart
