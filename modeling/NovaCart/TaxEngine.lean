import NovaCart.GstCalc
import NovaCart.TaxMaster

/-! The tax engines: what checkout asks for, and what they answer.

    `GstTaxEngine` reads the master, collects every reason why tax cannot be worked out, and calculates only when
    there is none. The place of supply is the delivery state, read from what the customer wrote. -/

namespace NovaCart

open Schemes

/-! ### States -/

structure GstState where
  code : String
  name : String
  deriving DecidableEq, Repr

/-- `STATES` -/
def gstStates : List GstState :=
  [⟨"01", "Jammu and Kashmir"⟩, ⟨"02", "Himachal Pradesh"⟩, ⟨"03", "Punjab"⟩, ⟨"04", "Chandigarh"⟩,
    ⟨"05", "Uttarakhand"⟩, ⟨"06", "Haryana"⟩, ⟨"07", "Delhi"⟩, ⟨"08", "Rajasthan"⟩, ⟨"09", "Uttar Pradesh"⟩,
    ⟨"10", "Bihar"⟩, ⟨"11", "Sikkim"⟩, ⟨"12", "Arunachal Pradesh"⟩, ⟨"13", "Nagaland"⟩, ⟨"14", "Manipur"⟩,
    ⟨"15", "Mizoram"⟩, ⟨"16", "Tripura"⟩, ⟨"17", "Meghalaya"⟩, ⟨"18", "Assam"⟩, ⟨"19", "West Bengal"⟩,
    ⟨"20", "Jharkhand"⟩, ⟨"21", "Odisha"⟩, ⟨"22", "Chhattisgarh"⟩, ⟨"23", "Madhya Pradesh"⟩, ⟨"24", "Gujarat"⟩,
    ⟨"26", "Dadra and Nagar Haveli and Daman and Diu"⟩, ⟨"27", "Maharashtra"⟩, ⟨"29", "Karnataka"⟩, ⟨"30", "Goa"⟩,
    ⟨"31", "Lakshadweep"⟩, ⟨"32", "Kerala"⟩, ⟨"33", "Tamil Nadu"⟩, ⟨"34", "Puducherry"⟩,
    ⟨"35", "Andaman and Nicobar Islands"⟩, ⟨"36", "Telangana"⟩, ⟨"37", "Andhra Pradesh"⟩, ⟨"38", "Ladakh"⟩,
    ⟨"97", "Other Territory"⟩]

/-- `_ALIASES` -/
def stateAliases : List (String × String) :=
  [("orissa", "21"), ("uttaranchal", "05"), ("pondicherry", "34"), ("new delhi", "07"), ("nct of delhi", "07"),
    ("nct delhi", "07"), ("delhi ncr", "07"), ("j and k", "01"), ("jammu kashmir", "01"), ("chattisgarh", "22"),
    ("telengana", "36"), ("tamilnadu", "33"), ("andaman nicobar", "35"), ("andaman nicobar islands", "35"),
    ("andaman and nicobar", "35"), ("dadra and nagar haveli", "26"), ("daman and diu", "26"),
    ("dadra nagar haveli", "26"), ("dnhdd", "26"), ("dnh and dd", "26"), ("andaman and nicobar islands", "35"),
    ("dadra and nagar haveli and daman and diu", "26"), ("other territory", "97")]

/-- `_ABBREVIATIONS` -/
def stateAbbreviations : List (String × String) :=
  [("an", "35"), ("ap", "37"), ("ar", "12"), ("as", "18"), ("br", "10"), ("ch", "04"), ("ct", "22"), ("cg", "22"),
    ("dn", "26"), ("dd", "26"), ("dh", "26"), ("dl", "07"), ("ga", "30"), ("gj", "24"), ("hr", "06"), ("hp", "02"),
    ("jk", "01"), ("jh", "20"), ("ka", "29"), ("kl", "32"), ("la", "38"), ("ld", "31"), ("mp", "23"), ("mh", "27"),
    ("mn", "14"), ("ml", "17"), ("mz", "15"), ("nl", "13"), ("or", "21"), ("od", "21"), ("py", "34"), ("pb", "03"),
    ("rj", "08"), ("sk", "11"), ("tn", "33"), ("ts", "36"), ("tg", "36"), ("tr", "16"), ("up", "09"), ("uk", "05"),
    ("ut", "05"), ("wb", "19")]

/-- `casefold`, as far as it gives a letter from a to z; what it makes of any other character is dropped next. -/
def casefold (c : Char) : List Char :=
  if 65 ≤ c.toNat ∧ c.toNat ≤ 90 then [Char.ofNat (c.toNat + 32)]
  else
    match c.toNat with
    | 0xdf => ['s', 's']
    | 0x130 => ['i', Char.ofNat 0x307]
    | 0x149 => [Char.ofNat 0x2bc, 'n']
    | 0x17f => ['s']
    | 0x1f0 => ['j', Char.ofNat 0x30c]
    | 0x1e96 => ['h', Char.ofNat 0x331]
    | 0x1e97 => ['t', Char.ofNat 0x308]
    | 0x1e98 => ['w', Char.ofNat 0x30a]
    | 0x1e99 => ['y', Char.ofNat 0x30a]
    | 0x1e9a => ['a', Char.ofNat 0x2be]
    | 0x1e9e => ['s', 's']
    | 0x212a => ['k']
    | 0xfb00 => ['f', 'f']
    | 0xfb01 => ['f', 'i']
    | 0xfb02 => ['f', 'l']
    | 0xfb03 => ['f', 'f', 'i']
    | 0xfb04 => ['f', 'f', 'l']
    | 0xfb05 => ['s', 't']
    | 0xfb06 => ['s', 't']
    | _ => [c]

/-- `[a-z0-9]` -/
def isKeyChar (c : Char) : Bool := (97 ≤ c.toNat ∧ c.toNat ≤ 122) ∨ (48 ≤ c.toNat ∧ c.toNat ≤ 57)

/-- The words of a text: everything else than letters and digits separates them. -/
def keyWords (text : List Char) : List (List Char) :=
  let folded := (text.flatMap casefold).flatMap fun c => if c = '&' then " and ".toList else [c]
  (folded.splitOnP fun c => !isKeyChar c).filter (· ≠ [])

/-- "state of", "union territory of" and "ut of" before a name. -/
def dropTitle (words : List (List Char)) : List (List Char) :=
  match words with
  | ['s', 't', 'a', 't', 'e'] :: ['o', 'f'] :: w :: ws => w :: ws
  | ['u', 'n', 'i', 'o', 'n'] :: ['t', 'e', 'r', 'r', 'i', 't', 'o', 'r', 'y'] :: ['o', 'f'] :: w :: ws => w :: ws
  | ['u', 't'] :: ['o', 'f'] :: w :: ws => w :: ws
  | ws => ws

/-- `_normalise` -/
def normaliseState (text : String) : List Char := List.intercalate [' '] (dropTitle (keyWords text.toList))

/-- `BY_CODE` -/
def stateByCode (code : List Char) : Option GstState := gstStates.find? fun s => s.code.toList = code

/-- `_BY_NORMALISED`: the abbreviations were entered last, the names first. -/
def codeByName (key : List Char) : Option String :=
  ((stateAbbreviations ++ stateAliases).find? fun p => p.1.toList = key).map Prod.snd
    <|> (gstStates.find? fun s => normaliseState s.name = key).map GstState.code

/-- `resolve_state` -/
def resolveState (text : Option String) : Option GstState := do
  let text ← text
  if text = "" then none
  else
    let key := normaliseState text
    match stateByCode key with
    | some s => some s
    | none => do
      let code ← codeByName key
      stateByCode code.toList

example : resolveState (some "state of Jammu & Kashmir") = some ⟨"01", "Jammu and Kashmir"⟩ := by decide +kernel

/-- `upper`, of a character that may become an I or an N. -/
def upperChar (c : Char) : Char :=
  if c = 'i' ∨ c.toNat = 0x131 then 'I' else if c = 'n' then 'N' else c

/-- The country, whatever its case, is India. -/
def isIndia (country : Option String) : Bool := (country.getD "").toList.map upperChar = ['I', 'N']

/-! ### Requests and answers -/

structure TaxLine where
  productId : Id
  quantity : ℕ
  unitPricePaise : ℤ
  classificationId : Option Id
  discountPaise : ℤ
  deriving DecidableEq, Repr

structure TaxRequest where
  lines : List TaxLine
  subtotalPaise : ℤ
  shippingPaise : ℤ
  asOf : ℤ
  deliveryState : Option String
  deliveryCountry : Option String

inductive BlockReason
  | missingClassification
  | unapprovedClassification
  | noApplicableRule
  | ambiguousRule
  | unknownTreatment
  | noApprovedSettings
  | ambiguousSettings
  | registrationNotApproved
  | registrationNotValidOnDate
  deriving DecidableEq, Repr

structure TaxBlocker where
  productId : Option Id
  reason : BlockReason
  deriving DecidableEq, Repr

inductive TaxError
  | notConfigured
  | engineUnavailable
  | deliveryCountryNotSupported
  | deliveryStateUnknown (state : Option String)
  | blocked (blockers : List TaxBlocker)
  deriving DecidableEq, Repr

/-- One line of the snapshot. -/
structure SnapshotLine where
  productId : Id
  classificationId : Option Id
  hsnKind : String
  hsnCode : String
  treatment : Treatment
  quantity : ℕ
  unitPricePaise : ℤ
  discountPaise : ℤ
  valuePaise : ℤ
  shippingPaise : ℤ
  grossPaise : ℤ
  taxablePaise : ℤ
  cgstPaise : ℤ
  sgstPaise : ℤ
  igstPaise : ℤ
  taxPaise : ℤ
  roundOffPaise : ℤ
  rates : Rates
  deriving DecidableEq, Repr

structure SnapshotTotals where
  taxablePaise : ℤ
  cgstPaise : ℤ
  sgstPaise : ℤ
  igstPaise : ℤ
  taxPaise : ℤ
  taxAddedPaise : ℤ
  taxIncludedPaise : ℤ
  roundOffPaise : ℤ
  deriving DecidableEq, Repr

/-- The snapshot of the GST engine, version 2. -/
structure GstSnapshot where
  asOf : ℤ
  pricingMode : PricingMode
  roundingPolicy : RoundingPolicy
  shippingTaxTreatment : ShippingTreatment
  registrationId : Id
  gstin : String
  legalName : String
  sellerStateCode : String
  placeOfSupply : GstState
  placeOfSupplyBasis : String
  intraState : Bool
  lines : List SnapshotLine
  shippingPaise : ℤ
  shippingTaxed : Bool
  shippingUntaxedPaise : ℤ
  totals : SnapshotTotals
  taxPaise : ℤ
  deriving DecidableEq, Repr

inductive TaxSnapshot
  | flatInterim (ratePercent : ℚ) (taxableValuePaise taxPaise : ℤ) (lines : List (Id × Option Id))
  | gst (snapshot : GstSnapshot)
  deriving DecidableEq, Repr

structure TaxResult where
  taxPaise : ℤ
  snapshot : TaxSnapshot
  deriving DecidableEq, Repr

/-- The check on construction of a result. -/
def TaxResult.make (taxPaise : ℤ) (snapshot : TaxSnapshot) : Except TaxError TaxResult :=
  if taxPaise < 0 then .error .engineUnavailable else .ok ⟨taxPaise, snapshot⟩

/-! ### The master as the engine reads it -/

/-- A rule as the engine reads it. -/
structure RuleRates where
  treatment : Treatment
  cgstRate : Rate
  sgstUtgstRate : Rate
  igstRate : Rate
  deriving DecidableEq, Repr

/-- A tax configuration, with the values the schemas admit. -/
structure TaxConfiguration where
  pricingMode : PricingMode
  placeOfSupplyBasis : String
  shippingTaxTreatment : ShippingTreatment
  roundingPolicy : RoundingPolicy
  deriving DecidableEq, Repr

structure TaxRepository where
  classifications : Table TaxClassification
  rules : Table (DatedRecord RuleRates)
  registrations : Table GstRegistration
  settings : Table (DatedRecord TaxConfiguration)

namespace TaxRepository

variable (repo : TaxRepository)

/-- Approved, and the date is in its half-open range. -/
def coversOn {τ : Type} (asOf : ℤ) (c : DatedRecord τ) : Prop := c.status = .approved ∧ c.effective.covers asOf

instance {τ : Type} (asOf : ℤ) (c : DatedRecord τ) : Decidable (coversOn asOf c) :=
  inferInstanceAs (Decidable (_ ∧ _))

/-- `classification_statuses` -/
def classificationStatuses (ids : List Id) (cid : Id) : Option TaxStatus :=
  if cid ∈ ids then (repo.classifications.get? cid).map (·.status) else none

/-- `approved_rules_covering` -/
def approvedRulesCovering (ids : List Id) (asOf : ℤ) (cid : Id) : List (DatedRecord RuleRates) :=
  repo.rules.rows.filter fun rule => rule.parentId = cid ∧ rule.parentId ∈ ids ∧ coversOn asOf rule

/-- `approved_settings_covering` -/
def approvedSettingsCovering (asOf : ℤ) : List (DatedRecord TaxConfiguration) :=
  repo.settings.rows.filter fun c => coversOn asOf c

/-- `evaluate_config` -/
def evaluateConfig (asOf : ℤ) : Option (DatedRecord TaxConfiguration) × List TaxBlocker :=
  match repo.approvedSettingsCovering asOf with
  | [] => (none, [⟨none, .noApprovedSettings⟩])
  | [config] =>
    match repo.registrations.get? config.parentId with
    | none => (some config, [⟨none, .registrationNotApproved⟩])
    | some registration =>
      if registration.status ≠ .approved then (some config, [⟨none, .registrationNotApproved⟩])
      else if asOf < registration.details.valid.start ∨ (∃ t ∈ registration.details.valid.stop, t ≤ asOf) then
        (some config, [⟨none, .registrationNotValidOnDate⟩])
      else (some config, [])
  | _ => (none, [⟨none, .ambiguousSettings⟩])

/-- Why tax cannot be determined for a line. -/
def lineBlocker (ids : List Id) (asOf : ℤ) (line : TaxLine) : Option BlockReason :=
  match line.classificationId with
  | none => some .missingClassification
  | some cid =>
    if repo.classificationStatuses ids cid ≠ some .approved then some .unapprovedClassification
    else
      match repo.approvedRulesCovering ids asOf cid with
      | [] => some .noApplicableRule
      | [rule] =>
        match rule.terms.treatment with
        | .other _ => some .unknownTreatment
        | _ => none
      | _ => some .ambiguousRule

/-- `evaluate_readiness` -/
def evaluateReadiness (lines : List TaxLine) (asOf : ℤ) : List TaxBlocker :=
  let ids := lines.filterMap (·.classificationId)
  lines.filterMap fun line => (repo.lineBlocker ids asOf line).map fun reason => ⟨some line.productId, reason⟩

end TaxRepository

/-! ### Engines -/

/-- What a line costs after its part of the discount. -/
def TaxLine.valuePaise (line : TaxLine) : ℤ := line.unitPricePaise * line.quantity - line.discountPaise

/-- The line of the calculation, with the rates of the first rule that covers the date. -/
def calcLine (repo : TaxRepository) (ids : List Id) (asOf : ℤ) (line : TaxLine) (index : ℕ) :
    Option (CalcLine × DatedRecord RuleRates) := do
  let cid ← line.classificationId
  let rule ← (repo.approvedRulesCovering ids asOf cid).head?
  some (⟨index, line.valuePaise, rule.terms.treatment, rule.terms.cgstRate, rule.terms.sgstUtgstRate,
    rule.terms.igstRate⟩, rule)

/-- What the snapshot says of a line. -/
def snapshotLine (repo : TaxRepository) (line : TaxLine) (priced : CalcLine × DatedRecord RuleRates) (tax : LineTax) :
    Option SnapshotLine := do
  let cid ← line.classificationId
  let classification ← repo.classifications.get? cid
  some { productId := line.productId, classificationId := line.classificationId,
         hsnKind := classification.details.kind, hsnCode := classification.details.code,
         treatment := priced.2.terms.treatment, quantity := line.quantity, unitPricePaise := line.unitPricePaise,
         discountPaise := line.discountPaise, valuePaise := priced.1.valuePaise, shippingPaise := tax.shippingPaise,
         grossPaise := tax.grossPaise, taxablePaise := tax.taxablePaise, cgstPaise := tax.cgstPaise,
         sgstPaise := tax.sgstPaise, igstPaise := tax.igstPaise, taxPaise := tax.taxPaise,
         roundOffPaise := tax.roundOffPaise,
         rates := ⟨priced.2.terms.cgstRate, priced.2.terms.sgstUtgstRate, priced.2.terms.igstRate⟩ }

/-- The snapshot that is stored with the order. -/
def gstSnapshot (request : TaxRequest) (config : DatedRecord TaxConfiguration) (registration : GstRegistration)
    (place : GstState) (result : GstResult) (linesOut : List SnapshotLine) : GstSnapshot where
  asOf := request.asOf
  pricingMode := config.terms.pricingMode
  roundingPolicy := config.terms.roundingPolicy
  shippingTaxTreatment := config.terms.shippingTaxTreatment
  registrationId := registration.id
  gstin := registration.details.gstin
  legalName := registration.details.legalName
  sellerStateCode := registration.details.stateCode
  placeOfSupply := place
  placeOfSupplyBasis := config.terms.placeOfSupplyBasis
  intraState := place.code = registration.details.stateCode
  lines := linesOut
  shippingPaise := request.shippingPaise
  shippingTaxed := request.shippingPaise ≠ 0 ∧ config.terms.shippingTaxTreatment = .taxableWithGoods
  shippingUntaxedPaise := result.shippingUntaxedPaise
  totals := ⟨result.taxablePaise, result.cgstPaise, result.sgstPaise, result.igstPaise, result.taxPaise,
    result.taxAddedPaise, result.taxIncludedPaise, result.roundOffPaise⟩
  taxPaise := result.taxAddedPaise

/-- The calculation of the GST engine when nothing blocks it. A missing entry of a dictionary would be an error that
    no caller expects, so it is refused as an unusable answer. -/
def gstResult (repo : TaxRepository) (request : TaxRequest) (config : DatedRecord TaxConfiguration)
    (registration : GstRegistration) (place : GstState) : Except TaxError TaxResult :=
  let ids := request.lines.filterMap (·.classificationId)
  match request.lines.zipIdx.mapM fun (line, index) => calcLine repo ids request.asOf line index with
  | none => .error .engineUnavailable
  | some priced =>
    let result := calculate (priced.map Prod.fst) request.shippingPaise (place.code = registration.details.stateCode)
      config.terms.pricingMode config.terms.shippingTaxTreatment config.terms.roundingPolicy
    match (request.lines.zip (priced.zip result.lines)).mapM fun (line, priced, tax) =>
        snapshotLine repo line priced tax with
    | none => .error .engineUnavailable
    | some linesOut =>
      TaxResult.make result.taxAddedPaise (.gst (gstSnapshot request config registration place result linesOut))

/-- `GstTaxEngine.calculate` -/
def gstTaxEngine (repo : TaxRepository) (request : TaxRequest) : Except TaxError TaxResult :=
  let (config?, configBlockers) := repo.evaluateConfig request.asOf
  let blockers := configBlockers ++ repo.evaluateReadiness request.lines request.asOf
  match config?.bind fun config => (repo.registrations.get? config.parentId).map fun r => (config, r) with
  | some (config, registration) =>
    if blockers ≠ [] then .error (.blocked blockers)
    else if isIndia request.deliveryCountry = false then .error .deliveryCountryNotSupported
    else
      match resolveState request.deliveryState with
      | none => .error (.deliveryStateUnknown request.deliveryState)
      | some place => gstResult repo request config registration place
  | none => .error (.blocked blockers)

/-- `FlatInterimTaxEngine.calculate` -/
def flatInterimTaxEngine (ratePercent : ℚ) (request : TaxRequest) : Except TaxError TaxResult :=
  let tax := halfUp (decDiv (decMul request.subtotalPaise ratePercent) 100)
  TaxResult.make tax (.flatInterim ratePercent request.subtotalPaise tax
    (request.lines.map fun line => (line.productId, line.classificationId)))

/-- The engine a deployment has. -/
inductive TaxEngine
  | notConfigured
  | flatInterim (ratePercent : ℚ)
  | gst

def TaxEngine.calculate (repo : TaxRepository) (request : TaxRequest) : TaxEngine → Except TaxError TaxResult
  | .notConfigured => .error .notConfigured
  | .flatInterim ratePercent => flatInterimTaxEngine ratePercent request
  | .gst => gstTaxEngine repo request

end NovaCart
