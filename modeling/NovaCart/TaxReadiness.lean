import NovaCart.GstLaws
import NovaCart.TaxEngine

/-! When the GST engine answers, and at which rates.

    `Ready` names the records the answer rests on: the one configuration, its registration, the state of delivery, and
    for each line its classification and the one rule. The engine answers exactly when they exist, so whatever is
    missing or double is refused; and what it answers is `calculate` on the rates of these rules. -/

namespace NovaCart

open Schemes

/-! ### Lists of lookups -/

section Lookups

variable {α β : Type} {f : α → Option β} {l : List α}

theorem mapM_isSome (h : ∀ x ∈ l, ∃ y, f x = some y) : ∃ l', l.mapM f = some l' := by
  induction l with
  | nil => exact ⟨[], rfl⟩
  | cons x l ih =>
    obtain ⟨y, hy⟩ := h x List.mem_cons_self
    obtain ⟨l', hl'⟩ := ih fun z hz => h z (List.mem_cons_of_mem _ hz)
    exact ⟨y :: l', by simp [List.mapM_cons, hy, hl']⟩

theorem getElem?_mapM {l' : List β} (h : l.mapM f = some l') (i : ℕ) : l'[i]? = l[i]?.bind f := by
  induction l generalizing l' i with
  | nil =>
    simp only [List.mapM_nil, Option.pure_def, Option.some.injEq] at h
    subst h
    simp
  | cons x l ih =>
    cases hx : f x with
    | none => simp [List.mapM_cons, hx] at h
    | some y =>
      cases hl : l.mapM f with
      | none => simp [List.mapM_cons, hx, hl] at h
      | some rest =>
        simp only [List.mapM_cons, hx, hl, Option.pure_def, Option.bind_eq_bind, Option.bind_some,
          Option.some.injEq] at h
        subst h
        cases i with
        | zero => simpa using hx.symm
        | succ i => simpa using ih hl i

theorem length_mapM {l' : List β} (h : l.mapM f = some l') : l'.length = l.length := by
  induction l generalizing l' with
  | nil =>
    simp only [List.mapM_nil, Option.pure_def, Option.some.injEq] at h
    simp [← h]
  | cons x l ih =>
    cases hx : f x with
    | none => simp [List.mapM_cons, hx] at h
    | some y =>
      cases hl : l.mapM f with
      | none => simp [List.mapM_cons, hx, hl] at h
      | some rest =>
        simp only [List.mapM_cons, hx, hl, Option.pure_def, Option.bind_eq_bind, Option.bind_some,
          Option.some.injEq] at h
        simp [← h, ih hl]

end Lookups

/-! ### What the answer rests on -/

/-- The one row with a property. -/
def Only {α : Type} (rows : List α) (p : α → Prop) (x : α) : Prop := x ∈ rows ∧ p x ∧ ∀ y ∈ rows, p y → y = x

theorem filter_eq_singleton {α : Type} {rows : List α} (hn : rows.Nodup) {p : α → Prop} [DecidablePred p] {x : α} :
    rows.filter (p ·) = [x] ↔ Only rows p x := by
  constructor
  · intro h
    have hmem : ∀ y, y ∈ rows ∧ p y ↔ y = x := fun y => by
      have hfilter : y ∈ rows.filter (p ·) ↔ y ∈ rows ∧ decide (p y) = true := List.mem_filter
      rw [h] at hfilter
      simpa using hfilter.symm
    exact ⟨((hmem x).mpr rfl).1, ((hmem x).mpr rfl).2, fun y hy hp => (hmem y).mp ⟨hy, hp⟩⟩
  · rintro ⟨hx, hp, hall⟩
    have hperm : (rows.filter (p ·)).Perm [x] := by
      rw [List.perm_ext_iff_of_nodup (hn.filter _) (List.nodup_singleton x)]
      intro y
      rw [List.mem_filter, List.mem_singleton, decide_eq_true_eq]
      constructor
      · rintro ⟨hy, hpy⟩
        exact hall y hy hpy
      · rintro rfl
        exact ⟨hx, hp⟩
    exact List.perm_singleton.mp hperm

/-- One of the four treatments the engine knows. -/
def Treatment.Known (t : Treatment) : Prop := ∀ text, t ≠ .other text

/-- The line is classified, and one rule of its approved classification covers the date. -/
structure TaxLine.RuledBy (repo : TaxRepository) (asOf : ℤ) (line : TaxLine) (classification : TaxClassification)
    (rule : DatedRecord RuleRates) : Prop where
  classified : line.classificationId = some classification.id
  found : classification ∈ repo.classifications.rows
  approved : classification.status = .approved
  only : Only repo.rules.rows
    (fun rule => rule.parentId = classification.id ∧ TaxRepository.coversOn asOf rule) rule
  known : rule.terms.treatment.Known

/-- Everything the engine needs. -/
structure TaxRepository.Ready (repo : TaxRepository) (request : TaxRequest) (config : DatedRecord TaxConfiguration)
    (registration : GstRegistration) (place : GstState) : Prop where
  only : Only repo.settings.rows (TaxRepository.coversOn request.asOf) config
  registered : registration ∈ repo.registrations.rows ∧ registration.id = config.parentId
  approved : registration.status = .approved
  valid : registration.details.valid.covers request.asOf
  india : isIndia request.deliveryCountry = true
  resolved : resolveState request.deliveryState = some place
  ruled : ∀ line ∈ request.lines, ∃ classification rule, line.RuledBy repo request.asOf classification rule

namespace TaxRepository

variable {repo : TaxRepository} {asOf : ℤ}

theorem nodup_rows {α : Type} [Keyed α Id] (t : Table α) : t.rows.Nodup := List.Nodup.of_map _ t.nodup

theorem approvedSettingsCovering_eq {config : DatedRecord TaxConfiguration} :
    repo.approvedSettingsCovering asOf = [config] ↔ Only repo.settings.rows (coversOn asOf) config :=
  filter_eq_singleton (nodup_rows repo.settings)

theorem approvedRulesCovering_eq {ids : List Id} {cid : Id} (hid : cid ∈ ids) {rule : DatedRecord RuleRates} :
    repo.approvedRulesCovering ids asOf cid = [rule]
      ↔ Only repo.rules.rows (fun rule => rule.parentId = cid ∧ coversOn asOf rule) rule := by
  rw [← filter_eq_singleton (nodup_rows repo.rules), approvedRulesCovering]
  have hsame : (repo.rules.rows.filter fun rule => rule.parentId = cid ∧ rule.parentId ∈ ids ∧ coversOn asOf rule)
      = repo.rules.rows.filter fun rule => rule.parentId = cid ∧ coversOn asOf rule := by
    refine List.filter_congr fun rule _ => ?_
    by_cases h : rule.parentId = cid
    · simp [h, hid]
    · simp [h]
  rw [hsame]

/-- The business's own setup has no blocker when its configuration and its registration are there. -/
theorem evaluateConfig_nil :
    (repo.evaluateConfig asOf).2 = [] ↔ ∃ config registration, Only repo.settings.rows (coversOn asOf) config
      ∧ repo.registrations.get? config.parentId = some registration ∧ registration.status = .approved
      ∧ registration.details.valid.covers asOf := by
  have honly : ∀ config, Only repo.settings.rows (coversOn asOf) config ↔ repo.approvedSettingsCovering asOf = [config] :=
    fun config => approvedSettingsCovering_eq.symm
  simp only [honly, evaluateConfig]
  rcases repo.approvedSettingsCovering asOf with _ | ⟨config, _ | ⟨config', rest⟩⟩
  · simp
  · simp only [List.cons.injEq, and_true]
    cases hr : repo.registrations.get? config.parentId with
    | none => simp [hr]
    | some registration =>
      have hvalid : registration.details.valid.covers asOf
          ↔ ¬(asOf < registration.details.valid.start ∨ ∃ t ∈ registration.details.valid.stop, t ≤ asOf) := by
        simp only [Period.covers, not_or, not_lt, not_exists, not_and, not_le]
      constructor
      · intro h
        refine ⟨config, registration, rfl, hr, ?_⟩
        dsimp only at h
        split_ifs at h with ha hv
        exact ⟨not_not.mp ha, hvalid.mpr hv⟩
      · rintro ⟨config', registration', rfl, hr', ha, hv⟩
        rw [hr] at hr'
        cases hr'
        dsimp only
        rw [if_neg (not_not.mpr ha), if_neg (hvalid.mp hv)]
  · simp

theorem evaluateConfig_fst {config : DatedRecord TaxConfiguration}
    (h : Only repo.settings.rows (coversOn asOf) config) : (repo.evaluateConfig asOf).1 = some config := by
  have hcover := approvedSettingsCovering_eq.mpr h
  simp only [evaluateConfig, hcover]
  cases repo.registrations.get? config.parentId with
  | none => rfl
  | some registration =>
    dsimp only
    split_ifs <;> rfl

theorem Treatment.known_iff (t : Treatment) : t.Known ↔ t = .taxable ∨ t = .exempt ∨ t = .nilRated ∨ t = .nonGst := by
  cases t <;> simp [Treatment.Known]

/-- A line has no blocker when it is classified and ruled. -/
theorem lineBlocker_eq_none {ids : List Id} {line : TaxLine} (hid : ∀ cid ∈ line.classificationId, cid ∈ ids) :
    repo.lineBlocker ids asOf line = none ↔ ∃ classification rule, line.RuledBy repo asOf classification rule := by
  unfold lineBlocker
  cases hc : line.classificationId with
  | none =>
    simp only [reduceCtorEq, false_iff]
    rintro ⟨classification, rule, h⟩
    exact absurd (hc.symm.trans h.classified) (by simp)
  | some cid =>
    have hmem : cid ∈ ids := hid cid hc
    simp only [classificationStatuses, hmem, if_true]
    constructor
    · intro h
      split_ifs at h with hs
      rw [not_not, Option.map_eq_some_iff] at hs
      obtain ⟨classification, hget, happroved⟩ := hs
      obtain ⟨hrow, rfl⟩ := Table.get?_eq_some.mp hget
      split at h
      · cases h
      · rename_i rule hrules
        refine ⟨classification, rule, hc, hrow, happroved, (approvedRulesCovering_eq hmem).mp hrules, ?_⟩
        intro text ht
        rw [ht] at h
        cases h
      · cases h
    · rintro ⟨classification, rule, h⟩
      obtain rfl : cid = classification.id := by simpa [hc] using h.classified
      have hget : repo.classifications.get? classification.id = some classification := Table.get?_of_mem h.found
      have hrules := (approvedRulesCovering_eq hmem).mpr h.only
      have hnone : ¬((repo.classifications.get? classification.id).map (·.status) ≠ some TaxStatus.approved) := by
        rw [hget, Option.map_some, h.approved]
        exact not_not.mpr rfl
      rw [if_neg hnone]
      simp only [hrules]
      rcases (Treatment.known_iff _).mp h.known with ht | ht | ht | ht <;> rw [ht]

theorem evaluateReadiness_nil {lines : List TaxLine} :
    repo.evaluateReadiness lines asOf = []
      ↔ ∀ line ∈ lines, ∃ classification rule, line.RuledBy repo asOf classification rule := by
  rw [evaluateReadiness, List.filterMap_eq_nil_iff]
  refine forall₂_congr fun line hline => ?_
  rw [Option.map_eq_none_iff, lineBlocker_eq_none]
  intro cid hcid
  exact List.mem_filterMap.mpr ⟨line, hline, hcid⟩

end TaxRepository

/-! ### The engine -/

section Engine

variable {repo : TaxRepository} {request : TaxRequest} {result : TaxResult}

open TaxRepository

theorem gstTaxEngine_of_ready {config : DatedRecord TaxConfiguration} {registration : GstRegistration} {place : GstState}
    (h : repo.Ready request config registration place) :
    gstTaxEngine repo request = gstResult repo request config registration place := by
  have hget : repo.registrations.get? config.parentId = some registration :=
    Table.get?_eq_some.mpr h.registered
  have hconfig : (repo.evaluateConfig request.asOf).2 = [] :=
    evaluateConfig_nil.mpr ⟨config, registration, h.only, hget, h.approved, h.valid⟩
  have hlines := evaluateReadiness_nil.mpr h.ruled
  simp only [gstTaxEngine, evaluateConfig_fst h.only, Option.bind_some, hget, Option.map_some, hconfig, hlines,
    List.append_nil, ne_eq, not_true_eq_false, if_false, h.india, h.resolved, Bool.true_eq_false]

/-- Whatever is answered was worked out from records that are all there. -/
theorem ready_of_gstTaxEngine (h : gstTaxEngine repo request = .ok result) :
    ∃ config registration place, repo.Ready request config registration place
      ∧ gstResult repo request config registration place = .ok result := by
  simp only [gstTaxEngine] at h
  cases hfound : (repo.evaluateConfig request.asOf).1.bind fun config =>
      (repo.registrations.get? config.parentId).map fun r => (config, r) with
  | none => simp [hfound] at h
  | some found =>
    obtain ⟨config, registration⟩ := found
    simp only [hfound] at h
    split_ifs at h with hblock hcountry
    rw [ne_eq, not_not, List.append_eq_nil_iff] at hblock
    cases hplace : resolveState request.deliveryState with
    | none => simp [hplace] at h
    | some place =>
      simp only [hplace] at h
      obtain ⟨config', registration', honly, hget, happroved, hvalid⟩ := evaluateConfig_nil.mp hblock.1
      rw [evaluateConfig_fst honly, Option.bind_some, hget, Option.map_some, Option.some.injEq] at hfound
      cases hfound
      exact ⟨config, registration, place, ⟨honly, Table.get?_eq_some.mp hget, happroved, hvalid, by simpa using hcountry,
        hplace, evaluateReadiness_nil.mp hblock.2⟩, h⟩

/-- The line as it is priced under a rule. -/
def TaxLine.under (line : TaxLine) (rule : DatedRecord RuleRates) (index : ℕ) : CalcLine :=
  ⟨index, line.valuePaise, rule.terms.treatment, rule.terms.cgstRate, rule.terms.sgstUtgstRate, rule.terms.igstRate⟩

/-- The lines at the rates of the rules that cover the date. -/
def PricedBy (repo : TaxRepository) (request : TaxRequest) (calcLines : List CalcLine) : Prop :=
  calcLines.length = request.lines.length ∧ ∀ (i : ℕ) (line : TaxLine), request.lines[i]? = some line →
    ∃ classification rule, line.RuledBy repo request.asOf classification rule
      ∧ calcLines[i]? = some (line.under rule i)

/-- What the snapshot says of one line: what was asked, the rule, and what was calculated. -/
structure SnapshotLine.Reports (repo : TaxRepository) (asOf : ℤ) (line : TaxLine) (tax : LineTax)
    (out : SnapshotLine) : Prop where
  ruled : ∃ classification rule, line.RuledBy repo asOf classification rule
    ∧ out.rates = ⟨rule.terms.cgstRate, rule.terms.sgstUtgstRate, rule.terms.igstRate⟩
    ∧ out.treatment = rule.terms.treatment
    ∧ out.hsnKind = classification.details.kind ∧ out.hsnCode = classification.details.code
  product : out.productId = line.productId ∧ out.classificationId = line.classificationId
    ∧ out.quantity = line.quantity ∧ out.unitPricePaise = line.unitPricePaise
    ∧ out.discountPaise = line.discountPaise ∧ out.valuePaise = line.valuePaise
  gross : out.shippingPaise = tax.shippingPaise ∧ out.grossPaise = tax.grossPaise
  amounts : out.taxablePaise = tax.taxablePaise ∧ out.cgstPaise = tax.cgstPaise ∧ out.sgstPaise = tax.sgstPaise
    ∧ out.igstPaise = tax.igstPaise ∧ out.taxPaise = tax.taxPaise ∧ out.roundOffPaise = tax.roundOffPaise

/-- The snapshot of a calculation. -/
structure GstSnapshot.Reports (repo : TaxRepository) (request : TaxRequest) (config : DatedRecord TaxConfiguration)
    (registration : GstRegistration) (place : GstState) (result : GstResult) (snapshot : GstSnapshot) : Prop where
  config : snapshot.pricingMode = config.terms.pricingMode ∧ snapshot.roundingPolicy = config.terms.roundingPolicy
    ∧ snapshot.shippingTaxTreatment = config.terms.shippingTaxTreatment
  seller : snapshot.registrationId = registration.id ∧ snapshot.sellerStateCode = registration.details.stateCode
  place : snapshot.placeOfSupply = place ∧ snapshot.intraState = decide (place.code = registration.details.stateCode)
  length : snapshot.lines.length = result.lines.length
  lines : ∀ (i : ℕ) (line : TaxLine) (tax : LineTax), request.lines[i]? = some line → result.lines[i]? = some tax →
    ∃ out : SnapshotLine, snapshot.lines[i]? = some out ∧ out.Reports repo request.asOf line tax
  shipping : snapshot.shippingPaise = request.shippingPaise
    ∧ snapshot.shippingUntaxedPaise = result.shippingUntaxedPaise
  totals : snapshot.totals = ⟨result.taxablePaise, result.cgstPaise, result.sgstPaise, result.igstPaise, result.taxPaise,
    result.taxAddedPaise, result.taxIncludedPaise, result.roundOffPaise⟩
  tax : snapshot.taxPaise = result.taxAddedPaise

theorem calcLine_eq {ids : List Id} {asOf : ℤ} {line : TaxLine} {classification : TaxClassification}
    {rule : DatedRecord RuleRates} (h : line.RuledBy repo asOf classification rule) (hid : classification.id ∈ ids)
    (index : ℕ) : calcLine repo ids asOf line index = some (line.under rule index, rule) := by
  simp only [calcLine, h.classified, Option.bind_eq_bind, Option.bind_some, (approvedRulesCovering_eq hid).mpr h.only,
    List.head?_cons]
  rfl

theorem TaxLine.RuledBy.get?_classification {asOf : ℤ} {line : TaxLine} {classification : TaxClassification}
    {rule : DatedRecord RuleRates} (h : line.RuledBy repo asOf classification rule) :
    repo.classifications.get? classification.id = some classification := Table.get?_of_mem h.found

theorem snapshotLine_reports {asOf : ℤ} {line : TaxLine} {classification : TaxClassification}
    {rule : DatedRecord RuleRates} (h : line.RuledBy repo asOf classification rule) (tax : LineTax) (i : ℕ) :
    ∃ out, snapshotLine repo line (line.under rule i, rule) tax = some out ∧ out.Reports repo asOf line tax := by
  simp only [snapshotLine, h.classified, Option.bind_eq_bind, Option.bind_some, h.get?_classification]
  exact ⟨_, rfl, ⟨classification, rule, h, rfl, rfl, rfl, rfl⟩, ⟨rfl, h.classified.symm, rfl, rfl, rfl, rfl⟩, ⟨rfl, rfl⟩,
    ⟨rfl, rfl, rfl, rfl, rfl, rfl⟩⟩

/-- Ready, and no line cheaper than its discount: the answer is the calculation. -/
theorem gstResult_eq {config : DatedRecord TaxConfiguration} {registration : GstRegistration} {place : GstState}
    (h : repo.Ready request config registration place) (hvalues : ∀ line ∈ request.lines, 0 ≤ line.valuePaise)
    (hshipping : 0 ≤ request.shippingPaise) :
    ∃ (calcLines : List CalcLine) (snapshot : GstSnapshot), PricedBy repo request calcLines
      ∧ snapshot.Reports repo request config registration place
          (calculate calcLines request.shippingPaise (decide (place.code = registration.details.stateCode))
            config.terms.pricingMode config.terms.shippingTaxTreatment config.terms.roundingPolicy)
      ∧ gstResult repo request config registration place = .ok ⟨snapshot.taxPaise, .gst snapshot⟩ := by
  set ids := request.lines.filterMap (·.classificationId) with hids
  have hin : ∀ line ∈ request.lines, ∀ classification rule, line.RuledBy repo request.asOf classification rule →
      classification.id ∈ ids := fun line hline classification rule hruled =>
    List.mem_filterMap.mpr ⟨line, hline, hruled.classified⟩
  -- the lines are priced
  obtain ⟨priced, hpriced⟩ : ∃ priced, (request.lines.zipIdx.mapM fun p =>
      calcLine repo ids request.asOf p.1 p.2) = some priced := by
    refine mapM_isSome fun p hp => ?_
    obtain ⟨i, hi⟩ := List.getElem?_of_mem hp
    rw [List.getElem?_zipIdx, Option.map_eq_some_iff] at hi
    obtain ⟨line, hline, rfl⟩ := hi
    obtain ⟨classification, rule, hruled⟩ := h.ruled line (List.mem_of_getElem? hline)
    exact ⟨_, calcLine_eq hruled (hin line (List.mem_of_getElem? hline) _ _ hruled) _⟩
  have hget : ∀ (i : ℕ) (line : TaxLine), request.lines[i]? = some line → ∃ classification rule,
      line.RuledBy repo request.asOf classification rule ∧ priced[i]? = some (line.under rule i, rule) := by
    intro i line hi
    have hmem := List.mem_of_getElem? hi
    obtain ⟨classification, rule, hruled⟩ := h.ruled line hmem
    refine ⟨classification, rule, hruled, ?_⟩
    rw [getElem?_mapM hpriced, List.getElem?_zipIdx, hi]
    simpa using calcLine_eq hruled (hin line hmem _ _ hruled) i
  have hlength : priced.length = request.lines.length := by simpa using length_mapM hpriced
  have hcalc : PricedBy repo request (priced.map Prod.fst) := by
    refine ⟨by simp [hlength], fun i line hi => ?_⟩
    obtain ⟨classification, rule, hruled, hp⟩ := hget i line hi
    exact ⟨classification, rule, hruled, by simp [hp]⟩
  have hnonneg : ∀ line ∈ priced.map Prod.fst, 0 ≤ line.valuePaise := by
    intro calc' hmem
    obtain ⟨i, hi⟩ := List.getElem?_of_mem hmem
    have hlt : i < request.lines.length := by
      rw [← hcalc.1]
      exact (List.getElem?_eq_some_iff.mp hi).1
    obtain ⟨classification, rule, -, hp⟩ := hcalc.2 i _ (List.getElem?_eq_getElem hlt)
    rw [hp, Option.some.injEq] at hi
    rw [← hi]
    exact hvalues _ (List.getElem_mem hlt)
  set result' := calculate (priced.map Prod.fst) request.shippingPaise
    (decide (place.code = registration.details.stateCode)) config.terms.pricingMode config.terms.shippingTaxTreatment
    config.terms.roundingPolicy with hresult
  have hresultLength : result'.lines.length = request.lines.length := by
    rw [hresult, length_calculate_lines, List.length_map, hlength]
  -- and each of them is reported
  obtain ⟨linesOut, hout⟩ : ∃ linesOut, ((request.lines.zip (priced.zip result'.lines)).mapM fun p =>
      snapshotLine repo p.1 p.2.1 p.2.2) = some linesOut := by
    refine mapM_isSome fun p hp => ?_
    obtain ⟨classification, rule, hruled⟩ := h.ruled p.1 (List.of_mem_zip hp).1
    simp only [snapshotLine, hruled.classified, Option.bind_eq_bind, Option.bind_some, hruled.get?_classification]
    exact ⟨_, rfl⟩
  have hadded : 0 ≤ result'.taxAddedPaise := taxAdded_nonneg _ _ _ hnonneg hshipping
  refine ⟨priced.map Prod.fst, gstSnapshot request config registration place result' linesOut, hcalc, ?_, ?_⟩
  rotate_left
  · simp only [gstResult, ← hids]
    rw [hpriced]
    simp only [← hresult]
    rw [hout]
    simp only [TaxResult.make, not_lt.mpr hadded, if_false]
    rfl
  · refine ⟨⟨rfl, rfl, rfl⟩, ⟨rfl, rfl⟩, ⟨rfl, rfl⟩, ?_, ?_, ⟨rfl, rfl⟩, rfl, rfl⟩
    · have := length_mapM hout
      simp only [List.length_zip, hlength, hresultLength, min_self] at this
      exact this.trans hresultLength.symm
    · intro i line tax hi htax
      obtain ⟨classification, rule, hruled, hp⟩ := hget i line hi
      have hzip : (request.lines.zip (priced.zip result'.lines))[i]? = some (line, (line.under rule i, rule), tax) :=
        List.getElem?_zip_eq_some.mpr ⟨hi, List.getElem?_zip_eq_some.mpr ⟨hp, htax⟩⟩
      obtain ⟨out, hline, hreports⟩ := snapshotLine_reports hruled tax i
      refine ⟨out, ?_, hreports⟩
      change linesOut[i]? = _
      rw [getElem?_mapM hout, hzip]
      exact hline

/-- The engine answers exactly when every record it needs is there once, and its answer is the calculation at the rates
    of the rules: CGST and SGST in the seller's own state, IGST elsewhere. -/
theorem tax_readiness_exact (hvalues : ∀ line ∈ request.lines, 0 ≤ line.valuePaise)
    (hshipping : 0 ≤ request.shippingPaise) :
    ((∃ result, gstTaxEngine repo request = .ok result)
        ↔ ∃ config registration place, repo.Ready request config registration place)
      ∧ ∀ result, gstTaxEngine repo request = .ok result →
        ∃ config registration place calcLines snapshot, repo.Ready request config registration place
          ∧ result = ⟨snapshot.taxPaise, .gst snapshot⟩
          ∧ PricedBy repo request calcLines
          ∧ snapshot.Reports repo request config registration place
              (calculate calcLines request.shippingPaise (decide (place.code = registration.details.stateCode))
                config.terms.pricingMode config.terms.shippingTaxTreatment config.terms.roundingPolicy)
          ∧ ∀ out ∈ snapshot.lines, (place.code = registration.details.stateCode → out.igstPaise = 0)
              ∧ (place.code ≠ registration.details.stateCode → out.cgstPaise = 0 ∧ out.sgstPaise = 0) := by
  refine ⟨⟨?_, ?_⟩, ?_⟩
  · rintro ⟨result, h⟩
    obtain ⟨config, registration, place, hready, -⟩ := ready_of_gstTaxEngine h
    exact ⟨config, registration, place, hready⟩
  · rintro ⟨config, registration, place, hready⟩
    obtain ⟨calcLines, snapshot, -, -, hok⟩ := gstResult_eq hready hvalues hshipping
    exact ⟨_, (gstTaxEngine_of_ready hready).trans hok⟩
  · intro result h
    obtain ⟨config, registration, place, hready, hresult⟩ := ready_of_gstTaxEngine h
    obtain ⟨calcLines, snapshot, hpriced, hreports, hok⟩ := gstResult_eq hready hvalues hshipping
    rw [hok, Except.ok.injEq] at hresult
    refine ⟨config, registration, place, calcLines, snapshot, hready, hresult.symm, hpriced, hreports, ?_⟩
    intro out hmem
    obtain ⟨i, hi⟩ := List.getElem?_of_mem hmem
    have hlt : i < calcLines.length := by
      have := (List.getElem?_eq_some_iff.mp hi).1
      rwa [hreports.length, length_calculate_lines] at this
    have hcalc := List.getElem?_eq_getElem hlt
    obtain ⟨out', hout', hreport⟩ := hreports.lines i _ _ (List.getElem?_eq_getElem (hpriced.1 ▸ hlt))
      (by rw [getElem?_calculate_lines, hcalc]; rfl)
    obtain rfl : out' = out := by simpa [hi] using hout'.symm
    obtain ⟨-, hc, hs, hgst, -⟩ := hreport.amounts
    refine ⟨fun heq => ?_, fun hne => ⟨?_, ?_⟩⟩
    · exact hgst.trans ((lineTaxOf_side _ _ _ hcalc).1 (by simp [heq]))
    · exact hc.trans ((lineTaxOf_side _ _ _ hcalc).2 (by simp [hne])).1
    · exact hs.trans ((lineTaxOf_side _ _ _ hcalc).2 (by simp [hne])).2

end Engine

/-! ### A shop in Maharashtra -/

/-- One rule at 18 %, one registration and one configuration. -/
def shopMaster : TaxRepository where
  classifications := ⟨[⟨1, .approved, ⟨"hsn", "8517", "phones"⟩, some "notification", none, none⟩], by decide⟩
  rules := ⟨[⟨1, 1, .approved, ⟨.taxable, ⟨9000⟩, ⟨9000⟩, ⟨18000⟩⟩, .openFrom 0, some "notification", none, none⟩],
    by decide⟩
  registrations := ⟨[⟨1, .approved, ⟨"27AAAAA0000A1Z5", "Shop", "27", .openFrom 0⟩, none, none, none⟩], by decide⟩
  settings := ⟨[⟨1, 1, .approved, ⟨.exclusive, "delivery_state", .taxableWithGoods, .lineHalfUp⟩, .openFrom 0,
    some "decision", none, none⟩], by decide⟩

/-- Two phones to Mumbai. -/
def mumbaiRequest : TaxRequest where
  lines := [⟨7, 2, 50000, some 1, 0⟩]
  subtotalPaise := 100000
  shippingPaise := 4900
  asOf := 20000
  deliveryState := some "Maharashtra"
  deliveryCountry := some "in"

theorem tax_ready_for_mumbai : ∃ result, gstTaxEngine shopMaster mumbaiRequest = .ok result := by
  refine (tax_readiness_exact (by decide) (by decide)).1.mpr ⟨_, _, ⟨"27", "Maharashtra"⟩,
    ⟨⟨List.mem_singleton_self _, by decide, by decide⟩, ⟨List.mem_singleton_self _, rfl⟩, rfl, by decide, by decide,
      by decide +kernel, ?_⟩⟩
  intro line hline
  obtain rfl := List.mem_singleton.mp hline
  exact ⟨_, _, ⟨rfl, List.mem_singleton_self _, rfl, ⟨List.mem_singleton_self _, by decide, by decide⟩, fun _ => by simp⟩⟩

end NovaCart
