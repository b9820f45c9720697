import NovaCart.CombinationLaws

/-! What creating variants leaves: the requests stand for combinations, and these are no longer missing. -/

namespace NovaCart.Combinations

open Schemes

variable {c : LetterCase} {p : ProductRows c}

/-! ### The inserts -/

theorem slotFits_of_mem {chosen : List ProductOptionValue} (h : chosen ∈ p.combinations) (position : ℕ) :
    SlotFits p.options position (chosen.map (·.id))[position]? := by
  obtain ⟨hlen, hall⟩ := List.forall₂_iff_get.mp (mem_combinations.mp h)
  unfold SlotFits
  by_cases hi : position < p.options.length
  · have hi' : position < chosen.length := hlen ▸ hi
    rw [List.getElem?_eq_getElem hi, List.getElem?_map, List.getElem?_eq_getElem hi']
    exact List.mem_map.mpr ⟨_, hall position hi' hi, rfl⟩
  · rw [List.getElem?_eq_none (by omega), List.getElem?_eq_none (by rw [List.length_map]; omega)]
    trivial

/-- The row of a request that resolves is one the schema takes. -/
theorem variantRow_fits {spec : VariantSpec c} {label : String} {ids : List Id}
    (h : resolve p.options label spec = .ok ids) :
    (variantRow p.optionCount (spec, comboOf ids)).Fits p.optionCount p.options := by
  obtain ⟨chosen, hchosen, rfl⟩ := exists_chooses h
  exact ⟨rfl, slotFits_of_mem hchosen.mem 0, slotFits_of_mem hchosen.mem 1, slotFits_of_mem hchosen.mem 2, spec.price⟩

/-- The variants of a product, with those of the requests behind them. -/
structure Created (p q : ProductRows c) (rows : List ProductVariant) : Prop where
  options : q.options = p.options
  variants : q.variants = p.variants ++ rows

theorem Created.optionCount {q : ProductRows c} {rows : List ProductVariant} (h : Created p q rows) :
    q.optionCount = p.optionCount := by rw [← q.optionCount_eq, ← p.optionCount_eq, h.options]

theorem Created.existing {q : ProductRows c} {rows : List ProductVariant} (h : Created p q rows) :
    q.existing = p.existing ++ rows.map ProductVariant.combo := by
  rw [ProductRows.existing, h.variants, List.map_append, ProductRows.existing]

theorem insertVariant_eq_ok {v : ProductVariant} (hfits : v.Fits p.optionCount p.options)
    (hcombo : v.combo ∉ p.existing) (hsku : v.sku.toUpper ∉ p.skuRegistry) :
    ∃ q, p.insertVariant v = .ok q ∧ Created p q [v] ∧ q.skuRegistry = p.skuRegistry ++ [v.sku.toUpper] := by
  rw [ProductRows.insertVariant, dif_pos hfits, dif_pos hcombo, dif_pos hsku]
  exact ⟨_, rfl, ⟨rfl, rfl⟩, rfl⟩

/-- Every request that the check takes is inserted, whatever of them has been inserted before. -/
theorem Accepts.inserts {skus : List String} {combos : List Combo} {specs : List (VariantSpec c)}
    {built : List (VariantSpec c × Combo)} (h : Accepts p skus combos specs built) {q : ProductRows c}
    (hoptions : q.options = p.options) (hcombos : ∀ combo ∈ q.existing, combo ∈ combos ∨ combo ∈ p.existing)
    (hskus : ∀ sku ∈ q.skuRegistry, sku ∈ skus ∨ sku ∈ p.skuRegistry) :
    ∃ q', built.foldlM (fun p entry => p.insertVariant (variantRow p.optionCount entry)) q = .ok q' ∧
      Created q q' (built.map (variantRow p.optionCount)) := by
  induction h generalizing q with
  | nil => exact ⟨q, rfl, rfl, (List.append_nil _).symm⟩
  | @cons skus combos spec specs built ids hresolve hsku hcombo hnew hfree _ ih =>
    have hcount : q.optionCount = p.optionCount := by rw [← q.optionCount_eq, ← p.optionCount_eq, hoptions]
    have hfits : (variantRow q.optionCount (spec, comboOf ids)).Fits q.optionCount q.options :=
      variantRow_fits (hoptions ▸ hresolve "")
    obtain ⟨q₁, hinsert, hcreated, hregistry⟩ := insertVariant_eq_ok hfits
      (fun hmem => (hcombos _ hmem).elim hcombo hnew) (fun hmem => (hskus _ hmem).elim hsku hfree)
    have hcombos' : ∀ combo ∈ q₁.existing, combo ∈ comboOf ids :: combos ∨ combo ∈ p.existing := by
      intro combo hmem
      rw [hcreated.existing] at hmem
      rcases List.mem_append.mp hmem with hold | hin
      · exact (hcombos combo hold).imp_left (List.mem_cons_of_mem _)
      · exact .inl (List.mem_singleton.mp hin ▸ List.mem_cons_self)
    have hskus' : ∀ sku ∈ q₁.skuRegistry, sku ∈ spec.sku.toUpper :: skus ∨ sku ∈ p.skuRegistry := by
      intro sku hmem
      rw [hregistry] at hmem
      rcases List.mem_append.mp hmem with hold | hin
      · exact (hskus sku hold).imp_left (List.mem_cons_of_mem _)
      · exact .inl (List.mem_singleton.mp hin ▸ List.mem_cons_self)
    obtain ⟨q', hfold, hcreated'⟩ := ih (hcreated.options.trans hoptions) hcombos' hskus'
    refine ⟨q', ?_, hcreated'.options.trans hcreated.options, ?_⟩
    · rw [List.foldlM_cons, hinsert]
      exact hfold
    · rw [hcreated'.variants, hcreated.variants, hcount, List.map_cons, List.append_assoc, List.singleton_append]

/-- The variants are created exactly when the check takes every request. -/
theorem createVariants_eq_ok (h : p.options ≠ []) {specs : List (VariantSpec c)}
    {built : List (VariantSpec c × Combo)} (hacc : Accepts p [] [] specs built) :
    ∃ q, createVariants p specs = .ok q ∧ Created p q (built.map (variantRow p.optionCount)) := by
  obtain ⟨q, hfold, hcreated⟩ := hacc.inserts rfl (fun _ hmem => .inr hmem) (fun _ hmem => .inr hmem)
  refine ⟨q, ?_, hcreated⟩
  rw [createVariants, (checkSpecs_eq_ok h).mpr hacc]
  exact hfold

theorem createVariants_error {specs : List (VariantSpec c)} {e : VariantError} (h : checkSpecs p specs = .error e) :
    createVariants p specs = .error e := by
  rw [createVariants, h]
  rfl

/-- A combination is missing afterwards when it was missing and no row stands for it. -/
theorem Created.missing_eq {q : ProductRows c} {rows : List ProductVariant} (h : Created p q rows) :
    q.missing = p.missing.filter fun chosen => code chosen ∉ rows.map ProductVariant.combo := by
  have hcombinations : q.combinations = p.combinations := by rw [ProductRows.combinations, h.options]; rfl
  rw [ProductRows.missing, ProductRows.missing, hcombinations, h.existing, List.filter_filter]
  refine List.filter_congr fun chosen _ => ?_
  simp only [List.mem_append, not_or, Bool.decide_and, Bool.and_comm]

/-! ### What the check takes and refuses -/

/-- A request that names a combination as the listing does. -/
theorem chooses_of_perm {spec : VariantSpec c} {chosen : List ProductOptionValue} (h : chosen ∈ p.combinations)
    (hperm : spec.optionValues.Perm (describe p.options chosen)) : Chooses p spec chosen := by
  have hall := mem_combinations.mp h
  have hgiven : ∀ e, e ∈ spec.given ↔ ∃ e' ∈ describe p.options chosen, (c.lower e'.1, e'.2) = e := by
    intro e
    rw [VariantSpec.given, List.mem_map]
    exact exists_congr fun e' => and_congr_left fun _ => hperm.mem_iff
  refine ⟨h, fun name => ?_, ?_⟩
  · have hfst : (describe p.options chosen).map Prod.fst = p.options.map (·.name) :=
      List.map_fst_zip (by simp [hall.length_eq])
    constructor
    · intro hname
      obtain ⟨e, he, rfl⟩ := List.mem_map.mp hname
      obtain ⟨e', he', rfl⟩ := (hgiven e).mp he
      have hoption : e'.1 ∈ p.options.map (·.name) := hfst ▸ List.mem_map_of_mem he'
      obtain ⟨o, ho, hname⟩ := List.mem_map.mp hoption
      exact List.mem_map.mpr ⟨o, ho, congrArg c.lower hname⟩
    · intro hname
      obtain ⟨o, ho, rfl⟩ := List.mem_map.mp hname
      have hoption : o.name ∈ (describe p.options chosen).map Prod.fst := hfst ▸ List.mem_map_of_mem ho
      obtain ⟨e', he', hname⟩ := List.mem_map.mp hoption
      exact List.mem_map.mpr ⟨_, (hgiven _).mpr ⟨e', he', rfl⟩, congrArg c.lower hname⟩
  · obtain ⟨hlen, -⟩ := List.forall₂_iff_get.mp hall
    refine List.forall₂_iff_get.mpr ⟨hlen, fun i hi hio => ⟨chosen[i].value, (hgiven _).mpr ?_, rfl⟩⟩
    refine ⟨(p.options[i].name, chosen[i].value), ?_, rfl⟩
    refine List.mem_iff_getElem.mpr ⟨i, ?_, ?_⟩
    · simp only [describe, List.length_zip, List.length_map]
      exact lt_min hio hi
    · simp [describe]

/-- Requests for combinations whose names lead back to them are taken when nothing stands against them. -/
theorem accepts_of_chooses {specs : List (VariantSpec c)} {chosens : List (List ProductOptionValue)}
    {skus : List String} {combos : List Combo} (h : List.Forall₂ (Chooses p) specs chosens)
    (hlead : ∀ chosen ∈ chosens, leadsTo p chosen = chosen) (hnew : ∀ chosen ∈ chosens, code chosen ∉ p.existing)
    (hcombos : (combos ++ chosens.map code).Nodup) (hskus : (skus ++ specs.map fun s => s.sku.toUpper).Nodup)
    (hfree : ∀ spec ∈ specs, spec.sku.toUpper ∉ p.skuRegistry) :
    Accepts p skus combos specs (specs.zip (chosens.map code)) := by
  induction h generalizing skus combos with
  | nil => exact .nil
  | @cons spec chosen specs chosens hhead _ ih =>
    have hresolve := hhead.resolve_eq
    rw [hlead chosen List.mem_cons_self] at hresolve
    rw [List.map_cons] at hcombos hskus
    have hcombos' := (List.perm_middle.nodup_iff).mp hcombos
    have hskus' := (List.perm_middle.nodup_iff).mp hskus
    refine .cons hresolve ?_ ?_ (hnew chosen List.mem_cons_self) (hfree spec List.mem_cons_self) ?_
    · exact fun hmem => (List.nodup_cons.mp hskus').1 (List.mem_append_left _ hmem)
    · exact fun hmem => (List.nodup_cons.mp hcombos').1 (List.mem_append_left _ hmem)
    · exact ih (fun x hx => hlead x (List.mem_cons_of_mem _ hx)) (fun x hx => hnew x (List.mem_cons_of_mem _ hx))
        hcombos' hskus' fun s hs => hfree s (List.mem_cons_of_mem _ hs)

/-- What is known of each request that is taken. -/
theorem Accepts.of_mem {skus : List String} {combos : List Combo} {specs : List (VariantSpec c)}
    {built : List (VariantSpec c × Combo)} (h : Accepts p skus combos specs built) {spec : VariantSpec c}
    (hspec : spec ∈ specs) :
    ∃ ids, (∀ label, resolve p.options label spec = .ok ids) ∧ spec.sku.toUpper ∉ skus ∧ comboOf ids ∉ combos ∧
      comboOf ids ∉ p.existing ∧ spec.sku.toUpper ∉ p.skuRegistry := by
  induction h with
  | nil => cases hspec
  | @cons skus combos spec' specs built ids hresolve hsku hcombo hnew hfree _ ih =>
    rcases List.mem_cons.mp hspec with rfl | htail
    · exact ⟨ids, hresolve, hsku, hcombo, hnew, hfree⟩
    · obtain ⟨ids', hresolve', hsku', hcombo', hnew', hfree'⟩ := ih htail
      exact ⟨ids', hresolve', fun hmem => hsku' (List.mem_cons_of_mem _ hmem),
        fun hmem => hcombo' (List.mem_cons_of_mem _ hmem), hnew', hfree'⟩

/-- Two requests that are taken differ in their SKUs and in what they stand for. -/
theorem Accepts.pairwise {skus : List String} {combos : List Combo} {specs : List (VariantSpec c)}
    {built : List (VariantSpec c × Combo)} (h : Accepts p skus combos specs built) :
    specs.Pairwise fun s t => s.sku.toUpper ≠ t.sku.toUpper ∧
      ∀ label ids, resolve p.options label s = .ok ids → resolve p.options label t ≠ .ok ids := by
  induction h with
  | nil => exact .nil
  | @cons skus combos spec specs built ids hresolve _ _ _ _ hrest ih =>
    refine .cons (fun t ht => ?_) ih
    obtain ⟨ids', hresolve', hsku', hcombo', -⟩ := hrest.of_mem ht
    refine ⟨fun heq => hsku' (heq ▸ List.mem_cons_self), fun label ids'' hs ht' => hcombo' ?_⟩
    have h1 := Except.ok.inj ((hresolve label).symm.trans hs)
    have h2 := Except.ok.inj ((hresolve' label).symm.trans ht')
    rw [h1, h2]
    exact List.mem_cons_self

end NovaCart.Combinations
