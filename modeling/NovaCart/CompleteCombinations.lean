import NovaCart.CombinationCreation

/-! Listing and creating agree on the combinations of a product exactly when the names of a combination lead back to
    it. -/

namespace NovaCart.Combinations

open Schemes

variable {c : LetterCase}

/-- A combination as it is listed. -/
abbrev Item := List (String × String)

/-- The requests are for these combinations, with the options in any order. -/
def ForItems (specs : List (VariantSpec c)) (items : List Item) : Prop :=
  List.Forall₂ (fun spec item => spec.optionValues.Perm item) specs items

/-- No SKU is repeated or taken, whatever the case of its letters. -/
structure FreshSkus (p : ProductRows c) (specs : List (VariantSpec c)) : Prop where
  nodup : (specs.map fun s => s.sku.toUpper).Nodup
  free : ∀ spec ∈ specs, spec.sku.toUpper ∉ p.skuRegistry

/-- What a list of requests must be refused for. -/
inductive Flawed (p : ProductRows c) (specs : List (VariantSpec c)) : Prop
  | options {spec} (hspec : spec ∈ specs) (hchooses : ∀ chosen, ¬Chooses p spec chosen)
  | existing {spec chosen} (hspec : spec ∈ specs) (hchooses : Chooses p spec chosen) (hin : code chosen ∈ p.existing)
  | repeatedCombination (h : ¬specs.Pairwise fun s t => ∀ chosen, Chooses p s chosen → ¬Chooses p t chosen)
  | takenSku {spec} (hspec : spec ∈ specs) (hin : spec.sku.toUpper ∈ p.skuRegistry)
  | repeatedSku (h : ¬(specs.map fun s => s.sku.toUpper).Nodup)

/-- The combinations without a variant, as they would be listed. -/
def ProductRows.missingItems (p : ProductRows c) : List Item := p.missing.map (describe p.options)

structure Complete (p : ProductRows c) : Prop where
  lists : ∃ m, missingCombinations p = .ok m ∧
    m.total + p.existing.length = (p.options.map fun o => o.values.length).prod ∧
    m.items.Nodup ∧ m.items ⊆ p.missingItems ∧ (m.total ≤ maxMissingListed → p.missingItems ⊆ m.items) ∧
    (m.truncated ↔ maxMissingListed < m.total)
  creates : ∀ m, missingCombinations p = .ok m → ∀ items, items.Nodup → items ⊆ m.items → ∀ specs,
    ForItems specs items → FreshSkus p specs →
      ∃ q combos, createVariants p specs = .ok q ∧ combos.length = specs.length ∧
        Created p q ((specs.zip combos).map (variantRow p.optionCount)) ∧
        q.missingItems = p.missingItems.filter fun item => item ∉ items
  refuses : ∀ specs, Flawed p specs → ∃ e, checkSpecs p specs = .error e ∧ createVariants p specs = .error e

/-- The names of a listed combination lead back to it, and those of a combination with a variant to one with a
    variant. -/
structure Resolvable (p : ProductRows c) : Prop where
  listed : ∀ chosen ∈ p.missing.take maxMissingListed, leadsTo p chosen = chosen
  existing : ∀ chosen ∈ p.combinations, code chosen ∈ p.existing → code (leadsTo p chosen) ∈ p.existing

variable {p : ProductRows c}

theorem mem_missing {chosen : List ProductOptionValue} :
    chosen ∈ p.missing ↔ chosen ∈ p.combinations ∧ code chosen ∉ p.existing := by
  simp [ProductRows.missing]

theorem nodup_missingItems (p : ProductRows c) : p.missingItems.Nodup :=
  ((nodup_combinations p).filter _).map_on fun _ hx _ hy =>
    describe_inj (mem_missing.mp hx).1 (mem_missing.mp hy).1

/-- The listing is right whatever the names. -/
theorem listing_complete (h : p.options ≠ []) :
    ∃ m, missingCombinations p = .ok m ∧
      m.total + p.existing.length = (p.options.map fun o => o.values.length).prod ∧
      m.items.Nodup ∧ m.items ⊆ p.missingItems ∧ (m.total ≤ maxMissingListed → p.missingItems ⊆ m.items) ∧
      (m.truncated ↔ maxMissingListed < m.total) := by
  refine ⟨_, missingCombinations_eq h, ?_, ?_, ?_, ?_, ?_⟩
  · rw [ProductRows.existing, List.length_map]
    exact length_missing p
  · rw [List.map_take]
    exact (nodup_missingItems p).sublist (List.take_sublist _ _)
  · rw [List.map_take]
    exact List.take_subset _ _
  · intro hroom
    rw [List.take_of_length_le hroom]
    exact List.Subset.refl _
  · exact decide_eq_true_iff

/-- The combinations of requests for listed items. -/
theorem exists_chosens {specs : List (VariantSpec c)} {items : List Item} {listed : List (List ProductOptionValue)}
    (hlisted : listed ⊆ p.missing) (hfor : ForItems specs items) (hsub : items ⊆ listed.map (describe p.options)) :
    ∃ chosens, chosens ⊆ listed ∧ items = chosens.map (describe p.options) ∧
      List.Forall₂ (Chooses p) specs chosens := by
  induction hfor with
  | nil => exact ⟨[], List.nil_subset _, rfl, .nil⟩
  | @cons spec item specs items hperm _ ih =>
    obtain ⟨chosens, hin, rfl, hall⟩ := ih fun i hi => hsub (List.mem_cons_of_mem _ hi)
    obtain ⟨chosen, hchosen, rfl⟩ := List.mem_map.mp (hsub List.mem_cons_self)
    have hchooses := chooses_of_perm (mem_missing.mp (hlisted hchosen)).1 hperm
    exact ⟨chosen :: chosens, List.cons_subset.mpr ⟨hchosen, hin⟩, rfl, .cons hchooses hall⟩

theorem map_variantRow_combo {specs : List (VariantSpec c)} {combos : List Combo} (h : combos.length = specs.length)
    (optionCount : ℕ) :
    ((specs.zip combos).map (variantRow optionCount)).map ProductVariant.combo = combos := by
  rw [List.map_map]
  exact (List.map_congr_left fun _ _ => rfl).trans (List.map_snd_zip h.le)

/-- The missing items after combinations were taken. -/
theorem missingItems_of_created {q : ProductRows c} {rows : List ProductVariant}
    {chosens : List (List ProductOptionValue)} (hsub : chosens ⊆ p.missing) (hcreated : Created p q rows)
    (hrows : rows.map ProductVariant.combo = chosens.map code) :
    q.missingItems = p.missingItems.filter fun item => item ∉ chosens.map (describe p.options) := by
  rw [ProductRows.missingItems, ProductRows.missingItems, hcreated.missing_eq, hcreated.options, hrows, List.filter_map]
  refine congrArg _ (List.filter_congr fun chosen hchosen => ?_)
  refine decide_eq_decide.mpr (not_congr ?_)
  have hmem := (mem_missing.mp hchosen).1
  constructor
  · intro h
    obtain ⟨x, hx, heq⟩ := List.mem_map.mp h
    exact code_inj (mem_missing.mp (hsub hx)).1 hmem heq ▸ List.mem_map_of_mem hx
  · intro h
    obtain ⟨x, hx, heq⟩ := List.mem_map.mp h
    exact describe_inj (mem_missing.mp (hsub hx)).1 hmem heq ▸ List.mem_map_of_mem hx

theorem creates_of_resolvable (h : p.options ≠ []) (hres : Resolvable p) {m : MissingCombinations}
    (hm : missingCombinations p = .ok m) {items : List Item} (hnodup : items.Nodup) (hsub : items ⊆ m.items)
    {specs : List (VariantSpec c)} (hfor : ForItems specs items) (hfresh : FreshSkus p specs) :
    ∃ q combos, createVariants p specs = .ok q ∧ combos.length = specs.length ∧
      Created p q ((specs.zip combos).map (variantRow p.optionCount)) ∧
      q.missingItems = p.missingItems.filter fun item => item ∉ items := by
  obtain rfl := Except.ok.inj ((missingCombinations_eq h).symm.trans hm)
  obtain ⟨chosens, hin, rfl, hall⟩ := exists_chosens (List.take_subset _ _) hfor hsub
  have hmissing : chosens ⊆ p.missing := fun x hx => List.take_subset _ _ (hin hx)
  have hcodes : (chosens.map code).Nodup := by
    refine (List.Nodup.of_map _ hnodup).map_on fun x hx y hy => ?_
    exact code_inj (mem_missing.mp (hmissing hx)).1 (mem_missing.mp (hmissing hy)).1
  have hacc : Accepts p [] [] specs (specs.zip (chosens.map code)) :=
    accepts_of_chooses hall (fun x hx => hres.listed x (hin hx)) (fun x hx => (mem_missing.mp (hmissing hx)).2)
      hcodes hfresh.nodup hfresh.free
  obtain ⟨q, hcreate, hcreated⟩ := createVariants_eq_ok h hacc
  have hlen : (chosens.map code).length = specs.length := by rw [List.length_map, hall.length_eq]
  exact ⟨q, chosens.map code, hcreate, hlen, hcreated,
    missingItems_of_created hmissing hcreated (map_variantRow_combo hlen _)⟩

/-- Requests that are taken have no flaw, when the names of what has a variant lead to what has one. -/
theorem not_flawed_of_accepts (hexisting : ∀ chosen ∈ p.combinations, code chosen ∈ p.existing →
      code (leadsTo p chosen) ∈ p.existing) {specs : List (VariantSpec c)} {built : List (VariantSpec c × Combo)}
    (hacc : Accepts p [] [] specs built) : ¬Flawed p specs := by
  intro hflawed
  cases hflawed with
  | options hspec hchooses =>
    obtain ⟨ids, hresolve, -⟩ := hacc.of_mem hspec
    obtain ⟨chosen, hchosen, -⟩ := exists_chooses (hresolve "")
    exact hchooses chosen hchosen
  | existing hspec hchooses hin =>
    obtain ⟨ids, hresolve, -, -, hnew, -⟩ := hacc.of_mem hspec
    exact hnew (hchooses.code_eq (hresolve "") ▸ hexisting _ hchooses.mem hin)
  | repeatedCombination h =>
    refine h (hacc.pairwise.imp fun hst chosen hs ht => ?_)
    exact hst.2 "" _ (hs.resolve_eq "") (ht.resolve_eq "")
  | takenSku hspec hin =>
    obtain ⟨_, -, -, -, -, hfree⟩ := hacc.of_mem hspec
    exact hfree hin
  | repeatedSku h => exact h (List.pairwise_map.mpr (hacc.pairwise.imp fun hst => hst.1))

theorem refuses_of_not_accepts (h : p.options ≠ []) {specs : List (VariantSpec c)}
    (hacc : ∀ built, ¬Accepts p [] [] specs built) :
    ∃ e, checkSpecs p specs = .error e ∧ createVariants p specs = .error e := by
  cases hcheck : checkSpecs p specs with
  | error e => exact ⟨e, rfl, createVariants_error hcheck⟩
  | ok built => exact absurd ((checkSpecs_eq_ok h).mp hcheck) (hacc built)

theorem complete_of_resolvable (h : p.options ≠ []) (hres : Resolvable p) : Complete p where
  lists := listing_complete h
  creates := fun _ hm _ hnodup hsub _ hfor hfresh => creates_of_resolvable h hres hm hnodup hsub hfor hfresh
  refuses := fun _ hflawed =>
    refuses_of_not_accepts h fun _ hacc => not_flawed_of_accepts hres.existing hacc hflawed

/-! ### Where the names lead elsewhere -/

/-- There is always a SKU left: one that is longer than all that are taken. -/
theorem exists_fresh_sku (taken : List String) : ∃ sku : String, sku.toUpper ∉ taken := by
  refine ⟨String.ofList (List.replicate ((taken.map String.length).sum + 1) 'A'), fun hmem => ?_⟩
  have hle := List.single_le_sum (by simp) _ (List.mem_map_of_mem (f := String.length) hmem)
  simp [String.toUpper] at hle

/-- The request that names a combination as the listing does. -/
def specFor (p : ProductRows c) (sku : String) (chosen : List ProductOptionValue) (h : chosen ∈ p.combinations) :
    VariantSpec c where
  sku := sku
  optionValues := describe p.options chosen
  priceOverrideCents := none
  stock := 0
  status := .active
  optionOnce := by
    have hlen := length_of_mem_combinations h
    have hfst : (describe p.options chosen).map Prod.fst = p.options.map (·.name) := List.map_fst_zip (by simp [hlen])
    have hlower : (describe p.options chosen).map (fun e => c.lower e.1) = p.options.map fun o => c.lower o.name :=
      calc
        _ = ((describe p.options chosen).map Prod.fst).map c.lower := by rw [List.map_map]; rfl
        _ = p.options.map fun o => c.lower o.name := by rw [hfst, List.map_map]; rfl
    exact hlower ▸ p.nameUnique
  price := by simp

/-- A request for one combination is taken for the one its names lead to. -/
theorem accepts_specFor {sku : String} (hsku : sku.toUpper ∉ p.skuRegistry) {chosen : List ProductOptionValue}
    (h : chosen ∈ p.combinations) (hnew : code (leadsTo p chosen) ∉ p.existing) :
    Accepts p [] [] [specFor p sku chosen h] [(specFor p sku chosen h, code (leadsTo p chosen))] :=
  have hchooses : Chooses p (specFor p sku chosen h) chosen := chooses_of_perm h (.refl _)
  .cons hchooses.resolve_eq List.not_mem_nil List.not_mem_nil hnew hsku .nil

theorem listed_of_complete (h : p.options ≠ []) (hcomplete : Complete p) {chosen : List ProductOptionValue}
    (hchosen : chosen ∈ p.missing.take maxMissingListed) : leadsTo p chosen = chosen := by
  obtain ⟨sku, hsku⟩ := exists_fresh_sku p.skuRegistry
  have hmem := mem_missing.mp (List.take_subset _ _ hchosen)
  have hsub : [describe p.options chosen] ⊆ (p.missing.take maxMissingListed).map (describe p.options) :=
    List.cons_subset.mpr ⟨List.mem_map_of_mem hchosen, List.nil_subset _⟩
  obtain ⟨q, combos, hcreate, -, -, hitems⟩ := hcomplete.creates _ (missingCombinations_eq h) _ (List.nodup_singleton _)
    hsub [specFor p sku chosen hmem.1] (.cons (.refl _) .nil)
    ⟨List.nodup_singleton _, by simpa [specFor] using hsku⟩
  -- the request was taken, so the combination it leads to had no variant before and has one afterwards
  obtain ⟨built, hacc⟩ : ∃ built, Accepts p [] [] [specFor p sku chosen hmem.1] built := by
    by_contra hnone
    obtain ⟨e, -, herror⟩ := refuses_of_not_accepts h fun built hacc => hnone ⟨built, hacc⟩
    exact absurd (herror.symm.trans hcreate) (by simp)
  have hchooses : Chooses p (specFor p sku chosen hmem.1) chosen := chooses_of_perm hmem.1 (.refl _)
  obtain ⟨ids, hresolve, -, -, hnew, -⟩ := hacc.of_mem List.mem_cons_self
  rw [hchooses.code_eq (hresolve "")] at hnew
  obtain ⟨q', hcreate', hcreated⟩ := createVariants_eq_ok h (accepts_specFor hsku hmem.1 hnew)
  obtain rfl := Except.ok.inj (hcreate'.symm.trans hcreate)
  have hlead : leadsTo p chosen ∈ p.missing := mem_missing.mpr ⟨leadsTo_mem hmem.1, hnew⟩
  have hgone : describe p.options (leadsTo p chosen) ∉ q'.missingItems := by
    rw [missingItems_of_created (List.cons_subset.mpr ⟨hlead, List.nil_subset _⟩) hcreated rfl]
    simp
  rw [hitems] at hgone
  have hin : describe p.options (leadsTo p chosen) ∈ [describe p.options chosen] := by
    by_contra hnot
    exact hgone (List.mem_filter.mpr ⟨List.mem_map_of_mem hlead, decide_eq_true hnot⟩)
  exact describe_inj (leadsTo_mem hmem.1) hmem.1 (List.mem_singleton.mp hin)

theorem existing_of_complete (h : p.options ≠ []) (hcomplete : Complete p) {chosen : List ProductOptionValue}
    (hchosen : chosen ∈ p.combinations) (hin : code chosen ∈ p.existing) : code (leadsTo p chosen) ∈ p.existing := by
  obtain ⟨sku, hsku⟩ := exists_fresh_sku p.skuRegistry
  by_contra hnew
  have hchooses : Chooses p (specFor p sku chosen hchosen) chosen := chooses_of_perm hchosen (.refl _)
  obtain ⟨e, hcheck, -⟩ := hcomplete.refuses [specFor p sku chosen hchosen] (.existing List.mem_cons_self hchooses hin)
  have hok := (checkSpecs_eq_ok h).mpr (accepts_specFor hsku hchosen hnew)
  exact absurd (hcheck.symm.trans hok) (by simp)

/-- Listing and creating agree exactly when the names of the combinations lead back to them. -/
theorem complete_iff (h : p.options ≠ []) : Complete p ↔ Resolvable p :=
  ⟨fun hcomplete => ⟨fun _ hchosen => listed_of_complete h hcomplete hchosen,
    fun _ hchosen hin => existing_of_complete h hcomplete hchosen hin⟩, complete_of_resolvable h⟩

/-- ASCII and the dotted capital I: in Python its lower case is the letter i with a combining dot, in the database the
    letter i alone. -/
def turkish : LetterCase where
  lower s := String.ofList (s.toList.flatMap fun ch => if ch = 'İ' then ['i', '\u0307'] else [ch.toLower])
  dbLower s := String.ofList (s.toList.map fun ch => if ch = 'İ' then 'i' else ch.toLower)

/-- One option of two values, and nothing sold yet. -/
def lettersOnly (first second : String) (h : turkish.dbLower first ≠ turkish.dbLower second) : ProductRows turkish where
  optionCount := 1
  options := [⟨1, "Letter", [⟨1, first⟩, ⟨2, second⟩]⟩]
  variants := []
  skuRegistry := []
  optionCount_eq := rfl
  optionCount_le := by decide
  nameUnique := by simp
  valuesSorted := by simp
  valueUnique := by simpa using h
  fits := by simp
  combinationUnique := by simp
  skuUnique := by simp
  skuRegistered := by simp

theorem complete_iff_letters : Complete (lettersOnly "A" "B" (by decide +kernel)) :=
  (complete_iff (by simp [lettersOnly])).mpr ⟨by decide +kernel, by decide +kernel⟩

/-- Two values with one name in Python's lower case: both are listed, and creating the first creates the second. -/
theorem not_complete_dotted : ¬Complete (lettersOnly "İ" "i\u0307" (by decide +kernel)) := fun hcomplete =>
  absurd (listed_of_complete (by simp [lettersOnly]) hcomplete
    (show [⟨1, "İ"⟩] ∈ List.take maxMissingListed (ProductRows.missing _) by decide +kernel)) (by decide +kernel)

end NovaCart.Combinations
