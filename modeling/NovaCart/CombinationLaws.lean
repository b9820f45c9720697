import NovaCart.Combinations

/-! The listed combinations are the missing ones, and creating variants for them takes exactly those from the list, as
    long as the names of a combination lead back to it. -/

namespace NovaCart.Combinations

open Schemes

variable {c : LetterCase} {p : ProductRows c}

/-! ### Combinations -/

/-- One value of each option. -/
def ProductRows.combinations (p : ProductRows c) : List (List ProductOptionValue) := choices (p.options.map (·.values))

/-- The columns of a combination. -/
def code (chosen : List ProductOptionValue) : Combo := comboOf (chosen.map (·.id))

/-- The combinations without a variant, in the order of the walk. -/
def ProductRows.missing (p : ProductRows c) : List (List ProductOptionValue) :=
  p.combinations.filter fun chosen => code chosen ∉ p.existing

theorem comboOf_inj {ids ids' : List Id} (hlen : ids.length = ids'.length) (h3 : ids.length ≤ 3)
    (h : comboOf ids = comboOf ids') : ids = ids' := by
  obtain ⟨h0, h1, h2⟩ : ids[0]? = ids'[0]? ∧ ids[1]? = ids'[1]? ∧ ids[2]? = ids'[2]? := by
    simpa only [comboOf, Prod.mk.injEq] using h
  refine List.ext_getElem? fun i => ?_
  match i with
  | 0 => exact h0
  | 1 => exact h1
  | 2 => exact h2
  | i + 3 => rw [List.getElem?_eq_none (by omega), List.getElem?_eq_none (by omega)]

theorem mem_combinations {chosen : List ProductOptionValue} :
    chosen ∈ p.combinations ↔ List.Forall₂ (fun v o => v ∈ o.values) chosen p.options := by
  rw [ProductRows.combinations, mem_choices, List.forall₂_map_right_iff]

theorem length_of_mem_combinations {chosen : List ProductOptionValue} (h : chosen ∈ p.combinations) :
    chosen.length = p.options.length := (mem_combinations.mp h).length_eq

theorem options_length_le (p : ProductRows c) : p.options.length ≤ 3 := p.optionCount_eq.trans_le p.optionCount_le

/-- Two combinations that agree value by value in what tells the values of an option apart. -/
theorem eq_of_map_eq {β : Type} {f : ProductOptionValue → β}
    (hinj : ∀ o ∈ p.options, ∀ v ∈ o.values, ∀ w ∈ o.values, f v = f w → v = w)
    {chosen chosen' : List ProductOptionValue}
    (h : chosen ∈ p.combinations) (h' : chosen' ∈ p.combinations) (heq : chosen.map f = chosen'.map f) :
    chosen = chosen' := by
  obtain ⟨hlen, hall⟩ := List.forall₂_iff_get.mp (mem_combinations.mp h)
  obtain ⟨hlen', hall'⟩ := List.forall₂_iff_get.mp (mem_combinations.mp h')
  refine List.ext_getElem (hlen.trans hlen'.symm) fun i hi hi' => ?_
  have hf : f chosen[i] = f chosen'[i] := by
    have := congrArg (·[i]?) heq
    simpa [List.getElem?_eq_getElem hi, List.getElem?_eq_getElem hi'] using this
  have hio : i < p.options.length := hlen ▸ hi
  exact hinj p.options[i] (List.getElem_mem hio) _ (hall i hi hio) _ (hall' i hi' hio) hf

theorem id_inj {o : ProductOption} (ho : o ∈ p.options) : ∀ v ∈ o.values, ∀ w ∈ o.values, v.id = w.id → v = w := by
  have hnodup : (o.values.map (·.id)).Nodup :=
    List.pairwise_map.mpr ((p.valuesSorted o ho).imp fun h => h.ne)
  exact fun _ hv _ hw heq => List.inj_on_of_nodup_map hnodup hv hw heq

theorem value_inj {o : ProductOption} (ho : o ∈ p.options) :
    ∀ v ∈ o.values, ∀ w ∈ o.values, v.value = w.value → v = w := fun _ hv _ hw heq =>
  List.inj_on_of_nodup_map (p.valueUnique o ho) hv hw (congrArg c.dbLower heq)

theorem code_inj {chosen chosen' : List ProductOptionValue} (h : chosen ∈ p.combinations)
    (h' : chosen' ∈ p.combinations) (heq : code chosen = code chosen') : chosen = chosen' := by
  have hlen := length_of_mem_combinations h
  have hlen' := length_of_mem_combinations h'
  have h3 := options_length_le p
  refine eq_of_map_eq (fun o ho => id_inj ho) h h' (comboOf_inj ?_ ?_ heq)
  · simp [hlen, hlen']
  · simp [hlen, h3]

theorem describe_inj {chosen chosen' : List ProductOptionValue} (h : chosen ∈ p.combinations)
    (h' : chosen' ∈ p.combinations) (heq : describe p.options chosen = describe p.options chosen') :
    chosen = chosen' := by
  have hlen := length_of_mem_combinations h
  have hlen' := length_of_mem_combinations h'
  refine eq_of_map_eq (fun o ho => value_inj ho) h h' ?_
  have := congrArg (List.map Prod.snd) heq
  simpa [describe, List.map_snd_zip, hlen, hlen'] using this

theorem nodup_combinations (p : ProductRows c) : p.combinations.Nodup := by
  refine nodup_choices fun values hvalues => ?_
  obtain ⟨o, ho, rfl⟩ := List.mem_map.mp hvalues
  exact (p.valuesSorted o ho).imp fun h heq => (heq ▸ h).false

/-- The slots of a variant hold a combination of the product. -/
theorem exists_combination {v : ProductVariant} (h : v ∈ p.variants) :
    ∃ chosen ∈ p.combinations, code chosen = v.combo := by
  have hfits := p.fits v h
  have h3 := options_length_le p
  obtain ⟨-, h1, h2, h3', -⟩ := hfits
  have hslot : ∀ {o : ProductOption} {slot : Option Id} {position : ℕ}, p.options[position]? = some o →
      SlotFits p.options position slot → ∃ w ∈ o.values, slot = some w.id := by
    intro o slot position hget hslot
    unfold SlotFits at hslot
    rw [hget] at hslot
    cases slot with
    | none => exact hslot.elim
    | some id =>
      obtain ⟨w, hw, rfl⟩ := List.mem_map.mp hslot
      exact ⟨w, hw, rfl⟩
  have hempty : ∀ {slot : Option Id} {position : ℕ}, p.options[position]? = none →
      SlotFits p.options position slot → slot = none := by
    intro slot position hget hslot
    unfold SlotFits at hslot
    rw [hget] at hslot
    cases slot with
    | none => rfl
    | some id => exact hslot.elim
  unfold ProductVariant.combo
  simp only [mem_combinations]
  match hoptions : p.options with
  | [] =>
    rw [hempty (by simp [hoptions]) h1, hempty (by simp [hoptions]) h2, hempty (by simp [hoptions]) h3']
    exact ⟨[], .nil, rfl⟩
  | [o] =>
    obtain ⟨w, hw, hw1⟩ := hslot (o := o) (by simp [hoptions]) h1
    rw [hw1, hempty (by simp [hoptions]) h2, hempty (by simp [hoptions]) h3']
    exact ⟨[w], .cons hw .nil, rfl⟩
  | [o, o'] =>
    obtain ⟨w, hw, hw1⟩ := hslot (o := o) (by simp [hoptions]) h1
    obtain ⟨w', hw', hw2⟩ := hslot (o := o') (by simp [hoptions]) h2
    rw [hw1, hw2, hempty (by simp [hoptions]) h3']
    exact ⟨[w, w'], .cons hw (.cons hw' .nil), rfl⟩
  | [o, o', o''] =>
    obtain ⟨w, hw, hw1⟩ := hslot (o := o) (by simp [hoptions]) h1
    obtain ⟨w', hw', hw2⟩ := hslot (o := o') (by simp [hoptions]) h2
    obtain ⟨w'', hw'', hw3⟩ := hslot (o := o'') (by simp [hoptions]) h3'
    rw [hw1, hw2, hw3]
    exact ⟨[w, w', w''], .cons hw (.cons hw' (.cons hw'' .nil)), rfl⟩
  | _ :: _ :: _ :: _ :: _ =>
    rw [hoptions] at h3
    simp only [List.length_cons] at h3
    omega

/-! ### The listing -/

/-- The walk goes through the combinations that begin with what is chosen. -/
theorem walk_eq_foldl (options : List ProductOption) (existing : List Combo) (rest : List ProductOption)
    (chosen : List ProductOptionValue) (found : Found) :
    walk options existing rest chosen found =
      (choices (rest.map (·.values))).foldl (fun found more => found.visit options existing (chosen ++ more))
        found := by
  induction rest generalizing chosen found with
  | nil => simp [walk, choices]
  | cons option rest ih =>
    rw [walk, List.map_cons, foldl_choices_cons]
    refine List.foldl_ext _ _ _ fun found value _ => ?_
    rw [ih]
    simp

/-- Who is visited is listed as long as there is room, and counted. -/
theorem foldl_visit (options : List ProductOption) (existing : List Combo) (l : List (List ProductOptionValue))
    (found : Found) :
    l.foldl (Found.visit options existing) found =
      { items := found.items ++ ((l.filter fun chosen => code chosen ∉ existing).take
          (maxMissingListed - found.items.length)).map (describe options)
        total := found.total + (l.filter fun chosen => code chosen ∉ existing).length } := by
  induction l generalizing found with
  | nil => simp
  | cons chosen l ih =>
    rw [List.foldl_cons, ih]
    by_cases h : code chosen ∈ existing
    · have hvisit : found.visit options existing chosen = found := if_pos h
      rw [hvisit, List.filter_cons_of_neg (by simpa using h)]
    · have hvisit : found.visit options existing chosen =
          { items :=
              if found.items.length < maxMissingListed then found.items ++ [describe options chosen] else found.items
            total := found.total + 1 } := if_neg h
      rw [hvisit, List.filter_cons_of_pos (by simpa using h)]
      by_cases hroom : found.items.length < maxMissingListed
      · have hsub : maxMissingListed - found.items.length = (maxMissingListed - (found.items.length + 1)) + 1 := by
          omega
        rw [if_pos hroom, hsub]
        refine congrArg₂ Found.mk ?_ ?_
        · simp
        · simp only [List.length_cons]
          omega
      · have hsub : maxMissingListed - found.items.length = 0 := by omega
        simp only [hroom, if_false, List.length_cons, hsub, List.take_zero, List.map_nil, List.append_nil,
          Found.mk.injEq, true_and]
        omega

theorem missingCombinations_eq (h : p.options ≠ []) :
    missingCombinations p = .ok
      { total := p.missing.length
        truncated := decide (maxMissingListed < p.missing.length)
        items := (p.missing.take maxMissingListed).map (describe p.options) } := by
  have hwalk : walk p.options p.existing p.options [] ⟨[], 0⟩ =
      { items := (p.missing.take maxMissingListed).map (describe p.options)
        total := p.missing.length } := by
    rw [walk_eq_foldl]
    simp only [List.nil_append]
    rw [foldl_visit]
    simp [ProductRows.missing, ProductRows.combinations]
  rw [missingCombinations, if_neg h, hwalk]
  simp only [List.length_map, List.length_take, Except.ok.injEq, MissingCombinations.mk.injEq, true_and, and_true,
    decide_eq_decide]
  omega

/-- Every variant takes one combination away. -/
theorem length_missing (p : ProductRows c) :
    p.missing.length + p.variants.length = (p.options.map fun o => o.values.length).prod := by
  have hparts : p.missing.length + (p.combinations.filter fun chosen => code chosen ∈ p.existing).length
      = p.combinations.length := by
    have := List.length_eq_length_filter_add (l := p.combinations) fun chosen => decide (code chosen ∈ p.existing)
    simp only [ProductRows.missing, decide_not]
    omega
  have hperm : ((p.combinations.filter fun chosen => code chosen ∈ p.existing).map code).Perm p.existing := by
    refine (List.perm_ext_iff_of_nodup ?_ p.combinationUnique).mpr fun combo => ?_
    · refine List.Nodup.map_on (fun x hx y hy => ?_) ((nodup_combinations p).filter _)
      exact code_inj (List.mem_filter.mp hx).1 (List.mem_filter.mp hy).1
    · constructor
      · intro h
        obtain ⟨chosen, hchosen, rfl⟩ := List.mem_map.mp h
        exact of_decide_eq_true (List.mem_filter.mp hchosen).2
      · intro h
        obtain ⟨v, hv, rfl⟩ := List.mem_map.mp h
        obtain ⟨chosen, hmem, hcode⟩ := exists_combination hv
        exact List.mem_map.mpr ⟨chosen, List.mem_filter.mpr ⟨hmem, decide_eq_true (hcode ▸ h)⟩, hcode⟩
  have hlen := hperm.length_eq
  rw [List.length_map, ProductRows.existing, List.length_map] at hlen
  rw [← hlen, ProductRows.existing] at *
  rw [hparts, ProductRows.combinations, length_choices, List.map_map]
  rfl

/-! ### What a request stands for -/

/-- The value that the name of a value leads to: the last one of the option with the same name in lower case. -/
def namesake (c : LetterCase) (o : ProductOption) (v : ProductOptionValue) : ProductOptionValue :=
  (o.values.filter fun w => c.lower w.value = c.lower v.value).getLast?.getD v

/-- The combination that the names of a combination lead to. -/
def leadsTo (p : ProductRows c) (chosen : List ProductOptionValue) : List ProductOptionValue :=
  List.zipWith (namesake c) p.options chosen

theorem namesake_spec {o : ProductOption} {v : ProductOptionValue} (hv : v ∈ o.values) :
    namesake c o v ∈ o.values ∧ c.lower (namesake c o v).value = c.lower v.value ∧
      (o.values.filter fun w => c.lower w.value = c.lower v.value).getLast? = some (namesake c o v) := by
  have hne : o.values.filter (fun w => c.lower w.value = c.lower v.value) ≠ [] :=
    List.ne_nil_of_mem (List.mem_filter.mpr ⟨hv, decide_eq_true rfl⟩)
  obtain ⟨w, hw⟩ := Option.ne_none_iff_exists'.mp (mt List.getLast?_eq_none_iff.mp hne)
  have heq : namesake c o v = w := by rw [namesake, hw, Option.getD_some]
  obtain ⟨hmem, hlower⟩ := List.mem_filter.mp (List.mem_of_getLast? hw)
  exact heq.symm ▸ ⟨hmem, of_decide_eq_true hlower, hw⟩

theorem leadsTo_mem {chosen : List ProductOptionValue} (h : chosen ∈ p.combinations) :
    leadsTo p chosen ∈ p.combinations := by
  rw [mem_combinations] at h ⊢
  unfold leadsTo
  generalize p.options = options at h
  induction h with
  | nil => exact .nil
  | cons hv _ ih => exact .cons (namesake_spec hv).1 ih

/-- The request names the options of the product, each with the name of a value of the combination. -/
structure Chooses (p : ProductRows c) (spec : VariantSpec c) (chosen : List ProductOptionValue) : Prop where
  mem : chosen ∈ p.combinations
  names : ∀ name, name ∈ spec.given.map Prod.fst ↔ name ∈ p.options.map fun o => c.lower o.name
  values : List.Forall₂
    (fun v o => ∃ text, (c.lower o.name, text) ∈ spec.given ∧ c.lower text = c.lower v.value) chosen p.options

theorem nodup_given (spec : VariantSpec c) : (spec.given.map Prod.fst).Nodup := by
  have h := spec.optionOnce
  simpa [VariantSpec.given, List.map_map, Function.comp_def] using h

/-- The ids of one option under the names in lower case. -/
theorem dictGet?_valuesByName {o : ProductOption} (ho : o ∈ p.options) :
    dictGet? (valuesByName c p.options) (c.lower o.name) = some (o.values.map fun v => (c.lower v.value, v.id)) := by
  refine dictGet?_eq_some_of_mem ?_ (List.mem_map.mpr ⟨o, ho, rfl⟩)
  simpa [valuesByName, List.map_map, Function.comp_def] using p.nameUnique

/-- What is asked of an option, with the value that is found for it. -/
def Finds (c : LetterCase) (given : List (String × String)) (o : ProductOption) (id : Id) : Prop :=
  (o.values.filter fun v => c.lower v.value = c.lower ((dictGet? given (c.lower o.name)).getD "")).getLast?.map (·.id)
    = some id

theorem valueIds_eq_ok {given : List (String × String)} {label : String} {ids : List Id} {options : List ProductOption}
    (hsub : ∀ o ∈ options, o ∈ p.options) :
    valueIds c (valuesByName c p.options) given label options = .ok ids ↔ List.Forall₂ (Finds c given) options ids := by
  induction options generalizing ids with
  | nil => cases ids <;> simp [valueIds]
  | cons o rest ih =>
    have ho := hsub o List.mem_cons_self
    have hrest := fun ids' => @ih ids' fun o' ho' => hsub o' (List.mem_cons_of_mem _ ho')
    simp only [valueIds, dictGet?_valuesByName ho, Option.getD_some, dictGet?_map]
    cases hfind : (o.values.filter fun v =>
        c.lower v.value = c.lower ((dictGet? given (c.lower o.name)).getD "")).getLast?.map (·.id) with
    | none =>
      refine iff_of_false (by simp) fun h => ?_
      cases h with
      | cons hhead _ => exact absurd (hfind.symm.trans hhead) (by simp)
    | some id =>
      simp only
      cases hvalues : valueIds c (valuesByName c p.options) given label rest with
      | error message =>
        refine iff_of_false (by simp) fun h => ?_
        cases h with
        | cons _ htail => exact absurd ((hrest _).mpr htail) (by rw [hvalues]; simp)
      | ok ids' =>
        simp only [Except.ok.injEq]
        constructor
        · rintro rfl
          exact .cons hfind ((hrest ids').mp hvalues)
        · intro h
          cases h with
          | cons hhead htail =>
            have hid := Option.some.inj (hfind.symm.trans hhead)
            have hids := Except.ok.inj (hvalues.symm.trans ((hrest _).mpr htail))
            rw [hid, hids]

/-- A request that resolves, whatever it is labelled with. -/
theorem resolve_eq_ok {spec : VariantSpec c} {label : String} {ids : List Id} :
    resolve p.options label spec = .ok ids ↔
      (∀ name, name ∈ spec.given.map Prod.fst ↔ name ∈ p.options.map fun o => c.lower o.name) ∧
        List.Forall₂ (Finds c spec.given) p.options ids := by
  unfold resolve
  split_ifs with hnames
  · refine iff_of_false (by simp) fun h => hnames ?_
    ext name
    simpa using h.1 name
  · rw [valueIds_eq_ok fun o ho => ho]
    refine (and_iff_right fun name => ?_).symm
    have := congrArg (name ∈ ·) (not_not.mp hnames)
    simpa using this

theorem Chooses.resolve_eq {spec : VariantSpec c} {chosen : List ProductOptionValue} (h : Chooses p spec chosen)
    (label : String) : resolve p.options label spec = .ok ((leadsTo p chosen).map (·.id)) := by
  refine resolve_eq_ok.mpr ⟨h.names, ?_⟩
  have hmem := mem_combinations.mp h.mem
  have hvalues := h.values
  unfold leadsTo
  clear h
  generalize p.options = options at hmem hvalues
  induction hmem with
  | nil => exact .nil
  | @cons v o chosen options hv _ ih =>
    cases hvalues with
    | cons hhead htail =>
      obtain ⟨text, hgiven, hlower⟩ := hhead
      refine .cons ?_ (ih htail)
      rw [Finds, dictGet?_eq_some_of_mem (nodup_given spec) hgiven, Option.getD_some, hlower, (namesake_spec hv).2.2]
      rfl

/-- What resolves stands for a combination. -/
theorem exists_chooses {spec : VariantSpec c} {label : String} {ids : List Id}
    (h : resolve p.options label spec = .ok ids) :
    ∃ chosen, Chooses p spec chosen ∧ chosen.map (·.id) = ids := by
  obtain ⟨hnames, hfinds⟩ := resolve_eq_ok.mp h
  have hasked : ∀ o ∈ p.options, ∃ text, (c.lower o.name, text) ∈ spec.given ∧
      dictGet? spec.given (c.lower o.name) = some text := by
    intro o ho
    have hname := (hnames (c.lower o.name)).mpr (List.mem_map.mpr ⟨o, ho, rfl⟩)
    obtain ⟨text, htext⟩ := Option.isSome_iff_exists.mp (dictGet?_isSome.mpr hname)
    exact ⟨text, mem_of_dictGet? htext, htext⟩
  have hchosen : ∃ chosen, List.Forall₂ (fun v o => v ∈ o.values ∧
      ∃ text, (c.lower o.name, text) ∈ spec.given ∧ c.lower text = c.lower v.value) chosen p.options ∧
        chosen.map (·.id) = ids := by
    clear h hnames
    generalize p.options = options at hfinds hasked
    induction hfinds with
    | nil => exact ⟨[], .nil, rfl⟩
    | @cons o id options ids hhead _ ih =>
      obtain ⟨chosen, hall, hids⟩ := ih fun o' ho' => hasked o' (List.mem_cons_of_mem _ ho')
      obtain ⟨text, hgiven, hentry⟩ := hasked o List.mem_cons_self
      rw [Finds, hentry, Option.getD_some] at hhead
      obtain ⟨v, hv, rfl⟩ := Option.map_eq_some_iff.mp hhead
      obtain ⟨hmem, hlower⟩ := List.mem_filter.mp (List.mem_of_getLast? hv)
      exact ⟨v :: chosen, .cons ⟨hmem, text, hgiven, (of_decide_eq_true hlower).symm⟩ hall, by rw [List.map_cons, hids]⟩
  obtain ⟨chosen, hall, hids⟩ := hchosen
  exact ⟨chosen, ⟨mem_combinations.mpr (hall.imp fun _ _ h => h.1), hnames, hall.imp fun _ _ h => h.2⟩, hids⟩

/-- Two requests for one combination resolve alike. -/
theorem Chooses.code_eq {spec : VariantSpec c} {chosen : List ProductOptionValue} (h : Chooses p spec chosen)
    {label : String} {ids : List Id} (hids : resolve p.options label spec = .ok ids) :
    comboOf ids = code (leadsTo p chosen) := by
  rw [Except.ok.inj (hids.symm.trans (h.resolve_eq label))]
  rfl

/-! ### The check of the requests -/

/-- The requests that are taken one after the other, behind the SKUs and combinations that were seen. -/
inductive Accepts (p : ProductRows c) :
    List String → List Combo → List (VariantSpec c) → List (VariantSpec c × Combo) → Prop
  | nil {skus combos} : Accepts p skus combos [] []
  | cons {skus combos spec specs built ids} (hresolve : ∀ label, resolve p.options label spec = .ok ids)
      (hsku : spec.sku.toUpper ∉ skus) (hcombo : comboOf ids ∉ combos) (hnew : comboOf ids ∉ p.existing)
      (hfree : spec.sku.toUpper ∉ p.skuRegistry)
      (hrest : Accepts p (spec.sku.toUpper :: skus) (comboOf ids :: combos) specs built) :
      Accepts p skus combos (spec :: specs) ((spec, comboOf ids) :: built)

/-- Nothing has been objected to. -/
structure Review.Clean (r : Review c) : Prop where
  invalid : r.invalid = []
  comboConflicts : r.comboConflicts = []
  skuConflicts : r.skuConflicts = []

theorem object_clean {r : Review c} {existing : List Combo} {taken : List String} {label : String}
    {spec : VariantSpec c} {combo : Combo} (h : (r.object existing taken label spec combo).Clean) :
    spec.sku.toUpper ∉ r.seenSkus ∧ combo ∉ r.seenCombos ∧ combo ∉ existing ∧ spec.sku.toUpper ∉ taken ∧
      r.object existing taken label spec combo = r := by
  unfold Review.object at h ⊢
  split_ifs at h ⊢ with hsku hcombo hexists htaken
  · exact absurd h.invalid (by simp)
  · exact absurd h.invalid (by simp)
  · exact absurd h.comboConflicts (by simp)
  · exact absurd h.skuConflicts (by simp)
  · exact ⟨hsku, hcombo, hexists, htaken, rfl⟩

theorem turn_of_clean {taken : List String} {r : Review c} {entry : VariantSpec c × ℕ}
    (h : (r.turn p taken entry).Clean) :
    r.Clean ∧ ∃ ids, (∀ label, resolve p.options label entry.1 = .ok ids) ∧ entry.1.sku.toUpper ∉ r.seenSkus ∧
      comboOf ids ∉ r.seenCombos ∧ comboOf ids ∉ p.existing ∧ entry.1.sku.toUpper ∉ taken ∧
      r.turn p taken entry = r.take entry.1 (comboOf ids) := by
  unfold Review.turn at h ⊢
  simp only at h ⊢
  split at h
  · exact absurd h.invalid (by simp)
  · rename_i ids hresolve
    have hobject : (r.object p.existing taken ("variant " ++ toString entry.2 ++ " (" ++ entry.1.sku ++ ")") entry.1
        (comboOf ids)).Clean := ⟨h.invalid, h.comboConflicts, h.skuConflicts⟩
    obtain ⟨hsku, hcombo, hexists, htaken, heq⟩ := object_clean hobject
    rw [heq] at hobject
    exact ⟨hobject, ids, fun label => resolve_eq_ok.mpr (resolve_eq_ok.mp hresolve), hsku, hcombo, hexists, htaken,
      by rw [heq]⟩

theorem turn_accepts {taken : List String} {r : Review c} (hr : r.Clean) {spec : VariantSpec c} {n : ℕ} {ids : List Id}
    (hresolve : ∀ label, resolve p.options label spec = .ok ids) (hsku : spec.sku.toUpper ∉ r.seenSkus)
    (hcombo : comboOf ids ∉ r.seenCombos) (hnew : comboOf ids ∉ p.existing) (hfree : spec.sku.toUpper ∉ taken) :
    r.turn p taken (spec, n) = r.take spec (comboOf ids) ∧ (r.take spec (comboOf ids)).Clean := by
  refine ⟨?_, hr.invalid, hr.comboConflicts, hr.skuConflicts⟩
  simp only [Review.turn, hresolve, Review.object, hsku, hcombo, hnew, hfree, if_false]

section Loop

variable {taken : List String} {specs : List (VariantSpec c)} {n : ℕ} {r : Review c}
  (htaken : ∀ spec ∈ specs, spec.sku.toUpper ∈ taken ↔ spec.sku.toUpper ∈ p.skuRegistry)
include htaken

omit htaken in
theorem clean_of_foldl (h : ((specs.zipIdx n).foldl (Review.turn p taken) r).Clean) : r.Clean := by
  induction specs generalizing n r with
  | nil => exact h
  | cons spec specs ih => exact (turn_of_clean (ih h)).1

/-- When the loop objects to nothing it has taken every request. -/
theorem accepts_of_clean (h : ((specs.zipIdx n).foldl (Review.turn p taken) r).Clean) :
    ∃ built, Accepts p r.seenSkus r.seenCombos specs built ∧
      ((specs.zipIdx n).foldl (Review.turn p taken) r).built = r.built ++ built := by
  induction specs generalizing n r with
  | nil => exact ⟨[], .nil, by simp⟩
  | cons spec specs ih =>
    rw [List.zipIdx_cons, List.foldl_cons] at h ⊢
    obtain ⟨-, ids, hresolve, hsku, hcombo, hnew, hfree, hturn⟩ := turn_of_clean (clean_of_foldl h)
    obtain ⟨built, hacc, hbuilt⟩ := ih (fun s hs => htaken s (List.mem_cons_of_mem spec hs)) h
    rw [hturn] at hacc hbuilt ⊢
    refine ⟨(spec, comboOf ids) :: built, .cons hresolve hsku hcombo hnew ?_ hacc, ?_⟩
    · exact mt (htaken spec List.mem_cons_self).mpr hfree
    · rw [hbuilt]
      simp [Review.take]

theorem clean_of_accepts (hr : r.Clean) {built : List (VariantSpec c × Combo)}
    (h : Accepts p r.seenSkus r.seenCombos specs built) :
    ((specs.zipIdx n).foldl (Review.turn p taken) r).Clean ∧
      ((specs.zipIdx n).foldl (Review.turn p taken) r).built = r.built ++ built := by
  induction specs generalizing n r built with
  | nil =>
    cases h
    exact ⟨hr, by simp⟩
  | cons spec specs ih =>
    cases h with
    | @cons _ _ _ _ built ids hresolve hsku hcombo hnew hfree hrest =>
      have hnot := mt (htaken spec List.mem_cons_self).mp hfree
      obtain ⟨hturn, hclean⟩ := turn_accepts (n := n) hr hresolve hsku hcombo hnew hnot
      rw [List.zipIdx_cons, List.foldl_cons, hturn]
      obtain ⟨hfold, hbuilt⟩ := ih (n := n + 1) (fun s hs => htaken s (List.mem_cons_of_mem spec hs)) hclean hrest
      refine ⟨hfold, ?_⟩
      rw [hbuilt]
      simp [Review.take]

end Loop

/-- The check lets the requests through exactly when it takes them one after the other. -/
theorem checkSpecs_eq_ok (h : p.options ≠ []) {specs : List (VariantSpec c)} {built : List (VariantSpec c × Combo)} :
    checkSpecs p specs = .ok built ↔ Accepts p [] [] specs built := by
  have hguard : ¬(p.options = [] ∨ p.optionCount ≠ p.options.length) :=
    not_or.mpr ⟨h, not_not.mpr p.optionCount_eq.symm⟩
  set taken := p.skuRegistry.filter fun sku => sku ∈ specs.map fun s => s.sku.toUpper with htakenDef
  have htaken : ∀ spec ∈ specs, spec.sku.toUpper ∈ taken ↔ spec.sku.toUpper ∈ p.skuRegistry := by
    intro spec hspec
    have hmem : spec.sku.toUpper ∈ specs.map fun s => s.sku.toUpper := List.mem_map.mpr ⟨spec, hspec, rfl⟩
    rw [htakenDef, List.mem_filter, decide_eq_true_eq]
    exact and_iff_left hmem
  rw [checkSpecs, if_neg hguard]
  simp only [← htakenDef]
  constructor
  · intro hok
    split_ifs at hok with hinvalid hcombos hskus
    have hclean : ((specs.zipIdx 1).foldl (Review.turn p taken) {}).Clean :=
      ⟨not_not.mp hinvalid, not_not.mp hcombos, not_not.mp hskus⟩
    obtain ⟨built', hacc, hbuilt⟩ := accepts_of_clean htaken hclean
    rw [hbuilt, List.nil_append] at hok
    exact Except.ok.inj hok ▸ hacc
  · intro hacc
    obtain ⟨hclean, hbuilt⟩ := clean_of_accepts (n := 1) (r := {}) htaken ⟨rfl, rfl, rfl⟩ hacc
    rw [if_neg (not_not.mpr hclean.invalid), if_neg (not_not.mpr hclean.comboConflicts),
      if_neg (not_not.mpr hclean.skuConflicts), hbuilt, List.nil_append]

end NovaCart.Combinations
