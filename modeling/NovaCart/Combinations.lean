import NovaCart.Schema
import NovaCart.Schemes.Choices

/-! The options and variants of one product: listing the combinations without a variant and creating variants
    (`VariantAdminService.missing_combinations`, `_create_variants`). -/

namespace NovaCart.Combinations

open Schemes

/-- The two functions that ignore letter case: `str.lower` of the service and `lower` of the unique indexes. -/
structure LetterCase where
  lower : String → String
  dbLower : String → String

structure ProductOptionValue where
  id : Id
  value : String
  deriving DecidableEq, Repr

structure ProductOption where
  id : Id
  name : String
  values : List ProductOptionValue
  deriving DecidableEq, Repr

/-- `(value1_id, value2_id, value3_id)` -/
abbrev Combo := Option Id × Option Id × Option Id

instance (combo : Combo) (l : List Combo) : Decidable (combo ∈ l) := inferInstance

/-- `tuple(ids + [None] * (3 - len(ids)))` -/
def comboOf (ids : List Id) : Combo := (ids[0]?, ids[1]?, ids[2]?)

inductive VariantStatus
  | active | inactive
  deriving DecidableEq, Repr

structure ProductVariant where
  optionCount : ℕ
  value1Id : Option Id
  value2Id : Option Id
  value3Id : Option Id
  sku : String
  priceOverrideCents : Option ℕ
  stock : ℕ
  status : VariantStatus
  deriving DecidableEq, Repr

def ProductVariant.combo (v : ProductVariant) : Combo := (v.value1Id, v.value2Id, v.value3Id)

/-- One slot of a variant: it holds a value of the option at its position, and none when the product has no such
    option (`fk_variants_value1..3`, `ck_variants_complete_combination`). -/
def SlotFits (options : List ProductOption) (position : ℕ) (slot : Option Id) : Prop :=
  match options[position]?, slot with
  | some option, some id => id ∈ option.values.map (·.id)
  | none, none => True
  | _, _ => False

instance (options : List ProductOption) (position : ℕ) (slot : Option Id) :
    Decidable (SlotFits options position slot) := by
  unfold SlotFits
  split <;> infer_instance

structure ProductVariant.Fits (v : ProductVariant) (optionCount : ℕ) (options : List ProductOption) : Prop where
  optionCount : v.optionCount = optionCount
  slot1 : SlotFits options 0 v.value1Id
  slot2 : SlotFits options 1 v.value2Id
  slot3 : SlotFits options 2 v.value3Id
  price : ∀ c ∈ v.priceOverrideCents, 0 < c

instance (v : ProductVariant) (optionCount : ℕ) (options : List ProductOption) :
    Decidable (v.Fits optionCount options) :=
  decidable_of_iff
    (v.optionCount = optionCount ∧ SlotFits options 0 v.value1Id ∧ SlotFits options 1 v.value2Id ∧
      SlotFits options 2 v.value3Id ∧ ∀ c ∈ v.priceOverrideCents, 0 < c)
    ⟨fun ⟨h, h1, h2, h3, h4⟩ => ⟨h, h1, h2, h3, h4⟩, fun h => ⟨h.1, h.2, h.3, h.4, h.5⟩⟩

/-- The rows of one product, with the rules of the schema and of the requests that write options. -/
structure ProductRows (c : LetterCase) where
  optionCount : ℕ
  options : List ProductOption
  variants : List ProductVariant
  /-- `sku_registry.sku_norm`, of all products -/
  skuRegistry : List String
  /-- `check_option_count` and `ck_products_option_count` -/
  optionCount_eq : options.length = optionCount
  optionCount_le : optionCount ≤ 3
  /-- `_unique_option_names` -/
  nameUnique : (options.map fun o => c.lower o.name).Nodup
  /-- The values of an option are read in the order of their ids. -/
  valuesSorted : ∀ o ∈ options, o.values.Pairwise fun v w => v.id < w.id
  /-- `ux_option_values_option_lvalue` -/
  valueUnique : ∀ o ∈ options, (o.values.map fun v => c.dbLower v.value).Nodup
  fits : ∀ v ∈ variants, v.Fits optionCount options
  /-- `uq_variants_combination` -/
  combinationUnique : (variants.map ProductVariant.combo).Nodup
  skuUnique : skuRegistry.Nodup
  skuRegistered : ∀ v ∈ variants, v.sku.toUpper ∈ skuRegistry

/-- A request of one variant, as `VariantSpec` lets it through. -/
structure VariantSpec (c : LetterCase) where
  /-- letters, digits and `. _ / -` of ASCII -/
  sku : String
  optionValues : List (String × String)
  priceOverrideCents : Option ℕ
  stock : ℕ
  status : VariantStatus
  optionOnce : (optionValues.map fun e => c.lower e.1).Nodup
  price : ∀ p ∈ priceOverrideCents, 0 < p

inductive VariantError
  | invalidVariantSpec (detail : String)
  | variantCombinationExists (detail : String)
  | skuInUse (skus : List String)
  | integrity (rule : String)
  deriving DecidableEq, Repr

variable {c : LetterCase}

/-! ### Missing combinations -/

def maxMissingListed : ℕ := 500

structure MissingCombinations where
  total : ℕ
  truncated : Bool
  items : List (List (String × String))
  deriving DecidableEq, Repr

def ProductRows.existing (p : ProductRows c) : List Combo := p.variants.map ProductVariant.combo

/-- `{options[i].name: chosen[i][1] for i in range(len(options))}` -/
def describe (options : List ProductOption) (chosen : List ProductOptionValue) : List (String × String) :=
  (options.map (·.name)).zip (chosen.map (·.value))

/-- `items` and `total` while the walk goes on. -/
structure Found where
  items : List (List (String × String))
  total : ℕ
  deriving DecidableEq, Repr

/-- The walk at the last level. -/
def Found.visit (options : List ProductOption) (existing : List Combo) (found : Found)
    (chosen : List ProductOptionValue) : Found :=
  if comboOf (chosen.map (·.id)) ∈ existing then found
  else
    { items :=
        if found.items.length < maxMissingListed then found.items ++ [describe options chosen] else found.items
      total := found.total + 1 }

/-- `walk`, by the options that are still to be chosen from. -/
def walk (options : List ProductOption) (existing : List Combo) :
    List ProductOption → List ProductOptionValue → Found → Found
  | [], chosen, found => found.visit options existing chosen
  | option :: rest, chosen, found =>
    option.values.foldl (fun found value => walk options existing rest (chosen ++ [value]) found) found

def missingCombinations (p : ProductRows c) : Except VariantError MissingCombinations :=
  if p.options = [] then .error (.invalidVariantSpec "This product has no options")
  else
    let found := walk p.options p.existing p.options [] ⟨[], 0⟩
    .ok ⟨found.total, decide (found.items.length < found.total), found.items⟩

/-! ### Creating variants -/

/-- `{o.name.lower(): {v.value.lower(): v.id for v in o.values} for o in options}` -/
def valuesByName (c : LetterCase) (options : List ProductOption) : List (String × List (String × Id)) :=
  options.map fun o => (c.lower o.name, o.values.map fun v => (c.lower v.value, v.id))

/-- `{name.lower(): value for name, value in spec.option_values.items()}` -/
def VariantSpec.given (spec : VariantSpec c) : List (String × String) :=
  spec.optionValues.map fun e => (c.lower e.1, e.2)

/-- The ids of the values that were given, option by option, or the message about the first that is not a value. -/
def valueIds (c : LetterCase) (values : List (String × List (String × Id))) (given : List (String × String))
    (label : String) : List ProductOption → Except String (List Id)
  | [] => .ok []
  | option :: rest =>
    let asked := (dictGet? given (c.lower option.name)).getD ""
    match dictGet? ((dictGet? values (c.lower option.name)).getD []) (c.lower asked) with
    | none => .error (label ++ ": '" ++ asked ++ "' is not a value of " ++ option.name)
    | some id =>
      match valueIds c values given label rest with
      | .error message => .error message
      | .ok ids => .ok (id :: ids)

/-- The ids that a request stands for. -/
def resolve (options : List ProductOption) (label : String) (spec : VariantSpec c) : Except String (List Id) :=
  if (spec.given.map Prod.fst).toFinset ≠ (options.map fun o => c.lower o.name).toFinset then
    .error (label ++ ": needs exactly one value for each of " ++ ", ".intercalate (options.map (·.name)))
  else valueIds c (valuesByName c options) spec.given label options

/-- The variables of the loop over the requests. -/
structure Review (c : LetterCase) where
  invalid : List String := []
  comboConflicts : List String := []
  skuConflicts : List String := []
  seenCombos : List Combo := []
  seenSkus : List String := []
  built : List (VariantSpec c × Combo) := []

/-- At most one objection to a request whose values are known. -/
def Review.object (r : Review c) (existing : List Combo) (takenSkus : List String) (label : String)
    (spec : VariantSpec c) (combo : Combo) : Review c :=
  if spec.sku.toUpper ∈ r.seenSkus then
    { r with invalid := r.invalid ++ [label ++ ": the SKU appears twice in this request"] }
  else if combo ∈ r.seenCombos then
    { r with invalid := r.invalid ++ [label ++ ": the same combination appears twice in this request"] }
  else if combo ∈ existing then { r with comboConflicts := r.comboConflicts ++ [label] }
  else if spec.sku.toUpper ∈ takenSkus then { r with skuConflicts := r.skuConflicts ++ [spec.sku] }
  else r

def Review.take (r : Review c) (spec : VariantSpec c) (combo : Combo) : Review c :=
  { r with
    seenSkus := spec.sku.toUpper :: r.seenSkus
    seenCombos := combo :: r.seenCombos
    built := r.built ++ [(spec, combo)] }

/-- One turn of the loop. -/
def Review.turn (p : ProductRows c) (takenSkus : List String) (r : Review c) (entry : VariantSpec c × ℕ) : Review c :=
  let label := "variant " ++ toString entry.2 ++ " (" ++ entry.1.sku ++ ")"
  match resolve p.options label entry.1 with
  | .error message => { r with invalid := r.invalid ++ [message] }
  | .ok ids => (r.object p.existing takenSkus label entry.1 (comboOf ids)).take entry.1 (comboOf ids)

def invalidDetail (invalid : List String) : String :=
  "; ".intercalate (invalid.take 10) ++
    if 10 < invalid.length then " (and " ++ toString (invalid.length - 10) ++ " more)" else ""

/-- The first half of `_create_variants`: every request with its combination, or the error that is raised. -/
def checkSpecs (p : ProductRows c) (specs : List (VariantSpec c)) :
    Except VariantError (List (VariantSpec c × Combo)) :=
  if p.options = [] ∨ p.optionCount ≠ p.options.length then
    .error (.invalidVariantSpec "This product has no options yet: define them first (PUT /products/\x7bid\x7d/options)")
  else
    let takenSkus := p.skuRegistry.filter fun sku => sku ∈ specs.map fun s => s.sku.toUpper
    let r := (specs.zipIdx 1).foldl (Review.turn p takenSkus) {}
    if r.invalid ≠ [] then .error (.invalidVariantSpec (invalidDetail r.invalid))
    else if r.comboConflicts ≠ [] then
      .error (.variantCombinationExists ("These combinations already exist: " ++ ", ".intercalate r.comboConflicts))
    else if r.skuConflicts ≠ [] then .error (.skuInUse r.skuConflicts)
    else .ok r.built

/-- The row of one request. -/
def variantRow (optionCount : ℕ) (entry : VariantSpec c × Combo) : ProductVariant :=
  ⟨optionCount, entry.2.1, entry.2.2.1, entry.2.2.2, entry.1.sku, entry.1.priceOverrideCents, entry.1.stock,
    entry.1.status⟩

/-- The insert with the rules it is under, each violation as `translate_integrity_error` reports it. -/
def ProductRows.insertVariant (p : ProductRows c) (v : ProductVariant) : Except VariantError (ProductRows c) :=
  if hfits : v.Fits p.optionCount p.options then
    if hcombo : v.combo ∉ p.existing then
      if hsku : v.sku.toUpper ∉ p.skuRegistry then
        .ok
          { p with
            variants := p.variants ++ [v]
            skuRegistry := p.skuRegistry ++ [v.sku.toUpper]
            fits := fun w hw => by
              rcases List.mem_append.mp hw with hold | hnew
              · exact p.fits w hold
              · exact List.mem_singleton.mp hnew ▸ hfits
            combinationUnique := by
              rw [List.map_append, List.map_singleton]
              exact List.Nodup.append p.combinationUnique (List.nodup_singleton _)
                (List.disjoint_singleton.mpr hcombo)
            skuUnique := List.Nodup.append p.skuUnique (List.nodup_singleton _) (List.disjoint_singleton.mpr hsku)
            skuRegistered := fun w hw => by
              rcases List.mem_append.mp hw with hold | hnew
              · exact List.mem_append_left _ (p.skuRegistered w hold)
              · exact List.mem_append_right _ (List.mem_singleton.mp hnew ▸ List.mem_singleton_self _) }
      else .error (.skuInUse ["(see request)"])
    else .error (.variantCombinationExists "That combination already exists")
  else .error (.integrity "product_variants")

def createVariants (p : ProductRows c) (specs : List (VariantSpec c)) : Except VariantError (ProductRows c) := do
  let built ← checkSpecs p specs
  built.foldlM (fun p entry => p.insertVariant (variantRow p.optionCount entry)) p

end NovaCart.Combinations
