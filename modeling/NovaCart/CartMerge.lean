import NovaCart.CartAdditions

/-! When the merge of a guest's cart into a user's keeps what is in both.

    The items of the user's cart and of the guest's are summed up unit by unit before anything is written. What is
    written then is one line for each unit that the guest's cart had. -/

namespace NovaCart

open Schemes Table
open Keyed (key)

variable {s s' : CartStore} {cartId : Id} {items done incoming : List CartEntry} {lines : List MergeLine}

/-! ### The sums -/

/-- How much of a unit is in the items. -/
def unitQuantity (items : List CartEntry) (unit : CartUnit) : ℕ :=
  ((items.filter fun e => e.unit = unit).map (·.quantity)).sum

theorem unitQuantity_append (items done : List CartEntry) (unit : CartUnit) :
    unitQuantity (items ++ done) unit = unitQuantity items unit + unitQuantity done unit := by
  rw [unitQuantity, List.filter_append, List.map_append, List.sum_append]
  rfl

theorem unitQuantity_singleton (e : CartEntry) (unit : CartUnit) :
    unitQuantity [e] unit = if e.unit = unit then e.quantity else 0 := by
  by_cases h : e.unit = unit
  · simp [unitQuantity, h]
  · simp [unitQuantity, h]

/-- A unit that is not among the items has no quantity there. -/
theorem unitQuantity_of_not_mem {unit : CartUnit} (h : unit ∉ items.map (·.unit)) : unitQuantity items unit = 0 := by
  have hnil : (items.filter fun e => e.unit = unit) = [] :=
    List.filter_eq_nil_iff.mpr fun e he hunit => h (List.mem_map.mpr ⟨e, he, of_decide_eq_true hunit⟩)
  rw [unitQuantity, hnil]
  rfl

/-- `by_line`, when some of the incoming items were added to it. -/
structure Summed (items done : List CartEntry) (lines : List MergeLine) : Prop where
  nodup : (lines.map (·.unit)).Nodup
  units : ∀ u, u ∈ lines.map (·.unit) ↔ u ∈ items.map (·.unit) ∨ u ∈ done.map (·.unit)
  quantity : ∀ l ∈ lines, l.quantity = unitQuantity items l.unit + unitQuantity done l.unit
  entry : ∀ l ∈ lines, (∃ e ∈ items, e.unit = l.unit ∧ l.entryId = some e.id) ∨
    l.unit ∉ items.map (·.unit) ∧ l.entryId = none
  changed : ∀ l ∈ lines, l.changed = true ↔ l.unit ∈ done.map (·.unit)

theorem Summed.loaded (hnodup : (items.map (·.unit)).Nodup) (hquantity : ∀ e ∈ items, unitQuantity items e.unit = e.quantity) :
    Summed items [] (items.map CartEntry.mergeLine) := by
  have hunits : (items.map CartEntry.mergeLine).map (·.unit) = items.map (·.unit) := by
    rw [List.map_map]
    rfl
  refine ⟨hunits ▸ hnodup, fun u => ?_, fun l hl => ?_, fun l hl => ?_, fun l hl => ?_⟩
  · rw [hunits, List.map_nil, or_iff_left List.not_mem_nil]
  · obtain ⟨e, he, rfl⟩ := List.mem_map.mp hl
    exact (hquantity e he).symm
  · obtain ⟨e, he, rfl⟩ := List.mem_map.mp hl
    exact .inl ⟨e, he, rfl, rfl⟩
  · obtain ⟨e, _, rfl⟩ := List.mem_map.mp hl
    exact ⟨fun h => (Bool.false_ne_true h).elim, fun h => absurd h List.not_mem_nil⟩

theorem Summed.addTo (h : Summed items done lines) (source : CartEntry) :
    Summed items (done ++ [source]) (MergeLine.addTo lines source) := by
  have hdone : ∀ u, u ∈ (done ++ [source]).map (·.unit) ↔ u ∈ done.map (·.unit) ∨ u = source.unit := by
    intro u
    rw [List.map_append, List.mem_append, List.map_singleton, List.mem_singleton]
  have hsum : ∀ u, unitQuantity (done ++ [source]) u = unitQuantity done u + if source.unit = u then source.quantity else 0 := by
    intro u
    rw [unitQuantity_append, unitQuantity_singleton]
  by_cases hthere : ∃ l ∈ lines, l.unit = source.unit
  · have hunits : (MergeLine.addTo lines source).map (·.unit) = lines.map (·.unit) := by
      rw [MergeLine.addTo, if_pos hthere, List.map_map]
      refine List.map_congr_left fun l _ => ?_
      rw [Function.comp_apply]
      split
      · rfl
      · rfl
    -- a line keeps its unit and its entry
    have hkept : ∀ l ∈ MergeLine.addTo lines source, ∃ l₀ ∈ lines, l.unit = l₀.unit ∧ l.entryId = l₀.entryId ∧
        l.quantity = l₀.quantity + (if source.unit = l₀.unit then source.quantity else 0) ∧
        (l.changed = true ↔ l₀.changed = true ∨ l₀.unit = source.unit) := by
      intro l hl
      rw [MergeLine.addTo, if_pos hthere] at hl
      obtain ⟨l₀, hl₀, rfl⟩ := List.mem_map.mp hl
      refine ⟨l₀, hl₀, ?_⟩
      by_cases hunit : l₀.unit = source.unit
      · simp [hunit]
      · simp [hunit, Ne.symm hunit]
    refine ⟨hunits ▸ h.nodup, fun u => ?_, fun l hl => ?_, fun l hl => ?_, fun l hl => ?_⟩
    · obtain ⟨l, hl, hunit⟩ := hthere
      have hsource := (h.units source.unit).mp (hunit ▸ List.mem_map_of_mem hl)
      rw [hunits, h.units, hdone, ← or_assoc]
      constructor
      · exact .inl
      · rintro (hu | rfl)
        · exact hu
        · exact hsource
    · obtain ⟨l₀, hl₀, hunit, _, hquantity, _⟩ := hkept l hl
      rw [hquantity, hunit, hsum, h.quantity l₀ hl₀, Nat.add_assoc]
    · obtain ⟨l₀, hl₀, hunit, hentry, _⟩ := hkept l hl
      rw [hunit, hentry]
      exact h.entry l₀ hl₀
    · obtain ⟨l₀, hl₀, hunit, _, _, hchanged⟩ := hkept l hl
      rw [hchanged, hunit, hdone, h.changed l₀ hl₀]
  · have hnew : source.unit ∉ lines.map (·.unit) := fun hmem => hthere (List.mem_map.mp hmem)
    obtain ⟨hitems, hbefore⟩ : source.unit ∉ items.map (·.unit) ∧ source.unit ∉ done.map (·.unit) := by
      rw [h.units, not_or] at hnew
      exact hnew
    have hother : ∀ l ∈ lines, source.unit ≠ l.unit := fun l hl hunit => hthere ⟨l, hl, hunit.symm⟩
    rw [MergeLine.addTo, if_neg hthere]
    refine ⟨?_, fun u => ?_, fun l hl => ?_, fun l hl => ?_, fun l hl => ?_⟩
    · rw [List.map_append]
      refine List.Nodup.append h.nodup (List.nodup_singleton _) fun u hu hsource => ?_
      cases List.mem_singleton.mp hsource
      exact hnew hu
    · rw [List.map_append, List.mem_append, h.units, hdone, List.map_singleton, List.mem_singleton, or_assoc]
    · rw [hsum]
      rcases List.mem_append.mp hl with hold | hsource
      · rw [if_neg (hother l hold), Nat.add_zero]
        exact h.quantity l hold
      · cases List.mem_singleton.mp hsource
        rw [unitQuantity_of_not_mem hitems, unitQuantity_of_not_mem hbefore, if_pos rfl]
        rw [Nat.zero_add, Nat.zero_add]
    · rcases List.mem_append.mp hl with hold | hsource
      · exact h.entry l hold
      · cases List.mem_singleton.mp hsource
        exact .inr ⟨hitems, rfl⟩
    · rw [hdone]
      rcases List.mem_append.mp hl with hold | hsource
      · rw [h.changed l hold, or_iff_left fun hunit => hother l hold hunit.symm]
      · cases List.mem_singleton.mp hsource
        exact ⟨fun _ => .inr rfl, fun _ => rfl⟩

theorem Summed.foldl (h : Summed items done lines) (incoming : List CartEntry) :
    Summed items (done ++ incoming) (incoming.foldl MergeLine.addTo lines) := by
  induction incoming generalizing done lines with
  | nil => rwa [List.append_nil]
  | cons source incoming ih =>
    rw [List.foldl_cons, List.append_cons]
    exact ih (h.addTo source)

/-! ### The writes -/

/-- A line of the merge is that of the cart, or the cart has none. -/
def MergeLine.Fits (s : CartStore) (cartId : Id) (l : MergeLine) : Prop :=
  (s.getItemByProduct cartId l.unit).map CartEntry.id = l.entryId

/-- What the cart has of the unit is the line; all else stays. -/
structure Puts (s s' : CartStore) (cartId : Id) (l : MergeLine) : Prop where
  carts : s'.carts = s.carts
  line : ∃ x, s'.getItemByProduct cartId l.unit = some x ∧ x.quantity = l.quantity
  other : ∀ c u, ¬ (c = cartId ∧ u = l.unit) → s'.getItemByProduct c u = s.getItemByProduct c u

theorem write_mergeLine (hv : s.Valid) (hcart : (s.carts.get? cartId).isSome = true) {l : MergeLine} (hfits : l.Fits s cartId)
    (hpos : 0 < l.quantity) (hrange : l.quantity ≤ maxInt32) : ∃ s', s.write (l.write cartId) = .ok s' ∧ Puts s s' cartId l := by
  unfold MergeLine.Fits at hfits
  cases hentry : l.entryId with
  | some entryId =>
    rw [hentry] at hfits
    obtain ⟨e, hfound, rfl⟩ := Option.map_eq_some_iff.mp hfits
    obtain ⟨hmem, hcartId, hunit⟩ := (getItemByProduct_eq_some hv).mp hfound
    have hget : s.entries.get? e.id = some e := get?_of_mem hmem
    have hwrite : s.write (l.write cartId) =
        .ok { s with entries := s.entries.replace { e with quantity := l.quantity } } := by
      rw [MergeLine.write, hentry]
      simp only [CartStore.write, hget]
      rw [if_neg hpos.ne', if_neg (Nat.not_lt.mpr hrange)]
    have hline := getItemByProduct_setQuantity hv hget (hv.write hwrite)
    refine ⟨_, hwrite, rfl, ⟨{ e with quantity := l.quantity }, ?_, rfl⟩, fun c u hother => ?_⟩
    · rw [hline, if_pos ⟨hcartId, hunit⟩]
    · rw [hline, if_neg fun h => hother ⟨h.1.symm.trans hcartId, h.2.symm.trans hunit⟩]
  | none =>
    rw [hentry, Option.map_eq_none_iff] at hfits
    have hfree : s.entries.get? (key (⟨s.next, cartId, l.unit, l.quantity, l.priceCents⟩ : CartEntry)) = none :=
      get?_eq_none.mpr fun x hx => (hv.fresh x hx).ne
    obtain ⟨entries, hinsert⟩ := Option.ne_none_iff_exists'.mp fun hnone => insert?_eq_none.mp hnone hfree
    have hwrite : s.write (l.write cartId) = .ok { s with entries := entries, next := s.next + 1 } := by
      rw [MergeLine.write, hentry]
      simp only [CartStore.write, CartStore.insertEntry]
      rw [if_neg (by simpa [Option.isSome_iff_ne_none] using hcart), if_neg (by simp [hfits]), if_neg hpos.ne',
        if_neg (Nat.not_lt.mpr hrange), hinsert]
    have hline := getItemByProduct_insert? hv hinsert (hv.write hwrite)
    refine ⟨_, hwrite, rfl, ⟨⟨s.next, cartId, l.unit, l.quantity, l.priceCents⟩, ?_, rfl⟩, fun c u hother => ?_⟩
    · rw [hline, if_pos ⟨rfl, rfl⟩]
    · rw [hline, if_neg fun h => hother ⟨h.1.symm, h.2.symm⟩]

/-- What the cart has of each unit is its line, if there is one; all else stays. -/
structure PutsAll (s s' : CartStore) (cartId : Id) (lines : List MergeLine) : Prop where
  carts : s'.carts = s.carts
  line : ∀ l ∈ lines, ∃ x, s'.getItemByProduct cartId l.unit = some x ∧ x.quantity = l.quantity
  other : ∀ c u, ¬ (c = cartId ∧ u ∈ lines.map (·.unit)) → s'.getItemByProduct c u = s.getItemByProduct c u

theorem writeAll_mergeLines (hv : s.Valid) (hcart : (s.carts.get? cartId).isSome = true) (hnodup : (lines.map (·.unit)).Nodup)
    (hfits : ∀ l ∈ lines, l.Fits s cartId) (hpos : ∀ l ∈ lines, 0 < l.quantity) (hrange : ∀ l ∈ lines, l.quantity ≤ maxInt32) :
    ∃ s', s.writeAll (lines.map (MergeLine.write cartId)) = .ok s' ∧ s'.Valid ∧ PutsAll s s' cartId lines := by
  induction lines generalizing s with
  | nil => exact ⟨s, rfl, hv, rfl, fun _ h => absurd h List.not_mem_nil, fun _ _ _ => rfl⟩
  | cons l lines ih =>
    obtain ⟨hnew, hnodup⟩ := List.nodup_cons.mp hnodup
    obtain ⟨s₁, hwrite, hputs⟩ := write_mergeLine hv hcart (hfits l List.mem_cons_self) (hpos l List.mem_cons_self)
      (hrange l List.mem_cons_self)
    have hunit : ∀ l' ∈ lines, l'.unit ≠ l.unit := fun l' hl' hsame => hnew (List.mem_map.mpr ⟨l', hl', hsame⟩)
    have hfits₁ : ∀ l' ∈ lines, l'.Fits s₁ cartId := by
      intro l' hl'
      rw [MergeLine.Fits, hputs.other _ _ fun h => hunit l' hl' h.2]
      exact hfits l' (List.mem_cons_of_mem _ hl')
    obtain ⟨s₂, hrest, hv₂, hall⟩ := ih (hv.write hwrite) (hputs.carts ▸ hcart) hnodup hfits₁
      (fun l' hl' => hpos l' (List.mem_cons_of_mem _ hl')) fun l' hl' => hrange l' (List.mem_cons_of_mem _ hl')
    refine ⟨s₂, ?_, hv₂, hall.carts.trans hputs.carts, fun l' hl' => ?_, fun c u hother => ?_⟩
    · rw [List.map_cons, CartStore.writeAll, hwrite]
      exact hrest
    · rcases List.mem_cons.mp hl' with rfl | hold
      · rw [hall.other _ _ fun h => hnew h.2]
        exact hputs.line
      · exact hall.line l' hold
    · rw [List.map_cons, List.mem_cons] at hother
      rw [hall.other c u fun h => hother ⟨h.1, .inr h.2⟩, hputs.other c u fun h => hother ⟨h.1, .inl h.2⟩]

theorem writeAll_append {ws ws' : List CartWrite} (h : s.writeAll ws = .ok s') : s.writeAll (ws ++ ws') = s'.writeAll ws' := by
  induction ws generalizing s with
  | nil =>
    cases h
    rfl
  | cons w ws ih =>
    rw [List.cons_append, CartStore.writeAll]
    rw [CartStore.writeAll] at h
    cases hw : s.write w with
    | ok s₁ =>
      rw [hw] at h
      exact ih h
    | error e =>
      rw [hw] at h
      cases h

/-! ### Carts after a write to them -/

variable {userId : Id} {guestToken : String} {owner : CartOwner} {cart guest user : CartRow} {unit : CartUnit}

theorem quantityOf_of_cart (hcart : s.cartOf owner = some cart) (unit : CartUnit) :
    s.quantityOf owner unit = unitQuantity (s.entriesOf cart.id) unit := by
  rw [CartStore.quantityOf, CartStore.lines, hcart]
  rfl

theorem quantityOf_of_none (hcart : s.cartOf owner = none) (unit : CartUnit) : s.quantityOf owner unit = 0 := by
  rw [CartStore.quantityOf, CartStore.lines, hcart]
  rfl

theorem quantityOf_congr (hv : s.Valid) (hv' : s'.Valid) (hcart : s'.cartOf owner = s.cartOf owner)
    (hlines : ∀ c ∈ s.cartOf owner, s'.getItemByProduct c.id unit = s.getItemByProduct c.id unit) :
    s'.quantityOf owner unit = s.quantityOf owner unit := by
  rw [quantityOf_eq hv, quantityOf_eq hv', hcart]
  cases hfound : s.cartOf owner with
  | none => rfl
  | some c => rw [Option.bind_some, Option.bind_some, hlines c hfound]

/-- A cart handed over: its lines are those of the new owner. -/
theorem reassign_spec {newOwner : CartOwner} (hv : s.Valid) (hcart : s.cartOf owner = some cart) (hfree : s.cartOf newOwner = none) :
    ∃ s', s.write (.reassign cart.id newOwner) = .ok s' ∧ s'.entries = s.entries ∧
      s'.cartOf newOwner = some { cart with owner := newOwner } ∧ s'.cartOf owner = none ∧
      ∀ o, o ≠ owner → o ≠ newOwner → s'.cartOf o = s.cartOf o := by
  obtain ⟨hmem, rfl⟩ := (cartOf_eq_some hv).mp hcart
  have hget : s.carts.get? cart.id = some cart := get?_of_mem hmem
  have hne : newOwner ≠ cart.owner := fun h => by
    rw [h, hcart] at hfree
    cases hfree
  have hwrite : s.write (.reassign cart.id newOwner) =
      .ok { s with carts := s.carts.replace { cart with owner := newOwner } } := by
    simp only [CartStore.write, hget]
    rw [if_neg (by simp [hfree])]
  have hv' := hv.write hwrite
  have hfound : s.carts.get? (key ({ cart with owner := newOwner } : CartRow)) = some cart := hget
  refine ⟨_, hwrite, rfl, (cartOf_eq_some hv').mpr ⟨(mem_replace hfound).mpr (.inl rfl), rfl⟩,
    cartOf_eq_none.mpr fun c hc howner => ?_, fun o ho hnew => Option.ext fun c => ?_⟩
  · rcases (mem_replace hfound).mp hc with rfl | ⟨hold, hkey⟩
    · exact hne howner
    · exact hkey (hv.owners c hold cart hmem howner)
  · rw [cartOf_eq_some hv', cartOf_eq_some hv]
    constructor
    · rintro ⟨hc, rfl⟩
      rcases (mem_replace hfound).mp hc with rfl | ⟨hold, _⟩
      · exact absurd rfl hnew
      · exact ⟨hold, rfl⟩
    · rintro ⟨hc, rfl⟩
      refine ⟨(mem_replace hfound).mpr (.inr ⟨hc, fun hkey => ho ?_⟩), rfl⟩
      exact congrArg CartRow.owner (s.carts.eq_of_key_eq hc hmem hkey)

/-- A cart that is deleted with its lines. -/
theorem deleteCart_spec (hv : s.Valid) (hcart : s.cartOf owner = some cart) :
    ∃ s', s.write (.deleteCart cart.id) = .ok s' ∧ s'.cartOf owner = none ∧ (∀ o, o ≠ owner → s'.cartOf o = s.cartOf o) ∧
      ∀ c u, c ≠ cart.id → s'.getItemByProduct c u = s.getItemByProduct c u := by
  obtain ⟨hmem, rfl⟩ := (cartOf_eq_some hv).mp hcart
  have hwrite : s.write (.deleteCart cart.id) = .ok { s with
      carts := s.carts.erase cart.id
      entries := s.entries.keep fun e => e.cartId ≠ cart.id } := rfl
  have hv' := hv.write hwrite
  refine ⟨_, hwrite, cartOf_eq_none.mpr fun c hc howner => ?_, fun o ho => Option.ext fun c => ?_,
    fun c u hne => Option.ext fun e => ?_⟩
  · obtain ⟨hold, hkey⟩ := mem_erase.mp hc
    exact hkey (hv.owners c hold cart hmem howner)
  · rw [cartOf_eq_some hv', cartOf_eq_some hv, mem_erase]
    constructor
    · rintro ⟨⟨hc, _⟩, howner⟩
      exact ⟨hc, howner⟩
    · rintro ⟨hc, rfl⟩
      refine ⟨⟨hc, fun hkey => ho ?_⟩, rfl⟩
      exact congrArg CartRow.owner (s.carts.eq_of_key_eq hc hmem hkey)
  · rw [getItemByProduct_eq_some hv', getItemByProduct_eq_some hv, mem_keep]
    constructor
    · rintro ⟨⟨he, _⟩, hline⟩
      exact ⟨he, hline⟩
    · rintro ⟨he, rfl, hunit⟩
      exact ⟨⟨he, decide_eq_true hne⟩, rfl, hunit⟩

/-! ### The merge -/

theorem unitQuantity_entriesOf (hv : s.Valid) {e : CartEntry} (he : e ∈ s.entriesOf cartId) :
    unitQuantity (s.entriesOf cartId) e.unit = e.quantity := by
  obtain ⟨hmem, hcart⟩ := List.mem_filter.mp he
  have hfound := (getItemByProduct_eq_some hv).mpr ⟨hmem, of_decide_eq_true hcart, rfl⟩
  rw [unitQuantity, filter_unit_eq hv, hfound]
  exact Nat.add_zero _

theorem entriesOf_units_nodup (hv : s.Valid) (cartId : Id) : ((s.entriesOf cartId).map (·.unit)).Nodup := by
  refine List.Nodup.map_on (fun e he e' he' hunit => ?_) (List.Nodup.filter _ (List.Nodup.of_map _ s.entries.nodup))
  obtain ⟨hmem, hcart⟩ := List.mem_filter.mp he
  obtain ⟨hmem', hcart'⟩ := List.mem_filter.mp he'
  exact s.entries.eq_of_key_eq hmem hmem'
    (hv.units e hmem e' hmem' ((of_decide_eq_true hcart).trans (of_decide_eq_true hcart').symm) hunit)

/-- The items of one cart are added to another one: each unit has its sum. -/
theorem mergeItems_spec (hv : s.Valid) (hcart : (s.carts.get? user.id).isSome = true)
    (hrange : ∀ unit, unitQuantity (s.entriesOf user.id) unit + unitQuantity (s.entriesOf guest.id) unit ≤ maxInt32) :
    ∃ s', s.writeAll (mergeItemsIntoCart ⟨user, s.entriesOf user.id⟩ (s.entriesOf guest.id)) = .ok s' ∧ s'.Valid ∧
      s'.carts = s.carts ∧ (∀ c u, c ≠ user.id → s'.getItemByProduct c u = s.getItemByProduct c u) ∧
      ∀ unit, (s'.getItemByProduct user.id unit).elim 0 CartEntry.quantity =
        unitQuantity (s.entriesOf user.id) unit + unitQuantity (s.entriesOf guest.id) unit := by
  have hsummed := (Summed.loaded (entriesOf_units_nodup hv user.id) fun e he => unitQuantity_entriesOf hv he).foldl
    (s.entriesOf guest.id)
  rw [List.nil_append] at hsummed
  rw [mergeItemsIntoCart]
  generalize hlines : (s.entriesOf guest.id).foldl MergeLine.addTo ((s.entriesOf user.id).map CartEntry.mergeLine) = lines
    at hsummed
  dsimp only
  have hmem : ∀ l ∈ lines.filter (·.changed), l ∈ lines ∧ ∃ e ∈ s.entriesOf guest.id, e.unit = l.unit := by
    intro l hl
    obtain ⟨hl, hchanged⟩ := List.mem_filter.mp hl
    exact ⟨hl, List.mem_map.mp ((hsummed.changed l hl).mp hchanged)⟩
  have hfits : ∀ l ∈ lines.filter (·.changed), l.Fits s user.id := by
    intro l hl
    rcases hsummed.entry l (hmem l hl).1 with ⟨e, he, hunit, hentry⟩ | ⟨hnew, hentry⟩
    · obtain ⟨he, hcartId⟩ := List.mem_filter.mp he
      rw [MergeLine.Fits, (getItemByProduct_eq_some hv).mpr ⟨he, of_decide_eq_true hcartId, hunit⟩, hentry]
      rfl
    · rw [MergeLine.Fits, hentry, Option.map_eq_none_iff, getItemByProduct_eq_none]
      exact fun e he hcartId hunit =>
        hnew (List.mem_map.mpr ⟨e, List.mem_filter.mpr ⟨he, decide_eq_true hcartId⟩, hunit⟩)
  have hpos : ∀ l ∈ lines.filter (·.changed), 0 < l.quantity := by
    intro l hl
    obtain ⟨hl, e, he, hunit⟩ := hmem l hl
    have hsome : 0 < e.quantity := (hv.range e (List.mem_filter.mp he).1).1
    rw [hsummed.quantity l hl, ← hunit, unitQuantity_entriesOf hv he]
    omega
  have hfit : ∀ l ∈ lines.filter (·.changed), l.quantity ≤ maxInt32 := by
    intro l hl
    rw [hsummed.quantity l (hmem l hl).1]
    exact hrange l.unit
  have hnodup : ((lines.filter (·.changed)).map (·.unit)).Nodup :=
    hsummed.nodup.sublist (List.Sublist.map _ List.filter_sublist)
  obtain ⟨s', hwrite, hv', hputs⟩ := writeAll_mergeLines hv hcart hnodup hfits hpos hfit
  refine ⟨s', hwrite, hv', hputs.carts, fun c u hne => hputs.other c u fun h => hne h.1, fun unit => ?_⟩
  by_cases hguest : unit ∈ (s.entriesOf guest.id).map (·.unit)
  · obtain ⟨l, hl, rfl⟩ := List.mem_map.mp ((hsummed.units unit).mpr (.inr hguest))
    have hchanged := List.mem_filter.mpr ⟨hl, (hsummed.changed l hl).mpr hguest⟩
    obtain ⟨x, hfound, hquantity⟩ := hputs.line l hchanged
    rw [hfound, Option.elim_some, hquantity, hsummed.quantity l hl]
  · rw [hputs.other _ _ fun h => ?_, unitQuantity_of_not_mem hguest, Nat.add_zero, unitQuantity, filter_unit_eq hv]
    · cases s.getItemByProduct user.id unit with
      | none => rfl
      | some e => exact (Nat.add_zero _).symm
    · obtain ⟨l, hl, rfl⟩ := List.mem_map.mp h.2
      exact hguest ((hsummed.changed l (List.mem_filter.mp hl).1).mp (List.mem_filter.mp hl).2)

/-- What a merge is for. -/
structure CartsKept (s s' : CartStore) (userId : Id) (guestToken : String) : Prop where
  /-- a unit of either cart is in one line with its sum, and nothing else is there -/
  line : ∀ unit, ((s'.lines (.user userId)).filter fun e => e.unit = unit).map (·.quantity) =
    if unit ∈ (s.lines (.user userId) ++ s.lines (.guest guestToken)).map (·.unit) then
      [s.quantityOf (.user userId) unit + s.quantityOf (.guest guestToken) unit]
    else []
  gone : s'.cartOf (.guest guestToken) = none
  again : mergeGuestCartIntoUser s' userId guestToken = .ok s'
  others : ∀ owner, owner ≠ .user userId → owner ≠ .guest guestToken → ∀ unit, s'.quantityOf owner unit = s.quantityOf owner unit

theorem merge_without_guest (hcart : s.cartOf (.guest guestToken) = none) :
    mergeGuestCartIntoUser s userId guestToken = .ok s := by
  rw [mergeGuestCartIntoUser, CartStore.load, hcart]
  rfl

theorem mem_entries_of_mem_lines {e : CartEntry} (h : e ∈ s.lines owner) : e ∈ s.entries.rows := by
  unfold CartStore.lines at h
  split at h
  · exact (List.mem_filter.mp h).1
  · cases h

theorem mem_units (hv : s.Valid) (owner : CartOwner) (unit : CartUnit) :
    unit ∈ (s.lines owner).map (·.unit) ↔ s.quantityOf owner unit ≠ 0 := by
  constructor
  · intro h hzero
    obtain ⟨e, he, rfl⟩ := List.mem_map.mp h
    have hin : e.quantity ∈ (((s.lines owner).filter fun x => x.unit = e.unit).map (·.quantity)) :=
      List.mem_map_of_mem (List.mem_filter.mpr ⟨he, decide_eq_true rfl⟩)
    exact (hv.range e (mem_entries_of_mem_lines he)).1.ne' (List.sum_eq_zero_iff.mp hzero _ hin)
  · intro h
    by_contra hnot
    exact h (unitQuantity_of_not_mem hnot)

/-- Where each unit has its sum, it has it in one line. -/
theorem line_of_quantity (hv : s.Valid) (hv' : s'.Valid)
    (hquantity : ∀ unit, s'.quantityOf (.user userId) unit =
      s.quantityOf (.user userId) unit + s.quantityOf (.guest guestToken) unit) (unit : CartUnit) :
    ((s'.lines (.user userId)).filter fun e => e.unit = unit).map (·.quantity) =
      if unit ∈ (s.lines (.user userId) ++ s.lines (.guest guestToken)).map (·.unit) then
        [s.quantityOf (.user userId) unit + s.quantityOf (.guest guestToken) unit]
      else [] := by
  have hone := lines_unit_le_one hv' (.user userId) unit
  have hsum := hquantity unit
  have hmem : unit ∈ (s.lines (.user userId) ++ s.lines (.guest guestToken)).map (·.unit) ↔
      s.quantityOf (.user userId) unit + s.quantityOf (.guest guestToken) unit ≠ 0 := by
    rw [List.map_append, List.mem_append, mem_units hv, mem_units hv]
    omega
  generalize hline : (s'.lines (.user userId)).filter (fun e => e.unit = unit) = line at hone
  rw [CartStore.quantityOf, hline] at hsum
  rcases line with _ | ⟨e, _ | ⟨e', rest⟩⟩
  · rw [if_neg fun h => hmem.mp h hsum.symm]
    rfl
  · have hin : e ∈ (s'.lines (.user userId)).filter (fun e => e.unit = unit) := hline ▸ List.mem_singleton_self e
    have hpos : s'.quantityOf (.user userId) unit ≠ 0 :=
      (mem_units hv' _ _).mp (List.mem_map.mpr ⟨e, (List.mem_filter.mp hin).1, of_decide_eq_true (List.mem_filter.mp hin).2⟩)
    rw [if_pos (hmem.mpr (hquantity unit ▸ hpos)), ← hsum]
    simp
  · simp at hone

theorem conserves_of_quantity (hv : s.Valid) (hv' : s'.Valid) (hgone : s'.cartOf (.guest guestToken) = none)
    (hquantity : ∀ unit, s'.quantityOf (.user userId) unit =
      s.quantityOf (.user userId) unit + s.quantityOf (.guest guestToken) unit)
    (hothers : ∀ owner, owner ≠ .user userId → owner ≠ .guest guestToken → ∀ unit,
      s'.quantityOf owner unit = s.quantityOf owner unit) : CartsKept s s' userId guestToken :=
  ⟨line_of_quantity hv hv' hquantity, hgone, merge_without_guest hgone, hothers⟩

theorem conserves_without_guest (hv : s.Valid) (hguest : s.cartOf (.guest guestToken) = none) :
    CartsKept s s userId guestToken := by
  refine conserves_of_quantity hv hv hguest (fun unit => ?_) fun _ _ _ _ => rfl
  rw [quantityOf_of_none hguest, Nat.add_zero]

/-- A user without a cart gets that of the guest. -/
theorem conserves_handed_over (hv : s.Valid) (hguest : s.cartOf (.guest guestToken) = some guest)
    (huser : s.cartOf (.user userId) = none) :
    ∃ s', mergeGuestCartIntoUser s userId guestToken = .ok s' ∧ CartsKept s s' userId guestToken := by
  obtain ⟨s', hwrite, hentries, hnew, hgone, hothers⟩ := reassign_spec hv hguest huser
  have hmerge : mergeGuestCartIntoUser s userId guestToken = .ok s' := by
    rw [mergeGuestCartIntoUser, CartStore.load, CartStore.load, hguest, huser]
    simp only [Option.map_some, Option.map_none, mergeWrites, CartStore.writeAll, hwrite]
  have hv' := hv.write hwrite
  refine ⟨s', hmerge, conserves_of_quantity hv hv' hgone (fun unit => ?_) fun o huser' hguest' unit => ?_⟩
  · rw [quantityOf_of_none huser, Nat.zero_add, quantityOf_of_cart hnew, quantityOf_of_cart hguest]
    simp only [CartStore.entriesOf, hentries]
  · refine quantityOf_congr hv hv' (hothers o hguest' huser') fun c _ => ?_
    simp only [CartStore.getItemByProduct, hentries]

/-- Two carts become one where every sum fits. -/
theorem conserves_merged (hv : s.Valid) (hguest : s.cartOf (.guest guestToken) = some guest)
    (huser : s.cartOf (.user userId) = some user)
    (hrange : ∀ unit, s.quantityOf (.user userId) unit + s.quantityOf (.guest guestToken) unit ≤ maxInt32) :
    ∃ s', mergeGuestCartIntoUser s userId guestToken = .ok s' ∧ CartsKept s s' userId guestToken := by
  have hne : guest.id ≠ user.id := fun hid => by cases cart_eq_of_id hv hguest huser hid
  obtain ⟨hmem, howner⟩ := (cartOf_eq_some hv).mp huser
  simp only [quantityOf_of_cart huser, quantityOf_of_cart hguest] at hrange
  obtain ⟨s₁, hitems, hv₁, hcarts, hother, hsum⟩ :=
    mergeItems_spec hv (congrArg Option.isSome (get?_of_mem hmem)) hrange
  have hcartOf : ∀ o, s₁.cartOf o = s.cartOf o := fun o => by rw [CartStore.cartOf, hcarts, CartStore.cartOf]
  obtain ⟨s₂, hdelete, hgone, hkept, hlines⟩ := deleteCart_spec hv₁ ((hcartOf _).trans hguest)
  have hmerge : mergeGuestCartIntoUser s userId guestToken = .ok s₂ := by
    rw [mergeGuestCartIntoUser, CartStore.load, CartStore.load, hguest, huser]
    simp only [Option.map_some, mergeWrites]
    rw [writeAll_append hitems, CartStore.writeAll, hdelete]
    rfl
  have hv₂ := hv₁.write hdelete
  refine ⟨s₂, hmerge, conserves_of_quantity hv hv₂ hgone (fun unit => ?_) fun o huser' hguest' unit => ?_⟩
  · have hcart₂ : s₂.cartOf (.user userId) = some user := by rw [hkept _ (fun h => by cases h), hcartOf, huser]
    rw [quantityOf_eq hv₂, hcart₂, Option.bind_some, hlines _ _ hne.symm, hsum unit, quantityOf_of_cart huser,
      quantityOf_of_cart hguest]
  · refine quantityOf_congr hv hv₂ ((hkept o hguest').trans (hcartOf o)) fun c hc => ?_
    rw [hlines _ _ fun hid => hguest' (cart_eq_of_id hv hc hguest hid),
      hother _ _ fun hid => huser' (cart_eq_of_id hv hc huser hid)]

/-- A merge keeps what is in both carts if and only if each sum fits its column. -/
theorem merge_conserves_iff {tr : List (Taken CartSystem CartLabel)} {sys : CartSystem} (run : CartRun tr sys) (userId : Id)
    (guestToken : String) :
    (∃ s', mergeGuestCartIntoUser sys.store userId guestToken = .ok s' ∧ CartsKept sys.store s' userId guestToken) ↔
      ∀ unit, sys.store.quantityOf (.user userId) unit + sys.store.quantityOf (.guest guestToken) unit ≤ maxInt32 := by
  have hv := (CartInv.of_run run).valid
  constructor
  · rintro ⟨s', hmerge, hconserves⟩ unit
    have hv' : s'.Valid := hv.writeAll hmerge
    have hline := hconserves.line unit
    split at hline
    · obtain ⟨e, he⟩ := List.map_eq_singleton_iff.mp hline
      have hmem : e ∈ s'.lines (.user userId) := (List.mem_filter.mp (he.1 ▸ List.mem_singleton_self e)).1
      rw [← he.2]
      exact (hv'.range e (mem_entries_of_mem_lines hmem)).2
    · rename_i hnone
      rw [List.map_append, List.mem_append, mem_units hv, mem_units hv] at hnone
      omega
  · intro hrange
    cases hguest : sys.store.cartOf (.guest guestToken) with
    | none => exact ⟨sys.store, merge_without_guest hguest, conserves_without_guest hv hguest⟩
    | some guest =>
      cases huser : sys.store.cartOf (.user userId) with
      | none => exact conserves_handed_over hv hguest huser
      | some user => exact conserves_merged hv hguest huser hrange

theorem quantityOf_le {n : ℕ} (hv : s.Valid) (h : ∀ e ∈ s.entries.rows, e.quantity ≤ n) (owner : CartOwner) (unit : CartUnit) :
    s.quantityOf owner unit ≤ n := by
  rw [quantityOf_eq hv]
  cases hline : (s.cartOf owner).bind fun c => s.getItemByProduct c.id unit with
  | none => exact Nat.zero_le n
  | some e =>
    obtain ⟨c, _, hfound⟩ := Option.bind_eq_some_iff.mp hline
    exact h e ((getItemByProduct_eq_some hv).mp hfound).1

/-- A product of which there is a lot. -/
def pallet : Table Product := ⟨[⟨0, 2000000000, 0, .active, 100, by decide, by decide⟩], by decide⟩

/-- As much of a product in both carts as one of them can hold. -/
theorem merge_overflows : ∃ tr s, CartRun tr s ∧ ∀ s', mergeGuestCartIntoUser s.store 1 "g" ≠ .ok s' := by
  obtain ⟨tr, s, run, hfails⟩ := exists_exec cartStep .initial
    (P := fun _ s => (mergeGuestCartIntoUser s.store 1 "g").isOk = false)
    ([.catalogue pallet .empty] ++ [CartOwner.guest "g", .user 1].flatMap fun owner =>
      [.begin_ 0 (.addItem owner (some 0) none 2000000000), .read 0, .read 0, .read 0, .commit 0])
    (by decide +kernel)
  refine ⟨tr, s, run, fun s' h => ?_⟩
  rw [h] at hfails
  cases hfails

/-- A guest's cart with one product that the user has and one that the user has not. -/
theorem merge_conserves_two : ∃ tr s s', CartRun tr s ∧ mergeGuestCartIntoUser s.store 1 "g" = .ok s' ∧
    CartsKept s.store s' 1 "g" ∧ s.store.quantityOf (.user 1) ⟨2, none⟩ = 1 ∧ s.store.quantityOf (.guest "g") ⟨2, none⟩ = 1 := by
  obtain ⟨tr, s, run, huser, hguest, hsmall⟩ := exists_exec cartStep .initial
    (P := fun _ s => s.store.quantityOf (.user 1) ⟨2, none⟩ = 1 ∧ s.store.quantityOf (.guest "g") ⟨2, none⟩ = 1 ∧
      ∀ e ∈ s.store.entries.rows, e.quantity ≤ 1)
    ([.catalogue (shelf 4) .empty] ++ addAlone (.guest "g") 2 ++ addAlone (.guest "g") 3 ++ addAlone (.user 1) 2)
    (by decide +kernel)
  obtain ⟨s', hmerge, hkept⟩ := (merge_conserves_iff run 1 "g").mpr fun unit => by
    have hv := (CartInv.of_run run).valid
    have hone := quantityOf_le hv hsmall (.user 1) unit
    have hother := quantityOf_le hv hsmall (.guest "g") unit
    rw [maxInt32]
    omega
  exact ⟨tr, s, s', run, hmerge, hkept, huser, hguest⟩

end NovaCart
