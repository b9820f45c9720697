import NovaCart.CartRuns

/-! When no addition to a cart is lost.

    An addition writes the sum of the quantity it read and its own, or a new line if it found none. That comes out right
    where the line is still as it was read. -/

namespace NovaCart

open Schemes Table
open Keyed (key)

variable {s s' : CartStore} {owner : CartOwner} {unit : CartUnit} {cartId : Id} {e : CartEntry} {quantity : ℕ}

/-! ### Lines after a write -/

theorem cart_eq_of_id (hv : s.Valid) {c c' : CartRow} {o o' : CartOwner} (hc : s.cartOf o = some c) (hc' : s.cartOf o' = some c')
    (hid : c.id = c'.id) : o = o' := by
  obtain ⟨hmem, rfl⟩ := (cartOf_eq_some hv).mp hc
  obtain ⟨hmem', rfl⟩ := (cartOf_eq_some hv).mp hc'
  exact congrArg CartRow.owner (s.carts.eq_of_key_eq hmem hmem' hid)

theorem getItemByProduct_setQuantity (hv : s.Valid) (hget : s.entries.get? e.id = some e)
    (hv' : ({ s with entries := s.entries.replace { e with quantity := quantity } } : CartStore).Valid) (cartId : Id)
    (unit : CartUnit) :
    ({ s with entries := s.entries.replace { e with quantity := quantity } } : CartStore).getItemByProduct cartId unit =
      if e.cartId = cartId ∧ e.unit = unit then some { e with quantity := quantity } else s.getItemByProduct cartId unit := by
  have hfound : s.entries.get? (key ({ e with quantity := quantity } : CartEntry)) = some e := hget
  split
  · rename_i hline
    exact (getItemByProduct_eq_some hv').mpr ⟨(mem_replace hfound).mpr (.inl rfl), hline⟩
  · rename_i hline
    refine Option.ext fun x => ?_
    rw [getItemByProduct_eq_some hv', getItemByProduct_eq_some hv]
    constructor
    · rintro ⟨hx, hcart, hunit⟩
      rcases (mem_replace hfound).mp hx with rfl | ⟨hold, _⟩
      · exact absurd ⟨hcart, hunit⟩ hline
      · exact ⟨hold, hcart, hunit⟩
    · rintro ⟨hx, hcart, hunit⟩
      refine ⟨(mem_replace hfound).mpr (.inr ⟨hx, fun hkey => hline ?_⟩), hcart, hunit⟩
      have hsame : x = e := s.entries.eq_of_key_eq hx (mem_of_get? hget) hkey
      exact hsame ▸ ⟨hcart, hunit⟩

theorem getItemByProduct_insert? {entries : Table CartEntry} (hv : s.Valid) (hinsert : s.entries.insert? e = some entries)
    (hv' : ({ s with entries := entries, next := s.next + 1 } : CartStore).Valid) (cartId : Id) (unit : CartUnit) :
    ({ s with entries := entries, next := s.next + 1 } : CartStore).getItemByProduct cartId unit =
      if e.cartId = cartId ∧ e.unit = unit then some e else s.getItemByProduct cartId unit := by
  split
  · rename_i hline
    exact (getItemByProduct_eq_some hv').mpr ⟨(mem_insert? hinsert).mpr (.inl rfl), hline⟩
  · rename_i hline
    refine Option.ext fun x => ?_
    rw [getItemByProduct_eq_some hv', getItemByProduct_eq_some hv]
    constructor
    · rintro ⟨hx, hcart, hunit⟩
      rcases (mem_insert? hinsert).mp hx with rfl | hold
      · exact absurd ⟨hcart, hunit⟩ hline
      · exact ⟨hold, hcart, hunit⟩
    · rintro ⟨hx, hline'⟩
      exact ⟨(mem_insert? hinsert).mpr (.inr hx), hline'⟩

/-- Everything stays but one quantity, which grows. -/
def Grows (s s' : CartStore) (owner : CartOwner) (unit : CartUnit) (quantity : ℕ) : Prop :=
  ∀ o u, s'.quantityOf o u = s.quantityOf o u + if o = owner ∧ u = unit then quantity else 0

/-- A write to one line of a cart. -/
theorem grows_of_line {cart : CartRow} {x : CartEntry} (hv : s.Valid) (hv' : s'.Valid)
    (hcarts : ∀ o, s'.cartOf o = s.cartOf o) (hcart : s.cartOf cart.owner = some cart)
    (hlines : ∀ c u, s'.getItemByProduct c u = if cart.id = c ∧ unit = u then some x else s.getItemByProduct c u)
    (hquantity : x.quantity = (s.getItemByProduct cart.id unit).elim 0 CartEntry.quantity + quantity) :
    Grows s s' cart.owner unit quantity := by
  intro o u
  rw [quantityOf_eq hv, quantityOf_eq hv', hcarts]
  by_cases ho : o = cart.owner
  · subst ho
    rw [hcart, Option.bind_some, Option.bind_some, hlines]
    by_cases hu : u = unit
    · subst hu
      rw [if_pos ⟨rfl, rfl⟩, if_pos ⟨rfl, rfl⟩, Option.elim_some, hquantity]
    · rw [if_neg fun h => hu h.2.symm, if_neg fun h => hu h.2]
      rfl
  · rw [if_neg fun h => ho h.1]
    cases hother : s.cartOf o with
    | none => rfl
    | some c =>
      rw [Option.bind_some, Option.bind_some, hlines, if_neg fun h => ho (cart_eq_of_id hv hother hcart h.1.symm)]
      rfl

theorem grows_setQuantity {cart : CartRow} (hv : s.Valid) (hcart : s.cartOf cart.owner = some cart)
    (hline : s.getItemByProduct cart.id unit = some e) (h : s.write (.setQuantity e.id (e.quantity + quantity)) = .ok s') :
    Grows s s' cart.owner unit quantity := by
  have hv' := hv.write h
  obtain ⟨hmem, hid, hunit⟩ := (getItemByProduct_eq_some hv).mp hline
  have hget : s.entries.get? e.id = some e := get?_of_mem hmem
  generalize hsum : e.quantity + quantity = total at h
  generalize hentry : e.id = entryId at h
  cases CartWrite.does h with
  | setQuantity e' _ hget' _ _ =>
    rw [hentry] at hget
    cases hget.symm.trans hget'
    refine grows_of_line hv hv' (fun _ => rfl) hcart (fun c u => ?_) (x := { e with quantity := total }) ?_
    · rw [getItemByProduct_setQuantity hv hget' hv', hid, hunit]
    · rw [hline, Option.elim_some, hsum]

theorem grows_insert {cart : CartRow} {priceCents : ℤ} (hv : s.Valid) (hcart : s.cartOf cart.owner = some cart)
    (h : CartWrite.Does s (.insert cart.id unit quantity priceCents) s') : Grows s s' cart.owner unit quantity := by
  have hv' := hv.does h
  cases h with
  | insert _ _ _ _ _ hnone _ _ hinsert =>
    refine grows_of_line hv hv' (fun _ => rfl) hcart (fun c u => getItemByProduct_insert? hv hinsert hv' c u) ?_
    rw [hnone]
    exact (Nat.zero_add _).symm

/-- The new cart of an owner is empty, and the others are what they were. -/
theorem createCart_spec (hv : s.Valid) (h : s.write (.createCart owner) = .ok s') :
    s'.cartOf owner = some ⟨s.next, owner⟩ ∧ (∀ o, o ≠ owner → s'.cartOf o = s.cartOf o) ∧ s'.entries = s.entries := by
  have hv' := hv.write h
  obtain ⟨carts, hinsert, rfl⟩ : ∃ carts, s.carts.insert? ⟨s.next, owner⟩ = some carts ∧
      s' = { s with carts := carts, next := s.next + 1 } := by
    cases CartWrite.does h with
    | createCart _ _ hinsert => exact ⟨_, hinsert, rfl⟩
  refine ⟨(cartOf_eq_some hv').mpr ⟨(mem_insert? hinsert).mpr (.inl rfl), rfl⟩, fun o ho => Option.ext fun c => ?_, rfl⟩
  rw [cartOf_eq_some hv', cartOf_eq_some hv]
  constructor
  · rintro ⟨hc, howner⟩
    rcases (mem_insert? hinsert).mp hc with rfl | hold
    · exact absurd howner.symm ho
    · exact ⟨hold, howner⟩
  · rintro ⟨hc, howner⟩
    exact ⟨(mem_insert? hinsert).mpr (.inr hc), howner⟩

theorem getItemByProduct_createCart (hv : s.Valid) (h : s.write (.createCart owner) = .ok s') (unit : CartUnit) :
    s'.getItemByProduct s.next unit = none := by
  obtain ⟨_, _, hentries⟩ := createCart_spec hv h
  rw [getItemByProduct_eq_none, hentries]
  exact fun e he hcart => absurd hcart (hv.cartId_ne_next he)

theorem quantityOf_createCart (hv : s.Valid) (hfree : s.cartOf owner = none) (h : s.write (.createCart owner) = .ok s')
    (o : CartOwner) (u : CartUnit) : s'.quantityOf o u = s.quantityOf o u := by
  obtain ⟨hnew, hothers, hentries⟩ := createCart_spec hv h
  rw [quantityOf_eq hv, quantityOf_eq (hv.write h)]
  by_cases ho : o = owner
  · subst ho
    rw [hnew, hfree, Option.bind_some, getItemByProduct_createCart hv h]
    rfl
  · rw [hothers o ho]
    simp only [CartStore.getItemByProduct, hentries]

/-! ### When a write fails -/

/-- The quantity does not fit its column. -/
def CartError.isRange (err : CartError) : Prop := err = .checkViolation ∨ err = .outOfRange

theorem setQuantity_error {entryId : Id} {err : CartError} (hget : s.entries.get? entryId = some e)
    (h : s.write (.setQuantity entryId quantity) = .error err) : err.isRange := by
  simp only [CartStore.write, hget] at h
  split at h
  · cases h
    exact .inl rfl
  · split at h
    · cases h
      exact .inr rfl
    · cases h

theorem insertEntry_error {priceCents : ℤ} {err : CartError} (hv : s.Valid) (hcart : (s.carts.get? cartId).isSome = true)
    (hnone : s.getItemByProduct cartId unit = none) (h : s.insertEntry cartId unit quantity priceCents = .error err) :
    err.isRange := by
  unfold CartStore.insertEntry at h
  rw [if_neg (by simpa [Option.isSome_iff_ne_none] using hcart), if_neg (by simp [hnone])] at h
  split at h
  · cases h
    exact .inl rfl
  · split at h
    · cases h
      exact .inr rfl
    · split at h
      · cases h
      · rename_i hinsert
        refine absurd (get?_eq_none.mpr fun x hx hkey => ?_) (insert?_eq_none.mp hinsert)
        exact absurd (hv.fresh x hx) (by rw [show x.id = s.next from hkey]; exact Nat.lt_irrefl _)

theorem createCart_error {err : CartError} (hv : s.Valid) (hfree : s.cartOf owner = none) :
    s.write (.createCart owner) ≠ .error err := by
  intro h
  simp only [CartStore.write, hfree, Option.isSome_none, Bool.false_eq_true, if_false] at h
  split at h
  · cases h
  · rename_i hinsert
    refine absurd (get?_eq_none.mpr fun c hc hkey => ?_) (insert?_eq_none.mp hinsert)
    exact absurd (hv.cartsFresh c hc) (by rw [show c.id = s.next from hkey]; exact Nat.lt_irrefl _)

/-! ### Additions -/

/-- The cart and the line are still as the addition read them. -/
def CartAddition.Current (s : CartStore) (a : CartAddition) : Prop :=
  s.cartOf a.owner = a.cart.map LoadedCart.row ∧
    (a.cart.bind fun cart => s.getItemByProduct cart.row.id a.unit).map (fun e => (e.id, e.quantity)) =
      a.existing.map fun e => (e.id, e.quantity)

instance CartAddition.decidableCurrent (s : CartStore) (a : CartAddition) : Decidable (a.Current s) := inferInstanceAs (Decidable (_ ∧ _))

/-- A current addition adds what it is asked to, or its quantity does not fit. -/
theorem CartAddition.Current.writeAll {a : CartAddition} (hv : s.Valid) (h : a.Current s) :
    match s.writeAll a.writes with
    | .ok s' => Grows s s' a.owner a.unit a.quantity
    | .error err => err.isRange := by
  obtain ⟨hcart, hline⟩ := h
  cases hloaded : a.cart with
  | none =>
    rw [hloaded] at hcart hline
    have hexisting : a.existing = none := by
      cases hex : a.existing with
      | none => rfl
      | some e =>
        rw [hex] at hline
        cases hline
    rw [CartAddition.writes, hloaded, hexisting, CartStore.writeAll]
    cases hcreate : s.write (.createCart a.owner) with
    | error err => exact absurd hcreate (createCart_error hv hcart)
    | ok s₁ =>
      have hv₁ := hv.write hcreate
      obtain ⟨hnew, _, _⟩ := createCart_spec hv hcreate
      have hnone := getItemByProduct_createCart hv hcreate a.unit
      have hfirst : s₁.write (.insertFirst a.owner a.unit a.quantity a.priceCents) =
          s₁.insertEntry s.next a.unit a.quantity a.priceCents := by
        simp only [CartStore.write, hnew]
      dsimp only
      rw [CartStore.writeAll, hfirst]
      cases hinsert : s₁.insertEntry s.next a.unit a.quantity a.priceCents with
      | error err =>
        refine insertEntry_error hv₁ ?_ hnone hinsert
        exact congrArg Option.isSome (get?_of_mem ((cartOf_eq_some hv₁).mp hnew).1)
      | ok s₂ =>
        intro o u
        rw [← quantityOf_createCart hv hcart hcreate]
        exact @grows_insert s₁ s₂ a.unit a.quantity ⟨s.next, a.owner⟩ a.priceCents hv₁ hnew (insertEntry_does hinsert) o u
  | some cart =>
    rw [hloaded] at hcart hline
    have howner : cart.row.owner = a.owner := ((cartOf_eq_some hv).mp hcart).2
    cases hexisting : a.existing with
    | some e =>
      rw [hexisting, Option.bind_some] at hline
      obtain ⟨found, hfound, hpair⟩ := Option.map_eq_some_iff.mp hline
      obtain ⟨hid, hquantity⟩ := Prod.mk.inj hpair
      rw [writes_of_existing hexisting, CartStore.writeAll, ← hid, ← hquantity]
      cases hwrite : s.write (.setQuantity found.id (found.quantity + a.quantity)) with
      | error err =>
        exact setQuantity_error (get?_of_mem ((getItemByProduct_eq_some hv).mp hfound).1) hwrite
      | ok s₁ =>
        dsimp only [CartStore.writeAll]
        rw [← howner]
        exact grows_setQuantity hv (howner ▸ hcart) hfound hwrite
    | none =>
      rw [hexisting, Option.bind_some] at hline
      have hnone : s.getItemByProduct cart.row.id a.unit = none := Option.map_eq_none_iff.mp hline
      rw [CartAddition.writes, hloaded, hexisting, CartStore.writeAll]
      cases hwrite : s.write (.insert cart.row.id a.unit a.quantity a.priceCents) with
      | error err =>
        refine insertEntry_error hv ?_ hnone hwrite
        exact congrArg Option.isSome (get?_of_mem ((cartOf_eq_some hv).mp hcart).1)
      | ok s₁ =>
        dsimp only [CartStore.writeAll]
        rw [← howner]
        exact grows_insert hv (howner ▸ hcart) (CartWrite.does hwrite)

/-! ### Runs -/

variable {sys sys' s₀ : CartSystem} {tr : List (Taken CartSystem CartLabel)} {tx : CartTx}

theorem unit_of_resolveUnit {products : Table Product} {variants : Table ProductVariant} {productId variantId : Option Id}
    {requested : ℕ} {price : ℤ} (h : resolveUnit products variants productId variantId requested = .ok (unit, price)) :
    unit.variantId = variantId ∧ ∀ id ∈ productId, unit.productId = id := by
  unfold resolveUnit at h
  split at h
  · rename_i variantId
    split at h
    · cases h
    · rename_i variant hvariant
      split at h
      · cases h
      · rename_i hsame
        split at h
        · cases h
        · rename_i product hproduct
          split at h
          · cases h
          · split at h
            · cases h
            · cases h
              push Not at hsame
              exact ⟨congrArg some (key_of_get? hvariant), fun id hid => (key_of_get? hproduct).trans (hsame id hid)⟩
  · split at h
    · cases h
    · rename_i product hproduct
      obtain ⟨productId, rfl, hget⟩ := Option.bind_eq_some_iff.mp hproduct
      split at h
      · cases h
      · split at h
        · cases h
        · split at h
          · cases h
          · cases h
            exact ⟨rfl, fun id hid => (key_of_get? hget).trans (Option.mem_some_iff.mp hid)⟩

/-- The unit that a request to add is of. -/
def CartRequest.IsOf (request : CartRequest) (unit : CartUnit) : Prop :=
  match request with
  | .addItem _ productId variantId _ => unit.variantId = variantId ∧ ∀ id ∈ productId, unit.productId = id
  | _ => False

/-- An addition is what was requested. -/
def CartAddition.Answers (a : CartAddition) (request : CartRequest) : Prop :=
  request.IsOf a.unit ∧ ∃ productId variantId, request = .addItem a.owner productId variantId a.quantity

/-- What a stage says is what was requested. -/
def CartStage.Answers (request : CartRequest) : CartStage → Prop
  | .resolved _ unit _ => request.IsOf unit
  | .lineFound a _ | .adding a => a.Answers request
  | _ => True

theorem answers_of_read (h : tx.stage.Answers tx.request) {stage : CartStage} (hread : sys.read tx = .ok stage) :
    stage.Answers tx.request := by
  unfold CartSystem.read at hread
  split at hread
  · cases hread
    trivial
  · rename_i owner productId variantId quantity cart hrequest hstage
    obtain ⟨⟨unit, price⟩, hunit, hstage'⟩ := except_map_ok hread
    cases hstage'
    rw [hrequest]
    exact unit_of_resolveUnit hunit
  · rename_i owner productId variantId quantity cart unit price hrequest hstage
    rw [hstage] at h
    have hanswers : ∀ existing, (⟨owner, cart, unit, price, quantity, existing⟩ : CartAddition).Answers tx.request :=
      fun _ => ⟨h, productId, variantId, hrequest⟩
    split at hread
    · cases hread
      exact hanswers _
    · split at hread
      · cases hread
      · cases hread
        exact hanswers _
  · rename_i a e _ hstage
    rw [hstage] at h
    obtain ⟨_, _, hstage'⟩ := except_map_ok hread
    cases hstage'
    exact h
  · split at hread
    · cases hread
    · split at hread
      · cases hread
        trivial
      · cases hread
  · split at hread
    · cases hread
    · split at hread
      · cases hread
        trivial
      · cases hread
  · obtain ⟨_, _, hstage⟩ := except_map_ok hread
    cases hstage
    trivial
  · cases hread
    trivial
  · split at hread
    · cases hread
      trivial
    · cases hread
      trivial
  · split at hread
    · cases hread
      trivial
    · cases hread
      trivial
  · cases hread
    trivial
  · cases hread
    exact h

theorem answers_of_run (run : CartRun tr sys) : ∀ x ∈ sys.txs.rows, x.stage.Answers x.request := by
  refine run.invariant (I := fun sys => ∀ x ∈ sys.txs.rows, x.stage.Answers x.request)
    (fun x h => absurd h List.not_mem_nil) fun {s l s'} hstep hinv => ?_
  cases l with
  | begin_ id request =>
    obtain ⟨txs, hinsert, rfl⟩ := Option.map_eq_some_iff.mp hstep
    intro x hx
    rcases (mem_insert? hinsert).mp hx with rfl | hold
    · trivial
    · exact hinv x hold
  | read id =>
    obtain ⟨tx, hget, rfl⟩ := Option.map_eq_some_iff.mp hstep
    split
    · rename_i stage hread
      intro x hx
      have hfound : s.txs.get? (key ({ tx with stage := stage } : CartTx)) = some tx := get?_of_mem (mem_of_get? hget)
      rcases (mem_replace hfound).mp hx with rfl | ⟨hold, _⟩
      · exact answers_of_read (hinv tx (mem_of_get? hget)) hread
      · exact hinv x hold
    · exact fun x hx => hinv x (mem_erase.mp hx).1
  | commit id =>
    obtain ⟨outcome, _, rfl⟩ := Option.map_eq_some_iff.mp hstep
    split
    · exact fun x hx => hinv x (mem_erase.mp hx).1
    · exact fun x hx => hinv x (mem_erase.mp hx).1
  | drop id =>
    cases hstep
    exact fun x hx => hinv x (mem_erase.mp hx).1
  | catalogue products variants =>
    cases hstep
    exact hinv

/-- How much of a unit a step adds to the cart of an owner: what a request to add asked for, if its commit succeeds. -/
def Taken.added (owner : CartOwner) (unit : CartUnit) (t : Taken CartSystem CartLabel) : ℕ :=
  match t.label with
  | .commit id =>
    match t.pre.txs.get? id, t.pre.outcome id with
    | some ⟨_, .addItem o _ _ quantity, .adding a⟩, some (.ok _) => if owner = o ∧ unit = a.unit then quantity else 0
    | _, _ => 0
  | _ => 0

/-- What a commit fails with. -/
def CartSystem.failure (s : CartSystem) (id : Nat) : Option CartError :=
  (s.outcome id).bind fun outcome => match outcome with
    | .ok _ => none
    | .error e => some e

/-- The stage is that of an addition, and the cart and the line are still as it read them. -/
def CartStage.Current (s : CartStore) : CartStage → Prop
  | .adding a => a.Current s
  | _ => False

instance CartStage.decidableCurrent (s : CartStore) : DecidablePred (CartStage.Current s)
  | .adding a => a.decidableCurrent s
  | .start | .cartLoaded _ | .resolved .. | .lineFound .. | .itemLoaded _ | .guestLoaded _ | .merging .. | .writing _ =>
    isFalse id

/-- What is committed are current additions. -/
def CommitsCurrent (t : Taken CartSystem CartLabel) : Prop :=
  match t.label with
  | .commit id => ∀ tx ∈ t.pre.txs.get? id, tx.stage.Current t.pre.store
  | _ => True

instance : DecidablePred CommitsCurrent := fun t => match t with
  | ⟨pre, .commit id, _⟩ => inferInstanceAs (Decidable (∀ tx ∈ pre.txs.get? id, tx.stage.Current pre.store))
  | ⟨_, .begin_ .., _⟩ | ⟨_, .read _, _⟩ | ⟨_, .drop _, _⟩ | ⟨_, .catalogue .., _⟩ => isTrue trivial

/-- A line is the only one of its unit in the cart. -/
theorem lines_unit_le_one (hv : s.Valid) (owner : CartOwner) (unit : CartUnit) :
    ((s.lines owner).filter fun e => e.unit = unit).length ≤ 1 := by
  unfold CartStore.lines
  split
  · rw [filter_unit_eq hv]
    cases s.getItemByProduct _ unit with
    | none => exact Nat.zero_le _
    | some _ => exact le_rfl
  · exact Nat.zero_le _

/-- A commit of a current addition. -/
theorem commit_current {id : Nat} {outcome : Except CartError CartStore} (run : CartRun tr sys)
    (hcurrent : ∀ tx ∈ sys.txs.get? id, tx.stage.Current sys.store) (houtcome : sys.outcome id = some outcome) (post : CartSystem) :
    match outcome with
    | .ok store => ∀ o u, store.quantityOf o u = sys.store.quantityOf o u + Taken.added o u ⟨sys, .commit id, post⟩
    | .error err => err.isRange ∧ ∀ o u, Taken.added o u ⟨sys, .commit id, post⟩ = 0 := by
  have hv := (CartInv.of_run run).valid
  obtain ⟨tx, hget, hwrites⟩ := Option.bind_eq_some_iff.mp houtcome
  obtain ⟨ws, hws, hout⟩ := Option.map_eq_some_iff.mp hwrites
  have hnow := hcurrent tx hget
  have hanswers := answers_of_run run tx (mem_of_get? hget)
  obtain ⟨txId, request, stage⟩ := tx
  cases stage with
  | adding a =>
    obtain ⟨_, productId, variantId, hrequest⟩ := hanswers
    dsimp only at hrequest hnow
    subst hrequest
    cases hws
    have hall := CartAddition.Current.writeAll hv hnow
    rw [hout] at hall
    cases outcome with
    | ok store =>
      intro o u
      rw [hall o u, Taken.added]
      dsimp only
      rw [hget, houtcome]
    | error err =>
      refine ⟨hall, fun o u => ?_⟩
      rw [Taken.added]
      dsimp only
      rw [hget, houtcome]
  | _ => exact hnow.elim

/-- Additions are kept in every run in which each finds its cart and its line as it read them: the one line of a unit has
    what it had and all that was added, and no addition meets a line that it did not see. -/
theorem additions_kept {tr₀ : List (Taken CartSystem CartLabel)} (run₀ : CartRun tr₀ s₀) (run : Exec cartStep s₀ tr sys)
    (hcurrent : ∀ t ∈ tr, CommitsCurrent t) :
    (∀ owner unit, sys.store.quantityOf owner unit = s₀.store.quantityOf owner unit + (tr.map (Taken.added owner unit)).sum ∧
      ((sys.store.lines owner).filter fun e => e.unit = unit).length ≤ 1) ∧
      ∀ t ∈ tr, ∀ id, t.label = .commit id → t.pre.failure id ≠ some .uniqueViolation := by
  constructor
  · intro owner unit
    have hv := (CartInv.of_run (run₀.append run)).valid
    refine ⟨?_, lines_unit_le_one hv owner unit⟩
    clear hv
    induction run with
    | nil => rfl
    | @cons tr s s' l run hstep ih =>
      have hbefore := ih fun t ht => hcurrent t (List.mem_cons_of_mem _ ht)
      suffices hone : s'.store.quantityOf owner unit = s.store.quantityOf owner unit + Taken.added owner unit ⟨s, l, s'⟩ by
        rw [List.map_cons, List.sum_cons, hone, hbefore]
        omega
      cases l with
      | begin_ id request =>
        obtain ⟨txs, _, rfl⟩ := Option.map_eq_some_iff.mp hstep
        rfl
      | read id =>
        obtain ⟨tx, _, rfl⟩ := Option.map_eq_some_iff.mp hstep
        split
        · rfl
        · rfl
      | commit id =>
        obtain ⟨outcome, houtcome, rfl⟩ := Option.map_eq_some_iff.mp hstep
        have hcommit := commit_current (run₀.append run) (hcurrent _ List.mem_cons_self) houtcome
        cases outcome with
        | ok store => exact hcommit _ owner unit
        | error err => exact (congrArg (_ + ·) ((hcommit _).2 owner unit)).symm
      | drop id =>
        cases hstep
        rfl
      | catalogue products variants =>
        cases hstep
        rfl
  · intro t ht id hlabel hfails
    obtain ⟨pre, l, post⟩ := t
    obtain rfl : l = .commit id := hlabel
    obtain ⟨⟨before, hbefore⟩, _⟩ := run.taken ht
    obtain ⟨outcome, houtcome, herror⟩ := Option.bind_eq_some_iff.mp hfails
    have hcommit := commit_current (run₀.append hbefore) (hcurrent _ ht) houtcome post
    cases outcome with
    | ok store => cases herror
    | error err =>
      cases herror
      rcases hcommit.1 with h | h
      · cases h
      · cases h

/-- Two additions that overlap: both read a line of one piece, and the second sum is written over the first. With no
    cart before, the second finds a cart that it did not see. -/
theorem additions_lost :
    (∃ tr s, CartRun tr s ∧ s.store.quantityOf (.user 1) ⟨0, none⟩ = 2 ∧
        (tr.map (Taken.added (.user 1) ⟨0, none⟩)).sum = 3) ∧
      ∃ tr s, CartRun tr s ∧ s.failure 1 = some .uniqueViolation := by
  constructor
  · exact exists_exec cartStep .initial
      (P := fun tr s => s.store.quantityOf (.user 1) ⟨0, none⟩ = 2 ∧ (tr.map (Taken.added (.user 1) ⟨0, none⟩)).sum = 3)
      ([.catalogue (shelf 1) .empty] ++ addAlone (.user 1) 0 ++
        [.begin_ 0 (.addItem (.user 1) (some 0) none 1), .begin_ 1 (.addItem (.user 1) (some 0) none 1)] ++
        [0, 1, 0, 1, 0, 1, 0, 1].map .read ++ [.commit 0, .commit 1])
      (by decide +kernel)
  · exact exists_exec cartStep .initial (P := fun _ s => s.failure 1 = some .uniqueViolation)
      ([.catalogue (shelf 1) .empty, .begin_ 0 (.addItem (.user 1) (some 0) none 1),
          .begin_ 1 (.addItem (.user 1) (some 0) none 1)] ++
        [0, 1, 0, 1, 0, 1].map .read ++ [.commit 0])
      (by decide +kernel)

/-- Two additions of one product, one after the other, to a cart that has one of it. -/
theorem additions_kept_two : ∃ tr s, CartRun tr s ∧ s.store.quantityOf (.user 1) ⟨0, none⟩ = 3 := by
  obtain ⟨⟨tr₀, s₀⟩, h₀, ⟨tr, s⟩, h, hwas, hadded, hcurrent⟩ :
      ∃ r₀ ∈ follow cartStep [] .initial ([.catalogue (shelf 1) .empty] ++ addAlone (.user 1) 0),
        ∃ r ∈ follow cartStep [] r₀.2 ([0, 0].flatMap fun _ =>
            [.begin_ 0 (.addItem (.user 1) (some 0) none 1), .read 0, .read 0, .read 0, .read 0, .commit 0]),
          r₀.2.store.quantityOf (.user 1) ⟨0, none⟩ = 1 ∧ (r.1.map (Taken.added (.user 1) ⟨0, none⟩)).sum = 2 ∧
            ∀ t ∈ r.1, CommitsCurrent t := by
    decide +kernel
  have run₀ : CartRun tr₀ s₀ := follow_exec .nil h₀
  have run : Exec cartStep s₀ tr s := follow_exec .nil h
  refine ⟨tr ++ tr₀, s, run₀.append run, ?_⟩
  rw [((additions_kept run₀ run hcurrent).1 _ _).1, hwas, hadded]

end NovaCart
