import NovaCart.Carts

/-! What additions and merges make of carts, over every interleaving. -/

namespace NovaCart

open Schemes Table
open Keyed (key)

variable {s s' : CartStore} {w : CartWrite} {ws : List CartWrite} {owner : CartOwner} {unit : CartUnit} {cartId : Id}
  {e : CartEntry}

/-! ### The constraints of the tables -/

structure CartStore.Valid (s : CartStore) : Prop where
  owners : ∀ c ∈ s.carts.rows, ∀ c' ∈ s.carts.rows, c.owner = c'.owner → c.id = c'.id
  units : ∀ e ∈ s.entries.rows, ∀ e' ∈ s.entries.rows, e.cartId = e'.cartId → e.unit = e'.unit → e.id = e'.id
  carts : ∀ e ∈ s.entries.rows, (s.carts.get? e.cartId).isSome = true
  range : ∀ e ∈ s.entries.rows, 0 < e.quantity ∧ e.quantity ≤ maxInt32
  fresh : ∀ e ∈ s.entries.rows, e.id < s.next
  cartsFresh : ∀ c ∈ s.carts.rows, c.id < s.next

/-- Nothing is in a cart that is not made yet. -/
theorem CartStore.Valid.cartId_ne_next (hv : s.Valid) (he : e ∈ s.entries.rows) : e.cartId ≠ s.next := by
  obtain ⟨c, hc⟩ := Option.isSome_iff_exists.mp (hv.carts e he)
  have hid : c.id = e.cartId := key_of_get? hc
  exact hid ▸ (hv.cartsFresh c (mem_of_get? hc)).ne

theorem cartOf_eq_some (hv : s.Valid) {c : CartRow} : s.cartOf owner = some c ↔ c ∈ s.carts.rows ∧ c.owner = owner := by
  constructor
  · intro h
    exact ⟨List.mem_of_find?_eq_some h, by simpa using List.find?_some h⟩
  · rintro ⟨hc, rfl⟩
    cases hfind : s.cartOf c.owner with
    | none => exact absurd (decide_eq_true rfl) (List.find?_eq_none.mp hfind c hc)
    | some c' =>
      have howner : c'.owner = c.owner := by simpa using List.find?_some hfind
      exact congrArg some (s.carts.eq_of_key_eq (List.mem_of_find?_eq_some hfind) hc
        (hv.owners c' (List.mem_of_find?_eq_some hfind) c hc howner))

theorem cartOf_eq_none : s.cartOf owner = none ↔ ∀ c ∈ s.carts.rows, c.owner ≠ owner := by
  simp [CartStore.cartOf, List.find?_eq_none]

theorem getItemByProduct_eq_some (hv : s.Valid) :
    s.getItemByProduct cartId unit = some e ↔ e ∈ s.entries.rows ∧ e.cartId = cartId ∧ e.unit = unit := by
  constructor
  · intro h
    exact ⟨List.mem_of_find?_eq_some h, by simpa using List.find?_some h⟩
  · rintro ⟨he, rfl, rfl⟩
    cases hfind : s.getItemByProduct e.cartId e.unit with
    | none => exact absurd (decide_eq_true ⟨rfl, rfl⟩) (List.find?_eq_none.mp hfind e he)
    | some e' =>
      obtain ⟨hcart, hunit⟩ : e'.cartId = e.cartId ∧ e'.unit = e.unit := by simpa using List.find?_some hfind
      exact congrArg some (s.entries.eq_of_key_eq (List.mem_of_find?_eq_some hfind) he
        (hv.units e' (List.mem_of_find?_eq_some hfind) e he hcart hunit))

theorem getItemByProduct_eq_none :
    s.getItemByProduct cartId unit = none ↔ ∀ e ∈ s.entries.rows, e.cartId = cartId → e.unit ≠ unit := by
  simp [CartStore.getItemByProduct, List.find?_eq_none]

/-- A cart holds at most one line of a unit. -/
theorem filter_unit_eq (hv : s.Valid) (cartId : Id) (unit : CartUnit) :
    (s.entriesOf cartId).filter (fun e => e.unit = unit) = (s.getItemByProduct cartId unit).toList := by
  have hnodup : ((s.entriesOf cartId).filter fun e => e.unit = unit).Nodup := by
    refine List.Nodup.filter _ (List.Nodup.filter _ ?_)
    exact List.Nodup.of_map _ s.entries.nodup
  have hmem : ∀ e, e ∈ (s.entriesOf cartId).filter (fun e => e.unit = unit) ↔ s.getItemByProduct cartId unit = some e := by
    intro e
    rw [getItemByProduct_eq_some hv, List.mem_filter, CartStore.entriesOf, List.mem_filter, decide_eq_true_eq,
      decide_eq_true_eq, and_assoc]
  cases hfind : s.getItemByProduct cartId unit with
  | none =>
    refine List.eq_nil_iff_forall_not_mem.mpr fun e he => ?_
    cases hfind.symm.trans ((hmem e).mp he)
  | some e₀ =>
    refine List.perm_singleton.mp ((List.perm_ext_iff_of_nodup hnodup (List.nodup_singleton e₀)).mpr fun e => ?_)
    rw [hmem, hfind, Option.some.injEq, List.mem_singleton]
    exact eq_comm

theorem quantityOf_eq (hv : s.Valid) (owner : CartOwner) (unit : CartUnit) :
    s.quantityOf owner unit =
      ((s.cartOf owner).bind fun c => s.getItemByProduct c.id unit).elim 0 CartEntry.quantity := by
  rw [CartStore.quantityOf, CartStore.lines]
  cases s.cartOf owner with
  | none => rfl
  | some c =>
    dsimp only [Option.bind_some]
    rw [filter_unit_eq hv]
    cases s.getItemByProduct c.id unit with
    | none => rfl
    | some e => simp

/-! ### Writes -/

/-- What a write does to the tables. -/
inductive CartWrite.Does (s : CartStore) : CartWrite → CartStore → Prop
  | createCart (owner : CartOwner) (hfree : s.cartOf owner = none) {carts : Table CartRow}
      (hinsert : s.carts.insert? ⟨s.next, owner⟩ = some carts) :
      Does s (.createCart owner) { s with carts := carts, next := s.next + 1 }
  | setQuantity (e : CartEntry) (quantity : ℕ) (hget : s.entries.get? e.id = some e) (hpos : 0 < quantity)
      (hfits : quantity ≤ maxInt32) :
      Does s (.setQuantity e.id quantity) { s with entries := s.entries.replace { e with quantity := quantity } }
  | insert (cartId : Id) (unit : CartUnit) (quantity : ℕ) (priceCents : ℤ) (hcart : (s.carts.get? cartId).isSome = true)
      (hnone : s.getItemByProduct cartId unit = none) (hpos : 0 < quantity) (hfits : quantity ≤ maxInt32)
      {entries : Table CartEntry} (hinsert : s.entries.insert? ⟨s.next, cartId, unit, quantity, priceCents⟩ = some entries) :
      Does s (.insert cartId unit quantity priceCents) { s with entries := entries, next := s.next + 1 }
  | insertFirst (cart : CartRow) (unit : CartUnit) (quantity : ℕ) (priceCents : ℤ) (hcart : s.cartOf cart.owner = some cart)
      {s' : CartStore} (hdoes : Does s (.insert cart.id unit quantity priceCents) s') :
      Does s (.insertFirst cart.owner unit quantity priceCents) s'
  | delete (entryId : Id) : Does s (.delete entryId) { s with entries := s.entries.erase entryId }
  | reassign (row : CartRow) (owner : CartOwner) (hget : s.carts.get? row.id = some row) (hfree : s.cartOf owner = none) :
      Does s (.reassign row.id owner) { s with carts := s.carts.replace { row with owner := owner } }
  | deleteCart (cartId : Id) :
      Does s (.deleteCart cartId)
        { s with carts := s.carts.erase cartId, entries := s.entries.keep fun e => e.cartId ≠ cartId }

theorem insertEntry_does {quantity : ℕ} {priceCents : ℤ} (h : s.insertEntry cartId unit quantity priceCents = .ok s') :
    CartWrite.Does s (.insert cartId unit quantity priceCents) s' := by
  unfold CartStore.insertEntry at h
  split at h
  · cases h
  · rename_i hcart
    split at h
    · cases h
    · rename_i hnone
      split at h
      · cases h
      · split at h
        · cases h
        · split at h
          · rename_i entries hinsert
            cases h
            exact .insert cartId unit quantity priceCents (by simpa [Option.isSome_iff_ne_none] using hcart)
              (by simpa using hnone) (by omega) (by omega) hinsert
          · cases h

theorem CartWrite.does (h : s.write w = .ok s') : w.Does s s' := by
  cases w with
  | createCart owner =>
    simp only [CartStore.write] at h
    split at h
    · cases h
    · rename_i hfree
      split at h
      · rename_i carts hinsert
        cases h
        exact .createCart owner (by simpa using hfree) hinsert
      · cases h
  | setQuantity entryId quantity =>
    simp only [CartStore.write] at h
    split at h
    · cases h
    · rename_i e hget
      split at h
      · cases h
      · split at h
        · cases h
        · cases h
          obtain rfl : e.id = entryId := key_of_get? hget
          exact .setQuantity e quantity hget (by omega) (by omega)
  | insert cartId unit quantity priceCents => exact insertEntry_does h
  | insertFirst owner unit quantity priceCents =>
    simp only [CartStore.write] at h
    split at h
    · cases h
    · rename_i cart hcart
      have howner : cart.owner = owner := by simpa using List.find?_some hcart
      subst howner
      exact .insertFirst cart unit quantity priceCents hcart (insertEntry_does h)
  | delete entryId =>
    cases h
    exact .delete entryId
  | reassign cartId owner =>
    simp only [CartStore.write] at h
    split at h
    · cases h
    · rename_i row hget
      split at h
      · cases h
      · rename_i hfree
        cases h
        obtain rfl : row.id = cartId := key_of_get? hget
        exact .reassign row owner hget (by simpa using hfree)
  | deleteCart cartId =>
    cases h
    exact .deleteCart cartId

theorem CartStore.Valid.does (hv : s.Valid) (h : w.Does s s') : s'.Valid := by
  induction h with
  | createCart owner hfree hinsert =>
    rw [cartOf_eq_none] at hfree
    refine ⟨fun c hc c' hc' hsame => ?_, hv.units, fun e he => ?_, hv.range, fun e he => Nat.lt_succ_of_lt (hv.fresh e he),
      fun c hc => ?_⟩
    · rcases (mem_insert? hinsert).mp hc with rfl | hold
      · rcases (mem_insert? hinsert).mp hc' with rfl | hold'
        · rfl
        · exact absurd hsame.symm (hfree c' hold')
      · rcases (mem_insert? hinsert).mp hc' with rfl | hold'
        · exact absurd hsame (hfree c hold)
        · exact hv.owners c hold c' hold' hsame
    · obtain ⟨c, hc⟩ := Option.isSome_iff_exists.mp (hv.carts e he)
      rw [get?_insert?_of_some hinsert hc]
      rfl
    · rcases (mem_insert? hinsert).mp hc with rfl | hold
      · exact Nat.lt_succ_self _
      · exact Nat.lt_succ_of_lt (hv.cartsFresh c hold)
  | setQuantity old quantity hget hpos hfits =>
    -- the line is the old one but for its quantity
    have hold : ∀ e ∈ (s.entries.replace { old with quantity := quantity }).rows, ∃ e' ∈ s.entries.rows,
        e.id = e'.id ∧ e.cartId = e'.cartId ∧ e.unit = e'.unit := by
      intro e he
      rcases (mem_replace (q := { old with quantity := quantity }) hget).mp he with rfl | ⟨he, _⟩
      · exact ⟨old, mem_of_get? hget, rfl, rfl, rfl⟩
      · exact ⟨e, he, rfl, rfl, rfl⟩
    refine ⟨hv.owners, fun e he e' he' hcart hunit => ?_, fun e he => ?_, fun e he => ?_, fun e he => ?_, hv.cartsFresh⟩
    · obtain ⟨e₁, he₁, hid₁, hcart₁, hunit₁⟩ := hold e he
      obtain ⟨e₂, he₂, hid₂, hcart₂, hunit₂⟩ := hold e' he'
      rw [hid₁, hid₂]
      exact hv.units e₁ he₁ e₂ he₂ (hcart₁.symm.trans (hcart.trans hcart₂)) (hunit₁.symm.trans (hunit.trans hunit₂))
    · obtain ⟨e₁, he₁, _, hcart₁, _⟩ := hold e he
      rw [hcart₁]
      exact hv.carts e₁ he₁
    · rcases (mem_replace (q := { old with quantity := quantity }) hget).mp he with rfl | ⟨he, _⟩
      · exact ⟨hpos, hfits⟩
      · exact hv.range e he
    · obtain ⟨e₁, he₁, hid₁, _⟩ := hold e he
      rw [hid₁]
      exact hv.fresh e₁ he₁
  | insert cartId unit quantity priceCents hcart hnone hpos hfits hinsert =>
    rw [getItemByProduct_eq_none] at hnone
    refine ⟨hv.owners, fun e he e' he' hsame hunit => ?_, fun e he => ?_, fun e he => ?_, fun e he => ?_,
      fun c hc => Nat.lt_succ_of_lt (hv.cartsFresh c hc)⟩
    · rcases (mem_insert? hinsert).mp he with rfl | hold
      · rcases (mem_insert? hinsert).mp he' with rfl | hold'
        · rfl
        · exact absurd hunit.symm (hnone e' hold' hsame.symm)
      · rcases (mem_insert? hinsert).mp he' with rfl | hold'
        · exact absurd hunit (hnone e hold hsame)
        · exact hv.units e hold e' hold' hsame hunit
    · rcases (mem_insert? hinsert).mp he with rfl | hold
      · exact hcart
      · exact hv.carts e hold
    · rcases (mem_insert? hinsert).mp he with rfl | hold
      · exact ⟨hpos, hfits⟩
      · exact hv.range e hold
    · rcases (mem_insert? hinsert).mp he with rfl | hold
      · exact Nat.lt_succ_self _
      · exact Nat.lt_succ_of_lt (hv.fresh e hold)
  | insertFirst cart unit quantity priceCents hcart hdoes ih => exact ih
  | delete entryId =>
    exact ⟨hv.owners, fun e he e' he' => hv.units e (mem_erase.mp he).1 e' (mem_erase.mp he').1,
      fun e he => hv.carts e (mem_erase.mp he).1, fun e he => hv.range e (mem_erase.mp he).1,
      fun e he => hv.fresh e (mem_erase.mp he).1, hv.cartsFresh⟩
  | reassign row owner hget hfree =>
    rw [cartOf_eq_none] at hfree
    refine ⟨fun c hc c' hc' hsame => ?_, hv.units, fun e he => ?_, hv.range, hv.fresh, fun c hc => ?_⟩
    · rcases (mem_replace (q := { row with owner := owner }) hget).mp hc with rfl | ⟨hold, _⟩
      · rcases (mem_replace (q := { row with owner := owner }) hget).mp hc' with rfl | ⟨hold', _⟩
        · rfl
        · exact absurd hsame.symm (hfree c' hold')
      · rcases (mem_replace (q := { row with owner := owner }) hget).mp hc' with rfl | ⟨hold', _⟩
        · exact absurd hsame (hfree c hold)
        · exact hv.owners c hold c' hold' hsame
    · rw [Option.isSome_iff_ne_none, ne_eq, get?_replace_eq_none, ← ne_eq, ← Option.isSome_iff_ne_none]
      exact hv.carts e he
    · rcases (mem_replace (q := { row with owner := owner }) hget).mp hc with rfl | ⟨hold, _⟩
      · exact hv.cartsFresh row (mem_of_get? hget)
      · exact hv.cartsFresh c hold
  | deleteCart cartId =>
    have hkept : ∀ e, e ∈ (s.entries.keep fun e => e.cartId ≠ cartId).rows → e ∈ s.entries.rows ∧ e.cartId ≠ cartId :=
      fun e he => ⟨(mem_keep.mp he).1, of_decide_eq_true (mem_keep.mp he).2⟩
    refine ⟨fun c hc c' hc' => hv.owners c (mem_erase.mp hc).1 c' (mem_erase.mp hc').1,
      fun e he e' he' => hv.units e (hkept e he).1 e' (hkept e' he').1, fun e he => ?_, fun e he => hv.range e (hkept e he).1,
      fun e he => hv.fresh e (hkept e he).1, fun c hc => hv.cartsFresh c (mem_erase.mp hc).1⟩
    rw [get?_erase, if_neg (hkept e he).2]
    exact hv.carts e (hkept e he).1

theorem CartStore.Valid.write (hv : s.Valid) (h : s.write w = .ok s') : s'.Valid := hv.does (CartWrite.does h)

theorem CartStore.Valid.writeAll (hv : s.Valid) (h : s.writeAll ws = .ok s') : s'.Valid := by
  induction ws generalizing s with
  | nil =>
    cases h
    exact hv
  | cons w ws ih =>
    rw [CartStore.writeAll] at h
    split at h
    · rename_i s₁ hw
      exact ih (hv.write hw) h
    · cases h

/-! ### How many lines -/

/-- The writes that add a line to the cart. -/
def CartWrite.insertsInto (cartId : Id) : CartWrite → Bool
  | .insert id .. => id = cartId
  | _ => false

def CartWrite.insertsFirst : CartWrite → Bool
  | .insertFirst .. => true
  | _ => false

theorem entriesOf_insert? {entries : Table CartEntry} (h : s.entries.insert? e = some entries) (cartId : Id) :
    (({ s with entries := entries, next := s.next + 1 } : CartStore).entriesOf cartId).length =
      (s.entriesOf cartId).length + if e.cartId = cartId then 1 else 0 := by
  rw [CartStore.entriesOf, CartStore.entriesOf, rows_of_insert? h, List.filter_cons]
  by_cases hcart : e.cartId = cartId
  · simp [hcart]
  · simp [hcart]

theorem entriesOf_replace {quantity : ℕ} (hget : s.entries.get? e.id = some e) (cartId : Id) :
    (({ s with entries := s.entries.replace { e with quantity := quantity } } : CartStore).entriesOf cartId).length =
      (s.entriesOf cartId).length := by
  simp only [CartStore.entriesOf, Table.replace, ← List.countP_eq_length_filter, List.countP_map]
  refine List.countP_congr fun x hx => ?_
  by_cases hkey : key x = key e
  · have hsame : x = e := s.entries.eq_of_key_eq hx (mem_of_get? hget) hkey
    simp [hsame, key]
  · have hne : x.id ≠ e.id := hkey
    simp [key, hne]

theorem CartWrite.Does.length_le (h : w.Does s s') (hw : w.insertsFirst = false) (cartId : Id) :
    (s'.entriesOf cartId).length ≤ (s.entriesOf cartId).length + if w.insertsInto cartId = true then 1 else 0 := by
  cases h with
  | createCart owner hfree hinsert => exact Nat.le_add_right _ _
  | setQuantity e quantity hget hpos hfits => exact (entriesOf_replace hget cartId).le.trans (Nat.le_add_right _ _)
  | insert cartId' unit quantity priceCents hcart hnone hpos hfits hinsert =>
    rw [entriesOf_insert? hinsert]
    simp [CartWrite.insertsInto]
  | insertFirst cart unit quantity priceCents hcart hdoes => cases hw
  | delete entryId =>
    refine (List.Sublist.length_le ?_).trans (Nat.le_add_right _ _)
    exact List.Sublist.filter _ List.filter_sublist
  | reassign row owner hget hfree => exact Nat.le_add_right _ _
  | deleteCart cartId' =>
    refine (List.Sublist.length_le ?_).trans (Nat.le_add_right _ _)
    exact List.Sublist.filter _ List.filter_sublist

theorem writeAll_length_le (h : s.writeAll ws = .ok s') (hws : ∀ w ∈ ws, w.insertsFirst = false) (cartId : Id) :
    (s'.entriesOf cartId).length ≤ (s.entriesOf cartId).length + ws.countP (CartWrite.insertsInto cartId) := by
  induction ws generalizing s with
  | nil =>
    cases h
    exact Nat.le_add_right _ _
  | cons w ws ih =>
    rw [CartStore.writeAll] at h
    split at h
    · rename_i s₁ hw
      have hfirst := (CartWrite.does hw).length_le (hws w List.mem_cons_self) cartId
      have hrest := ih h fun w' hw' => hws w' (List.mem_cons_of_mem _ hw')
      rw [List.countP_cons]
      omega
    · cases h

/-- A new cart has one line, and the others what they had. -/
theorem first_addition_length {quantity : ℕ} {priceCents : ℤ} (hv : s.Valid)
    (h : s.writeAll [.createCart owner, .insertFirst owner unit quantity priceCents] = .ok s') (cartId : Id) :
    (s'.entriesOf cartId).length ≤ 1 ∨ (s'.entriesOf cartId).length = (s.entriesOf cartId).length := by
  rw [CartStore.writeAll] at h
  split at h
  · rename_i s₁ hcreate
    rw [CartStore.writeAll] at h
    split at h
    · rename_i s₂ hinsert
      cases h
      have hv₁ := hv.write hcreate
      cases CartWrite.does hcreate with
      | createCart _ hfree hcarts =>
        cases CartWrite.does hinsert with
        | insertFirst cart _ _ _ hcart hdoes =>
          cases hdoes with
          | insert _ _ _ _ _ _ _ _ hentries =>
            rw [entriesOf_insert? hentries]
            by_cases hsame : cart.id = cartId
            · left
              subst hsame
              -- the cart is the one that was made, and nothing was in it
              have hid : cart.id = s.next := by
                obtain ⟨hmem, howner⟩ := (cartOf_eq_some hv₁).mp hcart
                rcases (mem_insert? hcarts).mp hmem with hnew | hold
                · exact congrArg CartRow.id hnew
                · exact absurd rfl (cartOf_eq_none.mp hfree cart hold)
              have hnil : s.entriesOf cart.id = [] :=
                List.filter_eq_nil_iff.mpr fun e he hin => hv.cartId_ne_next he ((of_decide_eq_true hin).trans hid)
              change (s.entriesOf cart.id).length + _ ≤ 1
              rw [hnil, if_pos rfl]
              exact le_rfl
            · right
              rw [if_neg hsame]
              rfl
    · cases h
  · cases h

/-! ### Bounded carts -/

variable {sys sys' : CartSystem} {l : CartLabel} {tr : List (Taken CartSystem CartLabel)} {tx : CartTx} {id : Nat}

/-- What a request knows of its cart. -/
structure CartTx.Bounded (tx : CartTx) : Prop where
  adding : ∀ a, tx.stage = .adding a → a.existing = none → (loadedItems a.cart).length < maxCartLines
  lineFound : ∀ a e, tx.stage = .lineFound a e → a.existing = some e
  writing : ∀ ws, tx.stage = .writing ws → ∀ w ∈ ws, w.insertsFirst = false ∧ ∀ cartId, w.insertsInto cartId = false

/-- A stage of which nothing is to be known. -/
def CartStage.plain : CartStage → Bool
  | .adding _ | .lineFound .. | .writing _ => false
  | _ => true

theorem CartTx.Bounded.of_plain (h : tx.stage.plain = true) : tx.Bounded := by
  refine ⟨fun a ha => ?_, fun a e ha => ?_, fun ws hws => ?_⟩
  · rw [ha] at h
    cases h
  · rw [ha] at h
    cases h
  · rw [hws] at h
    cases h

theorem CartTx.Bounded.of_writing {ws : List CartWrite} (hstage : tx.stage = .writing ws)
    (h : ∀ w ∈ ws, w.insertsFirst = false ∧ ∀ cartId, w.insertsInto cartId = false) : tx.Bounded := by
  refine ⟨fun a ha => ?_, fun a e ha => ?_, fun ws' hws' => ?_⟩
  · cases hstage.symm.trans ha
  · cases hstage.symm.trans ha
  · cases hstage.symm.trans hws'
    exact h

theorem except_map_ok {ε α β : Type} {x : Except ε α} {f : α → β} {b : β} (h : x.map f = .ok b) :
    ∃ a, x = .ok a ∧ f a = b := by
  cases x with
  | error e => cases h
  | ok a => exact ⟨a, rfl, Except.ok.inj h⟩

theorem CartTx.Bounded.of_read (h : tx.Bounded) {stage : CartStage} (hread : sys.read tx = .ok stage) :
    ({ tx with stage := stage } : CartTx).Bounded := by
  unfold CartSystem.read at hread
  split at hread
  · cases hread
    exact .of_plain rfl
  · obtain ⟨⟨unit, price⟩, _, hstage⟩ := except_map_ok hread
    cases hstage
    exact .of_plain rfl
  · split at hread
    · cases hread
      refine ⟨fun a ha => ?_, fun a e ha => ?_, fun ws hws => ?_⟩
      · cases ha
      · cases ha
        rfl
      · cases hws
    · split at hread
      · cases hread
      · rename_i hroom
        cases hread
        refine ⟨fun a ha _ => ?_, fun a e ha => ?_, fun ws hws => ?_⟩
        · cases ha
          exact Nat.lt_of_not_le hroom
        · cases ha
        · cases hws
  · rename_i a e _ hstage
    obtain ⟨_, _, hstage'⟩ := except_map_ok hread
    cases hstage'
    refine ⟨fun a' ha hnone => ?_, fun a' e' ha => ?_, fun ws hws => ?_⟩
    · cases ha
      rw [h.lineFound a e hstage] at hnone
      cases hnone
    · cases ha
    · cases hws
  · split at hread
    · cases hread
    · split at hread
      · cases hread
        exact .of_plain rfl
      · cases hread
  · split at hread
    · cases hread
    · split at hread
      · cases hread
        exact .of_plain rfl
      · cases hread
  · obtain ⟨_, _, hstage⟩ := except_map_ok hread
    refine .of_writing hstage.symm fun w hw => ?_
    split at hw
    · cases hw
    · cases List.mem_singleton.mp hw
      exact ⟨rfl, fun _ => rfl⟩
  · cases hread
    refine .of_writing rfl fun w hw => ?_
    cases List.mem_singleton.mp hw
    exact ⟨rfl, fun _ => rfl⟩
  · split at hread
    · cases hread
      refine .of_writing rfl fun w hw => ?_
      obtain ⟨e, _, rfl⟩ := List.mem_map.mp hw
      exact ⟨rfl, fun _ => rfl⟩
    · cases hread
      refine .of_writing rfl fun w hw => ?_
      cases List.mem_singleton.mp hw
      exact ⟨rfl, fun _ => rfl⟩
  · split at hread
    · cases hread
      exact .of_plain rfl
    · cases hread
      exact .of_plain rfl
  · cases hread
    exact .of_plain rfl
  · cases hread
    exact h

/-- How many lines a merge adds to the cart of the user. -/
def newUnits (guest user : LoadedCart) : ℕ := (guest.items.filter fun e => e.unit ∉ user.items.map (·.unit)).length

theorem addTo_new (lines : List MergeLine) (source : CartEntry) :
    ((MergeLine.addTo lines source).filter fun l => l.entryId = none).length ≤
      (lines.filter fun l => l.entryId = none).length + if source.unit ∈ lines.map (·.unit) then 0 else 1 := by
  unfold MergeLine.addTo
  by_cases hthere : ∃ l ∈ lines, l.unit = source.unit
  · rw [if_pos hthere, if_pos (List.mem_map.mpr hthere), ← List.countP_eq_length_filter, List.countP_map,
      ← List.countP_eq_length_filter]
    refine le_of_eq (List.countP_congr fun l _ => ?_)
    rw [Function.comp_apply]
    split
    · exact Iff.rfl
    · exact Iff.rfl
  · rw [if_neg hthere, if_neg fun h => hthere (List.mem_map.mp h), List.filter_append, List.length_append]
    exact le_rfl

theorem addTo_units (lines : List MergeLine) (source : CartEntry) :
    ∀ u ∈ lines.map (·.unit), u ∈ (MergeLine.addTo lines source).map (·.unit) := by
  intro u hu
  obtain ⟨l, hl, rfl⟩ := List.mem_map.mp hu
  unfold MergeLine.addTo
  split
  · refine List.mem_map.mpr ⟨_, List.mem_map.mpr ⟨l, hl, rfl⟩, ?_⟩
    split
    · rfl
    · rfl
  · exact List.mem_map.mpr ⟨l, List.mem_append_left _ hl, rfl⟩

theorem foldl_addTo_new (incoming : List CartEntry) (lines : List MergeLine) :
    ((incoming.foldl MergeLine.addTo lines).filter fun l => l.entryId = none).length ≤
      (lines.filter fun l => l.entryId = none).length +
        (incoming.filter fun e => e.unit ∉ lines.map (·.unit)).length := by
  induction incoming generalizing lines with
  | nil => exact Nat.le_add_right _ _
  | cons e incoming ih =>
    rw [List.foldl_cons]
    have hrest := ih (MergeLine.addTo lines e)
    have hfirst := addTo_new lines e
    -- a unit that is missing after the first line was missing before it
    have hfewer : (incoming.filter fun x => x.unit ∉ (MergeLine.addTo lines e).map (·.unit)).length ≤
        (incoming.filter fun x => x.unit ∉ lines.map (·.unit)).length := by
      rw [← List.countP_eq_length_filter, ← List.countP_eq_length_filter]
      refine List.countP_mono_left fun x _ hx => ?_
      exact decide_eq_true fun hthere => of_decide_eq_true hx (addTo_units lines e _ hthere)
    rw [List.filter_cons]
    by_cases hthere : e.unit ∈ lines.map (·.unit)
    · rw [if_pos hthere] at hfirst
      rw [if_neg (by simpa using hthere)]
      omega
    · rw [if_neg hthere] at hfirst
      rw [if_pos (by simpa using hthere), List.length_cons]
      omega

theorem mergeItems_inserts (guest user : LoadedCart) :
    (∀ w ∈ mergeItemsIntoCart user guest.items, w.insertsFirst = false) ∧
      ∀ cartId, (mergeItemsIntoCart user guest.items).countP (CartWrite.insertsInto cartId) ≤
        if cartId = user.row.id then newUnits guest user else 0 := by
  constructor
  · intro w hw
    obtain ⟨l, _, rfl⟩ := List.mem_map.mp hw
    unfold MergeLine.write
    split
    · rfl
    · rfl
  · intro cartId
    have hinserts : ∀ l : MergeLine, CartWrite.insertsInto cartId (l.write user.row.id) = true ↔
        l.entryId = none ∧ cartId = user.row.id := by
      intro l
      unfold MergeLine.write
      cases l.entryId with
      | some entryId => simp [CartWrite.insertsInto]
      | none =>
        simp only [CartWrite.insertsInto, decide_eq_true_eq, true_and]
        exact eq_comm
    rw [mergeItemsIntoCart, List.countP_map]
    split
    · have hnew := foldl_addTo_new guest.items (user.items.map CartEntry.mergeLine)
      have hloaded : (user.items.map CartEntry.mergeLine).filter (fun l => l.entryId = none) = [] := by
        refine List.filter_eq_nil_iff.mpr fun l hl hnone => ?_
        obtain ⟨e, _, rfl⟩ := List.mem_map.mp hl
        cases of_decide_eq_true hnone
      have hunits : (user.items.map CartEntry.mergeLine).map (·.unit) = user.items.map (·.unit) := by
        rw [List.map_map]
        rfl
      rw [hloaded, hunits, List.length_nil, Nat.zero_add] at hnew
      refine le_trans ?_ hnew
      rw [List.countP_filter, ← List.countP_eq_length_filter]
      refine List.countP_mono_left fun l _ hl => ?_
      exact decide_eq_true ((hinserts l).mp (Bool.and_eq_true_iff.mp hl).1).1
    · rename_i hne
      refine le_of_eq (List.countP_eq_zero.mpr fun l _ hl => hne ((hinserts l).mp hl).2)

/-- Since the cart of an addition was loaded no line came into it, and there is room for what a merge adds to a cart. -/
def CartStage.hasRoom (s : CartStore) : CartStage → Prop
  | .adding a => a.existing = none → ∀ cart ∈ a.cart, (s.entriesOf cart.row.id).length ≤ cart.items.length
  | .merging (some guest) (some user) => (s.entriesOf user.row.id).length + newUnits guest user ≤ maxCartLines
  | _ => True

instance (s : CartStore) : DecidablePred (CartStage.hasRoom s)
  | .adding a => inferInstanceAs (Decidable (a.existing = none → ∀ cart ∈ a.cart, _))
  | .merging (some _) (some _) => inferInstanceAs (Decidable (_ ≤ _))
  | .merging (some _) none | .merging none _ => isTrue trivial
  | .start | .cartLoaded _ | .resolved .. | .lineFound .. | .itemLoaded _ | .guestLoaded _ | .writing _ => isTrue trivial

/-- A commit finds the room that its request took for granted. -/
def FindsRoom (t : Taken CartSystem CartLabel) : Prop :=
  match t.label with
  | .commit id => ∀ tx ∈ t.pre.txs.get? id, tx.stage.hasRoom t.pre.store
  | _ => True

instance : DecidablePred FindsRoom := fun t => match t with
  | ⟨pre, .commit id, _⟩ => inferInstanceAs (Decidable (∀ tx ∈ pre.txs.get? id, tx.stage.hasRoom pre.store))
  | ⟨_, .begin_ .., _⟩ | ⟨_, .read _, _⟩ | ⟨_, .drop _, _⟩ | ⟨_, .catalogue .., _⟩ => isTrue trivial

structure CartInv (s : CartSystem) : Prop where
  valid : s.store.Valid
  bounded : ∀ x ∈ s.txs.rows, x.Bounded

theorem CartInv.step (hinv : CartInv sys) (h : cartStep sys l = some sys') : CartInv sys' := by
  cases l with
  | begin_ id request =>
    obtain ⟨txs, hinsert, rfl⟩ := Option.map_eq_some_iff.mp h
    refine ⟨hinv.valid, fun x hx => ?_⟩
    rcases (mem_insert? hinsert).mp hx with rfl | hold
    · exact .of_plain rfl
    · exact hinv.bounded x hold
  | read id =>
    obtain ⟨tx, hget, rfl⟩ := Option.map_eq_some_iff.mp h
    split
    · rename_i stage hread
      refine ⟨hinv.valid, fun x hx => ?_⟩
      have hfound : sys.txs.get? (key ({ tx with stage := stage } : CartTx)) = some tx :=
        get?_of_mem (mem_of_get? hget)
      rcases (mem_replace hfound).mp hx with rfl | ⟨hold, _⟩
      · exact (hinv.bounded tx (mem_of_get? hget)).of_read hread
      · exact hinv.bounded x hold
    · exact ⟨hinv.valid, fun x hx => hinv.bounded x (mem_erase.mp hx).1⟩
  | commit id =>
    obtain ⟨outcome, houtcome, rfl⟩ := Option.map_eq_some_iff.mp h
    obtain ⟨tx, hget, houtcome⟩ := Option.bind_eq_some_iff.mp houtcome
    obtain ⟨ws, hws, rfl⟩ := Option.map_eq_some_iff.mp houtcome
    split
    · rename_i store hstore
      exact ⟨hinv.valid.writeAll hstore, fun x hx => hinv.bounded x (mem_erase.mp hx).1⟩
    · exact ⟨hinv.valid, fun x hx => hinv.bounded x (mem_erase.mp hx).1⟩
  | drop id =>
    cases h
    exact ⟨hinv.valid, fun x hx => hinv.bounded x (mem_erase.mp hx).1⟩
  | catalogue products variants =>
    cases h
    exact ⟨hinv.valid, hinv.bounded⟩

theorem CartInv.of_run (run : CartRun tr sys) : CartInv sys := by
  refine run.invariant ⟨⟨?_, ?_, ?_, ?_, ?_, ?_⟩, ?_⟩ fun hstep hinv => hinv.step hstep
  · exact fun _ h => absurd h List.not_mem_nil
  · exact fun _ h => absurd h List.not_mem_nil
  · exact fun _ h => absurd h List.not_mem_nil
  · exact fun _ h => absurd h List.not_mem_nil
  · exact fun _ h => absurd h List.not_mem_nil
  · exact fun _ h => absurd h List.not_mem_nil
  · exact fun _ h => absurd h List.not_mem_nil

theorem writes_of_existing {a : CartAddition} (h : a.existing = some e) :
    a.writes = [.setQuantity e.id (e.quantity + a.quantity)] := by
  unfold CartAddition.writes
  rw [h]

/-- What is committed leaves each cart bounded, if there is room for it. -/
theorem commit_bounded (hv : sys.store.Valid) (hbounded : tx.Bounded) (hroom : tx.stage.hasRoom sys.store) (hws : tx.writes = some ws) (h : sys.store.writeAll ws = .ok s') (cartId : Id)
    (hwas : (sys.store.entriesOf cartId).length ≤ maxCartLines) : (s'.entriesOf cartId).length ≤ maxCartLines := by
  have hnone : (∀ w ∈ ws, w.insertsFirst = false ∧ ∀ cartId, w.insertsInto cartId = false) →
      (s'.entriesOf cartId).length ≤ maxCartLines := by
    intro hplain
    have hle := writeAll_length_le h (fun w hw => (hplain w hw).1) cartId
    rw [List.countP_eq_zero.mpr fun w hw hinto => by rw [(hplain w hw).2 cartId] at hinto; cases hinto] at hle
    exact hle.trans hwas
  unfold CartTx.writes at hws
  split at hws
  · rename_i a hstage
    cases hws
    rw [hstage] at hroom
    cases hexisting : a.existing with
    | some e =>
      refine hnone fun w hw => ?_
      rw [writes_of_existing hexisting] at hw
      cases List.mem_singleton.mp hw
      exact ⟨rfl, fun _ => rfl⟩
    | none =>
      cases hcart : a.cart with
      | none =>
        rw [CartAddition.writes, hcart, hexisting] at h
        rcases first_addition_length hv h cartId with hone | hsame
        · exact hone.trans (by decide)
        · exact hsame.le.trans hwas
      | some cart =>
        rw [CartAddition.writes, hcart, hexisting] at h
        have hle := writeAll_length_le h (fun w hw => by cases List.mem_singleton.mp hw; rfl) cartId
        have hlt := hbounded.adding a hstage hexisting
        have hcount := hroom hexisting cart hcart
        rw [List.countP_singleton] at hle
        by_cases hsame : cart.row.id = cartId
        · subst hsame
          rw [hcart, loadedItems, Option.elim_some] at hlt
          split at hle
          · omega
          · omega
        · simp only [CartWrite.insertsInto, hsame, decide_false, Bool.false_eq_true, if_false] at hle
          omega
  · rename_i guest user hstage
    rw [hstage] at hroom
    split at hws
    · cases hws
      unfold mergeWrites at h hnone
      split at h
      · exact hnone fun w hw => absurd hw List.not_mem_nil
      · refine hnone fun w hw => ?_
        cases List.mem_singleton.mp hw
        exact ⟨rfl, fun _ => rfl⟩
      · rename_i guest user
        obtain ⟨hfirst, hinto⟩ := mergeItems_inserts guest user
        have hle := writeAll_length_le h (fun w hw => by
          rcases List.mem_append.mp hw with hw | hw
          · exact hfirst w hw
          · cases List.mem_singleton.mp hw
            rfl) cartId
        rw [List.countP_append, List.countP_singleton] at hle
        simp only [CartWrite.insertsInto, Bool.false_eq_true, if_false, Nat.add_zero] at hle
        have hcount := hinto cartId
        change _ + newUnits guest user ≤ maxCartLines at hroom
        split at hcount
        · rename_i hsame
          subst hsame
          omega
        · omega
    · cases hws
  · rename_i ws' hstage
    cases hws
    exact hnone (hbounded.writing _ hstage)
  · cases hws

theorem CartStore.lines_length_le (s : CartStore) (owner : CartOwner) (h : ∀ cartId, (s.entriesOf cartId).length ≤ maxCartLines) :
    (s.lines owner).length ≤ maxCartLines := by
  unfold CartStore.lines
  split
  · exact h _
  · exact Nat.zero_le _

/-- Carts stay bounded in every run in which each commit finds room: an addition the count of lines it took, and a merge
    a cart that can hold the lines it adds. -/
theorem carts_bounded (run : CartRun tr sys) (hroom : ∀ t ∈ tr, FindsRoom t) :
    ∀ owner, (sys.store.lines owner).length ≤ maxCartLines := by
  suffices h : ∀ cartId, (sys.store.entriesOf cartId).length ≤ maxCartLines from
    fun owner => sys.store.lines_length_le owner h
  induction run with
  | nil => exact fun _ => Nat.zero_le _
  | @cons tr s s' l run hstep ih =>
    have hinv := CartInv.of_run run
    have hwas := ih fun t ht => hroom t (List.mem_cons_of_mem _ ht)
    cases l with
    | begin_ id request =>
      obtain ⟨txs, _, rfl⟩ := Option.map_eq_some_iff.mp hstep
      exact hwas
    | read id =>
      obtain ⟨tx, _, rfl⟩ := Option.map_eq_some_iff.mp hstep
      split
      · exact hwas
      · exact hwas
    | commit id =>
      have hfits : ∀ tx ∈ s.txs.get? id, tx.stage.hasRoom s.store := hroom _ List.mem_cons_self
      obtain ⟨outcome, houtcome, rfl⟩ := Option.map_eq_some_iff.mp hstep
      obtain ⟨tx, hget, houtcome⟩ := Option.bind_eq_some_iff.mp houtcome
      obtain ⟨ws, hws, rfl⟩ := Option.map_eq_some_iff.mp houtcome
      intro cartId
      split
      · rename_i store hstore
        exact commit_bounded hinv.valid (hinv.bounded tx (mem_of_get? hget)) (hfits tx hget) hws hstore cartId (hwas cartId)
      · exact hwas cartId
    | drop id =>
      cases hstep
      exact hwas
    | catalogue products variants =>
      cases hstep
      exact hwas

/-- Simple products, each with a stock of nine. -/
def shelf (n : Nat) : Table Product where
  rows := (List.range n).map fun i => ⟨i, 9, 0, .active, 100, by decide, by decide⟩
  nodup := by
    rw [List.map_map]
    exact List.nodup_range.map fun _ _ h => h

/-- An addition that nothing comes between. -/
def addAlone (owner : CartOwner) (productId : Id) : List CartLabel :=
  [.begin_ 0 (.addItem owner (some productId) none 1), .read 0, .read 0, .read 0, .commit 0]

/-- A guest's cart of fifty products comes to a user who has another one in theirs. -/
theorem merge_exceeds : ∃ tr s, CartRun tr s ∧ (s.store.lines (.user 1)).length = 51 :=
  exists_exec cartStep .initial (P := fun _ s => (s.store.lines (.user 1)).length = 51)
    ([.catalogue (shelf 51) .empty] ++ (List.range 50).flatMap (addAlone (.guest "g")) ++ addAlone (.user 1) 50 ++
      [.begin_ 0 (.merge 1 "g"), .read 0, .read 0, .commit 0])
    (by decide +kernel)

/-- A guest's cart with one product that the user has and one that the user has not. -/
theorem carts_bounded_merge : ∃ tr s, CartRun tr s ∧ s.store.quantityOf (.user 1) ⟨2, none⟩ = 2 ∧
    (s.store.lines (.user 1)).length ≤ maxCartLines := by
  obtain ⟨tr, s, run, hquantity, hroom⟩ := exists_exec cartStep .initial
    (P := fun tr s => s.store.quantityOf (.user 1) ⟨2, none⟩ = 2 ∧ ∀ t ∈ tr, FindsRoom t)
    ([.catalogue (shelf 4) .empty] ++ addAlone (.guest "g") 2 ++ addAlone (.guest "g") 3 ++ addAlone (.user 1) 2 ++
      [.begin_ 0 (.merge 1 "g"), .read 0, .read 0, .commit 0])
    (by decide +kernel)
  exact ⟨tr, s, run, hquantity, carts_bounded run hroom _⟩

end NovaCart
