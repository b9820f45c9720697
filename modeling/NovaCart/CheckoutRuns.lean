import NovaCart.Checkouts
import NovaCart.Footprints

/-! What a repeated checkout is told, and which cart lines are sold. -/

namespace NovaCart

open Schemes

/-! ### Equal digests, equal requests -/

/-- What a customer sends that shapes the order. -/
structure CheckoutTerms where
  addressId : Option Id
  shippingAddress : Option ShippingAddressInput
  guestEmail : Option String
  coupon : Option String
  deriving DecidableEq

def CheckoutCall.terms (call : CheckoutCall) : CheckoutTerms :=
  ⟨call.addressId, call.shippingAddress, call.caller.guestEmail, call.coupon⟩

theorem ofOption_inj {α : Type} {f : α → Json} (hf : Function.Injective f) (hnull : ∀ a, f a ≠ .null) :
    Function.Injective (Json.ofOption f)
  | none, none, _ => rfl
  | some _, some _, h => congrArg some (hf h)
  | none, some b, h => absurd h.symm (hnull b)
  | some a, none, h => absurd h (hnull a)

theorem shippingAddress_json_inj : Function.Injective ShippingAddressInput.json := by
  rintro ⟨rn, l1, l2, ci, st, pc, co⟩ ⟨rn', l1', l2', ci', st', pc', co'⟩ h
  simp only [ShippingAddressInput.json, Json.obj, List.foldr_cons, List.foldr_nil, Json.field.injEq, Json.str.injEq,
    true_and, and_true] at h
  obtain ⟨hci, hco, hl1, hl2, hpc, hrn, hst⟩ := h
  have hl2 := ofOption_inj (fun _ _ h => Json.str.inj h) (fun _ h => by cases h) hl2
  rw [hci, hco, hl1, hl2, hpc, hrn, hst]

theorem canonical_inj {call call' : CheckoutCall} (h : call.canonical = call'.canonical) : call.terms = call'.terms := by
  have haddress {a b : Option Id} (h : Json.ofOption .int a = Json.ofOption .int b) : a = b :=
    ofOption_inj (fun _ _ h => Json.int.inj h) (fun _ h => by cases h) h
  have hemail {a b : Option String} (h : Json.ofOption .str a = Json.ofOption .str b) : a = b :=
    ofOption_inj (fun _ _ h => Json.str.inj h) (fun _ h => by cases h) h
  have hshipping {a b : Option ShippingAddressInput}
      (h : Json.ofOption ShippingAddressInput.json a = Json.ofOption ShippingAddressInput.json b) : a = b :=
    ofOption_inj shippingAddress_json_inj (fun _ h => by cases h) h
  simp only [CheckoutCall.canonical, CheckoutCall.terms, CheckoutTerms.mk.injEq] at h ⊢
  -- a coupon adds a field, so both have one or neither has
  cases hc : call.coupon <;> cases hc' : call'.coupon <;>
    simp only [hc, hc', Json.obj, Option.toList_none, Option.toList_some, List.map_nil, List.map_cons, List.nil_append,
      List.cons_append, List.foldr_cons, List.foldr_nil, Json.field.injEq, Json.str.injEq, true_and, and_true,
      reduceCtorEq, and_false, String.reduceEq] at h
  · exact ⟨haddress h.1, hshipping h.2.2, hemail h.2.1, rfl⟩
  · exact ⟨haddress h.1, hshipping h.2.2.2, hemail h.2.2.1, congrArg some h.2.1⟩

/-- What of a line the digest tells: which product or variant, how many of it. -/
def CartItem.wanted (i : CartItem) : Id × Option Id × ℤ := (i.line.productId, i.line.variantId, i.line.quantity)

theorem digits_of_nat {n : Nat} {c : Char} (h : c ∈ (toString n).toList) : c.isDigit := by
  rw [Nat.toString_eq_repr, Nat.toList_repr] at h
  exact Nat.isDigit_of_mem_toDigits (by decide) (by decide) h

theorem chars_of_int {n : ℤ} {c : Char} (h : c ∈ (toString n).toList) : c.isDigit ∨ c = '-' := by
  cases n with
  | ofNat n => exact .inl (digits_of_nat h)
  | negSucc n =>
    have h : c ∈ ("-" ++ toString (n + 1)).toList := h
    rw [String.toList_append, List.mem_append] at h
    rcases h with h | h
    · exact .inr (by simpa using h)
    · exact .inl (digits_of_nat h)

/-- Parts without the separator are read back from the joined text. -/
theorem joined_inj {x : Char} {ls ls' : List (List Char)} (hls : ∀ l ∈ ls, x ∉ l) (hls' : ∀ l ∈ ls', x ∉ l)
    (hne : ls ≠ []) (hne' : ls' ≠ []) (h : [x].intercalate ls = [x].intercalate ls') : ls = ls' := by
  rw [← List.splitOn_intercalate x hls hne, h, List.splitOn_intercalate x hls' hne']

/-- The three numbers of a part. -/
def CartLine.digestFields (l : CartLine) : List (List Char) :=
  [(toString l.productId).toList, (toString (l.variantId.getD 0)).toList, (toString l.quantity).toList]

theorem digestFields_free {l : CartLine} {x : Char} (hx : x.isDigit = false) (hminus : x ≠ '-') :
    ∀ f ∈ l.digestFields, x ∉ f := by
  intro f hf hxf
  have hdigit : x.isDigit = true ∨ x = '-' := by
    simp only [CartLine.digestFields, List.mem_cons, List.not_mem_nil, or_false] at hf
    rcases hf with rfl | rfl | rfl
    · exact .inl (digits_of_nat hxf)
    · exact .inl (digits_of_nat hxf)
    · exact chars_of_int hxf
  rcases hdigit with h | h
  · rw [hx] at h; cases h
  · exact hminus h

theorem digestPart_free (l : CartLine) : '|' ∉ l.digestPart := by
  intro h
  have hfree := digestFields_free (l := l) (x := '|') (by decide) (by decide)
  have hparts : l.digestPart = (toString l.productId).toList ++ ':' :: ((toString (l.variantId.getD 0)).toList
      ++ ':' :: (toString l.quantity).toList) := by
    simp [CartLine.digestPart, List.intercalate, List.intersperse]
  simp only [CartLine.digestFields, List.mem_cons, List.not_mem_nil, or_false, forall_eq_or_imp, forall_eq] at hfree
  rw [hparts, List.mem_append, List.mem_cons, List.mem_append, List.mem_cons] at h
  rcases h with h | h | h | h | h
  · exact hfree.1 h
  · revert h; decide
  · exact hfree.2.1 h
  · revert h; decide
  · exact hfree.2.2 h

theorem wanted_of_digestPart {i i' : CartItem} (h : i.line.digestPart = i'.line.digestPart) : i.wanted = i'.wanted := by
  have hfields : i.line.digestFields = i'.line.digestFields :=
    joined_inj (digestFields_free (by decide) (by decide)) (digestFields_free (by decide) (by decide))
      (List.cons_ne_nil _ _) (List.cons_ne_nil _ _) h
  simp only [CartLine.digestFields, List.cons.injEq, and_true, String.toList_inj] at hfields
  obtain ⟨hproduct, hvariant, hquantity⟩ := hfields
  have hvariant := toString_inj hvariant
  have hv : i.line.variantId = i'.line.variantId := by
    -- no variant has the id 0, which stands for none
    have hi := i.variantCounts
    have hi' := i'.variantCounts
    cases hl : i.line.variantId <;> cases hl' : i'.line.variantId <;>
      simp only [hl, hl', Option.getD_none, Option.getD_some] at hvariant hi hi' <;>
      first | rfl | exact congrArg some hvariant | exact absurd (congrArg some hvariant) hi |
        exact absurd (congrArg some hvariant.symm) hi'
  rw [CartItem.wanted, CartItem.wanted, toString_inj hproduct, hv, Int.repr_injective hquantity]

/-- Equal digests: the same products and variants, as many of each. -/
theorem wanted_of_cartText {items items' : List CartItem} (hne : items ≠ []) (hne' : items' ≠ [])
    (h : cartText (items.map CartItem.line) = cartText (items'.map CartItem.line)) :
    (items.map CartItem.wanted).Perm (items'.map CartItem.wanted) := by
  have hparts (items : List CartItem) : (((items.map CartItem.line).map CartLine.digestPart).insertionSort (· ≤ ·)).Perm
      (items.map fun i => i.line.digestPart) := by
    refine (List.perm_insertionSort ..).trans (List.Perm.of_eq ?_)
    rw [List.map_map]; rfl
  have hfree (items : List CartItem) : ∀ l ∈ ((items.map CartItem.line).map CartLine.digestPart).insertionSort (· ≤ ·),
      '|' ∉ l := by
    intro l hl
    obtain ⟨i, _, rfl⟩ := List.mem_map.mp ((hparts items).mem_iff.mp hl)
    exact digestPart_free _
  have hsome {items : List CartItem} (hne : items ≠ []) :
      ((items.map CartItem.line).map CartLine.digestPart).insertionSort (· ≤ ·) ≠ [] := by
    intro hnil
    have hperm := hparts items
    rw [hnil, List.nil_perm, List.map_eq_nil_iff] at hperm
    exact hne hperm
  have hsorted := joined_inj (hfree items) (hfree items') (hsome hne) (hsome hne') h
  have hperm : (items.map fun i => i.line.digestPart).Perm (items'.map fun i => i.line.digestPart) :=
    (hparts items).symm.trans (hsorted ▸ hparts items')
  -- what is wanted is a function of the part
  obtain ⟨read, hread⟩ : ∃ read : List Char → Id × Option Id × ℤ, CartItem.wanted = read ∘ fun i => i.line.digestPart :=
    (Function.factorsThrough_iff _).mp fun _ _ => wanted_of_digestPart
  rw [hread, ← List.map_map, ← List.map_map]
  exact hperm.map read

/-! ### What one step can do -/

section

variable {Hash : Type} {sha256 : Hashed → Hash} {s s' : Checkouts Hash}

/-- The phases a session goes through before it is answered. -/
inductive Advances (sha256 : Hashed → Hash) (s : Checkouts Hash) (call : CheckoutCall) :
    CheckoutPhase Hash → CheckoutPhase Hash → Prop
  | lock (hfree : ¬s.scopeHeld call.scope) : Advances sha256 s call .waiting .locked
  | none_found (hnone : s.byIdempotencyKey call.caller.owner call.idempotencyKey = none) :
      Advances sha256 s call .locked .fresh
  | found {r : CheckoutRecord Hash} (hr : s.byIdempotencyKey call.caller.owner call.idempotencyKey = some r)
      (hsame : r.requestHash = none ∨ r.requestHash = some (sha256 (.request call.canonical)))
      (hdigest : r.cartDigest ≠ none) : Advances sha256 s call .locked (.found r)
  | read (hitems : s.cartItems call.caller.owner ≠ []) :
      Advances sha256 s call .fresh (.read (s.cartItems call.caller.owner))

/-- The answers that leave orders and carts alone, and the phase in which each is given. -/
inductive Replies (sha256 : Hashed → Hash) (s : Checkouts Hash) (call : CheckoutCall) :
    CheckoutPhase Hash → Answer → Prop
  | other_request {r : CheckoutRecord Hash} (hr : s.byIdempotencyKey call.caller.owner call.idempotencyKey = some r)
      (hsome : r.requestHash ≠ none) (hdiff : r.requestHash ≠ some (sha256 (.request call.canonical))) :
      Replies sha256 s call .locked .conflict
  | undigested {r : CheckoutRecord Hash} (hr : s.byIdempotencyKey call.caller.owner call.idempotencyKey = some r)
      (hnone : r.cartDigest = none) : Replies sha256 s call .locked (.order r.orderId)
  | other_cart {r : CheckoutRecord Hash} (hsome : s.cartItems call.caller.owner ≠ [])
      (hdiff : r.cartDigest ≠ some (sha256 (.cart (cartText ((s.cartItems call.caller.owner).map CartItem.line))))) :
      Replies sha256 s call (.found r) .conflict
  | repeated {r : CheckoutRecord Hash} (hsame : s.cartItems call.caller.owner = []
      ∨ r.cartDigest = some (sha256 (.cart (cartText ((s.cartItems call.caller.owner).map CartItem.line))))) :
      Replies sha256 s call (.found r) (.order r.orderId)
  | refused (e : Err) : Replies sha256 s call .fresh (.refused e)
  | emptyCart (hnone : s.cartItems call.caller.owner = []) : Replies sha256 s call .fresh .emptyCart
  | unsold (items : List CartItem) (e : Err) : Replies sha256 s call (.read items) (.refused e)

/-- The lines of every cart are among those it had. -/
def CartsShrink (s s' : Checkouts Hash) : Prop :=
  ∀ owner, ∀ i' ∈ s'.cartItems owner, ∃ i ∈ s.cartItems owner, i.id = i'.id

/-- What one step can do. -/
inductive CheckoutChange (sha256 : Hashed → Hash) (s : Checkouts Hash) :
    CheckoutLabel → Checkouts Hash → Option (CheckoutCall × Answer) → Prop
  | begin {call : CheckoutCall} {sessions : Table (CheckoutSession Hash)}
      (hins : s.sessions.insert? ⟨s.next, call, .waiting⟩ = some sessions) :
      CheckoutChange sha256 s (.begin call) { s with sessions := sessions, next := s.next + 1 } none
  | advance {l : CheckoutLabel} {o : CheckoutSession Hash} {phase : CheckoutPhase Hash}
      (ho : s.sessions.get? o.id = some o) (hadv : Advances sha256 s o.call o.phase phase) :
      CheckoutChange sha256 s l (s.goOn o phase) none
  | tell {l : CheckoutLabel} {o : CheckoutSession Hash} {answer : Answer}
      (ho : s.sessions.get? o.id = some o) (htold : Replies sha256 s o.call o.phase answer) :
      CheckoutChange sha256 s l (s.finish o.id) (some (o.call, answer))
  | reprice {l : CheckoutLabel} {o : CheckoutSession Hash} {items : List CartItem} {s₁ : Checkouts Hash}
      (ho : s.sessions.get? o.id = some o) (hread : o.phase = .read items)
      (hprices : s.refreshPrices o.call.caller.owner items = some s₁) :
      CheckoutChange sha256 s l (s₁.finish o.id) (some (o.call, .priceChanged))
  | sold {o : CheckoutSession Hash} {items : List CartItem} {terms : SaleTerms} {db : Db}
      {records : Table (CheckoutRecord Hash)}
      (ho : s.sessions.get? o.id = some o) (hread : o.phase = .read items)
      (hnone : s.byIdempotencyKey o.call.caller.owner o.call.idempotencyKey = none)
      (hins : s.records.insert? (s.record sha256 o.call items) = some records) :
      CheckoutChange sha256 s (.sell o.id terms)
        ((({ s with db := db, records := records, next := s.next + 1 }).clearLines o.call.caller.owner items).finish o.id)
        (some (o.call, .order s.next))
  | drop {id : Nat} : CheckoutChange sha256 s (.drop id) (s.finish id) none
  | add {owner : CartOwner} {line : CartLine} {s₁ : Checkouts Hash} (hadd : s.addLine owner line = some s₁) :
      CheckoutChange sha256 s (.addLine owner line) s₁ none
  | edit {l : CheckoutLabel} {owner : CartOwner} {f : List CartItem → List CartItem} (hnil : f [] = [])
      (hf : ∀ items, ∀ i' ∈ f items, ∃ i ∈ items, i.id = i'.id) :
      CheckoutChange sha256 s l (s.editCart owner f) none
  | store {l : CheckoutLabel} (db : Db) : CheckoutChange sha256 s l { s with db := db } none

theorem map_ids {f : CartItem → CartItem} (hf : ∀ i, (f i).id = i.id) (items : List CartItem) :
    ∀ i' ∈ items.map f, ∃ i ∈ items, i.id = i'.id := by
  intro i' hi'
  obtain ⟨i, hi, rfl⟩ := List.mem_map.mp hi'
  exact ⟨i, hi, (hf i).symm⟩

theorem filter_ids (p : CartItem → Bool) (items : List CartItem) : ∀ i' ∈ items.filter p, ∃ i ∈ items, i.id = i'.id :=
  fun i' hi' => ⟨i', List.mem_of_mem_filter hi', rfl⟩

theorem sell_cases {o : CheckoutSession Hash} {items : List CartItem} {terms : SaleTerms} {answer : Answer}
    (ho : s.sessions.get? o.id = some o) (hread : o.phase = .read items)
    (h : s.sell sha256 o items terms = (s', answer)) :
    CheckoutChange sha256 s (.sell o.id terms) s' (some (o.call, answer)) := by
  have hunsold (e : Err) (h : (s.finish o.id, Answer.refused e) = (s', answer)) :
      CheckoutChange sha256 s (.sell o.id terms) s' (some (o.call, answer)) := by
    cases h
    exact .tell ho (hread ▸ .unsold items e)
  simp only [Checkouts.sell] at h
  generalize checkout s.db _ terms.now = sale at h
  cases sale with
  | ok db =>
    simp only at h
    cases hnone : s.byIdempotencyKey o.call.caller.owner o.call.idempotencyKey with
    | some r => rw [hnone] at h; exact hunsold _ h
    | none =>
      cases hins : s.records.insert? (s.record sha256 o.call items) with
      | none => rw [hnone, hins] at h; exact hunsold _ h
      | some records => rw [hnone, hins] at h; cases h; exact .sold ho hread hnone hins
  | error e =>
    cases e
    case priceChanged =>
      simp only at h
      cases hprices : s.refreshPrices o.call.caller.owner items with
      | none => rw [hprices] at h; exact hunsold _ h
      | some s₁ => rw [hprices] at h; cases h; exact .reprice ho hread hprices
    all_goals exact hunsold _ h

theorem checkoutRound_cases [DecidableEq Hash] {l : CheckoutLabel} {out : Option (CheckoutCall × Answer)}
    (h : checkoutRound sha256 s l = some (s', out)) : CheckoutChange sha256 s l s' out := by
  cases l with
  | begin call =>
    obtain ⟨sessions, hins, h⟩ := Option.bind_eq_some_iff.mp h
    cases h; exact .begin hins
  | lock id =>
    obtain ⟨o, ho, hs⟩ := Option.bind_eq_some_iff.mp h
    obtain rfl := Table.key_of_get? ho
    by_cases hc : o.phase = .waiting ∧ ¬s.scopeHeld o.call.scope
    · rw [if_pos hc] at hs
      cases hs; exact .advance ho (hc.1 ▸ .lock hc.2)
    · rw [if_neg hc] at hs; cases hs
  | lookup id =>
    obtain ⟨o, ho, hs⟩ := Option.bind_eq_some_iff.mp h
    obtain rfl := Table.key_of_get? ho
    by_cases hc : o.phase = .locked
    · rw [if_pos hc] at hs
      cases hr : s.byIdempotencyKey o.call.caller.owner o.call.idempotencyKey with
      | none => simp only [hr] at hs; cases hs; exact .advance ho (hc ▸ .none_found hr)
      | some r =>
        simp only [hr] at hs
        by_cases hdiff : r.requestHash ≠ none ∧ r.requestHash ≠ some (sha256 (.request o.call.canonical))
        · rw [if_pos hdiff] at hs; cases hs; exact .tell ho (hc ▸ .other_request hr hdiff.1 hdiff.2)
        · rw [if_neg hdiff] at hs
          by_cases hdigest : r.cartDigest = none
          · rw [if_pos hdigest] at hs; cases hs; exact .tell ho (hc ▸ .undigested hr hdigest)
          · rw [if_neg hdigest] at hs
            cases hs; exact .advance ho (hc ▸ .found hr (by tauto) hdigest)
    · rw [if_neg hc] at hs; cases hs
  | compare id =>
    obtain ⟨o, ho, hs⟩ := Option.bind_eq_some_iff.mp h
    obtain rfl := Table.key_of_get? ho
    cases hphase : o.phase with
    | found r =>
      simp only [hphase] at hs
      by_cases hdiff : s.cartItems o.call.caller.owner ≠ [] ∧ r.cartDigest
          ≠ some (sha256 (.cart (cartText ((s.cartItems o.call.caller.owner).map CartItem.line))))
      · rw [if_pos hdiff] at hs; cases hs; exact .tell ho (hphase ▸ .other_cart hdiff.1 hdiff.2)
      · rw [if_neg hdiff] at hs; cases hs; exact .tell ho (hphase ▸ .repeated (by tauto))
    | _ => simp only [hphase] at hs; cases hs
  | refuse id e =>
    obtain ⟨o, ho, hs⟩ := Option.bind_eq_some_iff.mp h
    obtain rfl := Table.key_of_get? ho
    by_cases hc : o.phase = .fresh
    · rw [if_pos hc] at hs; cases hs; exact .tell ho (hc ▸ .refused e)
    · rw [if_neg hc] at hs; cases hs
  | readCart id =>
    obtain ⟨o, ho, hs⟩ := Option.bind_eq_some_iff.mp h
    obtain rfl := Table.key_of_get? ho
    by_cases hc : o.phase = .fresh
    · rw [if_pos hc] at hs
      cases hitems : s.cartItems o.call.caller.owner with
      | nil => simp only [hitems] at hs; cases hs; exact .tell ho (hc ▸ .emptyCart hitems)
      | cons i items =>
        simp only [hitems] at hs
        cases hs
        have hne : s.cartItems o.call.caller.owner ≠ [] := by rw [hitems]; exact List.cons_ne_nil _ _
        exact .advance ho (hc ▸ hitems ▸ .read hne)
    · rw [if_neg hc] at hs; cases hs
  | sell id terms =>
    obtain ⟨o, ho, hs⟩ := Option.bind_eq_some_iff.mp h
    obtain rfl := Table.key_of_get? ho
    cases hphase : o.phase with
    | read items =>
      simp only [hphase] at hs
      cases hs; exact sell_cases ho hphase rfl
    | _ => simp only [hphase] at hs; cases hs
  | drop id =>
    obtain ⟨_, _, h⟩ := Option.bind_eq_some_iff.mp h
    cases h; exact .drop
  | addLine owner line =>
    obtain ⟨s₁, hadd, h⟩ := Option.map_eq_some_iff.mp h
    cases h; exact .add hadd
  | setQuantity owner itemId quantity =>
    by_cases hc : 0 < quantity
    · simp only [checkoutRound, if_pos hc] at h
      cases h
      refine .edit rfl (map_ids fun i => ?_)
      rcases eq_or_ne i.id itemId with heq | hne
      · rw [if_pos heq]; rfl
      · rw [if_neg hne]
    · simp only [checkoutRound, if_neg hc] at h; cases h
  | removeLine owner itemId =>
    cases h
    exact .edit rfl (filter_ids _)
  | store cfg op now =>
    simp only [checkoutRound] at h
    cases hc : op.isCheckout with
    | true => rw [hc] at h; cases h
    | false =>
      rw [hc] at h
      obtain ⟨db, _, h⟩ := Option.bind_eq_some_iff.mp h
      cases h; exact .store db

/-! ### The orders of a key -/

theorem byIdempotencyKey_eq_some {owner : CartOwner} {key : String} {r : CheckoutRecord Hash}
    (h : s.byIdempotencyKey owner key = some r) : r ∈ s.records.rows ∧ r.owner = owner ∧ r.idempotencyKey = key := by
  have hkey := List.find?_some h
  simp only [Bool.and_eq_true, decide_eq_true_eq] at hkey
  exact ⟨List.mem_of_find?_eq_some h, hkey⟩

theorem byIdempotencyKey_eq_none {owner : CartOwner} {key : String} :
    s.byIdempotencyKey owner key = none ↔ ∀ r ∈ s.records.rows, r.owner = owner → r.idempotencyKey ≠ key := by
  simp [Checkouts.byIdempotencyKey, List.find?_eq_none]

/-- No order was looked for, or none was found. -/
def CheckoutPhase.Unmade : CheckoutPhase Hash → Prop
  | .fresh => True
  | .read _ => True
  | _ => False

theorem CheckoutPhase.Unmade.runs {phase : CheckoutPhase Hash} (h : phase.Unmade) : phase ≠ .waiting := by
  rintro rfl; exact h

/-- What the advisory lock guards. -/
structure KeysTaken (sha256 : Hashed → Hash) (s : Checkouts Hash) : Prop where
  oneHolder : ∀ o ∈ s.sessions.rows, ∀ o' ∈ s.sessions.rows, o.phase ≠ .waiting → o'.phase ≠ .waiting →
    o.call.scope = o'.call.scope → o.id = o'.id
  unmade : ∀ o ∈ s.sessions.rows, o.phase.Unmade →
    s.byIdempotencyKey o.call.caller.owner o.call.idempotencyKey = none
  known : ∀ o ∈ s.sessions.rows, ∀ r, o.phase = .found r → r ∈ s.records.rows ∧ r.owner = o.call.caller.owner
    ∧ r.idempotencyKey = o.call.idempotencyKey
    ∧ (r.requestHash = none ∨ r.requestHash = some (sha256 (.request o.call.canonical)))
  someLine : ∀ o ∈ s.sessions.rows, o.phase ≠ .read []
  unique : ∀ r ∈ s.records.rows, ∀ r' ∈ s.records.rows, r.owner = r'.owner → r.idempotencyKey = r'.idempotencyKey →
    r = r'

theorem scope_of_key {call call' : CheckoutCall} (ho : call.caller.owner = call'.caller.owner)
    (hk : call.idempotencyKey = call'.idempotencyKey) : call.scope = call'.scope := by
  rw [CheckoutCall.scope, CheckoutCall.scope, ho, hk]

/-- The sessions that hold a lock are among those that did. -/
def Fewer (s s' : Checkouts Hash) : Prop := ∀ o ∈ s'.sessions.rows, o.phase ≠ .waiting → o ∈ s.sessions.rows

theorem KeysTaken.of_fewer (hinv : KeysTaken sha256 s) (hfewer : Fewer s s') (hrec : s'.records = s.records) :
    KeysTaken sha256 s' where
  oneHolder o ho o' ho' hw hw' := hinv.oneHolder o (hfewer o ho hw) o' (hfewer o' ho' hw') hw hw'
  unmade o ho hu := by
    rw [Checkouts.byIdempotencyKey, hrec]
    exact hinv.unmade o (hfewer o ho hu.runs) hu
  known o ho r hphase := by
    rw [hrec]
    exact hinv.known o (hfewer o ho (by rw [hphase]; nofun)) r hphase
  someLine o ho hphase := hinv.someLine o (hfewer o ho (by rw [hphase]; nofun)) hphase
  unique := by rw [hrec]; exact hinv.unique

@[simp] theorem editCart_sessions (s : Checkouts Hash) (owner : CartOwner) (f : List CartItem → List CartItem) :
    (s.editCart owner f).sessions = s.sessions := by
  rw [Checkouts.editCart]; cases s.carts.get? owner <;> rfl

@[simp] theorem editCart_records (s : Checkouts Hash) (owner : CartOwner) (f : List CartItem → List CartItem) :
    (s.editCart owner f).records = s.records := by
  rw [Checkouts.editCart]; cases s.carts.get? owner <;> rfl

@[simp] theorem editCart_next (s : Checkouts Hash) (owner : CartOwner) (f : List CartItem → List CartItem) :
    (s.editCart owner f).next = s.next := by
  rw [Checkouts.editCart]; cases s.carts.get? owner <;> rfl

theorem fewer_finish (s : Checkouts Hash) (id : Nat) : Fewer s (s.finish id) :=
  fun _ ho _ => (Table.mem_erase.mp ho).1

/-- New prices leave the lines as they are. -/
theorem refreshPrices_eq {owner : CartOwner} {items : List CartItem} (h : s.refreshPrices owner items = some s') :
    ∃ f : CartItem → CartItem, (∀ i, (f i).id = i.id) ∧ s' = s.editCart owner (List.map f) := by
  obtain ⟨basket, _, h⟩ := Option.bind_eq_some_iff.mp h
  simp only [Option.ite_none_right_eq_some, Option.some.injEq] at h
  refine ⟨_, fun i => ?_, h.2.symm⟩
  cases List.find? _ _ <;> rfl

theorem addLine_eq {owner : CartOwner} {line : CartLine} (h : s.addLine owner line = some s') :
    s'.sessions = s.sessions ∧ s'.records = s.records ∧ s'.next = s.next + 1 := by
  simp only [Checkouts.addLine, Option.dite_none_right_eq_some, Option.ite_none_right_eq_some] at h
  obtain ⟨_, _, h⟩ := h
  cases hcart : s.carts.get? owner with
  | some cart => rw [hcart] at h; cases h; simp
  | none =>
    rw [hcart] at h
    obtain ⟨carts, _, h⟩ := Option.map_eq_some_iff.mp h
    cases h; exact ⟨rfl, rfl, rfl⟩

theorem mem_goOn {o x : CheckoutSession Hash} {phase : CheckoutPhase Hash} (ho : s.sessions.get? o.id = some o)
    (hx : x ∈ (s.goOn o phase).sessions.rows) : x = { o with phase := phase } ∨ (x ∈ s.sessions.rows ∧ x.id ≠ o.id) :=
  (Table.mem_replace (q := { o with phase := phase }) ho).mp hx

theorem KeysTaken.advance {o : CheckoutSession Hash} {phase : CheckoutPhase Hash} (hinv : KeysTaken sha256 s)
    (ho : s.sessions.get? o.id = some o) (hadv : Advances sha256 s o.call o.phase phase) :
    KeysTaken sha256 (s.goOn o phase) := by
  have hmem := Table.mem_of_get? ho
  -- no other session has a lock of this name
  have halone : ∀ x ∈ s.sessions.rows, x.phase ≠ .waiting → x.call.scope = o.call.scope → x.id = o.id := by
    intro x hx hw hscope
    cases hphase : o.phase with
    | waiting =>
      rw [hphase] at hadv
      cases hadv with
      | lock hfree => exact absurd ⟨x, hx, hscope, hw⟩ hfree
    | _ => exact hinv.oneHolder x hx o hmem hw (by rw [hphase]; nofun) hscope
  refine ⟨?_, ?_, ?_, ?_, hinv.unique⟩
  · intro x hx x' hx' hw hw' hscope
    rcases mem_goOn ho hx with rfl | ⟨hx, hne⟩ <;> rcases mem_goOn ho hx' with rfl | ⟨hx', hne'⟩
    · rfl
    · exact (halone x' hx' hw' hscope.symm).symm
    · exact halone x hx hw hscope
    · exact hinv.oneHolder x hx x' hx' hw hw' hscope
  · intro x hx hu
    rcases mem_goOn ho hx with rfl | ⟨hx, _⟩
    · generalize hbefore : o.phase = before at hadv
      cases hadv with
      | none_found hnone => exact hnone
      | read => exact hinv.unmade o hmem (by rw [hbefore]; trivial)
      | lock => cases hu
      | found => cases hu
    · exact hinv.unmade x hx hu
  · intro x hx r hphase
    rcases mem_goOn ho hx with rfl | ⟨hx, _⟩
    · generalize o.phase = before at hadv
      cases hphase
      cases hadv with
      | found hr hsame =>
        obtain ⟨hrow, howner, hkey⟩ := byIdempotencyKey_eq_some hr
        exact ⟨hrow, howner, hkey, hsame⟩
    · exact hinv.known x hx r hphase
  · intro x hx hphase
    rcases mem_goOn ho hx with rfl | ⟨hx, _⟩
    · generalize o.phase = before at hadv
      cases hadv with
      | read hitems => exact hitems (CheckoutPhase.read.inj hphase)
      | lock => cases hphase
      | none_found => cases hphase
      | found => cases hphase
    · exact hinv.someLine x hx hphase

/-- The order of a sale is the first with its identity and key. -/
theorem KeysTaken.sold {o : CheckoutSession Hash} {items : List CartItem} {db : Db} {records : Table (CheckoutRecord Hash)}
    (hinv : KeysTaken sha256 s) (ho : s.sessions.get? o.id = some o) (hread : o.phase = .read items)
    (hnone : s.byIdempotencyKey o.call.caller.owner o.call.idempotencyKey = none)
    (hins : s.records.insert? (s.record sha256 o.call items) = some records) :
    KeysTaken sha256
      ((({ s with db := db, records := records, next := s.next + 1 }).clearLines o.call.caller.owner items).finish o.id) := by
  have hmem := Table.mem_of_get? ho
  have hrows : ∀ r, r ∈ records.rows ↔ r = s.record sha256 o.call items ∨ r ∈ s.records.rows := fun r =>
    Table.mem_insert? hins
  have hsessions : ∀ x ∈ ((({ s with db := db, records := records, next := s.next + 1 }).clearLines o.call.caller.owner
      items).finish o.id).sessions.rows, x ∈ s.sessions.rows ∧ x.id ≠ o.id := by
    intro x hx
    obtain ⟨hx, hne⟩ := Table.mem_erase.mp hx
    exact ⟨by simpa [Checkouts.clearLines] using hx, hne⟩
  have hrecords : ((({ s with db := db, records := records, next := s.next + 1 }).clearLines o.call.caller.owner
      items).finish o.id).records = records := by
    simp [Checkouts.finish, Checkouts.clearLines]
  rw [byIdempotencyKey_eq_none] at hnone
  refine ⟨?_, ?_, ?_, ?_, ?_⟩
  · intro x hx x' hx' hw hw' hscope
    exact hinv.oneHolder x (hsessions x hx).1 x' (hsessions x' hx').1 hw hw' hscope
  · intro x hx hu
    obtain ⟨hx, hne⟩ := hsessions x hx
    rw [byIdempotencyKey_eq_none, hrecords]
    intro r hr howner hkey
    rcases (hrows r).mp hr with rfl | hr
    · exact hne (hinv.oneHolder x hx o hmem hu.runs (by rw [hread]; nofun) (scope_of_key howner.symm hkey.symm))
    · exact byIdempotencyKey_eq_none.mp (hinv.unmade x hx hu) r hr howner hkey
  · intro x hx r hphase
    obtain ⟨hr, hrest⟩ := hinv.known x (hsessions x hx).1 r hphase
    rw [hrecords]
    exact ⟨(hrows r).mpr (.inr hr), hrest⟩
  · intro x hx
    exact hinv.someLine x (hsessions x hx).1
  · rw [hrecords]
    intro r hr r' hr' howner hkey
    rcases (hrows r).mp hr with rfl | hr <;> rcases (hrows r').mp hr' with rfl | hr'
    · rfl
    · exact absurd hkey.symm (hnone r' hr' howner.symm)
    · exact absurd hkey (hnone r hr howner)
    · exact hinv.unique r hr r' hr' howner hkey

theorem KeysTaken.step {l : CheckoutLabel} {out : Option (CheckoutCall × Answer)} (hinv : KeysTaken sha256 s)
    (h : CheckoutChange sha256 s l s' out) : KeysTaken sha256 s' := by
  cases h with
  | begin hins =>
    refine hinv.of_fewer (fun o ho hw => ?_) rfl
    rcases (Table.mem_insert? hins).mp ho with rfl | ho
    · exact absurd rfl hw
    · exact ho
  | advance ho hadv => exact hinv.advance ho hadv
  | tell => exact hinv.of_fewer (fewer_finish _ _) rfl
  | reprice _ _ hprices =>
    obtain ⟨f, _, rfl⟩ := refreshPrices_eq hprices
    exact hinv.of_fewer (fun o ho _ => by simpa using (Table.mem_erase.mp ho).1) (by simp [Checkouts.finish])
  | sold ho hread hnone hins => exact hinv.sold ho hread hnone hins
  | drop => exact hinv.of_fewer (fewer_finish _ _) rfl
  | add hadd =>
    obtain ⟨hsessions, hrecords, _⟩ := addLine_eq hadd
    exact hinv.of_fewer (fun o ho _ => by rwa [hsessions] at ho) hrecords
  | edit => exact hinv.of_fewer (fun o ho _ => by simpa using ho) (editCart_records ..)
  | store => exact hinv.of_fewer (fun _ ho _ => ho) rfl

end

/-! ### Two histories -/

/-- The small shop before its first checkout. -/
def smallCheckouts : Checkouts Hashed := ⟨smallShop.db, .empty, .empty, .empty, 1⟩

theorem smallCheckouts_initial : smallCheckouts.Initial :=
  ⟨rfl, rfl, fun _ _ hi => (List.not_mem_nil hi).elim, fun _ _ _ hi => (List.not_mem_nil hi).elim⟩

def smallTerms : SaleTerms := ⟨"usd", 10, fun subtotal => .ok (subtotal, false), 0⟩

def smallCall (key : String) : CheckoutCall := ⟨.user 1, key, some 1, none, none⟩

def twoPieces : CartLine := { productId := 1, variantId := none, quantity := 2, priceCentsSnapshot := 100 }

/-- A call that sells, and the same call again after the customer put the goods back in the cart. -/
def repeatedCheckout : List CheckoutLabel :=
  [.addLine (.user 1) twoPieces, .begin (smallCall "k"), .lock 2, .lookup 2, .readCart 2, .sell 2 smallTerms,
   .begin (smallCall "k"), .lock 4, .lookup 4, .compare 4, .addLine (.user 1) { twoPieces with quantity := 1 },
   .begin (smallCall "k"), .lock 6, .lookup 6, .compare 6]

/-- Two checkouts with different keys that both read the cart before either sells. -/
def doubleClick : List CheckoutLabel :=
  [.addLine (.user 1) twoPieces, .begin (smallCall "a"), .begin (smallCall "b"), .lock 2, .lock 3, .lookup 2, .lookup 3,
   .readCart 2, .readCart 3, .sell 2 smallTerms, .sell 3 { smallTerms with firstItemId := 20 }]

/-! ### Idempotency -/

section

variable {Hash : Type} [DecidableEq Hash] {sha256 : Hashed → Hash} {s₀ s s' : Checkouts Hash} {l : CheckoutLabel}
  {t : Taken (Checkouts Hash) CheckoutLabel} {tr : List (Taken (Checkouts Hash) CheckoutLabel)}

/-- The step is the sale, for `call`, of the lines `items` it had read; `r` is the order it made. -/
structure Makes (sha256 : Hashed → Hash) (t : Taken (Checkouts Hash) CheckoutLabel) (call : CheckoutCall)
    (items : List CartItem) (r : CheckoutRecord Hash) : Prop where
  asked : ∃ id terms session, t.label = .sell id terms ∧ t.pre.sessions.get? id = some session ∧ session.call = call
    ∧ session.phase = .read items
  answered : Answers sha256 t call (.order r.orderId)
  isNew : r ∉ t.pre.records.rows
  made : r ∈ t.post.records.rows

/-- The call asks for what the order was made from: the same terms, and no other cart in the meantime. -/
def AsksFor (call : CheckoutCall) (cart : List CartItem) (original : CheckoutCall) (items : List CartItem) : Prop :=
  call.terms = original.terms ∧ (cart = [] ∨ (cart.map CartItem.wanted).Perm (items.map CartItem.wanted))

theorem checkoutStep_cases (h : checkoutStep sha256 s l = some s') : ∃ out, checkoutRound sha256 s l = some (s', out)
    ∧ CheckoutChange sha256 s l s' out := by
  obtain ⟨⟨_, out⟩, hround, rfl⟩ := Option.map_eq_some_iff.mp h
  exact ⟨out, hround, checkoutRound_cases hround⟩

theorem CheckoutRun.keys (h₀ : s₀.Initial) (run : CheckoutRun sha256 s₀ tr s) : KeysTaken sha256 s := by
  refine Exec.invariant (I := KeysTaken sha256) ⟨?_, ?_, ?_, ?_, ?_⟩ ?_ run
  · intro o ho; rw [h₀.sessions] at ho; cases ho
  · intro o ho; rw [h₀.sessions] at ho; cases ho
  · intro o ho; rw [h₀.sessions] at ho; cases ho
  · intro o ho; rw [h₀.sessions] at ho; cases ho
  · intro r hr; rw [h₀.records] at hr; cases hr
  · intro s l s' hstep hinv
    obtain ⟨_, _, hchange⟩ := checkoutStep_cases hstep
    exact hinv.step hchange

omit [DecidableEq Hash] in
/-- Orders are made by sales only, one at a time, and stay. -/
theorem CheckoutChange.records {out : Option (CheckoutCall × Answer)} (h : CheckoutChange sha256 s l s' out) :
    s'.records = s.records ∨ ∃ o items terms, l = .sell o.id terms ∧ s.sessions.get? o.id = some o
      ∧ o.phase = .read items ∧ out = some (o.call, .order s.next)
      ∧ s'.records.rows = s.record sha256 o.call items :: s.records.rows ∧ s.record sha256 o.call items ∉ s.records.rows := by
  cases h with
  | @sold o items terms db records ho hread hnone hins =>
    refine .inr ⟨o, items, terms, rfl, ho, hread, rfl, ?_, fun hmem => ?_⟩
    · simpa [Checkouts.finish, Checkouts.clearLines] using Table.rows_of_insert? hins
    · exact byIdempotencyKey_eq_none.mp hnone _ hmem rfl rfl
  | reprice _ _ hprices =>
    obtain ⟨f, _, rfl⟩ := refreshPrices_eq hprices
    exact .inl (by simp [Checkouts.finish])
  | add hadd => exact .inl (addLine_eq hadd).2.1
  | edit => exact .inl (editCart_records ..)
  | begin => exact .inl rfl
  | advance => exact .inl rfl
  | tell => exact .inl rfl
  | drop => exact .inl rfl
  | store => exact .inl rfl

theorem records_grow (h : checkoutStep sha256 s l = some s') : s.records.rows ⊆ s'.records.rows := by
  obtain ⟨_, _, hchange⟩ := checkoutStep_cases h
  rcases hchange.records with heq | ⟨_, _, _, _, _, _, _, hrows, _⟩
  · rw [heq]; exact List.Subset.refl _
  · rw [hrows]; exact List.subset_cons_self ..

theorem CheckoutRun.records_stay (run : CheckoutRun sha256 s₀ tr s) (ht : t ∈ tr) :
    t.pre.records.rows ⊆ s.records.rows ∧ t.post.records.rows ⊆ s.records.rows := by
  induction run with
  | nil => cases ht
  | cons run hstep ih =>
    rcases List.mem_cons.mp ht with rfl | ht
    · exact ⟨records_grow hstep, List.Subset.refl _⟩
    · exact ⟨List.Subset.trans (ih ht).1 (records_grow hstep), List.Subset.trans (ih ht).2 (records_grow hstep)⟩

/-- The columns of the order a sale makes. -/
theorem Makes.columns {call : CheckoutCall} {items : List CartItem} {r : CheckoutRecord Hash}
    (hstep : checkoutStep sha256 t.pre t.label = some t.post) (h : Makes sha256 t call items r) :
    r = t.pre.record sha256 call items := by
  obtain ⟨out, hround, hchange⟩ := checkoutStep_cases hstep
  rcases hchange.records with heq | ⟨o, items', terms, hlabel, ho, hread, _, hrows, _⟩
  · exact absurd (heq ▸ h.made) h.isNew
  · obtain ⟨id, terms', session, hlabel', hs, rfl, hread'⟩ := h.asked
    rw [hlabel] at hlabel'
    cases hlabel'
    rw [ho] at hs
    cases hs
    rw [hread] at hread'
    cases hread'
    have hmade := h.made
    rw [hrows, List.mem_cons] at hmade
    exact hmade.resolve_right h.isNew

/-- Every order was made by a sale of the run. -/
theorem CheckoutRun.made (h₀ : s₀.Initial) (run : CheckoutRun sha256 s₀ tr s) :
    ∀ r ∈ s.records.rows, ∃ t ∈ tr, ∃ call items, Makes sha256 t call items r := by
  refine Exec.history (I := fun tr s => ∀ r ∈ s.records.rows, ∃ t ∈ tr, ∃ call items, Makes sha256 t call items r)
    ?_ ?_ run
  · intro r hr; rw [h₀.records] at hr; cases hr
  · intro tr s l s' _ hstep ih r hr
    have hold (hr : r ∈ s.records.rows) : ∃ t ∈ (⟨s, l, s'⟩ :: tr), ∃ call items, Makes sha256 t call items r := by
      obtain ⟨t, ht, hmade⟩ := ih r hr
      exact ⟨t, List.mem_cons_of_mem _ ht, hmade⟩
    obtain ⟨out, hround, hchange⟩ := checkoutStep_cases hstep
    rcases hchange.records with heq | ⟨o, items, terms, rfl, ho, hread, rfl, hrows, hnew⟩
    · exact hold (heq ▸ hr)
    · rw [hrows] at hr
      rcases List.mem_cons.mp hr with rfl | hr
      · refine ⟨_, List.mem_cons_self .., o.call, items, ⟨_, terms, o, rfl, ho, rfl, hread⟩, ?_, hnew, ?_⟩
        · rw [Answers, hround]; rfl
        · rw [hrows]; exact List.mem_cons_self ..
      · exact hold hr

theorem cartText_perm {lines lines' : List CartLine}
    (h : (lines.map CartLine.digestPart).Perm (lines'.map CartLine.digestPart)) : cartText lines = cartText lines' := by
  have hsorted : (lines.map CartLine.digestPart).insertionSort (· ≤ ·)
      = (lines'.map CartLine.digestPart).insertionSort (· ≤ ·) :=
    (((List.perm_insertionSort ..).trans h).trans (List.perm_insertionSort ..).symm).eq_of_pairwise'
      (List.pairwise_insertionSort ..) (List.pairwise_insertionSort ..)
  rw [cartText, cartText, hsorted]

theorem canonical_of_terms {call call' : CheckoutCall} (h : call.terms = call'.terms) : call.canonical = call'.canonical := by
  simp only [CheckoutCall.terms, CheckoutTerms.mk.injEq] at h
  obtain ⟨haddress, hshipping, hemail, hcoupon⟩ := h
  rw [CheckoutCall.canonical, CheckoutCall.canonical, haddress, hshipping, hemail, hcoupon]

/-- The digest tells what is wanted and nothing else. -/
theorem cartText_eq_iff {items items' : List CartItem} (hne : items ≠ []) (hne' : items' ≠ []) :
    cartText (items.map CartItem.line) = cartText (items'.map CartItem.line)
      ↔ (items.map CartItem.wanted).Perm (items'.map CartItem.wanted) := by
  refine ⟨wanted_of_cartText hne hne', fun h => cartText_perm ?_⟩
  let part (w : Id × Option Id × ℤ) : List Char := CartLine.digestPart ⟨w.1, w.2.1, w.2.2, 0⟩
  have hpart : CartLine.digestPart ∘ CartItem.line = part ∘ CartItem.wanted := rfl
  rw [List.map_map, List.map_map, hpart, ← List.map_map, ← List.map_map]
  exact h.map part

omit [DecidableEq Hash] in
/-- What ends a call, and with which answer. -/
theorem CheckoutChange.answered {call : CheckoutCall} {answer : Answer}
    (h : CheckoutChange sha256 s l s' (some (call, answer))) : ∃ o, s.sessions.get? o.id = some o ∧ o.call = call ∧
      ((s' = s.finish o.id ∧ Replies sha256 s call o.phase answer)
        ∨ (o.phase.Unmade ∧ answer = .priceChanged)
        ∨ ∃ items, o.phase.Unmade ∧ answer = .order s.next
          ∧ s'.records.rows = s.record sha256 call items :: s.records.rows) := by
  cases h with
  | @tell l o _ ho htold => exact ⟨o, ho, rfl, .inl ⟨rfl, htold⟩⟩
  | @reprice l o _ _ ho hread _ => exact ⟨o, ho, rfl, .inr (.inl ⟨by rw [hread]; trivial, rfl⟩)⟩
  | @sold o items _ _ _ ho hread _ hins =>
    refine ⟨o, ho, rfl, .inr (.inr ⟨items, by rw [hread]; trivial, rfl, ?_⟩)⟩
    simpa [Checkouts.finish, Checkouts.clearLines] using Table.rows_of_insert? hins

theorem Answers.change {call : CheckoutCall} {answer : Answer} (hans : Answers sha256 t call answer)
    (hstep : checkoutStep sha256 t.pre t.label = some t.post) :
    CheckoutChange sha256 t.pre t.label t.post (some (call, answer)) := by
  obtain ⟨out, hround, hchange⟩ := checkoutStep_cases hstep
  rw [Answers, hround] at hans
  cases hans
  exact hchange

/-- An answer with an order: the one with the identity and the key of the call. -/
theorem order_of_key (hinv : KeysTaken sha256 t.pre) (hstep : checkoutStep sha256 t.pre t.label = some t.post)
    {call : CheckoutCall} {id : Id} (hans : Answers sha256 t call (.order id)) :
    ∃ r ∈ t.post.records.rows, r.orderId = id ∧ r.owner = call.caller.owner ∧ r.idempotencyKey = call.idempotencyKey := by
  obtain ⟨o, ho, rfl, ⟨hpost, htold⟩ | ⟨_, hans⟩ | ⟨items, _, hans, hrows⟩⟩ := (hans.change hstep).answered
  · have hrecords : t.post.records = t.pre.records := by rw [hpost]; rfl
    rw [hrecords]
    generalize hphase : o.phase = phase at htold
    cases htold with
    | undigested hr =>
      obtain ⟨hrow, howner, hkey⟩ := byIdempotencyKey_eq_some hr
      exact ⟨_, hrow, rfl, howner, hkey⟩
    | repeated =>
      obtain ⟨hrow, howner, hkey, _⟩ := hinv.known o (Table.mem_of_get? ho) _ hphase
      exact ⟨_, hrow, rfl, howner, hkey⟩
  · cases hans
  · cases hans
    exact ⟨_, hrows ▸ List.mem_cons_self .., rfl, rfl, rfl⟩

/-- A call whose key already has an order is told that order if it asks for the same, and refused if it does not. -/
theorem repeated_call (hsha : Function.Injective sha256) (hinv : KeysTaken sha256 t.pre)
    (hstep : checkoutStep sha256 t.pre t.label = some t.post) {call original : CheckoutCall} {answer : Answer}
    {items : List CartItem} {r : CheckoutRecord Hash} (hans : Answers sha256 t call answer)
    (hr : r ∈ t.pre.records.rows) (howner : r.owner = call.caller.owner) (hkey : r.idempotencyKey = call.idempotencyKey)
    (hne : items ≠ []) (hrequest : r.requestHash = some (sha256 (.request original.canonical)))
    (hdigest : r.cartDigest = some (sha256 (.cart (cartText (items.map CartItem.line))))) :
    (AsksFor call (t.pre.cartItems call.caller.owner) original items ∧ answer = .order r.orderId)
      ∨ (¬AsksFor call (t.pre.cartItems call.caller.owner) original items ∧ answer = .conflict) := by
  obtain ⟨o, ho, rfl, hcase⟩ := (hans.change hstep).answered
  have hmem := Table.mem_of_get? ho
  -- the call was not told that there is no order
  have hmade : ¬o.phase.Unmade := fun hu =>
    byIdempotencyKey_eq_none.mp (hinv.unmade o hmem hu) r hr howner hkey
  have hthis {r' : CheckoutRecord Hash} (hrow : r' ∈ t.pre.records.rows) (howner' : r'.owner = o.call.caller.owner)
      (hkey' : r'.idempotencyKey = o.call.idempotencyKey) : r' = r :=
    hinv.unique r' hrow r hr (howner'.trans howner.symm) (hkey'.trans hkey.symm)
  have hcart (hsome : t.pre.cartItems o.call.caller.owner ≠ []) :
      r.cartDigest = some (sha256 (.cart (cartText ((t.pre.cartItems o.call.caller.owner).map CartItem.line))))
        ↔ ((t.pre.cartItems o.call.caller.owner).map CartItem.wanted).Perm (items.map CartItem.wanted) := by
    rw [← cartText_eq_iff hsome hne, hdigest, Option.some.injEq, hsha.eq_iff, Hashed.cart.injEq, eq_comm]
  obtain ⟨hpost, htold⟩ | ⟨hu, _⟩ | ⟨_, hu, _⟩ := hcase
  · generalize hphase : o.phase = phase at htold
    cases htold with
    | other_request hr' _ hdiff =>
      obtain ⟨hrow, howner', hkey'⟩ := byIdempotencyKey_eq_some hr'
      obtain rfl := hthis hrow howner' hkey'
      refine .inr ⟨fun hasks => hdiff ?_, rfl⟩
      rw [hrequest, canonical_of_terms hasks.1]
    | undigested hr' hnone =>
      obtain ⟨hrow, howner', hkey'⟩ := byIdempotencyKey_eq_some hr'
      obtain rfl := hthis hrow howner' hkey'
      rw [hdigest] at hnone; cases hnone
    | other_cart hsome hdiff =>
      obtain ⟨hrow, howner', hkey', _⟩ := hinv.known o hmem _ hphase
      obtain rfl := hthis hrow howner' hkey'
      refine .inr ⟨fun hasks => ?_, rfl⟩
      exact hasks.2.elim hsome fun hperm => hdiff ((hcart hsome).mpr hperm)
    | repeated hsame =>
      obtain ⟨hrow, howner', hkey', hrequest'⟩ := hinv.known o hmem _ hphase
      obtain rfl := hthis hrow howner' hkey'
      refine .inl ⟨⟨?_, ?_⟩, rfl⟩
      · rw [hrequest] at hrequest'
        have hcanonical := hsha (Option.some.inj (hrequest'.resolve_left nofun))
        exact (canonical_inj (Hashed.request.inj hcanonical)).symm
      · rcases eq_or_ne (t.pre.cartItems o.call.caller.owner) [] with hempty | hsome
        · exact .inl hempty
        · exact .inr ((hcart hsome).mp (hsame.resolve_left hsome))
    | refused => exact absurd (by rw [hphase]; trivial) hmade
    | emptyCart => exact absurd (by rw [hphase]; trivial) hmade
    | unsold => exact absurd (by rw [hphase]; trivial) hmade
  · exact absurd hu hmade
  · exact absurd hu hmade

/-- One order for an identity and a key, in whatever order its calls arrive, wait and commit: orders stay and no two
    have the same identity and key; every order a call is told is the one with its own; a call that finds the order
    there is told that order if it asks for the same and finds no other cart, and otherwise refused, with nothing
    changed. -/
theorem checkout_idempotent (hsha : Function.Injective sha256) (h₀ : s₀.Initial) (run : CheckoutRun sha256 s₀ tr s) :
    (∀ r ∈ s.records.rows, ∀ r' ∈ s.records.rows, r.owner = r'.owner → r.idempotencyKey = r'.idempotencyKey → r = r')
    ∧ (∀ t ∈ tr, t.pre.records.rows ⊆ s.records.rows)
    ∧ (∀ t ∈ tr, ∀ call id, Answers sha256 t call (.order id) →
        ∃ r ∈ s.records.rows, r.orderId = id ∧ r.owner = call.caller.owner ∧ r.idempotencyKey = call.idempotencyKey)
    ∧ (∀ t ∈ tr, ∀ call answer r, Answers sha256 t call answer → r ∈ t.pre.records.rows →
        r.owner = call.caller.owner → r.idempotencyKey = call.idempotencyKey →
        ∃ t₀ ∈ tr, ∃ original items, Makes sha256 t₀ original items r ∧
          ((AsksFor call (t.pre.cartItems call.caller.owner) original items ∧ answer = .order r.orderId)
          ∨ (¬AsksFor call (t.pre.cartItems call.caller.owner) original items ∧ answer = .conflict)))
    ∧ (∀ t ∈ tr, ∀ call, Answers sha256 t call .conflict →
        t.post.db = t.pre.db ∧ t.post.carts = t.pre.carts ∧ t.post.records = t.pre.records) := by
  refine ⟨(run.keys h₀).unique, fun t ht => (run.records_stay ht).1, ?_, ?_, ?_⟩
  · intro t ht call id hans
    obtain ⟨⟨_, hbefore⟩, hstep⟩ := run.taken ht
    obtain ⟨r, hr, hrest⟩ := order_of_key (CheckoutRun.keys h₀ hbefore) hstep hans
    exact ⟨r, (run.records_stay ht).2 hr, hrest⟩
  · intro t ht call answer r hans hr howner hkey
    obtain ⟨before, hbefore, hsub⟩ := run.before ht
    obtain ⟨t₀, ht₀, original, items, hmakes⟩ := CheckoutRun.made h₀ hbefore r hr
    obtain ⟨⟨_, hbefore₀⟩, hstep₀⟩ := hbefore.taken ht₀
    have hcolumns := hmakes.columns hstep₀
    have hne : items ≠ [] := by
      rintro rfl
      obtain ⟨_, _, o, _, ho, _, hread⟩ := hmakes.asked
      exact (CheckoutRun.keys h₀ hbefore₀).someLine o (Table.mem_of_get? ho) hread
    refine ⟨t₀, hsub ht₀, original, items, hmakes, ?_⟩
    exact repeated_call hsha (CheckoutRun.keys h₀ hbefore) (run.taken ht).2 hans hr howner hkey hne
      (by rw [hcolumns]; rfl) (by rw [hcolumns]; rfl)
  · intro t ht call hans
    obtain ⟨o, _, _, ⟨hpost, _⟩ | ⟨_, hans⟩ | ⟨_, _, hans, _⟩⟩ := (hans.change (run.taken ht).2).answered
    · rw [hpost]; exact ⟨rfl, rfl, rfl⟩
    · cases hans
    · cases hans

end

theorem checkout_repeated : ∃ tr s, CheckoutRun id smallCheckouts tr s ∧
    (∃ t ∈ tr, Answers id t (smallCall "k") (.order 3)) ∧ (∃ t ∈ tr, Answers id t (smallCall "k") .conflict) ∧
    ∃ r ∈ s.records.rows, r.orderId = 3 ∧ r.owner = .user 1 ∧ r.idempotencyKey = "k" := by
  obtain ⟨tr, s, run, ⟨t, ht, hsold⟩, hconflict⟩ := exists_exec (checkoutStep id) smallCheckouts
    (P := fun tr _ => (∃ t ∈ tr, (checkoutRound id t.pre t.label).bind Prod.snd = some (smallCall "k", .order 3))
      ∧ ∃ t ∈ tr, (checkoutRound id t.pre t.label).bind Prod.snd = some (smallCall "k", .conflict))
    repeatedCheckout (by decide)
  exact ⟨tr, s, run, ⟨t, ht, hsold⟩, hconflict,
    (checkout_idempotent Function.injective_id smallCheckouts_initial run).2.2.1 t ht _ _ hsold⟩

/-! ### Lines are sold once -/

section

variable {Hash : Type} [DecidableEq Hash] {sha256 : Hashed → Hash} {s₀ s s' : Checkouts Hash} {l : CheckoutLabel}
  {tr : List (Taken (Checkouts Hash) CheckoutLabel)}

omit [DecidableEq Hash] in
theorem cartItems_editCart (s : Checkouts Hash) (owner owner' : CartOwner) {f : List CartItem → List CartItem} :
    (s.editCart owner f).cartItems owner'
      = if owner' = owner ∧ s.carts.get? owner ≠ none then f (s.cartItems owner) else s.cartItems owner' := by
  rw [Checkouts.editCart]
  cases hcart : s.carts.get? owner with
  | none => simp
  | some cart =>
    obtain rfl := Table.key_of_get? hcart
    rcases eq_or_ne owner' cart.owner with rfl | hne
    · have hself : (s.carts.replace { cart with items := f cart.items }).get? cart.owner
          = some { cart with items := f cart.items } :=
        Table.get?_replace_self (q := { cart with items := f cart.items }) hcart
      have hcart : s.carts.get? cart.owner = some cart := hcart
      simp [Checkouts.cartItems, hself, hcart, show (Keyed.key cart : CartOwner) = cart.owner from rfl]
    · have hother : (s.carts.replace { cart with items := f cart.items }).get? owner' = s.carts.get? owner' :=
        Table.get?_replace_of_ne (q := { cart with items := f cart.items }) hne
      simp [Checkouts.cartItems, hother, show owner' ≠ (Keyed.key cart : CartOwner) from hne]

omit [DecidableEq Hash] in
theorem editCart_shrinks {owner : CartOwner} {f : List CartItem → List CartItem}
    (hf : ∀ items, ∀ i' ∈ f items, ∃ i ∈ items, i.id = i'.id) : CartsShrink s (s.editCart owner f) := by
  intro owner' i' hi'
  rw [cartItems_editCart] at hi'
  by_cases hc : owner' = owner ∧ s.carts.get? owner ≠ none
  · rw [if_pos hc] at hi'
    rw [hc.1]
    exact hf _ i' hi'
  · rw [if_neg hc] at hi'
    exact ⟨i', hi', rfl⟩

/-- What a sale is of: whose cart, and the lines that were read. -/
def saleOf (s : Checkouts Hash) : CheckoutLabel → Option (CartOwner × List CartItem)
  | .sell id _ => (s.sessions.get? id).bind fun o =>
    match o.phase with
    | .read items => some (o.call.caller.owner, items)
    | _ => none
  | _ => none

/-- The lines a step sold: those of its sale, if it made an order. -/
def linesSold (t : Taken (Checkouts Hash) CheckoutLabel) : List Id :=
  if t.post.records.rows = t.pre.records.rows then []
  else (((saleOf t.pre t.label).map Prod.snd).getD []).map CartItem.id

/-- A sale whose lines are all still in the cart. -/
def SellsWhatIsThere (t : Taken (Checkouts Hash) CheckoutLabel) : Prop :=
  ∀ sale ∈ saleOf t.pre t.label, ∀ i ∈ sale.2, ∃ i' ∈ t.pre.cartItems sale.1, i'.id = i.id

omit [DecidableEq Hash] in
instance (t : Taken (Checkouts Hash) CheckoutLabel) : Decidable (SellsWhatIsThere t) :=
  inferInstanceAs (Decidable (∀ sale ∈ saleOf t.pre t.label, _))

/-- A line is in one cart, and in none once it was sold. -/
structure LinesOnce (tr : List (Taken (Checkouts Hash) CheckoutLabel)) (s : Checkouts Hash) : Prop where
  known : ∀ owner, ∀ i ∈ s.cartItems owner, i.id < s.next
  oneCart : ∀ owner owner', ∀ i ∈ s.cartItems owner, ∀ i' ∈ s.cartItems owner', i.id = i'.id → owner = owner'
  gone : ∀ t ∈ tr, ∀ id ∈ linesSold t, id < s.next ∧ ∀ owner, ∀ i ∈ s.cartItems owner, i.id ≠ id

/-- The lines after a step: those before it, and at most one new one. -/
def LinesFrom (s s' : Checkouts Hash) : Prop :=
  s.next ≤ s'.next ∧ ∃ owner₀, ∀ owner, ∀ i' ∈ s'.cartItems owner,
    (∃ i ∈ s.cartItems owner, i.id = i'.id) ∨ (i'.id = s.next ∧ s.next < s'.next ∧ owner = owner₀)

omit [DecidableEq Hash] in
theorem CartsShrink.linesFrom (h : CartsShrink s s') (hnext : s.next ≤ s'.next) : LinesFrom s s' :=
  ⟨hnext, .user 0, fun owner i' hi' => .inl (h owner i' hi')⟩

omit [DecidableEq Hash] in
theorem addLine_linesFrom {owner : CartOwner} {line : CartLine} (h : s.addLine owner line = some s') :
    LinesFrom s s' := by
  have hnext := (addLine_eq h).2.2
  refine ⟨by omega, owner, fun owner' i' hi' => ?_⟩
  simp only [Checkouts.addLine, Option.dite_none_right_eq_some, Option.ite_none_right_eq_some] at h
  obtain ⟨hvariant, _, h⟩ := h
  cases hcart : s.carts.get? owner with
  | some cart =>
    rw [hcart] at h
    cases h
    rw [cartItems_editCart] at hi'
    by_cases hc : owner' = owner ∧ s.carts.get? owner ≠ none
    · rw [if_pos hc, List.mem_append, List.mem_singleton] at hi'
      rcases hi' with hi' | rfl
      · rw [hc.1]; exact .inl ⟨i', hi', rfl⟩
      · exact .inr ⟨rfl, by omega, hc.1⟩
    · rw [if_neg hc] at hi'
      exact .inl ⟨i', hi', rfl⟩
  | none =>
    rw [hcart] at h
    obtain ⟨carts, hins, h⟩ := Option.map_eq_some_iff.mp h
    cases h
    rw [Checkouts.cartItems, Table.get?_insert? hins] at hi'
    rcases eq_or_ne owner' owner with rfl | hne
    · rw [if_pos (show (Keyed.key (⟨owner', [⟨s.next, line, hvariant⟩]⟩ : Cart) : CartOwner) = owner' from rfl)] at hi'
      obtain rfl := List.mem_singleton.mp hi'
      exact .inr ⟨rfl, by omega, rfl⟩
    · rw [if_neg (show ¬(Keyed.key (⟨owner, [⟨s.next, line, hvariant⟩]⟩ : Cart) : CartOwner) = owner' from
        fun heq => hne heq.symm)] at hi'
      exact .inl ⟨i', hi', rfl⟩

omit [DecidableEq Hash] in
theorem clear_shrinks (s : Checkouts Hash) (owner : CartOwner) (items : List CartItem) :
    CartsShrink s (s.clearLines owner items) :=
  editCart_shrinks (filter_ids _)

omit [DecidableEq Hash] in
theorem CheckoutChange.linesFrom {out : Option (CheckoutCall × Answer)} (h : CheckoutChange sha256 s l s' out) :
    LinesFrom s s' := by
  have hsame (s' : Checkouts Hash) (hcarts : s'.carts = s.carts) (hnext : s.next ≤ s'.next) : LinesFrom s s' :=
    CartsShrink.linesFrom (fun owner i' hi' => ⟨i', by rwa [Checkouts.cartItems, hcarts] at hi', rfl⟩) hnext
  cases h with
  | begin => exact hsame _ rfl (Nat.le_succ _)
  | advance => exact hsame _ rfl (Nat.le_refl _)
  | tell => exact hsame _ rfl (Nat.le_refl _)
  | reprice _ _ hprices =>
    obtain ⟨f, hf, rfl⟩ := refreshPrices_eq hprices
    refine CartsShrink.linesFrom (editCart_shrinks (map_ids hf)) ?_
    simp [Checkouts.finish]
  | @sold o items _ db records _ _ _ _ =>
    refine CartsShrink.linesFrom (clear_shrinks { s with db := db, records := records, next := s.next + 1 } _ items) ?_
    simp [Checkouts.finish, Checkouts.clearLines]
  | drop => exact hsame _ rfl (Nat.le_refl _)
  | add hadd => exact addLine_linesFrom hadd
  | edit _ hf => exact CartsShrink.linesFrom (editCart_shrinks hf) (by simp)
  | store => exact hsame _ rfl (Nat.le_refl _)

/-- The lines of a sale are in no cart afterwards. -/
theorem sold_gone (hinv : LinesOnce tr s) (hstep : checkoutStep sha256 s l = some s')
    (hthere : SellsWhatIsThere ⟨s, l, s'⟩) : ∀ id ∈ linesSold ⟨s, l, s'⟩,
      (∃ owner, ∃ i ∈ s.cartItems owner, i.id = id) ∧ ∀ owner, ∀ i ∈ s'.cartItems owner, i.id ≠ id := by
  intro id hid
  obtain ⟨_, _, hchange⟩ := checkoutStep_cases hstep
  rw [linesSold] at hid
  by_cases hsame : s'.records.rows = s.records.rows
  · rw [if_pos hsame] at hid; cases hid
  rw [if_neg hsame] at hid
  obtain ⟨i, hi, rfl⟩ := List.mem_map.mp hid
  cases hchange with
  | @sold o items terms db records ho hread hnone hins =>
    have hsale : saleOf s (.sell o.id terms) = some (o.call.caller.owner, items) := by
      simp only [saleOf, ho, Option.bind_some, hread]
    rw [hsale] at hi
    obtain ⟨i', hi', hid'⟩ := hthere _ hsale i hi
    refine ⟨⟨_, i', hi', hid'⟩, fun owner x hx => ?_⟩
    -- a line with this id is in the cart of the owner only, and was taken out of it
    have hx : x ∈ (({ s with db := db, records := records, next := s.next + 1 } : Checkouts Hash).clearLines
      o.call.caller.owner items).cartItems owner := hx
    rw [Checkouts.clearLines, cartItems_editCart] at hx
    by_cases hc : owner = o.call.caller.owner ∧ s.carts.get? o.call.caller.owner ≠ none
    · rw [if_pos hc] at hx
      have hout := (List.mem_filter.mp hx).2
      rintro heq
      simp only [decide_not, Bool.not_eq_true', decide_eq_false_iff_not] at hout
      exact hout (heq ▸ List.mem_map_of_mem hi)
    · rw [if_neg hc] at hx
      rintro heq
      have howner := hinv.oneCart owner o.call.caller.owner x hx i' hi' (heq.trans hid'.symm)
      have hcart : s.carts.get? o.call.caller.owner = none := by
        by_contra hne; exact hc ⟨howner, hne⟩
      rw [Checkouts.cartItems, hcart] at hi'
      cases hi'
  | reprice _ _ hprices =>
    obtain ⟨f, _, rfl⟩ := refreshPrices_eq hprices
    exact absurd (by simp [Checkouts.finish]) hsame
  | add hadd => exact absurd (congrArg Table.rows (addLine_eq hadd).2.1) hsame
  | edit => exact absurd (congrArg Table.rows (editCart_records _ _ _)) hsame
  | begin => exact absurd rfl hsame
  | advance => exact absurd rfl hsame
  | tell => exact absurd rfl hsame
  | drop => exact absurd rfl hsame
  | store => exact absurd rfl hsame

theorem LinesOnce.step (hinv : LinesOnce tr s) (hstep : checkoutStep sha256 s l = some s')
    (hthere : SellsWhatIsThere ⟨s, l, s'⟩) : LinesOnce (⟨s, l, s'⟩ :: tr) s' := by
  obtain ⟨_, _, hchange⟩ := checkoutStep_cases hstep
  obtain ⟨hnext, owner₀, hfrom⟩ := hchange.linesFrom
  have hold {id : Id} (h : ∃ owner, ∃ i ∈ s.cartItems owner, i.id = id) : id < s.next := by
    obtain ⟨owner, i, hi, rfl⟩ := h
    exact hinv.known owner i hi
  refine ⟨?_, ?_, ?_⟩
  · intro owner i' hi'
    rcases hfrom owner i' hi' with ⟨i, hi, heq⟩ | ⟨heq, hlt, _⟩
    · rw [← heq]; exact (hinv.known owner i hi).trans_le hnext
    · rw [heq]; exact hlt
  · intro owner owner' i hi i' hi' heq
    rcases hfrom owner i hi with ⟨x, hx, hxi⟩ | ⟨hnew, _, rfl⟩ <;>
      rcases hfrom owner' i' hi' with ⟨x', hx', hxi'⟩ | ⟨hnew', _, rfl⟩
    · exact hinv.oneCart owner owner' x hx x' hx' ((hxi.trans heq).trans hxi'.symm)
    · exact absurd ((hxi.trans heq).trans hnew') (hinv.known owner x hx).ne
    · exact absurd ((hxi'.trans heq.symm).trans hnew) (hinv.known owner' x' hx').ne
    · rfl
  · intro t ht id hid
    rcases List.mem_cons.mp ht with rfl | ht
    · obtain ⟨hwas, hgone⟩ := sold_gone hinv hstep hthere id hid
      exact ⟨(hold hwas).trans_le hnext, hgone⟩
    · obtain ⟨hlt, hgone⟩ := hinv.gone t ht id hid
      refine ⟨hlt.trans_le hnext, fun owner i' hi' => ?_⟩
      rcases hfrom owner i' hi' with ⟨i, hi, heq⟩ | ⟨heq, _, _⟩
      · rw [← heq]; exact hgone owner i hi
      · rw [heq]; exact hlt.ne'

theorem CheckoutRun.linesOnce (h₀ : s₀.Initial) (run : CheckoutRun sha256 s₀ tr s)
    (hthere : ∀ t ∈ tr, SellsWhatIsThere t) : LinesOnce tr s := by
  induction run with
  | nil => exact ⟨h₀.lines, h₀.oneCart, fun t ht => absurd ht List.not_mem_nil⟩
  | cons run hstep ih =>
    exact (ih fun t ht => hthere t (List.mem_cons_of_mem _ ht)).step hstep (hthere _ (List.mem_cons_self ..))

/-- As long as no checkout sells a line that has left the cart since it read it, every line is sold at most once. -/
theorem line_sold_once (h₀ : s₀.Initial) (run : CheckoutRun sha256 s₀ tr s) (hthere : ∀ t ∈ tr, SellsWhatIsThere t) :
    tr.Pairwise fun later earlier => ∀ id ∈ linesSold earlier, id ∉ linesSold later := by
  induction run with
  | nil => exact .nil
  | cons run hstep ih =>
    have hthere' := fun t ht => hthere t (List.mem_cons_of_mem _ ht)
    have hinv := CheckoutRun.linesOnce h₀ run hthere'
    refine .cons (fun t ht id hid hsold => ?_) (ih hthere')
    obtain ⟨⟨owner, i, hi, heq⟩, _⟩ := sold_gone hinv hstep (hthere _ (List.mem_cons_self ..)) id hsold
    exact (hinv.gone t ht id hid).2 owner i hi heq

end

theorem repeated_checkout_sells_once : ∃ tr s, CheckoutRun id smallCheckouts tr s ∧ (∃ t ∈ tr, 1 ∈ linesSold t) ∧
    tr.Pairwise fun later earlier => ∀ id ∈ linesSold earlier, id ∉ linesSold later := by
  obtain ⟨tr, s, run, hsold, hthere⟩ := exists_exec (checkoutStep id) smallCheckouts
    (P := fun tr _ => (∃ t ∈ tr, 1 ∈ linesSold t) ∧ ∀ t ∈ tr, SellsWhatIsThere t) repeatedCheckout (by decide)
  exact ⟨tr, s, run, hsold, line_sold_once smallCheckouts_initial run hthere⟩

/-- The cart is read before the products are locked, and deleting a line that is gone is no error: two checkouts with
    different keys that have both read the cart both sell it. -/
theorem line_sold_twice : smallCheckouts.Initial ∧ ∃ tr s, CheckoutRun id smallCheckouts tr s ∧
    ¬tr.Pairwise fun later earlier => ∀ id ∈ linesSold earlier, id ∉ linesSold later :=
  ⟨smallCheckouts_initial, exists_exec (checkoutStep id) smallCheckouts
    (P := fun tr _ => ¬tr.Pairwise fun later earlier => ∀ id ∈ linesSold earlier, id ∉ linesSold later) doubleClick
    (by decide)⟩

end NovaCart
